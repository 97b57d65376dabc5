import KeyBench.Event.Notation
import KeyBench.ObservationQueue

/-!
# Sightings in lines

A key logger tells sightings in lines: the host's name for a key, which may have several words, a
blank, and a direction. Lines of any other form are passed over. The sightings go to the queue, each
as soon as there is room.
-/

namespace KeyBench

/-- The sighting that a line tells. The last blank separates the name from the direction, because
a name may hold blanks and a direction holds none. -/
def Sighting.ofLine? (line : List Char) : Option Sighting :=
  match Text.atLastBlank? (Text.trim line) with
  | none => none
  | some (name, word) =>
    match Direction.ofWord? word with
    | none => none
    | some direction => some ⟨String.ofList (Text.trim name), direction⟩

namespace ObservationQueue

/-- Hears a line. A sighting that it tells is offered once there is room or no receiver; nothing
happens before that. -/
def hear? (q : ObservationQueue) (line : List Char) :
    Option (Except HostError Unit × ObservationQueue) :=
  match Sighting.ofLine? line with
  | none => some (.ok (), q)
  | some s => q.offerPatiently? s

/-- Where hearing lines has come to. -/
inductive Hearing where
  /-- The lines are at their end. -/
  | inputClosed
  /-- The queue has refused a sighting. -/
  | refused (cause : HostError)
  /-- These lines are left. The first one tells a sighting that waits for room. -/
  | waits (lines : List (List Char))
  deriving DecidableEq, Repr

/-- The lines that will be heard once there is room. -/
def Hearing.left : Hearing → List (List Char)
  | .inputClosed => []
  | .refused _ => []
  | .waits lines => lines

/-- Hears lines as long as the queue takes the sightings that they tell. -/
def hearAll (q : ObservationQueue) : List (List Char) → Hearing × ObservationQueue
  | [] => (.inputClosed, q)
  | line :: lines =>
    match q.hear? line with
    | none => (.waits (line :: lines), q)
    | some (.error cause, q') => (.refused cause, q')
    | some (.ok (), q') => q'.hearAll lines

/-- Hears the lines of an input. -/
def hearInput (q : ObservationQueue) (input : List Char) : Hearing × ObservationQueue :=
  q.hearAll (Text.lines input)

end ObservationQueue

end KeyBench
