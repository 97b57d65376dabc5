import KeyBench.ObservationQueue.Lines
import KeyBench.Command.Session
import KeyBench.Files

/-!
# Rehearsals

A rehearsal is a session in a world that is a value: it has files and, at the paths of devices, a
device that answers every frame with lines of a key logger. The lines arrive as soon as the bench
waits, and are heard while the queue has room.
-/

namespace KeyBench.Command

/-- The world of a rehearsal. -/
structure Stage where
  files : Files
  queue : ObservationQueue
  /-- What has been opened for writing. Frames that do not go to the device are lost. -/
  opened : Node
  /-- The lines with which the device answers the frames to come. -/
  answers : List (List (List Char))
  /-- The lines that the device has told and that will arrive when the bench waits. -/
  arriving : List (List Char)
  /-- The lines that have arrived and have not been heard yet. -/
  blocked : List (List Char)
  /-- The frames that the device has received. -/
  received : List (List UInt8)
  /-- The seed that is drawn. -/
  seed : UInt64

namespace Stage

/-- A stage on which nothing has happened. -/
def ofFiles (files : Files) (answers : List (List (List Char))) : Stage :=
  ⟨files, ObservationQueue.ofCapacity 0, .directory, answers, [], [], [], 0⟩

/-- Hears lines as long as there is room in the queue. -/
def unblock (s : Stage) : Stage :=
  let (hearing, queue) := s.queue.hearAll s.blocked
  { s with blocked := hearing.left, queue }

/-- The host of a rehearsal. -/
def host : Host (StateM Stage) where
  discard := fun s => ((), { s with queue := s.queue.discardAll.2 }.unblock)
  write := fun bytes s =>
    match s.opened with
    | .device =>
      (.ok (), { s with
        received := s.received ++ [bytes]
        arriving := s.arriving ++ s.answers.headD []
        answers := s.answers.tail })
    | .fullDevice => (.error (.io .noSpace), s)
    | _ => (.ok (), s)
  wait := fun _ s => ((), { s with blocked := s.blocked ++ s.arriving, arriving := [] }.unblock)
  collect := fun s => (s.queue.takeAll.1, { s with queue := s.queue.takeAll.2 }.unblock)

/-- The world of a rehearsal. -/
def world : World (StateM Stage) where
  readFile := fun path s => (s.files.read path, s)
  drawSeed := fun s => (s.seed, s)
  connect := fun path capacity s =>
    match s.files.openToWrite path with
    | .error e => (.error e, s)
    | .ok opened => (.ok host, { s with opened, queue := ObservationQueue.ofCapacity capacity })

end Stage

/-- Rehearses a session. -/
def rehearse (s : Stage) (o : Options) : Outcome × Stage :=
  let (result, s') := runSession Stage.world o s
  (Outcome.of result, s')

end KeyBench.Command
