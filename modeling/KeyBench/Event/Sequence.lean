import KeyBench.Event

/-!
# Playable sequences

A sequence can be played on a keyboard if no key goes down while it is down or up while it is up,
and every key is up at the end.
-/

namespace KeyBench

/-- Why a sequence cannot be played. -/
inductive PlayError where
  | pressedTwice (key : Key) (index : Nat)
  | releasedUnpressed (key : Key) (index : Nat)
  | leftPressed (key : Key)
  deriving DecidableEq, Repr

/-- The error as it is reported. -/
def PlayError.message : PlayError → String
  | .pressedTwice key index =>
    key.name ++ " pressed at index " ++ toString index ++ " while already held"
  | .releasedUnpressed key index =>
    key.name ++ " released at index " ++ toString index ++ " while not held"
  | .leftPressed key => key.name ++ " is never released"

namespace Event

/-- Plays events from position `index` on, with the keys of `held` down. At the end the held key
with the lowest slot is blamed. -/
def checkFrom (held : List Key) (index : Nat) : List Event → Except PlayError Unit
  | [] =>
    match Key.all.find? fun k => held.contains k with
    | some k => .error (.leftPressed k)
    | none => .ok ()
  | ⟨k, .press⟩ :: es =>
    if k ∈ held then .error (.pressedTwice k index) else checkFrom (k :: held) (index + 1) es
  | ⟨k, .release⟩ :: es =>
    if k ∈ held then checkFrom (held.erase k) (index + 1) es
    else .error (.releasedUnpressed k index)

/-- Succeeds if the events can be played, and else reports the first fault. -/
def checkSequence (es : List Event) : Except PlayError Unit := checkFrom [] 0 es

end Event

end KeyBench
