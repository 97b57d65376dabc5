import KeyBench.Key

/-!
# Events

An event is a key going down or up. Events are ordered by the slot of the key, and of one key the
release comes before the press.
-/

namespace KeyBench

/-- Which way a key goes. -/
inductive Direction where
  | release
  | press
  deriving DecidableEq, Repr

namespace Direction

/-- The direction in a frame: 1 for a press, 0 for a release. -/
def flag : Direction → UInt8
  | .release => 0
  | .press => 1

/-- The direction of a flag. -/
def ofFlag? (b : UInt8) : Option Direction :=
  if b = 0 then some .release else if b = 1 then some .press else none

/-- The direction in the notation. -/
def display : Direction → String
  | .release => "up"
  | .press => "down"

/-- A flag reads back as the direction it was written for, and no other byte is a flag. -/
theorem ofFlag?_eq_some_iff {b : UInt8} {d : Direction} : ofFlag? b = some d ↔ b = d.flag := by
  unfold ofFlag?
  cases d <;> split <;> rename_i h <;> simp_all [flag]

end Direction

/-- A key going down or up. -/
structure Event where
  key : Key
  direction : Direction
  deriving DecidableEq, Repr

namespace Event

/-- The key goes down. -/
def press (k : Key) : Event := ⟨k, .press⟩

/-- The key goes up. -/
def release (k : Key) : Event := ⟨k, .release⟩

/-- Whether the key goes down. -/
def isPress (e : Event) : Bool := e.direction == .press

/-- The event in the notation: `a down`. -/
def display (e : Event) : String := e.key.name ++ " " ++ e.direction.display

/-- Events in brackets: `[a down, b up]`. -/
def displayList (es : List Event) : String := "[" ++ ", ".intercalate (es.map display) ++ "]"

/-! ## Order -/

/-- The place of an event in the order: by slot, then up before down. -/
def rank (e : Event) : Nat := 2 * e.key.slot.toNat + e.direction.flag.toNat

/-- How two events are ordered. -/
def order (e f : Event) : Ordering := compare e.rank f.rank

/-- The events in rising order. -/
def sort (es : List Event) : List Event := es.mergeSort fun e f => e.rank ≤ f.rank

end Event

end KeyBench
