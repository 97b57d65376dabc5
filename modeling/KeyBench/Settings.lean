/-!
# Settings

What the user can set. Every setting has a default.
-/

namespace KeyBench

/-- The settings of the bench. -/
structure Settings where
  /-- The path of the device node that leads to the key emulator. -/
  device : String
  /-- How long to wait after the last frame before the observations are looked at, in
  milliseconds. -/
  settleMs : UInt64
  /-- How long to wait between two frames of a scenario, in milliseconds. -/
  holdMs : UInt64
  /-- The capacity of the queue of observations. -/
  queueCapacity : UInt64
  /-- The number of random cases for each set of keys. -/
  caseCount : UInt64
  /-- The seed of the first random case; a random one is drawn if there is none. -/
  seed? : Option UInt64
  deriving DecidableEq, Repr

namespace Settings

/-- The settings where nothing is set. -/
def default : Settings := ⟨"/dev/ttyACM0", 1000, 210, 1024, 10, none⟩

/-- Milliseconds as whole seconds and the nanoseconds of the rest. -/
def duration (ms : UInt64) : Nat × Nat := (ms.toNat / 1000, ms.toNat % 1000 * 1000000)

/-! ## Fields -/

/-- The name of a setting in a file. -/
inductive Field where
  | device
  | settleMs
  | holdMs
  | queueCapacity
  | caseCount
  | seed
  deriving DecidableEq, Repr

namespace Field

/-- All fields, in the order in which they are written. -/
def all : List Field := [.device, .settleMs, .holdMs, .queueCapacity, .caseCount, .seed]

/-- The key of a field. -/
def name : Field → String
  | .device => "port"
  | .settleMs => "settle_ms"
  | .holdMs => "hold_ms"
  | .queueCapacity => "capture_capacity"
  | .caseCount => "repeat"
  | .seed => "seed"

/-- The field with a key. -/
def ofName? (text : List Char) : Option Field := all.find? fun f => f.name.toList == text

theorem mem_all (f : Field) : f ∈ all := by cases f <;> decide

end Field

end Settings

end KeyBench
