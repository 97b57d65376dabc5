import KeyBench.Json.Text
import KeyBench.Settings

/-!
# Writing settings

Settings are written as a JSON object of all fields, in their order and without blanks.
-/

namespace KeyBench.Settings

/-- The value of a field as it is written. -/
def Field.write (settings : Settings) : Field → List Char
  | .device => Json.writeString settings.device
  | .settleMs => Nat.toDigits 10 settings.settleMs.toNat
  | .holdMs => Nat.toDigits 10 settings.holdMs.toNat
  | .queueCapacity => Nat.toDigits 10 settings.queueCapacity.toNat
  | .caseCount => Nat.toDigits 10 settings.caseCount.toNat
  | .seed =>
    match settings.seed? with
    | none => ['n', 'u', 'l', 'l']
    | some n => Nat.toDigits 10 n.toNat

/-- A field with its key. -/
def Field.writeMember (settings : Settings) (f : Field) : List Char :=
  ['"'] ++ f.name.toList ++ ['"', ':'] ++ f.write settings

/-- The settings as they are written. -/
def toJson (settings : Settings) : String :=
  String.ofList
    (['\x7b'] ++ [','].intercalate (Field.all.map (Field.writeMember settings)) ++ ['\x7d'])

end KeyBench.Settings
