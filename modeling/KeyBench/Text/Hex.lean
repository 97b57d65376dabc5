/-!
# Hexadecimal

Bytes as two upper-case digits, alone and in a bracketed list, and numbers in lower case without
leading zeros.
-/

namespace KeyBench.Text

/-- The digit of a value below 16, in upper case. -/
def hexDigit (d : Nat) : Char :=
  if d < 10 then Char.ofNat (0x30 + d) else Char.ofNat (0x41 + d - 10)

/-- A byte as two upper-case digits. -/
def hexByte (b : UInt8) : String :=
  String.ofList [hexDigit (b.toNat / 16), hexDigit (b.toNat % 16)]

/-- A byte as it is written in a message: `0x2A`. -/
def hexCode (b : UInt8) : String := "0x" ++ hexByte b

/-- Bytes as they are written in a message: `[5B, 7D, 0F]`. -/
def hexList (bs : List UInt8) : String := "[" ++ ", ".intercalate (bs.map hexByte) ++ "]"

/-- A number in lower case, without leading zeros. -/
def hexNumber (n : Nat) : List Char := Nat.toDigits 16 n

end KeyBench.Text
