import KeyBench.Decimal.Shortest
import KeyBench.Text.Quoted

/-!
# Errors of reading JSON

A text is refused because its form is wrong, because it ends too early, or because its form is
right and it holds other data than are wanted.
-/

namespace KeyBench.Json

/-- A value that was found in a text, as far as an error tells it. -/
inductive Found where
  | null
  | boolean (value : Bool)
  | integer (value : Int)
  | float (value : Float)
  | string (value : String)
  | list
  | object

/-- The value as an error tells it. -/
def Found.describe : Found → String
  | .null => "null"
  | .boolean value => "boolean `" ++ (if value then "true" else "false") ++ "`"
  | .integer value => "integer `" ++ toString value ++ "`"
  | .float value => "floating point `" ++ Decimal.ofFloat value ++ "`"
  | .string value => "string " ++ Text.quote value
  | .list => "sequence"
  | .object => "map"

/-- The sorts of errors. -/
inductive Category where
  | form
  | ending
  | data
  deriving DecidableEq, Repr

/-- Why a text was refused. -/
inductive Error where
  | expectedValue
  | expectedWord
  | expectedColon
  | expectedCommaInObject
  | expectedCommaInList
  | keyNotString
  | trailingComma
  | trailingCharacters
  | invalidNumber
  | numberOutOfRange
  | invalidEscape
  | loneSurrogate
  | unfinishedSurrogate
  | controlCharacter
  | endInValue
  | endInString
  | endInObject
  | endInList
  | wrongType (found : Found) (wanted : String)
  | wrongValue (found : Found) (wanted : String)
  | duplicateField (name : String)

namespace Error

/-- The sort of an error. -/
def category : Error → Category
  | .endInValue | .endInString | .endInObject | .endInList => .ending
  | .wrongType _ _ | .wrongValue _ _ | .duplicateField _ => .data
  | _ => .form

/-- The error as it is reported. -/
def message : Error → String
  | .expectedValue => "expected value"
  | .expectedWord => "expected ident"
  | .expectedColon => "expected `:`"
  | .expectedCommaInObject => "expected `,` or `\x7d`"
  | .expectedCommaInList => "expected `,` or `]`"
  | .keyNotString => "key must be a string"
  | .trailingComma => "trailing comma"
  | .trailingCharacters => "trailing characters"
  | .invalidNumber => "invalid number"
  | .numberOutOfRange => "number out of range"
  | .invalidEscape => "invalid escape"
  | .loneSurrogate => "lone leading surrogate in hex escape"
  | .unfinishedSurrogate => "unexpected end of hex escape"
  | .controlCharacter => "control character (\\u0000-\\u001F) found while parsing a string"
  | .endInValue => "EOF while parsing a value"
  | .endInString => "EOF while parsing a string"
  | .endInObject => "EOF while parsing an object"
  | .endInList => "EOF while parsing a list"
  | .wrongType found wanted => "invalid type: " ++ found.describe ++ ", expected " ++ wanted
  | .wrongValue found wanted => "invalid value: " ++ found.describe ++ ", expected " ++ wanted
  | .duplicateField name => "duplicate field `" ++ name ++ "`"

end Error

/-! ## Blanks and words -/

/-- Whether a character may stand between the parts of a text. -/
def isSpace (c : Char) : Bool := c == ' ' || c == '\n' || c == '\t' || c == '\r'

/-- The text without its leading blanks. -/
def skipSpace (s : List Char) : List Char := s.dropWhile isSpace

theorem length_skipSpace_le (s : List Char) : (skipSpace s).length ≤ s.length :=
  (List.dropWhile_sublist isSpace).length_le

/-- Reads the rest of a word. -/
def readWord : (word : List Char) → List Char → Except Error (List Char)
  | [], s => .ok s
  | _ :: _, [] => .error .endInValue
  | w :: word, c :: s => if c = w then readWord word s else .error .expectedWord

theorem length_of_readWord {word s rest : List Char} (h : readWord word s = .ok rest) :
    rest.length ≤ s.length := by
  fun_induction readWord word s with
  | case1 => cases h; exact Nat.le_refl _
  | case2 => cases h
  | case3 _ _ _ ih => exact Nat.le_succ_of_le (ih h)
  | case4 => cases h

/-- Reads the colon between a key and its value. -/
def readColon (s : List Char) : Except Error (List Char) :=
  match skipSpace s with
  | [] => .error .endInObject
  | ':' :: rest => .ok rest
  | _ => .error .expectedColon

theorem length_of_readColon {s rest : List Char} (h : readColon s = .ok rest) :
    rest.length < s.length := by
  have hs := length_skipSpace_le s
  unfold readColon at h
  split at h
  · cases h
  · next r heq =>
    cases h
    rw [heq] at hs
    exact hs
  · cases h

end KeyBench.Json
