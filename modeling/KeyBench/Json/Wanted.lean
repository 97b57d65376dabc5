import KeyBench.Json.Number
import KeyBench.Json.Text

/-!
# Values of a wanted sort

Readers for values whose sort is known beforehand: a string, a natural number of 64 bits, a
natural number or `null`. A value of another sort is blamed only after it has been read as far as
its kind needs, so a fault in its form comes first.
-/

namespace KeyBench.Json

/-- What is wrong with a value that starts here, when something else is wanted. A scalar is read
to its end before it is blamed. -/
def mismatch (wanted : String) : List Char → Error
  | [] => .endInValue
  | c :: s =>
    let blame (found : Found) : Except Error (List Char) → Error
      | .error e => e
      | .ok _ => .wrongType found wanted
    let blameNumber : Except Error (Number × List Char) → Error
      | .error e => e
      | .ok (n, _) => .wrongType n.found wanted
    if c = 'n' then blame .null (readWord ['u', 'l', 'l'] s)
    else if c = 't' then blame (.boolean true) (readWord ['r', 'u', 'e'] s)
    else if c = 'f' then blame (.boolean false) (readWord ['a', 'l', 's', 'e'] s)
    else if c = '-' then blameNumber (readNumber true s)
    else if c.isDigit then blameNumber (readNumber false (c :: s))
    else if c = '"' then
      match readString s with
      | .error e => e
      | .ok (cs, _) => .wrongType (.string (String.ofList cs)) wanted
    else if c = '[' then .wrongType .list wanted
    else if c = '\x7b' then .wrongType .object wanted
    else .expectedValue

/-- Reads a number that is wanted to be a natural one. -/
def asNatural (wanted : String) : Except Error (Number × List Char) → Except Error (Nat × List Char)
  | .error e => .error e
  | .ok (.natural n, rest) => .ok (n, rest)
  | .ok (.negative n, _) => .error (.wrongValue (Number.negative n).found wanted)
  | .ok (.float x, _) => .error (.wrongType (.float x) wanted)

/-- Reads a natural number of 64 bits. -/
def readNatural (wanted : String) (s : List Char) : Except Error (Nat × List Char) :=
  match skipSpace s with
  | [] => .error .endInValue
  | c :: rest =>
    if c = '-' then asNatural wanted (readNumber true rest)
    else if c.isDigit then asNatural wanted (readNumber false (c :: rest))
    else .error (mismatch wanted (c :: rest))

/-- Reads a string value. -/
def readText (wanted : String) (s : List Char) : Except Error (String × List Char) :=
  match skipSpace s with
  | [] => .error .endInValue
  | c :: rest =>
    if c = '"' then
      match readString rest with
      | .error e => .error e
      | .ok (cs, after) => .ok (String.ofList cs, after)
    else .error (mismatch wanted (c :: rest))

/-- Does something with the value that a reader returns. -/
def onValue {α β : Type} (f : α → β) : Except Error (α × List Char) → Except Error (β × List Char)
  | .error e => .error e
  | .ok (a, rest) => .ok (f a, rest)

/-- Reads a natural number of 64 bits, or that there is none. -/
def readOptional (wanted : String) (s : List Char) : Except Error (Option Nat × List Char) :=
  match skipSpace s with
  | 'n' :: rest =>
    match readWord ['u', 'l', 'l'] rest with
    | .error e => .error e
    | .ok after => .ok (none, after)
  | t => onValue some (readNatural wanted t)

/-! ## What is consumed -/

theorem eq_ok_of_onValue {α β : Type} {f : α → β} {r : Except Error (α × List Char)} {b : β}
    {rest : List Char} (h : onValue f r = .ok (b, rest)) : ∃ a, r = .ok (a, rest) ∧ f a = b := by
  unfold onValue at h
  split at h <;> cases h
  exact ⟨_, rfl, rfl⟩

theorem eq_ok_of_asNatural {wanted : String} {r : Except Error (Number × List Char)}
    {n : Nat} {rest : List Char} (h : asNatural wanted r = .ok (n, rest)) :
    r = .ok (.natural n, rest) := by
  unfold asNatural at h
  split at h <;> cases h
  rfl

theorem length_of_readNatural {wanted : String} {s rest : List Char} {n : Nat}
    (h : readNatural wanted s = .ok (n, rest)) : rest.length < s.length := by
  have hs := length_skipSpace_le s
  unfold readNatural at h
  split at h
  · cases h
  · next heq =>
    rw [heq, List.length_cons] at hs
    split at h
    · have := length_of_readNumber (eq_ok_of_asNatural h); omega
    split at h
    · have := length_of_readNumber (eq_ok_of_asNatural h)
      rw [List.length_cons] at this
      omega
    · cases h

theorem length_of_readText {wanted : String} {s rest : List Char} {t : String}
    (h : readText wanted s = .ok (t, rest)) : rest.length < s.length := by
  have hs := length_skipSpace_le s
  unfold readText at h
  split at h
  · cases h
  · next heq =>
    rw [heq, List.length_cons] at hs
    split at h
    · split at h
      · cases h
      · next hr => cases h; have := length_of_readString hr; omega
    · cases h

theorem length_of_readOptional {wanted : String} {s rest : List Char} {n : Option Nat}
    (h : readOptional wanted s = .ok (n, rest)) : rest.length < s.length := by
  have hs := length_skipSpace_le s
  unfold readOptional at h
  split at h
  · next heq =>
    rw [heq, List.length_cons] at hs
    split at h
    · cases h
    · next hw => cases h; have := length_of_readWord hw; omega
  · obtain ⟨_, hn, _⟩ := eq_ok_of_onValue h
    have := length_of_readNatural hn
    omega

end KeyBench.Json
