import KeyBench.Json.Number
import KeyBench.Json.Text

/-!
# Skipping values

A value that nobody wants is only checked for its form, and it may be nested as deeply as it
likes: the lists and objects that are still open are kept in a list of their own. `beginValue`
reads a scalar or an opening bracket, `toNextValue` whatever stands between there and the next
value, and `skipValue` repeats the two until nothing is open.

## Termination

`beginValue` consumes something (`length_of_beginValue`) and `toNextValue` gives nothing back
(`length_of_toNextValue`).
-/

namespace KeyBench.Json

/-- A list or an object that is still open. -/
inductive Bracket where
  | list
  | object
  deriving DecidableEq, Repr

namespace Bracket

/-- The character that closes it. -/
def closing : Bracket → Char
  | .list => ']'
  | .object => '\x7d'

/-- The error if the text ends inside of it. -/
def ending : Bracket → Error
  | .list => .endInList
  | .object => .endInObject

/-- The error if a member is followed by something else than a comma or the end. -/
def expectedComma : Bracket → Error
  | .list => .expectedCommaInList
  | .object => .expectedCommaInObject

end Bracket

/-! ## Parts of a value -/

/-- Checks a value that is neither a list nor an object. -/
def skipScalar : List Char → Except Error (List Char)
  | [] => .error .endInValue
  | c :: s =>
    if c = 'n' then readWord ['u', 'l', 'l'] s
    else if c = 't' then readWord ['r', 'u', 'e'] s
    else if c = 'f' then readWord ['a', 'l', 's', 'e'] s
    else if c = '"' then skipString s
    else if c = '-' then skipNumeral s
    else if c.isDigit then skipNumeral (c :: s)
    else .error .expectedValue

theorem length_of_skipScalar {s rest : List Char} (h : skipScalar s = .ok rest) :
    rest.length < s.length := by
  unfold skipScalar at h
  split at h
  · cases h
  · next c s =>
    simp only [List.length_cons]
    split at h
    · exact Nat.lt_succ_of_le (length_of_readWord h)
    split at h
    · exact Nat.lt_succ_of_le (length_of_readWord h)
    split at h
    · exact Nat.lt_succ_of_le (length_of_readWord h)
    split at h
    · exact Nat.lt_succ_of_lt (length_of_skipString h)
    split at h
    · exact Nat.lt_succ_of_lt (length_of_skipNumeral h)
    split at h
    · simpa using length_of_skipNumeral h
    · cases h

/-- Checks the key of a member and the colon after it, in an object whose value nobody wants. -/
def skipKey (s : List Char) : Except Error (List Char) :=
  match skipSpace s with
  | [] => .error .endInObject
  | c :: rest =>
    if c = '"' then
      match skipString rest with
      | .error e => .error e
      | .ok after => readColon after
    else .error .keyNotString

theorem length_of_skipKey {s rest : List Char} (h : skipKey s = .ok rest) :
    rest.length < s.length := by
  have hs := length_skipSpace_le s
  unfold skipKey at h
  split at h
  · cases h
  · next heq =>
    rw [heq] at hs
    simp only [List.length_cons] at hs
    split at h
    · split at h
      · cases h
      · next hk =>
        have := length_of_skipString hk
        have := length_of_readColon h
        omega
    · cases h

/-! ## Whole values -/

/-- Begins a value: a scalar is read to its end, of a list or an object only the bracket is read.
Tells whether a value is complete now, what is open, and what follows. -/
def beginValue (opened : List Bracket) (s : List Char) :
    Except Error (Bool × List Bracket × List Char) :=
  match skipSpace s with
  | [] => .error .endInValue
  | c :: rest =>
    if c = '[' then .ok (false, .list :: opened, rest)
    else if c = '\x7b' then .ok (false, .object :: opened, rest)
    else
      match skipScalar (c :: rest) with
      | .error e => .error e
      | .ok after => .ok (true, opened, after)

theorem length_of_beginValue {opened opened' : List Bracket} {s rest : List Char} {complete : Bool}
    (h : beginValue opened s = .ok (complete, opened', rest)) : rest.length < s.length := by
  have hs := length_skipSpace_le s
  unfold beginValue at h
  split at h
  · cases h
  · next heq =>
    rw [heq] at hs
    split at h
    · cases h; exact hs
    split at h
    · cases h; exact hs
    split at h
    · cases h
    · next hk =>
      cases h
      have := length_of_skipScalar hk
      omega

/-- Goes to the value of the next member. -/
def toMember (b : Bracket) (outer : List Bracket) (s : List Char) :
    Except Error (List Bracket × List Char) :=
  match b with
  | .list => .ok (b :: outer, s)
  | .object =>
    match skipKey s with
    | .error e => .error e
    | .ok rest => .ok (b :: outer, rest)

theorem length_of_toMember {b : Bracket} {outer opened : List Bracket} {s rest : List Char}
    (h : toMember b outer s = .ok (opened, rest)) : rest.length ≤ s.length := by
  unfold toMember at h
  split at h
  · cases h; exact Nat.le_refl _
  · split at h
    · cases h
    · next hk => cases h; exact Nat.le_of_lt (length_of_skipKey hk)

/-- Closes what ends here and goes to the next value; nothing is open any more if there is none.
`complete` tells whether the innermost bracket has a member before this place. -/
def toNextValue (complete : Bool) : List Bracket → List Char →
    Except Error (List Bracket × List Char)
  | [], s => .ok ([], s)
  | b :: outer, s =>
    match skipSpace s with
    | [] => .error b.ending
    | c :: rest =>
      if c = ',' ∧ complete then toMember b outer rest
      else if c = b.closing then toNextValue true outer rest
      else if complete then .error b.expectedComma
      else toMember b outer (c :: rest)

theorem length_of_toNextValue {complete : Bool} {opened opened' : List Bracket}
    {s rest : List Char} (h : toNextValue complete opened s = .ok (opened', rest)) :
    rest.length ≤ s.length := by
  induction opened generalizing complete s with
  | nil => cases h; exact Nat.le_refl _
  | cons b outer ih =>
    have hs := length_skipSpace_le s
    unfold toNextValue at h
    split at h
    · cases h
    · next heq =>
      rw [heq, List.length_cons] at hs
      split at h
      · have := length_of_toMember h; omega
      split at h
      · have := ih h; omega
      split at h
      · cases h
      · have := length_of_toMember h
        simp only [List.length_cons] at this
        omega

/-- Skips a value and then all that is still open around it. -/
def skipValue (opened : List Bracket) (s : List Char) : Except Error (List Char) :=
  match hb : beginValue opened s with
  | .error e => .error e
  | .ok (complete, opened', rest) =>
    have := length_of_beginValue hb
    match hn : toNextValue complete opened' rest with
    | .error e => .error e
    | .ok ([], after) => .ok after
    | .ok (b :: outer, after) =>
      have := length_of_toNextValue hn
      skipValue (b :: outer) after
termination_by s.length
decreasing_by omega

theorem length_of_skipValue {opened : List Bracket} {s rest : List Char}
    (h : skipValue opened s = .ok rest) : rest.length < s.length := by
  fun_induction skipValue opened s with
  | case1 => cases h
  | case2 => cases h
  | case3 _ _ _ _ _ _ hlt _ hn =>
    cases h
    have := length_of_toNextValue hn
    omega
  | case4 _ _ _ _ _ _ hlt _ _ _ _ hle ih =>
    have := ih h
    omega

end KeyBench.Json
