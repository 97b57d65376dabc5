import KeyBench.Json.Error

/-!
# Strings in JSON

A string stands in double quotes. A backslash starts an escape: a letter, or `u` and four
hexadecimal digits, where a leading and a trailing surrogate together stand for one character. A
reader gets the text after the opening quote and returns the string and what follows the closing
one.

A string that nobody wants is only checked for its form: there any four hexadecimal digits will do.

## What is consumed

Each reader leaves less than it got; `readString` and `skipString` stop because of that.
-/

namespace KeyBench.Json

/-! ## Hexadecimal digits -/

/-- The value of a hexadecimal digit. -/
def hexValue? (c : Char) : Option Nat :=
  if c.isDigit then some (c.toNat - 0x30)
  else if 'a' ≤ c ∧ c ≤ 'f' then some (c.toNat - 0x61 + 10)
  else if 'A' ≤ c ∧ c ≤ 'F' then some (c.toNat - 0x41 + 10)
  else none

/-- The number that four hexadecimal digits write. -/
def hexValue4? (a b c d : Char) : Option Nat :=
  match hexValue? a, hexValue? b, hexValue? c, hexValue? d with
  | some w, some x, some y, some z => some (((w * 16 + x) * 16 + y) * 16 + z)
  | _, _, _, _ => none

/-- The number of bytes of a text. -/
def byteCount (s : List Char) : Nat := s.foldl (fun n c => n + c.utf8Size) 0

/-- Reads four hexadecimal digits. The text ends too early only if fewer than four bytes are left
of it. -/
def readHex4 : List Char → Except Error (Nat × List Char)
  | a :: b :: c :: d :: rest =>
    match hexValue4? a b c d with
    | some n => .ok (n, rest)
    | none => .error .invalidEscape
  | s => if byteCount s < 4 then .error .endInString else .error .invalidEscape

theorem length_of_readHex4 {s rest : List Char} {n : Nat} (h : readHex4 s = .ok (n, rest)) :
    rest.length < s.length := by
  unfold readHex4 at h
  split at h
  · split at h
    · cases h; simp only [List.length_cons]; omega
    · cases h
  · split at h <;> cases h

/-! ## Escapes -/

/-- The character of a one-letter escape. -/
def plainEscape? (c : Char) : Option Char :=
  match c with
  | '"' => some '"'
  | '\\' => some '\\'
  | '/' => some '/'
  | 'b' => some '\x08'
  | 'f' => some '\x0c'
  | 'n' => some '\n'
  | 'r' => some '\r'
  | 't' => some '\t'
  | _ => none

/-- Whether a number is that of a leading surrogate. -/
def isLeading (n : Nat) : Bool := 0xD800 ≤ n && n ≤ 0xDBFF

/-- Whether a number is that of a trailing surrogate. -/
def isTrailing (n : Nat) : Bool := 0xDC00 ≤ n && n ≤ 0xDFFF

/-- Reads the second half of a pair of surrogates. -/
def readTrailing (leading : Nat) : List Char → Except Error (Char × List Char)
  | [] | ['\\'] => .error .endInString
  | '\\' :: 'u' :: s =>
    match readHex4 s with
    | .error e => .error e
    | .ok (n, rest) =>
      if isTrailing n then
        .ok (Char.ofNat (0x10000 + (leading - 0xD800) * 0x400 + (n - 0xDC00)), rest)
      else .error .loneSurrogate
  | _ => .error .unfinishedSurrogate

theorem length_of_readTrailing {s rest : List Char} {leading : Nat} {c : Char}
    (h : readTrailing leading s = .ok (c, rest)) : rest.length < s.length := by
  unfold readTrailing at h
  split at h
  · cases h
  · cases h
  · next s' =>
    split at h
    · cases h
    · next n r hr =>
      have := length_of_readHex4 hr
      split at h
      · simp only [Except.ok.injEq, Prod.mk.injEq] at h
        obtain ⟨_, rfl⟩ := h
        simp only [List.length_cons]; omega
      · cases h
  · cases h

/-- Reads what follows the backslash of an escape. -/
def readEscape : List Char → Except Error (Char × List Char)
  | [] => .error .endInString
  | 'u' :: s =>
    match readHex4 s with
    | .error e => .error e
    | .ok (n, rest) =>
      if isTrailing n then .error .loneSurrogate
      else if isLeading n then readTrailing n rest
      else .ok (Char.ofNat n, rest)
  | c :: s =>
    match plainEscape? c with
    | some d => .ok (d, s)
    | none => .error .invalidEscape

theorem length_of_readEscape {s rest : List Char} {c : Char} (h : readEscape s = .ok (c, rest)) :
    rest.length < s.length := by
  unfold readEscape at h
  split at h
  · cases h
  · next s' =>
    split at h
    · cases h
    · next n r hr =>
      have hlt := length_of_readHex4 hr
      split at h
      · cases h
      · split at h
        · have := length_of_readTrailing h
          simp only [List.length_cons]; omega
        · cases h; simp only [List.length_cons]; omega
  · split at h
    · cases h; simp
    · cases h

/-- Checks what follows the backslash of an escape. -/
def skipEscape : List Char → Except Error (List Char)
  | [] => .error .endInString
  | 'u' :: s =>
    match readHex4 s with
    | .error e => .error e
    | .ok (_, rest) => .ok rest
  | c :: s => if (plainEscape? c).isSome then .ok s else .error .invalidEscape

theorem length_of_skipEscape {s rest : List Char} (h : skipEscape s = .ok rest) :
    rest.length < s.length := by
  unfold skipEscape at h
  split at h
  · cases h
  · split at h
    · cases h
    · next hr =>
      cases h
      have := length_of_readHex4 hr
      simp only [List.length_cons]; omega
  · split at h
    · cases h; simp
    · cases h

/-! ## Strings -/

/-- Whether a character must not stand in a string. -/
def isControl (c : Char) : Bool := c.toNat < 0x20

/-- Reads a string up to its closing quote. -/
def readString (s : List Char) : Except Error (List Char × List Char) :=
  match s with
  | [] => .error .endInString
  | c :: rest =>
    if c = '"' then .ok ([], rest)
    else if c = '\\' then
      match h : readEscape rest with
      | .error e => .error e
      | .ok (d, rest') =>
        have := length_of_readEscape h
        match readString rest' with
        | .error e => .error e
        | .ok (cs, after) => .ok (d :: cs, after)
    else if isControl c then .error .controlCharacter
    else
      match readString rest with
      | .error e => .error e
      | .ok (cs, after) => .ok (c :: cs, after)
termination_by s.length
decreasing_by
  · simp only [List.length_cons]; omega
  · simp

theorem length_of_readString {s cs rest : List Char} (h : readString s = .ok (cs, rest)) :
    rest.length < s.length := by
  fun_induction readString s generalizing cs rest with
  | case1 => cases h
  | case2 => cases h; simp
  | case3 => cases h
  | case4 => cases h
  | case5 _ _ _ _ _ _ _ hs _ ih =>
    cases h
    have := ih hs
    simp only [List.length_cons]; omega
  | case6 => cases h
  | case7 => cases h
  | case8 _ _ _ _ _ cs' after hs ih =>
    cases h
    have := ih hs
    simp only [List.length_cons]; omega

/-- Checks a string up to its closing quote. -/
def skipString (s : List Char) : Except Error (List Char) :=
  match s with
  | [] => .error .endInString
  | c :: rest =>
    if c = '"' then .ok rest
    else if c = '\\' then
      match h : skipEscape rest with
      | .error e => .error e
      | .ok rest' =>
        have := length_of_skipEscape h
        skipString rest'
    else if isControl c then .error .controlCharacter
    else skipString rest
termination_by s.length
decreasing_by
  · simp only [List.length_cons]; omega
  · simp

theorem length_of_skipString {s rest : List Char} (h : skipString s = .ok rest) :
    rest.length < s.length := by
  fun_induction skipString s with
  | case1 => cases h
  | case2 => cases h; simp
  | case3 => cases h
  | case4 _ _ _ _ _ ih =>
    have := ih h
    simp only [List.length_cons]; omega
  | case5 => cases h
  | case6 _ _ _ _ _ ih =>
    have := ih h
    simp only [List.length_cons]; omega

/-! ## Writing -/

/-- How a character is written in a string: a quote, a backslash and the control characters are
escaped. -/
def writeChar (c : Char) : List Char :=
  if c = '"' then ['\\', '"']
  else if c = '\\' then ['\\', '\\']
  else if c = '\x08' then ['\\', 'b']
  else if c = '\t' then ['\\', 't']
  else if c = '\n' then ['\\', 'n']
  else if c = '\x0c' then ['\\', 'f']
  else if c = '\r' then ['\\', 'r']
  else if isControl c then
    ['\\', 'u', '0', '0', Nat.digitChar (c.toNat / 16), Nat.digitChar (c.toNat % 16)]
  else [c]

/-- A string as it is written. -/
def writeString (s : String) : List Char := ['"'] ++ s.toList.flatMap writeChar ++ ['"']

end KeyBench.Json
