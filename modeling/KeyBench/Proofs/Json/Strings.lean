import KeyBench.Json.Wanted

/-!
# Texts of strings

What stands between the quotes of a string is read character by character, and every character can
stand there in several ways: as it is, after a backslash, or by its number. `StringBody` says which
characters a text stands for, and the reader finds these (`readString_of_body`).

A string that nobody wants need not stand for any characters. Its escapes only have to be complete
(`LooseBody`), and a surrogate may be alone.
-/

namespace KeyBench.Json

variable {c : Char} {cs s t rest escape : List Char}

/-! ## Strings that are wanted -/

/-- What may follow a backslash, and the character that it stands for. -/
inductive Escape : List Char → Char → Prop
  | letter {c d : Char} (h : plainEscape? c = some d) : Escape [c] d
  | number {w x y z : Char} {n : Nat} (h : hexValue4? w x y z = some n)
    (htrailing : isTrailing n = false) (hleading : isLeading n = false) :
    Escape ['u', w, x, y, z] (Char.ofNat n)
  | pair {w x y z w' x' y' z' : Char} {m n : Nat} (hm : hexValue4? w x y z = some m)
    (hleading : isLeading m = true) (hn : hexValue4? w' x' y' z' = some n)
    (htrailing : isTrailing n = true) :
    Escape ['u', w, x, y, z, '\\', 'u', w', x', y', z']
      (Char.ofNat (0x10000 + (m - 0xD800) * 0x400 + (n - 0xDC00)))

/-- What may stand between two quotes, and the characters that it stands for. -/
inductive StringBody : List Char → List Char → Prop
  | nil : StringBody [] []
  | plain {c : Char} {s cs : List Char} (hquote : c ≠ '"') (hescape : c ≠ '\\')
    (hcontrol : isControl c = false) (h : StringBody s cs) : StringBody (c :: s) (c :: cs)
  | escape {escape s cs : List Char} {c : Char} (hc : Escape escape c) (h : StringBody s cs) :
    StringBody ('\\' :: (escape ++ s)) (c :: cs)

theorem readString_quote : readString ('"' :: rest) = .ok ([], rest) := by
  rw [readString]
  simp

theorem readString_escape (hc : readEscape t = .ok (c, s)) (hs : readString s = .ok (cs, rest)) :
    readString ('\\' :: t) = .ok (c :: cs, rest) := by
  rw [readString, if_neg (by decide), if_pos rfl]
  split
  · next h =>
    rw [hc] at h
    cases h
  · next h =>
    rw [hc] at h
    cases h
    rw [hs]

theorem readString_plain (hquote : c ≠ '"') (hescape : c ≠ '\\') (hcontrol : isControl c = false)
    (hs : readString s = .ok (cs, rest)) : readString (c :: s) = .ok (c :: cs, rest) := by
  rw [readString]
  simp [hquote, hescape, hcontrol, hs]

/-- An escape is read as the character that it stands for. -/
theorem Escape.readEscape_append (h : Escape escape c) :
    readEscape (escape ++ s) = .ok (c, s) := by
  cases h with
  | @letter d _ hletter =>
    have hu : d ≠ 'u' := by
      rintro rfl
      cases hletter
    simp [readEscape, hletter]
  | number hn htrailing hleading => simp [readEscape, readHex4, hn, htrailing, hleading]
  | @pair _ _ _ _ _ _ _ _ m n hm hleading hn htrailing =>
    have hnot : isTrailing m = false := by
      simp only [isLeading, isTrailing, Bool.and_eq_true, decide_eq_true_eq] at hleading ⊢
      simp
      omega
    simp [readEscape, readHex4, readTrailing, hm, hnot, hleading, hn, htrailing]

/-- **A string is read up to its closing quote.** -/
theorem readString_of_body (h : StringBody s cs) (rest : List Char) :
    readString (s ++ '"' :: rest) = .ok (cs, rest) := by
  induction h with
  | nil => exact readString_quote
  | plain hquote hescape hcontrol _ ih => exact readString_plain hquote hescape hcontrol ih
  | escape hc _ ih =>
    rw [List.cons_append, List.append_assoc]
    exact readString_escape hc.readEscape_append ih

theorem readText_of_body (wanted : String) (h : StringBody s cs) (rest : List Char) :
    readText wanted ('"' :: (s ++ '"' :: rest)) = .ok (String.ofList cs, rest) := by
  have hspace : skipSpace ('"' :: (s ++ '"' :: rest)) = '"' :: (s ++ '"' :: rest) := rfl
  simp [readText, hspace, readString_of_body h]

/-! ## Strings that are skipped -/

/-- What may follow a backslash in a string that nobody wants. -/
inductive LooseEscape : List Char → Prop
  | letter {c d : Char} (h : plainEscape? c = some d) : LooseEscape [c]
  | number {w x y z : Char} {n : Nat} (h : hexValue4? w x y z = some n) :
    LooseEscape ['u', w, x, y, z]

/-- What may stand between two quotes in a string that nobody wants. -/
inductive LooseBody : List Char → Prop
  | nil : LooseBody []
  | plain {c : Char} {s : List Char} (hquote : c ≠ '"') (hescape : c ≠ '\\')
    (hcontrol : isControl c = false) (h : LooseBody s) : LooseBody (c :: s)
  | escape {escape s : List Char} (hc : LooseEscape escape) (h : LooseBody s) :
    LooseBody ('\\' :: (escape ++ s))

theorem skipString_quote : skipString ('"' :: rest) = .ok rest := by
  rw [skipString]
  simp

theorem skipString_escape (hc : skipEscape t = .ok s) : skipString ('\\' :: t) = skipString s := by
  rw [skipString, if_neg (by decide), if_pos rfl]
  split
  · next h =>
    rw [hc] at h
    cases h
  · next h =>
    rw [hc] at h
    cases h
    rfl

theorem skipString_plain (hquote : c ≠ '"') (hescape : c ≠ '\\') (hcontrol : isControl c = false) :
    skipString (c :: s) = skipString s := by
  rw [skipString]
  simp [hquote, hescape, hcontrol]

theorem LooseEscape.skipEscape_append (h : LooseEscape escape) :
    skipEscape (escape ++ s) = .ok s := by
  cases h with
  | @letter d _ hletter =>
    have hu : d ≠ 'u' := by
      rintro rfl
      cases hletter
    simp [skipEscape, hletter]
  | number hn => simp [skipEscape, readHex4, hn]

/-- **A string that nobody wants is skipped up to its closing quote.** -/
theorem skipString_of_body (h : LooseBody s) (rest : List Char) :
    skipString (s ++ '"' :: rest) = .ok rest := by
  induction h with
  | nil => exact skipString_quote
  | plain hquote hescape hcontrol _ ih => exact (skipString_plain hquote hescape hcontrol).trans ih
  | escape hc _ ih =>
    rw [List.cons_append, List.append_assoc]
    exact (skipString_escape hc.skipEscape_append).trans ih

theorem LooseBody.append (h : LooseBody s) (ht : LooseBody t) : LooseBody (s ++ t) := by
  induction h with
  | nil => exact ht
  | plain hquote hescape hcontrol _ ih => exact .plain hquote hescape hcontrol ih
  | escape hc _ ih =>
    rw [List.cons_append, List.append_assoc]
    exact .escape hc ih

/-- A pair of surrogates is two escapes for whoever skips it. -/
theorem Escape.loose (h : Escape escape c) : LooseBody ('\\' :: escape) := by
  have hone : ∀ {e s}, LooseEscape e → LooseBody s → LooseBody ('\\' :: (e ++ s)) := .escape
  cases h with
  | letter hletter => exact hone (.letter hletter) .nil
  | number hn => exact hone (.number hn) .nil
  | pair hm _ hn => exact hone (.number hm) (hone (.number hn) .nil)

/-- **What can be read can be skipped.** -/
theorem StringBody.loose (h : StringBody s cs) : LooseBody s := by
  induction h with
  | nil => exact .nil
  | plain hquote hescape hcontrol _ ih => exact .plain hquote hescape hcontrol ih
  | escape hc _ ih => exact hc.loose.append ih

end KeyBench.Json
