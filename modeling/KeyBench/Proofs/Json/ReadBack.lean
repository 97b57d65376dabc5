import KeyBench.Proofs.Json.Numbers
import KeyBench.Proofs.Json.Strings

/-!
# Texts that are written

A string that is written with its escapes is the text of that string (`stringBody_flatMap`), and a
natural number in decimal digits is the text of that number (`isInteger_toDigits`). So both are read
back where such a text is read.
-/

namespace KeyBench.Json

variable {c : Char} {cs s : List Char} {n : Nat}

/-! ## Strings -/

theorem hexValue?_digitChar : ∀ d < 16, hexValue? (Nat.digitChar d) = some d := by decide

/-- The escape of a control character that has no letter. -/
theorem escape_control (hc : isControl c = true) :
    Escape ['u', '0', '0', Nat.digitChar (c.toNat / 16), Nat.digitChar (c.toNat % 16)] c := by
  have hlt : c.toNat < 0x20 := of_decide_eq_true hc
  have hzero : hexValue? '0' = some 0 := rfl
  have hvalue : hexValue4? '0' '0' (Nat.digitChar (c.toNat / 16)) (Nat.digitChar (c.toNat % 16)) =
      some c.toNat := by
    simp only [hexValue4?, hzero, hexValue?_digitChar _ (show c.toNat / 16 < 16 by omega),
      hexValue?_digitChar _ (show c.toNat % 16 < 16 by omega)]
    congr 1
    omega
  have hescape := Escape.number hvalue (by simp [isTrailing]; omega) (by simp [isLeading]; omega)
  rwa [Char.ofNat_toNat] at hescape

/-- A character as it is written stands for itself. -/
theorem stringBody_writeChar (h : StringBody s cs) : StringBody (writeChar c ++ s) (c :: cs) := by
  unfold writeChar
  -- the escapes that have a letter
  iterate 7
    split
    · next hc =>
      subst hc
      exact .escape (.letter rfl) h
  split
  · next hcontrol => exact .escape (escape_control hcontrol) h
  · next hquote hescape _ _ _ _ _ hcontrol =>
    exact .plain hquote hescape (by simpa using hcontrol) h

theorem stringBody_flatMap : ∀ cs : List Char, StringBody (cs.flatMap writeChar) cs
  | [] => .nil
  | c :: cs => by
    rw [List.flatMap_cons]
    exact stringBody_writeChar (stringBody_flatMap cs)

/-! ## Numbers -/

theorem decimalValue_toDigits (n : Nat) : decimalValue (Nat.toDigits 10 n) = n :=
  Nat.ofDigitChars_toDigits (by decide) (by decide)

theorem isDigit_of_mem_toDigits (h : c ∈ Nat.toDigits 10 n) : c.isDigit = true :=
  Nat.isDigit_of_mem_toDigits (by decide) (by decide) h

theorem digitChar_ne_zero : ∀ d < 10, d ≠ 0 → Nat.digitChar d ≠ '0' := by decide

/-- Only zero is written with a zero in front. -/
theorem exists_toDigits_eq_cons (n : Nat) :
    ∃ c cs, Nat.toDigits 10 n = c :: cs ∧ (n ≠ 0 → c ≠ '0') := by
  induction n using Nat.strongRecOn with
  | ind n ih =>
    rw [Nat.toDigits_eq_if (by decide)]
    by_cases hn : n < 10
    · exact ⟨Nat.digitChar n, [], if_pos hn, digitChar_ne_zero n hn⟩
    · obtain ⟨c, cs, hdigits, hc⟩ := ih (n / 10) (by omega)
      rw [if_neg hn, hdigits]
      exact ⟨c, cs ++ [Nat.digitChar (n % 10)], rfl, fun _ => hc (by omega)⟩

/-- **A number in decimal digits has the form of an integer.** -/
theorem isInteger_toDigits (n : Nat) : IsInteger (Nat.toDigits 10 n) := by
  by_cases hn : n = 0
  · subst hn
    exact .zero
  · obtain ⟨c, cs, hdigits, hc⟩ := exists_toDigits_eq_cons n
    have hall : ∀ d ∈ c :: cs, d.isDigit = true := by
      rw [← hdigits]
      exact fun d hd => isDigit_of_mem_toDigits hd
    rw [hdigits]
    exact .positive (hc hn) hall

end KeyBench.Json
