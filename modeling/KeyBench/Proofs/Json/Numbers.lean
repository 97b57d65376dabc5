import KeyBench.Json.Wanted

/-!
# Texts of numbers

A number has digits before the point, and it may have digits after the point and an exponent. Each
part has a text, and a number stands in a text if that is made of the texts of its parts
(`NumeralText`). The reader stops at the end of that text if what follows does not go on with the
number (`readNumeral_of_text`).

A natural number is wanted in digits alone. If it fits into 64 bits, then none of its digits
overflows the significand, so that it is not turned into a float (`readNatural_of_integer`).
-/

namespace KeyBench.Json

variable {c : Char} {cs s t rest digits : List Char} {n : Nat}

/-! ## What a text goes on with -/

/-- Whether a text does not go on with the number before it. -/
def EndsNumber (rest : List Char) : Prop :=
  ∀ c ∈ rest.head?, c.isDigit = false ∧ c ≠ '.' ∧ c ≠ 'e' ∧ c ≠ 'E'

/-- Whether a text does not go on with the digits before it. -/
def EndsDigits (rest : List Char) : Prop := ∀ c ∈ rest.head?, c.isDigit = false

theorem EndsNumber.endsDigits (h : EndsNumber rest) : EndsDigits rest := fun c hc => (h c hc).1

theorem endsNumber_cons (hdigit : c.isDigit = false) (hpoint : c ≠ '.') (he : c ≠ 'e')
    (hE : c ≠ 'E') : EndsNumber (c :: rest) := by
  intro d hd
  cases hd
  exact ⟨hdigit, hpoint, he, hE⟩

theorem takeDigits_append (hcs : ∀ c ∈ cs, c.isDigit = true) (hrest : EndsDigits rest) :
    takeDigits (cs ++ rest) = (cs, rest) := by
  unfold takeDigits
  rw [List.takeWhile_append_of_pos hcs, List.dropWhile_append_of_pos hcs]
  cases rest with
  | nil => simp
  | cons c rest =>
    have hc := hrest c rfl
    simp [hc]

/-! ## The parts of a number -/

/-- The digits before the point: a zero alone, or digits of which the first is no zero. -/
inductive IsInteger : List Char → Prop
  | zero : IsInteger ['0']
  | positive {c : Char} {cs : List Char} (hc : c ≠ '0')
    (hcs : ∀ d ∈ c :: cs, d.isDigit = true) : IsInteger (c :: cs)

/-- Digits after a point or in an exponent. There is at least one. -/
structure IsDigits (cs : List Char) : Prop where
  ne_nil : cs ≠ []
  isDigit : ∀ c ∈ cs, c.isDigit = true

/-- The digits after the point and their text. -/
inductive FractionText : List Char → List Char → Prop
  | none : FractionText [] []
  | point {cs : List Char} (h : IsDigits cs) : FractionText cs ('.' :: cs)

/-- An exponent and its text. -/
inductive ExponentText : Option Int → List Char → Prop
  | none : ExponentText none []
  | unsigned {e : Char} {cs : List Char} (he : e = 'e' ∨ e = 'E') (h : IsDigits cs) :
    ExponentText (some (decimalValue cs)) (e :: cs)
  | plus {e : Char} {cs : List Char} (he : e = 'e' ∨ e = 'E') (h : IsDigits cs) :
    ExponentText (some (decimalValue cs)) (e :: '+' :: cs)
  | minus {e : Char} {cs : List Char} (he : e = 'e' ∨ e = 'E') (h : IsDigits cs) :
    ExponentText (some (-decimalValue cs)) (e :: '-' :: cs)

/-- A number without its sign and its text. -/
inductive NumeralText : Numeral → List Char → Prop
  | parts {integer fraction s t : List Char} {exponent? : Option Int} (hinteger : IsInteger integer)
    (hfraction : FractionText fraction s) (hexponent : ExponentText exponent? t) :
    NumeralText ⟨integer, fraction, exponent?⟩ (integer ++ (s ++ t))

theorem IsInteger.exists_cons (h : IsInteger digits) :
    ∃ c cs, digits = c :: cs ∧ c.isDigit = true := by
  cases h with
  | zero => exact ⟨'0', [], rfl, rfl⟩
  | positive _ hcs => exact ⟨_, _, rfl, hcs _ List.mem_cons_self⟩

theorem NumeralText.exists_cons {numeral : Numeral} (h : NumeralText numeral s) :
    ∃ c cs, s = c :: cs ∧ c.isDigit = true := by
  cases h with
  | parts hinteger =>
    obtain ⟨c, cs, rfl, hc⟩ := hinteger.exists_cons
    exact ⟨c, _, List.cons_append, hc⟩

/-- A number of digits alone has no point and no exponent. -/
theorem IsInteger.numeralText (h : IsInteger digits) : NumeralText ⟨digits, [], none⟩ digits := by
  have hparts := NumeralText.parts h .none .none
  rwa [List.append_nil, List.append_nil] at hparts

/-! ## Reading the parts -/

theorem readInteger_of_integer (h : IsInteger digits) (hrest : EndsDigits rest) :
    readInteger (digits ++ rest) = .ok (digits, rest) := by
  cases h with
  | zero =>
    cases rest with
    | nil => rfl
    | cons c rest =>
      have hc := hrest c rfl
      simp [readInteger, hc]
  | @positive c cs hc hcs =>
    have htake := takeDigits_append hcs hrest
    rw [List.cons_append] at htake
    simp [readInteger, hc, hcs c List.mem_cons_self, htake]

theorem readDigits_append (h : IsDigits cs) (hrest : EndsDigits rest) :
    readDigits (cs ++ rest) = .ok (cs, rest) := by
  have htake := takeDigits_append h.isDigit hrest
  cases cs with
  | nil => exact absurd rfl h.ne_nil
  | cons c cs => rw [readDigits, htake]

/-- What stands after the digits of the fraction does not go on with them. -/
theorem ExponentText.ends_append {exponent? : Option Int} (h : ExponentText exponent? t)
    (hrest : EndsNumber rest) : ∀ c ∈ (t ++ rest).head?, c.isDigit = false ∧ c ≠ '.' := by
  have hletter : ∀ e : Char, e = 'e' ∨ e = 'E' → e.isDigit = false ∧ e ≠ '.' := by
    rintro e (rfl | rfl) <;> decide
  intro c hc
  cases h with
  | none => exact ⟨(hrest c hc).1, (hrest c hc).2.1⟩
  | unsigned he | plus he | minus he =>
    cases hc
    exact hletter _ he

theorem FractionText.endsDigits_append (h : FractionText digits s) (ht : EndsDigits t) :
    EndsDigits (s ++ t) := by
  cases h with
  | none => exact ht
  | point => intro c hc; cases hc; rfl

theorem readFraction_of_text (h : FractionText digits s)
    (ht : ∀ c ∈ t.head?, c.isDigit = false ∧ c ≠ '.') :
    readFraction (s ++ t) = .ok (digits, t) := by
  cases h with
  | none =>
    rw [List.nil_append]
    unfold readFraction
    split
    · exact absurd rfl (ht '.' rfl).2
    · rfl
  | point hdigits => exact readDigits_append hdigits fun c hc => (ht c hc).1

theorem readExponent_of_text {exponent? : Option Int} (h : ExponentText exponent? t)
    (hrest : EndsNumber rest) : readExponent (t ++ rest) = .ok (exponent?, rest) := by
  cases h with
  | none =>
    cases rest with
    | nil => rfl
    | cons c rest =>
      obtain ⟨_, _, he, hE⟩ := hrest c rfl
      simp [readExponent, he, hE]
  | @unsigned e cs he hdigits =>
    -- the first digit is no sign
    obtain ⟨d, ds, rfl⟩ := List.exists_cons_of_ne_nil hdigits.ne_nil
    have hd := hdigits.isDigit d List.mem_cons_self
    have hplus : d ≠ '+' := by rintro rfl; cases hd
    have hminus : d ≠ '-' := by rintro rfl; cases hd
    have hread := readDigits_append hdigits hrest.endsDigits
    rw [List.cons_append] at hread
    simp [readExponent, he, hplus, hminus, hread]
  | plus he hdigits =>
    simp [readExponent, he, readDigits_append hdigits hrest.endsDigits]
  | minus he hdigits =>
    simp [readExponent, he, readDigits_append hdigits hrest.endsDigits]

/-- **A number is read up to the end of its text.** -/
theorem readNumeral_of_text {numeral : Numeral} (h : NumeralText numeral s)
    (hrest : EndsNumber rest) : readNumeral (s ++ rest) = .ok (numeral, rest) := by
  cases h with
  | parts hinteger hfraction hexponent =>
    have hends := hexponent.ends_append hrest
    have hdigits := hfraction.endsDigits_append fun c hc => (hends c hc).1
    rw [List.append_assoc, List.append_assoc]
    simp [readNumeral, readInteger_of_integer hinteger hdigits,
      readFraction_of_text hfraction hends, readExponent_of_text hexponent hrest]

theorem skipNumeral_of_text {numeral : Numeral} (h : NumeralText numeral s)
    (hrest : EndsNumber rest) : skipNumeral (s ++ rest) = .ok rest := by
  rw [skipNumeral, readNumeral_of_text h hrest]

/-! ## Natural numbers -/

/-- Digits only make a significand greater. -/
theorem le_foldl_digits : ∀ (cs : List Char) (n : Nat),
    n ≤ cs.foldl (fun n c => 10 * n + (c.toNat - 0x30)) n
  | [], n => Nat.le_refl n
  | c :: cs, n => by
    have ih := le_foldl_digits cs (10 * n + (c.toNat - 0x30))
    rw [List.foldl_cons]
    omega

/-- Digits are all collected if their number is no greater than the greatest significand. -/
theorem collect_of_le : ∀ (cs : List Char) (n : Nat),
    cs.foldl (fun n c => 10 * n + (c.toNat - 0x30)) n ≤ maxSignificand →
      collect n cs = (cs.foldl (fun n c => 10 * n + (c.toNat - 0x30)) n, 0)
  | [], _, _ => rfl
  | c :: cs, n, h => by
    rw [List.foldl_cons] at h
    have hfits := Nat.le_trans (le_foldl_digits cs _) h
    rw [collect, if_pos hfits, collect_of_le cs _ h, List.foldl_cons]

theorem collect_of_lt (h : decimalValue digits < UInt64.size) :
    collect 0 digits = (decimalValue digits, 0) :=
  collect_of_le digits 0 (Nat.le_pred_of_lt h)

/-- **A number of 64 bits is read as an integer.** -/
theorem readNumber_of_integer (h : IsInteger digits) (hvalue : decimalValue digits < UInt64.size)
    (hrest : EndsNumber rest) :
    readNumber false (digits ++ rest) = .ok (.natural (decimalValue digits), rest) := by
  simp [readNumber, readNumeral_of_text h.numeralText hrest, Numeral.value, collect_of_lt hvalue]

theorem isSpace_of_isDigit (h : c.isDigit = true) : isSpace c = false := by
  rw [Bool.eq_false_iff]
  intro hspace
  simp only [isSpace, Bool.or_eq_true, beq_iff_eq] at hspace
  rcases hspace with ((rfl | rfl) | rfl) | rfl <;> cases h

theorem readNatural_of_integer (wanted : String) (h : IsInteger digits)
    (hvalue : decimalValue digits < UInt64.size) (hrest : EndsNumber rest) :
    readNatural wanted (digits ++ rest) = .ok (decimalValue digits, rest) := by
  obtain ⟨c, cs, hdigits, hc⟩ := h.exists_cons
  have hspace := isSpace_of_isDigit hc
  have hminus : c ≠ '-' := by
    rintro rfl
    cases hc
  have hnumber := readNumber_of_integer h hvalue hrest
  rw [hdigits, List.cons_append] at hnumber ⊢
  simp [readNatural, skipSpace, hspace, hminus, hc, hnumber, asNatural]

/-- **A number is not taken for a missing one.** -/
theorem readOptional_of_integer (wanted : String) (h : IsInteger digits)
    (hvalue : decimalValue digits < UInt64.size) (hrest : EndsNumber rest) :
    readOptional wanted (digits ++ rest) = .ok (some (decimalValue digits), rest) := by
  have hnatural := readNatural_of_integer wanted h hvalue hrest
  obtain ⟨c, cs, hdigits, hc⟩ := h.exists_cons
  have hspace : skipSpace (c :: (cs ++ rest)) = c :: (cs ++ rest) := by
    simp [skipSpace, isSpace_of_isDigit hc]
  rw [hdigits, List.cons_append] at hnatural ⊢
  rw [readOptional, hspace]
  split
  · next heq =>
    obtain ⟨rfl, _⟩ := List.cons.inj heq
    cases hc
  · rw [hnatural]
    rfl

end KeyBench.Json
