import KeyBench.Proofs.Json.Values

/-!
# What readers accept

Whatever a reader accepts has one of the texts that it is known to read: a string is found only
where one stands (`exists_of_readString`), and a natural number only where there are digits alone
(`exists_of_readNatural`).
-/

namespace KeyBench.Json

variable {c : Char} {cs s rest digits : List Char} {n : Nat} {wanted : String}

/-! ## Strings -/

theorem exists_of_readHex4 (h : readHex4 s = .ok (n, rest)) :
    ∃ w x y z, hexValue4? w x y z = some n ∧ s = w :: x :: y :: z :: rest := by
  unfold readHex4 at h
  split at h
  · split at h
    · next hvalue =>
      cases h
      exact ⟨_, _, _, _, hvalue, rfl⟩
    · cases h
  · split at h <;> cases h

theorem exists_of_readTrailing {m : Nat} (h : readTrailing m s = .ok (c, rest)) :
    ∃ w x y z n, hexValue4? w x y z = some n ∧ isTrailing n = true ∧
      c = Char.ofNat (0x10000 + (m - 0xD800) * 0x400 + (n - 0xDC00)) ∧
      s = '\\' :: 'u' :: w :: x :: y :: z :: rest := by
  unfold readTrailing at h
  split at h
  · cases h
  · cases h
  · split at h
    · cases h
    · next hhex =>
      split at h
      · next htrailing =>
        simp only [Except.ok.injEq, Prod.mk.injEq] at h
        obtain ⟨rfl, rfl⟩ := h
        obtain ⟨w, x, y, z, hn, rfl⟩ := exists_of_readHex4 hhex
        exact ⟨w, x, y, z, _, hn, htrailing, rfl, rfl⟩
      · cases h
  · cases h

/-- What is read as an escape is one. -/
theorem exists_of_readEscape (h : readEscape s = .ok (c, rest)) :
    ∃ escape, Escape escape c ∧ s = escape ++ rest := by
  unfold readEscape at h
  split at h
  · cases h
  · split at h
    · cases h
    · next hhex =>
      obtain ⟨w, x, y, z, hn, rfl⟩ := exists_of_readHex4 hhex
      split at h
      · cases h
      · next htrailing =>
        split at h
        · next hleading =>
          -- the other half of a pair follows
          obtain ⟨w', x', y', z', n, hn', htrailing', hc, rfl⟩ := exists_of_readTrailing h
          have hpair := Escape.pair hn hleading hn' htrailing'
          rw [← hc] at hpair
          exact ⟨_, hpair, rfl⟩
        · next hleading =>
          cases h
          exact ⟨_, .number hn (by simpa using htrailing) (by simpa using hleading), rfl⟩
  · split at h
    · next hletter =>
      cases h
      exact ⟨_, .letter hletter, rfl⟩
    · cases h

/-- **What is read as a string is one.** -/
theorem exists_of_readString (h : readString s = .ok (cs, rest)) :
    ∃ body, StringBody body cs ∧ s = body ++ '"' :: rest := by
  fun_induction readString s generalizing cs rest with
  | case1 => cases h
  | case2 =>
    cases h
    exact ⟨[], .nil, rfl⟩
  | case3 => cases h
  | case4 => cases h
  | case5 _ _ _ hescape _ _ _ hs _ ih =>
    cases h
    obtain ⟨escape, hc, rfl⟩ := exists_of_readEscape hescape
    obtain ⟨body, hbody, rfl⟩ := ih hs
    exact ⟨_, .escape hc hbody, by simp⟩
  | case6 => cases h
  | case7 => cases h
  | case8 _ _ hquote hescape hcontrol _ _ hs ih =>
    cases h
    obtain ⟨body, hbody, rfl⟩ := ih hs
    exact ⟨_, .plain hquote hescape (by simpa using hcontrol) hbody, rfl⟩

/-! ## Numbers -/

theorem takeDigits_fst_append_snd (s : List Char) :
    (∀ c ∈ (takeDigits s).1, c.isDigit = true) ∧ s = (takeDigits s).1 ++ (takeDigits s).2 :=
  ⟨List.all_eq_true.mp List.all_takeWhile, List.takeWhile_append_dropWhile.symm⟩

theorem isInteger_of_readInteger (h : readInteger s = .ok (digits, rest)) :
    IsInteger digits ∧ s = digits ++ rest := by
  unfold readInteger at h
  split at h
  · cases h
  · next c s =>
    split at h
    · next hzero =>
      subst hzero
      split at h
      · split at h
        · cases h
        · cases h
          exact ⟨.zero, rfl⟩
      · cases h
        exact ⟨.zero, rfl⟩
    · next hzero =>
      split at h
      · next hc =>
        have hcons : takeDigits (c :: s) = (c :: (takeDigits s).1, (takeDigits s).2) := by
          simp [takeDigits, hc]
        obtain ⟨hall, happend⟩ := takeDigits_fst_append_snd (c :: s)
        rw [hcons] at h hall happend
        cases h
        exact ⟨.positive hzero hall, happend⟩
      · cases h

theorem readFraction_eq_nil (h : readFraction s = .ok ([], rest)) : rest = s := by
  unfold readFraction at h
  split at h
  · unfold readDigits at h
    split at h
    · cases h
    · cases h
    · next hne _ =>
      cases h
      exact absurd rfl hne
  · cases h
    rfl

theorem readExponent_eq_none (h : readExponent s = .ok (none, rest)) : rest = s := by
  unfold readExponent at h
  split at h
  · split at h
    · dsimp only at h
      split at h <;> cases h
    · cases h
      rfl
  · cases h
    rfl

/-- Digits that are all collected are no greater than the greatest significand. -/
theorem foldl_of_collect : ∀ {cs : List Char} {k n : Nat}, collect k cs = (n, 0) →
    cs.foldl (fun n c => 10 * n + (c.toNat - 0x30)) k = n ∧
      (k ≤ maxSignificand → n ≤ maxSignificand)
  | [], k, n, h => by
    cases h
    exact ⟨rfl, id⟩
  | c :: cs, k, n, h => by
    rw [collect] at h
    split at h
    · next hfits =>
      obtain ⟨hvalue, hle⟩ := foldl_of_collect h
      exact ⟨hvalue, fun _ => hle hfits⟩
    · cases h

/-- Only digits alone are a natural number, and they all have to fit. -/
theorem value_eq_natural {numeral : Numeral} {negative : Bool}
    (h : numeral.value negative = .ok (.natural n)) :
    negative = false ∧ numeral.fraction = [] ∧ numeral.exponent? = none ∧
      collect 0 numeral.integer = (n, 0) := by
  unfold Numeral.value at h
  rcases hcollect : collect 0 numeral.integer with ⟨significand, excess⟩
  simp only [hcollect] at h
  split at h
  · next hplain =>
    simp only [Bool.and_eq_true, List.isEmpty_iff, Option.isNone_iff_eq_none,
      decide_eq_true_eq] at hplain
    obtain ⟨⟨hfraction, hexponent⟩, rfl⟩ := hplain
    split at h
    · next hsign =>
      cases h
      exact ⟨by simpa using hsign, hfraction, hexponent, rfl⟩
    · split at h <;> cases h
  · split at h <;> cases h

/-- A number without a point and an exponent is digits alone. -/
theorem isInteger_of_readNumeral (h : readNumeral s = .ok (⟨digits, [], none⟩, rest)) :
    IsInteger digits ∧ s = digits ++ rest := by
  unfold readNumeral at h
  split at h
  · cases h
  · next hinteger =>
    split at h
    · cases h
    · next hfraction =>
      split at h
      · cases h
      · next hexponent =>
        cases h
        rw [readExponent_eq_none hexponent, readFraction_eq_nil hfraction]
        exact isInteger_of_readInteger hinteger

/-- **What is read as a natural number is written in digits alone.** -/
theorem isInteger_of_readNumber {negative : Bool}
    (h : readNumber negative s = .ok (.natural n, rest)) :
    negative = false ∧ ∃ digits, IsInteger digits ∧ decimalValue digits = n ∧ n < UInt64.size ∧
      s = digits ++ rest := by
  unfold readNumber at h
  split at h
  · cases h
  · next numeral _ hnumeral =>
    split at h
    · cases h
    · next hvalue =>
      cases h
      obtain ⟨integer, fraction, exponent?⟩ := numeral
      obtain ⟨hsign, rfl, rfl, hcollect⟩ := value_eq_natural hvalue
      obtain ⟨hinteger, happend⟩ := isInteger_of_readNumeral hnumeral
      obtain ⟨hfold, hle⟩ := foldl_of_collect hcollect
      have hlt : n < UInt64.size := Nat.lt_of_le_pred (by decide) (hle (Nat.zero_le _))
      exact ⟨hsign, integer, hinteger, hfold, hlt, happend⟩

/-! ## Wanted values -/

theorem exists_blank_append (s : List Char) : ∃ before, Blank before ∧ s = before ++ skipSpace s :=
  ⟨s.takeWhile isSpace, List.all_eq_true.mp List.all_takeWhile,
    List.takeWhile_append_dropWhile.symm⟩

theorem exists_of_readNatural (h : readNatural wanted s = .ok (n, rest)) :
    ∃ before digits, Blank before ∧ IsInteger digits ∧ decimalValue digits = n ∧ n < UInt64.size ∧
      s = before ++ (digits ++ rest) := by
  obtain ⟨before, hbefore, hs⟩ := exists_blank_append s
  unfold readNatural at h
  split at h
  · cases h
  · next c t hskip =>
    split at h
    · exact absurd (isInteger_of_readNumber (eq_ok_of_asNatural h)).1 (by decide)
    split at h
    · obtain ⟨_, digits, hdigits, hvalue, hlt, happend⟩ :=
        isInteger_of_readNumber (eq_ok_of_asNatural h)
      exact ⟨before, digits, hbefore, hdigits, hvalue, hlt, by rw [hs, hskip, happend]⟩
    · cases h

/-- **What is read as a string value is one.** -/
theorem exists_of_readText {text : String} (h : readText wanted s = .ok (text, rest)) :
    ∃ before body, Blank before ∧ StringBody body text.toList ∧
      s = before ++ ('"' :: (body ++ '"' :: rest)) := by
  obtain ⟨before, hbefore, hs⟩ := exists_blank_append s
  unfold readText at h
  split at h
  · cases h
  · next hskip =>
    split at h
    · next hquote =>
      subst hquote
      split at h
      · cases h
      · next hstring =>
        cases h
        obtain ⟨body, hbody, happend⟩ := exists_of_readString hstring
        refine ⟨before, body, hbefore, ?_, by rw [hs, hskip, happend]⟩
        rwa [String.toList_ofList]
    · cases h

theorem eq_append_of_readWord : ∀ {word s : List Char},
    readWord word s = .ok rest → s = word ++ rest
  | [], s, h => by
    cases h
    rfl
  | w :: word, [], h => nomatch h
  | w :: word, c :: s, h => by
    rw [readWord] at h
    split at h
    · next hc => rw [hc, eq_append_of_readWord h, List.cons_append]
    · cases h

/-- **What is read as a natural number that may be missing is one, or it is missing.** -/
theorem exists_of_readOptional {n? : Option Nat} (h : readOptional wanted s = .ok (n?, rest)) :
    ∃ before value, Blank before ∧ s = before ++ (value ++ rest) ∧
      ((n? = none ∧ value = ['n', 'u', 'l', 'l']) ∨
        ∃ n, n? = some n ∧ IsInteger value ∧ decimalValue value = n ∧ n < UInt64.size) := by
  obtain ⟨before, hbefore, hs⟩ := exists_blank_append s
  unfold readOptional at h
  split at h
  · next hskip =>
    split at h
    · cases h
    · next hword =>
      cases h
      rw [eq_append_of_readWord hword] at hskip
      exact ⟨before, _, hbefore, by rw [hs, hskip]; rfl, .inl ⟨rfl, rfl⟩⟩
  · obtain ⟨n, hnatural, rfl⟩ := eq_ok_of_onValue h
    obtain ⟨blank, digits, hblank, hdigits, hvalue, hlt, happend⟩ := exists_of_readNatural hnatural
    exact ⟨before ++ blank, digits, List.forall_mem_append.mpr ⟨hbefore, hblank⟩,
      by rw [hs, happend, List.append_assoc], .inr ⟨n, rfl, hdigits, hvalue, hlt⟩⟩

end KeyBench.Json
