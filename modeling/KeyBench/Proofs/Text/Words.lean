import KeyBench.Proofs.Text.Pieces

/-!
# Words of a text

A word is a run of characters without a blank. Every text that is not all blank begins with a word,
apart from the blanks before it (`blank_or_exists_word`), and what comes after that word is empty or
begins with a blank. So the words of a text are found one after the other (`words_of_word`), and
the text is these words with blanks around and between them (`words_eq_pair_iff`).
-/

namespace KeyBench.Text

variable {s t v w before between after rest : List Char} {c : Char}

/-- Whether a text has nothing but blanks. -/
def Blank (t : List Char) : Prop := ∀ c ∈ t, isBlank c = true

/-- Whether a text is one word: it has no blanks, but something else. -/
structure IsWord (w : List Char) : Prop where
  ne_nil : w ≠ []
  isBlank_eq_false : ∀ c ∈ w, isBlank c = false

theorem isWord_iff : IsWord w ↔ w ≠ [] ∧ w.all (fun c => !isBlank c) = true := by
  rw [List.all_eq_true]
  simp only [Bool.not_eq_true']
  exact ⟨fun h => ⟨h.ne_nil, h.isBlank_eq_false⟩, fun h => ⟨h.1, h.2⟩⟩

instance : DecidablePred Blank := fun _ => decidable_of_iff _ List.all_eq_true

instance : DecidablePred IsWord := fun _ => decidable_of_iff _ isWord_iff.symm

theorem blank_nil : Blank [] := nofun

theorem blank_space : Blank [' '] := by
  intro c hc
  rw [List.mem_singleton.mp hc]
  rfl

theorem Blank.append (hs : Blank s) (ht : Blank t) : Blank (s ++ t) := by
  rw [Blank, List.forall_mem_append]
  exact ⟨hs, ht⟩

/-! ## The first word -/

/-- Whether a text is empty or begins with a blank. -/
def StartsBlank (t : List Char) : Prop := ∀ c ∈ t.head?, isBlank c = true

/-- A text begins with a run of characters of a class, which ends before one of another class. -/
theorem exists_run (p : Char → Bool) (t : List Char) : ∃ run rest, t = run ++ rest ∧
    (∀ c ∈ run, p c = true) ∧ ∀ c ∈ rest.head?, p c = false := by
  refine ⟨t.takeWhile p, t.dropWhile p, List.takeWhile_append_dropWhile.symm,
    List.all_eq_true.mp List.all_takeWhile, fun c hc => ?_⟩
  have hhead := List.head?_dropWhile_not p t
  rw [Option.mem_def] at hc
  rwa [hc] at hhead

/-- **A text is blank or begins with a word**, apart from blanks before the word. -/
theorem blank_or_exists_word (t : List Char) : Blank t ∨
    ∃ before w rest, t = before ++ w ++ rest ∧ Blank before ∧ IsWord w ∧ StartsBlank rest := by
  obtain ⟨before, u, rfl, hbefore, hu⟩ := exists_run isBlank t
  obtain ⟨w, rest, rfl, hw, hrest⟩ := exists_run (fun c => !isBlank c) u
  simp only [Bool.not_eq_true', Bool.not_eq_false'] at hw hrest
  by_cases hnil : w = []
  · left
    subst hnil
    cases rest with
    | nil => exact Blank.append hbefore blank_nil
    | cons c rest =>
      -- the character after the blanks would be a blank and none
      have hc := hu c rfl
      rw [hrest c rfl] at hc
      cases hc
  · right
    exact ⟨before, w, rest, (List.append_assoc _ _ _).symm, hbefore, ⟨hnil, hw⟩, hrest⟩

theorem words_append_cons (s t : List Char) (hc : isBlank c = true) :
    words (s ++ c :: t) = words s ++ words t := by
  rw [words, pieces_append_cons s t hc, List.filter_append]
  rfl

theorem words_of_isWord (h : IsWord w) : words w = [w] := by
  rw [words, pieces_eq_singleton h.isBlank_eq_false]
  simp [h.ne_nil]

theorem words_blank_append (h : Blank before) (t : List Char) : words (before ++ t) = words t := by
  induction before with
  | nil => rfl
  | cons c cs ih =>
    rw [Blank, List.forall_mem_cons] at h
    exact (words_append_cons [] (cs ++ t) h.1).trans (ih h.2)

theorem words_eq_nil_of_blank (h : Blank t) : words t = [] := by
  rw [← List.append_nil t, words_blank_append h]
  rfl

/-- **Words are found one after the other.** -/
theorem words_of_word (hbefore : Blank before) (hw : IsWord w) (hrest : StartsBlank rest) :
    words (before ++ w ++ rest) = w :: words rest := by
  rw [List.append_assoc, words_blank_append hbefore]
  cases rest with
  | nil =>
    rw [List.append_nil, words_of_isWord hw]
    rfl
  | cons c rest =>
    have hc : isBlank c = true := hrest c rfl
    rw [words_append_cons w rest hc, words_of_isWord hw]
    exact congrArg (w :: ·) (words_append_cons [] rest hc).symm

theorem words_eq_nil_iff : words t = [] ↔ Blank t := by
  constructor
  · intro h
    rcases blank_or_exists_word t with hblank | ⟨before, w, rest, rfl, hbefore, hw, hrest⟩
    · exact hblank
    · rw [words_of_word hbefore hw hrest] at h
      cases h
  · exact words_eq_nil_of_blank

theorem words_eq_cons_iff {ws : List (List Char)} : words t = w :: ws ↔
    ∃ before rest, t = before ++ w ++ rest ∧ Blank before ∧ IsWord w ∧ StartsBlank rest ∧
      words rest = ws := by
  constructor
  · intro h
    rcases blank_or_exists_word t with hblank | ⟨before, v, rest, rfl, hbefore, hv, hrest⟩
    · rw [words_eq_nil_of_blank hblank] at h
      cases h
    · rw [words_of_word hbefore hv hrest] at h
      obtain ⟨rfl, hws⟩ := List.cons.inj h
      exact ⟨before, rest, rfl, hbefore, hv, hrest, hws⟩
  · rintro ⟨before, rest, rfl, hbefore, hw, hrest, rfl⟩
    exact words_of_word hbefore hw hrest

theorem words_append_blank (t : List Char) (h : Blank after) : words (t ++ after) = words t := by
  cases after with
  | nil => rw [List.append_nil]
  | cons c cs =>
    rw [Blank, List.forall_mem_cons] at h
    rw [words_append_cons t cs h.1, words_eq_nil_of_blank h.2, List.append_nil]

/-- **A text has two words if it is these words with blanks around and between them.** -/
theorem words_eq_pair_iff : words t = [v, w] ↔ IsWord v ∧ IsWord w ∧
    ∃ before between after, t = before ++ v ++ between ++ w ++ after ∧ Blank before ∧
      Blank between ∧ between ≠ [] ∧ Blank after := by
  constructor
  · intro h
    obtain ⟨before, rest, rfl, hbefore, hv, hrest, hwords⟩ := words_eq_cons_iff.mp h
    obtain ⟨between, after, rfl, hbetween, hw, _, hnil⟩ := words_eq_cons_iff.mp hwords
    refine ⟨hv, hw, before, between, after, by simp only [List.append_assoc], hbefore, hbetween, ?_,
      words_eq_nil_iff.mp hnil⟩
    rintro rfl
    -- the second word would begin with a blank
    obtain ⟨c, cs, rfl⟩ := List.exists_cons_of_ne_nil hw.ne_nil
    have hc := hrest c rfl
    rw [hw.isBlank_eq_false c List.mem_cons_self] at hc
    cases hc
  · rintro ⟨hv, hw, before, between, after, rfl, hbefore, hbetween, hne, hafter⟩
    obtain ⟨c, cs, rfl⟩ := List.exists_cons_of_ne_nil hne
    have hrest : StartsBlank (c :: cs ++ w ++ after) := by
      rintro d ⟨⟩
      exact hbetween c List.mem_cons_self
    rw [List.append_assoc, List.append_assoc, ← List.append_assoc (c :: cs),
      words_of_word hbefore hv hrest, words_append_blank _ hafter, words_blank_append hbetween,
      words_of_isWord hw]

/-! ## Trimming -/

theorem trimStart_blank_append (h : Blank before) (t : List Char) :
    trimStart (before ++ t) = trimStart t := List.dropWhile_append_of_pos h

theorem exists_trimStart (t : List Char) : ∃ before, t = before ++ trimStart t ∧ Blank before :=
  ⟨t.takeWhile isBlank, List.takeWhile_append_dropWhile.symm,
    List.all_eq_true.mp List.all_takeWhile⟩

theorem Blank.reverse (h : Blank t) : Blank t.reverse :=
  fun c hc => h c (List.mem_reverse.mp hc)

/-- **Trimming takes away blanks only.** -/
theorem exists_trim (t : List Char) :
    ∃ before after, t = before ++ trim t ++ after ∧ Blank before ∧ Blank after := by
  obtain ⟨before, hstart, hbefore⟩ := exists_trimStart t
  obtain ⟨after, hend, hafter⟩ := exists_trimStart (trimStart t).reverse
  refine ⟨before, after.reverse, ?_, hbefore, hafter.reverse⟩
  rw [trim, trimEnd, List.append_assoc, ← List.reverse_append, ← hend, List.reverse_reverse]
  exact hstart

theorem trim_eq_nil_iff : trim t = [] ↔ Blank t := by
  constructor
  · intro h
    obtain ⟨before, after, ht, hbefore, hafter⟩ := exists_trim t
    rw [ht, h, List.append_nil]
    exact hbefore.append hafter
  · intro h
    have hstart := trimStart_blank_append h []
    rw [List.append_nil] at hstart
    rw [trim, hstart]
    rfl

theorem words_trim (t : List Char) : words (trim t) = words t := by
  obtain ⟨before, after, ht, hbefore, hafter⟩ := exists_trim t
  have h : words t = words (before ++ trim t ++ after) := congrArg words ht
  rw [h, words_append_blank _ hafter, words_blank_append hbefore]

theorem IsWord.trimStart_append (h : IsWord w) (rest : List Char) :
    trimStart (w ++ rest) = w ++ rest := by
  obtain ⟨c, cs, rfl⟩ := List.exists_cons_of_ne_nil h.ne_nil
  exact List.dropWhile_cons_of_neg (by rw [h.isBlank_eq_false c List.mem_cons_self]; exact nofun)

theorem IsWord.reverse (h : IsWord w) : IsWord w.reverse where
  ne_nil := List.reverse_ne_nil_iff.mpr h.ne_nil
  isBlank_eq_false := fun c hc => h.isBlank_eq_false c (List.mem_reverse.mp hc)

/-- **Trimming gives a word if there is nothing but blanks around it.** -/
theorem trim_eq_word_iff (hw : IsWord w) : trim t = w ↔
    ∃ before after, t = before ++ w ++ after ∧ Blank before ∧ Blank after := by
  constructor
  · rintro rfl
    exact exists_trim t
  · rintro ⟨before, after, rfl, hbefore, hafter⟩
    have hend : trimStart w.reverse = w.reverse := by
      have h := hw.reverse.trimStart_append []
      rwa [List.append_nil] at h
    rw [trim, List.append_assoc, trimStart_blank_append hbefore, hw.trimStart_append, trimEnd,
      List.reverse_append, trimStart_blank_append hafter.reverse, hend, List.reverse_reverse]

/-! ## Case -/

/-- A blank has no case. -/
theorem toLower_of_isBlank (h : isBlank c = true) : c.toLower = c := by
  by_cases hupper : c.val ≥ 'A'.val ∧ c.val ≤ 'Z'.val
  · -- the letters from A to Z are none of the blanks
    simp [isBlank, Char.le_def, Char.ext_iff, UInt32.le_iff_toNat_le, ← UInt32.toNat_inj]
      at h hupper
    omega
  · exact dif_neg hupper

/-- A comma has no case either, and no letter becomes one. -/
theorem eq_comma_of_toLower (h : c.toLower = ',') : c = ',' := by
  unfold Char.toLower at h
  split at h
  · next hupper =>
    simp [Char.ext_iff, UInt32.le_iff_toNat_le, ← UInt32.toNat_inj] at h hupper
    omega
  · exact h

/-- What is no blank in lower case is none. -/
theorem isBlank_eq_false_of_toLower (h : isBlank c.toLower = false) : isBlank c = false := by
  cases hblank : isBlank c with
  | false => rfl
  | true => rwa [toLower_of_isBlank hblank, hblank] at h

/-- A text that is a word in lower case is a word. -/
theorem isWord_of_lower (h : IsWord (w.map Char.toLower)) : IsWord w where
  ne_nil := by
    rintro rfl
    exact h.ne_nil rfl
  isBlank_eq_false := fun c hc =>
    isBlank_eq_false_of_toLower (h.isBlank_eq_false c.toLower (List.mem_map_of_mem hc))

end KeyBench.Text
