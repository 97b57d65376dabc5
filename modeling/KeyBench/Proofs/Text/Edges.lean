import Mathlib.Data.List.Basic
import Mathlib.Data.List.TakeWhile
import KeyBench.Proofs.Text.Words

/-!
# Edges of a text

Trimming gives the part of a text that is between the blanks around it, whatever blanks are within
(`IsTrimmed.trim_append`). Cutting a text at its last blank gives what comes before that blank and
the run after it (`atLastBlank?_eq_some_iff`). If the text has been trimmed, the run is its last
word, and there are words before it (`IsTrimmed.words_eq_append`).

Cutting a text into lines takes off carriage returns and leaves out an empty last line
(`lines_intercalate`), neither of which holds a word.
-/

namespace KeyBench.Text

variable {s t v w name before between after : List Char} {c : Char}

/-! ## Trimmed texts -/

/-- Whether a text neither begins nor ends with a blank. -/
structure IsTrimmed (t : List Char) : Prop where
  head : ∀ c ∈ t.head?, isBlank c = false
  last : ∀ c ∈ t.getLast?, isBlank c = false

theorem isBlank_eq_false_of_mem_trimStart (h : c ∈ (trimStart t).head?) : isBlank c = false := by
  have hhead := List.head?_dropWhile_not isBlank t
  rw [Option.mem_def] at h
  rwa [← trimStart, h] at hhead

/-- **Trimming gives a trimmed text.** -/
theorem isTrimmed_trim (t : List Char) : IsTrimmed (trim t) where
  head := by
    intro c hc
    obtain ⟨after, hafter, _⟩ := exists_trimStart (trimStart t).reverse
    have hstart : trimStart t = trim t ++ after.reverse := by
      rw [trim, trimEnd, ← List.reverse_append, ← hafter, List.reverse_reverse]
    refine isBlank_eq_false_of_mem_trimStart (t := t) ?_
    rw [hstart, List.head?_append, hc]
    rfl
  last := by
    intro c hc
    rw [trim, trimEnd, List.getLast?_reverse] at hc
    exact isBlank_eq_false_of_mem_trimStart hc

theorem trimStart_eq_self (h : ∀ c ∈ t.head?, isBlank c = false) : trimStart t = t := by
  cases t with
  | nil => rfl
  | cons c cs =>
    refine List.dropWhile_cons_of_neg ?_
    rw [h c rfl]
    exact nofun

/-- **Trimming takes the blanks around a trimmed text away.** -/
theorem IsTrimmed.trim_append (h : IsTrimmed t) (hbefore : Blank before) (hafter : Blank after) :
    trim (before ++ t ++ after) = t := by
  by_cases ht : t = []
  · rw [ht, List.append_nil, trim_eq_nil_iff]
    exact hbefore.append hafter
  · have hstart : trimStart (t ++ after) = t ++ after := by
      refine trimStart_eq_self ?_
      rw [List.head?_append_of_ne_nil t ht]
      exact h.head
    have hend : trimStart t.reverse = t.reverse := by
      refine trimStart_eq_self ?_
      rw [List.head?_reverse]
      exact h.last
    rw [trim, List.append_assoc, trimStart_blank_append hbefore, hstart, trimEnd,
      List.reverse_append, trimStart_blank_append hafter.reverse, hend, List.reverse_reverse]

/-- Blanks after a text do not matter to trimming. -/
theorem trim_append_blank (t : List Char) (hafter : Blank after) : trim (t ++ after) = trim t := by
  obtain ⟨before, after', ht, hbefore, hafter'⟩ := exists_trim t
  have hall : t ++ after = before ++ trim t ++ (after' ++ after) := by
    rw [← List.append_assoc, ← ht]
  rw [hall, (isTrimmed_trim t).trim_append hbefore (hafter'.append hafter)]

/-- A text is trimmed if what is at its edges is. -/
theorem IsTrimmed.append (hv : IsTrimmed v) (hvne : v ≠ []) (s : List Char) (hw : IsTrimmed w)
    (hwne : w ≠ []) : IsTrimmed (v ++ s ++ w) where
  head := by
    rw [List.append_assoc, List.head?_append_of_ne_nil v hvne]
    exact hv.head
  last := by
    rw [List.getLast?_append_of_ne_nil _ hwne]
    exact hw.last

theorem IsWord.isTrimmed (h : IsWord w) : IsTrimmed w where
  head := fun c hc => h.isBlank_eq_false c (List.mem_of_mem_head? hc)
  last := fun c hc => h.isBlank_eq_false c (List.mem_of_mem_getLast? hc)

/-- A text that is trimmed in lower case is trimmed. -/
theorem isTrimmed_of_lower (h : IsTrimmed (t.map Char.toLower)) : IsTrimmed t where
  head := by
    intro c hc
    refine isBlank_eq_false_of_toLower (h.head c.toLower ?_)
    rw [List.head?_map]
    exact Option.mem_map_of_mem _ hc
  last := by
    intro c hc
    refine isBlank_eq_false_of_toLower (h.last c.toLower ?_)
    rw [List.getLast?_map]
    exact Option.mem_map_of_mem _ hc

/-! ## Cutting at the last blank -/

theorem atLastBlank?_eq_none (h : ∀ x ∈ t, isBlank x = false) : atLastBlank? t = none := by
  have hdrop : t.reverse.dropWhile (fun x => !isBlank x) = [] := by
    rw [List.dropWhile_eq_nil_iff]
    intro x hx
    rw [h x (List.mem_reverse.mp hx)]
    rfl
  rw [atLastBlank?, hdrop]

theorem atLastBlank?_append_cons (hc : isBlank c = true) (hw : ∀ x ∈ w, isBlank x = false) :
    atLastBlank? (name ++ c :: w) = some (name, w) := by
  have hreverse : (name ++ c :: w).reverse = w.reverse ++ c :: name.reverse := by
    rw [List.reverse_append, List.reverse_cons, List.append_assoc, List.singleton_append]
  have hw' : ∀ x ∈ w.reverse, (!isBlank x) = true := by
    intro x hx
    rw [hw x (List.mem_reverse.mp hx)]
    rfl
  have hc' : ¬(!isBlank c) = true := by
    rw [hc]
    exact nofun
  have hdrop : (c :: name.reverse).dropWhile (fun x => !isBlank x) = c :: name.reverse :=
    List.dropWhile_cons_of_neg hc'
  have htake : (c :: name.reverse).takeWhile (fun x => !isBlank x) = [] :=
    List.takeWhile_cons_of_neg hc'
  rw [atLastBlank?, hreverse, List.dropWhile_append_of_pos hw', List.takeWhile_append_of_pos hw',
    hdrop, htake]
  simp only [List.append_nil, List.reverse_reverse]

/-- A word is cut off at the last of the blanks before it. -/
theorem exists_atLastBlank?_append_word (name : List Char) (hbetween : Blank between)
    (hne : between ≠ []) (hw : IsWord w) :
    ∃ blanks, Blank blanks ∧ atLastBlank? (name ++ between ++ w) = some (name ++ blanks, w) := by
  obtain ⟨blanks, c, rfl⟩ := (List.eq_nil_or_concat' between).resolve_left hne
  have hblanks : Blank blanks := fun b hb => hbetween b (List.mem_append_left _ hb)
  have hc : isBlank c = true := hbetween c (List.mem_append_right _ List.mem_cons_self)
  refine ⟨blanks, hblanks, ?_⟩
  rw [← List.append_assoc, List.append_assoc (name ++ blanks), List.singleton_append]
  exact atLastBlank?_append_cons hc hw.isBlank_eq_false

/-- **A text is cut at the blank after which there is none.** -/
theorem atLastBlank?_eq_some_iff : atLastBlank? t = some (name, w) ↔
    ∃ c, t = name ++ c :: w ∧ isBlank c = true ∧ ∀ x ∈ w, isBlank x = false := by
  constructor
  · intro h
    obtain ⟨run, rest, hcut, hrun, hrest⟩ := exists_run (fun c => !isBlank c) t.reverse
    simp only [Bool.not_eq_true', Bool.not_eq_false'] at hrun hrest
    have hrun' : ∀ x ∈ run.reverse, isBlank x = false := fun x hx => hrun x (List.mem_reverse.mp hx)
    have ht : t = rest.reverse ++ run.reverse := by
      rw [← List.reverse_append, ← hcut, List.reverse_reverse]
    cases rest with
    | nil =>
      rw [ht, List.reverse_nil, List.nil_append, atLastBlank?_eq_none hrun'] at h
      cases h
    | cons c before =>
      rw [List.reverse_cons, List.append_assoc, List.singleton_append] at ht
      have hc : isBlank c = true := hrest c rfl
      rw [ht, atLastBlank?_append_cons hc hrun'] at h
      obtain ⟨rfl, rfl⟩ := Prod.mk.inj (Option.some.inj h)
      exact ⟨c, ht, hc, hrun'⟩
  · rintro ⟨c, rfl, hc, hw⟩
    exact atLastBlank?_append_cons hc hw

/-- **A trimmed text is cut into its last word and what holds the others**, of which there are
some. -/
theorem IsTrimmed.words_eq_append (h : IsTrimmed t) (hcut : atLastBlank? t = some (name, w)) :
    words t = words name ++ [w] ∧ words name ≠ [] := by
  obtain ⟨c, rfl, hc, hw⟩ := atLastBlank?_eq_some_iff.mp hcut
  constructor
  · have hword : IsWord w := by
      refine ⟨?_, hw⟩
      rintro rfl
      -- the text would end with the blank
      have hlast := h.last c List.getLast?_concat
      rw [hc] at hlast
      cases hlast
    rw [words_append_cons name w hc, words_of_isWord hword]
  · rw [Ne, words_eq_nil_iff]
    intro hblank
    -- the text would begin with a blank
    cases name with
    | nil =>
      have hhead := h.head c rfl
      rw [hc] at hhead
      cases hhead
    | cons d name =>
      have hhead := h.head d rfl
      rw [hblank d List.mem_cons_self] at hhead
      cases hhead

/-! ## Lines -/

/-- A line is trimmed to the same text with and without its carriage return. -/
theorem trim_withoutReturn (t : List Char) : trim (withoutReturn t) = trim t := by
  unfold withoutReturn
  split
  · next h =>
    obtain ⟨line, rfl⟩ := List.getLast?_eq_some_iff.mp h
    have hreturn : Blank ['\r'] := by decide
    rw [List.dropLast_concat, trim_append_blank line hreturn]
  · rfl

/-- **Lines that are joined are found again** but for carriage returns and an empty last line. -/
theorem lines_intercalate {ls : List (List Char)} (hls : ∀ l ∈ ls, '\n' ∉ l) (last : List Char)
    (hlast : '\n' ∉ last) :
    lines (['\n'].intercalate (ls ++ [last])) =
      ls.map withoutReturn ++ if last = [] then [] else [last] := by
  have hpieces : pieces (· == '\n') (['\n'].intercalate (ls ++ [last])) = ls ++ [last] := by
    refine pieces_intercalate_of_not_mem (by simp) ?_
    rw [List.forall_mem_append]
    exact ⟨hls, List.forall_mem_singleton.mpr hlast⟩
  rw [lines, hpieces, List.dropLast_concat, List.getLast?_concat]
  cases last <;> rfl

end KeyBench.Text
