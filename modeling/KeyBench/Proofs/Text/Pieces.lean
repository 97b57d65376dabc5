import KeyBench.Text.Blank

/-!
# Pieces of a text

Cutting a text at a character is undone by joining the pieces with that character
(`intercalate_pieces`), so the pieces determine the text. If texts are joined that may hold the
character themselves, the pieces are those of all of them, in their order (`pieces_intercalate`).
-/

namespace KeyBench.Text

variable {cut : Char → Bool} {c : Char} {s t p : List Char} {items : List (List Char)}

theorem pieces_eq_splitOnP (cut : Char → Bool) : ∀ cs, pieces cut cs = cs.splitOnP cut
  | [] => List.splitOnP_nil.symm
  | c :: cs => by
    rw [pieces, List.splitOnP_cons_eq_if_modifyHead, ← pieces_eq_splitOnP cut cs]
    split
    · rfl
    · cases h : pieces cut cs with
      | nil => exact absurd h (pieces_ne_nil cut cs)
      | cons p ps => rfl

/-- A text without a character to cut at is one piece. -/
theorem pieces_eq_singleton (h : ∀ c ∈ s, cut c = false) : pieces cut s = [s] := by
  rw [pieces_eq_splitOnP]
  exact List.splitOnP_eq_singleton h

/-- **No piece goes across a character that is cut at.** -/
theorem pieces_append_cons (s t : List Char) (hc : cut c = true) :
    pieces cut (s ++ c :: t) = pieces cut s ++ pieces cut t := by
  simp only [pieces_eq_splitOnP]
  exact List.splitOnP_append_cons s t hc

/-- What is cut at is in no piece. -/
theorem cut_eq_false_of_mem_pieces (hp : p ∈ pieces cut s) : ∀ c ∈ p, cut c = false := by
  induction s generalizing p with
  | nil =>
    rw [pieces, List.mem_singleton] at hp
    rw [hp]
    exact List.forall_mem_nil _
  | cons x s ih =>
    rw [pieces] at hp
    split at hp
    · rcases List.mem_cons.mp hp with rfl | hp
      · exact List.forall_mem_nil _
      · exact ih hp
    · next hx =>
      split at hp
      · next hnil => exact absurd hnil (pieces_ne_nil cut s)
      · next q ps hps =>
        rw [hps] at ih
        -- the first piece is that of the rest with one more character, which is not cut at
        rcases List.mem_cons.mp hp with rfl | hp
        · rw [List.forall_mem_cons]
          exact ⟨Bool.eq_false_iff.mpr hx, ih List.mem_cons_self⟩
        · exact ih (List.mem_cons_of_mem _ hp)

/-! ## Joining -/

/-- Texts are joined by putting the separator before every text but the first. -/
theorem intercalate_cons_eq (sep t : List Char) (ts : List (List Char)) :
    sep.intercalate (t :: ts) = t ++ ts.flatMap (sep ++ ·) := by
  induction ts generalizing t with
  | nil => rw [List.intercalate_singleton, List.flatMap_nil, List.append_nil]
  | cons u ts ih =>
    rw [List.intercalate_cons_cons, ih, List.flatMap_cons]
    simp only [List.append_assoc]

/-! ## Cutting at one character -/

/-- **Joining the pieces gives the text.** -/
theorem intercalate_pieces (c : Char) (s : List Char) :
    [c].intercalate (pieces (· == c) s) = s := by
  rw [pieces_eq_splitOnP]
  exact List.intercalate_splitOn c

theorem pieces_inj (h : pieces (· == c) s = pieces (· == c) t) : s = t := by
  rw [← intercalate_pieces c s, h, intercalate_pieces]

theorem not_mem_of_mem_pieces (h : p ∈ pieces (· == c) s) : c ∉ p := by
  intro hc
  have hcut := cut_eq_false_of_mem_pieces h c hc
  simp at hcut

theorem pieces_of_not_mem (h : c ∉ s) : pieces (· == c) s = [s] := by
  refine pieces_eq_singleton fun x hx => ?_
  rw [beq_eq_false_iff_ne]
  rintro rfl
  exact h hx

theorem pieces_append_char (s t : List Char) :
    pieces (· == c) (s ++ c :: t) = pieces (· == c) s ++ pieces (· == c) t :=
  pieces_append_cons s t (beq_self_eq_true c)

/-- **The pieces of texts that are joined are those of all of them.** -/
theorem pieces_intercalate : ∀ {items : List (List Char)}, items ≠ [] →
    pieces (· == c) ([c].intercalate items) = items.flatMap (pieces (· == c))
  | [], h => absurd rfl h
  | [item], _ => by
    rw [List.intercalate_singleton, List.flatMap_cons, List.flatMap_nil, List.append_nil]
  | item :: next :: items, _ => by
    rw [List.intercalate_cons_cons, List.append_assoc, List.singleton_append,
      pieces_append_char, pieces_intercalate (List.cons_ne_nil next items), ← List.flatMap_cons]

/-- The same if something follows, of whatever form. -/
theorem pieces_flatMap_append (items : List (List Char)) (t : List Char) :
    pieces (· == c) (items.flatMap (· ++ [c]) ++ t) =
      items.flatMap (pieces (· == c)) ++ pieces (· == c) t := by
  induction items with
  | nil => rfl
  | cons item items ih =>
    rw [List.flatMap_cons, List.append_assoc, List.append_assoc, List.singleton_append,
      pieces_append_char, ih, List.flatMap_cons, List.append_assoc]

/-- Texts without the character are the pieces of their join. -/
theorem pieces_intercalate_of_not_mem (hne : items ≠ []) (h : ∀ item ∈ items, c ∉ item) :
    pieces (· == c) ([c].intercalate items) = items := by
  rw [pieces_eq_splitOnP]
  exact List.splitOn_intercalate c h hne

end KeyBench.Text
