import KeyBench.Proofs.Report.Members

/-!
# Deliveries

The reports arrive one after the other, and the events of each of them in some order. A list of
events is a delivery of the reports if it can be cut into one block for each report, in order, so
that a block is a permutation of what its report holds.

A delivery is followed one event at a time by `isDelivery_cons_cons`: the first event is taken from
the first report, and the others are a delivery of what is left.
-/

namespace KeyBench.Report

variable {r s : Report} {rs ss : List Report} {e : Event} {es : List Event}

/-- Whether the reports can arrive as a list of events. -/
def IsDelivery (rs : List Report) (es : List Event) : Prop :=
  ∃ blocks : List (List Event), blocks.flatten = es ∧
    List.Forall₂ (fun block r => block.Perm r.events) blocks rs

/-! ## Block by block -/

@[simp] theorem isDelivery_nil : IsDelivery [] es ↔ es = [] := by
  constructor
  · rintro ⟨blocks, rfl, hblocks⟩
    rw [List.forall₂_nil_right_iff.mp hblocks, List.flatten_nil]
  · rintro rfl
    exact ⟨[], rfl, .nil⟩

theorem isDelivery_cons : IsDelivery (r :: rs) es ↔
    ∃ block rest, block ++ rest = es ∧ block.Perm r.events ∧ IsDelivery rs rest := by
  constructor
  · rintro ⟨blocks, rfl, hblocks⟩
    obtain ⟨block, blocks', hblock, hblocks', rfl⟩ := List.forall₂_cons_right_iff.mp hblocks
    exact ⟨block, blocks'.flatten, rfl, hblock, blocks', rfl, hblocks'⟩
  · rintro ⟨block, rest, rfl, hblock, blocks, rfl, hblocks⟩
    exact ⟨block :: blocks, rfl, .cons hblock hblocks⟩

/-- The events of each report may be put in any order. -/
theorem isDelivery_flatMap_of_perm {order : Report → List Event}
    (horder : ∀ r, (order r).Perm r.events) :
    ∀ rs : List Report, IsDelivery rs (rs.flatMap order)
  | [] => isDelivery_nil.mpr rfl
  | r :: rs => isDelivery_cons.mpr
      ⟨order r, rs.flatMap order, rfl, horder r, isDelivery_flatMap_of_perm horder rs⟩

/-- The reports can arrive as they are kept. -/
theorem isDelivery_flatMap (rs : List Report) : IsDelivery rs (rs.flatMap events) :=
  isDelivery_flatMap_of_perm (fun r => .refl r.events) rs

/-- A delivery holds what the reports hold. -/
theorem IsDelivery.perm (h : IsDelivery rs es) : es.Perm (rs.flatMap events) := by
  induction rs generalizing es with
  | nil => rw [isDelivery_nil.mp h, List.flatMap_nil]
  | cons r rs ih =>
    obtain ⟨block, rest, rfl, hblock, hrest⟩ := isDelivery_cons.mp h
    rw [List.flatMap_cons]
    exact hblock.append (ih hrest)

theorem not_isDelivery_cons_nil (hr : r.events ≠ []) : ¬IsDelivery (r :: rs) [] := by
  intro h
  obtain ⟨block, rest, hcut, hblock, _⟩ := isDelivery_cons.mp h
  rw [(List.append_eq_nil_iff.mp hcut).1] at hblock
  exact hr hblock.symm.eq_nil

/-- What the reports hold decides as what they can arrive, not how they are kept. -/
theorem isDelivery_congr (h : List.Forall₂ (fun r s => r.events.Perm s.events) rs ss) :
    IsDelivery rs es ↔ IsDelivery ss es := by
  induction h generalizing es with
  | nil => exact .rfl
  | cons hr _ ih =>
    simp only [isDelivery_cons, ih]
    constructor
    · rintro ⟨block, rest, hcut, hblock, hrest⟩
      exact ⟨block, rest, hcut, hblock.trans hr, hrest⟩
    · rintro ⟨block, rest, hcut, hblock, hrest⟩
      exact ⟨block, rest, hcut, hblock.trans hr.symm, hrest⟩

/-- **Events that no report holds two different ones of arrive in their order.** -/
theorem IsDelivery.filter_eq {p : Event → Bool} (h : IsDelivery rs es)
    (hp : ∀ r ∈ rs, ∀ e ∈ r.events, ∀ f ∈ r.events, p e = true → p f = true → e = f) :
    es.filter p = (rs.flatMap events).filter p := by
  induction rs generalizing es with
  | nil => rw [isDelivery_nil.mp h, List.flatMap_nil]
  | cons r rs ih =>
    obtain ⟨block, rest, rfl, hblock, hrest⟩ := isDelivery_cons.mp h
    have htrivial (l : List Event) : l.Pairwise fun _ _ => True :=
      List.pairwise_of_forall fun _ _ => trivial
    -- the selected events of the block are those of the report in some order, and all are equal
    have heq : block.filter p = r.events.filter p := by
      refine (hblock.filter p).eq_of_pairwise ?_ (htrivial _) (htrivial _)
      intro e f he hf _ _
      obtain ⟨he, hpe⟩ := List.mem_filter.mp he
      obtain ⟨hf, hpf⟩ := List.mem_filter.mp hf
      exact hp r List.mem_cons_self e (hblock.subset he) f hf hpe hpf
    rw [List.flatMap_cons, List.filter_append, List.filter_append, heq,
      ih hrest fun s hs => hp s (List.mem_cons_of_mem _ hs)]

/-! ## Event by event -/

/-- A report of which nothing is left delivers nothing. -/
theorem isDelivery_ite : IsDelivery (if r.isEmpty then rs else r :: rs) es ↔
    IsDelivery (r :: rs) es := by
  by_cases h : r.isEmpty = true
  · rw [if_pos h, isDelivery_cons, isEmpty_iff.mp h]
    constructor
    · intro hes
      exact ⟨[], es, rfl, .refl [], hes⟩
    · rintro ⟨block, rest, rfl, hblock, hrest⟩
      rwa [hblock.eq_nil, List.nil_append]
  · rw [if_neg h]

/-- **A delivery takes its first event from the first report.** -/
theorem isDelivery_cons_cons (hr : r.events ≠ []) : IsDelivery (r :: rs) (e :: es) ↔
    ∃ rest, r.take? e = some rest ∧ IsDelivery (rest :: rs) es := by
  constructor
  · intro h
    obtain ⟨block, later, hcut, hblock, hlater⟩ := isDelivery_cons.mp h
    cases block with
    | nil => exact absurd hblock.symm.eq_nil hr
    | cons e' block =>
      obtain ⟨rfl, rfl⟩ := List.cons_eq_cons.mp hcut
      obtain ⟨rest, hrest⟩ := exists_take?_iff.mpr (hblock.subset List.mem_cons_self)
      have hperm : (e' :: block).Perm (e' :: rest.events) :=
        hblock.trans (perm_cons_of_take? hrest).symm
      exact ⟨rest, hrest, isDelivery_cons.mpr ⟨block, later, rfl, hperm.cons_inv, hlater⟩⟩
  · rintro ⟨rest, hrest, h⟩
    obtain ⟨block, later, rfl, hblock, hlater⟩ := isDelivery_cons.mp h
    refine isDelivery_cons.mpr ⟨e :: block, later, rfl, ?_, hlater⟩
    exact (hblock.cons e).trans (perm_cons_of_take? hrest)

end KeyBench.Report
