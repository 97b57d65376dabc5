import Mathlib.Data.List.Nodup
import KeyBench.Key.Lookup
import KeyBench.Proofs.Text.Words

/-!
# What the look-ups find

A look-up goes through the table of all keys and takes the first one that has what is looked for
(`Key.findBy`). Every key has a slot of its own, and a host name of its own even if the case of the
letters is left out of account. So where a key stands in the table does not matter: it is found by
its slot (`Key.ofSlot_eq_ok_iff`) and by its host name in any case (`Key.ofHostName_eq_ok_iff`), and
nothing else finds it. The same holds of the names in the notation (`Key.ofName_eq_ok_iff`). They
are words, and only that of the comma key has a comma. The audit of the tables always succeeds
(`Key.auditTables_eq_ok`).
-/

namespace KeyBench.Key

variable {j k : Key}

/-- A member of a list is found by a mark that no other member has. -/
theorem find?_mark_eq_some_iff {α β : Type} [BEq β] [LawfulBEq β] {mark : α → β} {l : List α}
    (hl : (l.map mark).Nodup) {x : α} (hx : x ∈ l) {m : β} :
    l.find? (fun y => mark y == m) = some x ↔ m = mark x := by
  constructor
  · intro h
    have hmark := List.find?_some h
    exact (beq_iff_eq.mp hmark).symm
  · rintro rfl
    have hsome : (l.find? fun y => mark y == mark x).isSome := by
      rw [List.find?_isSome]
      exact ⟨x, hx, beq_self_eq_true _⟩
    obtain ⟨y, hy⟩ := Option.isSome_iff_exists.mp hsome
    have hmark := List.find?_some hy
    rw [hy, List.inj_on_of_nodup_map hl (List.mem_of_find?_eq_some hy) hx (beq_iff_eq.mp hmark)]

/-- The key that has a mark, or the reason for which the mark is refused. -/
def findBy {β : Type} [BEq β] (mark : Key → β) (reason : KeyError) (m : β) : Except KeyError Key :=
  match all.find? fun k => mark k == m with
  | some k => .ok k
  | none => .error reason

section findBy

variable {β : Type} [BEq β] [LawfulBEq β] {mark : Key → β} {reason cause : KeyError} {m : β}

/-- **A key is found by its own mark**, if no two keys share one. -/
theorem findBy_eq_ok_iff (h : (all.map mark).Nodup) :
    findBy mark reason m = .ok k ↔ m = mark k := by
  rw [← find?_mark_eq_some_iff h (mem_all k), findBy]
  cases all.find? fun k => mark k == m <;> simp

/-- **What is no key's mark is refused.** -/
theorem findBy_eq_error_iff (h : (all.map mark).Nodup) :
    findBy mark reason m = .error cause ↔ (∀ k, m ≠ mark k) ∧ cause = reason := by
  cases hfound : findBy mark reason m with
  | ok k =>
    have hm := (findBy_eq_ok_iff h).mp hfound
    simp only [reduceCtorEq, false_iff, not_and]
    intro hnone
    exact absurd hm (hnone k)
  | error given =>
    have hnone (k : Key) : m ≠ mark k := by
      intro hm
      rw [(findBy_eq_ok_iff h).mpr hm] at hfound
      cases hfound
    have hgiven : given = reason := by
      unfold findBy at hfound
      split at hfound <;> cases hfound
      rfl
    simp [hnone, hgiven, eq_comm]

end findBy

/-! ## Slots -/

theorem nodup_slot : (all.map slot).Nodup := by decide +kernel

theorem slot_inj (h : j.slot = k.slot) : j = k :=
  List.inj_on_of_nodup_map nodup_slot (mem_all j) (mem_all k) h

theorem ofSlot_eq_findBy (b : UInt8) : ofSlot b = findBy slot (.unknownSlot b) b := rfl

/-- **A key is found in its own slot, and in no other.** -/
theorem ofSlot_eq_ok_iff {slot : UInt8} : ofSlot slot = .ok k ↔ slot = k.slot := by
  rw [ofSlot_eq_findBy, findBy_eq_ok_iff nodup_slot]

/-- **A slot that no key has is refused.** -/
theorem ofSlot_eq_error_iff {slot : UInt8} {cause : KeyError} :
    ofSlot slot = .error cause ↔ (∀ k : Key, k.slot ≠ slot) ∧ cause = .unknownSlot slot := by
  rw [ofSlot_eq_findBy, findBy_eq_error_iff nodup_slot]
  simp only [ne_comm]

/-- The table of the keys rises by their slots. -/
theorem pairwise_slot : all.Pairwise fun j k => j.slot < k.slot := by decide +kernel

/-- The first key in the table with some property has the lowest slot of all these. -/
theorem slot_le_of_find?_all {p : Key → Bool} (h : all.find? p = some k) (hj : p j = true) :
    k.slot ≤ j.slot := by
  obtain ⟨_, before, after, hall, hbefore⟩ := List.find?_eq_some_iff_append.mp h
  have hsorted := pairwise_slot
  have hmem := mem_all j
  rw [hall] at hsorted hmem
  rw [List.mem_append, List.mem_cons] at hmem
  rcases hmem with hmem | rfl | hmem
  · have hnot := hbefore j hmem
    simp [hj] at hnot
  · exact UInt8.le_refl _
  · have hafter := (List.pairwise_append.mp hsorted).2.1
    exact UInt8.le_of_lt ((List.pairwise_cons.mp hafter).1 j hmem)

/-- **Of the keys with some property the one with the lowest slot is found first.** -/
theorem find?_all_eq_some_iff {p : Key → Bool} :
    all.find? p = some k ↔ p k = true ∧ ∀ j, p j = true → k.slot ≤ j.slot := by
  constructor
  · intro h
    exact ⟨List.find?_some h, fun j => slot_le_of_find?_all h⟩
  · rintro ⟨hk, hle⟩
    have hsome : (all.find? p).isSome := List.find?_isSome.mpr ⟨k, mem_all k, hk⟩
    obtain ⟨j, hj⟩ := Option.isSome_iff_exists.mp hsome
    have hslot := UInt8.le_antisymm (hle j (List.find?_some hj)) (slot_le_of_find?_all hj hk)
    rw [hj, slot_inj hslot]

/-! ## Host names -/

theorem nodup_lower_hostName : (all.map fun k => Text.lower k.hostName).Nodup := by
  decide +kernel

theorem ofHostName_eq_findBy (text : String) : ofHostName text =
    findBy (fun k => Text.lower k.hostName) (.unknownName text) (Text.lower text) := rfl

/-- **A key is found by its host name in any case, and by no other name.** -/
theorem ofHostName_eq_ok_iff {text : String} :
    ofHostName text = .ok k ↔ Text.lower text = Text.lower k.hostName := by
  rw [ofHostName_eq_findBy, findBy_eq_ok_iff nodup_lower_hostName]

/-- A host name in capital letters is still that name. -/
theorem lower_upper_hostName (k : Key) :
    Text.lower (String.ofList (k.hostName.toList.map Char.toUpper)) = Text.lower k.hostName := by
  have htable : ∀ j ∈ all,
      Text.lower (String.ofList (j.hostName.toList.map Char.toUpper)) = Text.lower j.hostName := by
    decide +kernel
  exact htable k (mem_all k)

/-! ## Names in the notation -/

theorem nodup_lower_name : (all.map fun k => Text.lower k.name).Nodup := by decide +kernel

theorem ofName_eq_findBy (text : String) : ofName text =
    findBy (fun k => Text.lower k.name) (.unknownName text) (Text.lower text) := rfl

/-- **A key is found by its name in any case, and by no other name.** -/
theorem ofName_eq_ok_iff {text : String} :
    ofName text = .ok k ↔ Text.lower text = Text.lower k.name := by
  rw [ofName_eq_findBy, findBy_eq_ok_iff nodup_lower_name]

theorem isWord_lower_name (k : Key) : Text.IsWord (Text.lower k.name) := by
  have htable : ∀ j ∈ all, Text.IsWord (Text.lower j.name) := by decide +kernel
  exact htable k (mem_all k)

/-- Only the comma key has a comma in its name. -/
theorem comma_not_mem_lower_name (h : k ≠ .comma) : ',' ∉ Text.lower k.name := by
  have htable : ∀ j ∈ all, j ≠ .comma → ',' ∉ Text.lower j.name := by decide +kernel
  exact htable k (mem_all k) h

/-! ## The audit -/

/-- **No two keys have a name, a host name or a usage in common**, so the audit succeeds. -/
theorem auditTables_eq_ok : auditTables = .ok () := by
  have hok : auditTables.isOk := by decide +kernel
  generalize auditTables = audit at hok ⊢
  cases audit with
  | error e => cases hok
  | ok => rfl

end KeyBench.Key
