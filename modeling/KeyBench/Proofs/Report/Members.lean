import Mathlib.Data.List.Forall2
import KeyBench.Forecast
import KeyBench.Proofs.Event.Order

/-!
# The members of a report

A report is kept as a list, of which only the members count.

* `alike_iff_perm` : two reports are alike if one is a permutation of the other
* `Forecast.alike_iff` : the same for forecasts, report by report
* `exists_take?_iff` : an event can be taken exactly from a report that holds it
* `Forecast.take?_eq_some_iff` : a forecast takes it from its first report
-/

namespace KeyBench

namespace Report

theorem alike_iff_perm {r s : Report} : r.alike s = true ↔ r.events.Perm s.events := by
  simp only [alike, sorted, beq_iff_eq, Event.sort_eq_sort_iff]

theorem allAlike_iff : ∀ {rs ss : List Report},
    allAlike rs ss = true ↔ List.Forall₂ (fun r s => r.events.Perm s.events) rs ss
  | [], [] => by simp [allAlike]
  | [], _ :: _ => by simp [allAlike]
  | _ :: _, [] => by simp [allAlike]
  | r :: rs, s :: ss => by
    rw [allAlike, Bool.and_eq_true, alike_iff_perm, allAlike_iff, List.forall₂_cons]

/-- Reports that are alike one by one hold the same events together. -/
theorem flatMap_events_perm {rs ss : List Report}
    (h : List.Forall₂ (fun r s => r.events.Perm s.events) rs ss) :
    (rs.flatMap events).Perm (ss.flatMap events) := by
  induction h with
  | nil => exact .refl _
  | cons hr _ ih => simpa only [List.flatMap_cons] using hr.append ih

/-! ## Taking an event -/

theorem isEmpty_iff {r : Report} : r.isEmpty = true ↔ r.events = [] := List.isEmpty_iff

theorem exists_take?_iff {r : Report} {e : Event} :
    (∃ rest, r.take? e = some rest) ↔ e ∈ r.events := by
  rw [← Bag.remove?_isSome_iff, Option.isSome_iff_exists]
  simp only [take?, Option.map_eq_some_iff]
  constructor
  · rintro ⟨_, es, hes, _⟩
    exact ⟨es, hes⟩
  · rintro ⟨es, hes⟩
    exact ⟨⟨es⟩, es, hes, rfl⟩

/-- The event taken and what is left make up the report. -/
theorem perm_cons_of_take? {r rest : Report} {e : Event} (h : r.take? e = some rest) :
    (e :: rest.events).Perm r.events := by
  obtain ⟨es, hes, rfl⟩ := Option.map_eq_some_iff.mp h
  exact Bag.perm_cons_of_remove? hes

end Report

namespace Forecast

/-- **Two forecasts are alike if and only if their reports are permutations of each other, one by
one, and they count the same number of events.** -/
theorem alike_iff {p q : Forecast} : p.alike q = true ↔
    List.Forall₂ (fun r s => r.events.Perm s.events) p.reports q.reports ∧
      p.outstanding = q.outstanding := by
  simp only [alike, Bool.and_eq_true, Report.allAlike_iff, beq_iff_eq]

/-- **An event is seen by taking it from the first report.** -/
theorem take?_eq_some_iff {q q' : Forecast} {e : Event} : q.take? e = some q' ↔
    ∃ r rs rest, q.reports = r :: rs ∧ r.take? e = some rest ∧
      q' = ⟨if rest.isEmpty then rs else rest :: rs, q.outstanding - 1⟩ := by
  unfold take?
  constructor
  · intro h
    split at h
    · cases h
    · next r rs hrs =>
      split at h
      · cases h
      · next rest hrest => exact ⟨r, rs, rest, hrs, hrest, (Option.some.inj h).symm⟩
  · rintro ⟨r, rs, rest, hrs, hrest, rfl⟩
    simp only [hrs, hrest]

/-- No report is left empty when an event is seen. -/
theorem ne_nil_of_take? {q q' : Forecast} {e : Event} (h : q.take? e = some q')
    (hq : ∀ r ∈ q.reports, r.events ≠ []) : ∀ r ∈ q'.reports, r.events ≠ [] := by
  obtain ⟨r, rs, rest, hrs, _, rfl⟩ := take?_eq_some_iff.mp h
  rw [hrs] at hq
  intro s hs
  dsimp only at hs
  split at hs
  · exact hq s (List.mem_cons_of_mem _ hs)
  · next hne =>
    rcases List.mem_cons.mp hs with rfl | hs
    · exact fun hnil => hne (Report.isEmpty_iff.mpr hnil)
    · exact hq s (List.mem_cons_of_mem _ hs)

end Forecast

end KeyBench
