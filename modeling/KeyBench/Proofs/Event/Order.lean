import KeyBench.Event
import KeyBench.Proofs.Key.Lookup

/-!
# The order of events

`Event.sort` brings a list of events into the order of their ranks. A rank belongs to one event
only, so the sorted list no longer shows in which order the events were listed, but still shows
which events they were and how often each of them was there (`sort_eq_sort_iff`).
-/

namespace KeyBench

namespace Direction

theorem flag_toNat_lt (d : Direction) : d.flag.toNat < 2 := by cases d <;> decide

theorem flag_inj {d d' : Direction} (h : d.flag = d'.flag) : d = d' := by
  have hd : ofFlag? d.flag = some d := ofFlag?_eq_some_iff.mpr rfl
  rw [h, ofFlag?_eq_some_iff.mpr rfl] at hd
  exact (Option.some.inj hd).symm

/-- Every byte above 1 is no flag. -/
theorem ofFlag?_eq_none_iff {b : UInt8} : ofFlag? b = none ↔ 1 < b := by
  unfold ofFlag?
  rw [UInt8.lt_iff_toNat_lt]
  split
  · next h => simp [h]
  · next h₀ =>
    split
    · next h => simp [h]
    · next h₁ =>
      rw [← UInt8.toNat_inj] at h₀ h₁
      simp at h₀ h₁ ⊢
      omega

end Direction

namespace Event

/-- **Different events have different ranks.** -/
theorem rank_inj {e f : Event} (h : e.rank = f.rank) : e = f := by
  obtain ⟨j, d⟩ := e
  obtain ⟨k, d'⟩ := f
  have hd := d.flag_toNat_lt
  have hd' := d'.flag_toNat_lt
  simp only [rank] at h
  have hslot : j.slot = k.slot := UInt8.toNat_inj.mp (by omega)
  have hflag : d.flag = d'.flag := UInt8.toNat_inj.mp (by omega)
  rw [Key.slot_inj hslot, Direction.flag_inj hflag]

/-- Sorting lists the same events. -/
theorem sort_perm (es : List Event) : (sort es).Perm es := List.mergeSort_perm es _

theorem pairwise_sort (es : List Event) : (sort es).Pairwise fun e f => e.rank ≤ f.rank := by
  have h : (sort es).Pairwise fun e f => decide (e.rank ≤ f.rank) = true := by
    refine List.pairwise_mergeSort ?_ ?_ es
    · intro e f g hef hfg
      simp only [decide_eq_true_eq] at hef hfg ⊢
      exact Nat.le_trans hef hfg
    · intro e f
      simp only [Bool.or_eq_true, decide_eq_true_eq]
      exact Nat.le_total e.rank f.rank
  exact h.imp of_decide_eq_true

/-- **Two lists are the same when sorted if and only if they hold the same events, each of them
equally often.** -/
theorem sort_eq_sort_iff {es fs : List Event} : sort es = sort fs ↔ es.Perm fs := by
  constructor
  · intro h
    exact (sort_perm es).symm.trans (h ▸ sort_perm fs)
  · intro h
    have hperm : (sort es).Perm (sort fs) := (sort_perm es).trans (h.trans (sort_perm fs).symm)
    exact hperm.eq_of_pairwise (fun e f _ _ hef hfe => rank_inj (Nat.le_antisymm hef hfe))
      (pairwise_sort es) (pairwise_sort fs)

end Event

end KeyBench
