import KeyBench.Proofs.Event.Histories

/-!
# Strokes

In a sequence that can be played every press has its release: the next event of the key
(`exists_release_of_press`). So such a sequence has as many releases as presses
(`length_of_checkSequence`).
-/

namespace KeyBench.Event

variable {es past rest : List Event} {k : Key}

/-- The next event of a key after its press is its release. -/
theorem exists_release_of_press (hplay : checkSequence es = .ok ())
    (hcut : es = past ++ press k :: rest) :
    ∃ between later, rest = between ++ release k :: later ∧ ∀ e ∈ between, e.key ≠ k := by
  have hhistory := checkSequence_eq_ok_iff.mp hplay k
  have hself : history k (press k :: rest) = press k :: history k rest := history_cons_self
  rw [hcut, history_append, hself] at hhistory
  cases hrest : history k rest with
  | nil =>
    rw [hrest] at hhistory
    have hlast := hhistory.isPress_last
    simp [press, isPress] at hlast
  | cons f fs =>
    rw [hrest] at hhistory
    have hne := hhistory.isPress_ne
    obtain ⟨between, later, rfl, hbetween, hf, _⟩ := List.filter_eq_cons_iff.mp hrest
    obtain ⟨j, d⟩ := f
    obtain rfl : j = k := of_decide_eq_true hf
    refine ⟨between, later, ?_, fun e he => by simpa using hbetween e he⟩
    cases d with
    | press => simp [press, isPress] at hne
    | release => rfl

/-- Every key that is down or goes down comes up. -/
theorem length_of_checkFrom : ∀ {es : List Event} {held : List Key} {index : Nat},
    checkFrom held index es = .ok () → es.length = 2 * es.countP isPress + held.length
  | [], held, index, h => by
    rw [List.eq_nil_iff_forall_not_mem.mpr (checkFrom_nil.mp h)]
    rfl
  | ⟨k, .press⟩ :: es, held, index, h => by
    rw [checkFrom] at h
    split at h
    · cases h
    · have ih := length_of_checkFrom h
      have hcount : (⟨k, .press⟩ :: es).countP isPress = es.countP isPress + 1 :=
        List.countP_cons_of_pos rfl
      rw [List.length_cons] at ih ⊢
      omega
  | ⟨k, .release⟩ :: es, held, index, h => by
    rw [checkFrom] at h
    split at h
    · next hk =>
      have ih := length_of_checkFrom h
      have hpos := List.length_pos_of_mem hk
      have hcount : (⟨k, .release⟩ :: es).countP isPress = es.countP isPress :=
        List.countP_cons_of_neg (by simp [isPress])
      rw [List.length_erase_of_mem hk] at ih
      rw [List.length_cons]
      omega
    · cases h

/-- **A sequence that can be played has as many releases as presses.** -/
theorem length_of_checkSequence (h : checkSequence es = .ok ()) :
    es.length = 2 * es.countP isPress := length_of_checkFrom h

end KeyBench.Event
