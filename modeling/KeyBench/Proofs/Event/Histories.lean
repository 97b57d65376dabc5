import KeyBench.Event.Sequence

/-!
# The histories of the keys

The history of a key is what a sequence does with it. A sequence can be played if and only if every
history alternates between press and release, begins with a press and ends with a release
(`checkSequence_eq_ok_iff`). How the histories are interleaved does not matter.
-/

namespace KeyBench.Event

variable {e : Event} {es : List Event} {down down' : Key → Bool}

/-- The events of a key, in their order. -/
def history (k : Key) (es : List Event) : List Event := es.filter fun e => e.key = k

/-- Whether the events of a key alternate and leave it up, given whether it is down before them. -/
def Alternates : Bool → List Event → Prop
  | down, [] => down = false
  | down, e :: es => e.isPress ≠ down ∧ Alternates (!down) es

theorem history_append (k : Key) (es fs : List Event) :
    history k (es ++ fs) = history k es ++ history k fs := List.filter_append ..

/-! ## Parts of a history -/

/-- What alternates still does so after some events of it. -/
theorem exists_alternates_of_append : ∀ {es : List Event} {down : Bool} {fs : List Event},
    Alternates down (es ++ fs) → ∃ down', Alternates down' fs
  | [], down, _, h => ⟨down, h⟩
  | _ :: _, _, _, h => exists_alternates_of_append h.2

/-- Two events that follow one another differ. -/
theorem Alternates.isPress_ne {down : Bool} {f : Event} {before after : List Event}
    (h : Alternates down (before ++ e :: f :: after)) : e.isPress ≠ f.isPress := by
  obtain ⟨down', he, hf, _⟩ := exists_alternates_of_append h
  intro heq
  rw [← heq] at hf
  cases hp : e.isPress <;> cases down' <;> simp_all

/-- The last event leaves the key up. -/
theorem Alternates.isPress_last {down : Bool} {before : List Event}
    (h : Alternates down (before ++ [e])) : e.isPress = false := by
  obtain ⟨down', he, hup⟩ := exists_alternates_of_append h
  simp only [Alternates, Bool.not_eq_false'] at hup
  rw [hup] at he
  simpa using he

/-! ## One event -/

theorem history_cons_self : history e.key (e :: es) = e :: history e.key es := by simp [history]

theorem history_cons_of_ne {k : Key} (h : k ≠ e.key) : history k (e :: es) = history k es := by
  simp [history, h.symm]

/-- An event that finds its key as it leaves it breaks the history of the key. -/
theorem not_alternates_cons (down : Key → Bool) (h : e.isPress = down e.key) :
    ¬∀ k, Alternates (down k) (history k (e :: es)) := by
  intro hall
  have hk := hall e.key
  rw [history_cons_self] at hk
  exact hk.1 h

/-- An event that turns its key, and leaves the others alone, is a step in every history. -/
theorem forall_alternates_cons (h : e.isPress ≠ down e.key) (hself : down' e.key = !down e.key)
    (hne : ∀ k, k ≠ e.key → down' k = down k) :
    (∀ k, Alternates (down k) (history k (e :: es))) ↔
      ∀ k, Alternates (down' k) (history k es) := by
  refine forall_congr' fun k => ?_
  by_cases hk : k = e.key
  · subst hk
    rw [history_cons_self, hself]
    exact and_iff_right h
  · rw [history_cons_of_ne hk, hne k hk]

/-! ## A sequence -/

/-- No key is blamed if and only if none is down. -/
theorem checkFrom_nil {held : List Key} {index : Nat} :
    checkFrom held index [] = .ok () ↔ ∀ k, k ∉ held := by
  rw [checkFrom]
  split
  · next k hk =>
    have hmem : k ∈ held := by simpa using List.find?_some hk
    simp only [reduceCtorEq, false_iff]
    exact fun hnone => hnone k hmem
  · next hnone =>
    rw [List.find?_eq_none] at hnone
    simp only [true_iff]
    intro k hk
    exact hnone k (Key.mem_all k) (by simpa using hk)

/-- **Playing succeeds if and only if every history alternates.** -/
theorem checkFrom_eq_ok_iff : ∀ {es : List Event} {held : List Key} {index : Nat}, held.Nodup →
    (checkFrom held index es = .ok () ↔ ∀ k, Alternates (decide (k ∈ held)) (history k es))
  | [], held, index, _ => by simp [checkFrom_nil, history, Alternates]
  | ⟨k, .press⟩ :: es, held, index, hnodup => by
    rw [checkFrom]
    by_cases hk : k ∈ held
    · rw [if_pos hk]
      simp only [reduceCtorEq, false_iff]
      exact not_alternates_cons (fun j => decide (j ∈ held)) (by simp [isPress, hk])
    · rw [if_neg hk, checkFrom_eq_ok_iff (List.nodup_cons.mpr ⟨hk, hnodup⟩)]
      refine (forall_alternates_cons ?_ ?_ ?_).symm
      · simp [isPress, hk]
      · simp [hk]
      · intro j hj
        simp [hj]
  | ⟨k, .release⟩ :: es, held, index, hnodup => by
    rw [checkFrom]
    by_cases hk : k ∈ held
    · rw [if_pos hk, checkFrom_eq_ok_iff (hnodup.erase k)]
      refine (forall_alternates_cons ?_ ?_ ?_).symm
      · simp [isPress, hk]
      · simp [hk, hnodup.mem_erase_iff]
      · intro j hj
        simp [hj, hnodup.mem_erase_iff]
    · rw [if_neg hk]
      simp only [reduceCtorEq, false_iff]
      exact not_alternates_cons (fun j => decide (j ∈ held)) (by simp [isPress, hk])

/-- **A sequence can be played if and only if every history in it alternates.** -/
theorem checkSequence_eq_ok_iff :
    checkSequence es = .ok () ↔ ∀ k, Alternates false (history k es) := by
  rw [checkSequence, checkFrom_eq_ok_iff List.nodup_nil]
  simp

end KeyBench.Event
