import KeyBench.Event.Sequence
import KeyBench.Proofs.Interleaving.Turns

/-!
# Every interleaving is complete

Between two turns the pool is in balance with the keys that are down: it holds one release for each
of them and no other release. So a legal event is there as long as the pool holds any: a press that
is not legal presses a key that is down, whose release is. From a balanced stage on

* the run goes on until the pool is empty
* its events can be played
* it presses every key as often as the pool does, and releases it as often
-/

namespace KeyBench

/-! ## Counting events -/

namespace Event

variable {j k : Key} {es : List Event}

@[simp] theorem count_press_press :
    (press k :: es).count (press j) = es.count (press j) + if k = j then 1 else 0 := by
  simp [List.count_cons, press]

@[simp] theorem count_press_release : (release k :: es).count (press j) = es.count (press j) := by
  simp [press, release]

@[simp] theorem count_release_press : (press k :: es).count (release j) = es.count (release j) := by
  simp [press, release]

@[simp] theorem count_release_release :
    (release k :: es).count (release j) = es.count (release j) + if k = j then 1 else 0 := by
  simp [List.count_cons, release]

end Event

namespace Interleaving

/-! ## The balance -/

variable {ρ : Type} {draw : Draw ρ} {s s' t : Stage ρ} {e : Event} {es : List Event}

/-- Whether the pool holds one release for each key that is down, and no other release. -/
structure Stage.Balanced (s : Stage ρ) : Prop where
  nodup : s.held.Nodup
  count_release : ∀ k, s.pool.count (Event.release k) = s.held.count k

namespace Stage.Balanced

theorem release_mem_iff (h : s.Balanced) {k : Key} : Event.release k ∈ s.pool ↔ k ∈ s.held := by
  rw [← List.count_pos_iff, h.count_release, List.count_pos_iff]

/-- **While the pool holds anything, something in it is legal.** -/
theorem legalPlaces_ne_nil (h : s.Balanced) (hne : s.pool ≠ []) :
    legalPlaces s.held s.pool ≠ [] := by
  obtain ⟨e, pool, hpool⟩ := List.exists_cons_of_ne_nil hne
  obtain ⟨f, hf, hlegal⟩ : ∃ f ∈ s.pool, isLegal s.held f = true := by
    -- if `e` is not legal, it presses a key that is down, and the release of that key is legal
    by_cases he : isLegal s.held e = true
    · exact ⟨e, by simp [hpool], he⟩
    · have hdown : e.key ∈ s.held := by
        simp only [isLegal, Bool.or_eq_true, not_or] at he
        simpa using he.2
      exact ⟨Event.release e.key, h.release_mem_iff.mpr hdown, rfl⟩
  obtain ⟨i, hi, rfl⟩ := List.getElem_of_mem hf
  have hplace : ⟨i, hi⟩ ∈ legalPlaces s.held s.pool := mem_legalPlaces_iff.mpr hlegal
  exact List.ne_nil_of_mem hplace

/-- **A turn keeps the balance.** -/
theorem turn (h : s.Balanced) (hturn : s.turn? draw = some (e, s')) : s'.Balanced := by
  rcases turn?_cases hturn with ⟨k, rest, _, hup, hperm, hheld, hpool⟩ | ⟨k, _, hperm, hheld⟩
  · refine ⟨hheld ▸ List.nodup_cons.mpr ⟨hup, h.nodup⟩, fun j => ?_⟩
    have hcount := h.count_release j
    rw [← hperm.count_eq, Event.count_release_press] at hcount
    rw [hheld, hpool, (List.perm_append_singleton _ _).count_eq, Event.count_release_release,
      List.count_cons, hcount]
    simp
  · refine ⟨hheld ▸ h.nodup.erase k, fun j => ?_⟩
    have hcount := h.count_release j
    rw [← hperm.count_eq, Event.count_release_release] at hcount
    rw [hheld, List.count_erase, ← hcount]
    simp only [beq_iff_eq, Nat.add_sub_cancel]

/-- A row of turns keeps the balance. -/
theorem turns (h : s.Balanced) (hturns : Turns draw s es t) : t.Balanced := by
  induction hturns with
  | nil => exact h
  | cons hturn _ ih => exact ih (h.turn hturn)

/-- **While the pool holds anything, a turn takes something legal from it.** -/
theorem exists_turn (h : s.Balanced) (hne : s.pool ≠ []) :
    ∃ place ∈ legalPlaces s.held s.pool, ∃ r,
      s.turn? draw = some (s.pool.get place, s.take place r) := by
  cases hturn : s.turn? draw with
  | none => exact absurd (turn?_eq_none_iff.mp hturn) (h.legalPlaces_ne_nil hne)
  | some step =>
    obtain ⟨e, s'⟩ := step
    obtain ⟨place, hplace, r, rfl, rfl⟩ := exists_place_of_turn? hturn
    exact ⟨place, hplace, r, rfl⟩

/-- A balanced stage without a turn has come to the end. -/
theorem pool_eq_nil_of_turn?_none (h : s.Balanced) (hturn : s.turn? draw = none) : s.pool = [] := by
  cases hpool : s.pool with
  | nil => rfl
  | cons e pool =>
    exact absurd (turn?_eq_none_iff.mp hturn) (h.legalPlaces_ne_nil (by simp [hpool]))

theorem held_eq_nil (h : s.Balanced) (hpool : s.pool = []) : s.held = [] := by
  rw [List.eq_nil_iff_forall_not_mem]
  intro k hk
  have hmem := h.release_mem_iff.mpr hk
  rw [hpool] at hmem
  cases hmem

/-- **A row of turns that empties the pool can be played.** -/
theorem checkFrom_eq_ok (h : s.Balanced) (hturns : Turns draw s es t) (hpool : t.pool = [])
    (index : Nat) : Event.checkFrom s.held index es = .ok () := by
  induction hturns generalizing index with
  | nil =>
    rw [h.held_eq_nil hpool]
    rfl
  | cons hturn _ ih =>
    have hrest := ih (h.turn hturn) hpool (index + 1)
    rcases turn?_cases hturn with ⟨k, rest, rfl, hup, _, hheld, _⟩ | ⟨k, rfl, hperm, hheld⟩
    · -- the key that is pressed is up
      rw [Event.press, Event.checkFrom, if_neg hup, ← hheld]
      exact hrest
    · -- the release was in the pool, so its key is down
      have hdown : k ∈ _ := h.release_mem_iff.mp (hperm.subset List.mem_cons_self)
      rw [Event.release, Event.checkFrom, if_pos hdown, ← hheld]
      exact hrest

end Stage.Balanced

/-! ## What is pressed and released -/

/-- Each press of the pool is taken once. -/
theorem Turns.count_press (h : Turns draw s es t) (k : Key) :
    es.count (Event.press k) + t.pool.count (Event.press k) = s.pool.count (Event.press k) := by
  induction h with
  | nil => simp
  | cons hturn _ ih =>
    rcases Stage.turn?_cases hturn with ⟨j, rest, rfl, _, hperm, _, hpool⟩ | ⟨j, rfl, hperm, _⟩
    · rw [hpool, (List.perm_append_singleton _ _).count_eq, Event.count_press_release] at ih
      rw [← hperm.count_eq, Event.count_press_press, Event.count_press_press]
      omega
    · rw [← hperm.count_eq, Event.count_press_release, Event.count_press_release, ih]

/-- Each release of the pool is taken once, and one for each press taken. -/
theorem Turns.count_release (h : Turns draw s es t) (k : Key) :
    es.count (Event.release k) + t.pool.count (Event.release k) =
      s.pool.count (Event.release k) + es.count (Event.press k) := by
  induction h with
  | nil => simp
  | cons hturn _ ih =>
    rcases Stage.turn?_cases hturn with ⟨j, rest, rfl, _, hperm, _, hpool⟩ | ⟨j, rfl, hperm, _⟩
    · rw [hpool, (List.perm_append_singleton _ _).count_eq, Event.count_release_release] at ih
      rw [← hperm.count_eq, Event.count_release_press, Event.count_release_press,
        Event.count_press_press]
      omega
    · rw [← hperm.count_eq, Event.count_release_release, Event.count_release_release,
        Event.count_press_release]
      omega

/-! ## Runs from the start -/

/-- The stage at which the interleaving of some keys starts. -/
def Stage.start (r : ρ) (keys : List Key) : Stage ρ := ⟨r, [], keys.map Event.press⟩

/-- The source that interleavings of several lists of keys, one after the other, leave. -/
def sourceAfter (draw : Draw ρ) (r : ρ) (calls : List (List Key)) : ρ :=
  calls.foldl (fun r keys => (ofKeys draw r keys).source) r

/-- An interleaver goes through the sources of its stream. -/
theorem stream_foldl_next (w : Interleaver) (calls : List (List Key)) :
    (calls.foldl (fun w keys => (w.next keys).2) w).stream =
      sourceAfter Random.Stream.draw w.stream calls := by
  induction calls generalizing w with
  | nil => rfl
  | cons keys calls ih => exact ih (w.next keys).2

theorem count_press_map (keys : List Key) (k : Key) :
    (keys.map Event.press).count (Event.press k) = keys.count k := by
  induction keys with
  | nil => rfl
  | cons j keys ih =>
    rw [List.map_cons, Event.count_press_press, ih, List.count_cons]
    simp only [beq_iff_eq]

theorem count_release_map (keys : List Key) (k : Key) :
    (keys.map Event.press).count (Event.release k) = 0 := by
  induction keys with
  | nil => rfl
  | cons j keys ih => rw [List.map_cons, Event.count_release_press, ih]

theorem poolWeight_map_press (keys : List Key) :
    poolWeight (keys.map Event.press) = 2 * keys.length := by
  induction keys with
  | nil => rfl
  | cons k keys ih =>
    simp only [List.map_cons, List.length_cons, poolWeight, ih, weight, Event.press]
    omega

theorem Stage.balanced_start (r : ρ) (keys : List Key) : (Stage.start r keys).Balanced where
  nodup := List.nodup_nil
  count_release := fun k => (count_release_map keys k).trans List.count_nil.symm

/-- The pool is empty after two turns for each key, and not before. -/
theorem Turns.pool_eq_nil_iff {r : ρ} {keys : List Key} (h : Turns draw (Stage.start r keys) es s) :
    s.pool = [] ↔ es.length = 2 * keys.length := by
  have hweight := h.length_add_poolWeight
  rw [show poolWeight (Stage.start r keys).pool = _ from poolWeight_map_press keys] at hweight
  rw [← poolWeight_eq_zero_iff]
  omega

section ofKeys

variable (draw : Draw ρ) (r : ρ) (keys : List Key) (k : Key)

/-- **A run from the start empties the pool.** -/
theorem exists_turns_ofKeys : ∃ t, Turns draw (Stage.start r keys) (ofKeys draw r keys).events t ∧
    t.pool = [] ∧ (ofKeys draw r keys).leftOver = t.pool := by
  obtain ⟨t, hturns, hend, hleft, _⟩ := turns_run draw (Stage.start r keys)
  have hbalanced := (Stage.balanced_start r keys).turns hturns
  exact ⟨t, hturns, hbalanced.pool_eq_nil_of_turn?_none hend, hleft⟩

theorem leftOver_ofKeys : (ofKeys draw r keys).leftOver = [] := by
  obtain ⟨t, _, hpool, hleft⟩ := exists_turns_ofKeys draw r keys
  exact hleft.trans hpool

theorem length_ofKeys : (ofKeys draw r keys).events.length = 2 * keys.length := by
  obtain ⟨t, hturns, hpool, _⟩ := exists_turns_ofKeys draw r keys
  exact hturns.pool_eq_nil_iff.mp hpool

/-- What is taken can be played. -/
theorem checkSequence_ofKeys : Event.checkSequence (ofKeys draw r keys).events = .ok () := by
  obtain ⟨t, hturns, hpool, _⟩ := exists_turns_ofKeys draw r keys
  exact (Stage.balanced_start r keys).checkFrom_eq_ok hturns hpool 0

theorem count_press_ofKeys :
    (ofKeys draw r keys).events.count (Event.press k) = keys.count k := by
  obtain ⟨t, hturns, hpool, _⟩ := exists_turns_ofKeys draw r keys
  have hcount := hturns.count_press k
  rw [hpool, List.count_nil, Nat.add_zero] at hcount
  exact hcount.trans (count_press_map keys k)

theorem count_release_ofKeys :
    (ofKeys draw r keys).events.count (Event.release k) = keys.count k := by
  obtain ⟨t, hturns, hpool, _⟩ := exists_turns_ofKeys draw r keys
  have hcount := hturns.count_release k
  have hstart : (Stage.start r keys).pool.count (Event.release k) = 0 := count_release_map keys k
  rw [hpool, List.count_nil, Nat.add_zero, hstart, Nat.zero_add] at hcount
  exact hcount.trans (count_press_ofKeys draw r keys k)

end ofKeys

theorem length_ofSeed (keys : List Key) (seed : UInt64) :
    (ofSeed keys seed).length = 2 * keys.length := length_ofKeys _ _ keys

theorem checkSequence_ofSeed (keys : List Key) (seed : UInt64) :
    Event.checkSequence (ofSeed keys seed) = .ok () := checkSequence_ofKeys _ _ keys

/-- **Every interleaving is complete, whatever is drawn.** Let interleavings of any lists of keys
have gone before. At every turn of the next one that starts with a pool that is not empty a place is
legal, and the event at such a place is taken. The pool is empty after as many turns as there are
events to come, two for each key, and not before. What is taken can be played, and presses and
releases every key as often as it is listed. The interleavings that a seed gives one after the other
are such ones, drawn from its stream. -/
theorem ofKeys_complete (draw : Draw ρ) (r : ρ) (earlier : List (List Key)) (keys : List Key) :
    let start := Stage.start (sourceAfter draw r earlier) keys
    let o := ofKeys draw start.source keys
    (∀ es s, Turns draw start es s →
      (s.pool = [] ↔ es.length = 2 * keys.length) ∧
      (s.pool ≠ [] → ∃ place ∈ legalPlaces s.held s.pool, ∃ r',
        s.turn? draw = some (s.pool.get place, s.take place r'))) ∧
    (∃ t, Turns draw start o.events t ∧ t.pool = []) ∧
    o.leftOver = [] ∧ o.events.length = 2 * keys.length ∧
    Event.checkSequence o.events = .ok () ∧
    (∀ k, o.events.count (Event.press k) = keys.count k ∧
      o.events.count (Event.release k) = keys.count k) ∧
    ∀ w : Interleaver, ((earlier.foldl (fun w keys => (w.next keys).2) w).next keys).1 =
      (ofKeys Random.Stream.draw
        (sourceAfter Random.Stream.draw w.stream earlier) keys).events := by
  intro start o
  obtain ⟨t, hturns, hpool, _⟩ := exists_turns_ofKeys draw start.source keys
  refine ⟨?_, ⟨t, hturns, hpool⟩, leftOver_ofKeys draw _ keys, length_ofKeys draw _ keys,
    checkSequence_ofKeys draw _ keys, ?_, ?_⟩
  · intro es s hs
    have hbalanced := (Stage.balanced_start _ keys).turns hs
    exact ⟨hs.pool_eq_nil_iff, hbalanced.exists_turn⟩
  · intro k
    exact ⟨count_press_ofKeys draw _ keys k, count_release_ofKeys draw _ keys k⟩
  · intro w
    rw [← stream_foldl_next]
    rfl

end Interleaving

end KeyBench
