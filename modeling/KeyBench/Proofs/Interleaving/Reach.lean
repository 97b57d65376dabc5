import KeyBench.Proofs.Event.Histories
import KeyBench.Proofs.Interleaving.Balance

/-!
# Every playable sequence can be drawn

A list of numbers takes the place of the random ones (`scripted`), so the run can be led: whichever
legal place is wanted, there is a number that takes it. A sequence that can be played and presses
what the pool presses starts with an event at a legal place. The turn that takes it leaves a stage
that goes with the rest of the sequence, so number by number the list is found.

With what holds of all runs, this says exactly what can come of a list of keys
(`exists_scripted_iff`).
-/

namespace KeyBench.Interleaving

open Event

/-! ## Led runs -/

/-- Draws the numbers of a list, one after the other. A number that is missing or out of range is
taken as 0. -/
def scripted : Draw (List Nat)
  | [], k => (⟨0, Nat.succ_pos k⟩, [])
  | n :: ns, k => (if h : n < k + 1 then ⟨n, h⟩ else ⟨0, Nat.succ_pos k⟩, ns)

/-- Whether the source of a stage holds a number in range for every turn that is to come. -/
def Stage.InRange (s : Stage (List Nat)) : Prop :=
  ∀ es t, Turns scripted s es t → t.pool ≠ [] →
    ∃ n ns, t.source = n :: ns ∧ n < (legalPlaces t.held t.pool).length

variable {held : List Key} {pool : List Event} {e : Event} {es : List Event}
  {s s' : Stage (List Nat)}

/-- A number in range takes the event at the legal place of this number. -/
theorem turn?_scripted {n : Nat} (ns : List Nat) (h : n < (legalPlaces held pool).length) :
    Stage.turn? scripted ⟨n :: ns, held, pool⟩ =
      some (pool[(legalPlaces held pool)[n]],
        Stage.take ⟨n :: ns, held, pool⟩ (legalPlaces held pool)[n] ns) := by
  unfold Stage.turn?
  split
  · next hnil =>
    have hlegal : legalPlaces held pool = [] := hnil
    simp [hlegal] at h
  · next i is hcons =>
    have hlegal : legalPlaces held pool = i :: is := hcons
    have hn : n < is.length + 1 := by simpa [hlegal] using h
    simp only [scripted, dif_pos hn, hlegal]
    rfl

/-- **Any legal place can be taken next.** -/
theorem exists_number_of_mem {place : Fin pool.length} (h : place ∈ legalPlaces held pool) :
    ∃ n < (legalPlaces held pool).length, ∃ held' pool', ∀ ns,
      Stage.turn? scripted ⟨n :: ns, held, pool⟩ = some (pool.get place, ⟨ns, held', pool'⟩) := by
  obtain ⟨n, hn, rfl⟩ := List.getElem_of_mem h
  obtain ⟨⟨k, d⟩, he⟩ : ∃ e, pool[(legalPlaces held pool)[n]] = e := ⟨_, rfl⟩
  cases d with
  | press =>
    refine ⟨n, hn, k :: held, Bag.removeAt pool (legalPlaces held pool)[n] ++ [release k],
      fun ns => ?_⟩
    rw [turn?_scripted ns hn, Stage.take_press ns he]
    rfl
  | release =>
    refine ⟨n, hn, held.erase k, Bag.removeAt pool (legalPlaces held pool)[n], fun ns => ?_⟩
    rw [turn?_scripted ns hn, Stage.take_release ns he]
    rfl

/-- The numbers are in range if the first one is and those for the stage after it are. -/
theorem Stage.InRange.cons {n : Nat} {ns : List Nat}
    (hn : n < (legalPlaces held pool).length)
    (hturn : Stage.turn? scripted ⟨n :: ns, held, pool⟩ = some (e, s')) (h : s'.InRange) :
    Stage.InRange ⟨n :: ns, held, pool⟩ := by
  intro es t hturns hpool
  cases hturns with
  | nil => exact ⟨n, ns, rfl, hn⟩
  | cons hturn' hrest =>
    rw [hturn] at hturn'
    obtain ⟨rfl, rfl⟩ := Prod.mk.inj (Option.some.inj hturn')
    exact h _ t hrest hpool

/-! ## What a stage can still give -/

/-- Whether events can be played from a stage on, and press what its pool presses. -/
structure Fits (s : Stage (List Nat)) (es : List Event) : Prop where
  playable : ∃ index, checkFrom s.held index es = .ok ()
  count_press : ∀ k, es.count (press k) = s.pool.count (press k)

/-- Nothing fits only a pool that is empty. -/
theorem Fits.pool_eq_nil (h : Fits s []) (hs : s.Balanced) : s.pool = [] := by
  obtain ⟨index, hplay⟩ := h.playable
  have hup := checkFrom_nil.mp hplay
  rw [List.eq_nil_iff_forall_not_mem]
  rintro ⟨k, d⟩ he
  -- a press would have to be counted, and the key of a release would still be down
  cases d with
  | press =>
    have hcount := h.count_press k
    rw [List.count_nil, eq_comm, List.count_eq_zero] at hcount
    exact hcount he
  | release => exact hup k (hs.release_mem_iff.mp he)

/-- **The first of the events that fit is at a legal place.** -/
theorem Fits.exists_place (h : Fits s (e :: es)) (hs : s.Balanced) :
    ∃ place ∈ legalPlaces s.held s.pool, s.pool[place] = e := by
  obtain ⟨index, hplay⟩ := h.playable
  -- a press is in the pool because it is counted there, a release because its key is down
  have hfirst : e ∈ s.pool ∧ isLegal s.held e = true := by
    obtain ⟨k, d⟩ := e
    cases d with
    | press =>
      rw [checkFrom] at hplay
      split at hplay
      · cases hplay
      · next hup =>
        have hpos : 0 < s.pool.count (press k) := by
          rw [← h.count_press k]
          exact List.count_pos_iff.mpr List.mem_cons_self
        exact ⟨List.count_pos_iff.mp hpos, by simp [isLegal, hup]⟩
    | release =>
      rw [checkFrom] at hplay
      split at hplay
      · next hdown => exact ⟨hs.release_mem_iff.mpr hdown, rfl⟩
      · cases hplay
  obtain ⟨i, hi, hplace⟩ := List.getElem_of_mem hfirst.1
  exact ⟨⟨i, hi⟩, mem_legalPlaces_iff.mpr (hplace ▸ hfirst.2), hplace⟩

/-- **After the turn that takes the first event the others fit.** -/
theorem Fits.turn (h : Fits s (e :: es)) (hturn : s.turn? scripted = some (e, s')) :
    Fits s' es := by
  constructor
  · obtain ⟨index, hplay⟩ := h.playable
    refine ⟨index + 1, ?_⟩
    rcases Stage.turn?_cases hturn with ⟨k, rest, rfl, hup, _, hheld, _⟩ | ⟨k, rfl, hperm, hheld⟩
    · rw [press, checkFrom, if_neg hup] at hplay
      rwa [hheld]
    · rw [release, checkFrom] at hplay
      split at hplay
      · rwa [hheld]
      · cases hplay
  · intro k
    have hcount := h.count_press k
    have hone := Turns.count_press (.cons hturn .nil) k
    rw [← hone, ← List.singleton_append, List.count_append] at hcount
    exact Nat.add_left_cancel hcount

/-- **Events that fit a balanced stage can be drawn from it.** -/
theorem exists_numbers_of_fits : ∀ {es : List Event} {held : List Key} {pool : List Event},
    Stage.Balanced (⟨[], held, pool⟩ : Stage (List Nat)) → Fits ⟨[], held, pool⟩ es →
      ∃ numbers held', numbers.length = es.length ∧ Stage.InRange ⟨numbers, held, pool⟩ ∧
        Turns scripted ⟨numbers, held, pool⟩ es ⟨[], held', []⟩
  | [], held, pool, hs, h => by
    obtain rfl : pool = [] := h.pool_eq_nil hs
    refine ⟨[], held, rfl, ?_, .nil⟩
    intro es t hturns hpool
    have hlength := hturns.length_add_poolWeight
    have hweight : poolWeight t.pool = 0 := by
      simp only [poolWeight] at hlength
      omega
    exact absurd (poolWeight_eq_zero_iff.mp hweight) hpool
  | e :: es, held, pool, hs, h => by
    obtain ⟨place, hplace, rfl⟩ := h.exists_place hs
    obtain ⟨n, hn, held', pool', hturn⟩ := exists_number_of_mem hplace
    -- neither the balance nor what fits depends on the numbers that follow
    have hs' : Stage.Balanced (⟨[n], held, pool⟩ : Stage (List Nat)) := ⟨hs.nodup, hs.count_release⟩
    have h' : Fits ⟨[n], held, pool⟩ (pool[place] :: es) := ⟨h.playable, h.count_press⟩
    obtain ⟨ns, held'', hlength, hrange, hturns⟩ :=
      exists_numbers_of_fits (hs'.turn (hturn [])) (h'.turn (hturn []))
    exact ⟨n :: ns, held'', congrArg (· + 1) hlength, hrange.cons hn (hturn ns),
      .cons (hturn ns) hturns⟩

/-! ## What can come of a list of keys -/

/-- The keys that are pressed, each as often as it is. -/
theorem count_map_key_filter (es : List Event) (k : Key) :
    ((es.filter isPress).map Event.key).count k = es.count (press k) := by
  induction es with
  | nil => rfl
  | cons e es ih =>
    obtain ⟨j, d⟩ := e
    cases d with
    | press =>
      have hpress : (⟨j, .press⟩ : Event) = press j := rfl
      rw [hpress, List.filter_cons_of_pos rfl, List.map_cons, List.count_cons, ih,
        count_press_press]
      simp only [press, beq_iff_eq]
    | release =>
      have hrelease : (⟨j, .release⟩ : Event) = release j := rfl
      rw [hrelease, List.filter_cons_of_neg (by simp [isPress, release]), ih, count_press_release]

/-- **What can come of a list of keys is what can be played and presses these keys.** For every such
sequence, and for no other, there are numbers to draw, one in range for every turn, that lead the
run to take just the events of the sequence and use up the pool. -/
theorem exists_scripted_iff (keys : List Key) (es : List Event) :
    (∃ numbers : List Nat, numbers.length = es.length ∧
      (Stage.start numbers keys).InRange ∧ ofKeys scripted numbers keys = ⟨es, [], []⟩) ↔
    checkSequence es = .ok () ∧ ((es.filter isPress).map Event.key).Perm keys := by
  constructor
  · rintro ⟨numbers, _, _, hrun⟩
    have hplay := checkSequence_ofKeys scripted numbers keys
    have hcount := count_press_ofKeys scripted numbers keys
    rw [hrun] at hplay hcount
    refine ⟨hplay, List.perm_iff_count.mpr fun k => ?_⟩
    rw [count_map_key_filter]
    exact hcount k
  · rintro ⟨hplay, hperm⟩
    have hfits : Fits (Stage.start [] keys) es := by
      refine ⟨⟨0, hplay⟩, fun k => ?_⟩
      rw [← count_map_key_filter, hperm.count_eq]
      exact (count_press_map keys k).symm
    obtain ⟨numbers, held, hlength, hrange, hturns⟩ :=
      exists_numbers_of_fits (Stage.balanced_start [] keys) hfits
    refine ⟨numbers, hlength, hrange, hturns.run_eq ?_⟩
    exact Stage.turn?_eq_none_iff.mpr rfl

end KeyBench.Interleaving
