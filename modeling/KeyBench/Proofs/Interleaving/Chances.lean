import KeyBench.Proofs.Interleaving.Balance
import KeyBench.Proofs.Random.Selection

/-!
# Every legal event has the same chance

A turn draws one of the legal places, of which each is listed once, and takes the event there
(`Fair`). That holds at every stage that can be reached, because the keys that are down are then
those that have been pressed more often than released. A run goes through such stages and through
no others, from its start to where no turn is possible (`turns_run`). The number that is drawn is
selected by a word that has not been rejected, and for each number there are equally many such
words.
-/

namespace KeyBench.Interleaving

variable {ρ : Type} {draw : Draw ρ} {r : ρ} {keys : List Key} {s : Stage ρ} {es : List Event}

/-- Whether the legal places are listed as they should be after events have been taken, and the turn
takes the drawn one of them. -/
structure Fair (draw : Draw ρ) (es : List Event) (s : Stage ρ) : Prop where
  nodup : (legalPlaces s.held s.pool).Nodup
  /-- The legal places are those of the releases, and of the presses of keys that are up. -/
  mem_iff : ∀ place : Fin s.pool.length, place ∈ legalPlaces s.held s.pool ↔
    (s.pool.get place).direction = .release ∨ (s.pool.get place).key ∉ s.held
  /-- The keys that are down have been pressed and not yet released. -/
  held_iff : ∀ k, k ∈ s.held ↔ es.count (Event.release k) < es.count (Event.press k)
  /-- The number is drawn among as many as there are legal places. -/
  drawn : s.pool ≠ [] → ∃ i is s', legalPlaces s.held s.pool = i :: is ∧
    s.turn? draw = some (s.pool.get (i :: is)[(draw s.source is.length).1], s')

theorem nodup_legalPlaces (held : List Key) (pool : List Event) :
    (legalPlaces held pool).Nodup := by
  rw [legalPlaces_eq]
  exact (List.nodup_finRange _).filter _

theorem isLegal_iff {held : List Key} {e : Event} :
    isLegal held e = true ↔ e.direction = .release ∨ e.key ∉ held := by
  obtain ⟨k, d⟩ := e
  cases d <;> simp [isLegal, Event.isPress]

/-- Of each key that is down, and of no other, a press has been taken without its release. -/
theorem Turns.mem_held_iff (h : Turns draw (Stage.start r keys) es s) (k : Key) :
    k ∈ s.held ↔ es.count (Event.release k) < es.count (Event.press k) := by
  have hbalanced := (Stage.balanced_start r keys).turns h
  have hcount := h.count_release k
  have hstart : (Stage.start r keys).pool.count (Event.release k) = 0 := count_release_map keys k
  rw [hstart, hbalanced.count_release] at hcount
  rw [← List.count_pos_iff]
  omega

theorem exists_drawn (hlegal : legalPlaces s.held s.pool ≠ []) :
    ∃ i is s', legalPlaces s.held s.pool = i :: is ∧
      s.turn? draw = some (s.pool.get (i :: is)[(draw s.source is.length).1], s') := by
  obtain ⟨i, is, hcons⟩ := List.exists_cons_of_ne_nil hlegal
  exact ⟨i, is, _, hcons, Stage.turn?_of_cons hcons rfl rfl⟩

/-- **The legal places are listed as they should be at every stage that can be reached.** -/
theorem Turns.fair (h : Turns draw (Stage.start r keys) es s) : Fair draw es s where
  nodup := nodup_legalPlaces s.held s.pool
  mem_iff := fun _ => mem_legalPlaces_iff.trans isLegal_iff
  held_iff := h.mem_held_iff
  drawn := fun hne =>
    exists_drawn (((Stage.balanced_start r keys).turns h).legalPlaces_ne_nil hne)

/-- The next interleaving of a seed is a row of turns that draw from its stream. -/
theorem turns_next (w : Interleaver) (keys : List Key) : ∃ t,
    Turns Random.Stream.draw (Stage.start w.stream keys) (w.next keys).1 t ∧
      t.turn? Random.Stream.draw = none ∧ (w.next keys).2.stream = t.source := by
  obtain ⟨t, hturns, hend, _, hsource⟩ :=
    turns_run Random.Stream.draw (Stage.start w.stream keys)
  exact ⟨t, hturns, hend, hsource⟩

open KeyBench.Random in
/-- **Every legal event has the same chance in every turn.** Whatever has been drawn so far, the
turn draws one of the legal places, each of which is listed once. An interleaving is made of such
turns until none is possible, and so is each one that a seed gives. A number of up to 64 bits is
drawn by the first word that is not rejected. Of the words, at least half are not rejected, and each
number is selected by as many words as any other. -/
theorem chances_equal :
    (∀ {ρ : Type} (draw : Draw ρ) (r : ρ) (keys : List Key) (es : List Event) (s : Stage ρ),
      Turns draw (Stage.start r keys) es s → Fair draw es s) ∧
    (∀ {ρ : Type} (draw : Draw ρ) (r : ρ) (keys : List Key), ∃ t,
      Turns draw (Stage.start r keys) (ofKeys draw r keys).events t ∧ t.turn? draw = none ∧
      (ofKeys draw r keys).leftOver = t.pool ∧ (ofKeys draw r keys).source = t.source) ∧
    (∀ (w : Interleaver) (keys : List Key), ∃ t,
      Turns Stream.draw (Stage.start w.stream keys) (w.next keys).1 t ∧
      t.turn? Stream.draw = none ∧ (w.next keys).2.stream = t.source) ∧
    (∀ k, k + 1 < UInt64.size →
      (∀ i, {v | select? k v = some i}.ncard = 2 ^ leadingZeros (k + 1)) ∧
      UInt64.size ≤ 2 * {v | (select? k v).isSome}.ncard) ∧
    ∀ (s : Stream) (k m : Nat) (i : Fin (k + 1)),
      (∀ j < m, select? k (word s.key (s.position + j)) = none) →
      select? k (word s.key (s.position + m)) = some i →
        s.draw k = (i, { s with position := s.position + m + 1 }) :=
  ⟨fun _ _ _ _ _ h => h.fair,
    fun draw r keys => turns_run draw (Stage.start r keys),
    turns_next,
    fun _ h => ⟨ncard_select?_eq h, size_le_two_mul_ncard_accepted h⟩,
    fun _ _ _ _ => draw_of_first⟩

end KeyBench.Interleaving
