import KeyBench.Interleaving

/-!
# Turns of an interleaving

A run takes one turn after the other. A turn starts at a stage, takes the event at the drawn one of
the legal places, and leaves the next stage; where no place is legal there is no turn. `Turns` is
a row of turns with the events that they took, and a run is a row of turns that cannot be continued
(`turns_run`).

Whatever is drawn, a turn does one of two things (`turn?_cases`). What holds of all runs follows
from it.
-/

namespace KeyBench.Interleaving

variable {ρ : Type}

/-- What a run works on between two turns. -/
structure Stage (ρ : Type) where
  source : ρ
  held : List Key
  pool : List Event

namespace Stage

variable {draw : Draw ρ} {s s' : Stage ρ} {e : Event}

/-- The stage after the event at a place has been taken and the source has moved on to `r`. -/
def take (s : Stage ρ) (place : Fin s.pool.length) (r : ρ) : Stage ρ :=
  match s.pool[place] with
  | ⟨k, .press⟩ => ⟨r, k :: s.held, Bag.removeAt s.pool place ++ [Event.release k]⟩
  | ⟨k, .release⟩ => ⟨r, s.held.erase k, Bag.removeAt s.pool place⟩

/-- A turn: the event taken, and the stage after it. -/
def turn? (draw : Draw ρ) (s : Stage ρ) : Option (Event × Stage ρ) :=
  match legalPlaces s.held s.pool with
  | [] => none
  | i :: is =>
    let drawn := draw s.source is.length
    let place := (i :: is)[drawn.1]
    some (s.pool[place], s.take place drawn.2)

/-! ## One turn -/

theorem turn?_eq_none_iff : s.turn? draw = none ↔ legalPlaces s.held s.pool = [] := by
  unfold turn?
  split
  · next h => simp [h]
  · next i is h => simp [h]

/-- Where places are legal a turn takes the event at the drawn one of them. -/
theorem turn?_of_cons {i place : Fin s.pool.length} {is : List (Fin s.pool.length)} {r : ρ}
    (h : legalPlaces s.held s.pool = i :: is)
    (hplace : (i :: is).get (draw s.source is.length).1 = place)
    (hsource : (draw s.source is.length).2 = r) :
    s.turn? draw = some (s.pool.get place, s.take place r) := by
  subst hplace hsource
  rw [turn?, h]
  rfl

/-- A turn takes the event at a legal place. -/
theorem exists_place_of_turn? (h : s.turn? draw = some (e, s')) :
    ∃ place ∈ legalPlaces s.held s.pool, ∃ r, e = s.pool[place] ∧ s' = s.take place r := by
  unfold turn? at h
  split at h
  · cases h
  · next i is hlegal =>
    obtain ⟨rfl, rfl⟩ := Prod.mk.inj (Option.some.inj h)
    refine ⟨_, ?_, _, rfl, rfl⟩
    rw [hlegal]
    exact List.getElem_mem _

theorem take_press {place : Fin s.pool.length} {k : Key} (r : ρ)
    (h : s.pool[place] = ⟨k, .press⟩) :
    s.take place r = ⟨r, k :: s.held, Bag.removeAt s.pool place ++ [Event.release k]⟩ := by
  simp only [take, h]

theorem take_release {place : Fin s.pool.length} {k : Key} (r : ρ)
    (h : s.pool[place] = ⟨k, .release⟩) :
    s.take place r = ⟨r, s.held.erase k, Bag.removeAt s.pool place⟩ := by
  simp only [take, h]

/-- **A turn presses a key that is up and puts its release into the pool, or it takes a release out
of the pool.** -/
theorem turn?_cases (h : s.turn? draw = some (e, s')) :
    (∃ k rest, e = Event.press k ∧ k ∉ s.held ∧ (Event.press k :: rest).Perm s.pool ∧
      s'.held = k :: s.held ∧ s'.pool = rest ++ [Event.release k]) ∨
    (∃ k, e = Event.release k ∧ (Event.release k :: s'.pool).Perm s.pool ∧
      s'.held = s.held.erase k) := by
  obtain ⟨place, hplace, r, rfl, rfl⟩ := exists_place_of_turn? h
  have hlegal := mem_legalPlaces_iff.mp hplace
  have hperm := Bag.perm_cons_removeAt place.isLt
  rw [← Fin.getElem_fin] at hperm
  obtain ⟨⟨k, d⟩, he⟩ : ∃ e, s.pool[place] = e := ⟨_, rfl⟩
  rw [he] at hlegal hperm ⊢
  cases d with
  | press =>
    have hup : k ∉ s.held := by simpa [isLegal, Event.isPress] using hlegal
    rw [take_press r he]
    exact .inl ⟨k, _, rfl, hup, hperm, rfl, rfl⟩
  | release =>
    rw [take_release r he]
    exact .inr ⟨k, rfl, hperm, rfl⟩

/-! ## Running -/

/-- The run that starts at a stage. -/
def run (draw : Draw ρ) (s : Stage ρ) : Outcome ρ := Interleaving.run draw s.source s.held s.pool

theorem run_of_turn?_none (h : s.turn? draw = none) : s.run draw = ⟨[], s.pool, s.source⟩ := by
  rw [turn?_eq_none_iff] at h
  unfold run
  rw [Interleaving.run]
  split
  · rfl
  · next hlegal => simp [h] at hlegal

/-- A run takes a turn and goes on from the stage after it. -/
theorem run_of_turn? (h : s.turn? draw = some (e, s')) :
    s.run draw = { s'.run draw with events := e :: (s'.run draw).events } := by
  unfold turn? at h
  split at h
  · cases h
  · next i is hlegal =>
    obtain ⟨rfl, rfl⟩ := Prod.mk.inj (Option.some.inj h)
    unfold run
    conv => lhs; rw [Interleaving.run]
    split
    · next hnil => simp [hlegal] at hnil
    · next j js hjs =>
      -- both matches on the legal places see the same list
      obtain ⟨rfl, rfl⟩ := List.cons_eq_cons.mp (hjs.symm.trans hlegal)
      dsimp only
      split
      · next k hk =>
        rw [take_press _ hk, hk]
        rfl
      · next k hk =>
        rw [take_release _ hk, hk]
        rfl

/-- A turn counts one. -/
theorem poolWeight_of_turn? (h : s.turn? draw = some (e, s')) :
    poolWeight s'.pool + 1 = poolWeight s.pool := by
  rcases turn?_cases h with ⟨k, rest, _, _, hperm, _, hpool⟩ | ⟨k, _, hperm, _⟩
  · rw [← poolWeight_perm hperm, hpool, poolWeight_append]
    simp only [poolWeight, weight, Event.press, Event.release]
    omega
  · rw [← poolWeight_perm hperm]
    simp only [poolWeight, weight, Event.release]
    omega

end Stage

/-! ## Rows of turns -/

/-- Turns that follow each other, with the events that they take. -/
inductive Turns (draw : Draw ρ) : Stage ρ → List Event → Stage ρ → Prop
  | nil {s : Stage ρ} : Turns draw s [] s
  | cons {s s' t : Stage ρ} {e : Event} {es : List Event} :
      s.turn? draw = some (e, s') → Turns draw s' es t → Turns draw s (e :: es) t

variable {draw : Draw ρ} {s t : Stage ρ} {es : List Event}

/-- **A run is a row of turns after which no turn is possible.** -/
theorem turns_run (draw : Draw ρ) (s : Stage ρ) : ∃ t, Turns draw s (s.run draw).events t ∧
    t.turn? draw = none ∧ (s.run draw).leftOver = t.pool ∧ (s.run draw).source = t.source := by
  cases hturn : s.turn? draw with
  | none =>
    rw [Stage.run_of_turn?_none hturn]
    exact ⟨s, .nil, hturn, rfl, rfl⟩
  | some step =>
    obtain ⟨e, s'⟩ := step
    have hlt : poolWeight s'.pool < poolWeight s.pool := by
      have := Stage.poolWeight_of_turn? hturn
      omega
    obtain ⟨t, hturns, hend, hleft, hsource⟩ := turns_run draw s'
    rw [Stage.run_of_turn? hturn]
    exact ⟨t, .cons hturn hturns, hend, hleft, hsource⟩
termination_by poolWeight s.pool

/-- **A row of turns after which no turn is possible is the run.** -/
theorem Turns.run_eq (h : Turns draw s es t) (hend : t.turn? draw = none) :
    s.run draw = ⟨es, t.pool, t.source⟩ := by
  induction h with
  | nil => exact Stage.run_of_turn?_none hend
  | cons hturn _ ih => rw [Stage.run_of_turn? hturn, ih hend]

/-- A row of turns takes as many events as the pool loses in weight. -/
theorem Turns.length_add_poolWeight (h : Turns draw s es t) :
    es.length + poolWeight t.pool = poolWeight s.pool := by
  induction h with
  | nil => simp
  | cons hturn _ ih =>
    have := Stage.poolWeight_of_turn? hturn
    rw [List.length_cons]
    omega

theorem poolWeight_eq_zero_iff : ∀ {pool : List Event}, poolWeight pool = 0 ↔ pool = []
  | [] => by simp [poolWeight]
  | ⟨_, d⟩ :: _ => by cases d <;> simp [poolWeight, weight]

end KeyBench.Interleaving
