import KeyBench.Bag
import KeyBench.Event
import KeyBench.Random.Bounded

/-!
# Random interleavings

From a list of keys come random sequences in which every listed key is pressed and released once for
each time that it is listed, and that can be played.

A pool holds the events that are still to come: first a press for every key, and for every press
taken out the release of its key. Each step takes one of the events that are legal, which are the
releases and the presses of keys that are up. Where the numbers come from is left open: `Draw` is
any way to draw them, so what is said of every draw holds of every stream of random numbers.

## Termination

A press counts two and a release one. A step takes out a press and puts in a release, or takes out a
release, so the sum over the pool goes down by one each time.
-/

namespace KeyBench

namespace Interleaving

/-- A source `r` of numbers: it gives a number up to `k`, and the source for the next one. -/
abbrev Draw (ρ : Type) := ρ → (k : Nat) → Fin (k + 1) × ρ

/-! ## The pool -/

/-- Whether an event may come next while the keys of `held` are down. -/
def isLegal (held : List Key) (e : Event) : Bool := !e.isPress || !held.contains e.key

/-- The places of the events of the pool that may come next. -/
def legalPlaces (held : List Key) (pool : List Event) : List (Fin pool.length) :=
  let events := pool.toArray
  have size_eq : events.size = pool.length := List.size_toArray
  (List.finRange pool.length).filter fun i => isLegal held events[i]

theorem legalPlaces_eq (held : List Key) (pool : List Event) :
    legalPlaces held pool = (List.finRange pool.length).filter fun i => isLegal held pool[i] := by
  simp [legalPlaces]

/-- A place is among the legal ones if and only if its event may come next. -/
theorem mem_legalPlaces_iff {held : List Key} {pool : List Event} {i : Fin pool.length} :
    i ∈ legalPlaces held pool ↔ isLegal held pool[i] = true := by
  simp [legalPlaces_eq, List.mem_finRange]

/-- What an event counts. -/
def weight (e : Event) : Nat :=
  match e.direction with
  | .press => 2
  | .release => 1

/-- The sum over a pool: the number of events that will come of it. -/
def poolWeight : List Event → Nat
  | [] => 0
  | e :: es => weight e + poolWeight es

theorem poolWeight_append (es fs : List Event) :
    poolWeight (es ++ fs) = poolWeight es + poolWeight fs := by
  induction es with
  | nil => simp [poolWeight]
  | cons e es ih => simp only [List.cons_append, poolWeight, ih, Nat.add_assoc]

theorem poolWeight_perm {es fs : List Event} (h : es.Perm fs) : poolWeight es = poolWeight fs := by
  induction h with
  | nil => rfl
  | cons e _ ih => simp only [poolWeight, ih]
  | swap e f es => simp only [poolWeight]; omega
  | trans _ _ ih₁ ih₂ => exact ih₁.trans ih₂

theorem poolWeight_removeAt {pool : List Event} {i : Nat} (h : i < pool.length) :
    weight pool[i] + poolWeight (Bag.removeAt pool i) = poolWeight pool :=
  poolWeight_perm (Bag.perm_cons_removeAt h)

/-- Taking out a press and putting in the release of its key counts one. -/
theorem poolWeight_press {pool : List Event} {place : Fin pool.length} {k : Key}
    (h : pool[place] = ⟨k, .press⟩) :
    poolWeight (Bag.removeAt pool place ++ [Event.release k]) < poolWeight pool := by
  have hw := poolWeight_removeAt place.isLt
  rw [← Fin.getElem_fin, h] at hw
  rw [poolWeight_append]
  simp only [poolWeight, weight, Event.release] at hw ⊢
  omega

/-- Taking out a release counts one. -/
theorem poolWeight_release {pool : List Event} {place : Fin pool.length} {k : Key}
    (h : pool[place] = ⟨k, .release⟩) :
    poolWeight (Bag.removeAt pool place) < poolWeight pool := by
  have hw := poolWeight_removeAt place.isLt
  rw [← Fin.getElem_fin, h] at hw
  simp only [weight] at hw
  omega

/-! ## Running -/

/-- What a run leaves: the events in the order in which they came, the events that were never
legal, and the source of numbers. -/
structure Outcome (ρ : Type) where
  events : List Event
  leftOver : List Event
  source : ρ

/-- Takes legal events out of the pool until there is none. -/
def run {ρ : Type} (draw : Draw ρ) (r : ρ) (held : List Key) (pool : List Event) : Outcome ρ :=
  match legalPlaces held pool with
  | [] => ⟨[], pool, r⟩
  | i :: is =>
    let drawn := draw r is.length
    let place := (i :: is)[drawn.1]
    let rest := Bag.removeAt pool place
    match h : pool[place] with
    | ⟨k, .press⟩ =>
      let o := run draw drawn.2 (k :: held) (rest ++ [Event.release k])
      { o with events := Event.press k :: o.events }
    | ⟨k, .release⟩ =>
      let o := run draw drawn.2 (held.erase k) rest
      { o with events := Event.release k :: o.events }
termination_by poolWeight pool
decreasing_by
  · exact poolWeight_press h
  · exact poolWeight_release h

/-- An interleaving of the events of some keys. -/
def ofKeys {ρ : Type} (draw : Draw ρ) (r : ρ) (keys : List Key) : Outcome ρ :=
  run draw r [] (keys.map Event.press)

end Interleaving

/-! ## Interleavings of a seed -/

/-- A source of interleavings that a seed reproduces. -/
structure Interleaver where
  seed : UInt64
  stream : Random.Stream

namespace Interleaver

/-- The source that a seed gives. -/
def ofSeed (seed : UInt64) : Interleaver := ⟨seed, Random.Stream.ofSeed seed⟩

/-- The next interleaving, and the source after it. -/
def next (w : Interleaver) (keys : List Key) : List Event × Interleaver :=
  let o := Interleaving.ofKeys Random.Stream.draw w.stream keys
  (o.events, { w with stream := o.source })

end Interleaver

/-- The first interleaving of some keys that a seed gives. -/
def Interleaving.ofSeed (keys : List Key) (seed : UInt64) : List Event :=
  ((Interleaver.ofSeed seed).next keys).1

end KeyBench
