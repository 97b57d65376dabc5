import KeyBench.HostError
import KeyBench.Observation

/-!
# The queue of observations

Observations wait in a bounded queue until the bench takes them. Every sighting that is offered
gets the next number, whether the queue takes it or not. The queue has two sides, either of which
can be dropped: without a receiver it takes nothing and holds nothing, without a sender it can
still be emptied.
-/

namespace KeyBench

/-- A bounded queue of observations. -/
structure ObservationQueue where
  /-- The greatest number of observations that wait. -/
  limit : Nat
  /-- The observations that wait, oldest first. -/
  waiting : List Observation
  /-- The number of the next sighting. -/
  nextNumber : Nat
  hasReceiver : Bool
  hasSender : Bool
  deriving DecidableEq, Repr

namespace ObservationQueue

/-- An empty queue. It has room for one observation at least. -/
def ofCapacity (capacity : Nat) : ObservationQueue := ⟨max capacity 1, [], 0, true, true⟩

/-- Whether another observation can wait. -/
def hasRoom (q : ObservationQueue) : Bool := q.waiting.length < q.limit

/-! ## The sender's side -/

/-- Offers a sighting. It is refused at once if there is no receiver or no room. -/
def offer (q : ObservationQueue) (s : Sighting) : Except HostError Unit × ObservationQueue :=
  let numbered := { q with nextNumber := q.nextNumber + 1 }
  if !q.hasReceiver then (.error .queueClosed, numbered)
  else if q.hasRoom then
    (.ok (), { numbered with waiting := q.waiting ++ [⟨s, q.nextNumber, true⟩] })
  else (.error .queueFull, numbered)

/-- Offers a sighting once there is room or no receiver; nothing happens before that. -/
def offerPatiently? (q : ObservationQueue) (s : Sighting) :
    Option (Except HostError Unit × ObservationQueue) :=
  if q.hasReceiver && !q.hasRoom then none else some (q.offer s)

/-- Drops the sender. Returns whether it was there. -/
def closeSender (q : ObservationQueue) : Bool × ObservationQueue :=
  (q.hasSender, { q with hasSender := false })

/-! ## The receiver's side -/

/-- Takes all observations that wait. -/
def takeAll (q : ObservationQueue) : List Observation × ObservationQueue :=
  (q.waiting, { q with waiting := [] })

/-- Discards all observations that wait. Returns how many these were. -/
def discardAll (q : ObservationQueue) : Nat × ObservationQueue :=
  (q.takeAll.1.length, q.takeAll.2)

/-- Drops the receiver, and with it all that waits. Returns whether it was there. -/
def closeReceiver (q : ObservationQueue) : Bool × ObservationQueue :=
  (q.hasReceiver, { q with waiting := [], hasReceiver := false })

/-! ## Both sides at once -/

/-- One side offers sightings, each as soon as there is room, while the other takes what waits
until all have been offered. Returns what has been taken. -/
def exchange (q : ObservationQueue) : List Sighting → List Observation × ObservationQueue
  | [] => q.takeAll
  | s :: rest =>
    let (taken, emptied) := q.takeAll
    let (more, q') := (emptied.offer s).2.exchange rest
    (taken ++ more, q')

end ObservationQueue

end KeyBench
