import KeyBench.Bench.Echo

/-!
# What a device can tell of the queue

The device, or what captures keys on the host, has the sender of the queue of observations. It can
offer sightings, learn of each whether it was taken, and drop the sender. It sees no numbers: what
it does about a frame is a `Reaction`, and a reaction comes to the same on queues that differ in
numbers only (`Wire.ofReactions_overlooksNumbers`).
-/

namespace KeyBench

variable {σ : Type}

/-! ## Queues that differ in numbers -/

namespace ObservationQueue

variable {q r : ObservationQueue}

/-- Whether two queues differ in nothing but numbers and times: those of what waits in them, and the
number of what comes next. -/
structure Alike (q r : ObservationQueue) : Prop where
  limit_eq : q.limit = r.limit
  sightings_eq : q.waiting.map Observation.toSighting = r.waiting.map Observation.toSighting
  hasReceiver_eq : q.hasReceiver = r.hasReceiver
  hasSender_eq : q.hasSender = r.hasSender

theorem Alike.refl (q : ObservationQueue) : q.Alike q := ⟨rfl, rfl, rfl, rfl⟩

theorem Alike.hasRoom_eq (h : q.Alike r) : q.hasRoom = r.hasRoom := by
  have hlength := congrArg List.length h.sightings_eq
  rw [List.length_map, List.length_map] at hlength
  rw [hasRoom, hasRoom, hlength, h.limit_eq]

/-- **What is offered to queues that are alike is taken by both or refused by both**, and they are
alike after that. -/
theorem Alike.offer (h : q.Alike r) (s : Sighting) :
    (q.offer s).1 = (r.offer s).1 ∧ (q.offer s).2.Alike (r.offer s).2 := by
  unfold ObservationQueue.offer
  rw [h.hasReceiver_eq, h.hasRoom_eq]
  cases hreceiver : r.hasReceiver with
  | false => exact ⟨rfl, h.limit_eq, h.sightings_eq, rfl, h.hasSender_eq⟩
  | true =>
    cases r.hasRoom with
    | false => exact ⟨rfl, h.limit_eq, h.sightings_eq, rfl, h.hasSender_eq⟩
    | true =>
      refine ⟨rfl, h.limit_eq, ?_, rfl, h.hasSender_eq⟩
      show (q.waiting ++ [_]).map _ = (r.waiting ++ [_]).map _
      rw [List.map_append, List.map_append, h.sightings_eq]
      rfl

theorem Alike.closeSender (h : q.Alike r) : q.closeSender.2.Alike r.closeSender.2 :=
  ⟨h.limit_eq, h.sightings_eq, h.hasReceiver_eq, rfl⟩

theorem Alike.takeAll (h : q.Alike r) : q.takeAll.2.Alike r.takeAll.2 :=
  ⟨h.limit_eq, rfl, h.hasReceiver_eq, h.hasSender_eq⟩

end ObservationQueue

/-! ## Wires that overlook numbers -/

/-- Whether two writes have come to the same, except for numbers in the queue. -/
structure SameOutcome (x y : Except HostError Unit × σ × ObservationQueue) : Prop where
  result_eq : x.1 = y.1
  device_eq : x.2.1 = y.2.1
  queue_alike : x.2.2.Alike y.2.2

theorem SameOutcome.refl (x : Except HostError Unit × σ × ObservationQueue) : SameOutcome x x :=
  ⟨rfl, rfl, .refl _⟩

/-- Writes that have come to the same have one result. -/
theorem SameOutcome.exists_eq {x y : Except HostError Unit × σ × ObservationQueue}
    (h : SameOutcome x y) : ∃ result t u, x = (result, t) ∧ y = (result, u) ∧ t.1 = u.1 ∧
      t.2.Alike u.2 := by
  obtain ⟨result, t⟩ := x
  obtain ⟨result', u⟩ := y
  obtain rfl : result = result' := h.result_eq
  exact ⟨result, t, u, rfl, rfl, h.device_eq, h.queue_alike⟩

/-- Whether a wire does the same on queues that differ in numbers only. -/
def Wire.OverlooksNumbers (wire : Wire σ) : Prop :=
  ∀ (device : σ) (q r : ObservationQueue) (bytes : List UInt8), q.Alike r →
    SameOutcome (wire.write device q bytes) (wire.write device r bytes)

/-- What a device does about a frame. -/
inductive Reaction (σ : Type) where
  /-- Nothing more: the write has this result, and the device is this one from then on. -/
  | done (result : Except HostError Unit) (device : σ)
  /-- It offers a sighting, and goes on by what the queue answers. -/
  | offer (s : Sighting) (next : Except HostError Unit → Reaction σ)
  /-- It drops the sender of the queue. -/
  | close (next : Reaction σ)

namespace Reaction

/-- Lets a device react. -/
def carryOut : Reaction σ → ObservationQueue → Except HostError Unit × σ × ObservationQueue
  | done result device, q => (result, device, q)
  | offer s next, q => (next (q.offer s).1).carryOut (q.offer s).2
  | close next, q => next.carryOut q.closeSender.2

theorem sameOutcome_carryOut {q r : ObservationQueue} (reaction : Reaction σ) (h : q.Alike r) :
    SameOutcome (reaction.carryOut q) (reaction.carryOut r) := by
  induction reaction generalizing q r with
  | done result device => exact ⟨rfl, rfl, h⟩
  | offer s next ih =>
    obtain ⟨hanswer, hqueue⟩ := h.offer s
    rw [carryOut, carryOut, hanswer]
    exact ih _ hqueue
  | close next ih => exact ih h.closeSender

/-- The device offers sightings up to the first that is refused. -/
def offerAll (device : σ) : List Sighting → Reaction σ
  | [] => done (.ok ()) device
  | s :: rest =>
    offer s fun
      | .error e => done (.error e) device
      | .ok () => offerAll device rest

theorem carryOut_offerAll (device : σ) : ∀ (ss : List Sighting) (q : ObservationQueue),
    (offerAll device ss).carryOut q = ((Echo.offerAll q ss).1, device, (Echo.offerAll q ss).2)
  | [], _ => rfl
  | s :: ss, q => by
    rw [offerAll, carryOut, Echo.offerAll]
    obtain ⟨⟨answer, q'⟩, hoffer⟩ : ∃ x, q.offer s = x := ⟨_, rfl⟩
    rw [hoffer]
    cases answer with
    | error e => rfl
    | ok => exact carryOut_offerAll device ss q'

end Reaction

/-- The wire to a device that reacts to frames. -/
def Wire.ofReactions (react : σ → List UInt8 → Reaction σ) : Wire σ where
  write device q bytes := (react device bytes).carryOut q

/-- **Whatever a device does through the sender of a queue, it overlooks numbers.** -/
theorem Wire.ofReactions_overlooksNumbers (react : σ → List UInt8 → Reaction σ) :
    (ofReactions react).OverlooksNumbers :=
  fun device _ _ bytes h => (react device bytes).sameOutcome_carryOut h

/-- How an echo reacts to a frame. -/
def Echo.react (d : Echo) (bytes : List UInt8) : Reaction Echo :=
  let d' := { d with count := d.count + 1 }
  if d.failsAt? = some d.count then .done (.error (.io (.other "device gone"))) d'
  else .offerAll d' (d.sightings bytes)

theorem Echo.wire_eq_ofReactions : wire = Wire.ofReactions react := by
  unfold wire Wire.ofReactions react
  congr
  funext d q bytes
  by_cases hfails : d.failsAt? = some d.count
  · rw [if_pos hfails, if_pos hfails]
    rfl
  · rw [if_neg hfails, if_neg hfails, Reaction.carryOut_offerAll]

theorem Echo.wire_overlooksNumbers : wire.OverlooksNumbers := by
  rw [wire_eq_ofReactions]
  exact Wire.ofReactions_overlooksNumbers react

end KeyBench
