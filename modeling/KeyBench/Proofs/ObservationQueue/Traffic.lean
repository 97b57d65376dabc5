import Mathlib.Data.List.Basic
import KeyBench.ObservationQueue

/-!
# Traffic through the queue

The sender and the receiver of the queue act on their own, and either can be dropped at any time.
Their acts come in some order, and an act happens when it can: a patient offer when it is answered,
and none of a side that has been dropped (`Traffic.perform?`). Taking all that waits is taking one
observation after the other (`Traffic.performAll?_takeNext`), so the sender may also act in between.

Whatever the order, the queue loses, doubles and swaps nothing (`Traffic.orderly_of_acts`). An act
does one of four things to the traffic (`Traffic.perform?_cases`), each of which keeps what has been
removed, followed by what waits, the same as what has been accepted (`Traffic.Kept`).
-/

namespace KeyBench

/-! ## Single acts -/

namespace ObservationQueue

variable {q q' : ObservationQueue} {s : Sighting} {o : Observation}

/-- The observation that an offer of a sighting carries. -/
def numbered (q : ObservationQueue) (s : Sighting) : Observation := ⟨s, q.nextNumber, true⟩

theorem hasRoom_eq_false_iff : q.hasRoom = false ↔ q.limit ≤ q.waiting.length := by
  rw [hasRoom, decide_eq_false_iff_not, Nat.not_lt]

/-- How an offer is answered. -/
theorem offer_fst (q : ObservationQueue) (s : Sighting) : (q.offer s).1 =
    if q.hasReceiver = false then .error .queueClosed
    else if q.hasRoom then .ok () else .error .queueFull := by
  unfold offer
  cases q.hasReceiver <;> cases q.hasRoom <;> rfl

theorem offer_eq_full_iff :
    (q.offer s).1 = .error .queueFull ↔ q.hasReceiver = true ∧ q.hasRoom = false := by
  rw [offer_fst]
  cases q.hasReceiver <;> cases q.hasRoom <;> simp

theorem offer_eq_closed_iff : (q.offer s).1 = .error .queueClosed ↔ q.hasReceiver = false := by
  rw [offer_fst]
  cases q.hasReceiver <;> cases q.hasRoom <;> simp

/-- **What an offer does.** Either there is room, and what it carries waits behind the others, or it
is refused. It takes a number in both cases. -/
theorem offer_cases (q : ObservationQueue) (s : Sighting) :
    (q.hasRoom = true ∧ q.offer s = (.ok (), { q with
      nextNumber := q.nextNumber + 1, waiting := q.waiting ++ [q.numbered s] })) ∨
    ∃ cause, q.offer s = (.error cause, { q with nextNumber := q.nextNumber + 1 }) := by
  unfold offer
  cases q.hasReceiver with
  | false => exact .inr ⟨.queueClosed, rfl⟩
  | true =>
    cases q.hasRoom with
    | false => exact .inr ⟨.queueFull, rfl⟩
    | true => exact .inl ⟨rfl, rfl⟩

/-- A patient offer waits as long as there is a receiver and no room. -/
theorem offerPatiently?_eq_none_iff :
    q.offerPatiently? s = none ↔ q.hasReceiver = true ∧ q.hasRoom = false := by
  unfold offerPatiently?
  cases q.hasReceiver <;> cases q.hasRoom <;> simp

/-- A patient offer that does not wait is an offer. -/
theorem offerPatiently?_eq_some_iff {r : Except HostError Unit × ObservationQueue} :
    q.offerPatiently? s = some r ↔
      ¬(q.hasReceiver = true ∧ q.hasRoom = false) ∧ q.offer s = r := by
  unfold offerPatiently?
  cases q.hasReceiver <;> cases q.hasRoom <;> simp

theorem offerPatiently?_ne_full : q.offerPatiently? s ≠ some (.error .queueFull, q') := by
  intro h
  obtain ⟨hroom, hoffer⟩ := offerPatiently?_eq_some_iff.mp h
  exact hroom (offer_eq_full_iff.mp (congrArg Prod.fst hoffer))

theorem exists_offerPatiently?_eq_closed_iff :
    (∃ q', q.offerPatiently? s = some (.error .queueClosed, q')) ↔ q.hasReceiver = false := by
  constructor
  · rintro ⟨q', h⟩
    obtain ⟨_, hoffer⟩ := offerPatiently?_eq_some_iff.mp h
    exact offer_eq_closed_iff.mp (congrArg Prod.fst hoffer)
  · intro hclosed
    refine ⟨(q.offer s).2, offerPatiently?_eq_some_iff.mpr ⟨?_, ?_⟩⟩
    · rintro ⟨hreceiver, _⟩
      rw [hclosed] at hreceiver
      cases hreceiver
    · rw [← offer_eq_closed_iff.mpr hclosed]

/-- How many more observations can wait. -/
def room (q : ObservationQueue) : Nat := q.limit - q.waiting.length

theorem hasRoom_iff : q.hasRoom = true ↔ q.room ≠ 0 := by
  rw [hasRoom, decide_eq_true_iff, room, Nat.sub_ne_zero_iff_lt]

/-- The queue after it has taken sightings. -/
def taking (q : ObservationQueue) (ss : List Sighting) : ObservationQueue :=
  { q with
    waiting := q.waiting ++ ss.mapIdx fun i s => ⟨s, q.nextNumber + i, true⟩
    nextNumber := q.nextNumber + ss.length }

@[simp]
theorem taking_nil (q : ObservationQueue) : q.taking [] = q := by
  simp [taking]

theorem taking_cons (q : ObservationQueue) (s : Sighting) (ss : List Sighting) :
    q.taking (s :: ss) = (q.taking [s]).taking ss := by
  simp [taking, List.mapIdx_cons, Nat.add_assoc, Nat.add_comm 1]

theorem room_taking (q : ObservationQueue) (ss : List Sighting) :
    (q.taking ss).room = q.room - ss.length := by
  rw [room, taking, List.length_append, List.length_mapIdx, room, Nat.sub_sub]

theorem map_toSighting_taking (q : ObservationQueue) (ss : List Sighting) :
    (q.taking ss).waiting.map Observation.toSighting =
      q.waiting.map Observation.toSighting ++ ss := by
  simp [taking, List.mapIdx_eq_zipIdx_map, Function.comp_def]

/-- **A sighting is taken if there is room and a receiver.** -/
theorem offer_of_room (hreceiver : q.hasReceiver = true) (hroom : q.room ≠ 0) (s : Sighting) :
    q.offer s = (.ok (), q.taking [s]) := by
  simp [offer, hreceiver, hasRoom_iff.mpr hroom, taking]

/-- Takes the observation that has waited longest, if one waits. -/
def takeNext? (q : ObservationQueue) : Option (Observation × ObservationQueue) :=
  match q.waiting with
  | [] => none
  | o :: rest => some (o, { q with waiting := rest })

end ObservationQueue

/-! ## Traffic -/

/-- An offer that has been answered. -/
structure Attempt where
  carried : Observation
  answer : Except HostError Unit

/-- What has come into the queue by an offer. -/
def Attempt.accepted (a : Attempt) : List Observation :=
  match a.answer with
  | .ok () => [a.carried]
  | .error _ => []

theorem Attempt.eq_of_mem_accepted {a : Attempt} {o : Observation} (h : o ∈ a.accepted) :
    o = a.carried := by
  unfold accepted at h
  split at h
  · exact List.mem_singleton.mp h
  · cases h

/-- A queue and what has happened to it. -/
structure Traffic where
  queue : ObservationQueue
  /-- The offers that have been answered, the first one first. -/
  attempts : List Attempt
  /-- What has been taken or discarded, in the order in which it has left the queue. -/
  removed : List Observation

/-- What a side of the queue does. -/
inductive Act where
  | offer (s : Sighting)
  | offerPatiently (s : Sighting)
  | closeSender
  | takeNext
  | takeAll
  | discardAll
  | closeReceiver
  deriving DecidableEq, Repr

namespace Traffic

variable {t t' : Traffic} {act : Act} {capacity : Nat}

/-- A new queue, to which nothing has happened. -/
def start (capacity : Nat) : Traffic := ⟨.ofCapacity capacity, [], []⟩

/-- What has come into the queue, in the order in which it was offered. -/
def accepted (t : Traffic) : List Observation := t.attempts.flatMap Attempt.accepted

/-- The traffic after an offer. -/
def offered (t : Traffic) (s : Sighting) (outcome : Except HostError Unit × ObservationQueue) :
    Traffic :=
  { t with queue := outcome.2, attempts := t.attempts ++ [⟨t.queue.numbered s, outcome.1⟩] }

/-- The traffic after observations have left the queue. -/
def taken (t : Traffic) (outcome : List Observation × ObservationQueue) : Traffic :=
  { t with queue := outcome.2, removed := t.removed ++ outcome.1 }

/-- The traffic after an act, if it can happen now. Who has been dropped does not act, and a patient
offer happens when it is answered. -/
def perform? (t : Traffic) : Act → Option Traffic
  | .offer s => if t.queue.hasSender then some (t.offered s (t.queue.offer s)) else none
  | .offerPatiently s =>
    if t.queue.hasSender then (t.queue.offerPatiently? s).map (t.offered s) else none
  | .closeSender => some { t with queue := t.queue.closeSender.2 }
  | .takeNext =>
    if t.queue.hasReceiver then t.queue.takeNext?.map fun (o, q) => t.taken ([o], q) else none
  | .takeAll => if t.queue.hasReceiver then some (t.taken t.queue.takeAll) else none
  | .discardAll =>
    if t.queue.hasReceiver then some (t.taken (t.queue.takeAll.1, t.queue.discardAll.2)) else none
  | .closeReceiver => some { t with queue := t.queue.closeReceiver.2 }

/-- The traffic after acts, if they can happen in this order. -/
def performAll? (t : Traffic) (acts : List Act) : Option Traffic := acts.foldlM perform? t

/-- **What an act can do.** A sighting is offered, observations are taken from the front, or one of
the sides is dropped. -/
theorem perform?_cases (h : t.perform? act = some t') :
    (∃ s, t' = t.offered s (t.queue.offer s)) ∨
    (∃ os rest, t.queue.waiting = os ++ rest ∧ t.queue.hasReceiver = true ∧
      t' = t.taken (os, { t.queue with waiting := rest })) ∨
    t' = { t with queue := t.queue.closeSender.2 } ∨
    t' = { t with queue := t.queue.closeReceiver.2 } := by
  cases act with
  | offer s =>
    simp only [perform?] at h
    split at h
    · exact .inl ⟨s, (Option.some.inj h).symm⟩
    · cases h
  | offerPatiently s =>
    simp only [perform?] at h
    split at h
    · obtain ⟨outcome, houtcome, rfl⟩ := Option.map_eq_some_iff.mp h
      obtain ⟨_, rfl⟩ := ObservationQueue.offerPatiently?_eq_some_iff.mp houtcome
      exact .inl ⟨s, rfl⟩
    · cases h
  | closeSender => exact .inr (.inr (.inl (Option.some.inj h).symm))
  | takeNext =>
    simp only [perform?] at h
    split at h
    · next hreceiver =>
      obtain ⟨⟨o, q⟩, hnext, rfl⟩ := Option.map_eq_some_iff.mp h
      unfold ObservationQueue.takeNext? at hnext
      split at hnext
      · cases hnext
      · next rest hwaiting =>
        obtain ⟨rfl, rfl⟩ := Prod.mk.inj (Option.some.inj hnext)
        exact .inr (.inl ⟨_, rest, hwaiting, hreceiver, rfl⟩)
    · cases h
  | takeAll =>
    simp only [perform?] at h
    split at h
    · next hreceiver =>
      exact .inr (.inl ⟨_, [], (List.append_nil _).symm, hreceiver, (Option.some.inj h).symm⟩)
    · cases h
  | discardAll =>
    simp only [perform?] at h
    split at h
    · next hreceiver =>
      exact .inr (.inl ⟨_, [], (List.append_nil _).symm, hreceiver, (Option.some.inj h).symm⟩)
    · cases h
  | closeReceiver => exact .inr (.inr (.inr (Option.some.inj h).symm))

/-- **Taking all that waits is taking one observation after the other.** So when the sender acts in
between, that is traffic, too. -/
theorem performAll?_takeNext (hreceiver : t.queue.hasReceiver = true) :
    t.performAll? (List.replicate t.queue.waiting.length .takeNext) = t.perform? .takeAll := by
  obtain ⟨⟨limit, waiting, nextNumber, hasReceiver, hasSender⟩, attempts, removed⟩ := t
  obtain rfl : hasReceiver = true := hreceiver
  induction waiting generalizing removed with
  | nil =>
    show some _ = some _
    rw [taken, ObservationQueue.takeAll, List.append_nil]
  | cons o rest ih =>
    refine (ih (removed ++ [o])).trans ?_
    show some (taken _ _) = some (taken _ _)
    simp only [taken, ObservationQueue.takeAll, List.append_assoc, List.singleton_append]

/-! ## What acts keep -/

/-- What no act changes: the queue has its limit, the numbers count the offers, and what has been
accepted has been removed or waits. -/
structure Kept (capacity : Nat) (t : Traffic) : Prop where
  limit_eq : t.queue.limit = max capacity 1
  length_le : t.queue.waiting.length ≤ t.queue.limit
  nextNumber_eq : t.queue.nextNumber = t.attempts.length
  sequence_eq : t.attempts.map (fun a => a.carried.sequence) = List.range t.attempts.length
  /-- Nothing is removed before something that was accepted earlier. -/
  removed_prefix : t.removed <+: t.accepted
  /-- Only a receiver that is dropped lets things be lost. -/
  accepted_eq : t.queue.hasReceiver = true → t.removed ++ t.queue.waiting = t.accepted

theorem kept_start (capacity : Nat) : (start capacity).Kept capacity where
  limit_eq := rfl
  length_le := Nat.zero_le _
  nextNumber_eq := rfl
  sequence_eq := rfl
  removed_prefix := List.prefix_rfl
  accepted_eq := fun _ => rfl

theorem accepted_offered (t : Traffic) (s : Sighting)
    (outcome : Except HostError Unit × ObservationQueue) :
    (t.offered s outcome).accepted =
      t.accepted ++ Attempt.accepted ⟨t.queue.numbered s, outcome.1⟩ := by
  rw [accepted, offered, List.flatMap_append, List.flatMap_singleton]
  rfl

/-- The number that an offer carries is that of the offers before it. -/
theorem Kept.sequence_offered (h : t.Kept capacity) (s : Sighting)
    (outcome : Except HostError Unit × ObservationQueue) :
    (t.offered s outcome).attempts.map (fun a => a.carried.sequence) =
      List.range (t.offered s outcome).attempts.length := by
  rw [offered, List.map_append, List.length_append, List.length_singleton, List.range_succ,
    h.sequence_eq, ← h.nextNumber_eq]
  rfl

theorem Kept.offered (h : t.Kept capacity) (s : Sighting) :
    (t.offered s (t.queue.offer s)).Kept capacity := by
  have hsequence := h.sequence_offered s (t.queue.offer s)
  have haccepted := t.accepted_offered s (t.queue.offer s)
  rcases t.queue.offer_cases s with ⟨hroom, hoffer⟩ | ⟨cause, hoffer⟩
  · rw [hoffer] at hsequence haccepted ⊢
    refine ⟨h.limit_eq, ?_, ?_, hsequence, ?_, ?_⟩
    · rw [ObservationQueue.hasRoom, decide_eq_true_eq] at hroom
      show (t.queue.waiting ++ [_]).length ≤ t.queue.limit
      rw [List.length_append, List.length_singleton]
      exact hroom
    · show t.queue.nextNumber + 1 = (t.attempts ++ [_]).length
      rw [h.nextNumber_eq, List.length_append, List.length_singleton]
    · rw [haccepted]
      exact h.removed_prefix.trans (List.prefix_append _ _)
    · intro hreceiver
      show t.removed ++ (t.queue.waiting ++ [_]) = _
      rw [haccepted, ← List.append_assoc, h.accepted_eq hreceiver]
      rfl
  · rw [hoffer] at hsequence haccepted ⊢
    rw [show Attempt.accepted ⟨_, .error cause⟩ = [] from rfl, List.append_nil] at haccepted
    refine ⟨h.limit_eq, h.length_le, ?_, hsequence, ?_, ?_⟩
    · show t.queue.nextNumber + 1 = (t.attempts ++ [_]).length
      rw [h.nextNumber_eq, List.length_append, List.length_singleton]
    · rw [haccepted]
      exact h.removed_prefix
    · rw [haccepted]
      exact h.accepted_eq

theorem Kept.taken (h : t.Kept capacity) {os rest : List Observation}
    (hwaiting : t.queue.waiting = os ++ rest) (hreceiver : t.queue.hasReceiver = true) :
    (t.taken (os, { t.queue with waiting := rest })).Kept capacity := by
  have haccepted : t.removed ++ os ++ rest = t.accepted := by
    rw [List.append_assoc, ← hwaiting, h.accepted_eq hreceiver]
  have hlength := h.length_le
  rw [hwaiting, List.length_append] at hlength
  refine ⟨h.limit_eq, ?_, h.nextNumber_eq, h.sequence_eq, ⟨rest, haccepted⟩, fun _ => haccepted⟩
  show rest.length ≤ t.queue.limit
  omega

/-- **Acts keep the queue in order**, one after the other. -/
theorem Kept.perform? (h : t.Kept capacity) (hact : t.perform? act = some t') :
    t'.Kept capacity := by
  rcases perform?_cases hact with ⟨s, rfl⟩ | ⟨os, rest, hwaiting, hreceiver, rfl⟩ | rfl | rfl
  · exact h.offered s
  · exact h.taken hwaiting hreceiver
  · exact ⟨h.limit_eq, h.length_le, h.nextNumber_eq, h.sequence_eq, h.removed_prefix, h.accepted_eq⟩
  · -- what waits is lost with the receiver
    exact ⟨h.limit_eq, Nat.zero_le _, h.nextNumber_eq, h.sequence_eq, h.removed_prefix, nofun⟩

theorem Kept.performAll? : ∀ {acts : List Act} {t : Traffic}, t.Kept capacity →
    t.performAll? acts = some t' → t'.Kept capacity
  | [], _, h, hacts => by
    obtain rfl := Option.some.inj hacts
    exact h
  | act :: acts, t, h, hacts => by
    obtain ⟨t₁, hact, hrest⟩ := Option.bind_eq_some_iff.mp hacts
    exact (h.perform? hact).performAll? hrest

/-! ## Order -/

theorem Kept.hasRoom_eq_false_iff (h : t.Kept capacity) :
    t.queue.hasRoom = false ↔ t.queue.waiting.length = max capacity 1 := by
  have hle := h.length_le
  rw [h.limit_eq] at hle
  rw [ObservationQueue.hasRoom_eq_false_iff, h.limit_eq]
  omega

/-- An offer carries the number of those before it. -/
theorem Kept.sequence_eq_of_getElem? (h : t.Kept capacity) {k : Nat} {a : Attempt}
    (ha : t.attempts[k]? = some a) : a.carried.sequence = k := by
  have hk : (t.attempts.map fun a => a.carried.sequence)[k]? = some a.carried.sequence := by
    rw [List.getElem?_map, ha, Option.map_some]
  rw [h.sequence_eq] at hk
  obtain ⟨hlt, hget⟩ := List.getElem?_eq_some_iff.mp hk
  rw [← hget, List.getElem_range]

/-- What has been accepted has rising numbers. -/
theorem Kept.pairwise_accepted (h : t.Kept capacity) :
    t.accepted.Pairwise fun o p => o.sequence < p.sequence := by
  have hattempts : t.attempts.Pairwise fun a b => a.carried.sequence < b.carried.sequence := by
    rw [← List.pairwise_map (R := (· < ·)), h.sequence_eq]
    exact List.pairwise_lt_range
  rw [accepted, List.pairwise_flatMap]
  constructor
  · intro a _
    unfold Attempt.accepted
    split
    · exact List.pairwise_singleton _ _
    · exact List.Pairwise.nil
  · refine hattempts.imp ?_
    intro a b hlt o ho p hp
    rw [Attempt.eq_of_mem_accepted ho, Attempt.eq_of_mem_accepted hp]
    exact hlt

/-- What holds of a queue of observations at every point of its traffic. -/
structure Orderly (capacity : Nat) (t : Traffic) : Prop where
  /-- No more observations wait than there is room for. -/
  length_le : t.queue.waiting.length ≤ max capacity 1
  /-- Offers are numbered from 0, whether they are accepted or not. -/
  sequence_eq : ∀ (k : Nat) (a : Attempt), t.attempts[k]? = some a → a.carried.sequence = k
  /-- A sighting is refused at once if there is a receiver and no room. -/
  full_iff : ∀ s, (t.queue.offer s).1 = .error .queueFull ↔
    t.queue.hasReceiver = true ∧ t.queue.waiting.length = max capacity 1
  /-- If it is offered patiently, it has to wait then, and only then. -/
  waits_iff : ∀ s, t.queue.offerPatiently? s = none ↔
    t.queue.hasReceiver = true ∧ t.queue.waiting.length = max capacity 1
  /-- So patience is never answered by a lack of room. -/
  patient_ne_full : ∀ s q, t.queue.offerPatiently? s ≠ some (.error .queueFull, q)
  /-- Without a receiver every sighting is refused, and otherwise none for that reason. -/
  closed_iff : ∀ s, (t.queue.offer s).1 = .error .queueClosed ↔ t.queue.hasReceiver = false
  patient_closed_iff : ∀ s, (∃ q, t.queue.offerPatiently? s = some (.error .queueClosed, q)) ↔
    t.queue.hasReceiver = false
  /-- While there is a receiver, what has been removed and then what waits are what has been
  accepted, in the same order. -/
  accepted_eq : t.queue.hasReceiver = true → t.removed ++ t.queue.waiting = t.accepted
  /-- What has been removed has rising numbers. -/
  rising : t.removed.Pairwise fun o p => o.sequence < p.sequence

/-- **The queue neither loses, doubles nor reorders observations**, whatever its two sides do and in
whatever order. -/
theorem orderly_of_acts (capacity : Nat) (acts : List Act)
    (h : (start capacity).performAll? acts = some t) : t.Orderly capacity := by
  have hkept : t.Kept capacity := (kept_start capacity).performAll? h
  exact
    { length_le := hkept.limit_eq ▸ hkept.length_le
      sequence_eq := fun _ _ ha => hkept.sequence_eq_of_getElem? ha
      full_iff := fun s => by
        rw [ObservationQueue.offer_eq_full_iff, hkept.hasRoom_eq_false_iff]
      waits_iff := fun s => by
        rw [ObservationQueue.offerPatiently?_eq_none_iff, hkept.hasRoom_eq_false_iff]
      patient_ne_full := fun _ _ => ObservationQueue.offerPatiently?_ne_full
      closed_iff := fun s => ObservationQueue.offer_eq_closed_iff
      patient_closed_iff := fun _ => ObservationQueue.exists_offerPatiently?_eq_closed_iff
      accepted_eq := hkept.accepted_eq
      rising := hkept.pairwise_accepted.sublist hkept.removed_prefix.sublist }

/-- What has come of a queue that has had room for one observation. -/
def narrow : Traffic where
  queue := ⟨1, [⟨⟨"d", .press⟩, 3, true⟩], 4, true, true⟩
  attempts := [
    ⟨⟨⟨"a", .press⟩, 0, true⟩, .ok ()⟩, ⟨⟨⟨"b", .press⟩, 1, true⟩, .error .queueFull⟩,
    ⟨⟨⟨"c", .press⟩, 2, true⟩, .ok ()⟩, ⟨⟨⟨"d", .press⟩, 3, true⟩, .ok ()⟩]
  removed := [⟨⟨"a", .press⟩, 0, true⟩, ⟨⟨"c", .press⟩, 2, true⟩]

/-- The second offer is refused, but it takes a number. The third one waits until the first
observation has been taken, and what it carries is discarded. -/
theorem orderly_of_acts_narrow :
    (start 0).performAll? [.offer ⟨"a", .press⟩, .offer ⟨"b", .press⟩, .takeNext,
      .offerPatiently ⟨"c", .press⟩, .discardAll, .offer ⟨"d", .press⟩] = some narrow ∧
    narrow.Orderly 0 := by
  refine ⟨?acts, orderly_of_acts 0 _ ?acts⟩
  rfl

end Traffic

end KeyBench
