import KeyBench.Bench.Echo
import KeyBench.Proofs.Bench.Verdict
import KeyBench.Proofs.Frame.Codec
import KeyBench.Proofs.Interleaving.Balance
import KeyBench.Proofs.Key.Lookup
import KeyBench.Proofs.ObservationQueue.Traffic

/-!
# Devices that conform

A device conforms if it decodes the frames that are written and the host then tells of their events
report by report, in any order within a report and by names in any case (`Wire.Conforms`). What is
told goes into the queue as long as there is room. The receiver of the queue is the bench itself, so
it is there while a case runs.

On such a device every case of one batch passes if its events can be played and there is room for
them in a frame and in the queue (`Bench.run_of_conforms`), whatever has been in the queue before. A
random case of up to 127 keys is one (`Bench.run_random`).
-/

namespace KeyBench

variable {σ : Type}

/-! ## Room in the queue -/

/-- **Sightings for which there is room all wait, in their order.** -/
theorem Echo.offerAll_of_room : ∀ (ss : List Sighting) (q : ObservationQueue),
    q.hasReceiver = true → ss.length ≤ q.room → offerAll q ss = (.ok (), q.taking ss)
  | [], q, _, _ => by rw [offerAll, ObservationQueue.taking_nil]
  | s :: ss, q, hreceiver, hroom => by
    rw [List.length_cons] at hroom
    -- the first sighting takes one place, which leaves room for the others
    have hrest : ss.length ≤ (q.taking [s]).room := by
      rw [ObservationQueue.room_taking, List.length_singleton]
      omega
    rw [offerAll, ObservationQueue.offer_of_room hreceiver (by omega) s,
      ObservationQueue.taking_cons q s ss]
    exact offerAll_of_room ss (q.taking [s]) hreceiver hrest

/-! ## Conformance -/

/-- Whether a sighting has the direction of an event and the host name of its key, in any case. -/
def Sighting.Names (s : Sighting) (e : Event) : Prop :=
  Text.lower s.name = Text.lower e.key.hostName ∧ s.direction = e.direction

theorem Sighting.tellsOf_iff_names {s : Sighting} {e : Event} : s.TellsOf e ↔ s.Names e :=
  and_congr_left' Key.ofHostName_eq_ok_iff

/-- Whether the writing of a frame has the host tell of a delivery of its reports, which goes into
the queue up to the first sighting that is refused. The order within the reports and the case of the
names may be others for every frame and every state of the queue. -/
def Wire.Conforms (wire : Wire σ) (device : σ) : Prop :=
  ∀ (q : ObservationQueue) (bytes : List UInt8) (es : List Event), Frame.decode bytes = .ok es →
    ∃ arrived ss device', Report.IsDelivery (Forecast.ofEvents es).reports arrived ∧
      List.Forall₂ Sighting.Names ss arrived ∧
      wire.write device q bytes = ((Echo.offerAll q ss).1, device', (Echo.offerAll q ss).2)

/-- What an echo tells of an event names it. -/
theorem Echo.names_sighting (d : Echo) (e : Event) : (d.sighting e).Names e := by
  refine ⟨?_, rfl⟩
  unfold sighting
  cases d.capitals
  · rfl
  · exact Key.lower_upper_hostName e.key

/-- An echo conforms if it tells of the frames and at most turns their reports round. -/
theorem Echo.wire_conforms {d : Echo} (hscript : d.script? = none) (hfails : d.failsAt? = none)
    (hd : d.disturbance = .inOrder ∨ d.disturbance = .reverseReports) : wire.Conforms d := by
  intro q bytes es hdecode
  refine ⟨d.disturbance.apply es, (d.disturbance.apply es).map d.sighting,
    { d with count := d.count + 1 }, ?_, ?_, ?_⟩
  · rcases hd with hd | hd
    · have h := Report.isDelivery_flatMap (Forecast.reportsOf es)
      rw [Forecast.reportsOf_flatten, ← Forecast.reports_ofEvents] at h
      rwa [hd]
    · rw [hd]
      exact Report.isDelivery_flatMap_of_perm (fun r => r.events.reverse_perm) _
  · rw [List.forall₂_map_left_iff, List.forall₂_same]
    exact fun e _ => d.names_sighting e
  · simp [wire, sightings, hscript, hfails, hdecode]

namespace Bench

variable {wire : Wire σ} {settings : Settings} {s : Scenario} {b : Bench σ} {es : List Event}

/-! ## Cases of one batch -/

/-- **A case of one batch passes on a device that conforms** if its events can be played and there
is room for them in a frame and in the queue. -/
theorem run_of_conforms (hbatches : s.batches = [es]) (hplay : Event.checkSequence es = .ok ())
    (hle : es.length ≤ Frame.capacity) (hreceiver : b.queue.hasReceiver = true)
    (hroom : es.length ≤ b.queue.limit) (hwire : wire.Conforms b.device) :
    (run wire settings s b).1 =
      .ok ⟨s.name, s.seed?, es.length, (Forecast.ofEvents es).size, 1⟩ := by
  let f : Frame := ⟨es, hle⟩
  obtain ⟨arrived, ss, device, hdelivery, hnames, hwrite⟩ :=
    hwire b.queue.discardAll.2 f.bytes es f.decode_bytes
  have hlength : ss.length = es.length := by
    rw [hnames.length_eq, hdelivery.perm.length_eq, Forecast.reports_ofEvents,
      Forecast.reportsOf_flatten]
  -- the queue has been emptied, so what waits after the write is what has been told of the frame
  have hroom' : ss.length ≤ b.queue.discardAll.2.room := by
    rw [hlength]
    exact hroom
  rw [Echo.offerAll_of_room ss b.queue.discardAll.2 hreceiver hroom'] at hwrite
  rw [run_eq_ok_iff, Scenario.events_of_batches_eq hbatches, hbatches]
  refine ⟨⟨hplay, [f], (device, _), rfl, Wire.writeAll_cons_of_ok hwrite, arrived, ?_, hdelivery⟩,
    rfl⟩
  rw [ObservationQueue.map_toSighting_taking]
  exact hnames.imp fun _ _ => Sighting.tellsOf_iff_names.mpr

/-- A case of one batch that is too long for a frame is not started. -/
theorem run_of_oversized (hbatches : s.batches = [es]) (hplay : Event.checkSequence es = .ok ())
    (hlt : Frame.capacity < es.length) :
    run wire settings s b = (.error ⟨s.name, s.seed?, es, .frame (.oversized es.length)⟩, b) := by
  have hevents : s.events = es := Scenario.events_of_batches_eq hbatches
  have hframes : Frame.ofBatches s.batches = .error (.oversized es.length) := by
    rw [hbatches, Frame.ofBatches_cons_of_lt hlt]
  rw [← hevents] at hplay
  have hplan := Scenario.plan_eq_error_iff.mpr (.inr ⟨hplay, _, hframes, rfl⟩)
  rw [run_of_plan_error hplan, hevents]

/-! ## Random cases -/

/-- **A random case passes on every device that conforms, up to the size of a frame.** Whatever the
keys and the seed are, however the device orders the events of a report and writes the names, and
whatever waits in the queue at first: if the queue has room for the two events of each key, a case
of up to 127 keys passes with one frame. A case of more keys fails for their number, and leaves the
bench as it was. In any case what is read of a frame of the events is what was put into it. -/
theorem run_random (wire : Wire σ) (settings : Settings) (name : String) (keys : List Key)
    (seed : UInt64) (capacity : Nat) (b : Bench σ) (hlimit : b.queue.limit = max capacity 1)
    (hreceiver : b.queue.hasReceiver = true) (hroom : 2 * keys.length ≤ max capacity 1)
    (hwire : wire.Conforms b.device) :
    (keys.length ≤ 127 → (run wire settings (.random name keys seed) b).1 = .ok
      ⟨name, some seed, 2 * keys.length,
        (Forecast.ofEvents (Interleaving.ofSeed keys seed)).size, 1⟩) ∧
    (128 ≤ keys.length → run wire settings (.random name keys seed) b =
      (.error ⟨name, some seed, Interleaving.ofSeed keys seed,
        .frame (.oversized (2 * keys.length))⟩, b)) ∧
    ((Interleaving.ofSeed keys seed).length ≤ 255 →
      ∃ bytes, Frame.encode (Interleaving.ofSeed keys seed) = .ok bytes ∧
        Frame.decode bytes = .ok (Interleaving.ofSeed keys seed)) := by
  have hlength := Interleaving.length_ofSeed keys seed
  have hplay := Interleaving.checkSequence_ofSeed keys seed
  rw [← hlimit, ← hlength] at hroom
  rw [← hlength]
  refine ⟨fun hfew => ?_, fun hmany => ?_, fun hle => ?_⟩
  · have hle : (Interleaving.ofSeed keys seed).length ≤ Frame.capacity := by
      rw [hlength, Frame.capacity]
      omega
    exact run_of_conforms rfl hplay hle hreceiver hroom hwire
  · have hlt : Frame.capacity < (Interleaving.ofSeed keys seed).length := by
      rw [hlength, Frame.capacity]
      omega
    exact run_of_oversized rfl hplay hlt
  · let f : Frame := ⟨Interleaving.ofSeed keys seed, hle⟩
    exact ⟨f.bytes, Frame.encode_events f, f.decode_bytes⟩

/-- An echo that turns reports round and tells names in capital letters, with an old observation in
its queue. -/
def reversing : Bench Echo where
  device := { Echo.faithful with disturbance := .reverseReports, capitals := true }
  queue := { ObservationQueue.ofCapacity 256 with
    waiting := [⟨⟨"old", .press⟩, 0, true⟩], nextNumber := 1 }
  written := []
  clock := 0

/-- Two taps of one key pass on the echo that turns reports round, and 128 taps are refused. -/
theorem run_random_reversing :
    (run Echo.wire .default (.random "two" [.letterA, .letterA] 7) reversing).1 = .ok
      ⟨"two", some 7, 4, (Forecast.ofEvents (Interleaving.ofSeed [.letterA, .letterA] 7)).size, 1⟩ ∧
    run Echo.wire .default (.random "many" (List.replicate 128 .letterA) 7) reversing =
      (.error ⟨"many", some 7, Interleaving.ofSeed (List.replicate 128 .letterA) 7,
        .frame (.oversized 256)⟩, reversing) := by
  have hwire : Echo.wire.Conforms reversing.device := Echo.wire_conforms rfl rfl (.inr rfl)
  constructor
  · exact (run_random Echo.wire .default "two" [.letterA, .letterA] 7 256 reversing rfl rfl
      (by decide) hwire).1 (by decide)
  · have hlength : (List.replicate 128 Key.letterA).length = 128 := List.length_replicate
    have hmany := run_random Echo.wire .default "many" (List.replicate 128 .letterA) 7 256 reversing
      rfl rfl (by rw [hlength]; decide) hwire
    rw [hlength] at hmany
    exact hmany.2.1 (by decide)

end Bench

end KeyBench
