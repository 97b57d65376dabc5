import KeyBench.Proofs.Bench.Reactions
import KeyBench.Proofs.Bench.Writes

/-!
# Leftovers

What waits in the queue before a case, left over from cases before it for example, is discarded
before the first frame is written. So it makes no difference to the case (`run_withLeftovers`), not
even if it fills the queue. It still shows in the numbers of the observations after it, which is why
the wire must not look at them.
-/

namespace KeyBench

variable {σ : Type}

/-! ## Writing -/

namespace Wire

variable {wire : Wire σ}

/-- **On queues that differ in numbers only, a wire that overlooks numbers attempts the same frames,
and the writing comes to the same.** -/
theorem OverlooksNumbers.writeAll (hwire : wire.OverlooksNumbers) :
    ∀ (frames : List Frame) {t u : σ × ObservationQueue}, t.1 = u.1 → t.2.Alike u.2 →
      wire.attempted t frames = wire.attempted u frames ∧
        SameOutcome (wire.writeAll t frames) (wire.writeAll u frames)
  | [], _, _, hdevice, hqueue => ⟨rfl, rfl, hdevice, hqueue⟩
  | f :: frames, (device, q), (_, r), hdevice, hqueue => by
    obtain rfl : device = _ := hdevice
    obtain ⟨result, t, u, hwrite, hwrite', hdevice, hqueue⟩ :=
      (hwire device q r f.bytes hqueue).exists_eq
    cases result with
    | error cause =>
      rw [attempted_cons_of_error hwrite, attempted_cons_of_error hwrite',
        writeAll_cons_of_error hwrite, writeAll_cons_of_error hwrite']
      exact ⟨rfl, rfl, hdevice, hqueue⟩
    | ok =>
      rw [attempted_cons_of_ok hwrite, attempted_cons_of_ok hwrite', writeAll_cons_of_ok hwrite,
        writeAll_cons_of_ok hwrite']
      obtain ⟨hattempted, hall⟩ := hwire.writeAll frames hdevice hqueue
      exact ⟨by rw [hattempted], hall⟩

end Wire

/-! ## Cases -/

namespace Bench

variable {wire : Wire σ} {settings : Settings} {s : Scenario} {b b' : Bench σ} {plan : Plan}

/-- What a write can change, after a case that is planned. -/
theorem reach_run_of_plan (h : s.plan = .ok plan) : (run wire settings s b).2.reach =
    match wire.writeAll b.cleared plan.frames with
    | (.error _, t) => t
    | (.ok (), t) => (t.1, t.2.takeAll.2) := by
  have hsend : _ = wire.writeAll b.cleared plan.frames :=
    send_apply settings.holdMs plan.frames { b with queue := b.queue.discardAll.2 }
  rw [run_snd_of_plan h, carryOut_snd, ← hsend]
  obtain ⟨⟨result, b'⟩, hb'⟩ : ∃ r, (host wire).send settings.holdMs plan.frames
    { b with queue := b.queue.discardAll.2 } = r := ⟨_, rfl⟩
  rw [hb']
  cases result <;> rfl

/-- If the writing comes to the same, the case has the same outcome. -/
theorem run_fst_eq_of_sameOutcome (hplan : s.plan = .ok plan)
    (h : SameOutcome (wire.writeAll b.cleared plan.frames) (wire.writeAll b'.cleared plan.frames)) :
    (run wire settings s b).1 = (run wire settings s b').1 := by
  rw [run_fst, run_fst, hplan]
  dsimp only
  obtain ⟨result, t, u, hwrite, hwrite', _, hqueue⟩ := h.exists_eq
  rw [carryOut_fst, carryOut_fst, hwrite, hwrite']
  cases result with
  | error cause => rfl
  | ok =>
    dsimp only
    rw [hqueue.sightings_eq]

/-- If the writing comes to the same, the case leaves the same device, and queues that are alike. -/
theorem run_snd_of_sameOutcome (settings : Settings) (hplan : s.plan = .ok plan)
    (h : SameOutcome (wire.writeAll b.cleared plan.frames) (wire.writeAll b'.cleared plan.frames)) :
    (run wire settings s b).2.device = (run wire settings s b').2.device ∧
      (run wire settings s b).2.queue.Alike (run wire settings s b').2.queue := by
  show (run wire settings s b).2.reach.1 = (run wire settings s b').2.reach.1 ∧
    (run wire settings s b).2.reach.2.Alike (run wire settings s b').2.reach.2
  obtain ⟨result, t, u, hwrite, hwrite', hdevice, hqueue⟩ := h.exists_eq
  rw [reach_run_of_plan hplan, reach_run_of_plan hplan, hwrite, hwrite']
  cases result with
  | error cause => exact ⟨hdevice, hqueue⟩
  | ok => exact ⟨hdevice, hqueue.takeAll⟩

/-! ## Leftovers -/

/-- A bench with other observations waiting, and perhaps another number for the next one. -/
def withLeftovers (b : Bench σ) (waiting : List Observation) (nextNumber : Nat) : Bench σ :=
  { b with queue := { b.queue with waiting, nextNumber } }

/-- Once the queue has been emptied, leftovers show in numbers only. -/
theorem cleared_withLeftovers (b : Bench σ) (waiting : List Observation) (nextNumber : Nat) :
    (b.withLeftovers waiting nextNumber).cleared =
      (b.cleared.1, { b.cleared.2 with nextNumber }) := rfl

/-- **Leftovers do not change what is written, and the writing comes to the same.** -/
theorem writeAll_withLeftovers (waiting : List Observation) {nextNumber : Nat}
    (hwire : nextNumber = b.queue.nextNumber ∨ wire.OverlooksNumbers) (frames : List Frame) :
    wire.attempted (b.withLeftovers waiting nextNumber).cleared frames =
        wire.attempted b.cleared frames ∧
      SameOutcome (wire.writeAll (b.withLeftovers waiting nextNumber).cleared frames)
        (wire.writeAll b.cleared frames) := by
  rw [cleared_withLeftovers]
  rcases hwire with rfl | hwire
  · exact ⟨rfl, .refl _⟩
  · exact hwire.writeAll frames rfl ⟨rfl, rfl, rfl, rfl⟩

/-- **Cases do not leak into each other.** Whatever waits in the queue before a case, the case has
the same outcome, writes the same frames and leaves the same device. Unless it is rejected before
the first frame, it also leaves the same sightings in the queue. What comes next may have another
number, too, if the wire does not look at numbers. -/
theorem run_withLeftovers (wire : Wire σ) (settings : Settings) (s : Scenario) (b : Bench σ)
    (waiting : List Observation) (nextNumber : Nat)
    (hwire : nextNumber = b.queue.nextNumber ∨ wire.OverlooksNumbers) :
    (run wire settings s (b.withLeftovers waiting nextNumber)).1 = (run wire settings s b).1 ∧
    (run wire settings s (b.withLeftovers waiting nextNumber)).2.written =
      (run wire settings s b).2.written ∧
    (run wire settings s (b.withLeftovers waiting nextNumber)).2.device =
      (run wire settings s b).2.device ∧
    ((∀ f, (run wire settings s b).1 = .error f →
        (∀ e, f.cause ≠ .sequence e) ∧ ∀ e, f.cause ≠ .frame e) →
      (run wire settings s (b.withLeftovers waiting nextNumber)).2.queue.waiting.map
          Observation.toSighting =
        (run wire settings s b).2.queue.waiting.map Observation.toSighting) := by
  cases hplan : s.plan with
  | error cause =>
    rw [run_of_plan_error hplan, run_of_plan_error hplan]
    refine ⟨rfl, rfl, rfl, ?_⟩
    intro hstarted
    obtain ⟨hsequence, hframe⟩ := hstarted _ rfl
    rcases Scenario.plan_eq_error_iff.mp hplan with ⟨e, _, rfl⟩ | ⟨_, e, _, rfl⟩
    · exact absurd rfl (hsequence e)
    · exact absurd rfl (hframe e)
  | ok plan =>
    obtain ⟨hattempted, hwrite⟩ := writeAll_withLeftovers waiting hwire plan.frames
    obtain ⟨hdevice, hqueue⟩ := run_snd_of_sameOutcome settings hplan hwrite
    refine ⟨run_fst_eq_of_sameOutcome hplan hwrite, ?_, hdevice, fun _ => hqueue.sightings_eq⟩
    rw [run_written_of_plan hplan, run_written_of_plan hplan, hattempted]
    rfl

/-- A bench of which the device tells of more than the queue has room for. -/
def overflowing : Bench Echo where
  device := { Echo.faithful with
    script? := some [[⟨"a", .press⟩, ⟨"a", .release⟩, ⟨"a", .press⟩]] }
  queue := ObservationQueue.ofCapacity 2
  written := []
  clock := 0

/-- Two observations fill the queue at first and are gone when the frame is written. The device then
fills the queue again, and the third sighting makes the write fail. -/
theorem run_withLeftovers_overflowing :
    Echo.wire.OverlooksNumbers ∧
    (run Echo.wire .default (.ofBatches "tap" [[.press .letterA, .release .letterA]])
      (overflowing.withLeftovers [⟨⟨"z", .release⟩, 5, true⟩, ⟨⟨"?", .press⟩, 6, true⟩] 7)).1 =
      .error ⟨"tap", none, [.press .letterA, .release .letterA], .host .queueFull⟩ ∧
    (run Echo.wire .default (.ofBatches "tap" [[.press .letterA, .release .letterA]])
      (overflowing.withLeftovers [⟨⟨"z", .release⟩, 5, true⟩, ⟨⟨"?", .press⟩, 6, true⟩]
        7)).2.queue.waiting.map Observation.toSighting = [⟨"a", .press⟩, ⟨"a", .release⟩] := by
  have hwire := Echo.wire_overlooksNumbers
  have hrun : (run Echo.wire .default (.ofBatches "tap" [[.press .letterA, .release .letterA]])
      overflowing).1 =
        .error ⟨"tap", none, [.press .letterA, .release .letterA], .host .queueFull⟩ := rfl
  obtain ⟨hresult, _, _, hqueue⟩ := run_withLeftovers Echo.wire .default
    (.ofBatches "tap" [[.press .letterA, .release .letterA]]) overflowing
    [⟨⟨"z", .release⟩, 5, true⟩, ⟨⟨"?", .press⟩, 6, true⟩] 7 (.inr hwire)
  refine ⟨hwire, hresult.trans hrun, (hqueue ?_).trans rfl⟩
  rw [hrun]
  rintro f ⟨⟩
  exact ⟨nofun, nofun⟩

end Bench

end KeyBench
