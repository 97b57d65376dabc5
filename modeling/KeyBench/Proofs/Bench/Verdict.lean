import KeyBench.Proofs.Bench.Sending
import KeyBench.Proofs.Case.Planning
import KeyBench.Proofs.Checker.Sightings

/-!
# When a case passes

A case goes through four stages: its events are played, its batches are put into frames, the frames
are written, and what waits in the queue then is checked. It passes if nothing goes wrong in any of
them. Otherwise it fails for the first thing that goes wrong (`Fault`).

The queue is emptied before the first frame is written, so what waits in it at the end has arrived
since then.
-/

namespace KeyBench.Bench

variable {σ : Type} {wire : Wire σ} {settings : Settings} {s : Scenario} {b : Bench σ}
  {plan : Plan} {cause : RunError}

/-- What a write can change when the queue has been emptied. -/
def cleared (b : Bench σ) : σ × ObservationQueue := (b.device, b.queue.discardAll.2)

/-! ## Carrying out a plan -/

theorem collect_fst (b : Bench σ) : ((host wire).collect b).1 = b.queue.waiting := rfl

/-- A plan is carried out by writing its frames and checking what waits in the queue then. -/
theorem carryOut_fst : ((host wire).carryOut settings plan b).1 =
    match wire.writeAll b.cleared plan.frames with
    | (.error e, _) => .error (.host e)
    | (.ok (), t) =>
      match plan.forecast.check (t.2.waiting.map Observation.toSighting) with
      | .error e => .error (.check e)
      | .ok () => .ok () := by
  let emptied : Bench σ := { b with queue := b.queue.discardAll.2 }
  have hdiscard : (host wire).discard b = ((), emptied) := rfl
  have hsend : _ = wire.writeAll b.cleared plan.frames :=
    send_apply settings.holdMs plan.frames emptied
  obtain ⟨⟨result, b'⟩, hb'⟩ :
    ∃ r, (host wire).send settings.holdMs plan.frames emptied = r := ⟨_, rfl⟩
  rw [hb'] at hsend
  rw [← hsend, Host.carryOut, bind_apply, hdiscard, bind_apply, hb']
  cases result with
  | error e => rfl
  | ok =>
    dsimp only
    rw [bind_apply, pause_apply, bind_apply, collect_fst, reach]
    cases plan.forecast.check (b'.queue.waiting.map Observation.toSighting) <;> rfl

theorem carryOut_eq_ok_iff : ((host wire).carryOut settings plan b).1 = .ok () ↔
    ∃ t, wire.writeAll b.cleared plan.frames = (.ok (), t) ∧
      plan.forecast.check (t.2.waiting.map Observation.toSighting) = .ok () := by
  rw [carryOut_fst]
  obtain ⟨⟨result, t⟩, hwrite⟩ : ∃ w, wire.writeAll b.cleared plan.frames = w := ⟨_, rfl⟩
  rw [hwrite]
  cases result with
  | error e => simp
  | ok =>
    cases hcheck : plan.forecast.check (t.2.waiting.map Observation.toSighting) with
    | error e => simp [hcheck]
    | ok => simp [hcheck]

theorem carryOut_eq_error_iff : ((host wire).carryOut settings plan b).1 = .error cause ↔
    (∃ e t, wire.writeAll b.cleared plan.frames = (.error e, t) ∧ cause = .host e) ∨
    ∃ t e, wire.writeAll b.cleared plan.frames = (.ok (), t) ∧
      plan.forecast.check (t.2.waiting.map Observation.toSighting) = .error e ∧
      cause = .check e := by
  rw [carryOut_fst]
  obtain ⟨⟨result, t⟩, hwrite⟩ : ∃ w, wire.writeAll b.cleared plan.frames = w := ⟨_, rfl⟩
  rw [hwrite]
  cases result with
  | error e => simp [eq_comm]
  | ok =>
    cases hcheck : plan.forecast.check (t.2.waiting.map Observation.toSighting) with
    | error e => simp [hcheck, eq_comm]
    | ok => simp [hcheck]

/-! ## Running a case -/

/-- A case that is planned comes out as its plan is carried out. -/
theorem run_fst : (run wire settings s b).1 =
    match s.plan with
    | .error e => .error ⟨s.name, s.seed?, s.events, e⟩
    | .ok plan =>
      match ((host wire).carryOut settings plan b).1 with
      | .error e => .error ⟨s.name, s.seed?, s.events, e⟩
      | .ok () =>
        .ok ⟨s.name, s.seed?, s.events.length, plan.forecast.size, plan.frames.length⟩ := by
  unfold run Host.run
  cases s.plan with
  | error e => rfl
  | ok plan =>
    dsimp only
    rw [bind_apply]
    cases ((host wire).carryOut settings plan b).1 <;> rfl

/-- A case that is not planned leaves the bench as it was. -/
theorem run_of_plan_error (h : s.plan = .error cause) :
    run wire settings s b = (.error ⟨s.name, s.seed?, s.events, cause⟩, b) := by
  unfold run Host.run
  rw [h]
  rfl

/-- A case passes if it is planned and its plan can be carried out. -/
theorem run_eq_ok_iff_plan {p : Passed} : (run wire settings s b).1 = .ok p ↔
    ∃ plan, s.plan = .ok plan ∧ ((host wire).carryOut settings plan b).1 = .ok () ∧
      p = ⟨s.name, s.seed?, s.events.length, plan.forecast.size, plan.frames.length⟩ := by
  rw [run_fst]
  cases s.plan with
  | error e => simp
  | ok plan => cases hout : ((host wire).carryOut settings plan b).1 <;> simp [hout, eq_comm]

/-- A case fails if it is not planned or its plan cannot be carried out. -/
theorem run_eq_error_iff {f : Failed} : (run wire settings s b).1 = .error f ↔
    ∃ cause, f = ⟨s.name, s.seed?, s.events, cause⟩ ∧ (s.plan = .error cause ∨
      ∃ plan, s.plan = .ok plan ∧ ((host wire).carryOut settings plan b).1 = .error cause) := by
  rw [run_fst]
  cases s.plan with
  | error e => simp [eq_comm]
  | ok plan => cases hout : ((host wire).carryOut settings plan b).1 <;> simp [hout, eq_comm]

/-- **A case passes if it can be played, fits into frames that can be written, and the host tells of
a delivery of its reports then.** -/
theorem run_eq_ok_iff {p : Passed} : (run wire settings s b).1 = .ok p ↔
    (Event.checkSequence s.events = .ok () ∧
      ∃ frames t, frames.map Frame.events = s.batches ∧
        wire.writeAll b.cleared frames = (.ok (), t) ∧
        ∃ es, List.Forall₂ Sighting.TellsOf (t.2.waiting.map Observation.toSighting) es ∧
          Report.IsDelivery (Forecast.ofEvents s.events).reports es) ∧
    p = ⟨s.name, s.seed?, s.events.length, (Forecast.ofEvents s.events).size,
      s.batches.length⟩ := by
  rw [run_eq_ok_iff_plan]
  constructor
  · rintro ⟨⟨frames, forecast⟩, hplan, hout, rfl⟩
    obtain ⟨hplay, hbatches, rfl⟩ := Scenario.plan_eq_ok_iff.mp hplan
    obtain ⟨t, hwrite, hcheck⟩ := carryOut_eq_ok_iff.mp hout
    have htold := Forecast.check_ofEvents_eq_ok_iff.mp hcheck
    refine ⟨⟨hplay, frames, t, hbatches, hwrite, htold⟩, ?_⟩
    rw [← hbatches, List.length_map]
  · rintro ⟨⟨hplay, frames, t, hbatches, hwrite, htold⟩, rfl⟩
    refine ⟨⟨frames, Forecast.ofEvents s.events⟩, ?_, ?_, ?_⟩
    · exact Scenario.plan_eq_ok_iff.mpr ⟨hplay, hbatches, rfl⟩
    · exact carryOut_eq_ok_iff.mpr ⟨t, hwrite, Forecast.check_ofEvents_eq_ok_iff.mpr htold⟩
    · rw [← hbatches, List.length_map]

/-! ## What can go wrong -/

/-- What goes wrong with a case first. Of each stage it is said that it is reached, that is, that
nothing went wrong before. -/
inductive Fault (wire : Wire σ) (s : Scenario) (b : Bench σ) : RunError → Prop
  /-- The events cannot be played. -/
  | sequence {e : PlayError} :
      Event.checkSequence s.events = .error e → Fault wire s b (.sequence e)
  /-- A batch is too long for a frame, and it is the first one. -/
  | frame {before after : List (List Event)} {batch : List Event} :
      Event.checkSequence s.events = .ok () →
      s.batches = before ++ batch :: after → (∀ earlier ∈ before, earlier.length ≤ 255) →
      255 < batch.length → Fault wire s b (.frame (.oversized batch.length))
  /-- A write fails after all before it have succeeded. -/
  | host {before after : List Frame} {f : Frame} {t u : σ × ObservationQueue} {e : HostError} :
      Event.checkSequence s.events = .ok () →
      (before ++ f :: after).map Frame.events = s.batches →
      wire.writeAll b.cleared before = (.ok (), t) →
      wire.write t.1 t.2 f.bytes = (.error e, u) → Fault wire s b (.host e)
  /-- An observation is rejected after all before it have been accepted. -/
  | rejected {frames : List Frame} {t : σ × ObservationQueue} {before after : List Sighting}
      {sighting : Sighting} {c : Checker} {e : CheckError} :
      Event.checkSequence s.events = .ok () → frames.map Frame.events = s.batches →
      wire.writeAll b.cleared frames = (.ok (), t) →
      t.2.waiting.map Observation.toSighting = before ++ sighting :: after →
      (Checker.ofForecast (Forecast.ofEvents s.events)).observeAll before = .ok c →
      c.observe sighting = .error e → Fault wire s b (.check e)
  /-- All observations are accepted, but reports are left. -/
  | missing {frames : List Frame} {t : σ × ObservationQueue} {c : Checker} :
      Event.checkSequence s.events = .ok () → frames.map Frame.events = s.batches →
      wire.writeAll b.cleared frames = (.ok (), t) →
      (Checker.ofForecast (Forecast.ofEvents s.events)).observeAll
        (t.2.waiting.map Observation.toSighting) = .ok c →
      c.forecast.reports ≠ [] → Fault wire s b (.check (.missing c.forecast))

/-- **A case is not planned, or its plan cannot be carried out, because of what goes wrong
first.** -/
theorem fault_iff : Fault wire s b cause ↔ s.plan = .error cause ∨
    ∃ plan, s.plan = .ok plan ∧ ((host wire).carryOut settings plan b).1 = .error cause := by
  constructor
  · intro h
    -- the first two faults keep the case from being planned, the others come after that
    cases h with
    | sequence hplay => exact .inl (Scenario.plan_eq_error_iff.mpr (.inl ⟨_, hplay, rfl⟩))
    | frame hplay hcut hbefore hlt =>
      have hframes := Frame.ofBatches_eq_error_iff.mpr ⟨_, _, _, hcut, hbefore, hlt, rfl⟩
      exact .inl (Scenario.plan_eq_error_iff.mpr (.inr ⟨hplay, _, hframes, rfl⟩))
    | @host before after f t u e hplay hbatches hbefore hf =>
      refine .inr ⟨⟨before ++ f :: after, _⟩,
        Scenario.plan_eq_ok_iff.mpr ⟨hplay, hbatches, rfl⟩, ?_⟩
      have hwrite := Wire.writeAll_eq_error_iff.mpr ⟨before, f, after, t, rfl, hbefore, hf⟩
      exact carryOut_eq_error_iff.mpr (.inl ⟨e, u, hwrite, rfl⟩)
    | @rejected frames t _ _ _ _ e hplay hbatches hwrite hcut hbefore hrejected =>
      refine .inr ⟨⟨frames, _⟩, Scenario.plan_eq_ok_iff.mpr ⟨hplay, hbatches, rfl⟩, ?_⟩
      have hcheck := Forecast.check_eq_error_iff.mpr (.inl ⟨_, _, _, _, hcut, hbefore, hrejected⟩)
      exact carryOut_eq_error_iff.mpr (.inr ⟨t, e, hwrite, hcheck, rfl⟩)
    | @missing frames t c hplay hbatches hwrite hall hleft =>
      refine .inr ⟨⟨frames, _⟩, Scenario.plan_eq_ok_iff.mpr ⟨hplay, hbatches, rfl⟩, ?_⟩
      have hcheck := Forecast.check_eq_error_iff.mpr (.inr ⟨c, hall, hleft, rfl⟩)
      exact carryOut_eq_error_iff.mpr (.inr ⟨t, _, hwrite, hcheck, rfl⟩)
  · rintro (hplan | ⟨plan, hplan, hout⟩)
    · rcases Scenario.plan_eq_error_iff.mp hplan with ⟨e, hplay, rfl⟩ | ⟨hplay, e, hframes, rfl⟩
      · exact .sequence hplay
      · obtain ⟨before, batch, after, hcut, hbefore, hlt, rfl⟩ :=
          Frame.ofBatches_eq_error_iff.mp hframes
        exact .frame hplay hcut hbefore hlt
    · obtain ⟨hplay, hbatches, hforecast⟩ := Scenario.plan_eq_ok_iff.mp hplan
      rcases carryOut_eq_error_iff.mp hout with ⟨e, u, hwrite, rfl⟩ | ⟨t, e, hwrite, hcheck, rfl⟩
      · obtain ⟨before, f, after, t, hcut, hbefore, hf⟩ := Wire.writeAll_eq_error_iff.mp hwrite
        rw [hcut] at hbatches
        exact .host hplay hbatches hbefore hf
      · rw [hforecast] at hcheck
        rcases Forecast.check_eq_error_iff.mp hcheck with
          ⟨before, sighting, after, c, hcut, hbefore, hrejected⟩ | ⟨c, hall, hleft, rfl⟩
        · exact .rejected hplay hbatches hwrite hcut hbefore hrejected
        · exact .missing hplay hbatches hwrite hall hleft

/-! ## The verdict -/

/-- **A case passes exactly when it should.** It passes if its events can be played, every batch has
255 events at most, all writes succeed, and what waits in the queue after the last one tells of a
delivery of the reports. A case that passes is reported with its name and seed and with what it had
of events, reports and frames. A case that fails is reported with its name, its seed, all its
events, and with what went wrong first. -/
theorem run_verdict (wire : Wire σ) (settings : Settings) (s : Scenario) (b : Bench σ) :
    ((∃ p, (run wire settings s b).1 = .ok p) ↔
      Event.checkSequence s.events = .ok () ∧ (∀ batch ∈ s.batches, batch.length ≤ 255) ∧
      ∃ frames device queue, frames.map Frame.events = s.batches ∧
        wire.writeAll (b.device, b.queue.discardAll.2) frames = (.ok (), device, queue) ∧
        ∃ es, List.Forall₂ Sighting.TellsOf (queue.waiting.map Observation.toSighting) es ∧
          Report.IsDelivery (Forecast.ofEvents s.events).reports es) ∧
    (∀ p, (run wire settings s b).1 = .ok p → p =
      ⟨s.name, s.seed?, s.events.length, (Forecast.ofEvents s.events).size, s.batches.length⟩) ∧
    (∀ f, (run wire settings s b).1 = .error f ↔
      f.name = s.name ∧ f.seed? = s.seed? ∧ f.sent = s.events ∧ Fault wire s b f.cause) := by
  refine ⟨⟨?_, ?_⟩, ?_, ?_⟩
  · rintro ⟨p, hp⟩
    obtain ⟨⟨hplay, frames, ⟨device, queue⟩, hbatches, hwrite, htold⟩, _⟩ := run_eq_ok_iff.mp hp
    exact ⟨hplay, Frame.forall_length_le_of_map_events hbatches, frames, device, queue, hbatches,
      hwrite, htold⟩
  · rintro ⟨hplay, _, frames, device, queue, hbatches, hwrite, htold⟩
    exact ⟨_, run_eq_ok_iff.mpr ⟨⟨hplay, frames, (device, queue), hbatches, hwrite, htold⟩, rfl⟩⟩
  · intro p hp
    exact (run_eq_ok_iff.mp hp).2
  · intro f
    rw [run_eq_error_iff]
    constructor
    · rintro ⟨cause, rfl, hcause⟩
      exact ⟨rfl, rfl, rfl, fault_iff.mpr hcause⟩
    · rintro ⟨hname, hseed, hsent, hfault⟩
      refine ⟨f.cause, ?_, fault_iff.mp hfault⟩
      rw [← hname, ← hseed, ← hsent]

end KeyBench.Bench
