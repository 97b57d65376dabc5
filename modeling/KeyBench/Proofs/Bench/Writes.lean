import KeyBench.Proofs.Bench.Verdict

/-!
# What is written

A case that is not planned writes nothing and leaves the bench as it was. A case that is planned
hands frames to the wire up to the first one that cannot be written, which is handed over too
(`Wire.attempted`). So what is written are the frames of the first batches, or of all of them
(`run_written`).
-/

namespace KeyBench

variable {σ : Type}

/-! ## Frames handed over -/

namespace Wire

variable {wire : Wire σ} {t u : σ × ObservationQueue} {f : Frame} {frames : List Frame}
  {cause : HostError}

/-- The frames that are handed to the wire: all up to the first whose write fails, and this one. -/
def attempted (wire : Wire σ) (t : σ × ObservationQueue) : List Frame → List Frame
  | [] => []
  | f :: frames =>
    match wire.write t.1 t.2 f.bytes with
    | (.error _, _) => [f]
    | (.ok (), u) => f :: attempted wire u frames

theorem attempted_cons_of_ok (h : wire.write t.1 t.2 f.bytes = (.ok (), u)) :
    wire.attempted t (f :: frames) = f :: wire.attempted u frames := by
  rw [attempted, h]

theorem attempted_cons_of_error (h : wire.write t.1 t.2 f.bytes = (.error cause, u)) :
    wire.attempted t (f :: frames) = [f] := by
  rw [attempted, h]

/-- After frames that are written, the others are attempted. -/
theorem attempted_append : ∀ {before : List Frame} {t : σ × ObservationQueue},
    wire.writeAll t before = (.ok (), u) →
      wire.attempted t (before ++ frames) = before ++ wire.attempted u frames
  | [], t, h => by
    obtain rfl := (Prod.mk.inj h).2
    rfl
  | f :: before, t, h => by
    obtain ⟨⟨result, t₁⟩, hwrite⟩ : ∃ w, wire.write t.1 t.2 f.bytes = w := ⟨_, rfl⟩
    cases result with
    | error e =>
      rw [writeAll_cons_of_error hwrite] at h
      cases h
    | ok =>
      rw [writeAll_cons_of_ok hwrite] at h
      rw [List.cons_append, attempted_cons_of_ok hwrite, attempted_append h, List.cons_append]

/-- Frames that are all written have all been attempted. -/
theorem attempted_of_ok (h : wire.writeAll t frames = (.ok (), u)) :
    wire.attempted t frames = frames := by
  have happend : wire.attempted t (frames ++ []) = frames ++ wire.attempted u [] :=
    attempted_append h
  rwa [List.append_nil, attempted, List.append_nil] at happend

/-- Whether the write of the frame at a place fails, after those before it have succeeded. -/
def FailsFirst (wire : Wire σ) (t : σ × ObservationQueue) (frames : List Frame) (i : Nat) : Prop :=
  ∃ f u cause v, frames[i]? = some f ∧ wire.writeAll t (frames.take i) = (.ok (), u) ∧
    wire.write u.1 u.2 f.bytes = (.error cause, v)

/-- If not all frames are written, there is a first one that is not. -/
theorem exists_failsFirst (h : wire.writeAll t frames = (.error cause, u)) :
    ∃ i, wire.FailsFirst t frames i := by
  obtain ⟨before, f, after, t', rfl, hbefore, hf⟩ := writeAll_eq_error_iff.mp h
  refine ⟨before.length, f, t', cause, u, ?_, ?_, hf⟩
  · rw [List.getElem?_append_right (Nat.le_refl _), Nat.sub_self, List.getElem?_cons_zero]
  · rwa [List.take_left]

/-- **The first frame that is not written is the last one attempted.** -/
theorem attempted_of_failsFirst {i : Nat} (h : wire.FailsFirst t frames i) :
    wire.attempted t frames = frames.take (i + 1) := by
  obtain ⟨f, u, cause, v, hi, hbefore, hf⟩ := h
  obtain ⟨hlt, rfl⟩ := List.getElem?_eq_some_iff.mp hi
  have hcut : frames.take i ++ frames[i] :: frames.drop (i + 1) = frames := by
    rw [← List.drop_eq_getElem_cons hlt, List.take_append_drop]
  calc
    wire.attempted t frames
      = wire.attempted t (frames.take i ++ frames[i] :: frames.drop (i + 1)) := by rw [hcut]
    _ = frames.take i ++ [frames[i]] := by rw [attempted_append hbefore, attempted_cons_of_error hf]
    _ = frames.take (i + 1) := (List.take_succ_eq_append_getElem hlt).symm

end Wire

namespace Bench

variable {wire : Wire σ} {settings : Settings} {s : Scenario} {b : Bench σ} {plan : Plan}

/-! ## Sending -/

/-- **What is sent is recorded**, frame by frame and in order. -/
theorem send_written (hold : UInt64) : ∀ (frames : List Frame) (b : Bench σ),
    ((host wire).send hold frames b).2.written =
      b.written ++ (wire.attempted b.reach frames).map Frame.bytes
  | [], b => (List.append_nil _).symm
  | [f], b => by
    rw [Host.send, write_apply]
    obtain ⟨⟨result, t⟩, hwrite⟩ : ∃ w, wire.write b.device b.queue f.bytes = w := ⟨_, rfl⟩
    cases result with
    | error e => rw [Wire.attempted_cons_of_error hwrite, List.map_singleton]
    | ok => rw [Wire.attempted_cons_of_ok hwrite, Wire.attempted, List.map_singleton]
  | f :: g :: frames, b => by
    obtain ⟨⟨result, t⟩, hwrite⟩ : ∃ w, wire.write b.device b.queue f.bytes = w := ⟨_, rfl⟩
    rw [Host.send, bind_apply, write_apply, hwrite]
    cases result with
    | error e =>
      rw [Wire.attempted_cons_of_error hwrite, List.map_singleton]
      rfl
    | ok =>
      dsimp only
      rw [bind_apply, pause_apply, send_written hold (g :: frames), List.append_assoc]
      have hall : wire.attempted b.reach (f :: g :: frames) = f :: wire.attempted t (g :: frames) :=
        Wire.attempted_cons_of_ok hwrite
      rw [hall, List.map_cons]
      rfl

/-! ## The bench after a case -/

/-- After a plan has been carried out, the bench is as the sending has left it, except for the last
pause and for the observations, which are taken if all frames have been written. -/
theorem carryOut_snd : ((host wire).carryOut settings plan b).2 =
    match (host wire).send settings.holdMs plan.frames { b with queue := b.queue.discardAll.2 } with
    | (.error _, b') => b'
    | (.ok (), b') =>
      { b' with
        queue := b'.queue.takeAll.2
        clock := b'.clock + settings.settleMs.toNat } := by
  have hdiscard : (host wire).discard b = ((), { b with queue := b.queue.discardAll.2 }) := rfl
  obtain ⟨⟨result, b'⟩, hb'⟩ : ∃ r, (host wire).send settings.holdMs plan.frames
    { b with queue := b.queue.discardAll.2 } = r := ⟨_, rfl⟩
  rw [Host.carryOut, bind_apply, hdiscard, bind_apply, hb']
  cases result with
  | error e => rfl
  | ok =>
    dsimp only
    rw [bind_apply, pause_apply, bind_apply, collect_fst]
    cases plan.forecast.check (b'.queue.waiting.map Observation.toSighting) <;> rfl

/-- A case that is planned leaves the bench as its plan has left it. -/
theorem run_snd_of_plan (h : s.plan = .ok plan) :
    (run wire settings s b).2 = ((host wire).carryOut settings plan b).2 := by
  unfold run Host.run
  rw [h]
  dsimp only
  rw [bind_apply]
  cases ((host wire).carryOut settings plan b).1 <;> rfl

/-- **A case that is planned writes the frames that are attempted.** -/
theorem run_written_of_plan (h : s.plan = .ok plan) : (run wire settings s b).2.written =
    b.written ++ (wire.attempted b.cleared plan.frames).map Frame.bytes := by
  have hsend : _ = b.written ++ (wire.attempted b.cleared plan.frames).map Frame.bytes :=
    send_written settings.holdMs plan.frames { b with queue := b.queue.discardAll.2 }
  rw [run_snd_of_plan h, carryOut_snd, ← hsend]
  obtain ⟨⟨result, b'⟩, hb'⟩ : ∃ r, (host wire).send settings.holdMs plan.frames
    { b with queue := b.queue.discardAll.2 } = r := ⟨_, rfl⟩
  rw [hb']
  cases result <;> rfl

/-! ## The discipline -/

/-- **What a case writes.** If its events cannot be played or one of its batches cannot be encoded,
the case writes nothing, and everything is left as it was, the observations that wait included.
Otherwise it writes its batches up to the first whose write fails, or all of them if no write fails,
and nothing else. What is written is read as those batches. -/
theorem run_written (wire : Wire σ) (settings : Settings) (s : Scenario) (b : Bench σ) :
    ((Event.checkSequence s.events ≠ .ok () ∨
        ∃ batch ∈ s.batches, ∀ bs, Frame.encode batch ≠ .ok bs) →
      (run wire settings s b).2 = b) ∧
    (Event.checkSequence s.events = .ok () →
      (∀ batch ∈ s.batches, ∃ bs, Frame.encode batch = .ok bs) →
      ∃ (frames : List Frame) (n : Nat) (written : List (List UInt8)),
        frames.map Frame.events = s.batches ∧
        ((n = s.batches.length ∧ ∃ t, wire.writeAll b.cleared frames = (.ok (), t)) ∨
          ∃ i, n = i + 1 ∧ wire.FailsFirst b.cleared frames i) ∧
        (run wire settings s b).2.written = b.written ++ written ∧
        List.Forall₂ (fun batch bs => Frame.encode batch = .ok bs ∧ Frame.decode bs = .ok batch)
          (s.batches.take n) written) := by
  constructor
  · intro hrejected
    cases hplan : s.plan with
    | error cause => rw [run_of_plan_error hplan]
    | ok plan =>
      obtain ⟨hplay, hencode⟩ := Scenario.exists_plan_iff.mp ⟨plan, hplan⟩
      rcases hrejected with hunplayable | ⟨batch, hbatch, hnone⟩
      · exact absurd hplay hunplayable
      · obtain ⟨bs, hbs⟩ := hencode batch hbatch
        exact absurd hbs (hnone bs)
  · intro hplay hencode
    obtain ⟨plan, hplan⟩ := Scenario.exists_plan_iff.mpr ⟨hplay, hencode⟩
    obtain ⟨_, hbatches, _⟩ := Scenario.plan_eq_ok_iff.mp hplan
    have hattempted {n : Nat} (h : wire.attempted b.cleared plan.frames = plan.frames.take n) :
        (run wire settings s b).2.written =
            b.written ++ (plan.frames.take n).map Frame.bytes ∧
          List.Forall₂ (fun batch bs => Frame.encode batch = .ok bs ∧ Frame.decode bs = .ok batch)
            (s.batches.take n) ((plan.frames.take n).map Frame.bytes) := by
      rw [run_written_of_plan hplan, h]
      refine ⟨rfl, Frame.forall₂_encode_and_decode ?_⟩
      rw [List.map_take, hbatches]
    obtain ⟨⟨result, t⟩, hwrite⟩ : ∃ w, wire.writeAll b.cleared plan.frames = w := ⟨_, rfl⟩
    cases result with
    | ok =>
      have hlength : s.batches.length = plan.frames.length := by rw [← hbatches, List.length_map]
      refine ⟨plan.frames, s.batches.length, _, hbatches, .inl ⟨rfl, t, hwrite⟩, hattempted ?_⟩
      rw [hlength, List.take_length]
      exact Wire.attempted_of_ok hwrite
    | error cause =>
      obtain ⟨i, hi⟩ := Wire.exists_failsFirst hwrite
      exact ⟨plan.frames, i + 1, _, hbatches, .inr ⟨i, rfl, hi⟩,
        hattempted (Wire.attempted_of_failsFirst hi)⟩

end Bench

end KeyBench
