import KeyBench.Bench

/-!
# Sending frames over a wire

What a bench sends goes over its wire, frame by frame and up to the first write that fails. The
pauses between the frames change the clock and nothing else, so what comes of the sending is a
matter of the wire alone (`Bench.send_apply`).
-/

namespace KeyBench

variable {σ : Type}

namespace Wire

variable {wire : Wire σ} {t u : σ × ObservationQueue} {f : Frame} {frames : List Frame}
  {cause : HostError}

/-- Writes frames up to the first write that fails, from a state of the device and of the queue on.
Returns whether all were written, and the state after the last write. -/
def writeAll (wire : Wire σ) (t : σ × ObservationQueue) :
    List Frame → Except HostError Unit × σ × ObservationQueue
  | [] => (.ok (), t)
  | f :: frames =>
    match wire.write t.1 t.2 f.bytes with
    | (.error e, u) => (.error e, u)
    | (.ok (), u) => writeAll wire u frames

theorem writeAll_cons_of_ok (h : wire.write t.1 t.2 f.bytes = (.ok (), u)) :
    wire.writeAll t (f :: frames) = wire.writeAll u frames := by
  rw [writeAll, h]

theorem writeAll_cons_of_error (h : wire.write t.1 t.2 f.bytes = (.error cause, u)) :
    wire.writeAll t (f :: frames) = (.error cause, u) := by
  rw [writeAll, h]

/-- **The first write that fails ends the writing.** -/
theorem writeAll_eq_error_iff : ∀ {frames : List Frame} {t : σ × ObservationQueue},
    wire.writeAll t frames = (.error cause, u) ↔
      ∃ before f after t', frames = before ++ f :: after ∧
        wire.writeAll t before = (.ok (), t') ∧ wire.write t'.1 t'.2 f.bytes = (.error cause, u)
  | [], t => by simp [writeAll]
  | f :: frames, t => by
    obtain ⟨⟨result, t₁⟩, hwrite⟩ : ∃ w, wire.write t.1 t.2 f.bytes = w := ⟨_, rfl⟩
    constructor
    · intro h
      cases result with
      | error e =>
        rw [writeAll_cons_of_error hwrite] at h
        exact ⟨[], f, frames, t, rfl, rfl, hwrite.trans h⟩
      | ok =>
        rw [writeAll_cons_of_ok hwrite] at h
        obtain ⟨before, f', after, t', rfl, hbefore, hf'⟩ := writeAll_eq_error_iff.mp h
        exact ⟨f :: before, f', after, t', rfl, (writeAll_cons_of_ok hwrite).trans hbefore, hf'⟩
    · rintro ⟨before, f', after, t', hcut, hbefore, hf'⟩
      cases before with
      | nil =>
        obtain ⟨rfl, rfl⟩ := List.cons_eq_cons.mp hcut
        obtain rfl := (Prod.mk.inj hbefore).2
        exact writeAll_cons_of_error hf'
      | cons f₀ before =>
        obtain ⟨rfl, rfl⟩ := List.cons_eq_cons.mp hcut
        cases result with
        | error e =>
          rw [writeAll_cons_of_error hwrite] at hbefore
          cases hbefore
        | ok =>
          rw [writeAll_cons_of_ok hwrite] at hbefore ⊢
          exact writeAll_eq_error_iff.mpr ⟨before, f', after, t', rfl, hbefore, hf'⟩

end Wire

namespace Bench

variable {wire : Wire σ} {b : Bench σ}

/-- What a write can change. -/
def reach (b : Bench σ) : σ × ObservationQueue := (b.device, b.queue)

/-! ## Running on a bench -/

theorem bind_apply {τ α β : Type} (x : StateM τ α) (next : α → StateM τ β) (t : τ) :
    (x >>= next) t = next (x t).1 (x t).2 := rfl

theorem write_apply (bytes : List UInt8) :
    (host wire).write bytes b = ((wire.write b.device b.queue bytes).1,
      { b with
        device := (wire.write b.device b.queue bytes).2.1
        queue := (wire.write b.device b.queue bytes).2.2
        written := b.written ++ [bytes] }) := rfl

/-- A pause takes time and does nothing else. -/
theorem pause_apply (ms : UInt64) :
    (host wire).pause ms b = ((), { b with clock := b.clock + ms.toNat }) := by
  unfold Host.pause
  split
  · next h =>
    rw [h]
    rfl
  · rfl

/-- **Sending does what the wire does.** -/
theorem send_apply (hold : UInt64) : ∀ (frames : List Frame) (b : Bench σ),
    (((host wire).send hold frames b).1, ((host wire).send hold frames b).2.reach) =
      wire.writeAll b.reach frames
  | [], b => rfl
  | [f], b => by
    obtain ⟨⟨result, t⟩, hwrite⟩ : ∃ w, wire.write b.device b.queue f.bytes = w := ⟨_, rfl⟩
    rw [Host.send, write_apply, hwrite]
    cases result with
    | error e => exact (Wire.writeAll_cons_of_error hwrite).symm
    | ok =>
      rw [reach, Wire.writeAll_cons_of_ok hwrite]
      rfl
  | f :: g :: frames, b => by
    obtain ⟨⟨result, t⟩, hwrite⟩ : ∃ w, wire.write b.device b.queue f.bytes = w := ⟨_, rfl⟩
    rw [Host.send, bind_apply, write_apply, hwrite]
    cases result with
    | error e => exact (Wire.writeAll_cons_of_error hwrite).symm
    | ok =>
      have hall : wire.writeAll b.reach (f :: g :: frames) = wire.writeAll t (g :: frames) :=
        Wire.writeAll_cons_of_ok hwrite
      dsimp only
      rw [bind_apply, pause_apply, hall]
      exact send_apply hold (g :: frames) _

end Bench

end KeyBench
