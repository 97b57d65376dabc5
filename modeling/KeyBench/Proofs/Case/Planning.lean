import KeyBench.Case
import KeyBench.Proofs.Frame.Codec

/-!
# What can be planned

A case is planned if its events can be played and every batch fits into a frame
(`Scenario.plan_eq_ok_iff`). The frames of the plan hold the batches as they are. A case that is not
planned fails for its events if they cannot be played, and else for the first batch that is too long
(`Scenario.plan_eq_error_iff`).
-/

namespace KeyBench

/-! ## Frames of batches -/

namespace Frame

variable {batch : List Event} {batches : List (List Event)} {frames : List Frame}
  {cause : FrameError}

theorem ofEvents_of_le (h : batch.length ≤ capacity) : ofEvents batch = .ok ⟨batch, h⟩ := dif_pos h

theorem ofEvents_of_lt (h : capacity < batch.length) :
    ofEvents batch = .error (.oversized batch.length) := dif_neg (Nat.not_le.mpr h)

theorem ofBatches_cons_of_le (h : batch.length ≤ capacity) :
    ofBatches (batch :: batches) = (⟨batch, h⟩ :: ·) <$> ofBatches batches := by
  rw [ofBatches, ofEvents_of_le h]
  dsimp only
  cases ofBatches batches <;> rfl

theorem ofBatches_cons_of_lt (h : capacity < batch.length) :
    ofBatches (batch :: batches) = .error (.oversized batch.length) := by
  rw [ofBatches, ofEvents_of_lt h]

/-- Frames are made again of the batches that they hold. -/
theorem ofBatches_map_events : ∀ frames : List Frame, ofBatches (frames.map events) = .ok frames
  | [] => rfl
  | f :: frames => by
    rw [List.map_cons, ofBatches_cons_of_le f.length_le, ofBatches_map_events frames]
    rfl

/-- Batches that fit are those of some frames. -/
theorem exists_map_events_eq : ∀ {batches : List (List Event)},
    (∀ batch ∈ batches, batch.length ≤ capacity) →
      ∃ frames : List Frame, frames.map events = batches
  | [], _ => ⟨[], rfl⟩
  | batch :: batches, h => by
    obtain ⟨frames, rfl⟩ := exists_map_events_eq fun b hb => h b (List.mem_cons_of_mem _ hb)
    exact ⟨⟨batch, h batch List.mem_cons_self⟩ :: frames, rfl⟩

theorem forall_length_le_of_map_events (h : frames.map events = batches) :
    ∀ batch ∈ batches, batch.length ≤ capacity := by
  rw [← h]
  intro batch hbatch
  obtain ⟨f, _, rfl⟩ := List.mem_map.mp hbatch
  exact f.length_le

/-- The first batch that does not fit is blamed. -/
theorem ofBatches_of_lt : ∀ {before after : List (List Event)},
    (∀ earlier ∈ before, earlier.length ≤ capacity) → capacity < batch.length →
      ofBatches (before ++ batch :: after) = .error (.oversized batch.length)
  | [], _, _, h => ofBatches_cons_of_lt h
  | earlier :: before, _, hbefore, h => by
    rw [List.cons_append, ofBatches_cons_of_le (hbefore earlier List.mem_cons_self),
      ofBatches_of_lt (fun b hb => hbefore b (List.mem_cons_of_mem _ hb)) h]
    rfl

/-- Either all batches fit, or there is a first one that does not. -/
theorem fit_or_exists_first (batches : List (List Event)) :
    (∀ batch ∈ batches, batch.length ≤ capacity) ∨
    ∃ before batch after, batches = before ++ batch :: after ∧
      (∀ earlier ∈ before, earlier.length ≤ capacity) ∧ capacity < batch.length := by
  cases h : batches.find? fun batch => capacity < batch.length with
  | none =>
    rw [List.find?_eq_none] at h
    left
    intro batch hbatch
    simpa using h batch hbatch
  | some batch =>
    obtain ⟨hlt, before, after, hcut, hbefore⟩ := List.find?_eq_some_iff_append.mp h
    refine .inr ⟨before, batch, after, hcut, ?_, of_decide_eq_true hlt⟩
    intro earlier hearlier
    simpa using hbefore earlier hearlier

/-- **Frames are made of batches if they hold the batches.** -/
theorem ofBatches_eq_ok_iff : ofBatches batches = .ok frames ↔ frames.map events = batches := by
  constructor
  · intro h
    rcases fit_or_exists_first batches with hfit | ⟨before, batch, after, rfl, hbefore, hlt⟩
    · obtain ⟨frames', rfl⟩ := exists_map_events_eq hfit
      rw [ofBatches_map_events] at h
      rw [Except.ok.inj h]
    · rw [ofBatches_of_lt hbefore hlt] at h
      cases h
  · rintro rfl
    exact ofBatches_map_events frames

/-- **No frames are made if there is a batch that does not fit, and the first one is blamed.** -/
theorem ofBatches_eq_error_iff : ofBatches batches = .error cause ↔
    ∃ before batch after, batches = before ++ batch :: after ∧
      (∀ earlier ∈ before, earlier.length ≤ capacity) ∧ capacity < batch.length ∧
      cause = .oversized batch.length := by
  constructor
  · intro h
    rcases fit_or_exists_first batches with hfit | ⟨before, batch, after, rfl, hbefore, hlt⟩
    · obtain ⟨frames', rfl⟩ := exists_map_events_eq hfit
      rw [ofBatches_map_events] at h
      cases h
    · rw [ofBatches_of_lt hbefore hlt] at h
      exact ⟨before, batch, after, rfl, hbefore, hlt, (Except.error.inj h).symm⟩
  · rintro ⟨before, batch, after, rfl, hbefore, hlt, rfl⟩
    exact ofBatches_of_lt hbefore hlt

end Frame

/-! ## Plans -/

namespace Scenario

variable {s : Scenario} {plan : Plan} {cause : RunError}

theorem events_of_batches_eq {batch : List Event} (h : s.batches = [batch]) : s.events = batch := by
  rw [events, h, List.flatten_cons, List.flatten_nil, List.append_nil]

/-- **A case is planned if its events can be played and its batches are those of frames.** -/
theorem plan_eq_ok_iff : s.plan = .ok plan ↔ Event.checkSequence s.events = .ok () ∧
    plan.frames.map Frame.events = s.batches ∧ plan.forecast = Forecast.ofEvents s.events := by
  rw [← Frame.ofBatches_eq_ok_iff]
  unfold Scenario.plan
  cases Event.checkSequence s.events with
  | error e => simp
  | ok =>
    cases Frame.ofBatches s.batches with
    | error e => simp
    | ok frames =>
      obtain ⟨frames', forecast⟩ := plan
      simp [eq_comm]

/-- A case is planned if its events can be played and its batches can be encoded. -/
theorem exists_plan_iff : (∃ plan, s.plan = .ok plan) ↔ Event.checkSequence s.events = .ok () ∧
    ∀ batch ∈ s.batches, ∃ bs, Frame.encode batch = .ok bs := by
  constructor
  · rintro ⟨plan, hplan⟩
    obtain ⟨hplay, hbatches, _⟩ := plan_eq_ok_iff.mp hplan
    refine ⟨hplay, ?_⟩
    rw [← hbatches]
    intro batch hbatch
    obtain ⟨f, _, rfl⟩ := List.mem_map.mp hbatch
    exact ⟨f.bytes, f.encode_events⟩
  · rintro ⟨hplay, hencode⟩
    have hfit : ∀ batch ∈ s.batches, batch.length ≤ Frame.capacity := by
      intro batch hbatch
      obtain ⟨bs, hbs⟩ := hencode batch hbatch
      obtain ⟨f, rfl, _⟩ := Frame.encode_eq_ok_iff.mp hbs
      exact f.length_le
    obtain ⟨frames, hframes⟩ := Frame.exists_map_events_eq hfit
    exact ⟨⟨frames, _⟩, plan_eq_ok_iff.mpr ⟨hplay, hframes, rfl⟩⟩

/-- **A case is not planned if its events cannot be played, or else if a batch is too long.** -/
theorem plan_eq_error_iff : s.plan = .error cause ↔
    (∃ e, Event.checkSequence s.events = .error e ∧ cause = .sequence e) ∨
    Event.checkSequence s.events = .ok () ∧
      ∃ e, Frame.ofBatches s.batches = .error e ∧ cause = .frame e := by
  unfold Scenario.plan
  cases Event.checkSequence s.events with
  | error e => simp [eq_comm]
  | ok =>
    cases Frame.ofBatches s.batches with
    | error e => simp [eq_comm]
    | ok frames => simp

end Scenario

end KeyBench
