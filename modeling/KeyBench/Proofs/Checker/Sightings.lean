import KeyBench.Proofs.Checker.Acceptance

/-!
# Checking what the host tells

The host tells names, and each of them has to be resolved before its event can be observed. A
checker thus observes sightings if each of them tells of an event and the events fit
(`observeAll_eq_ok_iff`); otherwise it ends at the first one that is rejected
(`observeAll_eq_error_iff`).
-/

namespace KeyBench

/-- Whether a sighting tells of an event: its name resolves to the key, its direction is that of the
event. -/
def Sighting.TellsOf (s : Sighting) (e : Event) : Prop :=
  Key.ofHostName s.name = .ok e.key ∧ s.direction = e.direction

namespace Checker

variable {c c' : Checker} {s : Sighting} {ss : List Sighting} {cause : CheckError}

/-- A sighting is observed as the event that it tells of. -/
theorem observe_eq_ok_iff :
    c.observe s = .ok c' ↔ ∃ e, s.TellsOf e ∧ c.observeEvent e = .ok c' := by
  unfold observe
  constructor
  · intro h
    split at h
    · cases h
    · next key hkey => exact ⟨⟨key, s.direction⟩, ⟨hkey, rfl⟩, h⟩
  · rintro ⟨⟨key, direction⟩, ⟨hkey, rfl⟩, h⟩
    rw [hkey]
    exact h

theorem observeAll_cons_of_ok (h : c.observe s = .ok c') :
    c.observeAll (s :: ss) = c'.observeAll ss := by
  rw [observeAll, h]

theorem observeAll_cons_of_error (h : c.observe s = .error cause) :
    c.observeAll (s :: ss) = .error cause := by
  rw [observeAll, h]

/-- **Sightings are observed if they tell of events that are observed.** -/
theorem observeAll_eq_ok_iff : ∀ {ss : List Sighting} {c : Checker}, c.observeAll ss = .ok c' ↔
    ∃ es, List.Forall₂ Sighting.TellsOf ss es ∧ c.observeEvents es = .ok c'
  | [], c => by simp [observeAll, observeEvents]
  | s :: ss, c => by
    constructor
    · intro h
      cases hs : c.observe s with
      | error cause =>
        rw [observeAll_cons_of_error hs] at h
        cases h
      | ok d =>
        rw [observeAll_cons_of_ok hs] at h
        obtain ⟨e, htells, he⟩ := observe_eq_ok_iff.mp hs
        obtain ⟨es, htell, hes⟩ := observeAll_eq_ok_iff.mp h
        refine ⟨e :: es, .cons htells htell, ?_⟩
        rw [observeEvents, he]
        exact hes
    · rintro ⟨_, htell, h⟩
      obtain ⟨e, es, htells, htell', rfl⟩ := List.forall₂_cons_left_iff.mp htell
      rw [observeEvents] at h
      split at h
      · cases h
      · next d hd =>
        rw [observeAll_cons_of_ok (observe_eq_ok_iff.mpr ⟨e, htells, hd⟩)]
        exact observeAll_eq_ok_iff.mpr ⟨es, htell', h⟩

/-- **The first sighting that is rejected ends the observation.** -/
theorem observeAll_eq_error_iff : ∀ {ss : List Sighting} {c : Checker},
    c.observeAll ss = .error cause ↔ ∃ before s after d, ss = before ++ s :: after ∧
      c.observeAll before = .ok d ∧ d.observe s = .error cause
  | [], c => by simp [observeAll]
  | s :: ss, c => by
    constructor
    · intro h
      cases hs : c.observe s with
      | error cause' =>
        rw [observeAll_cons_of_error hs] at h
        obtain rfl := Except.error.inj h
        exact ⟨[], s, ss, c, rfl, rfl, hs⟩
      | ok d =>
        rw [observeAll_cons_of_ok hs] at h
        obtain ⟨before, s', after, d', rfl, hbefore, hs'⟩ := observeAll_eq_error_iff.mp h
        exact ⟨s :: before, s', after, d', rfl, (observeAll_cons_of_ok hs).trans hbefore, hs'⟩
    · rintro ⟨before, s', after, d, hcut, hbefore, hs'⟩
      cases before with
      | nil =>
        obtain ⟨rfl, rfl⟩ := List.cons_eq_cons.mp hcut
        obtain rfl := Except.ok.inj hbefore
        exact observeAll_cons_of_error hs'
      | cons s₀ before =>
        obtain ⟨rfl, rfl⟩ := List.cons_eq_cons.mp hcut
        cases hs : c.observe s with
        | error cause' =>
          rw [observeAll_cons_of_error hs] at hbefore
          cases hbefore
        | ok d' =>
          rw [observeAll_cons_of_ok hs] at hbefore ⊢
          exact observeAll_eq_error_iff.mpr ⟨before, s', after, d, rfl, hbefore, hs'⟩

theorem finish_eq_ok_iff : c.finish = .ok () ↔ c.forecast.reports = [] := by
  simp [finish, Forecast.isEmpty]

/-- Nothing is missing unless reports are left. -/
theorem finish_eq_error_iff : c.finish = .error cause ↔
    c.forecast.reports ≠ [] ∧ cause = .missing c.forecast := by
  unfold finish Forecast.isEmpty
  rw [← List.isEmpty_eq_false_iff]
  cases c.forecast.reports.isEmpty <;> simp [eq_comm]

end Checker

namespace Forecast

open Checker

variable {q : Forecast} {ss : List Sighting} {cause : CheckError}

/-- **A check succeeds if the sightings tell of events that are accepted.** -/
theorem check_eq_ok_iff : q.check ss = .ok () ↔
    ∃ es, List.Forall₂ Sighting.TellsOf ss es ∧ (ofForecast q).Accepts es := by
  unfold check
  constructor
  · intro h
    split at h
    · cases h
    · next c hc =>
      obtain ⟨es, htell, hes⟩ := observeAll_eq_ok_iff.mp hc
      exact ⟨es, htell, c, hes, h⟩
  · rintro ⟨es, htell, c, hes, hfinish⟩
    rw [observeAll_eq_ok_iff.mpr ⟨es, htell, hes⟩]
    exact hfinish

/-- What is sent is checked with success if the sightings tell of a delivery of its reports. -/
theorem check_ofEvents_eq_ok_iff {sent : List Event} : (ofEvents sent).check ss = .ok () ↔
    ∃ es, List.Forall₂ Sighting.TellsOf ss es ∧ Report.IsDelivery (ofEvents sent).reports es := by
  simp only [check_eq_ok_iff, accepts_iff_isDelivery_reportsOf, reports_ofEvents]

/-- **A check fails at the first sighting that is rejected, or else because reports are left.** -/
theorem check_eq_error_iff : q.check ss = .error cause ↔
    (∃ before s after c, ss = before ++ s :: after ∧
      (ofForecast q).observeAll before = .ok c ∧ c.observe s = .error cause) ∨
    ∃ c, (ofForecast q).observeAll ss = .ok c ∧ c.forecast.reports ≠ [] ∧
      cause = .missing c.forecast := by
  rw [← observeAll_eq_error_iff]
  unfold check
  cases h : (ofForecast q).observeAll ss with
  | error cause' => simp
  | ok c => simp [finish_eq_error_iff]

end Forecast

end KeyBench
