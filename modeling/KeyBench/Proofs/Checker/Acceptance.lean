import KeyBench.Checker
import KeyBench.Proofs.Forecast.Openers
import KeyBench.Proofs.Report.Delivery

/-!
# What a checker accepts

A checker accepts a list of events if it observes all of them and nothing is missing afterwards.
Among the lists of events it accepts the deliveries of its reports, and no others
(`accepts_iff_isDelivery`).
-/

namespace KeyBench

variable {e : Event} {es : List Event}

/-- **A delivery of a forecast starts with an event that can be seen, and goes on as a delivery of
the forecast after it.** -/
theorem Forecast.isDelivery_cons {q : Forecast} (h : ∀ r ∈ q.reports, r.events ≠ []) :
    Report.IsDelivery q.reports (e :: es) ↔
      ∃ q', q.take? e = some q' ∧ Report.IsDelivery q'.reports es := by
  constructor
  · intro hdelivery
    cases hrs : q.reports with
    | nil =>
      rw [hrs, Report.isDelivery_nil] at hdelivery
      cases hdelivery
    | cons r rs =>
      have hr : r.events ≠ [] := h r (by simp [hrs])
      rw [hrs, Report.isDelivery_cons_cons hr] at hdelivery
      obtain ⟨rest, hrest, hdelivery⟩ := hdelivery
      exact ⟨_, take?_eq_some_iff.mpr ⟨r, rs, rest, hrs, hrest, rfl⟩,
        Report.isDelivery_ite.mpr hdelivery⟩
  · rintro ⟨q', hq', hdelivery⟩
    obtain ⟨r, rs, rest, hrs, hrest, rfl⟩ := take?_eq_some_iff.mp hq'
    rw [hrs] at h ⊢
    exact (Report.isDelivery_cons_cons (h r List.mem_cons_self)).mpr
      ⟨rest, hrest, Report.isDelivery_ite.mp hdelivery⟩

namespace Checker

variable {c c' : Checker}

/-- Observes events, up to the first one that does not fit. -/
def observeEvents (c : Checker) : List Event → Except CheckError Checker
  | [] => .ok c
  | e :: es =>
    match c.observeEvent e with
    | .error cause => .error cause
    | .ok c' => c'.observeEvents es

/-- Whether all events are observed and nothing is missing then. -/
def Accepts (c : Checker) (es : List Event) : Prop :=
  ∃ c', c.observeEvents es = .ok c' ∧ c'.finish = .ok ()

/-! ## One event -/

/-- An event fits if and only if the first report holds it. -/
theorem observeEvent_eq_ok_iff : c.observeEvent e = .ok c' ↔
    ∃ q, c.forecast.take? e = some q ∧ c' = ⟨q, c.observed + 1⟩ := by
  unfold observeEvent
  cases h : c.forecast.take? e with
  | none => cases c.forecast.front? <;> simp
  | some q => simp [eq_comm]

@[simp] theorem accepts_nil : c.Accepts [] ↔ c.forecast.reports = [] := by
  simp [Accepts, observeEvents, finish, Forecast.isEmpty]

theorem accepts_cons : c.Accepts (e :: es) ↔
    ∃ q, c.forecast.take? e = some q ∧ (⟨q, c.observed + 1⟩ : Checker).Accepts es := by
  constructor
  · rintro ⟨c', hc', hfinish⟩
    rw [observeEvents] at hc'
    split at hc'
    · cases hc'
    · next d hd =>
      obtain ⟨q, hq, rfl⟩ := observeEvent_eq_ok_iff.mp hd
      exact ⟨q, hq, c', hc', hfinish⟩
  · rintro ⟨q, hq, c', hc', hfinish⟩
    refine ⟨c', ?_, hfinish⟩
    rw [observeEvents, observeEvent_eq_ok_iff.mpr ⟨q, hq, rfl⟩]
    exact hc'

/-! ## All events -/

/-- **A checker whose reports all hold something accepts their deliveries and nothing else.** -/
theorem accepts_iff_isDelivery : ∀ {es : List Event} {c : Checker},
    (∀ r ∈ c.forecast.reports, r.events ≠ []) →
      (c.Accepts es ↔ Report.IsDelivery c.forecast.reports es)
  | [], c, h => by
    rw [accepts_nil]
    cases hrs : c.forecast.reports with
    | nil => simp [Report.isDelivery_nil]
    | cons r rs =>
      have hr : r.events ≠ [] := h r (by simp [hrs])
      simp [Report.not_isDelivery_cons_nil hr]
  | e :: es, c, h => by
    rw [accepts_cons, Forecast.isDelivery_cons h]
    constructor
    · rintro ⟨q, hq, haccepts⟩
      exact ⟨q, hq, (accepts_iff_isDelivery (Forecast.ne_nil_of_take? hq h)).mp haccepts⟩
    · rintro ⟨q, hq, hdelivery⟩
      exact ⟨q, hq, (accepts_iff_isDelivery (Forecast.ne_nil_of_take? hq h)).mpr hdelivery⟩

/-- What is sent is accepted as its reports can be delivered, since none of them is empty. -/
theorem accepts_iff_isDelivery_reportsOf {sent es : List Event} :
    (ofForecast (Forecast.ofEvents sent)).Accepts es ↔
      Report.IsDelivery (Forecast.reportsOf sent) es := by
  rw [← Forecast.reports_ofEvents]
  exact accepts_iff_isDelivery fun _ hr => Forecast.ne_nil_of_mem_ofEvents hr

/-- **Exact acceptance.** What is sent is accepted in every order that the reports allow, and in no
other. -/
theorem accepts_ofEvents_iff (sent es : List Event) :
    (ofForecast (Forecast.ofEvents sent)).Accepts es ↔
      Report.IsDelivery (Forecast.ofEvents sent).reports es := by
  refine accepts_iff_isDelivery ?_
  intro r hr
  exact Forecast.ne_nil_of_mem_ofEvents hr

end Checker

end KeyBench
