import KeyBench.Proofs.Checker.Acceptance

/-!
# What can still be accepted

No report is left empty when an event is seen, so what a checker waits for can always be delivered.
Events that are observed one after the other are therefore the beginning of something that is
accepted (`exists_accepts_append_iff`), and the checker after them accepts what completes it
(`accepts_append`).

An event that does not fit thus rules out all that could follow, and no event before it did: the
fault is reported as early as it can be (`fault_is_earliest`).
-/

namespace KeyBench

/-- An event can be seen if and only if the first report holds it. -/
theorem Forecast.exists_take?_iff {q : Forecast} {e : Event} :
    (∃ q', q.take? e = some q') ↔ ∃ r rs, q.reports = r :: rs ∧ e ∈ r.events := by
  constructor
  · rintro ⟨q', hq'⟩
    obtain ⟨r, rs, rest, hrs, hrest, _⟩ := take?_eq_some_iff.mp hq'
    exact ⟨r, rs, hrs, Report.exists_take?_iff.mp ⟨rest, hrest⟩⟩
  · rintro ⟨r, rs, hrs, he⟩
    obtain ⟨rest, hrest⟩ := Report.exists_take?_iff.mpr he
    exact ⟨_, take?_eq_some_iff.mpr ⟨r, rs, rest, hrs, hrest, rfl⟩⟩

namespace Checker

variable {c c' d : Checker} {e : Event} {es fs : List Event} {cause : CheckError}

/-! ## Events that do not fit -/

/-- **An event does not fit if there is nothing left to see, or if the first report does not hold
it.** -/
theorem observeEvent_eq_error_iff : c.observeEvent e = .error cause ↔
    (c.forecast.reports = [] ∧ cause = .surplus e c.observed) ∨
    ∃ r rs, c.forecast.reports = r :: rs ∧ e ∉ r.events ∧
      cause = .misplaced e c.observed r := by
  have htake := Forecast.exists_take?_iff (q := c.forecast) (e := e)
  unfold observeEvent Forecast.front?
  cases h : c.forecast.take? e with
  | none =>
    rw [h] at htake
    cases hrs : c.forecast.reports with
    | nil => simp [eq_comm]
    | cons r rs =>
      have hout : e ∉ r.events := by simpa [hrs] using htake
      simp [hout, eq_comm]
  | some q =>
    obtain ⟨r, rs, hrs, hin⟩ := htake.mp ⟨q, h⟩
    simp [hrs, hin]

/-! ## One part after the other -/

theorem observeEvents_cons_of_ok (h : c.observeEvent e = .ok c') :
    c.observeEvents (e :: es) = c'.observeEvents es := by
  rw [observeEvents, h]

theorem observeEvents_cons_of_error (h : c.observeEvent e = .error cause) :
    c.observeEvents (e :: es) = .error cause := by
  rw [observeEvents, h]

/-- Events are observed if the first of them are, and the others are after these. -/
theorem observeEvents_append : ∀ {es : List Event} {c : Checker},
    c.observeEvents (es ++ fs) = .ok d ↔
      ∃ c', c.observeEvents es = .ok c' ∧ c'.observeEvents fs = .ok d
  | [], c => by simp [observeEvents]
  | e :: es, c => by
    rw [List.cons_append]
    cases he : c.observeEvent e with
    | error cause => simp [observeEvents_cons_of_error he]
    | ok c₁ =>
      rw [observeEvents_cons_of_ok he, observeEvents_cons_of_ok he]
      exact observeEvents_append

theorem observeEvents_singleton : c.observeEvents [e] = .ok c' ↔ c.observeEvent e = .ok c' := by
  cases he : c.observeEvent e with
  | error cause => simp [observeEvents_cons_of_error he]
  | ok d =>
    rw [observeEvents_cons_of_ok he]
    rfl

/-- Every event that is observed is counted. -/
theorem observed_of_observeEvents : ∀ {es : List Event} {c : Checker},
    c.observeEvents es = .ok c' → c'.observed = c.observed + es.length
  | [], c, h => by
    obtain rfl := Except.ok.inj h
    rfl
  | e :: es, c, h => by
    cases he : c.observeEvent e with
    | error cause =>
      rw [observeEvents_cons_of_error he] at h
      cases h
    | ok d =>
      rw [observeEvents_cons_of_ok he] at h
      obtain ⟨q, _, rfl⟩ := observeEvent_eq_ok_iff.mp he
      have hlater := observed_of_observeEvents h
      rw [hlater, List.length_cons]
      dsimp only
      omega

/-- **What holds before an event is observed and also after it, holds after all events.** -/
theorem of_observeEvents {P : Checker → Prop}
    (hstep : ∀ (c : Checker) (e : Event) (q : Forecast), c.forecast.take? e = some q → P c →
      P ⟨q, c.observed + 1⟩) :
    ∀ {es : List Event} {c : Checker}, P c → c.observeEvents es = .ok c' → P c'
  | [], c, hc, h => by
    obtain rfl := Except.ok.inj h
    exact hc
  | e :: es, c, hc, h => by
    cases he : c.observeEvent e with
    | error cause =>
      rw [observeEvents_cons_of_error he] at h
      cases h
    | ok d =>
      rw [observeEvents_cons_of_ok he] at h
      obtain ⟨q, hq, rfl⟩ := observeEvent_eq_ok_iff.mp he
      exact of_observeEvents hstep (hstep c e q hq hc) h

/-- No report is left empty while events are observed. -/
theorem ne_nil_of_observeEvents (hne : ∀ r ∈ c.forecast.reports, r.events ≠ [])
    (h : c.observeEvents es = .ok c') : ∀ r ∈ c'.forecast.reports, r.events ≠ [] := by
  refine of_observeEvents (P := fun d => ∀ r ∈ d.forecast.reports, r.events ≠ []) ?_ hne h
  intro d e q hq hd
  exact Forecast.ne_nil_of_take? hq hd

/-! ## Continuations -/

/-- What has been observed so far plays no part in what is accepted. -/
theorem accepts_ofForecast_iff (hne : ∀ r ∈ c.forecast.reports, r.events ≠ []) :
    (ofForecast c.forecast).Accepts es ↔ c.Accepts es := by
  rw [accepts_iff_isDelivery hne]
  exact accepts_iff_isDelivery hne

/-- **The checker after some events accepts what completes them.** -/
theorem accepts_append (h : c.observeEvents es = .ok c') :
    c.Accepts (es ++ fs) ↔ c'.Accepts fs := by
  constructor
  · rintro ⟨d, hd, hfinish⟩
    obtain ⟨c₁, hc₁, hfs⟩ := observeEvents_append.mp hd
    obtain rfl := Except.ok.inj (hc₁.symm.trans h)
    exact ⟨d, hfs, hfinish⟩
  · rintro ⟨d, hfs, hfinish⟩
    exact ⟨d, observeEvents_append.mpr ⟨c', h, hfs⟩, hfinish⟩

/-- A checker accepts the events that its reports hold, in the order in which they are kept. -/
theorem accepts_flatMap_events (hne : ∀ r ∈ c.forecast.reports, r.events ≠ []) :
    c.Accepts (c.forecast.reports.flatMap Report.events) :=
  (accepts_iff_isDelivery hne).mpr (Report.isDelivery_flatMap _)

/-- **Events are observed if and only if they can be continued to something that is accepted.** -/
theorem exists_accepts_append_iff (hne : ∀ r ∈ c.forecast.reports, r.events ≠ []) :
    (∃ c', c.observeEvents es = .ok c') ↔ ∃ fs, c.Accepts (es ++ fs) := by
  constructor
  · rintro ⟨c', h⟩
    have hne' := ne_nil_of_observeEvents hne h
    exact ⟨_, (accepts_append h).mpr (accepts_flatMap_events hne')⟩
  · rintro ⟨fs, d, hd, _⟩
    obtain ⟨c', h, _⟩ := observeEvents_append.mp hd
    exact ⟨c', h⟩

/-- Nothing that goes on with an event that does not fit is accepted. -/
theorem not_accepts_append_cons (h : c.observeEvents es = .ok c')
    (he : c'.observeEvent e = .error cause) : ¬c.Accepts (es ++ e :: fs) := by
  rw [accepts_append h]
  rintro ⟨d, hd, _⟩
  rw [observeEvents_cons_of_error he] at hd
  cases hd

/-! ## The earliest fault -/

/-- **A fault is reported as early as it can be.** Events are observed one after the other if and
only if something that is accepted starts with them, and what is left then accepts exactly what
completes them. So the first event that does not fit makes acceptance impossible, whatever follows.
It is reported as a surplus if the events before it were all that had to be seen, and as misplaced
if they were not. -/
theorem fault_is_earliest (sent es : List Event) :
    ((∃ c, (ofForecast (Forecast.ofEvents sent)).observeEvents es = .ok c) ↔
      ∃ fs, (ofForecast (Forecast.ofEvents sent)).Accepts (es ++ fs)) ∧
    ∀ c, (ofForecast (Forecast.ofEvents sent)).observeEvents es = .ok c →
      (∀ fs,
        (c.Accepts fs ↔ (ofForecast (Forecast.ofEvents sent)).Accepts (es ++ fs)) ∧
        ((ofForecast c.forecast).Accepts fs ↔
          (ofForecast (Forecast.ofEvents sent)).Accepts (es ++ fs))) ∧
      ∀ e cause, c.observeEvent e = .error cause →
        (∀ fs, ¬(ofForecast (Forecast.ofEvents sent)).Accepts (es ++ e :: fs)) ∧
        (cause = .surplus e es.length ↔ (ofForecast (Forecast.ofEvents sent)).Accepts es) ∧
        ((∃ current, cause = .misplaced e es.length current) ↔
          ¬(ofForecast (Forecast.ofEvents sent)).Accepts es) := by
  have hne : ∀ r ∈ (ofForecast (Forecast.ofEvents sent)).forecast.reports, r.events ≠ [] :=
    fun _ hr => Forecast.ne_nil_of_mem_ofEvents hr
  refine ⟨exists_accepts_append_iff hne, ?_⟩
  intro c hc
  have hne' := ne_nil_of_observeEvents hne hc
  refine ⟨?_, ?_⟩
  · intro fs
    rw [accepts_append hc]
    exact ⟨.rfl, accepts_ofForecast_iff hne'⟩
  · intro e cause he
    refine ⟨fun fs => not_accepts_append_cons hc he, ?_⟩
    -- the events are all that had to be seen exactly if no report is left after them
    have hcomplete :
        (ofForecast (Forecast.ofEvents sent)).Accepts es ↔ c.forecast.reports = [] := by
      rw [← accepts_nil, ← accepts_append hc, List.append_nil]
    have hobserved : c.observed = es.length := by
      rw [observed_of_observeEvents hc]
      exact Nat.zero_add _
    rw [hcomplete, ← hobserved]
    rcases observeEvent_eq_error_iff.mp he with ⟨hrs, rfl⟩ | ⟨r, rs, hrs, _, rfl⟩
    · simp [hrs]
    · simp [hrs]

end Checker

end KeyBench
