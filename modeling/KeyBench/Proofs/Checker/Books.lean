import Mathlib.Algebra.GroupWithZero.Nat
import Mathlib.Data.List.Induction
import KeyBench.Proofs.Checker.Calls

/-!
# The books of a checker

A checker keeps the reports that are left, the number of events in them, and the number of events
observed. However it is used, the three agree (`inOrder_afterAll`), also when calls fail in between.

Since calls that fail leave no trace, it is enough to follow the events of those that succeed. Two
things are followed: what the reports hold is counted (`Forecast.Counted`), and the reports left are
the last ones of those at the beginning, the first of them without the events observed since it came
first (`LeftOf`).
-/

namespace KeyBench

/-! ## The events outstanding -/

namespace Forecast

variable {q q' : Forecast} {e : Event}

/-- Whether a forecast counts what its reports hold, and none of them is empty. -/
structure Counted (q : Forecast) : Prop where
  outstanding_eq : q.outstanding = (q.reports.map Report.size).sum
  ne_nil : ∀ r ∈ q.reports, r.events ≠ []

theorem counted_ofEvents (sent : List Event) : (ofEvents sent).Counted where
  outstanding_eq := by
    have hlength := congrArg List.length (reportsOf_flatten sent)
    rw [List.length_flatMap] at hlength
    rw [ofEvents_eq]
    exact hlength.symm
  ne_nil := fun _ hr => ne_nil_of_mem_ofEvents hr

/-- A report that is dropped when it is empty counts for nothing before. -/
theorem sum_size_ite (rest : Report) (rs : List Report) :
    ((if rest.isEmpty then rs else rest :: rs).map Report.size).sum =
      rest.size + (rs.map Report.size).sum := by
  by_cases h : rest.isEmpty = true
  · have hnil : rest.events = [] := Report.isEmpty_iff.mp h
    simp [h, Report.size, hnil]
  · simp [h]

/-- **An event is taken only if events are outstanding, and then there is one less.** -/
theorem Counted.outstanding_of_take? (h : q.Counted) (hq : q.take? e = some q') :
    q'.outstanding + 1 = q.outstanding := by
  obtain ⟨r, rs, rest, hrs, hrest, rfl⟩ := take?_eq_some_iff.mp hq
  have hsize : rest.size + 1 = r.size := (Report.perm_cons_of_take? hrest).length_eq
  have hcount := h.outstanding_eq
  rw [hrs, List.map_cons, List.sum_cons] at hcount
  dsimp only
  omega

theorem Counted.of_take? (h : q.Counted) (hq : q.take? e = some q') : q'.Counted where
  outstanding_eq := by
    have hless := h.outstanding_of_take? hq
    obtain ⟨r, rs, rest, hrs, hrest, rfl⟩ := take?_eq_some_iff.mp hq
    have hsize : rest.size + 1 = r.size := (Report.perm_cons_of_take? hrest).length_eq
    have hcount := h.outstanding_eq
    rw [hrs, List.map_cons, List.sum_cons] at hcount
    rw [sum_size_ite]
    omega
  ne_nil := ne_nil_of_take? hq h.ne_nil

/-- Reports are left as long as events are outstanding. -/
theorem Counted.reports_eq_nil_iff (h : q.Counted) : q.reports = [] ↔ q.outstanding = 0 := by
  rw [h.outstanding_eq]
  cases hrs : q.reports with
  | nil => simp
  | cons r rs =>
    have hr : r.events ≠ [] := h.ne_nil r (by simp [hrs])
    have hpos : 0 < r.size := List.length_pos_of_ne_nil hr
    rw [List.map_cons, List.sum_cons]
    constructor
    · intro hnil
      cases hnil
    · omega

end Forecast

namespace Checker

variable {c c' : Checker} {e : Event} {es : List Event}

/-- **What is observed is no longer outstanding.** -/
theorem counted_of_observeEvents (hcounted : c.forecast.Counted)
    (h : c.observeEvents es = .ok c') : c'.forecast.Counted ∧
      c'.observed + c'.forecast.outstanding = c.observed + c.forecast.outstanding := by
  refine of_observeEvents (P := fun d => d.forecast.Counted ∧
    d.observed + d.forecast.outstanding = c.observed + c.forecast.outstanding) ?_ ⟨hcounted, rfl⟩ h
  rintro d e q hq ⟨hd, htotal⟩
  have hless := hd.outstanding_of_take? hq
  refine ⟨hd.of_take? hq, ?_⟩
  dsimp only
  omega

/-! ## The reports left -/

/-- Whether some reports are what is left of whole ones since events have been observed: the first
one lacks these events, and the others are whole. -/
inductive LeftOf : List Report → List Event → List Report → Prop
  | nil : LeftOf [] [] []
  | cons {r left : Report} {rs : List Report} {since : List Event} :
      (since ++ left.events).Perm r.events → LeftOf (r :: rs) since (left :: rs)

/-- Nothing is lacking at first. -/
theorem leftOf_self : ∀ rs : List Report, LeftOf rs [] rs
  | [] => .nil
  | r :: _ => .cons (.refl r.events)

/-- **The reports left are the last ones, and the first of them lacks what has been observed since
it came first.** When it came first, no event of it had been observed, and the reports left were
whole. -/
theorem exists_leftOf_of_observeEvents (h : c.observeEvents es = .ok c') :
    ∃ before since whole, es = before ++ since ∧ c.observeEvents before = .ok whole ∧
      whole.forecast.reports <:+ c.forecast.reports ∧
      LeftOf whole.forecast.reports since c'.forecast.reports := by
  induction es using List.reverseRecOn generalizing c' with
  | nil =>
    obtain rfl := Except.ok.inj h
    exact ⟨[], [], c, rfl, rfl, List.suffix_refl _, leftOf_self _⟩
  | append_singleton es e ih =>
    obtain ⟨d, hd, he⟩ := observeEvents_append.mp h
    rw [observeEvents_singleton] at he
    obtain ⟨before, since, whole, rfl, hwhole, hsuffix, hleft⟩ := ih hd
    obtain ⟨q, hq, rfl⟩ := observeEvent_eq_ok_iff.mp he
    obtain ⟨r, rs, rest, hrs, hrest, rfl⟩ := Forecast.take?_eq_some_iff.mp hq
    rw [hrs] at hleft
    obtain ⟨⟨reports, outstanding⟩, observed⟩ := whole
    cases hleft with
    | @cons whole _ _ _ hperm =>
      by_cases hempty : rest.isEmpty = true
      · -- the report is complete, so the one after it comes first, and nothing of it is lacking
        refine ⟨before ++ since ++ [e], [], _, (List.append_nil _).symm, h, ?_, ?_⟩
        · simp only [hempty, if_true]
          exact (List.suffix_cons whole rs).trans hsuffix
        · exact leftOf_self _
      · refine ⟨before, since ++ [e], _, List.append_assoc _ _ _, hwhole, hsuffix, ?_⟩
        simp only [hempty, Bool.false_eq_true, if_false]
        refine .cons ?_
        rw [List.append_assoc]
        exact ((Report.perm_cons_of_take? hrest).append_left since).trans hperm

/-! ## All books -/

/-- Whether the books of a checker are in order after some calls, given what was sent. -/
structure InOrder (sent : List Event) (calls : List Call) (c : Checker) : Prop where
  /-- The calls that have succeeded are counted. -/
  observed_eq : c.observed = ((ofForecast (Forecast.ofEvents sent)).succeeding calls).length
  /-- What has been observed and what is outstanding make up what was sent. -/
  total : c.observed + c.forecast.outstanding = sent.length
  /-- What is outstanding is what the reports left hold. -/
  outstanding_eq : c.forecast.outstanding = (c.forecast.reports.map Report.size).sum
  /-- No report left is empty. -/
  filled : ∀ r ∈ c.forecast.reports, r.isEmpty = false
  /-- The reports left are the last ones of what was sent. Only the first of them lacks events, and
  these are the ones observed since it came first. -/
  left : ∃ before since whole,
    List.Forall₂ Call.TellsOf ((ofForecast (Forecast.ofEvents sent)).succeeding calls)
      (before ++ since) ∧
    (ofForecast (Forecast.ofEvents sent)).observeEvents before = .ok whole ∧
    whole.forecast.reports <:+ (Forecast.ofEvents sent).reports ∧
    LeftOf whole.forecast.reports since c.forecast.reports
  /-- A call that fails changes nothing. If it fails for its event, the error has the number of
  events observed, and the first report if one is left. -/
  fails : ∀ call cause, c.answer call = .error cause → c.after call = c ∧
    ((∃ s unknown, call = .sighting s ∧ Key.ofHostName s.name = .error unknown ∧
        cause = .key unknown) ∨
      (∃ e, call.TellsOf e ∧ c.forecast.front? = none ∧ cause = .surplus e c.observed) ∨
      ∃ e current, call.TellsOf e ∧ c.forecast.front? = some current ∧
        cause = .misplaced e c.observed current)
  /-- Whether the checker is replaced or kept in place makes no difference. -/
  in_place : ∀ call, c.callInPlace call = ((c.answer call).map fun _ => (), c.after call)
  /-- What the first report says that it holds can be taken, and nothing else can. -/
  contains_iff : ∀ e, (∃ current, c.forecast.front? = some current ∧ current.contains e = true) ↔
    ∃ q, c.forecast.take? e = some q
  /-- Taking an event counts down by one, so there was one to count. -/
  taken : ∀ e q, c.forecast.take? e = some q → q.outstanding + 1 = c.forecast.outstanding
  /-- The observation can end when all that was sent has been observed. -/
  ended : c.finish = .ok () ↔ c.observed = sent.length
  /-- Before that, what is left is reported as missing. -/
  missing : c.observed ≠ sent.length → c.finish = .error (.missing c.forecast)

/-- **The books of a checker are in order after every series of calls**, whichever of them fail. -/
theorem inOrder_afterAll (sent : List Event) (calls : List Call) :
    InOrder sent calls ((ofForecast (Forecast.ofEvents sent)).afterAll calls) := by
  obtain ⟨es, htell, hes⟩ := observeEvents_succeeding calls (ofForecast (Forecast.ofEvents sent))
  generalize (ofForecast (Forecast.ofEvents sent)).afterAll calls = c at hes
  obtain ⟨hcounted, htotal⟩ := counted_of_observeEvents (Forecast.counted_ofEvents sent) hes
  have hobserved : c.observed = es.length := by
    rw [observed_of_observeEvents hes]
    exact Nat.zero_add _
  have hsum : c.observed + c.forecast.outstanding = sent.length := by
    rw [htotal, ofForecast, Forecast.outstanding_ofEvents, Nat.zero_add]
  have hended : c.forecast.reports = [] ↔ c.observed = sent.length := by
    rw [hcounted.reports_eq_nil_iff]
    omega
  exact
    { observed_eq := by rw [hobserved, htell.length_eq]
      total := hsum
      outstanding_eq := hcounted.outstanding_eq
      filled := fun r hr => by
        rw [Report.isEmpty, List.isEmpty_eq_false_iff]
        exact hcounted.ne_nil r hr
      left := by
        obtain ⟨before, since, whole, rfl, hwhole, hsuffix, hleft⟩ :=
          exists_leftOf_of_observeEvents hes
        exact ⟨before, since, whole, htell, hwhole, hsuffix, hleft⟩
      fails := by
        intro call cause h
        refine ⟨after_of_error h, ?_⟩
        rcases answer_eq_error_iff.mp h with hkey | ⟨e, htells, hrs, rfl⟩ |
          ⟨e, r, rs, htells, hrs, _, rfl⟩
        · exact .inl hkey
        · exact .inr (.inl ⟨e, htells, by rw [Forecast.front?, hrs]; rfl, rfl⟩)
        · exact .inr (.inr ⟨e, r, htells, by rw [Forecast.front?, hrs]; rfl, rfl⟩)
      in_place := callInPlace_eq c
      contains_iff := fun _ => Forecast.exists_front?_contains_iff
      taken := fun _ _ hq => hcounted.outstanding_of_take? hq
      ended := by rw [finish_eq_ok_iff, hended]
      missing := fun hne => finish_eq_error_iff.mpr ⟨fun hnil => hne (hended.mp hnil), rfl⟩ }

end Checker

end KeyBench
