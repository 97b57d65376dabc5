import KeyBench.Proofs.Checker.Calls

/-!
# The order in which reports are kept

Two reports are alike if they hold the same events, in whatever order they keep them. The order is
not hidden: it is shown in errors, and what is left when an event is taken out of two reports that
are alike is again kept in orders of its own. But it decides nothing. Whoever calls two checkers
that are alike gets the same answer from both of them, and they are alike after that
(`Alike.answer`); so it goes on call by call (`Alike.afterAll`), up to the end (`Alike.finish`).
-/

namespace KeyBench

variable {e : Event}

/-! ## Taking an event -/

namespace Report

variable {r s rest : Report}

/-- What is taken out of a report can be taken out of one that holds the same events, and the rests
hold the same events, too. -/
theorem exists_take?_of_perm (h : r.events.Perm s.events) (htake : r.take? e = some rest) :
    ∃ rest', s.take? e = some rest' ∧ rest.events.Perm rest'.events := by
  have hperm := perm_cons_of_take? htake
  have hmem : e ∈ s.events := h.subset (hperm.subset List.mem_cons_self)
  obtain ⟨rest', htake'⟩ := exists_take?_iff.mpr hmem
  have hperm' := perm_cons_of_take? htake'
  exact ⟨rest', htake', ((hperm.trans h).trans hperm'.symm).cons_inv⟩

theorem isEmpty_eq_of_perm (h : r.events.Perm s.events) : r.isEmpty = s.isEmpty := by
  rw [Bool.eq_iff_iff, isEmpty_iff, isEmpty_iff, ← List.length_eq_zero_iff, h.length_eq,
    List.length_eq_zero_iff]

end Report

namespace Forecast

variable {p q p' : Forecast}

/-- **An event that can be seen can be seen in every forecast that is alike, and the forecasts are
alike after it.** -/
theorem exists_take?_of_alike (h : p.alike q = true) (htake : p.take? e = some p') :
    ∃ q', q.take? e = some q' ∧ p'.alike q' = true := by
  obtain ⟨r, rs, rest, hrs, hrest, rfl⟩ := take?_eq_some_iff.mp htake
  obtain ⟨hreports, hcount⟩ := alike_iff.mp h
  rw [hrs] at hreports
  obtain ⟨s, ss, hperm, hlater, hss⟩ := List.forall₂_cons_left_iff.mp hreports
  obtain ⟨rest', hrest', hrests⟩ := Report.exists_take?_of_perm hperm hrest
  refine ⟨_, take?_eq_some_iff.mpr ⟨s, ss, rest', hss, hrest', rfl⟩, alike_iff.mpr ⟨?_, ?_⟩⟩
  · dsimp only
    rw [Report.isEmpty_eq_of_perm hrests]
    split
    · exact hlater
    · exact .cons hrests hlater
  · dsimp only
    rw [hcount]

theorem isEmpty_eq_of_alike (h : p.alike q = true) : p.isEmpty = q.isEmpty := by
  have hlength := (alike_iff.mp h).1.length_eq
  rw [isEmpty, isEmpty, Bool.eq_iff_iff, List.isEmpty_iff, List.isEmpty_iff,
    ← List.length_eq_zero_iff, hlength, List.length_eq_zero_iff]

end Forecast

/-! ## Answers that are the same -/

/-- Whether two errors differ in nothing but the order in which they show reports. -/
inductive CheckError.Alike : CheckError → CheckError → Prop
  | key (cause : KeyError) : Alike (.key cause) (.key cause)
  | surplus (e : Event) (index : Nat) : Alike (.surplus e index) (.surplus e index)
  | misplaced (e : Event) (index : Nat) {r s : Report} (h : r.alike s = true) :
    Alike (.misplaced e index r) (.misplaced e index s)
  | missing {p q : Forecast} (h : p.alike q = true) : Alike (.missing p) (.missing q)

/-- Whether two calls have both succeeded, with results that are related, or have both failed with
errors that are alike. -/
inductive SameAnswer {α : Type} (R : α → α → Prop) :
    Except CheckError α → Except CheckError α → Prop
  | ok {a b : α} (h : R a b) : SameAnswer R (.ok a) (.ok b)
  | error {x y : CheckError} (h : x.Alike y) : SameAnswer R (.error x) (.error y)

namespace Checker

open Event

variable {c d : Checker}

/-- Whether two checkers differ in nothing but the order in which they keep reports. -/
structure Alike (c d : Checker) : Prop where
  forecast_alike : c.forecast.alike d.forecast = true
  observed_eq : c.observed = d.observed

/-! ## One call -/

/-- **Checkers that are alike both observe an event, or both reject it for the same reason.** -/
theorem Alike.observeEvent (h : c.Alike d) (e : Event) :
    SameAnswer Alike (c.observeEvent e) (d.observeEvent e) := by
  cases hc : c.observeEvent e with
  | ok c' =>
    obtain ⟨p, htake, rfl⟩ := observeEvent_eq_ok_iff.mp hc
    obtain ⟨q, htake', halike⟩ := Forecast.exists_take?_of_alike h.forecast_alike htake
    rw [observeEvent_eq_ok_iff.mpr ⟨q, htake', rfl⟩]
    exact .ok ⟨halike, congrArg (· + 1) h.observed_eq⟩
  | error cause =>
    have hreports := (Forecast.alike_iff.mp h.forecast_alike).1
    rcases observeEvent_eq_error_iff.mp hc with ⟨hrs, rfl⟩ | ⟨r, rs, hrs, hout, rfl⟩
    · rw [hrs, List.forall₂_nil_left_iff] at hreports
      rw [observeEvent_eq_error_iff.mpr (.inl ⟨hreports, rfl⟩), h.observed_eq]
      exact .error (.surplus e _)
    · rw [hrs] at hreports
      obtain ⟨s, ss, hperm, _, hss⟩ := List.forall₂_cons_left_iff.mp hreports
      have hout' : e ∉ s.events := fun he => hout (hperm.symm.subset he)
      rw [observeEvent_eq_error_iff.mpr (.inr ⟨s, ss, hss, hout', rfl⟩), h.observed_eq]
      exact .error (.misplaced e _ (Report.alike_iff_perm.mpr hperm))

/-- Whether its name can be resolved, and to which key, decides on a sighting before the reports
do. -/
theorem Alike.answer (h : c.Alike d) (call : Call) :
    SameAnswer Alike (c.answer call) (d.answer call) := by
  cases call with
  | event e => exact h.observeEvent e
  | sighting s =>
    show SameAnswer Alike (c.observe s) (d.observe s)
    unfold Checker.observe
    cases Key.ofHostName s.name with
    | error unknown => exact .error (.key unknown)
    | ok key => exact h.observeEvent ⟨key, s.direction⟩

theorem Alike.after (h : c.Alike d) (call : Call) : (c.after call).Alike (d.after call) := by
  have hanswer := h.answer call
  unfold Checker.after
  generalize c.answer call = x at hanswer ⊢
  generalize d.answer call = y at hanswer ⊢
  cases hanswer with
  | ok h' => exact h'
  | error _ => exact h

/-! ## All calls -/

theorem Alike.afterAll : ∀ {calls : List Call} {c d : Checker}, c.Alike d →
    (c.afterAll calls).Alike (d.afterAll calls)
  | [], _, _, h => h
  | call :: calls, c, d, h => by
    show ((c.after call).afterAll calls).Alike ((d.after call).afterAll calls)
    exact Alike.afterAll (h.after call)

/-- At the end the same events are missing, if any are. -/
theorem Alike.finish (h : c.Alike d) : SameAnswer Eq c.finish d.finish := by
  unfold Checker.finish
  rw [Forecast.isEmpty_eq_of_alike h.forecast_alike]
  split
  · exact .ok rfl
  · exact .error (.missing h.forecast_alike)

/-- **The order in which reports are kept plays no part.** Two reports are alike if and only if one
is a permutation of the other. Two checkers whose reports are alike one by one, and which have
observed equally many events, both observe an event or both reject it, with the same error, index
and remaining report. After any series of calls they are alike, and give the same answer to the next
call and the same verdict at the end. -/
theorem keeping_order_plays_no_part :
    (∀ r s : Report, r.alike s = true ↔ s.events.Perm r.events) ∧
    ∀ c d : Checker, c.Alike d →
      (∀ e, SameAnswer Alike (c.observeEvent e) (d.observeEvent e)) ∧
      ∀ calls,
        (c.afterAll calls).Alike (d.afterAll calls) ∧
        (∀ call,
          SameAnswer Alike ((c.afterAll calls).answer call) ((d.afterAll calls).answer call)) ∧
        SameAnswer Eq (c.afterAll calls).finish (d.afterAll calls).finish := by
  refine ⟨fun r s => Report.alike_iff_perm.trans List.perm_comm, ?_⟩
  intro c d h
  refine ⟨h.observeEvent, fun calls => ?_⟩
  have hafter : (c.afterAll calls).Alike (d.afterAll calls) := h.afterAll
  exact ⟨hafter, hafter.answer, hafter.finish⟩

/-- The press of `c` is taken out of two reports, and leaves the releases in two orders. A release
that comes again is then rejected with both of them. -/
theorem keeping_order_plays_no_part_releases :
    Checker.Alike ⟨⟨[⟨[press .letterC, release .letterA, release .letterB]⟩], 3⟩, 2⟩
      ⟨⟨[⟨[release .letterA, press .letterC, release .letterB]⟩], 3⟩, 2⟩ ∧
    ∀ call, SameAnswer Alike
      ((Checker.afterAll ⟨⟨[⟨[press .letterC, release .letterA, release .letterB]⟩], 3⟩, 2⟩
        [.event (press .letterC)]).answer call)
      ((Checker.afterAll ⟨⟨[⟨[release .letterA, press .letterC, release .letterB]⟩], 3⟩, 2⟩
        [.event (press .letterC)]).answer call) := by
  have h : Checker.Alike ⟨⟨[⟨[press .letterC, release .letterA, release .letterB]⟩], 3⟩, 2⟩
      ⟨⟨[⟨[release .letterA, press .letterC, release .letterB]⟩], 3⟩, 2⟩ :=
    ⟨Forecast.alike_iff.mpr ⟨.cons (by decide) .nil, rfl⟩, rfl⟩
  exact ⟨h, ((keeping_order_plays_no_part.2 _ _ h).2 [.event (press .letterC)]).2.1⟩

end Checker

end KeyBench
