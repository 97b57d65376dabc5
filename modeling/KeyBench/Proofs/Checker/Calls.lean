import KeyBench.Proofs.Checker.Continuations
import KeyBench.Proofs.Checker.Sightings

/-!
# Series of calls

Whoever uses a checker lets it observe events, or what the host tells of events, and goes on with it
when a call has failed. A series of calls then leaves the checker that has observed the events of
the calls that have succeeded (`observeEvents_succeeding`).

## In place

A checker can also be kept in place and changed by each call. An event is then looked for in the
first report before it is taken out, and whether it could be taken out is not looked at any more.
This comes to the same as replacing the checker (`callInPlace_eq`): what a report holds can be taken
out of it, and a call that fails has changed nothing.
-/

namespace KeyBench

/-- What a checker is asked to observe. -/
inductive Call where
  | event (e : Event)
  /-- What the host tells of an event. -/
  | sighting (s : Sighting)
  deriving DecidableEq, Repr

/-- Whether a call lets an event be observed. -/
def Call.TellsOf : Call → Event → Prop
  | .event f, e => f = e
  | .sighting s, e => s.TellsOf e

namespace Checker

variable {c c' : Checker} {call : Call} {s : Sighting} {e : Event} {cause : CheckError}

/-- Makes a call. -/
def answer (c : Checker) : Call → Except CheckError Checker
  | .event e => c.observeEvent e
  | .sighting s => c.observe s

/-- The checker after a call. If the call fails, that is the one before it. -/
def after (c : Checker) (call : Call) : Checker :=
  match c.answer call with
  | .ok c' => c'
  | .error _ => c

/-- The checker after a series of calls. -/
def afterAll (c : Checker) (calls : List Call) : Checker := calls.foldl after c

/-- The calls of a series that succeed. -/
def succeeding (c : Checker) : List Call → List Call
  | [] => []
  | call :: calls =>
    match c.answer call with
    | .ok c' => call :: c'.succeeding calls
    | .error _ => c.succeeding calls

/-! ## One call -/

/-- A call succeeds if the event that it tells of can be observed. -/
theorem answer_eq_ok_iff : c.answer call = .ok c' ↔
    ∃ e, call.TellsOf e ∧ c.observeEvent e = .ok c' := by
  cases call with
  | event f => simp [answer, Call.TellsOf]
  | sighting s => exact observe_eq_ok_iff

/-- A sighting is rejected if its name cannot be resolved, or if its event does not fit. -/
theorem observe_eq_error_iff : c.observe s = .error cause ↔
    (∃ unknown, Key.ofHostName s.name = .error unknown ∧ cause = .key unknown) ∨
    ∃ e, s.TellsOf e ∧ c.observeEvent e = .error cause := by
  unfold observe Sighting.TellsOf
  cases hkey : Key.ofHostName s.name with
  | error unknown => simp [eq_comm]
  | ok key =>
    constructor
    · intro h
      exact .inr ⟨⟨key, s.direction⟩, ⟨rfl, rfl⟩, h⟩
    · rintro (⟨_, hunknown, _⟩ | ⟨⟨key', direction⟩, ⟨hkey', hdirection⟩, h⟩)
      · cases hunknown
      · obtain rfl := Except.ok.inj hkey'
        obtain rfl := hdirection
        exact h

/-- **A call fails because a name cannot be resolved, because nothing is left to see, or because the
first report does not hold the event.** -/
theorem answer_eq_error_iff : c.answer call = .error cause ↔
    (∃ s unknown, call = .sighting s ∧ Key.ofHostName s.name = .error unknown ∧
      cause = .key unknown) ∨
    (∃ e, call.TellsOf e ∧ c.forecast.reports = [] ∧ cause = .surplus e c.observed) ∨
    ∃ e r rs, call.TellsOf e ∧ c.forecast.reports = r :: rs ∧ e ∉ r.events ∧
      cause = .misplaced e c.observed r := by
  cases call with
  | event f => simp [answer, Call.TellsOf, observeEvent_eq_error_iff]
  | sighting s =>
    rw [answer, observe_eq_error_iff]
    constructor
    · rintro (⟨unknown, hunknown, rfl⟩ | ⟨e, htells, he⟩)
      · exact .inl ⟨s, unknown, rfl, hunknown, rfl⟩
      · rcases observeEvent_eq_error_iff.mp he with ⟨hrs, rfl⟩ | ⟨r, rs, hrs, hout, rfl⟩
        · exact .inr (.inl ⟨e, htells, hrs, rfl⟩)
        · exact .inr (.inr ⟨e, r, rs, htells, hrs, hout, rfl⟩)
    · rintro (⟨s', unknown, hs, hunknown, rfl⟩ | ⟨e, htells, hrs, rfl⟩ |
        ⟨e, r, rs, htells, hrs, hout, rfl⟩)
      · obtain rfl := Call.sighting.inj hs
        exact .inl ⟨unknown, hunknown, rfl⟩
      · exact .inr ⟨e, htells, observeEvent_eq_error_iff.mpr (.inl ⟨hrs, rfl⟩)⟩
      · exact .inr ⟨e, htells, observeEvent_eq_error_iff.mpr (.inr ⟨r, rs, hrs, hout, rfl⟩)⟩

theorem after_of_ok (h : c.answer call = .ok c') : c.after call = c' := by
  rw [after, h]

theorem after_of_error (h : c.answer call = .error cause) : c.after call = c := by
  rw [after, h]

/-! ## All calls -/

/-- **A series of calls leaves the checker that has observed the events of those that have
succeeded.** -/
theorem observeEvents_succeeding : ∀ (calls : List Call) (c : Checker),
    ∃ es, List.Forall₂ Call.TellsOf (c.succeeding calls) es ∧
      c.observeEvents es = .ok (c.afterAll calls)
  | [], _ => ⟨[], .nil, rfl⟩
  | call :: calls, c => by
    rw [succeeding, afterAll, List.foldl_cons]
    cases h : c.answer call with
    | error cause =>
      rw [after_of_error h]
      exact observeEvents_succeeding calls c
    | ok c' =>
      rw [after_of_ok h]
      obtain ⟨e, htells, he⟩ := answer_eq_ok_iff.mp h
      obtain ⟨es, htell, hes⟩ := observeEvents_succeeding calls c'
      exact ⟨e :: es, .cons htells htell, (observeEvents_cons_of_ok he).trans hes⟩

end Checker

/-! ## In place -/

/-- Takes an event out of a report that is kept in place. Returns whether the report held it. -/
def Report.takeInPlace (r : Report) (e : Event) : Bool × Report :=
  match r.events.idxOf? e with
  | none => (false, r)
  | some i => (true, ⟨Bag.removeAt r.events i⟩)

/-- Takes an event out of a forecast that is kept in place. Returns whether the first report held
it. -/
def Forecast.takeInPlace (q : Forecast) (e : Event) : Bool × Forecast :=
  match q.reports with
  | [] => (false, q)
  | head :: later =>
    let (taken, rest) := head.takeInPlace e
    if taken then (true, ⟨if rest.isEmpty then later else rest :: later, q.outstanding - 1⟩)
    else (false, { q with reports := rest :: later })

namespace Checker

/-- Observes an event with a checker that is kept in place. -/
def observeEventInPlace (c : Checker) (e : Event) : Except CheckError Unit × Checker :=
  match c.forecast.front? with
  | none => (.error (.surplus e c.observed), c)
  | some current =>
    if current.contains e then (.ok (), ⟨(c.forecast.takeInPlace e).2, c.observed + 1⟩)
    else (.error (.misplaced e c.observed current), c)

/-- Makes a call with a checker that is kept in place. -/
def callInPlace (c : Checker) : Call → Except CheckError Unit × Checker
  | .event e => c.observeEventInPlace e
  | .sighting s =>
    match Key.ofHostName s.name with
    | .error unknown => (.error (.key unknown), c)
    | .ok key => c.observeEventInPlace ⟨key, s.direction⟩

end Checker

theorem Bag.remove?_eq_map_idxOf? {α : Type} [DecidableEq α] (y : α) : ∀ xs : List α,
    remove? xs y = (xs.idxOf? y).map (removeAt xs)
  | [] => rfl
  | x :: xs => by
    rw [remove?, List.idxOf?_cons, remove?_eq_map_idxOf? y xs]
    by_cases h : x = y
    · simp [h, removeAt]
    · cases hi : xs.idxOf? y <;> simp [h, removeAt]

theorem Report.takeInPlace_eq (r : Report) (e : Event) :
    r.takeInPlace e = ((r.take? e).isSome, (r.take? e).getD r) := by
  unfold takeInPlace take?
  rw [Bag.remove?_eq_map_idxOf?]
  cases r.events.idxOf? e <;> rfl

/-- **What is taken in place is what is taken, and nothing changes if nothing is.** -/
theorem Forecast.takeInPlace_eq (q : Forecast) (e : Event) :
    q.takeInPlace e = ((q.take? e).isSome, (q.take? e).getD q) := by
  obtain ⟨reports, outstanding⟩ := q
  unfold takeInPlace take?
  cases reports with
  | nil => rfl
  | cons head later =>
    dsimp only
    rw [Report.takeInPlace_eq]
    cases head.take? e <;> rfl

/-- **The first report says that it holds an event if and only if the event can be taken.** -/
theorem Forecast.exists_front?_contains_iff {q : Forecast} {e : Event} :
    (∃ r, q.front? = some r ∧ r.contains e = true) ↔ ∃ q', q.take? e = some q' := by
  rw [exists_take?_iff]
  unfold front? Report.contains
  cases q.reports <;> simp

namespace Checker

variable {c c' : Checker} {e : Event} {cause : CheckError}

/-- An event that can be observed is found in the first report, and is then taken. -/
theorem observeEventInPlace_of_ok (h : c.observeEvent e = .ok c') :
    c.observeEventInPlace e = (.ok (), c') := by
  obtain ⟨q, htake, rfl⟩ := observeEvent_eq_ok_iff.mp h
  obtain ⟨r, hfront, hin⟩ := Forecast.exists_front?_contains_iff.mpr ⟨q, htake⟩
  simp [observeEventInPlace, hfront, hin, Forecast.takeInPlace_eq, htake]

/-- An event that does not fit is not found there, and nothing is touched. -/
theorem observeEventInPlace_of_error (h : c.observeEvent e = .error cause) :
    c.observeEventInPlace e = (.error cause, c) := by
  rcases observeEvent_eq_error_iff.mp h with ⟨hrs, rfl⟩ | ⟨r, rs, hrs, hout, rfl⟩
  · simp [observeEventInPlace, Forecast.front?, hrs]
  · simp [observeEventInPlace, Forecast.front?, Report.contains, hrs, hout]

/-- **A checker that is kept in place answers every call in the same way, and is the same after
it.** -/
theorem callInPlace_eq (c : Checker) (call : Call) :
    c.callInPlace call = ((c.answer call).map fun _ => (), c.after call) := by
  have hevent (e : Event) : c.observeEventInPlace e =
      ((c.observeEvent e).map fun _ => (), c.after (.event e)) := by
    cases h : c.observeEvent e with
    | error cause =>
      have hafter : c.after (.event e) = c := after_of_error h
      rw [observeEventInPlace_of_error h, hafter]
      rfl
    | ok c' =>
      have hafter : c.after (.event e) = c' := after_of_ok h
      rw [observeEventInPlace_of_ok h, hafter]
      rfl
  cases call with
  | event e => exact hevent e
  | sighting s =>
    -- once its name is resolved, a sighting is an event
    cases hkey : Key.ofHostName s.name with
    | error unknown => simp [callInPlace, after, answer, observe, hkey, Except.map]
    | ok key =>
      have hkeyed := hevent ⟨key, s.direction⟩
      simpa only [callInPlace, after, answer, observe, hkey] using hkeyed

end Checker

end KeyBench
