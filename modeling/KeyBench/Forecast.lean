import KeyBench.Report

/-!
# Forecasts

A forecast is the list of reports that the host has still to see, in order.

## How a sequence is cut into reports

A press opens a report and makes its key the hot key. A release of the hot key opens a report too,
and no key is hot after it. Every other release rides in the report that is open when it comes; if
none is open yet, it opens one.

`Forecast.extended` goes through the events and puts them into a forecast one by one. The same
reports come of a recursion from the back: `Forecast.cut` returns the events that ride in the report
open before the first event, and the reports that are opened after that. Proofs use this one
(`ofEvents_eq`). Nothing is lost on the way (`cut_flatten`).
-/

namespace KeyBench

/-- The reports that have not been seen completely. -/
structure Forecast where
  reports : List Report
  /-- The number of events in these reports. -/
  outstanding : Nat
  deriving DecidableEq, Repr

namespace Forecast

/-- The number of reports. -/
def size (q : Forecast) : Nat := q.reports.length

/-- Whether everything has been seen. -/
def isEmpty (q : Forecast) : Bool := q.reports.isEmpty

/-- The report that has to be seen now. -/
def front? (q : Forecast) : Option Report := q.reports.head?

/-- Whether the reports of two forecasts are alike one by one. -/
def alike (p q : Forecast) : Bool :=
  Report.allAlike p.reports q.reports && p.outstanding == q.outstanding

/-- The forecast as it is shown. -/
def display (q : Forecast) : String :=
  "[" ++ ", ".intercalate (q.reports.map Report.display) ++ "]"

/-! ## Seeing an event -/

/-- The forecast after an event has been seen, if the event is in the first report. A report of
which all events have been seen is dropped. -/
def take? (q : Forecast) (e : Event) : Option Forecast :=
  match q.reports with
  | [] => none
  | head :: later =>
    match head.take? e with
    | none => none
    | some rest => some ⟨if rest.isEmpty then later else rest :: later, q.outstanding - 1⟩

/-! ## Putting events in -/

/-- The forecast of nothing. -/
def empty : Forecast := ⟨[], 0⟩

/-- The forecast after an event has opened a report at its end. -/
def opened (q : Forecast) (e : Event) : Forecast := ⟨q.reports ++ [⟨[e]⟩], q.outstanding + 1⟩

/-- The forecast after an event has joined the last report. If there is none, the event opens one.
-/
def joined (q : Forecast) (e : Event) : Forecast :=
  match q.reports.getLast? with
  | none => q.opened e
  | some last => ⟨q.reports.dropLast ++ [⟨last.events ++ [e]⟩], q.outstanding + 1⟩

/-- Whether an event opens a report, given the hot key. -/
def opens (hot : Option Key) (e : Event) : Bool := e.isPress || hot == some e.key

/-- The hot key after an event. -/
def hotAfter (hot : Option Key) (e : Event) : Option Key :=
  match e.direction with
  | .press => some e.key
  | .release => if hot = some e.key then none else hot

/-- The forecast after events have been put in, given the hot key before them. -/
def extended (hot : Option Key) (q : Forecast) : List Event → Forecast
  | [] => q
  | e :: es => extended (hotAfter hot e) (if opens hot e then q.opened e else q.joined e) es

/-- What the host has to see of a sequence. -/
def ofEvents (es : List Event) : Forecast := extended none empty es

/-! ## The reports from the back -/

/-- The events that ride in the report open before the first one, and the reports opened after it.
-/
def cut (hot : Option Key) : List Event → List Event × List Report
  | [] => ([], [])
  | e :: es =>
    let (riders, reports) := cut (hotAfter hot e) es
    if opens hot e then ([], ⟨e :: riders⟩ :: reports) else (e :: riders, reports)

/-- The reports in which the firmware sends the events of a sequence. -/
def reportsOf (es : List Event) : List Report :=
  match cut none es with
  | ([], reports) => reports
  | (riders, reports) => ⟨riders⟩ :: reports

theorem joined_concat (reports : List Report) (last : Report) (n : Nat) (e : Event) :
    joined ⟨reports ++ [last], n⟩ e = ⟨reports ++ [⟨last.events ++ [e]⟩], n + 1⟩ := by
  simp [joined]

/-- **Events ride in the last report until one of them opens the next.** -/
theorem reports_extended : ∀ (es : List Event) (hot : Option Key) (reports : List Report)
    (events : List Event) (n : Nat),
    (extended hot ⟨reports ++ [⟨events⟩], n⟩ es).reports =
      reports ++ ⟨events ++ (cut hot es).1⟩ :: (cut hot es).2
  | [], _, _, _, _ => by simp [extended, cut]
  | e :: es, hot, reports, events, n => by
    rw [extended, cut]
    by_cases h : opens hot e
    · rw [if_pos h, opened, reports_extended es]
      simp [h]
    · rw [if_neg h, joined_concat, reports_extended es]
      simp [h]

theorem reports_ofEvents (es : List Event) : (ofEvents es).reports = reportsOf es := by
  cases es with
  | nil => rfl
  | cons e es =>
    -- the first event opens a report, whatever it is
    have hfirst : (if opens none e then empty.opened e else empty.joined e) =
        ⟨[] ++ [⟨[e]⟩], 1⟩ := ite_self _
    rw [ofEvents, extended, hfirst, reports_extended, reportsOf, cut]
    by_cases h : opens none e <;> simp [h]

/-- An event counts one, whether it opens a report or joins one. -/
theorem outstanding_joined (q : Forecast) (e : Event) :
    (q.joined e).outstanding = (q.opened e).outstanding := by
  unfold joined
  split <;> rfl

theorem outstanding_extended : ∀ (es : List Event) (hot : Option Key) (q : Forecast),
    (extended hot q es).outstanding = q.outstanding + es.length
  | [], _, _ => rfl
  | e :: es, hot, q => by
    have hone : (if opens hot e then q.opened e else q.joined e).outstanding =
        q.outstanding + 1 := by
      split
      · rfl
      · exact outstanding_joined q e
    rw [extended, outstanding_extended es, hone, List.length_cons]
    omega

theorem outstanding_ofEvents (es : List Event) : (ofEvents es).outstanding = es.length :=
  (outstanding_extended es none empty).trans (Nat.zero_add _)

/-- **The events of a sequence are put into its reports, and each of them is counted.** -/
theorem ofEvents_eq (es : List Event) : ofEvents es = ⟨reportsOf es, es.length⟩ := by
  rw [← reports_ofEvents, ← outstanding_ofEvents]

theorem cut_flatten (hot : Option Key) (es : List Event) :
    (cut hot es).1 ++ (cut hot es).2.flatMap Report.events = es := by
  induction es generalizing hot with
  | nil => rfl
  | cons e es ih =>
    rw [cut]
    by_cases h : opens hot e <;> simp [h, ih (hotAfter hot e)]

/-- **The reports hold the events of the sequence, in its order.** -/
theorem reportsOf_flatten (es : List Event) : (reportsOf es).flatMap Report.events = es := by
  have h := cut_flatten none es
  unfold reportsOf
  split <;> simp_all

end Forecast

end KeyBench
