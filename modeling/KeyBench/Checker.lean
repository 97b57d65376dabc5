import KeyBench.Forecast
import KeyBench.Key.Lookup
import KeyBench.Observation

/-!
# Checking observations

A checker compares what is observed, one event at a time, with a forecast. The events of a report
may be observed in any order, but all of them have to be observed before any event of the next
report.

An event that does not fit changes nothing: the checker that was there before it is still there,
and can go on.
-/

namespace KeyBench

/-- Why what was observed does not fit a forecast. -/
inductive CheckError where
  /-- The host named a key that is not known. -/
  | key (cause : KeyError)
  /-- An event came after everything had been seen. -/
  | surplus (event : Event) (index : Nat)
  /-- An event is not in the report that has to be seen now. -/
  | misplaced (event : Event) (index : Nat) (current : Report)
  /-- Events were not seen. -/
  | missing (forecast : Forecast)
  deriving DecidableEq, Repr

/-- The error as it is reported. -/
def CheckError.message : CheckError → String
  | .key cause => cause.message
  | .surplus event index =>
    "unexpected " ++ event.display ++ " at observation " ++ toString index ++
      ": nothing left to observe"
  | .misplaced event index current =>
    event.display ++ " at observation " ++ toString index ++ " is not in the current group " ++
      current.display
  | .missing forecast =>
    toString forecast.outstanding ++ " expected events were never observed: " ++ forecast.display

/-- What is still to be observed, and how much has been observed. -/
structure Checker where
  forecast : Forecast
  observed : Nat
  deriving DecidableEq, Repr

namespace Checker

/-- A checker that has seen nothing. -/
def ofForecast (q : Forecast) : Checker := ⟨q, 0⟩

/-- Observes an event. -/
def observeEvent (c : Checker) (e : Event) : Except CheckError Checker :=
  match c.forecast.take? e with
  | some q => .ok ⟨q, c.observed + 1⟩
  | none =>
    match c.forecast.front? with
    | none => .error (.surplus e c.observed)
    | some current => .error (.misplaced e c.observed current)

/-- Observes what the host tells of an event. -/
def observe (c : Checker) (s : Sighting) : Except CheckError Checker :=
  match Key.ofHostName s.name with
  | .error e => .error (.key e)
  | .ok key => c.observeEvent ⟨key, s.direction⟩

/-- Observes what the host tells, up to the first event that does not fit. -/
def observeAll (c : Checker) : List Sighting → Except CheckError Checker
  | [] => .ok c
  | s :: rest =>
    match c.observe s with
    | .error e => .error e
    | .ok c' => c'.observeAll rest

/-- Ends the observation: nothing may be missing. -/
def finish (c : Checker) : Except CheckError Unit :=
  if c.forecast.isEmpty then .ok () else .error (.missing c.forecast)

end Checker

/-- Checks all that the host tells against a forecast. -/
def Forecast.check (q : Forecast) (sightings : List Sighting) : Except CheckError Unit :=
  match (Checker.ofForecast q).observeAll sightings with
  | .error e => .error e
  | .ok c => c.finish

end KeyBench
