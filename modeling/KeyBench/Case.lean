import KeyBench.Checker
import KeyBench.Event.Sequence
import KeyBench.Frame
import KeyBench.HostError
import KeyBench.Scenario

/-!
# Cases

A case is a scenario that is run. Before anything is sent, its events must be playable and each
batch must fit into a frame; what comes of that is the plan of the case. At the end the case has
passed, or failed for one cause.
-/

namespace KeyBench

/-- Why a case failed. -/
inductive RunError where
  | sequence (cause : PlayError)
  | frame (cause : FrameError)
  | host (cause : HostError)
  | check (cause : CheckError)
  deriving DecidableEq, Repr

/-- The error as it is reported. -/
def RunError.message : RunError → String
  | .sequence cause => cause.message
  | .frame cause => cause.message
  | .host cause => cause.message
  | .check cause => cause.message

/-! ## Plans -/

/-- The frames of some batches. -/
def Frame.ofBatches : List (List Event) → Except FrameError (List Frame)
  | [] => .ok []
  | batch :: batches =>
    match Frame.ofEvents batch with
    | .error e => .error e
    | .ok frame =>
      match Frame.ofBatches batches with
      | .error e => .error e
      | .ok frames => .ok (frame :: frames)

/-- What is to be sent, and what is to be observed then. -/
structure Plan where
  frames : List Frame
  forecast : Forecast

/-- The plan of a scenario. The events are checked as one sequence. -/
def Scenario.plan (s : Scenario) : Except RunError Plan :=
  match Event.checkSequence s.events with
  | .error e => .error (.sequence e)
  | .ok () =>
    match Frame.ofBatches s.batches with
    | .error e => .error (.frame e)
    | .ok frames => .ok ⟨frames, Forecast.ofEvents s.events⟩

/-! ## Results -/

/-- The seed as it follows a name, if there is one. -/
def seedSuffix : Option UInt64 → String
  | none => ""
  | some seed => " (seed " ++ toString seed.toNat ++ ")"

/-- A case that has passed. -/
structure Passed where
  name : String
  seed? : Option UInt64
  /-- The number of events sent and observed. -/
  events : Nat
  /-- The number of reports expected. -/
  reports : Nat
  /-- The number of frames sent. -/
  frames : Nat
  deriving DecidableEq, Repr

/-- The result as it is shown. -/
def Passed.display (p : Passed) : String :=
  p.name ++ ": " ++ toString p.events ++ " events in " ++ toString p.reports ++ " groups" ++
    seedSuffix p.seed?

/-- A case that has failed, and what is needed to run it again. -/
structure Failed where
  name : String
  seed? : Option UInt64
  /-- The events that were sent, or would have been. -/
  sent : List Event
  cause : RunError
  deriving DecidableEq, Repr

/-- The result as it is shown. -/
def Failed.display (f : Failed) : String :=
  f.name ++ " failed" ++ seedSuffix f.seed? ++ ": " ++ f.cause.message

end KeyBench
