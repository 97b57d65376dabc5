import KeyBench.Campaign
import KeyBench.Command.Options
import KeyBench.Settings.File

/-!
# Sessions

A session is what one call of the program does: it loads the settings, lets the command line
override them, opens the device, and runs a campaign. What it needs of its surroundings is a
`World`.

A session that fails reports its error and, below it, the chain of its causes.
-/

namespace KeyBench.Command

/-- What a session needs of its surroundings. -/
structure World (m : Type → Type) where
  readFile : String → m (Except IoFailure (List UInt8))
  /-- A random seed. -/
  drawSeed : m UInt64
  /-- Opens a device and starts to queue observations, up to some number. -/
  connect : (path : String) → (capacity : Nat) → m (Except IoFailure (Host m))

/-- Why a session failed. -/
inductive SessionError where
  | settings (cause : SettingsError)
  | device (cause : IoFailure)
  | tables (cause : KeyError)
  | campaign (cause : CampaignError)

/-! ## Reports of errors -/

/-- The texts of an error and of its causes, the nearest first. -/
def SessionError.chain : SessionError → String × List String
  | .settings (.unreadable path cause) =>
    ((SettingsError.unreadable path cause).message, [cause.message])
  | .settings (.json cause) => (cause.message, [])
  | .device cause => ("failed to open port", [(HostError.io cause).message, cause.message])
  | .tables cause => (cause.message, [])
  | .campaign (.badName name cause) => ("invalid scenario " ++ Text.quote name, [cause.message])
  | .campaign (.failed f) =>
    (f.display, f.cause.message ::
      match f.cause with
      | .host (.io cause) => [cause.message]
      | _ => [])

/-- A text whose first line follows `first` and whose other lines are indented by `indent` blanks.
-/
def indented (first : String) (indent : Nat) (text : String) : String :=
  let lines := Text.pieces (· == '\n') text.toList
  first ++ String.ofList (('\n' :: List.replicate indent ' ').intercalate lines)

/-- Causes, one below the other; with their numbers if there are several. -/
def causesReport : List String → String
  | [] => ""
  | [cause] => "\n\nCaused by:\n" ++ indented "    " 4 cause
  | causes =>
    "\n\nCaused by:" ++ String.join (causes.zipIdx.map fun (cause, i) =>
      let number := toString i
      let first := String.ofList (List.replicate (5 - number.length) ' ') ++ number ++ ": "
      "\n" ++ indented first 7 cause)

/-- The error with its causes, as it is written at the end of a session. -/
def SessionError.report (e : SessionError) : String :=
  let (text, causes) := e.chain
  "Error: " ++ text ++ causesReport causes ++ "\n"

/-! ## Running -/

/-- The settings with what the command line says. -/
def Options.override (o : Options) (s : Settings) : Settings :=
  { s with
    device := o.device?.getD s.device
    seed? := o.seed? <|> s.seed?
    caseCount := o.caseCount?.getD s.caseCount }

/-- The names to be run. -/
def Options.namesOrDefault (o : Options) : List String :=
  if o.names.isEmpty then Campaign.defaultNames else o.names

variable {m : Type → Type} [Monad m]

/-- The settings of a session before the command line overrides them. -/
def loadSettings (world : World m) (o : Options) : m (Except SettingsError Settings) :=
  match o.config? with
  | none => pure (.ok Settings.default)
  | some path => do return Settings.load path (← world.readFile path)

/-- Runs a session. Returns the number of cases, all of which have passed. -/
def runSession (world : World m) (o : Options) : m (Except SessionError Nat) := do
  match ← loadSettings world o with
  | .error e => return .error (.settings e)
  | .ok loaded =>
    let settings := o.override loaded
    let seed ← match settings.seed? with
      | some seed => pure seed
      | none => world.drawSeed
    match ← world.connect settings.device settings.queueCapacity.toNat with
    | .error e => return .error (.device e)
    | .ok host =>
      match Key.auditTables with
      | .error e => return .error (.tables e)
      | .ok () =>
        match ← Campaign.run host settings seed o.namesOrDefault with
        | .error e => return .error (.campaign e)
        | .ok n => return .ok n

/-- What a session leaves behind: what it writes, where to, and its exit status. -/
structure Outcome where
  output : String
  errors : String
  status : Nat
  deriving DecidableEq, Repr

/-- The outcome of a session. -/
def Outcome.of : Except SessionError Nat → Outcome
  | .ok n => ⟨toString n ++ " cases passed\n", "", 0⟩
  | .error e => ⟨"", e.report, 1⟩

end KeyBench.Command
