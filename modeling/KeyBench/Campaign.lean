import KeyBench.Bench

/-!
# Campaigns

A campaign runs the cases of a list of names, name by name, up to the first that fails. The name
of a built-in scenario stands for it; `nkro` stands for the sets of keys for stress cases; every
other name is a set of keys. Each set of keys gives a number of random cases with consecutive
seeds, which start anew with each set.
-/

namespace KeyBench

/-- Why a campaign ended early. -/
inductive CampaignError where
  | badName (name : String) (cause : KeyError)
  | failed (result : Failed)
  deriving DecidableEq, Repr

namespace Campaign

/-- What is run if no name is given. -/
def defaultNames : List String := ["aaa", "abc", "9f", "nkro"]

/-- The sets of keys that a name stands for, if it is not the name of a built-in scenario. -/
def keySets (name : String) : List String :=
  if name = "nkro" then Scenario.stressKeySets else [name]

/-- The random case of a set of keys that a seed gives, and the seed of the case after it. The
greatest seed is followed by zero. -/
def nextCase (text : String) (keys : List Key) (seed : UInt64) : Scenario × UInt64 :=
  (Scenario.random text keys seed, seed + 1)

variable {m : Type → Type} [Monad m]

/-- Runs the cases of sets of keys that come with a name. Returns the number of cases. -/
def runSets (host : Host m) (settings : Settings) (seed : UInt64) (name : String) :
    List String → m (Except CampaignError Nat)
  | [] => pure (.ok 0)
  | text :: texts =>
    match Key.parseSet text with
    | .error e => pure (.error (.badName name e))
    | .ok keys => do
      match ← host.runMany settings (fun next _ => nextCase text keys next) seed 0
          settings.caseCount.toNat with
      | .error f => pure (.error (.failed f))
      | .ok passed =>
        match ← runSets host settings seed name texts with
        | .error e => pure (.error e)
        | .ok n => pure (.ok (passed.length + n))

/-- Runs the cases of a name. Returns the number of cases. -/
def runName (host : Host m) (settings : Settings) (seed : UInt64) (name : String) :
    m (Except CampaignError Nat) :=
  match Scenario.builtin? name with
  | some s => do
    match ← host.run settings s with
    | .error f => pure (.error (.failed f))
    | .ok _ => pure (.ok 1)
  | none => runSets host settings seed name (keySets name)

/-- Runs the cases of names. Returns the number of cases. -/
def run (host : Host m) (settings : Settings) (seed : UInt64) :
    List String → m (Except CampaignError Nat)
  | [] => pure (.ok 0)
  | name :: names => do
    match ← runName host settings seed name with
    | .error e => pure (.error e)
    | .ok k =>
      match ← run host settings seed names with
      | .error e => pure (.error e)
      | .ok n => pure (.ok (k + n))

end Campaign

end KeyBench
