import KeyBench.Case
import KeyBench.ObservationQueue
import KeyBench.Settings

/-!
# The bench

The bench runs cases. What it needs of the host is a `Host`: a way to the device, a clock to wait
on, and the observations. So a run can be done by a real host as well as by a `Bench`, which holds
all that a run can change and whose `Wire` to the device is any function on that.

## One case

A case that cannot be planned leaves everything as it was. Otherwise the old observations are
discarded, the frames are sent with a pause between them, and after a last pause the observations
are checked. The first failure ends the case.
-/

namespace KeyBench

/-- What the bench needs of the host. -/
structure Host (m : Type → Type) where
  /-- Drops the observations that wait. -/
  discard : m Unit
  /-- Sends bytes to the device. -/
  write : List UInt8 → m (Except HostError Unit)
  /-- Waits for some milliseconds. -/
  wait : Nat → m Unit
  /-- Takes the observations that wait. -/
  collect : m (List Observation)

namespace Host

variable {m : Type → Type} [Monad m]

/-- Waits unless there is nothing to wait for. -/
def pause (host : Host m) (ms : UInt64) : m Unit :=
  if ms = 0 then pure () else host.wait ms.toNat

/-- Sends frames, with a pause before each but the first, up to the first that fails. -/
def send (host : Host m) (hold : UInt64) : List Frame → m (Except HostError Unit)
  | [] => pure (.ok ())
  | [frame] => host.write frame.bytes
  | frame :: next :: frames => do
    match ← host.write frame.bytes with
    | .error e => pure (.error e)
    | .ok () =>
      host.pause hold
      host.send hold (next :: frames)

/-- Carries out a plan. -/
def carryOut (host : Host m) (settings : Settings) (plan : Plan) : m (Except RunError Unit) := do
  host.discard
  match ← host.send settings.holdMs plan.frames with
  | .error e => pure (.error (.host e))
  | .ok () =>
    host.pause settings.settleMs
    let observations ← host.collect
    match plan.forecast.check (observations.map Observation.toSighting) with
    | .error e => pure (.error (.check e))
    | .ok () => pure (.ok ())

/-- Runs a case. -/
def run (host : Host m) (settings : Settings) (s : Scenario) : m (Except Failed Passed) :=
  match s.plan with
  | .error e => pure (.error ⟨s.name, s.seed?, s.events, e⟩)
  | .ok plan => do
    match ← host.carryOut settings plan with
    | .error e => pure (.error ⟨s.name, s.seed?, s.events, e⟩)
    | .ok () =>
      pure (.ok ⟨s.name, s.seed?, s.events.length, plan.forecast.size, plan.frames.length⟩)

/-- Runs `count` cases, the first of which is number `first`, up to the first that fails. A case
comes from what the case before it has left, and from its number. -/
def runMany {γ : Type} (host : Host m) (settings : Settings) (next : γ → Nat → Scenario × γ)
    (source : γ) (first : Nat) : (count : Nat) → m (Except Failed (List Passed))
  | 0 => pure (.ok [])
  | count + 1 => do
    let (s, source') := next source first
    match ← host.run settings s with
    | .error f => pure (.error f)
    | .ok p =>
      match ← host.runMany settings next source' (first + 1) count with
      | .error f => pure (.error f)
      | .ok ps => pure (.ok (p :: ps))

end Host

/-! ## A bench as a value -/

/-- The way to a device: what writing bytes does to the device and to the queue of observations, and
whether it succeeds. -/
structure Wire (σ : Type) where
  write : σ → ObservationQueue → List UInt8 → Except HostError Unit × σ × ObservationQueue

/-- All that a run can change. -/
structure Bench (σ : Type) where
  device : σ
  queue : ObservationQueue
  /-- The bytes handed to the wire so far, one entry for each write. -/
  written : List (List UInt8)
  /-- The milliseconds waited so far. -/
  clock : Nat

namespace Bench

variable {σ : Type}

/-- A bench on which nothing has happened. -/
def ofDevice (device : σ) (queue : ObservationQueue) : Bench σ := ⟨device, queue, [], 0⟩

/-- The host of a bench. -/
def host (wire : Wire σ) : Host (StateM (Bench σ)) where
  discard := fun b => ((), { b with queue := b.queue.discardAll.2 })
  write := fun bytes b =>
    let (result, device, queue) := wire.write b.device b.queue bytes
    (result, { b with device, queue, written := b.written ++ [bytes] })
  wait := fun ms b => ((), { b with clock := b.clock + ms })
  collect := fun b => (b.queue.takeAll.1, { b with queue := b.queue.takeAll.2 })

/-- Runs a case on a bench. -/
def run (wire : Wire σ) (settings : Settings) (s : Scenario) (b : Bench σ) :
    Except Failed Passed × Bench σ :=
  (host wire).run settings s b

/-- Runs `count` cases on a bench, which are known from their numbers. -/
def runMany (wire : Wire σ) (settings : Settings) (scenarioAt : Nat → Scenario) (count : Nat)
    (b : Bench σ) : Except Failed (List Passed) × Bench σ :=
  (host wire).runMany settings (fun _ i => (scenarioAt i, ())) () 0 count b

end Bench

end KeyBench
