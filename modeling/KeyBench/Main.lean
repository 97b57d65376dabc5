import KeyBench.Files
import KeyBench.ObservationQueue.Lines
import KeyBench.Command.Session

/-!
# The program

The world of a session as the operating system gives it: files and the device are those of the
system, and observations are the lines of standard input, which a task of its own reads. That task
ends with the input, or with the first observation that comes after the session.
-/

namespace KeyBench.Command

/-- A failure of the system. -/
def failureOf : IO.Error → IoFailure
  | .noFileOrDirectory _ _ _ => .notFound
  | e => .other (toString e)

/-- The result of an action, or why it failed. -/
def attempt {α : Type} (action : IO α) : IO (Except IoFailure α) := do
  match ← action.toBaseIO with
  | .ok a => return .ok a
  | .error e => return .error (failureOf e)

/-- The result of an action on a path, or why it failed. -/
def attemptAt {α : Type} (path : String) (action : IO α) : IO (Except IoFailure α) :=
  if Files.isPath path then attempt action else return .error .endInPath

/-- Hears a line, and waits while the queue has no room for what it tells. -/
partial def hearPatiently (queue : IO.Ref ObservationQueue) (line : List Char) :
    IO (Except HostError Unit) := do
  let result? ← queue.modifyGet fun q =>
    match q.hear? line with
    | some (result, q') => (some result, q')
    | none => (none, q)
  match result? with
  | some result => return result
  | none =>
    IO.sleep 1
    hearPatiently queue line

/-- Hears lines until the input ends or the queue is closed. -/
partial def listen (input : IO.FS.Stream) (queue : IO.Ref ObservationQueue) : IO Unit := do
  let line ← input.getLine
  if line.isEmpty then return
  match ← hearPatiently queue line.toList with
  | .error _ => return
  | .ok () => listen input queue

/-- Waits, in steps that the clock of the system can take. -/
def sleepFor (ms : Nat) : IO Unit := do
  let step := 1000000000
  for _ in [0:ms / step] do
    IO.sleep (UInt32.ofNat step)
  IO.sleep (UInt32.ofNat (ms % step))

/-- The host with an open device and a queue that is being filled. -/
def systemHost (device : IO.FS.Handle) (queue : IO.Ref ObservationQueue) : Host IO where
  discard := queue.modify fun q => q.discardAll.2
  write bytes := do
    match ← attempt (do device.write ⟨bytes.toArray⟩; device.flush) with
    | .ok () => return .ok ()
    | .error e => return .error (.io e)
  wait := sleepFor
  collect := queue.modifyGet ObservationQueue.takeAll

/-- The world of the operating system, with the queue that observations go to. -/
def systemWorld (queue : IO.Ref ObservationQueue) : World IO where
  readFile path := do
    match ← attemptAt path (IO.FS.readBinFile path) with
    | .ok bytes => return .ok bytes.toList
    | .error e => return .error e
  drawSeed := do
    let bytes ← IO.getRandomBytes 8
    return bytes.foldl (fun seed b => seed * 256 + b.toUInt64) 0
  connect path capacity := do
    match ← attemptAt path (IO.FS.Handle.mk path .readWrite) with
    | .error e => return .error e
    | .ok device =>
      queue.set (ObservationQueue.ofCapacity capacity)
      let _ ← IO.asTask (listen (← IO.getStdin) queue) .dedicated
      return .ok (systemHost device queue)

/-- What is written if the command line cannot be read. -/
def usage : String :=
  "usage: keybench [-c FILE] [-p DEVICE] [-s SEED] [-r COUNT] [SCENARIO]...\n"

/-- Runs a session and returns its exit status. -/
def program (arguments : List String) : IO UInt32 := do
  match Options.parse arguments with
  | none =>
    (← IO.getStderr).putStr usage
    return 2
  | some options =>
    let queue ← IO.mkRef (ObservationQueue.ofCapacity 0)
    let outcome := Outcome.of (← runSession (systemWorld queue) options)
    queue.modify fun q => q.closeReceiver.2
    (← IO.getStdout).putStr outcome.output
    (← IO.getStdout).flush
    (← IO.getStderr).putStr outcome.errors
    return UInt32.ofNat outcome.status

end KeyBench.Command

/-- The program. -/
def main (arguments : List String) : IO UInt32 := KeyBench.Command.program arguments
