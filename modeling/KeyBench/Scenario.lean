import KeyBench.Event.Notation
import KeyBench.Interleaving

/-!
# Scenarios

A scenario is a name and batches of events. The bench sends each batch as one frame.
-/

namespace KeyBench

/-- Batches of events to be sent. -/
structure Scenario where
  name : String
  /-- The seed that the events come from, if they are random. -/
  seed? : Option UInt64
  batches : List (List Event)
  deriving DecidableEq, Repr

namespace Scenario

/-- A scenario of given batches. -/
def ofBatches (name : String) (batches : List (List Event)) : Scenario := ⟨name, none, batches⟩

/-- Reads batches in the notation for sequences. -/
def parseBatches : List String → Except NotationError (List (List Event))
  | [] => .ok []
  | text :: texts =>
    match Event.parseSequence text with
    | .error e => .error e
    | .ok batch => (batch :: ·) <$> parseBatches texts

/-- A scenario whose batches are written in the notation for sequences. -/
def parse (name : String) (texts : List String) : Except NotationError Scenario :=
  ofBatches name <$> parseBatches texts

/-- The interleaving of some keys that a seed gives, as one batch. -/
def random (name : String) (keys : List Key) (seed : UInt64) : Scenario :=
  ⟨name, some seed, [Interleaving.ofSeed keys seed]⟩

/-- All events, in the order in which they are sent. -/
def events (s : Scenario) : List Event := s.batches.flatten

/-! ## Built-in scenarios -/

/-- Three taps of one key. -/
def threeTaps : Scenario :=
  ofBatches "aaa"
    [(List.replicate 3 [Event.press .letterA, Event.release .letterA]).flatten]

/-- Three keys that overlap. -/
def threeOverlapping : Scenario :=
  ofBatches "abc" [[
    .press .letterA, .press .letterB, .release .letterA, .press .letterC, .release .letterC,
    .release .letterB]]

/-- Two keys that overlap and are released in the order in which they were pressed. The first
release is reported together with the second press, so it must be seen before the second release.
-/
def twoOverlapping : Scenario :=
  ofBatches "9f" [[.press .digit9, .press .letterF, .release .digit9, .release .letterF]]

/-- The built-in scenario of a name. -/
def builtin? (name : String) : Option Scenario :=
  [threeTaps, threeOverlapping, twoOverlapping].find? fun s => s.name == name

/-- The sets of keys for stress cases. A key that comes more than once is pressed as often. -/
def stressKeySets : List String :=
  ["1234567890", "aaaaaaaaaa,bbbbbbbbbb,1111111111", "abcdefghij,klmnopqrst,uvwxyz;'[]"]

end Scenario

end KeyBench
