import KeyBench.Event

/-!
# Observations

The host's input system tells about key events by the names that it has for keys. What it tells of
one event is a sighting; a sighting with a number is an observation.
-/

namespace KeyBench

/-- What the host tells of a key event. -/
structure Sighting where
  /-- The host's name for the key. -/
  name : String
  direction : Direction
  deriving DecidableEq, Repr

/-- A sighting with its number. -/
structure Observation extends Sighting where
  /-- The number among all sightings that were offered to the queue. It gives the order. -/
  sequence : Nat
  /-- Whether the time of arrival is known, which is all that is kept of it. -/
  timed : Bool
  deriving DecidableEq, Repr

end KeyBench
