import KeyBench.Bag
import KeyBench.Event

/-!
# Reports

The firmware sends key events to the host in reports. The events of one report have no order of
their own: the host may see them in any order, so a report is a bag of events.
-/

namespace KeyBench

/-- The events that arrive together. -/
structure Report where
  events : List Event
  deriving DecidableEq, Repr

namespace Report

/-- The number of events. -/
def size (r : Report) : Nat := r.events.length

/-- Whether no event is left. -/
def isEmpty (r : Report) : Bool := r.events.isEmpty

/-- Whether an event is in the report. -/
def contains (r : Report) (e : Event) : Bool := r.events.contains e

/-- The events in rising order, which no longer shows how the report is kept. -/
def sorted (r : Report) : List Event := Event.sort r.events

/-- Whether two reports hold the same events equally often. -/
def alike (r s : Report) : Bool := r.sorted == s.sorted

/-- Whether the reports of two lists are alike one by one. -/
def allAlike : List Report → List Report → Bool
  | [], [] => true
  | r :: rs, s :: ss => r.alike s && allAlike rs ss
  | _, _ => false

/-- The report without one occurrence of an event, if it holds one. -/
def take? (r : Report) (e : Event) : Option Report := (Bag.remove? r.events e).map Report.mk

/-- The report as it is shown. -/
def display (r : Report) : String := Event.displayList r.events

end Report

end KeyBench
