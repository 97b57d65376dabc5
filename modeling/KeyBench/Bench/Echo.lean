import KeyBench.Bench

/-!
# A device that answers at once

An echo stands for the device and the host's input system together: of every frame that is written
it offers sightings to the queue at once. It offers those of a script, or those of the events in
the frame after they have been disturbed in some way.
-/

namespace KeyBench

/-- How an echo disturbs the events of a frame. -/
inductive Disturbance where
  | inOrder
  /-- The events of each report come in reverse order. -/
  | reverseReports
  /-- The first two events change places. -/
  | swapFirst
  /-- The last event is lost. -/
  | dropLast
  /-- The last event comes twice. -/
  | repeatLast
  deriving DecidableEq, Repr

/-- The events as they arrive. -/
def Disturbance.apply (d : Disturbance) (es : List Event) : List Event :=
  match d with
  | .inOrder => es
  | .reverseReports => (Forecast.ofEvents es).reports.flatMap fun r => r.events.reverse
  | .swapFirst =>
    match es with
    | e :: f :: rest => f :: e :: rest
    | _ => es
  | .dropLast => es.dropLast
  | .repeatLast =>
    match es.getLast? with
    | some e => es ++ [e]
    | none => es

/-- A device that answers at once. -/
structure Echo where
  disturbance : Disturbance
  /-- Whether names are told in capital letters. -/
  capitals : Bool
  /-- What is offered for each frame; nothing for the frames after these. -/
  script? : Option (List (List Sighting))
  /-- The number of the frame that is not accepted. -/
  failsAt? : Option Nat
  /-- The number of frames written so far. -/
  count : Nat
  deriving DecidableEq, Repr

namespace Echo

/-- An echo that passes every event on. -/
def faithful : Echo := ⟨.inOrder, false, none, none, 0⟩

/-- What is told of an event. -/
def sighting (d : Echo) (e : Event) : Sighting :=
  let name := e.key.hostName
  ⟨if d.capitals then String.ofList (name.toList.map Char.toUpper) else name, e.direction⟩

/-- What is told of a frame. -/
def sightings (d : Echo) (bytes : List UInt8) : List Sighting :=
  match d.script? with
  | some script => script.getD d.count []
  | none =>
    match Frame.decode bytes with
    | .ok es => (d.disturbance.apply es).map d.sighting
    | .error _ => []

/-- Offers sightings to a queue up to the first that it does not take. -/
def offerAll (q : ObservationQueue) : List Sighting → Except HostError Unit × ObservationQueue
  | [] => (.ok (), q)
  | s :: rest =>
    match q.offer s with
    | (.error e, q') => (.error e, q')
    | (.ok (), q') => offerAll q' rest

/-- The wire to an echo. -/
def wire : Wire Echo where
  write d q bytes :=
    let d' := { d with count := d.count + 1 }
    if d.failsAt? = some d.count then (.error (.io (.other "device gone")), d', q)
    else
      let (result, q') := offerAll q (d.sightings bytes)
      (result, d', q')

end Echo

end KeyBench
