import KeyBench.Event
import KeyBench.Key.Lookup

/-!
# Frames

A frame carries events to the key emulator of the device. It is a marker of three bytes, the
number of events in one byte, and two bytes for each event: the slot of the key and the flag of
the direction.

A frame holds at most 255 events, which is what `Frame.ofEvents` checks; `Frame.bytes` then never
fails, and `Frame.decode` reads its result back.
-/

namespace KeyBench

/-- Why events make no frame, or bytes are none. -/
inductive FrameError where
  | oversized (count : Nat)
  | wrongMarker (bytes : List UInt8)
  | tooShort (length : Nat)
  | wrongLength (count payload : Nat)
  | wrongFlag (index : Nat) (flag : UInt8)
  | key (cause : KeyError)
  deriving DecidableEq, Repr

namespace Frame

/-- The bytes that start a frame. -/
def marker : List UInt8 := [0x5B, 0x7D, 0x0F]

/-- The length of what stands before the first event. -/
def headerLength : Nat := marker.length + 1

/-- The greatest number of events in a frame. -/
def capacity : Nat := 255

end Frame

/-- The error as it is reported. -/
def FrameError.message : FrameError → String
  | .oversized count =>
    "too many events for one frame: " ++ toString count ++ " (max " ++ toString Frame.capacity ++
      ")"
  | .wrongMarker bytes => "invalid frame marker: " ++ Text.hexList bytes
  | .tooShort length => "truncated frame: " ++ toString length ++ " bytes"
  | .wrongLength count payload =>
    "frame declares " ++ toString count ++ " events but carries " ++ toString payload ++
      " payload bytes"
  | .wrongFlag index flag =>
    "invalid direction flag " ++ Text.hexCode flag ++ " for event " ++ toString index
  | .key cause => cause.message

/-- Events that fit into one frame. -/
structure Frame where
  events : List Event
  length_le : events.length ≤ Frame.capacity

namespace Frame

/-- The frame of some events, if they fit. -/
def ofEvents (es : List Event) : Except FrameError Frame :=
  if h : es.length ≤ capacity then .ok ⟨es, h⟩ else .error (.oversized es.length)

/-! ## Writing -/

/-- The two bytes of an event. -/
def record (e : Event) : List UInt8 := [e.key.slot, e.direction.flag]

/-- The bytes of a frame. -/
def bytes (f : Frame) : List UInt8 :=
  marker ++ UInt8.ofNat f.events.length :: f.events.flatMap record

/-- The bytes of the frame of some events. -/
def encode (es : List Event) : Except FrameError (List UInt8) := bytes <$> ofEvents es

/-- The frame as it is shown. -/
def display (f : Frame) : String := "Frame(" ++ Text.hexList f.bytes ++ ")"

/-! ## Reading -/

/-- Reads records, the first of which is number `index`. Of a record the direction is looked at
before the slot. -/
def decodeRecords (index : Nat) : List UInt8 → Except FrameError (List Event)
  | slot :: flag :: rest =>
    match Direction.ofFlag? flag with
    | none => .error (.wrongFlag index flag)
    | some direction =>
      match Key.ofSlot slot with
      | .error e => .error (.key e)
      | .ok key => (Event.mk key direction :: ·) <$> decodeRecords (index + 1) rest
  | _ => .ok []

/-- Reads the events of a frame. The header is looked at first, then whether the payload is as
long as it says, then the records in order. -/
def decode (bs : List UInt8) : Except FrameError (List Event) :=
  match bs with
  | m₀ :: m₁ :: m₂ :: count :: payload =>
    if [m₀, m₁, m₂] ≠ marker then .error (.wrongMarker [m₀, m₁, m₂])
    else if payload.length ≠ 2 * count.toNat then
      .error (.wrongLength count.toNat payload.length)
    else decodeRecords 0 payload
  | _ => .error (.tooShort bs.length)

end Frame

end KeyBench
