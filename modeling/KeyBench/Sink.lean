import KeyBench.HostError

/-!
# Writing to a sink

A sink of bytes may take less than it is offered, may be interrupted, and may fail. A write offers
the rest again after each partial acceptance and after each interruption, and flushes the sink
once it has taken everything. So of each buffer the sink has taken all, or a part from its start
and the write failed.
-/

namespace KeyBench

/-- What a sink answers when bytes are offered to it. -/
inductive Sink.Reply where
  /-- It takes that many bytes, or all if there are fewer. -/
  | accepts (count : Nat)
  | interrupted
  | fails (cause : IoFailure)
  deriving DecidableEq, Repr

/-- What a sink takes of the bytes that it is offered. -/
def Sink.Reply.taken : Sink.Reply → List UInt8 → List UInt8
  | .accepts count, bytes => bytes.take count
  | .interrupted, _ => []
  | .fails _, _ => []

/-- A sink that answers as it is told. -/
structure Sink where
  replies : List Sink.Reply
  /-- For each flush to come, why it fails, if it does; the flushes after these succeed. -/
  flushes : List (Option IoFailure)
  /-- The bytes taken so far. -/
  data : List UInt8
  writeCalls : Nat
  flushCalls : Nat
  deriving DecidableEq, Repr

namespace Sink

/-- A sink that has taken nothing. -/
def ofReplies (replies : List Reply) (flushes : List (Option IoFailure)) : Sink :=
  ⟨replies, flushes, [], 0, 0⟩

/-! ## What a sink does -/

/-- Offers bytes once. A sink whose replies are used up takes everything. -/
def offer (s : Sink) (bytes : List UInt8) : Reply × Sink :=
  let reply := s.replies.headD (.accepts bytes.length)
  (reply, { s with
    replies := s.replies.tail
    data := s.data ++ reply.taken bytes
    writeCalls := s.writeCalls + 1 })

/-- Flushes the sink. -/
def flush (s : Sink) : Except IoFailure Unit × Sink :=
  let flushed := { s with flushes := s.flushes.tail, flushCalls := s.flushCalls + 1 }
  match s.flushes with
  | some cause :: _ => (.error cause, flushed)
  | _ => (.ok (), flushed)

/-- A sink that is interrupted has been told so. -/
theorem length_replies_of_interrupted {s s' : Sink} {bytes : List UInt8}
    (h : s.offer bytes = (.interrupted, s')) : s'.replies.length < s.replies.length := by
  obtain ⟨hreply, rfl⟩ := Prod.mk.inj h
  show s.replies.tail.length < s.replies.length
  cases hreplies : s.replies with
  | nil =>
    rw [hreplies] at hreply
    cases hreply
  | cons reply replies => simp

theorem length_replies_offer_le {s s' : Sink} {bytes : List UInt8} {reply : Reply}
    (h : s.offer bytes = (reply, s')) : s'.replies.length ≤ s.replies.length := by
  obtain ⟨_, rfl⟩ := Prod.mk.inj h
  show s.replies.tail.length ≤ s.replies.length
  rw [List.length_tail]
  exact Nat.sub_le _ _

/-! ## Writing -/

/-- Offers a buffer until the sink has taken it or fails. Nothing is offered of an empty buffer. -/
def offerAll (s : Sink) (buffer : List UInt8) : Except IoFailure Unit × Sink :=
  if buffer = [] then (.ok (), s)
  else match h : s.offer buffer with
    | (.accepts 0, s') => (.error .nothingWritten, s')
    | (.accepts (count + 1), s') => s'.offerAll (buffer.drop (count + 1))
    | (.interrupted, s') => s'.offerAll buffer
    | (.fails cause, s') => (.error cause, s')
termination_by s.replies.length + buffer.length
decreasing_by
  · have hreplies := length_replies_offer_le h
    have hpos := List.length_pos_iff.mpr ‹¬buffer = []›
    rw [List.length_drop]
    omega
  · have hreplies := length_replies_of_interrupted h
    omega

/-- Writes a buffer. -/
def write (s : Sink) (buffer : List UInt8) : Except HostError Unit × Sink :=
  match s.offerAll buffer with
  | (.error cause, s') => (.error (.io cause), s')
  | (.ok (), s') =>
    let (answer, s'') := s'.flush
    (answer.mapError .io, s'')

end Sink

end KeyBench
