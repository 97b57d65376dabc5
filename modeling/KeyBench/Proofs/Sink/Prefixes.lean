import Mathlib.Data.List.Forall2
import KeyBench.Sink

/-!
# Writes are all or a prefix

A write makes calls of the sink: it offers what is left of the buffer until nothing is, and then it
flushes. Each offer that is answered well takes a part from the start of what is left
(`exists_offers`). So a write takes the whole buffer and flushes once, or it takes a part from the
start, does not flush, and fails (`AllOrPrefix`). Nothing else happens to the sink between two
writes, so what it takes of several buffers comes in their order (`writeEach_all_or_prefix`).
-/

namespace KeyBench.Sink

variable {s s' t : Sink} {reply : Reply} {bytes rest buffer : List UInt8} {cause : IoFailure}

/-! ## Calls -/

/-- Why a write fails after a reply, if it does. -/
def Reply.failure? : Reply → Option IoFailure
  | .accepts 0 => some .nothingWritten
  | .accepts (_ + 1) => none
  | .interrupted => none
  | .fails cause => some cause

/-- What a sink is asked to do, with its answer. -/
inductive Call where
  | offer (bytes : List UInt8) (reply : Reply)
  | flush (answer : Except IoFailure Unit)

namespace Call

/-- What the sink takes. -/
def taken : Call → List UInt8
  | .offer bytes reply => reply.taken bytes
  | .flush _ => []

/-- Whether bytes are offered, and answered such that the write goes on. -/
inductive GoesOn : Call → Prop
  | offer {bytes : List UInt8} {reply : Reply} : reply.failure? = none → GoesOn (.offer bytes reply)

end Call

/-- Calls of a sink, one after the other, each answered as the sink answers it. -/
inductive Calls : Sink → List Call → Sink → Prop
  | nil {s : Sink} : Calls s [] s
  | offer {s t : Sink} {bytes : List UInt8} {calls : List Call} :
      Calls (s.offer bytes).2 calls t → Calls s (.offer bytes (s.offer bytes).1 :: calls) t
  | flush {s t : Sink} {calls : List Call} :
      Calls s.flush.2 calls t → Calls s (.flush s.flush.1 :: calls) t

variable {calls calls' offers : List Call}

theorem Calls.append (h : Calls s calls s') (h' : Calls s' calls' t) :
    Calls s (calls ++ calls') t := by
  induction h with
  | nil => exact h'
  | offer _ ih => exact .offer (ih h')
  | flush _ ih => exact .flush (ih h')

theorem data_flush (s : Sink) : s.flush.2.data = s.data := by
  unfold flush
  split <;> rfl

/-- **A sink gets its bytes from calls**, in their order. -/
theorem Calls.data_eq (h : Calls s calls t) : t.data = s.data ++ calls.flatMap Call.taken := by
  induction h with
  | nil => exact (List.append_nil _).symm
  | @offer s t bytes calls _ ih =>
    rw [ih, List.flatMap_cons, ← List.append_assoc]
    rfl
  | flush _ ih =>
    rw [ih, List.flatMap_cons, data_flush]
    rfl

/-! ## Offering a buffer -/

/-- What can come of offering a buffer until it is taken: the calls that are made and the result. -/
inductive Offered (s : Sink) : List UInt8 → Except IoFailure Unit × Sink → Prop
  | whole {t : Sink} {buffer : List UInt8} {offers : List Call} :
      (∀ c ∈ offers, c.GoesOn) → offers.flatMap Call.taken = buffer → Calls s offers t →
      Offered s buffer (.ok (), t)
  | part {t : Sink} {buffer rest : List UInt8} {offers : List Call} {reply : Reply}
      {cause : IoFailure} :
      (∀ c ∈ offers, c.GoesOn) → offers.flatMap Call.taken ++ rest = buffer → rest ≠ [] →
      reply.failure? = some cause → Calls s (offers ++ [.offer rest reply]) t →
      Offered s buffer (.error cause, t)

/-- One more offer, after which the write goes on with what is left. -/
theorem Offered.offer {o : Except IoFailure Unit × Sink} (hoffer : s.offer buffer = (reply, s'))
    (hreply : reply.failure? = none) (hbuffer : reply.taken buffer ++ rest = buffer)
    (h : Offered s' rest o) : Offered s buffer o := by
  have hcall {calls : List Call} {t : Sink} (hcalls : Calls s' calls t) :
      Calls s (.offer buffer reply :: calls) t := by
    have hcalls' : Calls (s.offer buffer).2 calls t := by rwa [hoffer]
    have hall := Calls.offer hcalls'
    rwa [hoffer] at hall
  have hgoes {offers : List Call} (hoffers : ∀ c ∈ offers, c.GoesOn) :
      ∀ c ∈ Call.offer buffer reply :: offers, c.GoesOn :=
    List.forall_mem_cons.mpr ⟨.offer hreply, hoffers⟩
  cases h with
  | whole hoffers htaken hcalls =>
    refine .whole (hgoes hoffers) ?_ (hcall hcalls)
    rw [List.flatMap_cons, htaken]
    exact hbuffer
  | part hoffers htaken hrest hfailure hcalls =>
    refine .part (hgoes hoffers) ?_ hrest hfailure (hcall hcalls)
    rw [List.flatMap_cons, List.append_assoc, htaken]
    exact hbuffer

/-- An offer after which the write fails. -/
theorem Offered.fail (hoffer : s.offer buffer = (reply, s')) (hbuffer : buffer ≠ [])
    (hreply : reply.failure? = some cause) : Offered s buffer (.error cause, s') := by
  have hcall : Calls s [.offer buffer (s.offer buffer).1] (s.offer buffer).2 := .offer .nil
  rw [hoffer] at hcall
  exact .part (List.forall_mem_nil _) rfl hbuffer hreply hcall

/-- **A buffer is taken from its start**, and as a whole unless the write fails. -/
theorem offered_offerAll (s : Sink) (buffer : List UInt8) :
    Offered s buffer (s.offerAll buffer) := by
  fun_induction offerAll s buffer with
  | case1 s => exact .whole (List.forall_mem_nil _) rfl .nil
  | case2 s buffer hbuffer s' hoffer => exact .fail hoffer hbuffer rfl
  | case3 s buffer _ count s' hoffer ih =>
    exact .offer hoffer rfl (List.take_append_drop (count + 1) buffer) ih
  | case4 s buffer _ s' hoffer ih => exact .offer hoffer rfl (List.nil_append buffer) ih
  | case5 s buffer hbuffer cause s' hoffer => exact .fail hoffer hbuffer rfl

/-! ## Writing -/

/-- A write: what the sink takes, the calls that are made, and the result. -/
structure Write where
  taken : List UInt8
  calls : List Call
  result : Except HostError Unit

/-- Whether a write of a buffer is all or a prefix. -/
inductive AllOrPrefix : List UInt8 → Write → Prop
  /-- The sink takes the whole buffer. Then it is flushed once, which decides the result. -/
  | whole {buffer : List UInt8} {offers : List Call} {answer : Except IoFailure Unit} :
      (∀ c ∈ offers, c.GoesOn) → offers.flatMap Call.taken = buffer →
      AllOrPrefix buffer ⟨buffer, offers ++ [.flush answer], answer.mapError .io⟩
  /-- The sink takes a proper prefix and fails when it is offered the rest. It is not flushed. -/
  | part {taken rest : List UInt8} {offers : List Call} {reply : Reply} {cause : IoFailure} :
      (∀ c ∈ offers, c.GoesOn) → offers.flatMap Call.taken = taken → rest ≠ [] →
      reply.failure? = some cause →
      AllOrPrefix (taken ++ rest) ⟨taken, offers ++ [.offer rest reply], .error (.io cause)⟩

/-- Nothing is taken of an offer after which the write fails. -/
theorem Reply.taken_of_failure? (h : reply.failure? = some cause) (bytes : List UInt8) :
    reply.taken bytes = [] := by
  cases reply with
  | accepts count =>
    cases count with
    | zero => rfl
    | succ count => cases h
  | interrupted => rfl
  | fails cause => rfl

/-- What is taken is what the calls take. -/
theorem AllOrPrefix.flatMap_calls {w : Write} (h : AllOrPrefix buffer w) :
    w.calls.flatMap Call.taken = w.taken := by
  cases h with
  | whole _ htaken =>
    rw [List.flatMap_append, htaken]
    exact List.append_nil _
  | @part _ rest _ reply _ _ htaken _ hreply =>
    rw [List.flatMap_append, htaken, List.flatMap_singleton]
    show _ ++ reply.taken rest = _
    rw [Reply.taken_of_failure? hreply, List.append_nil]

/-- **A write is all or a prefix.** -/
theorem exists_allOrPrefix (s : Sink) (buffer : List UInt8) : ∃ w : Write, AllOrPrefix buffer w ∧
    (s.write buffer).1 = w.result ∧ Calls s w.calls (s.write buffer).2 := by
  have hoffered := offered_offerAll s buffer
  unfold write
  generalize s.offerAll buffer = o at hoffered ⊢
  cases hoffered with
  | @whole t _ offers hoffers htaken hcalls =>
    have hw : AllOrPrefix buffer
        ⟨buffer, offers ++ [.flush t.flush.1], t.flush.1.mapError .io⟩ := .whole hoffers htaken
    exact ⟨_, hw, rfl, hcalls.append (.flush .nil)⟩
  | part hoffers htaken hrest hreply hcalls =>
    rw [← htaken]
    exact ⟨_, .part hoffers rfl hrest hreply, rfl, hcalls⟩

/-- Writes buffers one after the other, whatever comes of each. Returns all results. -/
def writeEach (s : Sink) : List (List UInt8) → List (Except HostError Unit) × Sink
  | [] => ([], s)
  | buffer :: buffers =>
    let (result, s') := s.write buffer
    let (results, s'') := s'.writeEach buffers
    (result :: results, s'')

/-- **Of each buffer the sink takes all, or a proper prefix and the write fails.** This holds
whatever the sink answers, and whatever has come of the writes before. The sink is flushed once
after each buffer that it has taken, and not otherwise. It takes nothing else: what it has taken is
one prefix of each buffer after the other. -/
theorem writeEach_all_or_prefix (s : Sink) (buffers : List (List UInt8)) :
    ∃ writes : List Write, List.Forall₂ AllOrPrefix buffers writes ∧
      (s.writeEach buffers).1 = writes.map Write.result ∧
      Calls s (writes.flatMap Write.calls) (s.writeEach buffers).2 ∧
      (s.writeEach buffers).2.data = s.data ++ writes.flatMap Write.taken := by
  induction buffers generalizing s with
  | nil => exact ⟨[], .nil, rfl, .nil, (List.append_nil _).symm⟩
  | cons buffer buffers ih =>
    obtain ⟨w, hw, hresult, hcalls⟩ := exists_allOrPrefix s buffer
    obtain ⟨writes, hwrites, hresults, hrest, hdata⟩ := ih (s.write buffer).2
    refine ⟨w :: writes, .cons hw hwrites, ?_, hcalls.append hrest, ?_⟩
    · rw [List.map_cons, ← hresult, ← hresults]
      rfl
    · rw [List.flatMap_cons, ← hw.flatMap_calls, ← List.append_assoc, ← hcalls.data_eq]
      exact hdata

end KeyBench.Sink
