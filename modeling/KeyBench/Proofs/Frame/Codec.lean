import Mathlib.Data.List.Forall2
import KeyBench.Frame
import KeyBench.Proofs.Event.Order

/-!
# Frames and their bytes

A frame has one written form. A slot belongs to one key and a flag to one direction, so two bytes
are the record of one event at most, and a frame says in one byte how many records it has. Reading
therefore undoes writing (`decode_bytes`), and it accepts nothing that is not written
(`exists_frame_of_decode`).
-/

namespace KeyBench

namespace Frame

variable {es : List Event} {bs : List UInt8}

/-! ## Records -/

/-- **A record is read if it is that of an event and the records after it are read.** -/
theorem decodeRecords_cons_cons {slot flag : UInt8} {rest : List UInt8} {index : Nat} :
    decodeRecords index (slot :: flag :: rest) = .ok es ↔
      ∃ e fs, es = e :: fs ∧ [slot, flag] = record e ∧ decodeRecords (index + 1) rest = .ok fs := by
  constructor
  · intro h
    rw [decodeRecords] at h
    split at h
    · cases h
    · next d hd =>
      split at h
      · cases h
      · next k hk =>
        cases hrest : decodeRecords (index + 1) rest with
        | error cause =>
          rw [hrest] at h
          cases h
        | ok fs =>
          rw [hrest] at h
          refine ⟨⟨k, d⟩, fs, (Except.ok.inj h).symm, ?_, rfl⟩
          rw [record, Key.ofSlot_eq_ok_iff.mp hk, Direction.ofFlag?_eq_some_iff.mp hd]
  · rintro ⟨⟨k, d⟩, fs, rfl, hrecord, hrest⟩
    simp only [record, List.cons.injEq, and_true] at hrecord
    rw [decodeRecords, Direction.ofFlag?_eq_some_iff.mpr hrecord.2]
    dsimp only
    rw [Key.ofSlot_eq_ok_iff.mpr hrecord.1, hrest]
    rfl

/-- **A payload of whole records is read as the events whose records it holds.** -/
theorem decodeRecords_eq_ok_iff : ∀ {payload : List UInt8} {es : List Event} {index : Nat},
    2 ∣ payload.length → (decodeRecords index payload = .ok es ↔ payload = es.flatMap record)
  | [], es, index, _ => by cases es <;> simp [decodeRecords, record]
  | [_], _, _, h => by simp at h
  | slot :: flag :: rest, es, index, h => by
    have hrest : 2 ∣ rest.length := by
      simp only [List.length_cons] at h
      omega
    rw [decodeRecords_cons_cons]
    constructor
    · rintro ⟨e, fs, rfl, hrecord, hfs⟩
      rw [List.flatMap_cons, ← hrecord, ← (decodeRecords_eq_ok_iff hrest).mp hfs]
      rfl
    · intro hpayload
      cases es with
      | nil => cases hpayload
      | cons e fs =>
        have happend : [slot, flag] ++ rest = record e ++ fs.flatMap record := hpayload
        obtain ⟨hrecord, hfs⟩ := List.append_inj happend rfl
        exact ⟨e, fs, rfl, hrecord, (decodeRecords_eq_ok_iff hrest).mpr hfs⟩

/-! ## Whole frames -/

theorem length_flatMap_record (es : List Event) : (es.flatMap record).length = 2 * es.length := by
  induction es with
  | nil => rfl
  | cons e es ih =>
    rw [List.flatMap_cons, List.length_append, ih, List.length_cons]
    simp only [record, List.length_cons, List.length_nil]
    omega

theorem length_bytes (f : Frame) : f.bytes.length = headerLength + 2 * f.events.length := by
  rw [bytes, List.length_append, List.length_cons, length_flatMap_record]
  simp only [headerLength]
  omega

/-- The count of a frame tells how many events it has. -/
theorem toNat_count (f : Frame) : (UInt8.ofNat f.events.length).toNat = f.events.length := by
  have h := f.length_le
  rw [UInt8.toNat_ofNat', Nat.mod_eq_of_lt]
  simp only [capacity] at h
  omega

/-- **Reading a frame gives its events.** -/
theorem decode_bytes (f : Frame) : decode f.bytes = .ok f.events := by
  have hlength : (f.events.flatMap record).length = 2 * f.events.length :=
    length_flatMap_record f.events
  show decode (0x5B :: 0x7D :: 0x0F :: UInt8.ofNat f.events.length :: f.events.flatMap record) = _
  rw [decode, if_neg (by simp [marker]), toNat_count, if_neg (by simp [hlength])]
  exact (decodeRecords_eq_ok_iff ⟨_, hlength⟩).mpr rfl

/-- **What is read is a frame as it is written.** -/
theorem exists_frame_of_decode (h : decode bs = .ok es) :
    ∃ f : Frame, f.events = es ∧ f.bytes = bs := by
  unfold decode at h
  split at h
  · next m₀ m₁ m₂ count payload =>
    split at h
    · cases h
    · next hmarker =>
      split at h
      · cases h
      · next hlength =>
        rw [ne_eq, Decidable.not_not] at hmarker hlength
        obtain rfl := (decodeRecords_eq_ok_iff ⟨_, hlength⟩).mp h
        -- the count says how many records there are, so there are no more than a byte can say
        rw [length_flatMap_record] at hlength
        have hcount : es.length = count.toNat := by omega
        have hle : es.length ≤ capacity := by
          have := count.toNat_lt
          simp only [capacity]
          omega
        refine ⟨⟨es, hle⟩, rfl, ?_⟩
        rw [bytes, ← hmarker, hcount, UInt8.ofNat_toNat]
        rfl
  · cases h

/-! ## Frames of events -/

/-- **Events are written if there is a frame of them.** -/
theorem encode_eq_ok_iff : encode es = .ok bs ↔ ∃ f : Frame, f.events = es ∧ f.bytes = bs := by
  unfold encode ofEvents
  split
  · next hle =>
    constructor
    · intro h
      exact ⟨⟨es, hle⟩, rfl, Except.ok.inj h⟩
    · rintro ⟨f, rfl, rfl⟩
      rfl
  · next hle =>
    constructor
    · intro h
      cases h
    · rintro ⟨f, rfl, _⟩
      exact absurd f.length_le hle

theorem encode_events (f : Frame) : encode f.events = .ok f.bytes :=
  encode_eq_ok_iff.mpr ⟨f, rfl, rfl⟩

/-- Frames are the written form of the batches that they hold, and are read as these. -/
theorem forall₂_encode_and_decode {frames : List Frame} {batches : List (List Event)}
    (h : frames.map events = batches) :
    List.Forall₂ (fun batch bs => encode batch = .ok bs ∧ decode bs = .ok batch) batches
      (frames.map bytes) := by
  rw [← h, List.forall₂_map_left_iff, List.forall₂_map_right_iff, List.forall₂_same]
  intro f _
  exact ⟨f.encode_events, f.decode_bytes⟩

theorem encode_eq_error (h : capacity < es.length) : encode es = .error (.oversized es.length) := by
  unfold encode ofEvents
  rw [dif_neg (Nat.not_le.mpr h)]
  rfl

/-- **Reading accepts exactly what writing produces.** Bytes are read as some events if and only if
these events are written as those bytes. There is a written form for up to 255 events and no more,
and it has four bytes and two for each event, so it never outgrows the room for the largest frame.
More events are refused with their number. -/
theorem decode_eq_ok_iff_encode :
    (∀ bs es, decode bs = .ok es ↔ encode es = .ok bs) ∧
    ∀ es : List Event,
      ((∃ bs, encode es = .ok bs) ↔ es.length ≤ 255) ∧
      (∀ bs, encode es = .ok bs →
        bs.length = 4 + 2 * es.length ∧ bs.length ≤ headerLength + 2 * capacity) ∧
      (¬es.length ≤ 255 → encode es = .error (.oversized es.length)) := by
  refine ⟨fun bs es => ?_, fun es => ⟨?_, fun bs hbs => ?_, fun hlt => ?_⟩⟩
  · rw [encode_eq_ok_iff]
    constructor
    · exact exists_frame_of_decode
    · rintro ⟨f, rfl, rfl⟩
      exact decode_bytes f
  · constructor
    · rintro ⟨bs, hbs⟩
      obtain ⟨f, rfl, _⟩ := encode_eq_ok_iff.mp hbs
      exact f.length_le
    · intro hle
      exact ⟨_, encode_events ⟨es, hle⟩⟩
  · obtain ⟨f, rfl, rfl⟩ := encode_eq_ok_iff.mp hbs
    have hle := f.length_le
    rw [length_bytes]
    exact ⟨rfl, by omega⟩
  · exact encode_eq_error (Nat.not_le.mp hlt)

end Frame

end KeyBench
