import KeyBench.Proofs.Frame.ByteReader
import KeyBench.Proofs.Frame.Codec

/-!
# What is wrong with bytes that are no frame

Bytes can be too few for a header, have another marker than frames have, or be more or fewer than
the count says. If they are `Headed`, each two of the others are a record, and a record may have a
flag or a slot that there is not. Several of these faults can come together. The first one in this
order is reported, of the faulty records the first one, and of a record the flag
(`decode_eq_error_iff_flaw`).
-/

namespace KeyBench

namespace Frame

variable {bs payload rest : List UInt8} {slot flag count : UInt8} {i index : Nat}
  {cause : FrameError}

/-! ## Faulty records -/

/-- Whether a byte is at the place of the slot, and another at that of the flag, of record number
`i` of a payload. -/
def IsRecord (payload : List UInt8) (i : Nat) (slot flag : UInt8) : Prop :=
  payload[2 * i]? = some slot ∧ payload[2 * i + 1]? = some flag

/-- Whether two bytes are the record of no event. -/
def IsFaulty (slot flag : UInt8) : Prop := 1 < flag ∨ ∀ k : Key, k.slot ≠ slot

/-- Whether a payload has a record that is faulty, and none before it that is. -/
structure FirstFaulty (payload : List UInt8) (i : Nat) (slot flag : UInt8) : Prop where
  isRecord : IsRecord payload i slot flag
  isFaulty : IsFaulty slot flag
  earlier : ∀ j < i, ∀ slot' flag', IsRecord payload j slot' flag' → ¬IsFaulty slot' flag'

/-- What is reported of a faulty record. -/
def recordError (index : Nat) (slot flag : UInt8) : FrameError :=
  if 1 < flag then .wrongFlag index flag else .key (.unknownSlot slot)

theorem isRecord_cons_zero {slot' flag' : UInt8} :
    IsRecord (slot :: flag :: rest) 0 slot' flag' ↔ slot = slot' ∧ flag = flag' := by
  simp [IsRecord]

theorem isRecord_cons_succ {slot' flag' : UInt8} :
    IsRecord (slot :: flag :: rest) (i + 1) slot' flag' ↔ IsRecord rest i slot' flag' := by
  simp [IsRecord, Nat.mul_add]

theorem not_isRecord_of_length_le (h : payload.length ≤ 1) : ¬IsRecord payload i slot flag := by
  rintro ⟨_, hflag⟩
  obtain ⟨hlt, _⟩ := List.getElem?_eq_some_iff.mp hflag
  omega

/-- The first record is faulty, or the first faulty one is among the others. -/
theorem firstFaulty_cons {slot' flag' : UInt8} :
    FirstFaulty (slot :: flag :: rest) i slot' flag' ↔
      (i = 0 ∧ slot = slot' ∧ flag = flag' ∧ IsFaulty slot flag) ∨
      ∃ j, i = j + 1 ∧ ¬IsFaulty slot flag ∧ FirstFaulty rest j slot' flag' := by
  constructor
  · rintro ⟨hrecord, hfaulty, hearlier⟩
    cases i with
    | zero =>
      obtain ⟨rfl, rfl⟩ := isRecord_cons_zero.mp hrecord
      exact .inl ⟨rfl, rfl, rfl, hfaulty⟩
    | succ j =>
      refine .inr ⟨j, rfl, ?_, isRecord_cons_succ.mp hrecord, hfaulty, ?_⟩
      · exact hearlier 0 (Nat.succ_pos j) slot flag (isRecord_cons_zero.mpr ⟨rfl, rfl⟩)
      · intro k hk s f h
        exact hearlier (k + 1) (Nat.succ_lt_succ hk) s f (isRecord_cons_succ.mpr h)
  · rintro (⟨rfl, rfl, rfl, hfaulty⟩ | ⟨j, rfl, hsound, hrecord, hfaulty, hearlier⟩)
    · exact ⟨isRecord_cons_zero.mpr ⟨rfl, rfl⟩, hfaulty, fun j hj => absurd hj (Nat.not_lt_zero j)⟩
    · refine ⟨isRecord_cons_succ.mpr hrecord, hfaulty, ?_⟩
      intro k hk s f h
      cases k with
      | zero =>
        obtain ⟨rfl, rfl⟩ := isRecord_cons_zero.mp h
        exact hsound
      | succ k => exact hearlier k (Nat.lt_of_succ_lt_succ hk) s f (isRecord_cons_succ.mp h)

/-- **Of a record the flag is looked at first, then the slot, then the records after it.** -/
theorem decodeRecords_cons_eq_error_iff :
    decodeRecords index (slot :: flag :: rest) = .error cause ↔
      (IsFaulty slot flag ∧ cause = recordError index slot flag) ∨
      (¬IsFaulty slot flag ∧ decodeRecords (index + 1) rest = .error cause) := by
  rw [decodeRecords]
  cases hflag : Direction.ofFlag? flag with
  | none =>
    have hlt := Direction.ofFlag?_eq_none_iff.mp hflag
    simp [IsFaulty, recordError, hlt, eq_comm]
  | some d =>
    have hle : ¬1 < flag := by
      rw [← Direction.ofFlag?_eq_none_iff, hflag]
      simp
    cases hslot : Key.ofSlot slot with
    | error e =>
      obtain ⟨hnone, rfl⟩ := Key.ofSlot_eq_error_iff.mp hslot
      simp [IsFaulty, recordError, hle, hnone, eq_comm]
    | ok k =>
      have hfound : ¬∀ k : Key, k.slot ≠ slot := fun h => h k (Key.ofSlot_eq_ok_iff.mp hslot).symm
      simp only [IsFaulty, hle, hfound, or_self, false_and, not_false_eq_true, true_and, false_or]
      cases decodeRecords (index + 1) rest <;> simp

/-- **The first faulty record is reported.** -/
theorem decodeRecords_eq_error_iff : ∀ {payload : List UInt8} {index : Nat},
    decodeRecords index payload = .error cause ↔
      ∃ i slot flag, FirstFaulty payload i slot flag ∧ cause = recordError (index + i) slot flag
  | [], index | [_], index => by
    simp only [decodeRecords, reduceCtorEq, false_iff]
    rintro ⟨i, slot, flag, hfirst, _⟩
    exact not_isRecord_of_length_le (by simp) hfirst.isRecord
  | slot :: flag :: rest, index => by
    rw [decodeRecords_cons_eq_error_iff, decodeRecords_eq_error_iff]
    simp only [firstFaulty_cons]
    constructor
    · rintro (⟨hfaulty, rfl⟩ | ⟨hsound, i, s, f, hfirst, rfl⟩)
      · exact ⟨0, slot, flag, .inl ⟨rfl, rfl, rfl, hfaulty⟩, rfl⟩
      · exact ⟨i + 1, s, f, .inr ⟨i, rfl, hsound, hfirst⟩, by congr 1; omega⟩
    · rintro ⟨_, s, f, ⟨rfl, rfl, rfl, hfaulty⟩ | ⟨i, rfl, hsound, hfirst⟩, rfl⟩
      · exact .inl ⟨hfaulty, rfl⟩
      · exact .inr ⟨hsound, i, s, f, hfirst, by congr 1; omega⟩

/-- If any record is faulty, one of them is the first. -/
theorem exists_firstFaulty (hrecord : IsRecord payload i slot flag) (hfaulty : IsFaulty slot flag) :
    ∃ i slot flag, FirstFaulty payload i slot flag := by
  induction i using Nat.strongRecOn generalizing slot flag with
  | ind i ih =>
    by_cases hearlier : ∃ j < i, ∃ s f, IsRecord payload j s f ∧ IsFaulty s f
    · obtain ⟨j, hj, s, f, hs, hf⟩ := hearlier
      exact ih j hj hs hf
    · refine ⟨i, slot, flag, hrecord, hfaulty, ?_⟩
      intro j hj s f hs hf
      exact hearlier ⟨j, hj, s, f, hs, hf⟩

/-- **A payload is read if and only if none of its records is faulty.** -/
theorem exists_decodeRecords_eq_ok_iff : (∃ es, decodeRecords index payload = .ok es) ↔
    ∀ i slot flag, IsRecord payload i slot flag → ¬IsFaulty slot flag := by
  constructor
  · rintro ⟨es, hes⟩ i slot flag hrecord hfaulty
    obtain ⟨j, s, f, hfirst⟩ := exists_firstFaulty hrecord hfaulty
    rw [decodeRecords_eq_error_iff.mpr ⟨j, s, f, hfirst, rfl⟩] at hes
    cases hes
  · intro hsound
    cases h : decodeRecords index payload with
    | ok es => exact ⟨es, rfl⟩
    | error cause =>
      obtain ⟨i, s, f, hfirst, _⟩ := decodeRecords_eq_error_iff.mp h
      exact absurd hfirst.isFaulty (hsound i s f hfirst.isRecord)

/-! ## Headers -/

/-- Whether bytes start with the marker and a count, and as many bytes follow as the count demands.
-/
def Headed (bs : List UInt8) (count : UInt8) : Prop :=
  bs.take 3 = [0x5B, 0x7D, 0x0F] ∧ bs[3]? = some count ∧ bs.length - 4 = 2 * count.toNat

theorem decode_of_length_lt (h : bs.length < 4) : decode bs = .error (.tooShort bs.length) := by
  match bs with
  | [] | [_] | [_, _] | [_, _, _] => rfl
  | _ :: _ :: _ :: _ :: payload =>
    simp only [List.length_cons] at h
    omega

/-- Bytes that are long enough have a header to look at. -/
theorem exists_eq_cons_of_le_length (h : 4 ≤ bs.length) :
    ∃ m₀ m₁ m₂ count payload, bs = m₀ :: m₁ :: m₂ :: count :: payload := by
  match bs with
  | [] | [_] | [_, _] | [_, _, _] => simp at h
  | m₀ :: m₁ :: m₂ :: count :: payload => exact ⟨m₀, m₁, m₂, count, payload, rfl⟩

theorem le_length_of_getElem? (h : bs[3]? = some count) : 4 ≤ bs.length := by
  obtain ⟨hlt, _⟩ := List.getElem?_eq_some_iff.mp h
  exact hlt

theorem decode_of_marker_ne (hlength : 4 ≤ bs.length) (h : bs.take 3 ≠ [0x5B, 0x7D, 0x0F]) :
    decode bs = .error (.wrongMarker (bs.take 3)) := by
  obtain ⟨m₀, m₁, m₂, count, payload, rfl⟩ := exists_eq_cons_of_le_length hlength
  exact if_pos h

theorem decode_of_length_ne (hmarker : bs.take 3 = [0x5B, 0x7D, 0x0F])
    (hcount : bs[3]? = some count) (h : bs.length - 4 ≠ 2 * count.toNat) :
    decode bs = .error (.wrongLength count.toNat (bs.length - 4)) := by
  obtain ⟨m₀, m₁, m₂, n, payload, rfl⟩ :=
    exists_eq_cons_of_le_length (le_length_of_getElem? hcount)
  obtain rfl : n = count := Option.some.inj hcount
  have hmarker' : [m₀, m₁, m₂] = marker := hmarker
  rw [decode, if_neg (not_not.mpr hmarker')]
  exact if_pos h

/-- Behind a header the records decide. -/
theorem decode_of_headed (h : Headed bs count) : decode bs = decodeRecords 0 (bs.drop 4) := by
  obtain ⟨hmarker, hcount, hlength⟩ := h
  obtain ⟨m₀, m₁, m₂, n, payload, rfl⟩ :=
    exists_eq_cons_of_le_length (le_length_of_getElem? hcount)
  obtain rfl : n = count := Option.some.inj hcount
  have hmarker' : [m₀, m₁, m₂] = marker := hmarker
  rw [decode, if_neg (not_not.mpr hmarker')]
  exact if_neg (not_not.mpr hlength)

/-! ## All flaws -/

/-- What is wrong with bytes that are no frame. A flaw comes with the absence of those that are
looked for before it. -/
inductive Flaw (bs : List UInt8) : FrameError → Prop
  | tooShort (h : bs.length < 4) : Flaw bs (.tooShort bs.length)
  | wrongMarker (hlength : 4 ≤ bs.length) (h : bs.take 3 ≠ [0x5B, 0x7D, 0x0F]) :
    Flaw bs (.wrongMarker (bs.take 3))
  | wrongLength {count : UInt8} (hmarker : bs.take 3 = [0x5B, 0x7D, 0x0F])
    (hcount : bs[3]? = some count) (h : bs.length - 4 ≠ 2 * count.toNat) :
    Flaw bs (.wrongLength count.toNat (bs.length - 4))
  | wrongFlag {count slot flag : UInt8} {i : Nat} (hheaded : Headed bs count)
    (hfirst : FirstFaulty (bs.drop 4) i slot flag) (h : 1 < flag) : Flaw bs (.wrongFlag i flag)
  | unknownSlot {count slot flag : UInt8} {i : Nat} (hheaded : Headed bs count)
    (hfirst : FirstFaulty (bs.drop 4) i slot flag) (h : ¬1 < flag) :
    Flaw bs (.key (.unknownSlot slot))

/-- Bytes have a flaw in front of the records, or they have a header. -/
theorem flaw_or_headed (bs : List UInt8) : (∃ cause, Flaw bs cause) ∨ ∃ count, Headed bs count := by
  by_cases hlength : 4 ≤ bs.length
  · have hcount : bs[3]? = some bs[3] := List.getElem?_eq_getElem hlength
    by_cases hmarker : bs.take 3 = [0x5B, 0x7D, 0x0F]
    · by_cases h : bs.length - 4 = 2 * bs[3].toNat
      · exact .inr ⟨bs[3], hmarker, hcount, h⟩
      · exact .inl ⟨_, .wrongLength hmarker hcount h⟩
    · exact .inl ⟨_, .wrongMarker hlength hmarker⟩
  · exact .inl ⟨_, .tooShort (Nat.not_le.mp hlength)⟩

theorem decode_of_flaw (h : Flaw bs cause) : decode bs = .error cause := by
  have hrecords {count slot flag : UInt8} {i : Nat} (hheaded : Headed bs count)
      (hfirst : FirstFaulty (bs.drop 4) i slot flag) :
      decode bs = .error (recordError i slot flag) := by
    rw [decode_of_headed hheaded, decodeRecords_eq_error_iff]
    exact ⟨i, slot, flag, hfirst, by rw [Nat.zero_add]⟩
  cases h with
  | tooShort h => exact decode_of_length_lt h
  | wrongMarker hlength h => exact decode_of_marker_ne hlength h
  | wrongLength hmarker hcount h => exact decode_of_length_ne hmarker hcount h
  | wrongFlag hheaded hfirst h => rw [hrecords hheaded hfirst, recordError, if_pos h]
  | unknownSlot hheaded hfirst h => rw [hrecords hheaded hfirst, recordError, if_neg h]

/-- **Bytes are refused for their flaw, and for nothing else.** -/
theorem decode_eq_error_iff_flaw : decode bs = .error cause ↔ Flaw bs cause := by
  constructor
  · intro h
    rcases flaw_or_headed bs with ⟨found, hflaw⟩ | ⟨count, hheaded⟩
    · rw [decode_of_flaw hflaw] at h
      rwa [← Except.error.inj h]
    · rw [decode_of_headed hheaded, decodeRecords_eq_error_iff] at h
      obtain ⟨i, slot, flag, hfirst, rfl⟩ := h
      rw [Nat.zero_add, recordError]
      split
      · next h => exact .wrongFlag hheaded hfirst h
      · next h => exact .unknownSlot hheaded hfirst h
  · exact decode_of_flaw

/-- **Bytes are read if they have a header and no faulty record**, as so many events as the count
says. -/
theorem decode_eq_ok_iff_headed :
    (bs[3]? = some count ∧ ∃ es, decode bs = .ok es ∧ es.length = count.toNat) ↔
      Headed bs count ∧
        ∀ i slot flag, IsRecord (bs.drop 4) i slot flag → ¬IsFaulty slot flag := by
  constructor
  · rintro ⟨hcount, es, hes, _⟩
    rcases flaw_or_headed bs with ⟨found, hflaw⟩ | ⟨n, hheaded⟩
    · rw [decode_of_flaw hflaw] at hes
      cases hes
    · obtain rfl : n = count := Option.some.inj (hheaded.2.1.symm.trans hcount)
      rw [decode_of_headed hheaded] at hes
      exact ⟨hheaded, exists_decodeRecords_eq_ok_iff.mp ⟨es, hes⟩⟩
  · rintro ⟨hheaded, hsound⟩
    obtain ⟨es, hes⟩ := exists_decodeRecords_eq_ok_iff.mpr hsound
    have hlength : (bs.drop 4).length = 2 * count.toNat := by
      rw [List.length_drop]
      exact hheaded.2.2
    refine ⟨hheaded.2.1, es, (decode_of_headed hheaded).trans hes, ?_⟩
    rw [(decodeRecords_eq_ok_iff ⟨_, hlength⟩).mp hes, length_flatMap_record] at hlength
    omega

/-- **Every malformed frame is classified.** Reading a frame off any reader of bytes comes to an
end: no length is ever taken below zero. Bytes are too short if there are fewer than four of them.
Otherwise they have a wrong marker if they start with other bytes than a frame, otherwise a wrong
length if the count does not fit the bytes that follow. Otherwise the first record with a flag above
1 or without a key is reported, for its flag if that is wrong, whatever its slot is. Otherwise the
bytes are read, as so many events as the count says. -/
theorem decode_classifies (reader : ByteReader) (bs : List UInt8) :
    decodeFrom reader bs = some (decode bs) ∧
    (∀ n, decode bs = .error (.tooShort n) ↔ bs.length < 4 ∧ n = bs.length) ∧
    (∀ found, decode bs = .error (.wrongMarker found) ↔
      4 ≤ bs.length ∧ bs.take 3 ≠ [0x5B, 0x7D, 0x0F] ∧ found = bs.take 3) ∧
    (∀ n length, decode bs = .error (.wrongLength n length) ↔
      ∃ count, bs.take 3 = [0x5B, 0x7D, 0x0F] ∧ bs[3]? = some count ∧
        bs.length - 4 ≠ 2 * count.toNat ∧ n = count.toNat ∧ length = bs.length - 4) ∧
    (∀ i flag, decode bs = .error (.wrongFlag i flag) ↔
      ∃ count slot, Headed bs count ∧ FirstFaulty (bs.drop 4) i slot flag ∧ 1 < flag) ∧
    (∀ unknown, decode bs = .error (.key unknown) ↔
      ∃ count i slot flag, Headed bs count ∧ FirstFaulty (bs.drop 4) i slot flag ∧ ¬1 < flag ∧
        unknown = .unknownSlot slot) ∧
    ∀ count, (bs[3]? = some count ∧ ∃ es, decode bs = .ok es ∧ es.length = count.toNat) ↔
      Headed bs count ∧
        ∀ i slot flag, IsRecord (bs.drop 4) i slot flag → ¬IsFaulty slot flag := by
  simp only [decode_eq_error_iff_flaw]
  refine ⟨decodeFrom_eq reader bs, ?_, ?_, ?_, ?_, ?_, fun count => decode_eq_ok_iff_headed⟩
  · intro n
    constructor
    · intro hflaw
      cases hflaw with
      | tooShort h => exact ⟨h, rfl⟩
    · rintro ⟨h, rfl⟩
      exact .tooShort h
  · intro found
    constructor
    · intro hflaw
      cases hflaw with
      | wrongMarker hlength h => exact ⟨hlength, h, rfl⟩
    · rintro ⟨hlength, h, rfl⟩
      exact .wrongMarker hlength h
  · intro n length
    constructor
    · intro hflaw
      cases hflaw with
      | wrongLength hmarker hcount h => exact ⟨_, hmarker, hcount, h, rfl, rfl⟩
    · rintro ⟨count, hmarker, hcount, h, rfl, rfl⟩
      exact .wrongLength hmarker hcount h
  · intro i flag
    constructor
    · intro hflaw
      cases hflaw with
      | wrongFlag hheaded hfirst h => exact ⟨_, _, hheaded, hfirst, h⟩
    · rintro ⟨count, slot, hheaded, hfirst, h⟩
      exact .wrongFlag hheaded hfirst h
  · intro unknown
    constructor
    · intro hflaw
      cases hflaw with
      | unknownSlot hheaded hfirst h => exact ⟨_, _, _, _, hheaded, hfirst, h, rfl⟩
    · rintro ⟨count, i, slot, flag, hheaded, hfirst, h, rfl⟩
      exact .unknownSlot hheaded hfirst h

end Frame

end KeyBench
