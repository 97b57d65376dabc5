import KeyBench.Frame

/-!
# Frames read byte by byte

Frames come off a reader of bytes, which hands out a byte even when there is none left and only
notes that it did. Nobody looks at the note before the whole header has been read. The payload is
then what the header leaves of the bytes; this is a subtraction, and it never goes below zero,
because the note has shown that the header was there. Reading a frame off any such reader comes to
the same as taking the bytes apart (`decodeFrom_eq`).
-/

namespace KeyBench

/-- A reader of bytes. It hands out the bytes in their order, and keeps in mind whether it was asked
for more of them than there are; what it hands out then is left open. -/
structure ByteReader where
  /-- How far the bytes have been read. -/
  Place : Type
  start : List UInt8 → Place
  next : Place → UInt8 × Place
  /-- Whether all bytes that were handed out were there. -/
  isSound : Place → Bool
  /-- The bytes that have not been handed out. -/
  remaining : Place → List UInt8
  remaining_start : ∀ bs, remaining (start bs) = bs
  isSound_start : ∀ bs, isSound (start bs) = true
  next_of_cons : ∀ {p b bs}, remaining p = b :: bs →
    ∃ q, next p = (b, q) ∧ remaining q = bs ∧ isSound q = isSound p
  next_of_nil : ∀ {p}, remaining p = [] →
    ∃ b q, next p = (b, q) ∧ remaining q = [] ∧ isSound q = false

namespace ByteReader

/-- The reader that keeps the bytes themselves, and hands out zeros after them. -/
def ofList : ByteReader where
  Place := List UInt8 × Bool
  start bs := (bs, true)
  next
    | ([], _) => (0, [], false)
    | (b :: bs, sound) => (b, bs, sound)
  isSound := Prod.snd
  remaining := Prod.fst
  remaining_start _ := rfl
  isSound_start _ := rfl
  next_of_cons := by
    rintro ⟨_, sound⟩ b bs rfl
    exact ⟨(bs, sound), rfl, rfl, rfl⟩
  next_of_nil := by
    rintro ⟨_, sound⟩ rfl
    exact ⟨0, ([], false), rfl, rfl, rfl⟩

variable (reader : ByteReader) {bs : List UInt8}

/-- The place after a number of bytes. -/
def advance : Nat → reader.Place → reader.Place
  | 0, p => p
  | n + 1, p => advance n (reader.next p).2

/-- A reader that was asked for too much once stays unsound. -/
theorem isSound_advance : ∀ {n : Nat} {p : reader.Place},
    reader.isSound (reader.advance n p) =
      (reader.isSound p && decide (n ≤ (reader.remaining p).length))
  | 0, p => by simp [advance]
  | n + 1, p => by
    rw [advance, isSound_advance]
    cases hp : reader.remaining p with
    | nil =>
      obtain ⟨_, q, hnext, _, hsound⟩ := reader.next_of_nil hp
      simp [hnext, hsound]
    | cons b bs =>
      obtain ⟨q, hnext, hrest, hsound⟩ := reader.next_of_cons hp
      simp [hnext, hrest, hsound]

end ByteReader

namespace Frame

open ByteReader

/-- `m - n`, if that is not below zero. -/
def minus? (m n : Nat) : Option Nat := if n ≤ m then some (m - n) else none

/-- Reads a number of records, the first of which is number `index`, up to the first one that is no
event. -/
def recordsFrom (reader : ByteReader) (index : Nat) :
    Nat → reader.Place → Except FrameError (List Event)
  | 0, _ => .ok []
  | n + 1, p =>
    let (slot, p₁) := reader.next p
    let (flag, p₂) := reader.next p₁
    match Direction.ofFlag? flag with
    | none => .error (.wrongFlag index flag)
    | some direction =>
      match Key.ofSlot slot with
      | .error e => .error (.key e)
      | .ok key => (Event.mk key direction :: ·) <$> recordsFrom reader (index + 1) n p₂

/-- Reads the events of a frame off a reader. There is no answer if the length of the payload cannot
be told. -/
def decodeFrom (reader : ByteReader) (bs : List UInt8) :
    Option (Except FrameError (List Event)) :=
  let (m₀, p₁) := reader.next (reader.start bs)
  let (m₁, p₂) := reader.next p₁
  let (m₂, p₃) := reader.next p₂
  let (count, p₄) := reader.next p₃
  if !reader.isSound p₄ then some (.error (.tooShort bs.length))
  else if [m₀, m₁, m₂] ≠ marker then some (.error (.wrongMarker [m₀, m₁, m₂]))
  else
    match minus? bs.length headerLength with
    | none => none
    | some payload =>
      if payload ≠ 2 * count.toNat then some (.error (.wrongLength count.toNat payload))
      else some (recordsFrom reader 0 count.toNat p₄)

/-- Records are read off the bytes that remain. -/
theorem recordsFrom_eq (reader : ByteReader) : ∀ {n index : Nat} {p : reader.Place},
    (reader.remaining p).length = 2 * n →
      recordsFrom reader index n p = decodeRecords index (reader.remaining p)
  | 0, index, p, h => by
    rw [List.length_eq_zero_iff.mp h]
    rfl
  | n + 1, index, p, h => by
    match hp : reader.remaining p with
    | [] => simp [hp] at h
    | [_] =>
      rw [hp, List.length_singleton] at h
      omega
    | slot :: flag :: rest =>
      obtain ⟨p₁, hslot, hp₁, _⟩ := reader.next_of_cons hp
      obtain ⟨p₂, hflag, hp₂, _⟩ := reader.next_of_cons hp₁
      have hlength : (reader.remaining p₂).length = 2 * n := by
        rw [hp, List.length_cons, List.length_cons] at h
        rw [hp₂]
        omega
      cases hdirection : Direction.ofFlag? flag with
      | none => simp [recordsFrom, decodeRecords, hslot, hflag, hdirection]
      | some direction =>
        cases hkey : Key.ofSlot slot with
        | error e => simp [recordsFrom, decodeRecords, hslot, hflag, hdirection, hkey]
        | ok key =>
          simp [recordsFrom, decodeRecords, hslot, hflag, hdirection, hkey,
            recordsFrom_eq reader hlength, hp₂]

/-- A header that is cut off is noticed when it has been read. -/
theorem decodeFrom_of_short (reader : ByteReader) {bs : List UInt8} (h : bs.length < 4) :
    decodeFrom reader bs = some (.error (.tooShort bs.length)) := by
  have hsound : reader.isSound (reader.advance 4 (reader.start bs)) = false := by
    rw [isSound_advance, reader.isSound_start, reader.remaining_start, Bool.true_and]
    exact decide_eq_false (Nat.not_le.mpr h)
  simp only [advance] at hsound
  simp [decodeFrom, hsound]

/-- **Reading byte by byte always has an answer, which is that of taking the bytes apart.** -/
theorem decodeFrom_eq (reader : ByteReader) : ∀ bs : List UInt8,
    decodeFrom reader bs = some (decode bs)
  | [] | [_] | [_, _] | [_, _, _] => decodeFrom_of_short reader (by simp)
  | m₀ :: m₁ :: m₂ :: count :: payload => by
    have hstart := reader.remaining_start (m₀ :: m₁ :: m₂ :: count :: payload)
    obtain ⟨p₁, hnext₀, hp₁, hs₁⟩ := reader.next_of_cons hstart
    obtain ⟨p₂, hnext₁, hp₂, hs₂⟩ := reader.next_of_cons hp₁
    obtain ⟨p₃, hnext₂, hp₃, hs₃⟩ := reader.next_of_cons hp₂
    obtain ⟨p₄, hnext₃, hp₄, hs₄⟩ := reader.next_of_cons hp₃
    have hsound : reader.isSound p₄ = true := by rw [hs₄, hs₃, hs₂, hs₁, reader.isSound_start]
    have hlength : minus? (m₀ :: m₁ :: m₂ :: count :: payload).length headerLength =
        some payload.length := if_pos (Nat.le_add_left ..)
    simp only [decodeFrom, hnext₀, hnext₁, hnext₂, hnext₃, hsound, hlength, Bool.not_true,
      Bool.false_eq_true, if_false]
    rw [decode]
    by_cases hmarker : [m₀, m₁, m₂] ≠ marker
    · rw [if_pos hmarker, if_pos hmarker]
    rw [if_neg hmarker, if_neg hmarker]
    by_cases hcount : payload.length ≠ 2 * count.toNat
    · rw [if_pos hcount, if_pos hcount]
    rw [if_neg hcount, if_neg hcount, recordsFrom_eq, hp₄]
    rw [hp₄]
    exact Decidable.not_not.mp hcount

end Frame

end KeyBench
