import KeyBench.Proofs.Json.Accepted
import KeyBench.Proofs.Json.ReadBack
import KeyBench.Proofs.Json.Values
import KeyBench.Settings.Reader
import KeyBench.Settings.Writer

/-!
# Single settings

A setting is a value for one of the fields. Putting a setting into settings changes its own field
and no other (`setting_into_self`, `setting_into_of_ne`), so settings are known from what they hold
for each field (`eq_of_setting`).

`Setting.WrittenAs` says which texts stand for a setting. The reader of its field finds the setting
there, with blanks before it (`Setting.read_of_writtenAs`), and accepts nothing else
(`Setting.writtenAs_of_read`), so these are the texts that a field accepts
(`Setting.read_eq_ok_iff`).
-/

namespace KeyBench.Settings

open Json (Blank EndsNumber IsInteger StringBody)

/-- A value for one of the fields. -/
inductive Setting where
  | device (path : String)
  | settleMs (ms : UInt64)
  | holdMs (ms : UInt64)
  | queueCapacity (n : UInt64)
  | caseCount (n : UInt64)
  | seed (n? : Option UInt64)
  deriving DecidableEq, Repr

/-- What settings hold for a field. -/
def setting (settings : Settings) : Field → Setting
  | .device => .device settings.device
  | .settleMs => .settleMs settings.settleMs
  | .holdMs => .holdMs settings.holdMs
  | .queueCapacity => .queueCapacity settings.queueCapacity
  | .caseCount => .caseCount settings.caseCount
  | .seed => .seed settings.seed?

theorem eq_of_setting {s t : Settings} (h : ∀ f, s.setting f = t.setting f) : s = t := by
  cases s
  cases t
  have hdevice := h .device
  have hsettle := h .settleMs
  have hhold := h .holdMs
  have hcapacity := h .queueCapacity
  have hcount := h .caseCount
  have hseed := h .seed
  simp only [setting, Setting.device.injEq, Setting.settleMs.injEq, Setting.holdMs.injEq,
    Setting.queueCapacity.injEq, Setting.caseCount.injEq, Setting.seed.injEq] at *
  subst_vars
  rfl

namespace Setting

variable {st : Setting} {settings : Settings} {f : Field} {s before rest : List Char}

/-! ## Settings with a setting -/

/-- The field of a setting. -/
def field : Setting → Field
  | .device _ => .device
  | .settleMs _ => .settleMs
  | .holdMs _ => .holdMs
  | .queueCapacity _ => .queueCapacity
  | .caseCount _ => .caseCount
  | .seed _ => .seed

/-- Settings with a setting put into them. -/
def into (settings : Settings) : Setting → Settings
  | .device path => { settings with device := path }
  | .settleMs ms => { settings with settleMs := ms }
  | .holdMs ms => { settings with holdMs := ms }
  | .queueCapacity n => { settings with queueCapacity := n }
  | .caseCount n => { settings with caseCount := n }
  | .seed n? => { settings with seed? := n? }

@[simp] theorem field_setting (settings : Settings) (f : Field) :
    (settings.setting f).field = f := by
  cases f <;> rfl

/-- A setting changes its own field. -/
@[simp] theorem setting_into_self (st : Setting) (settings : Settings) :
    (st.into settings).setting st.field = st := by
  cases st <;> rfl

/-- A setting changes no other field. -/
theorem setting_into_of_ne (h : f ≠ st.field) :
    (st.into settings).setting f = settings.setting f := by
  cases st <;> cases f <;> first | rfl | exact absurd rfl h

/-! ## Texts of settings -/

/-- The text of a natural number of 64 bits. -/
structure NaturalText (n : UInt64) (s : List Char) : Prop where
  isInteger : IsInteger s
  decimalValue_eq : Json.decimalValue s = n.toNat

/-- Whether a text stands for a setting: a string for a path, digits for a number, and `null` if
there is no seed. -/
def WrittenAs : Setting → List Char → Prop
  | .device path, s => ∃ body, StringBody body path.toList ∧ s = '"' :: (body ++ ['"'])
  | .settleMs n, s | .holdMs n, s | .queueCapacity n, s | .caseCount n, s | .seed (some n), s =>
    NaturalText n s
  | .seed none, s => s = ['n', 'u', 'l', 'l']

theorem NaturalText.written {n : UInt64} (h : NaturalText n s) : Json.Written .value s :=
  .number h.isInteger.numeralText

/-- A setting is written as a value. -/
theorem WrittenAs.written (h : st.WrittenAs s) : Json.Written .value s := by
  cases st with
  | device path =>
    obtain ⟨body, hbody, rfl⟩ := h
    exact .string hbody.loose
  | settleMs | holdMs | queueCapacity | caseCount => exact NaturalText.written h
  | seed n? =>
    cases n? with
    | none =>
      cases h
      exact .null
    | some n => exact NaturalText.written h

theorem naturalText_toDigits (n : UInt64) : NaturalText n (Nat.toDigits 10 n.toNat) :=
  ⟨Json.isInteger_toDigits _, Json.decimalValue_toDigits _⟩

/-- Every setting has a text: the one that is written. -/
theorem writtenAs_write (settings : Settings) (f : Field) :
    (settings.setting f).WrittenAs (f.write settings) := by
  cases f with
  | device => exact ⟨_, Json.stringBody_flatMap _, rfl⟩
  | settleMs | holdMs | queueCapacity | caseCount => exact naturalText_toDigits _
  | seed =>
    rw [setting, Field.write]
    cases settings.seed? with
    | none => rfl
    | some n => exact naturalText_toDigits n

/-! ## Reading a setting -/

theorem readNatural_blank {wanted : String} (hs : Blank before) :
    Json.readNatural wanted (before ++ s) = Json.readNatural wanted s := by
  rw [Json.readNatural, Json.readNatural, Json.skipSpace_append hs]

/-- Blanks before a value play no part. -/
theorem read_blank (f : Field) (hs : Blank before) :
    f.read settings (before ++ s) = f.read settings s := by
  cases f with
  | device =>
    rw [Field.read, Field.read, Json.readText, Json.readText, Json.skipSpace_append hs]
  | settleMs | holdMs | queueCapacity | caseCount =>
    rw [Field.read, Field.read, readNatural_blank hs]
  | seed =>
    rw [Field.read, Field.read, Json.readOptional, Json.readOptional, Json.skipSpace_append hs]

theorem readNatural_of_text {n : UInt64} (wanted : String) (h : NaturalText n s)
    (hrest : EndsNumber rest) : Json.readNatural wanted (s ++ rest) = .ok (n.toNat, rest) := by
  have hvalue := h.decimalValue_eq
  have hlt : Json.decimalValue s < UInt64.size := hvalue ▸ n.toNat_lt
  rw [Json.readNatural_of_integer wanted h.isInteger hlt hrest, hvalue]

theorem readOptional_of_text {n : UInt64} (wanted : String) (h : NaturalText n s)
    (hrest : EndsNumber rest) :
    Json.readOptional wanted (s ++ rest) = .ok (some n.toNat, rest) := by
  have hvalue := h.decimalValue_eq
  have hlt : Json.decimalValue s < UInt64.size := hvalue ▸ n.toNat_lt
  rw [Json.readOptional_of_integer wanted h.isInteger hlt hrest, hvalue]

/-- **A setting is read from its text.** -/
theorem read_of_writtenAs (settings : Settings) (hbefore : Blank before) (h : st.WrittenAs s)
    (hrest : EndsNumber rest) :
    st.field.read settings (before ++ (s ++ rest)) = .ok (st.into settings, rest) := by
  rw [read_blank st.field hbefore]
  cases st with
  | device path =>
    obtain ⟨body, hbody, rfl⟩ := h
    simp [field, Field.read, into, Json.readText_of_body "path string" hbody, Json.onValue]
  | settleMs | holdMs =>
    simp [field, Field.read, into, readNatural_of_text "u64" h hrest, Json.onValue]
  | queueCapacity | caseCount =>
    simp [field, Field.read, into, readNatural_of_text "usize" h hrest, Json.onValue]
  | seed n? =>
    cases n? with
    | none =>
      cases h
      rfl
    | some n => simp [field, Field.read, into, readOptional_of_text "u64" h hrest, Json.onValue]

/-! ## What a field accepts -/

theorem naturalText_ofNat {n : Nat} (hinteger : IsInteger s) (hvalue : Json.decimalValue s = n)
    (hlt : n < UInt64.size) : NaturalText (UInt64.ofNat n) s :=
  ⟨hinteger, by rw [hvalue, UInt64.toNat_ofNat_of_lt' hlt]⟩

theorem exists_naturalText_of_readNatural {wanted : String} {n : Nat}
    (h : Json.readNatural wanted s = .ok (n, rest)) : ∃ before value, Blank before ∧
      NaturalText (UInt64.ofNat n) value ∧ s = before ++ (value ++ rest) := by
  obtain ⟨before, value, hbefore, hinteger, hvalue, hlt, happend⟩ := Json.exists_of_readNatural h
  exact ⟨before, value, hbefore, naturalText_ofNat hinteger hvalue hlt, happend⟩

/-- **What a field accepts is the text of the setting that it reads.** -/
theorem writtenAs_of_read {next : Settings} (h : f.read settings s = .ok (next, rest)) :
    next = (next.setting f).into settings ∧ ∃ before value, Blank before ∧
      (next.setting f).WrittenAs value ∧ s = before ++ (value ++ rest) := by
  cases f with
  | device =>
    obtain ⟨path, hread, rfl⟩ := Json.eq_ok_of_onValue h
    obtain ⟨before, body, hbefore, hbody, happend⟩ := Json.exists_of_readText hread
    refine ⟨rfl, before, _, hbefore, ⟨body, hbody, rfl⟩, ?_⟩
    rw [happend, List.cons_append, List.append_assoc]
    rfl
  | settleMs | holdMs | queueCapacity | caseCount =>
    obtain ⟨n, hread, rfl⟩ := Json.eq_ok_of_onValue h
    obtain ⟨before, value, hbefore, htext, happend⟩ := exists_naturalText_of_readNatural hread
    exact ⟨rfl, before, value, hbefore, htext, happend⟩
  | seed =>
    obtain ⟨n?, hread, rfl⟩ := Json.eq_ok_of_onValue h
    obtain ⟨before, value, hbefore, happend, ⟨rfl, rfl⟩ | ⟨n, rfl, hinteger, hvalue, hlt⟩⟩ :=
      Json.exists_of_readOptional hread
    · exact ⟨rfl, before, _, hbefore, rfl, happend⟩
    · exact ⟨rfl, before, value, hbefore, naturalText_ofNat hinteger hvalue hlt, happend⟩

/-- **A field accepts the texts of its settings and no others**, with blanks before them. -/
theorem read_eq_ok_iff {next : Settings} (hrest : EndsNumber rest) :
    f.read settings s = .ok (next, rest) ↔ ∃ (st : Setting) (before value : List Char),
      st.field = f ∧ Blank before ∧ st.WrittenAs value ∧ s = before ++ (value ++ rest) ∧
      next = st.into settings := by
  constructor
  · intro h
    obtain ⟨hnext, before, value, hbefore, hvalue, hs⟩ := writtenAs_of_read h
    exact ⟨_, before, value, field_setting next f, hbefore, hvalue, hs, hnext⟩
  · rintro ⟨st, before, value, rfl, hbefore, hvalue, rfl, rfl⟩
    exact read_of_writtenAs settings hbefore hvalue hrest

end Setting

end KeyBench.Settings
