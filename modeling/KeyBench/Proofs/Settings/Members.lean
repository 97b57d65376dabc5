import KeyBench.Proofs.Settings.Assignment

/-!
# Texts of settings

Settings stand in an object, where every member has a key, or in a list, where every value belongs
to the field at its place. A member either writes a setting or has a key that is no field, and then
its value may be any (`MemberText`).

The reader takes the members one after another and keeps the fields that it has seen, so that what
an object does is what putting its settings in does (`ofJson_of_isObject`). A list cannot name a
field twice (`ofJson_of_isList`).
-/

namespace KeyBench.Settings

open Json (Blank EndsNumber StringBody skipSpace skipSpace_append)

variable {seen fields : List Field} {started : Bool} {target : Settings} {text : String}
  {s rest between inside after : List Char}

/-! ## What stands between two brackets -/

/-- The comma before every member but the first. -/
def separator (started : Bool) : List Char := if started then [','] else []

/-- Texts with a comma between each two of them, and one before the first if something stands
before them. -/
def joined (started : Bool) : List (List Char) → List Char
  | [] => []
  | text :: texts => separator started ++ (text ++ joined true texts)

/-- No number goes on after a text that is joined to others. -/
theorem endsNumber_joined (texts : List (List Char)) (hrest : EndsNumber rest) :
    EndsNumber (joined true texts ++ rest) := by
  cases texts with
  | nil => exact hrest
  | cons => exact Json.endsNumber_comma

/-- Blanks up to the end of a text. -/
theorem skipSpace_eq_nil (hafter : Blank after) : skipSpace after = [] := by
  rw [← List.append_nil after, skipSpace_append hafter]
  rfl

/-! ## Members -/

/-- The text of a key with its colon. The key may be written with escapes. -/
inductive KeyText : List Char → List Char → Prop
  | quoted {name before body after : List Char} (hbefore : Blank before)
    (hbody : StringBody body name) (hafter : Blank after) :
    KeyText name (before ++ '"' :: (body ++ '"' :: (after ++ [':'])))

/-- The text of a member, and the setting that it writes if its key is a field. -/
inductive MemberText : Option Setting → List Char → Prop
  | known {st : Setting} {key before value after : List Char}
    (hkey : KeyText st.field.name.toList key) (hbefore : Blank before) (hvalue : st.WrittenAs value)
    (hafter : Blank after) : MemberText (some st) (key ++ (before ++ (value ++ after)))
  | unknown {name key before value after : List Char} (hname : Field.ofName? name = none)
    (hkey : KeyText name key) (hbefore : Blank before) (hvalue : Json.Written .value value)
    (hafter : Blank after) : MemberText none (key ++ (before ++ (value ++ after)))

/-- A member of an object. -/
structure Member where
  text : List Char
  setting? : Option Setting
  isText : MemberText setting? text

/-- The settings that members write, in their order. -/
def given (ms : List Member) : List Setting := ms.filterMap Member.setting?

/-- Whether a text is an object with these members. -/
def IsObject (ms : List Member) (text : String) : Prop :=
  ∃ before inside after, Blank before ∧ Blank inside ∧ Blank after ∧
    text.toList =
      before ++ '\x7b' :: (joined false (ms.map Member.text) ++ (inside ++ '\x7d' :: after))

/-! ### One member -/

theorem Field.ofName?_name (f : Field) : ofName? f.name.toList = some f := by cases f <;> decide

theorem readKey_end (hbetween : Blank between) (hinside : Blank inside) :
    readKey started (between ++ (inside ++ '\x7d' :: rest)) = .ok (none, rest) := by
  have hbrace : skipSpace ('\x7d' :: rest) = '\x7d' :: rest := rfl
  rw [readKey, skipSpace_append hbetween, skipSpace_append hinside, hbrace]
  rfl

/-- A key is read up to its closing quote, and the colon follows. -/
theorem readKey_of_text (started : Bool) {name key : List Char} (hbetween : Blank between)
    (h : KeyText name key) (s : List Char) :
    ∃ afterKey, readKey started (between ++ (separator started ++ (key ++ s))) =
        .ok (some name, afterKey) ∧
      Json.readColon afterKey = .ok s := by
  cases h with
  | @quoted before body after hbefore hbody hafter =>
    refine ⟨after ++ ':' :: s, ?_, Json.readColon_append hafter⟩
    have hquote : ∀ t, skipSpace (before ++ '"' :: t) = '"' :: t :=
      fun t => (skipSpace_append hbefore).trans rfl
    have hcomma : ∀ t, skipSpace (',' :: t) = ',' :: t := fun _ => rfl
    have hopen : ∀ t, openKey ('"' :: (body ++ '"' :: t)) = .ok (some name, t) := by
      intro t
      simp [openKey, Json.readString_of_body hbody]
    cases started <;>
      simp [readKey, separator, skipSpace_append hbetween, hquote, hcomma, hopen]

/-- Members end where no key is found. -/
theorem readMembers_of_end {s : List Char} (hkey : readKey started s = .ok (none, rest)) :
    readMembers seen started target s = .ok (target, rest) := by
  rw [readMembers]
  split
  · next h => rw [hkey] at h; cases h
  · next h =>
    rw [hkey] at h
    cases h
    rfl
  · next h => rw [hkey] at h; cases h

/-- A member is read by its key, the colon after it and its value, in this order. -/
theorem readMembers_of_key {name afterKey : List Char}
    (hkey : readKey started s = .ok (some name, afterKey)) :
    readMembers seen started target s =
      match Field.ofName? name with
      | some f =>
        if f ∈ seen then .error (.duplicateField f.name)
        else do
          let afterColon ← Json.readColon afterKey
          let (next, rest) ← f.read target afterColon
          readMembers (f :: seen) true next rest
      | none => (do
        let afterColon ← Json.readColon afterKey
        let rest ← Json.skipValue [] afterColon
        readMembers seen true target rest) := by
  rw [readMembers]
  split
  · next h => rw [hkey] at h; cases h
  · next h => rw [hkey] at h; cases h
  · next h =>
    rw [hkey] at h
    cases h
    cases Field.ofName? name with
    | some f =>
      dsimp only
      split
      · rfl
      · split
        · next hcolon => rw [hcolon]; rfl
        · next hcolon =>
          rw [hcolon]
          simp only [Except.bind, bind]
          split
          · next hvalue => rw [hvalue]
          · next hvalue => rw [hvalue]
    | none =>
      dsimp only
      split
      · next hcolon => rw [hcolon]; rfl
      · next hcolon =>
        rw [hcolon]
        simp only [Except.bind, bind]
        split
        · next hvalue => rw [hvalue]
        · next hvalue => rw [hvalue]
theorem readMembers_of_field {f : Field} {afterKey afterColon : List Char} {next : Settings}
    (hkey : readKey started s = .ok (some f.name.toList, afterKey)) (hf : f ∉ seen)
    (hcolon : Json.readColon afterKey = .ok afterColon)
    (hvalue : f.read target afterColon = .ok (next, rest)) :
    readMembers seen started target s = readMembers (f :: seen) true next rest := by
  rw [readMembers_of_key hkey, Field.ofName?_name]
  simp [hf, hcolon, hvalue, bind, Except.bind]

/-- A field that has been seen is refused as soon as its key has been read. -/
theorem readMembers_of_seen {f : Field} {afterKey : List Char}
    (hkey : readKey started s = .ok (some f.name.toList, afterKey)) (hf : f ∈ seen) :
    readMembers seen started target s = .error (.duplicateField f.name) := by
  rw [readMembers_of_key hkey, Field.ofName?_name]
  exact if_pos hf

/-- A member that is no field is skipped. -/
theorem readMembers_of_unknown {name afterKey afterColon : List Char}
    (hkey : readKey started s = .ok (some name, afterKey)) (hname : Field.ofName? name = none)
    (hcolon : Json.readColon afterKey = .ok afterColon)
    (hvalue : Json.skipValue [] afterColon = .ok rest) :
    readMembers seen started target s = readMembers seen true target rest := by
  rw [readMembers_of_key hkey, hname]
  simp [hcolon, hvalue, bind, Except.bind]

/-- A member that writes a setting sets its field, or is refused if the field has been seen. -/
theorem readMembers_known (seen : List Field) (started : Bool) (target : Settings) {st : Setting}
    (hbetween : Blank between) (h : MemberText (some st) s) (hrest : EndsNumber rest) :
    ∃ after, Blank after ∧
      readMembers seen started target (between ++ (separator started ++ (s ++ rest))) =
        if st.field ∈ seen then .error (.duplicateField st.field.name)
        else readMembers (st.field :: seen) true (st.into target) (after ++ rest) := by
  cases h with
  | @known _ key before value after hkey hbefore hvalue hafter =>
    obtain ⟨afterKey, hread, hcolon⟩ := readKey_of_text started hbetween hkey
      (before ++ (value ++ (after ++ rest)))
    refine ⟨after, hafter, ?_⟩
    rw [List.append_assoc, List.append_assoc, List.append_assoc]
    split
    · next hf => exact readMembers_of_seen hread hf
    · next hf =>
      exact readMembers_of_field hread hf hcolon
        (Setting.read_of_writtenAs target hbefore hvalue (hrest.blank_append hafter))

/-- A member whose key is no field changes nothing, whatever its value is. -/
theorem readMembers_unknown (seen : List Field) (started : Bool) (target : Settings)
    (hbetween : Blank between) (h : MemberText none s) (hrest : EndsNumber rest) :
    ∃ after, Blank after ∧
      readMembers seen started target (between ++ (separator started ++ (s ++ rest))) =
        readMembers seen true target (after ++ rest) := by
  cases h with
  | @unknown name key before value after hname hkey hbefore hvalue hafter =>
    obtain ⟨afterKey, hread, hcolon⟩ := readKey_of_text started hbetween hkey
      (before ++ (value ++ (after ++ rest)))
    refine ⟨after, hafter, ?_⟩
    rw [List.append_assoc, List.append_assoc, List.append_assoc]
    exact readMembers_of_unknown hread hname hcolon
      (Json.skipValue_of_written hbefore hvalue (hrest.blank_append hafter))

/-! ### All members -/

/-- **What reading members does is what putting in their settings does.** -/
theorem readMembers_joined (hinside : Blank inside) :
    ∀ (ms : List Member) {seen : List Field} {started : Bool} {target : Settings}
      {between : List Char}, Blank between →
      readMembers seen started target
          (between ++ (joined started (ms.map Member.text) ++ (inside ++ '\x7d' :: rest))) =
        (Setting.assign seen target (given ms)).map fun settings => (settings, rest)
  | [], _, _, _, _, hbetween => readMembers_of_end (readKey_end hbetween hinside)
  | m :: ms, seen, started, target, between, hbetween => by
    have hbrace : EndsNumber (inside ++ '\x7d' :: rest) :=
      EndsNumber.blank_append hinside (Json.endsNumber_closing (b := .object))
    have hends := endsNumber_joined (ms.map Member.text) hbrace
    rw [List.map_cons, joined, List.append_assoc, List.append_assoc]
    obtain ⟨text, setting?, isText⟩ := m
    cases setting? with
    | none =>
      -- the blanks after a member become those before the next comma
      obtain ⟨after, hafter, hread⟩ :=
        readMembers_unknown seen started target hbetween isText hends
      exact hread.trans (readMembers_joined hinside ms hafter)
    | some st =>
      obtain ⟨after, hafter, hread⟩ :=
        readMembers_known seen started target hbetween isText hends
      have hgiven : given (⟨text, some st, isText⟩ :: ms) = st :: given ms := rfl
      rw [hread, hgiven, Setting.assign]
      split
      · rfl
      · exact readMembers_joined hinside ms hafter

/-- **What an object does is what putting in its settings does.** -/
theorem ofJson_of_isObject {ms : List Member} (h : IsObject ms text) :
    ofJson text = Setting.assign [] default (given ms) := by
  obtain ⟨before, inside, after, hbefore, hinside, hafter, htext⟩ := h
  have hbrace : ∀ s, skipSpace ('\x7b' :: s) = '\x7b' :: s := fun _ => rfl
  have hread : readValue text.toList =
      (Setting.assign [] default (given ms)).map fun settings => (settings, after) := by
    rw [htext, readValue, skipSpace_append hbefore, hbrace]
    exact readMembers_joined hinside ms Json.blank_nil
  rw [ofJson, hread]
  cases Setting.assign [] default (given ms) with
  | error e => rfl
  | ok settings => simp [Except.map, skipSpace_eq_nil hafter]

/-! ## Lists -/

/-- A value in a list. -/
structure Element where
  text : List Char
  setting : Setting
  isText : ∃ before value after, Blank before ∧ setting.WrittenAs value ∧ Blank after ∧
    text = before ++ (value ++ after)

/-- The value of a field as it is written. -/
def Element.written (settings : Settings) (f : Field) : Element :=
  ⟨f.write settings, settings.setting f, [], f.write settings, [], Json.blank_nil,
    Setting.writtenAs_write settings f, Json.blank_nil, by simp⟩

/-- Whether a text is a list of these values. -/
def IsList (es : List Element) (text : String) : Prop :=
  ∃ before inside after, Blank before ∧ Blank inside ∧ Blank after ∧
    text.toList = before ++ '[' :: (joined false (es.map Element.text) ++ (inside ++ ']' :: after))

theorem readElements_end (hbetween : Blank between) (hinside : Blank inside) :
    readElements started target fields (between ++ (inside ++ ']' :: rest)) =
      .ok (target, rest) := by
  have hbracket : skipSpace (between ++ (inside ++ ']' :: rest)) = ']' :: rest := by
    rw [skipSpace_append hbetween, skipSpace_append hinside]
    rfl
  cases fields with
  | nil => simp [readElements, readListEnd, hbracket]
  | cons => simp [readElements, hbracket]

/-- A value sets the field at its place. -/
theorem readElements_value {st : Setting} {before value : List Char} (hbetween : Blank between)
    (hbefore : Blank before) (hvalue : st.WrittenAs value) (hrest : EndsNumber rest) :
    readElements started target (st.field :: fields)
        (between ++ (separator started ++ (before ++ (value ++ rest)))) =
      readElements true (st.into target) fields rest := by
  -- the blanks before the value are gone when its field reads it
  have hread := Setting.read_of_writtenAs target Json.blank_nil hvalue hrest
  obtain ⟨c, value, rfl, hspace, hclosing⟩ := hvalue.written.exists_cons
  have hskip : skipSpace (before ++ (c :: (value ++ rest))) = c :: (value ++ rest) :=
    (skipSpace_append hbefore).trans (Json.skipSpace_cons hspace)
  have hcomma : ∀ t, skipSpace (',' :: t) = ',' :: t := fun _ => rfl
  rw [List.nil_append, List.cons_append] at hread
  cases started <;>
    simp [readElements, separator, skipSpace_append hbetween, hcomma, hskip, hclosing, hread]

/-- **Values set the fields at their places.** -/
theorem readElements_joined (hinside : Blank inside) :
    ∀ (es : List Element) {fields : List Field} {started : Bool} {target : Settings}
      {between : List Char}, Blank between → (es.map fun e => e.setting.field) <+: fields →
      readElements started target fields
          (between ++ (joined started (es.map Element.text) ++ (inside ++ ']' :: rest))) =
        .ok ((es.map Element.setting).foldl Setting.into target, rest)
  | [], _, _, _, _, hbetween, _ => readElements_end hbetween hinside
  | e :: es, [], _, _, _, _, hfields => absurd (List.prefix_nil.mp hfields) (List.cons_ne_nil _ _)
  | e :: es, f :: fields, started, target, between, hbetween, hfields => by
    obtain ⟨rfl, hprefix⟩ := List.cons_prefix_cons.mp hfields
    have hbracket : EndsNumber (inside ++ ']' :: rest) :=
      EndsNumber.blank_append hinside (Json.endsNumber_closing (b := .list))
    have hends := endsNumber_joined (es.map Element.text) hbracket
    obtain ⟨text, st, before, value, after, hbefore, hvalue, hafter, rfl⟩ := e
    rw [List.map_cons, joined, List.append_assoc, List.append_assoc, List.append_assoc,
      List.append_assoc, readElements_value hbetween hbefore hvalue (hends.blank_append hafter),
      readElements_joined hinside es hafter hprefix, List.map_cons, List.foldl_cons]

/-- **A list sets as many of the first fields as it has values.** -/
theorem ofJson_of_isList {es : List Element} (h : IsList es text)
    (hfields : (es.map fun e => e.setting.field) <+: Field.all) :
    ofJson text = .ok ((es.map Element.setting).foldl Setting.into default) := by
  obtain ⟨before, inside, after, hbefore, hinside, hafter, htext⟩ := h
  have hbracket : ∀ s, skipSpace ('[' :: s) = '[' :: s := fun _ => rfl
  have hread : readValue text.toList =
      .ok ((es.map Element.setting).foldl Setting.into default, after) := by
    rw [htext, readValue, skipSpace_append hbefore, hbracket]
    exact readElements_joined hinside es Json.blank_nil hfields
  rw [ofJson, hread]
  simp [skipSpace_eq_nil hafter]

end KeyBench.Settings
