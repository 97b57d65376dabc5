import KeyBench.Proofs.Settings.RoundTrip

/-!
# Objects of settings

The members of an object may stand in any order, and members that are no fields may stand among
them or be left out (`Rearranged`): the settings that are read stay the same. They are the defaults
except for the fields that the object sets, and a list whose values belong to these fields gives the
same. An object that sets a field twice is refused (`object_sets_its_fields`).
-/

namespace KeyBench.Settings

open Json (Blank EndsNumber)

variable {ms ms' : List Member} {text : String}

/-- The fields that members set. -/
def setFields (ms : List Member) : List Field := (given ms).map Setting.field

/-- Whether members are others in another order, with or without some that are no fields. -/
inductive Rearranged : List Member → List Member → Prop
  | perm {ms ms' : List Member} (h : ms.Perm ms') : Rearranged ms ms'
  | insert {ms ms' : List Member} {m : Member} (h : m.setting? = none) :
    Rearranged (ms ++ ms') (ms ++ m :: ms')
  | remove {ms ms' : List Member} {m : Member} (h : m.setting? = none) :
    Rearranged (ms ++ m :: ms') (ms ++ ms')
  | trans {ms₁ ms₂ ms₃ : List Member} (h : Rearranged ms₁ ms₂) (h' : Rearranged ms₂ ms₃) :
    Rearranged ms₁ ms₃

/-- A member that is no field gives no setting. -/
theorem given_insert {m : Member} (h : m.setting? = none) :
    given (ms ++ m :: ms') = given (ms ++ ms') := by
  simp [given, h]

theorem Rearranged.given_perm (h : Rearranged ms ms') : (given ms).Perm (given ms') := by
  induction h with
  | perm h => exact h.filterMap _
  | insert h | remove h => rw [given_insert h]
  | trans _ _ ih ih' => exact ih.trans ih'

/-- An object that sets no field twice is read. -/
theorem ofJson_of_nodup (h : IsObject ms text) (hnodup : (setFields ms).Nodup) :
    ofJson text = .ok ((given ms).foldl Setting.into default) := by
  rw [ofJson_of_isObject h]
  exact Setting.assign_of_nodup hnodup

/-- **An object sets its fields and no others.** If it sets no field twice, what is read holds the
settings that the object gives and the defaults for all other fields. Neither the order of the
members nor any members that are no fields play a part, and a list of the same settings, which are
then those of the first fields, gives the same. If it sets a field twice, however far apart, it is
refused. A field accepts the texts of its settings and no other values. -/
theorem object_sets_its_fields (h : IsObject ms text) :
    ((setFields ms).Nodup →
      (∃ settings, ofJson text = .ok settings ∧
        (∀ st ∈ given ms, settings.setting st.field = st) ∧
        ∀ f ∉ setFields ms, settings.setting f = default.setting f) ∧
      (∀ ms' text', Rearranged ms ms' → IsObject ms' text' → ofJson text' = ofJson text) ∧
      ∀ es text', IsList es text' → (es.map fun e => e.setting.field) <+: Field.all →
        (es.map Element.setting).Perm (given ms) → ofJson text' = ofJson text) ∧
    (¬(setFields ms).Nodup → ∃ f, List.Duplicate f (setFields ms) ∧
      ofJson text = .error (.duplicateField f.name)) ∧
    ∀ (f : Field) (settings next : Settings) (s rest : List Char), EndsNumber rest →
      (f.read settings s = .ok (next, rest) ↔ ∃ (st : Setting) (before value : List Char),
        st.field = f ∧ Blank before ∧ st.WrittenAs value ∧ s = before ++ (value ++ rest) ∧
        next = st.into settings) := by
  refine ⟨fun hnodup => ⟨?_, ?_, ?_⟩, fun htwice => ?_, fun _ _ _ _ _ => Setting.read_eq_ok_iff⟩
  · refine ⟨_, ofJson_of_nodup h hnodup, fun st hst => ?_, fun f hf => ?_⟩
    · exact Setting.setting_foldl_of_mem hnodup hst
    · exact Setting.setting_foldl_of_not_mem hf
  · intro ms' text' hms' htext'
    have hperm := hms'.given_perm
    have hnodup' : (setFields ms').Nodup := (hperm.map Setting.field).nodup_iff.mp hnodup
    rw [ofJson_of_nodup h hnodup, ofJson_of_nodup htext' hnodup',
      Setting.foldl_into_perm hnodup hperm]
  · intro es text' htext' hfields hperm
    rw [ofJson_of_nodup h hnodup, ofJson_of_isList htext' hfields,
      Setting.foldl_into_perm hnodup hperm.symm]
  · rw [ofJson_of_isObject h]
    exact Setting.exists_assign_eq_error htwice

/-! ## Texts of the same settings -/

/-- Settings that differ from the defaults in two fields. -/
def changed : Settings := { default with device := "/dev/a", settleMs := 250 }

/-- A path whose key is written with an escape. -/
theorem memberText_escaped : MemberText (some (.device "/dev/a"))
    " \"\\u0070ort\":\"/dev/a\"".toList := by
  have hblank : Blank [' '] := by decide
  have hletter : Json.Escape ['u', '0', '0', '7', '0'] 'p' := .number rfl rfl rfl
  have hkey : KeyText (Setting.device "/dev/a").field.name.toList _ :=
    .quoted hblank (.escape hletter (Json.stringBody_flatMap ['o', 'r', 't'])) Json.blank_nil
  exact MemberText.known hkey Json.blank_nil (Setting.writtenAs_write changed .device)
    Json.blank_nil

/-- A member that is no field, and whose value is nested. -/
theorem memberText_nested : MemberText none
    "\"x\" :[\x7b\"a\":null\x7d, -1.5e3]".toList := by
  have hblank : Blank [' '] := by decide
  have hkey : KeyText ['x'] _ := .quoted Json.blank_nil (Json.stringBody_flatMap ['x']) hblank
  have hbody : Json.LooseBody ['a'] := (Json.stringBody_flatMap ['a']).loose
  have hobject : Json.Written .value _ :=
    .full (.last (.key Json.blank_nil hbody Json.blank_nil) Json.blank_nil .null Json.blank_nil)
  have hone : Json.IsInteger ['1'] := .positive (by decide) (List.forall_mem_singleton.mpr rfl)
  have hfive : Json.IsDigits ['5'] := ⟨by decide, List.forall_mem_singleton.mpr rfl⟩
  have hthree : Json.IsDigits ['3'] := ⟨by decide, List.forall_mem_singleton.mpr rfl⟩
  have hnumber : Json.Written .value _ :=
    .negative (.parts hone (.point hfive) (.unsigned (.inl rfl) hthree))
  have hlist : Json.Written .value _ :=
    .full (.more .none Json.blank_nil hobject Json.blank_nil
      (.last .none hblank hnumber Json.blank_nil))
  exact MemberText.unknown rfl hkey Json.blank_nil hlist Json.blank_nil

/-- A member that sets the path. -/
def escaped : Member := ⟨_, _, memberText_escaped⟩

/-- A member that is no field. -/
def nested : Member := ⟨_, _, memberText_nested⟩

/-- A member that sets how long to wait. -/
def settled : Member := .written changed .settleMs

/-- An object with all three members. -/
def nestedText : String :=
  "\x7b\"settle_ms\":250,\"x\" :[\x7b\"a\":null\x7d, -1.5e3], \"\\u0070ort\":\"/dev/a\"\x7d"

/-- An object that sets a field twice. -/
def twiceText : String :=
  "\x7b\"settle_ms\":250,\"x\" :[\x7b\"a\":null\x7d, -1.5e3],\"settle_ms\":250\x7d"

theorem isObject_nested : IsObject [settled, nested, escaped] nestedText :=
  ⟨[], [], [], by decide, by decide, by decide, by decide⟩

theorem isObject_twice : IsObject [settled, nested, settled] twiceText :=
  ⟨[], [], [], by decide, by decide, by decide, by decide⟩

/-- The stranger goes, and the other two members change their places. -/
theorem rearranged_nested : Rearranged [settled, nested, escaped] [escaped, settled] :=
  .trans (@Rearranged.remove [settled] [escaped] nested rfl) (.perm (.swap _ _ _))

theorem object_sets_its_fields_nested :
    ofJson nestedText = .ok changed ∧
    ofJson "\x7b \"\\u0070ort\":\"/dev/a\",\"settle_ms\":250\x7d" = .ok changed ∧
    ofJson "[\"/dev/a\",250]" = .ok changed ∧
    ∃ f : Field, ofJson twiceText = .error (.duplicateField f.name) := by
  have hnodup : (setFields [settled, nested, escaped]).Nodup := by decide
  have htwice : ¬(setFields [settled, nested, settled]).Nodup := by decide
  obtain ⟨⟨settings, hread, hgiven, hother⟩, hrearranged, hlist⟩ :=
    (object_sets_its_fields isObject_nested).1 hnodup
  have hsettings : settings = changed := by
    apply eq_of_setting
    intro f
    cases f with
    | device => exact hgiven (.device "/dev/a") (by decide)
    | settleMs => exact hgiven (.settleMs 250) (by decide)
    | holdMs | queueCapacity | caseCount | seed => exact hother _ (by decide)
  subst hsettings
  refine ⟨hread, ?_, ?_, ?_⟩
  · exact (hrearranged _ _ rearranged_nested
      ⟨[], [], [], by decide, by decide, by decide, by decide⟩).trans hread
  · exact (hlist [.written changed .device, .written changed .settleMs] _
      ⟨[], [], [], by decide, by decide, by decide, by decide⟩ (by decide) (by decide)).trans hread
  · obtain ⟨f, _, herror⟩ := (object_sets_its_fields isObject_twice).2.1 htwice
    exact ⟨f, herror⟩

end KeyBench.Settings
