import KeyBench.Proofs.Settings.Members

/-!
# Settings written down

Settings are written as an object that has a member for each field (`isObject_toJson`). No field
comes twice among them, so each is read back, and there are no others (`ofJson_toJson`).
-/

namespace KeyBench.Settings

/-- Keys are written as they are. -/
theorem Field.flatMap_writeChar_name (f : Field) :
    f.name.toList.flatMap Json.writeChar = f.name.toList := by
  cases f <;> decide

/-- A field that is written is a member. -/
theorem memberText_writeMember (settings : Settings) (f : Field) :
    MemberText (some (settings.setting f)) (f.writeMember settings) := by
  have hbody := Json.stringBody_flatMap f.name.toList
  rw [f.flatMap_writeChar_name] at hbody
  have hkey : KeyText (settings.setting f).field.name.toList
      ('"' :: (f.name.toList ++ ['"', ':'])) := by
    rw [Setting.field_setting]
    exact .quoted Json.blank_nil hbody Json.blank_nil
  have hmember := MemberText.known hkey Json.blank_nil (Setting.writtenAs_write settings f)
    Json.blank_nil
  simpa [Field.writeMember] using hmember

/-- The member that writes a field of settings. -/
def Member.written (settings : Settings) (f : Field) : Member :=
  ⟨f.writeMember settings, some (settings.setting f), memberText_writeMember settings f⟩

/-- Settings that are written are an object of all fields. -/
theorem isObject_toJson (settings : Settings) :
    IsObject (Field.all.map (Member.written settings)) settings.toJson := by
  refine ⟨[], [], [], Json.blank_nil, Json.blank_nil, Json.blank_nil, ?_⟩
  rw [toJson, String.toList_ofList]
  rfl

/-- The members that write fields give what the settings hold for them. -/
theorem given_written (settings : Settings) (fields : List Field) :
    given (fields.map (Member.written settings)) = fields.map settings.setting := by
  rw [given, List.filterMap_map, ← List.filterMap_eq_map']
  rfl

/-- No field is written twice. -/
theorem nodup_fields_all (settings : Settings) :
    ((Field.all.map settings.setting).map Setting.field).Nodup := by
  have hfields : (Field.all.map settings.setting).map Setting.field = Field.all := by
    simp [Function.comp_def]
  rw [hfields]
  decide

/-- There are no other fields than those that are written. -/
theorem foldl_into_all (settings target : Settings) :
    (Field.all.map settings.setting).foldl Setting.into target = settings := by
  apply eq_of_setting
  intro f
  have hmem : settings.setting f ∈ Field.all.map settings.setting := List.mem_map_of_mem f.mem_all
  have hset : ((Field.all.map settings.setting).foldl Setting.into target).setting
      (settings.setting f).field = settings.setting f :=
    Setting.setting_foldl_of_mem (nodup_fields_all settings) hmem
  rwa [Setting.field_setting] at hset

/-- **Settings are read back as they have been written.** -/
theorem ofJson_toJson (settings : Settings) : ofJson settings.toJson = .ok settings := by
  rw [ofJson_of_isObject (isObject_toJson settings), given_written,
    Setting.assign_of_nodup (nodup_fields_all settings), foldl_into_all]

end KeyBench.Settings
