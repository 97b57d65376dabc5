import KeyBench.Proofs.Settings.Setting
import Mathlib.Data.List.Duplicate

/-!
# Several settings

Settings of different fields may be put in in any order (`foldl_into_perm`). `assign` puts settings
in one after another and remembers the fields: it does what putting them in does if no field comes
twice (`assign_of_nodup`), and it refuses them if one does (`exists_assign_eq_error`).
-/

namespace KeyBench.Settings.Setting

variable {st : Setting} {sts sts' : List Setting} {settings : Settings} {f : Field}
  {seen : List Field}

/-! ## The order of settings -/

/-- A field that is not set keeps what it was. -/
theorem setting_foldl_of_not_mem : ∀ {sts : List Setting} {settings : Settings},
    f ∉ sts.map field → (sts.foldl into settings).setting f = settings.setting f
  | [], _, _ => rfl
  | st :: sts, settings, hf => by
    rw [List.map_cons, List.mem_cons, not_or] at hf
    rw [List.foldl_cons, setting_foldl_of_not_mem hf.2, setting_into_of_ne hf.1]

/-- A field that is set once holds what it was set to. -/
theorem setting_foldl_of_mem : ∀ {sts : List Setting} {settings : Settings},
    (sts.map field).Nodup → st ∈ sts → (sts.foldl into settings).setting st.field = st
  | [], _, _, hst => absurd hst List.not_mem_nil
  | st' :: sts, settings, hnodup, hst => by
    rw [List.map_cons, List.nodup_cons] at hnodup
    rw [List.foldl_cons]
    rcases List.mem_cons.mp hst with rfl | hst
    · rw [setting_foldl_of_not_mem hnodup.1, setting_into_self]
    · exact setting_foldl_of_mem hnodup.2 hst

/-- **Settings of different fields may be put in in any order.** -/
theorem foldl_into_perm (hnodup : (sts.map field).Nodup) (hperm : sts.Perm sts') :
    sts.foldl into settings = sts'.foldl into settings := by
  have hfields := hperm.map field
  apply eq_of_setting
  intro f
  by_cases hf : f ∈ sts.map field
  · obtain ⟨st, hst, rfl⟩ := List.mem_map.mp hf
    rw [setting_foldl_of_mem hnodup hst,
      setting_foldl_of_mem (hfields.nodup_iff.mp hnodup) (hperm.mem_iff.mp hst)]
  · rw [setting_foldl_of_not_mem hf, setting_foldl_of_not_mem (mt hfields.mem_iff.mpr hf)]

/-! ## Fields that come twice -/

/-- Puts settings in one after another. `seen` holds the fields that have been set, and none of
these may be set again. -/
def assign (seen : List Field) (settings : Settings) : List Setting → Except Json.Error Settings
  | [] => .ok settings
  | st :: sts =>
    if st.field ∈ seen then .error (.duplicateField st.field.name)
    else assign (st.field :: seen) (st.into settings) sts

/-- Whether settings are of different fields, none of which has been seen. -/
def Fresh (seen : List Field) (sts : List Setting) : Prop :=
  (sts.map field).Nodup ∧ ∀ st ∈ sts, st.field ∉ seen

theorem fresh_cons_iff :
    Fresh seen (st :: sts) ↔ st.field ∉ seen ∧ Fresh (st.field :: seen) sts := by
  rw [Fresh, Fresh, List.map_cons, List.nodup_cons, List.forall_mem_cons]
  simp only [List.mem_map, not_exists, not_and, List.mem_cons, not_or]
  constructor
  · rintro ⟨⟨hst, hnodup⟩, hseen, hrest⟩
    exact ⟨hseen, hnodup, fun st' hst' => ⟨hst st' hst', hrest st' hst'⟩⟩
  · rintro ⟨hseen, hnodup, hrest⟩
    exact ⟨⟨fun st' hst' => (hrest st' hst').1, hnodup⟩, hseen, fun st' hst' => (hrest st' hst').2⟩

theorem assign_of_fresh : ∀ {sts : List Setting} {seen : List Field} {settings : Settings},
    Fresh seen sts → assign seen settings sts = .ok (sts.foldl into settings)
  | [], _, _, _ => rfl
  | st :: sts, _, _, h => by
    obtain ⟨hst, hrest⟩ := fresh_cons_iff.mp h
    rw [assign, if_neg hst, assign_of_fresh hrest, List.foldl_cons]

/-- What is refused is a field that has been seen or that comes twice. -/
theorem exists_assign_eq_error_of_not_fresh : ∀ {sts : List Setting} {seen : List Field}
    (settings : Settings), ¬Fresh seen sts →
      ∃ f ∈ sts.map field, (f ∈ seen ∨ List.Duplicate f (sts.map field)) ∧
        assign seen settings sts = .error (.duplicateField f.name)
  | [], _, _, h => absurd ⟨List.nodup_nil, fun _ hst => absurd hst List.not_mem_nil⟩ h
  | st :: sts, seen, settings, h => by
    by_cases hst : st.field ∈ seen
    · exact ⟨st.field, List.mem_cons_self, .inl hst, if_pos hst⟩
    · have hrest : ¬Fresh (st.field :: seen) sts := fun hfresh =>
        h (fresh_cons_iff.mpr ⟨hst, hfresh⟩)
      obtain ⟨f, hf, htwice, herror⟩ :=
        exists_assign_eq_error_of_not_fresh (st.into settings) hrest
      refine ⟨f, List.mem_cons_of_mem _ hf, ?_, (if_neg hst).trans herror⟩
      -- a field that is seen now and comes again comes twice
      rcases htwice with hmem | hduplicate
      · rcases List.mem_cons.mp hmem with rfl | hmem
        · exact .inr (List.Mem.duplicate_cons_self hf)
        · exact .inl hmem
      · exact .inr (hduplicate.duplicate_cons _)

/-- Settings of different fields are put in. -/
theorem assign_of_nodup (h : (sts.map field).Nodup) :
    assign [] settings sts = .ok (sts.foldl into settings) :=
  assign_of_fresh ⟨h, fun _ _ => List.not_mem_nil⟩

/-- **A field that comes twice is refused.** -/
theorem exists_assign_eq_error (h : ¬(sts.map field).Nodup) :
    ∃ f, List.Duplicate f (sts.map field) ∧
      assign [] settings sts = .error (.duplicateField f.name) := by
  have hfresh : ¬Fresh [] sts := fun hfresh => h hfresh.1
  obtain ⟨f, _, hseen | hduplicate, herror⟩ := exists_assign_eq_error_of_not_fresh settings hfresh
  · exact absurd hseen List.not_mem_nil
  · exact ⟨f, hduplicate, herror⟩

end KeyBench.Settings.Setting
