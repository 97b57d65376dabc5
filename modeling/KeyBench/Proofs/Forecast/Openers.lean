import Mathlib.Data.List.Chain
import KeyBench.Forecast

/-!
# Openers and riders

Each report of a sequence, the first one perhaps excepted, starts with the event that opened it.
All others in it are riders, that is, events that open no report while it is the open one. The
relation `Opened` follows the reports with the hot key that each opener leaves.

Two things hold of the reports of any sequence, playable or not:

* `filled_of_mem_reportsOf` : no report is empty, only its first event can be a press, and it never
  holds both a press and a release of one key
* `isChain_reportsOf` : a report that comes after another holds a press, or an event that is not in
  the report before it
-/

namespace KeyBench

/-! ## What a report holds -/

/-- What every report of a sequence looks like. -/
structure Report.Filled (r : Report) : Prop where
  ne_nil : r.events ≠ []
  riders_up : ∀ e ∈ r.events.tail, e.isPress = false
  one_sided : ∀ k, Event.press k ∈ r.events → Event.release k ∉ r.events

/-- Whether a report holds a press, or an event that the report before it does not hold. -/
def Report.Follows (r s : Report) : Prop := ∃ e ∈ s.events, e.isPress = true ∨ e ∉ r.events

namespace Report.Filled

variable {r : Report} {e f : Event}

theorem filter_tail (h : r.Filled) : r.events.tail.filter Event.isPress = [] := by
  rw [List.filter_eq_nil_iff]
  intro e he
  simp [h.riders_up e he]

/-- A report holds one press at most. -/
theorem length_filter_isPress_le (h : r.Filled) : (r.events.filter Event.isPress).length ≤ 1 := by
  obtain ⟨e, es, hes⟩ := List.exists_cons_of_ne_nil h.ne_nil
  have htail := h.filter_tail
  rw [hes, List.tail_cons] at htail
  rw [hes, List.filter_cons, htail]
  split <;> simp

/-- All presses of a report are one and the same event. -/
theorem eq_of_isPress (h : r.Filled) (he : e ∈ r.events) (hf : f ∈ r.events)
    (hep : e.isPress = true) (hfp : f.isPress = true) : e = f := by
  have hle := h.length_filter_isPress_le
  have hep' : e ∈ r.events.filter Event.isPress := List.mem_filter.mpr ⟨he, hep⟩
  have hfp' : f ∈ r.events.filter Event.isPress := List.mem_filter.mpr ⟨hf, hfp⟩
  obtain ⟨g, hg⟩ := List.length_eq_one_iff.mp
    (Nat.le_antisymm hle (List.length_pos_of_mem hep'))
  rw [hg, List.mem_singleton] at hep' hfp'
  rw [hep', hfp']

/-- All events of a key in a report are one and the same event. -/
theorem eq_of_key_eq (h : r.Filled) (he : e ∈ r.events) (hf : f ∈ r.events)
    (hk : e.key = f.key) : e = f := by
  obtain ⟨j, d⟩ := e
  obtain ⟨k, d'⟩ := f
  obtain rfl : j = k := hk
  cases d <;> cases d'
  · rfl
  · exact absurd he (h.one_sided j hf)
  · exact absurd hf (h.one_sided j he)
  · rfl

end Report.Filled

namespace Forecast

variable {hot : Option Key} {e : Event}

/-! ## The hot key -/

theorem isPress_eq_false_of_not_opens (h : opens hot e = false) : e.isPress = false := by
  rw [opens, Bool.or_eq_false_iff] at h
  exact h.1

@[simp] theorem opens_none : opens none e = e.isPress := by simp [opens]

/-- A rider leaves the hot key as it is. -/
theorem hotAfter_of_not_opens (h : opens hot e = false) : hotAfter hot e = hot := by
  obtain ⟨k, d⟩ := e
  cases d with
  | press => simp [opens, Event.isPress] at h
  | release =>
    simp only [opens, Event.isPress, Bool.or_eq_false_iff, beq_eq_false_iff_ne] at h
    simp only [hotAfter]
    rw [if_neg h.2]

/-- No key is hot after a release has opened a report. -/
theorem hotAfter_of_opens (h : opens hot e = true) (he : e.isPress = false) :
    hotAfter hot e = none := by
  obtain ⟨k, d⟩ := e
  cases d with
  | press => simp [Event.isPress] at he
  | release =>
    simp only [opens, Event.isPress, Bool.or_eq_true, beq_iff_eq] at h
    rcases h with h | h
    · cases h
    · simp only [hotAfter]
      rw [if_pos h]

/-! ## Reports opened one after the other -/

/-- The reports that are opened one after the other, given the hot key before the first of them. -/
inductive Opened : Option Key → List Report → Prop
  | nil {hot : Option Key} : Opened hot []
  | cons {hot : Option Key} {e : Event} {riders : List Event} {rs : List Report} :
      opens hot e = true → (∀ f ∈ riders, opens (hotAfter hot e) f = false) →
      Opened (hotAfter hot e) rs → Opened hot (⟨e :: riders⟩ :: rs)

/-- **Cutting gives riders and then opened reports.** -/
theorem opened_cut : ∀ (hot : Option Key) (es : List Event),
    (∀ f ∈ (cut hot es).1, opens hot f = false) ∧ Opened hot (cut hot es).2
  | hot, [] => ⟨by simp [cut], .nil⟩
  | hot, e :: es => by
    obtain ⟨hriders, hopened⟩ := opened_cut (hotAfter hot e) es
    rw [cut]
    by_cases h : opens hot e = true
    · simp only [h, if_true]
      exact ⟨by simp, .cons h hriders hopened⟩
    · -- a rider does not change what opens a report
      rw [Bool.not_eq_true] at h
      rw [hotAfter_of_not_opens h] at hriders hopened ⊢
      simp only [h, Bool.false_eq_true, if_false]
      refine ⟨?_, hopened⟩
      intro f hf
      rcases List.mem_cons.mp hf with rfl | hf
      · exact h
      · exact hriders f hf

/-- The reports of a sequence are opened reports, with a report of mere releases before them if the
sequence starts with a release. -/
theorem reportsOf_cases (es : List Event) : Opened none (reportsOf es) ∨
    ∃ (riders : List Event) (rs : List Report), riders ≠ [] ∧
      (∀ f ∈ riders, f.isPress = false) ∧ Opened none rs ∧ reportsOf es = ⟨riders⟩ :: rs := by
  obtain ⟨hriders, hopened⟩ := opened_cut none es
  unfold reportsOf
  split
  · next h =>
    rw [h] at hopened
    exact .inl hopened
  · next riders rs hne h =>
    rw [h] at hriders hopened
    refine .inr ⟨riders, rs, hne, ?_, hopened, rfl⟩
    intro f hf
    exact isPress_eq_false_of_not_opens (hriders f hf)

/-! ## The reports of a sequence -/

/-- An opener with riders fills a report. -/
theorem filled_of_opens {riders : List Event} (h : opens hot e = true)
    (hriders : ∀ f ∈ riders, opens (hotAfter hot e) f = false) : Report.Filled ⟨e :: riders⟩ where
  ne_nil := by simp
  riders_up := fun f hf => isPress_eq_false_of_not_opens (hriders f hf)
  one_sided := by
    intro k hpress hrelease
    have hp : e = Event.press k := by
      rcases List.mem_cons.mp hpress with hp | hp
      · exact hp.symm
      · cases isPress_eq_false_of_not_opens (hriders _ hp)
    subst hp
    rcases List.mem_cons.mp hrelease with hr | hr
    · cases hr
    · -- the key just pressed is hot, so its release is no rider
      have := hriders _ hr
      simp [opens, hotAfter, Event.press, Event.release] at this

/-- Releases alone fill a report, too. -/
theorem filled_of_releases {riders : List Event} (hne : riders ≠ [])
    (h : ∀ f ∈ riders, f.isPress = false) : Report.Filled ⟨riders⟩ where
  ne_nil := hne
  riders_up := fun f hf => h f (List.mem_of_mem_tail hf)
  one_sided := fun k hk => by cases h _ hk

theorem Opened.filled {rs : List Report} (h : Opened hot rs) : ∀ r ∈ rs, r.Filled := by
  induction h with
  | nil => simp
  | cons hopens hriders _ ih =>
    intro r hr
    rcases List.mem_cons.mp hr with rfl | hr
    · exact filled_of_opens hopens hriders
    · exact ih r hr

/-- **No report of a sequence is empty, has a press among its riders or holds a press and a release
of one key.** -/
theorem filled_of_mem_reportsOf {es : List Event} : ∀ r ∈ reportsOf es, r.Filled := by
  rcases reportsOf_cases es with h | ⟨riders, rs, hne, hriders, hopened, heq⟩
  · exact h.filled
  · intro r hr
    rw [heq] at hr
    rcases List.mem_cons.mp hr with rfl | hr
    · exact filled_of_releases hne hriders
    · exact hopened.filled r hr

theorem ne_nil_of_mem_ofEvents {es : List Event} {r : Report} (hr : r ∈ (ofEvents es).reports) :
    r.events ≠ [] := by
  rw [reports_ofEvents] at hr
  exact (filled_of_mem_reportsOf r hr).ne_nil

/-- An opener follows every report that holds no opener but a press. -/
theorem Opened.follows {r s : Report} {rs : List Report}
    (h : Opened hot (s :: rs)) (hr : ∀ f ∈ r.events, opens hot f = true → f.isPress = true) :
    r.Follows s := by
  cases h with
  | @cons _ e _ _ hopens _ _ =>
    refine ⟨e, List.mem_cons_self, ?_⟩
    by_cases hp : e.isPress = true
    · exact .inl hp
    · exact .inr fun he => hp (hr e he hopens)

theorem Opened.isChain {rs : List Report} (h : Opened hot rs) : rs.IsChain Report.Follows := by
  induction h with
  | nil => exact .nil
  | @cons hot e riders rs hopens hriders hrest ih =>
    cases rs with
    | nil => exact .singleton _
    | cons s ss =>
      refine .cons_cons (hrest.follows ?_) ih
      intro f hf hfopens
      rcases List.mem_cons.mp hf with rfl | hf
      · -- after a hot release no key is hot, so the opener would not open the next report
        by_contra hp
        rw [hotAfter_of_opens hopens (by simpa using hp), opens_none] at hfopens
        exact hp hfopens
      · rw [hriders f hf] at hfopens
        cases hfopens

/-- **A report that comes after another holds a press, or an event that is not in the other.** -/
theorem isChain_reportsOf (es : List Event) : (reportsOf es).IsChain Report.Follows := by
  rcases reportsOf_cases es with h | ⟨riders, rs, _, _, hopened, heq⟩
  · exact h.isChain
  · rw [heq]
    cases rs with
    | nil => exact .singleton _
    | cons s ss =>
      refine .cons_cons (hopened.follows ?_) hopened.isChain
      intro f _ hf
      rwa [opens_none] at hf

end Forecast

end KeyBench
