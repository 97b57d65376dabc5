import Mathlib.Data.Fintype.Sum
import KeyBench.Forecast

/-!
# Renamed keys

The keys of a sequence can be swapped for others. How the sequence is cut into reports rests only on
whether the key that is released is the hot one, and so on which events are of one key. If different
keys get different names, the reports of the renamed events are the renamed reports, with their
events in the same order (`ofEvents_map_rename`).

A renaming need only keep apart the keys that occur. There are finitely many keys, so it agrees on
these with one that keeps all keys apart (`Key.exists_injective_of_injOn`), and the lemmas about
single steps are stated for renamings of the latter kind.
-/

namespace KeyBench

/-! ## Renaming -/

instance : Fintype Key := .ofList Key.all Key.mem_all

variable {f g : Key → Key}

/-- **A renaming that keeps some keys apart agrees on them with one that keeps all keys apart.** -/
theorem Key.exists_injective_of_injOn {s : Set Key} (hf : Set.InjOn f s) :
    ∃ g : Key → Key, Function.Injective g ∧ ∀ k ∈ s, g k = f k := by
  have hmaps : Set.MapsTo f s (Finset.univ : Finset Key) := fun _ _ => Finset.mem_univ _
  obtain ⟨σ, hσ⟩ := hmaps.exists_equiv_extend_of_card_eq rfl hf
  exact ⟨fun k => σ k, Subtype.val_injective.comp σ.injective, hσ⟩

/-- The event with its key renamed. -/
def Event.rename (f : Key → Key) (e : Event) : Event := ⟨f e.key, e.direction⟩

/-- The report with its keys renamed and its events where they are. -/
def Report.rename (f : Key → Key) (r : Report) : Report := ⟨r.events.map (Event.rename f)⟩

/-- The forecast with its keys renamed. -/
def Forecast.rename (f : Key → Key) (q : Forecast) : Forecast :=
  ⟨q.reports.map (Report.rename f), q.outstanding⟩

/-- Only the names of keys that occur matter. -/
theorem Event.map_rename_congr {es : List Event} (h : ∀ e ∈ es, g e.key = f e.key) :
    es.map (rename g) = es.map (rename f) := by
  refine List.map_congr_left fun e he => ?_
  rw [rename, rename, h e he]

namespace Forecast

variable {es : List Event} {e : Event} {hot : Option Key}

theorem rename_congr {q : Forecast} (h : ∀ e ∈ q.reports.flatMap Report.events, g e.key = f e.key) :
    q.rename g = q.rename f := by
  have hreports : q.reports.map (Report.rename g) = q.reports.map (Report.rename f) := by
    refine List.map_congr_left fun r hr => ?_
    rw [Report.rename, Report.rename, Event.map_rename_congr]
    intro e he
    exact h e (List.mem_flatMap.mpr ⟨r, hr, he⟩)
  rw [rename, rename, hreports]

/-! ## Cutting renamed events -/

theorem map_eq_some_iff_of_injective (hf : Function.Injective f) {k : Key} :
    hot.map f = some (f k) ↔ hot = some k := by
  rw [← Option.map_some, (Option.map_injective hf).eq_iff]

theorem opens_rename (hf : Function.Injective f) :
    opens (hot.map f) (e.rename f) = opens hot e := by
  have hhot : (hot.map f == some (f e.key)) = (hot == some e.key) := by
    rw [Bool.eq_iff_iff, beq_iff_eq, beq_iff_eq, map_eq_some_iff_of_injective hf]
  rw [opens, opens, Event.rename, hhot]
  rfl

theorem hotAfter_rename (hf : Function.Injective f) :
    hotAfter (hot.map f) (e.rename f) = (hotAfter hot e).map f := by
  obtain ⟨k, d⟩ := e
  cases d with
  | press => rfl
  | release =>
    simp only [hotAfter, Event.rename, map_eq_some_iff_of_injective hf]
    split <;> rfl

/-- **Renamed events are cut where the events are cut.** -/
theorem cut_rename (hf : Function.Injective f) (hot : Option Key) (es : List Event) :
    cut (hot.map f) (es.map (Event.rename f)) =
      ((cut hot es).1.map (Event.rename f), (cut hot es).2.map (Report.rename f)) := by
  induction es generalizing hot with
  | nil => rfl
  | cons e es ih =>
    rw [List.map_cons, cut, cut, hotAfter_rename hf, ih, opens_rename hf]
    by_cases h : opens hot e
    · simp [h, Report.rename]
    · simp [h]

theorem reportsOf_rename (hf : Function.Injective f) (es : List Event) :
    reportsOf (es.map (Event.rename f)) = (reportsOf es).map (Report.rename f) := by
  have hcut := cut_rename hf none es
  rw [Option.map_none] at hcut
  unfold reportsOf
  rw [hcut]
  obtain ⟨riders, reports⟩ := cut none es
  cases riders with
  | nil => rfl
  | cons e riders => rfl

theorem ofEvents_rename (hf : Function.Injective f) (es : List Event) :
    ofEvents (es.map (Event.rename f)) = (ofEvents es).rename f := by
  rw [ofEvents_eq, ofEvents_eq, reportsOf_rename hf, List.length_map]
  rfl

/-- **The reports of renamed events are the renamed reports**, if the renaming keeps the keys of the
events apart. -/
theorem ofEvents_map_rename (hf : Set.InjOn f {k | ∃ e ∈ es, e.key = k}) :
    ofEvents (es.map (Event.rename f)) = (ofEvents es).rename f := by
  obtain ⟨g, hg, hgf⟩ := Key.exists_injective_of_injOn hf
  have hevents : ∀ e ∈ es, g e.key = f e.key := fun e he => hgf e.key ⟨e, he, rfl⟩
  have hreports : ∀ e ∈ (ofEvents es).reports.flatMap Report.events, g e.key = f e.key := by
    intro e he
    rw [reports_ofEvents, reportsOf_flatten] at he
    exact hevents e he
  rw [← Event.map_rename_congr hevents, ofEvents_rename hg, rename_congr hreports]

end Forecast

end KeyBench
