import Mathlib.Data.List.Nodup
import KeyBench.Scenario
import KeyBench.Proofs.Event.Strokes
import KeyBench.Proofs.Forecast.Positions

/-!
# The reports of a sequence that can be played

No report of such a sequence holds two events of one key (`nodup_keys_of_mem_reportsOf`): between
them the key would have to go the other way, and no report holds both a press and a release of a
key. For the same reason a key goes down and up in different reports, and the last report, after
which nothing is released, holds no press.
-/

namespace KeyBench

variable {es : List Event} {r : Report} {rs : List Report} {e : Event} {k : Key} {i j : Nat}

/-! ## The report of a position -/

namespace Report

/-- The index of the report that holds the event at a position. -/
def indexAt : List Report → Nat → Nat
  | [], _ => 0
  | r :: rs, i => if i < r.size then 0 else indexAt rs (i - r.size) + 1

theorem indexAt_mono : ∀ {rs : List Report} {i j : Nat}, i ≤ j → indexAt rs i ≤ indexAt rs j
  | [], _, _, _ => Nat.le_refl 0
  | r :: rs, i, j, h => by
    have ih : indexAt rs (i - r.size) ≤ indexAt rs (j - r.size) :=
      indexAt_mono (Nat.sub_le_sub_right h r.size)
    rw [indexAt, indexAt]
    by_cases hi : i < r.size
    · simp [hi]
    · rw [if_neg hi, if_neg (by omega)]
      omega

/-- The report at the index of a position holds what is at this position. -/
theorem exists_getElem?_indexAt : ∀ {rs : List Report} {i : Nat},
    (rs.flatMap events)[i]? = some e → ∃ r, rs[indexAt rs i]? = some r ∧ e ∈ r.events
  | [], _, h => by simp at h
  | r :: rs, i, h => by
    rw [List.flatMap_cons] at h
    rw [indexAt]
    by_cases hi : i < r.size
    · rw [List.getElem?_append_left hi] at h
      rw [if_pos hi]
      exact ⟨r, rfl, List.mem_of_getElem? h⟩
    · rw [List.getElem?_append_right (Nat.not_lt.mp hi)] at h
      rw [if_neg hi, List.getElem?_cons_succ]
      exact exists_getElem?_indexAt h

/-- There are no more presses in some reports than reports, if each holds one at most. -/
theorem countP_flatMap_le : ∀ {rs : List Report},
    (∀ r ∈ rs, r.events.countP Event.isPress ≤ 1) →
      (rs.flatMap events).countP Event.isPress ≤ rs.length
  | [], _ => Nat.le_refl 0
  | r :: rs, h => by
    have hr := h r List.mem_cons_self
    have ih := countP_flatMap_le fun s hs => h s (List.mem_cons_of_mem _ hs)
    rw [List.flatMap_cons, List.countP_append, List.length_cons]
    omega

theorem Filled.countP_isPress_le (h : r.Filled) : r.events.countP Event.isPress ≤ 1 := by
  rw [List.countP_eq_length_filter]
  exact h.length_filter_isPress_le

end Report

namespace Forecast

open Event

/-! ## One report -/

/-- The events of a report stand side by side in the sequence. -/
theorem exists_around_of_mem_reportsOf (hr : r ∈ reportsOf es) :
    ∃ before after, es = before ++ (r.events ++ after) := by
  obtain ⟨earlier, later, hcut⟩ := List.append_of_mem hr
  refine ⟨earlier.flatMap Report.events, later.flatMap Report.events, ?_⟩
  rw [← List.flatMap_cons, ← List.flatMap_append, ← hcut, reportsOf_flatten]

/-- **The events of a report are those of different keys.** -/
theorem nodup_keys_of_mem_reportsOf (hplay : checkSequence es = .ok ()) (hr : r ∈ reportsOf es) :
    (r.events.map Event.key).Nodup := by
  obtain ⟨before, after, hes⟩ := exists_around_of_mem_reportsOf hr
  rw [List.nodup_iff_count_le_one]
  intro k
  have hcount : (r.events.map Event.key).count k = (history k r.events).length := by
    rw [List.count_eq_countP, List.countP_map, history, List.countP_eq_length_filter]
    congr
  rw [hcount]
  have hhistory := checkSequence_eq_ok_iff.mp hplay k
  rw [hes, history_append, history_append] at hhistory
  rcases hk : history k r.events with _ | ⟨e, _ | ⟨f, fs⟩⟩
  · simp
  · simp
  · -- two events of one key in a report are the same event, so they do not alternate
    rw [hk, List.cons_append, List.cons_append] at hhistory
    have he : e ∈ history k r.events := by simp [hk]
    have hf : f ∈ history k r.events := by simp [hk]
    simp only [history, List.mem_filter, decide_eq_true_eq] at he hf
    have heq := (filled_of_mem_reportsOf r hr).eq_of_key_eq he.1 hf.1 (he.2.trans hf.2.symm)
    exact absurd (congrArg isPress heq) hhistory.isPress_ne

/-! ## Strokes -/

/-- A press and a release of one key that comes later are in different reports. -/
theorem indexAt_lt (hi : es[i]? = some (press k)) (hj : es[j]? = some (release k)) (hij : i < j) :
    Report.indexAt (reportsOf es) i < Report.indexAt (reportsOf es) j := by
  refine Nat.lt_of_le_of_ne (Report.indexAt_mono (Nat.le_of_lt hij)) ?_
  intro heq
  rw [← reportsOf_flatten es] at hi hj
  obtain ⟨r, hr, hpress⟩ := Report.exists_getElem?_indexAt hi
  obtain ⟨s, hs, hrelease⟩ := Report.exists_getElem?_indexAt hj
  rw [heq, hs] at hr
  obtain rfl := Option.some.inj hr
  exact (filled_of_mem_reportsOf s (List.mem_of_getElem? hs)).one_sided k hpress hrelease

/-- **A key that has been pressed is released in a later report.** -/
theorem exists_indexAt_lt (hplay : checkSequence es = .ok ()) (hi : es[i]? = some (press k)) :
    ∃ j, i < j ∧ es[j]? = some (release k) ∧
      (∀ m e, i < m → m < j → es[m]? = some e → e.key ≠ k) ∧
      Report.indexAt (reportsOf es) i < Report.indexAt (reportsOf es) j := by
  obtain ⟨hlt, hget⟩ := List.getElem?_eq_some_iff.mp hi
  have hcut : es = es.take i ++ press k :: es.drop (i + 1) := by
    rw [← hget, List.getElem_cons_drop, List.take_append_drop]
  obtain ⟨between, later, hdrop, hbetween⟩ := exists_release_of_press hplay hcut
  have hj : es[i + 1 + between.length]? = some (release k) := by
    rw [← List.getElem?_drop, hdrop]
    simp
  refine ⟨i + 1 + between.length, by omega, hj, ?_, indexAt_lt hi hj (by omega)⟩
  intro m e him hmj he
  have hm : m = i + 1 + (m - (i + 1)) := by omega
  rw [hm, ← List.getElem?_drop, hdrop, List.getElem?_append_left (by omega)] at he
  exact hbetween e (List.mem_of_getElem? he)

/-! ## The last report -/

/-- **The last report holds no press.** -/
theorem isPress_eq_false_of_last {init : List Report} {last : Report}
    (hplay : checkSequence es = .ok ()) (hreports : reportsOf es = init ++ [last]) :
    ∀ e ∈ last.events, e.isPress = false := by
  intro e he
  by_contra hpress
  obtain ⟨k, d⟩ := e
  cases d with
  | release => exact hpress rfl
  | press =>
    obtain ⟨before, after, hlast⟩ := List.append_of_mem he
    have hes : es = (init.flatMap Report.events ++ before) ++ press k :: after := by
      rw [← reportsOf_flatten es, hreports, List.flatMap_append, List.flatMap_singleton, hlast,
        List.append_assoc]
      rfl
    -- the release of the key would be in the last report, too
    obtain ⟨between, later, rfl, _⟩ := exists_release_of_press hplay hes
    have hmem : last ∈ reportsOf es := by simp [hreports]
    have hfilled := filled_of_mem_reportsOf last hmem
    exact hfilled.one_sided k he (by simp [hlast])

/-! ## How many reports there are -/

/-- **There are more reports than presses.** All presses are in the reports before the last. -/
theorem countP_isPress_lt_length {init : List Report} {last : Report}
    (hplay : checkSequence es = .ok ()) (hreports : reportsOf es = init ++ [last]) :
    es.countP isPress < (reportsOf es).length := by
  have hlast : last.events.countP isPress = 0 := by
    rw [List.countP_eq_zero]
    simpa using isPress_eq_false_of_last hplay hreports
  have hinit : (init.flatMap Report.events).countP isPress ≤ init.length := by
    refine Report.countP_flatMap_le fun r hr => ?_
    have hmem : r ∈ reportsOf es := by simp [hreports, hr]
    exact (filled_of_mem_reportsOf r hmem).countP_isPress_le
  have hcount : es.countP isPress = (init.flatMap Report.events).countP isPress := by
    conv_lhs => rw [← reportsOf_flatten es, hreports]
    simp [hlast]
  rw [hcount, hreports, List.length_append]
  exact Nat.lt_succ_of_le hinit

theorem length_reportsOf_le (es : List Event) : (reportsOf es).length ≤ es.length := by
  rw [← Report.length_starts 0, starts_reportsOf]
  exact (List.length_filter_le _ _).trans_eq List.length_range

/-- **What the reports look like if a sequence can be played and has a press.** The events of a
report are those of different keys, and only the first of them may be a press. A key that has been
pressed is released in a later report. The last report holds no press. There is at least one report
more than there are presses, and there are at most two for each press. -/
theorem reports_of_playable (hplay : checkSequence es = .ok ()) (hpress : 0 < es.countP isPress) :
    (∀ r ∈ (ofEvents es).reports, (r.events.map Event.key).Nodup ∧
      r.events.countP isPress ≤ 1 ∧ ∀ e ∈ r.events.tail, e.isPress = false) ∧
    (∀ i k, es[i]? = some (press k) → ∃ j, i < j ∧ es[j]? = some (release k) ∧
      (∀ m e, i < m → m < j → es[m]? = some e → e.key ≠ k) ∧
      Report.indexAt (ofEvents es).reports i < Report.indexAt (ofEvents es).reports j) ∧
    (∃ init last, (ofEvents es).reports = init ++ [last] ∧
      ∀ e ∈ last.events, e.isPress = false) ∧
    es.countP isPress + 1 ≤ (ofEvents es).size ∧ (ofEvents es).size ≤ 2 * es.countP isPress := by
  rw [ofEvents_eq]
  obtain ⟨init, last, hreports⟩ : ∃ init last, reportsOf es = init ++ [last] := by
    rcases List.eq_nil_or_concat (reportsOf es) with hnil | ⟨init, last, h⟩
    · have hes := reportsOf_flatten es
      rw [hnil] at hes
      simp [← hes] at hpress
    · exact ⟨init, last, h.trans List.concat_eq_append⟩
  have hlast := isPress_eq_false_of_last hplay hreports
  refine ⟨?_, ?_, ⟨init, last, hreports, hlast⟩, ?_, ?_⟩
  · intro r hr
    have hfilled := filled_of_mem_reportsOf r hr
    exact ⟨nodup_keys_of_mem_reportsOf hplay hr, hfilled.countP_isPress_le, hfilled.riders_up⟩
  · intro i k hi
    exact exists_indexAt_lt hplay hi
  · exact countP_isPress_lt_length hplay hreports
  · rw [← length_of_checkSequence hplay]
    exact length_reportsOf_le es

/-- The reports of three keys that overlap. -/
theorem reports_of_threeOverlapping :
    checkSequence Scenario.threeOverlapping.events = .ok () ∧
    0 < Scenario.threeOverlapping.events.countP isPress ∧
    (∀ r ∈ (ofEvents Scenario.threeOverlapping.events).reports,
      (r.events.map Event.key).Nodup ∧ r.events.countP isPress ≤ 1 ∧
      ∀ e ∈ r.events.tail, e.isPress = false) ∧
    (∀ i k, Scenario.threeOverlapping.events[i]? = some (press k) →
      ∃ j, i < j ∧ Scenario.threeOverlapping.events[j]? = some (release k) ∧
      (∀ m e, i < m → m < j → Scenario.threeOverlapping.events[m]? = some e → e.key ≠ k) ∧
      Report.indexAt (ofEvents Scenario.threeOverlapping.events).reports i <
        Report.indexAt (ofEvents Scenario.threeOverlapping.events).reports j) ∧
    (∃ init last, (ofEvents Scenario.threeOverlapping.events).reports = init ++ [last] ∧
      ∀ e ∈ last.events, e.isPress = false) ∧
    Scenario.threeOverlapping.events.countP isPress + 1 ≤
      (ofEvents Scenario.threeOverlapping.events).size ∧
    (ofEvents Scenario.threeOverlapping.events).size ≤
      2 * Scenario.threeOverlapping.events.countP isPress :=
  ⟨rfl, by decide, reports_of_playable rfl (by decide)⟩

end Forecast

end KeyBench
