import KeyBench.Proofs.Forecast.Openers

/-!
# Where reports start

The reports of a sequence are told from its history alone. A key is hot after some events if the
last press among them is one of this key and no release of it has come since (`IsHot`); the register
of the firmware never holds another key (`foldl_hotAfter_eq_some_iff`). A report starts with the
first event, with every press, and with every release of a key that is hot just before it
(`starts_reportsOf`), so their number is found by counting (`size_ofEvents`).
-/

namespace KeyBench

/-- The positions at which reports start that follow one another from position `offset` on. -/
def Report.starts (offset : Nat) : List Report → List Nat
  | [] => []
  | r :: rs => offset :: starts (offset + r.size) rs

theorem Report.length_starts : ∀ (offset : Nat) (rs : List Report),
    (starts offset rs).length = rs.length
  | _, [] => rfl
  | offset, r :: rs => by rw [starts, List.length_cons, List.length_cons, length_starts]

namespace Forecast

variable {past es : List Event} {e : Event} {k : Key} {hot : Option Key} {i : Nat}

/-! ## The key that is hot after a history -/

/-- Whether the last press is one of a key that has not been released since. -/
def IsHot (past : List Event) (k : Key) : Prop :=
  ∃ before after, past = before ++ Event.press k :: after ∧
    ∀ e ∈ after, e.isPress = false ∧ e ≠ Event.release k

theorem not_isHot_nil : ¬IsHot [] k := by
  rintro ⟨before, after, h, _⟩
  simp at h

/-- A key becomes hot by its press, and stays so up to the next press or its own release. -/
theorem isHot_concat : IsHot (past ++ [e]) k ↔
    e = Event.press k ∨ (e.isPress = false ∧ e ≠ Event.release k ∧ IsHot past k) := by
  constructor
  · rintro ⟨before, after, hcut, hafter⟩
    rcases List.eq_nil_or_concat after with rfl | ⟨after', f, rfl⟩
    · have hlast := List.append_inj' hcut rfl
      exact .inl (List.singleton_inj.mp hlast.2)
    · rw [List.concat_eq_append] at hcut hafter
      rw [← List.cons_append, ← List.append_assoc] at hcut
      obtain ⟨hpast, he⟩ := List.append_inj' hcut rfl
      obtain rfl := List.singleton_inj.mp he
      obtain ⟨hup, hne⟩ := hafter e (by simp)
      exact .inr ⟨hup, hne, before, after', hpast, fun g hg => hafter g (by simp [hg])⟩
  · rintro (rfl | ⟨hup, hne, before, after, rfl, hafter⟩)
    · exact ⟨past, [], rfl, by simp⟩
    · refine ⟨before, after ++ [e], by simp, ?_⟩
      intro f hf
      rcases List.mem_append.mp hf with hf | hf
      · exact hafter f hf
      · rw [List.mem_singleton.mp hf]
        exact ⟨hup, hne⟩

theorem hotAfter_eq_some_iff : hotAfter hot e = some k ↔
    e = Event.press k ∨ (e.isPress = false ∧ e ≠ Event.release k ∧ hot = some k) := by
  obtain ⟨j, d⟩ := e
  cases d with
  | press => simp [hotAfter, Event.press, Event.isPress]
  | release =>
    by_cases hj : hot = some j
    · subst hj
      simp only [hotAfter, if_true]
      simp [Event.press, Event.release, Event.isPress]
    · simp only [hotAfter, if_neg hj]
      simp only [Event.press, Event.release, Event.isPress, Event.mk.injEq]
      grind

/-- **The register holds the key that the history makes hot.** -/
theorem foldl_hotAfter_eq_some_iff : past.foldl hotAfter none = some k ↔ IsHot past k := by
  induction past using List.reverseRecOn with
  | nil => simp [not_isHot_nil]
  | append_singleton past e ih => rw [List.foldl_concat, hotAfter_eq_some_iff, isHot_concat, ih]

/-! ## Hot releases -/

/-- Whether the event at a position is the release of a key that is hot just before it. -/
def IsHotRelease (es : List Event) (i : Nat) : Prop :=
  ∃ k, es[i]? = some (Event.release k) ∧ IsHot (es.take i) k

/-- Whether the event at a position is a release of the key in the register, which holds `hot` at
first. -/
def releasesHot (hot : Option Key) (es : List Event) (i : Nat) : Bool :=
  es[i]?.any fun e => !e.isPress && (es.take i).foldl hotAfter hot == some e.key

/-- Whether the event at a position opens a report, if the register holds `hot` at first. -/
def opensAt (hot : Option Key) (es : List Event) (i : Nat) : Bool :=
  es[i]?.any (opens ((es.take i).foldl hotAfter hot))

theorem releasesHot_iff : releasesHot none es i = true ↔ IsHotRelease es i := by
  unfold releasesHot IsHotRelease
  cases hi : es[i]? with
  | none => simp
  | some e =>
    obtain ⟨j, d⟩ := e
    cases d <;>
      simp [Event.isPress, Event.release, ← foldl_hotAfter_eq_some_iff]

instance (es : List Event) : DecidablePred (IsHotRelease es) :=
  fun _ => decidable_of_iff _ releasesHot_iff

theorem opensAt_iff (hi : i < es.length) :
    opensAt none es i = true ↔ es[i].isPress = true ∨ IsHotRelease es i := by
  rw [← releasesHot_iff]
  unfold opensAt releasesHot opens
  rw [List.getElem?_eq_getElem hi]
  by_cases hp : es[i].isPress = true
  · simp [hp]
  · simp [hp]

/-! ## The positions of the reports -/

/-- Looking at all positions of a list is looking at the first one and at those of the rest. -/
theorem filter_range_succ (p : Nat → Bool) (n : Nat) : (List.range (n + 1)).filter p =
    (if p 0 then [0] else []) ++ ((List.range n).filter fun i => p (i + 1)).map (· + 1) := by
  rw [List.range_succ_eq_map, List.filter_cons, List.filter_map]
  split <;> rfl

/-- The reports that are opened start at the positions of the openers. -/
theorem starts_cut : ∀ (hot : Option Key) (es : List Event) (offset : Nat),
    Report.starts (offset + (cut hot es).1.length) (cut hot es).2 =
      ((List.range es.length).filter (opensAt hot es)).map (offset + ·)
  | _, [], _ => rfl
  | hot, e :: es, offset => by
    have ih := starts_cut (hotAfter hot e) es (offset + 1)
    have hzero : opensAt hot (e :: es) 0 = opens hot e := rfl
    have hsucc : (fun i => opensAt hot (e :: es) (i + 1)) = opensAt (hotAfter hot e) es := rfl
    rw [List.length_cons, filter_range_succ, hzero, hsucc, List.map_append, List.map_map, cut]
    have hshift : ((offset + ·) ∘ (· + 1) : Nat → Nat) = (offset + 1 + ·) := by
      funext i
      simp only [Function.comp_apply]
      omega
    rw [hshift, ← ih]
    by_cases h : opens hot e = true
    · simp [h, Report.starts, Report.size, Nat.add_assoc, Nat.add_comm 1]
    · simp [h, Nat.add_assoc, Nat.add_comm 1]

/-- **A report starts at the first position and wherever a report is opened.** -/
theorem starts_reportsOf (es : List Event) : Report.starts 0 (reportsOf es) =
    (List.range es.length).filter fun i => i = 0 ∨ opensAt none es i = true := by
  cases es with
  | nil => rfl
  | cons e es =>
    have hcut := starts_cut none (e :: es) 0
    have hshift : ((0 + ·) : Nat → Nat) = id := funext Nat.zero_add
    have hzero : opensAt none (e :: es) 0 = opens none e := rfl
    rw [hshift, List.map_id] at hcut
    rw [List.length_cons, filter_range_succ] at hcut ⊢
    rw [hzero] at hcut
    unfold reportsOf
    by_cases h : opens none e = true
    · -- the first event opens the first report
      simp only [cut, h, if_true] at hcut ⊢
      simpa using hcut
    · -- the first event rides in a report that nothing opens
      simp only [cut, h] at hcut ⊢
      simpa [Report.starts, Report.size] using hcut

theorem mem_starts_iff (hi : i < es.length) :
    i ∈ Report.starts 0 (reportsOf es) ↔ i = 0 ∨ es[i].isPress = true ∨ IsHotRelease es i := by
  simp [starts_reportsOf, hi, opensAt_iff]

/-! ## The number of reports -/

/-- Every opener is either a press or a hot release. -/
theorem countP_opensAt : ∀ (hot : Option Key) (es : List Event),
    (List.range es.length).countP (opensAt hot es) =
      es.countP Event.isPress + (List.range es.length).countP (releasesHot hot es)
  | _, [] => rfl
  | hot, e :: es => by
    have ih := countP_opensAt (hotAfter hot e) es
    have hopens : opensAt hot (e :: es) ∘ Nat.succ = opensAt (hotAfter hot e) es := rfl
    have hreleases : releasesHot hot (e :: es) ∘ Nat.succ = releasesHot (hotAfter hot e) es := rfl
    have hzero : opensAt hot (e :: es) 0 = (e.isPress || releasesHot hot (e :: es) 0) := by
      cases hp : e.isPress <;> simp [opensAt, releasesHot, opens, hp]
    have hone : e.isPress = true → releasesHot hot (e :: es) 0 = false := by
      intro hp
      simp [releasesHot, hp]
    rw [List.length_cons, List.range_succ_eq_map, List.countP_cons, List.countP_cons,
      List.countP_cons, List.countP_map, List.countP_map, hopens, hreleases, ih, hzero]
    by_cases hp : e.isPress = true
    · simp [hp, hone hp]
      omega
    · simp [hp]
      omega

/-- **There are as many reports as presses and hot releases**, and one more if the sequence starts
with a release. -/
theorem size_ofEvents (es : List Event) : (ofEvents es).size = es.countP Event.isPress +
    (List.range es.length).countP (fun i => IsHotRelease es i) +
    if es.head?.map Event.isPress = some false then 1 else 0 := by
  have hhot : (fun i => decide (IsHotRelease es i)) = releasesHot none es := by
    funext i
    rw [Bool.eq_iff_iff, decide_eq_true_iff, releasesHot_iff]
  have hsize : (ofEvents es).size = (Report.starts 0 (reportsOf es)).length := by
    rw [size, reports_ofEvents, Report.length_starts]
  rw [hsize, starts_reportsOf, ← List.countP_eq_length_filter, hhot, ← countP_opensAt]
  cases es with
  | nil => rfl
  | cons e es =>
    rw [List.length_cons, List.range_succ_eq_map, List.countP_cons, List.countP_cons,
      List.countP_map, List.countP_map]
    have hzero : opensAt none (e :: es) 0 = e.isPress := opens_none
    have hlater : (fun i => decide (i = 0 ∨ opensAt none (e :: es) i = true)) ∘ Nat.succ =
        opensAt none (e :: es) ∘ Nat.succ := by
      funext i
      simp
    rw [hlater, hzero]
    cases hp : e.isPress <;> simp [hp]

/-! ## The reports of a sequence -/

/-- **What the reports of a sequence are, told from its history.** They hold its events in its
order. A report starts with the first event, with every press, with every hot release, and with
no other event. No report is empty, and there are as many of them as presses and hot releases, and
one more if the sequence starts with a release. -/
theorem ofEvents_by_history (es : List Event) :
    (ofEvents es).reports.flatMap Report.events = es ∧
    (∀ i : Fin es.length, i.val ∈ Report.starts 0 (ofEvents es).reports ↔
      i.val = 0 ∨ (es.get i).isPress = true ∨ IsHotRelease es i) ∧
    (∀ r ∈ (ofEvents es).reports, r.events ≠ []) ∧
    (ofEvents es).outstanding = es.length ∧
    (ofEvents es).size = es.countP Event.isPress +
      (List.range es.length).countP (fun i => IsHotRelease es i) +
      if es.head?.map Event.isPress = some false then 1 else 0 := by
  refine ⟨?_, ?_, ?_, outstanding_ofEvents es, size_ofEvents es⟩
  · rw [reports_ofEvents, reportsOf_flatten]
  · intro i
    rw [reports_ofEvents]
    exact mem_starts_iff i.isLt
  · intro r hr
    exact ne_nil_of_mem_ofEvents hr

/-- Of three releases, only the one right after the press of its key starts a report. -/
example : Report.starts 0 (ofEvents [.press .letterA, .press .letterB, .release .letterA,
    .press .letterC, .release .letterC, .release .letterB]).reports = [0, 1, 3, 4] := by decide

end Forecast

end KeyBench
