import KeyBench.Proofs.Checker.Acceptance

/-!
# Telling forecasts apart

Checkers accept the same lists of events if their forecasts are alike. For arbitrary reports the
converse fails: `[x], [x]` and `[x, x]` have the same deliveries. For the reports of sequences it
holds, because such reports are filled and follow each other (`Parted`).

The argument goes report by report. If two lists of reports have the same deliveries, their first
reports have the same members, since each member can arrive first. If one of the two were shorter,
an event of the report after it could arrive within the longer one. An event can be chosen that is
either no member of the shorter one, and so not of the longer one, or a press, which the longer one
would then hold twice.
-/

namespace KeyBench

namespace Report

variable {r s : Report} {rs ss : List Report} {es : List Event}

/-- Reports as a sequence is cut into them. -/
structure Parted (rs : List Report) : Prop where
  filled : ∀ r ∈ rs, r.Filled
  follows : rs.IsChain Follows

theorem Parted.tail (h : Parted (r :: rs)) : Parted rs where
  filled := fun s hs => h.filled s (List.mem_cons_of_mem _ hs)
  follows := h.follows.tail

theorem Parted.head (h : Parted (r :: rs)) : r.Filled := h.filled r List.mem_cons_self

/-! ## The first reports -/

/-- After one block of the first report, the other reports are delivered. -/
theorem isDelivery_append {block : List Event} (h : block.Perm r.events) :
    IsDelivery (r :: rs) (block ++ es) ↔ IsDelivery rs es := by
  rw [isDelivery_cons]
  constructor
  · rintro ⟨block', rest, hcut, hblock', hrest⟩
    have hlen : block'.length = block.length := hblock'.length_eq.trans h.length_eq.symm
    rwa [← (List.append_inj hcut hlen).2]
  · intro hes
    exact ⟨block, es, rfl, h, hes⟩

/-- Each event of the first report can arrive first. -/
theorem mem_of_isDelivery_imp (hs : s.events ≠ [])
    (h : ∀ es, IsDelivery (r :: rs) es → IsDelivery (s :: ss) es) :
    ∀ e ∈ r.events, e ∈ s.events := by
  intro e he
  have hperm : (e :: r.events.erase e).Perm r.events := (List.perm_cons_erase he).symm
  have hdelivery := h _ ((isDelivery_append hperm).mpr (isDelivery_flatMap rs))
  rw [List.cons_append] at hdelivery
  obtain ⟨rest, hrest, _⟩ := (isDelivery_cons_cons hs).mp hdelivery
  exact exists_take?_iff.mp ⟨rest, hrest⟩

/-- A first report that outlasts the beginning of a delivery holds what comes after it, too. -/
theorem exists_block_of_lt {start : List Event} {e : Event}
    (hlt : start.length < s.events.length) (h : IsDelivery (s :: ss) (start ++ e :: es)) :
    ∃ block, (start ++ e :: block).Perm s.events := by
  obtain ⟨block, rest, hcut, hblock, _⟩ := isDelivery_cons.mp h
  rw [← hblock.length_eq] at hlt
  -- the block of `s` and the beginning both start the delivery, and the block is longer
  rcases List.append_eq_append_iff.mp hcut with ⟨mid, rfl, _⟩ | ⟨mid, rfl, hmid⟩
  · rw [List.length_append] at hlt
    omega
  · cases mid with
    | nil =>
      rw [List.append_nil] at hlt
      omega
    | cons f mid =>
      rw [List.cons_append, List.cons_eq_cons] at hmid
      exact ⟨mid, hmid.1 ▸ hblock⟩

/-- **A first report that can stand in for another one is no longer.** -/
theorem length_le_of_isDelivery_imp (hr : Parted (r :: rs)) (hs : s.Filled)
    (hmem : ∀ e ∈ s.events, e ∈ r.events)
    (h : ∀ es, IsDelivery (r :: rs) es → IsDelivery (s :: ss) es) :
    s.events.length ≤ r.events.length := by
  by_contra hlt
  rw [Nat.not_le] at hlt
  cases rs with
  | nil =>
    have hdelivery := h _ ((isDelivery_append (.refl _)).mpr (isDelivery_nil.mpr rfl))
    obtain ⟨block, rest, hcut, hblock, _⟩ := isDelivery_cons.mp hdelivery
    have hlen := congrArg List.length hcut
    rw [List.length_append, hblock.length_eq, List.append_nil] at hlen
    omega
  | cons t ts =>
    obtain ⟨e, he, hfollows⟩ := (List.isChain_cons_cons.mp hr.follows).1
    have hperm : (e :: t.events.erase e).Perm t.events := (List.perm_cons_erase he).symm
    obtain ⟨block, hblock⟩ := exists_block_of_lt hlt (h _ ((isDelivery_append (.refl _)).mpr
      ((isDelivery_append hperm).mpr (isDelivery_flatMap ts))))
    have hein : e ∈ r.events := hmem e (hblock.subset (by simp))
    rcases hfollows with hpress | hnot
    · -- the press is a member of `r` and comes again after it
      have hle := hs.length_filter_isPress_le
      rw [← (hblock.filter _).length_eq, List.filter_append, List.filter_cons, if_pos hpress,
        List.length_append, List.length_cons] at hle
      have hpos : 0 < (r.events.filter Event.isPress).length :=
        List.length_pos_of_mem (List.mem_filter.mpr ⟨hein, hpress⟩)
      omega
    · exact hnot hein

/-! ## All reports -/

/-- **Reports with the same deliveries hold the same events, one by one.** -/
theorem perm_of_isDelivery_iff : ∀ {rs ss : List Report}, Parted rs → Parted ss →
    (∀ es, IsDelivery rs es ↔ IsDelivery ss es) →
      List.Forall₂ (fun r s => r.events.Perm s.events) rs ss
  | [], [], _, _, _ => .nil
  | [], s :: ss, _, hs, h =>
    absurd ((h []).mp (isDelivery_nil.mpr rfl)) (not_isDelivery_cons_nil hs.head.ne_nil)
  | r :: rs, [], hr, _, h =>
    absurd ((h []).mpr (isDelivery_nil.mpr rfl)) (not_isDelivery_cons_nil hr.head.ne_nil)
  | r :: rs, s :: ss, hr, hs, h => by
    have hrs := mem_of_isDelivery_imp hs.head.ne_nil fun es => (h es).mp
    have hsr := mem_of_isDelivery_imp hr.head.ne_nil fun es => (h es).mpr
    have hle := length_le_of_isDelivery_imp hr hs.head hsr fun es => (h es).mp
    have hge := length_le_of_isDelivery_imp hs hr.head hrs fun es => (h es).mpr
    have hperm : r.events.Perm s.events := by
      have hdelivery := (h _).mp (isDelivery_flatMap (r :: rs))
      obtain ⟨block, rest, hcut, hblock, _⟩ := isDelivery_cons.mp hdelivery
      rw [List.flatMap_cons] at hcut
      have hlen : block.length = r.events.length := by rw [hblock.length_eq]; omega
      rwa [← (List.append_inj hcut hlen).1]
    refine .cons hperm (perm_of_isDelivery_iff hr.tail hs.tail ?_)
    intro es
    rw [← isDelivery_append (.refl r.events), h, isDelivery_append hperm]

end Report

/-- The reports of a sequence are parted. -/
theorem Forecast.parted_reportsOf (es : List Event) : Report.Parted (Forecast.reportsOf es) where
  filled := Forecast.filled_of_mem_reportsOf
  follows := Forecast.isChain_reportsOf es

/-- Sequences whose reports hold the same events have equally many events. -/
theorem Forecast.length_eq_of_forall₂_perm {es fs : List Event}
    (h : List.Forall₂ (fun r s => r.events.Perm s.events) (reportsOf es) (reportsOf fs)) :
    es.length = fs.length := by
  have hperm := Report.flatMap_events_perm h
  rw [reportsOf_flatten, reportsOf_flatten] at hperm
  exact hperm.length_eq

/-- **Two sequences give like forecasts if and only if checkers accept the same lists of events for
both of them.** -/
theorem Checker.alike_iff_accepts_iff (a b : List Event) :
    (Forecast.ofEvents a).alike (Forecast.ofEvents b) = true ↔
      ∀ es, (Checker.ofForecast (Forecast.ofEvents a)).Accepts es ↔
        (Checker.ofForecast (Forecast.ofEvents b)).Accepts es := by
  simp only [accepts_iff_isDelivery_reportsOf]
  rw [Forecast.alike_iff, Forecast.ofEvents_eq, Forecast.ofEvents_eq]
  constructor
  · rintro ⟨hreports, _⟩ es
    exact Report.isDelivery_congr hreports
  · intro h
    have hreports :=
      Report.perm_of_isDelivery_iff (Forecast.parted_reportsOf a) (Forecast.parted_reportsOf b) h
    exact ⟨hreports, Forecast.length_eq_of_forall₂_perm hreports⟩

end KeyBench
