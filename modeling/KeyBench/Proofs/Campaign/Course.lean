import Mathlib.Tactic.SplitIfs
import KeyBench.Proofs.Bench.Sending
import KeyBench.Proofs.Campaign.Agenda

/-!
# The course of a campaign

On a host that has a state, each case starts in the state that the case before it has left. So a
campaign has passed if all its cases have, one after the other, and the state at its end is that
after the last of them. A campaign that fails has gone through the cases up to the one that is
blamed, and through no others (`follow_eq_iff`).

A random case that fails names its set of keys and its seed, and these two give the events again
(`exists_parseSet_of_failed`).
-/

namespace KeyBench

variable {τ : Type} {host : Host (StateM τ)} {settings : Settings} {s : Scenario} {p : Passed}
  {f : Failed} {t t₁ t' : τ}

/-! ## One case -/

/-- A case that fails is told by its name, its seed and its events. -/
theorem Host.failed_of_run (h : host.run settings s t = (.error f, t')) :
    f.name = s.name ∧ f.seed? = s.seed? ∧ f.sent = s.events := by
  have hresult : (host.run settings s t).1 = .error f := congrArg Prod.fst h
  unfold Host.run at hresult
  cases hplan : s.plan with
  | error e =>
    rw [hplan] at hresult
    obtain rfl := Except.error.inj hresult
    exact ⟨rfl, rfl, rfl⟩
  | ok plan =>
    rw [hplan] at hresult
    dsimp only at hresult
    rw [Bench.bind_apply] at hresult
    cases hout : (host.carryOut settings plan t).1 with
    | error e =>
      rw [hout] at hresult
      obtain rfl := Except.error.inj hresult
      exact ⟨rfl, rfl, rfl⟩
    | ok =>
      rw [hout] at hresult
      cases hresult

namespace Campaign

variable {items : List Item} {seed : UInt64} {count : Nat} {names : List String}

/-- A case that passes is counted, and the items after it are done in the state that it leaves. -/
theorem follow_of_ok (h : host.run settings s t = (.ok p, t₁)) :
    follow host settings (.scenario s :: items) t =
      ((follow host settings items t₁).1.map (1 + ·), (follow host settings items t₁).2) := by
  have hone : runOne host settings s t = (.ok 1, t₁) := by
    rw [runOne, Bench.bind_apply, h]
    rfl
  rw [follow, inTurn, Bench.bind_apply, hone]
  dsimp only
  rw [Bench.bind_apply]
  cases (follow host settings items t₁).1 <;> rfl

/-- A case that fails ends a campaign. -/
theorem follow_of_error (h : host.run settings s t = (.error f, t')) :
    follow host settings (.scenario s :: items) t = (.error (.failed f), t') := by
  have hone : runOne host settings s t = (.error (.failed f), t') := by
    rw [runOne, Bench.bind_apply, h]
    rfl
  rw [follow, inTurn, Bench.bind_apply, hone]
  rfl

/-! ## Cases one after the other -/

/-- Whether cases all pass, one after the other, and lead from one state to another. -/
inductive AllPass (host : Host (StateM τ)) (settings : Settings) : List Scenario → τ → τ → Prop
  | nil {t : τ} : AllPass host settings [] t t
  | cons {s : Scenario} {cases : List Scenario} {p : Passed} {t t₁ t' : τ} :
      host.run settings s t = (.ok p, t₁) → AllPass host settings cases t₁ t' →
        AllPass host settings (s :: cases) t t'

/-- What comes of items, and the state after them. -/
inductive Course (host : Host (StateM τ)) (settings : Settings) :
    List Item → τ → Except CampaignError Nat × τ → Prop
  /-- All items are cases, and they pass. -/
  | passed {cases : List Scenario} {t t' : τ} :
      AllPass host settings cases t t' →
        Course host settings (cases.map .scenario) t (.ok cases.length, t')
  /-- A case fails after all before it have passed. The items after it are left out. -/
  | failed {before : List Scenario} {s : Scenario} {after : List Item} {f : Failed} {t t₁ t' : τ} :
      AllPass host settings before t t₁ → host.run settings s t₁ = (.error f, t') →
        Course host settings (before.map .scenario ++ .scenario s :: after) t
          (.error (.failed f), t')
  /-- All cases have passed that come before a name which is no set of keys. -/
  | refused {before : List Scenario} {name : String} {e : KeyError} {after : List Item} {t t' : τ} :
      AllPass host settings before t t' →
        Course host settings (before.map .scenario ++ .unknown name e :: after) t
          (.error (.badName name e), t')

/-- Cases that pass are counted, and then the items after them are done. -/
theorem follow_of_allPass {before : List Scenario} (h : AllPass host settings before t t₁) :
    follow host settings (before.map .scenario ++ items) t =
      ((follow host settings items t₁).1.map (before.length + ·),
        (follow host settings items t₁).2) := by
  induction h with
  | @nil t =>
    obtain ⟨⟨r, t₂⟩, hrest⟩ : ∃ r, follow host settings items t = r := ⟨_, rfl⟩
    rw [List.map_nil, List.nil_append, hrest]
    cases r <;> simp [Except.map]
  | @cons s cases p t t₁ t' hrun _ ih =>
    rw [List.map_cons, List.cons_append, follow_of_ok hrun, ih]
    rcases (follow host settings items t').1 with e | n
    · rfl
    · simp only [Except.map, List.length_cons]
      congr 2
      omega

/-- A case that passes may come before everything else. -/
theorem Course.cons {r : Except CampaignError Nat} (hrun : host.run settings s t = (.ok p, t₁))
    (h : Course host settings items t₁ (r, t')) :
    Course host settings (.scenario s :: items) t (r.map (1 + ·), t') := by
  cases h with
  | @passed cases _ _ hall =>
    have hcourse := Course.passed (AllPass.cons hrun hall)
    rw [List.length_cons, Nat.add_comm] at hcourse
    exact hcourse
  | failed hall hlast => exact .failed (.cons hrun hall) hlast
  | refused hall => exact .refused (.cons hrun hall)

theorem course_follow : ∀ (items : List Item) (t : τ),
    Course host settings items t (follow host settings items t)
  | [], _ => .passed .nil
  | .unknown _ _ :: _, _ => @Course.refused τ host settings [] _ _ _ _ _ .nil
  | .scenario s :: items, t => by
    obtain ⟨⟨result, t₁⟩, hrun⟩ : ∃ r, host.run settings s t = r := ⟨_, rfl⟩
    cases result with
    | error f =>
      rw [follow_of_error hrun]
      exact @Course.failed τ host settings [] _ _ _ _ _ _ .nil hrun
    | ok p =>
      rw [follow_of_ok hrun]
      exact (course_follow items t₁).cons hrun

/-- **What a campaign does is told by the course of its items**, and there is only one. -/
theorem follow_eq_iff {r : Except CampaignError Nat × τ} :
    follow host settings items t = r ↔ Course host settings items t r := by
  constructor
  · rintro rfl
    exact course_follow items t
  · intro h
    cases h with
    | @passed cases _ _ hall =>
      rw [← List.append_nil (cases.map _), follow_of_allPass hall]
      rfl
    | failed hall hlast =>
      rw [follow_of_allPass hall, follow_of_error hlast]
      rfl
    | refused hall =>
      rw [follow_of_allPass hall]
      rfl

/-- A campaign that succeeds has counted its items, all of which are cases that pass. -/
theorem Course.of_ok {n : Nat} (h : Course host settings items t (.ok n, t')) :
    n = items.length ∧ ∃ cases, items = cases.map .scenario ∧ AllPass host settings cases t t' := by
  cases h with
  | @passed cases _ _ hall => exact ⟨(List.length_map _).symm, cases, rfl, hall⟩

/-- **A campaign succeeds if and only if every item is a case and all cases pass**, one after the
other. -/
theorem exists_course_ok_iff : (∃ n t', Course host settings items t (.ok n, t')) ↔
    ∃ cases t', items = cases.map .scenario ∧ AllPass host settings cases t t' := by
  constructor
  · rintro ⟨n, t', h⟩
    obtain ⟨-, cases, hitems, hall⟩ := h.of_ok
    exact ⟨cases, t', hitems, hall⟩
  · rintro ⟨cases, t', rfl, hall⟩
    exact ⟨cases.length, t', .passed hall⟩

/-! ## Random cases -/

/-- A random case of a set of keys. -/
theorem exists_parseSet_of_mem_itemsOfSet {n : UInt64} {name text : String}
    (h : .scenario s ∈ itemsOfSet seed count name text) (hseed : s.seed? = some n) :
    ∃ keys, Key.parseSet s.name = .ok keys ∧ s = Scenario.random s.name keys n := by
  unfold itemsOfSet at h
  cases hkeys : Key.parseSet text with
  | error e =>
    rw [hkeys, List.mem_singleton] at h
    cases h
  | ok keys =>
    rw [hkeys] at h
    obtain ⟨i, _, hi⟩ := List.mem_map.mp h
    obtain rfl := Item.scenario.inj hi
    obtain rfl := Option.some.inj hseed
    exact ⟨keys, hkeys, rfl⟩

/-- A case that has a seed is a random one of the keys that its name gives. -/
theorem exists_parseSet_of_mem_agenda {n : UInt64} (h : .scenario s ∈ agenda seed count names)
    (hseed : s.seed? = some n) :
    ∃ keys, Key.parseSet s.name = .ok keys ∧ s = Scenario.random s.name keys n := by
  obtain ⟨name, _, hname⟩ := List.mem_flatMap.mp h
  have hbuiltin : ∀ b : Scenario, b.seed? = none → Item.scenario s ∉ [.scenario b] := by
    intro b hnone hmem
    rw [Item.scenario.inj (List.mem_singleton.mp hmem), hnone] at hseed
    cases hseed
  unfold itemsOfName at hname
  split_ifs at hname with haaa habc hnine hnkro
  · exact (hbuiltin _ rfl hname).elim
  · exact (hbuiltin _ rfl hname).elim
  · exact (hbuiltin _ rfl hname).elim
  · obtain ⟨text, _, htext⟩ := List.mem_flatMap.mp hname
    exact exists_parseSet_of_mem_itemsOfSet htext hseed
  · exact exists_parseSet_of_mem_itemsOfSet hname hseed

/-- **A random case that fails can be had again**: its events are those of the keys of its name and
of its seed. -/
theorem exists_parseSet_of_failed {n : UInt64}
    (h : Course host settings (agenda seed count names) t (.error (.failed f), t'))
    (hseed : f.seed? = some n) :
    ∃ keys, Key.parseSet f.name = .ok keys ∧ f.sent = Interleaving.ofSeed keys n := by
  generalize hitems : agenda seed count names = items at h
  cases h with
  | @failed before s after _ _ t₁ _ _ hlast =>
    have hmem : .scenario s ∈ agenda seed count names := by
      rw [hitems]
      exact List.mem_append_right _ List.mem_cons_self
    obtain ⟨hname, hseed', hsent⟩ := Host.failed_of_run hlast
    obtain ⟨keys, hkeys, hs⟩ := exists_parseSet_of_mem_agenda hmem (hseed' ▸ hseed)
    refine ⟨keys, hname ▸ hkeys, ?_⟩
    calc f.sent = s.events := hsent
      _ = (Scenario.random s.name keys n).events := congrArg Scenario.events hs
      _ = Interleaving.ofSeed keys n := List.append_nil _

end Campaign

end KeyBench
