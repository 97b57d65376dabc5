import KeyBench.Campaign

/-!
# The agenda of a campaign

What a campaign is to do can be said beforehand, as a list: the cases of the first name, those of
the second, and so on, with a note in the place of a name that stands for nothing. A campaign does
one item after the other, up to the first case that fails or the first such note
(`run_eq_follow`). This holds for every host, whatever it runs in.
-/

namespace KeyBench.Campaign

/-! ## What is announced -/

/-- One thing to do. -/
inductive Item where
  /-- A case is to be run. -/
  | scenario (s : Scenario)
  /-- A name cannot be run, because it is no set of keys. -/
  | unknown (name : String) (cause : KeyError)

/-- The items of a set of keys that comes with a name: random cases with consecutive seeds, where
the greatest seed is followed by zero. -/
def itemsOfSet (seed : UInt64) (count : Nat) (name text : String) : List Item :=
  match Key.parseSet text with
  | .error e => [.unknown name e]
  | .ok keys => (List.range count).map fun i =>
      .scenario (Scenario.random text keys (UInt64.ofNat (seed.toNat + i)))

/-- The items of a name. -/
def itemsOfName (seed : UInt64) (count : Nat) (name : String) : List Item :=
  if name = "aaa" then [.scenario Scenario.threeTaps]
  else if name = "abc" then [.scenario Scenario.threeOverlapping]
  else if name = "9f" then [.scenario Scenario.twoOverlapping]
  else if name = "nkro" then Scenario.stressKeySets.flatMap (itemsOfSet seed count name)
  else itemsOfSet seed count name name

/-- The items of all names. -/
def agenda (seed : UInt64) (count : Nat) (names : List String) : List Item :=
  names.flatMap (itemsOfName seed count)

/-! ## Doing one thing after the other -/

variable {m : Type → Type} [Monad m]

/-- Does two things that count cases, the second only if the first succeeds. -/
def inTurn (first second : m (Except CampaignError Nat)) : m (Except CampaignError Nat) := do
  match ← first with
  | .error e => pure (.error e)
  | .ok k =>
    match ← second with
    | .error e => pure (.error e)
    | .ok n => pure (.ok (k + n))

/-- Runs one case. -/
def runOne (host : Host m) (settings : Settings) (s : Scenario) :
    m (Except CampaignError Nat) := do
  match ← host.run settings s with
  | .error f => pure (.error (.failed f))
  | .ok _ => pure (.ok 1)

/-- Does items one by one, up to the first that fails. Returns the number of cases. -/
def follow (host : Host m) (settings : Settings) : List Item → m (Except CampaignError Nat)
  | [] => pure (.ok 0)
  | .unknown name e :: _ => pure (.error (.badName name e))
  | .scenario s :: items => inTurn (runOne host settings s) (follow host settings items)

variable [LawfulMonad m] {host : Host m} {settings : Settings} {seed : UInt64}

theorem inTurn_error (e : CampaignError) (second : m (Except CampaignError Nat)) :
    inTurn (pure (.error e)) second = pure (.error e) := pure_bind ..

theorem zero_inTurn (second : m (Except CampaignError Nat)) :
    inTurn (pure (.ok 0)) second = second := by
  rw [inTurn, pure_bind]
  refine Eq.trans (bind_congr fun r => ?_) (bind_pure second)
  cases r <;> simp

theorem inTurn_zero (first : m (Except CampaignError Nat)) :
    inTurn first (pure (.ok 0)) = first := by
  rw [inTurn]
  refine Eq.trans (bind_congr fun r => ?_) (bind_pure first)
  cases r <;> simp

theorem inTurn_assoc (first second third : m (Except CampaignError Nat)) :
    inTurn (inTurn first second) third = inTurn first (inTurn second third) := by
  simp only [inTurn, bind_assoc]
  refine bind_congr fun r => ?_
  cases r with
  | error e => simp
  | ok k =>
    simp only [bind_assoc]
    refine bind_congr fun r => ?_
    cases r with
    | error e => simp
    | ok n =>
      simp only [pure_bind, bind_assoc]
      refine bind_congr fun r => ?_
      cases r <;> simp [Nat.add_assoc]

/-- **Items are done in their order.** -/
theorem follow_append : ∀ items items' : List Item,
    follow host settings (items ++ items') =
      inTurn (follow host settings items) (follow host settings items')
  | [], items' => (zero_inTurn _).symm
  | .unknown name e :: _, _ => (inTurn_error _ _).symm
  | .scenario s :: items, items' => by
    rw [List.cons_append, follow, follow, inTurn_assoc, follow_append items items']

/-! ## A campaign -/

/-- Cases that come one after the other, each from what the case before it has left. -/
def casesFrom {γ : Type} (next : γ → Nat → Scenario × γ) (source : γ) (first : Nat) :
    (count : Nat) → List Scenario
  | 0 => []
  | count + 1 => (next source first).1 :: casesFrom next (next source first).2 (first + 1) count

/-- **The seeds of random cases are consecutive.** -/
theorem casesFrom_nextCase (text : String) (keys : List Key) :
    ∀ (first count : Nat) (seed : UInt64),
    casesFrom (fun next _ => nextCase text keys next) seed first count =
      (List.range count).map fun i => Scenario.random text keys (UInt64.ofNat (seed.toNat + i))
  | _, 0, _ => rfl
  | first, count + 1, seed => by
    have hfirst : UInt64.ofNat (seed.toNat + 0) = seed := UInt64.ofNat_toNat
    have hlater (i : Nat) :
        UInt64.ofNat ((seed + 1).toNat + i) = UInt64.ofNat (seed.toNat + (i + 1)) := by
      rw [UInt64.ofNat_add, UInt64.ofNat_toNat, UInt64.ofNat_add, UInt64.ofNat_toNat,
        UInt64.ofNat_add i, UInt64.add_assoc, UInt64.add_comm 1]
      rfl
    rw [casesFrom, casesFrom_nextCase text keys (first + 1) count, List.range_succ_eq_map,
      List.map_cons, List.map_map, hfirst]
    simp only [nextCase, hlater]
    rfl

/-- Running many cases is doing them one by one and counting them at the end. -/
theorem runMany_eq_follow {γ : Type} (next : γ → Nat → Scenario × γ) :
    ∀ (source : γ) (first count : Nat),
    (do
      match ← host.runMany settings next source first count with
      | .error f => pure (.error (.failed f))
      | .ok passed => pure (.ok passed.length)) =
    follow host settings ((casesFrom next source first count).map .scenario)
  | source, first, 0 => by
    rw [Host.runMany, pure_bind]
    rfl
  | source, first, count + 1 => by
    rw [casesFrom, List.map_cons, follow,
      ← runMany_eq_follow next (next source first).2 (first + 1) count]
    rw [Host.runMany, inTurn, runOne, bind_assoc, bind_assoc]
    refine bind_congr fun r => ?_
    cases r with
    | error f => simp
    | ok p =>
      simp only [pure_bind, bind_assoc]
      refine bind_congr fun r => ?_
      cases r <;> simp [Nat.add_comm]

/-- A set of keys is done by doing its items. -/
theorem runSets_cons (name text : String) (texts : List String) :
    runSets host settings seed name (text :: texts) =
      inTurn (follow host settings (itemsOfSet seed settings.caseCount.toNat name text))
        (runSets host settings seed name texts) := by
  rw [runSets, itemsOfSet]
  cases Key.parseSet text with
  | error e => exact (inTurn_error _ _).symm
  | ok keys =>
    have hcases : (List.range settings.caseCount.toNat).map (fun i =>
          Item.scenario (Scenario.random text keys (UInt64.ofNat (seed.toNat + i)))) =
        (casesFrom (fun next _ => nextCase text keys next) seed 0
          settings.caseCount.toNat).map .scenario := by
      rw [casesFrom_nextCase, List.map_map]
      rfl
    dsimp only
    rw [hcases, ← runMany_eq_follow, inTurn, bind_assoc]
    refine bind_congr fun r => ?_
    cases r with
    | error f => simp
    | ok passed =>
      symm
      exact pure_bind _ _

theorem runSets_eq_follow (name : String) : ∀ texts : List String,
    runSets host settings seed name texts =
      follow host settings (texts.flatMap (itemsOfSet seed settings.caseCount.toNat name))
  | [] => rfl
  | text :: texts => by
    rw [runSets_cons, runSets_eq_follow name texts, List.flatMap_cons, follow_append]

theorem runName_eq_follow (name : String) : runName host settings seed name =
    follow host settings (itemsOfName seed settings.caseCount.toNat name) := by
  have hone : ∀ s, follow host settings [.scenario s] = runOne host settings s :=
    fun s => inTurn_zero _
  unfold runName itemsOfName
  by_cases haaa : name = "aaa"
  · rw [if_pos haaa, hone, haaa]
    rfl
  by_cases habc : name = "abc"
  · rw [if_neg haaa, if_pos habc, hone, habc]
    rfl
  by_cases hnine : name = "9f"
  · rw [if_neg haaa, if_neg habc, if_pos hnine, hone, hnine]
    rfl
  have hnone : Scenario.builtin? name = none := by
    rw [Scenario.builtin?, List.find?_eq_none]
    simp [Scenario.threeTaps, Scenario.threeOverlapping, Scenario.twoOverlapping,
      Scenario.ofBatches, Ne.symm haaa, Ne.symm habc, Ne.symm hnine]
  rw [hnone, if_neg haaa, if_neg habc, if_neg hnine]
  simp only
  rw [runSets_eq_follow, keySets]
  split
  · rfl
  · rw [List.flatMap_singleton]

/-- **A campaign does what is announced, item by item.** -/
theorem run_eq_follow : ∀ names : List String, run host settings seed names =
    follow host settings (agenda seed settings.caseCount.toNat names)
  | [] => rfl
  | name :: names => by
    rw [agenda, List.flatMap_cons, follow_append, ← runName_eq_follow]
    have hrest := run_eq_follow names
    rw [agenda] at hrest
    rw [← hrest]
    rfl

end KeyBench.Campaign
