import KeyBench.Command.Rehearsal
import KeyBench.Proofs.Campaign.Course
import KeyBench.Proofs.Key.Lookup

/-!
# The course of a session

A session gets ready and then runs a campaign. It gets ready by loading the settings, taking what
the command line says, fixing the first seed and opening the device (`prepare`). A seed and a number
of cases that the command line gives are those of the campaign (`given_of_prepare`). From there on
everything is determined by what the campaign has announced: which cases are run, in which order,
and where it ends (`runSession_course`).
-/

namespace KeyBench.Command

open Campaign (Course AllPass agenda)

/-! ## Getting ready -/

section Prepare

variable {m : Type → Type} [Monad m]

/-- The first seed: that of the settings, or one that is drawn. -/
def firstSeed (world : World m) (settings : Settings) : m UInt64 :=
  match settings.seed? with
  | some seed => pure seed
  | none => world.drawSeed

/-- Opens the device and audits the tables of keys. -/
def attach (world : World m) (settings : Settings) : m (Except SessionError (Host m)) := do
  match ← world.connect settings.device settings.queueCapacity.toNat with
  | .error e => return .error (.device e)
  | .ok host =>
    match Key.auditTables with
    | .error e => return .error (.tables e)
    | .ok () => return .ok host

/-- The audit has nothing to object to. -/
theorem attach_eq (world : World m) (settings : Settings) :
    attach world settings = (do
      match ← world.connect settings.device settings.queueCapacity.toNat with
      | .error e => return .error (.device e)
      | .ok host => return .ok host) := by
  have haudit := Key.auditTables_eq_ok
  unfold attach
  generalize Key.auditTables = audit at haudit ⊢
  subst haudit
  rfl

/-- Does what a session does before its campaign. -/
def prepare (world : World m) (o : Options) :
    m (Except SessionError (Host m × Settings × UInt64)) := do
  match ← loadSettings world o with
  | .error e => return .error (.settings e)
  | .ok loaded =>
    let settings := o.override loaded
    let seed ← firstSeed world settings
    match ← attach world settings with
    | .error e => return .error e
    | .ok host => return .ok (host, settings, seed)

/-- A session gets ready and runs a campaign. -/
theorem runSession_eq [LawfulMonad m] (world : World m) (o : Options) :
    runSession world o = (do
      match ← prepare world o with
      | .error e => return .error e
      | .ok (host, settings, seed) =>
        return (← Campaign.run host settings seed o.namesOrDefault).mapError .campaign) := by
  rw [runSession, prepare, bind_assoc]
  refine bind_congr fun loaded => ?_
  cases loaded with
  | error e => simp
  | ok loaded =>
    have hseed : ∀ (settings : Settings) (next : UInt64 → m (Except SessionError Nat)),
        (match settings.seed? with
          | some seed => pure seed >>= next
          | none => world.drawSeed >>= next) = firstSeed world settings >>= next := by
      intro settings next
      unfold firstSeed
      cases settings.seed? <;> rfl
    refine (hseed _ _).trans ?_
    rw [bind_assoc]
    refine bind_congr fun seed => ?_
    rw [attach, bind_assoc, bind_assoc]
    refine bind_congr fun connected => ?_
    cases connected with
    | error e => simp
    | ok host =>
      cases Key.auditTables with
      | error e => simp
      | ok =>
        simp only [pure_bind]
        refine bind_congr fun r => ?_
        cases r <;> rfl

end Prepare

variable {τ : Type} {world : World (StateM τ)} {o : Options} {host : Host (StateM τ)}
  {settings : Settings} {seed : UInt64} {t t₀ t' : τ}

/-- A session that has got ready has loaded the settings, fixed a seed and opened the device. -/
theorem prepare_eq_ok_iff : prepare world o t = (.ok (host, settings, seed), t₀) ↔
    ∃ loaded t₁ t₂, loadSettings world o t = (.ok loaded, t₁) ∧ o.override loaded = settings ∧
      firstSeed world settings t₁ = (seed, t₂) ∧
      world.connect settings.device settings.queueCapacity.toNat t₂ = (.ok host, t₀) := by
  constructor
  · intro h
    obtain ⟨⟨result, t₁⟩, hload⟩ : ∃ r, loadSettings world o t = r := ⟨_, rfl⟩
    rw [prepare, Bench.bind_apply, hload] at h
    cases result with
    | error e => cases h
    | ok loaded =>
      obtain ⟨⟨n, t₂⟩, hseed⟩ : ∃ r, firstSeed world (o.override loaded) t₁ = r := ⟨_, rfl⟩
      obtain ⟨⟨result, t₃⟩, hconnect⟩ : ∃ r, world.connect (o.override loaded).device
        (o.override loaded).queueCapacity.toNat t₂ = r := ⟨_, rfl⟩
      dsimp only at h
      rw [Bench.bind_apply, hseed] at h
      dsimp only at h
      rw [Bench.bind_apply, attach_eq, Bench.bind_apply, hconnect] at h
      cases result with
      | error e => cases h
      | ok host =>
        cases h
        exact ⟨loaded, t₁, t₂, hload, rfl, hseed, hconnect⟩
  · rintro ⟨loaded, t₁, t₂, hload, rfl, hseed, hconnect⟩
    rw [prepare, Bench.bind_apply, hload]
    dsimp only
    rw [Bench.bind_apply, hseed]
    dsimp only
    rw [Bench.bind_apply, attach_eq, Bench.bind_apply, hconnect]
    rfl

/-- A campaign is given the seed and the number of cases that the command line says. -/
theorem given_of_prepare (h : prepare world o t = (.ok (host, settings, seed), t₀)) :
    (∀ n, o.seed? = some n → seed = n) ∧ ∀ n, o.caseCount? = some n → settings.caseCount = n := by
  obtain ⟨loaded, t₁, t₂, -, rfl, hseed, -⟩ := prepare_eq_ok_iff.mp h
  constructor
  · intro n hn
    have hsettings : (o.override loaded).seed? = some n := by
      rw [Options.override, hn]
      rfl
    rw [firstSeed, hsettings] at hseed
    cases hseed
    rfl
  · intro n hn
    rw [Options.override, hn]
    rfl

/-! ## The campaign -/

/-- When it has got ready, a session follows the agenda. -/
theorem runSession_of_follow {r : Except CampaignError Nat}
    (h : prepare world o t = (.ok (host, settings, seed), t₀))
    (hfollow : Campaign.follow host settings
      (agenda seed settings.caseCount.toNat o.namesOrDefault) t₀ = (r, t')) :
    runSession world o t = (r.mapError .campaign, t') := by
  rw [runSession_eq, Bench.bind_apply, h]
  dsimp only
  rw [Bench.bind_apply, Campaign.run_eq_follow, hfollow]
  rfl

theorem namesOrDefault_eq (o : Options) : o.namesOrDefault =
    if o.names = [] then ["aaa", "abc", "9f", "nkro"] else o.names := by
  rw [Options.namesOrDefault]
  cases o.names <;> rfl

/-- **A session runs the cases that are announced, and no others.** Its course is that of the items
of its names: it ends at the first case that fails or at the first name that is no set of keys, in
the state that the cases up to there have led to. It succeeds if and only if all items are cases
that pass, one after the other, and then it writes how many they are. The events of a random case
that fails are those of the keys in its name and of the seed that is told with it. A seed and a
number of cases that the command line says are those of the campaign. -/
theorem runSession_course (h : prepare world o t = (.ok (host, settings, seed), t₀)) :
    let items := agenda seed settings.caseCount.toNat
      (if o.names = [] then ["aaa", "abc", "9f", "nkro"] else o.names)
    (∃ r t', Course host settings items t₀ (r, t') ∧
      runSession world o t = (r.mapError .campaign, t')) ∧
    ((Outcome.of (runSession world o t).1).status = 0 ↔
      ∃ cases t', items = cases.map .scenario ∧ AllPass host settings cases t₀ t') ∧
    ((Outcome.of (runSession world o t).1).status = 0 →
      (Outcome.of (runSession world o t).1).output = toString items.length ++ " cases passed\n") ∧
    (∀ f t' n, runSession world o t = (.error (.campaign (.failed f)), t') → f.seed? = some n →
      ∃ keys, Key.parseSet f.name = .ok keys ∧ f.sent = Interleaving.ofSeed keys n) ∧
    (∀ n, o.seed? = some n → seed = n) ∧ ∀ n, o.caseCount? = some n → settings.caseCount = n := by
  intro items
  obtain ⟨⟨r, t'⟩, hfollow⟩ : ∃ r, Campaign.follow host settings items t₀ = r := ⟨_, rfl⟩
  have hcourse : Course host settings items t₀ (r, t') := Campaign.follow_eq_iff.mp hfollow
  have hrun : runSession world o t = (r.mapError .campaign, t') :=
    runSession_of_follow h (namesOrDefault_eq o ▸ hfollow)
  refine ⟨⟨r, t', hcourse, hrun⟩, ?_, ?_, ?_, given_of_prepare h⟩
  · rw [← Campaign.exists_course_ok_iff, hrun]
    cases r with
    | ok n => exact ⟨fun _ => ⟨n, t', hcourse⟩, fun _ => rfl⟩
    | error c =>
      constructor
      · intro hstatus
        cases hstatus
      · rintro ⟨n, t₁, hok⟩
        rw [Campaign.follow_eq_iff.mpr hok] at hfollow
        cases hfollow
  · rw [hrun]
    cases r with
    | ok n =>
      intro _
      rw [← hcourse.of_ok.1]
      rfl
    | error c =>
      intro hstatus
      cases hstatus
  · intro f t₁ n hfailed hseed
    rw [hrun] at hfailed
    cases r with
    | ok n => cases hfailed
    | error c =>
      cases hfailed
      exact Campaign.exists_parseSet_of_failed hcourse hseed

/-- A session that runs a built-in scenario and then random cases of two keys, from the greatest
seed on. -/
theorem runSession_course_of_twoKeys :
    let stage := Stage.ofFiles ⟨[(["dev", "ttyACM0"], .device)], []⟩ []
    let o : Options := { Options.empty with
      seed? := some 18446744073709551615, caseCount? := some 2, names := ["aaa", "as"] }
    let settings := o.override Settings.default
    ∃ t₀, prepare Stage.world o stage = (.ok (Stage.host, settings, 18446744073709551615), t₀) ∧
      ∃ r t', Course Stage.host settings (agenda 18446744073709551615 2 ["aaa", "as"]) t₀ (r, t') ∧
        runSession Stage.world o stage = (r.mapError .campaign, t') := by
  intro stage o settings
  have hopen : stage.files.openToWrite settings.device = .ok .device := by
    show stage.files.openToWrite "/dev/ttyACM0" = _
    rfl
  have hconnect : Stage.world.connect settings.device settings.queueCapacity.toNat stage =
      (.ok Stage.host, { stage with
        opened := .device
        queue := ObservationQueue.ofCapacity settings.queueCapacity.toNat }) := by
    simp only [Stage.world, hopen]
  have hprepare := prepare_eq_ok_iff.mpr ⟨Settings.default, stage, stage, rfl, rfl, rfl, hconnect⟩
  exact ⟨_, hprepare, (runSession_course hprepare).1⟩

end KeyBench.Command
