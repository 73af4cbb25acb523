import SyncApp.Pipeline.ObservationChain
import SyncApp.LiveApply.WriteAhead
import Mathlib.Data.List.Find

/-!
# The verdict on a deployment

`Verdict` is the outcome that the records of a deployment give, said of the records alone: success
where all five are there and pass, and failure of the first that does not where nothing follows it.
`finalizeDeploymentOnce` records exactly this outcome, and raises where there is none. What it once
recorded it never answers otherwise.

A record is there when it is the only row of the deployment in its table, is well formed, and follows
the record before it.
-/

set_option autoImplicit false

namespace SyncApp

open Lib Raising

namespace ObservationChain

/-! ## Records of a deployment -/

/-- The deployment has this one row, and it is a record. -/
def OnlyRecord {R : Type} (rows : List R) (deploymentId : R → PyStr) (valid : R → Bool)
    (id : PyStr) (row : R) : Prop :=
  rows.filter (deploymentId · = id) = [row] ∧ valid row = true

theorem selectRecord_eq_some (invalid : Failure) {R : Type} {rows : List R}
    {deploymentId : R → PyStr} {valid : R → Bool} {id : PyStr} {row : R} :
    selectRecord rows deploymentId valid invalid id = .ok (some row) ↔
      OnlyRecord rows deploymentId valid id row := by
  unfold selectRecord OnlyRecord
  split
  next none =>
    rw [none]
    constructor
    · intro wrong
      cases wrong
    · rintro ⟨wrong, -⟩
      cases wrong
  next only held =>
    rw [held]
    constructor
    · intro selected
      split at selected
      next good =>
        cases selected
        exact ⟨rfl, good⟩
      next => cases selected
    · rintro ⟨same, good⟩
      cases same
      rw [if_pos good]
  next many =>
    constructor
    · intro wrong
      cases wrong
    · rintro ⟨one, -⟩
      exact absurd one (many row)

theorem selectRecord_eq_none {R : Type} {rows : List R} {deploymentId : R → PyStr}
    {valid : R → Bool} {invalid : Failure} {id : PyStr} :
    selectRecord rows deploymentId valid invalid id = .ok none ↔
      rows.filter (deploymentId · = id) = [] := by
  unfold selectRecord
  split
  next none => exact iff_of_true rfl none
  next row held =>
    rw [held]
    split
    · exact iff_of_false nofun nofun
    · exact iff_of_false nofun nofun
  next none many => exact iff_of_false nofun none

section

variable (hashing : Hashing) (db : Database) (plan : PostDeploymentAssertionPlan)

/-- The deployment is prepared, and the plan is one for its candidate. -/
def Deployed : Prop :=
  plan.valid hashing = true ∧ ∃ prepared, db.prepared plan.deploymentId = .ok (some prepared) ∧
    prepared.candidateSha = plan.target.candidateSha

def IsStartup (row : StartupErrorObservation) : Prop :=
  OnlyRecord db.startupErrors (·.deploymentId) (·.valid hashing) plan.deploymentId row ∧
    ∃ integration restart, startupPrerequisites db plan.deploymentId = .ok (integration, restart) ∧
      row.follows integration restart = true

def IsAvailability (startup : StartupErrorObservation) (row : ResourceAvailabilityObservation) :
    Prop :=
  OnlyRecord db.resourceAvailability (·.deploymentId) (·.valid hashing) plan.deploymentId row ∧
    row.follows plan.target startup = true

def IsEntity (availability : ResourceAvailabilityObservation) (row : EntityStateObservation) :
    Prop :=
  OnlyRecord db.entityStates (·.deploymentId) (·.valid hashing) plan.deploymentId row ∧
    row.follows plan.target availability = true

def IsAutomation (entity : EntityStateObservation) (row : AutomationScriptObservation) : Prop :=
  OnlyRecord db.automationScripts (·.deploymentId) (·.valid hashing) plan.deploymentId row ∧
    row.follows plan.automationTarget entity = true

def IsAssertion (automation : AutomationScriptObservation)
    (row : PostDeploymentAssertionObservation) : Prop :=
  OnlyRecord db.assertions (·.deploymentId) (·.valid hashing) plan.deploymentId row ∧
    row.follows plan automation = true

/-! ## The records in a row that pass -/

def PassesStartup (startup : StartupErrorObservation) : Prop :=
  IsStartup hashing db plan startup ∧ startup.significantErrorCount = 0

def PassesAvailability (availability : ResourceAvailabilityObservation) : Prop :=
  ∃ startup, PassesStartup hashing db plan startup ∧
    IsAvailability hashing db plan startup availability ∧
    availability.availableCount = availability.expectedCount

def PassesEntities (entity : EntityStateObservation) : Prop :=
  ∃ availability, PassesAvailability hashing db plan availability ∧
    IsEntity hashing db plan availability entity ∧ entity.invalidCount = 0

def PassesAutomations (automation : AutomationScriptObservation) : Prop :=
  ∃ entity, PassesEntities hashing db plan entity ∧
    IsAutomation hashing db plan entity automation ∧ automation.failedCount = 0

def PassesAssertions (assertion : PostDeploymentAssertionObservation) : Prop :=
  ∃ automation, PassesAutomations hashing db plan automation ∧
    IsAssertion hashing db plan automation assertion ∧ assertion.failedCount = 0

/-- No observation is recorded for these stages. -/
def NoneOf (later : List ObservationStage) : Prop :=
  ∀ stage ∈ later, hasRow db plan.deploymentId stage = false

/-- **The outcome that the records give.** -/
def Verdict : DeploymentOutcome → Prop
  | .success => Deployed hashing db plan ∧ ∃ assertion, PassesAssertions hashing db plan assertion
  | .failure .startupErrors => Deployed hashing db plan ∧ ∃ startup,
    IsStartup hashing db plan startup ∧ startup.significantErrorCount ≠ 0 ∧ NoneOf db plan
      [.resourceAvailability, .entityStates, .automationScriptLoad, .postDeploymentAssertions]
  | .failure .resourceAvailability => Deployed hashing db plan ∧ ∃ startup availability,
    PassesStartup hashing db plan startup ∧ IsAvailability hashing db plan startup availability ∧
      availability.availableCount ≠ availability.expectedCount ∧
      NoneOf db plan [.entityStates, .automationScriptLoad, .postDeploymentAssertions]
  | .failure .entityStates => Deployed hashing db plan ∧ ∃ availability entity,
    PassesAvailability hashing db plan availability ∧ IsEntity hashing db plan availability entity ∧
      entity.invalidCount ≠ 0 ∧ NoneOf db plan [.automationScriptLoad, .postDeploymentAssertions]
  | .failure .automationScriptLoad => Deployed hashing db plan ∧ ∃ entity automation,
    PassesEntities hashing db plan entity ∧ IsAutomation hashing db plan entity automation ∧
      automation.failedCount ≠ 0 ∧ NoneOf db plan [.postDeploymentAssertions]
  | .failure .postDeploymentAssertions => Deployed hashing db plan ∧ ∃ automation assertion,
    PassesAutomations hashing db plan automation ∧
      IsAssertion hashing db plan automation assertion ∧ assertion.failedCount ≠ 0

end

/-! ## What is loaded -/

variable {hashing : Hashing} {db : Database} {plan : PostDeploymentAssertionPlan}

theorem valid_automationTarget (valid : plan.valid hashing = true) :
    plan.automationTarget.valid hashing = true := by
  unfold PostDeploymentAssertionPlan.valid at valid
  simp only [Bool.and_eq_true] at valid
  exact valid.1.1.1.1.1.1

theorem valid_target (valid : plan.valid hashing = true) : plan.target.valid hashing = true := by
  have automation := valid_automationTarget valid
  unfold AutomationScriptTarget.valid at automation
  simp only [Bool.and_eq_true] at automation
  exact automation.1.1

theorem valid_deploymentId (valid : plan.valid hashing = true) :
    isDeploymentId plan.deploymentId = true := by
  have target := valid_target valid
  unfold ResourceAvailabilityTarget.valid at target
  simp only [Bool.and_eq_true] at target
  exact target.1.1

theorem selectFollowing_eq_some {R : Type} {rows : List R} {deploymentId : R → PyStr}
    {valid : R → Bool} {invalid : Failure} {id : PyStr} {follows : R → Bool} {row : R} :
    selectFollowing rows deploymentId valid invalid id follows = .ok (some row) ↔
      OnlyRecord rows deploymentId valid id row ∧ follows row = true := by
  unfold selectFollowing
  rw [bind_eq_ok, ← selectRecord_eq_some invalid]
  constructor
  · rintro ⟨selected, only, loaded⟩
    cases selected with
    | none => cases loaded
    | some other =>
      dsimp only at loaded
      split at loaded
      next good =>
        cases loaded
        exact ⟨only, good⟩
      next => cases loaded
  · rintro ⟨only, good⟩
    exact ⟨some row, only, if_pos good⟩

theorem selectThenFollowing_eq_some {R P : Type} {rows : List R} {deploymentId : R → PyStr}
    {valid : R → Bool} {invalid : Failure} {id : PyStr} {needs : Except Failure P}
    {follows : R → P → Bool} {row : R} :
    selectThenFollowing rows deploymentId valid invalid id needs follows = .ok (some row) ↔
      OnlyRecord rows deploymentId valid id row ∧
        ∃ needed, needs = .ok needed ∧ follows row needed = true := by
  unfold selectThenFollowing
  rw [bind_eq_ok, ← selectRecord_eq_some invalid]
  constructor
  · rintro ⟨selected, only, loaded⟩
    cases selected with
    | none => cases loaded
    | some other =>
      obtain ⟨needed, there, loaded⟩ := bind_eq_ok.mp loaded
      split at loaded
      next good =>
        cases loaded
        exact ⟨only, needed, there, good⟩
      next => cases loaded
  · rintro ⟨only, needed, there, good⟩
    exact ⟨some row, only, bind_eq_ok.mpr ⟨needed, there, if_pos good⟩⟩

theorem requirePassed_eq_ok {R : Type} {loaded : Except Failure (Option R)} {failed : R → Bool}
    {invalid : Failure} {required : String} {row : R} :
    requirePassed loaded failed invalid required = .ok row ↔
      loaded = .ok (some row) ∧ failed row = false := by
  unfold requirePassed
  split
  next failure => exact iff_of_false nofun fun held => nomatch held.1
  next => exact iff_of_false nofun fun held => nomatch held.1
  next other =>
    split
    next wrong =>
      refine iff_of_false nofun fun held => ?_
      cases held.1
      rw [wrong] at held
      cases held.2
    next right =>
      constructor
      · intro passed
        cases passed
        exact ⟨rfl, Bool.eq_false_iff.mpr right⟩
      · rintro ⟨same, -⟩
        cases same
        rfl

theorem loadStartup_eq_some (valid : plan.valid hashing = true) {row : StartupErrorObservation} :
    loadStartupErrorObservation hashing db plan.deploymentId = .ok (some row) ↔
      IsStartup hashing db plan row := by
  unfold loadStartupErrorObservation IsStartup
  rw [if_neg (by simp [valid_deploymentId valid]), selectThenFollowing_eq_some, Prod.exists]

theorem availabilityPrerequisite_eq_ok (deployed : Deployed hashing db plan)
    {startup : StartupErrorObservation} :
    availabilityPrerequisite hashing db plan.target = .ok startup ↔
      PassesStartup hashing db plan startup := by
  obtain ⟨valid, prepared, there, same⟩ := deployed
  have there : db.prepared plan.target.deploymentId = .ok (some prepared) := there
  unfold availabilityPrerequisite PassesStartup
  rw [there]
  dsimp only
  rw [if_neg (not_not.mpr same), requirePassed_eq_ok, decide_eq_false_iff_not, not_not]
  exact and_congr_left' (loadStartup_eq_some valid)

theorem loadAvailability_eq_some (deployed : Deployed hashing db plan)
    {row : ResourceAvailabilityObservation} :
    loadResourceAvailabilityObservation hashing db plan.target = .ok (some row) ↔
      ∃ startup, PassesStartup hashing db plan startup ∧
        IsAvailability hashing db plan startup row := by
  unfold loadResourceAvailabilityObservation IsAvailability
  rw [if_neg (by simp [valid_target deployed.1]), selectThenFollowing_eq_some]
  constructor
  · rintro ⟨only, startup, there, good⟩
    exact ⟨startup, (availabilityPrerequisite_eq_ok deployed).mp there, only, good⟩
  · rintro ⟨startup, passed, only, good⟩
    exact ⟨only, startup, (availabilityPrerequisite_eq_ok deployed).mpr passed, good⟩

theorem entityPrerequisite_eq_ok (deployed : Deployed hashing db plan)
    {row : ResourceAvailabilityObservation} :
    entityPrerequisite hashing db plan.target = .ok row ↔
      PassesAvailability hashing db plan row := by
  unfold entityPrerequisite PassesAvailability
  rw [requirePassed_eq_ok, loadAvailability_eq_some deployed, decide_eq_false_iff_not]
  constructor
  · rintro ⟨⟨startup, passed, is⟩, right⟩
    exact ⟨startup, passed, is, not_not.mp fun wrong => right (.inr wrong)⟩
  · rintro ⟨startup, passed, is, same⟩
    have follows := is.2
    unfold ResourceAvailabilityObservation.follows at follows
    simp only [Bool.and_eq_true, decide_eq_true_eq] at follows
    refine ⟨⟨startup, passed, is⟩, ?_⟩
    rintro (wrong | wrong)
    · exact wrong follows.1.2
    · exact wrong same

theorem loadEntities_eq_some (deployed : Deployed hashing db plan) {row : EntityStateObservation} :
    loadEntityStateObservation hashing db plan.target = .ok (some row) ↔
      ∃ availability, PassesAvailability hashing db plan availability ∧
        IsEntity hashing db plan availability row := by
  unfold loadEntityStateObservation
  rw [bind_eq_ok]
  refine exists_congr fun availability => ?_
  rw [entityPrerequisite_eq_ok deployed, selectFollowing_eq_some]
  rfl

theorem automationPrerequisite_eq_ok (deployed : Deployed hashing db plan)
    {row : EntityStateObservation} :
    automationPrerequisite hashing db plan.automationTarget = .ok row ↔
      PassesEntities hashing db plan row := by
  unfold automationPrerequisite PassesEntities
  rw [requirePassed_eq_ok, decide_eq_false_iff_not, not_not]
  show loadEntityStateObservation hashing db plan.target = _ ∧ _ ↔ _
  rw [loadEntities_eq_some deployed, ← exists_and_right]
  exact exists_congr fun availability => and_assoc

theorem loadAutomations_eq_some (deployed : Deployed hashing db plan)
    {row : AutomationScriptObservation} :
    loadAutomationScriptObservation hashing db plan.automationTarget = .ok (some row) ↔
      ∃ entity, PassesEntities hashing db plan entity ∧
        IsAutomation hashing db plan entity row := by
  unfold loadAutomationScriptObservation
  rw [if_neg (by simp [valid_automationTarget deployed.1]), bind_eq_ok]
  refine exists_congr fun entity => ?_
  rw [automationPrerequisite_eq_ok deployed, selectFollowing_eq_some]
  rfl

theorem assertionPrerequisite_eq_ok (deployed : Deployed hashing db plan)
    {row : AutomationScriptObservation} :
    assertionPrerequisite hashing db plan = .ok row ↔ PassesAutomations hashing db plan row := by
  unfold assertionPrerequisite PassesAutomations
  rw [requirePassed_eq_ok, decide_eq_false_iff_not, not_not, loadAutomations_eq_some deployed,
    ← exists_and_right]
  exact exists_congr fun entity => and_assoc

theorem loadAssertions_eq_some (deployed : Deployed hashing db plan)
    {row : PostDeploymentAssertionObservation} :
    loadPostDeploymentAssertionObservation hashing db plan = .ok (some row) ↔
      ∃ automation, PassesAutomations hashing db plan automation ∧
        IsAssertion hashing db plan automation row := by
  unfold loadPostDeploymentAssertionObservation
  rw [if_neg (by simp [deployed.1]), bind_eq_ok]
  refine exists_congr fun automation => ?_
  rw [assertionPrerequisite_eq_ok deployed, selectFollowing_eq_some]
  rfl

/-! ## What is decided -/

theorem any_hasRow {later : List ObservationStage} :
    later.any (hasRow db plan.deploymentId) = true ↔ ¬NoneOf db plan later := by
  rw [List.any_eq_true, NoneOf]
  simp only [not_forall, Bool.not_eq_false, exists_prop]

/-- One observation of the decision is there, and ends it or lets it go on. -/
theorem decideStage_eq_ok {R : Type} {prepared : PreparedEvidence} {digests : List Digest}
    {loaded : Except Failure (Option R)} {failed : R → Bool} {record : R → Digest × Nat}
    {stage : ObservationStage} {later : List ObservationStage}
    {next : List Digest → R → Except DecisionError Decision} {decided : Decision} :
    decideStage hashing db plan prepared digests loaded failed record stage later next =
      .ok decided ↔
      ∃ row, loaded = .ok (some row) ∧
        ((failed row = true ∧ NoneOf db plan later ∧ decided = makeDecision hashing plan prepared
          digests (record row).1 (record row).2 (.failure stage)) ∨
        (failed row = false ∧ next (digests ++ [(record row).1]) row = .ok decided)) := by
  unfold decideStage
  split
  next failure => exact iff_of_false nofun fun ⟨_, wrong, _⟩ => nomatch wrong
  next => exact iff_of_false nofun fun ⟨_, wrong, _⟩ => nomatch wrong
  next row =>
    constructor
    · intro done
      refine ⟨row, rfl, ?_⟩
      split at done
      next wrong =>
        split at done
        next => cases done
        next clear =>
          cases done
          exact .inl ⟨wrong, not_not.mp (any_hasRow.not.mp clear), rfl⟩
      next right => exact .inr ⟨Bool.eq_false_iff.mpr right, done⟩
    · rintro ⟨other, same, ⟨wrong, clear, rfl⟩ | ⟨right, done⟩⟩
      · cases same
        rw [if_pos wrong, if_neg (any_hasRow.not.mpr (not_not.mpr clear))]
      · cases same
        rw [if_neg (Bool.eq_false_iff.mp right)]
        exact done

/-- No observation of the deployment is later. -/
structure ObservedUntil (db : Database) (deploymentId : PyStr) (at' : Nat) : Prop where
  startupErrors : ∀ row ∈ db.startupErrors, row.deploymentId = deploymentId → row.observedAt ≤ at'
  resourceAvailability : ∀ row ∈ db.resourceAvailability, row.deploymentId = deploymentId →
    row.observedAt ≤ at'
  entityStates : ∀ row ∈ db.entityStates, row.deploymentId = deploymentId → row.observedAt ≤ at'
  automationScripts : ∀ row ∈ db.automationScripts, row.deploymentId = deploymentId →
    row.observedAt ≤ at'
  assertions : ∀ row ∈ db.assertions, row.deploymentId = deploymentId → row.observedAt ≤ at'

theorem OnlyRecord.mem {R : Type} {rows : List R} {deploymentId : R → PyStr} {valid : R → Bool}
    {id : PyStr} {row : R} (only : OnlyRecord rows deploymentId valid id row) :
    row ∈ rows ∧ deploymentId row = id := by
  have held : row ∈ rows.filter (deploymentId · = id) := by
    rw [only.1]
    exact List.mem_singleton.mpr rfl
  exact ⟨List.mem_of_mem_filter held, of_decide_eq_true (List.mem_filter.mp held).2⟩

section

variable {prepared : PreparedEvidence} {decided : Decision} {at' : Nat}

/-- The decision is the verdict, is made of records of before the time, and says so as
`makeDecision` does. -/
def DecidedBy (hashing : Hashing) (db : Database) (plan : PostDeploymentAssertionPlan) (at' : Nat)
    (decided : Decision) : Prop :=
  Verdict hashing db plan decided.outcome ∧ decided.terminalAt ≤ at' ∧
    ∃ prepared digests terminal, decided = makeDecision hashing plan prepared digests terminal
      decided.terminalAt decided.outcome

theorem decideAssertions_sound (deployed : Deployed hashing db plan)
    (before : ObservedUntil db plan.deploymentId at') {digests : List Digest}
    (done : decideAssertions hashing db plan prepared digests = .ok decided) :
    DecidedBy hashing db plan at' decided := by
  obtain ⟨row, loaded, ending⟩ := decideStage_eq_ok.mp done
  obtain ⟨automation, passes, is⟩ := (loadAssertions_eq_some deployed).mp loaded
  have time := before.assertions row is.1.mem.1 is.1.mem.2
  rcases ending with ⟨failed, -, rfl⟩ | ⟨passed, next⟩
  · exact ⟨⟨deployed, automation, row, passes, is, of_decide_eq_true failed⟩, time, _, _, _, rfl⟩
  · cases next
    exact ⟨⟨deployed, row, automation, passes, is, not_not.mp (of_decide_eq_false passed)⟩, time,
      _, _, _, rfl⟩

theorem decideAutomations_sound (deployed : Deployed hashing db plan)
    (before : ObservedUntil db plan.deploymentId at') {digests : List Digest}
    (done : decideAutomations hashing db plan prepared digests = .ok decided) :
    DecidedBy hashing db plan at' decided := by
  obtain ⟨row, loaded, ending⟩ := decideStage_eq_ok.mp done
  obtain ⟨entity, passes, is⟩ := (loadAutomations_eq_some deployed).mp loaded
  rcases ending with ⟨failed, clear, rfl⟩ | ⟨-, next⟩
  · exact ⟨⟨deployed, entity, row, passes, is, of_decide_eq_true failed, clear⟩,
      before.automationScripts row is.1.mem.1 is.1.mem.2, _, _, _, rfl⟩
  · exact decideAssertions_sound deployed before next

theorem decideEntities_sound (deployed : Deployed hashing db plan)
    (before : ObservedUntil db plan.deploymentId at') {digests : List Digest}
    (done : decideEntities hashing db plan prepared digests = .ok decided) :
    DecidedBy hashing db plan at' decided := by
  obtain ⟨row, loaded, ending⟩ := decideStage_eq_ok.mp done
  obtain ⟨availability, passes, is⟩ := (loadEntities_eq_some deployed).mp loaded
  rcases ending with ⟨failed, clear, rfl⟩ | ⟨-, next⟩
  · exact ⟨⟨deployed, availability, row, passes, is, of_decide_eq_true failed, clear⟩,
      before.entityStates row is.1.mem.1 is.1.mem.2, _, _, _, rfl⟩
  · exact decideAutomations_sound deployed before next

theorem decideAvailability_sound (deployed : Deployed hashing db plan)
    (before : ObservedUntil db plan.deploymentId at') {digests : List Digest}
    (done : decideAvailability hashing db plan prepared digests = .ok decided) :
    DecidedBy hashing db plan at' decided := by
  obtain ⟨row, loaded, ending⟩ := decideStage_eq_ok.mp done
  obtain ⟨startup, passes, is⟩ := (loadAvailability_eq_some deployed).mp loaded
  rcases ending with ⟨failed, clear, rfl⟩ | ⟨-, next⟩
  · exact ⟨⟨deployed, startup, row, passes, is, of_decide_eq_true failed, clear⟩,
      before.resourceAvailability row is.1.mem.1 is.1.mem.2, _, _, _, rfl⟩
  · exact decideEntities_sound deployed before next

/-- The decision begins with what is prepared. -/
theorem decision_eq_ok :
    decision hashing db plan = .ok decided ↔ plan.valid hashing = true ∧
      ∃ prepared, db.prepared plan.deploymentId = .ok (some prepared) ∧
        prepared.candidateSha = plan.target.candidateSha ∧
        decideStage hashing db plan prepared [prepared.recordSha256]
          (loadStartupErrorObservation hashing db plan.deploymentId)
          (·.significantErrorCount ≠ 0) (fun row => (row.recordSha256, row.observedAt))
          .startupErrors
          [.resourceAvailability, .entityStates, .automationScriptLoad, .postDeploymentAssertions]
          (fun digests _ => decideAvailability hashing db plan prepared digests) = .ok decided := by
  unfold decision
  by_cases valid : plan.valid hashing = true
  · rw [if_neg (by simp [valid])]
    split
    next failed => exact iff_of_false nofun fun ⟨_, _, there, _⟩ => nomatch failed.symm.trans there
    next none => exact iff_of_false nofun fun ⟨_, _, there, _⟩ => nomatch none.symm.trans there
    next prepared there =>
      split
      next apart =>
        refine iff_of_false nofun ?_
        rintro ⟨-, other, found, same, -⟩
        cases there.symm.trans found
        exact apart same
      next same =>
        constructor
        · intro done
          exact ⟨valid, prepared, there, not_not.mp same, done⟩
        · rintro ⟨-, other, found, -, done⟩
          cases there.symm.trans found
          exact done
  · rw [if_pos (by simpa using valid)]
    exact iff_of_false nofun fun held => valid held.1

/-- **What is decided is the verdict.** -/
theorem decision_sound (before : ObservedUntil db plan.deploymentId at')
    (done : decision hashing db plan = .ok decided) : DecidedBy hashing db plan at' decided := by
  obtain ⟨valid, prepared, there, same, done⟩ := decision_eq_ok.mp done
  have deployed : Deployed hashing db plan := ⟨valid, prepared, there, same⟩
  obtain ⟨row, loaded, ending⟩ := decideStage_eq_ok.mp done
  have is := (loadStartup_eq_some valid).mp loaded
  rcases ending with ⟨failed, clear, rfl⟩ | ⟨-, next⟩
  · exact ⟨⟨deployed, row, is, of_decide_eq_true failed, clear⟩,
      before.startupErrors row is.1.mem.1 is.1.mem.2, _, _, _, rfl⟩
  · exact decideAvailability_sound deployed before next

end

/-- Whatever the digests before, this outcome is decided. -/
def Answers (decide : PreparedEvidence → List Digest → Except DecisionError Decision)
    (outcome : DeploymentOutcome) : Prop :=
  ∀ prepared digests, ∃ decided, decide prepared digests = .ok decided ∧ decided.outcome = outcome

/-- The outcome is decided. -/
def Decides (hashing : Hashing) (db : Database) (plan : PostDeploymentAssertionPlan)
    (outcome : DeploymentOutcome) : Prop :=
  ∃ decided, decision hashing db plan = .ok decided ∧ decided.outcome = outcome

theorem passStartup (deployed : Deployed hashing db plan) {row : StartupErrorObservation}
    (passes : PassesStartup hashing db plan row) {outcome : DeploymentOutcome}
    (next : Answers (decideAvailability hashing db plan) outcome) :
    Decides hashing db plan outcome := by
  obtain ⟨valid, prepared, there, same⟩ := deployed
  obtain ⟨decided, done, is⟩ := next prepared ([prepared.recordSha256] ++ [row.recordSha256])
  exact ⟨decided, decision_eq_ok.mpr ⟨valid, prepared, there, same, decideStage_eq_ok.mpr
    ⟨row, (loadStartup_eq_some valid).mpr passes.1, .inr ⟨by simpa using passes.2, done⟩⟩⟩, is⟩

theorem passAvailability (deployed : Deployed hashing db plan)
    {row : ResourceAvailabilityObservation} (passes : PassesAvailability hashing db plan row)
    {outcome : DeploymentOutcome} (next : Answers (decideEntities hashing db plan) outcome) :
    Decides hashing db plan outcome := by
  obtain ⟨startup, before, is, same⟩ := passes
  refine passStartup deployed before fun prepared digests => ?_
  obtain ⟨decided, done, answer⟩ := next prepared (digests ++ [row.recordSha256])
  exact ⟨decided, decideStage_eq_ok.mpr ⟨row, (loadAvailability_eq_some deployed).mpr
    ⟨startup, before, is⟩, .inr ⟨by simpa using same, done⟩⟩, answer⟩

theorem passEntities (deployed : Deployed hashing db plan) {row : EntityStateObservation}
    (passes : PassesEntities hashing db plan row) {outcome : DeploymentOutcome}
    (next : Answers (decideAutomations hashing db plan) outcome) :
    Decides hashing db plan outcome := by
  obtain ⟨availability, before, is, none⟩ := passes
  refine passAvailability deployed before fun prepared digests => ?_
  obtain ⟨decided, done, answer⟩ := next prepared (digests ++ [row.recordSha256])
  exact ⟨decided, decideStage_eq_ok.mpr ⟨row, (loadEntities_eq_some deployed).mpr
    ⟨availability, before, is⟩, .inr ⟨by simpa using none, done⟩⟩, answer⟩

theorem passAutomations (deployed : Deployed hashing db plan) {row : AutomationScriptObservation}
    (passes : PassesAutomations hashing db plan row) {outcome : DeploymentOutcome}
    (next : Answers (decideAssertions hashing db plan) outcome) :
    Decides hashing db plan outcome := by
  obtain ⟨entity, before, is, none⟩ := passes
  refine passEntities deployed before fun prepared digests => ?_
  obtain ⟨decided, done, answer⟩ := next prepared (digests ++ [row.recordSha256])
  exact ⟨decided, decideStage_eq_ok.mpr ⟨row, (loadAutomations_eq_some deployed).mpr
    ⟨entity, before, is⟩, .inr ⟨by simpa using none, done⟩⟩, answer⟩

/-- **The verdict is decided.** -/
theorem decision_complete {outcome : DeploymentOutcome} (verdict : Verdict hashing db plan outcome) :
    Decides hashing db plan outcome := by
  cases outcome with
  | success =>
    obtain ⟨deployed, row, automation, before, is, none⟩ := verdict
    refine passAutomations deployed before fun prepared digests => ?_
    exact ⟨_, decideStage_eq_ok.mpr ⟨row, (loadAssertions_eq_some deployed).mpr
      ⟨automation, before, is⟩, .inr ⟨by simpa using none, rfl⟩⟩, rfl⟩
  | failure stage =>
    cases stage with
    | startupErrors =>
      obtain ⟨⟨valid, prepared, there, same⟩, row, is, some, clear⟩ := verdict
      exact ⟨_, decision_eq_ok.mpr ⟨valid, prepared, there, same, decideStage_eq_ok.mpr
        ⟨row, (loadStartup_eq_some valid).mpr is, .inl ⟨decide_eq_true some, clear, rfl⟩⟩⟩, rfl⟩
    | resourceAvailability =>
      obtain ⟨deployed, startup, row, before, is, missing, clear⟩ := verdict
      refine passStartup deployed before fun prepared digests => ?_
      exact ⟨_, decideStage_eq_ok.mpr ⟨row, (loadAvailability_eq_some deployed).mpr
        ⟨startup, before, is⟩, .inl ⟨decide_eq_true missing, clear, rfl⟩⟩, rfl⟩
    | entityStates =>
      obtain ⟨deployed, availability, row, before, is, some, clear⟩ := verdict
      refine passAvailability deployed before fun prepared digests => ?_
      exact ⟨_, decideStage_eq_ok.mpr ⟨row, (loadEntities_eq_some deployed).mpr
        ⟨availability, before, is⟩, .inl ⟨decide_eq_true some, clear, rfl⟩⟩, rfl⟩
    | automationScriptLoad =>
      obtain ⟨deployed, entity, row, before, is, some, clear⟩ := verdict
      refine passEntities deployed before fun prepared digests => ?_
      exact ⟨_, decideStage_eq_ok.mpr ⟨row, (loadAutomations_eq_some deployed).mpr
        ⟨entity, before, is⟩, .inl ⟨decide_eq_true some, clear, rfl⟩⟩, rfl⟩
    | postDeploymentAssertions =>
      obtain ⟨deployed, automation, row, before, is, some⟩ := verdict
      refine passAutomations deployed before fun prepared digests => ?_
      exact ⟨_, decideStage_eq_ok.mpr ⟨row, (loadAssertions_eq_some deployed).mpr
        ⟨automation, before, is⟩, .inl ⟨decide_eq_true some, nofun, rfl⟩⟩, rfl⟩

/-! ## What is recorded -/

/-- Deciding does not look at the finalizations. -/
theorem decision_finalizations (rows : List DeploymentFinalization) :
    decision hashing { db with finalizations := rows } plan = decision hashing db plan := rfl

theorem createFinalization_valid (valid : plan.valid hashing = true)
    {prepared : PreparedEvidence} {digests : List Digest} {terminal : Digest} {terminalAt : Nat}
    {outcome : DeploymentOutcome} (finalizedAt : Nat) :
    (createFinalization hashing (makeDecision hashing plan prepared digests terminal terminalAt
      outcome) finalizedAt).valid hashing = true := by
  have identity := valid_deploymentId valid
  unfold DeploymentFinalization.valid
  simp only [Bool.and_eq_true, decide_eq_true_eq]
  exact ⟨⟨⟨⟨identity, prepared.slug⟩, rfl⟩, rfl⟩, rfl⟩

/-- No outcome is recorded for the deployment. -/
def Unfinalized (db : Database) (deploymentId : PyStr) : Prop :=
  ∀ row ∈ db.finalizations, row.deploymentId ≠ deploymentId

theorem Unfinalized.filter {deploymentId : PyStr} (unfinalized : Unfinalized db deploymentId) :
    db.finalizations.filter (·.deploymentId = deploymentId) = [] :=
  List.filter_eq_nil_iff.mpr fun row mem => by simpa using unfinalized row mem

theorem load_unfinalized (valid : plan.valid hashing = true)
    (unfinalized : Unfinalized db plan.deploymentId) :
    loadDeploymentFinalization hashing db plan = .ok none := by
  unfold loadDeploymentFinalization
  rw [if_neg (by simp [valid]), selectRecord_eq_none.mpr unfinalized.filter]
  rfl

/-- A row that is what is decided now is loaded. -/
theorem load_finalized (valid : plan.valid hashing = true) {row : DeploymentFinalization}
    {decided : Decision}
    (only : OnlyRecord db.finalizations (·.deploymentId) (·.valid hashing) plan.deploymentId row)
    (done : decision hashing db plan = .ok decided)
    (same : row = createFinalization hashing decided row.finalizedAt)
    (late : decided.terminalAt ≤ row.finalizedAt) :
    loadDeploymentFinalization hashing db plan = .ok (some row) := by
  unfold loadDeploymentFinalization
  rw [if_neg (by simp [valid]), (selectRecord_eq_some _).mpr only]
  simp only [bind, Except.bind, done]
  rw [if_neg]
  · rfl
  · rintro (apart | early)
    · exact apart same
    · omega

theorem eval_query_ok {α : Type} {read : Database → Except Failure α} {a : α}
    (there : read db = .ok a) : (query read).eval db = (.ok a, db) := congrArg (·, db) there

theorem eval_query_error {α : Type} {read : Database → Except Failure α} {failure : Failure}
    (failed : read db = .error failure) : (query read).eval db = (.error failure, db) :=
  congrArg (·, db) failed

theorem eval_transaction_ok {α : Type} {change : Database → Except Failure (α × Database)} {a : α}
    {after : Database} (done : change db = .ok (a, after)) :
    (transaction change).eval db = (.ok a, after) := by
  unfold transaction
  rw [eval_action, done]

section

variable {at' : Nat}

theorem finalize_of_decision (unfinalized : Unfinalized db plan.deploymentId)
    (before : ObservedUntil db plan.deploymentId at') {decided : Decision}
    (done : decision hashing db plan = .ok decided) :
    (finalizeDeploymentOnce hashing plan at').eval db = (.ok ⟨decided.outcome, false⟩,
      { db with finalizations := db.finalizations ++ [createFinalization hashing decided at'] }) := by
  obtain ⟨valid, -⟩ := decision_eq_ok.mp done
  obtain ⟨-, early, prepared, digests, terminal, made⟩ := decision_sound before done
  have requested : requestFinalization hashing db plan at' =
      .ok (createFinalization hashing decided at') := by
    unfold requestFinalization
    rw [done]
    exact if_neg (Nat.not_lt.mpr early)
  have inserted : insertFinalization hashing db plan (createFinalization hashing decided at') =
      .ok (none, { db with
        finalizations := db.finalizations ++ [createFinalization hashing decided at'] }) := by
    unfold insertFinalization
    rw [done]
    show (if createFinalization hashing decided at' ≠ createFinalization hashing decided at' then _
      else _) = _
    rw [if_neg (not_not.mpr rfl), load_unfinalized valid unfinalized]
    rfl
  have identity : (createFinalization hashing decided at').deploymentId = plan.deploymentId := by
    rw [made]
    rfl
  have loaded : loadDeploymentFinalization hashing { db with
      finalizations := db.finalizations ++ [createFinalization hashing decided at'] } plan =
        .ok (some (createFinalization hashing decided at')) := by
    refine load_finalized valid ⟨?_, ?_⟩ done rfl early
    · rw [List.filter_append, unfinalized.filter, List.nil_append]
      exact List.filter_cons_of_pos (decide_eq_true identity)
    · rw [made]
      exact createFinalization_valid valid at'
  unfold finalizeDeploymentOnce
  rw [eval_bind_ok (eval_query_ok (load_unfinalized valid unfinalized))]
  dsimp only
  rw [eval_bind_ok (eval_query_ok requested), eval_bind_ok (eval_transaction_ok inserted)]
  dsimp only
  rw [eval_bind_ok (eval_query_ok loaded), if_neg (not_not.mpr rfl)]
  rw [made]
  rfl

variable (at') in
theorem finalize_of_error (unfinalized : Unfinalized db plan.deploymentId) {error : DecisionError}
    (failed : decision hashing db plan = .error error) :
    ∃ failure, (finalizeDeploymentOnce hashing plan at').eval db = (.error failure, db) := by
  by_cases valid : plan.valid hashing = true
  · have requested : requestFinalization hashing db plan at' = .error (raisedOf error) := by
      unfold requestFinalization
      rw [failed]
      rfl
    refine ⟨raisedOf error, ?_⟩
    unfold finalizeDeploymentOnce
    rw [eval_bind_ok (eval_query_ok (load_unfinalized valid unfinalized))]
    dsimp only
    exact eval_bind_error (eval_query_error requested)
  · refine ⟨finalizationInvalid, eval_bind_error (eval_query_error ?_)⟩
    unfold loadDeploymentFinalization
    rw [if_pos (by simpa using valid)]

/-- The later database holds all that the earlier one does. -/
structure Grows (earlier later : Database) : Prop where
  startupErrors : earlier.startupErrors ⊆ later.startupErrors
  resourceAvailability : earlier.resourceAvailability ⊆ later.resourceAvailability
  entityStates : earlier.entityStates ⊆ later.entityStates
  automationScripts : earlier.automationScripts ⊆ later.automationScripts
  assertions : earlier.assertions ⊆ later.assertions
  finalizations : earlier.finalizations ⊆ later.finalizations

variable (hashing) in
/-- A recorded outcome is answered, or nothing is. -/
theorem load_recorded {row : DeploymentFinalization} (mem : row ∈ db.finalizations)
    (identity : row.deploymentId = plan.deploymentId) :
    loadDeploymentFinalization hashing db plan = .ok (some row) ∨
      ∃ failure, loadDeploymentFinalization hashing db plan = .error failure := by
  cases loaded : loadDeploymentFinalization hashing db plan with
  | error failure => exact .inr ⟨failure, rfl⟩
  | ok found =>
    refine .inl (congrArg Except.ok ?_)
    have held : row ∈ db.finalizations.filter (·.deploymentId = plan.deploymentId) :=
      List.mem_filter.mpr ⟨mem, decide_eq_true identity⟩
    unfold loadDeploymentFinalization at loaded
    split at loaded
    · cases loaded
    obtain ⟨selected, only, loaded⟩ := bind_eq_ok.mp loaded
    cases selected with
    | none =>
      rw [selectRecord_eq_none.mp only] at held
      cases held
    | some other =>
      rw [((selectRecord_eq_some _).mp only).1, List.mem_singleton] at held
      dsimp only at loaded
      split at loaded
      · cases loaded
      · cases loaded
      · split at loaded
        · cases loaded
        · cases loaded
          rw [held]

theorem finalize_recorded {row : DeploymentFinalization} (mem : row ∈ db.finalizations)
    (identity : row.deploymentId = plan.deploymentId) :
    (finalizeDeploymentOnce hashing plan at').eval db = (.ok ⟨row.outcome, true⟩, db) ∨
      ∃ failure, (finalizeDeploymentOnce hashing plan at').eval db = (.error failure, db) := by
  unfold finalizeDeploymentOnce
  rcases load_recorded hashing mem identity with loaded | ⟨failure, failed⟩
  · rw [eval_bind_ok (eval_query_ok loaded)]
    exact .inl rfl
  · exact .inr ⟨failure, eval_bind_error (eval_query_error failed)⟩

end

/-- **The verdict is what is recorded.** Where no outcome is recorded yet, and no observation is
later than the call, the call records an outcome exactly when this is the verdict of the records;
where there is none it raises, and changes nothing; and whatever records are added after it, a call
for the deployment answers the same outcome, or raises. -/
theorem finalization_verdict {at' : Nat} (unfinalized : Unfinalized db plan.deploymentId)
    (before : ObservedUntil db plan.deploymentId at') :
    (∀ outcome, (∃ row, row.deploymentId = plan.deploymentId ∧ row.outcome = outcome ∧
        (finalizeDeploymentOnce hashing plan at').eval db = (.ok ⟨outcome, false⟩,
          { db with finalizations := db.finalizations ++ [row] })) ↔
      Verdict hashing db plan outcome) ∧
    ((¬∃ outcome, Verdict hashing db plan outcome) →
      ∃ failure, (finalizeDeploymentOnce hashing plan at').eval db = (.error failure, db)) ∧
    ∀ result written, (finalizeDeploymentOnce hashing plan at').eval db = (.ok result, written) →
      ∀ later, Grows written later → ∀ plan' time', plan'.deploymentId = plan.deploymentId →
        (finalizeDeploymentOnce hashing plan' time').eval later =
            (.ok ⟨result.outcome, true⟩, later) ∨
          ∃ failure, (finalizeDeploymentOnce hashing plan' time').eval later =
            (.error failure, later) := by
  cases done : decision hashing db plan with
  | error error =>
    obtain ⟨failure, raised⟩ := finalize_of_error at' unfinalized done
    refine ⟨fun outcome => ?_, fun _ => ⟨failure, raised⟩, fun result written answered => ?_⟩
    · refine iff_of_false ?_ fun verdict => ?_
      · rintro ⟨row, -, -, answered⟩
        cases raised.symm.trans answered
      · obtain ⟨decided, wrong, -⟩ := decision_complete verdict
        cases done.symm.trans wrong
    · cases raised.symm.trans answered
  | ok decided =>
    have answered := finalize_of_decision unfinalized before done
    obtain ⟨verdict, -, prepared, digests, terminal, made⟩ := decision_sound before done
    have identity : (createFinalization hashing decided at').deploymentId = plan.deploymentId := by
      rw [made]
      rfl
    refine ⟨fun outcome => ⟨?_, fun same => ?_⟩, fun none => absurd ⟨_, verdict⟩ none, ?_⟩
    · rintro ⟨row, -, -, recorded⟩
      have same := Except.ok.inj (congrArg Prod.fst (answered.symm.trans recorded))
      exact (Finalized.mk.inj same).1 ▸ verdict
    · obtain ⟨other, again, is⟩ := decision_complete same
      cases done.symm.trans again
      rw [← is]
      exact ⟨createFinalization hashing decided at', identity, rfl, answered⟩
    · intro result written recorded later grows plan' time' same
      cases answered.symm.trans recorded
      exact finalize_recorded
        (grows.finalizations (List.mem_append_right _ (List.mem_singleton.mpr rfl)))
        (identity.trans same.symm)

/-! ## What the pipeline decides on

`Pipeline.Finalization` decides on one kind of row for all stages. -/

/-- The rows of a stage, with how many things failed in each. -/
def stageRows (db : Database) : ObservationStage → List StageObservation
  | .startupErrors => db.startupErrors.map fun row =>
    ⟨row.deploymentId, .startupErrors, row.significantErrorCount.natAbs, row.observedAt⟩
  | .resourceAvailability => db.resourceAvailability.map fun row =>
    ⟨row.deploymentId, .resourceAvailability, (row.availableCount - row.expectedCount).natAbs,
      row.observedAt⟩
  | .entityStates => db.entityStates.map fun row =>
    ⟨row.deploymentId, .entityStates, row.invalidCount.natAbs, row.observedAt⟩
  | .automationScriptLoad => db.automationScripts.map fun row =>
    ⟨row.deploymentId, .automationScriptLoad, row.failedCount.natAbs, row.observedAt⟩
  | .postDeploymentAssertions => db.assertions.map fun row =>
    ⟨row.deploymentId, .postDeploymentAssertions, row.failedCount.natAbs, row.observedAt⟩

/-- The store of the pipeline holds the observations of this database. -/
def Summarizes (store : Store) (db : Database) : Prop :=
  store.observations = observationStages.flatMap (stageRows db)

theorem stageRows_stage {stage : ObservationStage} {row : StageObservation}
    (mem : row ∈ stageRows db stage) : row.stage = stage := by
  cases stage with
  | startupErrors =>
    obtain ⟨_, _, rfl⟩ := List.mem_map.mp mem
    rfl
  | resourceAvailability =>
    obtain ⟨_, _, rfl⟩ := List.mem_map.mp mem
    rfl
  | entityStates =>
    obtain ⟨_, _, rfl⟩ := List.mem_map.mp mem
    rfl
  | automationScriptLoad =>
    obtain ⟨_, _, rfl⟩ := List.mem_map.mp mem
    rfl
  | postDeploymentAssertions =>
    obtain ⟨_, _, rfl⟩ := List.mem_map.mp mem
    rfl

/-- The row of a stage is found among the rows of all. -/
theorem observation_eq_find {store : Store} (summarizes : Summarizes store db)
    (deploymentId : PyStr) (stage : ObservationStage) :
    store.observation deploymentId stage =
      (stageRows db stage).find? (·.deploymentId = deploymentId) := by
  have own : (stageRows db stage).find? (fun row => row.deploymentId = deploymentId ∧
      row.stage = stage) = (stageRows db stage).find? (·.deploymentId = deploymentId) :=
    List.find?_congr fun row mem => by simp [stageRows_stage mem]
  have apart : ∀ other, other ≠ stage → (stageRows db other).find? (fun row =>
      row.deploymentId = deploymentId ∧ row.stage = stage) = none := by
    intro other different
    refine List.find?_eq_none.mpr fun row mem same => different ?_
    rw [← stageRows_stage mem]
    exact (of_decide_eq_true same).2
  unfold Store.observation
  rw [summarizes, List.find?_flatMap, ← own]
  have listed : stage ∈ observationStages := by
    cases stage <;> decide
  generalize observationStages = stages at listed
  induction stages with
  | nil => cases listed
  | cons other stages ih =>
    rw [List.findSome?_cons]
    by_cases same : other = stage
    · rw [same]
      split
      next found => exact found.symm
      next none =>
        rw [none]
        refine List.findSome?_eq_none_iff.mpr fun later _ => ?_
        by_cases again : later = stage
        · rw [again, none]
        · exact apart later again
    · rw [apart other same]
      exact ih ((List.mem_cons.mp listed).resolve_left fun is => same is.symm)

theorem OnlyRecord.find {R : Type} {rows : List R} {deploymentId : R → PyStr} {valid : R → Bool}
    {id : PyStr} {row : R} (only : OnlyRecord rows deploymentId valid id row) :
    rows.find? (deploymentId · = id) = some row := by
  rw [← List.head?_filter, only.1]
  rfl

theorem found_startup {row : StartupErrorObservation} (is : IsStartup hashing db plan row) :
    (stageRows db .startupErrors).find? (·.deploymentId = plan.deploymentId) =
      some ⟨row.deploymentId, .startupErrors, row.significantErrorCount.natAbs,
        row.observedAt⟩ := by
  rw [stageRows, List.find?_map]
  exact congrArg (Option.map _) is.1.find

theorem found_availability {startup : StartupErrorObservation}
    {row : ResourceAvailabilityObservation} (is : IsAvailability hashing db plan startup row) :
    (stageRows db .resourceAvailability).find? (·.deploymentId = plan.deploymentId) =
      some ⟨row.deploymentId, .resourceAvailability,
        (row.availableCount - row.expectedCount).natAbs, row.observedAt⟩ := by
  rw [stageRows, List.find?_map]
  exact congrArg (Option.map _) is.1.find

theorem found_entity {availability : ResourceAvailabilityObservation} {row : EntityStateObservation}
    (is : IsEntity hashing db plan availability row) :
    (stageRows db .entityStates).find? (·.deploymentId = plan.deploymentId) =
      some ⟨row.deploymentId, .entityStates, row.invalidCount.natAbs, row.observedAt⟩ := by
  rw [stageRows, List.find?_map]
  exact congrArg (Option.map _) is.1.find

theorem found_automation {entity : EntityStateObservation} {row : AutomationScriptObservation}
    (is : IsAutomation hashing db plan entity row) :
    (stageRows db .automationScriptLoad).find? (·.deploymentId = plan.deploymentId) =
      some ⟨row.deploymentId, .automationScriptLoad, row.failedCount.natAbs, row.observedAt⟩ := by
  rw [stageRows, List.find?_map]
  exact congrArg (Option.map _) is.1.find

theorem found_assertion {automation : AutomationScriptObservation}
    {row : PostDeploymentAssertionObservation} (is : IsAssertion hashing db plan automation row) :
    (stageRows db .postDeploymentAssertions).find? (·.deploymentId = plan.deploymentId) =
      some ⟨row.deploymentId, .postDeploymentAssertions, row.failedCount.natAbs,
        row.observedAt⟩ := by
  rw [stageRows, List.find?_map]
  exact congrArg (Option.map _) is.1.find

theorem hasRow_eq (db : Database) (deploymentId : PyStr) (stage : ObservationStage) :
    hasRow db deploymentId stage = (stageRows db stage).any (·.deploymentId = deploymentId) := by
  cases stage <;>
  · rw [stageRows, List.any_map]
    rfl

section

variable {store : Store} (summarizes : Summarizes store db)

include summarizes

/-- A stage that passed is passed over. -/
theorem decideStages_pass {stage : ObservationStage} {stages : List ObservationStage}
    {row : StageObservation} {outcome : DeploymentOutcome}
    (found : (stageRows db stage).find? (·.deploymentId = plan.deploymentId) = some row)
    (passed : row.failedCount = 0)
    (rest : ∃ chain, decideStages store plan.deploymentId stages = .ok (outcome, chain)) :
    ∃ chain, decideStages store plan.deploymentId (stage :: stages) = .ok (outcome, chain) := by
  obtain ⟨chain, rest⟩ := rest
  refine ⟨row :: chain, ?_⟩
  unfold decideStages
  rw [observation_eq_find summarizes, found]
  dsimp only
  rw [if_neg (not_not.mpr passed), rest]
  rfl

theorem decideStages_fail {stage : ObservationStage} {stages : List ObservationStage}
    {row : StageObservation}
    (found : (stageRows db stage).find? (·.deploymentId = plan.deploymentId) = some row)
    (failed : row.failedCount ≠ 0) (clear : NoneOf db plan stages) :
    ∃ chain, decideStages store plan.deploymentId (stage :: stages) =
      .ok (.failure stage, chain) := by
  have absent : ¬(stages.any fun later =>
      (store.observation plan.deploymentId later).isSome) = true := by
    intro present
    obtain ⟨later, mem, there⟩ := List.any_eq_true.mp present
    rw [observation_eq_find summarizes, List.find?_isSome, ← List.any_eq_true, ← hasRow_eq,
      clear later mem] at there
    cases there
  refine ⟨[row], ?_⟩
  unfold decideStages
  rw [observation_eq_find summarizes, found]
  dsimp only
  rw [if_pos failed, if_neg absent]

theorem decideStages_startup {row : StartupErrorObservation}
    (passes : PassesStartup hashing db plan row) {outcome : DeploymentOutcome}
    (rest : ∃ chain, decideStages store plan.deploymentId [.resourceAvailability, .entityStates,
      .automationScriptLoad, .postDeploymentAssertions] = .ok (outcome, chain)) :
    ∃ chain, decideStages store plan.deploymentId observationStages = .ok (outcome, chain) :=
  decideStages_pass summarizes (found_startup passes.1) (by simp [passes.2]) rest

theorem decideStages_availability {row : ResourceAvailabilityObservation}
    (passes : PassesAvailability hashing db plan row) {outcome : DeploymentOutcome}
    (rest : ∃ chain, decideStages store plan.deploymentId [.entityStates, .automationScriptLoad,
      .postDeploymentAssertions] = .ok (outcome, chain)) :
    ∃ chain, decideStages store plan.deploymentId observationStages = .ok (outcome, chain) := by
  obtain ⟨startup, before, is, same⟩ := passes
  exact decideStages_startup summarizes before
    (decideStages_pass summarizes (found_availability is) (by simp [same]) rest)

theorem decideStages_entities {row : EntityStateObservation}
    (passes : PassesEntities hashing db plan row) {outcome : DeploymentOutcome}
    (rest : ∃ chain, decideStages store plan.deploymentId [.automationScriptLoad,
      .postDeploymentAssertions] = .ok (outcome, chain)) :
    ∃ chain, decideStages store plan.deploymentId observationStages = .ok (outcome, chain) := by
  obtain ⟨availability, before, is, none⟩ := passes
  exact decideStages_availability summarizes before
    (decideStages_pass summarizes (found_entity is) (by simp [none]) rest)

theorem decideStages_automations {row : AutomationScriptObservation}
    (passes : PassesAutomations hashing db plan row) {outcome : DeploymentOutcome}
    (rest : ∃ chain, decideStages store plan.deploymentId [.postDeploymentAssertions] =
      .ok (outcome, chain)) :
    ∃ chain, decideStages store plan.deploymentId observationStages = .ok (outcome, chain) := by
  obtain ⟨entity, before, is, none⟩ := passes
  exact decideStages_entities summarizes before
    (decideStages_pass summarizes (found_automation is) (by simp [none]) rest)

/-- **The pipeline decides the verdict**, where its store holds the observations. -/
theorem decideStages_of_verdict {outcome : DeploymentOutcome}
    (verdict : Verdict hashing db plan outcome) :
    ∃ chain, decideStages store plan.deploymentId observationStages = .ok (outcome, chain) := by
  cases outcome with
  | success =>
    obtain ⟨-, row, automation, before, is, none⟩ := verdict
    exact decideStages_automations summarizes before
      (decideStages_pass summarizes (found_assertion is) (by simp [none]) ⟨[], rfl⟩)
  | failure stage =>
    cases stage with
    | startupErrors =>
      obtain ⟨-, row, is, some, clear⟩ := verdict
      exact decideStages_fail summarizes (found_startup is) (by simpa using some) clear
    | resourceAvailability =>
      obtain ⟨-, startup, row, before, is, missing, clear⟩ := verdict
      exact decideStages_startup summarizes before (decideStages_fail summarizes
        (found_availability is) (by simpa [Int.sub_eq_zero] using missing) clear)
    | entityStates =>
      obtain ⟨-, availability, row, before, is, some, clear⟩ := verdict
      exact decideStages_availability summarizes before
        (decideStages_fail summarizes (found_entity is) (by simpa using some) clear)
    | automationScriptLoad =>
      obtain ⟨-, entity, row, before, is, some, clear⟩ := verdict
      exact decideStages_entities summarizes before
        (decideStages_fail summarizes (found_automation is) (by simpa using some) clear)
    | postDeploymentAssertions =>
      obtain ⟨-, automation, row, before, is, some⟩ := verdict
      exact decideStages_automations summarizes before
        (decideStages_fail summarizes (found_assertion is) (by simpa using some) nofun)

end

/-! A deployment without changed resources, whose observations all pass. -/

def quietTarget : ResourceAvailabilityTarget :=
  ⟨text "00000000-0000-0000-0000-000000000000", .sha256 zeroDigest, [], zeroDigest⟩

def quietPlan : PostDeploymentAssertionPlan :=
  ⟨1, ⟨quietTarget, [], zeroDigest⟩, [], canonicalAssertions [], zeroDigest⟩

def quietDatabase : Database where
  prepared := fun _ => .ok (some ⟨.sha256 zeroDigest, text "slug", by decide, zeroDigest⟩)
  integration := fun _ => .ok (some ⟨1, zeroDigest⟩)
  restart := fun _ => .ok (some ⟨true, 0, zeroDigest⟩)
  startupErrors := [⟨quietTarget.deploymentId, zeroDigest, zeroDigest, 0, 2, 0, 0, 0, zeroDigest⟩]
  resourceAvailability := [⟨quietTarget.deploymentId, zeroDigest, zeroDigest, 3, 0, 0, zeroDigest⟩]
  entityStates := [⟨quietTarget.deploymentId, zeroDigest, zeroDigest, 4, 0, 0, 0, zeroDigest⟩]
  automationScripts := [⟨quietTarget.deploymentId, zeroDigest, zeroDigest, 5, 0, 0, 0, zeroDigest⟩]
  assertions := [⟨quietTarget.deploymentId, zeroDigest, zeroDigest, zeroDigest, 6, 0, 0, 0, 0, 0, 0,
    zeroDigest⟩]
  finalizations := []

theorem quiet_succeeds : ∃ row, row.outcome = .success ∧
    (finalizeDeploymentOnce zeroHashing quietPlan 7).eval quietDatabase = (.ok ⟨.success, false⟩,
      { quietDatabase with finalizations := [row] }) := by
  have before : ObservedUntil quietDatabase quietPlan.deploymentId 7 := by
    refine ⟨?_, ?_, ?_, ?_, ?_⟩ <;>
      exact fun row mem _ => List.mem_singleton.mp mem ▸ (by decide)
  have verdict : Verdict zeroHashing quietDatabase quietPlan .success :=
    ⟨⟨by decide +kernel, _, rfl, rfl⟩, _, _, ⟨_, ⟨_, ⟨_, ⟨⟨⟨rfl, by decide +kernel⟩, _, _, rfl,
      by decide +kernel⟩, rfl⟩, ⟨⟨rfl, by decide +kernel⟩, by decide +kernel⟩, rfl⟩,
      ⟨⟨rfl, by decide +kernel⟩, by decide +kernel⟩, rfl⟩,
      ⟨⟨rfl, by decide +kernel⟩, by decide +kernel⟩, rfl⟩,
      ⟨⟨rfl, by decide +kernel⟩, by decide +kernel⟩, rfl⟩
  obtain ⟨row, -, is, answered⟩ :=
    ((finalization_verdict (fun _ mem => absurd mem List.not_mem_nil) before).1 .success).mpr
      verdict
  exact ⟨row, is, answered⟩

end ObservationChain

end SyncApp
