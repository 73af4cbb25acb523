import SyncApp.Pipeline.Finalization
import SyncApp.Lib.Calendar
import SyncApp.Lib.JsonText
import Mathlib.Data.List.Dedup
import Mathlib.Data.List.Sort

/-!
# The chain of observations

Five records of a deployment follow one another: the startup errors, the availability of the changed
resources, their states, the automations and scripts among them, and the assertions about them. Each
names the record before it by its digest, and is loaded only while this is so. `finalizeDeploymentOnce`
decides the deployment on them.

`Pipeline.Finalization` decides on rows that are already proved. Here a row is what its table holds,
and the loaders prove it: a time is a count of microseconds, and what the two records below the
chain load as (`load_integration_observation`, `load_core_restart_attempt`) is part of the database.
-/

set_option autoImplicit false

namespace SyncApp

open Lib Raising

namespace ObservationChain

/-! ## Targets -/

/-- `_digest`, of values as JSON. -/
def recordDigest (hashing : Hashing) (values : List JsonText.Value) : Digest :=
  hashing.sha256 (Utf8.encode (JsonText.write true (.arr values)))

/-- `value.isoformat()`, in UTC. -/
def isoformat (t : Nat) : PyStr := (Calendar.render t).dropLast ++ text "+00:00"

def shaText : ObjectId → PyStr
  | .sha1 digest => text digest.hex
  | .sha256 digest => text digest.hex

def shaValue (digest : Digest) : JsonText.Value := .str (text digest.hex)

def isHex (c : Nat) : Bool := (48 ≤ c && c ≤ 57) || (97 ≤ c && c ≤ 102)

/-- `validate_deployment_id`: a UUID as Python writes it. -/
def isDeploymentId (value : PyStr) : Bool :=
  value.length = 36 && value.zipIdx.all fun (c, index) =>
    if index ∈ [8, 13, 18, 23] then c = 45 else isHex c

def isWordCharacter (c : Nat) : Bool :=
  (97 ≤ c && c ≤ 122) || (48 ≤ c && c ≤ 57) || c = 95

/-- `_ENTITY_ID`. -/
def isEntityId (value : PyStr) : Bool :=
  let domain := value.takeWhile isWordCharacter
  match value.dropWhile isWordCharacter with
  | [] => false
  | c :: name => domain ≠ [] && c = 46 && name ≠ [] && name.all isWordCharacter

/-- `_canonical_entities`: each once, in order. -/
def isCanonical (values : List PyStr) : Bool :=
  values.all isEntityId && values.dedup.insertionSort (· ≤ ·) = values

structure ResourceAvailabilityTarget where
  deploymentId : PyStr
  candidateSha : ObjectId
  entityIds : List PyStr
  targetSha256 : Digest
deriving DecidableEq

structure AutomationScriptTarget where
  resourceTarget : ResourceAvailabilityTarget
  entityIds : List PyStr
  targetSha256 : Digest
deriving DecidableEq

structure PostDeploymentAssertion where
  kind : PyStr
  entityId : PyStr
deriving DecidableEq

structure PostDeploymentAssertionPlan where
  schemaVersion : Int
  automationTarget : AutomationScriptTarget
  assertions : List PostDeploymentAssertion
  canonicalJson : PyStr
  assertionSetSha256 : Digest
deriving DecidableEq

def PostDeploymentAssertionPlan.target (plan : PostDeploymentAssertionPlan) :
    ResourceAvailabilityTarget := plan.automationTarget.resourceTarget

def PostDeploymentAssertionPlan.deploymentId (plan : PostDeploymentAssertionPlan) : PyStr :=
  plan.target.deploymentId

section

variable (hashing : Hashing)

/-- `ResourceAvailabilityTarget._validate`. -/
def ResourceAvailabilityTarget.valid (target : ResourceAvailabilityTarget) : Bool :=
  isDeploymentId target.deploymentId && isCanonical target.entityIds &&
    target.targetSha256 = recordDigest hashing [.str target.deploymentId,
      .str (shaText target.candidateSha), .arr (target.entityIds.map .str)]

def isAutomationOrScript (entity : PyStr) : Bool :=
  (text "automation.").isPrefixOf entity || (text "script.").isPrefixOf entity

/-- `AutomationScriptTarget._validate`. -/
def AutomationScriptTarget.valid (target : AutomationScriptTarget) : Bool :=
  target.resourceTarget.valid hashing &&
    target.entityIds = target.resourceTarget.entityIds.filter isAutomationOrScript &&
    target.targetSha256 = recordDigest hashing [shaValue target.resourceTarget.targetSha256,
      .arr (target.entityIds.map .str)]

def maxAssertions : Nat := 512

def maxAssertionSetBytes : Nat := 64 * 1024

def assertionOf (entity : PyStr) : PostDeploymentAssertion := ⟨text "entity_available", entity⟩

def assertionValue (assertion : PostDeploymentAssertion) : JsonText.Value :=
  .obj [(text "entity_id", .str assertion.entityId), (text "kind", .str assertion.kind)]

/-- `_canonical`. -/
def canonicalAssertions (assertions : List PostDeploymentAssertion) : PyStr :=
  JsonText.write true
    (.obj [(text "assertions", .arr (assertions.map assertionValue)), (text "version", .int 1)])

/-- `PostDeploymentAssertionPlan._validate`. -/
def PostDeploymentAssertionPlan.valid (plan : PostDeploymentAssertionPlan) : Bool :=
  let expected := plan.target.entityIds.map assertionOf
  let canonical := canonicalAssertions expected
  plan.automationTarget.valid hashing && plan.schemaVersion = 1 && plan.assertions = expected &&
    expected.length ≤ maxAssertions && canonical.length ≤ maxAssertionSetBytes &&
    plan.canonicalJson = canonical &&
    plan.assertionSetSha256 = hashing.sha256 (Utf8.encode canonical)

end

/-! ## Records -/

structure StartupErrorObservation where
  deploymentId : PyStr
  integrationObservationSha256 : Digest
  restartAttemptSha256 : Digest
  intervalStartedAt : Nat
  observedAt : Nat
  inspectedCount : Int
  warningCount : Int
  significantErrorCount : Int
  recordSha256 : Digest
deriving DecidableEq

structure ResourceAvailabilityObservation where
  deploymentId : PyStr
  startupErrorSha256 : Digest
  targetSha256 : Digest
  observedAt : Nat
  expectedCount : Int
  availableCount : Int
  recordSha256 : Digest
deriving DecidableEq

structure EntityStateObservation where
  deploymentId : PyStr
  resourceAvailabilitySha256 : Digest
  targetSha256 : Digest
  observedAt : Nat
  expectedCount : Int
  validCount : Int
  invalidCount : Int
  recordSha256 : Digest
deriving DecidableEq

structure AutomationScriptObservation where
  deploymentId : PyStr
  entityStateObservationSha256 : Digest
  targetSha256 : Digest
  observedAt : Nat
  expectedCount : Int
  loadedCount : Int
  failedCount : Int
  recordSha256 : Digest
deriving DecidableEq

structure PostDeploymentAssertionObservation where
  deploymentId : PyStr
  automationScriptObservationSha256 : Digest
  targetSha256 : Digest
  assertionSetSha256 : Digest
  observedAt : Nat
  declaredCount : Int
  derivedCount : Int
  evaluatedCount : Int
  passedCount : Int
  failedCount : Int
  skippedCount : Int
  recordSha256 : Digest
deriving DecidableEq

/-- `deployment_finalization`; the outcome and the failure stage are one. -/
structure DeploymentFinalization where
  deploymentId : PyStr
  candidateSha : ObjectId
  backupSlug : PyStr
  preparedDeploymentSha256 : Digest
  targetSha256 : Digest
  terminalEvidenceSha256 : Digest
  chainSha256 : Digest
  outcome : DeploymentOutcome
  completedPredicateCount : Nat
  failedPredicateCount : Nat
  finalizedAt : Nat
  recordSha256 : Digest
deriving DecidableEq

def isSlugStart (c : Nat) : Bool :=
  (65 ≤ c && c ≤ 90) || (97 ≤ c && c ≤ 122) || (48 ≤ c && c ≤ 57)

/-- `_SLUG`. -/
def isSlug : PyStr → Bool
  | [] => false
  | c :: rest => isSlugStart c && rest.length ≤ 127 &&
    rest.all fun c => isSlugStart c || c = 95 || c = 45

/-- What the chain needs of a prepared deployment. -/
structure PreparedEvidence where
  candidateSha : ObjectId
  backupSlug : PyStr
  slug : isSlug backupSlug = true
  recordSha256 : Digest
deriving DecidableEq

structure IntegrationObservation where
  observedAt : Nat
  recordSha256 : Digest
deriving DecidableEq

structure CoreRestartAttempt where
  acknowledged : Bool
  updatedAt : Nat
  recordSha256 : Digest
deriving DecidableEq

/-- The tables; reading a prepared deployment may raise `StateError`. -/
structure Database where
  prepared : PyStr → Except Unit (Option PreparedEvidence)
  integration : PyStr → Except Failure (Option IntegrationObservation)
  restart : PyStr → Except Failure (Option CoreRestartAttempt)
  startupErrors : List StartupErrorObservation
  resourceAvailability : List ResourceAvailabilityObservation
  entityStates : List EntityStateObservation
  automationScripts : List AutomationScriptObservation
  assertions : List PostDeploymentAssertionObservation
  finalizations : List DeploymentFinalization

/-! ## Rows that are records

`from_database_row`: the counts are those of an observation, and the digest is of the values. -/

section

variable (hashing : Hashing)

def StartupErrorObservation.valid (row : StartupErrorObservation) : Bool :=
  row.intervalStartedAt ≤ row.observedAt && 0 ≤ row.inspectedCount && 0 ≤ row.warningCount &&
    0 ≤ row.significantErrorCount &&
    row.warningCount + row.significantErrorCount ≤ row.inspectedCount &&
    row.recordSha256 = recordDigest hashing [.str row.deploymentId,
      shaValue row.integrationObservationSha256, shaValue row.restartAttemptSha256,
      .str (isoformat row.intervalStartedAt), .str (isoformat row.observedAt),
      .int row.inspectedCount, .int row.warningCount, .int row.significantErrorCount]

def ResourceAvailabilityObservation.valid (row : ResourceAvailabilityObservation) : Bool :=
  0 ≤ row.availableCount && row.availableCount ≤ row.expectedCount &&
    row.recordSha256 = recordDigest hashing [.str row.deploymentId,
      shaValue row.startupErrorSha256, shaValue row.targetSha256,
      .str (isoformat row.observedAt), .int row.expectedCount, .int row.availableCount]

def EntityStateObservation.valid (row : EntityStateObservation) : Bool :=
  row.deploymentId ≠ [] && 0 ≤ row.expectedCount && 0 ≤ row.validCount && 0 ≤ row.invalidCount &&
    row.validCount + row.invalidCount = row.expectedCount &&
    row.recordSha256 = recordDigest hashing [.str row.deploymentId,
      shaValue row.resourceAvailabilitySha256, shaValue row.targetSha256,
      .str (isoformat row.observedAt), .int row.expectedCount, .int row.validCount,
      .int row.invalidCount]

def AutomationScriptObservation.valid (row : AutomationScriptObservation) : Bool :=
  0 ≤ row.expectedCount && 0 ≤ row.loadedCount && 0 ≤ row.failedCount &&
    row.loadedCount + row.failedCount = row.expectedCount &&
    row.recordSha256 = recordDigest hashing [.str row.deploymentId,
      shaValue row.entityStateObservationSha256, shaValue row.targetSha256,
      .str (isoformat row.observedAt), .int row.expectedCount, .int row.loadedCount,
      .int row.failedCount]

def PostDeploymentAssertionObservation.valid (row : PostDeploymentAssertionObservation) : Bool :=
  row.declaredCount = 0 && 0 ≤ row.derivedCount && 0 ≤ row.evaluatedCount &&
    0 ≤ row.passedCount && 0 ≤ row.failedCount && 0 ≤ row.skippedCount &&
    row.derivedCount ≤ maxAssertions && row.evaluatedCount = row.passedCount + row.failedCount &&
    row.evaluatedCount + row.skippedCount = row.declaredCount + row.derivedCount &&
    row.recordSha256 = recordDigest hashing [.str row.deploymentId,
      shaValue row.automationScriptObservationSha256, shaValue row.targetSha256,
      shaValue row.assertionSetSha256, .str (isoformat row.observedAt), .int row.declaredCount,
      .int row.derivedCount, .int row.evaluatedCount, .int row.passedCount, .int row.failedCount,
      .int row.skippedCount]

def stageName : ObservationStage → String
  | .startupErrors => "startup_errors"
  | .resourceAvailability => "resource_availability"
  | .entityStates => "entity_states"
  | .automationScriptLoad => "automation_script_load"
  | .postDeploymentAssertions => "post_deployment_assertions"

/-- How many observations there are up to the stage. -/
def stageCount : ObservationStage → Nat
  | .startupErrors => 1
  | .resourceAvailability => 2
  | .entityStates => 3
  | .automationScriptLoad => 4
  | .postDeploymentAssertions => 5

def outcomeText : DeploymentOutcome → PyStr
  | .success => text "success"
  | .failure _ => text "failure"

def failureStageText : DeploymentOutcome → PyStr
  | .success => text "none"
  | .failure stage => text (stageName stage)

def expectedCount : DeploymentOutcome → Nat
  | .success => 5
  | .failure stage => stageCount stage

def failedCount : DeploymentOutcome → Nat
  | .success => 0
  | .failure _ => 1

def finalizationDigest (row : DeploymentFinalization) : Digest :=
  recordDigest hashing [.str row.deploymentId, .str (shaText row.candidateSha),
    .str row.backupSlug, shaValue row.preparedDeploymentSha256, shaValue row.targetSha256,
    shaValue row.terminalEvidenceSha256, shaValue row.chainSha256, .str (outcomeText row.outcome),
    .str (failureStageText row.outcome), .int row.completedPredicateCount,
    .int row.failedPredicateCount, .str (isoformat row.finalizedAt)]

def DeploymentFinalization.valid (row : DeploymentFinalization) : Bool :=
  isDeploymentId row.deploymentId && isSlug row.backupSlug &&
    row.completedPredicateCount = expectedCount row.outcome &&
    row.failedPredicateCount = failedCount row.outcome &&
    row.recordSha256 = finalizationDigest hashing row

end

/-! ## Loading -/

/-- The row of a deployment, where it has one and this is a record. -/
def selectRecord {R : Type} (rows : List R) (deploymentId : R → PyStr) (valid : R → Bool)
    (invalid : Failure) (id : PyStr) : Except Failure (Option R) :=
  match rows.filter (deploymentId · = id) with
  | [] => .ok none
  | [row] => if valid row then .ok (some row) else .error invalid
  | _ => .error invalid

/-- The record of a deployment, which must follow what is given. -/
def selectFollowing {R : Type} (rows : List R) (deploymentId : R → PyStr) (valid : R → Bool)
    (invalid : Failure) (id : PyStr) (follows : R → Bool) : Except Failure (Option R) := do
  match ← selectRecord rows deploymentId valid invalid id with
  | none => return none
  | some row => if follows row then return some row else .error invalid

/-- The same, where what it must follow is loaded only once there is a row. -/
def selectThenFollowing {R P : Type} (rows : List R) (deploymentId : R → PyStr) (valid : R → Bool)
    (invalid : Failure) (id : PyStr) (needs : Except Failure P) (follows : R → P → Bool) :
    Except Failure (Option R) := do
  match ← selectRecord rows deploymentId valid invalid id with
  | none => return none
  | some row =>
    let needed ← needs
    if follows row needed then return some row else .error invalid

/-- A `_prerequisite`: the observation before is loaded, and did not fail. -/
def requirePassed {R : Type} (loaded : Except Failure (Option R)) (failed : R → Bool)
    (invalid : Failure) (required : String) : Except Failure R :=
  match loaded with
  | .error _ => .error invalid
  | .ok none => .error ⟨required, false⟩
  | .ok (some row) => if failed row then .error ⟨required, false⟩ else .ok row

def startupInvalid : Failure := ⟨"Startup error observation state is invalid", false⟩

def availabilityInvalid : Failure := ⟨"resource availability state is invalid", false⟩

def entityInvalid : Failure := ⟨"entity state observation state is invalid", false⟩

def automationInvalid : Failure := ⟨"automation/script observation state is invalid", false⟩

def assertionInvalid : Failure :=
  ⟨"post-deployment assertion observation state is invalid", false⟩

section

variable (hashing : Hashing) (db : Database)

/-- `_prerequisites` of the startup errors. -/
def startupPrerequisites (deploymentId : PyStr) :
    Except Failure (IntegrationObservation × CoreRestartAttempt) :=
  match db.integration deploymentId, db.restart deploymentId with
  | .ok integration, .ok restart =>
    match integration with
    | none => .error ⟨"Integration initialization proof is required", false⟩
    | some integration =>
      match restart with
      | none => .error startupInvalid
      | some restart =>
        if restart.acknowledged then .ok (integration, restart) else .error startupInvalid
  | _, _ => .error startupInvalid

/-- The startup errors are of the interval since the restart, and after the integrations. -/
def StartupErrorObservation.follows (row : StartupErrorObservation)
    (integration : IntegrationObservation) (restart : CoreRestartAttempt) : Bool :=
  row.integrationObservationSha256 = integration.recordSha256 &&
    row.restartAttemptSha256 = restart.recordSha256 &&
    row.intervalStartedAt = restart.updatedAt && integration.observedAt ≤ row.observedAt

/-- `load_startup_error_observation`. -/
def loadStartupErrorObservation (deploymentId : PyStr) :
    Except Failure (Option StartupErrorObservation) :=
  if !isDeploymentId deploymentId then .error startupInvalid
  else selectThenFollowing db.startupErrors (·.deploymentId) (·.valid hashing) startupInvalid
    deploymentId (startupPrerequisites db deploymentId) fun row (integration, restart) =>
      row.follows integration restart

/-- `_prerequisite` of the availability. -/
def availabilityPrerequisite (target : ResourceAvailabilityTarget) :
    Except Failure StartupErrorObservation :=
  match db.prepared target.deploymentId with
  | .ok (some prepared) =>
    if prepared.candidateSha ≠ target.candidateSha then .error availabilityInvalid
    else requirePassed (loadStartupErrorObservation hashing db target.deploymentId)
      (·.significantErrorCount ≠ 0) availabilityInvalid
      "A clear startup-error observation is required"
  | _ => .error availabilityInvalid

def ResourceAvailabilityObservation.follows (row : ResourceAvailabilityObservation)
    (target : ResourceAvailabilityTarget) (startup : StartupErrorObservation) : Bool :=
  row.startupErrorSha256 = startup.recordSha256 && row.targetSha256 = target.targetSha256 &&
    row.expectedCount = target.entityIds.length && startup.observedAt ≤ row.observedAt

/-- `load_resource_availability_observation`: here the row comes before what it needs. -/
def loadResourceAvailabilityObservation (target : ResourceAvailabilityTarget) :
    Except Failure (Option ResourceAvailabilityObservation) :=
  if !target.valid hashing then .error availabilityInvalid
  else selectThenFollowing db.resourceAvailability (·.deploymentId) (·.valid hashing)
    availabilityInvalid target.deploymentId (availabilityPrerequisite hashing db target)
    fun row startup => row.follows target startup

/-- `_prerequisite` of the states. -/
def entityPrerequisite (target : ResourceAvailabilityTarget) :
    Except Failure ResourceAvailabilityObservation :=
  requirePassed (loadResourceAvailabilityObservation hashing db target)
    (fun availability => availability.expectedCount ≠ target.entityIds.length ∨
      availability.availableCount ≠ availability.expectedCount)
    entityInvalid "Exact resource availability proof is required"

def EntityStateObservation.follows (row : EntityStateObservation)
    (target : ResourceAvailabilityTarget) (availability : ResourceAvailabilityObservation) : Bool :=
  row.resourceAvailabilitySha256 = availability.recordSha256 &&
    row.targetSha256 = target.targetSha256 && row.expectedCount = target.entityIds.length &&
    availability.observedAt ≤ row.observedAt

/-- `load_entity_state_observation`. -/
def loadEntityStateObservation (target : ResourceAvailabilityTarget) :
    Except Failure (Option EntityStateObservation) := do
  let availability ← entityPrerequisite hashing db target
  selectFollowing db.entityStates (·.deploymentId) (·.valid hashing) entityInvalid
    target.deploymentId (·.follows target availability)

/-- `_prerequisite` of the automations and scripts. -/
def automationPrerequisite (target : AutomationScriptTarget) :
    Except Failure EntityStateObservation :=
  requirePassed (loadEntityStateObservation hashing db target.resourceTarget) (·.invalidCount ≠ 0)
    automationInvalid "Successful affected-entity state proof is required"

def AutomationScriptObservation.follows (row : AutomationScriptObservation)
    (target : AutomationScriptTarget) (entity : EntityStateObservation) : Bool :=
  row.entityStateObservationSha256 = entity.recordSha256 &&
    row.targetSha256 = target.targetSha256 && row.expectedCount = target.entityIds.length &&
    entity.observedAt ≤ row.observedAt

/-- `load_automation_script_observation`. -/
def loadAutomationScriptObservation (target : AutomationScriptTarget) :
    Except Failure (Option AutomationScriptObservation) :=
  if !target.valid hashing then .error automationInvalid
  else do
    let entity ← automationPrerequisite hashing db target
    selectFollowing db.automationScripts (·.deploymentId) (·.valid hashing) automationInvalid
      target.resourceTarget.deploymentId (·.follows target entity)

/-- `_prerequisite` of the assertions. -/
def assertionPrerequisite (plan : PostDeploymentAssertionPlan) :
    Except Failure AutomationScriptObservation :=
  requirePassed (loadAutomationScriptObservation hashing db plan.automationTarget)
    (·.failedCount ≠ 0) assertionInvalid "Successful automation/script load proof is required"

/-- The only observation that is bound to the assertions too. -/
def PostDeploymentAssertionObservation.follows (row : PostDeploymentAssertionObservation)
    (plan : PostDeploymentAssertionPlan) (automation : AutomationScriptObservation) : Bool :=
  row.automationScriptObservationSha256 = automation.recordSha256 &&
    row.targetSha256 = plan.target.targetSha256 &&
    row.assertionSetSha256 = plan.assertionSetSha256 &&
    row.derivedCount = plan.assertions.length && automation.observedAt ≤ row.observedAt

/-- `load_post_deployment_assertion_observation`. -/
def loadPostDeploymentAssertionObservation (plan : PostDeploymentAssertionPlan) :
    Except Failure (Option PostDeploymentAssertionObservation) :=
  if !plan.valid hashing then .error assertionInvalid
  else do
    let automation ← assertionPrerequisite hashing db plan
    selectFollowing db.assertions (·.deploymentId) (·.valid hashing) assertionInvalid
      plan.deploymentId (·.follows plan automation)

/-! ## Deciding -/

structure Decision where
  deploymentId : PyStr
  candidateSha : ObjectId
  backupSlug : PyStr
  preparedDeploymentSha256 : Digest
  targetSha256 : Digest
  terminalEvidenceSha256 : Digest
  chainSha256 : Digest
  outcome : DeploymentOutcome
  completedPredicateCount : Nat
  failedPredicateCount : Nat
  terminalAt : Nat
deriving DecidableEq

/-- What deciding raises: its own exception, or `StateError`. -/
inductive DecisionError where
  | finalization (failure : Failure)
  | state
deriving DecidableEq

/-- `_require_absent` looks for a row of the deployment in these tables. -/
def hasRow (deploymentId : PyStr) : ObservationStage → Bool
  | .startupErrors => db.startupErrors.any (·.deploymentId = deploymentId)
  | .resourceAvailability => db.resourceAvailability.any (·.deploymentId = deploymentId)
  | .entityStates => db.entityStates.any (·.deploymentId = deploymentId)
  | .automationScriptLoad => db.automationScripts.any (·.deploymentId = deploymentId)
  | .postDeploymentAssertions => db.assertions.any (·.deploymentId = deploymentId)

/-- `_make_decision`; the last of the digests is that of the terminal evidence. -/
def makeDecision (plan : PostDeploymentAssertionPlan) (prepared : PreparedEvidence)
    (digests : List Digest) (terminal : Digest) (terminalAt : Nat) (outcome : DeploymentOutcome) :
    Decision :=
  ⟨plan.deploymentId, prepared.candidateSha, prepared.backupSlug, prepared.recordSha256,
    plan.target.targetSha256, terminal,
    recordDigest hashing ((digests ++ [terminal]).map shaValue), outcome, expectedCount outcome,
    failedCount outcome, terminalAt⟩

/-- One observation of `_decision`: it must be there; where it failed nothing may follow it. -/
def decideStage {R : Type} (plan : PostDeploymentAssertionPlan) (prepared : PreparedEvidence)
    (digests : List Digest) (loaded : Except Failure (Option R)) (failed : R → Bool)
    (record : R → Digest × Nat) (stage : ObservationStage) (later : List ObservationStage)
    (next : List Digest → R → Except DecisionError Decision) : Except DecisionError Decision :=
  match loaded with
  | .error _ => .error (.finalization finalizationInvalid)
  | .ok none => .error (.finalization finalizationIncomplete)
  | .ok (some row) =>
    if failed row then
      if later.any (hasRow db plan.deploymentId) then .error (.finalization finalizationInvalid)
      else .ok (makeDecision hashing plan prepared digests (record row).1 (record row).2
        (.failure stage))
    else next (digests ++ [(record row).1]) row

def decideAssertions (plan : PostDeploymentAssertionPlan) (prepared : PreparedEvidence)
    (digests : List Digest) : Except DecisionError Decision :=
  decideStage hashing db plan prepared digests (loadPostDeploymentAssertionObservation hashing db plan)
    (·.failedCount ≠ 0) (fun row => (row.recordSha256, row.observedAt)) .postDeploymentAssertions []
    fun _ row => .ok (makeDecision hashing plan prepared digests row.recordSha256 row.observedAt
      .success)

def decideAutomations (plan : PostDeploymentAssertionPlan) (prepared : PreparedEvidence)
    (digests : List Digest) : Except DecisionError Decision :=
  decideStage hashing db plan prepared digests
    (loadAutomationScriptObservation hashing db plan.automationTarget) (·.failedCount ≠ 0)
    (fun row => (row.recordSha256, row.observedAt)) .automationScriptLoad
    [.postDeploymentAssertions] fun digests _ => decideAssertions hashing db plan prepared digests

def decideEntities (plan : PostDeploymentAssertionPlan) (prepared : PreparedEvidence)
    (digests : List Digest) : Except DecisionError Decision :=
  decideStage hashing db plan prepared digests (loadEntityStateObservation hashing db plan.target)
    (·.invalidCount ≠ 0) (fun row => (row.recordSha256, row.observedAt)) .entityStates
    [.automationScriptLoad, .postDeploymentAssertions]
    fun digests _ => decideAutomations hashing db plan prepared digests

def decideAvailability (plan : PostDeploymentAssertionPlan) (prepared : PreparedEvidence)
    (digests : List Digest) : Except DecisionError Decision :=
  decideStage hashing db plan prepared digests
    (loadResourceAvailabilityObservation hashing db plan.target)
    (fun row => row.availableCount ≠ row.expectedCount)
    (fun row => (row.recordSha256, row.observedAt)) .resourceAvailability
    [.entityStates, .automationScriptLoad, .postDeploymentAssertions]
    fun digests _ => decideEntities hashing db plan prepared digests

/-- `_decision`. -/
def decision (plan : PostDeploymentAssertionPlan) : Except DecisionError Decision :=
  if !plan.valid hashing then .error (.finalization finalizationInvalid)
  else match db.prepared plan.deploymentId with
    | .error _ => .error .state
    | .ok none => .error (.finalization finalizationInvalid)
    | .ok (some prepared) =>
      if prepared.candidateSha ≠ plan.target.candidateSha then
        .error (.finalization finalizationInvalid)
      else decideStage hashing db plan prepared [prepared.recordSha256]
        (loadStartupErrorObservation hashing db plan.deploymentId)
        (·.significantErrorCount ≠ 0) (fun row => (row.recordSha256, row.observedAt))
        .startupErrors
        [.resourceAvailability, .entityStates, .automationScriptLoad, .postDeploymentAssertions]
        fun digests _ => decideAvailability hashing db plan prepared digests

/-! ## Finalizing -/

/-- `DeploymentFinalization.create`. -/
def createFinalization (decided : Decision) (finalizedAt : Nat) : DeploymentFinalization :=
  let row : DeploymentFinalization :=
    { deploymentId := decided.deploymentId
      candidateSha := decided.candidateSha
      backupSlug := decided.backupSlug
      preparedDeploymentSha256 := decided.preparedDeploymentSha256
      targetSha256 := decided.targetSha256
      terminalEvidenceSha256 := decided.terminalEvidenceSha256
      chainSha256 := decided.chainSha256
      outcome := decided.outcome
      completedPredicateCount := decided.completedPredicateCount
      failedPredicateCount := decided.failedPredicateCount
      finalizedAt := finalizedAt
      recordSha256 := decided.chainSha256 }
  { row with recordSha256 := finalizationDigest hashing row }

/-- `load_deployment_finalization`. -/
def loadDeploymentFinalization (plan : PostDeploymentAssertionPlan) :
    Except Failure (Option DeploymentFinalization) :=
  if !plan.valid hashing then .error finalizationInvalid
  else do
    match ← selectRecord db.finalizations (·.deploymentId) (·.valid hashing) finalizationInvalid
        plan.deploymentId with
    | none => return none
    | some row =>
      match decision hashing db plan with
      | .error (.finalization failure) => .error failure
      | .error .state => .error finalizationInvalid
      | .ok decided =>
        if row ≠ createFinalization hashing decided row.finalizedAt ∨
            row.finalizedAt < decided.terminalAt then
          .error finalizationInvalid
        else return some row

def finalizationUnavailable : Failure :=
  ⟨"deployment finalization persistence is unavailable", true⟩

/-- How finalizing raises what deciding raised. -/
def raisedOf : DecisionError → Failure
  | .finalization failure => failure
  | .state => finalizationUnavailable

/-- `DeploymentFinalizationResult`. -/
structure Finalized where
  outcome : DeploymentOutcome
  replayed : Bool
deriving DecidableEq

/-- What is requested, before the transaction. -/
def requestFinalization (plan : PostDeploymentAssertionPlan) (finalizedAt : Nat) :
    Except Failure DeploymentFinalization := do
  let decided ← (decision hashing db plan).mapError raisedOf
  if finalizedAt < decided.terminalAt then .error finalizationInvalid
  else return createFinalization hashing decided finalizedAt

/-- The transaction of `finalize_deployment_once`. -/
def insertFinalization (plan : PostDeploymentAssertionPlan) (requested : DeploymentFinalization) :
    Except Failure (Option DeploymentFinalization × Database) := do
  let decided ← (decision hashing db plan).mapError raisedOf
  if requested ≠ createFinalization hashing decided requested.finalizedAt then
    .error finalizationInvalid
  else
    match ← loadDeploymentFinalization hashing db plan with
    | some existing => return (some existing, db)
    | none => return (none, { db with finalizations := db.finalizations ++ [requested] })

end

def query {α : Type} (read : Database → Except Failure α) : Raising Failure Database α :=
  action fun db => (read db, db)

def transaction {α : Type} (change : Database → Except Failure (α × Database)) :
    Raising Failure Database α :=
  action fun db =>
    match change db with
    | .ok (result, db) => (.ok result, db)
    | .error failure => (.error failure, db)

/-- `finalize_deployment_once`. -/
def finalizeDeploymentOnce (hashing : Hashing) (plan : PostDeploymentAssertionPlan)
    (finalizedAt : Nat) : Raising Failure Database Finalized := do
  match ← query (loadDeploymentFinalization hashing · plan) with
  | some existing => return ⟨existing.outcome, true⟩
  | none =>
    let requested ← query (requestFinalization hashing · plan finalizedAt)
    match ← transaction (insertFinalization hashing · plan requested) with
    | some existing => return ⟨existing.outcome, true⟩
    | none =>
      let loaded ← query (loadDeploymentFinalization hashing · plan)
      if loaded ≠ some requested then throw finalizationInvalid
      else return ⟨requested.outcome, false⟩

end ObservationChain

end SyncApp
