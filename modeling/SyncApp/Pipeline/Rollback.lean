import SyncApp.Pipeline.Finalization

/-!
# Rollback

A deployment that was finalized as a failure is rolled back by one full restore of its backup. The
row goes through its phases by compare and swap, and the restore is asked for only after the row says
so: what becomes of the request is read back from the Supervisor's jobs, never asked for again.

`authorize` plans the row on proofs of Repo B and of the backup, `request` asks for the restore,
`reconcile` reads its job, and `complete` ends the row on a proof of Repo B and of health. A record
of another module that is invalid or missing makes each of them fail closed.
-/

set_option autoImplicit false

namespace SyncApp

open Lib Raising Lane

/-! ## Errors -/

/-- The messages a later pass takes for transient. -/
def rollbackTransientMessages : List String :=
  ["rollback reconciliation is temporarily unavailable",
    "rollback post-restore health is unavailable", "rollback restore outcome is uncertain",
    "repository proof is unavailable", "backup proof is unavailable"]

/-- A `DeploymentRollbackError` whose message says whether it is transient. -/
def rollbackError (message : String) : Failure := ⟨message, message ∈ rollbackTransientMessages⟩

def rollbackInvalid : Failure := rollbackError "deployment rollback state is invalid"

/-- `_invalid_proof`. -/
def invalidProof (kind : String) : Failure := rollbackError (kind ++ " proof is invalid")

/-- What is not a rollback error of its own is an invalid state. -/
def orRollbackInvalid {α : Type} (result : Except Failure α) : Except Failure α :=
  result.mapError fun _ => rollbackInvalid

/-! ## Access -/

/-- What a caller hands in to reach Repo B and the Supervisor, and the environment a missing token is
looked up in. -/
structure RollbackAccess where
  githubToken : Option String
  supervisorToken : Option String
  hasReader : Bool
  hasAuthority : Bool
  environ : String → Option String
  timeoutSeconds : Rat
  maxResponseBytes : Nat

/-- `^[!-~]{1,512}$`. -/
def isRollbackToken (value : String) : Bool :=
  let characters := value.toList
  0 < characters.length && characters.length ≤ 512 &&
    characters.all fun c => 33 ≤ c.toNat && c.toNat ≤ 126

/-- `_validate_token`. -/
def validateRollbackToken (access : RollbackAccess) (token : Option String) (name : String) :
    Except Failure Unit :=
  match token.or (access.environ name) with
  | some value =>
    if isRollbackToken value then .ok ()
    else .error (rollbackError "rollback proof credential is unavailable")
  | none => .error (rollbackError "rollback proof credential is unavailable")

def RollbackAccess.validateSupervisorToken (access : RollbackAccess) : Except Failure Unit :=
  validateRollbackToken access access.supervisorToken "SUPERVISOR_TOKEN"

/-- `_validate_limits`. -/
def RollbackAccess.validateLimits (access : RollbackAccess) : Except Failure Unit :=
  if access.timeoutSeconds ≤ 0 ∨ 60 < access.timeoutSeconds ∨ access.maxResponseBytes = 0 ∨
      1024 * 1024 < access.maxResponseBytes then
    .error (rollbackError "rollback restore transport limits are invalid")
  else .ok ()

/-- Exactly one of a reader with its token and an authority. -/
def RollbackAccess.validateRepository (access : RollbackAccess) : Except Failure Unit :=
  let exactlyOne := rollbackError "rollback repository requires exactly one transport authority"
  if access.hasAuthority then
    if access.githubToken ≠ none ∨ access.hasReader then .error exactlyOne else .ok ()
  else if access.hasReader then
    validateRollbackToken access access.githubToken "SYNCAPP_GITHUB_TOKEN"
  else .error exactlyOne

/-! ## Proofs -/

def RollbackRepositoryProof.valid (proof : RollbackRepositoryProof) : Bool :=
  0 < proof.repositoryId

def RollbackBackupProof.valid (proof : RollbackBackupProof) : Bool :=
  isSlug proof.slug && (proof.backupType == "full" || proof.backupType == "partial") &&
    isCoreVersion proof.homeassistantVersion

/-- What a reader's answer comes to. -/
def ProofAnswer.read {α : Type} (kind : String) (valid : α → Bool) (authority : Bool → Failure) :
    ProofAnswer α → Except Failure α
  | .proof value => if valid value then .ok value else .error (invalidProof kind)
  | .raised failure => .error failure
  | .authorityError transient => .error (authority transient)
  | .exception => .error (rollbackError (kind ++ " proof is unavailable"))

namespace Lane

/-- A question to what is outside. -/
def ask {α : Type} (read : RollbackAnswers → Except Failure α) : Lane α :=
  action fun system => (read system.answers, system)

/-- The moment a caller names, or now. -/
def moment : Option Int → Lane Int
  | some time => pure time
  | none => clock

end Lane

/-- `_read_repository`. -/
def readRepository (access : RollbackAccess) : Lane RollbackRepositoryProof := do
  ofResult access.validateRepository
  ask fun answers => answers.repository.read "repository" RollbackRepositoryProof.valid
    fun transient => ⟨if transient then "repository proof is unavailable"
      else "rollback repository authority is invalid", transient⟩

/-- `_read_backup`. -/
def readBackup : Lane RollbackBackupProof :=
  ask fun answers => answers.backup.read "backup" RollbackBackupProof.valid
    fun _ => rollbackError "backup proof is unavailable"

/-! ## The record -/

/-- `DeploymentRollback.validate` of a record about to be written. -/
def DeploymentRollback.valid (rollback : DeploymentRollback) : Bool :=
  rollback.baselineSha ≠ rollback.candidateSha ∧ rollback.attemptCount ≤ 8 ∧
    (rollback.restoreJobId.all isSlug = true) ∧
    (rollback.phase = .restoreAcknowledged → rollback.restoreJobId ≠ none) ∧
    (rollback.phase ∈ [RollbackPhase.planned, .restoreStarted, .uncertain, .blocked] →
      rollback.restoreJobId = none) ∧
    rollback.authorizedAt ≤ rollback.updatedAt

/-- `is_candidate_blocked_by_finalization`. -/
def isCandidateBlockedByFinalization (store : Store) (plan : PostDeploymentAssertionPlan)
    (candidateSha : ObjectId) : Except Failure Bool := do
  match ← loadDeploymentFinalization store plan with
  | some record => return record.outcome ≠ .success && record.candidateSha = candidateSha
  | none => return false

/-- `_failure_authority`. -/
def failureAuthority (store : Store) (plan : PostDeploymentAssertionPlan) :
    Except Failure (PreparedEvidence × DeploymentFinalization) := do
  match ← orRollbackInvalid (loadDeploymentFinalization store plan) with
  | none => .error (rollbackError "failure finalization is required")
  | some finalization =>
    if finalization.outcome = .success then
      .error (rollbackError "failure finalization is required")
    else
      match store.preparedDeployment finalization.deploymentId with
      | none => .error rollbackInvalid
      | some prepared =>
        let blocked ← orRollbackInvalid
          (isCandidateBlockedByFinalization store plan prepared.candidateSha)
        if finalization.candidateSha ≠ prepared.candidateSha ∨
            finalization.backupSlug ≠ prepared.backupSlug ∨
            store.repositoryId prepared.target ≠ some prepared.repositoryId ∨
            blocked = false then .error rollbackInvalid
        else return (prepared, finalization)

/-- `load_deployment_rollback`. -/
def loadDeploymentRollback (store : Store) (plan : PostDeploymentAssertionPlan) :
    Except Failure (Option DeploymentRollback) := do
  match store.rollbacks.find? (·.deploymentId = plan.deploymentId) with
  | none => return none
  | some row =>
    let (prepared, finalization) ← failureAuthority store plan
    if row.target ≠ prepared.target ∨ row.repositoryId ≠ prepared.repositoryId ∨
        row.baselineSha ≠ prepared.baselineSha ∨ row.candidateSha ≠ prepared.candidateSha ∨
        row.backupSlug ≠ prepared.backupSlug ∨ row.finalization ≠ finalization then
      .error rollbackInvalid
    else return some row

/-- `_require_recovery_authority`. -/
def requireRecoveryAuthority (store : Store) (plan : PostDeploymentAssertionPlan) :
    Except Failure Unit :=
  if store.recoveryAuthorities.find? (·.deploymentId = plan.deploymentId) = some plan then .ok ()
  else .error rollbackInvalid

/-- `DeploymentRollback.create`. -/
def plannedRollback (deploymentId : PyStr) (prepared : PreparedEvidence)
    (finalization : DeploymentFinalization) (repositoryProof : RollbackRepositoryProof)
    (backupProof : RollbackBackupProof) (authorizedAt : Int) : DeploymentRollback where
  deploymentId := deploymentId
  target := prepared.target
  repositoryId := prepared.repositoryId
  baselineSha := prepared.baselineSha
  candidateSha := prepared.candidateSha
  backupSlug := prepared.backupSlug
  finalization := finalization
  repositoryProof := repositoryProof
  backupProof := backupProof
  phase := .planned
  reconciliationState := .none
  blockReason := .none
  attemptCount := 0
  restoreJobId := none
  authorizedAt := authorizedAt
  updatedAt := authorizedAt

/-- The transaction of `_insert_intent`; the flag says that the row was there. -/
def insertRollback (plan : PostDeploymentAssertionPlan) (requested : DeploymentRollback)
    (store : Store) : Except Failure ((DeploymentRollback × Bool) × Store) := do
  let _ ← failureAuthority store plan
  match ← loadDeploymentRollback store plan with
  | some existing => do
    requireRecoveryAuthority store plan
    return ((existing, true), store)
  | none =>
    if store.recoveryAuthorities.any (·.deploymentId = plan.deploymentId) then
      .error rollbackInvalid
    else return ((requested, false), { store with
      rollbacks := store.rollbacks ++ [requested]
      recoveryAuthorities := store.recoveryAuthorities ++ [plan] })

/-- What a transition changes. -/
structure RollbackChange where
  phase : RollbackPhase
  reconciliationState : ReconciliationState
  blockReason : RollbackBlockReason
  attemptCount : Nat
  restoreJobId : Option String

def DeploymentRollback.change (current : DeploymentRollback) (change : RollbackChange)
    (updatedAt : Int) : DeploymentRollback :=
  { current with
    phase := change.phase
    reconciliationState := change.reconciliationState
    blockReason := change.blockReason
    attemptCount := change.attemptCount
    restoreJobId := change.restoreJobId
    updatedAt := updatedAt }

/-- The transaction of `_transition`: the digest in its condition is that of the row that was
loaded. -/
def replaceRollback (plan : PostDeploymentAssertionPlan) (current replacement : DeploymentRollback)
    (store : Store) : Except Failure (Unit × Store) := do
  let loaded ← loadDeploymentRollback store plan
  if loaded ≠ some current then .error rollbackInvalid
  else return ((), { store with
    rollbacks := store.rollbacks.map fun row => if row = current then replacement else row })

/-- `_transition`. -/
def transitionRollback (plan : PostDeploymentAssertionPlan) (current : DeploymentRollback)
    (change : RollbackChange) (updatedAt : Int) : Lane DeploymentRollback := do
  let replacement := current.change change updatedAt
  ensure (replacement.valid = true) rollbackInvalid
  transaction (replaceRollback plan current replacement)
  let loaded : Option DeploymentRollback ← query (loadDeploymentRollback · plan)
  ensure (loaded = some replacement) rollbackInvalid
  return replacement

/-! ## Authorization -/

structure RollbackAuthorizationResult where
  status : RollbackPhase
  replayed : Bool
  intent : DeploymentRollback

/-- Repo B still has the baseline. -/
def provesBaseline (repositoryId : Int) (baselineSha : ObjectId) (proof : RollbackRepositoryProof) :
    Bool :=
  proof.repositoryId = repositoryId ∧ proof.isPrivate = true ∧ proof.mainSha = baselineSha

/-- The backup is the full one that was made for the deployment. -/
def provesBackup (backupSlug : PyStr) (proof : RollbackBackupProof) : Bool :=
  text proof.slug = backupSlug ∧ proof.backupType = "full" ∧ proof.includesHomeassistant = true ∧
    proof.restorable = true

/-- A rollback that is not planned yet. -/
def authorizeNewRollback (access : RollbackAccess) (plan : PostDeploymentAssertionPlan)
    (observedAt : Option Int) : Lane RollbackAuthorizationResult := do
  let (prepared, finalization) ← query (failureAuthority · plan)
  ofResult access.validateSupervisorToken
  let repository ← readRepository access
  ensure (provesBaseline prepared.repositoryId prepared.baselineSha repository = true)
    (invalidProof "repository")
  let backup ← readBackup
  let coreVersion ← query fun store => .ok (store.coreVersion plan.deploymentId)
  ensure (provesBackup prepared.backupSlug backup = true ∧
    backup.homeassistantVersion = coreVersion) (invalidProof "backup")
  let authorizedAt ← moment observedAt
  ensure (finalization.finalizedAt ≤ authorizedAt) rollbackInvalid
  let requested := plannedRollback plan.deploymentId prepared finalization repository backup
    authorizedAt
  ensure (requested.valid = true) rollbackInvalid
  let saved : DeploymentRollback × Bool ← transaction (insertRollback plan requested)
  ensureSaved saved requested
  return ⟨saved.1.phase, saved.2, saved.1⟩
where
  /-- What was inserted is read back. -/
  ensureSaved (saved : DeploymentRollback × Bool) (requested : DeploymentRollback) : Lane Unit :=
    if saved.2 then pure ()
    else do
      let loaded : Option DeploymentRollback ← query (loadDeploymentRollback · plan)
      ensure (loaded = some requested) rollbackInvalid
      query (requireRecoveryAuthority · plan)

/-- `authorize_deployment_rollback_once`. -/
def authorizeDeploymentRollbackOnce (access : RollbackAccess) (plan : PostDeploymentAssertionPlan)
    (observedAt : Option Int) : Lane RollbackAuthorizationResult := do
  let existing : Option DeploymentRollback ← query (loadDeploymentRollback · plan)
  match existing with
  | some existing => do
    query (requireRecoveryAuthority · plan)
    return ⟨existing.phase, true, existing⟩
  | none => authorizeNewRollback access plan observedAt

/-! ## The restore -/

inductive RestoreStatus where
  | restoreAcknowledged
  | reconciliationRequired
  | blocked
  | ambiguous
  | inProgress
  | restored
  | completed
deriving DecidableEq

structure RollbackRestoreResult where
  status : RestoreStatus
  replayed : Bool
deriving DecidableEq

def rollbackIntentRequired : Failure := rollbackError "rollback intent is required"

/-- `_reprove_external_inputs`. -/
def reproveExternalInputs (access : RollbackAccess) (intent : DeploymentRollback) : Lane Unit := do
  let repository ← readRepository access
  ensure (provesBaseline intent.repositoryId intent.baselineSha repository = true ∧
    repository = intent.repositoryProof) (invalidProof "repository")
  let backup ← readBackup
  ensure (provesBackup intent.backupSlug backup = true ∧ backup = intent.backupProof)
    (invalidProof "backup")

/-- `_definitely_rejected`. -/
def definitelyRejected (response : SupervisorResponse) : Bool :=
  [400, 401, 403, 404, 409, 422].contains response.status

/-- The `POST` of the restore; without a response the transport raised. -/
def postRestore (deploymentId : PyStr) : Lane (Option SupervisorResponse) :=
  action fun system => (.ok system.answers.restore,
    { system with events := .restorePosted deploymentId :: system.events })

/-- The row of a request whose outcome is not known. -/
def uncertainRestore (plan : PostDeploymentAssertionPlan) (started : DeploymentRollback)
    (requestedAt : Int) : Lane RollbackRestoreResult := do
  let _ ← transitionRollback plan started
    ⟨.uncertain, .ambiguous, .none, started.attemptCount, none⟩ requestedAt
  throw (rollbackError "rollback restore outcome is uncertain")

/-- What the answer to the request makes of the row. -/
def settleRestore (access : RollbackAccess) (plan : PostDeploymentAssertionPlan)
    (started : DeploymentRollback) (requestedAt : Int) (response : Option SupervisorResponse) :
    Lane RollbackRestoreResult :=
  match response with
  | none => uncertainRestore plan started requestedAt
  | some response =>
    if definitelyRejected response then do
      let _ ← transitionRollback plan started
        ⟨.blocked, .none, .restoreRejected, started.attemptCount, none⟩ requestedAt
      return ⟨.blocked, false⟩
    else
      match restoreJobId response access.maxResponseBytes with
      | .error _ => uncertainRestore plan started requestedAt
      | .ok jobId => do
        let _ ← transitionRollback plan started
          ⟨.restoreAcknowledged, .inProgress, .none, started.attemptCount, some jobId⟩ requestedAt
        return ⟨.restoreAcknowledged, false⟩

/-- A restore that was not asked for yet: the row says so before the request is sent. -/
def requestPlannedRestore (access : RollbackAccess) (plan : PostDeploymentAssertionPlan)
    (current : DeploymentRollback) (requestedAt : Option Int) : Lane RollbackRestoreResult := do
  ofResult access.validateSupervisorToken
  ofResult access.validateLimits
  reproveExternalInputs access current
  let requestedAt ← moment requestedAt
  let started : DeploymentRollback ← transitionRollback plan current
    ⟨.restoreStarted, .none, .none, current.attemptCount + 1, none⟩ requestedAt
  let response ← postRestore started.deploymentId
  settleRestore access plan started requestedAt response

/-- `request_deployment_restore_once`. -/
def requestDeploymentRestoreOnce (access : RollbackAccess) (plan : PostDeploymentAssertionPlan)
    (requestedAt : Option Int) : Lane RollbackRestoreResult := do
  let current : Option DeploymentRollback ← query (loadDeploymentRollback · plan)
  match current with
  | none => throw rollbackIntentRequired
  | some current =>
    match current.phase with
    | RollbackPhase.restoreAcknowledged => return ⟨.restoreAcknowledged, true⟩
    | RollbackPhase.restoreStarted => return ⟨.reconciliationRequired, true⟩
    | RollbackPhase.uncertain => return ⟨.reconciliationRequired, true⟩
    | RollbackPhase.blocked => return ⟨.blocked, true⟩
    | RollbackPhase.planned => requestPlannedRestore access plan current requestedAt
    | RollbackPhase.observing => throw (rollbackError "rollback restore is not requestable")
    | RollbackPhase.completed => throw (rollbackError "rollback restore is not requestable")

/-! ## Its reconciliation -/

/-- What the readers of restore jobs look at; a slug is ASCII. -/
def DeploymentRollback.restoreIntent (rollback : DeploymentRollback) : RestoreIntent :=
  ⟨String.ofList (rollback.backupSlug.map Char.ofNat), rollback.restoreJobId,
    rollback.authorizedAt, rollback.updatedAt⟩

section

variable (fromisoformat : String → Option DateTime)

/-- What the evidence of a job makes of the row. -/
def settleReconciliation (plan : PostDeploymentAssertionPlan) (current : DeploymentRollback)
    (observedAt : Int) (job : Option SupervisorRestoreJob) : Lane RollbackRestoreResult :=
  match job.map fun job => (job, job.failed, job.done) with
  | some (job, false, none) =>
    if current.restoreJobId = some job.jobId then return ⟨.inProgress, false⟩
    else do
      let _ ← transitionRollback plan current
        ⟨.restoreAcknowledged, .inProgress, .none, current.attemptCount, some job.jobId⟩ observedAt
      return ⟨.inProgress, false⟩
  | some (job, false, some true) => do
    let _ ← transitionRollback plan current
      ⟨.observing, .restored, .none, current.attemptCount, some job.jobId⟩ observedAt
    return ⟨.restored, false⟩
  | _ => do
    let _ ← transitionRollback plan current
      ⟨.blocked, .ambiguous, .ambiguous, current.attemptCount, none⟩ observedAt
    return ⟨.ambiguous, false⟩

/-- A restore whose job is read. -/
def reconcileRequestedRestore (access : RollbackAccess) (plan : PostDeploymentAssertionPlan)
    (current : DeploymentRollback) (observedAt : Option Int) : Lane RollbackRestoreResult := do
  ofResult access.validateSupervisorToken
  ofResult access.validateLimits
  let response ← ask fun answers =>
    match answers.jobs with
    | some response => .ok response
    | none => .error (rollbackError "rollback reconciliation is temporarily unavailable")
  let observedAt ← moment observedAt
  ensure (current.updatedAt ≤ observedAt) rollbackInvalid
  settleReconciliation plan current observedAt
    (reconciledRestoreJob fromisoformat response current.restoreIntent access.maxResponseBytes)

/-- `reconcile_deployment_restore_once`. -/
def reconcileDeploymentRestoreOnce (access : RollbackAccess) (plan : PostDeploymentAssertionPlan)
    (observedAt : Option Int) : Lane RollbackRestoreResult := do
  let current : Option DeploymentRollback ← query (loadDeploymentRollback · plan)
  match current with
  | none => throw rollbackIntentRequired
  | some current =>
    match current.phase with
    | RollbackPhase.observing => return ⟨.restored, true⟩
    | RollbackPhase.completed => return ⟨.restored, true⟩
    | RollbackPhase.blocked =>
      return ⟨if current.blockReason = .ambiguous then .ambiguous else .blocked, true⟩
    | RollbackPhase.planned => throw (rollbackError "rollback restore is not reconcilable")
    | RollbackPhase.restoreAcknowledged =>
      reconcileRequestedRestore fromisoformat access plan current observedAt
    | RollbackPhase.restoreStarted =>
      reconcileRequestedRestore fromisoformat access plan current observedAt
    | RollbackPhase.uncertain =>
      reconcileRequestedRestore fromisoformat access plan current observedAt

end

/-! ## Its completion -/

/-- A restored configuration, proved healthy. -/
def completeHealthyRollback (plan : PostDeploymentAssertionPlan) (current : DeploymentRollback)
    (observedAt : Option Int) : Lane RollbackRestoreResult := do
  ask fun answers =>
    if answers.coreHealthy ∧ answers.supervisorHealthy then .ok ()
    else .error (rollbackError "rollback post-restore health is unavailable")
  let observedAt ← moment observedAt
  ensure (current.updatedAt ≤ observedAt) rollbackInvalid
  let _ ← transitionRollback plan current
    ⟨.completed, .restored, .none, current.attemptCount, current.restoreJobId⟩ observedAt
  return ⟨.completed, false⟩

/-- A restore that was proved, on a proof of Repo B. -/
def completeRestoredRollback (access : RollbackAccess) (plan : PostDeploymentAssertionPlan)
    (current : DeploymentRollback) (observedAt : Option Int) : Lane RollbackRestoreResult := do
  ofResult access.validateSupervisorToken
  let repository ← readRepository access
  if provesBaseline current.repositoryId current.baselineSha repository = true ∧
      repository = current.repositoryProof then
    completeHealthyRollback plan current observedAt
  else do
    let observedAt ← moment observedAt
    ensure (current.updatedAt ≤ observedAt) rollbackInvalid
    let _ ← transitionRollback plan current
      ⟨.blocked, .restored, .repositoryDivergence, current.attemptCount, none⟩ observedAt
    return ⟨.blocked, false⟩

/-- `complete_deployment_rollback_once`. -/
def completeDeploymentRollbackOnce (access : RollbackAccess) (plan : PostDeploymentAssertionPlan)
    (observedAt : Option Int) : Lane RollbackRestoreResult := do
  let current : Option DeploymentRollback ← query (loadDeploymentRollback · plan)
  match current with
  | none => throw rollbackIntentRequired
  | some current =>
    if current.phase = .completed then return ⟨.completed, true⟩
    else if current.phase = .blocked then return ⟨.blocked, true⟩
    else if current.phase = .observing ∧ current.reconciliationState = .restored ∧
        current.restoreJobId ≠ none then
      completeRestoredRollback access plan current observedAt
    else throw (rollbackError "rollback restore is not ready for health proof")

end SyncApp
