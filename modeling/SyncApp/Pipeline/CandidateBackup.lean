import SyncApp.Pipeline.Rollback

/-!
# The backup of a candidate

The last action of a candidate is a full backup of Home Assistant, asked for under a name of the
candidate's own. The row of the backup says that the request is about to be sent before it is. A
request whose outcome is not known is never sent again: the backup is looked for in the Supervisor's
inventory, under its name.

An exception that the lane does not settle ends a call as a crash does.
-/

set_option autoImplicit false

namespace SyncApp

open Lib Raising Lane Json

/-! ## Errors -/

/-- `CandidateBackupExecutionError` of what is not as it should be. -/
def backupInvalid : Failure := ⟨"Candidate backup evidence is invalid", false⟩

def backupRequiresReconciliation : Failure :=
  ⟨"Candidate backup outcome requires reconciliation", true⟩

def orchestrationInvalid : Failure := ⟨"Candidate orchestration state is invalid", false⟩

def CandidateBackupError.failure (error : CandidateBackupError) : Failure :=
  ⟨error.message, error.transient⟩

/-- What raises a `CandidateBackupError`. -/
def ofBackup {α : Type} (result : Except CandidateBackupError α) : Lane α :=
  ofResult (result.mapError CandidateBackupError.failure)

/-! ## The Supervisor -/

/-- The token a caller hands in, and the environment a missing one is looked up in. -/
structure BackupAccess where
  token : Option String
  environ : String → Option String

def isControl (c : Char) : Bool := c.toNat < 0x20 || c.toNat == 0x7F

/-- `value == value.strip()`. -/
def isStripped (value : String) : Bool :=
  value.toList.head?.all (!isSpace ·) && value.toList.getLast?.all (!isSpace ·)

/-- `_resolve_token`. -/
def BackupAccess.resolveToken (access : BackupAccess) : Except CandidateBackupError String :=
  match access.token.or (access.environ "SUPERVISOR_TOKEN") with
  | none => .error (.permanent "Supervisor backup credential is unavailable")
  | some value =>
    if value = "" ∨ isStripped value = false then
      .error (.permanent "Supervisor backup credential is unavailable")
    else if value.toList.any isControl then
      .error (.permanent "Supervisor backup credential is invalid")
    else .ok value

/-- `_validate_limits`. -/
def validateBackupLimits (timeoutSeconds : Rat) (maxResponseBytes : Nat) :
    Except CandidateBackupError Unit :=
  if timeoutSeconds ≤ 0 ∨ 300 < timeoutSeconds then
    .error (.permanent "Supervisor backup timeout is invalid")
  else if maxResponseBytes = 0 ∨ 1024 * 1024 < maxResponseBytes then
    .error (.permanent "Supervisor backup response limit is invalid")
  else .ok ()

def defaultBackupTimeoutSeconds : Rat := 60

def defaultMaxBackupResponseBytes : Nat := 64 * 1024

/-- `_validate_backup_name`. -/
def validateBackupName (value : String) : Except CandidateBackupError Unit :=
  if value = "" ∨ 128 < value.length ∨ isStripped value = false ∨ value.toList.any isControl then
    .error (.permanent "Supervisor backup name is invalid")
  else .ok ()

/-- `_request_json`, from what its transport gave back or raised. -/
def BackupAnswer.payload (answer : BackupAnswer) (limit : Nat) :
    Except CandidateBackupError (List (String × Json)) :=
  match answer with
  | .response given => requestJson given limit
  | .raised error => .error error
  | .exception => .error ⟨"Supervisor backup request failed", true⟩

/-- A request to the Supervisor for a candidate. -/
def askSupervisor (candidateSha : ShortDigest) (reconciling : Bool) (request : BackupRequest)
    (limit : Nat) : Lane (List (String × Json)) :=
  action fun system =>
    let answer := system.backup.supervisor request
    ((answer.payload limit).mapError CandidateBackupError.failure,
      { system with
        exchanges := ⟨candidateSha, reconciling, request, answer⟩ :: system.exchanges })

/-- `_verify_semantic`. -/
def verifySemantic (candidateSha : ShortDigest) : Lane Unit :=
  action fun system =>
    (if system.backup.validates candidateSha then .ok ()
      else .error ⟨"successful semantic validation is required", false⟩, system)

/-- The evidence of a backup of what was validated. -/
def CandidateSemanticValidation.evidence (semantic : CandidateSemanticValidation)
    (candidateSha : ShortDigest) (backupSlug : String) : CandidateBackupEvidence :=
  ⟨semantic.target, semantic.repositoryId, semantic.baselineSha, candidateSha,
    semantic.stageManifestSha256, semantic.runtimeSha256, semantic.riskLevel, semantic.coreVersion,
    backupSlug⟩

/-- `candidate_sha[:12]`. -/
def ShortDigest.short (candidateSha : ShortDigest) : String :=
  String.ofList (candidateSha.hex.toList.take 12)

/-- The backup behind a slug is verified, and what was validated validated again. -/
def verifiedEvidence (semantic : CandidateSemanticValidation) (candidateSha : ShortDigest)
    (reconciling : Bool) (slug : String) (maxResponseBytes : Nat) : Lane CandidateBackupEvidence := do
  let info ← askSupervisor candidateSha reconciling (.info slug) maxResponseBytes
  ofBackup (verifyBackupInfo info slug semantic.coreVersion)
  verifySemantic candidateSha
  return semantic.evidence candidateSha slug

/-- `create_candidate_backup`. -/
def createCandidateBackup (access : BackupAccess) (semantic : CandidateSemanticValidation)
    (candidateSha : ShortDigest) (backupName : Option String)
    (timeoutSeconds : Rat) (maxResponseBytes : Nat) : Lane CandidateBackupEvidence := do
  verifySemantic candidateSha
  let _ ← ofBackup access.resolveToken
  ofBackup (validateBackupLimits timeoutSeconds maxResponseBytes)
  let requestName := backupName.getD ("SyncApp candidate " ++ candidateSha.short)
  ofBackup (validateBackupName requestName)
  let created ← askSupervisor candidateSha false (.create requestName) maxResponseBytes
  let slug ← ofBackup (backupSlug created)
  verifiedEvidence semantic candidateSha false slug maxResponseBytes

/-- `reconcile_candidate_backup`. -/
def reconcileCandidateBackup (fromisoformat : String → Option DateTime) (access : BackupAccess)
    (semantic : CandidateSemanticValidation) (candidateSha : ShortDigest) (requestName : String)
    (startedAt : Int) (timeoutSeconds : Rat) (maxResponseBytes : Nat) :
    Lane CandidateBackupEvidence := do
  verifySemantic candidateSha
  ofBackup (validateBackupName requestName)
  let _ ← ofBackup access.resolveToken
  ofBackup (validateBackupLimits timeoutSeconds maxResponseBytes)
  let inventory ← askSupervisor candidateSha true .inventory maxResponseBytes
  let slug ← ofBackup (reconciledBackupSlug fromisoformat inventory requestName startedAt)
  verifiedEvidence semantic candidateSha true slug maxResponseBytes

/-! ## Rows -/

namespace CandidateBackupCheckpoint

variable (checkpoint : CandidateBackupCheckpoint)

def evidence (backupSlug : String) : CandidateBackupEvidence :=
  ⟨checkpoint.target, checkpoint.repositoryId, checkpoint.baselineSha, checkpoint.candidateSha,
    checkpoint.stageManifestSha256, checkpoint.runtimeSha256, checkpoint.riskLevel,
    checkpoint.coreVersion, backupSlug⟩

def start (startedAt : Int) : Except Failure CandidateBackupCheckpoint :=
  if checkpoint.phase ≠ .planned ∨ startedAt < checkpoint.plannedAt then .error backupInvalid
  else .ok { checkpoint with phase := .mutationStarted startedAt }

def markUncertain : Except Failure CandidateBackupCheckpoint :=
  match checkpoint.phase with
  | .mutationStarted startedAt => .ok { checkpoint with phase := .uncertain startedAt }
  | _ => .error backupInvalid

/-- The time a requested backup was started. -/
def requestedAt : Option Int :=
  match checkpoint.phase with
  | .mutationStarted startedAt => some startedAt
  | .uncertain startedAt => some startedAt
  | _ => none

def complete (evidence : CandidateBackupEvidence) (completedAt : Int) :
    Except Failure CandidateBackupCheckpoint :=
  match checkpoint.requestedAt with
  | none => .error backupInvalid
  | some startedAt =>
    if evidence ≠ checkpoint.evidence evidence.backupSlug ∨ isSlug evidence.backupSlug = false ∨
        completedAt < startedAt then .error backupInvalid
    else .ok { checkpoint with phase := .completed startedAt evidence.backupSlug completedAt }

def block (completedAt : Int) : Except Failure CandidateBackupCheckpoint :=
  match checkpoint.phase with
  | .planned =>
    if completedAt < checkpoint.plannedAt then .error backupInvalid
    else .ok { checkpoint with phase := .blocked none completedAt }
  | .uncertain startedAt =>
    if completedAt < checkpoint.plannedAt ∨ completedAt < startedAt then .error backupInvalid
    else .ok { checkpoint with phase := .blocked (some startedAt) completedAt }
  | _ => .error backupInvalid

end CandidateBackupCheckpoint

/-- A prepared deployment. -/
structure PreparedDeployment where
  evidence : PreparedEvidence
  coreVersion : String
  runtime : PreparedRuntime
deriving DecidableEq

def CandidateBackupEvidence.prepared (evidence : CandidateBackupEvidence) (preparedAt : Int) :
    PreparedDeployment :=
  ⟨⟨evidence.target, evidence.repositoryId, evidence.baselineSha, .sha1 evidence.candidateSha,
    evidence.stageManifestSha256, text evidence.backupSlug⟩, evidence.coreVersion,
    ⟨evidence.runtimeSha256, evidence.riskLevel, preparedAt⟩⟩

/-- `PreparedDeployment.validate` of a completed backup. -/
def PreparedDeployment.valid (prepared : PreparedDeployment) : Bool :=
  prepared.evidence.baselineSha.width == prepared.evidence.candidateSha.width

namespace Store

variable (store : Store)

/-- The row of a candidate. -/
def orchestration (candidateSha : ShortDigest) : Option CandidateOrchestration :=
  store.orchestrations.find? (·.candidateSha = candidateSha)

/-- The row of a candidate in the table of a stage. -/
def checkpoint (stage : PreflightStage) (candidateSha : ShortDigest) :
    Option (CandidateCheckpoint stage) :=
  (store.checkpoints stage).find? (·.candidateSha = candidateSha)

/-- The digests of a candidate that was validated. -/
def validated (candidateSha : ShortDigest) : Option CandidateDigests :=
  (store.checkpoint .semantic candidateSha).bind CandidateCheckpoint.digests

/-- The row of a candidate's backup. -/
def backupCheckpoint (candidateSha : ShortDigest) : Option CandidateBackupCheckpoint :=
  store.backupCheckpoints.find? (·.candidateSha = candidateSha)

/-- `StateStore.prepared_deployment`. -/
def prepared (deploymentId : PyStr) : Except Failure (Option PreparedDeployment) :=
  match store.preparedDeployment deploymentId, store.preparedRuntime deploymentId with
  | some evidence, some runtime =>
    if store.repositoryId evidence.target ≠ some evidence.repositoryId then .error backupInvalid
    else .ok (some ⟨evidence, store.coreVersion deploymentId, runtime⟩)
  | _, _ => .ok none

/-- `INSERT INTO prepared_deployment`. -/
def insertPrepared (deploymentId : PyStr) (prepared : PreparedDeployment) : Except Failure Store :=
  match store.preparedDeployment deploymentId with
  | some _ => .error backupInvalid
  | none => .ok { store with
      preparedDeployment := fun key =>
        if key = deploymentId then some prepared.evidence else store.preparedDeployment key
      coreVersion := fun key =>
        if key = deploymentId then prepared.coreVersion else store.coreVersion key
      preparedRuntime := fun key =>
        if key = deploymentId then some prepared.runtime else store.preparedRuntime key }

end Store

/-- `load_candidate_orchestration`. -/
def loadCandidateOrchestration (store : Store) (candidateSha : ShortDigest) :
    Except Failure (Option CandidateOrchestration) :=
  match store.orchestration candidateSha with
  | none => .ok none
  | some record =>
    if store.repositoryId record.target ≠ some record.repositoryId then .error orchestrationInvalid
    else .ok (some record)

/-- The phase a candidate is in while its backup is in a phase. -/
def BackupPhase.during : BackupPhase → OrchestrationPhase
  | .completed .. => .completed
  | .blocked .. => .blocked
  | .planned | .mutationStarted _ | .uncertain _ => .semanticallyValidated

/-- `load_candidate_backup_checkpoint`. -/
def loadCandidateBackupCheckpoint (store : Store) (candidateSha : ShortDigest) :
    Except Failure (Option CandidateBackupCheckpoint) :=
  match store.backupCheckpoint candidateSha with
  | none => .ok none
  | some row => do
    let current : Option CandidateOrchestration ← loadCandidateOrchestration store candidateSha
    match current, store.validated candidateSha with
    | some current, some digests =>
      if row.target ≠ current.target ∨ row.repositoryId ≠ current.repositoryId ∨
          row.digests ≠ digests ∨ row.phase.during ≠ current.phase then .error backupInvalid
      else return some row
    | _, _ => .error backupInvalid

/-! ## Transactions -/

/-- `UPDATE candidate_backup_checkpoint … WHERE candidate_sha=? AND record_sha256=?`. -/
def replaceCheckpoint (previous replacement : CandidateBackupCheckpoint) (store : Store) :
    Except Failure Store :=
  if store.backupCheckpoint previous.candidateSha = some previous then
    .ok { store with
      backupCheckpoints := store.backupCheckpoints.map fun row =>
        if row = previous then replacement else row }
  else .error backupInvalid

/-- `UPDATE candidate_orchestration … WHERE candidate_sha=? AND record_sha256=?`. -/
def replaceOrchestration (current advanced : CandidateOrchestration) (store : Store) :
    Except Failure Store :=
  if store.orchestration current.candidateSha = some current then
    .ok { store with
      orchestrations := store.orchestrations.map fun row => if row = current then advanced else row }
  else .error backupInvalid

/-- `UPDATE work … WHERE work_kind='candidate' AND work_key=? AND status='running'`. -/
def settleCandidateWork (candidateSha : ShortDigest) (status : WorkStatus) (finishedAt : Int)
    (store : Store) : Except Failure Store :=
  match store.findWork .candidate candidateSha.key with
  | none => .error backupInvalid
  | some item =>
    if item.status ≠ .running then .error backupInvalid
    else
      match store.updateWork item fun current =>
        { current with status := status, updatedAt := finishedAt, nextAttemptAt := none } with
      | some store => .ok store
      | none => .error backupInvalid

/-- What a completed backup adds; a blocked one adds nothing. -/
def insertPreparation (deploymentId : PyStr) (prepared : Option PreparedDeployment)
    (store : Store) : Except Failure Store :=
  match prepared with
  | none => .ok store
  | some prepared => do
    let added ← store.insertPrepared deploymentId prepared
    added.insertWork (Store.pendingWork .candidateApply deploymentId prepared.runtime.preparedAt)

/-- The transaction of `_finish_atomically`. -/
def finishAtomically (previous finished : CandidateBackupCheckpoint)
    (current advanced : CandidateOrchestration) (status : WorkStatus) (finishedAt : Int)
    (prepared : Option PreparedDeployment) (store : Store) : Except Failure (Unit × Store) := do
  let replaced ← replaceCheckpoint previous finished store
  let added ← insertPreparation (text finished.deploymentId) prepared replaced
  let advancedStore ← replaceOrchestration current advanced added
  let settled ← settleCandidateWork current.candidateSha status finishedAt advancedStore
  return ((), settled)

/-- `_backup_successor`. -/
def backupSuccessor (current : CandidateOrchestration) (phase : OrchestrationPhase)
    (updatedAt : Int) : Except Failure CandidateOrchestration :=
  if current.phase ≠ .semanticallyValidated ∨ updatedAt < current.registeredAt then
    .error orchestrationInvalid
  else .ok { current with phase := phase, updatedAt := updatedAt }

/-- The transaction of `_record_plan`. -/
def recordPlan (current : CandidateOrchestration) (plan : CandidateBackupCheckpoint)
    (store : Store) : Except Failure (Unit × Store) := do
  let loaded ← loadCandidateOrchestration store current.candidateSha
  if loaded ≠ some current ∨ store.backupCheckpoints.any (fun row =>
      row.candidateSha = plan.candidateSha ∨ row.deploymentId = plan.deploymentId ∨
      row.requestName = plan.requestName) then .error backupInvalid
  else return ((), { store with backupCheckpoints := store.backupCheckpoints ++ [plan] })

/-! ## One action -/

structure CandidateBackupExecutionResult where
  checkpoint : CandidateBackupCheckpoint
  orchestration : CandidateOrchestration
  prepared : Option PreparedDeployment
  replayed : Bool
deriving DecidableEq

/-- What was written is read back. -/
def ensureCheckpoint (row : CandidateBackupCheckpoint) : Lane Unit := do
  let loaded : Option CandidateBackupCheckpoint ←
    query (loadCandidateBackupCheckpoint · row.candidateSha)
  ensure (loaded = some row) backupInvalid

/-- `_transition_checkpoint`. -/
def transitionCheckpoint (previous replacement : CandidateBackupCheckpoint) : Lane Unit := do
  transaction fun store => do return ((), ← replaceCheckpoint previous replacement store)
  ensureCheckpoint replacement

/-- The reads after `_finish_atomically`. -/
def ensureFinished (finished : CandidateBackupCheckpoint) (advanced : CandidateOrchestration) :
    Lane Unit := do
  ensureCheckpoint finished
  let loaded : Option CandidateOrchestration ←
    query (loadCandidateOrchestration · advanced.candidateSha)
  ensure (loaded = some advanced) backupInvalid

/-- `_finish_success`. -/
def finishSuccess (previous completed : CandidateBackupCheckpoint)
    (current : CandidateOrchestration) (evidence : CandidateBackupEvidence) (completedAt : Int) :
    Lane CandidateBackupExecutionResult := do
  let prepared := evidence.prepared completedAt
  ensure (prepared.valid = true) backupInvalid
  let advanced ← ofResult (backupSuccessor current .completed completedAt)
  transaction (finishAtomically previous completed current advanced .succeeded completedAt
    (some prepared))
  ensureFinished completed advanced
  let loaded : Option PreparedDeployment ←
    query (Store.prepared · (text completed.deploymentId))
  ensure (loaded = some prepared) backupInvalid
  return ⟨completed, advanced, loaded, false⟩

/-- `_finish_block`. -/
def finishBlock (previous blocked : CandidateBackupCheckpoint) (current : CandidateOrchestration)
    (blockedAt : Int) : Lane CandidateBackupExecutionResult := do
  let advanced ← ofResult (backupSuccessor current .blocked blockedAt)
  transaction (finishAtomically previous blocked current advanced .blocked blockedAt none)
  ensureFinished blocked advanced
  return ⟨blocked, advanced, none, false⟩

/-- An exception that is caught as a value. -/
def attempt {α : Type} (program : Lane α) : Lane (Except Failure α) :=
  tryCatch (do return .ok (← program)) fun failure => pure (.error failure)

section

variable (fromisoformat : String → Option DateTime) (uuid5 : PyStr → String) (access : BackupAccess)

/-- `candidate_backup_deployment_id`: the UUID of the candidate's name among URLs. -/
def candidateBackupDeploymentId (target : PyStr) (repositoryId : Int)
    (candidateSha : ShortDigest) : String :=
  uuid5 (text "syncapp:" ++ target ++ text ":" ++ text (toString repositoryId) ++ text ":" ++
    candidateSha.key)

/-- `CandidateBackupCheckpoint.plan`. -/
def planBackup (current : CandidateOrchestration) (authority : CandidateBackupAuthority)
    (plannedAt : Int) : Except Failure CandidateBackupCheckpoint :=
  let semantic := authority.semantic
  let deploymentId := candidateBackupDeploymentId uuid5 current.target current.repositoryId
    current.candidateSha
  if semantic.baselineSha = .sha1 current.candidateSha ∨ isCoreVersion semantic.coreVersion = false
  then .error backupInvalid
  else .ok {
    candidateSha := current.candidateSha
    orchestration := current
    digests := authority.digests
    target := current.target
    repositoryId := current.repositoryId
    baselineSha := semantic.baselineSha
    stageManifestSha256 := semantic.stageManifestSha256
    runtimeSha256 := semantic.runtimeSha256
    riskLevel := semantic.riskLevel
    coreVersion := semantic.coreVersion
    deploymentId := deploymentId
    requestName := "SyncApp candidate " ++ current.candidateSha.short ++ " " ++ deploymentId
    phase := .planned
    plannedAt := plannedAt }

/-- `_verify_authority_binding`. -/
def bindsAuthority (checkpoint : CandidateBackupCheckpoint) (current : CandidateOrchestration)
    (authority : CandidateBackupAuthority) : Bool :=
  checkpoint.orchestration = current ∧ checkpoint.digests = authority.digests ∧
    checkpoint.baselineSha = authority.semantic.baselineSha ∧
    checkpoint.stageManifestSha256 = authority.semantic.stageManifestSha256 ∧
    checkpoint.runtimeSha256 = authority.semantic.runtimeSha256 ∧
    checkpoint.riskLevel = authority.semantic.riskLevel ∧
    checkpoint.coreVersion = authority.semantic.coreVersion

/-- `_load_authority`. -/
def loadAuthority (candidateSha : ShortDigest) : Lane CandidateBackupAuthority :=
  action fun system =>
    (match system.backup.authority candidateSha with
      | some authority => .ok authority
      | none => .error backupInvalid, system)

/-- A planned backup: the row says so before the request is sent. -/
def requestBackup (checkpoint : CandidateBackupCheckpoint) (current : CandidateOrchestration)
    (authority : CandidateBackupAuthority) (now : Int) : Lane CandidateBackupExecutionResult := do
  let started ← ofResult (checkpoint.start now)
  transitionCheckpoint checkpoint started
  let created ← attempt (createCandidateBackup access authority.semantic current.candidateSha
    (some started.requestName) defaultBackupTimeoutSeconds defaultMaxBackupResponseBytes)
  match created with
  | .error _ => do
    let uncertain ← ofResult started.markUncertain
    transitionCheckpoint started uncertain
    throw backupRequiresReconciliation
  | .ok evidence => do
    let completed ← ofResult (started.complete evidence now)
    finishSuccess started completed current evidence now

/-- A request whose outcome is not known. -/
def reconcileBackup (checkpoint : CandidateBackupCheckpoint) (startedAt : Int)
    (current : CandidateOrchestration) (authority : CandidateBackupAuthority) (now : Int) :
    Lane CandidateBackupExecutionResult := do
  let found ← attempt (reconcileCandidateBackup fromisoformat access authority.semantic
    current.candidateSha checkpoint.requestName startedAt defaultBackupTimeoutSeconds
    defaultMaxBackupResponseBytes)
  match found with
  | .error failure => do
    note (.backupReconciliationFailed current.candidateSha failure)
    let blocked ← ofResult (checkpoint.block now)
    finishBlock checkpoint blocked current now
  | .ok evidence => do
    let completed ← ofResult (checkpoint.complete evidence now)
    finishSuccess checkpoint completed current evidence now

/-- A backup that was planned and is not finished. -/
def continueBackup (checkpoint : CandidateBackupCheckpoint) (current : CandidateOrchestration)
    (authority : CandidateBackupAuthority) (now : Int) : Lane CandidateBackupExecutionResult :=
  match checkpoint.phase with
  | .planned => requestBackup access checkpoint current authority now
  | .mutationStarted startedAt => do
    let uncertain ← ofResult checkpoint.markUncertain
    transitionCheckpoint checkpoint uncertain
    reconcileBackup fromisoformat access uncertain startedAt current authority now
  | .uncertain startedAt =>
    reconcileBackup fromisoformat access checkpoint startedAt current authority now
  | .completed .. => throw backupInvalid
  | .blocked .. => throw backupInvalid

/-- A candidate whose backup is not planned yet. -/
def planAndRequestBackup (current : CandidateOrchestration) (now : Int) :
    Lane CandidateBackupExecutionResult := do
  let authority ← loadAuthority current.candidateSha
  ensure (current.phase = .semanticallyValidated) backupInvalid
  let plan ← ofResult (planBackup uuid5 current authority now)
  transaction (recordPlan current plan)
  ensureCheckpoint plan
  continueBackup fromisoformat access plan current authority now

/-- A backup that is read back. -/
def resumeBackup (checkpoint : CandidateBackupCheckpoint) (current : CandidateOrchestration)
    (now : Int) : Lane CandidateBackupExecutionResult :=
  match checkpoint.phase with
  | .completed _ backupSlug _ => do
    let prepared : Option PreparedDeployment ←
      query (Store.prepared · (text checkpoint.deploymentId))
    ensure (prepared.any (fun row =>
      row = (checkpoint.evidence backupSlug).prepared row.runtime.preparedAt) = true) backupInvalid
    return ⟨checkpoint, current, prepared, true⟩
  | .blocked .. => return ⟨checkpoint, current, none, true⟩
  | _ => do
    let authority ← loadAuthority current.candidateSha
    ensure (bindsAuthority checkpoint current authority = true) backupInvalid
    continueBackup fromisoformat access checkpoint current authority now

/-- `execute_candidate_backup_once`. -/
def executeCandidateBackupOnce (orchestration : CandidateOrchestration) (referenceTime : Option Int) :
    Lane CandidateBackupExecutionResult := do
  let now ← moment referenceTime
  let current : Option CandidateOrchestration ←
    query (loadCandidateOrchestration · orchestration.candidateSha)
  ensure (current = some orchestration) backupInvalid
  let checkpoint : Option CandidateBackupCheckpoint ←
    query (loadCandidateBackupCheckpoint · orchestration.candidateSha)
  match checkpoint with
  | none => planAndRequestBackup fromisoformat uuid5 access orchestration now
  | some checkpoint => resumeBackup fromisoformat access checkpoint orchestration now

/-! ## A pass -/

/-- The candidate is at its backup. -/
def Store.preparesBackup (store : Store) (workKey : PyStr) : Bool :=
  store.orchestrations.any fun row =>
    row.candidateSha.key = workKey ∧ row.phase.nextAction = .prepareBackup

/-- The first transaction of a pass. -/
def claimBackupWork (now : Int) (store : Store) : Except Failure (Option WorkItem × Store) :=
  let recovered := { store with
    work := store.work.map fun item =>
      if item.workKind = .candidate ∧ item.status = .running ∧ store.preparesBackup item.workKey then
        { item with status := .retry, updatedAt := now, nextAttemptAt := some now }
      else item }
  match earliest (recovered.work.filter fun item =>
      eligible .candidate now item && store.preparesBackup item.workKey) with
  | none => .ok (none, recovered)
  | some item =>
    let claimed := { item with
      status := .running, attempts := item.attempts + 1, updatedAt := now, nextAttemptAt := none }
    match recovered.updateWork item fun _ => claimed with
    | none => .error ⟨"candidate backup claim changed", false⟩
    | some store => .ok (some claimed, store)

/-- The orchestration that a work key names. -/
def loadClaimedOrchestration (workKey : PyStr) (store : Store) :
    Except Failure CandidateOrchestration :=
  match store.orchestrations.find? (·.candidateSha.key = workKey) with
  | none => .error ⟨"candidate backup authority is unavailable", false⟩
  | some record => do
    match ← loadCandidateOrchestration store record.candidateSha with
    | some record => return record
    | none => .error ⟨"candidate backup authority is unavailable", false⟩

def backupFailedClosed : Failure := ⟨"candidate backup failed closed", false⟩

/-- A claimed item that is executed. -/
def executeClaimedBackup (claimed : WorkItem) (now : Int) : Lane BackupPhase :=
  tryCatch (do
    let orchestration ← query (loadClaimedOrchestration claimed.workKey)
    let result ← executeCandidateBackupOnce fromisoformat uuid5 access orchestration (some now)
    return result.checkpoint.phase)
    fun failure => do
      tryCatch (do
        let _ ← transaction (failWork claimed failure.transient now)
        return ()) fun _ => pure ()
      throw backupFailedClosed

/-- `run_candidate_backup_retrigger_pass`. -/
def runCandidateBackupRetriggerPass (referenceTime : Option Int) : Lane (Option BackupPhase) := do
  let now ← moment referenceTime
  let item : Option WorkItem ← rethrow (transaction (claimBackupWork now)) fun _ => backupFailedClosed
  match item with
  | none => return none
  | some item => do
    let claimed ← rethrow (query (Store.getWork · item.workKind item.workKey)) fun _ =>
      backupFailedClosed
    return some (← executeClaimedBackup fromisoformat uuid5 access claimed now)

end

end SyncApp
