import SyncApp.LiveApply.Writer

/-!
# Reconciliation and the controller

`reconcileLiveApplyOperation` settles an operation whose mutation may or may not have happened, by
looking at the live path below the directories the guard recorded. `advanceLiveApplyOnce` takes the
one action the journal allows: the next operation, a reconciliation, or none.
-/

set_option autoImplicit false

namespace SyncApp

open Lib Raising App Sys

variable (hashing : Hashing)

namespace LiveApplyReconciliation

open LiveApplyJournal

def reject {σ α : Type} (message : String) : Raising PyError σ α :=
  throw ⟨.reconciliationError, message⟩

structure LiveApplyReconciliationResult where
  outcome : ReconciliationOutcome
  operationIndex : Nat
  operationPathSha256 : Digest
  replayed : Bool

/-- The staged entries are those of every operation of the plan. -/
def validateStageEntries (entries : List CandidateStageEntry) :
    List LiveApplyOperation → Sys Unit
  | [] => pure ()
  | operation :: operations => do
    match operation.status, entries.find? (·.path = operation.path) with
    | .deleted, entry =>
      require (entry = none)
        ⟨.reconciliationError, "deleted path unexpectedly exists in candidate Stage"⟩
    | _, none => reject "candidate Stage operation binding mismatch"
    | _, some entry =>
      require (some entry.gitMode = operation.candidateMode ∧
          some entry.objectId = operation.candidateObjectId ∧
          some entry.size = operation.stagedSize ∧ some entry.sha256 = operation.stagedSha256)
        ⟨.reconciliationError, "candidate Stage operation binding mismatch"⟩
    validateStageEntries entries operations

def validateStageBinding (evidence : StagePrewriteEvidence) (stage : CandidateStage)
    (plan : LiveApplyPlan) : Sys Unit := do
  let binding := (evidence.target, evidence.repositoryId, evidence.candidateSha,
    evidence.stageManifestSha256)
  require (binding = (stage.target, stage.repositoryId, stage.commitSha, stage.manifestSha256) ∧
      binding = (plan.target, plan.repositoryId, plan.candidateSha, plan.stageManifestSha256))
    ⟨.reconciliationError, "candidate Stage binding mismatch"⟩
  require (stage.entries.map (·.path)).Nodup
    ⟨.reconciliationError, "candidate Stage entries are invalid"⟩
  validateStageEntries stage.entries plan.operations

/-- `_validate_chain`; the backup slug is not among what it compares. -/
def validateChain (authorization : ApplyAuthorization) (stageEvidence : StagePrewriteEvidence)
    (stage : CandidateStage) (plan : LiveApplyPlan)
    (preconditions : LiveApplyPreconditionEvidence) : App LiveApplyIntent := do
  let (intent, persisted) ← orRaise (do
    let intent ← ofResult (LiveApplyIntents.deriveLiveApplyIntent hashing authorization
      stageEvidence plan preconditions)
    let persisted ← query "Unable to read live Apply intent"
      (loadLiveApplyIntent · intent.deploymentId)
    return (intent, persisted)) ⟨.reconciliationError, "live Apply evidence chain is invalid"⟩
  require (persisted.map (fun row => { row.intent with
      deploymentId := intent.deploymentId, backupSlug := intent.backupSlug }) = some intent)
    ⟨.reconciliationError, "durable live Apply intent binding mismatch"⟩
  onHost (validateStageBinding stageEvidence stage plan)
  require ((preconditions.deploymentId, preconditions.target, preconditions.repositoryId,
      preconditions.baselineSha, preconditions.candidateSha, preconditions.stageManifestSha256) =
      (plan.deploymentId, plan.target, plan.repositoryId, plan.baselineSha, plan.candidateSha,
        plan.stageManifestSha256) ∧
      preconditions.verifiedPaths = plan.operations.map (·.path))
    ⟨.reconciliationError, "live Apply precondition binding mismatch"⟩
  return intent

def finishReconciliation (progress : LiveApplyProgress) (plan : LiveApplyPlan)
    (outcome : ReconciliationOutcome) : App LiveApplyReconciliationResult := do
  tryCatch (do
    let _ ← recordLiveApplyReconciliation hashing progress plan outcome
    let settled ← ofResult (transitionLiveApplyProgress progress
      (if outcome = .applied then .mutationVerified else .blocked))
    let _ ← recordLiveApplyProgress hashing settled plan) fun error =>
      if error.kind = .stateError then reject "unable to persist live Apply reconciliation"
      else throw error
  return ⟨outcome, progress.operationIndex, progress.operationPathSha256, false⟩

/-! ## Looking at the live path -/

/-- `_open_root`. -/
def openRoot (root : PyStr) (expected : Nat) : Sys Nat := do
  let fd ← onOsError (openPath root) fun _ =>
    reject "live Apply reconciliation root is unavailable"
  require (fd = expected) ⟨.reconciliationError, "live Apply reconciliation root changed"⟩
  return fd

/-- `_open_parents`. -/
def openParents (current : Nat) : List PyStr → List Nat → Sys Nat
  | [], [] => pure current
  | part :: parts, expected :: identities => do
    let next ← onOsError (openDirectoryAt current part) fun _ =>
      reject "live Apply reconciliation parent changed"
    require (next = expected)
      ⟨.reconciliationError, "live Apply reconciliation parent changed"⟩
    openParents next parts identities
  | _, _ => reject "live Apply reconciliation parent binding is invalid"

/-- The one width of the operation's object ids, as an id of that width. -/
def objectWidth (operation : LiveApplyOperation) : Option ObjectId :=
  match operation.baselineObjectId, operation.candidateObjectId with
  | some baseline, some candidate =>
    if baseline.width = candidate.width then some baseline else none
  | some baseline, none => some baseline
  | none, candidate => candidate

def leafState (parent : Nat) (name : PyStr) (operation : LiveApplyOperation) :
    Sys (Option (ObjectId × GitMode)) := do
  let found ← onOsError (do return some (← statAt parent name)) fun errno =>
    if errno = .noent then pure none else throw ⟨.osError errno, ""⟩
  match found with
  | none => return none
  | some (_, node) =>
    require (node.regularMode ≠ none)
      ⟨.reconciliationError, "live Apply reconciliation path is unsafe"⟩
    let fd ← onOsError (openAt parent name) fun errno =>
      match errno with
      | .loop | .notdir => reject "live Apply reconciliation path is unsafe"
      | _ => reject "live Apply reconciliation path is unavailable"
    let opened ← fstat fd
    let data ← readAll fd
    match objectWidth operation, opened.regularMode with
    | some width, some mode => return some (gitBlobObjectId hashing data width, gitMode mode)
    | _, _ => reject "live Apply reconciliation object identity is invalid"

/-- Whether a state is the one an operation starts from, or ends in. -/
def stateIs (state : Option (ObjectId × GitMode)) (absent : Bool) (objectId : Option ObjectId)
    (mode : Option GitMode) : Bool :=
  if absent then state = none
  else state.any fun state => some state.1 = objectId ∧ some state.2 = mode

def observeOutcome (root : PyStr) (operation : LiveApplyOperation)
    (guard : LiveApplyMutationGuard) : Sys ReconciliationOutcome :=
  tryCatch (do
    let parts := splitPath operation.path
    let rootFd ← openRoot root guard.rootIdentity
    let parent ← openParents rootFd parts.dropLast guard.parentIdentities
    let state ← leafState hashing parent (parts.getLastD []) operation
    if stateIs state (operation.status = .deleted) operation.candidateObjectId
        operation.candidateMode then return .applied
    else if stateIs state (operation.status = .added) operation.baselineObjectId
        operation.baselineMode then return .notApplied
    else return .ambiguous) fun error =>
      match error.kind with
      | .reconciliationError | .osError _ | .valueError => pure .ambiguous
      | _ => throw error

/-- The guard is of the same operation as the row. -/
def guardMatches (guard : LiveApplyMutationGuard) (progress : LiveApplyProgress) : Bool :=
  (guard.deploymentId, guard.operationIndex, guard.intentRecordSha256, guard.operationsSha256,
    guard.operationPathSha256) = (progress.deploymentId, progress.operationIndex,
    progress.intentRecordSha256, progress.operationsSha256, progress.operationPathSha256)

/-- What an uncertain operation has come to: without a verified stage and a guard of the same
operation, nothing is known. -/
def uncertainOutcome (stage : CandidateStage) (root : PyStr) (operation : LiveApplyOperation)
    (progress : LiveApplyProgress) : App ReconciliationOutcome := do
  let staged ← onHost (tryCatch
    (do CandidateStages.verifyCandidateStage hashing stage; pure true) fun _ => pure false)
  if !staged then return .ambiguous
  else
    let guard ← tryCatch (query "Unable to read live Apply mutation guard" fun db =>
        .ok (guardRow db progress.deploymentId progress.operationIndex)) fun error =>
      if error.kind = .stateError then pure none else throw error
    match guard with
    | none => return .ambiguous
    | some guard =>
      if !guardMatches guard progress then return .ambiguous
      else onHost (observeOutcome hashing root operation guard)

/-- An operation that is settled already is answered from its record. -/
def replayedReconciliation (progress : LiveApplyProgress) : App LiveApplyReconciliationResult := do
  let previous ← query "Unable to read live Apply reconciliation outcome" fun db =>
    .ok (reconciliationRow db progress.deploymentId progress.operationIndex)
  match previous with
  | none => reject "live Apply operation is not reconcilable"
  | some record =>
    return ⟨record.outcome, progress.operationIndex, progress.operationPathSha256, true⟩

def reconcileLiveApplyOperation (authorization : ApplyAuthorization)
    (stageEvidence : StagePrewriteEvidence) (stage : CandidateStage) (plan : LiveApplyPlan)
    (preconditions : LiveApplyPreconditionEvidence) (operationIndex : Nat) :
    App LiveApplyReconciliationResult := do
  let intent ← validateChain hashing authorization stageEvidence stage plan preconditions
  match plan.operations[operationIndex]? with
  | none => reject "operation index is invalid"
  | some operation =>
    let decision ← query "Unable to discover live Apply progress"
      (discoverLiveApplyRecovery hashing plan)
    let persisted ← query "Unable to read live Apply progress"
      (loadLiveApplyProgress hashing intent.deploymentId operationIndex)
    match persisted, decision with
    | none, _ => reject "live Apply reconciliation progress is missing"
    | some row, .complete => replayedReconciliation row.progress
    | some row, .blocked index _ =>
      if index = operationIndex then replayedReconciliation row.progress
      else reject "operation is not the uncertain live Apply action"
    | some _, .startNext _ _ => reject "operation is not the uncertain live Apply action"
    | some row, .reconcileUncertain index _ =>
      require (index = operationIndex)
        ⟨.reconciliationError, "operation is not the uncertain live Apply action"⟩
      let outcome ← uncertainOutcome hashing stage preconditions.root operation row.progress
      finishReconciliation hashing row.progress plan outcome

end LiveApplyReconciliation

namespace LiveApplyController

open LiveApplyJournal

def reject {α : Type} (message : String) : App α := throw ⟨.controllerError, message⟩

/-- The action a call has taken. -/
inductive LiveApplyControllerResult where
  | complete
  | operationVerified (operationIndex : Nat) (operationPathSha256 : Digest) (replayed : Bool)
  | reconciled (operationIndex : Nat) (operationPathSha256 : Digest) (replayed : Bool)
  | blocked (operationIndex : Nat) (operationPathSha256 : Digest)
      (reconciliationOutcome : Option ReconciliationOutcome) (replayed : Bool)

/-- `_validate_chain`. -/
def validateChain (authorization : ApplyAuthorization) (stageEvidence : StagePrewriteEvidence)
    (stage : CandidateStage) (plan : LiveApplyPlan)
    (preconditions : LiveApplyPreconditionEvidence) : App Unit := do
  let (intent, persisted) ← orRaise (do
    let intent ← ofResult (LiveApplyIntents.deriveLiveApplyIntent hashing authorization
      stageEvidence plan preconditions)
    let persisted ← query "Unable to read live Apply intent"
      (loadLiveApplyIntent · intent.deploymentId)
    return (intent, persisted))
    ⟨.controllerError, "live Apply controller evidence chain is invalid"⟩
  match persisted with
  | none => reject "live Apply controller intent is missing"
  | some persisted =>
    require ((stage.target, stage.repositoryId, stage.branch, stage.commitSha,
        stage.manifestSha256) = (intent.target, intent.repositoryId, text "candidate",
        intent.candidateSha, intent.stageManifestSha256))
      ⟨.controllerError, "live Apply controller Stage binding mismatch"⟩
    require (persisted.intent = intent)
      ⟨.controllerError, "live Apply controller intent binding mismatch"⟩

/-- The index a decision names is one of the plan. -/
def requireIndex (plan : LiveApplyPlan) (operationIndex : Nat) : App Unit :=
  require (operationIndex < plan.operations.length)
    ⟨.controllerError, "live Apply recovery decision is invalid"⟩

/-- `advance_live_apply_once`. -/
def advanceLiveApplyOnce (authorization : ApplyAuthorization)
    (stageEvidence : StagePrewriteEvidence) (stage : CandidateStage) (plan : LiveApplyPlan)
    (preconditions : LiveApplyPreconditionEvidence) : App LiveApplyControllerResult := do
  validateChain hashing authorization stageEvidence stage plan preconditions
  let decision ← orRaise (query "Unable to discover live Apply progress"
    (discoverLiveApplyRecovery hashing plan))
    ⟨.controllerError, "live Apply recovery state is invalid"⟩
  match decision with
  | .complete => return .complete
  | .startNext operationIndex _ =>
    requireIndex plan operationIndex
    let result ← orRaise (LiveApplyWriter.applyLiveOperation hashing authorization stageEvidence
      stage plan preconditions operationIndex)
      ⟨.controllerError, "live Apply operation failed"⟩
    return .operationVerified result.operationIndex result.operationPathSha256 result.replayed
  | .reconcileUncertain operationIndex _ =>
    requireIndex plan operationIndex
    let result ← orRaise (LiveApplyReconciliation.reconcileLiveApplyOperation hashing authorization
      stageEvidence stage plan preconditions operationIndex)
      ⟨.controllerError, "live Apply reconciliation failed"⟩
    if result.outcome = .applied then
      return .reconciled result.operationIndex result.operationPathSha256 result.replayed
    else
      return .blocked result.operationIndex result.operationPathSha256 (some result.outcome)
        result.replayed
  | .blocked operationIndex operationPathSha256 =>
    requireIndex plan operationIndex
    let record ← orRaise (query "Unable to read live Apply reconciliation outcome" fun db =>
        .ok (reconciliationRow db plan.deploymentId operationIndex))
      ⟨.controllerError, "live Apply blocked state is invalid"⟩
    match record with
    | none => return .blocked operationIndex operationPathSha256 none true
    | some record =>
      require (record.outcome ≠ .applied)
        ⟨.controllerError, "live Apply blocked state is inconsistent"⟩
      return .blocked operationIndex operationPathSha256 (some record.outcome) true

end LiveApplyController

end SyncApp
