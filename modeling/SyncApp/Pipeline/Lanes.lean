import Mathlib.Data.List.Sort
import SyncApp.Pipeline.Promotion
import SyncApp.Pipeline.Rollback

/-!
# The lanes of a finalized deployment

`candidate_finalize` work decides the outcome of a deployment and schedules one successor for it: a
promotion, or a rollback that is authorized and then carried out as `deployment_rollback` work. Each
lane makes bounded passes: it takes up what was interrupted, claims one item, executes it, and books
what went wrong as a retry or as blocked.

A rollback is carried out poll by poll. Every poll that does not end it counts as a failed attempt,
and the work of a rollback has as many attempts as any other work.
-/

set_option autoImplicit false

namespace SyncApp

open Lib Raising Lane

/-! ## A pass -/

/-- The first transaction of a pass: what is left running is taken up, and one item claimed. -/
def claimLane (workKind : WorkKind) (now : Int) (store : Store) :
    Except Failure (Option WorkItem × Store) :=
  claimWorkKind workKind now (recoverInterruptedWork (fun kind => kind = workKind) now store)

/-- `fail_work`, whose own failure is suppressed. -/
def suppressedFailWork (item : WorkItem) (transient : Bool) (now : Int) : Lane Unit :=
  tryCatch (do
    let _ ← transaction (failWork item transient now)
    return ()) fun _ => pure ()

/-- A claimed item that is executed; the item it ends with must be the durable one. -/
def executeClaimed (workKind : WorkKind) (failedClosed : String) (executor : WorkItem → Lane WorkItem)
    (item : WorkItem) (now : Int) : Lane Unit :=
  tryCatch (do
    let finished ← executor item
    let current ← rethrow (query (Store.getWork · workKind item.workKey)) fun _ =>
      ⟨failedClosed, false⟩
    ensure (finished = current ∧ current.status = .succeeded) ⟨failedClosed, false⟩)
    fun failure => do
      suppressedFailWork item failure.transient now
      throw ⟨failedClosed, failure.transient⟩

/-- One pass of a lane. -/
def runLanePass (workKind : WorkKind) (failedClosed : String) (executor : WorkItem → Lane WorkItem)
    (now : Int) : Lane (Option WorkItem) := do
  let claimed : Option WorkItem ← rethrow (transaction (claimLane workKind now)) fun _ =>
    ⟨failedClosed, false⟩
  match claimed with
  | none => return none
  | some item => do
    executeClaimed workKind failedClosed executor item now
    return some item

/-- `UPDATE work SET status='succeeded' … WHERE status='running' AND attempts=?`. -/
def succeedWork (item : WorkItem) (now : Int) (failure : Failure) (store : Store) :
    Except Failure Store :=
  match store.updateWork { item with status := .running } fun current =>
      { current with status := .succeeded, updatedAt := now, nextAttemptAt := none } with
  | some store => .ok store
  | none => .error failure

/-! ## Finalization -/

def finalizationFailedClosed (transient : Bool) : Failure :=
  ⟨"Candidate deployment finalization failed closed", transient⟩

/-- The successor that `_route` gives an outcome. -/
def successorKind : DeploymentOutcome → WorkKind
  | .success => .candidatePromote
  | .failure _ => .candidateRollback

/-- The transaction of `candidate_finalization_execution._finish`. -/
def finishFinalization (item : WorkItem) (plan : PostDeploymentAssertionPlan)
    (finalized : DeploymentFinalization) (now : Int) (store : Store) :
    Except Failure (Unit × Store) := do
  let current ← loadPlan store item.workKey
  let record : Option DeploymentFinalization ← loadDeploymentFinalization store current
  match record with
  | none => .error (finalizationFailedClosed false)
  | some record =>
    if current ≠ plan ∨ record.outcome ≠ finalized.outcome ∨
        record.chain.length ≠ finalized.chain.length then
      .error (finalizationFailedClosed false)
    else if store.work.any fun other => other.workKey = item.workKey ∧
        (other.workKind = .candidatePromote ∨ other.workKind = .candidateRollback) then
      .error (finalizationFailedClosed false)
    else do
      let scheduled ← store.insertWork
        (Store.pendingWork (successorKind finalized.outcome) item.workKey now)
      let settled ← succeedWork item now (finalizationFailedClosed false) scheduled
      return ((), settled)

/-- `execute_candidate_finalization_once`. -/
def executeCandidateFinalizationOnce (item : WorkItem) (now : Int) : Lane WorkItem := do
  ensure (item.workKind = .candidateFinalize ∧ item.status = .running ∧ 1 ≤ item.attempts)
    (finalizationFailedClosed false)
  rethrow (do
    let plan : PostDeploymentAssertionPlan ← query (loadPlan · item.workKey)
    let finalized : DeploymentFinalization ← finalizeDeploymentOnce plan now
    transaction (finishFinalization item plan finalized now)
    let work ← query (Store.getWork · item.workKind item.workKey)
    let successor ← query (Store.getWork · (successorKind finalized.outcome) item.workKey)
    ensure (work.status = .succeeded ∧ successor.status = .pending)
      (finalizationFailedClosed false)
    return work)
    fun failure => finalizationFailedClosed failure.transient

/-- `run_candidate_finalization_retrigger_pass`. -/
def runCandidateFinalizationRetriggerPass (referenceTime : Option Int) : Lane (Option WorkItem) := do
  let now ← moment referenceTime
  runLanePass .candidateFinalize "candidate deployment finalization failed closed"
    (fun item => executeCandidateFinalizationOnce item now) now

/-! ## Promotion -/

/-- `run_candidate_promotion_retrigger_pass`. -/
def runCandidatePromotionRetriggerPass (git : Git) (credential : PublicationCredential)
    (referenceTime : Option Int) : Lane (Option WorkItem) := do
  let now ← moment referenceTime
  runLanePass .candidatePromote "candidate promotion failed closed"
    (fun item => executeCandidatePromotionOnce git credential item now) now

/-! ## Authorization of a rollback -/

/-- `DeploymentRollbackRetriggerError`. -/
def retriggerError (message : String) : Failure := ⟨message, false⟩

/-- `load_rollback_recovery_plan`. -/
def loadRollbackRecoveryPlan (store : Store) (rollback : DeploymentRollback) :
    Except Failure PostDeploymentAssertionPlan :=
  match store.recoveryAuthorities.find? (·.deploymentId = rollback.deploymentId) with
  | none => .error (retriggerError "rollback recovery authority is unavailable")
  | some plan =>
    if plan.candidateSha ≠ rollback.candidateSha ∨
        (store.preparedDeployment rollback.deploymentId).map (·.candidateSha) ≠
          some rollback.candidateSha then
      .error (retriggerError "rollback recovery authority is invalid")
    else .ok plan

/-- What the execution of `candidate_rollback` work takes for transient: the message alone says
so. -/
def rollbackAuthorizationFailed (failure : Failure) : Failure :=
  ⟨"Candidate rollback authorization failed closed",
    failure.message ∈ ["repository proof is unavailable", "backup proof is unavailable"]⟩

/-- The transaction of `candidate_rollback_execution._finish`. -/
def finishRollbackAuthorization (item : WorkItem) (plan : PostDeploymentAssertionPlan) (now : Int)
    (store : Store) : Except Failure (Unit × Store) := do
  let current ← loadPlan store item.workKey
  let intent : Option DeploymentRollback ← loadDeploymentRollback store current
  match intent with
  | none => .error (retriggerError "Candidate rollback authorization failed closed")
  | some intent =>
    if current ≠ plan then
      .error (retriggerError "Candidate rollback authorization failed closed")
    else do
      let recovered ← loadRollbackRecoveryPlan store intent
      if recovered ≠ current then
        .error (retriggerError "Candidate rollback authorization failed closed")
      else do
        let settled ← succeedWork item now
          (retriggerError "Candidate rollback authorization failed closed") store
        return ((), settled)

/-- `execute_candidate_rollback_once`. -/
def executeCandidateRollbackOnce (access : RollbackAccess) (item : WorkItem) (now : Int) :
    Lane WorkItem := do
  ensure (item.workKind = .candidateRollback ∧ item.status = .running ∧ 1 ≤ item.attempts)
    (retriggerError "Candidate rollback authorization failed closed")
  rethrow (do
    let plan : PostDeploymentAssertionPlan ← query (loadPlan · item.workKey)
    let authorized : RollbackAuthorizationResult ←
      authorizeDeploymentRollbackOnce access plan (some now)
    ensure (authorized.intent.deploymentId = item.workKey ∧
      authorized.status = authorized.intent.phase)
      (retriggerError "Candidate rollback authorization failed closed")
    transaction (finishRollbackAuthorization item plan now)
    let work ← query (Store.getWork · item.workKind item.workKey)
    ensure (work.status = .succeeded)
      (retriggerError "Candidate rollback authorization failed closed")
    return work)
    rollbackAuthorizationFailed

/-- `run_candidate_rollback_retrigger_pass`. -/
def runCandidateRollbackRetriggerPass (access : RollbackAccess) (referenceTime : Option Int) :
    Lane (Option WorkItem) := do
  let now ← moment referenceTime
  runLanePass .candidateRollback "candidate rollback authorization failed closed"
    (fun item => executeCandidateRollbackOnce access item now) now

/-! ## A rollback, poll by poll -/

/-- The phases of a rollback that discovery looks for. -/
def RollbackPhase.retryable : RollbackPhase → Bool
  | .planned | .restoreStarted | .restoreAcknowledged | .uncertain | .observing => true
  | .completed | .blocked => false

def maxDiscoveredRollbacks : Nat := 32

/-- `ORDER BY updated_at, deployment_id`. -/
def DeploymentRollback.listedBefore (first second : DeploymentRollback) : Prop :=
  first.updatedAt < second.updatedAt ∨
    first.updatedAt = second.updatedAt ∧ ¬second.deploymentId < first.deploymentId

instance (first second : DeploymentRollback) : Decidable (first.listedBefore second) :=
  inferInstanceAs (Decidable (_ ∨ _))

/-- `list_retryable_rollbacks`. -/
def listRetryableRollbacks (store : Store) : List DeploymentRollback :=
  ((store.rollbacks.filter (·.phase.retryable)).insertionSort
    DeploymentRollback.listedBefore).take maxDiscoveredRollbacks

/-- Running work of these deployments is taken up. -/
def recoverInterruptedRollbackWork (deploymentIds : List PyStr) (now : Int) (store : Store) : Store :=
  { store with
    work := store.work.map fun item =>
      if item.workKind = .deploymentRollback ∧ item.status = .running ∧
          item.workKey ∈ deploymentIds then
        { item with status := .retry, updatedAt := now, nextAttemptAt := some now }
      else item }

/-- Each discovered rollback has its work. -/
def enqueueRollbacks (now : Int) : List PyStr → Lane Unit
  | [] => pure ()
  | deploymentId :: deploymentIds => do
    let _ ← transaction (enqueueWork .deploymentRollback deploymentId now)
    enqueueRollbacks now deploymentIds

/-- `_claim_discovered_work`. -/
def claimDiscoveredWork (pending : List DeploymentRollback) (now : Int) :
    Lane (Option (WorkItem × DeploymentRollback)) := do
  let deploymentIds := (pending.map (·.deploymentId)).insertionSort fun first second =>
    ¬second < first
  enqueueRollbacks now deploymentIds
  transaction fun store => .ok ((), recoverInterruptedRollbackWork deploymentIds now store)
  let claimed : Option WorkItem ← transaction (claimWorkKind .deploymentRollback now)
  match claimed with
  | none => return none
  | some item => discovered pending now item
where
  /-- The rollback a claimed item is for. -/
  discovered (pending : List DeploymentRollback) (now : Int) (item : WorkItem) :
      Lane (Option (WorkItem × DeploymentRollback)) :=
    match pending.find? (·.deploymentId = item.workKey) with
    | some rollback => return some (item, rollback)
    | none => do
      let _ ← transaction (failWork item false now)
      throw (retriggerError "claimed rollback work has no durable authority")

/-- `next_retry_at`. -/
def nextRetryAt (rollback : DeploymentRollback) : Int :=
  rollback.updatedAt + 60 * (min 60 (2 ^ min rollback.attemptCount 5) : Nat)

/-- `rollback_requires_reconciliation`. -/
def rollbackRequiresReconciliation (rollback : DeploymentRollback) : Bool :=
  rollback.phase = .restoreStarted ∨ rollback.phase = .restoreAcknowledged ∨
    rollback.phase = .uncertain

section

variable (fromisoformat : String → Option DateTime) (access : RollbackAccess)

/-- A call of a rollback under the plan its authority gives back, with `_domain_error`. -/
def underRecoveryPlan (rollback : DeploymentRollback) (failedClosed : String)
    (call : PostDeploymentAssertionPlan → Lane RollbackRestoreResult) :
    Lane RollbackRestoreResult := do
  let plan ← query (loadRollbackRecoveryPlan · rollback)
  rethrow (call plan) fun failure => ⟨failedClosed, failure.transient⟩

/-- `reconcile_pending_rollback`. -/
def reconcilePendingRollback (rollback : DeploymentRollback) (observedAt : Int) :
    Lane RollbackRestoreResult :=
  underRecoveryPlan rollback "rollback reconciliation failed closed" fun plan =>
    reconcileDeploymentRestoreOnce fromisoformat access plan (some observedAt)

/-- `execute_rollback_restore`. -/
def executeRollbackRestore (rollback : DeploymentRollback) (attemptedAt : Int) :
    Lane RollbackRestoreResult :=
  underRecoveryPlan rollback "rollback restore execution failed closed" fun plan =>
    requestDeploymentRestoreOnce access plan (some attemptedAt)

/-- `complete_rollback_observation`. -/
def completeRollbackObservation (rollback : DeploymentRollback) (observedAt : Int) :
    Lane RollbackRestoreResult :=
  underRecoveryPlan rollback "rollback observation completion failed closed" fun plan =>
    completeDeploymentRollbackOnce access plan (some observedAt)

/-- What a poll does with a claimed rollback; nothing where its retry is not due. -/
def pollRollback (rollback : DeploymentRollback) (now : Int) : Lane (Option RollbackRestoreResult) :=
  if rollback.phase = .observing then
    if now < nextRetryAt rollback then return none
    else return some (← completeRollbackObservation access rollback now)
  else if rollbackRequiresReconciliation rollback then
    return some (← reconcilePendingRollback fromisoformat access rollback now)
  else if now < nextRetryAt rollback then return none
  else return some (← executeRollbackRestore access rollback now)

/-- How a poll is booked on the work: what did not end the rollback is a failed attempt. -/
def settleRollbackPoll (item : WorkItem) (now : Int) (outcome : Option RollbackRestoreResult) :
    Lane WorkItem :=
  match outcome with
  | none => transaction (failWork item true now)
  | some outcome =>
    if outcome.status = .blocked ∨ outcome.status = .ambiguous then
      transaction (failWork item false now)
    else if outcome.status ≠ .completed then transaction (failWork item true now)
    else transaction (completeWork item now)

/-- A claimed rollback. -/
def runClaimedRollback (item : WorkItem) (rollback : DeploymentRollback) (now : Int) :
    Lane WorkItem := do
  let outcome ← tryCatch (pollRollback fromisoformat access rollback now) fun failure => do
    let _ ← transaction (failWork item failure.transient now)
    throw failure
  settleRollbackPoll item now outcome

/-- `_validate_token` of a pass. -/
def validatePassToken (token : Option String) (name : String) : Except Failure Unit :=
  match token with
  | some value =>
    if value = "" ∨ 512 < value.length ∨ value.toList.any isSpace then
      .error (retriggerError ("invalid " ++ name))
    else .ok ()
  | none => .error (retriggerError ("invalid " ++ name))

/-- The credentials of a pass: a token for the reader, or an authority alone. -/
def validatePassAccess : Except Failure Unit := do
  if access.hasAuthority then
    if access.githubToken ≠ none ∨ access.hasReader then
      .error (retriggerError "rollback repository requires exactly one transport authority")
  else validatePassToken access.githubToken "GitHub token"
  validatePassToken access.supervisorToken "Core token"

/-- What a pass hands on: without an authority there is always a reader. -/
def passAccess : RollbackAccess :=
  { access with
    hasReader := !access.hasAuthority, timeoutSeconds := 60, maxResponseBytes := 64 * 1024 }

/-- `run_deployment_rollback_retrigger_pass`. -/
def runDeploymentRollbackRetriggerPass (target : PyStr) (referenceTime : Int) :
    Lane (Option PyStr) := do
  ensure (slash ∈ target) (retriggerError "invalid target")
  let pending ← query fun store => .ok (listRetryableRollbacks store)
  if pending = [] then return none
  else do
    ofResult (validatePassAccess access)
    let claimed ← claimDiscoveredWork pending referenceTime
    match claimed with
    | none => return none
    | some (item, rollback) => do
      let _ ← runClaimedRollback fromisoformat (passAccess access) item rollback referenceTime
      return some rollback.deploymentId

end

/-! ## Administration -/

/-- The transaction of `retry_blocked_work`. -/
def retryBlockedWork (workKind : WorkKind) (workKey : PyStr) (now : Int) (store : Store) :
    Except Failure (WorkItem × Store) :=
  match store.findWork workKind workKey with
  | none => .error (stateFailure "administrative retry work item does not exist")
  | some blocked =>
    if blocked.status ≠ .blocked then
      .error (stateFailure "only blocked work can be administratively retried")
    else
      let retried := { blocked with
        status := .pending, attempts := 0, updatedAt := now, nextAttemptAt := some now }
      match store.updateWork blocked fun _ => retried with
      | none => .error (stateFailure "administrative retry work item changed unexpectedly")
      | some store => .ok (retried, store)

end SyncApp
