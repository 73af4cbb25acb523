import SyncApp.LiveApply.Host

/-!
# The journal of a live Apply

Progress rows, mutation guards and reconciliation outcomes, with the checks each read and each
write makes. A read of the database is a function of it, and the body of a transaction is a
function that returns the changed database; the programs over them add the clock and the second
read that confirms an insert.

`SELECT … ORDER BY operation_index` sorts; primary keys are what the inserts check.
-/

set_option autoImplicit false

namespace SyncApp

open Lib Raising App

namespace LiveApplyJournal

variable (hashing : Hashing)

def stateError (message : String) : PyError := ⟨.stateError, message⟩

def invalidRecord {α : Type} : Except PyError α :=
  .error (stateError "Invalid live Apply progress record")

/-! ## Intents -/

/-- `str(UUID(value)) == value`: lower-case hexadecimal in groups of 8, 4, 4, 4 and 12. -/
def validDeploymentId (value : PyStr) : Bool :=
  value.length = 36 && (List.range 36).all fun index =>
    match value[index]? with
    | none => false
    | some c => if index = 8 ∨ index = 13 ∨ index = 18 ∨ index = 23 then c = 45
      else (48 ≤ c && c ≤ 57) || (97 ≤ c && c ≤ 102)

/-- `record_sha256` of an intent row. -/
def recordSha256 (persisted : PersistedLiveApplyIntent) : Digest :=
  hashing.intentRecordSha256 persisted.intent persisted.recordedAt

/-- An intent still agrees with the pinned repository and with its prepared deployment. -/
def loadLiveApplyIntent (db : Database) (deploymentId : PyStr) :
    Except PyError (Option PersistedLiveApplyIntent) :=
  if !validDeploymentId deploymentId then
    .error (stateError "Invalid live Apply intent identity")
  else
    match db.intents.find? (·.intent.deploymentId = deploymentId) with
    | none => .ok none
    | some persisted =>
      let intent := persisted.intent
      let evidence : PreparedEvidence := ⟨intent.target, intent.repositoryId, intent.baselineSha,
        intent.candidateSha, intent.stageManifestSha256, intent.backupSlug⟩
      if db.repositoryId intent.target = some intent.repositoryId ∧
          db.preparedDeployment deploymentId = some evidence then .ok (some persisted)
      else .error (stateError "Invalid live Apply intent record")

/-! ## Progress -/

/-- `live_apply_plan_operations_sha256`. -/
def planOperationsSha256 (plan : LiveApplyPlan) : Except PyError Digest := do
  snapshotOperations ⟨.progressError, "Apply plan operations are invalid"⟩
    ⟨.progressError, "Apply plan operations are not deterministically ordered"⟩ none plan.operations
  return hashing.operationsSha256 plan.operations

def validateProgressPlanBinding (progress : LiveApplyProgress) (plan : LiveApplyPlan) :
    Except PyError Unit := do
  if progress.deploymentId ≠ plan.deploymentId then
    .error ⟨.progressError, "Apply plan deployment binding does not match progress"⟩
  else
    let operationsSha256 ← planOperationsSha256 hashing plan
    if operationsSha256 ≠ progress.operationsSha256 then
      .error ⟨.progressError, "operations binding does not match Apply plan"⟩
    else
      match plan.operations[progress.operationIndex]? with
      | none => .error ⟨.progressError, "operation index is invalid"⟩
      | some operation =>
        if hashing.pathSha256 operation.path ≠ progress.operationPathSha256 then
          .error ⟨.progressError, "operation path binding does not match Apply plan"⟩
        else .ok ()

def startLiveApplyProgress (intent : LiveApplyIntent) (intentRecordSha256 : Digest)
    (plan : LiveApplyPlan) (operationIndex : Nat) : Except PyError LiveApplyProgress := do
  if (plan.deploymentId, plan.target, plan.repositoryId, plan.baselineSha, plan.candidateSha,
      plan.stageManifestSha256) ≠ (intent.deploymentId, intent.target, intent.repositoryId,
      intent.baselineSha, intent.candidateSha, intent.stageManifestSha256) then
    .error ⟨.progressError, "Apply plan binding does not match live Apply intent"⟩
  else
    let operationsSha256 ← planOperationsSha256 hashing plan
    if operationsSha256 ≠ intent.operationsSha256 then
      .error ⟨.progressError, "operations binding does not match live Apply intent"⟩
    else
      match plan.operations[operationIndex]? with
      | none => .error ⟨.progressError, "operation index is invalid"⟩
      | some operation =>
        let progress : LiveApplyProgress := ⟨intent.deploymentId, intentRecordSha256,
          operationsSha256, operationIndex, hashing.pathSha256 operation.path, .mutationStarted⟩
        validateProgressPlanBinding hashing progress plan
        return progress

/-- `_ALLOWED_TRANSITIONS`: only `mutation_started` can become something else. -/
def transitionLiveApplyProgress (current : LiveApplyProgress) (destination : ProgressPhase) :
    Except PyError LiveApplyProgress :=
  if current.phase = .mutationStarted ∨ destination = current.phase then
    .ok { current with phase := destination }
  else .error ⟨.progressError, "progress transition is not permitted"⟩

/-! ## The progress store -/

/-- A progress error raised inside the store is a state error with its text. -/
def asStateError {α : Type} : Except PyError α → Except PyError α
  | .ok result => .ok result
  | .error error => match error.kind with
    | .progressError => .error (stateError error.message)
    | _ => .error error

def revalidatePlanIdentity (db : Database) (plan : LiveApplyPlan) :
    Except PyError PersistedLiveApplyIntent := do
  match ← loadLiveApplyIntent db plan.deploymentId with
  | none => .error (stateError "Live Apply progress requires matching durable intent")
  | some persisted =>
    let intent := persisted.intent
    if (plan.deploymentId, plan.target, plan.repositoryId, plan.baselineSha, plan.candidateSha,
        plan.stageManifestSha256) ≠ (intent.deploymentId, intent.target, intent.repositoryId,
        intent.baselineSha, intent.candidateSha, intent.stageManifestSha256) then
      .error (stateError "Live Apply progress Apply plan binding mismatch")
    else
      let operationsSha256 ← asStateError (planOperationsSha256 hashing plan)
      if operationsSha256 ≠ intent.operationsSha256 then
        .error (stateError "Live Apply progress durable intent binding mismatch")
      else return persisted

def revalidatePlanBinding (db : Database) (progress : LiveApplyProgress) (plan : LiveApplyPlan) :
    Except PyError Unit := do
  let persisted ← revalidatePlanIdentity hashing db plan
  if persisted.intent.deploymentId ≠ progress.deploymentId ∨
      recordSha256 hashing persisted ≠ progress.intentRecordSha256 ∨
      persisted.intent.operationsSha256 ≠ progress.operationsSha256 then
    .error (stateError "Live Apply progress durable intent binding mismatch")
  else asStateError (validateProgressPlanBinding hashing progress plan)

def revalidateIntentBinding (db : Database) (progress : LiveApplyProgress) :
    Except PyError Unit := do
  match ← loadLiveApplyIntent db progress.deploymentId with
  | none => .error (stateError "Live Apply progress requires matching durable intent")
  | some persisted =>
    if recordSha256 hashing persisted ≠ progress.intentRecordSha256 ∨
        persisted.intent.operationsSha256 ≠ progress.operationsSha256 then
      .error (stateError "Live Apply progress durable intent binding mismatch")
    else return ()

/-- `_parse_and_revalidate` over the rows of a query. -/
def revalidateRows (db : Database) : List PersistedLiveApplyProgress → Except PyError Unit
  | [] => .ok ()
  | row :: rows => do
    revalidateIntentBinding hashing db row.progress
    revalidateRows db rows

def selectProgressRow (db : Database) (deploymentId : PyStr) (operationIndex : Nat) :
    Option PersistedLiveApplyProgress :=
  db.progress.find? fun row =>
    row.progress.deploymentId = deploymentId ∧ row.progress.operationIndex = operationIndex

/-- The rows of a deployment, `ORDER BY operation_index`. -/
def progressRows (db : Database) (deploymentId : PyStr) : List PersistedLiveApplyProgress :=
  (db.progress.filter fun row => row.progress.deploymentId = deploymentId).insertionSort
    fun first second => first.progress.operationIndex ≤ second.progress.operationIndex

def maxDiscoverableProgress : Nat := 4096

def selectProgressRows (db : Database) (deploymentId : PyStr) :
    Except PyError (List PersistedLiveApplyProgress) :=
  if maxDiscoverableProgress < (progressRows db deploymentId).length then
    .error (stateError "Live Apply progress discovery exceeds the limit")
  else .ok (progressRows db deploymentId)

/-- The rows count up from an index, and every one but the last is verified. -/
def contiguousFrom (index : Nat) : List PersistedLiveApplyProgress → Bool
  | [] => true
  | [row] => row.progress.operationIndex = index
  | row :: rows => row.progress.operationIndex = index && row.progress.phase = .mutationVerified &&
    contiguousFrom (index + 1) rows

def validateContiguousHistory (rows : List PersistedLiveApplyProgress) : Except PyError Unit :=
  if contiguousFrom 0 rows then .ok () else invalidRecord

/-- `_same_operation`: everything but the phase and the time. -/
def sameOperation (left right : LiveApplyProgress) : Bool :=
  { left with phase := right.phase } = right

/-- The body of `record_live_apply_progress`'s transaction; the flag says that a row was added. -/
def progressTransaction (requested : PersistedLiveApplyProgress) (plan : LiveApplyPlan)
    (db : Database) : Except PyError ((PersistedLiveApplyProgress × Bool) × Database) := do
  let progress := requested.progress
  revalidatePlanBinding hashing db progress plan
  match selectProgressRow db progress.deploymentId progress.operationIndex with
  | some existing =>
    revalidateIntentBinding hashing db existing.progress
    if !sameOperation existing.progress progress then
      .error (stateError "Live Apply progress cannot be rebound")
    else if existing.progress.phase = progress.phase then return ((existing, false), db)
    else
      let transitioned ← asStateError (transitionLiveApplyProgress existing.progress progress.phase)
      let replacement : PersistedLiveApplyProgress := ⟨transitioned, requested.updatedAt⟩
      return ((replacement, false), { db with
        progress := db.progress.map fun row => if row = existing then replacement else row })
  | none =>
    if progress.phase ≠ .mutationStarted then
      .error (stateError "New live Apply progress must start before mutation")
    else
      let prior ← selectProgressRows db progress.deploymentId
      revalidateRows hashing db prior
      validateContiguousHistory prior
      if progress.operationIndex ≠ prior.length then
        .error (stateError "Live Apply progress operations must be contiguous")
      else if prior.getLast?.any fun last => last.progress.phase ≠ .mutationVerified then
        .error (stateError "Live Apply progress previous operation is not verified")
      else return ((requested, true), { db with progress := db.progress ++ [requested] })

def loadLiveApplyProgress (deploymentId : PyStr) (operationIndex : Nat) (db : Database) :
    Except PyError (Option PersistedLiveApplyProgress) :=
  if !validDeploymentId deploymentId then
    .error (stateError "Invalid live Apply progress identity")
  else
    match selectProgressRow db deploymentId operationIndex with
    | none => .ok none
    | some row => do
      revalidateIntentBinding hashing db row.progress
      return some row

def recordLiveApplyProgress (progress : LiveApplyProgress) (plan : LiveApplyPlan) :
    App PersistedLiveApplyProgress := do
  query "Unable to read live Apply intent" fun db => revalidatePlanBinding hashing db progress plan
  let when ← onHost Sys.now
  let requested : PersistedLiveApplyProgress := ⟨progress, when⟩
  let (recorded, added) ← transaction "Unable to persist live Apply progress"
    (progressTransaction hashing requested plan)
  if added then
    let loaded ← query "Unable to read live Apply progress"
      (loadLiveApplyProgress hashing progress.deploymentId progress.operationIndex)
    require (loaded = some requested) (stateError "Live Apply progress was not persisted")
    return requested
  else return recorded

def discoverLiveApplyProgress (deploymentId : PyStr) (db : Database) :
    Except PyError (List PersistedLiveApplyProgress) :=
  if !validDeploymentId deploymentId then
    .error (stateError "Invalid live Apply progress identity")
  else do
    let rows ← selectProgressRows db deploymentId
    revalidateRows hashing db rows
    validateContiguousHistory rows
    return rows

/-- The only safe next action of an Apply. -/
inductive LiveApplyRecoveryDecision where
  | complete
  | startNext (operationIndex : Nat) (operationPathSha256 : Digest)
  | reconcileUncertain (operationIndex : Nat) (operationPathSha256 : Digest)
  | blocked (operationIndex : Nat) (operationPathSha256 : Digest)
deriving DecidableEq

def revalidatePlanBindings (db : Database) (plan : LiveApplyPlan) :
    List PersistedLiveApplyProgress → Except PyError Unit
  | [] => .ok ()
  | row :: rows => do
    revalidatePlanBinding hashing db row.progress plan
    revalidatePlanBindings db plan rows

/-- The action once so many operations are verified. -/
def nextAction (plan : LiveApplyPlan) (verified : Nat) : LiveApplyRecoveryDecision :=
  match plan.operations[verified]? with
  | none => .complete
  | some operation => .startNext verified (hashing.pathSha256 operation.path)

def discoverLiveApplyRecovery (plan : LiveApplyPlan) (db : Database) :
    Except PyError LiveApplyRecoveryDecision := do
  let persisted ← revalidatePlanIdentity hashing db plan
  let records ← discoverLiveApplyProgress hashing persisted.intent.deploymentId db
  revalidatePlanBindings hashing db plan records
  if plan.operations.length < records.length then invalidRecord
  else
    match records.getLast? with
    | none => return nextAction hashing plan records.length
    | some current =>
      let index := current.progress.operationIndex
      let path := current.progress.operationPathSha256
      match current.progress.phase with
      | .mutationStarted => return .reconcileUncertain index path
      | .blocked => return .blocked index path
      | .mutationVerified => return nextAction hashing plan records.length

/-! ## Guards and reconciliation outcomes -/

/-- `_validate_context`: the operation of the plan is started and nothing more. -/
def validateContext (progress : LiveApplyProgress) (plan : LiveApplyPlan) (db : Database) :
    Except PyError Unit := do
  match validateProgressPlanBinding hashing progress plan with
  | .error _ => .error (stateError "Invalid live Apply reconciliation plan binding")
  | .ok () =>
    match ← loadLiveApplyProgress hashing progress.deploymentId progress.operationIndex db with
    | some persisted =>
      if persisted.progress = progress ∧ persisted.progress.phase = .mutationStarted then return ()
      else .error (stateError "Live Apply reconciliation requires mutation-started progress")
    | none => .error (stateError "Live Apply reconciliation requires mutation-started progress")

def guardRow (db : Database) (deploymentId : PyStr) (operationIndex : Nat) :
    Option LiveApplyMutationGuard :=
  db.guards.find? fun row =>
    row.deploymentId = deploymentId ∧ row.operationIndex = operationIndex

def guardTransaction (record : LiveApplyMutationGuard) (db : Database) :
    Except PyError (Bool × Database) :=
  match guardRow db record.deploymentId record.operationIndex with
  | some existing =>
    if existing ≠ record then .error (stateError "Live Apply mutation guard cannot be rebound")
    else .ok (false, db)
  | none => .ok (true, { db with guards := db.guards ++ [record] })

def recordLiveApplyMutationGuard (progress : LiveApplyProgress) (plan : LiveApplyPlan)
    (rootIdentity : Nat) (parentIdentities : List Nat) : App LiveApplyMutationGuard := do
  query "Unable to read live Apply progress" (validateContext hashing progress plan)
  let when ← onHost Sys.now
  let record : LiveApplyMutationGuard := ⟨progress.deploymentId, progress.operationIndex,
    progress.intentRecordSha256, progress.operationsSha256, progress.operationPathSha256,
    rootIdentity, parentIdentities, when⟩
  let added ← transaction "Unable to persist live Apply mutation guard" (guardTransaction record)
  if added then
    let loaded ← query "Unable to read live Apply mutation guard" fun db =>
      .ok (guardRow db record.deploymentId record.operationIndex)
    require (loaded = some record) (stateError "Live Apply mutation guard was not persisted")
    return record
  else return record

def reconciliationRow (db : Database) (deploymentId : PyStr) (operationIndex : Nat) :
    Option LiveApplyReconciliationRecord :=
  db.reconciliations.find? fun row =>
    row.deploymentId = deploymentId ∧ row.operationIndex = operationIndex

def reconciliationTransaction (record : LiveApplyReconciliationRecord) (db : Database) :
    Except PyError (LiveApplyReconciliationRecord × Database) :=
  match reconciliationRow db record.deploymentId record.operationIndex with
  | some existing =>
    if existing.outcome ≠ record.outcome then
      .error (stateError "Live Apply reconciliation outcome cannot be changed")
    else .ok (existing, db)
  | none => .ok (record, { db with reconciliations := db.reconciliations ++ [record] })

def recordLiveApplyReconciliation (progress : LiveApplyProgress) (plan : LiveApplyPlan)
    (outcome : ReconciliationOutcome) : App LiveApplyReconciliationRecord := do
  query "Unable to read live Apply progress" (validateContext hashing progress plan)
  let when ← onHost Sys.now
  transaction "Unable to persist live Apply reconciliation outcome"
    (reconciliationTransaction ⟨progress.deploymentId, progress.operationIndex, outcome, when⟩)

end LiveApplyJournal

end SyncApp
