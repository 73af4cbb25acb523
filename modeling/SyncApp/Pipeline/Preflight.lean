import SyncApp.Pipeline.Checkpoints
import SyncApp.Pipeline.WorkTable

/-!
# The preflight of a candidate

A detected candidate is registered and goes through its stages one by one. Two kinds of passes take
it on: the routine process claims what is due and `pending`, whatever its stage, and a Retrigger lane
for each action takes up what was interrupted in that action and claims what waits for it. An
administrative request makes a blocked item `pending` again.

What a stage reads outside the database comes in as its answers: the staged tree, what an analysis
derives, and whether what was stored still verifies.
-/

set_option autoImplicit false

namespace SyncApp

open Lib Raising Lane

/-! ## Executors -/

/-- What a stage finds outside the database. What `complete` refuses counts as raised. -/
structure StageAnswers (stage : PreflightStage) where
  /-- The staged tree is there, as its checkpoint says. -/
  staged : Bool
  /-- What a completed checkpoint holds verifies. -/
  verifies : Bool
  derived : Except Failure (StageDecision stage)

structure StageExecutionResult (stage : PreflightStage) where
  checkpoint : CandidateCheckpoint stage
  orchestration : CandidateOrchestration
  replayed : Bool

/-- What a plan is made from: the digests of the stages before, and what it is for. -/
structure StageInputs (stage : PreflightStage) where
  sources : List Digest
  subject : CheckpointSubject stage

/-- A plan that is taken up again is for the same; not every stage compares what it is for. -/
def CheckpointSubject.agrees {stage : PreflightStage} :
    CheckpointSubject stage → CheckpointSubject stage → Bool
  | .manifest first, .manifest second => first = second
  | .changes baselineSha first, .changes otherSha second => baselineSha = otherSha ∧ first = second
  | .release _ _ runtimeSha256 coreVersion, .release _ _ otherSha256 otherVersion =>
    runtimeSha256 = otherSha256 ∧ coreVersion = otherVersion
  | _, _ => true

/-- A candidate is where a completed checkpoint is replayed. -/
def PreflightStage.replaysIn (stage : PreflightStage) (phase : OrchestrationPhase) : Bool :=
  phase = stage.after ∨ stage = .static ∧ phase = .blocked

section Executors

variable (rules : PreflightRules) {stage : PreflightStage}

/-- The candidate as its caller knows it. -/
def ensureOrchestration (stage : PreflightStage) (orchestration : CandidateOrchestration) :
    Lane Unit := do
  let current : Option CandidateOrchestration ←
    rethrow (query (loadCandidateOrchestration · orchestration.candidateSha)) fun _ => stage.invalid
  ensure (current = some orchestration) stage.invalid

/-- `load_completed_candidate_stage`. -/
def loadCompletedCandidateStage (stage : PreflightStage) (staged : Bool)
    (orchestration : CandidateOrchestration) : Lane (CandidateCheckpoint .fetchStage) := do
  let row ← query fun store =>
    required stage (loadCandidateFetchStageCheckpoint store orchestration.candidateSha)
  ensure (row.isCompleted = true ∧ row.target = orchestration.target ∧
    row.repositoryId = orchestration.repositoryId ∧ staged = true) stage.invalid
  return row

/-- A checkpoint of an earlier stage, with the evidence it must have. -/
def loadEvidence (stage earlier : PreflightStage) (candidateSha : ShortDigest) :
    Lane (CandidateCheckpoint earlier × StageEvidence earlier) := do
  let row ← query fun store => required stage (loadCheckpoint rules store candidateSha earlier)
  match row.evidence with
  | some evidence => return (row, evidence)
  | none => throw stage.invalid

/-- `_record_plan`, for a plan that was made. -/
def recordPlanned (orchestration : CandidateOrchestration) (plan : CandidateCheckpoint stage) :
    Lane Unit := do
  transaction (recordStagePlan orchestration plan)
  let persisted : Option (CandidateCheckpoint stage) ←
    query (loadCheckpoint rules · orchestration.candidateSha stage)
  ensure (persisted = some plan) stage.invalid

/-- A stage derives its evidence, and one transaction finishes it. -/
def finishPlanned (answers : StageAnswers stage) (planned : CandidateCheckpoint stage)
    (orchestration : CandidateOrchestration) (now : Int) : Lane (StageExecutionResult stage) := do
  let decision ← ofResult answers.derived
  let finished ← ofResult (planned.finish rules decision now)
  let advanced ← ofResult
    ((decision.successor orchestration now).mapError fun _ => stage.invalid)
  transaction (completeStage rules planned finished orchestration advanced now)
  return ⟨finished, advanced, false⟩

/-- A stage from its own checkpoint on. -/
def resumeStage (answers : StageAnswers stage) (inputs : StageInputs stage)
    (orchestration : CandidateOrchestration) (now : Int) : Lane (StageExecutionResult stage) := do
  let checkpoint : Option (CandidateCheckpoint stage) ←
    query (loadCheckpoint rules · orchestration.candidateSha stage)
  match checkpoint with
  | none => do
    ensure (orchestration.phase = stage.before) stage.invalid
    let plan ← ofResult (planCheckpoint rules orchestration inputs.sources inputs.subject now)
    recordPlanned rules orchestration plan
    finishPlanned rules answers plan orchestration now
  | some row =>
    match row.phase with
    | .completed .. => do
      ensure (stage.replaysIn orchestration.phase = true ∧ answers.verifies = true) stage.invalid
      return ⟨row, orchestration, true⟩
    | .blocked .. => do
      ensure (orchestration.phase = .blocked) stage.invalid
      return ⟨row, orchestration, true⟩
    | .planned => do
      ensure (orchestration.phase = stage.before) stage.invalid
      ensure (row.orchestration = orchestration ∧ row.sources = inputs.sources ∧
        row.subject.agrees inputs.subject = true) stage.invalid
      finishPlanned rules answers row orchestration now

variable (orchestration : CandidateOrchestration) (now : Int)

/-- `execute_candidate_fetch_stage_once`. -/
def executeCandidateFetchStageOnce (workspaceId : String) (answers : StageAnswers .fetchStage) :
    Lane (StageExecutionResult .fetchStage) := do
  ensureOrchestration .fetchStage orchestration
  resumeStage rules { answers with verifies := answers.staged } ⟨[], .workspace workspaceId⟩
    orchestration now

/-- `execute_candidate_integrity_once`. -/
def executeCandidateIntegrityOnce (answers : StageAnswers .integrity) :
    Lane (StageExecutionResult .integrity) := do
  ensureOrchestration .integrity orchestration
  let fetched ← loadCompletedCandidateStage .integrity answers.staged orchestration
  match fetched.evidence with
  | some (.stage manifestSha256 _ _) =>
    resumeStage rules answers ⟨[fetched.recordSha256], .manifest manifestSha256⟩ orchestration now
  | none => throw PreflightStage.integrity.invalid

/-- `execute_candidate_dependency_once`. -/
def executeCandidateDependencyOnce (answers : StageAnswers .dependency) :
    Lane (StageExecutionResult .dependency) := do
  ensureOrchestration .dependency orchestration
  let fetched ← loadCompletedCandidateStage .dependency answers.staged orchestration
  let integrity ← loadEvidence rules .dependency .integrity orchestration.candidateSha
  ensure (answers.verifies = true) PreflightStage.dependency.invalid
  match integrity.2, integrity.1.subject with
  | .changes baselineSha _ _, .manifest manifestSha256 =>
    resumeStage rules answers ⟨[fetched.recordSha256, integrity.1.recordSha256],
      .changes baselineSha manifestSha256⟩ orchestration now

/-- `execute_candidate_risk_once`. -/
def executeCandidateRiskOnce (answers : StageAnswers .risk) :
    Lane (StageExecutionResult .risk) := do
  ensureOrchestration .risk orchestration
  let dependency ← loadEvidence rules .risk .dependency orchestration.candidateSha
  match dependency.1.subject with
  | .changes baselineSha manifestSha256 =>
    resumeStage rules answers ⟨[dependency.1.recordSha256],
      .dependencies baselineSha manifestSha256⟩ orchestration now

/-- `execute_candidate_static_once`. -/
def executeCandidateStaticOnce (answers : StageAnswers .static) :
    Lane (StageExecutionResult .static) := do
  ensureOrchestration .static orchestration
  let fetched ← loadCompletedCandidateStage .static answers.staged orchestration
  let integrity ← loadEvidence rules .static .integrity orchestration.candidateSha
  let dependency ← loadEvidence rules .static .dependency orchestration.candidateSha
  let risk ← loadEvidence rules .static .risk orchestration.candidateSha
  match integrity.2, integrity.1.subject with
  | .changes baselineSha _ _, .manifest manifestSha256 =>
    resumeStage rules answers ⟨[fetched.recordSha256, integrity.1.recordSha256,
      dependency.1.recordSha256, risk.1.recordSha256],
      .configuration baselineSha manifestSha256⟩ orchestration now

/-- `execute_candidate_semantic_once`. -/
def executeCandidateSemanticOnce (answers : StageAnswers .semantic) :
    Lane (StageExecutionResult .semantic) := do
  ensureOrchestration .semantic orchestration
  let fetched ← loadCompletedCandidateStage .semantic answers.staged orchestration
  let integrity ← loadEvidence rules .semantic .integrity orchestration.candidateSha
  let dependency ← loadEvidence rules .semantic .dependency orchestration.candidateSha
  let risk ← loadEvidence rules .semantic .risk orchestration.candidateSha
  let static ← loadEvidence rules .semantic .static orchestration.candidateSha
  match integrity.2, integrity.1.subject, dependency.2 with
  | .changes baselineSha _ _, .manifest manifestSha256, .dependencies runtimeJson _ _ =>
    match rules.bindCoreVersion runtimeJson with
    | none => throw PreflightStage.semantic.invalid
    | some (runtimeSha256, coreVersion) =>
      resumeStage rules answers ⟨[fetched.recordSha256, integrity.1.recordSha256,
        dependency.1.recordSha256, risk.1.recordSha256, static.1.recordSha256],
        .release baselineSha manifestSha256 runtimeSha256 coreVersion⟩ orchestration now

end Executors

/-! ## Registration -/

/-- `enqueue_work` of a candidate that was detected. -/
def enqueueCandidate (workKey : PyStr) (now : Int) : Lane Unit := do
  ofResult (validateWorkIdentity .candidate workKey)
  let _ ← transaction (enqueueWork .candidate workKey now)

/-- The candidate a work key names. -/
def candidateShaOf (workKey : PyStr) : Option ShortDigest :=
  let hex := String.ofList (workKey.map Char.ofNat)
  if shape : hex.length = 40 ∧ hex.toList.all ("0123456789abcdef".toList.contains ·) = true then
    some ⟨hex, shape⟩
  else none

/-- `load_candidate_orchestration`, by a work key. -/
def loadOrchestrationOf (workKey : PyStr) (store : Store) :
    Except Failure (Option CandidateOrchestration) :=
  match candidateShaOf workKey with
  | none => .error orchestrationInvalid
  | some candidateSha => loadCandidateOrchestration store candidateSha

def registrationRefused : Failure := ⟨"Candidate orchestration authority is unavailable", false⟩

/-- `CandidateOrchestration.create`. -/
def createOrchestration (candidateSha : ShortDigest) (target : PyStr) (repositoryId now : Int) :
    CandidateOrchestration :=
  ⟨candidateSha, target, repositoryId, .detected, now, now⟩

/-- The transaction of `register_claimed_candidate`. -/
def registerClaimedCandidate (claimed : WorkItem) (target : PyStr) (repositoryId now : Int)
    (store : Store) : Except Failure (CandidateOrchestration × Store) :=
  match candidateShaOf claimed.workKey with
  | none => .error orchestrationInvalid
  | some candidateSha =>
    if store.findWork .candidate claimed.workKey ≠ some claimed ∨ claimed.workKind ≠ .candidate ∨
        claimed.status ≠ .running ∨ store.repositoryId target ≠ some repositoryId then
      .error registrationRefused
    else
      match store.orchestration candidateSha with
      | some existing =>
        if existing.target ≠ target ∨ existing.repositoryId ≠ repositoryId then
          .error orchestrationInvalid
        else .ok (existing, store)
      | none =>
        let record := createOrchestration candidateSha target repositoryId now
        .ok (record, { store with orchestrations := store.orchestrations ++ [record] })

/-! ## Claims -/

/-- The candidate of a work key waits for an action. -/
def Store.waitsFor (store : Store) (action : CandidateAction) (workKey : PyStr) : Bool :=
  store.orchestrations.any fun row => row.candidateSha.key = workKey ∧ row.phase.nextAction = action

/-- The candidate of a work key is not registered. -/
def Store.unregistered (store : Store) (workKey : PyStr) : Bool :=
  !store.orchestrations.any fun row => row.candidateSha.key = workKey

/-- The candidates that the Retrigger lane of an action claims. -/
def Store.laneSelects (store : Store) (action : CandidateAction) (workKey : PyStr) : Bool :=
  match action with
  | .fetchStage => store.unregistered workKey || store.waitsFor .fetchStage workKey
  | .none => false
  | action => store.waitsFor action workKey

/-- The candidates that the lane of an action takes up: fetching takes up whatever was left. -/
def Store.laneRecovers (store : Store) (action : CandidateAction) (workKey : PyStr) : Bool :=
  match action with
  | .fetchStage => true
  | .none => false
  | action => store.waitsFor action workKey

/-- The rows that the claim of a lane selects. -/
def Store.laneRows (store : Store) (action : CandidateAction) (now : Int) : List WorkItem :=
  store.work.filter fun item => eligible .candidate now item && store.laneSelects action item.workKey

/-- What was left running is taken up. -/
def recoverCandidateWork (action : CandidateAction) (now : Int) (store : Store) : Store :=
  { store with
    work := store.work.map fun item =>
      if item.workKind = .candidate ∧ item.status = .running ∧
          store.laneRecovers action item.workKey then
        { item with status := .retry, updatedAt := now, nextAttemptAt := some now }
      else item }

/-- What a pass raises when its claim changed. -/
def CandidateAction.claimChanged : CandidateAction → Failure
  | .fetchStage => ⟨"candidate Fetch/Stage claim changed unexpectedly", false⟩
  | .analyze => ⟨"candidate analysis claim changed unexpectedly", false⟩
  | .analyzeDependencies => ⟨"candidate dependency claim changed unexpectedly", false⟩
  | .classifyRisk => ⟨"candidate risk claim changed", false⟩
  | .validate => ⟨"candidate static claim changed", false⟩
  | .validateSemantics => ⟨"candidate semantic claim changed", false⟩
  | .prepareBackup => ⟨"candidate backup claim changed", false⟩
  | .none => ⟨"", false⟩

/-- The first row of a lane is claimed. -/
def claimCandidateWork (action : CandidateAction) (now : Int) (store : Store) :
    Except Failure (Option WorkItem × Store) :=
  match earliest (store.laneRows action now) with
  | none => .ok (none, store)
  | some item =>
    match store.updateWork item fun _ => item.claimedAt now with
    | none => .error action.claimChanged
    | some store => .ok (some (item.claimedAt now), store)

/-- The routine process takes a candidate on: it is of the repository, and its action is one that
changes nothing. -/
def OrchestrationPhase.isRoutine : OrchestrationPhase → Bool
  | .semanticallyValidated | .completed | .blocked => false
  | _ => true

/-- The rows that the routine process selects. -/
def Store.pendingRows (store : Store) (target : PyStr) (repositoryId now : Int) : List WorkItem :=
  store.work.filter fun item =>
    item.workKind = .candidate && item.status = .pending && decide (item.attempts < maxWorkAttempts) &&
      item.nextAttemptAt.any (· ≤ now) &&
      (store.unregistered item.workKey || store.orchestrations.any fun row =>
        row.candidateSha.key = item.workKey ∧ row.target = target ∧
          row.repositoryId = repositoryId ∧ row.phase.isRoutine)

/-- The action of the candidate behind a work key. -/
def Store.actionOf (store : Store) (workKey : PyStr) : CandidateAction :=
  match store.orchestrations.find? (·.candidateSha.key = workKey) with
  | none => .fetchStage
  | some row => row.phase.nextAction

/-- `_claim_due_pending_candidate`. -/
def claimDuePendingCandidate (target : PyStr) (repositoryId now : Int) (store : Store) :
    Except Failure (Option (WorkItem × CandidateAction) × Store) :=
  match earliest (store.pendingRows target repositoryId now) with
  | none => .ok (none, store)
  | some item =>
    match store.updateWork item fun _ => item.claimedAt now with
    | none => .error ⟨"candidate preflight claim changed", false⟩
    | some changed => .ok (some (item.claimedAt now, store.actionOf item.workKey), changed)

/-! ## Passes of the lanes -/

/-- What a pass raises. -/
def CandidateAction.failedClosed : CandidateAction → Failure
  | .fetchStage => ⟨"candidate Fetch/Stage failed closed", false⟩
  | .analyze => ⟨"candidate analysis failed closed", false⟩
  | .analyzeDependencies => ⟨"candidate dependency failed closed", false⟩
  | .classifyRisk => ⟨"candidate risk failed closed", false⟩
  | .validate => ⟨"candidate static failed closed", false⟩
  | .validateSemantics => ⟨"candidate semantic failed closed", false⟩
  | .prepareBackup => backupFailedClosed
  | .none => ⟨"", false⟩

/-- What a pass raises for a claimed item that is not registered. -/
def CandidateAction.unavailable : CandidateAction → Failure
  | .analyze => ⟨"candidate analysis authority is unavailable", false⟩
  | .analyzeDependencies => ⟨"candidate dependency authority is unavailable", false⟩
  | .classifyRisk => ⟨"candidate risk authority is unavailable", false⟩
  | .validate => ⟨"candidate static authority is unavailable", false⟩
  | .validateSemantics => ⟨"candidate semantic authority is unavailable", false⟩
  | _ => ⟨"candidate Fetch/Stage repository authority is unavailable", false⟩

section Passes

variable (action : CandidateAction) (now : Int)

/-- The recovery and the claim, in two transactions. -/
def recoverThenClaim : Lane (Option WorkItem) := do
  transaction fun store => .ok ((), recoverCandidateWork action now store)
  rethrow (transaction (claimCandidateWork action now)) fun _ => action.failedClosed

/-- The recovery and the claim, in one transaction. -/
def recoverAndClaim : Lane (Option WorkItem) :=
  rethrow (transaction fun store => claimCandidateWork action now (recoverCandidateWork action now store))
    fun _ => action.failedClosed

/-- A failure of a claimed item is settled, and the pass fails. -/
def failingClosed {α : Type} (claimed : WorkItem) (program : Lane α) : Lane α :=
  tryCatch program fun failure => do
    suppressedFailWork claimed failure.transient now
    throw action.failedClosed

/-- The registered candidate of a claimed item. -/
def claimedOrchestration (claimed : WorkItem) : Lane CandidateOrchestration := do
  let loaded : Option CandidateOrchestration ← query (loadOrchestrationOf claimed.workKey)
  match loaded with
  | none => throw action.unavailable
  | some orchestration => return orchestration

/-- `defer_work` of an item whose action is done. -/
def deferClaimed (claimed : WorkItem) : Lane Unit := do
  let _ ← transaction (deferWork claimed now)
  return ()

/-- A pass that claims in two transactions and settles nothing once its executor is done. -/
def runDeferringPass (executor : CandidateOrchestration → Lane Unit) : Lane (Option WorkItem) := do
  let item : Option WorkItem ← recoverThenClaim action now
  match item with
  | none => return none
  | some item => do
    let claimed ← rethrow (query (Store.getWork · item.workKind item.workKey)) fun _ =>
      action.failedClosed
    failingClosed action now claimed do
      executor (← claimedOrchestration action claimed)
    rethrow (deferClaimed now claimed) fun _ => action.failedClosed
    return some claimed

/-- A pass that claims in one transaction; its executor may leave the item blocked. -/
def runBlockingPass (executor : CandidateOrchestration → Lane Bool) : Lane (Option WorkItem) := do
  let item : Option WorkItem ← recoverAndClaim action now
  match item with
  | none => return none
  | some item => do
    let claimed ← rethrow (query (Store.getWork · item.workKind item.workKey)) fun _ =>
      action.failedClosed
    failingClosed action now claimed do
      let advances ← executor (← claimedOrchestration action claimed)
      if advances then deferClaimed now claimed else pure ()
    return some claimed

end Passes

section Lanes

variable (rules : PreflightRules) (referenceTime : Option Int)

/-- The candidate of an item that fetching claimed, registered if it is not yet. -/
def registeredOrchestration (target : PyStr) (claimed : WorkItem) (now : Int) :
    Lane CandidateOrchestration := do
  let loaded : Option CandidateOrchestration ← query (loadOrchestrationOf claimed.workKey)
  match loaded with
  | some orchestration => return orchestration
  | none => do
    let repositoryId ← query fun store =>
      match store.repositoryId target with
      | none => .error CandidateAction.fetchStage.unavailable
      | some repositoryId => .ok repositoryId
    transaction (registerClaimedCandidate claimed target repositoryId now)

/-- `run_candidate_fetch_stage_retrigger_pass`. -/
def runCandidateFetchStageRetriggerPass (target : PyStr) (workspaceId : String)
    (answers : StageAnswers .fetchStage) : Lane (Option WorkItem) := do
  let now ← moment referenceTime
  let item : Option WorkItem ← recoverThenClaim .fetchStage now
  match item with
  | none => return none
  | some item => do
    let claimed ← rethrow (query (Store.getWork · item.workKind item.workKey)) fun _ =>
      CandidateAction.fetchStage.failedClosed
    tryCatch (do
      let orchestration ← registeredOrchestration target claimed now
      let _ ← executeCandidateFetchStageOnce rules orchestration now workspaceId answers)
      fun failure => do
        suppressedFailWork claimed failure.transient now
        -- Only what is said of the repository is raised as it is.
        throw (if failure = CandidateAction.fetchStage.unavailable then failure
          else CandidateAction.fetchStage.failedClosed)
    rethrow (deferClaimed now claimed) fun _ => CandidateAction.fetchStage.failedClosed
    return some claimed

/-- `run_candidate_integrity_retrigger_pass`. -/
def runCandidateIntegrityRetriggerPass (answers : StageAnswers .integrity) :
    Lane (Option WorkItem) := do
  let now ← moment referenceTime
  runDeferringPass .analyze now fun orchestration => do
    let _ ← executeCandidateIntegrityOnce rules orchestration now answers

/-- `run_candidate_dependency_retrigger_pass`. -/
def runCandidateDependencyRetriggerPass (answers : StageAnswers .dependency) :
    Lane (Option WorkItem) := do
  let now ← moment referenceTime
  runDeferringPass .analyzeDependencies now fun orchestration => do
    let _ ← executeCandidateDependencyOnce rules orchestration now answers

/-- `run_candidate_risk_retrigger_pass`. -/
def runCandidateRiskRetriggerPass (answers : StageAnswers .risk) : Lane (Option WorkItem) := do
  let now ← moment referenceTime
  runBlockingPass .classifyRisk now fun orchestration => do
    let _ ← executeCandidateRiskOnce rules orchestration now answers
    return true

/-- `run_candidate_static_retrigger_pass`. -/
def runCandidateStaticRetriggerPass (answers : StageAnswers .static) : Lane (Option WorkItem) := do
  let now ← moment referenceTime
  runBlockingPass .validate now fun orchestration => do
    let result ← executeCandidateStaticOnce rules orchestration now answers
    return result.checkpoint.evidence.any StageEvidence.syntaxValid

/-- `run_candidate_semantic_retrigger_pass`. -/
def runCandidateSemanticRetriggerPass (answers : StageAnswers .semantic) :
    Lane (Option WorkItem) := do
  let now ← moment referenceTime
  runBlockingPass .validateSemantics now fun orchestration => do
    let result ← executeCandidateSemanticOnce rules orchestration now answers
    return result.checkpoint.evidence.isSome

/-! ## The routine process -/

/-- What every stage finds outside. -/
structure PreflightAnswers where
  workspaceId : String
  stages : (stage : PreflightStage) → StageAnswers stage

def preflightFailedClosed : Failure := ⟨"candidate preflight outcome failed closed", false⟩

def preflightAuthorityInvalid : Failure := ⟨"candidate preflight authority is invalid", false⟩

/-- `_execute_action`. -/
def executeAction (answers : PreflightAnswers) (action : CandidateAction)
    (orchestration : CandidateOrchestration) (now : Int) : Lane Unit := do
  match action with
  | .fetchStage => do
    let _ ← executeCandidateFetchStageOnce rules orchestration now answers.workspaceId
      (answers.stages .fetchStage)
  | .analyze => do
    let _ ← executeCandidateIntegrityOnce rules orchestration now (answers.stages .integrity)
  | .analyzeDependencies => do
    let _ ← executeCandidateDependencyOnce rules orchestration now (answers.stages .dependency)
  | .classifyRisk => do
    let _ ← executeCandidateRiskOnce rules orchestration now (answers.stages .risk)
  | .validate => do
    let _ ← executeCandidateStaticOnce rules orchestration now (answers.stages .static)
  | .validateSemantics => do
    let _ ← executeCandidateSemanticOnce rules orchestration now (answers.stages .semantic)
  | .prepareBackup | .none => throw ⟨"candidate preflight action is invalid", false⟩

/-- What the routine process did with what it claimed. -/
inductive PreflightOutcome where
  | idle
  | advanced
  | retry
  | blocked
deriving DecidableEq

/-- `_record_executor_failure`. -/
def recordExecutorFailure (claimed : WorkItem) (transient : Bool) (now : Int) :
    Lane PreflightOutcome := do
  let failed ← rethrow (transaction (failWork claimed transient now)) fun _ =>
    ⟨"candidate preflight failure state is unavailable", false⟩
  return if failed.status = .retry then .retry else .blocked

/-- The candidate of an item that the routine process claimed. -/
def pendingOrchestration (target : PyStr) (repositoryId : Int) (claimed : WorkItem)
    (action : CandidateAction) (now : Int) : Lane CandidateOrchestration := do
  let loaded : Option CandidateOrchestration ← query (loadOrchestrationOf claimed.workKey)
  match loaded with
  | some orchestration => return orchestration
  | none => do
    ensure (action = .fetchStage) preflightAuthorityInvalid
    transaction (registerClaimedCandidate claimed target repositoryId now)

/-- An item whose action was executed. -/
def settleAdvanced (claimed : WorkItem) (now : Int) : Lane PreflightOutcome := do
  let persisted ← rethrow (query (Store.getWork · claimed.workKind claimed.workKey)) fun _ =>
    preflightFailedClosed
  if persisted.status = .blocked then return .blocked
  else do
    ensure (persisted = claimed) ⟨"candidate preflight outcome changed", false⟩
    rethrow (deferClaimed now claimed) fun _ => preflightFailedClosed
    return .advanced

/-- An item that the routine process claimed. -/
def executePending (answers : PreflightAnswers) (target : PyStr) (repositoryId : Int)
    (claimed : WorkItem) (action : CandidateAction) (now : Int) : Lane PreflightOutcome := do
  match ← attempt (pendingOrchestration target repositoryId claimed action now) with
  | .error failure =>
    -- An orchestration that is refused is settled; an authority that is invalid is not.
    if failure = preflightAuthorityInvalid then throw failure
    else recordExecutorFailure claimed false now
  | .ok orchestration => do
    ensure (orchestration.target = target ∧ orchestration.repositoryId = repositoryId ∧
      orchestration.candidateSha.key = claimed.workKey ∧
      orchestration.phase.nextAction = action) preflightAuthorityInvalid
    match ← attempt (executeAction rules answers action orchestration now) with
    | .error failure => recordExecutorFailure claimed failure.transient now
    | .ok () => settleAdvanced claimed now

/-- `run_candidate_preflight_process`. -/
def runCandidatePreflightProcess (answers : PreflightAnswers) (target : PyStr) :
    Lane PreflightOutcome := do
  let now ← moment referenceTime
  let repositoryId ← query fun store =>
    match store.repositoryId target with
    | none => .error ⟨"candidate preflight repository is not trusted", false⟩
    | some repositoryId => .ok repositoryId
  let claim : Option (WorkItem × CandidateAction) ←
    rethrow (transaction (claimDuePendingCandidate target repositoryId now)) fun _ =>
      ⟨"candidate preflight claim failed closed", false⟩
  match claim with
  | none => return .idle
  | some (claimed, action) =>
    executePending rules answers target repositoryId claimed action now

end Lanes

/-! ## Administration -/

structure AdministrativeRetryRequest where
  requestId : String
  workKind : WorkKind
  workKey : PyStr
deriving DecidableEq

structure AdministrativeRetryResult where
  retried : Bool
  replayed : Bool
deriving DecidableEq

/-- The canonical text of a UUID of version 4. -/
def isUuid4 (value : String) : Bool :=
  value.length == 36 && value.toList.zipIdx.all fun (c, place) =>
    if place = 8 ∨ place = 13 ∨ place = 18 ∨ place = 23 then c == '-'
    else if place = 14 then c == '4'
    else if place = 19 then "89ab".toList.contains c
    else "0123456789abcdef".toList.contains c

def retryRequestFailedClosed : Failure := ⟨"administrative retry request failed closed", false⟩

namespace AdministrativeRetryReceipt

def identifies (receipt : AdministrativeRetryReceipt) (request : AdministrativeRetryRequest) : Bool :=
  receipt.workKind = request.workKind ∧ receipt.workKey = request.workKey

end AdministrativeRetryReceipt

/-- The work after a request: a blocked item is `pending` again, and nothing else changes. -/
def retryIfBlocked (request : AdministrativeRetryRequest) (now : Int) (store : Store) :
    Except Failure (Bool × Store) :=
  match store.findWork request.workKind request.workKey with
  | none => .ok (false, store)
  | some row =>
    if row.status ≠ .blocked then .ok (false, store)
    else
      match store.updateWork row fun _ => row.rearmedAt now with
      | none => .error retryRequestFailedClosed
      | some changed => .ok (true, changed)

/-- The transaction of `apply_administrative_retry_request`. -/
def applyAdministrativeRetryRequest (request : AdministrativeRetryRequest) (now : Int)
    (store : Store) : Except Failure (AdministrativeRetryResult × Store) :=
  if isUuid4 request.requestId = false ∨
      validateWorkIdentity request.workKind request.workKey ≠ .ok () then
    .error retryRequestFailedClosed
  else
    match store.retryReceipts.find? (·.requestId = request.requestId) with
    | some receipt =>
      if receipt.identifies request = false then .error retryRequestFailedClosed
      else .ok (⟨receipt.retried, true⟩, store)
    | none => do
      let (retried, changed) ← retryIfBlocked request now store
      return (⟨retried, false⟩, { changed with
        retryReceipts := changed.retryReceipts ++
          [⟨request.requestId, request.workKind, request.workKey, retried, now⟩] })

end SyncApp
