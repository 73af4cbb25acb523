import SyncApp.Pipeline.Candidates

/-!
# The state of the service

Beside the tables of a live Apply, the database holds the work queue, the synchronization baselines
and the records of each deployment. Outside are Repo B, Home Assistant with its live configuration,
and the clock.

A row that would fail its own integrity check is not represented, and a column that holds the digest
of another record holds that record. A column that the others determine (`block_reason` of a
promotion, the counts of a finalization) is a function of them.

`fault` makes the calls to what is outside fail while it is set, with the exception it holds; while
`replyLost` is set too, a request that fails has been carried out all the same.

`events` and `exchanges` are no state of the program: they list, the latest first, what it saw and
asked for outside.
-/

set_option autoImplicit false

namespace SyncApp

open Lib Raising

/-- An exception of a lane: its message, and whether a later attempt may succeed. -/
structure Failure where
  message : String
  transient : Bool
deriving DecidableEq

/-! ## Work -/

/-- The work kinds that have a lane. -/
def laneKindNames : List PyStr :=
  ["local_sync", "candidate", "candidate_apply", "candidate_apply_execute", "candidate_restart",
    "candidate_observe", "candidate_observe_supervisor", "candidate_observe_integrations",
    "candidate_observe_startup_errors", "candidate_observe_resources",
    "candidate_observe_entities", "candidate_observe_automation_scripts",
    "candidate_observe_assertions", "candidate_finalize", "candidate_promote",
    "candidate_rollback", "deployment_rollback"].map text

/-- Any other kind, which the queue keeps all the same. -/
structure OtherKind where
  name : PyStr
  apart : name ∉ laneKindNames
deriving DecidableEq

/-- `work_kind`. -/
inductive WorkKind where
  | localSync
  | candidate
  | candidateApply
  | candidateApplyExecute
  | candidateRestart
  | candidateObserve
  | candidateObserveSupervisor
  | candidateObserveIntegrations
  | candidateObserveStartupErrors
  | candidateObserveResources
  | candidateObserveEntities
  | candidateObserveAutomationScripts
  | candidateObserveAssertions
  | candidateFinalize
  | candidatePromote
  | candidateRollback
  | deploymentRollback
  | other (kind : OtherKind)
deriving DecidableEq

inductive WorkStatus where
  | pending
  | running
  | retry
  | blocked
  | succeeded
deriving DecidableEq

structure WorkItem where
  workKind : WorkKind
  workKey : PyStr
  status : WorkStatus
  attempts : Nat
  createdAt : Int
  updatedAt : Int
  nextAttemptAt : Option Int
deriving DecidableEq

/-! ## Records -/

structure SynchronizationBaseline where
  target : PyStr
  branch : PyStr
  snapshotId : Digest
  commitSha : ObjectId
  synchronizedAt : Int
deriving DecidableEq

/-- The observations a finalization decides on, in their order. -/
inductive ObservationStage where
  | startupErrors
  | resourceAvailability
  | entityStates
  | automationScriptLoad
  | postDeploymentAssertions
deriving DecidableEq

/-- The record of an observation, with how many of the things it looked at failed. -/
structure StageObservation where
  deploymentId : PyStr
  stage : ObservationStage
  failedCount : Nat
  observedAt : Int
deriving DecidableEq

/-- What the checkpoints of a candidate's preflight derive for the observation of its deployment. -/
structure PostDeploymentAssertionPlan where
  deploymentId : PyStr
  candidateSha : ObjectId
deriving DecidableEq

/-- The outcome of a deployment: a failure names its stage. -/
inductive DeploymentOutcome where
  | success
  | failure (stage : ObservationStage)
deriving DecidableEq

structure DeploymentFinalization where
  deploymentId : PyStr
  candidateSha : ObjectId
  backupSlug : PyStr
  chain : List StageObservation
  outcome : DeploymentOutcome
  finalizedAt : Int
deriving DecidableEq

/-- The phase of a promotion, with its `terminal_at`. -/
inductive PromotionPhase where
  | planned
  | completed (terminalAt : Int)
  | blocked (terminalAt : Int)
deriving DecidableEq

structure DeploymentPromotion where
  deploymentId : PyStr
  target : PyStr
  repositoryId : Int
  candidateSha : ObjectId
  baselineSha : ObjectId
  backupSlug : PyStr
  finalization : DeploymentFinalization
  knownGoodTag : PyStr
  phase : PromotionPhase
  plannedAt : Int
deriving DecidableEq

structure RollbackRepositoryProof where
  repositoryId : Int
  isPrivate : Bool
  mainSha : ObjectId
deriving DecidableEq

/-- The phase of a rollback. -/
inductive RollbackPhase where
  | planned
  | restoreStarted
  | restoreAcknowledged
  | uncertain
  | observing
  | completed
  | blocked
deriving DecidableEq

/-- `reconciliation_state`. -/
inductive ReconciliationState where
  | none
  | notStarted
  | inProgress
  | restored
  | ambiguous
deriving DecidableEq

/-- `block_reason` of a rollback. -/
inductive RollbackBlockReason where
  | none
  | invalidAuthority
  | backupInvalid
  | repositoryDivergence
  | restoreRejected
  | ambiguous
deriving DecidableEq

structure DeploymentRollback where
  deploymentId : PyStr
  target : PyStr
  repositoryId : Int
  baselineSha : ObjectId
  candidateSha : ObjectId
  backupSlug : PyStr
  finalization : DeploymentFinalization
  repositoryProof : RollbackRepositoryProof
  backupProof : RollbackBackupProof
  phase : RollbackPhase
  reconciliationState : ReconciliationState
  blockReason : RollbackBlockReason
  attemptCount : Nat
  restoreJobId : Option String
  authorizedAt : Int
  updatedAt : Int
deriving DecidableEq

/-- The outcome of one administrative request. `identity_sha256` is of the kind and the key. -/
structure AdministrativeRetryReceipt where
  requestId : String
  workKind : WorkKind
  workKey : PyStr
  retried : Bool
  processedAt : Int
deriving DecidableEq

/-- The tables of the state database. A row of `rollback_recovery_authority` holds what gives the
plan back, so the table is the plans. -/
structure Store extends Database where
  work : List WorkItem
  baselines : List SynchronizationBaseline
  plans : PyStr → Option PostDeploymentAssertionPlan
  observations : List StageObservation
  finalizations : List DeploymentFinalization
  promotions : List DeploymentPromotion
  /-- `core_version` of a prepared deployment. -/
  coreVersion : PyStr → String
  rollbacks : List DeploymentRollback
  recoveryAuthorities : List PostDeploymentAssertionPlan
  orchestrations : List CandidateOrchestration
  /-- The table of each stage. -/
  checkpoints : (stage : PreflightStage) → List (CandidateCheckpoint stage)
  backupCheckpoints : List CandidateBackupCheckpoint
  /-- The rest of a prepared deployment. -/
  preparedRuntime : PyStr → Option PreparedRuntime
  retryReceipts : List AdministrativeRetryReceipt

/-! ## Outside -/

/-- Repo B: the name and number GitHub knows it by, and where its refs are. -/
structure RemoteRepository where
  fullName : PyStr
  repositoryId : Int
  branches : PyStr → Option ObjectId
  tags : PyStr → Option ObjectId

/-- A branch is at a commit. -/
def RemoteRepository.move (remote : RemoteRepository) (branch : PyStr) (commitSha : ObjectId) :
    RemoteRepository :=
  { remote with branches := fun name => if name = branch then some commitSha else remote.branches name }

@[simp] theorem RemoteRepository.move_at (remote : RemoteRepository) (branch : PyStr)
    (commitSha : ObjectId) : (remote.move branch commitSha).branches branch = some commitSha :=
  if_pos rfl

theorem RemoteRepository.move_apart (remote : RemoteRepository) {branch name : PyStr}
    (commitSha : ObjectId) (apart : name ≠ branch) :
    (remote.move branch commitSha).branches name = remote.branches name := if_neg apart

/-- A tag is at a commit. -/
def RemoteRepository.addTag (remote : RemoteRepository) (tag : PyStr) (commitSha : ObjectId) :
    RemoteRepository :=
  { remote with tags := fun name => if name = tag then some commitSha else remote.tags name }

@[simp] theorem RemoteRepository.addTag_at (remote : RemoteRepository) (tag : PyStr)
    (commitSha : ObjectId) : (remote.addTag tag commitSha).tags tag = some commitSha := if_pos rfl

theorem RemoteRepository.addTag_apart (remote : RemoteRepository) {tag name : PyStr}
    (commitSha : ObjectId) (apart : name ≠ tag) :
    (remote.addTag tag commitSha).tags name = remote.tags name := if_neg apart

/-- A `BranchHead`, or a `BranchAbsence` when there is no commit. -/
structure BranchHead where
  target : PyStr
  repositoryId : Int
  branch : PyStr
  commitSha : Option ObjectId
deriving DecidableEq

/-- `PromotionRemoteState`. -/
structure PromotionRemoteState where
  candidateSha : ObjectId
  mainSha : ObjectId
  tagSha : Option ObjectId
deriving DecidableEq

/-- What a reader of a rollback proof gives back or raises. -/
inductive ProofAnswer (α : Type) where
  | proof (value : α)
  /-- A `DeploymentRollbackError`. -/
  | raised (failure : Failure)
  /-- A `DeployKeyRollbackRepositoryAuthorityError`. -/
  | authorityError (transient : Bool)
  /-- Any other exception. -/
  | exception

/-- What is answered to a rollback outside; a transport that raises gives no response. -/
structure RollbackAnswers where
  repository : ProofAnswer RollbackRepositoryProof
  backup : ProofAnswer RollbackBackupProof
  restore : Option SupervisorResponse
  jobs : Option SupervisorResponse
  coreHealthy : Bool
  supervisorHealthy : Bool

/-- What was seen outside, or asked for there. -/
inductive Event where
  /-- A trusted read of a branch. -/
  | observedBranch (head : BranchHead)
  /-- The content of the isolated workspace, verified again. -/
  | reprovedSnapshot (snapshotId : Digest)
  /-- A push of a branch that landed, with the head it replaced. -/
  | pushed (branch : PyStr) (replaced : Option ObjectId) (commitSha : ObjectId)
  /-- A read of the refs a promotion is about. -/
  | observedRefs (deploymentId : PyStr) (state : PromotionRemoteState)
  /-- A call of a promotion's publisher. -/
  | publisherCalled (deploymentId : PyStr)
  /-- A `POST` for a full restore. -/
  | restorePosted (deploymentId : PyStr)
  /-- A claim of log work. -/
  | claimedLog (item : WorkItem)
  /-- A backup that could not be reconciled. -/
  | backupReconciliationFailed (candidateSha : ShortDigest) (failure : Failure)
deriving DecidableEq

structure System where
  store : Store
  host : Host
  entered : List (PyStr × Nat)
  remote : RemoteRepository
  /-- What `verify_workspace_content` computes of the isolated workspace. -/
  workspaceContent : Digest
  now : Int
  fault : Option Failure
  replyLost : Bool
  answers : RollbackAnswers
  events : List Event
  backup : BackupAnswers
  exchanges : List BackupExchange

def mainBranch : PyStr := text "main"

def candidateBranch : PyStr := text "candidate"

/-- Repo B's branch `main`. -/
def System.main (system : System) : Option ObjectId := system.remote.branches mainBranch

/-- Repo B's branch `candidate`. -/
def System.candidate (system : System) : Option ObjectId := system.remote.branches candidateBranch

/-- Programs of the service. -/
abbrev Lane (α : Type) := Raising Failure System α

namespace Lane

/-- A read of the database. -/
def query {α : Type} (read : Store → Except Failure α) : Lane α :=
  action fun system => (read system.store, system)

/-- A transaction: it changes the database, or raises and changes nothing. -/
def transaction {α : Type} (change : Store → Except Failure (α × Store)) : Lane α :=
  action fun system =>
    match change system.store with
    | .ok (result, store) => (.ok result, { system with store := store })
    | .error failure => (.error failure, system)

/-- A call to what is outside, which fails while a fault is set. -/
def outside {α : Type} (call : System → Except Failure (α × System)) : Lane α :=
  action fun system =>
    match system.fault with
    | some failure => (.error failure, system)
    | none =>
      match call system with
      | .ok (result, system) => (.ok result, system)
      | .error failure => (.error failure, system)

/-- A call that changes what is outside. While a fault is set its caller sees it fail, and it has
been carried out when only the reply is lost. -/
def request {α : Type} (call : System → Except Failure (α × System)) : Lane α :=
  action fun system =>
    match system.fault, call system with
    | some failure, .ok (_, changed) =>
      (.error failure, if system.replyLost then changed else system)
    | some failure, .error _ => (.error failure, system)
    | none, .ok (result, changed) => (.ok result, changed)
    | none, .error failure => (.error failure, system)

/-- Adds to the list of events. -/
def note (event : Event) : Lane Unit :=
  action fun system => (.ok (), { system with events := event :: system.events })

/-- `datetime.now(UTC)`. -/
def clock : Lane Int := action fun system => (.ok system.now, system)

def ensure (condition : Prop) [Decidable condition] (failure : Failure) : Lane Unit :=
  if condition then pure () else throw failure

/-- What the program raises is raised in its stead as the given exception. -/
def rethrow {α : Type} (program : Lane α) (handler : Failure → Failure) : Lane α :=
  tryCatch program fun failure => throw (handler failure)

end Lane

/-- A service that was just set up: its repository is bound, and nothing else is there. -/
def setUp (target : PyStr) (content : Digest) : System where
  store :=
    { repositoryId := fun name => if name = target then some 1 else none
      preparedDeployment := fun _ => none
      intents := []
      progress := []
      guards := []
      reconciliations := []
      work := []
      baselines := []
      plans := fun _ => none
      observations := []
      finalizations := []
      promotions := []
      coreVersion := fun _ => ""
      rollbacks := []
      recoveryAuthorities := []
      orchestrations := []
      checkpoints := fun _ => []
      backupCheckpoints := []
      preparedRuntime := fun _ => none
      retryReceipts := [] }
  host := ⟨⟨fun _ => none, 1⟩, fun _ => .error .noent, fun _ => none, fun time => time, fun _ => [],
    0, none⟩
  entered := []
  remote := ⟨target, 1, fun _ => none, fun _ => none⟩
  workspaceContent := content
  now := 0
  fault := none
  replyLost := false
  answers := ⟨.exception, .exception, none, none, false, false⟩
  events := []
  backup := ⟨fun _ => none, fun _ => false, fun _ => .exception⟩
  exchanges := []

end SyncApp
