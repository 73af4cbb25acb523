import SyncApp.LiveApply.Host
import SyncApp.Supervisor.Readers

/-!
# The records of a candidate and of its backup

A candidate goes through its preflight phase by phase, and the last action is the backup that its
deployment could be taken back to. The row of that backup is written before the Supervisor is asked.

The action of a candidate goes by its phase, and the times, the evidence and the slug of a checkpoint
stand in its phase. What a stage derives is known here by the texts and counts that its checkpoint
holds.
-/

set_option autoImplicit false

namespace SyncApp

open Lib

/-- The phase of a candidate. -/
inductive OrchestrationPhase where
  | detected
  | staged
  | integrityVerified
  | dependenciesAnalyzed
  | riskClassified
  | staticValidated
  | semanticallyValidated
  | completed
  | blocked
deriving DecidableEq

/-- `next_action`. -/
inductive CandidateAction where
  | fetchStage
  | analyze
  | analyzeDependencies
  | classifyRisk
  | validate
  | validateSemantics
  | prepareBackup
  | none
deriving DecidableEq

def OrchestrationPhase.nextAction : OrchestrationPhase → CandidateAction
  | .detected => .fetchStage
  | .staged => .analyze
  | .integrityVerified => .analyzeDependencies
  | .dependenciesAnalyzed => .classifyRisk
  | .riskClassified => .validate
  | .staticValidated => .validateSemantics
  | .semanticallyValidated => .prepareBackup
  | .completed => .none
  | .blocked => .none

structure CandidateOrchestration where
  candidateSha : ShortDigest
  target : PyStr
  repositoryId : Int
  phase : OrchestrationPhase
  registeredAt : Int
  updatedAt : Int
deriving DecidableEq

/-- The work key of a candidate. -/
def ShortDigest.key (candidateSha : ShortDigest) : PyStr := text candidateSha.hex

inductive RiskLevel where
  | low
  | medium
  | high
  | critical
deriving DecidableEq

/-- The digests of the checkpoints before a backup. -/
structure CandidateDigests where
  fetchStage : Digest
  integrity : Digest
  dependency : Digest
  risk : Digest
  static : Digest
  semantic : Digest
deriving DecidableEq

/-- What a candidate was validated as. -/
structure CandidateSemanticValidation where
  target : PyStr
  repositoryId : Int
  baselineSha : ObjectId
  stageManifestSha256 : Digest
  runtimeSha256 : Digest
  riskLevel : RiskLevel
  coreVersion : String
deriving DecidableEq

/-! ## Checkpoints of the stages -/

/-- The stages of a candidate before its backup, each with a table of its own. -/
inductive PreflightStage where
  | fetchStage
  | integrity
  | dependency
  | risk
  | static
  | semantic
deriving DecidableEq

/-- What a checkpoint is planned for, with what its stage derives the rest from. -/
inductive CheckpointSubject : PreflightStage → Type where
  | workspace (workspaceId : String) : CheckpointSubject .fetchStage
  | manifest (stageManifestSha256 : Digest) : CheckpointSubject .integrity
  | changes (baselineSha : ObjectId) (stageManifestSha256 : Digest) : CheckpointSubject .dependency
  | dependencies (baselineSha : ObjectId) (stageManifestSha256 : Digest) : CheckpointSubject .risk
  | configuration (baselineSha : ObjectId) (stageManifestSha256 : Digest) : CheckpointSubject .static
  | release (baselineSha : ObjectId) (stageManifestSha256 runtimeSha256 : Digest)
    (coreVersion : String) : CheckpointSubject .semantic
deriving DecidableEq

/-- What a completed checkpoint holds of what its stage derived. -/
inductive StageEvidence : PreflightStage → Type where
  | stage (manifestSha256 : Digest) (entryCount totalBytes : Nat) : StageEvidence .fetchStage
  | changes (baselineSha : ObjectId) (changesJson : String) (changedCount : Nat) :
    StageEvidence .integrity
  | dependencies (runtimeJson dependenciesJson : String) (referenceCount : Nat) :
    StageEvidence .dependency
  | risk (impactJson riskJson : String) (riskLevel : RiskLevel) (affectedCount : Nat) :
    StageEvidence .risk
  | validation (validationJson : String) (syntaxValid : Bool)
    (invalidCount unvalidatedCount : Nat) : StageEvidence .static
  | semantic (semantic : CandidateSemanticValidation) : StageEvidence .semantic
deriving DecidableEq

/-- The phase of a checkpoint, with its evidence and `completed_at`. The semantic stage alone has
checkpoints that are blocked. -/
inductive CheckpointPhase (stage : PreflightStage) where
  | planned
  | completed (evidence : StageEvidence stage) (completedAt : Int)
  | blocked (semantic : stage = .semantic) (completedAt : Int)
deriving DecidableEq

/-- A checkpoint without its digest. `sources` are the digests of the checkpoints it is derived
from, in the order of its columns. -/
structure CheckpointValues (stage : PreflightStage) where
  candidateSha : ShortDigest
  orchestration : CandidateOrchestration
  sources : List Digest
  target : PyStr
  repositoryId : Int
  subject : CheckpointSubject stage
  phase : CheckpointPhase stage
  plannedAt : Int
deriving DecidableEq

structure CandidateCheckpoint (stage : PreflightStage) extends CheckpointValues stage where
  recordSha256 : Digest
deriving DecidableEq

/-- The digests that a completed semantic checkpoint ends in. -/
def CandidateCheckpoint.digests (row : CandidateCheckpoint .semantic) : Option CandidateDigests :=
  match row.phase, row.sources with
  | .completed .., [fetchStage, integrity, dependency, risk, static] =>
    some ⟨fetchStage, integrity, dependency, risk, static, row.recordSha256⟩
  | _, _ => none

/-! ## Backups -/

/-- The part of a `CandidateBackupAuthority` that a backup is bound by. -/
structure CandidateBackupAuthority where
  semantic : CandidateSemanticValidation
  digests : CandidateDigests
deriving DecidableEq

/-- The phase of a backup, with its `started_at`, `backup_slug` and `completed_at`. -/
inductive BackupPhase where
  | planned
  | mutationStarted (startedAt : Int)
  | uncertain (startedAt : Int)
  | completed (startedAt : Int) (backupSlug : String) (completedAt : Int)
  | blocked (startedAt : Option Int) (completedAt : Int)
deriving DecidableEq

structure CandidateBackupCheckpoint where
  candidateSha : ShortDigest
  orchestration : CandidateOrchestration
  digests : CandidateDigests
  target : PyStr
  repositoryId : Int
  baselineSha : ObjectId
  stageManifestSha256 : Digest
  runtimeSha256 : Digest
  riskLevel : RiskLevel
  coreVersion : String
  deploymentId : String
  requestName : String
  phase : BackupPhase
  plannedAt : Int
deriving DecidableEq

/-- Verified backup identity. -/
structure CandidateBackupEvidence where
  target : PyStr
  repositoryId : Int
  baselineSha : ObjectId
  candidateSha : ShortDigest
  stageManifestSha256 : Digest
  runtimeSha256 : Digest
  riskLevel : RiskLevel
  coreVersion : String
  backupSlug : String
deriving DecidableEq

/-- What else a prepared deployment holds. -/
structure PreparedRuntime where
  runtimeSha256 : Digest
  riskLevel : RiskLevel
  preparedAt : Int
deriving DecidableEq

/-- What the Supervisor is asked about backups. -/
inductive BackupRequest where
  /-- `POST /backups/new/full`, under a name. -/
  | create (name : String)
  /-- `GET /backups`. -/
  | inventory
  /-- `GET /backups/<slug>/info`. -/
  | info (slug : String)

/-- What a transport gives back or raises. -/
inductive BackupAnswer where
  | response (response : SupervisorResponse)
  | raised (error : CandidateBackupError)
  /-- Any other exception. -/
  | exception

/-- A request that was sent for a candidate, with its answer. -/
structure BackupExchange where
  candidateSha : ShortDigest
  /-- Sent to reconcile an earlier request. -/
  reconciling : Bool
  request : BackupRequest
  answer : BackupAnswer

/-- What a backup finds outside. -/
structure BackupAnswers where
  /-- The authority that `_load_authority` gives back for a candidate. -/
  authority : ShortDigest → Option CandidateBackupAuthority
  /-- `verify_candidate_semantic_validation` passes. -/
  validates : ShortDigest → Bool
  supervisor : BackupRequest → BackupAnswer

end SyncApp
