import SyncApp.Pipeline.CandidateBackup

/-!
# The checkpoints of a candidate's preflight

Every stage before the backup keeps one row a candidate: it is planned before the stage starts, and
one transaction completes it and moves the candidate on. The tables are much alike, so a stage has
its phases, its message and the stages it reads, and the rest is said once for all of them.
-/

set_option autoImplicit false

namespace SyncApp

open Lib Raising Lane

/-! ## Stages -/

namespace PreflightStage

/-- What the executor of a stage raises when something is not as it should be. -/
def invalid : PreflightStage → Failure
  | fetchStage => ⟨"Candidate Fetch/Stage evidence is invalid", false⟩
  | integrity => ⟨"Candidate analysis evidence is invalid", false⟩
  | dependency => ⟨"Candidate dependency evidence is invalid", false⟩
  | risk => ⟨"Candidate risk evidence is invalid", false⟩
  | static => ⟨"Candidate static evidence is invalid", false⟩
  | semantic => ⟨"Candidate semantic evidence is invalid", false⟩

/-- The phase that a stage starts from. -/
def before : PreflightStage → OrchestrationPhase
  | fetchStage => .detected
  | integrity => .staged
  | dependency => .integrityVerified
  | risk => .dependenciesAnalyzed
  | static => .riskClassified
  | semantic => .staticValidated

/-- The phase that a stage leads to. -/
def after : PreflightStage → OrchestrationPhase
  | fetchStage => .staged
  | integrity => .integrityVerified
  | dependency => .dependenciesAnalyzed
  | risk => .riskClassified
  | static => .staticValidated
  | semantic => .semanticallyValidated

end PreflightStage

/-- How far a phase is. -/
def OrchestrationPhase.rank : OrchestrationPhase → Nat
  | .detected => 0
  | .staged => 1
  | .integrityVerified => 2
  | .dependenciesAnalyzed => 3
  | .riskClassified => 4
  | .staticValidated => 5
  | .semanticallyValidated => 6
  | .completed => 7
  | .blocked => 8

/-- A candidate is in one of the phases that a completed checkpoint of the stage is read in. -/
def OrchestrationPhase.shows (phase : OrchestrationPhase) (stage : PreflightStage) : Bool :=
  stage.after.rank ≤ phase.rank

/-! ## Rows -/

/-- What is computed from the columns of a row: its digest, whether the evidence of a risk is that of
the dependencies it was classified from, and the release of Home Assistant in a runtime. -/
structure PreflightRules where
  digest : (stage : PreflightStage) → CheckpointValues stage → Digest
  riskStands : StageEvidence .risk → StageEvidence .dependency → Bool
  bindCoreVersion : String → Option (Digest × String)

namespace CandidateCheckpoint

variable {stage : PreflightStage} (row : CandidateCheckpoint stage)

def isCompleted : Bool :=
  match row.phase with
  | .completed .. => true
  | _ => false

/-- The evidence of a completed row. -/
def evidence : Option (StageEvidence stage) :=
  match row.phase with
  | .completed evidence _ => some evidence
  | _ => none

/-- `validate`: what the shape of a row leaves open. -/
def valid : Bool :=
  (match row.phase with
    | .planned => true
    | .completed _ completedAt => row.plannedAt ≤ completedAt
    | .blocked _ completedAt => row.plannedAt ≤ completedAt) &&
  match row.subject with
  | .release _ _ _ coreVersion => isCoreVersion coreVersion
  | _ => true

/-- A row belongs to a candidate as it stands. -/
def binds (current : CandidateOrchestration) : Bool :=
  row.target == current.target && row.repositoryId == current.repositoryId &&
    match row.phase with
    | .planned => row.orchestration == current
    | .completed .. => current.phase.shows stage
    | .blocked .. => current.phase == .blocked

end CandidateCheckpoint

/-- A row that a stage cannot do without. -/
def required {ρ : Type} (stage : PreflightStage) : Except Failure (Option ρ) → Except Failure ρ
  | .ok (some row) => .ok row
  | _ => .error stage.invalid

/-! ## Loading -/

/-- A row by itself, with the candidate it belongs to. -/
def loadOwnCheckpoint (stage : PreflightStage) (store : Store) (candidateSha : ShortDigest) :
    Except Failure (Option (CandidateCheckpoint stage)) :=
  match store.checkpoint stage candidateSha with
  | none => .ok none
  | some row => do
    let current ← required stage (loadCandidateOrchestration store candidateSha)
    if row.valid = true ∧ row.binds current = true then return some row else .error stage.invalid

/-- `load_candidate_fetch_stage_checkpoint`. -/
def loadCandidateFetchStageCheckpoint := loadOwnCheckpoint .fetchStage

/-- `load_candidate_integrity_checkpoint`. -/
def loadCandidateIntegrityCheckpoint := loadOwnCheckpoint .integrity

/-- `load_candidate_dependency_checkpoint`. -/
def loadCandidateDependencyCheckpoint := loadOwnCheckpoint .dependency

section

variable (rules : PreflightRules) (store : Store) (candidateSha : ShortDigest)

/-- The evidence of a completed risk is that of its dependencies. -/
def standsOn (risk : CandidateCheckpoint .risk) (dependency : CandidateCheckpoint .dependency) :
    Bool :=
  match risk.evidence, dependency.evidence with
  | some risk, some dependency => rules.riskStands risk dependency
  | some _, none => false
  | none, _ => true

/-- `load_candidate_risk_checkpoint`. -/
def loadCandidateRiskCheckpoint : Except Failure (Option (CandidateCheckpoint .risk)) := do
  let own ← loadOwnCheckpoint .risk store candidateSha
  match own with
  | none => return none
  | some row => do
    let dependency ← required .risk (loadCandidateDependencyCheckpoint store candidateSha)
    if row.sources = [dependency.recordSha256] ∧ standsOn rules row dependency = true then
      return some row
    else .error PreflightStage.risk.invalid

/-- The digests of the checkpoints that a configuration was checked after. -/
def staticSources (stage : PreflightStage) : Except Failure (List Digest) := do
  let fetchStage ← required stage (loadCandidateFetchStageCheckpoint store candidateSha)
  let integrity ← required stage (loadCandidateIntegrityCheckpoint store candidateSha)
  let dependency ← required stage (loadCandidateDependencyCheckpoint store candidateSha)
  let risk ← required stage (loadCandidateRiskCheckpoint rules store candidateSha)
  return [fetchStage.recordSha256, integrity.recordSha256, dependency.recordSha256,
    risk.recordSha256]

/-- `load_candidate_static_checkpoint`. -/
def loadCandidateStaticCheckpoint : Except Failure (Option (CandidateCheckpoint .static)) := do
  let own ← loadOwnCheckpoint .static store candidateSha
  match own with
  | none => return none
  | some row => do
    let sources ← staticSources rules store candidateSha .static
    if row.sources = sources then return some row else .error PreflightStage.static.invalid

/-- `load_candidate_semantic_checkpoint`. -/
def loadCandidateSemanticCheckpoint : Except Failure (Option (CandidateCheckpoint .semantic)) := do
  let own ← loadOwnCheckpoint .semantic store candidateSha
  match own with
  | none => return none
  | some row => do
    let sources ← staticSources rules store candidateSha .semantic
    let static ← required .semantic (loadCandidateStaticCheckpoint rules store candidateSha)
    if row.sources = sources ++ [static.recordSha256] then return some row
    else .error PreflightStage.semantic.invalid

/-- The loader of a stage. -/
def loadCheckpoint : (stage : PreflightStage) → Except Failure (Option (CandidateCheckpoint stage))
  | .fetchStage => loadCandidateFetchStageCheckpoint store candidateSha
  | .integrity => loadCandidateIntegrityCheckpoint store candidateSha
  | .dependency => loadCandidateDependencyCheckpoint store candidateSha
  | .risk => loadCandidateRiskCheckpoint rules store candidateSha
  | .static => loadCandidateStaticCheckpoint rules store candidateSha
  | .semantic => loadCandidateSemanticCheckpoint rules store candidateSha

end

/-! ## Planning and finishing -/

/-- What a stage decides: a rejection is one of the semantic stage. -/
inductive StageDecision (stage : PreflightStage) where
  | accepted (evidence : StageEvidence stage)
  | rejected (semantic : stage = .semantic)

/-- `syntax_valid`, of what has a syntax. -/
def StageEvidence.syntaxValid {stage : PreflightStage} : StageEvidence stage → Bool
  | validation _ syntaxValid _ _ => syntaxValid
  | _ => true

namespace StageDecision

/-- The phase that a candidate is moved to. -/
def successorPhase {stage : PreflightStage} : StageDecision stage → OrchestrationPhase
  | accepted evidence => if evidence.syntaxValid then stage.after else .blocked
  | rejected _ => .blocked

/-- The phase of the finished checkpoint. -/
def checkpointPhase {stage : PreflightStage} (finishedAt : Int) :
    StageDecision stage → CheckpointPhase stage
  | accepted evidence => .completed evidence finishedAt
  | rejected semantic => .blocked semantic finishedAt

end StageDecision

section

variable (rules : PreflightRules) {stage : PreflightStage}

/-- A row with its digest. -/
def CheckpointValues.sealed (values : CheckpointValues stage) : CandidateCheckpoint stage :=
  { values with recordSha256 := rules.digest stage values }

/-- `plan`, which has nothing to validate but the release. -/
def planCheckpoint (current : CandidateOrchestration) (sources : List Digest)
    (subject : CheckpointSubject stage) (plannedAt : Int) :
    Except Failure (CandidateCheckpoint stage) :=
  let plan := CheckpointValues.sealed rules ⟨current.candidateSha, current, sources, current.target,
    current.repositoryId, subject, .planned, plannedAt⟩
  if plan.valid = true then .ok plan else .error stage.invalid

/-- What was validated is what the row is about. The evidence of the other stages does not name what
it is about. -/
def StageEvidence.isAbout (evidence : StageEvidence stage) (row : CheckpointValues stage) : Bool :=
  match row.subject, evidence with
  | .release baselineSha stageManifestSha256 runtimeSha256 coreVersion, .semantic proved =>
    proved.target = row.target ∧ proved.repositoryId = row.repositoryId ∧
      proved.baselineSha = baselineSha ∧ proved.stageManifestSha256 = stageManifestSha256 ∧
      proved.runtimeSha256 = runtimeSha256 ∧ proved.coreVersion = coreVersion
  | _, _ => true

/-- A decision about what the row is about. -/
def StageDecision.isAbout (row : CheckpointValues stage) : StageDecision stage → Bool
  | accepted evidence => evidence.isAbout row
  | rejected _ => true

/-- `complete` and `block`. The fetch stage alone does not validate what it completes. -/
def CandidateCheckpoint.finish (row : CandidateCheckpoint stage) (decision : StageDecision stage)
    (finishedAt : Int) : Except Failure (CandidateCheckpoint stage) :=
  let finished := CheckpointValues.sealed rules
    { row.toCheckpointValues with phase := decision.checkpointPhase finishedAt }
  if row.phase ≠ .planned ∨ decision.isAbout row.toCheckpointValues = false ∨
      stage ≠ .fetchStage ∧ finished.valid = false then .error stage.invalid
  else .ok finished

end

/-- The successor of a candidate after a stage. -/
def PreflightStage.successor (stage : PreflightStage) (current : CandidateOrchestration)
    (phase : OrchestrationPhase) (updatedAt : Int) : Except Failure CandidateOrchestration :=
  if current.phase ≠ stage.before ∨ updatedAt < current.registeredAt then .error orchestrationInvalid
  else .ok { current with phase := phase, updatedAt := updatedAt }

section

variable (current : CandidateOrchestration) (updatedAt : Int)

def stagedCandidateOrchestration := PreflightStage.fetchStage.successor current .staged updatedAt

def integrityVerifiedCandidateOrchestration :=
  PreflightStage.integrity.successor current .integrityVerified updatedAt

def dependenciesAnalyzedCandidateOrchestration :=
  PreflightStage.dependency.successor current .dependenciesAnalyzed updatedAt

def riskClassifiedCandidateOrchestration :=
  PreflightStage.risk.successor current .riskClassified updatedAt

def staticValidatedCandidateOrchestration :=
  PreflightStage.static.successor current .staticValidated updatedAt

def staticBlockedCandidateOrchestration :=
  PreflightStage.static.successor current .blocked updatedAt

def semanticallyValidatedCandidateOrchestration :=
  PreflightStage.semantic.successor current .semanticallyValidated updatedAt

def semanticBlockedCandidateOrchestration :=
  PreflightStage.semantic.successor current .blocked updatedAt

/-- The successor that a decision leads to. -/
def StageDecision.successor : {stage : PreflightStage} → StageDecision stage →
    Except Failure CandidateOrchestration
  | .fetchStage, .accepted _ => stagedCandidateOrchestration current updatedAt
  | .integrity, .accepted _ => integrityVerifiedCandidateOrchestration current updatedAt
  | .dependency, .accepted _ => dependenciesAnalyzedCandidateOrchestration current updatedAt
  | .risk, .accepted _ => riskClassifiedCandidateOrchestration current updatedAt
  | .static, .accepted evidence =>
    if evidence.syntaxValid then staticValidatedCandidateOrchestration current updatedAt
    else staticBlockedCandidateOrchestration current updatedAt
  | .semantic, .accepted _ => semanticallyValidatedCandidateOrchestration current updatedAt
  | .semantic, .rejected _ => semanticBlockedCandidateOrchestration current updatedAt

theorem StageDecision.successor_eq {stage : PreflightStage} (decision : StageDecision stage) :
    decision.successor current updatedAt =
      stage.successor current decision.successorPhase updatedAt := by
  cases decision with
  | rejected semantic =>
    cases semantic
    rfl
  | accepted evidence =>
    cases evidence with
    | validation _ syntaxValid => cases syntaxValid <;> rfl
    | _ => rfl

end

/-! ## Transactions -/

namespace Store

variable {stage : PreflightStage}

/-- The tables with another table for one stage. -/
def withCheckpoints (store : Store) (stage : PreflightStage) (rows : List (CandidateCheckpoint stage)) :
    Store :=
  { store with checkpoints := fun other =>
      if same : stage = other then same ▸ rows else store.checkpoints other }

@[simp] theorem withCheckpoints_here (store : Store) (rows : List (CandidateCheckpoint stage)) :
    (store.withCheckpoints stage rows).checkpoints stage = rows := dif_pos rfl

theorem withCheckpoints_apart (store : Store) (rows : List (CandidateCheckpoint stage))
    {other : PreflightStage} (apart : stage ≠ other) :
    (store.withCheckpoints stage rows).checkpoints other = store.checkpoints other := dif_neg apart

end Store

section

variable (rules : PreflightRules) {stage : PreflightStage}

/-- The transaction of `_record_plan`. -/
def recordStagePlan (current : CandidateOrchestration) (plan : CandidateCheckpoint stage)
    (store : Store) : Except Failure (Unit × Store) := do
  let loaded ← (loadCandidateOrchestration store current.candidateSha).mapError fun _ => stage.invalid
  if loaded ≠ some current ∨ (store.checkpoint stage plan.candidateSha).isSome then
    .error stage.invalid
  else
    return ((), store.withCheckpoints stage (store.checkpoints stage ++ [plan]))

/-- The transaction of `_complete_atomically` and `_finish_atomically`. The risk stage leaves it to
the update to see that the candidate has not changed. -/
def completeStage (planned finished : CandidateCheckpoint stage)
    (current advanced : CandidateOrchestration) (finishedAt : Int) (store : Store) :
    Except Failure (Unit × Store) :=
  Except.mapError (fun _ => stage.invalid) do
    let row ← loadCheckpoint rules store planned.candidateSha stage
    let orchestration ← loadCandidateOrchestration store current.candidateSha
    if row ≠ some planned ∨ stage ≠ .risk ∧ orchestration ≠ some current then .error stage.invalid
    else do
      let replaced := store.withCheckpoints stage
        ((store.checkpoints stage).map fun row => if row = planned then finished else row)
      let moved ← replaceOrchestration current advanced replaced
      if advanced.phase = .blocked then
        let settled ← settleCandidateWork current.candidateSha .blocked finishedAt moved
        return ((), settled)
      else return ((), moved)

end

end SyncApp
