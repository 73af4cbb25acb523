import SyncApp.Records.Columns
import Mathlib.Algebra.Group.Int.Defs

/-!
# Rows of the candidate backup journal

The checkpoint of a candidate's backup, its row, and the writes of it: the plan, and the start, the
doubt, the end and the block that a checkpoint comes to. All leave rows that are read again
(`backup_writes`), and the codec is exact (`backup_exact`).

The name of a deployment is the UUID of a text, which is a parameter.
-/

set_option autoImplicit false

namespace SyncApp

open Lib

namespace Records

open Raising
open ObservationChain (isDeploymentId)

structure CandidateBackupCheckpoint where
  candidateSha : PyStr
  schemaVersion : Int
  orchestrationSha256 : PyStr
  fetchStageSha256 : PyStr
  integritySha256 : PyStr
  dependencySha256 : PyStr
  riskSha256 : PyStr
  staticSha256 : PyStr
  semanticSha256 : PyStr
  target : PyStr
  repositoryId : Int
  baselineSha : PyStr
  stageManifestSha256 : PyStr
  runtimeSha256 : PyStr
  riskLevel : PyStr
  coreVersion : PyStr
  deploymentId : PyStr
  requestName : PyStr
  phase : PyStr
  backupSlug : Option PyStr
  plannedAt : DateTime
  startedAt : Option DateTime
  completedAt : Option DateTime
  recordSha256 : PyStr
deriving DecidableEq

namespace CandidateBackupCheckpoint

def invalid : String := "Candidate backup checkpoint is invalid"

/-- `_SCHEMA_VERSION`. -/
def schema : Int := 1

def riskLevels : List PyStr := ["low", "medium", "high", "critical"].map text

def phases : List PyStr :=
  ["planned", "mutation_started", "uncertain", "completed", "blocked"].map text

/-- The phases in which the backup has been started. -/
def startedPhases : List PyStr := ["mutation_started", "uncertain", "completed"].map text

def terminalPhases : List PyStr := ["completed", "blocked"].map text

end CandidateBackupCheckpoint

open Records.CandidateBackupCheckpoint (invalid)

/-- `candidate_backup_deployment_id`. -/
def candidateBackupDeploymentId (uuid5 : PyStr → PyStr) (target : PyStr) (repositoryId : Int)
    (candidateSha : PyStr) : Except String PyStr :=
  if isTarget target ∧ 0 < repositoryId ∧ repositoryId ≤ 2 ^ 63 - 1 ∧ isCommit candidateSha then
    .ok (uuid5 (text "syncapp:" ++ target ++ text ":" ++ JsonText.writeInt repositoryId ++
      text ":" ++ candidateSha))
  else .error invalid

def requestNameOf (candidateSha deploymentId : PyStr) : PyStr :=
  text "SyncApp candidate " ++ candidateSha.take 12 ++ text " " ++ deploymentId

namespace CandidateBackupCheckpoint

/-- What `validate` asks before it compares the times. -/
def WellFormed (record : CandidateBackupCheckpoint) (expectedId : PyStr) : Prop :=
  isCommit record.candidateSha ∧ record.schemaVersion = schema ∧
    isHash record.orchestrationSha256 ∧ isHash record.fetchStageSha256 ∧
    isHash record.integritySha256 ∧ isHash record.dependencySha256 ∧ isHash record.riskSha256 ∧
    isHash record.staticSha256 ∧ isHash record.semanticSha256 ∧
    isHash record.stageManifestSha256 ∧ isHash record.runtimeSha256 ∧ isHash record.recordSha256 ∧
    isTarget record.target ∧ 0 < record.repositoryId ∧ record.repositoryId ≤ 2 ^ 63 - 1 ∧
    isObjectId record.baselineSha ∧ record.baselineSha ≠ record.candidateSha ∧
    record.riskLevel ∈ riskLevels ∧ isCoreRelease record.coreVersion ∧
    record.deploymentId = expectedId ∧
    record.requestName = requestNameOf record.candidateSha expectedId ∧ record.phase ∈ phases ∧
    ¬(record.phase ∈ startedPhases ∧ record.startedAt = none) ∧
    ¬(record.phase = text "planned" ∧ record.startedAt ≠ none) ∧
    (record.phase ∈ terminalPhases ↔ record.completedAt ≠ none) ∧
    (record.phase = text "completed" ↔ record.backupSlug ≠ none) ∧
    record.backupSlug.all ObservationChain.isSlug

instance (record : CandidateBackupCheckpoint) (expectedId : PyStr) :
    Decidable (record.WellFormed expectedId) := by
  unfold WellFormed
  infer_instance

/-- The columns that are sealed: `values_without_digest`. -/
def values (record : CandidateBackupCheckpoint) : Except String (List Column) := do
  let plannedAt ← timeColumn record.plannedAt
  let startedAt ← optionalTime record.startedAt
  let completedAt ← optionalTime record.completedAt
  return [.text record.candidateSha, .integer record.schemaVersion,
    .text record.orchestrationSha256, .text record.fetchStageSha256, .text record.integritySha256,
    .text record.dependencySha256, .text record.riskSha256, .text record.staticSha256,
    .text record.semanticSha256, .text record.target, .integer record.repositoryId,
    .text record.baselineSha, .text record.stageManifestSha256, .text record.runtimeSha256,
    .text record.riskLevel, .text record.coreVersion, .text record.deploymentId,
    .text record.requestName, .text record.phase, optionalText record.backupSlug, plannedAt,
    startedAt, completedAt]

/-- `validate`: last it takes the digest of the record. -/
def validate (sha256 : List UInt8 → PyStr) (uuid5 : PyStr → PyStr)
    (record : CandidateBackupCheckpoint) : Except String Unit := do
  if isDeploymentId record.deploymentId then
    let expectedId ← candidateBackupDeploymentId uuid5 record.target record.repositoryId
      record.candidateSha
    if record.WellFormed expectedId then
      let planned ← awareTime invalid record.plannedAt
      if ← optionallyBefore record.startedAt planned then throw invalid
      let since ← match record.startedAt with
        | some started => awareTime invalid started
        | none => pure planned
      if ← optionallyBefore record.completedAt since then throw invalid
      let values ← record.values
      let digest ← digestOf sha256 values
      if digest = .text record.recordSha256 then return () else throw invalid
    else throw invalid
  else throw invalid

/-- The record of `from_database_row`, before it is checked. -/
def read (fromisoformat : PyStr → Option DateTime) :
    List Column → Except String CandidateBackupCheckpoint
  | [candidateSha, schemaVersion, orchestrationSha256, fetchStageSha256, integritySha256,
      dependencySha256, riskSha256, staticSha256, semanticSha256, target, repositoryId, baselineSha,
      stageManifestSha256, runtimeSha256, riskLevel, coreVersion, deploymentId, requestName, phase,
      backupSlug, plannedAt, startedAt, completedAt, recordSha256] => do
    return {
      candidateSha := ← textOf invalid candidateSha
      schemaVersion := ← integerOf invalid schemaVersion
      orchestrationSha256 := ← textOf invalid orchestrationSha256
      fetchStageSha256 := ← textOf invalid fetchStageSha256
      integritySha256 := ← textOf invalid integritySha256
      dependencySha256 := ← textOf invalid dependencySha256
      riskSha256 := ← textOf invalid riskSha256
      staticSha256 := ← textOf invalid staticSha256
      semanticSha256 := ← textOf invalid semanticSha256
      target := ← textOf invalid target
      repositoryId := ← integerOf invalid repositoryId
      baselineSha := ← textOf invalid baselineSha
      stageManifestSha256 := ← textOf invalid stageManifestSha256
      runtimeSha256 := ← textOf invalid runtimeSha256
      riskLevel := ← textOf invalid riskLevel
      coreVersion := ← textOf invalid coreVersion
      deploymentId := ← textOf invalid deploymentId
      requestName := ← textOf invalid requestName
      phase := ← textOf invalid phase
      backupSlug := ← optional (textOf invalid) backupSlug
      plannedAt := ← timeOf fromisoformat invalid plannedAt
      startedAt := ← optional (timeOf fromisoformat invalid) startedAt
      completedAt := ← optional (timeOf fromisoformat invalid) completedAt
      recordSha256 := ← textOf invalid recordSha256 }
  | _ => .error invalid

def under (digest : Column) (record : CandidateBackupCheckpoint) : CandidateBackupCheckpoint :=
  match digest with
  | .text value => { record with recordSha256 := value }
  | _ => record

end CandidateBackupCheckpoint

section

variable (sha256 : List UInt8 → PyStr) (fromisoformat : PyStr → Option DateTime)
  (uuid5 : PyStr → PyStr)

/-- `from_database_row` and `database_values` of a checkpoint. -/
def backupRow : SealedRow Column CandidateBackupCheckpoint String where
  read := CandidateBackupCheckpoint.read fromisoformat
  validate := CandidateBackupCheckpoint.validate sha256 uuid5
  values := CandidateBackupCheckpoint.values
  digest := digestOf sha256
  under := CandidateBackupCheckpoint.under
  mismatch := CandidateBackupCheckpoint.invalid

/-! ## Writes -/

/-- What a checkpoint is planned from. -/
structure BackupPlan where
  candidateSha : PyStr
  orchestrationSha256 : PyStr
  fetchStageSha256 : PyStr
  integritySha256 : PyStr
  dependencySha256 : PyStr
  riskSha256 : PyStr
  staticSha256 : PyStr
  semanticSha256 : PyStr
  target : PyStr
  repositoryId : Int
  baselineSha : PyStr
  stageManifestSha256 : PyStr
  runtimeSha256 : PyStr
  riskLevel : PyStr
  coreVersion : PyStr

/-- `CandidateBackupEvidence`. -/
structure BackupEvidence where
  target : PyStr
  repositoryId : Int
  baselineSha : PyStr
  candidateSha : PyStr
  stageManifestSha256 : PyStr
  runtimeSha256 : PyStr
  riskLevel : PyStr
  coreVersion : PyStr
  backupSlug : PyStr
deriving DecidableEq

namespace CandidateBackupCheckpoint

def plan (given : BackupPlan) (plannedAt : DateTime) : Except String CandidateBackupCheckpoint := do
  let deploymentId ← candidateBackupDeploymentId uuid5 given.target given.repositoryId
    given.candidateSha
  let moment ← timestamp invalid plannedAt
  (backupRow sha256 fromisoformat uuid5).sealing {
    candidateSha := given.candidateSha
    schemaVersion := schema
    orchestrationSha256 := given.orchestrationSha256
    fetchStageSha256 := given.fetchStageSha256
    integritySha256 := given.integritySha256
    dependencySha256 := given.dependencySha256
    riskSha256 := given.riskSha256
    staticSha256 := given.staticSha256
    semanticSha256 := given.semanticSha256
    target := given.target
    repositoryId := given.repositoryId
    baselineSha := given.baselineSha
    stageManifestSha256 := given.stageManifestSha256
    runtimeSha256 := given.runtimeSha256
    riskLevel := given.riskLevel
    coreVersion := given.coreVersion
    deploymentId := deploymentId
    requestName := requestNameOf given.candidateSha deploymentId
    phase := text "planned"
    backupSlug := none
    plannedAt := moment
    startedAt := none
    completedAt := none
    recordSha256 := List.replicate 64 48 }

variable (record : CandidateBackupCheckpoint)

def start (startedAt : DateTime) : Except String CandidateBackupCheckpoint := do
  record.validate sha256 uuid5
  if record.phase = text "planned" then
    let moment ← timestamp invalid startedAt
    let planned ← awareTime invalid record.plannedAt
    if ← optionallyBefore (some moment) planned then throw invalid
    (backupRow sha256 fromisoformat uuid5).sealing
      { record with phase := text "mutation_started", startedAt := some moment }
  else throw invalid

def markUncertain : Except String CandidateBackupCheckpoint := do
  record.validate sha256 uuid5
  if record.phase = text "mutation_started" then
    (backupRow sha256 fromisoformat uuid5).sealing { record with phase := text "uncertain" }
  else throw invalid

def complete (evidence : BackupEvidence) (completedAt : DateTime) :
    Except String CandidateBackupCheckpoint := do
  record.validate sha256 uuid5
  let expected : BackupEvidence := ⟨record.target, record.repositoryId, record.baselineSha,
    record.candidateSha, record.stageManifestSha256, record.runtimeSha256, record.riskLevel,
    record.coreVersion, evidence.backupSlug⟩
  if (record.phase = text "mutation_started" ∨ record.phase = text "uncertain") ∧
      evidence = expected ∧ ObservationChain.isSlug evidence.backupSlug then
    let moment ← timestamp invalid completedAt
    match record.startedAt with
    | none => throw invalid
    | some started =>
      let since ← awareTime invalid started
      if ← optionallyBefore (some moment) since then throw invalid
      (backupRow sha256 fromisoformat uuid5).sealing { record with
        phase := text "completed"
        backupSlug := some evidence.backupSlug
        completedAt := some moment }
  else throw invalid

def block (completedAt : DateTime) : Except String CandidateBackupCheckpoint := do
  record.validate sha256 uuid5
  if record.phase = text "planned" ∨ record.phase = text "uncertain" then
    let moment ← timestamp invalid completedAt
    let planned ← awareTime invalid record.plannedAt
    if ← optionallyBefore (some moment) planned then throw invalid
    (backupRow sha256 fromisoformat uuid5).sealing
      { record with phase := text "blocked", completedAt := some moment }
  else throw invalid

end CandidateBackupCheckpoint

/-- What becomes of a checkpoint. -/
inductive BackupTransition where
  | start (startedAt : DateTime)
  | markUncertain
  | complete (evidence : BackupEvidence) (completedAt : DateTime)
  | block (completedAt : DateTime)

def BackupTransition.replacement (transition : BackupTransition)
    (previous : CandidateBackupCheckpoint) : Except String CandidateBackupCheckpoint :=
  match transition with
  | .start startedAt => previous.start sha256 fromisoformat uuid5 startedAt
  | .markUncertain => previous.markUncertain sha256 fromisoformat uuid5
  | .complete evidence completedAt =>
    previous.complete sha256 fromisoformat uuid5 evidence completedAt
  | .block completedAt => previous.block sha256 fromisoformat uuid5 completedAt

/-- The columns that `UPDATE candidate_backup_checkpoint` sets. -/
def updateBackup (row : List Column) (replacement : CandidateBackupCheckpoint) :
    Except String (List Column) := do
  let startedAt ← optionalTime replacement.startedAt
  let completedAt ← optionalTime replacement.completedAt
  return (((((row.set 18 (.text replacement.phase)).set 19
    (optionalText replacement.backupSlug)).set 21 startedAt).set 22 completedAt).set 23
    (.text replacement.recordSha256))

inductive BackupWrite where
  | plan (given : BackupPlan) (plannedAt : DateTime)
  | transition (change : BackupTransition)

/-- `_record_plan`, `_transition_checkpoint` and `_finish_atomically`: what they make of the row of
the candidate. -/
def writeBackup (write : BackupWrite) (row : Option (List Column)) :
    Except String (Option (List Column)) := do
  match write, row with
  | .plan given plannedAt, none =>
    let planned ← CandidateBackupCheckpoint.plan sha256 fromisoformat uuid5 given plannedAt
    let inserted ← (backupRow sha256 fromisoformat uuid5).encode planned
    return some inserted
  | .plan _ _, some _ => throw "UNIQUE constraint failed: candidate_backup_checkpoint.candidate_sha"
  | .transition _, none => throw invalid
  | .transition change, some columns =>
    let previous ← (backupRow sha256 fromisoformat uuid5).decode columns
    let replacement ← change.replacement sha256 fromisoformat uuid5 previous
    let updated ← updateBackup columns replacement
    return some updated

end

/-! ## The codec is exact -/

section

variable {sha256 : List UInt8 → PyStr} {fromisoformat : PyStr → Option DateTime}
  {uuid5 : PyStr → PyStr}

theorem CandidateBackupCheckpoint.values_eq_ok {record : CandidateBackupCheckpoint}
    {columns : List Column} (written : record.values = .ok columns) :
    ∃ plannedAt startedAt completedAt, timeColumn record.plannedAt = .ok plannedAt ∧
      optionalTime record.startedAt = .ok startedAt ∧
      optionalTime record.completedAt = .ok completedAt ∧
      columns = [.text record.candidateSha, .integer record.schemaVersion,
        .text record.orchestrationSha256, .text record.fetchStageSha256,
        .text record.integritySha256, .text record.dependencySha256, .text record.riskSha256,
        .text record.staticSha256, .text record.semanticSha256, .text record.target,
        .integer record.repositoryId, .text record.baselineSha, .text record.stageManifestSha256,
        .text record.runtimeSha256, .text record.riskLevel, .text record.coreVersion,
        .text record.deploymentId, .text record.requestName, .text record.phase,
        optionalText record.backupSlug, plannedAt, startedAt, completedAt] := by
  obtain ⟨plannedAt, first, rest⟩ := bind_eq_ok.mp written
  obtain ⟨startedAt, second, rest⟩ := bind_eq_ok.mp rest
  obtain ⟨completedAt, third, rest⟩ := bind_eq_ok.mp rest
  cases rest
  exact ⟨plannedAt, startedAt, completedAt, first, second, third, rfl⟩

theorem CandidateBackupCheckpoint.wellFormed_of_validate {record : CandidateBackupCheckpoint}
    (passes : record.validate sha256 uuid5 = .ok ()) :
    isDeploymentId record.deploymentId = true ∧ ∃ expectedId, record.WellFormed expectedId := by
  unfold validate at passes
  split at passes
  next id =>
    obtain ⟨expectedId, -, rest⟩ := bind_eq_ok.mp passes
    split at rest
    next wellFormed => exact ⟨id, expectedId, wellFormed⟩
    next => cases rest
  next => cases passes

theorem backup_lawful : (backupRow sha256 fromisoformat uuid5).Lawful where
  values_under digest record := by cases digest <;> rfl
  under_under digest record := by cases digest <;> rfl

theorem backup_rereads (reads : WorkRows.ReadsBack fromisoformat) :
    (backupRow sha256 fromisoformat uuid5).Rereads := by
  intro record values digest written sealed
  obtain ⟨plannedAt, startedAt, completedAt, first, second, third, rfl⟩ :=
    CandidateBackupCheckpoint.values_eq_ok written
  obtain ⟨bytes, -, rfl⟩ := digestOf_text sealed
  simp only [backupRow, CandidateBackupCheckpoint.read, List.cons_append, List.nil_append,
    timeOf_timeColumn reads _ first, optional_time reads _ second, optional_time reads _ third,
    optional_text]
  rfl

theorem requestNameOf_ascii {candidateSha deploymentId : PyStr}
    (candidate : isAscii candidateSha = true) (deployment : isAscii deploymentId = true) :
    isAscii (requestNameOf candidateSha deploymentId) = true := by
  rw [isAscii_iff] at candidate deployment ⊢
  unfold requestNameOf
  simp only [List.forall_mem_append]
  exact ⟨⟨⟨by decide, fun c mem => candidate c (List.mem_of_mem_take mem)⟩, by decide⟩, deployment⟩

theorem CandidateBackupCheckpoint.values_plain {record : CandidateBackupCheckpoint}
    {columns : List Column} (passes : record.validate sha256 uuid5 = .ok ())
    (written : record.values = .ok columns) : ∀ column ∈ columns, column.plain = true := by
  obtain ⟨plannedAt, startedAt, completedAt, first, second, third, rfl⟩ := values_eq_ok written
  obtain ⟨id, expectedId, candidate, -, orchestration, fetch, integrity, dependency, risk, static,
    semantic, stage, runtime, -, target, -, -, baseline, -, level, core, same, name, phase, -, -, -,
    -, slug⟩ := wellFormed_of_validate passes
  have known : ∀ phase ∈ riskLevels ++ phases, isAscii phase = true := by decide
  have deployment := isDeploymentId_ascii id
  have request : isAscii record.requestName = true := by
    rw [name, ← same]
    exact requestNameOf_ascii (hexOf_ascii candidate) deployment
  simp only [List.forall_mem_cons]
  refine ⟨hexOf_ascii candidate, rfl, hexOf_ascii orchestration, hexOf_ascii fetch,
    hexOf_ascii integrity, hexOf_ascii dependency, hexOf_ascii risk, hexOf_ascii static,
    hexOf_ascii semantic, isTarget_ascii target, rfl, isObjectId_ascii baseline, hexOf_ascii stage,
    hexOf_ascii runtime, known _ (by simp [level]), isCoreRelease_ascii core, deployment, request,
    known _ (by simp [phase]), optionalText_plain fun value there => ?_, timeColumn_plain first,
    optionalTime_plain second, optionalTime_plain third, fun column none => nomatch none⟩
  rw [there] at slug
  exact isSlug_ascii slug

/-- A checkpoint no other bytes have the seal of. -/
def CandidateBackupCheckpoint.Apart (sha256 : List UInt8 → PyStr)
    (record : CandidateBackupCheckpoint) : Prop :=
  Unmatched sha256 record.values

/-- **The codec of checkpoints is exact.** -/
theorem backup_exact (reads : WorkRows.ReadsBack fromisoformat) :
    (backupRow sha256 fromisoformat uuid5).Exact (CandidateBackupCheckpoint.Apart sha256) := by
  refine SealedRow.exact (backup_rereads reads) fun record apart passes => ?_
  intro other values values' digest written passes' written' sealed sealed'
  unfold CandidateBackupCheckpoint.Apart at apart
  rw [show record.values = .ok values from written] at apart
  exact digest_injective apart (CandidateBackupCheckpoint.values_plain passes written)
    (CandidateBackupCheckpoint.values_plain passes' written') sealed sealed'

/-! ## Every write leaves a row that is read -/

/-- A replacement keeps what no `UPDATE` sets, and is sealed. -/
def Supersedes (sha256 : List UInt8 → PyStr) (fromisoformat : PyStr → Option DateTime)
    (uuid5 : PyStr → PyStr) (previous replacement : CandidateBackupCheckpoint) : Prop :=
  ∃ phase backupSlug startedAt completedAt,
    (backupRow sha256 fromisoformat uuid5).sealing { previous with
      phase := phase, backupSlug := backupSlug, startedAt := startedAt,
      completedAt := completedAt } = .ok replacement

/-- **Whatever becomes of a checkpoint supersedes it.** -/
theorem replacement_supersedes {change : BackupTransition}
    {previous replacement : CandidateBackupCheckpoint}
    (made : change.replacement sha256 fromisoformat uuid5 previous = .ok replacement) :
    Supersedes sha256 fromisoformat uuid5 previous replacement := by
  cases change with
  | start startedAt =>
    obtain ⟨⟨⟩, -, rest⟩ := bind_eq_ok.mp made
    split at rest
    next =>
      obtain ⟨moment, -, rest⟩ := bind_eq_ok.mp rest
      obtain ⟨planned, -, rest⟩ := bind_eq_ok.mp rest
      obtain ⟨early, -, rest⟩ := bind_eq_ok.mp rest
      cases early with
      | true => cases rest
      | false => exact ⟨_, _, _, _, rest⟩
    next => cases rest
  | markUncertain =>
    obtain ⟨⟨⟩, -, rest⟩ := bind_eq_ok.mp made
    split at rest
    next => exact ⟨_, _, _, _, rest⟩
    next => cases rest
  | complete evidence completedAt =>
    obtain ⟨⟨⟩, -, rest⟩ := bind_eq_ok.mp made
    dsimp only at rest
    split at rest
    next =>
      obtain ⟨moment, -, rest⟩ := bind_eq_ok.mp rest
      split at rest
      next => cases rest
      next =>
        obtain ⟨since, -, rest⟩ := bind_eq_ok.mp rest
        obtain ⟨early, -, rest⟩ := bind_eq_ok.mp rest
        cases early with
        | true => cases rest
        | false => exact ⟨_, _, _, _, rest⟩
    next => cases rest
  | block completedAt =>
    obtain ⟨⟨⟩, -, rest⟩ := bind_eq_ok.mp made
    split at rest
    next =>
      obtain ⟨moment, -, rest⟩ := bind_eq_ok.mp rest
      obtain ⟨planned, -, rest⟩ := bind_eq_ok.mp rest
      obtain ⟨early, -, rest⟩ := bind_eq_ok.mp rest
      cases early with
      | true => cases rest
      | false => exact ⟨_, _, _, _, rest⟩
    next => cases rest

theorem updateBackup_encodes {previous replacement : CandidateBackupCheckpoint}
    {row row' : List Column}
    (held : (backupRow sha256 fromisoformat uuid5).encode previous = .ok row)
    (supersedes : Supersedes sha256 fromisoformat uuid5 previous replacement)
    (updated : updateBackup row replacement = .ok row') :
    (backupRow sha256 fromisoformat uuid5).encode replacement = .ok row' := by
  obtain ⟨-, values, digest, written, -, rfl⟩ := SealedRow.encode_eq_ok.mp held
  obtain ⟨plannedAt, startedAt, completedAt, first, -, -, rfl⟩ :=
    CandidateBackupCheckpoint.values_eq_ok written
  obtain ⟨phase, backupSlug, started, completed, sealed⟩ := supersedes
  obtain ⟨values', digest', written', sealed', passes, rfl⟩ := SealedRow.sealing_eq_ok.mp sealed
  obtain ⟨bytes, -, rfl⟩ := digestOf_text sealed'
  obtain ⟨plannedAt', startedAt', completedAt', first', second', third', rfl⟩ :=
    CandidateBackupCheckpoint.values_eq_ok written'
  obtain ⟨column, second, rest⟩ := bind_eq_ok.mp updated
  obtain ⟨column', third, rest⟩ := bind_eq_ok.mp rest
  cases first.symm.trans first'
  cases second'.symm.trans second
  cases third'.symm.trans third
  cases rest
  exact SealedRow.encode_eq_ok.mpr ⟨passes, _, _, written', sealed', rfl⟩

theorem backup_writes : (backupRow sha256 fromisoformat uuid5).WritesValid
    (writeBackup sha256 fromisoformat uuid5) := by
  intro write row replacement written
  cases write with
  | plan given plannedAt =>
    cases row with
    | some columns => cases written
    | none =>
      obtain ⟨planned, made, rest⟩ := bind_eq_ok.mp written
      obtain ⟨inserted, encoded, rest⟩ := bind_eq_ok.mp rest
      cases rest
      obtain ⟨deploymentId, -, rest⟩ := bind_eq_ok.mp made
      obtain ⟨moment, -, sealed⟩ := bind_eq_ok.mp rest
      exact ⟨planned, SealedRow.valid_sealing backup_lawful sealed, encoded⟩
  | transition change =>
    cases row with
    | none => cases written
    | some columns =>
      obtain ⟨previous, loaded, rest⟩ := bind_eq_ok.mp written
      obtain ⟨next, made, rest⟩ := bind_eq_ok.mp rest
      obtain ⟨updated, columns', rest⟩ := bind_eq_ok.mp rest
      cases rest
      have supersedes := replacement_supersedes made
      have held := (SealedRow.decode_eq_ok.mp loaded).2
      refine ⟨next, ?_, updateBackup_encodes held supersedes columns'⟩
      obtain ⟨phase, backupSlug, started, completed, sealed⟩ := supersedes
      exact SealedRow.valid_sealing backup_lawful sealed

end

end Records

end SyncApp
