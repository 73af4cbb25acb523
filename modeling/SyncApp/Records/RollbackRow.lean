import SyncApp.Records.Columns

/-!
# Rows of the rollback journal

The record of a deployment's rollback, its row, and the two writes of it: the intent, and a
transition to the next phase. Both leave rows that are read again (`rollback_writes`), and the codec
is exact (`rollback_exact`).
-/

set_option autoImplicit false

namespace SyncApp

open Lib

namespace Records

open Raising
open ObservationChain (isDeploymentId)

structure DeploymentRollback where
  deploymentId : PyStr
  target : PyStr
  repositoryId : Int
  baselineSha : PyStr
  candidateSha : PyStr
  backupSlug : PyStr
  finalizationSha256 : PyStr
  repositoryProofSha256 : PyStr
  backupProofSha256 : PyStr
  phase : PyStr
  reconciliationState : PyStr
  blockReason : PyStr
  attemptCount : Int
  restoreJobId : Option PyStr
  authorizedAt : DateTime
  updatedAt : DateTime
  recordSha256 : PyStr
deriving DecidableEq

namespace DeploymentRollback

def invalid : String := "deployment rollback state is invalid"

def phases : List PyStr :=
  ["planned", "restore_started", "restore_acknowledged", "uncertain", "observing", "completed",
    "blocked"].map text

def reconciliationStates : List PyStr :=
  ["none", "not_started", "in_progress", "restored", "ambiguous"].map text

def blockReasons : List PyStr :=
  ["none", "invalid_authority", "backup_invalid", "repository_divergence", "restore_rejected",
    "ambiguous"].map text

/-- The phases in which no restore job is known. -/
def joblessPhases : List PyStr := ["planned", "restore_started", "uncertain", "blocked"].map text

/-- The times are aware, and the record was not updated before it was authorized. -/
def timesInOrder (record : DeploymentRollback) : Bool :=
  match record.authorizedAt, record.updatedAt with
  | .aware authorized, .aware updated => authorized ≤ updated
  | _, _ => false

/-- `validate`. -/
def WellFormed (record : DeploymentRollback) : Prop :=
  isDeploymentId record.deploymentId ∧ isTarget record.target ∧ 0 < record.repositoryId ∧
    isObjectId record.baselineSha ∧ isObjectId record.candidateSha ∧
    record.baselineSha ≠ record.candidateSha ∧ ObservationChain.isSlug record.backupSlug ∧
    isHash record.finalizationSha256 ∧ isHash record.repositoryProofSha256 ∧
    isHash record.backupProofSha256 ∧ isHash record.recordSha256 ∧ record.phase ∈ phases ∧
    record.reconciliationState ∈ reconciliationStates ∧ record.blockReason ∈ blockReasons ∧
    0 ≤ record.attemptCount ∧ record.attemptCount ≤ 8 ∧
    record.restoreJobId.all ObservationChain.isSlug ∧
    ¬(record.phase = text "restore_acknowledged" ∧ record.restoreJobId = none) ∧
    ¬(record.phase ∈ joblessPhases ∧ record.restoreJobId ≠ none) ∧ record.timesInOrder

instance (record : DeploymentRollback) : Decidable record.WellFormed := by
  unfold WellFormed
  infer_instance

def validate (record : DeploymentRollback) : Except String Unit :=
  if record.WellFormed then .ok () else .error invalid

/-- The columns that are sealed. -/
def values (record : DeploymentRollback) : Except String (List Column) := do
  let authorizedAt ← timeColumn record.authorizedAt
  let updatedAt ← timeColumn record.updatedAt
  return [.text record.deploymentId, .text record.target, .integer record.repositoryId,
    .text record.baselineSha, .text record.candidateSha, .text record.backupSlug,
    .text record.finalizationSha256, .text record.repositoryProofSha256,
    .text record.backupProofSha256, .text record.phase, .text record.reconciliationState,
    .text record.blockReason, .integer record.attemptCount, optionalText record.restoreJobId,
    authorizedAt, updatedAt]

/-- The record of `from_database_row`, before it is checked. -/
def read (fromisoformat : PyStr → Option DateTime) :
    List Column → Except String DeploymentRollback
  | [deploymentId, target, repositoryId, baselineSha, candidateSha, backupSlug, finalizationSha256,
      repositoryProofSha256, backupProofSha256, phase, reconciliationState, blockReason,
      attemptCount, restoreJobId, authorizedAt, updatedAt, recordSha256] => do
    return {
      repositoryId := ← integerOf invalid repositoryId
      attemptCount := ← integerOf invalid attemptCount
      authorizedAt := ← timeOf fromisoformat invalid authorizedAt
      updatedAt := ← timeOf fromisoformat invalid updatedAt
      deploymentId := ← textOf invalid deploymentId
      target := ← textOf invalid target
      baselineSha := ← textOf invalid baselineSha
      candidateSha := ← textOf invalid candidateSha
      backupSlug := ← textOf invalid backupSlug
      finalizationSha256 := ← textOf invalid finalizationSha256
      repositoryProofSha256 := ← textOf invalid repositoryProofSha256
      backupProofSha256 := ← textOf invalid backupProofSha256
      phase := ← textOf invalid phase
      reconciliationState := ← textOf invalid reconciliationState
      blockReason := ← textOf invalid blockReason
      restoreJobId := ← optional (textOf invalid) restoreJobId
      recordSha256 := ← textOf invalid recordSha256 }
  | _ => .error invalid

def under (digest : Column) (record : DeploymentRollback) : DeploymentRollback :=
  match digest with
  | .text value => { record with recordSha256 := value }
  | _ => record

end DeploymentRollback

section

variable (sha256 : List UInt8 → PyStr) (fromisoformat : PyStr → Option DateTime)

/-- `from_database_row` and `database_values` of a rollback. -/
def rollbackRow : SealedRow Column DeploymentRollback String where
  read := DeploymentRollback.read fromisoformat
  validate := DeploymentRollback.validate
  values := DeploymentRollback.values
  digest := digestOf sha256
  under := DeploymentRollback.under
  mismatch := DeploymentRollback.invalid

/-! ## Writes -/

/-- What a prepared deployment and its finalization say of the rollback. -/
structure RollbackIntent where
  deploymentId : PyStr
  target : PyStr
  repositoryId : Int
  baselineSha : PyStr
  candidateSha : PyStr
  backupSlug : PyStr
  finalizationSha256 : PyStr
  repositoryProofSha256 : PyStr
  backupProofSha256 : PyStr

/-- What a transition sets. -/
structure RollbackTransition where
  phase : PyStr
  reconciliationState : PyStr
  blockReason : PyStr
  attemptCount : Int
  restoreJobId : Option PyStr

/-- `DeploymentRollback.create`. -/
def createRollback (intent : RollbackIntent) (authorizedAt : DateTime) :
    Except String DeploymentRollback := do
  let moment ← timestamp DeploymentRollback.invalid authorizedAt
  (rollbackRow sha256 fromisoformat).sealing {
    deploymentId := intent.deploymentId
    target := intent.target
    repositoryId := intent.repositoryId
    baselineSha := intent.baselineSha
    candidateSha := intent.candidateSha
    backupSlug := intent.backupSlug
    finalizationSha256 := intent.finalizationSha256
    repositoryProofSha256 := intent.repositoryProofSha256
    backupProofSha256 := intent.backupProofSha256
    phase := text "planned"
    reconciliationState := text "none"
    blockReason := text "none"
    attemptCount := 0
    restoreJobId := none
    authorizedAt := moment
    updatedAt := moment
    recordSha256 := [] }

/-- The replacement that `_transition` makes of the record it has loaded. -/
def transitionRollback (current : DeploymentRollback) (change : RollbackTransition)
    (moment : DateTime) : Except String DeploymentRollback := do
  let updated ← timestamp DeploymentRollback.invalid moment
  (rollbackRow sha256 fromisoformat).sealing { current with
    phase := change.phase
    reconciliationState := change.reconciliationState
    blockReason := change.blockReason
    attemptCount := change.attemptCount
    restoreJobId := change.restoreJobId
    updatedAt := updated }

/-- The columns that `UPDATE deployment_rollback` sets. -/
def updateRollback (row : List Column) (replacement : DeploymentRollback) :
    Except String (List Column) := do
  let updatedAt ← timeColumn replacement.updatedAt
  return (((((((row.set 9 (.text replacement.phase)).set 10
    (.text replacement.reconciliationState)).set 11 (.text replacement.blockReason)).set 12
    (.integer replacement.attemptCount)).set 13 (optionalText replacement.restoreJobId)).set 15
    updatedAt).set 16 (.text replacement.recordSha256))

inductive RollbackWrite where
  | insertIntent (intent : RollbackIntent) (authorizedAt : DateTime)
  | transition (change : RollbackTransition) (moment : DateTime)

/-- `_insert_intent` and `_transition`: what they make of the row of the deployment. -/
def writeRollback (write : RollbackWrite) (row : Option (List Column)) :
    Except String (Option (List Column)) := do
  match write, row with
  | .insertIntent intent authorizedAt, none =>
    let requested ← createRollback sha256 fromisoformat intent authorizedAt
    let inserted ← (rollbackRow sha256 fromisoformat).encode requested
    return some inserted
  | .insertIntent _ _, some _ => return none
  | .transition _ _, none => throw "rollback intent is required"
  | .transition change moment, some columns =>
    let current ← (rollbackRow sha256 fromisoformat).decode columns
    let replacement ← transitionRollback sha256 fromisoformat current change moment
    let updated ← updateRollback columns replacement
    return some updated

end

/-! ## The codec is exact -/

section

variable {sha256 : List UInt8 → PyStr} {fromisoformat : PyStr → Option DateTime}

theorem DeploymentRollback.values_eq_ok {record : DeploymentRollback} {columns : List Column}
    (written : record.values = .ok columns) :
    ∃ authorizedAt updatedAt, timeColumn record.authorizedAt = .ok authorizedAt ∧
      timeColumn record.updatedAt = .ok updatedAt ∧
      columns = [.text record.deploymentId, .text record.target, .integer record.repositoryId,
        .text record.baselineSha, .text record.candidateSha, .text record.backupSlug,
        .text record.finalizationSha256, .text record.repositoryProofSha256,
        .text record.backupProofSha256, .text record.phase, .text record.reconciliationState,
        .text record.blockReason, .integer record.attemptCount, optionalText record.restoreJobId,
        authorizedAt, updatedAt] := by
  obtain ⟨authorizedAt, first, rest⟩ := bind_eq_ok.mp written
  obtain ⟨updatedAt, second, rest⟩ := bind_eq_ok.mp rest
  cases rest
  exact ⟨authorizedAt, updatedAt, first, second, rfl⟩

theorem DeploymentRollback.validate_ok {record : DeploymentRollback} :
    record.validate = .ok () ↔ record.WellFormed := by
  unfold validate
  split <;> simp_all

theorem rollback_lawful : (rollbackRow sha256 fromisoformat).Lawful where
  values_under digest record := by cases digest <;> rfl
  under_under digest record := by cases digest <;> rfl

theorem rollback_rereads (reads : WorkRows.ReadsBack fromisoformat) :
    (rollbackRow sha256 fromisoformat).Rereads := by
  intro record values digest written sealed
  obtain ⟨authorizedAt, updatedAt, first, second, rfl⟩ := DeploymentRollback.values_eq_ok written
  obtain ⟨bytes, -, rfl⟩ := digestOf_text sealed
  simp only [rollbackRow, DeploymentRollback.read, List.cons_append, List.nil_append,
    timeOf_timeColumn reads _ first, timeOf_timeColumn reads _ second, optional_text]
  rfl

theorem DeploymentRollback.values_plain {record : DeploymentRollback} {columns : List Column}
    (wellFormed : record.WellFormed) (written : record.values = .ok columns) :
    ∀ column ∈ columns, column.plain = true := by
  obtain ⟨authorizedAt, updatedAt, first, second, rfl⟩ := values_eq_ok written
  obtain ⟨id, target, -, baseline, candidate, -, slug, finalization, repository, backup, -, phase,
    state, reason, -, -, job, -⟩ := wellFormed
  have known : ∀ phase ∈ phases ++ reconciliationStates ++ blockReasons, isAscii phase = true := by
    decide
  simp only [List.forall_mem_cons]
  refine ⟨isDeploymentId_ascii id, isTarget_ascii target, rfl, isObjectId_ascii baseline,
    isObjectId_ascii candidate, isSlug_ascii slug, hexOf_ascii finalization,
    hexOf_ascii repository, hexOf_ascii backup, known _ (by simp [phase]), known _ (by simp [state]),
    known _ (by simp [reason]), rfl, optionalText_plain fun value there => ?_,
    timeColumn_plain first, timeColumn_plain second, fun column none => nomatch none⟩
  rw [there] at job
  exact isSlug_ascii job

/-- A rollback no other bytes have the seal of. -/
def DeploymentRollback.Apart (sha256 : List UInt8 → PyStr) (record : DeploymentRollback) : Prop :=
  Unmatched sha256 record.values

/-- **The codec of rollbacks is exact.** -/
theorem rollback_exact (reads : WorkRows.ReadsBack fromisoformat) :
    (rollbackRow sha256 fromisoformat).Exact (DeploymentRollback.Apart sha256) := by
  refine SealedRow.exact (rollback_rereads reads) fun record apart passes => ?_
  intro other values values' digest written passes' written' sealed sealed'
  unfold DeploymentRollback.Apart at apart
  rw [show record.values = .ok values from written] at apart
  exact digest_injective apart
    (DeploymentRollback.values_plain (DeploymentRollback.validate_ok.mp passes) written)
    (DeploymentRollback.values_plain (DeploymentRollback.validate_ok.mp passes') written') sealed
    sealed'

/-! ## Every write leaves a row that is read -/

theorem update_encodes {current replacement : DeploymentRollback} {change : RollbackTransition}
    {moment : DateTime} {row row' : List Column}
    (held : (rollbackRow sha256 fromisoformat).encode current = .ok row)
    (made : transitionRollback sha256 fromisoformat current change moment = .ok replacement)
    (updated : updateRollback row replacement = .ok row') :
    (rollbackRow sha256 fromisoformat).encode replacement = .ok row' := by
  obtain ⟨-, values, digest, written, -, rfl⟩ := SealedRow.encode_eq_ok.mp held
  obtain ⟨authorizedAt, updatedAt, first, -, rfl⟩ := DeploymentRollback.values_eq_ok written
  obtain ⟨moment, -, rest⟩ := bind_eq_ok.mp made
  obtain ⟨values', digest', written', sealed', passes, rfl⟩ := SealedRow.sealing_eq_ok.mp rest
  obtain ⟨bytes, -, rfl⟩ := digestOf_text sealed'
  obtain ⟨authorizedAt', updatedAt', first', second', rfl⟩ :=
    DeploymentRollback.values_eq_ok written'
  obtain ⟨column, third, rest⟩ := bind_eq_ok.mp updated
  cases first.symm.trans first'
  cases second'.symm.trans third
  cases rest
  exact SealedRow.encode_eq_ok.mpr ⟨passes, _, _, written', sealed', rfl⟩

theorem rollback_writes :
    (rollbackRow sha256 fromisoformat).WritesValid (writeRollback sha256 fromisoformat) := by
  intro write row replacement written
  cases write with
  | insertIntent intent authorizedAt =>
    cases row with
    | some columns => cases written
    | none =>
      obtain ⟨requested, made, rest⟩ := bind_eq_ok.mp written
      obtain ⟨inserted, encoded, rest⟩ := bind_eq_ok.mp rest
      cases rest
      obtain ⟨moment, -, sealed⟩ := bind_eq_ok.mp made
      exact ⟨requested, SealedRow.valid_sealing rollback_lawful sealed, encoded⟩
  | transition change moment =>
    cases row with
    | none => cases written
    | some columns =>
      obtain ⟨current, loaded, rest⟩ := bind_eq_ok.mp written
      obtain ⟨next, made, rest⟩ := bind_eq_ok.mp rest
      obtain ⟨updated, columns', rest⟩ := bind_eq_ok.mp rest
      cases rest
      have held := (SealedRow.decode_eq_ok.mp loaded).2
      refine ⟨next, ?_, update_encodes held made columns'⟩
      obtain ⟨moment, -, sealed⟩ := bind_eq_ok.mp made
      exact SealedRow.valid_sealing rollback_lawful sealed

end

end Records

end SyncApp
