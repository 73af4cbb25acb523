import SyncApp.Records.Columns

/-!
# Rows of the promotion journal

The record of a known-good promotion, its row, and the two writes of it: the plan, and the end that
a planned promotion comes to. Both leave rows that are read again (`promotion_writes`), and the
codec is exact (`promotion_exact`).
-/

set_option autoImplicit false

namespace SyncApp

open Lib

namespace Records

open Raising
open ObservationChain (isDeploymentId)

structure DeploymentPromotion where
  deploymentId : PyStr
  target : PyStr
  repositoryId : Int
  candidateSha : PyStr
  baselineSha : PyStr
  backupSlug : PyStr
  finalizationSha256 : PyStr
  knownGoodTag : PyStr
  phase : PyStr
  blockReason : PyStr
  plannedAt : DateTime
  terminalAt : Option DateTime
  recordSha256 : PyStr
deriving DecidableEq

namespace DeploymentPromotion

def invalid : String := "deployment promotion state is invalid"

def phases : List PyStr := ["planned", "completed", "blocked"].map text

def blockReasons : List PyStr := ["none", "ref_divergence"].map text

/-- What `validate` asks before it compares the times. -/
def WellFormed (record : DeploymentPromotion) : Prop :=
  isDeploymentId record.deploymentId ∧ isTarget record.target ∧ 0 < record.repositoryId ∧
    isObjectId record.candidateSha ∧ isObjectId record.baselineSha ∧
    record.candidateSha ≠ record.baselineSha ∧ ObservationChain.isSlug record.backupSlug ∧
    isHash record.finalizationSha256 ∧ isTag record.knownGoodTag ∧ record.phase ∈ phases ∧
    record.blockReason ∈ blockReasons ∧
    (record.phase = text "blocked" ↔ record.blockReason = text "ref_divergence") ∧
    (record.phase = text "completed" ∨ record.phase = text "blocked" ↔
      record.terminalAt.isSome = true)

instance (record : DeploymentPromotion) : Decidable record.WellFormed := by
  unfold WellFormed
  infer_instance

def validate (record : DeploymentPromotion) : Except String Unit := do
  if record.WellFormed then
    let planned ← awareTime invalid record.plannedAt
    if ← optionallyBefore record.terminalAt planned then throw invalid
    if isHash record.recordSha256 then return () else throw invalid
  else throw invalid

/-- The columns that are sealed. -/
def values (record : DeploymentPromotion) : Except String (List Column) := do
  let plannedAt ← timeColumn record.plannedAt
  let terminalAt ← optionalTime record.terminalAt
  return [.text record.deploymentId, .text record.target, .integer record.repositoryId,
    .text record.candidateSha, .text record.baselineSha, .text record.backupSlug,
    .text record.finalizationSha256, .text record.knownGoodTag, .text record.phase,
    .text record.blockReason, plannedAt, terminalAt]

/-- The record of `from_database_row`, before it is checked. -/
def read (fromisoformat : PyStr → Option DateTime) :
    List Column → Except String DeploymentPromotion
  | [deploymentId, target, repositoryId, candidateSha, baselineSha, backupSlug, finalizationSha256,
      knownGoodTag, phase, blockReason, plannedAt, terminalAt, recordSha256] => do
    return {
      repositoryId := ← integerOf invalid repositoryId
      plannedAt := ← timeOf fromisoformat invalid plannedAt
      terminalAt := ← optional (timeOf fromisoformat invalid) terminalAt
      deploymentId := ← textOf invalid deploymentId
      target := ← textOf invalid target
      candidateSha := ← textOf invalid candidateSha
      baselineSha := ← textOf invalid baselineSha
      backupSlug := ← textOf invalid backupSlug
      finalizationSha256 := ← textOf invalid finalizationSha256
      knownGoodTag := ← textOf invalid knownGoodTag
      phase := ← textOf invalid phase
      blockReason := ← textOf invalid blockReason
      recordSha256 := ← textOf invalid recordSha256 }
  | _ => .error invalid

def under (digest : Column) (record : DeploymentPromotion) : DeploymentPromotion :=
  match digest with
  | .text value => { record with recordSha256 := value }
  | _ => record

end DeploymentPromotion

section

variable (sha256 : List UInt8 → PyStr) (fromisoformat : PyStr → Option DateTime)

/-- `from_database_row` and `database_values` of a promotion. -/
def promotionRow : SealedRow Column DeploymentPromotion String where
  read := DeploymentPromotion.read fromisoformat
  validate := DeploymentPromotion.validate
  values := DeploymentPromotion.values
  digest := digestOf sha256
  under := DeploymentPromotion.under
  mismatch := DeploymentPromotion.invalid

/-! ## Writes -/

/-- `DeploymentPromotion.create`; the seal of what is given is not read. -/
def createPromotion (given : DeploymentPromotion) : Except String DeploymentPromotion := do
  let planned ← timestamp DeploymentPromotion.invalid given.plannedAt
  let terminal ← given.terminalAt.mapM (timestamp DeploymentPromotion.invalid)
  (promotionRow sha256 fromisoformat).sealing
    { given with plannedAt := planned, terminalAt := terminal }

/-- The columns that `UPDATE deployment_promotion` sets. -/
def updatePromotion (row : List Column) (replacement : DeploymentPromotion) :
    Except String (List Column) := do
  let terminalAt ← optionalTime replacement.terminalAt
  return ((((row.set 8 (.text replacement.phase)).set 9 (.text replacement.blockReason)).set 11
    terminalAt).set 12 (.text replacement.recordSha256))

inductive PromotionWrite where
  | insertPlan (requested : DeploymentPromotion)
  | setTerminal (phase : PyStr) (terminalAt : DateTime)

/-- `_insert_plan` and `_set_terminal`: what they make of the row of the deployment. -/
def writePromotion (write : PromotionWrite) (row : Option (List Column)) :
    Except String (Option (List Column)) := do
  match write, row with
  | .insertPlan given, none =>
    let requested ← createPromotion sha256 fromisoformat given
    let inserted ← (promotionRow sha256 fromisoformat).encode requested
    return some inserted
  | .insertPlan _, some _ => return none
  | .setTerminal _ _, none => throw DeploymentPromotion.invalid
  | .setTerminal phase terminalAt, some columns =>
    let current ← (promotionRow sha256 fromisoformat).decode columns
    let requested ← createPromotion sha256 fromisoformat { current with
      phase := phase
      blockReason := if phase = text "blocked" then text "ref_divergence" else text "none"
      terminalAt := some terminalAt }
    if current.phase = phase then return none
    else if current.phase ≠ text "planned" then throw DeploymentPromotion.invalid
    else
      let updated ← updatePromotion columns requested
      return some updated

end

/-! ## The codec is exact -/

section

variable {sha256 : List UInt8 → PyStr} {fromisoformat : PyStr → Option DateTime}

theorem DeploymentPromotion.values_eq_ok {record : DeploymentPromotion} {columns : List Column}
    (written : record.values = .ok columns) :
    ∃ plannedAt terminalAt, timeColumn record.plannedAt = .ok plannedAt ∧
      optionalTime record.terminalAt = .ok terminalAt ∧
      columns = [.text record.deploymentId, .text record.target, .integer record.repositoryId,
        .text record.candidateSha, .text record.baselineSha, .text record.backupSlug,
        .text record.finalizationSha256, .text record.knownGoodTag, .text record.phase,
        .text record.blockReason, plannedAt, terminalAt] := by
  obtain ⟨plannedAt, first, rest⟩ := bind_eq_ok.mp written
  obtain ⟨terminalAt, second, rest⟩ := bind_eq_ok.mp rest
  cases rest
  exact ⟨plannedAt, terminalAt, first, second, rfl⟩

theorem DeploymentPromotion.wellFormed_of_validate {record : DeploymentPromotion}
    (passes : record.validate = .ok ()) : record.WellFormed := by
  unfold validate at passes
  split at passes
  next wellFormed => exact wellFormed
  next => cases passes

theorem promotion_lawful : (promotionRow sha256 fromisoformat).Lawful where
  values_under digest record := by cases digest <;> rfl
  under_under digest record := by cases digest <;> rfl

theorem promotion_rereads (reads : WorkRows.ReadsBack fromisoformat) :
    (promotionRow sha256 fromisoformat).Rereads := by
  intro record values digest written sealed
  obtain ⟨plannedAt, terminalAt, first, second, rfl⟩ := DeploymentPromotion.values_eq_ok written
  obtain ⟨bytes, -, rfl⟩ := digestOf_text sealed
  simp only [promotionRow, DeploymentPromotion.read, List.cons_append, List.nil_append,
    timeOf_timeColumn reads _ first, optional_time reads _ second]
  rfl

theorem DeploymentPromotion.values_plain {record : DeploymentPromotion} {columns : List Column}
    (wellFormed : record.WellFormed) (written : record.values = .ok columns) :
    ∀ column ∈ columns, column.plain = true := by
  obtain ⟨plannedAt, terminalAt, first, second, rfl⟩ := values_eq_ok written
  obtain ⟨id, target, -, candidate, baseline, -, slug, finalization, tag, phase, reason, -⟩ :=
    wellFormed
  have known : ∀ phase ∈ phases ++ blockReasons, isAscii phase = true := by decide
  simp only [List.forall_mem_cons]
  exact ⟨isDeploymentId_ascii id, isTarget_ascii target, rfl, isObjectId_ascii candidate,
    isObjectId_ascii baseline, isSlug_ascii slug, hexOf_ascii finalization, isTag_ascii tag,
    known _ (by simp [phase]), known _ (by simp [reason]), timeColumn_plain first,
    optionalTime_plain second, fun column none => nomatch none⟩

/-- A promotion no other bytes have the seal of. -/
def DeploymentPromotion.Apart (sha256 : List UInt8 → PyStr) (record : DeploymentPromotion) : Prop :=
  Unmatched sha256 record.values

/-- **The codec of promotions is exact.** -/
theorem promotion_exact (reads : WorkRows.ReadsBack fromisoformat) :
    (promotionRow sha256 fromisoformat).Exact (DeploymentPromotion.Apart sha256) := by
  refine SealedRow.exact (promotion_rereads reads) fun record apart passes => ?_
  intro other values values' digest written passes' written' sealed sealed'
  unfold DeploymentPromotion.Apart at apart
  rw [show record.values = .ok values from written] at apart
  exact digest_injective apart
    (DeploymentPromotion.values_plain (DeploymentPromotion.wellFormed_of_validate passes) written)
    (DeploymentPromotion.values_plain (DeploymentPromotion.wellFormed_of_validate passes') written')
    sealed sealed'

/-! ## Every write leaves a row that is read -/

theorem createPromotion_valid {given requested : DeploymentPromotion}
    (made : createPromotion sha256 fromisoformat given = .ok requested) :
    (promotionRow sha256 fromisoformat).Valid requested := by
  obtain ⟨planned, -, rest⟩ := bind_eq_ok.mp made
  obtain ⟨terminal, -, sealed⟩ := bind_eq_ok.mp rest
  exact SealedRow.valid_sealing promotion_lawful sealed

theorem updatePromotion_encodes {current requested : DeploymentPromotion} {phase reason : PyStr}
    {terminalAt : DateTime} {row row' : List Column}
    (held : (promotionRow sha256 fromisoformat).encode current = .ok row)
    (made : createPromotion sha256 fromisoformat { current with
      phase := phase, blockReason := reason, terminalAt := some terminalAt } = .ok requested)
    (updated : updatePromotion row requested = .ok row') :
    (promotionRow sha256 fromisoformat).encode requested = .ok row' := by
  obtain ⟨-, values, digest, written, -, rfl⟩ := SealedRow.encode_eq_ok.mp held
  obtain ⟨plannedAt, ended, first, -, rfl⟩ := DeploymentPromotion.values_eq_ok written
  obtain ⟨planned, taken, rest⟩ := bind_eq_ok.mp made
  obtain rfl := timestamp_eq taken
  obtain ⟨terminal, -, rest⟩ := bind_eq_ok.mp rest
  obtain ⟨values', digest', written', sealed', passes, rfl⟩ := SealedRow.sealing_eq_ok.mp rest
  obtain ⟨bytes, -, rfl⟩ := digestOf_text sealed'
  obtain ⟨plannedAt', ended', first', second', rfl⟩ := DeploymentPromotion.values_eq_ok written'
  obtain ⟨column, third, rest⟩ := bind_eq_ok.mp updated
  cases first.symm.trans first'
  cases second'.symm.trans third
  cases rest
  exact SealedRow.encode_eq_ok.mpr ⟨passes, _, _, written', sealed', rfl⟩

theorem promotion_writes :
    (promotionRow sha256 fromisoformat).WritesValid (writePromotion sha256 fromisoformat) := by
  intro write row replacement written
  cases write with
  | insertPlan given =>
    cases row with
    | some columns => cases written
    | none =>
      obtain ⟨requested, made, rest⟩ := bind_eq_ok.mp written
      obtain ⟨inserted, encoded, rest⟩ := bind_eq_ok.mp rest
      cases rest
      exact ⟨requested, createPromotion_valid made, encoded⟩
  | setTerminal phase terminalAt =>
    cases row with
    | none => cases written
    | some columns =>
      obtain ⟨current, loaded, rest⟩ := bind_eq_ok.mp written
      obtain ⟨requested, made, rest⟩ := bind_eq_ok.mp rest
      split at rest
      next => cases rest
      next =>
        split at rest
        next => cases rest
        next =>
          obtain ⟨updated, columns', rest⟩ := bind_eq_ok.mp rest
          cases rest
          have held := (SealedRow.decode_eq_ok.mp loaded).2
          exact ⟨requested, createPromotion_valid made,
            updatePromotion_encodes held made columns'⟩

end

end Records

end SyncApp
