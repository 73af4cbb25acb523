import SyncApp.Records.Columns

/-!
# Rows of the live apply journal

The record of one operation's progress, its row, and the two writes of it: the start of the
operation, and the transition to what became of it. The transition is written without a check of the
replacement, so that its row is read again takes what `hexdigest` gives (`progress_writes`). The
codec is exact (`progress_exact`).
-/

set_option autoImplicit false

namespace SyncApp

open Lib

namespace Records

open Raising
open ObservationChain (isDeploymentId)

/-! ## Progress in memory -/

structure LiveApplyProgress where
  deploymentId : PyStr
  intentRecordSha256 : PyStr
  operationsSha256 : PyStr
  operationIndex : Int
  operationPathSha256 : PyStr
  phase : PyStr
deriving DecidableEq

namespace LiveApplyProgress

def phases : List PyStr := ["mutation_started", "mutation_verified", "blocked"].map text

/-- `_ALLOWED_TRANSITIONS`. -/
def allowedTransitions (phase : PyStr) : List PyStr :=
  if phase = text "mutation_started" then phases
  else if phase = text "mutation_verified" then [text "mutation_verified"]
  else if phase = text "blocked" then [text "blocked"]
  else []

/-- `LiveApplyProgress.create`. -/
def create (progress : LiveApplyProgress) : Except String LiveApplyProgress :=
  if ¬(1 ≤ progress.deploymentId.length ∧ progress.deploymentId.length ≤ 128) ∨
      progress.deploymentId.any (fun c => c < 0x20 || c = 0x7F) then
    .error "deployment identity is invalid"
  else if ¬isHash progress.intentRecordSha256 then .error "intent record binding is invalid"
  else if ¬isHash progress.operationsSha256 then .error "operations binding is invalid"
  else if progress.operationIndex < 0 then .error "operation index is invalid"
  else if ¬isHash progress.operationPathSha256 then .error "operation path binding is invalid"
  else if progress.phase ∉ phases then .error "phase is invalid"
  else .ok progress

end LiveApplyProgress

/-- `transition_live_apply_progress`. -/
def transitionLiveApplyProgress (current : LiveApplyProgress) (destination : PyStr) :
    Except String LiveApplyProgress :=
  if destination ∉ LiveApplyProgress.phases then .error "phase is invalid"
  else if destination ∉ LiveApplyProgress.allowedTransitions current.phase then
    .error "progress transition is not permitted"
  else if destination = current.phase then .ok current
  else LiveApplyProgress.create { current with phase := destination }

/-! ## Progress in the database -/

structure PersistedLiveApplyProgress where
  deploymentId : PyStr
  operationIndex : Int
  intentRecordSha256 : PyStr
  operationsSha256 : PyStr
  operationPathSha256 : PyStr
  phase : PyStr
  updatedAt : DateTime
  recordSha256 : PyStr
deriving DecidableEq

namespace PersistedLiveApplyProgress

def invalid : String := "Invalid live Apply progress record"

/-- `_validate`. -/
def WellFormed (record : PersistedLiveApplyProgress) : Prop :=
  isDeploymentId record.deploymentId ∧ 0 ≤ record.operationIndex ∧
    isHash record.intentRecordSha256 ∧ isHash record.operationsSha256 ∧
    isHash record.operationPathSha256 ∧ record.phase ∈ LiveApplyProgress.phases ∧
    record.updatedAt ≠ .naive ∧ isHash record.recordSha256

instance (record : PersistedLiveApplyProgress) : Decidable record.WellFormed := by
  unfold WellFormed
  infer_instance

def validate (record : PersistedLiveApplyProgress) : Except String Unit :=
  if record.WellFormed then .ok () else .error invalid

/-- The columns that are sealed. -/
def values (record : PersistedLiveApplyProgress) : Except String (List Column) := do
  let updatedAt ← timeColumn record.updatedAt
  return [.text record.deploymentId, .integer record.operationIndex,
    .text record.intentRecordSha256, .text record.operationsSha256,
    .text record.operationPathSha256, .text record.phase, updatedAt]

/-- The record of `from_database_row`, before it is checked. -/
def read (fromisoformat : PyStr → Option DateTime) :
    List Column → Except String PersistedLiveApplyProgress
  | [deploymentId, operationIndex, intentRecordSha256, operationsSha256, operationPathSha256, phase,
      updatedAt, recordSha256] => do
    return {
      deploymentId := ← textOf invalid deploymentId
      intentRecordSha256 := ← textOf invalid intentRecordSha256
      operationsSha256 := ← textOf invalid operationsSha256
      operationPathSha256 := ← textOf invalid operationPathSha256
      phase := ← textOf invalid phase
      recordSha256 := ← textOf invalid recordSha256
      operationIndex := ← integerOf invalid operationIndex
      updatedAt := ← timeOf fromisoformat invalid updatedAt }
  | _ => .error invalid

def under (digest : Column) (record : PersistedLiveApplyProgress) : PersistedLiveApplyProgress :=
  match digest with
  | .text value => { record with recordSha256 := value }
  | _ => record

/-- `progress`. -/
def progress (record : PersistedLiveApplyProgress) : Except String LiveApplyProgress := do
  record.validate
  LiveApplyProgress.create {
    deploymentId := record.deploymentId
    intentRecordSha256 := record.intentRecordSha256
    operationsSha256 := record.operationsSha256
    operationIndex := record.operationIndex
    operationPathSha256 := record.operationPathSha256
    phase := record.phase }

/-- `_same_operation`. -/
def SameOperation (left right : PersistedLiveApplyProgress) : Prop :=
  left.deploymentId = right.deploymentId ∧ left.operationIndex = right.operationIndex ∧
    left.intentRecordSha256 = right.intentRecordSha256 ∧
    left.operationsSha256 = right.operationsSha256 ∧
    left.operationPathSha256 = right.operationPathSha256

instance (left right : PersistedLiveApplyProgress) : Decidable (left.SameOperation right) := by
  unfold SameOperation
  infer_instance

end PersistedLiveApplyProgress

section

variable (sha256 : List UInt8 → PyStr) (fromisoformat : PyStr → Option DateTime)

/-- `from_database_row` and `database_values` of progress. -/
def progressRow : SealedRow Column PersistedLiveApplyProgress String where
  read := PersistedLiveApplyProgress.read fromisoformat
  validate := PersistedLiveApplyProgress.validate
  values := PersistedLiveApplyProgress.values
  digest := digestOf sha256
  under := PersistedLiveApplyProgress.under
  mismatch := PersistedLiveApplyProgress.invalid

/-! ## Writes -/

/-- `from_progress`. -/
def fromProgress (progress : LiveApplyProgress) (updatedAt : DateTime) :
    Except String PersistedLiveApplyProgress := do
  let moment ← timestamp "Live Apply progress timestamp must include a timezone" updatedAt
  let record : PersistedLiveApplyProgress := {
    deploymentId := progress.deploymentId
    operationIndex := progress.operationIndex
    intentRecordSha256 := progress.intentRecordSha256
    operationsSha256 := progress.operationsSha256
    operationPathSha256 := progress.operationPathSha256
    phase := progress.phase
    updatedAt := moment
    recordSha256 := [] }
  let values ← record.values
  let digest ← digestOf sha256 values
  return PersistedLiveApplyProgress.under digest record

/-- The columns that `UPDATE live_apply_progress` sets. -/
def updateProgress (row : List Column) (replacement : PersistedLiveApplyProgress) :
    Except String (List Column) := do
  let updatedAt ← timeColumn replacement.updatedAt
  return (((row.set 5 (.text replacement.phase)).set 6 updatedAt).set 7
    (.text replacement.recordSha256))

structure ProgressWrite where
  progress : LiveApplyProgress
  updatedAt : DateTime

/-- `record_live_apply_progress`: what it makes of the row of the operation. What it asks of the
intent and of the other operations' rows only refuses more. -/
def writeProgress (write : ProgressWrite) (row : Option (List Column)) :
    Except String (Option (List Column)) := do
  let requested ← fromProgress sha256 write.progress write.updatedAt
  match row with
  | some columns =>
    let existing ← (progressRow sha256 fromisoformat).decode columns
    if ¬existing.SameOperation requested then throw "Live Apply progress cannot be rebound"
    else if existing.phase = requested.phase then return none
    else
      let current ← existing.progress
      let transitioned ← transitionLiveApplyProgress current requested.phase
      let replacement ← fromProgress sha256 transitioned write.updatedAt
      let updated ← updateProgress columns replacement
      return some updated
  | none =>
    if write.progress.phase ≠ text "mutation_started" then
      throw "New live Apply progress must start before mutation"
    else
      let inserted ← (progressRow sha256 fromisoformat).encode requested
      return some inserted

end

/-! ## The codec is exact -/

section

variable {sha256 : List UInt8 → PyStr} {fromisoformat : PyStr → Option DateTime}

theorem PersistedLiveApplyProgress.values_eq_ok {record : PersistedLiveApplyProgress}
    {columns : List Column} (written : record.values = .ok columns) :
    ∃ updatedAt, timeColumn record.updatedAt = .ok updatedAt ∧
      columns = [.text record.deploymentId, .integer record.operationIndex,
        .text record.intentRecordSha256, .text record.operationsSha256,
        .text record.operationPathSha256, .text record.phase, updatedAt] := by
  obtain ⟨updatedAt, first, rest⟩ := bind_eq_ok.mp written
  cases rest
  exact ⟨updatedAt, first, rfl⟩

theorem PersistedLiveApplyProgress.validate_ok {record : PersistedLiveApplyProgress} :
    record.validate = .ok () ↔ record.WellFormed := by
  unfold validate
  split <;> simp_all

theorem progress_lawful : (progressRow sha256 fromisoformat).Lawful where
  values_under digest record := by cases digest <;> rfl
  under_under digest record := by cases digest <;> rfl

theorem progress_rereads (reads : WorkRows.ReadsBack fromisoformat) :
    (progressRow sha256 fromisoformat).Rereads := by
  intro record values digest written sealed
  obtain ⟨updatedAt, first, rfl⟩ := PersistedLiveApplyProgress.values_eq_ok written
  obtain ⟨bytes, -, rfl⟩ := digestOf_text sealed
  simp only [progressRow, PersistedLiveApplyProgress.read, List.cons_append, List.nil_append,
    timeOf_timeColumn reads _ first]
  rfl

theorem PersistedLiveApplyProgress.values_plain {record : PersistedLiveApplyProgress}
    {columns : List Column} (wellFormed : record.WellFormed)
    (written : record.values = .ok columns) : ∀ column ∈ columns, column.plain = true := by
  obtain ⟨updatedAt, first, rfl⟩ := values_eq_ok written
  obtain ⟨id, -, intent, operations, path, phase, -⟩ := wellFormed
  have known : ∀ phase ∈ LiveApplyProgress.phases, isAscii phase = true := by decide
  simp only [List.forall_mem_cons]
  exact ⟨isDeploymentId_ascii id, rfl, hexOf_ascii intent, hexOf_ascii operations,
    hexOf_ascii path, known _ phase, timeColumn_plain first, fun column none => nomatch none⟩

/-- Progress no other bytes have the seal of. -/
def PersistedLiveApplyProgress.Apart (sha256 : List UInt8 → PyStr)
    (record : PersistedLiveApplyProgress) : Prop :=
  Unmatched sha256 record.values

/-- **The codec of progress is exact.** -/
theorem progress_exact (reads : WorkRows.ReadsBack fromisoformat) :
    (progressRow sha256 fromisoformat).Exact (PersistedLiveApplyProgress.Apart sha256) := by
  refine SealedRow.exact (progress_rereads reads) fun record apart passes => ?_
  intro other values values' digest written passes' written' sealed sealed'
  unfold PersistedLiveApplyProgress.Apart at apart
  rw [show record.values = .ok values from written] at apart
  exact digest_injective apart
    (PersistedLiveApplyProgress.values_plain (PersistedLiveApplyProgress.validate_ok.mp passes)
      written)
    (PersistedLiveApplyProgress.values_plain (PersistedLiveApplyProgress.validate_ok.mp passes')
      written') sealed sealed'

/-! ## Every write leaves a row that is read -/

/-- `from_progress` makes a record that is written, under its own seal. -/
theorem fromProgress_eq_ok {progress : LiveApplyProgress} {updatedAt : DateTime}
    {record : PersistedLiveApplyProgress}
    (made : fromProgress sha256 progress updatedAt = .ok record) :
    ∃ bytes column, payload [.text progress.deploymentId, .integer progress.operationIndex,
        .text progress.intentRecordSha256, .text progress.operationsSha256,
        .text progress.operationPathSha256, .text progress.phase, column] = .ok bytes ∧
      timeColumn updatedAt = .ok column ∧
      record = ⟨progress.deploymentId, progress.operationIndex, progress.intentRecordSha256,
        progress.operationsSha256, progress.operationPathSha256, progress.phase, updatedAt,
        sha256 bytes⟩ := by
  obtain ⟨moment, taken, rest⟩ := bind_eq_ok.mp made
  obtain rfl := timestamp_eq taken
  obtain ⟨values, written, rest⟩ := bind_eq_ok.mp rest
  obtain ⟨column, first, rfl⟩ := PersistedLiveApplyProgress.values_eq_ok written
  obtain ⟨digest, sealed, rest⟩ := bind_eq_ok.mp rest
  obtain ⟨bytes, spelled, rfl⟩ := digestOf_text sealed
  cases rest
  exact ⟨bytes, column, spelled, first, rfl⟩

/-- Such a record passes its check where its values do, as a digest is hexadecimal. -/
theorem fromProgress_valid (hashes : ∀ bytes, isHash (sha256 bytes) = true)
    {progress : LiveApplyProgress} {updatedAt : DateTime} {record : PersistedLiveApplyProgress}
    (made : fromProgress sha256 progress updatedAt = .ok record)
    (id : isDeploymentId progress.deploymentId = true) (index : 0 ≤ progress.operationIndex)
    (intent : isHash progress.intentRecordSha256 = true)
    (operations : isHash progress.operationsSha256 = true)
    (path : isHash progress.operationPathSha256 = true)
    (phase : progress.phase ∈ LiveApplyProgress.phases) :
    (progressRow sha256 fromisoformat).Valid record := by
  obtain ⟨bytes, column, spelled, first, rfl⟩ := fromProgress_eq_ok made
  have aware : updatedAt ≠ .naive := by
    rintro rfl
    cases first
  refine ⟨PersistedLiveApplyProgress.validate_ok.mpr
    ⟨id, index, intent, operations, path, phase, aware, hashes bytes⟩, _, .text (sha256 bytes),
    bind_eq_ok.mpr ⟨column, first, rfl⟩, bind_eq_ok.mpr ⟨bytes, spelled, rfl⟩, rfl⟩

theorem create_eq_ok {progress made : LiveApplyProgress}
    (created : LiveApplyProgress.create progress = .ok made) :
    made = progress ∧ isHash progress.intentRecordSha256 = true ∧
      isHash progress.operationsSha256 = true ∧ 0 ≤ progress.operationIndex ∧
      isHash progress.operationPathSha256 = true ∧ progress.phase ∈ LiveApplyProgress.phases := by
  unfold LiveApplyProgress.create at created
  split at created
  next => cases created
  split at created
  next => cases created
  next intent =>
  split at created
  next => cases created
  next operations =>
  split at created
  next => cases created
  next index =>
  split at created
  next => cases created
  next path =>
  split at created
  next => cases created
  next phase =>
  cases created
  exact ⟨rfl, not_not.mp intent, not_not.mp operations, not_lt.mp index, not_not.mp path,
    not_not.mp phase⟩

/-- A transition changes the phase alone, to one of the phases. -/
theorem transition_eq_ok {current next : LiveApplyProgress} {destination : PyStr}
    (made : transitionLiveApplyProgress current destination = .ok next) :
    next = { current with phase := destination } ∧ destination ∈ LiveApplyProgress.phases := by
  unfold transitionLiveApplyProgress at made
  split at made
  next => cases made
  next known =>
  split at made
  next => cases made
  split at made
  next same =>
    cases made
    exact ⟨by rw [same], not_not.mp known⟩
  next => exact ⟨(create_eq_ok made).1, not_not.mp known⟩

theorem progress_writes (hashes : ∀ bytes, isHash (sha256 bytes) = true) :
    (progressRow sha256 fromisoformat).WritesValid (writeProgress sha256 fromisoformat) := by
  intro write row replacement written
  obtain ⟨requested, made, rest⟩ := bind_eq_ok.mp written
  cases row with
  | none =>
    dsimp only at rest
    split at rest
    next => cases rest
    next =>
      obtain ⟨inserted, encoded, rest⟩ := bind_eq_ok.mp rest
      cases rest
      obtain ⟨bytes, column, spelled, first, rfl⟩ := fromProgress_eq_ok made
      exact ⟨_, ⟨(SealedRow.encode_eq_ok.mp encoded).1, _, .text (sha256 bytes),
        bind_eq_ok.mpr ⟨column, first, rfl⟩, bind_eq_ok.mpr ⟨bytes, spelled, rfl⟩, rfl⟩, encoded⟩
  | some columns =>
    obtain ⟨existing, loaded, rest⟩ := bind_eq_ok.mp rest
    split at rest
    next => cases rest
    split at rest
    next => cases rest
    obtain ⟨current, known, rest⟩ := bind_eq_ok.mp rest
    obtain ⟨transitioned, moved, rest⟩ := bind_eq_ok.mp rest
    obtain ⟨next, remade, rest⟩ := bind_eq_ok.mp rest
    obtain ⟨updated, columns', rest⟩ := bind_eq_ok.mp rest
    cases rest
    obtain ⟨⟨⟩, passes, created⟩ := bind_eq_ok.mp known
    obtain ⟨rfl, intent, operations, index, path, -⟩ := create_eq_ok created
    obtain ⟨rfl, phase⟩ := transition_eq_ok moved
    have id := (PersistedLiveApplyProgress.validate_ok.mp passes).1
    have valid : (progressRow sha256 fromisoformat).Valid next :=
      fromProgress_valid hashes remade id index intent operations path phase
    obtain ⟨-, values, digest, held, -, rfl⟩ :=
      SealedRow.encode_eq_ok.mp (SealedRow.decode_eq_ok.mp loaded).2
    obtain ⟨before, -, rfl⟩ := PersistedLiveApplyProgress.values_eq_ok held
    obtain ⟨bytes, column, spelled, first, rfl⟩ := fromProgress_eq_ok remade
    obtain ⟨column', second, rest⟩ := bind_eq_ok.mp columns'
    cases first.symm.trans second
    cases rest
    exact ⟨_, valid, SealedRow.encode_eq_ok.mpr ⟨valid.1, _, .text (sha256 bytes),
      bind_eq_ok.mpr ⟨column, first, rfl⟩, bind_eq_ok.mpr ⟨bytes, spelled, rfl⟩, rfl⟩⟩

end

end Records

end SyncApp
