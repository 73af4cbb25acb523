import SyncApp.LiveApply.Preconditions
import SyncApp.LiveApply.Journal

/-!
# The writer of one operation

The atomic helpers change one name of one directory: an exchange whose displaced file is verified,
a delete by way of a tombstone, a mode change through a verified descriptor. `applyLiveOperation`
proves the precondition, journals the operation, records the guard, mutates and verifies.

Closing descriptors has no effect and is left out. `entering` marks where `_mutate_operation` is
called.
-/

set_option autoImplicit false

namespace SyncApp

open Lib Raising App Sys

variable (hashing : Hashing)

/-! ## Atomic changes of one name -/

namespace AtomicLeaf

def safeLeaf (value : PyStr) : Bool :=
  value ≠ [] && value ≠ text "." && value ≠ text ".." && !value.contains slash && !value.contains 0

def exchangeLeaf (parent : Nat) (temporary target : PyStr) : Sys Unit := do
  require (safeLeaf temporary = true ∧ safeLeaf target = true ∧ temporary ≠ target)
    ⟨.atomicReplaceError, "atomic exchange leaf name is invalid"⟩
  onOsError (change fun fs => (fs.exchange parent temporary target).map fun fs => ((), fs)) fun errno =>
    match errno with
    | .nosys =>
      throw ⟨.atomicReplaceError, "atomic exchange is unavailable on this filesystem"⟩
    | _ => throw ⟨.osError errno, ""⟩

/-- The displaced name holds a regular file with exactly this mode and these bytes. -/
def verifyDisplacedLeaf (parent : Nat) (displaced : PyStr) (expectedObjectId : ObjectId)
    (expectedMode : GitMode) : Sys Bool :=
  if !safeLeaf displaced then pure false
  else onOsError (do
    let fd ← openAt parent displaced
    let info ← fstat fd
    match info.regularMode with
    | none => pure false
    | some mode =>
      let data ← readAll fd
      pure (gitMode mode = expectedMode ∧
        gitBlobObjectId hashing data expectedObjectId = expectedObjectId)) fun _ => pure false

/-- The guard's `exchange_verified_baseline`: a mismatch is exchanged back. -/
def exchangeVerifiedBaseline (parent : Nat) (temporary target : PyStr)
    (expectedObjectId : ObjectId) (expectedMode : GitMode) : Sys Unit := do
  exchangeLeaf parent temporary target
  if ← verifyDisplacedLeaf hashing parent temporary expectedObjectId expectedMode then pure ()
  else
    orRaise (exchangeLeaf parent temporary target) ⟨.atomicOutcomeUncertain,
      "live baseline changed and atomic exchange reversal is uncertain"⟩
    throw ⟨.atomicBaselineMismatch, "live baseline changed; atomic exchange was reversed"⟩

def commitVerifiedModifiedLeaf (parent : Nat) (temporary target : PyStr)
    (expectedObjectId : ObjectId) (expectedMode : GitMode) : Sys Unit := do
  exchangeVerifiedBaseline hashing parent temporary target expectedObjectId expectedMode
  unlinkAt parent temporary
  fsync parent

def renameNoReplace (parent : Nat) (source target : PyStr) : Sys Unit := do
  require (safeLeaf source = true ∧ safeLeaf target = true ∧ source ≠ target)
    ⟨.atomicDeleteError, "atomic delete leaf name is invalid"⟩
  onOsError (change fun fs => (fs.renameNoReplace parent source target).map fun fs => ((), fs))
    fun errno =>
      match errno with
      | .nosys => throw ⟨.atomicDeleteError, "atomic no-replace rename is unavailable"⟩
      | _ => throw ⟨.osError errno, ""⟩

def tombstoneOf (uuid : PyStr) : PyStr := text ".syncapp-delete-" ++ uuid ++ text ".tmp"

def commitVerifiedDeletedLeaf (parent : Nat) (target : PyStr) (expectedObjectId : ObjectId)
    (expectedMode : GitMode) : Sys Unit := do
  require (safeLeaf target = true) ⟨.atomicDeleteError, "atomic delete arguments are invalid"⟩
  let tombstone := tombstoneOf (← uuid4)
  onOsError (renameNoReplace parent target tombstone) fun errno =>
    match errno with
    | .noent =>
      throw ⟨.atomicDeleteBaselineMismatch, "live baseline changed before atomic delete"⟩
    | _ => throw ⟨.osError errno, ""⟩
  if ← verifyDisplacedLeaf hashing parent tombstone expectedObjectId expectedMode then
    onOsError (do unlinkAt parent tombstone; fsync parent) fun _ =>
      throw ⟨.atomicDeleteOutcomeUncertain, "verified delete tombstone cleanup failed"⟩
  else
    onOsError (do renameNoReplace parent tombstone target; fsync parent) fun _ =>
      throw ⟨.atomicDeleteOutcomeUncertain,
        "live baseline changed and atomic delete restoration is uncertain"⟩
    throw ⟨.atomicDeleteBaselineMismatch, "live baseline changed; atomic delete was reversed"⟩

def commitVerifiedModeLeaf (parent : Nat) (target : PyStr) (expectedObjectId : ObjectId)
    (expectedMode targetMode : GitMode) : Sys Unit := do
  require (safeLeaf target = true) ⟨.atomicModeError, "atomic mode arguments are invalid"⟩
  let fd ← onOsError (openAt parent target) fun _ =>
    throw ⟨.atomicModeBaselineMismatch, "live baseline changed before mode mutation"⟩
  let before ← fstat fd
  require (before.regularMode ≠ none)
    ⟨.atomicModeBaselineMismatch, "live baseline is not a regular file"⟩
  let data ← readAll fd
  require (before.regularMode.map gitMode = some expectedMode ∧
      gitBlobObjectId hashing data expectedObjectId = expectedObjectId)
    ⟨.atomicModeBaselineMismatch, "live baseline changed before mode mutation"⟩
  fchmod fd (modeBits targetMode)
  fsync fd
  let (named, _) ← onOsError (statAt parent target) fun _ =>
    throw ⟨.atomicModeOutcomeUncertain, "live name changed after mode mutation"⟩
  require (named = fd) ⟨.atomicModeOutcomeUncertain, "live name changed after mode mutation"⟩
  fsync parent

end AtomicLeaf

namespace LiveApplyWriter

open LiveApplyJournal AtomicLeaf

def reject {σ α : Type} (message : String) : Raising PyError σ α := throw ⟨.writerError, message⟩

/-- `_open_directory`. -/
def openDirectory (path : PyStr) : Sys Nat :=
  onOsError (openPath path) fun _ => reject "filesystem root is unavailable"

def walkParent (current : Nat) : List PyStr → Sys Nat
  | [] => pure current
  | part :: parts => do
    let next ← onOsError (openDirectoryAt current part) fun errno =>
      match errno with
      | .loop | .notdir => reject "filesystem path type is unsafe"
      | _ => reject "filesystem parent path is unavailable"
    walkParent next parts

def walkParents (current : Nat) : List PyStr → Sys (List Nat)
  | [] => pure []
  | part :: parts => do
    let next ← onOsError (openDirectoryAt current part) fun _ =>
      reject "filesystem parent path is unavailable"
    let rest ← walkParents next parts
    pure (next :: rest)

/-- `_parent_directory_identities`. -/
def parentDirectoryIdentities (root path : PyStr) : Sys (List Nat) := do
  let rootFd ← openDirectory root
  walkParents rootFd (splitPath path).dropLast

def preMutationMismatch {α : Type} : Sys α := throw ⟨.preMutationMismatch, ""⟩

/-- `_walk_parent_verified`, with one expected identity for each part. -/
def walkParentVerified (current : Nat) : List PyStr → List Nat → Sys Nat
  | [], [] => pure current
  | part :: parts, expected :: identities => do
    let next ← onOsError (openDirectoryAt current part) fun _ => preMutationMismatch
    require (next = expected) ⟨.preMutationMismatch, ""⟩
    walkParentVerified next parts identities
  | _, _ => preMutationMismatch

def temporaryOf (uuid : PyStr) : PyStr := text ".syncapp-apply-" ++ uuid ++ text ".tmp"

/-- Raises after the prepared file is removed; a failure to remove it is suppressed. -/
def cleaning {α : Type} (parent : Nat) (temporary : PyStr) (program : Sys α) : Sys α :=
  tryCatch program fun error => do
    onOsError (unlinkAt parent temporary) fun _ => pure ()
    throw error

def replaceBytes (parent : Nat) (name : PyStr) (data : List UInt8) (mode : GitMode)
    (operation : LiveApplyOperation) : Sys Unit := do
  let temporary := temporaryOf (← uuid4)
  let fd ← createAt parent temporary 0o600
  cleaning parent temporary do
    writeAll fd data
    fchmod fd (modeBits mode)
    fsync fd
  if operation.status = .added then
    cleaning parent temporary do
      linkAt parent temporary name
      unlinkAt parent temporary
    fsync parent
  else
    match operation.baselineObjectId, operation.baselineMode with
    | some baselineObjectId, some baselineMode =>
      -- an uncertain reversal leaves both names as they are for a later look
      tryCatch (commitVerifiedModifiedLeaf hashing parent temporary name baselineObjectId
        baselineMode) fun error =>
          match error.kind with
          | .atomicOutcomeUncertain => throw error
          | .atomicBaselineMismatch => cleaning parent temporary preMutationMismatch
          | _ => cleaning parent temporary (throw error)
    | _, _ => cleaning parent temporary (reject "modified baseline identity is invalid")

/-- `_mutate_operation`. -/
def mutateOperation (root : PyStr) (operation : LiveApplyOperation)
    (candidate : Option (List UInt8)) (expectedRootIdentity : Nat)
    (expectedParentIdentities : List Nat) : Sys Unit := do
  let parts := splitPath operation.path
  let rootFd ← openDirectory root
  require (rootFd = expectedRootIdentity) ⟨.preMutationMismatch, ""⟩
  let parent ← walkParentVerified rootFd parts.dropLast expectedParentIdentities
  let name := parts.getLastD []
  match operation.status with
  | .added | .modified | .modifiedAndModeChanged =>
    match candidate, operation.candidateMode with
    | some data, some mode => replaceBytes hashing parent name data mode operation
    | _, _ => reject "candidate mutation data is invalid"
  | .deleted =>
    match operation.baselineObjectId, operation.baselineMode with
    | some baselineObjectId, some baselineMode =>
      tryCatch (commitVerifiedDeletedLeaf hashing parent name baselineObjectId baselineMode)
        fun error => if error.kind = .atomicDeleteBaselineMismatch then preMutationMismatch
          else throw error
    | _, _ => reject "deleted baseline identity is invalid"
  | .modeChanged =>
    match operation.baselineObjectId, operation.baselineMode, operation.candidateMode with
    | some baselineObjectId, some baselineMode, some candidateMode =>
      tryCatch (commitVerifiedModeLeaf hashing parent name baselineObjectId baselineMode
        candidateMode) fun error =>
          if error.kind = .atomicModeBaselineMismatch then preMutationMismatch else throw error
    | _, _, _ => reject "mode baseline identity is invalid"

/-- `_verify_postcondition`. -/
def verifyPostcondition (root : PyStr) (operation : LiveApplyOperation) : Sys Unit := do
  let parts := splitPath operation.path
  let rootFd ← openDirectory root
  let parent ← walkParent rootFd parts.dropLast
  let name := parts.getLastD []
  let found ← onOsError (do return some (← statAt parent name)) fun errno =>
    if errno = .noent then pure none else throw ⟨.osError errno, ""⟩
  if operation.status = .deleted then
    require (found = none) ⟨.postconditionMismatch, ""⟩
  else
    match found.bind fun found => found.2.regularMode with
    | none => throw ⟨.postconditionMismatch, ""⟩
    | some _ =>
      let fd ← openAt parent name
      let opened ← fstat fd
      let data ← readAll fd
      match operation.candidateObjectId with
      | none => throw ⟨.postconditionMismatch, ""⟩
      | some candidateId =>
        require (gitBlobObjectId hashing data candidateId = candidateId ∧
            opened.regularMode.map gitMode = operation.candidateMode)
          ⟨.postconditionMismatch, ""⟩

/-! ## Evidence of the operation -/

def validateStageBinding (evidence : StagePrewriteEvidence) (stage : CandidateStage)
    (plan : LiveApplyPlan) (operation : LiveApplyOperation) : Sys Unit := do
  let binding := (evidence.target, evidence.repositoryId, evidence.candidateSha,
    evidence.stageManifestSha256)
  require (binding = (stage.target, stage.repositoryId, stage.commitSha, stage.manifestSha256) ∧
      binding = (plan.target, plan.repositoryId, plan.candidateSha, plan.stageManifestSha256))
    ⟨.writerError, "candidate Stage binding mismatch"⟩
  match operation.status, stage.entries.filter (·.path = operation.path) with
  | .deleted, matched =>
    require (matched = []) ⟨.writerError, "deleted path unexpectedly exists in candidate Stage"⟩
  | _, [entry] =>
    require (some entry.gitMode = operation.candidateMode ∧
        some entry.objectId = operation.candidateObjectId ∧
        some entry.size = operation.stagedSize ∧ some entry.sha256 = operation.stagedSha256)
      ⟨.writerError, "candidate Stage operation binding mismatch"⟩
  | _, _ => reject "candidate Stage operation entry is missing"

def candidateBytes (stage : CandidateStage) (operation : LiveApplyOperation) :
    Sys (Option (List UInt8)) := do
  if operation.status = .deleted then return none
  else
    let disk ← CandidateStages.readDisk stage.root ⟨.writerError, "filesystem root is unavailable"⟩
    let file ← ofResult (CandidateStages.stagedFile disk operation.path)
    require (file.regular = true) ⟨.writerError, "candidate Stage operation source is unsafe"⟩
    require (operation.stagedSize = some file.bytes.length ∧
        operation.stagedSha256 = some (hashing.sha256 file.bytes))
      ⟨.writerError, "candidate Stage operation source integrity mismatch"⟩
    match operation.candidateObjectId with
    | none => reject "candidate Stage operation source object mismatch"
    | some candidateId =>
      require (gitBlobObjectId hashing file.bytes candidateId = candidateId)
        ⟨.writerError, "candidate Stage operation source object mismatch"⟩
      return some file.bytes

/-- `_load_exact_intent`, over one read of the database. -/
def loadExactIntent (intent : LiveApplyIntent) : App PersistedLiveApplyIntent := do
  let persisted ← orRaise (query "Unable to read live Apply intent"
    (loadLiveApplyIntent · intent.deploymentId))
    ⟨.writerError, "durable live Apply intent is invalid"⟩
  match persisted with
  | none => reject "durable live Apply intent is missing"
  | some persisted =>
    require (persisted.intent = intent)
      ⟨.writerError, "durable live Apply intent binding mismatch"⟩
    return persisted

def validateOperationProof (proof : LiveApplyOperationPreconditionEvidence)
    (intent : LiveApplyIntent) (operation : LiveApplyOperation) (operationIndex : Nat) : Sys Unit :=
  require (proof = ⟨intent.deploymentId, intent.target, intent.repositoryId, intent.baselineSha,
      intent.candidateSha, intent.stageManifestSha256, intent.homeassistantRoot, operationIndex,
      operation.path, operation.baselineMode, operation.baselineObjectId⟩)
    ⟨.writerError, "live operation precondition proof binding mismatch"⟩

/-! ## One operation -/

structure LiveApplyWriterResult where
  status : ProgressPhase
  operationIndex : Nat
  operationPathSha256 : Digest
  replayed : Bool

def blockIfPossible (progress : LiveApplyProgress) (plan : LiveApplyPlan) : App Unit :=
  suppress do
    let blocked ← ofResult (transitionLiveApplyProgress progress .blocked)
    let _ ← recordLiveApplyProgress hashing blocked plan

/-- An operation that is verified already is answered from its row. -/
def replayedResult (plan : LiveApplyPlan) (operationIndex : Nat) : App LiveApplyWriterResult := do
  require (operationIndex < plan.operations.length) ⟨.writerError, "operation index is invalid"⟩
  let rows ← query "Unable to discover live Apply progress"
    (discoverLiveApplyProgress hashing plan.deploymentId)
  match rows.filter (·.progress.operationIndex = operationIndex) with
  | [row] =>
    require (row.progress.phase = .mutationVerified)
      ⟨.writerError, "live Apply recovery state is inconsistent"⟩
    return ⟨.mutationVerified, operationIndex, row.progress.operationPathSha256, true⟩
  | _ => reject "live Apply recovery state is inconsistent"

/-- The proof after journaling and the guard: what fails here blocks the operation. -/
def guardOperation (plan : LiveApplyPlan) (root : PyStr) (intent : LiveApplyIntent)
    (operation : LiveApplyOperation) (operationIndex : Nat) (progress : LiveApplyProgress) :
    App (Nat × List Nat) :=
  tryCatch (do
    let (rootIdentity, parentIdentities) ← onHost do
      let rootIdentity ← openDirectory root
      let parentIdentities ← parentDirectoryIdentities root operation.path
      let proof ← proveLiveApplyOperationPrecondition hashing plan root operationIndex
      validateOperationProof proof intent operation operationIndex
      return (rootIdentity, parentIdentities)
    let _ ← recordLiveApplyMutationGuard hashing progress plan rootIdentity parentIdentities
    return (rootIdentity, parentIdentities)) fun error => do
      blockIfPossible hashing progress plan
      match error.kind with
      | .operationPreconditionError | .writerError =>
        reject "live path precondition changed after journaling"
      | _ => reject "unable to persist live Apply mutation guard"

/-- The mutation and the look at its result. -/
def performOperation (plan : LiveApplyPlan) (root : PyStr) (operation : LiveApplyOperation)
    (candidate : Option (List UInt8)) (progress : LiveApplyProgress)
    (identities : Nat × List Nat) : App LiveApplyWriterResult := do
  entering progress.deploymentId progress.operationIndex
  tryCatch (onHost (mutateOperation hashing root operation candidate identities.1 identities.2))
    fun error => do
      if error.kind = .preMutationMismatch then
        blockIfPossible hashing progress plan
        reject "live path precondition changed after journaling"
      else reject "live Apply mutation outcome is uncertain"
  tryCatch (onHost (verifyPostcondition hashing root operation)) fun error => do
    if error.kind = .postconditionMismatch then
      blockIfPossible hashing progress plan
      reject "live Apply postcondition verification failed"
    else reject "live Apply postcondition outcome is uncertain"
  let verified ← ofResult (transitionLiveApplyProgress progress .mutationVerified)
  let durable ← orRaise (recordLiveApplyProgress hashing verified plan)
    ⟨.writerError, "live Apply mutation outcome is uncertain"⟩
  return ⟨durable.progress.phase, durable.progress.operationIndex,
    durable.progress.operationPathSha256, false⟩

def startOperation (stageEvidence : StagePrewriteEvidence) (stage : CandidateStage)
    (plan : LiveApplyPlan) (root : PyStr) (intent : LiveApplyIntent)
    (persisted : PersistedLiveApplyIntent) (operationIndex : Nat) : App LiveApplyWriterResult := do
  match plan.operations[operationIndex]? with
  | none => reject "operation index is invalid"
  | some operation =>
    let candidate ← onHost do
      orRaise (CandidateStages.verifyCandidateStage hashing stage)
        ⟨.writerError, "candidate Stage integrity re-verification failed"⟩
      validateStageBinding stageEvidence stage plan operation
      let candidate ← candidateBytes hashing stage operation
      let proof ← tryCatch (proveLiveApplyOperationPrecondition hashing plan root operationIndex)
        fun error => if error.kind = .operationPreconditionError then
          reject "live path precondition mismatch before journaling" else throw error
      validateOperationProof proof intent operation operationIndex
      return candidate
    let progress ← ofResult (startLiveApplyProgress hashing intent
      (recordSha256 hashing persisted) plan operationIndex)
    let _ ← orRaise (recordLiveApplyProgress hashing progress plan)
      ⟨.writerError, "unable to persist live Apply progress before mutation"⟩
    let identities ← guardOperation hashing plan root intent operation operationIndex progress
    performOperation hashing plan root operation candidate progress identities

def applyLiveOperation (authorization : ApplyAuthorization)
    (stageEvidence : StagePrewriteEvidence) (stage : CandidateStage) (plan : LiveApplyPlan)
    (preconditions : LiveApplyPreconditionEvidence) (operationIndex : Nat) :
    App LiveApplyWriterResult := do
  let intent ← orRaise (ofResult (LiveApplyIntents.deriveLiveApplyIntent hashing authorization
    stageEvidence plan preconditions)) ⟨.writerError, "live Apply evidence chain is invalid"⟩
  let persisted ← loadExactIntent intent
  let decision ← orRaise (query "Unable to discover live Apply progress"
    (discoverLiveApplyRecovery hashing plan))
    ⟨.writerError, "live Apply recovery state is invalid"⟩
  match decision with
  | .complete => replayedResult hashing plan operationIndex
  | .reconcileUncertain _ _ => reject "live Apply operation requires explicit reconciliation"
  | .blocked _ _ => reject "live Apply operation is blocked"
  | .startNext next _ =>
    require (next = operationIndex)
      ⟨.writerError, "operation is not the next safe live Apply action"⟩
    startOperation hashing stageEvidence stage plan preconditions.root intent persisted
      operationIndex

end LiveApplyWriter

end SyncApp
