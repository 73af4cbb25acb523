import SyncApp.LiveApply.Host

/-!
# Staged candidates, plans and path preconditions

`verifyCandidateStage` binds a stage to the bytes on disk again; `buildLiveApplyPlan` derives the
ordered operations from a verified stage and the changes; `proveLiveApplyPreconditions` walks the
live tree to each path of a plan and compares what stands there with the baseline, and
`proveLiveApplyOperationPrecondition` does so for one operation.

A path of an added operation may end before its last name: where a parent directory is missing,
the proof accepts the operation (`openParentChain` answers `none`).
-/

set_option autoImplicit false

namespace SyncApp

open Lib Raising Sys

variable (hashing : Hashing)

/-! ## Staged candidates -/

namespace CandidateStages

def reject {α : Type} (message : String) : Except PyError α := .error ⟨.stageError, message⟩

/-- The entries are safe and in strictly increasing order; `previous` is the key before. -/
def validateEntries : Option PyStr → List CandidateStageEntry → Except PyError Unit
  | _, [] => .ok ()
  | previous, entry :: entries => do
    if !safePath entry.path then reject "candidate Git tree contains an unsafe path"
    else
      let key ← encodeUtf8 entry.path
      if previous.any fun before => key ≤ before then
        reject "candidate staging evidence is not canonically ordered"
      else validateEntries (some key) entries

def validateStageEvidence (stage : CandidateStage) : Except PyError Unit :=
  if stage.target = [] ∨ stage.repositoryId ≤ 0 ∨ stage.branch ≠ text "candidate" then
    reject "candidate staging evidence is invalid"
  else validateEntries none stage.entries

/-- `_manifest_bytes`, as the document it writes. -/
def manifestOf (stage : CandidateStage) : StageManifest :=
  ⟨stage.target, stage.repositoryId, stage.branch, stage.commitSha, stage.entries⟩

/-- The directories above the entries, the root among them. -/
def expectedDirectories (entries : List CandidateStageEntry) : List PyStr :=
  [] :: entries.flatMap fun entry =>
    (splitPath entry.path).dropLast.inits.tail.map asPosix

def verifyStagedFile (file : StagedFile) (entry : CandidateStageEntry) : Except PyError Unit :=
  let expectedMode := if entry.gitMode = .executable then 0o700 else 0o600
  if !file.regular ∨ !file.owned ∨ file.mode ≠ expectedMode ∨ file.bytes.length ≠ entry.size ∨
      hashing.sha256 file.bytes ≠ entry.sha256 then
    reject "candidate staged file does not match integrity evidence"
  else .ok ()

def verifyStagedFiles (entries : List CandidateStageEntry) :
    List (PyStr × StagedFile) → Except PyError Unit
  | [] => .ok ()
  | (path, file) :: files => do
    match entries.find? (·.path = path) with
    | none => reject "candidate staging contains an unexpected file"
    | some entry =>
      verifyStagedFile hashing file entry
      verifyStagedFiles entries files

def walkStagedTree (entries : List CandidateStageEntry) :
    List StagedDirectory → Except PyError Unit
  | [] => .ok ()
  | directory :: directories => do
    if !directory.isPrivate ∨ !(expectedDirectories entries).contains directory.path then
      reject "candidate staging contains an unsafe directory"
    else
      verifyStagedFiles hashing entries directory.files
      walkStagedTree entries directories

/-- `_verify_staged_tree`: every directory and file is expected, and none is missing. -/
def verifyStagedTree (disk : StageDisk) (entries : List CandidateStageEntry) :
    Except PyError Unit := do
  walkStagedTree hashing entries disk.directories
  let files := disk.directories.flatMap fun directory => directory.files.map (·.1)
  let directories := disk.directories.map (·.path)
  if (entries.all fun entry => files.contains entry.path) ∧
      (expectedDirectories entries).all (directories.contains ·) then .ok ()
  else reject "candidate staging file set does not match integrity evidence"

/-- Reads the staging root; a failure has the class and the text of the step that reads. -/
def readDisk (root : PyStr) (refused : PyError) : Sys StageDisk :=
  orRaise (stageDisk root) refused

def verifyCandidateStage (stage : CandidateStage) : Sys Unit := do
  ofResult (validateStageEvidence stage)
  let disk ← readDisk stage.root
    ⟨.stageError, "candidate staging evidence paths are unavailable"⟩
  require (disk.isPrivate = true) ⟨.stageError, "candidate staging evidence paths are unsafe"⟩
  let disk ← readDisk stage.root ⟨.stageError, "candidate staging manifest is unavailable"⟩
  require (disk.manifest = some (manifestOf stage))
    ⟨.stageError, "candidate staging manifest does not match evidence"⟩
  require (hashing.manifestSha256 (manifestOf stage) = stage.manifestSha256)
    ⟨.stageError, "candidate staging manifest digest does not match evidence"⟩
  let disk ← readDisk stage.root ⟨.stageError, "candidate staging verification failed"⟩
  ofResult (verifyStagedTree hashing disk stage.entries)

/-- The file of a staging tree at a path; the errors are those of a walk that opens each parent. -/
def stagedFile (disk : StageDisk) (path : PyStr) : Except PyError StagedFile :=
  match disk.directories.find? (·.path = asPosix (splitPath path).dropLast) with
  | none => .error ⟨.writerError, "filesystem parent path is unavailable"⟩
  | some directory =>
    match directory.files.find? (·.1 = path) with
    | none => .error ⟨.writerError, "candidate Stage operation source is unavailable"⟩
    | some (_, file) => .ok file

end CandidateStages

/-! ## The plan -/

open LiveApplyPlanner in
/-- The changes that hold during the call are not re-read: the evidence is immutable. -/
def buildLiveApplyPlan (evidence : StagePrewriteEvidence) (stage : CandidateStage)
    (changes : CandidateChanges) : Sys LiveApplyPlan := do
  ofResult (validateBindings evidence stage changes)
  orRaise (CandidateStages.verifyCandidateStage hashing stage)
    ⟨.planError, "candidate Stage integrity re-verification failed"⟩
  let operations ← ofResult (buildOperations stage.entries changes.changes)
  return {
    deploymentId := evidence.deploymentId
    target := evidence.target
    repositoryId := evidence.repositoryId
    baselineSha := changes.baselineSha
    candidateSha := evidence.candidateSha
    stageManifestSha256 := evidence.stageManifestSha256
    operations := operations
  }

/-! ## Path preconditions -/

namespace LiveApplyPreconditions

def reject {α : Type} (message : String) : Except PyError α :=
  .error ⟨.preconditionError, message⟩

/-- The checks of each operation; `seen` are the paths before it. -/
def validateEach (seen : List PyStr) : List LiveApplyOperation → Except PyError Unit
  | [] => .ok ()
  | operation :: operations =>
    if !safePath operation.path then reject "Apply plan path is unsafe"
    else if seen.contains operation.path then
      reject "Apply plan contains duplicate affected paths"
    else if operation.status = .added then
      if operation.baselineMode ≠ none ∨ operation.baselineObjectId ≠ none then
        reject "Apply plan baseline precondition is invalid"
      else validateEach (operation.path :: seen) operations
    else if operation.baselineMode = none ∨ operation.baselineObjectId = none then
      reject "Apply plan baseline precondition is invalid"
    else validateEach (operation.path :: seen) operations

def validateOperations (operations : List LiveApplyOperation) : Except PyError Unit := do
  let keys ← operations.mapM fun operation => encodeUtf8 operation.path
  if keys ≠ keys.insertionSort (· ≤ ·) then reject "Apply plan operation order is invalid"
  else validateEach [] operations

/-- The directory above a path, or none where an added path has no such directory yet. -/
def openParentChain (added : Bool) (current : Nat) : List PyStr → Sys (Option Nat)
  | [] => pure (some current)
  | part :: parts => do
    let next ← onOsError (do return some (← openDirectoryAt current part)) fun errno =>
      match errno with
      | .noent =>
        if added then pure none else ofResult (reject "live path precondition mismatch")
      | .loop | .notdir => ofResult (reject "live path type is unsafe")
      | _ => throw ⟨.osError errno, ""⟩
    match next with
    | none => pure none
    | some fd => openParentChain added fd parts

/-- What stands under the name of an added operation, or of another. -/
def verifyLeaf (parent : Nat) (name : PyStr) (operation : LiveApplyOperation) : Sys Unit := do
  let found ← onOsError (do return some (← statAt parent name)) fun errno =>
    match errno with
    | .noent =>
      if operation.status = .added then pure none
      else ofResult (reject "live path precondition mismatch")
    | _ => throw ⟨.osError errno, ""⟩
  match found with
  | none => pure ()
  | some (_, node) =>
    require (operation.status ≠ .added) ⟨.preconditionError, "live path precondition mismatch"⟩
    require (node.regularMode ≠ none) ⟨.preconditionError, "live path type is unsafe"⟩
    match operation.baselineObjectId with
    | none => ofResult (reject "Apply plan baseline precondition is invalid")
    | some baselineObjectId =>
      let fd ← onOsError (openAt parent name) fun errno =>
        match errno with
        | .loop => ofResult (reject "live path type is unsafe")
        | _ => throw ⟨.osError errno, ""⟩
      let opened ← fstat fd
      require (opened.regularMode ≠ none) ⟨.preconditionError, "live path type is unsafe"⟩
      let data ← readAll fd
      require (gitBlobObjectId hashing data baselineObjectId = baselineObjectId)
        ⟨.preconditionError, "live path precondition mismatch"⟩
      require (opened.regularMode.map gitMode = operation.baselineMode)
        ⟨.preconditionError, "live path precondition mismatch"⟩

def verifyOperation (root : Nat) (operation : LiveApplyOperation) : Sys Unit := do
  let parts := splitPath operation.path
  match ← openParentChain (operation.status = .added) root parts.dropLast with
  | none => pure ()
  | some parent => verifyLeaf hashing parent (parts.getLastD []) operation

def verifyOperations (root : Nat) : List LiveApplyOperation → Sys Unit
  | [] => pure ()
  | operation :: operations => do
    verifyOperation hashing root operation
    verifyOperations root operations

/-- `_open_root`: what opens with `O_DIRECTORY` is a directory. -/
def openRoot (root : PyStr) : Sys Nat :=
  onOsError (openPath root) fun _ => ofResult (reject "Home Assistant root is invalid")

def proveLiveApplyPreconditions (plan : LiveApplyPlan) (root : PyStr) :
    Sys LiveApplyPreconditionEvidence := do
  require (root.head? = some slash) ⟨.preconditionError, "Home Assistant root is invalid"⟩
  ofResult (validateOperations plan.operations)
  let rootFd ← openRoot root
  tryCatch (verifyOperations hashing rootFd plan.operations) fun error =>
    match error.kind with
    | .osError _ | .valueError => ofResult (reject "live path inspection failed")
    | _ => throw error
  return {
    deploymentId := plan.deploymentId
    target := plan.target
    repositoryId := plan.repositoryId
    baselineSha := plan.baselineSha
    candidateSha := plan.candidateSha
    stageManifestSha256 := plan.stageManifestSha256
    root := root
    verifiedPaths := plan.operations.map (·.path)
  }

end LiveApplyPreconditions

/-! ## The precondition of one operation -/

structure LiveApplyOperationPreconditionEvidence where
  deploymentId : PyStr
  target : PyStr
  repositoryId : Int
  baselineSha : ObjectId
  candidateSha : ObjectId
  stageManifestSha256 : Digest
  root : PyStr
  operationIndex : Nat
  path : PyStr
  baselineMode : Option GitMode
  baselineObjectId : Option ObjectId
deriving DecidableEq

open LiveApplyPreconditions in
def proveLiveApplyOperationPrecondition (plan : LiveApplyPlan) (root : PyStr)
    (operationIndex : Nat) : Sys LiveApplyOperationPreconditionEvidence := do
  match plan.operations[operationIndex]? with
  | none => throw ⟨.operationPreconditionError, "operation index is invalid"⟩
  | some operation =>
    let single := { plan with operations := [operation] }
    let proof ← tryCatch (proveLiveApplyPreconditions hashing single root) fun error =>
      match error.kind with
      | .preconditionError => throw ⟨.operationPreconditionError, error.message⟩
      | _ => throw error
    require (proof.verifiedPaths = [operation.path])
      ⟨.operationPreconditionError, "operation precondition proof is invalid"⟩
    return {
      deploymentId := plan.deploymentId
      target := plan.target
      repositoryId := plan.repositoryId
      baselineSha := plan.baselineSha
      candidateSha := plan.candidateSha
      stageManifestSha256 := plan.stageManifestSha256
      root := proof.root
      operationIndex := operationIndex
      path := operation.path
      baselineMode := operation.baselineMode
      baselineObjectId := operation.baselineObjectId
    }

end SyncApp
