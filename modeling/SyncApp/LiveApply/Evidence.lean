import SyncApp.Snapshot.Capture
import SyncApp.Lib.Posix
import SyncApp.Lib.Utf8

/-!
# Evidence of a live Apply

The records a live Apply is bound by: the staged candidate, the changes against the baseline, the
plan of path operations, the precondition proof and the intent. They carry no file content, only
paths, modes and object identities.

Text fields whose shape every producer checks (modes, statuses, object ids, digests) are types that
hold only the checked shapes, so the tests that a value is one of them have no branch here. Shapes
that are checked where they are used (paths, the root, orders, bindings) are checked here too.

Paths are ordered by their UTF-8 bytes. That is the order of their code points, so `encodeUtf8`
returns the path itself as the key and refuses what UTF-8 cannot encode.

Parameters (`Hashing`): the hash functions, and the hashes of canonical JSON documents.
-/

set_option autoImplicit false

namespace SyncApp

open Lib

/-- A SHA-1 in hexadecimal. -/
structure ShortDigest where
  hex : String
  shape : hex.length = 40 ∧ hex.toList.all ("0123456789abcdef".toList.contains ·) = true
deriving DecidableEq

/-- A Git object id: 40 or 64 hexadecimal characters. -/
inductive ObjectId where
  | sha1 (digest : ShortDigest)
  | sha256 (digest : Digest)
deriving DecidableEq

/-- The length of an object id. -/
def ObjectId.width : ObjectId → Nat
  | .sha1 _ => 40
  | .sha256 _ => 64

/-- The Git modes a tree may hold: `100644` and `100755`. -/
inductive GitMode where
  | regular
  | executable
deriving DecidableEq

/-- How a path differs between the baseline and the candidate. -/
inductive ChangeStatus where
  | added
  | deleted
  | modified
  | modeChanged
  | modifiedAndModeChanged
deriving DecidableEq

/-- The classes of the exceptions that are told apart. -/
inductive ErrorKind where
  | osError (errno : Errno)
  | valueError
  | stateError
  | progressError
  | intentError
  | planError
  | stageError
  | preconditionError
  | operationPreconditionError
  | atomicReplaceError
  | atomicBaselineMismatch
  | atomicOutcomeUncertain
  | atomicDeleteError
  | atomicDeleteBaselineMismatch
  | atomicDeleteOutcomeUncertain
  | atomicModeError
  | atomicModeBaselineMismatch
  | atomicModeOutcomeUncertain
  | preMutationMismatch
  | postconditionMismatch
  | writerError
  | reconciliationError
  | controllerError
deriving DecidableEq

/-- An exception: its class and its text. -/
structure PyError where
  kind : ErrorKind
  message : String
deriving DecidableEq

structure CandidateStageEntry where
  path : PyStr
  gitMode : GitMode
  objectId : ObjectId
  size : Nat
  sha256 : Digest
deriving DecidableEq

/-- What the manifest of a stage says. -/
structure StageManifest where
  target : PyStr
  repositoryId : Int
  branch : PyStr
  commitSha : ObjectId
  entries : List CandidateStageEntry
deriving DecidableEq

/-- A verified staging tree. `tree` and `manifest.json` lie in `root`. -/
structure CandidateStage where
  root : PyStr
  manifestSha256 : Digest
  target : PyStr
  repositoryId : Int
  branch : PyStr
  commitSha : ObjectId
  entries : List CandidateStageEntry

structure CandidateChange where
  path : PyStr
  status : ChangeStatus
  baselineMode : Option GitMode
  baselineObjectId : Option ObjectId
  candidateMode : Option GitMode
  candidateObjectId : Option ObjectId

structure CandidateChanges where
  target : PyStr
  repositoryId : Int
  baselineSha : ObjectId
  candidateSha : ObjectId
  changes : List CandidateChange

structure ApplyAuthorization where
  deploymentId : PyStr
  target : PyStr
  repositoryId : Int
  baselineSha : ObjectId
  candidateSha : ObjectId
  backupSlug : PyStr
  stageManifestSha256 : Digest

structure StagePrewriteEvidence where
  deploymentId : PyStr
  target : PyStr
  repositoryId : Int
  candidateSha : ObjectId
  stageManifestSha256 : Digest

structure LiveApplyOperation where
  path : PyStr
  status : ChangeStatus
  baselineMode : Option GitMode
  baselineObjectId : Option ObjectId
  candidateMode : Option GitMode
  candidateObjectId : Option ObjectId
  stagedSize : Option Nat
  stagedSha256 : Option Digest
deriving DecidableEq

structure LiveApplyPlan where
  deploymentId : PyStr
  target : PyStr
  repositoryId : Int
  baselineSha : ObjectId
  candidateSha : ObjectId
  stageManifestSha256 : Digest
  operations : List LiveApplyOperation

structure LiveApplyPreconditionEvidence where
  deploymentId : PyStr
  target : PyStr
  repositoryId : Int
  baselineSha : ObjectId
  candidateSha : ObjectId
  stageManifestSha256 : Digest
  root : PyStr
  verifiedPaths : List PyStr

structure LiveApplyIntent where
  deploymentId : PyStr
  target : PyStr
  repositoryId : Int
  baselineSha : ObjectId
  candidateSha : ObjectId
  stageManifestSha256 : Digest
  backupSlug : PyStr
  homeassistantRoot : PyStr
  operationsSha256 : Digest
deriving DecidableEq

/-- The hash functions, and the hashes of the canonical JSON of what they take. -/
structure Hashing where
  sha1 : List UInt8 → ShortDigest
  sha256 : List UInt8 → Digest
  pathSha256 : PyStr → Digest
  operationsSha256 : List LiveApplyOperation → Digest
  manifestSha256 : StageManifest → Digest
  intentRecordSha256 : LiveApplyIntent → Int → Digest

/-! ## Texts that have an encoding -/

theorem text_scalar {value : String} (ascii : value.toList.all (·.toNat < 128) = true) :
    ∀ c ∈ text value, Utf8.Scalar c := by
  intro c mem
  obtain ⟨char, held, rfl⟩ := List.mem_map.mp mem
  exact Utf8.scalar_of_ascii (of_decide_eq_true (List.all_eq_true.mp ascii char held))

/-- The characters of a hexadecimal text are ASCII. -/
theorem hex_ascii {hex : String}
    (shape : hex.toList.all ("0123456789abcdef".toList.contains ·) = true) :
    hex.toList.all (·.toNat < 128) = true := by
  rw [List.all_eq_true] at shape ⊢
  intro char held
  have each : "0123456789abcdef".toList.all (·.toNat < 128) = true := by decide
  exact List.all_eq_true.mp each char (List.contains_iff_mem.mp (shape char held))

theorem ofList_text (value : String) : String.ofList ((text value).map Char.ofNat) = value := by
  have back : (text value).map Char.ofNat = value.toList := by
    unfold text
    rw [List.map_map]
    conv_rhs => rw [← List.map_id value.toList]
    exact List.map_congr_left fun c _ => Char.ofNat_toNat c
  rw [back, String.ofList_toList]

/-! ## Object identities and modes -/

/-- What Git hashes for a blob: its header and its bytes. -/
def blobPayload (data : List UInt8) : List UInt8 :=
  ("blob ".toUTF8.toList ++ (toString data.length).toUTF8.toList ++ [0]) ++ data

def gitBlobObjectId (hashing : Hashing) (data : List UInt8) : ObjectId → ObjectId
  | .sha1 _ => .sha1 (hashing.sha1 (blobPayload data))
  | .sha256 _ => .sha256 (hashing.sha256 (blobPayload data))

/-- `_git_mode`: any execute bit makes a file executable. -/
def gitMode (mode : Nat) : GitMode :=
  if mode &&& 0o111 ≠ 0 then .executable else .regular

/-- `_mode_bits`. -/
def modeBits : GitMode → Nat
  | .regular => 0o644
  | .executable => 0o755

@[simp] theorem gitMode_modeBits (mode : GitMode) : gitMode (modeBits mode) = mode := by
  cases mode <;> decide

/-! ## Paths -/

/-- `value.split("/")`. -/
def splitPath (path : PyStr) : List PyStr := path.splitOn slash

/-- `part.casefold() == ".git"`: no character outside ASCII folds to one of these letters alone. -/
def foldsToGit (part : PyStr) : Bool :=
  part.map (fun c => if 65 ≤ c ∧ c ≤ 90 then c + 32 else c) = text ".git"

def safePath (path : PyStr) : Bool :=
  if path = [] ∨ path.head? = some slash then false
  else !(splitPath path).any fun part =>
    part = [] || part = text "." || part = text ".." || foldsToGit part

/-- `path.encode("utf-8")` as a key: lone surrogates have no encoding. -/
def encodeUtf8 (path : PyStr) : Except PyError PyStr :=
  if path.any fun c => 0xD800 ≤ c && c ≤ 0xDFFF then
    .error ⟨.valueError, "surrogates not allowed"⟩
  else .ok path

/-- An absolute path as `PurePosixPath` writes it, without `..`. -/
def canonicalRoot (value : PyStr) : Bool :=
  let front := if value.take 2 = [slash, slash] ∧ (value.drop 2).head? ≠ some slash
    then [slash, slash] else [slash]
  let names := pathParts value |>.filter (· ≠ [])
  value.head? = some slash && !value.contains 0 && value = front ++ asPosix names &&
    !names.contains (text "..")

/-- `_snapshot_operations`: the paths are safe and strictly increasing; `previous` is the key
before. Two modules make this walk, each with its own exception. -/
def snapshotOperations (invalid unordered : PyError) :
    Option PyStr → List LiveApplyOperation → Except PyError Unit
  | _, [] => .ok ()
  | previous, operation :: operations => do
    if !safePath operation.path then .error invalid
    else
      let key ← encodeUtf8 operation.path
      if previous.any fun before => key ≤ before then .error unordered
      else snapshotOperations invalid unordered (some key) operations

/-! ## The plan -/

namespace LiveApplyPlanner

def reject {α : Type} (message : String) : Except PyError α := .error ⟨.planError, message⟩

/-- `_valid_git_side`: both the mode and the object are there. -/
def validGitSide (mode : Option GitMode) (object : Option ObjectId) : Bool :=
  mode.isSome && object.isSome

def validateChange (change : CandidateChange) : Except PyError Unit :=
  if !safePath change.path then reject "candidate change evidence is invalid"
  else
    let baselinePresent := validGitSide change.baselineMode change.baselineObjectId
    let candidatePresent := validGitSide change.candidateMode change.candidateObjectId
    let valid := match change.status with
      | .added => change.baselineMode = none && change.baselineObjectId = none && candidatePresent
      | .deleted =>
        baselinePresent && change.candidateMode = none && change.candidateObjectId = none
      | .modified => baselinePresent && candidatePresent &&
        change.baselineMode = change.candidateMode &&
        change.baselineObjectId ≠ change.candidateObjectId
      | .modeChanged => baselinePresent && candidatePresent &&
        change.baselineMode ≠ change.candidateMode &&
        change.baselineObjectId = change.candidateObjectId
      | .modifiedAndModeChanged => baselinePresent && candidatePresent &&
        change.baselineMode ≠ change.candidateMode &&
        change.baselineObjectId ≠ change.candidateObjectId
    if valid then .ok () else reject "candidate change evidence is internally inconsistent"

/-- The staged entries by path, each of them safe and none twice. -/
def stagedByPath (entries : List CandidateStageEntry) : Except PyError Unit :=
  if entries.any fun entry => !safePath entry.path then
    reject "candidate Stage entry evidence is invalid"
  else if (entries.map (·.path)).Nodup then .ok ()
  else reject "candidate Stage contains duplicate path evidence"

def buildOperation (entries : List CandidateStageEntry) (change : CandidateChange) :
    Except PyError LiveApplyOperation :=
  let staged := entries.find? (·.path = change.path)
  let operation (size : Option Nat) (sha256 : Option Digest) : LiveApplyOperation :=
    ⟨change.path, change.status, change.baselineMode, change.baselineObjectId,
      change.candidateMode, change.candidateObjectId, size, sha256⟩
  match change.status, staged with
  | .deleted, some _ => reject "deleted path still exists in candidate staged tree"
  | .deleted, none => .ok (operation none none)
  | _, none => reject "candidate change does not match exact staged entry"
  | _, some entry =>
    if some entry.gitMode ≠ change.candidateMode ∨ some entry.objectId ≠ change.candidateObjectId
    then reject "candidate change does not match exact staged entry"
    else .ok (operation (some entry.size) (some entry.sha256))

/-- The operations of the changes, in order; a path that comes again is refused after its own
checks, as the loop does. -/
def operationsOf (entries : List CandidateStageEntry) (seen : List PyStr) :
    List CandidateChange → Except PyError (List LiveApplyOperation)
  | [] => .ok []
  | change :: changes => do
    validateChange change
    if seen.contains change.path then reject "candidate change evidence contains duplicate paths"
    else
      let operation ← buildOperation entries change
      let rest ← operationsOf entries (change.path :: seen) changes
      return operation :: rest

def buildOperations (entries : List CandidateStageEntry) (changes : List CandidateChange) :
    Except PyError (List LiveApplyOperation) := do
  stagedByPath entries
  let operations ← operationsOf entries [] changes
  let _ ← operations.mapM fun operation => encodeUtf8 operation.path
  return operations.insertionSort (fun first second => first.path ≤ second.path)

def validateBindings (evidence : StagePrewriteEvidence) (stage : CandidateStage)
    (changes : CandidateChanges) : Except PyError Unit :=
  if evidence.deploymentId = [] ∨ evidence.target = [] ∨ evidence.repositoryId ≤ 0 then
    reject "Stage pre-write evidence binding is invalid"
  else if (stage.target, stage.repositoryId, stage.branch, stage.commitSha, stage.manifestSha256) ≠
      (evidence.target, evidence.repositoryId, text "candidate", evidence.candidateSha,
        evidence.stageManifestSha256) then
    reject "candidate Stage binding does not match Stage pre-write evidence"
  else if changes.target ≠ evidence.target ∨ changes.repositoryId ≠ evidence.repositoryId ∨
      changes.candidateSha ≠ evidence.candidateSha then
    reject "candidate change binding does not match Stage pre-write evidence"
  else .ok ()

end LiveApplyPlanner

/-! ## The intent -/

namespace LiveApplyIntents

def reject {α : Type} (message : String) : Except PyError α := .error ⟨.intentError, message⟩

def deriveLiveApplyIntent (hashing : Hashing) (authorization : ApplyAuthorization)
    (stageEvidence : StagePrewriteEvidence) (plan : LiveApplyPlan)
    (preconditions : LiveApplyPreconditionEvidence) : Except PyError LiveApplyIntent := do
  let binding := (authorization.deploymentId, authorization.target, authorization.repositoryId,
    authorization.candidateSha, authorization.stageManifestSha256)
  if (stageEvidence.deploymentId, stageEvidence.target, stageEvidence.repositoryId,
      stageEvidence.candidateSha, stageEvidence.stageManifestSha256) ≠ binding then
    reject "Stage pre-write evidence binding does not match Apply authorization"
  else if (plan.deploymentId, plan.target, plan.repositoryId, plan.candidateSha,
      plan.stageManifestSha256) ≠ binding ∨ plan.baselineSha ≠ authorization.baselineSha then
    reject "Apply plan binding does not match Apply authorization"
  else if (preconditions.deploymentId, preconditions.target, preconditions.repositoryId,
      preconditions.candidateSha, preconditions.stageManifestSha256) ≠ binding ∨
      preconditions.baselineSha ≠ authorization.baselineSha then
    reject "live Apply precondition binding does not match Apply authorization"
  else if !canonicalRoot preconditions.root then reject "Home Assistant root binding is invalid"
  else
    snapshotOperations ⟨.intentError, "Apply plan operation is invalid"⟩
      ⟨.intentError, "Apply plan operations are not deterministically ordered"⟩ none plan.operations
    if preconditions.verifiedPaths ≠ plan.operations.map (·.path) then
      reject "live Apply precondition paths do not match Apply plan"
    else
      return {
        deploymentId := authorization.deploymentId
        target := authorization.target
        repositoryId := authorization.repositoryId
        baselineSha := authorization.baselineSha
        candidateSha := authorization.candidateSha
        stageManifestSha256 := authorization.stageManifestSha256
        backupSlug := authorization.backupSlug
        homeassistantRoot := preconditions.root
        operationsSha256 := hashing.operationsSha256 plan.operations
      }

end LiveApplyIntents

end SyncApp
