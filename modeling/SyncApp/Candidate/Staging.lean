import SyncApp.LiveApply.Changes
import SyncApp.LiveApply.Preconditions
import SyncApp.Lib.JsonText

/-!
# Staging a fetched candidate

`stageFetchedCandidate` lists the tree of a fetched commit, writes every blob into a private
directory, writes the manifest, and verifies what it wrote. `verifyCandidateStage` binds a stage to
the bytes of its directory again, and `loadCandidateStage` makes the evidence of a stage from the
directory alone. The manifest is bytes here (`manifestBytes`), where the modules of the live Apply
take it as a document.

What Git answers and which names the file system takes are parameters (`Workspace`). A staging
directory holds what was written to it, with the modes it was given.
-/

set_option autoImplicit false

namespace SyncApp

open Lib CandidateStages
open Lib.Raising (ofResult)

variable (hashing : Hashing)

/-- Evidence of a fetch. The target was quoted into the address that was fetched from, so it has an
encoding. -/
structure CandidateFetch where
  target : PyStr
  repositoryId : Int
  branch : PyStr
  commitSha : ObjectId
  gitRef : PyStr
  encodable : ∀ c ∈ target, Utf8.Scalar c

/-- What staging asks for: whether the staging root is private and apart from Home Assistant and
from the fetch, the commit and object type behind the fetched reference at each time it is proved
again, the listing and the blobs of Git, and the paths the file system can hold. -/
structure Workspace where
  trusted : Bool
  reproof : Nat → Option (ObjectId × PyStr)
  listing : Option (List UInt8)
  blob : ObjectId → Option (List UInt8)
  fits : PyStr → Bool

/-- A staging directory: whether it and its tree are private and hold nothing else, its manifest,
and the directories of its tree. -/
structure StagedRoot where
  isPrivate : Bool
  manifest : Option StagedFile
  directories : List StagedDirectory

namespace CandidateStaging

/-! ## The tree of the commit -/

/-- `_validate_tree_entry`; `seen` are the paths before it. -/
def validateTreeEntry (seen : List PyStr) (raw : CandidateTrees.RawEntry) :
    Except PyError CandidateTrees.TreeEntry :=
  if !safePath raw.path then reject "candidate Git tree contains an unsafe path"
  else match CandidateTrees.parseMode raw.mode with
    | none => reject "candidate Git tree contains an unsupported entry"
    | some gitMode =>
      if raw.objectType ≠ text "blob" then
        reject "candidate Git tree contains an unsupported entry"
      else match CandidateTrees.parseObjectId raw.objectId with
        | none => reject "candidate Git tree contains an invalid object ID"
        | some objectId =>
          if raw.path ∈ seen then reject "candidate Git tree contains a duplicate path"
          else if seen.any fun existing =>
              CandidateTrees.startsBelow raw.path existing ||
                CandidateTrees.startsBelow existing raw.path then
            reject "candidate Git tree contains conflicting paths"
          else .ok ⟨raw.path, gitMode, objectId⟩

def parseRecords (seen : List PyStr) :
    List (List UInt8) → Except PyError (List CandidateTrees.TreeEntry)
  | [] => .ok []
  | record :: records => do
    match CandidateTrees.splitRecord record with
    | none => reject "candidate Git tree output is malformed"
    | some raw =>
      let entry ← validateTreeEntry seen raw
      let entries ← parseRecords (entry.path :: seen) records
      return entry :: entries

/-- `_parse_tree`. -/
def parseTree (raw : List UInt8) : Except PyError (List CandidateTrees.TreeEntry) := do
  let entries ← parseRecords [] (CandidateTrees.records raw)
  return entries.insertionSort fun first second => first.path ≤ second.path

/-! ## Writing -/

/-- `current.mkdir` and `os.chmod`, for one directory above a file. -/
def createPrivateParent (fits : PyStr → Bool) (directories : List StagedDirectory)
    (path : PyStr) : Except PyError (List StagedDirectory) :=
  if directories.any (·.path = path) then
    .ok (directories.map fun directory =>
      if directory.path = path then { directory with isPrivate := true } else directory)
  else if directories.any fun directory => directory.files.any (·.1 = path) then
    reject "candidate staging parent is unsafe"
  else if !fits path then reject "candidate staging filesystem operation failed"
  else .ok (directories ++ [⟨path, true, []⟩])

/-- The directories above a path, the highest first; the tree itself is not among them. -/
def parentsOf (path : PyStr) : List PyStr := (splitPath path).dropLast.inits.tail.map asPosix

/-- `_write_private_file`: a file that stands nowhere yet, in a directory that is there. -/
def writePrivateFile (fits : PyStr → Bool) (directories : List StagedDirectory) (path : PyStr)
    (data : List UInt8) (executable : Bool) : Except PyError (List StagedDirectory) :=
  let parent := asPosix (splitPath path).dropLast
  if !fits path ∨ !directories.any (·.path = parent) ∨ directories.any (·.path = path) ∨
      directories.any fun directory => directory.files.any (·.1 = path) then
    reject "candidate staging file could not be written"
  else .ok (directories.map fun directory =>
    if directory.path = parent then
      { directory with files := directory.files ++
        [(path, ⟨true, true, if executable then 0o700 else 0o600, data⟩)] }
    else directory)

/-- What a staged blob is recorded as. -/
def stageEntryOf (entry : CandidateTrees.TreeEntry) (data : List UInt8) : CandidateStageEntry :=
  ⟨entry.path, entry.gitMode, entry.objectId, data.length, hashing.sha256 data⟩

def materializeEntry (workspace : Workspace) (directories : List StagedDirectory)
    (entry : CandidateTrees.TreeEntry) :
    Except PyError (List StagedDirectory × CandidateStageEntry) :=
  match workspace.blob entry.objectId with
  | none => reject "candidate staging Git command failed"
  | some data => do
    let directories ← (parentsOf entry.path).foldlM (createPrivateParent workspace.fits) directories
    let directories ← writePrivateFile workspace.fits directories entry.path data
      (entry.gitMode = .executable)
    return (directories, stageEntryOf hashing entry data)

def materialize (workspace : Workspace) (directories : List StagedDirectory) :
    List CandidateTrees.TreeEntry →
      Except PyError (List StagedDirectory × List CandidateStageEntry)
  | [] => .ok (directories, [])
  | entry :: tree => do
    let (directories, staged) ← materializeEntry hashing workspace directories entry
    let (directories, entries) ← materialize workspace directories tree
    return (directories, staged :: entries)

/-! ## The manifest -/

def modeText : GitMode → PyStr
  | .regular => text "100644"
  | .executable => text "100755"

def objectIdText : ObjectId → PyStr
  | .sha1 digest => text digest.hex
  | .sha256 digest => text digest.hex

/-- An entry in the manifest, its keys sorted. -/
def entryValue (entry : CandidateStageEntry) : JsonText.Value :=
  .obj [(text "git_mode", .str (modeText entry.gitMode)),
    (text "object_id", .str (objectIdText entry.objectId)), (text "path", .str entry.path),
    (text "sha256", .str (text entry.sha256.hex)), (text "size", .int entry.size)]

def manifestValue (stage : CandidateStage) : JsonText.Value :=
  .obj [(text "branch", .str stage.branch),
    (text "commit_sha", .str (objectIdText stage.commitSha)),
    (text "entries", .arr (stage.entries.map entryValue)),
    (text "repository_id", .int stage.repositoryId), (text "target", .str stage.target),
    (text "version", .int 1)]

/-- `_manifest_bytes`. -/
def manifestBytes (stage : CandidateStage) : List UInt8 :=
  Utf8.encode (JsonText.write true (manifestValue stage) ++ [10])

/-! ## Verifying -/

def validateStageRoot (root : StagedRoot) : Except PyError Unit :=
  match root.manifest with
  | none => reject "candidate staging evidence paths are unavailable"
  | some manifest =>
    if !root.isPrivate ∨ !manifest.regular ∨ !manifest.owned ∨ manifest.mode ≠ 0o600 then
      reject "candidate staging evidence paths are unsafe"
    else .ok ()

def readPrivateFile (root : StagedRoot) : Except PyError (List UInt8) :=
  match root.manifest with
  | none => reject "candidate staging manifest is unavailable"
  | some file =>
    if !file.regular ∨ !file.owned ∨ file.mode ≠ 0o600 then
      reject "candidate staging manifest is unsafe"
    else .ok file.bytes

def verifyCandidateStage (root : StagedRoot) (stage : CandidateStage) : Except PyError Unit := do
  validateStageEvidence stage
  validateStageRoot root
  let actual ← readPrivateFile root
  if actual ≠ manifestBytes stage then
    reject "candidate staging manifest does not match evidence"
  else if hashing.sha256 actual ≠ stage.manifestSha256 then
    reject "candidate staging manifest digest does not match evidence"
  else verifyStagedTree hashing ⟨root.isPrivate, none, root.directories⟩ stage.entries

/-! ## Staging -/

def validateFetchEvidence (fetched : CandidateFetch) : Except PyError Unit :=
  if fetched.target = [] ∨ fetched.repositoryId ≤ 0 ∨ fetched.branch ≠ text "candidate" ∨
      fetched.gitRef ≠ text "refs/syncapp/candidate-fetch" then
    reject "candidate fetch evidence is invalid"
  else .ok ()

/-- `_trusted_staging_root`. -/
def trustedStagingRoot (workspace : Workspace) : Except PyError Unit :=
  if workspace.trusted then .ok () else reject "candidate staging root is unsafe"

/-- `_run_git_bytes` for the listing of the tree. -/
def listTree (workspace : Workspace) : Except PyError (List UInt8) :=
  match workspace.listing with
  | none => reject "candidate staging Git command failed"
  | some raw => .ok raw

/-- `_reprove_fetch`, for the given time. -/
def reproveFetch (workspace : Workspace) (fetched : CandidateFetch) (time : Nat) :
    Except PyError Unit :=
  match workspace.reproof time with
  | none => reject "candidate fetch workspace could not be reverified"
  | some (commit, objectType) =>
    if commit ≠ fetched.commitSha ∨ objectType ≠ text "commit" then
      reject "candidate fetch workspace no longer matches evidence"
    else .ok ()

/-- The evidence of what was staged; the digest is that of the manifest it is written in. -/
def stageOf (fetched : CandidateFetch) (root : PyStr) (entries : List CandidateStageEntry) :
    CandidateStage :=
  let undigested : CandidateStage :=
    ⟨root, hashing.sha256 [], fetched.target, fetched.repositoryId, fetched.branch,
      fetched.commitSha, entries⟩
  { undigested with manifestSha256 := hashing.sha256 (manifestBytes undigested) }

/-- Stages a candidate under a fresh root. What was written is removed again where this fails. -/
def stageFetchedCandidate (workspace : Workspace) (fetched : CandidateFetch) (root : PyStr) :
    Except PyError (CandidateStage × StagedRoot) := do
  validateFetchEvidence fetched
  trustedStagingRoot workspace
  reproveFetch workspace fetched 0
  let raw ← listTree workspace
  let tree ← parseTree raw
  let (directories, entries) ← materialize hashing workspace [⟨[], true, []⟩] tree
  let stage := stageOf hashing fetched root entries
  let written : StagedRoot := ⟨true, some ⟨true, true, 0o600, manifestBytes stage⟩, directories⟩
  verifyCandidateStage hashing written stage
  reproveFetch workspace fetched 1
  return (stage, written)

/-! ## Loading -/

/-- `_MAX_MANIFEST_BYTES`. -/
def maxManifestBytes : Nat := 16 * 1024 * 1024

/-- `_MAX_MANIFEST_ENTRIES`. -/
def maxManifestEntries : Nat := 4096

/-- `_read_private_manifest`. -/
def readPrivateManifest (root : StagedRoot) : Except PyError (List UInt8) :=
  match root.manifest with
  | none => reject "candidate staging manifest is unavailable"
  | some file =>
    if !file.regular ∨ !file.owned ∨ file.mode ≠ 0o600 ∨
        (file.bytes.take (maxManifestBytes + 1)).length > maxManifestBytes then
      reject "candidate staging manifest is unsafe"
    else .ok (file.bytes.take (maxManifestBytes + 1))

def stringOf : Option JsonText.Value → Option PyStr
  | some (.str value) => some value
  | _ => none

def intOf : Option JsonText.Value → Option Int
  | some (.int value) => some value
  | _ => none

def natOf (value : Option JsonText.Value) : Option Nat :=
  (intOf value).bind fun n => if n < 0 then none else some n.toNat

/-- `_SHA256`. -/
def digestOfText (hex : PyStr) : Option Digest := digestOf (String.ofList (hex.map Char.ofNat))

/-- The evidence of an entry, where its fields have the types and shapes of evidence. -/
def entryOf (members : List (PyStr × JsonText.Value)) : Option CandidateStageEntry := do
  let path ← stringOf (JsonText.get? members (text "path"))
  let mode ← (stringOf (JsonText.get? members (text "git_mode"))).bind CandidateTrees.parseMode
  let objectId ← (stringOf (JsonText.get? members (text "object_id"))).bind
    CandidateTrees.parseObjectId
  let size ← natOf (JsonText.get? members (text "size"))
  let sha256 ← (stringOf (JsonText.get? members (text "sha256"))).bind digestOfText
  return ⟨path, mode, objectId, size, sha256⟩

/-- The members of an entry of the manifest, where it has the keys of one. -/
def entryMembers : JsonText.Value → Option (List (PyStr × JsonText.Value))
  | .obj members =>
    if JsonText.hasKeys members
        [text "path", text "git_mode", text "object_id", text "size", text "sha256"] then
      some members
    else none
  | _ => none

def invalidManifest {α : Type} : Except PyError α := reject "candidate staging manifest is invalid"

def invalidEvidence {α : Type} : Except PyError α := reject "candidate staging evidence is invalid"

/-- A value that is there, or the error. -/
def orReject {α : Type} (error : Except PyError α) : Option α → Except PyError α
  | some value => .ok value
  | none => error

/-- The members of the manifest, where it is one. -/
def parseManifest (data : List UInt8) : Except PyError (List (PyStr × JsonText.Value)) :=
  match JsonText.load data with
  | some (.obj members) =>
    if !JsonText.unique (.obj members) ∨ !JsonText.hasKeys members
        [text "version", text "target", text "repository_id", text "branch", text "commit_sha",
          text "entries"] then invalidManifest
    else .ok members
  | _ => invalidManifest

/-- The entries of a manifest, each with the keys of one. -/
def manifestEntries (members : List (PyStr × JsonText.Value)) :
    Except PyError (List (List (PyStr × JsonText.Value))) :=
  match JsonText.get? members (text "entries") with
  | some (.arr items) =>
    if items.length > maxManifestEntries then invalidManifest
    else orReject invalidManifest (items.mapM entryMembers)
  | _ => invalidManifest

/-- The evidence that a manifest spells. -/
def evidenceOf (data : List UInt8) (root : PyStr) (members : List (PyStr × JsonText.Value))
    (items : List (List (PyStr × JsonText.Value))) : Option CandidateStage := do
  let target ← stringOf (JsonText.get? members (text "target"))
  let repositoryId ← intOf (JsonText.get? members (text "repository_id"))
  let branch ← stringOf (JsonText.get? members (text "branch"))
  let commitSha ← (stringOf (JsonText.get? members (text "commit_sha"))).bind
    CandidateTrees.parseObjectId
  let entries ← items.mapM entryOf
  return ⟨root, hashing.sha256 data, target, repositoryId, branch, commitSha, entries⟩

def loadCandidateStage (staged : StagedRoot) (root : PyStr) : Except PyError CandidateStage := do
  let data ← readPrivateManifest staged
  let members ← parseManifest data
  let items ← manifestEntries members
  let stage ← orReject invalidEvidence (evidenceOf hashing data root members items)
  verifyCandidateStage hashing staged stage
  return stage

end CandidateStaging

end SyncApp
