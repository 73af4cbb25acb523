import SyncApp.Lib.FileTree
import SyncApp.Lib.PathOrder

/-!
# Snapshots and workspaces

`captureSnapshot` copies the selected files of a source tree into staging and binds a manifest;
`verifySnapshot` proves the staged bytes against the manifest again; `prepareGitWorkspace` copies a
verified snapshot into a workspace, and `verifyWorkspaceContent` proves the workspace against the
snapshot's identity.

The functions read trees: a source tree, a staged tree, a workspace tree. Where the source reads a
tree at several moments (a scan, the copies, a second scan), the model takes the tree of each
moment, so a tree that changes during the call is an input like any other. Names are lists of code
points, as Python orders them; undecodable bytes are lone surrogates, which are code points too.

Parameters: `sha256` of a file's bytes, and `identity`, the hash of the canonical listing of the
files. A manifest file is its document: `json.dumps` with sorted keys and fixed separators writes
different documents differently, and `none` stands for bytes that do not load or have another
schema. Times, devices and inode numbers of new files are the file system's choice (`stamps`).
Failures of storage itself are outside the model; `readable` says whether a file opens.
-/

set_option autoImplicit false

namespace SyncApp

open Lib

/-- A Python string: its code points. -/
abbrev PyStr := List Nat

/-- Named here, so that every module decides membership of a text by the same instance. -/
instance : LawfulBEq PyStr := inferInstance

/-- The code points of a text. -/
def text (value : String) : PyStr := value.toList.map Char.toNat

/-- The code point of `/`. -/
def slash : Nat := 47

/-- The names of a relative path. -/
abbrev Parts := List PyStr

/-- `Path.as_posix` of the joined names. -/
def asPosix (path : Parts) : PyStr := PathOrder.spell slash path

/-- `Path(…).parts` of a relative path: its names, without empty pieces and without `.`. -/
def pathParts (value : PyStr) : Parts := (PathOrder.parts slash value).filter (· ≠ text ".")

/-- A name a directory can hold. -/
structure LegalName (name : PyStr) : Prop where
  spelled : PathOrder.Legal slash name
  ne_dot : name ≠ text "."
  ne_dotdot : name ≠ text ".."

/-- A SHA-256 in hexadecimal. -/
structure Digest where
  hex : String
  shape : hex.length = 64 ∧ hex.toList.all ("0123456789abcdef".toList.contains ·) = true
deriving DecidableEq

/-- What the file system chooses for a file it makes. -/
structure Stamp where
  device : Nat
  inode : Nat
  mtimeNs : Int
  ctimeNs : Int
deriving DecidableEq

/-- A regular file: its permission bits, its link count and its bytes. -/
structure FileNode where
  mode : Nat
  links : Nat
  bytes : List UInt8
  stamp : Stamp
  readable : Bool
deriving DecidableEq

/-- What a directory holds beside directories. -/
inductive Leaf where
  | file (node : FileNode)
  | symlink
  | special
deriving DecidableEq

abbrev SourceTree := FileTree PyStr Leaf

/-- A directory root as `lstat` shows it, under its resolved path. -/
inductive Root where
  | absent
  | other
  | directory (path : Parts)

structure SnapshotFile where
  path : PyStr
  size : Nat
  mode : Nat
  sha256 : Digest
deriving DecidableEq

/-- One file of a scan, with the metadata that shows a change. -/
structure SourceFile where
  path : PyStr
  mode : Nat
  links : Nat
  size : Nat
  stamp : Stamp
deriving DecidableEq

/-- One entry of a manifest document. -/
structure ManifestEntry where
  path : PyStr
  size : Int
  mode : Int
  sha256 : String
deriving DecidableEq

structure Manifest where
  version : Int
  snapshotId : String
  files : List ManifestEntry
deriving DecidableEq

/-- A snapshot root: `tree/` where it is a real directory, and `manifest.json` where it is a unique
regular file that loads with the manifest's schema. -/
structure SnapshotRoot where
  path : Parts
  tree : Option SourceTree
  manifest : Option Manifest

structure Snapshot where
  snapshotId : Digest
  root : SnapshotRoot
  files : List SnapshotFile

structure GitWorkspace where
  snapshotId : Digest
  tree : SourceTree

/-- A refusal, by the class of its exception and its message; `os` is an `OSError` let through. -/
inductive SnapshotError where
  | snapshot (message : String)
  | workspace (message : String)
  | os
deriving DecidableEq

/-! ## Roots -/

/-- `_trusted_directory`. -/
def trustedDirectory (label : String) : Root → Except SnapshotError Parts
  | .absent => .error (.snapshot (label ++ " directory is unavailable"))
  | .other => .error (.snapshot (label ++ " path must be a real directory"))
  | .directory path => .ok path

/-- `_trusted_workspace_root`. -/
def trustedWorkspaceRoot : Root → Except SnapshotError Parts
  | .absent => .error (.workspace "workspace root is unavailable")
  | .other => .error (.workspace "workspace root must be a real directory")
  | .directory path => .ok path

/-- One of two resolved directories is the other, or above it. -/
def overlap (first second : Parts) : Bool :=
  first.isPrefixOf second || second.isPrefixOf first

/-! ## Scans -/

/-- What a path selection answers: a truth value, something else, or an exception. -/
inductive Selection where
  | answer (included : Bool)
  | other
  | raised

/-- One file of a scan: left out, refused, or recorded. -/
def scanLeaf (includePath : Option (PyStr → Selection)) (path : Parts) (leaf : Leaf) :
    Except SnapshotError (Option SourceFile) :=
  match (includePath.map (· (asPosix path))).getD (.answer true) with
  | .raised => .error (.snapshot "snapshot path selection failed")
  | .other => .error (.snapshot "snapshot path selection returned an invalid result")
  | .answer false => .ok none
  | .answer true =>
    match leaf with
    | .symlink => .error (.snapshot "symbolic links are not accepted in snapshots")
    | .special => .error (.snapshot "special files are not accepted in snapshots")
    | .file node =>
      if node.links ≠ 1 then .error (.snapshot "hard-linked files are not accepted in snapshots")
      else .ok (some ⟨asPosix path, node.mode, node.links, node.bytes.length, node.stamp⟩)

/-- The files of a walk, each in turn. -/
def scanLeaves (includePath : Option (PyStr → Selection)) :
    List (Parts × Leaf) → Except SnapshotError (List SourceFile)
  | [] => .ok []
  | (path, leaf) :: rest => do
    let found ← scanLeaf includePath path leaf
    let files ← scanLeaves includePath rest
    return found.toList ++ files

/-- `_scan_source`: depth first, the names of each directory sorted. -/
def scanSource (includePath : Option (PyStr → Selection)) (tree : SourceTree) :
    Except SnapshotError (List SourceFile) :=
  scanLeaves includePath tree.walk

/-! ## Capture -/

section

variable (sha256 : List UInt8 → Digest) (identity : List SnapshotFile → Digest)

/-- What `os.open` with `O_NOFOLLOW` and the checks on the open file give for a path. -/
def openRegular (unopened notRegular : SnapshotError) (tree : SourceTree) (path : PyStr) :
    Except SnapshotError FileNode :=
  match tree.get? (pathParts path) with
  | some (.leaf (.file node)) =>
    if !node.readable then .error unopened
    else if node.links ≠ 1 then .error notRegular
    else .ok node
  | some (.leaf .special) => .error notRegular
  | some (.node _) => .error notRegular
  | some (.leaf .symlink) => .error unopened
  | none => .error unopened

/-- `_copy_regular_file`: the new file and the hash of its bytes. -/
def copyRegularFile (source : SourceTree) (path : PyStr) (stamp : Stamp) :
    Except SnapshotError (FileNode × Digest) := do
  let node ← openRegular (.snapshot "source file cannot be opened safely")
    (.snapshot "snapshot file is not a unique regular file") source path
  return (⟨node.mode, 1, node.bytes, stamp, true⟩, sha256 node.bytes)

/-- Copies the scanned files into a tree, and records each copy. -/
def copyFiles (source : SourceTree) (stamps : PyStr → Stamp) :
    List SourceFile → SourceTree → Except SnapshotError (SourceTree × List SnapshotFile)
  | [], tree => .ok (tree, [])
  | entry :: entries, tree => do
    let (copy, digest) ← copyRegularFile sha256 source entry.path (stamps entry.path)
    match tree.insert (.file copy) (pathParts entry.path) with
    | none => .error (.snapshot "snapshot capture failed")
    | some grown => do
      let (done, files) ← copyFiles source stamps entries grown
      return (done, ⟨entry.path, copy.bytes.length, copy.mode, digest⟩ :: files)

/-- The files in the order of their path strings. -/
def sortByPath (files : List SnapshotFile) : List SnapshotFile :=
  files.insertionSort fun a b => a.path ≤ b.path

/-- `_file_dict`: what a manifest writes of a file. -/
def fileDict (item : SnapshotFile) : ManifestEntry :=
  ⟨item.path, item.size, item.mode, item.sha256.hex⟩

/-- `_manifest_bytes`, as the document written. -/
def manifestOf (snapshotId : Digest) (files : List SnapshotFile) : Manifest :=
  ⟨1, snapshotId.hex, files.map fileDict⟩

/-! ## Verification -/

/-- A lower-case hexadecimal SHA-256, if the text is one. -/
def digestOf (hex : String) : Option Digest :=
  if shape : hex.length = 64 ∧ hex.toList.all ("0123456789abcdef".toList.contains ·) = true then
    some ⟨hex, shape⟩
  else none

/-- One entry of a manifest, after the path before it. -/
def manifestFile (previous : PyStr) (entry : ManifestEntry) : Option SnapshotFile :=
  if entry.path = [] ∨ entry.path.head? = some slash ∨ text ".." ∈ pathParts entry.path ∨
      entry.size < 0 ∨ entry.mode < 0 ∨ entry.path ≤ previous then none
  else (digestOf entry.sha256).map fun digest =>
    ⟨entry.path, entry.size.toNat, entry.mode.toNat, digest⟩

/-- `_manifest_files`, from the path before the first entry on. -/
def manifestFiles (previous : PyStr) : List ManifestEntry → Except SnapshotError (List SnapshotFile)
  | [] => .ok []
  | entry :: entries =>
    match manifestFile previous entry with
    | none => .error (.snapshot "snapshot manifest file entry is invalid")
    | some file => do
      let files ← manifestFiles file.path entries
      return file :: files

/-- Hashes each expected file of the staged tree and compares it with the manifest. -/
def verifyFiles (tree : SourceTree) : List SnapshotFile → Except SnapshotError Unit
  | [] => .ok ()
  | expected :: rest => do
    let node ← openRegular (.snapshot "staged file cannot be opened safely")
      (.snapshot "snapshot file is not a unique regular file") tree expected.path
    if (⟨expected.path, node.bytes.length, node.mode, sha256 node.bytes⟩ : SnapshotFile) ≠ expected
    then .error (.snapshot "staged snapshot content does not match manifest")
    else verifyFiles tree rest

/-- `verify_snapshot`. -/
def verifySnapshot (root : SnapshotRoot) : Except SnapshotError Snapshot :=
  match root.tree with
  | none => .error (.snapshot "snapshot tree is missing or unsafe")
  | some tree =>
    match root.manifest with
    | none => .error (.snapshot "snapshot manifest cannot be read")
    | some manifest =>
      if manifest.version ≠ 1 then .error (.snapshot "snapshot manifest version is unsupported")
      else do
        let expected ← manifestFiles [] manifest.files
        let actual ← scanSource none tree
        if actual.map (·.path) ≠ expected.map (·.path) then
          .error (.snapshot "staged snapshot paths do not match manifest")
        else do
          verifyFiles sha256 tree expected
          if manifest.snapshotId ≠ (identity expected).hex then
            .error (.snapshot "snapshot manifest identity is invalid")
          else if manifestOf (identity expected) expected ≠ manifest then
            .error (.snapshot "snapshot manifest is not canonical")
          else .ok ⟨identity expected, root, expected⟩

/-- `capture_snapshot`, of a source tree at its first scan, during the copies and at its second
scan. The work root is a new directory of the staging root. -/
def captureSnapshot (source staging : Root) (workRoot : PyStr) (stamps : PyStr → Stamp)
    (includePath : Option (PyStr → Selection)) (before during after : SourceTree) :
    Except SnapshotError Snapshot := do
  let sourcePath ← trustedDirectory "source" source
  let stagingPath ← trustedDirectory "staging" staging
  if overlap sourcePath stagingPath then
    .error (.snapshot "source and staging directories must not overlap")
  else do
    let initial ← scanSource includePath before
    let (tree, files) ← copyFiles sha256 during stamps initial (.node [])
    let final ← scanSource includePath after
    if initial ≠ final then
      .error (.snapshot "source tree changed while snapshot was being captured")
    else
      let normalized := sortByPath files
      verifySnapshot sha256 identity
        ⟨stagingPath ++ [workRoot], some tree, some (manifestOf (identity normalized) normalized)⟩

/-! ## Workspaces -/

/-- `_copy_snapshot_file`. -/
def copySnapshotFile (source : SourceTree) (expected : SnapshotFile) (stamp : Stamp) :
    Except SnapshotError FileNode := do
  let node ← openRegular (.snapshot "snapshot file cannot be opened safely")
    (.snapshot "snapshot file metadata changed before workspace materialization") source
    expected.path
  if node.bytes.length ≠ expected.size ∨ node.mode ≠ expected.mode then
    .error (.snapshot "snapshot file metadata changed before workspace materialization")
  else if sha256 node.bytes ≠ expected.sha256 then
    .error (.snapshot "snapshot bytes changed during workspace materialization")
  else .ok ⟨expected.mode, 1, node.bytes, stamp, true⟩

/-- Copies a snapshot's files into a workspace tree. -/
def copySnapshotFiles (source : SourceTree) (stamps : PyStr → Stamp) :
    List SnapshotFile → SourceTree → Except SnapshotError SourceTree
  | [], tree => .ok tree
  | entry :: entries, tree => do
    let copy ← copySnapshotFile sha256 source entry (stamps entry.path)
    match tree.insert (.file copy) (pathParts entry.path) with
    | none => .error .os
    | some grown => copySnapshotFiles source stamps entries grown

/-- What a workspace scan makes of one thing it meets. At the root `.git` is Git's own directory and
is passed over with what is in it; anywhere else the name is refused. -/
def scanWorkspaceItem (path : Parts) (item : Option Leaf) :
    Except SnapshotError (Option SnapshotFile) :=
  if path.head? = some (text ".git") then
    if path = [text ".git"] ∧ item.isSome then
      .error (.workspace "workspace Git metadata path is unsafe")
    else .ok none
  else if path.getLast? = some (text ".git") then
    .error (.workspace "nested Git metadata paths are not accepted")
  else
    match item with
    | none => .ok none
    | some .symlink =>
      .error (.workspace "symbolic links are not accepted in workspace content")
    | some .special => .error (.workspace "workspace content must contain unique regular files")
    | some (.file node) =>
      if node.links ≠ 1 then
        .error (.workspace "workspace content must contain unique regular files")
      else if !node.readable then .error (.workspace "workspace file cannot be opened safely")
      else .ok (some ⟨asPosix path, node.bytes.length, node.mode, sha256 node.bytes⟩)

def scanWorkspaceItems :
    List (Parts × Option Leaf) → Except SnapshotError (List SnapshotFile)
  | [] => .ok []
  | (path, item) :: rest => do
    let found ← scanWorkspaceItem sha256 path item
    let files ← scanWorkspaceItems rest
    return found.toList ++ files

/-- `_scan_workspace_tree`: depth first, the names of each directory sorted. -/
def scanWorkspaceTree (tree : SourceTree) : Except SnapshotError (List SnapshotFile) :=
  scanWorkspaceItems sha256 tree.visit

/-- `verify_workspace_content`. The layout of a workspace is that of its type. -/
def verifyWorkspaceContent (workspace : GitWorkspace) : Except SnapshotError Digest := do
  let files ← scanWorkspaceTree sha256 workspace.tree
  if identity files ≠ workspace.snapshotId then
    .error (.workspace "workspace content does not match accepted snapshot identity")
  else .ok (identity files)

/-- `prepare_git_workspace`, of a snapshot root at its first verification, during the copies and at
its second verification. -/
def prepareGitWorkspace (workspaceRoot : Root) (stamps : PyStr → Stamp)
    (before : SnapshotRoot) (during : SourceTree) (after : SnapshotRoot) :
    Except SnapshotError GitWorkspace := do
  let accepted ← verifySnapshot sha256 identity before
  let workspacePath ← trustedWorkspaceRoot workspaceRoot
  if overlap before.path workspacePath then
    .error (.workspace "snapshot and workspace roots must not overlap")
  else if accepted.files.any fun entry => (pathParts entry.path).contains (text ".git") then
    .error (.workspace "snapshot collides with reserved Git metadata path")
  else do
    let tree ← copySnapshotFiles sha256 during stamps accepted.files (.node [])
    let verifiedAfter ← verifySnapshot sha256 identity after
    if verifiedAfter.snapshotId ≠ accepted.snapshotId then
      .error (.snapshot "snapshot identity changed during workspace materialization")
    else
      let workspace : GitWorkspace := ⟨accepted.snapshotId, tree⟩
      let _ ← verifyWorkspaceContent sha256 identity workspace
      return workspace

end

end SyncApp
