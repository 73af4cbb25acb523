import SyncApp.LiveApply.Evidence
import SyncApp.Snapshot.Agreement

/-!
# The commit of a snapshot

`createSnapshotCommit` stages a verified workspace with Git and commits it. Git is not code of this
repository: `GitRules` holds what its `add` decides from the work tree, which files are ignored and
what an attribute makes of a file's bytes. The rest of `add` is what Git documents: every regular
file that is not ignored is staged, as executable exactly when its owner may execute it.

The index is empty before: the repository was just made, and anchoring the branch at the baseline
moves a ref only. A tree is the list of what it holds under each path; a commit's name, its author
and its times are left out.
-/

set_option autoImplicit false

namespace SyncApp

open Lib

/-! ## The routing of `main` -/

/-- `include_in_main`. The empty path, which it refuses, is no path of a scan. -/
def includeInMain (recorderRelativePath : Option PyStr) (relativePath : PyStr) : Bool :=
  let family (name : PyStr) (separator : String) : Bool :=
    relativePath = name || (name ++ text separator).isPrefixOf relativePath
  if recorderRelativePath.any (family · "-") then false
  else if relativePath.contains slash then true
  else !family (text "home-assistant_v2.db") "-" && !family (text "home-assistant.log") "."

/-! ## Git -/

/-- What a tree of Git holds under a path. -/
inductive GitObject where
  | blob (mode : GitMode) (bytes : List UInt8)
  | symlink (target : List UInt8)
  | gitlink (commit : ObjectId)
deriving DecidableEq

abbrev GitTree := List (Parts × GitObject)

structure GitCommit where
  tree : GitTree
  message : String

/-- The paths and bytes of a work tree: what ignore and attribute rules are read from. -/
abbrev WorkContent := List (Parts × List UInt8)

structure GitRules where
  ignored : WorkContent → Parts → Bool
  convert : WorkContent → Parts → List UInt8 → List UInt8

/-- Git records a file as executable when its owner may execute it. -/
def recordedMode (mode : Nat) : GitMode :=
  if mode &&& 0o100 ≠ 0 then .executable else .regular

def workContent (files : List Placed) : WorkContent :=
  files.map fun placed => (placed.1, placed.2.bytes)

/-- The regular files of a work tree; Git's own directory is not among them. -/
def workFiles (tree : SourceTree) : List Placed :=
  (selected (fun _ => true) tree).filter fun placed => placed.1.head? ≠ some (text ".git")

/-- `git add --all` with an empty index. -/
def GitRules.addAll (rules : GitRules) (files : List Placed) : GitTree :=
  (files.filter fun placed => !rules.ignored (workContent files) placed.1).map fun placed =>
    (placed.1, .blob (recordedMode placed.2.mode)
      (rules.convert (workContent files) placed.1 placed.2.bytes))

/-- `git status` after `git add --all`: where the index and the head differ. -/
def gitStatus (head index : GitTree) : List Parts :=
  ((head.filter fun entry => !index.contains entry) ++
    index.filter fun entry => !head.contains entry).map (·.1)

/-- Two trees hold the same. -/
def SameTree (first second : GitTree) : Prop := ∀ entry, entry ∈ first ↔ entry ∈ second

theorem gitStatus_eq_nil {head index : GitTree} : gitStatus head index = [] ↔ SameTree head index := by
  unfold gitStatus SameTree
  simp only [List.map_eq_nil_iff, List.append_eq_nil_iff, List.filter_eq_nil_iff, Bool.not_eq_true',
    Bool.not_eq_false, List.contains_iff_mem]
  exact ⟨fun both entry => ⟨both.1 entry, both.2 entry⟩,
    fun same => ⟨fun entry => (same entry).mp, fun entry => (same entry).mpr⟩⟩

section

variable (rules : GitRules) (sha256 : List UInt8 → Digest) (identity : List SnapshotFile → Digest)

/-- `create_snapshot_commit`, in a repository whose branch is at a tree. Git changes nothing of the
work tree, so each verification sees the same. -/
def createSnapshotCommit (workspace : GitWorkspace) (head : GitTree) :
    Except SnapshotError (Option GitCommit) := do
  let _ ← verifyWorkspaceContent sha256 identity workspace
  let index := rules.addAll (workFiles workspace.tree)
  if gitStatus head index = [] then
    let _ ← verifyWorkspaceContent sha256 identity workspace
    return none
  else
    let commit : GitCommit := ⟨index, "Sync verified snapshot " ++ workspace.snapshotId.hex⟩
    let _ ← verifyWorkspaceContent sha256 identity workspace
    return some commit

/-- **What committing a verified workspace makes**: the index as a commit, unless the head holds it
already. -/
theorem createSnapshotCommit_eq {workspace : GitWorkspace} {id : Digest} (head : GitTree)
    (verified : verifyWorkspaceContent sha256 identity workspace = .ok id) :
    createSnapshotCommit rules sha256 identity workspace head =
      .ok (if gitStatus head (rules.addAll (workFiles workspace.tree)) = [] then none
        else some ⟨rules.addAll (workFiles workspace.tree),
          "Sync verified snapshot " ++ workspace.snapshotId.hex⟩) := by
  simp only [createSnapshotCommit, verified, bind, Except.bind, pure, Except.pure]
  split
  · rfl
  · rfl

end

end SyncApp
