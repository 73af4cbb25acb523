import SyncApp.Retention.Planning
import SyncApp.Lib.CommitText

/-!
# The rewriting of a history

The retained commits are rebuilt, the oldest first: each is read through Git, its parent is replaced
by the commit that was rebuilt before it, or taken away, its signatures are dropped, and it is
written as a new object. A replacement is looked through commit by commit, the newest first, before
it is published.

Git's object store is a list of commit objects; the id of an object is a parameter, and so is what
`git hash-object` refuses. What Git prints is decoded as text, so every kind of line end is read as
LF; what is written is written as it stands.
-/

set_option autoImplicit false

namespace SyncApp

open Lib

namespace Retention

open CommitText (CommitParts parse nameOf partitionBlank translate)
open Records (isObjectId)

/-- Git's ids of objects, and the objects that `git hash-object -t commit -w` writes. -/
structure Git where
  objectId : List UInt8 → PyStr
  accepts : List UInt8 → Bool

/-- The commit objects of a repository. -/
abbrev Store := List (List UInt8)

def Git.find (git : Git) (store : Store) (sha : PyStr) : Option (List UInt8) :=
  store.find? (git.objectId · = sha)

/-- An artifact: a replacement that was built for an authorization. -/
structure Artifact where
  expectedHead : PyStr
  retained : List PyStr
  replacementHead : PyStr
deriving DecidableEq

/-! ## Texts of commits -/

def treePrefix : PyStr := text "tree "

def parentPrefix : PyStr := text "parent "

def isTree (line : PyStr) : Bool := treePrefix.isPrefixOf line

def isParent (line : PyStr) : Bool := parentPrefix.isPrefixOf line

/-- The headers that are not rebuilt. -/
def isDropped (name : PyStr) : Bool :=
  [text "parent", text "gpgsig", text "mergetag"].contains name

/-- The groups after which the new parent comes. -/
def isTreeKey (line : PyStr) : Bool := nameOf [line] = text "tree"

def parentLines (rebuiltParent : Option PyStr) : List PyStr :=
  (rebuiltParent.map (parentPrefix ++ ·)).toList

section

variable (branch : Branch) (git : Git)

/-- The message of a failure, which names the branch. -/
def failed (message : String) : Failure := invalid (branch.pick "logs " "database " ++ message)

/-- `_rewrite_commit_parent`. -/
def rewriteCommitParent (rawCommit expectedOriginalParent : PyStr)
    (rebuiltParent : Option PyStr) : Except Failure PyStr :=
  match parse rawCommit with
  | none => .error (failed branch "retained commit is invalid")
  | some parsed =>
    match parsed.groups.filter (isTree <| ·.headD []),
        parsed.groups.filter (isParent <| ·.headD []) with
    | [tree], [parent] =>
      if isObjectId ((tree.headD []).drop 5) && isObjectId ((parent.headD []).drop 7) &&
          (parent.headD []).drop 7 = expectedOriginalParent then
        .ok (parsed.rewritten isDropped isTreeKey (parentLines rebuiltParent))
      else .error (failed branch "retained commit ancestry is invalid")
    | _, _ => .error (failed branch "retained commit ancestry is invalid")

/-- `_commit_tree_and_parents`. -/
def commitTreeAndParents (rawCommit : PyStr) : Except Failure (PyStr × List PyStr) :=
  match partitionBlank rawCommit with
  | none => .error (failed branch "replacement artifact is invalid")
  | some (header, _) =>
    let trees := ((header.splitOn 10).filter isTree).map (·.drop 5)
    let parents := ((header.splitOn 10).filter isParent).map (·.drop 7)
    if header = [] then .error (failed branch "replacement artifact is invalid")
    else
      match trees with
      | [tree] =>
        if isObjectId tree && parents.all isObjectId && parents.length ≤ 1 then .ok (tree, parents)
        else .error (failed branch "replacement artifact is invalid")
      | _ => .error (failed branch "replacement artifact is invalid")

/-! ## Git -/

/-- `_read_commit`: `git cat-file commit`, whose output is decoded as text. -/
def readCommit (store : Store) (sha : PyStr) : Except Failure PyStr :=
  match git.find store sha with
  | none => .error (failed branch "retained history could not be read")
  | some object =>
    match Utf8.decode object with
    | none =>
      .error ⟨branch.pick "logs " "database " ++ "retained history could not be read",
        branch.pick false true⟩
    | some raw => .ok (translate raw)

/-- `_write_commit_object`. -/
def writeCommitObject (length : Nat) (store : Store) (payload : PyStr) :
    Except Failure (Store × PyStr) :=
  let object := Utf8.encode payload
  if git.accepts object then
    if isObjectId (git.objectId object) && (git.objectId object).length = length then
      .ok (store ++ [object], git.objectId object)
    else .error (failed branch "rebuilt history is invalid")
  else .error (failed branch "retained history could not be rebuilt")

/-! ## A replacement is built -/

/-- `_validate_authorization_boundary`, which looks for commits that stand twice for the database
only. -/
def validateBoundary (authorization : Authorization) : Except Failure Unit :=
  let all := authorization.retained ++ authorization.pruned
  if isObjectId authorization.expectedHead &&
      authorization.retained.head? = some authorization.expectedHead && all.all isObjectId &&
      all.all (·.length = authorization.expectedHead.length) && branch.pick true all.Nodup then
    .ok ()
  else .error (failed branch "replacement authorization is invalid")

/-- One step of the loop over the retained commits, oldest first: the store, the parent that the
commit has, and the one it is to have. -/
def rebuildOne (length : Nat) (state : Store × PyStr × Option PyStr) (sha : PyStr) :
    Except Failure (Store × PyStr × Option PyStr) := do
  let (store, expectedOriginalParent, rebuiltParent) := state
  let rawCommit ← readCommit branch git store sha
  let payload ← rewriteCommitParent branch rawCommit expectedOriginalParent rebuiltParent
  let (written, rebuilt) ← writeCommitObject branch git length store payload
  return (written, sha, some rebuilt)

/-- `build_log_history_replacement`, `build_database_history_replacement`. -/
def buildReplacement (store : Store) (authorization : Authorization) :
    Except Failure (Store × Artifact) := do
  validateBoundary branch authorization
  match authorization.pruned with
  | [] => throw (failed branch "history replacement is not required")
  | newest :: _ => do
    let (written, _, rebuiltParent) ← authorization.retained.reverse.foldlM
      (rebuildOne branch git authorization.expectedHead.length) (store, newest, none)
    match rebuiltParent with
    | none => throw (failed branch "rebuilt history is invalid")
    | some head =>
      if head = authorization.expectedHead then
        throw (failed branch "rebuilt history is invalid")
      else return (written, ⟨authorization.expectedHead, authorization.retained, head⟩)

/-! ## A replacement is looked through -/

/-- `_validate_artifact`. -/
def validateArtifact (authorization : Authorization) (artifact : Artifact) :
    Except Failure Unit :=
  if artifact.expectedHead = authorization.expectedHead ∧
      artifact.retained = authorization.retained ∧ isObjectId artifact.replacementHead ∧
      artifact.replacementHead.length = authorization.expectedHead.length ∧
      artifact.replacementHead ≠ authorization.expectedHead then .ok ()
  else .error (failed branch "replacement artifact is invalid")

/-- One turn of the loop in `_validate_artifact_history`: the parent of the commit that was
rebuilt. -/
def validateCommit (store : Store) (expectedOriginalParent : PyStr) (oldest : Bool)
    (rebuiltSha originalSha : PyStr) : Except Failure (Option PyStr) := do
  let original ← readCommit branch git store originalSha
  let rebuilt ← readCommit branch git store rebuiltSha
  let (originalTree, originalParents) ← commitTreeAndParents branch original
  let (rebuiltTree, rebuiltParents) ← commitTreeAndParents branch rebuilt
  if (oldest ∧ rebuiltParents ≠ []) ∨ (¬oldest ∧ rebuiltParents.length ≠ 1) then
    throw (failed branch "replacement artifact is invalid")
  else do
    let rebuiltParent := if oldest then none else rebuiltParents.head?
    let expectedRebuilt ← rewriteCommitParent branch original expectedOriginalParent rebuiltParent
    if originalParents ≠ [expectedOriginalParent] ∨
        (branch = .database ∧ rebuiltTree ≠ originalTree) ∨ rebuilt ≠ expectedRebuilt then
      throw (failed branch "replacement artifact is invalid")
    else return rebuiltParent

/-- The loop of `_validate_artifact_history` over the retained commits, newest first. -/
def validateFrom (store : Store) (newestPruned : PyStr) : PyStr → List PyStr → Except Failure Unit
  | _, [] => .ok ()
  | rebuiltSha, originalSha :: older => do
    let rebuiltParent ← validateCommit branch git store (older.head?.getD newestPruned)
      older.isEmpty rebuiltSha originalSha
    validateFrom store newestPruned (rebuiltParent.getD rebuiltSha) older

/-- The validation in `replace_logs_history`, `replace_database_history`, before the push. -/
def validateReplacement (store : Store) (authorization : Authorization) (artifact : Artifact) :
    Except Failure Unit := do
  validateBoundary branch authorization
  match authorization.pruned with
  | [] => return ()
  | newest :: _ => do
    validateArtifact branch authorization artifact
    validateFrom branch git store newest artifact.replacementHead authorization.retained

end

end Retention

end SyncApp
