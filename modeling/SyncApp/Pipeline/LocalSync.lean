import SyncApp.Pipeline.Queue
import SyncApp.Publication.SnapshotCommit

/-!
# Local synchronization

One cycle from the live configuration to Repo B's `main`: the capture, the trusted remote head, the
baseline last recorded, and a publication when they agree.

Git and GitHub are not code of this repository. `Git` holds what a commit's tree is, which commit a
`git commit` makes and which commits descend from which; GitHub refuses a push that is no fast
forward. What a cycle captures and stages of the live configuration is a function of it.
-/

set_option autoImplicit false

namespace SyncApp

open Lib Raising Lane

/-- Git's commits: the tree of each, the commit that `git commit` makes of a tree on a head, and
which descend from which. Ancestry is a partial order, since a commit's name is a hash over its
parents'; a new commit has no ancestors but its head's. -/
structure Git where
  tree : ObjectId → GitTree
  commit : GitTree → Option ObjectId → Int → ObjectId
  isAncestor : ObjectId → ObjectId → Bool
  refl : ∀ commit, isAncestor commit commit = true
  trans : ∀ first second third, isAncestor first second = true → isAncestor second third = true →
    isAncestor first third = true
  antisymm : ∀ first second, isAncestor first second = true → isAncestor second first = true →
    first = second
  commit_descends : ∀ index head time, isAncestor head (commit index (some head) time) = true
  commit_ancestor : ∀ ancestor index head time,
    isAncestor ancestor (commit index head time) = true → ancestor = commit index head time ∨
      ∃ parent, head = some parent ∧ isAncestor ancestor parent = true

def firstCommit : ObjectId := .sha1 ⟨"aaaaaaaaaaaaaaaaaaaaaaaaaaaaaaaaaaaaaaaa", by decide⟩

def secondCommit : ObjectId := .sha1 ⟨"bbbbbbbbbbbbbbbbbbbbbbbbbbbbbbbbbbbbbbbb", by decide⟩

def thirdCommit : ObjectId := .sha1 ⟨"cccccccccccccccccccccccccccccccccccccccc", by decide⟩

theorem commits_apart : firstCommit ≠ secondCommit ∧ firstCommit ≠ thirdCommit ∧
    secondCommit ≠ thirdCommit := by decide

/-- The commit that is made on a head. -/
def nextCommit : Option ObjectId → ObjectId
  | none => firstCommit
  | some parent =>
    if parent = firstCommit then secondCommit
    else if parent = secondCommit then thirdCommit
    else parent

/-- Which commits descend from which. -/
def descendsFrom (ancestor commit : ObjectId) : Bool :=
  ancestor = commit || ancestor = firstCommit && (commit = secondCommit || commit = thirdCommit) ||
    ancestor = secondCommit && commit = thirdCommit

theorem descendsFrom_refl (commit : ObjectId) : descendsFrom commit commit = true := by
  simp [descendsFrom]

theorem descendsFrom_trans (first second third : ObjectId)
    (one : descendsFrom first second = true) (two : descendsFrom second third = true) :
    descendsFrom first third = true := by
  have apart := commits_apart
  unfold descendsFrom at *
  grind

theorem descendsFrom_antisymm (first second : ObjectId) (one : descendsFrom first second = true)
    (two : descendsFrom second first = true) : first = second := by
  have apart := commits_apart
  unfold descendsFrom at *
  grind

theorem descendsFrom_next (head : ObjectId) : descendsFrom head (nextCommit (some head)) = true := by
  have apart := commits_apart
  unfold descendsFrom nextCommit
  grind

theorem descendsFrom_of_next (ancestor : ObjectId) (head : Option ObjectId)
    (descends : descendsFrom ancestor (nextCommit head) = true) : ancestor = nextCommit head ∨
      ∃ parent, head = some parent ∧ descendsFrom ancestor parent = true := by
  have apart := commits_apart
  unfold descendsFrom nextCommit at *
  cases head <;> grind

/-- A history of three commits, each made on the one before; no other commit has ancestors. -/
def threeCommits : Git where
  tree _ := []
  commit _ head _ := nextCommit head
  isAncestor := descendsFrom
  refl := descendsFrom_refl
  trans := descendsFrom_trans
  antisymm := descendsFrom_antisymm
  commit_descends _ head _ := descendsFrom_next head
  commit_ancestor ancestor _ head _ := descendsFrom_of_next ancestor head

/-- What a cycle makes of the live configuration: the snapshot's identity, and the tree that
`git add` stages of it. -/
structure LocalSource where
  snapshotId : Digest
  index : GitTree

/-- `str.casefold()` on a repository target, which is ASCII. -/
def casefoldTarget (target : PyStr) : PyStr :=
  target.map fun c => if 65 ≤ c ∧ c ≤ 90 then c + 32 else c

/-! ## Trusted heads -/

def repositoryFailure (message : String) : Failure := ⟨message, false⟩

/-- `fetch_and_verify_private_repository` and the head of one branch. -/
def RemoteRepository.head (remote : RemoteRepository) (target : PyStr) (expectedId : Int)
    (branch : PyStr) : Except Failure BranchHead :=
  if casefoldTarget remote.fullName ≠ casefoldTarget target then
    .error (repositoryFailure "GitHub repository identity does not match configuration")
  else if remote.repositoryId ≠ expectedId then
    .error (repositoryFailure "Configured repository identity changed unexpectedly")
  else .ok ⟨remote.fullName, remote.repositoryId, branch, remote.branches branch⟩

/-- `fetch_optional_trusted_branch_head`. -/
def fetchOptionalTrustedBranchHead (target : PyStr) (expectedId : Int) (branch : PyStr) :
    Lane BranchHead :=
  outside fun system =>
    match system.remote.head target expectedId branch with
    | .ok head => .ok (head, { system with events := .observedBranch head :: system.events })
    | .error failure => .error failure

/-- `fetch_trusted_branch_head`. -/
def fetchTrustedBranchHead (target : PyStr) (expectedId : Int) (branch : PyStr) :
    Lane BranchHead := do
  let head ← fetchOptionalTrustedBranchHead target expectedId branch
  ensure (head.commitSha.isSome) (repositoryFailure "Trusted repository branch does not exist")
  return head

/-! ## Baselines -/

/-- `StateStore.synchronization_baseline`. -/
def Store.synchronizationBaseline (store : Store) (target branch : PyStr) :
    Option SynchronizationBaseline :=
  store.baselines.find? fun row => row.target = target ∧ row.branch = branch

/-- `StateStore.record_synchronization_baseline`. -/
def Store.recordSynchronizationBaseline (store : Store) (row : SynchronizationBaseline) : Store :=
  { store with
    baselines := row :: store.baselines.filter fun other =>
      ¬(other.target = row.target ∧ other.branch = row.branch) }

/-! ## Classification -/

inductive LocalSyncDisposition where
  | initialized
  | published
  | noChange
  | baselineRequired
  | diverged
  | remoteMissing
deriving DecidableEq

structure LocalSyncResult where
  disposition : LocalSyncDisposition
  target : PyStr
  repositoryId : Int
  branch : PyStr
  snapshotId : Digest
  commitSha : Option ObjectId
  baseline : Option SynchronizationBaseline
deriving DecidableEq

/-- `LocalSyncError`, transient unless said otherwise. -/
def localSyncError (message : String) : Failure := ⟨message, true⟩

/-- `_classify_pre_commit_refusal`. -/
def classifyPreCommitRefusal (target : PyStr) (repositoryId : Int) (branch : PyStr)
    (snapshotId : Digest) (remote : BranchHead) (baseline : Option SynchronizationBaseline) :
    Except Failure (Option LocalSyncResult) :=
  let refused (disposition : LocalSyncDisposition) : LocalSyncResult :=
    ⟨disposition, remote.target, remote.repositoryId, remote.branch, snapshotId, none, baseline⟩
  match baseline, remote.commitSha with
  | none, some _ => .ok (some (refused .baselineRequired))
  | none, none => .ok none
  | some _, none => .ok (some (refused .remoteMissing))
  | some baseline, some commitSha =>
    if casefoldTarget baseline.target ≠ casefoldTarget target ∨ baseline.branch ≠ branch ∨
        remote.repositoryId ≠ repositoryId ∨
        casefoldTarget remote.target ≠ casefoldTarget target ∨ remote.branch ≠ branch then
      .error (localSyncError "local synchronization evidence does not describe one branch")
    else if commitSha ≠ baseline.commitSha then .ok (some (refused .diverged))
    else .ok none

inductive PublicationDisposition where
  | safeToPublish
  | safeToInitialize
  | noChange
  | alreadyPublished
  | diverged
  | remoteMissing
  | baselineRequired
deriving DecidableEq

structure PublicationPreflight where
  disposition : PublicationDisposition
  target : PyStr
  repositoryId : Int
  branch : PyStr
  localCommitSha : ObjectId
  remoteCommitSha : Option ObjectId
  baselineCommitSha : Option ObjectId

def PublicationPreflight.mayPublish (preflight : PublicationPreflight) : Bool :=
  preflight.disposition = .safeToPublish ∨ preflight.disposition = .safeToInitialize

/-- `assess_publication_preflight`. -/
def assessPublicationPreflight (localCommitSha : ObjectId) (remote : BranchHead)
    (baseline : Option SynchronizationBaseline) : Except Failure PublicationPreflight :=
  let assessed (disposition : PublicationDisposition) : PublicationPreflight :=
    ⟨disposition, remote.target, remote.repositoryId, remote.branch, localCommitSha,
      remote.commitSha, baseline.map (·.commitSha)⟩
  match baseline with
  | none => .ok (assessed (if remote.commitSha = none then .safeToInitialize else .baselineRequired))
  | some baseline =>
    if casefoldTarget baseline.target ≠ casefoldTarget remote.target ∨
        baseline.branch ≠ remote.branch then
      .error ⟨"publication evidence does not describe one repository branch", true⟩
    else
      match remote.commitSha with
      | none => .ok (assessed .remoteMissing)
      | some commitSha =>
        if commitSha = baseline.commitSha then
          .ok (assessed (if localCommitSha = commitSha then .noChange else .safeToPublish))
        else if commitSha = localCommitSha then .ok (assessed .alreadyPublished)
        else .ok (assessed .diverged)

/-! ## Publication -/

/-- How Repo B is reached: with a token over its API, or with a deploy key over Git. -/
inductive PublicationCredential where
  | token
  | deployKey
deriving DecidableEq

/-- `expect_remote_absent` is that no commit is expected. -/
structure PublicationIntent where
  target : PyStr
  repositoryId : Int
  branch : PyStr
  localCommitSha : ObjectId
  expectedRemoteCommitSha : Option ObjectId

/-- The identity of a head is the intent's. -/
def PublicationIntent.describes (intent : PublicationIntent) (head : BranchHead) : Prop :=
  casefoldTarget intent.target = casefoldTarget head.target ∧
    intent.repositoryId = head.repositoryId ∧ intent.branch = head.branch

instance (intent : PublicationIntent) (head : BranchHead) : Decidable (intent.describes head) :=
  inferInstanceAs (Decidable (_ ∧ _ ∧ _))

/-- `verify_workspace_content`, which must give the identity the workspace was made with. -/
def reproveSnapshot (snapshotId : Digest) : Lane Unit :=
  outside fun system =>
    if system.workspaceContent = snapshotId then
      .ok ((), { system with events := .reprovedSnapshot snapshotId :: system.events })
    else .error ⟨"isolated workspace snapshot identity changed", true⟩

/-- `observe` of a deploy key: the branch as Git lists it, under the name it was asked by. -/
def observeBranch (target : PyStr) (repositoryId : Int) (branch : PyStr) : Lane BranchHead :=
  outside fun system =>
    match system.remote.head target repositoryId branch with
    | .ok head =>
      let observed := { head with target := target }
      .ok (observed, { system with events := .observedBranch observed :: system.events })
    | .error failure => .error failure

/-- The trusted head of a branch, with either credential. -/
def observeRemote (credential : PublicationCredential) (target : PyStr) (repositoryId : Int)
    (branch : PyStr) : Lane BranchHead :=
  match credential with
  | .token => fetchOptionalTrustedBranchHead target repositoryId branch
  | .deployKey => observeBranch target repositoryId branch

/-- `record_verified_publication`. -/
def recordVerifiedPublication (intent : PublicationIntent) (snapshotId : Digest)
    (result : BranchHead) : Lane SynchronizationBaseline := do
  ensure (intent.describes result ∧ result.commitSha = some intent.localCommitSha)
    ⟨"publication result commit does not match intended commit", true⟩
  reproveSnapshot snapshotId
  let now ← clock
  transaction fun store =>
    if store.repositoryId result.target ≠ some result.repositoryId then
      .error ⟨"publication repository binding is missing or changed", true⟩
    else
      let row : SynchronizationBaseline :=
        ⟨result.target, result.branch, snapshotId, intent.localCommitSha, now⟩
      .ok (row, store.recordSynchronizationBaseline row)

section

variable (git : Git)

/-- `verify_fast_forward_ancestry`. -/
def verifyFastForwardAncestry (baselineCommitSha localCommitSha : ObjectId) : Lane Unit :=
  outside fun system =>
    if git.isAncestor baselineCommitSha localCommitSha then .ok ((), system)
    else .error ⟨"local commit does not descend from trusted baseline", true⟩

/-- `build_publication_intent`. -/
def buildPublicationIntent (snapshotId : Digest) (preflight : PublicationPreflight) :
    Lane PublicationIntent :=
  let intent : PublicationIntent := ⟨preflight.target, preflight.repositoryId, preflight.branch,
    preflight.localCommitSha, preflight.remoteCommitSha⟩
  match preflight.disposition, preflight.remoteCommitSha, preflight.baselineCommitSha with
  | .safeToPublish, some remoteCommitSha, some baselineCommitSha => do
    ensure (remoteCommitSha = baselineCommitSha)
      ⟨"normal publication remote state does not match baseline", true⟩
    reproveSnapshot snapshotId
    verifyFastForwardAncestry git baselineCommitSha preflight.localCommitSha
    return intent
  | .safeToPublish, _, _ => throw ⟨"normal publication requires an exact remote baseline", true⟩
  | .safeToInitialize, none, none => do
    reproveSnapshot snapshotId
    verifyFastForwardAncestry git preflight.localCommitSha preflight.localCommitSha
    return intent
  | .safeToInitialize, _, _ =>
    throw ⟨"initial publication requires an absent remote with no baseline", true⟩
  | _, _, _ => throw ⟨"publication preflight does not authorize transport", true⟩

/-- `git push` without force: GitHub refuses what is no fast forward. -/
def pushBranch (branch : PyStr) (commitSha : ObjectId) : Lane Unit :=
  request fun system =>
    let replaced := system.remote.branches branch
    if replaced.all (git.isAncestor · commitSha) then
      .ok ((), { system with
        remote := system.remote.move branch commitSha
        events := .pushed branch replaced commitSha :: system.events })
    else .error ⟨"Repo B publication transport was rejected", true⟩

/-- `push_publication_intent`. -/
def pushPublicationIntent (snapshotId : Digest) (intent : PublicationIntent)
    (currentRemote : BranchHead) : Lane Unit := do
  ensure (currentRemote.commitSha = intent.expectedRemoteCommitSha)
    ⟨"publication target branch changed after authorization", true⟩
  ensure (intent.describes currentRemote) ⟨"trusted publication repository target changed", true⟩
  reproveSnapshot snapshotId
  pushBranch git intent.branch intent.localCommitSha
  reproveSnapshot snapshotId

/-- `complete_authorized_publication`. -/
def completeAuthorizedPublication (snapshotId : Digest) (intent : PublicationIntent) :
    Lane SynchronizationBaseline := do
  let before ← fetchOptionalTrustedBranchHead intent.target intent.repositoryId intent.branch
  pushPublicationIntent git snapshotId intent before
  let after ← fetchTrustedBranchHead intent.target intent.repositoryId intent.branch
  recordVerifiedPublication intent snapshotId after

/-- `_validate_after_publication`. -/
def validateAfterPublication (intent : PublicationIntent) (after : BranchHead) : Lane Unit :=
  if after.commitSha = some intent.localCommitSha then pure ()
  else if after.commitSha = intent.expectedRemoteCommitSha then
    throw ⟨"Repo B publication could not be confirmed", true⟩
  else throw ⟨"Repo B publication target diverged", false⟩

/-- `push_publication_intent_with_deploy_key`. -/
def pushPublicationIntentWithDeployKey (snapshotId : Digest) (intent : PublicationIntent) :
    Lane Unit := do
  let before ← observeBranch intent.target intent.repositoryId intent.branch
  pushPublicationIntent git snapshotId intent before
  let after ← observeBranch intent.target intent.repositoryId intent.branch
  validateAfterPublication intent after

/-- `DeployKeyPublicationAuthority.complete`. -/
def completeWithDeployKey (snapshotId : Digest) (intent : PublicationIntent) :
    Lane SynchronizationBaseline := do
  let _ ← observeBranch intent.target intent.repositoryId intent.branch
  pushPublicationIntentWithDeployKey git snapshotId intent
  let after ← observeBranch intent.target intent.repositoryId intent.branch
  ensure after.commitSha.isSome ⟨"publication result could not be confirmed", true⟩
  recordVerifiedPublication intent snapshotId after

def completePublication (credential : PublicationCredential) (snapshotId : Digest)
    (intent : PublicationIntent) : Lane SynchronizationBaseline :=
  match credential with
  | .token => completeAuthorizedPublication git snapshotId intent
  | .deployKey => completeWithDeployKey git snapshotId intent

/-! ## The cycle -/

/-- The capture, the isolated workspace and its repository. -/
def prepareWorkspace (capture : FileSystem PyStr → LocalSource) : Lane LocalSource :=
  outside fun system =>
    let source := capture system.host.live
    .ok (source, { system with workspaceContent := source.snapshotId })

/-- `anchor_trusted_baseline`: what is fetched must be the head that was observed. -/
def anchorTrustedBaseline (remote : BranchHead) : Lane Unit :=
  outside fun system =>
    if system.remote.branches remote.branch = remote.commitSha then .ok ((), system)
    else .error ⟨"fetched baseline does not match trusted remote head", false⟩

/-- `create_snapshot_commit`, in a repository whose branch is at a head. -/
def createWorkspaceCommit (source : LocalSource) (head : Option ObjectId) :
    Lane (Option ObjectId) := do
  reproveSnapshot source.snapshotId
  let commitSha ← outside fun system =>
    let tree := (head.map git.tree).getD []
    .ok (if gitStatus tree source.index = [] then none
      else some (git.commit source.index head system.now), system)
  reproveSnapshot source.snapshotId
  return commitSha

/-- How a cycle classifies an exception that is no `LocalSyncError`: with a token anything but a
`ValueError` is transient, a deploy key says for itself. -/
def failedClosed (credential : PublicationCredential) (failure : Failure) : Failure :=
  ⟨"local synchronization failed closed",
    match credential with
    | .token => true
    | .deployKey => failure.transient⟩

variable (capture : FileSystem PyStr → LocalSource)

/-- The publication of a commit that the classification let through. -/
def publishLocalCommit (credential : PublicationCredential) (repositoryId : Int)
    (source : LocalSource) (remote : BranchHead) (baseline : Option SynchronizationBaseline)
    (localCommitSha : ObjectId) : Lane LocalSyncResult := do
  let preflight ← ofResult
    ((assessPublicationPreflight localCommitSha remote baseline).mapError (failedClosed .token))
  ensure preflight.mayPublish
    (localSyncError "local synchronization lost publication authorization")
  let intent ← rethrow (buildPublicationIntent git source.snapshotId preflight)
    (failedClosed .token)
  let completed ← rethrow (completePublication git credential source.snapshotId intent)
    (failedClosed credential)
  let disposition : LocalSyncDisposition :=
    if preflight.disposition = .safeToInitialize then .initialized else .published
  return ⟨disposition, completed.target, repositoryId, completed.branch, completed.snapshotId,
    some completed.commitSha, some completed⟩

/-- A cycle from where the head and the baseline agree. -/
def synchronizeAgreed (credential : PublicationCredential) (repositoryId : Int)
    (source : LocalSource) (remote : BranchHead) (baseline : Option SynchronizationBaseline) :
    Lane LocalSyncResult := do
  if remote.commitSha.isSome then
    rethrow (anchorTrustedBaseline remote) (failedClosed credential)
  let localCommitSha ← rethrow (createWorkspaceCommit git source remote.commitSha)
    (failedClosed .token)
  match localCommitSha with
  | none =>
    ensure (remote.commitSha.isSome ∧ baseline.isSome)
      (localSyncError "initial synchronization produced no publishable commit")
    return ⟨.noChange, remote.target, remote.repositoryId, remote.branch, source.snapshotId,
      remote.commitSha, baseline⟩
  | some localCommitSha =>
    publishLocalCommit git credential repositoryId source remote baseline localCommitSha

/-- `synchronize_local_configuration`. A failure of the capture keeps its own transience: it is a
`ValueError` where the routing is misconfigured. -/
def synchronizeLocalConfiguration (credential : PublicationCredential) (target branch : PyStr) :
    Lane LocalSyncResult := do
  ensure (branch = mainBranch)
    (localSyncError "local configuration synchronization only supports main")
  let bound ← query fun store => .ok (store.repositoryId target)
  match bound with
  | none => throw (localSyncError "local synchronization repository is not pinned")
  | some repositoryId =>
    let source ← rethrow (prepareWorkspace capture) (failedClosed .deployKey)
    let remote ← rethrow (observeRemote credential target repositoryId branch)
      (failedClosed credential)
    let baseline ← query fun store => .ok (store.synchronizationBaseline target branch)
    let refusal ← ofResult
      (classifyPreCommitRefusal target repositoryId branch source.snapshotId remote baseline)
    match refusal with
    | some refusal => return refusal
    | none => synchronizeAgreed git credential repositoryId source remote baseline

/-! ## Durable work -/

/-- `local_sync_work_key`, as the identity it hashes. -/
def localSyncWorkKey (target branch : PyStr) : PyStr := casefoldTarget target ++ [0] ++ branch

/-- The dispositions a cycle succeeds with; the others block its work. -/
def LocalSyncDisposition.succeeds : LocalSyncDisposition → Bool
  | .initialized | .published | .noChange => true
  | .baselineRequired | .diverged | .remoteMissing => false

/-- `execute_claimed_local_sync_work`. -/
def executeClaimedLocalSyncWork (credential : PublicationCredential) (item : WorkItem)
    (target branch : PyStr) : Lane (WorkItem × Option LocalSyncResult) := do
  ensure (item.workKind = .localSync ∧ item.status = .running ∧ 1 ≤ item.attempts)
    ⟨"local synchronization work is not an eligible claimed item", false⟩
  ensure (item.workKey = localSyncWorkKey target branch)
    ⟨"local synchronization work identity does not match the target", false⟩
  let outcome ← tryCatch
    (do return .ok (← synchronizeLocalConfiguration git capture credential target branch))
    fun failure => pure (.error failure : Except Failure LocalSyncResult)
  let now ← clock
  match outcome with
  | .error failure =>
    let failed ← transaction (failWork item failure.transient now)
    return (failed, none)
  | .ok synchronization =>
    let transitioned ←
      if synchronization.disposition.succeeds then transaction (completeWork item now)
      else transaction (failWork item false now)
    return (transitioned, some synchronization)

/-- `run_local_sync_process`: what the startup and the debounced watcher run. -/
def runLocalSyncProcess (credential : PublicationCredential) (target branch : PyStr) :
    Lane (Option (WorkItem × Option LocalSyncResult)) := do
  let now ← clock
  let item ← transaction (claimWorkKind .localSync now)
  match item with
  | none => return none
  | some item =>
    if item.workKey ≠ localSyncWorkKey target branch then
      let blocked ← transaction (failWork item false now)
      return some (blocked, none)
    else return some (← executeClaimedLocalSyncWork git capture credential item target branch)

/-- `run_local_sync_retrigger_pass`: it first takes up the interrupted work of every kind. -/
def runLocalSyncRetriggerPass (credential : PublicationCredential) (target branch : PyStr) :
    Lane (Option (WorkItem × Option LocalSyncResult)) := do
  let now ← clock
  transaction fun store => .ok ((), recoverInterruptedWork (fun _ => true) now store)
  let item ← transaction (claimWorkKind .localSync now)
  match item with
  | none => return none
  | some item => return some (← executeClaimedLocalSyncWork git capture credential item target branch)

/-- `schedule_local_sync_generation`. -/
def scheduleLocalSyncGeneration (target branch : PyStr) : Lane WorkItem := do
  let now ← clock
  transaction fun store =>
    let key := localSyncWorkKey target branch
    let fresh := Store.pendingWork .localSync key now
    match store.findWork .localSync key with
    | none => .ok (fresh, { store with work := store.work ++ [fresh] })
    | some existing =>
      if existing.status = .succeeded then
        match store.updateWork existing fun _ => fresh with
        | none => .error ⟨"routine work generation changed unexpectedly", false⟩
        | some store => .ok (fresh, store)
      else .ok (existing, store)

end

end SyncApp
