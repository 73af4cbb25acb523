import SyncApp.Pipeline.LocalSync
import SyncApp.Pipeline.WorkTable

/-!
# Log synchronization

One cycle from a staged log artifact to Repo B's `logs`, and the work it is done under: an item for
each artifact, whose key names the artifact. An artifact is a function of its identifier, which is
the hash of its manifest; `intact` says which artifacts still are as they were staged.
-/

set_option autoImplicit false

namespace SyncApp

open Lib Raising Lane

def logsBranch : PyStr := text "logs"

/-- `_WORK_KIND`. -/
def logsKind : WorkKind := .other ⟨text "logs", by decide⟩

/-- A `LogArtifact`: the `reference_time` of its manifest, and what is staged of it. -/
structure LogArtifact where
  referenceTime : Int
  source : LocalSource

/-! ## Classification -/

inductive LogSyncDisposition where
  | initialized
  | published
  | noChange
  | baselineRequired
  | diverged
  | remoteMissing
deriving DecidableEq

structure LogSyncResult where
  disposition : LogSyncDisposition
  target : PyStr
  repositoryId : Int
  branch : PyStr
  artifactId : PyStr
  snapshotId : Digest
  commitSha : Option ObjectId
  baseline : Option SynchronizationBaseline
deriving DecidableEq

/-- `LogSyncError`, transient unless said otherwise. -/
def logSyncError (message : String) : Failure := ⟨message, true⟩

/-- How a cycle classifies an exception that is no `LogSyncError`: only a deploy key says for
itself. -/
def logSyncFailedClosed (credential : PublicationCredential) (failure : Failure) : Failure :=
  ⟨"logs synchronization failed closed",
    match credential with
    | .token => true
    | .deployKey => failure.transient⟩

section

variable (target : PyStr) (repositoryId : Int) (artifactId : PyStr) (snapshotId : Digest)

/-- `_result`. -/
def logSyncResult (disposition : LogSyncDisposition) (name : PyStr) (commitSha : Option ObjectId)
    (baseline : Option SynchronizationBaseline) : LogSyncResult :=
  ⟨disposition, name, repositoryId, logsBranch, artifactId, snapshotId, commitSha, baseline⟩

/-- `_classify_refusal`. -/
def classifyLogRefusal (remote : BranchHead) (baseline : Option SynchronizationBaseline) :
    Except Failure (Option LogSyncResult) :=
  let refused (disposition : LogSyncDisposition) : LogSyncResult :=
    logSyncResult repositoryId artifactId snapshotId disposition remote.target none baseline
  match baseline, remote.commitSha with
  | none, some _ => .ok (some (refused .baselineRequired))
  | none, none => .ok none
  | some _, none => .ok (some (refused .remoteMissing))
  | some baseline, some commitSha =>
    if casefoldTarget baseline.target ≠ casefoldTarget target ∨ baseline.branch ≠ logsBranch ∨
        remote.repositoryId ≠ repositoryId ∨
        casefoldTarget remote.target ≠ casefoldTarget target ∨ remote.branch ≠ logsBranch then
      .error (logSyncError "logs synchronization evidence describes another branch")
    else if commitSha ≠ baseline.commitSha then .ok (some (refused .diverged))
    else .ok none

end

/-! ## The cycle -/

section

variable (git : Git) (credential : PublicationCredential) (target : PyStr)

/-- The verified artifact, its snapshot and the isolated workspace. -/
def prepareLogWorkspace (source : LocalSource) : Lane Unit :=
  outside fun system => .ok ((), { system with workspaceContent := source.snapshotId })

/-- The publication of a commit that the classification let through. -/
def publishLogCommit (repositoryId : Int) (artifactId : PyStr) (snapshotId : Digest)
    (remote : BranchHead) (baseline : Option SynchronizationBaseline)
    (localCommitSha : ObjectId) : Lane LogSyncResult := do
  let preflight ← ofResult
    ((assessPublicationPreflight localCommitSha remote baseline).mapError
      (logSyncFailedClosed .token))
  ensure preflight.mayPublish (logSyncError "logs synchronization lost publication authorization")
  let intent ← rethrow (buildPublicationIntent git snapshotId preflight)
    (logSyncFailedClosed .token)
  let completed ← rethrow (completePublication git credential snapshotId intent)
    (logSyncFailedClosed credential)
  let disposition : LogSyncDisposition :=
    if preflight.disposition = .safeToInitialize then .initialized else .published
  return logSyncResult repositoryId artifactId snapshotId disposition completed.target
    (some completed.commitSha) (some completed)

/-- A cycle from where the head and the baseline agree. -/
def synchronizeAgreedLog (repositoryId : Int) (artifactId : PyStr) (source : LocalSource)
    (remote : BranchHead) (baseline : Option SynchronizationBaseline) : Lane LogSyncResult := do
  if remote.commitSha.isSome then
    rethrow (anchorTrustedBaseline remote) (logSyncFailedClosed credential)
  let localCommitSha ← rethrow (createWorkspaceCommit git source remote.commitSha)
    (logSyncFailedClosed .token)
  match localCommitSha with
  | none =>
    ensure (remote.commitSha.isSome ∧ baseline.isSome)
      (logSyncError "initial logs synchronization produced no commit")
    return logSyncResult repositoryId artifactId source.snapshotId .noChange remote.target
      remote.commitSha baseline
  | some localCommitSha =>
    publishLogCommit git credential repositoryId artifactId source.snapshotId remote baseline
      localCommitSha

/-- `synchronize_log_artifact`. -/
def synchronizeLogArtifact (artifactId : PyStr) (source : LocalSource) : Lane LogSyncResult := do
  let bound ← query fun store => .ok (store.repositoryId target)
  match bound with
  | none => throw (logSyncError "logs synchronization repository is not pinned")
  | some repositoryId =>
    rethrow (prepareLogWorkspace source) (logSyncFailedClosed .token)
    let remote ← rethrow (observeRemote credential target repositoryId logsBranch)
      (logSyncFailedClosed credential)
    let baseline ← query fun store => .ok (store.synchronizationBaseline target logsBranch)
    let refusal ← ofResult
      (classifyLogRefusal target repositoryId artifactId source.snapshotId remote baseline)
    match refusal with
    | some refusal => return refusal
    | none => synchronizeAgreedLog git credential repositoryId artifactId source remote baseline

end

/-! ## Durable work -/

/-- `_ARTIFACT_ID`. -/
def isArtifactId (value : PyStr) : Bool :=
  value.length = 64 && value.all fun c => (48 ≤ c && c ≤ 57) || (97 ≤ c && c ≤ 102)

/-- `log_sync_work_key`, with the target it hashes. -/
def logSyncWorkKey (target artifactId : PyStr) : PyStr :=
  casefoldTarget target ++ [58] ++ artifactId

/-- `log_sync_artifact_id`: what follows the target, where that is an identifier. -/
def logSyncArtifactId (target workKey : PyStr) : Option PyStr :=
  let artifactId := workKey.drop ((casefoldTarget target).length + 1)
  if isArtifactId artifactId ∧ workKey = logSyncWorkKey target artifactId then some artifactId
  else none

/-- The dispositions a cycle succeeds with; the others block its work. -/
def LogSyncDisposition.succeeds : LogSyncDisposition → Bool
  | .initialized | .published | .noChange => true
  | .baselineRequired | .diverged | .remoteMissing => false

/-- `claim_log_sync_work`. -/
def claimLogSyncWork (now : Int) : Lane (Option WorkItem) :=
  action fun system =>
    match claimWorkKind logsKind now system.store with
    | .error failure => (.error failure, system)
    | .ok (none, store) => (.ok none, { system with store := store })
    | .ok (some item, store) =>
      (.ok (some item), { system with store := store, events := .claimedLog item :: system.events })

section

variable (git : Git) (artifacts : PyStr → LogArtifact) (intact : PyStr → Bool)
  (credential : PublicationCredential) (target : PyStr)

/-- How a cycle is booked on its work. -/
def settleLogSyncWork (item : WorkItem) (outcome : Except Failure LogSyncResult) :
    Lane (WorkItem × Option LogSyncResult) := do
  let now ← clock
  match outcome with
  | .error failure =>
    let failed ← transaction (failWork item failure.transient now)
    return (failed, none)
  | .ok synchronization =>
    let transitioned ←
      if synchronization.disposition.succeeds then transaction (completeWork item now)
      else transaction (failWork item false now)
    return (transitioned, some synchronization)

/-- `execute_claimed_log_sync_work`. An artifact that cannot be loaded as it was staged blocks its
item. -/
def executeClaimedLogSyncWork (item : WorkItem) : Lane (WorkItem × Option LogSyncResult) := do
  ensure (item.workKind = logsKind ∧ item.status = .running ∧ 1 ≤ item.attempts)
    ⟨"logs synchronization work is not an eligible claimed item", false⟩
  match logSyncArtifactId target item.workKey with
  | none => throw ⟨"logs synchronization work identity does not match the target", false⟩
  | some artifactId =>
    if intact artifactId then
      let outcome ← tryCatch
        (do
          return .ok (← synchronizeLogArtifact git credential target artifactId
            (artifacts artifactId).source))
        fun failure => pure (.error failure : Except Failure LogSyncResult)
      settleLogSyncWork item outcome
    else
      let now ← clock
      let blocked ← transaction (failWork item false now)
      return (blocked, none)

/-- `run_log_sync_process`: what the service runs after it has collected an artifact. -/
def runLogSyncProcess : Lane (Option (WorkItem × Option LogSyncResult)) := do
  let now ← clock
  let item ← claimLogSyncWork now
  match item with
  | none => return none
  | some item =>
    if (logSyncArtifactId target item.workKey).isNone then
      let blocked ← transaction (failWork item false now)
      return some (blocked, none)
    else return some (← executeClaimedLogSyncWork git artifacts intact credential target item)

/-- `run_log_sync_retrigger_pass`. -/
def runLogSyncRetriggerPass : Lane (Option (WorkItem × Option LogSyncResult)) := do
  let now ← clock
  transaction fun store => .ok ((), recoverInterruptedWork (fun _ => true) now store)
  runLogSyncProcess git artifacts intact credential target

/-- `collect_and_enqueue_supervisor_logs`, once the artifact is staged. -/
def enqueueLogSyncWork (artifactId : PyStr) : Lane WorkItem := do
  let now ← clock
  transaction (enqueueWork logsKind (logSyncWorkKey target artifactId) now)

end

end SyncApp
