import SyncApp.Pipeline.ForeignWriter
import SyncApp.Pipeline.LogSync

/-!
# The order of log publications

Each artifact is work of its own, so the queue decides which is published next. An item that is
claimed for the first time is the oldest of those that never were claimed, and what was claimed
before is older still: so it publishes over nothing newer. An item that is claimed once more, after
a failure, an interruption or an administrative retry, may.
-/

set_option autoImplicit false

namespace SyncApp

open Lib Raising Lane

/-! ## What was claimed and what was published -/

/-- The claims, the latest first. -/
def claimedLogs : List Event → List WorkItem
  | [] => []
  | .claimedLog item :: earlier => item :: claimedLogs earlier
  | _ :: earlier => claimedLogs earlier

/-- The work under which `logs` was pushed, the latest first: each push is under the last claim
before it. -/
def publishedLogs : List Event → List WorkItem
  | [] => []
  | .pushed branch _ _ :: earlier =>
    if branch = logsBranch then (claimedLogs earlier).head?.toList ++ publishedLogs earlier
    else publishedLogs earlier
  | _ :: earlier => publishedLogs earlier

/-- An event that is neither a claim of log work nor a push of `logs`. -/
def Event.apartFromLogs : Event → Prop
  | .claimedLog _ => False
  | .pushed branch _ _ => branch ≠ logsBranch
  | _ => True

/-- The work has an item with this key that was claimed. -/
def WasClaimed (events : List Event) (workKey : PyStr) : Prop :=
  ∃ claimed ∈ claimedLogs events, claimed.workKey = workKey

theorem claimedLogs_apart {event : Event} {events : List Event} (apart : event.apartFromLogs) :
    claimedLogs (event :: events) = claimedLogs events := by
  cases event with
  | claimedLog => exact apart.elim
  | _ => rfl

theorem claimed_of_published {events : List Event} {item : WorkItem}
    (published : item ∈ publishedLogs events) : item ∈ claimedLogs events := by
  induction events with
  | nil => cases published
  | cons event earlier ih =>
    cases event with
    | claimedLog => exact List.mem_cons_of_mem _ (ih published)
    | pushed branch replaced commitSha =>
      show item ∈ claimedLogs earlier
      unfold publishedLogs at published
      split at published
      · obtain here | before := List.mem_append.mp published
        · exact List.mem_of_mem_head? (Option.mem_toList.mp here)
        · exact ih before
      · exact ih published
    | _ => exact ih published

/-- Work as it was enqueued. -/
structure WorkItem.Unclaimed (row : WorkItem) : Prop where
  status : row.status = .pending
  attempts : row.attempts = 0
  next : row.nextAttemptAt = some row.createdAt

section

variable (git : Git) (artifacts : PyStr → LogArtifact) (target : PyStr)

/-- The reference time of the artifact that work is for. -/
def referenceTimeOf (item : WorkItem) : Int :=
  match logSyncArtifactId target item.workKey with
  | some artifactId => (artifacts artifactId).referenceTime
  | none => 0

/-- The commit was made of the artifact that work is for. -/
def MadeFor (item : WorkItem) (commitSha : ObjectId) : Prop :=
  ∃ artifactId head time, logSyncArtifactId target item.workKey = some artifactId ∧
    commitSha = git.commit (artifacts artifactId).source.index head time

/-- In a history, what is claimed for the first time is no older than what was claimed before, and
`logs` is pushed with the artifact of the last claim. -/
def OrderedLogs : List Event → Prop
  | [] => True
  | .claimedLog item :: earlier => OrderedLogs earlier ∧
    (¬WasClaimed earlier item.workKey → ∀ claimed ∈ claimedLogs earlier,
      referenceTimeOf artifacts target claimed ≤ referenceTimeOf artifacts target item)
  | .pushed branch _ commitSha :: earlier => OrderedLogs earlier ∧
    (branch = logsBranch → ∃ item, (claimedLogs earlier).head? = some item ∧
      MadeFor git artifacts target item commitSha)
  | _ :: earlier => OrderedLogs earlier

end

section Histories

variable {git : Git} {artifacts : PyStr → LogArtifact} {target : PyStr}

theorem OrderedLogs.tail {event : Event} {events : List Event}
    (ordered : OrderedLogs git artifacts target (event :: events)) :
    OrderedLogs git artifacts target events := by
  cases event with
  | claimedLog => exact ordered.1
  | pushed => exact ordered.1
  | _ => exact ordered

theorem OrderedLogs.suffix {later earlier : List Event}
    (ordered : OrderedLogs git artifacts target (later ++ earlier)) :
    OrderedLogs git artifacts target earlier := by
  induction later with
  | nil => exact ordered
  | cons event later ih => exact ih ordered.tail

theorem OrderedLogs.cons_apart {event : Event} {events : List Event} (apart : event.apartFromLogs)
    (ordered : OrderedLogs git artifacts target events) :
    OrderedLogs git artifacts target (event :: events) := by
  cases event with
  | claimedLog => exact apart.elim
  | pushed => exact ⟨ordered, fun here => absurd here apart⟩
  | _ => exact ordered

/-- The last claim, when it is the first of its item, is of nothing older than any claim before. -/
theorem OrderedLogs.first_newest {events : List Event} {item : WorkItem} {before : List WorkItem}
    (ordered : OrderedLogs git artifacts target events) (claims : claimedLogs events = item :: before)
    (first : ∀ other ∈ before, other.workKey ≠ item.workKey) :
    ∀ other ∈ before, referenceTimeOf artifacts target other ≤ referenceTimeOf artifacts target item := by
  induction events with
  | nil => cases claims
  | cons event earlier ih =>
    cases event with
    | claimedLog =>
      cases claims
      refine ordered.2 ?_
      rintro ⟨claimed, member, same⟩
      exact first claimed member same
    | _ => exact ih ordered.tail claims

end Histories

/-! ## What a cycle does -/

/-- What one action does once an item was claimed. -/
inductive LogAction (git : Git) (artifacts : PyStr → LogArtifact) (target : PyStr) (item : WorkItem)
    (s t : System) : Prop where
  | looks (work : t.store.work = s.store.work)
    (events : t.events = s.events ∨
      ∃ event : Event, event.apartFromLogs ∧ t.events = event :: s.events)
  | settles (update : WorkItem → WorkItem)
    (keeps : ∀ row, (update row).workKind = row.workKind ∧ (update row).workKey = row.workKey ∧
      (update row).createdAt = row.createdAt)
    (work : t.store.work = item.updateIn update s.store.work) (events : t.events = s.events)
  | pushes (store : t.store = s.store) (replaced : Option ObjectId) (commitSha : ObjectId)
    (made : MadeFor git artifacts target item commitSha)
    (events : t.events = .pushed logsBranch replaced commitSha :: s.events)

/-- Whatever others may do. -/
def anyhow (_ _ : System) : Prop := True

section Actions

variable {git : Git} {artifacts : PyStr → LogArtifact} {target : PyStr} {item : WorkItem}

theorem LogAction.refl (s : System) : LogAction git artifacts target item s s :=
  .looks rfl (.inl rfl)

/-- A call outside that leaves the work and `logs` alone. -/
theorem log_look {α : Type} {call : System → Except Failure (α × System)}
    (done : ∀ s a t, call s = .ok (a, t) → t.store.work = s.store.work ∧ (t.events = s.events ∨
      ∃ event : Event, event.apartFromLogs ∧ t.events = event :: s.events)) :
    Every (LogAction git artifacts target item) (outside call) := by
  refine every_outside .refl fun s a t called => ?_
  obtain ⟨work, events⟩ := done s a t called
  exact .looks work events

theorem log_reproveSnapshot (id : Digest) :
    Every (LogAction git artifacts target item) (reproveSnapshot id) := by
  refine log_look fun s a t called => ?_
  split at called
  next =>
    cases called
    exact ⟨rfl, .inr ⟨.reprovedSnapshot id, trivial, rfl⟩⟩
  next => cases called

theorem log_fetchOptional (name : PyStr) (id : Int) (branch : PyStr) :
    Every (LogAction git artifacts target item) (fetchOptionalTrustedBranchHead name id branch) := by
  refine log_look fun s a t called => ?_
  split at called
  next =>
    cases called
    exact ⟨rfl, .inr ⟨.observedBranch _, trivial, rfl⟩⟩
  next => cases called

theorem log_observeBranch (name : PyStr) (id : Int) (branch : PyStr) :
    Every (LogAction git artifacts target item) (observeBranch name id branch) := by
  refine log_look fun s a t called => ?_
  split at called
  next =>
    cases called
    exact ⟨rfl, .inr ⟨.observedBranch _, trivial, rfl⟩⟩
  next => cases called

theorem log_fetchTrusted (name : PyStr) (id : Int) (branch : PyStr) :
    Every (LogAction git artifacts target item) (fetchTrustedBranchHead name id branch) :=
  (log_fetchOptional name id branch).bind fun _ =>
    (every_ensure _ _).bind fun _ => .pure _

theorem log_observeRemote (credential : PublicationCredential) (name : PyStr) (id : Int)
    (branch : PyStr) :
    Every (LogAction git artifacts target item) (observeRemote credential name id branch) := by
  cases credential with
  | token => exact log_fetchOptional name id branch
  | deployKey => exact log_observeBranch name id branch

theorem log_verifyAncestry (first second : ObjectId) :
    Every (LogAction git artifacts target item) (verifyFastForwardAncestry git first second) := by
  refine log_look fun s a t called => ?_
  split at called
  next =>
    cases called
    exact ⟨rfl, .inl rfl⟩
  next => cases called

theorem log_anchor (remote : BranchHead) :
    Every (LogAction git artifacts target item) (anchorTrustedBaseline remote) := by
  refine log_look fun s a t called => ?_
  split at called
  next =>
    cases called
    exact ⟨rfl, .inl rfl⟩
  next => cases called

theorem log_prepare (source : LocalSource) :
    Every (LogAction git artifacts target item) (prepareLogWorkspace source) := by
  refine log_look fun s a t called => ?_
  cases called
  exact ⟨rfl, .inl rfl⟩

theorem log_recordVerified (intent : PublicationIntent) (id : Digest) (head : BranchHead) :
    Every (LogAction git artifacts target item) (recordVerifiedPublication intent id head) := by
  refine (every_ensure _ _).bind fun _ => (log_reproveSnapshot id).bind fun _ =>
    (every_clock .refl).bind fun now => ?_
  refine every_transaction .refl fun s a store changed => ?_
  split at changed
  · cases changed
  · cases changed
    exact .looks rfl (.inl rfl)

/-! ### A commit from the artifact to the push -/

/-- An intent to push a commit of the artifact to `logs`. -/
structure PublicationIntent.OfLog (git : Git) (artifacts : PyStr → LogArtifact) (target : PyStr)
    (item : WorkItem) (intent : PublicationIntent) : Prop where
  branch : intent.branch = logsBranch
  made : MadeFor git artifacts target item intent.localCommitSha

theorem log_pushIntent {intent : PublicationIntent} (ofLog : intent.OfLog git artifacts target item)
    (id : Digest) (current : BranchHead) :
    Every (LogAction git artifacts target item) (pushPublicationIntent git id intent current) := by
  refine (every_ensure _ _).bind fun _ => (every_ensure _ _).bind fun _ =>
    (log_reproveSnapshot id).bind fun _ => Every.bind ?_ fun _ => log_reproveSnapshot id
  refine every_request .refl fun s a t called => ?_
  dsimp only at called
  split at called
  next =>
    cases called
    rw [ofLog.branch]
    exact .pushes rfl (s.remote.branches logsBranch) intent.localCommitSha ofLog.made rfl
  next => cases called

theorem log_completePublication {intent : PublicationIntent}
    (ofLog : intent.OfLog git artifacts target item) (credential : PublicationCredential)
    (id : Digest) :
    Every (LogAction git artifacts target item) (completePublication git credential id intent) := by
  cases credential with
  | token =>
    exact (log_fetchOptional _ _ _).bind fun before => (log_pushIntent ofLog id before).bind
      fun _ => (log_fetchTrusted _ _ _).bind fun after => log_recordVerified intent id after
  | deployKey =>
    refine (log_observeBranch _ _ _).bind fun _ => Every.bind ?_ fun _ =>
      (log_observeBranch _ _ _).bind fun after => (every_ensure _ _).bind fun _ =>
        log_recordVerified intent id after
    refine (log_observeBranch _ _ _).bind fun before => (log_pushIntent ofLog id before).bind
      fun _ => (log_observeBranch _ _ _).bind fun after => ?_
    unfold validateAfterPublication
    split
    · exact .pure ()
    split
    · exact .throw _
    · exact .throw _

/-- Among whatever others do. -/
abbrev LogEnsures {α : Type} (git : Git) (artifacts : PyStr → LogArtifact) (target : PyStr)
    (item : WorkItem) (program : Lane α) (post : α → Prop) (s : System) : Prop :=
  Ensures anyhow (LogAction git artifacts target item) program (returns fun a _ => post a) s

theorem LogEnsures.of_every {α : Type} {program : Lane α}
    (every : Every (LogAction git artifacts target item) program) (s : System) :
    LogEnsures git artifacts target item program (fun _ => True) s := by
  refine (every.ensures s).mono fun result t _ => ?_
  cases result <;> trivial

theorem LogEnsures.bind {α β : Type} {program : Lane α} {rest : α → Lane β} {m : α → Prop}
    {post : β → Prop} {s : System} (first : LogEnsures git artifacts target item program m s)
    (second : ∀ a t, m a → LogEnsures git artifacts target item (rest a) post t) :
    LogEnsures git artifacts target item (program >>= rest) post s :=
  ensures_ends_bind first second

theorem log_createCommit (artifactId : PyStr)
    (found : logSyncArtifactId target item.workKey = some artifactId) (head : Option ObjectId)
    (s : System) :
    LogEnsures git artifacts target item
      (createWorkspaceCommit git (artifacts artifactId).source head)
      (fun commit => ∀ commitSha, commit = some commitSha →
        MadeFor git artifacts target item commitSha) s := by
  refine (LogEnsures.of_every (log_reproveSnapshot _) s).bind fun _ t _ => ?_
  refine LogEnsures.bind (m := fun commit => ∀ commitSha, commit = some commitSha →
    MadeFor git artifacts target item commitSha) ?_ fun commit t made => ?_
  · refine ensures_outside (fun t commit u _ _ called => ?_) fun t failure _ => ⟨.refl t, trivial⟩
    cases called
    refine ⟨.refl t, fun commitSha made => ?_⟩
    split at made
    · cases made
    · cases made
      exact ⟨artifactId, head, t.now, found, rfl⟩
  · exact (LogEnsures.of_every (log_reproveSnapshot _) t).bind fun _ _ _ => made

/-- The assessment names the branch of the head it was given, and the commit. -/
theorem assess_describes {commitSha : ObjectId} {remote : BranchHead}
    {baseline : Option SynchronizationBaseline} {preflight : PublicationPreflight}
    (assessed : assessPublicationPreflight commitSha remote baseline = .ok preflight) :
    preflight.branch = remote.branch ∧ preflight.localCommitSha = commitSha := by
  unfold assessPublicationPreflight at assessed
  dsimp only at assessed
  split at assessed
  · cases assessed
    exact ⟨rfl, rfl⟩
  split at assessed
  · cases assessed
  split at assessed
  · cases assessed
    exact ⟨rfl, rfl⟩
  split at assessed
  · cases assessed
    exact ⟨rfl, rfl⟩
  split at assessed
  · cases assessed
    exact ⟨rfl, rfl⟩
  · cases assessed
    exact ⟨rfl, rfl⟩

theorem log_buildIntent (id : Digest) {preflight : PublicationPreflight}
    (branch : preflight.branch = logsBranch)
    (made : MadeFor git artifacts target item preflight.localCommitSha) (s : System) :
    LogEnsures git artifacts target item (buildPublicationIntent git id preflight)
      (fun intent => intent.OfLog git artifacts target item) s := by
  unfold buildPublicationIntent
  split
  · refine (LogEnsures.of_every (every_ensure _ _) s).bind fun _ t _ => ?_
    refine (LogEnsures.of_every (log_reproveSnapshot id) t).bind fun _ u _ => ?_
    exact (LogEnsures.of_every (log_verifyAncestry _ _) u).bind fun _ _ _ => ⟨branch, made⟩
  · exact Ensures.throw trivial
  · refine (LogEnsures.of_every (log_reproveSnapshot id) s).bind fun _ u _ => ?_
    exact (LogEnsures.of_every (log_verifyAncestry _ _) u).bind fun _ _ _ => ⟨branch, made⟩
  · exact Ensures.throw trivial
  · exact Ensures.throw trivial

theorem log_publishCommit (credential : PublicationCredential) (repositoryId : Int)
    (artifactId : PyStr) (id : Digest) {remote : BranchHead}
    (baseline : Option SynchronizationBaseline) {commitSha : ObjectId}
    (branch : remote.branch = logsBranch) (made : MadeFor git artifacts target item commitSha)
    (s : System) :
    LogEnsures git artifacts target item
      (publishLogCommit git credential repositoryId artifactId id remote baseline commitSha)
      (fun _ => True) s := by
  refine ensures_returns_checked fun preflight assessed => ?_
  obtain ⟨sameBranch, sameCommit⟩ := assess_describes (mapError_eq_ok.mp assessed)
  refine (LogEnsures.of_every (every_ensure _ _) s).bind fun _ t _ => ?_
  have built := log_buildIntent id (sameBranch.trans branch) (sameCommit ▸ made) t
  refine LogEnsures.bind (ensures_ends_rethrow built) fun intent u ofLog => ?_
  have completes := every_rethrow (logSyncFailedClosed credential)
    (log_completePublication ofLog credential id)
  exact (LogEnsures.of_every completes u).bind fun _ _ _ => trivial

theorem log_commitAndPublish (credential : PublicationCredential) (repositoryId : Int)
    {artifactId : PyStr} (found : logSyncArtifactId target item.workKey = some artifactId)
    {remote : BranchHead} (branch : remote.branch = logsBranch)
    (baseline : Option SynchronizationBaseline) (t : System) :
    LogEnsures git artifacts target item (do
      let localCommitSha ← rethrow (createWorkspaceCommit git (artifacts artifactId).source
        remote.commitSha) (logSyncFailedClosed .token)
      match localCommitSha with
      | none =>
        ensure (remote.commitSha.isSome ∧ baseline.isSome)
          (logSyncError "initial logs synchronization produced no commit")
        return logSyncResult repositoryId artifactId (artifacts artifactId).source.snapshotId
          .noChange remote.target remote.commitSha baseline
      | some localCommitSha =>
        publishLogCommit git credential repositoryId artifactId
          (artifacts artifactId).source.snapshotId remote baseline localCommitSha)
      (fun _ => True) t := by
  refine LogEnsures.bind (ensures_ends_rethrow
    (log_createCommit artifactId found remote.commitSha t)) fun commit u made => ?_
  cases commit with
  | none => exact (LogEnsures.of_every (every_ensure _ _) u).bind fun _ _ _ => trivial
  | some commitSha =>
    exact log_publishCommit credential repositoryId artifactId _ baseline branch
      (made commitSha rfl) u

theorem log_synchronizeAgreed (credential : PublicationCredential) (repositoryId : Int)
    {artifactId : PyStr} (found : logSyncArtifactId target item.workKey = some artifactId)
    {remote : BranchHead} (branch : remote.branch = logsBranch)
    (baseline : Option SynchronizationBaseline) (s : System) :
    LogEnsures git artifacts target item
      (synchronizeAgreedLog git credential repositoryId artifactId (artifacts artifactId).source
        remote baseline) (fun _ => True) s := by
  unfold synchronizeAgreedLog
  split
  · exact (LogEnsures.of_every (every_rethrow _ (log_anchor remote)) s).bind fun _ t _ =>
      log_commitAndPublish credential repositoryId found branch baseline t
  · exact log_commitAndPublish credential repositoryId found branch baseline s

theorem log_observed (credential : PublicationCredential) (name : PyStr) (id : Int)
    (branch : PyStr) (s : System) :
    LogEnsures git artifacts target item (observeRemote credential name id branch)
      (fun remote => remote.branch = branch) s := by
  have named {remote : RemoteRepository} {head : BranchHead}
      (found : remote.head name id branch = .ok head) : head.branch = branch := by
    unfold RemoteRepository.head at found
    split at found
    · cases found
    split at found
    · cases found
    · cases found
      rfl
  cases credential with
  | token =>
    refine ensures_outside (fun t remote u _ _ called => ?_) fun t _ _ => ⟨.refl t, trivial⟩
    split at called
    next found =>
      cases called
      exact ⟨.looks rfl (.inr ⟨.observedBranch _, trivial, rfl⟩), named found⟩
    next => cases called
  | deployKey =>
    refine ensures_outside (fun t remote u _ _ called => ?_) fun t _ _ => ⟨.refl t, trivial⟩
    split at called
    next head found =>
      have branched : head.branch = branch := named found
      cases called
      exact ⟨.looks rfl (.inr ⟨.observedBranch _, trivial, rfl⟩), branched⟩
    next => cases called

theorem log_synchronize (credential : PublicationCredential) {artifactId : PyStr}
    (found : logSyncArtifactId target item.workKey = some artifactId) (s : System) :
    LogEnsures git artifacts target item
      (synchronizeLogArtifact git credential target artifactId (artifacts artifactId).source)
      (fun _ => True) s := by
  refine (LogEnsures.of_every (every_query .refl _) s).bind fun bound t _ => ?_
  cases bound with
  | none => exact Ensures.throw trivial
  | some repositoryId =>
    refine (LogEnsures.of_every (every_rethrow _ (log_prepare _)) t).bind fun _ u _ => ?_
    refine LogEnsures.bind (ensures_ends_rethrow
      (log_observed credential target repositoryId logsBranch u)) fun remote v branch => ?_
    refine (LogEnsures.of_every (every_query .refl _) v).bind fun baseline w _ => ?_
    refine ensures_returns_checked fun refusal _ => ?_
    cases refusal with
    | some refusal => trivial
    | none => exact log_synchronizeAgreed credential repositoryId found branch baseline w

/-! ### The work of a cycle -/

/-- A transition of the claimed item. -/
theorem log_settle {refused unchanged : String} {update : WorkItem → WorkItem}
    (keeps : ∀ row, (update row).workKind = row.workKind ∧ (update row).workKey = row.workKey ∧
      (update row).createdAt = row.createdAt) :
    Every (LogAction git artifacts target item)
      (transaction (settleWork refused unchanged item update)) := by
  refine every_transaction .refl fun s settled store changed => ?_
  unfold settleWork at changed
  split at changed
  · cases changed
  split at changed
  · cases changed
  next updated =>
    cases changed
    refine .settles update keeps ?_ rfl
    unfold Store.updateWork at updated
    split at updated
    · cases updated
    split at updated
    · cases updated
      rfl
    · cases updated

theorem log_fail (transient : Bool) (now : Int) :
    Every (LogAction git artifacts target item) (transaction (failWork item transient now)) := by
  refine log_settle fun row => ?_
  split <;> exact ⟨rfl, rfl, rfl⟩

theorem log_complete (now : Int) :
    Every (LogAction git artifacts target item) (transaction (completeWork item now)) :=
  log_settle fun _ => ⟨rfl, rfl, rfl⟩

theorem log_settleSync (outcome : Except Failure LogSyncResult) :
    Every (LogAction git artifacts target item) (settleLogSyncWork item outcome) := by
  refine (every_clock .refl).bind fun now => ?_
  cases outcome with
  | error failure => exact (log_fail failure.transient now).bind fun _ => .pure _
  | ok synchronization =>
    dsimp only
    split
    · exact (log_complete now).bind fun _ => .pure _
    · exact (log_fail false now).bind fun _ => .pure _

theorem log_execute (intact : PyStr → Bool) (credential : PublicationCredential) (s : System) :
    LogEnsures git artifacts target item
      (executeClaimedLogSyncWork git artifacts intact credential target item) (fun _ => True) s := by
  refine (LogEnsures.of_every (every_ensure _ _) s).bind fun _ t _ => ?_
  cases found : logSyncArtifactId target item.workKey with
  | none => exact Ensures.throw trivial
  | some artifactId =>
    dsimp only
    split
    · refine ensures_ends_bind
        (ensures_ends_attempt (log_synchronize credential found t)) fun outcome u _ => ?_
      exact LogEnsures.of_every (log_settleSync outcome) u
    · refine (LogEnsures.of_every (every_clock .refl) t).bind fun now u _ => ?_
      exact (LogEnsures.of_every (log_fail false now) u).bind fun _ _ _ => trivial

end Actions

/-! ## The order of claims -/

theorem none_of_earliest {items : List WorkItem} (none : earliest items = none) : items = [] := by
  cases items with
  | nil => rfl
  | cons head items =>
    unfold earliest at none
    split at none
    · cases none
    · split at none <;> cases none

/-- What comes first in the order of the queue was due no later, and of what was due at the same
time it was created no later. -/
theorem earliest_first {items : List WorkItem} {item other : WorkItem}
    (first : earliest items = some item) (member : other ∈ items) :
    item.nextAttemptAt.getD 0 < other.nextAttemptAt.getD 0 ∨
      item.nextAttemptAt.getD 0 = other.nextAttemptAt.getD 0 ∧ item.createdAt ≤ other.createdAt := by
  have total {first second : WorkItem} (not : first.before second = false) :
      second.nextAttemptAt.getD 0 < first.nextAttemptAt.getD 0 ∨
        second.nextAttemptAt.getD 0 = first.nextAttemptAt.getD 0 ∧
          second.createdAt ≤ first.createdAt := by
    unfold WorkItem.before at not
    dsimp only at not
    split at not
    · have apart := of_decide_eq_false not
      omega
    split at not
    · have apart := of_decide_eq_false not
      omega
    · omega
  have ordered {first second : WorkItem} (before : first.before second = true) :
      first.nextAttemptAt.getD 0 < second.nextAttemptAt.getD 0 ∨
        first.nextAttemptAt.getD 0 = second.nextAttemptAt.getD 0 ∧
          first.createdAt ≤ second.createdAt := by
    unfold WorkItem.before at before
    dsimp only at before
    split at before
    · have apart := of_decide_eq_true before
      omega
    split at before
    · have apart := of_decide_eq_true before
      omega
    · omega
  induction items generalizing item with
  | nil => cases member
  | cons head items ih =>
    unfold earliest at first
    cases rest : earliest items with
    | none =>
      rw [rest] at first
      cases first
      obtain here | there := List.mem_cons.mp member
      · subst here
        exact .inr ⟨rfl, le_rfl⟩
      · exact absurd there (by rw [none_of_earliest rest]; exact List.not_mem_nil)
    | some least =>
      rw [rest] at first
      dsimp only at first
      split at first
      next before =>
        cases first
        obtain here | there := List.mem_cons.mp member
        · subst here
          exact ordered before
        · exact ih rest there
      next not =>
        cases first
        obtain here | there := List.mem_cons.mp member
        · subst here
          exact .inr ⟨rfl, le_rfl⟩
        · have behind := total (Bool.eq_false_iff.mpr not)
          have rests := ih rest there
          omega

/-! ## What becomes of the rows -/

/-- No row of the logs appears, disappears or changes its identity, and one that was never claimed
is as it was. -/
structure KeepsLogRows (s t : Store) : Prop where
  rows : ∀ row ∈ t.work, row.workKind = logsKind → ∃ old ∈ s.work, old.workKind = logsKind ∧
    old.workKey = row.workKey ∧ old.createdAt = row.createdAt ∧ (old.Unclaimed → row = old)
  kept : ∀ old ∈ s.work, old.workKind = logsKind →
    ∃ row ∈ t.work, row.workKind = logsKind ∧ row.workKey = old.workKey

theorem KeepsLogRows.refl (store : Store) : KeepsLogRows store store :=
  ⟨fun row member logs => ⟨row, member, logs, rfl, rfl, fun _ => rfl⟩,
    fun old member logs => ⟨old, member, logs, rfl⟩⟩

theorem KeepsLogRows.of_work {s t : Store} (same : t.work = s.work) : KeepsLogRows s t := by
  refine ⟨fun row member logs => ?_, fun old member logs => ?_⟩
  · exact ⟨row, same ▸ member, logs, rfl, rfl, fun _ => rfl⟩
  · exact ⟨old, same.symm ▸ member, logs, rfl⟩

/-- Rows that change where they stand. -/
theorem KeepsLogRows.of_map {s t : Store} {change : WorkItem → WorkItem}
    (mapped : t.work = s.work.map change)
    (keeps : ∀ row ∈ s.work, (change row).workKind = row.workKind ∧
      (change row).workKey = row.workKey ∧ (row.workKind = logsKind →
        (change row).createdAt = row.createdAt ∧ (row.Unclaimed → change row = row))) :
    KeepsLogRows s t := by
  refine ⟨fun row member logs => ?_, fun old member logs => ?_⟩
  · rw [mapped] at member
    obtain ⟨old, there, rfl⟩ := List.mem_map.mp member
    obtain ⟨kind, key, rest⟩ := keeps old there
    obtain ⟨created, still⟩ := rest (kind.symm.trans logs)
    exact ⟨old, there, kind.symm.trans logs, key.symm, created.symm, still⟩
  · obtain ⟨kind, key, -⟩ := keeps old member
    refine ⟨change old, ?_, kind.trans logs, key⟩
    rw [mapped]
    exact List.mem_map_of_mem member

/-- A call of the queue that neither enqueues work of the logs nor claims it. -/
def WorkCall.sparesLogs : WorkCall → Prop
  | .enqueueWork workKind _ _ | .scheduleRoutineWork workKind _ _ | .claimWorkKind workKind _ =>
    workKind ≠ logsKind
  | .claimWork _ => False
  | _ => True

theorem RowStep.keepsUnclaimed {call : WorkCall} {row next : WorkItem}
    (step : RowStep call row next) (spares : call.sparesLogs) (logs : row.workKind = logsKind) :
    next.createdAt = row.createdAt ∧ ¬row.Unclaimed := by
  have started {status : WorkStatus} (here : row.status = status) (apart : status ≠ .pending) :
      ¬row.Unclaimed := fun unclaimed => apart (here.symm.trans unclaimed.status)
  cases step with
  | claimed => exact spares.elim
  | claimedKind => exact absurd logs spares
  | scheduled => exact absurd logs spares
  | failed held =>
    refine ⟨?_, started held.rowStatus nofun⟩
    unfold WorkItem.failedAt
    split <;> rfl
  | deferred held => exact ⟨rfl, started held.rowStatus nofun⟩
  | completed held => exact ⟨rfl, started held.rowStatus nofun⟩
  | awaited _ held => exact ⟨rfl, started held.rowStatus nofun⟩
  | retried blocked => exact ⟨rfl, started blocked nofun⟩

/-- The recovery of a row. -/
theorem WorkItem.recoveredAt_unclaimed (row : WorkItem) (now : Int) :
    (row.recoveredAt now).createdAt = row.createdAt ∧
      (row.Unclaimed → row.recoveredAt now = row) := by
  unfold recoveredAt
  split
  next running =>
    refine ⟨rfl, fun unclaimed => ?_⟩
    cases running.symm.trans unclaimed.status
  next => exact ⟨rfl, fun _ => rfl⟩

theorem recovered_keepsLogRows (now : Int) (store : Store) :
    KeepsLogRows store (recoverInterruptedWork (fun _ => true) now store) := by
  rw [WorkCall.recoverInterruptedWork_all]
  refine .of_map rfl fun row _ => ?_
  obtain ⟨kind, key⟩ := row.recoveredAt_key now
  exact ⟨kind, key, fun _ => row.recoveredAt_unclaimed now⟩

theorem perform_keepsLogRows {store : Store} (readable : Readable store) {call : WorkCall}
    (spares : call.sparesLogs) : KeepsLogRows store (call.perform store).2 := by
  have effect := WorkCall.perform_effect readable call
  generalize call.perform store = outcome at effect
  cases effect with
  | refused | nothing => exact .refl store
  | added workKind workKey now creates absent valid =>
    have apart : workKind ≠ logsKind := by obtain rfl | rfl := creates <;> exact spares
    refine ⟨fun row member logs => ?_, fun old member logs => ?_⟩
    · obtain there | here := List.mem_append.mp member
      · exact ⟨row, there, logs, rfl, rfl, fun _ => rfl⟩
      · cases List.mem_singleton.mp here
        exact absurd logs apart
    · exact ⟨old, List.mem_append_left _ member, logs, rfl⟩
  | stepped row next found step =>
    obtain ⟨member, -, -⟩ := Store.findWork_some found
    refine .of_map rfl fun other there => ?_
    split
    next here =>
      cases Store.eq_of_key readable.unique member there here
      obtain ⟨kind, key⟩ := step.same_key
      refine ⟨kind, key, fun logs => ?_⟩
      obtain ⟨created, claimed⟩ := step.keepsUnclaimed spares logs
      exact ⟨created, fun unclaimed => absurd unclaimed claimed⟩
    next => exact ⟨rfl, rfl, fun _ => ⟨rfl, fun _ => rfl⟩⟩
  | recovered now recovers =>
    refine .of_map rfl fun row _ => ?_
    obtain ⟨kind, key⟩ := row.recoveredAt_key now
    exact ⟨kind, key, fun _ => row.recoveredAt_unclaimed now⟩

/-! ## The service -/

section

variable (git : Git) (artifacts : PyStr → LogArtifact) (target : PyStr)

/-- What others do between two actions of a cycle: the other lanes make their calls of the queue and
act outside, an operator retries blocked work, time passes; and an artifact is collected, which is
newer than all those before it. -/
inductive LogOthers (s t : System) : Prop where
  | queue (call : WorkCall) (spares : call.sparesLogs)
    (work : t.store.work = (call.perform s.store).2.work) (events : t.events = s.events)
  | outside (work : t.store.work = s.store.work) (events : t.events = s.events ∨
      ∃ event : Event, event.apartFromLogs ∧ t.events = event :: s.events)
  | collects (artifactId : PyStr) (item : WorkItem) (named : isArtifactId artifactId = true)
    (valid : validateWorkIdentity logsKind (logSyncWorkKey target artifactId) = .ok ())
    (newest : ∀ row ∈ s.store.work, row.workKind = logsKind → row.createdAt < s.now ∧
      referenceTimeOf artifacts target row < (artifacts artifactId).referenceTime)
    (enqueued : (enqueueLogSyncWork target artifactId).eval s = (.ok item, t))

/-- Any number of these. -/
abbrev LogsOthers : System → System → Prop :=
  Relation.ReflTransGen (LogOthers artifacts target)

/-- The passes that publish logs. -/
inductive LogCalls (intact : PyStr → Bool) (credential : PublicationCredential) :
    Prog System Unit → Prop where
  | process :
    LogCalls intact credential (runLogSyncProcess git artifacts intact credential target).call
  | retrigger :
    LogCalls intact credential (runLogSyncRetriggerPass git artifacts intact credential target).call

/-- One action of a pass. -/
inductive LogStep (s t : System) : Prop where
  | recovers (now : Int) (store : t.store = recoverInterruptedWork (fun _ => true) now s.store)
    (events : t.events = s.events)
  | claims (now : Int) (item : WorkItem)
    (claimed : claimWorkKind logsKind now s.store = .ok (some item, t.store))
    (events : t.events = .claimedLog item :: s.events)
  | acts (item : WorkItem) (last : (claimedLogs s.events).head? = some item)
    (action : LogAction git artifacts target item s t)
  | waits (same : t = s)

/-- What holds between any two steps. -/
structure LogsInOrder (s : System) : Prop where
  table : Readable s.store
  unclaimed : ∀ row ∈ s.store.work, row.workKind = logsKind → ¬WasClaimed s.events row.workKey →
    row.Unclaimed
  /-- What was collected later is newer. -/
  collected : ∀ first ∈ s.store.work, ∀ second ∈ s.store.work, first.workKind = logsKind →
    second.workKind = logsKind → first.createdAt ≤ second.createdAt →
      referenceTimeOf artifacts target first ≤ referenceTimeOf artifacts target second
  /-- What was claimed is no newer than what was not. -/
  behind : ∀ claimed ∈ claimedLogs s.events, ∀ row ∈ s.store.work, row.workKind = logsKind →
    ¬WasClaimed s.events row.workKey →
      referenceTimeOf artifacts target claimed ≤ referenceTimeOf artifacts target row
  present : ∀ claimed ∈ claimedLogs s.events, ∃ row ∈ s.store.work, row.workKind = logsKind ∧
    row.workKey = claimed.workKey
  history : OrderedLogs git artifacts target s.events

end

section Order

variable {git : Git} {artifacts : PyStr → LogArtifact} {target : PyStr} {s t : System}

/-- The key alone says which artifact work is for. -/
theorem referenceTimeOf_key {first second : WorkItem} (same : first.workKey = second.workKey) :
    referenceTimeOf artifacts target first = referenceTimeOf artifacts target second := by
  unfold referenceTimeOf
  rw [same]

theorem enqueue_events (artifactId : PyStr) (s : System) :
    ((enqueueLogSyncWork target artifactId).eval s).2.events = s.events := by
  show ((transaction (enqueueWork logsKind (logSyncWorkKey target artifactId) s.now)).eval
    s).2.events = s.events
  unfold transaction
  rw [eval_action]
  split <;> rfl

/-- A step that claims nothing and adds no row. -/
theorem LogsInOrder.keep (inOrder : LogsInOrder git artifacts target s) (table : Readable t.store)
    (kept : ∀ row ∈ t.store.work, row.workKind = logsKind → ∃ old ∈ s.store.work,
      old.workKind = logsKind ∧ old.workKey = row.workKey ∧ old.createdAt = row.createdAt ∧
        (¬WasClaimed s.events old.workKey → row = old))
    (stays : ∀ old ∈ s.store.work, old.workKind = logsKind →
      ∃ row ∈ t.store.work, row.workKind = logsKind ∧ row.workKey = old.workKey)
    (claims : claimedLogs t.events = claimedLogs s.events)
    (history : OrderedLogs git artifacts target t.events) : LogsInOrder git artifacts target t := by
  have claimed (key : PyStr) : WasClaimed t.events key ↔ WasClaimed s.events key := by
    unfold WasClaimed
    rw [claims]
  refine ⟨table, ?_, ?_, ?_, ?_, history⟩
  · intro row member logs never
    rw [claimed] at never
    obtain ⟨old, there, kind, key, -, same⟩ := kept row member logs
    rw [← key] at never
    rw [same never]
    exact inOrder.unclaimed old there kind never
  · intro first member second member' logs logs' created
    obtain ⟨old, there, kind, key, time, -⟩ := kept first member logs
    obtain ⟨old', there', kind', key', time', -⟩ := kept second member' logs'
    rw [← referenceTimeOf_key key, ← referenceTimeOf_key key']
    refine inOrder.collected old there old' there' kind kind' ?_
    rw [time, time']
    exact created
  · intro item member row there logs never
    rw [claimed] at never
    rw [claims] at member
    obtain ⟨old, known, kind, key, -, -⟩ := kept row there logs
    rw [← referenceTimeOf_key key]
    rw [← key] at never
    exact inOrder.behind item member old known kind never
  · intro item member
    rw [claims] at member
    obtain ⟨old, known, kind, key⟩ := inOrder.present item member
    obtain ⟨row, there, logs, same⟩ := stays old known kind
    exact ⟨row, there, logs, same.trans key⟩

/-- A step that leaves the rows but for how far each claimed one has come. -/
theorem LogsInOrder.keep_rows (inOrder : LogsInOrder git artifacts target s)
    (table : Readable t.store) (kept : KeepsLogRows s.store t.store)
    (claims : claimedLogs t.events = claimedLogs s.events)
    (history : OrderedLogs git artifacts target t.events) : LogsInOrder git artifacts target t := by
  refine inOrder.keep table (fun row member logs => ?_) kept.kept claims history
  obtain ⟨old, there, kind, key, time, same⟩ := kept.rows row member logs
  exact ⟨old, there, kind, key, time, fun never => same (inOrder.unclaimed old there kind never)⟩

/-- What is seen outside. -/
theorem LogsInOrder.look (inOrder : LogsInOrder git artifacts target s)
    (work : t.store.work = s.store.work) (events : t.events = s.events ∨
      ∃ event : Event, event.apartFromLogs ∧ t.events = event :: s.events) :
    LogsInOrder git artifacts target t := by
  have table : Readable t.store := by
    refine inOrder.table.of_keys ?_
    unfold Store.workKeys
    rw [work]
  have history : claimedLogs t.events = claimedLogs s.events ∧
      OrderedLogs git artifacts target t.events := by
    obtain same | ⟨event, apart, more⟩ := events
    · rw [same]
      exact ⟨rfl, inOrder.history⟩
    · rw [more]
      exact ⟨claimedLogs_apart apart, .cons_apart apart inOrder.history⟩
  exact inOrder.keep_rows table (.of_work work) history.1 history.2

theorem LogsInOrder.queue (inOrder : LogsInOrder git artifacts target s) {call : WorkCall}
    (spares : call.sparesLogs) (work : t.store.work = (call.perform s.store).2.work)
    (events : t.events = s.events) : LogsInOrder git artifacts target t := by
  have effect := WorkCall.perform_effect inOrder.table call
  have table : Readable t.store := by
    refine (effect.readable inOrder.table).of_keys ?_
    unfold Store.workKeys
    rw [work]
  have kept := perform_keepsLogRows inOrder.table spares
  have moved : KeepsLogRows s.store t.store := by
    refine ⟨?_, ?_⟩
    · rw [work]
      exact kept.rows
    · rw [work]
      exact kept.kept
  refine inOrder.keep_rows table moved (by rw [events]) ?_
  rw [events]
  exact inOrder.history

theorem logSyncArtifactId_workKey {artifactId : PyStr} (named : isArtifactId artifactId = true) :
    logSyncArtifactId target (logSyncWorkKey target artifactId) = some artifactId := by
  have dropped : (logSyncWorkKey target artifactId).drop ((casefoldTarget target).length + 1) =
      artifactId := by
    unfold logSyncWorkKey
    exact List.drop_left' (by simp)
  unfold logSyncArtifactId
  dsimp only
  rw [dropped, if_pos ⟨named, rfl⟩]

/-- An artifact that is newer than all before it. -/
theorem LogsInOrder.collect (inOrder : LogsInOrder git artifacts target s) {artifactId : PyStr}
    {item : WorkItem} (named : isArtifactId artifactId = true)
    (valid : validateWorkIdentity logsKind (logSyncWorkKey target artifactId) = .ok ())
    (newest : ∀ row ∈ s.store.work, row.workKind = logsKind → row.createdAt < s.now ∧
      referenceTimeOf artifacts target row < (artifacts artifactId).referenceTime)
    (enqueued : (enqueueLogSyncWork target artifactId).eval s = (.ok item, t)) :
    LogsInOrder git artifacts target t := by
  let key := logSyncWorkKey target artifactId
  let fresh := Store.pendingWork logsKind key s.now
  have newTime : referenceTimeOf artifacts target fresh = (artifacts artifactId).referenceTime := by
    unfold referenceTimeOf
    rw [show logSyncArtifactId target fresh.workKey = some artifactId from
      logSyncArtifactId_workKey named]
  have absent : s.store.findWork logsKind key = none := by
    cases found : s.store.findWork logsKind key with
    | none => rfl
    | some row =>
      obtain ⟨member, kind, same⟩ := Store.findWork_some found
      have older := (newest row member kind).2
      rw [referenceTimeOf_key (show row.workKey = fresh.workKey from same), newTime] at older
      exact absurd older (lt_irrefl _)
  have added : t = { s with store := s.store.addWork fresh } := by
    have ran : enqueueWork logsKind key s.now s.store = .ok (fresh, s.store.addWork fresh) := by
      unfold enqueueWork
      rw [absent]
      rfl
    have evaluated := eval_transaction ran
    exact (congrArg Prod.snd (enqueued.symm.trans evaluated))
  subst added
  have apart : (logsKind, key) ∉ s.store.workKeys := Store.findWork_none absent
  have never : ¬WasClaimed s.events key := by
    rintro ⟨claimed, member, same⟩
    obtain ⟨row, there, kind, rowKey⟩ := inOrder.present claimed member
    refine apart (List.mem_map.mpr ⟨row, there, ?_⟩)
    exact Prod.ext kind (rowKey.trans same)
  refine ⟨?_, ?_, ?_, ?_, ?_, inOrder.history⟩
  · exact (Effect.added logsKind key s.now (.inl rfl) absent valid :
      Effect s.store (.enqueueWork logsKind key s.now) _).readable inOrder.table
  · intro row member logs unclaimed
    obtain there | here := List.mem_append.mp member
    · exact inOrder.unclaimed row there logs unclaimed
    · cases List.mem_singleton.mp here
      exact ⟨rfl, rfl, rfl⟩
  · intro first member second member' logs logs' created
    obtain there | here := List.mem_append.mp member <;>
      obtain there' | here' := List.mem_append.mp member'
    · exact inOrder.collected first there second there' logs logs' created
    · cases List.mem_singleton.mp here'
      rw [newTime]
      exact (newest first there logs).2.le
    · cases List.mem_singleton.mp here
      exact absurd created (not_le.mpr (newest second there' logs').1)
    · cases List.mem_singleton.mp here
      cases List.mem_singleton.mp here'
      exact le_rfl
  · intro claimed member row there logs unclaimed
    obtain old | here := List.mem_append.mp there
    · exact inOrder.behind claimed member row old logs unclaimed
    · cases List.mem_singleton.mp here
      obtain ⟨known, there, kind, same⟩ := inOrder.present claimed member
      rw [newTime, ← referenceTimeOf_key same]
      exact (newest known there kind).2.le
  · intro claimed member
    obtain ⟨row, there, kind, same⟩ := inOrder.present claimed member
    exact ⟨row, List.mem_append_left _ there, kind, same⟩

/-- A claim takes the first of what is due. -/
theorem claimWorkKind_some {store changed : Store} {workKind : WorkKind} {now : Int}
    {item : WorkItem} (unique : store.workKeys.Nodup)
    (claimed : claimWorkKind workKind now store = .ok (some item, changed)) :
    ∃ row, earliest (store.work.filter (eligible workKind now)) = some row ∧
      row.workKind = workKind ∧ row ∈ store.work ∧ item = row.claimedAt now ∧
      changed = store.replaceWork row item := by
  unfold claimWorkKind at claimed
  split at claimed
  · cases claimed
  next row selected =>
    obtain ⟨member, isEligible⟩ := List.mem_filter.mp (mem_of_earliest selected)
    dsimp only at claimed
    rw [Store.updateWork_of_mem unique member] at claimed
    cases claimed
    exact ⟨row, selected, (WorkCall.eligible_free isEligible).1, member, rfl, rfl⟩

/-- What was never claimed waits since it was created, so the first of what is due was created no
later. -/
theorem LogsInOrder.first_claimed (inOrder : LogsInOrder git artifacts target s) {now : Int}
    {row other : WorkItem}
    (selected : earliest (s.store.work.filter (eligible logsKind now)) = some row)
    (never : ¬WasClaimed s.events row.workKey) (there : other ∈ s.store.work)
    (logs : other.workKind = logsKind) (unclaimed : ¬WasClaimed s.events other.workKey) :
    referenceTimeOf artifacts target row ≤ referenceTimeOf artifacts target other := by
  obtain ⟨member, isEligible⟩ := List.mem_filter.mp (mem_of_earliest selected)
  obtain ⟨kind, -⟩ := WorkCall.eligible_free isEligible
  have waits := inOrder.unclaimed row member kind never
  have waits' := inOrder.unclaimed other there logs unclaimed
  refine inOrder.collected row member other there kind logs ?_
  cases due : eligible logsKind now other with
  | true =>
    have first := earliest_first selected (List.mem_filter.mpr ⟨there, due⟩)
    rw [waits.next, waits'.next] at first
    simp only [Option.getD_some] at first
    omega
  | false =>
    -- What is not due yet was created after this claim looked at the clock.
    simp only [eligible, waits.next, Option.any_some, Bool.and_eq_true, decide_eq_true_eq]
      at isEligible
    simp [eligible, logs, waits'.status, waits'.next] at due
    omega

/-- A claim takes the oldest of what was never claimed, or what was claimed before. -/
theorem LogsInOrder.claim (inOrder : LogsInOrder git artifacts target s) {now : Int}
    {item : WorkItem} (claimed : claimWorkKind logsKind now s.store = .ok (some item, t.store))
    (events : t.events = .claimedLog item :: s.events) : LogsInOrder git artifacts target t := by
  have keys := (claimWorkKind_onlyStatus logsKind now s.store _ _ claimed).2
  obtain ⟨row, selected, kind, member, isItem, changed⟩ :=
    claimWorkKind_some inOrder.table.unique claimed
  have key : item.workKey = row.workKey := isItem ▸ rfl
  have created : item.createdAt = row.createdAt := isItem ▸ rfl
  have rows {other : WorkItem} (there : other ∈ t.store.work) : other = item ∨
      other ∈ s.store.work ∧ ¬(other.workKind = row.workKind ∧ other.workKey = row.workKey) := by
    rw [changed] at there
    exact (Store.mem_updateIn inOrder.table.unique member).mp there
  have known {workKey : PyStr} : WasClaimed t.events workKey ↔
      item.workKey = workKey ∨ WasClaimed s.events workKey := by
    rw [events]
    exact List.exists_mem_cons_iff _ _ _
  -- A row that is still unclaimed was there before, under another key.
  have old {other : WorkItem} (there : other ∈ t.store.work)
      (never : ¬WasClaimed t.events other.workKey) :
      other ∈ s.store.work ∧ ¬WasClaimed s.events other.workKey := by
    obtain rfl | ⟨before, -⟩ := rows there
    · exact absurd (known.mpr (.inl rfl)) never
    · exact ⟨before, fun claimed => never (known.mpr (.inr claimed))⟩
  have before {other : WorkItem} (there : other ∈ t.store.work)
      (logs : other.workKind = logsKind) : ∃ was ∈ s.store.work, was.workKind = logsKind ∧
        was.workKey = other.workKey ∧ was.createdAt = other.createdAt := by
    obtain rfl | ⟨before, -⟩ := rows there
    · exact ⟨row, member, kind, key.symm, created.symm⟩
    · exact ⟨other, before, logs, rfl, rfl⟩
  have newest (other : WorkItem) (there : other ∈ s.store.work) (logs : other.workKind = logsKind)
      (never : ¬WasClaimed s.events other.workKey) :
      referenceTimeOf artifacts target item ≤ referenceTimeOf artifacts target other := by
    rw [referenceTimeOf_key key]
    by_cases again : WasClaimed s.events row.workKey
    · obtain ⟨first, claimed, same⟩ := again
      rw [← referenceTimeOf_key same]
      exact inOrder.behind first claimed other there logs never
    · exact inOrder.first_claimed selected again there logs never
  refine ⟨inOrder.table.of_keys keys, ?_, ?_, ?_, ?_, ?_⟩
  · intro other there logs never
    obtain ⟨was, unclaimed⟩ := old there never
    exact inOrder.unclaimed other was logs unclaimed
  · intro first there second there' logs logs' order
    obtain ⟨was, known, kind, key, time⟩ := before there logs
    obtain ⟨was', known', kind', key', time'⟩ := before there' logs'
    rw [← referenceTimeOf_key key, ← referenceTimeOf_key key']
    exact inOrder.collected was known was' known' kind kind' (by rw [time, time']; exact order)
  · intro other claimed waiting there logs never
    obtain ⟨was, unclaimed⟩ := old there never
    rw [events] at claimed
    obtain rfl | earlier := List.mem_cons.mp claimed
    · exact newest waiting was logs unclaimed
    · exact inOrder.behind other earlier waiting was logs unclaimed
  · intro other claimed
    have mapped : (logsKind, other.workKey) ∈ t.store.workKeys := by
      rw [keys]
      rw [events] at claimed
      obtain rfl | earlier := List.mem_cons.mp claimed
      · exact List.mem_map.mpr ⟨row, member, Prod.ext kind key.symm⟩
      · obtain ⟨was, there, logs, same⟩ := inOrder.present other earlier
        exact List.mem_map.mpr ⟨was, there, Prod.ext logs same⟩
    obtain ⟨was, there, same⟩ := List.mem_map.mp mapped
    obtain ⟨logs, same⟩ := Prod.ext_iff.mp same
    exact ⟨was, there, logs, same⟩
  · rw [events]
    refine ⟨inOrder.history, fun first other claimed => ?_⟩
    rw [key] at first
    exact inOrder.behind other claimed row member kind first |>.trans_eq
      (referenceTimeOf_key key.symm)

/-- A transition of the claimed item touches nothing that was never claimed. -/
theorem LogsInOrder.settle (inOrder : LogsInOrder git artifacts target s) {item : WorkItem}
    (last : (claimedLogs s.events).head? = some item) {update : WorkItem → WorkItem}
    (keeps : ∀ row, (update row).workKind = row.workKind ∧ (update row).workKey = row.workKey ∧
      (update row).createdAt = row.createdAt)
    (work : t.store.work = item.updateIn update s.store.work) (events : t.events = s.events) :
    LogsInOrder git artifacts target t := by
  have changed (row : WorkItem) : ∃ next, (if row.workKind = item.workKind ∧
      row.workKey = item.workKey then update row else row) = next ∧
        next.workKind = row.workKind ∧ next.workKey = row.workKey ∧
        next.createdAt = row.createdAt ∧ (row.workKey ≠ item.workKey → next = row) := by
    refine ⟨_, rfl, ?_⟩
    split
    next here =>
      obtain ⟨kind, key, created⟩ := keeps row
      exact ⟨kind, key, created, fun apart => absurd here.2 apart⟩
    next => exact ⟨rfl, rfl, rfl, fun _ => rfl⟩
  have table : Readable t.store := by
    refine inOrder.table.of_keys ?_
    unfold Store.workKeys
    rw [work]
    unfold WorkItem.updateIn
    rw [List.map_map]
    refine List.map_congr_left fun row _ => ?_
    obtain ⟨next, is, kind, key, -⟩ := changed row
    show (WorkItem.workKind (if _ then _ else _), WorkItem.workKey (if _ then _ else _)) = _
    rw [is, kind, key]
  refine inOrder.keep table ?_ ?_ (by rw [events]) (events ▸ inOrder.history)
  · intro row member logs
    rw [work] at member
    obtain ⟨old, there, is⟩ := List.mem_map.mp member
    obtain ⟨next, is', kind, key, created, same⟩ := changed old
    cases is'.symm.trans is
    refine ⟨old, there, kind.symm.trans logs, key.symm, created.symm, fun never => same ?_⟩
    rintro itself
    exact never ⟨item, List.mem_of_mem_head? last, itself.symm⟩
  · intro old member logs
    obtain ⟨next, is, kind, key, -⟩ := changed old
    refine ⟨next, ?_, kind.trans logs, key⟩
    rw [work]
    exact List.mem_map.mpr ⟨old, member, is⟩

theorem LogsInOrder.act (inOrder : LogsInOrder git artifacts target s) {item : WorkItem}
    (last : (claimedLogs s.events).head? = some item)
    (action : LogAction git artifacts target item s t) : LogsInOrder git artifacts target t := by
  cases action with
  | looks work events => exact inOrder.look work events
  | settles update keeps work events => exact inOrder.settle last keeps work events
  | pushes store replaced commitSha made events =>
    refine inOrder.keep_rows (store ▸ inOrder.table) (store ▸ .refl _) (by rw [events]; rfl) ?_
    rw [events]
    exact ⟨inOrder.history, fun _ => ⟨item, last, made⟩⟩

theorem LogsInOrder.step (inOrder : LogsInOrder git artifacts target s)
    (step : LogStep git artifacts target s t) : LogsInOrder git artifacts target t := by
  cases step with
  | recovers now store events =>
    have kept := recovered_keepsLogRows now s.store
    have keys := (recoverInterruptedWork_onlyStatus (fun _ => true) now s.store () _ rfl).2
    rw [← store] at kept keys
    exact inOrder.keep_rows (inOrder.table.of_keys keys) kept (by rw [events])
      (events ▸ inOrder.history)
  | claims now item claimed events => exact inOrder.claim claimed events
  | acts item last action => exact inOrder.act last action
  | waits same => exact same ▸ inOrder

theorem LogsInOrder.others (inOrder : LogsInOrder git artifacts target s)
    (moved : LogsOthers artifacts target s t) : LogsInOrder git artifacts target t := by
  induction moved with
  | refl => exact inOrder
  | tail _ last ih =>
    cases last with
    | queue call spares work events => exact ih.queue spares work events
    | outside work events => exact ih.look work events
    | collects artifactId item named valid newest enqueued =>
      exact ih.collect named valid newest enqueued

/-- Others claim no work of the logs. -/
theorem LogsOthers.claims (moved : LogsOthers artifacts target s t) :
    claimedLogs t.events = claimedLogs s.events := by
  induction moved with
  | refl => rfl
  | tail _ last ih =>
    refine Eq.trans ?_ ih
    cases last with
    | queue _ _ _ events => rw [events]
    | outside _ events =>
      obtain same | ⟨event, apart, more⟩ := events
      · rw [same]
      · rw [more]
        exact claimedLogs_apart apart
    | collects artifactId item _ _ _ enqueued =>
      have alone := congrArg (fun result => claimedLogs result.2.events) enqueued
      rw [enqueue_events] at alone
      exact alone.symm

/-- The last claim. -/
def LastClaim (item : WorkItem) (s : System) : Prop :=
  (claimedLogs s.events).head? = some item

theorem LastClaim.others {item : WorkItem} (last : LastClaim item s)
    (moved : LogsOthers artifacts target s t) : LastClaim item t := by
  unfold LastClaim
  rw [moved.claims]
  exact last

theorem LastClaim.act {item : WorkItem} (last : LastClaim item s)
    (action : LogAction git artifacts target item s t) : LastClaim item t := by
  unfold LastClaim
  cases action with
  | looks _ events =>
    obtain same | ⟨event, apart, more⟩ := events
    · rw [same]
      exact last
    · rw [more, claimedLogs_apart apart]
      exact last
  | settles _ _ _ events =>
    rw [events]
    exact last
  | pushes _ _ _ _ events =>
    rw [events]
    exact last

/-- What a claimed item is executed with, among others. -/
theorem step_claimed {α : Type} {item : WorkItem} {program : Lane α}
    (ensured : LogEnsures git artifacts target item program (fun _ => True) s)
    (last : LastClaim item s) :
    Ensures (LogsOthers artifacts target) (LogStep git artifacts target) program
      (fun _ _ => True) s := by
  have under : Prog.Safe (LogsOthers artifacts target)
      (fun s t => LastClaim item s ∧ LogAction git artifacts target item s t) program.run
      (returns fun _ _ => True) s :=
    Prog.Safe.under ensured (fun _ _ _ => trivial) (fun _ _ last moved => last.others moved)
      (fun _ _ last action => last.act action) last
  refine Prog.Safe.mono (under.guarantees fun s t acted => ?_) fun _ _ _ => trivial
  exact .acts item acted.1 acted.2

theorem claimWorkKind_none {store changed : Store} {workKind : WorkKind} {now : Int}
    (claimed : claimWorkKind workKind now store = .ok (none, changed)) : changed = store := by
  unfold claimWorkKind at claimed
  split at claimed
  · cases claimed
    rfl
  dsimp only at claimed
  split at claimed <;> cases claimed

theorem claim_steps (now : Int) (s : System) :
    Ensures (LogsOthers artifacts target) (LogStep git artifacts target) (claimLogSyncWork now)
      (returns fun claimed t => ∀ item, claimed = some item → LastClaim item t) s := by
  refine Ensures.action fun t _ => ?_
  cases claimed : claimWorkKind logsKind now t.store with
  | error failure => exact ⟨.waits rfl, trivial⟩
  | ok result =>
    obtain ⟨selected, store⟩ := result
    cases selected with
    | none =>
      cases claimWorkKind_none claimed
      exact ⟨.waits rfl, fun item wrong => nomatch wrong⟩
    | some item => exact ⟨.claims now item claimed rfl, fun other same => same⟩

variable (intact : PyStr → Bool) (credential : PublicationCredential)

theorem process_steps (s : System) :
    Ensures (LogsOthers artifacts target) (LogStep git artifacts target)
      (runLogSyncProcess git artifacts intact credential target) (fun _ _ => True) s := by
  refine Ensures.bind (ensures_clock fun t _ => ⟨.waits rfl, ?_⟩)
  refine Ensures.bind ((claim_steps t.now t).mono fun result u claimed => ?_)
  cases result with
  | error failure => trivial
  | ok selected =>
    cases selected with
    | none => trivial
    | some item =>
      have last : LastClaim item u := claimed item rfl
      dsimp only
      split
      · refine step_claimed ?_ last
        exact (LogEnsures.of_every (log_fail false t.now) u).bind fun _ _ _ => trivial
      · refine step_claimed ?_ last
        exact (log_execute intact credential u).bind fun _ _ _ => trivial

/-- The service keeps its order. -/
theorem logs_keep : Prog.Keeps (LogsOthers artifacts target) (LogStep git artifacts target)
    (LogsInOrder git artifacts target) (LogCalls git artifacts target intact credential) where
  refl _ := .refl
  trans _ _ _ first second := first.trans second
  others _ _ inOrder moved := inOrder.others moved
  actions _ _ inOrder step := inOrder.step step
  safe := by
    intro p known s _
    cases known with
    | process => exact call_safe (process_steps intact credential s)
    | retrigger =>
      refine call_safe (Ensures.bind (ensures_clock fun t _ => ⟨.waits rfl, ?_⟩))
      refine Ensures.bind (ensures_transaction (fun u _ store _ recovered => ?_) ?_)
      · cases recovered
        exact ⟨.recovers t.now rfl rfl, process_steps intact credential _⟩
      · intro u failure _ wrong
        cases wrong

end Order

/-- The logs where nothing was collected yet. -/
structure WithoutLogs (s : System) : Prop where
  table : Readable s.store
  none : ∀ row ∈ s.store.work, row.workKind ≠ logsKind
  unrecorded : s.events = []

theorem WithoutLogs.inOrder {git : Git} {artifacts : PyStr → LogArtifact} {target : PyStr}
    {s : System} (empty : WithoutLogs s) : LogsInOrder git artifacts target s := by
  refine ⟨empty.table, fun row member logs => absurd logs (empty.none row member),
    fun row member _ _ logs => absurd logs (empty.none row member), ?_, ?_, ?_⟩ <;>
      rw [empty.unrecorded]
  · intro _ wrong
    cases wrong
  · intro _ wrong
    cases wrong
  · trivial

/-- **What is published under its first claim is the newest published so far.** At every point of a
run, whatever others do between any two actions and wherever a pass breaks off, each push of `logs`
is of the artifact of the item that was claimed last; and where that item had not been claimed
before, no artifact published earlier has a later reference time. -/
theorem first_claim_published_newest {git : Git} {artifacts : PyStr → LogArtifact}
    {intact : PyStr → Bool} {credential : PublicationCredential} {target : PyStr} {s : System}
    (empty : WithoutLogs s) {point : Prog.Point System Unit}
    (reach : Prog.Reach (LogsOthers artifacts target)
      (LogCalls git artifacts target intact credential) (.rest s) point)
    {later earlier : List Event} {replaced : Option ObjectId} {commitSha : ObjectId}
    (events : point.state.events = later ++ .pushed logsBranch replaced commitSha :: earlier) :
    ∃ item, (claimedLogs earlier).head? = some item ∧
      MadeFor git artifacts target item commitSha ∧
      ((∀ before ∈ (claimedLogs earlier).tail, before.workKey ≠ item.workKey) →
        ∀ published ∈ publishedLogs earlier,
          referenceTimeOf artifacts target published ≤ referenceTimeOf artifacts target item) := by
  have inOrder := ((logs_keep intact credential).reach (.rest empty.inOrder) reach).inv
  have history := inOrder.history
  rw [events] at history
  obtain ⟨ordered, pushed⟩ := history.suffix
  obtain ⟨item, last, made⟩ := pushed rfl
  refine ⟨item, last, made, fun first published member => ?_⟩
  cases claims : claimedLogs earlier with
  | nil =>
    rw [claims] at last
    cases last
  | cons claimed before =>
    rw [claims] at last first
    cases last
    have among := claimed_of_published member
    rw [claims] at among
    obtain rfl | earlier := List.mem_cons.mp among
    · exact le_rfl
    · exact ordered.first_newest claims first published earlier

/-! ## An artifact that is late -/

def olderLogs : PyStr := List.replicate 64 97

def newerLogs : PyStr := List.replicate 64 98

def twoArtifacts (artifactId : PyStr) : LogArtifact :=
  ⟨if artifactId = olderLogs then 10 else 20, oneFile⟩

def logsPass : Prog System Unit :=
  (runLogSyncProcess threeCommits twoArtifacts (fun _ => true) .token homeTarget).call

/-- An artifact is collected, with everything outside in reach. -/
def collectedAt (time : Int) (artifactId : PyStr) (s : System) : System :=
  ((enqueueLogSyncWork homeTarget artifactId).eval { s with now := time, fault := none }).2

/-- The older artifact was collected, and could not be published. -/
def olderFailed : System :=
  (logsPass.run { collectedAt 10 olderLogs (setUp homeTarget oneFile.snapshotId) with
    fault := some ⟨"", true⟩ }).2

/-- The newer one was collected and published. -/
def newerPublished : System := (logsPass.run (collectedAt 20 newerLogs olderFailed)).2

/-- The older one was published once its retry was due. -/
def olderPublished : System := (logsPass.run { newerPublished with now := 100 }).2

theorem setUp_withoutLogs : WithoutLogs (setUp homeTarget oneFile.snapshotId) :=
  ⟨⟨List.nodup_nil, nofun⟩, nofun, rfl⟩

theorem collected_others {s : System} {time : Int} {artifactId : PyStr}
    (named : isArtifactId artifactId = true)
    (valid : validateWorkIdentity logsKind (logSyncWorkKey homeTarget artifactId) = .ok ())
    (newest : ∀ row ∈ s.store.work, row.workKind = logsKind → row.createdAt < time ∧
      referenceTimeOf twoArtifacts homeTarget row < (twoArtifacts artifactId).referenceTime) :
    LogsOthers twoArtifacts homeTarget s (collectedAt time artifactId s) := by
  have waited : LogOthers twoArtifacts homeTarget s { s with now := time, fault := none } :=
    .outside rfl (.inl rfl)
  have ends : ∃ item, ((enqueueLogSyncWork homeTarget artifactId).eval
      { s with now := time, fault := none }).1 = .ok item := by
    show ∃ item, ((transaction (enqueueWork logsKind (logSyncWorkKey homeTarget artifactId)
      time)).eval { s with now := time, fault := none }).1 = .ok item
    unfold transaction enqueueWork
    rw [eval_action]
    split
    next ran =>
      split at ran <;> cases ran <;> exact ⟨_, rfl⟩
    next ran => split at ran <;> cases ran
  obtain ⟨item, ok⟩ := ends
  exact .tail (.single waited) (.collects artifactId item named valid newest (Prod.ext ok rfl))

theorem newerPublished_reached :
    Prog.Reach (LogsOthers twoArtifacts homeTarget)
      (LogCalls threeCommits twoArtifacts homeTarget (fun _ => true) .token)
      (.rest (setUp homeTarget oneFile.snapshotId)) (.rest newerPublished) := by
  have older : LogsOthers twoArtifacts homeTarget (setUp homeTarget oneFile.snapshotId)
      (collectedAt 10 olderLogs (setUp homeTarget oneFile.snapshotId)) :=
    collected_others (by decide) (by decide) nofun
  have newer : LogsOthers twoArtifacts homeTarget olderFailed
      (collectedAt 20 newerLogs olderFailed) :=
    collected_others (by decide) (by decide) (by decide)
  have out : LogsOthers twoArtifacts homeTarget (setUp homeTarget oneFile.snapshotId)
      { collectedAt 10 olderLogs (setUp homeTarget oneFile.snapshotId) with
        fault := some ⟨"", true⟩ } :=
    older.tail (.outside rfl (.inl rfl))
  refine .trans (.single (.others_rest out)) ?_
  refine .trans (Prog.Reach.run .process _) ?_
  exact .trans (.single (.others_rest newer)) (Prog.Reach.run .process _)

theorem olderPublished_reached :
    Prog.Reach (LogsOthers twoArtifacts homeTarget)
      (LogCalls threeCommits twoArtifacts homeTarget (fun _ => true) .token)
      (.rest (setUp homeTarget oneFile.snapshotId)) (.rest olderPublished) := by
  refine newerPublished_reached.trans (.trans (.single (.others_rest ?_))
    (Prog.Reach.run .process _))
  exact .single (.outside rfl (.inl rfl))

/-- An artifact that failed at first is published over one that was collected later. -/
theorem retried_artifact_published_late :
    ¬∀ (git : Git) (artifacts : PyStr → LogArtifact) (intact : PyStr → Bool)
      (credential : PublicationCredential) (target : PyStr) (s : System), WithoutLogs s →
        ∀ point, Prog.Reach (LogsOthers artifacts target)
          (LogCalls git artifacts target intact credential) (.rest s) point →
            (publishedLogs point.state.events).Pairwise fun later earlier =>
              referenceTimeOf artifacts target earlier ≤
                referenceTimeOf artifacts target later := by
  intro monotone
  have ordered := monotone threeCommits twoArtifacts (fun _ => true) .token homeTarget
    (setUp homeTarget oneFile.snapshotId) setUp_withoutLogs (.rest olderPublished)
    olderPublished_reached
  exact absurd ordered (by decide)

/-- The newer artifact, published under its first claim while the older one waits. -/
theorem first_claim_published_newest_overtaking :
    ∃ item, (claimedLogs (newerPublished.events.drop 4)).head? = some item ∧
      MadeFor threeCommits twoArtifacts homeTarget item firstCommit ∧
      ((∀ before ∈ (claimedLogs (newerPublished.events.drop 4)).tail,
          before.workKey ≠ item.workKey) →
        ∀ published ∈ publishedLogs (newerPublished.events.drop 4),
          referenceTimeOf twoArtifacts homeTarget published ≤
            referenceTimeOf twoArtifacts homeTarget item) := by
  have pushed : newerPublished.events = newerPublished.events.take 3 ++
      .pushed logsBranch none firstCommit :: newerPublished.events.drop 4 := by decide
  exact first_claim_published_newest setUp_withoutLogs newerPublished_reached pushed

end SyncApp
