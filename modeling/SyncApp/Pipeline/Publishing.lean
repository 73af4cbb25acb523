import SyncApp.Pipeline.LocalSync
import SyncApp.Pipeline.Rules

/-!
# What a synchronization does

`Publishes` lists the atomic changes a cycle makes, with what the cycle knows when it makes each: a
look, the push of a commit made on the head that was both stored and observed, and the record of a
pushed commit after it was observed as the head and its snapshot proved again.

What an observation is worth later depends on who else writes. A `Watch` names the others and what
stays known of an observed head while they act: with a foreign writer only that it was observed
last, without one that the branch is still there.
-/

set_option autoImplicit false

namespace SyncApp

open Lib Raising Lane

/-- Others leave the baselines, the bindings and the list of events to the service. -/
structure Others (s t : System) : Prop where
  baselines : t.store.baselines = s.store.baselines
  bound : t.store.repositoryId = s.store.repositoryId
  events : t.events = s.events

theorem Others.refl (s : System) : Others s s := ⟨rfl, rfl, rfl⟩

theorem Others.trans {r s t : System} (first : Others r s) (second : Others s t) : Others r t :=
  ⟨second.baselines.trans first.baselines, second.bound.trans first.bound,
    second.events.trans first.events⟩

/-- The list of events grows by one. -/
def System.record (system : System) (event : Event) : System :=
  { system with events := event :: system.events }

/-- Who else acts, and what an observed head is worth while they do. -/
structure Watch where
  rely : System → System → Prop
  sees : System → BranchHead → Prop
  others : ∀ s t, rely s t → Others s t
  stable : ∀ s t head, rely s t → sees s head → sees t head
  fresh : ∀ (s : System) target id branch head, s.remote.head target id branch = .ok head →
    sees (s.record (.observedBranch head)) head
  renamed : ∀ (s : System) target id branch head, s.remote.head target id branch = .ok head →
    sees (s.record (.observedBranch { head with target := target })) { head with target := target }
  reproved : ∀ (s : System) head id, sees s head → sees (s.record (.reprovedSnapshot id)) head

/-- The commit the stored baseline of `main` names. -/
def System.stored (system : System) (target : PyStr) : Option ObjectId :=
  (system.store.synchronizationBaseline target mainBranch).map (·.commitSha)

/-- What a cycle leaves alone while it only looks. -/
structure Idle (s t : System) : Prop where
  remote : t.remote = s.remote
  baselines : t.store.baselines = s.store.baselines
  bound : t.store.repositoryId = s.store.repositoryId

theorem Idle.refl (s : System) : Idle s s := ⟨rfl, rfl, rfl⟩

theorem Idle.trans {r s t : System} (first : Idle r s) (second : Idle s t) : Idle r t :=
  ⟨second.remote.trans first.remote, second.baselines.trans first.baselines,
    second.bound.trans first.bound⟩

theorem Idle.stored {s t : System} (idle : Idle s t) (target : PyStr) :
    t.stored target = s.stored target := by
  unfold System.stored Store.synchronizationBaseline
  rw [idle.baselines]

/-- Nobody else moves Repo B's `main`. -/
def Watch.Closed (watch : Watch) : Prop := ∀ s t, watch.rely s t → t.main = s.main

/-- A commit was pushed, right after the snapshot in the workspace was proved again. -/
def Landed (snapshotId : Digest) (branch : PyStr) (commitSha : ObjectId) (events : List Event) :
    Prop :=
  ∃ since replaced earlier,
    events = since ++ .pushed branch replaced commitSha :: .reprovedSnapshot snapshotId :: earlier

theorem Landed.later {snapshotId : Digest} {branch : PyStr} {commitSha : ObjectId}
    {events : List Event} (landed : Landed snapshotId branch commitSha events) (event : Event) :
    Landed snapshotId branch commitSha (event :: events) := by
  obtain ⟨since, replaced, earlier, rfl⟩ := landed
  exact ⟨event :: since, replaced, earlier, rfl⟩

/-- The snapshot of a row was proved again after its commit was observed as the head, after it was
pushed. -/
def Confirmed (row : SynchronizationBaseline) (events : List Event) : Prop :=
  ∃ seen since, events = .reprovedSnapshot row.snapshotId :: .observedBranch seen :: since ∧
    seen.branch = row.branch ∧ seen.commitSha = some row.commitSha ∧
    Landed row.snapshotId row.branch row.commitSha since

section

variable (git : Git) (watch : Watch) (target : PyStr)

/-- What one action of a cycle does. -/
inductive Publishes (s t : System) : Prop where
  | looks (idle : Idle s t)
  | pushes (index : GitTree) (seen : BranchHead) (time : Int)
      (stored : s.stored target = seen.commitSha) (sees : watch.sees s seen)
      (at_branch : seen.branch = mainBranch)
      (forward : s.main.all (git.isAncestor · (git.commit index seen.commitSha time)) = true)
      (store : t.store = s.store)
      (remote : t.remote = s.remote.move mainBranch (git.commit index seen.commitSha time))
  | records (row : SynchronizationBaseline) (seen : BranchHead)
      (store : t.store = s.store.recordSynchronizationBaseline row) (remote : t.remote = s.remote)
      (branch : row.branch = mainBranch) (confirmed : Confirmed row s.events)
      (sees : watch.sees s seen) (at_branch : seen.branch = mainBranch)
      (at_commit : seen.commitSha = some row.commitSha)

end

/-! ## Single actions -/

section Actions

variable {git : Git} {watch : Watch} {target : PyStr} {s : System}

theorem Publishes.same (s : System) : Publishes git watch target s s := .looks (.refl s)

theorem Publishes.recorded (s : System) (event : Event) :
    Publishes git watch target s (s.record event) := .looks ⟨rfl, rfl, rfl⟩

/-- A call outside that changes neither the database nor Repo B. -/
theorem ensures_look {α : Type} {call : System → Except Failure (α × System)}
    {post : α → System → Prop}
    (done : ∀ t a u, watch.rely s t → call t = .ok (a, u) →
      u.remote = t.remote ∧ u.store = t.store ∧ post a u) :
    Ensures watch.rely (Publishes git watch target) (outside call) (returns post) s := by
  refine ensures_outside (fun t a u moved _ called => ?_) fun t failure _ => ⟨.same t, trivial⟩
  obtain ⟨remote, store, holds⟩ := done t a u moved called
  exact ⟨.looks ⟨remote, congrArg Store.baselines store,
    congrArg (fun store : Store => store.repositoryId) store⟩, holds⟩

theorem ensures_reproveSnapshot {id : Digest} {post : Unit → System → Prop}
    (holds : ∀ t, watch.rely s t → post () (t.record (.reprovedSnapshot id))) :
    Ensures watch.rely (Publishes git watch target) (reproveSnapshot id) (returns post) s := by
  refine ensures_look fun t a u moved called => ?_
  split at called
  next => cases called; exact ⟨rfl, rfl, holds t moved⟩
  next => cases called

/-- The head of a branch has its name. -/
theorem head_branch {remote : RemoteRepository} {target branch : PyStr} {id : Int}
    {head : BranchHead} (found : remote.head target id branch = .ok head) :
    head.branch = branch := by
  unfold RemoteRepository.head at found
  split at found
  · cases found
  · split at found
    · cases found
    · cases found
      rfl

theorem ensures_fetchOptional {id : Int} {branch : PyStr} {post : BranchHead → System → Prop}
    (holds : ∀ t seen, watch.rely s t → watch.sees (t.record (.observedBranch seen)) seen →
      seen.branch = branch → post seen (t.record (.observedBranch seen))) (name : PyStr) :
    Ensures watch.rely (Publishes git watch target)
      (fetchOptionalTrustedBranchHead name id branch) (returns post) s := by
  refine ensures_look fun t seen u moved called => ?_
  cases found : t.remote.head name id branch with
  | error failure => rw [found] at called; cases called
  | ok head =>
    rw [found] at called
    cases called
    exact ⟨rfl, rfl, holds t seen moved (watch.fresh t name id branch seen found)
      (head_branch found)⟩

theorem ensures_fetchTrusted {id : Int} {branch : PyStr} {post : BranchHead → System → Prop}
    (holds : ∀ t seen, watch.rely s t → watch.sees (t.record (.observedBranch seen)) seen →
      seen.branch = branch → post seen (t.record (.observedBranch seen))) (name : PyStr) :
    Ensures watch.rely (Publishes git watch target)
      (fetchTrustedBranchHead name id branch) (returns post) s := by
  refine ensures_ends_bind (ensures_fetchOptional holds name) fun seen t held => ?_
  exact ensures_ends_bind (ensures_returns_ensure fun _ => held) fun _ _ held => held

theorem ensures_observeBranch {id : Int} {branch : PyStr} {post : BranchHead → System → Prop}
    (holds : ∀ t seen, watch.rely s t → watch.sees (t.record (.observedBranch seen)) seen →
      seen.branch = branch → post seen (t.record (.observedBranch seen))) (name : PyStr) :
    Ensures watch.rely (Publishes git watch target)
      (observeBranch name id branch) (returns post) s := by
  refine ensures_look fun t seen u moved called => ?_
  cases found : t.remote.head name id branch with
  | error failure => rw [found] at called; cases called
  | ok head =>
    rw [found] at called
    cases called
    have at_branch : head.branch = branch := head_branch found
    exact ⟨rfl, rfl, holds t _ moved (watch.renamed t name id branch head found) at_branch⟩

theorem ensures_observeRemote {id : Int} {branch : PyStr} {post : BranchHead → System → Prop}
    (holds : ∀ t seen, watch.rely s t → watch.sees (t.record (.observedBranch seen)) seen →
      seen.branch = branch → post seen (t.record (.observedBranch seen)))
    (credential : PublicationCredential) (name : PyStr) :
    Ensures watch.rely (Publishes git watch target)
      (observeRemote credential name id branch) (returns post) s := by
  cases credential with
  | token => exact ensures_fetchOptional holds name
  | deployKey => exact ensures_observeBranch holds name

/-- The record of a publication: the head was observed last, and the row's snapshot is proved
again. -/
theorem ensures_recordVerifiedPublication {intent : PublicationIntent} {id : Digest}
    {seen : BranchHead} {since : List Event} {post : SynchronizationBaseline → System → Prop}
    (main : intent.branch = mainBranch) (sees : watch.sees s seen)
    (events : s.events = .observedBranch seen :: since)
    (landed : Landed id intent.branch intent.localCommitSha since)
    (holds : ∀ t row, row.commitSha = intent.localCommitSha → post row t) :
    Ensures watch.rely (Publishes git watch target) (recordVerifiedPublication intent id seen)
      (returns post) s := by
  refine ensures_returns_given fun described => ?_
  obtain ⟨⟨-, -, at_branch⟩, at_commit⟩ := described
  refine ensures_ends_bind (m := fun _ t => watch.sees t seen ∧
    t.events = .reprovedSnapshot id :: .observedBranch seen :: since)
    (ensures_reproveSnapshot fun t moved => ?_) fun _ t proved => ?_
  · refine ⟨watch.reproved t seen id (watch.stable s t seen moved sees), ?_⟩
    show Event.reprovedSnapshot id :: t.events = _
    rw [(watch.others s t moved).events, events]
  refine ensures_ends_bind (m := fun _ t => watch.sees t seen ∧
    t.events = .reprovedSnapshot id :: .observedBranch seen :: since)
    (ensures_clock fun u moved => ⟨.same u, watch.stable t u seen moved proved.1,
      (watch.others t u moved).events.trans proved.2⟩) fun now u proved => ?_
  refine ensures_transaction (fun v row store moved changed => ?_)
    fun v failure _ _ => ⟨.same v, trivial⟩
  split at changed
  · cases changed
  cases changed
  refine ⟨.records ⟨seen.target, seen.branch, id, intent.localCommitSha, now⟩ seen rfl rfl
    (at_branch.symm.trans main) ⟨seen, since, ?_, rfl, at_commit, at_branch ▸ landed⟩
    (watch.stable u v seen moved proved.1) (at_branch.symm.trans main) at_commit, holds _ _ rfl⟩
  exact (watch.others u v moved).events.trans proved.2

end Actions

/-! ## The publication -/

section Publication

variable {git : Git} {watch : Watch} {target : PyStr} {s t : System}

/-- Others do not move the stored baseline. -/
theorem Watch.stored (watch : Watch) (target : PyStr) (moved : watch.rely s t) :
    t.stored target = s.stored target := by
  unfold System.stored Store.synchronizationBaseline
  rw [(watch.others s t moved).baselines]

/-- An intent to push a commit made on the stored head. -/
structure PublicationIntent.Sound (git : Git) (target : PyStr) (intent : PublicationIntent)
    (s : System) : Prop where
  main : intent.branch = mainBranch
  made : ∃ index time, intent.localCommitSha = git.commit index intent.expectedRemoteCommitSha time
  stored : s.stored target = intent.expectedRemoteCommitSha

/-- A push, with the head it expects stored and observed, and the snapshot just proved. -/
theorem ensures_pushBranch {index : GitTree} {seen : BranchHead} {time : Int} {id : Digest}
    {earlier : List Event} (stored : s.stored target = seen.commitSha) (sees : watch.sees s seen)
    (at_branch : seen.branch = mainBranch) (proved : s.events = .reprovedSnapshot id :: earlier) :
    Ensures watch.rely (Publishes git watch target)
      (pushBranch git mainBranch (git.commit index seen.commitSha time))
      (returns fun _ t => Landed id mainBranch (git.commit index seen.commitSha time) t.events)
      s := by
  refine ensures_returns_request .same fun t result u moved pushed => ?_
  dsimp only at pushed
  split at pushed
  next forward =>
    cases pushed
    refine ⟨.pushes index seen time ((watch.stored target moved).trans stored)
      (watch.stable s t seen moved sees) at_branch forward rfl rfl, [],
      t.remote.branches mainBranch, earlier, ?_⟩
    show _ :: t.events = _ :: _
    rw [(watch.others s t moved).events, proved]
  next => cases pushed

/-- A sound intent, pushed on the head that was observed last. -/
theorem ensures_pushPublicationIntent {intent : PublicationIntent} {id : Digest}
    {before : BranchHead} (sound : intent.Sound git target s) (sees : watch.sees s before)
    (at_branch : before.branch = mainBranch) :
    Ensures watch.rely (Publishes git watch target) (pushPublicationIntent git id intent before)
      (returns fun _ t => Landed id intent.branch intent.localCommitSha t.events) s := by
  refine ensures_returns_given fun expected => ?_
  refine ensures_returns_given fun _ => ?_
  obtain ⟨index, time, made⟩ := sound.made
  refine ensures_ends_bind (m := fun _ t => t.stored target = before.commitSha ∧
    watch.sees t before ∧ ∃ earlier, t.events = .reprovedSnapshot id :: earlier)
    (ensures_reproveSnapshot fun t moved => ?_) fun _ t held => ?_
  · exact ⟨((watch.stored target moved).trans sound.stored).trans expected.symm,
      watch.reproved t before id (watch.stable s t before moved sees), t.events, rfl⟩
  obtain ⟨stored, sees, earlier, proved⟩ := held
  rw [sound.main, made, ← expected]
  refine ensures_ends_bind (ensures_pushBranch stored sees at_branch proved) fun _ u landed => ?_
  refine ensures_reproveSnapshot fun v moved => ?_
  have same : v.events = u.events := (watch.others u v moved).events
  exact (same ▸ landed : Landed id mainBranch _ v.events).later _

/-- What follows a landed push: the head is observed, and the row recorded. -/
structure Observed (watch : Watch) (id : Digest) (intent : PublicationIntent) (seen : BranchHead)
    (s : System) : Prop where
  sees : watch.sees s seen
  events : ∃ since, s.events = .observedBranch seen :: since ∧
    Landed id intent.branch intent.localCommitSha since

theorem Observed.after {id : Digest} {intent : PublicationIntent} {seen : BranchHead}
    (landed : Landed id intent.branch intent.localCommitSha s.events) (moved : watch.rely s t)
    (sees : watch.sees (t.record (.observedBranch seen)) seen) :
    Observed watch id intent seen (t.record (.observedBranch seen)) :=
  ⟨sees, t.events, rfl, (watch.others s t moved).events.symm ▸ landed⟩

theorem Observed.landed {id : Digest} {intent : PublicationIntent} {seen : BranchHead}
    (observed : Observed watch id intent seen s) :
    Landed id intent.branch intent.localCommitSha s.events := by
  obtain ⟨since, events, landed⟩ := observed.events
  exact events.symm ▸ landed.later _

theorem ensures_completeAuthorized {intent : PublicationIntent} {id : Digest}
    (sound : intent.Sound git target s) :
    Ensures watch.rely (Publishes git watch target) (completeAuthorizedPublication git id intent)
      (returns fun row _ => row.commitSha = intent.localCommitSha) s := by
  refine ensures_ends_bind (m := fun before t => intent.Sound git target t ∧
    watch.sees t before ∧ before.branch = mainBranch)
    (ensures_fetchOptional (fun t before moved sees at_branch => ⟨⟨sound.main, sound.made,
      (watch.stored target moved).trans sound.stored⟩, sees, at_branch.trans sound.main⟩) _)
    fun before t held => ?_
  obtain ⟨sound, sees, at_branch⟩ := held
  refine ensures_ends_bind (ensures_pushPublicationIntent sound sees at_branch)
    fun _ u landed => ?_
  refine ensures_ends_bind (ensures_fetchTrusted
    (fun v after moved sees _ => Observed.after landed moved sees) _) fun after v observed => ?_
  obtain ⟨since, events, landed⟩ := observed.events
  exact ensures_recordVerifiedPublication sound.main observed.sees events landed
    fun _ _ same => same

theorem ensures_pushWithDeployKey {intent : PublicationIntent} {id : Digest}
    (sound : intent.Sound git target s) :
    Ensures watch.rely (Publishes git watch target)
      (pushPublicationIntentWithDeployKey git id intent)
      (returns fun _ t => Landed id intent.branch intent.localCommitSha t.events) s := by
  refine ensures_ends_bind (m := fun before t => intent.Sound git target t ∧
    watch.sees t before ∧ before.branch = mainBranch)
    (ensures_observeBranch (fun t before moved sees at_branch => ⟨⟨sound.main, sound.made,
      (watch.stored target moved).trans sound.stored⟩, sees, at_branch.trans sound.main⟩) _)
    fun before t held => ?_
  obtain ⟨sound, sees, at_branch⟩ := held
  refine ensures_ends_bind (ensures_pushPublicationIntent sound sees at_branch)
    fun _ u landed => ?_
  refine ensures_ends_bind (m := fun _ v =>
      Landed id intent.branch intent.localCommitSha v.events)
    (ensures_observeBranch (fun v after moved sees _ => (Observed.after landed moved sees).landed) _)
    fun after v landed => ?_
  unfold validateAfterPublication
  split
  next => exact landed
  next =>
    split
    next => trivial
    next => trivial

theorem ensures_completeWithDeployKey {intent : PublicationIntent} {id : Digest}
    (sound : intent.Sound git target s) :
    Ensures watch.rely (Publishes git watch target) (completeWithDeployKey git id intent)
      (returns fun row _ => row.commitSha = intent.localCommitSha) s := by
  refine ensures_ends_bind (m := fun _ t => intent.Sound git target t)
    (ensures_observeBranch (fun t _ moved _ _ => ⟨sound.main, sound.made,
      (watch.stored target moved).trans sound.stored⟩) _) fun _ t sound => ?_
  refine ensures_ends_bind (ensures_pushWithDeployKey sound) fun _ u landed => ?_
  refine ensures_ends_bind (ensures_observeBranch
    (fun v after moved sees _ => Observed.after landed moved sees) _) fun after v observed => ?_
  refine ensures_returns_given fun _ => ?_
  obtain ⟨since, events, landed⟩ := observed.events
  exact ensures_recordVerifiedPublication sound.main observed.sees events landed
    fun _ _ same => same

theorem ensures_completePublication {intent : PublicationIntent} {id : Digest}
    (sound : intent.Sound git target s) (credential : PublicationCredential) :
    Ensures watch.rely (Publishes git watch target) (completePublication git credential id intent)
      (returns fun row _ => row.commitSha = intent.localCommitSha) s := by
  cases credential with
  | token => exact ensures_completeAuthorized sound
  | deployKey => exact ensures_completeWithDeployKey sound

end Publication

/-! ## The cycle -/

section Cycle

variable {git : Git} {watch : Watch} {target : PyStr} {s t : System}

/-- Where the classification lets a cycle go on, the stored baseline and the head agree. -/
theorem classify_none {target : PyStr} {id : Int} {branch : PyStr} {snapshotId : Digest}
    {remote : BranchHead} {baseline : Option SynchronizationBaseline}
    (passed : classifyPreCommitRefusal target id branch snapshotId remote baseline = .ok none) :
    baseline.map (·.commitSha) = remote.commitSha := by
  unfold classifyPreCommitRefusal at passed
  dsimp only at passed
  split at passed
  next => cases passed
  next absent => exact absent.symm
  next => cases passed
  next row commitSha present =>
    split at passed
    · cases passed
    split at passed
    · cases passed
    next same => exact (present.trans (congrArg some (not_not.mp same))).symm

/-- What a refusal says of the stored baseline and the head. -/
theorem classify_some {target : PyStr} {id : Int} {branch : PyStr} {snapshotId : Digest}
    {remote : BranchHead} {baseline : Option SynchronizationBaseline} {refusal : LocalSyncResult}
    (refused : classifyPreCommitRefusal target id branch snapshotId remote baseline =
      .ok (some refusal)) :
    refusal.disposition.succeeds = false ∧ baseline.map (·.commitSha) ≠ remote.commitSha := by
  unfold classifyPreCommitRefusal at refused
  dsimp only at refused
  split at refused
  next present =>
    cases refused
    exact ⟨rfl, fun same => nomatch same.trans present⟩
  next => cases refused
  next absent =>
    cases refused
    exact ⟨rfl, fun same => nomatch same.trans absent⟩
  next row commitSha present =>
    split at refused
    · cases refused
    split at refused
    next differs =>
      cases refused
      exact ⟨rfl, fun same => differs (Option.some.inj (same.trans present)).symm⟩
    · cases refused

/-- The evidence an assessment is of. -/
theorem assess_evidence {localCommitSha : ObjectId} {remote : BranchHead}
    {baseline : Option SynchronizationBaseline} {preflight : PublicationPreflight}
    (assessed : assessPublicationPreflight localCommitSha remote baseline = .ok preflight) :
    preflight.target = remote.target ∧ preflight.repositoryId = remote.repositoryId ∧
      preflight.branch = remote.branch ∧ preflight.localCommitSha = localCommitSha ∧
      preflight.remoteCommitSha = remote.commitSha := by
  unfold assessPublicationPreflight at assessed
  dsimp only at assessed
  split at assessed
  next =>
    cases assessed
    exact ⟨rfl, rfl, rfl, rfl, rfl⟩
  next row =>
    split at assessed
    · cases assessed
    split at assessed
    · cases assessed
      exact ⟨rfl, rfl, rfl, rfl, rfl⟩
    split at assessed
    · cases assessed
      exact ⟨rfl, rfl, rfl, rfl, rfl⟩
    split at assessed
    · cases assessed
      exact ⟨rfl, rfl, rfl, rfl, rfl⟩
    · cases assessed
      exact ⟨rfl, rfl, rfl, rfl, rfl⟩

/-- A publication is the first one exactly when there is no head. -/
theorem assess_initializes {localCommitSha : ObjectId} {remote : BranchHead}
    {baseline : Option SynchronizationBaseline} {preflight : PublicationPreflight}
    (assessed : assessPublicationPreflight localCommitSha remote baseline = .ok preflight)
    (may : preflight.mayPublish = true) :
    preflight.disposition = .safeToInitialize ↔ remote.commitSha = none := by
  unfold assessPublicationPreflight at assessed
  dsimp only at assessed
  split at assessed
  next =>
    cases assessed
    by_cases absent : remote.commitSha = none
    · simp [absent]
    · simp [PublicationPreflight.mayPublish, absent] at may
  next row =>
    split at assessed
    · cases assessed
    split at assessed
    next =>
      cases assessed
      simp [PublicationPreflight.mayPublish] at may
    next commitSha present =>
      split at assessed
      · cases assessed
        by_cases same : localCommitSha = commitSha <;> simp [present, same]
      split at assessed
      · cases assessed
        simp [present]
      · cases assessed
        simp [present]

/-- An intent is built from a preflight that was proved again. -/
theorem ensures_buildPublicationIntent {id : Digest} {preflight : PublicationPreflight} :
    Ensures watch.rely (Publishes git watch target) (buildPublicationIntent git id preflight)
      (returns fun intent t => t.stored target = s.stored target ∧
        intent.branch = preflight.branch ∧ intent.localCommitSha = preflight.localCommitSha ∧
        intent.expectedRemoteCommitSha = preflight.remoteCommitSha) s := by
  have proofs : ∀ ancestor commitSha, Ensures watch.rely (Publishes git watch target)
      (do
        reproveSnapshot id
        verifyFastForwardAncestry git ancestor commitSha
        return (⟨preflight.target, preflight.repositoryId, preflight.branch,
          preflight.localCommitSha, preflight.remoteCommitSha⟩ : PublicationIntent))
      (returns fun intent t => t.stored target = s.stored target ∧
        intent.branch = preflight.branch ∧ intent.localCommitSha = preflight.localCommitSha ∧
        intent.expectedRemoteCommitSha = preflight.remoteCommitSha) s := by
    intro ancestor commitSha
    refine ensures_ends_bind (m := fun _ t => t.stored target = s.stored target)
      (ensures_reproveSnapshot fun t moved =>
        show t.stored target = s.stored target from watch.stored target moved) fun _ t same => ?_
    refine ensures_ends_bind (m := fun _ u => u.stored target = s.stored target)
      (ensures_look fun u result v moved called => ?_) fun _ u same => ⟨same, rfl, rfl, rfl⟩
    split at called
    next =>
      cases called
      exact ⟨rfl, rfl, (watch.stored target moved).trans same⟩
    next => cases called
  unfold buildPublicationIntent
  dsimp only
  split
  next => exact ensures_returns_given fun _ => proofs _ _
  next => trivial
  next => exact proofs _ _
  next => trivial
  next => trivial

/-- A refused cycle: the head that was observed last is not the stored one, and the cycle did
nothing. -/
structure Refused (watch : Watch) (target : PyStr) (s : System) (result : LocalSyncResult)
    (t : System) : Prop where
  fails : result.disposition.succeeds = false
  seen : ∃ seen, watch.sees t seen ∧ seen.branch = mainBranch ∧ s.stored target ≠ seen.commitSha
  main : watch.Closed → t.main = s.main

/-- A cycle that succeeds: the configuration is the stored head's, or a commit made on the stored
head was published. -/
inductive Completed (git : Git) (stored : Option ObjectId) (result : LocalSyncResult) : Prop where
  | unchanged (same : result.disposition = .noChange) (at_head : result.commitSha = stored)
  | published (first : result.disposition = if stored = none then .initialized else .published)
      (index : GitTree) (time : Int)
      (made : result.commitSha = some (git.commit index stored time))

theorem ensures_publishLocalCommit {credential : PublicationCredential} {id : Int}
    {source : LocalSource} {remote : BranchHead} {baseline : Option SynchronizationBaseline}
    {time : Int} (at_branch : remote.branch = mainBranch)
    (stored : s.stored target = remote.commitSha) :
    Ensures watch.rely (Publishes git watch target)
      (publishLocalCommit git credential id source remote baseline
        (git.commit source.index remote.commitSha time))
      (returns fun result _ => Completed git (s.stored target) result) s := by
  refine ensures_ends_bind (m := fun preflight t => t = s ∧
    assessPublicationPreflight (git.commit source.index remote.commitSha time) remote baseline =
      .ok preflight)
    (ensures_returns_ofResult fun preflight assessed => ⟨rfl, ?_⟩) fun preflight t held => ?_
  · cases result : assessPublicationPreflight (git.commit source.index remote.commitSha time) remote
        baseline with
    | ok _ => rw [result] at assessed; exact assessed
    | error _ => rw [result] at assessed; cases assessed
  obtain ⟨rfl, assessed⟩ := held
  refine ensures_returns_given fun may => ?_
  obtain ⟨-, -, same_branch, same_commit, same_head⟩ := assess_evidence assessed
  refine ensures_ends_bind (ensures_ends_rethrow ensures_buildPublicationIntent)
    fun intent u built => ?_
  obtain ⟨unmoved, branch, commit, head⟩ := built
  have sound : intent.Sound git target u :=
    ⟨branch.trans (same_branch.trans at_branch), ⟨source.index, time, by
      rw [commit, head, same_commit, same_head]⟩, by
      rw [unmoved, stored, head, same_head]⟩
  refine ensures_ends_bind (ensures_ends_rethrow (ensures_completePublication sound credential))
    fun row v recorded => ?_
  refine .published ?_ source.index time ?_
  · have first := assess_initializes assessed may
    rw [← stored] at first
    by_cases absent : t.stored target = none
    · rw [if_pos absent, if_pos (first.mpr absent)]
    · rw [if_neg absent, if_neg fun initializes => absent (first.mp initializes)]
  · rw [stored]
    exact congrArg some (recorded.trans (commit.trans same_commit))

theorem ensures_createWorkspaceCommit {source : LocalSource} {head : Option ObjectId} :
    Ensures watch.rely (Publishes git watch target) (createWorkspaceCommit git source head)
      (returns fun made t => t.stored target = s.stored target ∧
        ∀ commitSha, made = some commitSha →
          ∃ time, commitSha = git.commit source.index head time) s := by
  refine ensures_ends_bind (m := fun _ t => t.stored target = s.stored target)
    (ensures_reproveSnapshot fun t moved =>
      show t.stored target = s.stored target from watch.stored target moved) fun _ t same => ?_
  refine ensures_ends_bind (m := fun made u => u.stored target = s.stored target ∧
      ∀ commitSha, made = some commitSha → ∃ time, commitSha = git.commit source.index head time)
    (ensures_look fun u made v moved called => ?_) fun made u held => ?_
  · cases called
    refine ⟨rfl, rfl, (watch.stored target moved).trans same, fun commitSha given => ?_⟩
    split at given
    · cases given
    · exact ⟨u.now, (Option.some.inj given).symm⟩
  refine ensures_ends_bind (m := fun _ v => v.stored target = s.stored target)
    (ensures_reproveSnapshot fun v moved =>
      show v.stored target = s.stored target from (watch.stored target moved).trans held.1)
    fun _ v same => ⟨same, held.2⟩

/-- What a cycle does once the trusted head is in the workspace. -/
def commitAndPublish (git : Git) (credential : PublicationCredential) (id : Int)
    (source : LocalSource) (remote : BranchHead) (baseline : Option SynchronizationBaseline) :
    Lane LocalSyncResult := do
  let localCommitSha ← rethrow (createWorkspaceCommit git source remote.commitSha)
    (failedClosed .token)
  match localCommitSha with
  | none =>
    ensure (remote.commitSha.isSome ∧ baseline.isSome)
      (localSyncError "initial synchronization produced no publishable commit")
    return ⟨.noChange, remote.target, remote.repositoryId, remote.branch, source.snapshotId,
      remote.commitSha, baseline⟩
  | some localCommitSha =>
    publishLocalCommit git credential id source remote baseline localCommitSha

theorem ensures_commitAndPublish {credential : PublicationCredential} {id : Int}
    {source : LocalSource} {remote : BranchHead} {baseline : Option SynchronizationBaseline}
    (at_branch : remote.branch = mainBranch) (stored : s.stored target = remote.commitSha)
    (t : System) (same : t.stored target = s.stored target) :
    Ensures watch.rely (Publishes git watch target)
      (commitAndPublish git credential id source remote baseline)
      (returns fun result _ => Completed git (s.stored target) result) t := by
  refine ensures_ends_bind (ensures_ends_rethrow ensures_createWorkspaceCommit)
    fun made u created => ?_
  cases made with
  | none => exact ensures_returns_given fun _ => .unchanged rfl stored.symm
  | some localCommitSha =>
    obtain ⟨time, rfl⟩ := created.2 localCommitSha rfl
    have unmoved : u.stored target = s.stored target := created.1.trans same
    rw [← unmoved]
    exact ensures_publishLocalCommit at_branch (unmoved.trans stored)

theorem ensures_synchronizeAgreed {credential : PublicationCredential} {id : Int}
    {source : LocalSource} {remote : BranchHead} {baseline : Option SynchronizationBaseline}
    (at_branch : remote.branch = mainBranch) (stored : s.stored target = remote.commitSha) :
    Ensures watch.rely (Publishes git watch target)
      (synchronizeAgreed git credential id source remote baseline)
      (returns fun result _ => Completed git (s.stored target) result) s := by
  unfold synchronizeAgreed
  split
  next =>
    refine ensures_ends_bind (m := fun _ t => t.stored target = s.stored target)
      (ensures_ends_rethrow (ensures_look fun t result u moved called => ?_))
      fun _ t same => ensures_commitAndPublish at_branch stored t same
    split at called
    next =>
      cases called
      exact ⟨rfl, rfl, watch.stored target moved⟩
    next => cases called
  next => exact ensures_commitAndPublish at_branch stored s rfl

/-- **A cycle publishes only what it may**, whoever else acts between its steps. -/
theorem ensures_synchronize (capture : FileSystem PyStr → LocalSource)
    (credential : PublicationCredential) (branch : PyStr) (s : System) :
    Ensures watch.rely (Publishes git watch target)
      (synchronizeLocalConfiguration git capture credential target branch)
      (returns fun result t => Refused watch target s result t ∨
        Completed git (s.stored target) result) s := by
  have kept : ∀ {t u : System}, (t.stored target = s.stored target ∧ (watch.Closed → t.main = s.main)) →
      watch.rely t u → u.stored target = s.stored target ∧ (watch.Closed → u.main = s.main) :=
    fun held moved => ⟨(watch.stored target moved).trans held.1,
      fun closed => (closed _ _ moved).trans (held.2 closed)⟩
  refine ensures_returns_given fun main => ?_
  subst main
  refine ensures_ends_bind (m := fun _ t => t.stored target = s.stored target ∧
      (watch.Closed → t.main = s.main))
    (ensures_query fun t moved => ⟨.same t, kept ⟨rfl, fun _ => rfl⟩ moved⟩) fun bound t held => ?_
  cases bound with
  | none => trivial
  | some repositoryId =>
    refine ensures_ends_bind (m := fun _ u => u.stored target = s.stored target ∧
        (watch.Closed → u.main = s.main))
      (ensures_ends_rethrow (ensures_look fun u source v moved called => ?_))
      fun source u held => ?_
    · cases called
      obtain ⟨stored, main⟩ := kept held moved
      exact ⟨rfl, rfl, stored, main⟩
    refine ensures_ends_bind (m := fun remote v => (v.stored target = s.stored target ∧
        (watch.Closed → v.main = s.main)) ∧ watch.sees v remote ∧ remote.branch = mainBranch)
      (ensures_ends_rethrow (ensures_observeRemote (fun v remote moved sees at_branch => ?_)
        credential target)) fun remote v seen => ?_
    · obtain ⟨stored, main⟩ := kept held moved
      exact ⟨⟨stored, main⟩, sees, at_branch⟩
    refine ensures_ends_bind (m := fun baseline w => (w.stored target = s.stored target ∧
        (watch.Closed → w.main = s.main)) ∧ watch.sees w remote ∧
        baseline.map (·.commitSha) = s.stored target)
      (ensures_query fun w moved => ⟨.same w, kept seen.1 moved,
        watch.stable v w remote moved seen.2.1, (kept seen.1 moved).1⟩) fun baseline w found => ?_
    obtain ⟨⟨same, main⟩, sees, stored⟩ := found
    refine ensures_ends_bind (m := fun refusal x => x = w ∧
        classifyPreCommitRefusal target repositoryId mainBranch source.snapshotId remote baseline =
          .ok refusal)
      (ensures_returns_ofResult fun _ classified => ⟨rfl, classified⟩) fun refusal x classified => ?_
    obtain ⟨rfl, classified⟩ := classified
    cases refusal with
    | some refusal =>
      obtain ⟨fails, differs⟩ := classify_some classified
      exact .inl ⟨fails, ⟨remote, sees, seen.2.2, fun same => differs (stored.trans same)⟩, main⟩
    | none =>
      have agree := classify_none classified
      rw [← same]
      refine (ensures_synchronizeAgreed seen.2.2 (same.trans (stored.symm.trans agree))).mono
        fun result y ends => ?_
      cases result with
      | ok result => exact .inr ends
      | error failure => trivial

end Cycle

end SyncApp
