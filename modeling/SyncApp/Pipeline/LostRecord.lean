import SyncApp.Pipeline.ForeignWriter

/-!
# A push and its record

A push and the record of its baseline are two actions, on Repo B and in the database. Nothing reads
what was pushed back into the record later: where the first landed and the second did not happen, the
next cycle compares the old baseline with the pushed commit and calls its own work a divergence.

As long as nothing goes wrong between the two, the record is Repo B's `main` whenever the service is
at rest. Before the push everything may fail.
-/

set_option autoImplicit false

namespace SyncApp

open Lib Raising Lane

/-! ## Nobody else writes -/

/-- Nobody else writes to Repo B's `main`, renames Repo B, or writes to the workspace of a cycle. -/
structure NoOtherWriter (s t : System) : Prop extends Others s t where
  main : t.main = s.main
  named : t.remote.fullName = s.remote.fullName
  numbered : t.remote.repositoryId = s.remote.repositoryId
  workspace : t.workspaceContent = s.workspaceContent

theorem NoOtherWriter.refl (s : System) : NoOtherWriter s s := ⟨.refl s, rfl, rfl, rfl, rfl⟩

theorem NoOtherWriter.trans (r s t : System) (first : NoOtherWriter r s)
    (second : NoOtherWriter s t) : NoOtherWriter r t :=
  ⟨first.toOthers.trans second.toOthers, second.main.trans first.main,
    second.named.trans first.named, second.numbered.trans first.numbered,
    second.workspace.trans first.workspace⟩

section

variable (target : PyStr)

/-- The stored baseline is Repo B's `main`. -/
def UpToDate (s : System) : Prop := s.main = s.stored target

instance (s : System) : Decidable (UpToDate target s) :=
  inferInstanceAs (Decidable (s.main = s.stored target))

/-- While a pushed commit is not recorded, no call outside fails. -/
def Undisturbed (s : System) : Prop := ¬UpToDate target s → s.fault = none

/-- Others, while no pushed commit is disturbed. -/
abbrev Alone : System → System → Prop := Prog.calmly NoOtherWriter (Undisturbed target)

/-- A lane may raise only where nothing is left to record. -/
def Harmless (s : System) : Prop := Undisturbed target s → UpToDate target s

end

/-- The baselines, Repo B's `main` and the workspace are as they were. -/
structure Still (s t : System) : Prop where
  baselines : t.store.baselines = s.store.baselines
  bound : t.store.repositoryId = s.store.repositoryId
  main : t.main = s.main
  named : t.remote.fullName = s.remote.fullName
  numbered : t.remote.repositoryId = s.remote.repositoryId
  workspace : t.workspaceContent = s.workspaceContent

section Alone

variable {target : PyStr} {s t : System}

theorem Still.refl (s : System) : Still s s := ⟨rfl, rfl, rfl, rfl, rfl, rfl⟩

theorem Still.trans {r s t : System} (first : Still r s) (second : Still s t) : Still r t :=
  ⟨second.baselines.trans first.baselines, second.bound.trans first.bound,
    second.main.trans first.main, second.named.trans first.named,
    second.numbered.trans first.numbered, second.workspace.trans first.workspace⟩

theorem Still.of_alone (moved : Alone target s t) : Still s t :=
  ⟨moved.2.1.baselines, moved.2.1.bound, moved.2.1.main, moved.2.1.named, moved.2.1.numbered,
    moved.2.1.workspace⟩

/-- What is seen is added to the events only. -/
theorem Still.record (still : Still s t) (event : Event) : Still s (t.record event) :=
  ⟨still.baselines, still.bound, still.main, still.named, still.numbered, still.workspace⟩

theorem Still.stored (still : Still s t) (target : PyStr) :
    t.store.synchronizationBaseline target mainBranch =
      s.store.synchronizationBaseline target mainBranch := by
  unfold Store.synchronizationBaseline
  rw [still.baselines]

theorem Still.upToDate (still : Still s t) (recorded : UpToDate target s) : UpToDate target t := by
  unfold UpToDate System.stored
  rw [still.main, still.stored]
  exact recorded

theorem Harmless.of_recorded (recorded : UpToDate target s) : Harmless target s := fun _ => recorded

/-- While a call fails, there is nothing left to record. -/
theorem Undisturbed.upToDate (undisturbed : Undisturbed target s) {failure : Failure}
    (fault : s.fault = some failure) : UpToDate target s := by
  by_contra unrecorded
  exact nomatch fault.symm.trans (undisturbed unrecorded)

/-- A call outside, which raises of itself only where nothing is left to record. -/
theorem alone_outside {α : Type} {call : System → Except Failure (α × System)}
    {post : α → System → Prop}
    (done : ∀ t a u, Alone target s t → call t = .ok (a, u) → post a u)
    (fails : ∀ t failure, Alone target s t → call t = .error failure → UpToDate target t) :
    Ensures (Alone target) (fun _ _ => True) (outside call) (ends (Harmless target) post) s := by
  refine Ensures.action fun t moved => ⟨trivial, ?_⟩
  cases fault : t.fault with
  | some failure => exact fun undisturbed => undisturbed.upToDate fault
  | none =>
    cases called : call t with
    | ok result => exact done t result.1 result.2 moved called
    | error failure => exact .of_recorded (fails t failure moved called)

theorem alone_query {α : Type} {read : Store → α} :
    Ensures (Alone target) (fun _ _ => True) (query fun store => .ok (read store))
      (ends (Harmless target) fun a t => a = read t.store ∧ Still s t) s :=
  ensures_query fun _ moved => ⟨trivial, rfl, .of_alone moved⟩

theorem alone_clock : Ensures (Alone target) (fun _ _ => True) clock
    (ends (Harmless target) fun _ t => Still s t) s :=
  ensures_clock fun _ moved => ⟨trivial, .of_alone moved⟩

/-- The workspace holds what it held. -/
theorem alone_reprove :
    Ensures (Alone target) (fun _ _ => True) (reproveSnapshot s.workspaceContent)
      (ends (Harmless target) fun _ t => Still s t) s := by
  refine alone_outside (fun t a u moved called => ?_) fun t failure moved called => ?_
  · rw [if_pos moved.2.1.workspace] at called
    cases called
    exact (Still.of_alone moved).record _
  · rw [if_pos moved.2.1.workspace] at called
    cases called

/-- What the identity of a repository is proved against. -/
def RemoteRepository.Is (remote : RemoteRepository) (name : PyStr) (id : Int) : Prop :=
  casefoldTarget remote.fullName = casefoldTarget name ∧ remote.repositoryId = id

theorem RemoteRepository.Is.head {remote : RemoteRepository} {name : PyStr} {id : Int}
    (same : remote.Is name id) (branch : PyStr) : remote.head name id branch =
      .ok ⟨remote.fullName, remote.repositoryId, branch, remote.branches branch⟩ := by
  unfold RemoteRepository.head
  rw [if_neg (not_not.mpr same.1), if_neg (not_not.mpr same.2)]

theorem RemoteRepository.head_ok {remote : RemoteRepository} {name branch : PyStr} {id : Int}
    {seen : BranchHead} (found : remote.head name id branch = .ok seen) : remote.Is name id := by
  unfold RemoteRepository.head at found
  split at found
  · cases found
  next named =>
    split at found
    · cases found
    next numbered => exact ⟨not_not.mp named, not_not.mp numbered⟩

theorem Still.is {name : PyStr} {id : Int} (still : Still s t) (same : s.remote.Is name id) :
    t.remote.Is name id :=
  ⟨(congrArg casefoldTarget still.named).trans same.1, still.numbered.trans same.2⟩

theorem Still.was {name : PyStr} {id : Int} (still : Still s t) (same : t.remote.Is name id) :
    s.remote.Is name id :=
  ⟨(congrArg casefoldTarget still.named).symm.trans same.1, still.numbered.symm.trans same.2⟩

/-- `main` as it is, in a repository of the given name. -/
def System.read (system : System) (name : PyStr) : BranchHead :=
  ⟨name, system.remote.repositoryId, mainBranch, system.main⟩

theorem Still.read (still : Still s t) (name : PyStr) : t.read name = s.read name := by
  unfold System.read
  rw [still.main, still.numbered]

/-- An observation of `main`, in the repository that is expected. -/
structure Observes (name : PyStr) (id : Int) (s : System) (seen : BranchHead) (t : System) :
    Prop where
  still : Still s t
  same : s.remote.Is name id
  seen : seen = s.read name

theorem alone_fetchOptional {name branch : PyStr} {id : Int} (main : branch = mainBranch)
    (named : s.remote.fullName = name) (same : s.remote.Is name id ∨ UpToDate target s) :
    Ensures (Alone target) (fun _ _ => True) (fetchOptionalTrustedBranchHead name id branch)
      (ends (Harmless target) (Observes name id s)) s := by
  subst main
  refine alone_outside (fun t seen u moved called => ?_) fun t failure moved called => ?_
  · have still := Still.of_alone moved
    cases found : t.remote.head name id mainBranch with
    | error failure => rw [found] at called; cases called
    | ok head =>
      have identity := RemoteRepository.head_ok found
      rw [identity.head mainBranch] at called
      cases called
      refine ⟨still.record _, still.was identity, ?_⟩
      rw [← still.read, ← named, ← still.named]
      rfl
  · have still := Still.of_alone moved
    rcases same with same | recorded
    · rw [(still.is same).head mainBranch] at called
      cases called
    · exact still.upToDate recorded

theorem alone_observeBranch {name branch : PyStr} {id : Int} (main : branch = mainBranch)
    (same : s.remote.Is name id ∨ UpToDate target s) :
    Ensures (Alone target) (fun _ _ => True) (observeBranch name id branch)
      (ends (Harmless target) (Observes name id s)) s := by
  subst main
  refine alone_outside (fun t seen u moved called => ?_) fun t failure moved called => ?_
  · have still := Still.of_alone moved
    cases found : t.remote.head name id mainBranch with
    | error failure => rw [found] at called; cases called
    | ok head =>
      have identity := RemoteRepository.head_ok found
      rw [identity.head mainBranch] at called
      cases called
      refine ⟨still.record _, still.was identity, ?_⟩
      rw [← still.read]
      rfl
  · have still := Still.of_alone moved
    rcases same with same | recorded
    · rw [(still.is same).head mainBranch] at called
      cases called
    · exact still.upToDate recorded

/-- A `main` that is there is read by `fetch_trusted_branch_head` too. -/
theorem alone_fetchTrusted {name branch : PyStr} {id : Int} (main : branch = mainBranch)
    (named : s.remote.fullName = name) (same : s.remote.Is name id)
    (present : s.main.isSome = true) :
    Ensures (Alone target) (fun _ _ => True) (fetchTrustedBranchHead name id branch)
      (ends (Harmless target) (Observes name id s)) s := by
  refine ensures_ends_bind (alone_fetchOptional main named (.inl same)) fun seen t observed => ?_
  refine ensures_ends_given (fun _ => observed) fun absent => ?_
  rw [observed.seen] at absent
  exact absurd present absent

/-! ## After the push -/

/-- An intent for `main` of the repository that is bound to its target. -/
structure Authorized (intent : PublicationIntent) (s : System) : Prop where
  main : intent.branch = mainBranch
  same : s.remote.Is intent.target intent.repositoryId
  bound : s.store.repositoryId intent.target = some intent.repositoryId

theorem Authorized.still {intent : PublicationIntent} (authorized : Authorized intent s)
    (still : Still s t) : Authorized intent t :=
  ⟨authorized.main, still.is authorized.same, (congrFun still.bound _).trans authorized.bound⟩

/-- A push has landed and is not recorded yet. -/
structure Pending (intent : PublicationIntent) (id : Digest) (s : System) : Prop
    extends Authorized intent s where
  landed : s.main = some intent.localCommitSha
  workspace : s.workspaceContent = id

theorem Pending.still {intent : PublicationIntent} {id : Digest} (pending : Pending intent id s)
    (still : Still s t) : Pending intent id t :=
  ⟨pending.toAuthorized.still still, still.main.trans pending.landed,
    still.workspace.trans pending.workspace⟩

theorem Pending.present {intent : PublicationIntent} {id : Digest} (pending : Pending intent id s) :
    s.main.isSome = true := Option.isSome_of_eq_some pending.landed

/-- The record of a push that landed. -/
theorem alone_recordVerifiedPublication {intent : PublicationIntent} {id : Digest}
    {seen : BranchHead} (pending : Pending intent id s) (read : seen = s.read intent.target) :
    Ensures (Alone target) (fun _ _ => True) (recordVerifiedPublication intent id seen)
      (ends (Harmless target) fun _ t => intent.target = target → UpToDate target t) s := by
  subst read
  have at_main : (s.read intent.target).commitSha = some intent.localCommitSha := pending.landed
  have same_id : intent.repositoryId = (s.read intent.target).repositoryId := pending.same.2.symm
  refine ensures_ends_given (fun _ => ?_) fun broken => absurd ⟨⟨?_, same_id, ?_⟩, at_main⟩ broken
  · rw [← pending.workspace]
    refine ensures_ends_bind alone_reprove fun _ t still => ?_
    refine ensures_ends_bind (m := fun _ u => Still s u)
      (alone_clock.mono fun result u held => ?_) fun now u still => ?_
    · cases result with
      | ok _ => exact still.trans held
      | error _ => exact held
    refine ensures_transaction (fun v row store moved changed => ⟨trivial, fun named => ?_⟩)
      fun v failure moved changed => ⟨trivial, ?_⟩
    · split at changed
      · cases changed
      cases changed
      have landed : v.main = some intent.localCommitSha :=
        (pending.still (still.trans (.of_alone moved))).landed
      refine landed.trans ?_
      show some _ = Option.map _ _
      simp [Store.synchronizationBaseline, Store.recordSynchronizationBaseline, System.read, named]
    · have bound : v.store.repositoryId (s.read intent.target).target =
          some (s.read intent.target).repositoryId :=
        (pending.still (still.trans (.of_alone moved))).bound.trans (congrArg some same_id)
      rw [if_neg (not_not.mpr bound)] at changed
      cases changed
  · rfl
  · exact pending.main

/-- The record of a push, on the head that was read after it. -/
theorem alone_recordObserved {intent : PublicationIntent} {id : Digest} {seen : BranchHead}
    (pending : Pending intent id s) (configured : intent.target = target)
    (observed : Observes intent.target intent.repositoryId s seen t) :
    Ensures (Alone target) (fun _ _ => True) (recordVerifiedPublication intent id seen)
      (ends (Harmless target) fun _ u => UpToDate target u) t := by
  have read : seen = t.read intent.target := observed.seen.trans (observed.still.read _).symm
  refine (alone_recordVerifiedPublication (pending.still observed.still) read).mono
    fun result u held => ?_
  cases result with
  | ok _ => exact held configured
  | error _ => exact held

/-- A push from where nothing is left to record. -/
theorem alone_pushBranch (git : Git) {intent : PublicationIntent} {id : Digest}
    (authorized : Authorized intent s) (workspace : s.workspaceContent = id)
    (recorded : UpToDate target s) :
    Ensures (Alone target) (fun _ _ => True) (pushBranch git intent.branch intent.localCommitSha)
      (ends (Harmless target) fun _ t => Pending intent id t ∧
        t.remote.fullName = s.remote.fullName) s := by
  refine ensures_request (fun t a u moved _ pushed => ⟨trivial, ?_⟩)
    (fun t a u failure moved fault pushed => ⟨trivial, fun undisturbed => ?_⟩)
    fun t failure moved => ⟨trivial, .of_recorded ((Still.of_alone moved).upToDate recorded)⟩
  · have still := Still.of_alone moved
    obtain ⟨main, same, bound⟩ := authorized.still still
    dsimp only at pushed
    split at pushed
    · cases pushed
      refine ⟨⟨⟨main, same, bound⟩, ?_, still.workspace.trans workspace⟩, still.named⟩
      show (if mainBranch = intent.branch then _ else _) = _
      rw [if_pos main.symm]
    · cases pushed
  · -- the reply is lost while a fault is set, so a landed push leaves nothing to record
    dsimp only at pushed
    split at pushed
    · cases pushed
      exact undisturbed.upToDate fault
    · cases pushed

theorem alone_pushPublicationIntent (git : Git) {intent : PublicationIntent} {before : BranchHead}
    (authorized : Authorized intent s) (recorded : UpToDate target s) :
    Ensures (Alone target) (fun _ _ => True)
      (pushPublicationIntent git s.workspaceContent intent before)
      (ends (Harmless target) fun _ t => Pending intent s.workspaceContent t ∧
        t.remote.fullName = s.remote.fullName) s := by
  have harmless : Harmless target s := .of_recorded recorded
  refine ensures_ends_given (fun _ => ?_) fun _ => harmless
  refine ensures_ends_given (fun _ => ?_) fun _ => harmless
  refine ensures_ends_bind alone_reprove fun _ t still => ?_
  refine ensures_ends_bind (alone_pushBranch git (authorized.still still) still.workspace
    (still.upToDate recorded)) fun _ u pushed => ?_
  obtain ⟨pending, named⟩ := pushed
  rw [← pending.workspace]
  refine alone_reprove.mono fun result v held => ?_
  cases result with
  | ok _ =>
    exact ⟨(pending.workspace ▸ pending).still held, held.named.trans (named.trans still.named)⟩
  | error _ => exact held

theorem alone_pushWithDeployKey (git : Git) {intent : PublicationIntent}
    (authorized : Authorized intent s) (recorded : UpToDate target s) :
    Ensures (Alone target) (fun _ _ => True)
      (pushPublicationIntentWithDeployKey git s.workspaceContent intent)
      (ends (Harmless target) fun _ t => Pending intent s.workspaceContent t) s := by
  refine ensures_ends_bind (alone_observeBranch authorized.main (.inr recorded))
    fun before t observed => ?_
  have still := observed.still
  rw [← still.workspace]
  refine ensures_ends_bind (alone_pushPublicationIntent git (authorized.still still)
    (still.upToDate recorded)) fun _ u pushed => ?_
  obtain ⟨pending, -⟩ := pushed
  refine ensures_ends_bind (alone_observeBranch pending.main (.inl pending.same))
    fun after v observed => ?_
  have read : after.commitSha = some intent.localCommitSha := by
    rw [observed.seen]
    exact pending.landed
  unfold validateAfterPublication
  rw [if_pos read]
  exact pending.still observed.still

/-- **A publication from where nothing is left to record ends there**, whichever way it ends. -/
theorem alone_completePublication (git : Git) (credential : PublicationCredential)
    {intent : PublicationIntent} (authorized : Authorized intent s)
    (configured : intent.target = target)
    (named : credential = .token → s.remote.fullName = intent.target)
    (recorded : UpToDate target s) :
    Ensures (Alone target) (fun _ _ => True)
      (completePublication git credential s.workspaceContent intent)
      (ends (Harmless target) fun _ t => UpToDate target t) s := by
  cases credential with
  | token =>
    refine ensures_ends_bind (alone_fetchOptional authorized.main (named rfl) (.inr recorded))
      fun before t observed => ?_
    have still := observed.still
    rw [← still.workspace]
    refine ensures_ends_bind (alone_pushPublicationIntent git (authorized.still still)
      (still.upToDate recorded)) fun _ u pushed => ?_
    obtain ⟨pending, unnamed⟩ := pushed
    refine ensures_ends_bind (alone_fetchTrusted pending.main
      (unnamed.trans (still.named.trans (named rfl))) pending.same pending.present)
      fun after v observed => ?_
    exact alone_recordObserved pending configured observed
  | deployKey =>
    refine ensures_ends_bind (alone_observeBranch authorized.main (.inr recorded))
      fun _ t observed => ?_
    have still := observed.still
    rw [← still.workspace]
    refine ensures_ends_bind (alone_pushWithDeployKey git (authorized.still still)
      (still.upToDate recorded)) fun _ u pending => ?_
    refine ensures_ends_bind (alone_observeBranch pending.main (.inl pending.same))
      fun after v observed => ?_
    refine ensures_ends_given (fun _ => alone_recordObserved pending configured observed)
      fun absent => absurd ?_ absent
    rw [observed.seen]
    exact pending.present

/-! ## The cycle -/

/-- A look that raises where it likes, while nothing is left to record. -/
theorem alone_look {α : Type} {call : System → Except Failure (α × System)}
    (recorded : UpToDate target s)
    (looks : ∀ t a u, call t = .ok (a, u) → Still t u) :
    Ensures (Alone target) (fun _ _ => True) (outside call)
      (ends (Harmless target) fun _ t => Still s t) s :=
  alone_outside (fun t a u moved called => (Still.of_alone moved).trans (looks t a u called))
    fun _ _ moved _ => (Still.of_alone moved).upToDate recorded

theorem alone_createWorkspaceCommit (git : Git) {source : LocalSource} {head : Option ObjectId}
    (recorded : UpToDate target s) (prepared : s.workspaceContent = source.snapshotId) :
    Ensures (Alone target) (fun _ _ => True) (createWorkspaceCommit git source head)
      (ends (Harmless target) fun _ t => Still s t) s := by
  unfold createWorkspaceCommit
  rw [← prepared]
  refine ensures_ends_bind alone_reprove fun _ t still => ?_
  refine ensures_ends_bind (m := fun _ u => Still s u)
    ((alone_look (still.upToDate recorded) fun u made v called => ?_).mono fun result u held => ?_)
    fun made u still => ?_
  · cases called
    exact .refl u
  · cases result with
    | ok _ => exact still.trans held
    | error _ => exact held
  rw [← still.workspace]
  refine ensures_ends_bind (m := fun _ v => Still u v) alone_reprove fun _ v again => ?_
  exact still.trans again

theorem alone_buildPublicationIntent (git : Git) {preflight : PublicationPreflight}
    (recorded : UpToDate target s) :
    Ensures (Alone target) (fun _ _ => True)
      (buildPublicationIntent git s.workspaceContent preflight)
      (ends (Harmless target) fun intent t => Still s t ∧ intent.target = preflight.target ∧
        intent.repositoryId = preflight.repositoryId ∧ intent.branch = preflight.branch) s := by
  have harmless : Harmless target s := .of_recorded recorded
  have proofs : ∀ ancestor commitSha, Ensures (Alone target) (fun _ _ => True)
      (do
        reproveSnapshot s.workspaceContent
        verifyFastForwardAncestry git ancestor commitSha
        return (⟨preflight.target, preflight.repositoryId, preflight.branch,
          preflight.localCommitSha, preflight.remoteCommitSha⟩ : PublicationIntent))
      (ends (Harmless target) fun intent t => Still s t ∧ intent.target = preflight.target ∧
        intent.repositoryId = preflight.repositoryId ∧ intent.branch = preflight.branch) s := by
    intro ancestor commitSha
    refine ensures_ends_bind alone_reprove fun _ t still => ?_
    refine ensures_ends_bind (alone_look (still.upToDate recorded) fun u result v called => ?_)
      fun _ u again => ⟨still.trans again, rfl, rfl, rfl⟩
    split at called
    next =>
      cases called
      exact .refl u
    next => cases called
  unfold buildPublicationIntent
  dsimp only
  split
  next => exact ensures_ends_given (fun _ => proofs _ _) fun _ => harmless
  next => exact harmless
  next => exact proofs _ _
  next => exact harmless
  next => exact harmless

/-- A head of the configured repository's `main`. -/
structure Trusted (target : PyStr) (s : System) (remote : BranchHead) : Prop where
  named : remote.target = target
  same : s.remote.Is target remote.repositoryId
  bound : s.store.repositoryId target = some remote.repositoryId
  at_main : remote.branch = mainBranch

theorem Trusted.still {remote : BranchHead} (trusted : Trusted target s remote) (still : Still s t) :
    Trusted target t remote :=
  ⟨trusted.named, still.is trusted.same, (congrFun still.bound _).trans trusted.bound,
    trusted.at_main⟩

theorem alone_publishLocalCommit (git : Git) (credential : PublicationCredential) {id : Int}
    {source : LocalSource} {remote : BranchHead} {baseline : Option SynchronizationBaseline}
    {localCommitSha : ObjectId} (recorded : UpToDate target s)
    (prepared : s.workspaceContent = source.snapshotId) (trusted : Trusted target s remote)
    (named : credential = .token → s.remote.fullName = target) :
    Ensures (Alone target) (fun _ _ => True)
      (publishLocalCommit git credential id source remote baseline localCommitSha)
      (ends (Harmless target) fun result t =>
        UpToDate target t ∧ result.disposition.succeeds = true) s := by
  have harmless : Harmless target s := .of_recorded recorded
  refine ensures_ends_bind (m := fun preflight t => t = s ∧
    assessPublicationPreflight localCommitSha remote baseline = .ok preflight)
    (ensures_ends_ofResult (fun preflight assessed => ⟨rfl, ?_⟩) fun _ _ => harmless)
    fun preflight t held => ?_
  · cases result : assessPublicationPreflight localCommitSha remote baseline with
    | ok _ => rw [result] at assessed; exact assessed
    | error _ => rw [result] at assessed; cases assessed
  obtain ⟨rfl, assessed⟩ := held
  refine ensures_ends_given (fun _ => ?_) fun _ => harmless
  obtain ⟨same_target, same_id, same_branch, -, -⟩ := assess_evidence assessed
  rw [← prepared]
  refine ensures_ends_bind (ensures_ends_rethrow (alone_buildPublicationIntent git recorded))
    fun intent u built => ?_
  obtain ⟨still, intent_target, intent_id, intent_branch⟩ := built
  have configured : intent.target = target := intent_target.trans (same_target.trans trusted.named)
  have authorized : Authorized intent u := by
    refine ⟨intent_branch.trans (same_branch.trans trusted.at_main), ?_, ?_⟩
    · rw [configured, intent_id, same_id]
      exact still.is trusted.same
    · rw [configured, intent_id, same_id]
      exact (trusted.still still).bound
  rw [← still.workspace]
  refine ensures_ends_bind (ensures_ends_rethrow (alone_completePublication git credential
    authorized configured
    (fun token => still.named.trans ((named token).trans configured.symm))
    (still.upToDate recorded))) fun row v done => ⟨done, ?_⟩
  show LocalSyncDisposition.succeeds (if _ then _ else _) = true
  split
  · rfl
  · rfl

theorem alone_commitAndPublish (git : Git) (credential : PublicationCredential) {id : Int}
    {source : LocalSource} {remote : BranchHead} {baseline : Option SynchronizationBaseline}
    (recorded : UpToDate target s) (prepared : s.workspaceContent = source.snapshotId)
    (trusted : Trusted target s remote)
    (named : credential = .token → s.remote.fullName = target) (t : System) (still : Still s t) :
    Ensures (Alone target) (fun _ _ => True)
      (commitAndPublish git credential id source remote baseline)
      (ends (Harmless target) fun result t =>
        UpToDate target t ∧ result.disposition.succeeds = true) t := by
  refine ensures_ends_bind (ensures_ends_rethrow (alone_createWorkspaceCommit git
    (still.upToDate recorded) (still.workspace.trans prepared))) fun made u again => ?_
  have unmoved : Still s u := still.trans again
  cases made with
  | none =>
    exact ensures_ends_given (fun _ => ⟨unmoved.upToDate recorded, rfl⟩)
      fun _ => .of_recorded (unmoved.upToDate recorded)
  | some localCommitSha =>
    exact alone_publishLocalCommit git credential (unmoved.upToDate recorded)
      (unmoved.workspace.trans prepared) (trusted.still unmoved)
      fun token => unmoved.named.trans (named token)

theorem alone_synchronizeAgreed (git : Git) (credential : PublicationCredential) {id : Int}
    {source : LocalSource} {remote : BranchHead} {baseline : Option SynchronizationBaseline}
    (recorded : UpToDate target s) (prepared : s.workspaceContent = source.snapshotId)
    (trusted : Trusted target s remote)
    (named : credential = .token → s.remote.fullName = target) :
    Ensures (Alone target) (fun _ _ => True)
      (synchronizeAgreed git credential id source remote baseline)
      (ends (Harmless target) fun result t =>
        UpToDate target t ∧ result.disposition.succeeds = true) s := by
  unfold synchronizeAgreed
  split
  next =>
    refine ensures_ends_bind (ensures_ends_rethrow (alone_look recorded fun t result u called => ?_))
      fun _ t still =>
        alone_commitAndPublish git credential recorded prepared trusted named t still
    split at called
    next =>
      cases called
      exact .refl t
    next => cases called
  next => exact alone_commitAndPublish git credential recorded prepared trusted named s (.refl s)

/-- **A cycle from where nothing is left to record succeeds or raises, and ends there.** -/
theorem alone_synchronize (git : Git) (capture : FileSystem PyStr → LocalSource)
    (credential : PublicationCredential) (branch : PyStr) (recorded : UpToDate target s)
    (named : credential = .token → s.remote.fullName = target) :
    Ensures (Alone target) (fun _ _ => True)
      (synchronizeLocalConfiguration git capture credential target branch)
      (ends (Harmless target) fun result t =>
        UpToDate target t ∧ result.disposition.succeeds = true) s := by
  refine ensures_ends_given (fun main => ?_) fun _ => .of_recorded recorded
  subst main
  refine ensures_ends_bind alone_query fun bound t held => ?_
  obtain ⟨rfl, still⟩ := held
  cases pinned : t.store.repositoryId target with
  | none => exact Harmless.of_recorded (still.upToDate recorded)
  | some id =>
    refine ensures_ends_bind (m := fun source u => UpToDate target u ∧
        u.store.repositoryId target = some id ∧ u.remote.fullName = s.remote.fullName ∧
        u.workspaceContent = source.snapshotId)
      (ensures_ends_rethrow (alone_outside (fun u source v moved called => ?_)
        fun u failure moved _ => (still.trans (.of_alone moved)).upToDate recorded))
      fun source u prepared => ?_
    · cases called
      have again := Still.of_alone moved
      exact ⟨(still.trans again).upToDate recorded, (congrFun again.bound target).trans pinned,
        again.named.trans still.named, rfl⟩
    obtain ⟨held, bound, unnamed, content⟩ := prepared
    refine ensures_ends_bind (m := fun seen v => Observes target id u seen v)
      (ensures_ends_rethrow ?_) fun seen v observed => ?_
    · cases credential with
      | token => exact alone_fetchOptional rfl (unnamed.trans (named rfl)) (.inr held)
      | deployKey => exact alone_observeBranch rfl (.inr held)
    refine ensures_ends_bind alone_query fun baseline w found => ?_
    obtain ⟨rfl, again⟩ := found
    have unmoved : Still u w := observed.still.trans again
    refine ensures_ends_bind (m := fun refusal x => x = w ∧
        classifyPreCommitRefusal target id mainBranch source.snapshotId seen
          (w.store.synchronizationBaseline target mainBranch) = .ok refusal)
      (ensures_ends_ofResult (fun _ classified => ⟨rfl, classified⟩)
        fun _ _ => .of_recorded (unmoved.upToDate held)) fun refusal x classified => ?_
    obtain ⟨rfl, classified⟩ := classified
    have seen_id : id = seen.repositoryId := by
      rw [observed.seen]
      exact observed.same.2.symm
    cases refusal with
    | some refusal =>
      -- what is stored is what is there
      obtain ⟨-, differs⟩ := classify_some classified
      refine absurd ?_ differs
      rw [observed.seen, unmoved.stored]
      exact held.symm
    | none =>
      refine alone_synchronizeAgreed git credential (unmoved.upToDate held)
        (unmoved.workspace.trans content) ⟨?_, ?_, ?_, ?_⟩
        fun token => unmoved.named.trans (unnamed.trans (named token))
      · rw [observed.seen]
        rfl
      · rw [← seen_id]
        exact unmoved.is observed.same
      · rw [← seen_id]
        exact (congrFun unmoved.bound target).trans bound
      · rw [observed.seen]
        rfl

/-! ## The passes -/

/-- Where a pass stands before its cycle: nothing is left to record, and a token finds Repo B under
the name that is configured. -/
structure Ready (credential : PublicationCredential) (target : PyStr) (s : System) : Prop where
  recorded : UpToDate target s
  named : credential = .token → s.remote.fullName = target

section Passes

variable {git : Git} {capture : FileSystem PyStr → LocalSource}
  {credential : PublicationCredential} {branch : PyStr} {item : WorkItem}

theorem Ready.others (ready : Ready credential target s) (moved : Alone target s t) :
    Ready credential target t :=
  ⟨(Still.of_alone moved).upToDate ready.recorded,
    fun token => moved.2.1.named.trans (ready.named token)⟩

theorem Ready.work (ready : Ready credential target s) {store : Store}
    (onlyWork : ∃ work, store = { s.store with work := work }) :
    Ready credential target { s with store := store } := by
  obtain ⟨work, rfl⟩ := onlyWork
  exact ⟨ready.recorded, ready.named⟩

theorem Ready.harmless (ready : Ready credential target s) : Harmless target s :=
  fun _ => ready.recorded

theorem alone_now (ready : Ready credential target s) :
    Ensures (Alone target) (fun _ _ => True) clock
      (ends (Harmless target) fun _ t => Ready credential target t) s :=
  ensures_clock fun _ moved => ⟨trivial, ready.others moved⟩

/-- A transaction on the queue. -/
theorem alone_work {α : Type} {change : Store → Except Failure (α × Store)}
    (onlyWork : OnlyWork change) (ready : Ready credential target s) :
    Ensures (Alone target) (fun _ _ => True) (transaction change)
      (ends (Harmless target) fun _ t => Ready credential target t) s :=
  ensures_transaction
    (fun t a store moved changed => ⟨trivial, (ready.others moved).work
      (onlyWork t.store a store changed)⟩)
    fun _ _ moved _ => ⟨trivial, (ready.others moved).harmless⟩

/-- A transaction on the queue, after a cycle. -/
theorem alone_settle {α : Type} {change : Store → Except Failure (α × Store)}
    (onlyWork : OnlyWork change) (recorded : UpToDate target s) :
    Ensures (Alone target) (fun _ _ => True) (transaction change)
      (ends (Harmless target) fun _ t => UpToDate target t) s := by
  refine ensures_transaction (fun t a store moved changed => ⟨trivial, ?_⟩)
    fun _ _ moved _ => ⟨trivial, .of_recorded ((Still.of_alone moved).upToDate recorded)⟩
  obtain ⟨work, rfl⟩ := onlyWork t.store a store changed
  exact (Still.of_alone moved).upToDate recorded

theorem alone_executeClaimed (ready : Ready credential target s) :
    Ensures (Alone target) (fun _ _ => True)
      (executeClaimedLocalSyncWork git capture credential item target branch)
      (ends (Harmless target) fun result t => UpToDate target t ∧
        ∀ cycle, result.2 = some cycle → cycle.disposition.succeeds = true) s := by
  refine ensures_ends_given (fun _ => ?_) fun _ => ready.harmless
  refine ensures_ends_given (fun _ => ?_) fun _ => ready.harmless
  refine ensures_ends_bind (ensures_ends_attempt
    (alone_synchronize git capture credential branch ready.recorded ready.named))
    fun outcome t held => ?_
  refine ensures_ends_bind (m := fun _ u => UpToDate target u ∧
      ∀ cycle, outcome = .ok cycle → cycle.disposition.succeeds = true)
    (ensures_clock fun u moved => ⟨trivial, ?_⟩) fun now u settled => ?_
  · cases outcome with
    | ok cycle =>
      exact ⟨(Still.of_alone moved).upToDate held.1, fun _ same => Except.ok.inj same ▸ held.2⟩
    | error failure =>
      exact ⟨(Still.of_alone moved).upToDate (held moved.1), fun _ wrong => nomatch wrong⟩
  obtain ⟨recorded, succeeded⟩ := settled
  cases outcome with
  | error failure =>
    exact ensures_ends_bind (alone_settle (failWork_onlyWork _ _ _) recorded)
      fun _ v recorded => ⟨recorded, fun _ wrong => nomatch wrong⟩
  | ok cycle =>
    have done : ∀ (transitioned : WorkItem) (v : System), UpToDate target v →
        Ensures (Alone target) (fun _ _ => True) (pure (transitioned, some cycle))
          (ends (Harmless target) fun result t => UpToDate target t ∧
            ∀ cycle, result.2 = some cycle → cycle.disposition.succeeds = true) v :=
      fun _ v recorded => ⟨recorded, fun _ same => Option.some.inj same ▸ succeeded cycle rfl⟩
    dsimp only
    split
    · exact ensures_ends_bind (alone_settle (completeWork_onlyWork _ _) recorded) done
    · exact ensures_ends_bind (alone_settle (failWork_onlyWork _ _ _) recorded) done

theorem alone_runProcess (ready : Ready credential target s) :
    Ensures (Alone target) (fun _ _ => True)
      (runLocalSyncProcess git capture credential target branch)
      (ends (Harmless target) fun result t => UpToDate target t ∧ ∀ cycle,
        (result.bind fun pass => pass.2) = some cycle → cycle.disposition.succeeds = true) s := by
  refine ensures_ends_bind (alone_now ready) fun now t ready => ?_
  refine ensures_ends_bind (alone_work (claimWorkKind_onlyWork _ _) ready) fun item u ready => ?_
  cases item with
  | none => exact ⟨ready.recorded, fun _ wrong => nomatch wrong⟩
  | some item =>
    dsimp only
    split
    · refine ensures_ends_bind (alone_settle (failWork_onlyWork _ _ _) ready.recorded)
        fun _ v recorded => ?_
      exact ⟨recorded, fun _ wrong => nomatch wrong⟩
    · exact ensures_ends_bind (alone_executeClaimed ready) fun _ v done => done

theorem alone_runRetriggerPass (ready : Ready credential target s) :
    Ensures (Alone target) (fun _ _ => True)
      (runLocalSyncRetriggerPass git capture credential target branch)
      (ends (Harmless target) fun result t => UpToDate target t ∧ ∀ cycle,
        (result.bind fun pass => pass.2) = some cycle → cycle.disposition.succeeds = true) s := by
  refine ensures_ends_bind (alone_now ready) fun now t ready => ?_
  refine ensures_ends_bind (alone_work (recoverInterruptedWork_onlyWork _ _) ready)
    fun _ u ready => ?_
  refine ensures_ends_bind (alone_work (claimWorkKind_onlyWork _ _) ready) fun item v ready => ?_
  cases item with
  | none => exact ⟨ready.recorded, fun _ wrong => nomatch wrong⟩
  | some item => exact ensures_ends_bind (alone_executeClaimed ready) fun _ w done => done

theorem alone_schedule (recorded : UpToDate target s) :
    Ensures (Alone target) (fun _ _ => True) (scheduleLocalSyncGeneration target branch)
      (ends (Harmless target) fun _ t => UpToDate target t) s := by
  refine ensures_ends_bind (m := fun _ t => UpToDate target t)
    (ensures_clock fun t moved => ⟨trivial, (Still.of_alone moved).upToDate recorded⟩)
    fun now t recorded => alone_settle ?_ recorded
  intro store item changed scheduled
  dsimp only at scheduled
  split at scheduled
  · cases scheduled
    exact ⟨_, rfl⟩
  split at scheduled
  · split at scheduled
    · cases scheduled
    next updated =>
      cases scheduled
      exact Store.updateWork_onlyWork updated
  · cases scheduled
    exact ⟨store.work, rfl⟩

end Passes

end Alone

/-! ## Every run -/

section

variable (git : Git) (capture : FileSystem PyStr → LocalSource)
  (credential : PublicationCredential) (target : PyStr)

/-- The calls of local synchronization: a cycle by itself, the passes that claim work for one, and
the scheduling of work. -/
inductive LocalSyncCall : Lane (Option LocalSyncResult) → Prop where
  | cycle (branch : PyStr) : LocalSyncCall do
      return some (← synchronizeLocalConfiguration git capture credential target branch)
  | process (branch : PyStr) : LocalSyncCall do
      return (← runLocalSyncProcess git capture credential target branch).bind fun pass => pass.2
  | retrigger (branch : PyStr) : LocalSyncCall do
      return (← runLocalSyncRetriggerPass git capture credential target branch).bind
        fun pass => pass.2
  | schedule (branch : PyStr) : LocalSyncCall do
      let _ ← scheduleLocalSyncGeneration target branch
      return none

/-- They, as the calls of a service. -/
def localSyncCalls (call : Prog System (Except Failure (Option LocalSyncResult))) : Prop :=
  ∃ lane, LocalSyncCall git capture credential target lane ∧ call = lane.run

/-- A state in which nothing goes wrong between a push and its record: while a pushed commit is not
recorded no call outside fails, and a token finds Repo B under the name that is configured. -/
structure Calm (s : System) : Prop where
  undisturbed : Undisturbed target s
  named : credential = .token → s.remote.fullName = target

/-- Runs that are calm, in which no call breaks off between a push and its record. -/
abbrev CalmRun : Prog.Point System (Except Failure (Option LocalSyncResult)) →
    Prog.Point System (Except Failure (Option LocalSyncResult)) → Prop :=
  Relation.ReflTransGen (Prog.CalmMove NoOtherWriter (localSyncCalls git capture credential target)
    (Calm credential target) (UpToDate target))

end

section

variable {git : Git} {capture : FileSystem PyStr → LocalSource}
  {credential : PublicationCredential} {target : PyStr}

/-- What a call ends with: no cycle was refused. -/
def Unrefused (result : Except Failure (Option LocalSyncResult)) : Prop :=
  ∀ cycle, result = .ok (some cycle) → cycle.disposition.succeeds = true

theorem LocalSyncCall.ensures {lane : Lane (Option LocalSyncResult)}
    (call : LocalSyncCall git capture credential target lane) {s : System}
    (ready : Ready credential target s) :
    Ensures (Alone target) (fun _ _ => True) lane
      (ends (Harmless target) fun result t => UpToDate target t ∧ Unrefused (.ok result)) s := by
  cases call with
  | cycle branch =>
    exact ensures_ends_bind (alone_synchronize git capture credential branch ready.recorded
      ready.named) fun cycle t done => ⟨done.1, fun _ same => by cases same; exact done.2⟩
  | process branch =>
    exact ensures_ends_bind (alone_runProcess ready)
      fun _ t done => ⟨done.1, fun cycle same => done.2 cycle (Except.ok.inj same)⟩
  | retrigger branch =>
    exact ensures_ends_bind (alone_runRetriggerPass ready)
      fun _ t done => ⟨done.1, fun cycle same => done.2 cycle (Except.ok.inj same)⟩
  | schedule branch =>
    exact ensures_ends_bind (alone_schedule ready.recorded)
      fun _ t recorded => ⟨recorded, fun _ wrong => nomatch wrong⟩

theorem localSyncCalls_keep : Prog.CalmKeeps NoOtherWriter
    (localSyncCalls git capture credential target) (Calm credential target) (UpToDate target)
    Unrefused where
  refl := .refl
  trans := .trans
  others := fun _ _ recorded moved =>
    (Still.of_alone ⟨moved.1.undisturbed, moved.2.1, moved.2.2.undisturbed⟩).upToDate recorded
  safe := by
    rintro call ⟨lane, known, rfl⟩ s calm recorded
    have ensured := known.ensures ⟨recorded, calm.named⟩
    refine Prog.Safe.mono (Prog.Safe.among_fewer ensured fun s t moved =>
      ⟨moved.1.undisturbed, moved.2.1, moved.2.2.undisturbed⟩) fun result t held calm => ?_
    cases result with
    | ok cycle => exact held
    | error failure => exact ⟨held calm.undisturbed, fun _ wrong => nomatch wrong⟩

/-- **Nothing is lost in a calm run**: at rest the stored baseline is Repo B's `main`, and no cycle
was refused as diverged or for want of a baseline. -/
theorem calm_run_recorded {s : System}
    {here : Prog.Point System (Except Failure (Option LocalSyncResult))}
    (calm : Calm credential target s) (recorded : UpToDate target s)
    (run : CalmRun git capture credential target (.rest s) here) :
    (∀ t, here = .rest t → UpToDate target t) ∧
    ∀ cycle t, here = .call (.done (.ok (some cycle))) t →
      cycle.disposition ≠ .diverged ∧ cycle.disposition ≠ .baselineRequired := by
  have kept := localSyncCalls_keep.reach (.rest s calm recorded) run
  refine ⟨fun t at_rest => ?_, fun cycle t ended => ?_⟩
  · subst at_rest
    exact kept.inv_rest
  · subst ended
    have succeeded := kept.result cycle rfl
    constructor <;> (intro refused; rw [refused] at succeeded; cases succeeded)

end

/-! ## A crash after the push -/

/-- A cycle of `synchronizedHome`, as a call of the service. -/
def homeCall : Prog System (Except Failure (Option LocalSyncResult)) :=
  ExceptT.run do
    return some (← synchronizeLocalConfiguration threeCommits (fun _ => oneFile) .token homeTarget
      mainBranch)

theorem homeCall_known :
    localSyncCalls threeCommits (fun _ => oneFile) .token homeTarget homeCall :=
  ⟨_, .cycle mainBranch, rfl⟩

/-- The first commit is stored and Repo B's `main`, so nothing is left to record. -/
theorem synchronizedHome_recorded : UpToDate homeTarget synchronizedHome := by decide

/-- The law, along a cycle that publishes the second commit. -/
theorem calm_run_recorded_published :
    UpToDate homeTarget (homeCall.advance 18 synchronizedHome).2 ∧
      (homeCall.advance 18 synchronizedHome).2.main = some secondCommit := by
  have calm : ∀ k, k ≤ 18 → Calm .token homeTarget (homeCall.advance k synchronizedHome).2 := by
    have still : ∀ k, k ≤ 18 → (homeCall.advance k synchronizedHome).2.fault = none ∧
        (homeCall.advance k synchronizedHome).2.remote.fullName = homeTarget := by decide
    exact fun k below => ⟨fun _ => (still k below).1, fun _ => (still k below).2⟩
  have ended : ∃ result, (homeCall.advance 18 synchronizedHome).1 = .done result :=
    match found : (homeCall.advance 18 synchronizedHome).1.result? with
    | some result => ⟨result, Prog.eq_done found⟩
    | none => absurd found (by decide)
  obtain ⟨result, ended⟩ := ended
  have run : CalmRun threeCommits (fun _ => oneFile) .token homeTarget (.rest synchronizedHome)
      (.call (.done result) (homeCall.advance 18 synchronizedHome).2) := by
    rw [← ended]
    exact .head ⟨.start homeCall_known synchronizedHome, calm 0 (by omega),
      fun _ _ wrong => nomatch wrong⟩ (Prog.calm_advance 18 homeCall synchronizedHome calm)
  have finished : CalmRun threeCommits (fun _ => oneFile) .token homeTarget (.rest synchronizedHome)
      (.rest (homeCall.advance 18 synchronizedHome).2) :=
    .tail run ⟨.finish _ _, calm 18 (by omega), fun p s here _ going => by cases here; cases going⟩
  exact ⟨(calm_run_recorded (calm 0 (by omega)) synchronizedHome_recorded finished).1 _ rfl,
    by decide⟩

/-- The state after the push has landed, where the process stops. -/
def afterPush : System := (homeCall.advance 13 synchronizedHome).2

/-- After a crash right behind the push, the next cycle calls SyncApp's own commit a divergence. -/
theorem crash_after_push_diverges : ∃ cycle t,
    Prog.Reach NoOtherWriter (localSyncCalls threeCommits (fun _ => oneFile) .token homeTarget)
      (.rest synchronizedHome) (.call (.done (.ok (some cycle))) t) ∧
    cycle.disposition = .diverged := by
  have result : ∃ cycle, (homeCall.advance 4 afterPush).1 = .done (.ok (some cycle)) ∧
      cycle.disposition = .diverged := by
    have shown : ((homeCall.advance 4 afterPush).1.result?.bind fun result =>
        (result.toOption.bind fun cycle => cycle).map (·.disposition)) = some .diverged := by decide
    match found : (homeCall.advance 4 afterPush).1.result? with
    | some (.ok (some cycle)) =>
      rw [found] at shown
      exact ⟨cycle, Prog.eq_done found, Option.some.inj shown⟩
    | some (.ok none) => rw [found] at shown; cases shown
    | some (.error failure) => rw [found] at shown; cases shown
    | none => rw [found] at shown; cases shown
  obtain ⟨cycle, ended, diverged⟩ := result
  refine ⟨cycle, (homeCall.advance 4 afterPush).2, ?_, diverged⟩
  rw [← ended]
  have pushed : Prog.Reach NoOtherWriter
      (localSyncCalls threeCommits (fun _ => oneFile) .token homeTarget) (.rest synchronizedHome)
      (.call (homeCall.advance 13 synchronizedHome).1 afterPush) :=
    .head (.start homeCall_known synchronizedHome)
      (Prog.Reach.advance 13 homeCall synchronizedHome)
  have stopped := pushed.tail (.crash _ afterPush)
  exact (stopped.tail (.start homeCall_known afterPush)).trans
    (Prog.Reach.advance 4 homeCall afterPush)

end SyncApp
