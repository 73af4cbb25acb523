import SyncApp.Pipeline.KnownGood

/-!
# Synchronization after a promotion

A promotion moves Repo B's `main` to its candidate and writes no baseline. A cycle compares `main`
with the stored baseline of `main` before anything else, so after a promotion the baseline that was
stored before it decides: cycles go on exactly where it named the candidate already.
-/

set_option autoImplicit false

namespace SyncApp

open Lib Raising Lane

/-! ## SyncApp alone -/

/-- Nobody but SyncApp moves `main`. -/
structure SyncAppOnly (s t : System) : Prop extends PromotionOthers s t, Others s t where
  main : t.main = s.main

theorem SyncAppOnly.refl (s : System) : SyncAppOnly s s := ⟨.refl s, rfl, rfl, rfl⟩

theorem SyncAppOnly.trans (r s t : System) (first : SyncAppOnly r s) (second : SyncAppOnly s t) :
    SyncAppOnly r t :=
  have others := first.toOthers.trans second.toOthers
  ⟨.trans r s t first.toPromotionOthers second.toPromotionOthers, others.baselines, others.bound,
    second.main.trans first.main⟩

/-- Nobody else moves `main`, so an observed head is the head. -/
def onlySyncApp : Watch where
  rely := SyncAppOnly
  sees system head := head.branch = mainBranch → system.main = head.commitSha
  others := fun _ _ moved => moved.toOthers
  stable := fun _ _ _ moved sees at_main => moved.main.trans (sees at_main)
  fresh := fun s target id branch head found at_main => by
    have at_branch : head.branch = branch := head_branch found
    refine Eq.trans ?_ (head_commit found).symm
    rw [← at_branch, at_main]
    rfl
  renamed := fun s target id branch head found at_main => by
    have at_branch : head.branch = branch := head_branch found
    have renamed_main : head.branch = mainBranch := at_main
    refine Eq.trans ?_ (head_commit found).symm
    rw [← at_branch, renamed_main]
    rfl
  reproved := fun _ _ _ sees => sees

theorem onlySyncApp_closed : onlySyncApp.Closed := fun _ _ moved => moved.main

section

variable (git : Git) (target : PyStr)

/-- What an action of a promotion does to `main` and to what is stored of it. -/
structure MovesMain (s t : System) : Prop where
  stored : t.stored target = s.stored target
  main : t.main = s.main ∨ ∃ commitSha, t.main = some commitSha ∧
    s.main.all (git.isAncestor · commitSha) = true

/-- What an action of SyncApp does to them. -/
inductive Serves (s t : System) : Prop where
  | synchronizes (publishes : Publishes git onlySyncApp target s t)
  | promotes (moves : MovesMain git target s t)

/-- `main` is at a commit or past it, and at the commit only where the commit is stored. -/
def StoredOnce (commitSha : ObjectId) (s : System) : Prop :=
  ∃ head, s.main = some head ∧ git.isAncestor commitSha head = true ∧
    (head = commitSha → s.stored target = some commitSha)

variable (capture : FileSystem PyStr → LocalSource)

/-- The calls of SyncApp that move `main`: cycles with either credential, and promotions of any
deployment. -/
inductive SyncAppCall : Prog System Unit → Prop where
  | cycle (credential : PublicationCredential) (branch : PyStr) :
      SyncAppCall (synchronizeLocalConfiguration git capture credential target branch).call
  | promotion (plan : PostDeploymentAssertionPlan) (call : Prog System Unit)
      (known : PromotionCall git plan call) : SyncAppCall call

end

section

variable {git : Git} {target : PyStr} {s t : System}

theorem System.stored_congr (same : t.store.baselines = s.store.baselines) :
    t.stored target = s.stored target := by
  unfold System.stored Store.synchronizationBaseline
  rw [same]

/-- A promotion writes no baseline, and moves `main` forward. -/
theorem Promotes.movesMain {plan : PostDeploymentAssertionPlan} {watch : PromotionWatch git plan}
    (promotes : Promotes git watch s t) : MovesMain git target s t := by
  cases promotes with
  | looks remote idle => exact ⟨idle.stored target, .inl (congrArg (·.branches mainBranch) remote)⟩
  | observes intent state _ event => exact ⟨event ▸ rfl, .inl (event ▸ rfl)⟩
  | calls intent state _ _ _ event => exact ⟨event ▸ rfl, .inl (event ▸ rfl)⟩
  | plans _ _ _ _ store => exact ⟨store ▸ rfl, .inl (store ▸ rfl)⟩
  | settles _ _ _ _ _ _ _ _ _ store => exact ⟨store ▸ rfl, .inl (store ▸ rfl)⟩
  | moves intent _ _ store _ refs =>
    exact ⟨System.stored_congr (congrArg Store.baselines store),
      refs.main.imp_right fun moved => ⟨intent.candidateSha, moved⟩⟩

/-- A promotion while the plans stay as they are. -/
def steadyPlans (git : Git) (plan : PostDeploymentAssertionPlan)
    (plans : PyStr → Option PostDeploymentAssertionPlan) : PromotionWatch git plan where
  rely := SyncAppOnly
  sound t := t.store.plans = plans
  mine _ := True
  allowed _ _ := True
  others := fun _ _ moved => moved.toPromotionOthers
  stable := fun _ _ moved same => moved.plans.trans same
  looks := fun _ _ _ records same => records.plans.trans same
  moves := fun _ _ _ _ _ store same => store ▸ same
  loaded := fun _ _ _ _ => trivial
  planned := fun _ _ _ _ _ _ _ _ _ => trivial
  reads := fun _ _ _ _ _ _ _ _ _ _ _ _ => trivial

/-- A lane that promotes, as a call that moves `main`. -/
theorem promotes_safe (plan : PostDeploymentAssertionPlan) {α : Type} {program : Lane α}
    {post : α → System → Prop}
    (ensured : Ensures (steadyPlans git plan s.store.plans).rely
      (Promotes git (steadyPlans git plan s.store.plans)) program (returns post) s) :
    Prog.Safe SyncAppOnly (MovesMain git target) program.call (fun _ _ => True) s :=
  (call_safe (ensured.mono fun _ _ _ => trivial)).guarantees fun _ _ promotes => promotes.movesMain

theorem promotionCall_safe {plan : PostDeploymentAssertionPlan} {call : Prog System Unit}
    (known : PromotionCall git plan call) (s : System) :
    Prog.Safe SyncAppOnly (MovesMain git target) call (fun _ _ => True) s := by
  cases known with
  | once credential now =>
    exact promotes_safe plan (ensures_promote credential now rfl)
  | work credential item now own =>
    have plans : ∀ t : System, t.store.plans = s.store.plans →
        loadPlan t.store item.workKey = loadPlan s.store item.workKey := by
      intro t same
      unfold loadPlan
      rw [same]
    -- the plan the work is for is the one that is stored when the call starts
    cases loaded : loadPlan s.store item.workKey with
    | error failure =>
      refine promotes_safe plan (ensures_executePromotion credential item now
        (fun t same other found => ?_) rfl)
      exact nomatch (found.symm.trans (plans t same)).trans loaded
    | ok stored =>
      refine promotes_safe stored (ensures_executePromotion credential item now
        (fun t same other found => ?_) rfl)
      exact Except.ok.inj ((found.symm.trans (plans t same)).trans loaded)

theorem promotionCalls_move {plan : PostDeploymentAssertionPlan} :
    Prog.Keeps SyncAppOnly (MovesMain git target) (fun _ => True) (PromotionCall git plan) where
  refl := .refl
  trans := .trans
  others := fun _ _ _ _ => trivial
  actions := fun _ _ _ _ => trivial
  safe := fun _ known s _ => promotionCall_safe known s

variable {capture : FileSystem PyStr → LocalSource}

theorem syncAppCalls_serve :
    Prog.Keeps SyncAppOnly (Serves git target) (fun _ => True) (SyncAppCall git target capture) where
  refl := .refl
  trans := .trans
  others := fun _ _ _ _ => trivial
  actions := fun _ _ _ _ => trivial
  safe := by
    rintro call (⟨credential, branch⟩ | ⟨plan, _, known⟩) s _
    · have ensured : Ensures onlySyncApp.rely (Publishes git onlySyncApp target)
          (synchronizeLocalConfiguration git capture credential target branch) _ s :=
        ensures_synchronize capture credential branch s
      exact (call_safe (ensured.mono fun _ _ _ => trivial)).guarantees
        fun _ _ publishes => .synchronizes publishes
    · exact (promotionCall_safe known s).guarantees fun _ _ moves => .promotes moves

/-! ## Once stored -/

/-- `main` goes forward: past the commit, or it stays at it. -/
theorem StoredOnce.forward {commitSha head : ObjectId} (once : StoredOnce git target commitSha s)
    (at_head : t.main = some head) (forward : s.main.all (git.isAncestor · head) = true)
    (stored : t.stored target = s.stored target) : StoredOnce git target commitSha t := by
  obtain ⟨earlier, at_earlier, past, known⟩ := once
  rw [at_earlier] at forward
  refine ⟨head, at_head, git.trans _ _ _ past forward, fun same => ?_⟩
  subst same
  exact stored.trans (known (git.antisymm _ _ forward past))

theorem StoredOnce.still {commitSha : ObjectId} (once : StoredOnce git target commitSha s)
    (main : t.main = s.main) (stored : t.stored target = s.stored target ∨
      t.stored target = t.main) : StoredOnce git target commitSha t := by
  obtain ⟨head, at_head, past, known⟩ := once
  have here := main.trans at_head
  refine ⟨head, here, past, fun same => ?_⟩
  rcases stored with unchanged | at_main
  · exact unchanged.trans (known same)
  · exact (at_main.trans here).trans (congrArg some same)

/-- A recorded row is the stored one, or leaves the stored one alone. -/
theorem stored_record {row : SynchronizationBaseline} (branch : row.branch = mainBranch)
    (store : t.store = s.store.recordSynchronizationBaseline row) :
    t.stored target = s.stored target ∨ t.stored target = some row.commitSha := by
  unfold System.stored Store.synchronizationBaseline
  rw [store]
  by_cases here : row.target = target
  · refine .inr ?_
    have found : (row.target = target ∧ row.branch = mainBranch) := ⟨here, branch⟩
    simp [Store.recordSynchronizationBaseline, found]
  · refine .inl (congrArg (Option.map _) ?_)
    have others : ∀ other : SynchronizationBaseline,
        (!decide (other.target = row.target ∧ other.branch = row.branch) &&
          decide (other.target = target ∧ other.branch = mainBranch)) =
        decide (other.target = target ∧ other.branch = mainBranch) := by
      intro other
      by_cases same : other.target = target
      · have apart : other.target ≠ row.target := fun wrong => here (wrong.symm.trans same)
        simp [apart]
      · simp [same]
    simp only [Store.recordSynchronizationBaseline, List.find?_cons, here, false_and, decide_false,
      List.find?_filter]
    exact congrArg (fun p => s.store.baselines.find? p) (funext fun other => by
      simpa using others other)

/-- What SyncApp does keeps a commit stored while `main` is at it. -/
theorem Serves.storedOnce {commitSha : ObjectId} (serves : Serves git target s t)
    (once : StoredOnce git target commitSha s) : StoredOnce git target commitSha t := by
  cases serves with
  | promotes moves =>
    rcases moves.main with same | ⟨head, at_head, forward⟩
    · exact once.still same (.inl moves.stored)
    · exact once.forward at_head forward moves.stored
  | synchronizes publishes =>
    cases publishes with
    | looks idle => exact once.still (congrArg (·.branches mainBranch) idle.remote) (.inl (idle.stored target))
    | pushes index seen time _ _ _ forward store remote =>
      have at_head : t.main = some (git.commit index seen.commitSha time) := by
        unfold System.main
        rw [remote, RemoteRepository.move_at]
      exact once.forward at_head forward (System.stored_congr (congrArg Store.baselines store))
    | records row seen store remote branch _ sees at_branch at_commit =>
      have main : t.main = s.main := congrArg (·.branches mainBranch) remote
      refine once.still main ((stored_record branch store).imp_right fun recorded => ?_)
      exact recorded.trans (at_commit.symm.trans ((main.trans (sees at_branch)).symm))

/-! ## The next cycle -/

/-- The row that is stored for a branch is of that branch. -/
theorem synchronizationBaseline_some {store : Store} {branch : PyStr}
    {row : SynchronizationBaseline}
    (stored : store.synchronizationBaseline target branch = some row) :
    row.target = target ∧ row.branch = branch := by
  simpa using List.find?_some stored

/-- A head that is not stored is refused. -/
theorem classify_refuses {id : Int} (snapshotId : Digest) {remote : BranchHead}
    {baseline : Option SynchronizationBaseline} {commitSha : ObjectId}
    (named : casefoldTarget remote.target = casefoldTarget target) (numbered : remote.repositoryId = id)
    (branch : remote.branch = mainBranch) (present : remote.commitSha = some commitSha)
    (row : ∀ row, baseline = some row → row.target = target ∧ row.branch = mainBranch)
    (other : baseline.map (·.commitSha) ≠ some commitSha) :
    ∃ refusal, classifyPreCommitRefusal target id mainBranch snapshotId remote baseline =
      .ok (some refusal) ∧ refusal.disposition.succeeds = false := by
  unfold classifyPreCommitRefusal
  dsimp only
  rw [present]
  cases baseline with
  | none => exact ⟨_, rfl, rfl⟩
  | some stored =>
    obtain ⟨same_target, same_branch⟩ := row stored rfl
    dsimp only
    rw [if_neg (by simp [same_target, same_branch, numbered, named, branch]),
      if_pos fun same => other (congrArg some same.symm)]
    exact ⟨_, rfl, rfl⟩

/-- Repo B is the repository a target is bound to. -/
structure Pinned (target : PyStr) (s : System) : Prop where
  bound : s.store.repositoryId target = some s.remote.repositoryId
  named : casefoldTarget s.remote.fullName = casefoldTarget target

/-- With nothing failing, a cycle is refused where `main` is not stored. -/
theorem eval_synchronize_refused (git : Git) (capture : FileSystem PyStr → LocalSource)
    (credential : PublicationCredential) {commitSha : ObjectId} (fault : s.fault = none)
    (pinned : Pinned target s) (at_main : s.main = some commitSha)
    (other : s.stored target ≠ some commitSha) :
    ∃ cycle t, (synchronizeLocalConfiguration git capture credential target mainBranch).eval s =
      (.ok cycle, t) ∧ cycle.disposition.succeeds = false := by
  have prepared : (prepareWorkspace capture).eval s = (.ok (capture s.host.live),
      { s with workspaceContent := (capture s.host.live).snapshotId }) := eval_outside fault rfl
  have found : s.remote.head target s.remote.repositoryId mainBranch =
      .ok ⟨s.remote.fullName, s.remote.repositoryId, mainBranch, some commitSha⟩ := by
    unfold RemoteRepository.head
    rw [if_neg (not_not.mpr pinned.named), if_neg (not_not.mpr rfl)]
    exact congrArg (fun head => Except.ok (BranchHead.mk _ _ _ head)) at_main
  have observed : ∃ head t, (observeRemote credential target s.remote.repositoryId mainBranch).eval
        { s with workspaceContent := (capture s.host.live).snapshotId } = (.ok head, t) ∧
      t.store = s.store ∧ casefoldTarget head.target = casefoldTarget target ∧
      head.repositoryId = s.remote.repositoryId ∧ head.branch = mainBranch ∧
      head.commitSha = some commitSha := by
    cases credential with
    | token =>
      refine ⟨⟨s.remote.fullName, s.remote.repositoryId, mainBranch, some commitSha⟩, _,
        eval_outside fault (by rw [found]), ?_, pinned.named, rfl, rfl, rfl⟩
      rfl
    | deployKey =>
      refine ⟨⟨target, s.remote.repositoryId, mainBranch, some commitSha⟩, _,
        eval_outside fault (by rw [found]), ?_, rfl, rfl, rfl, rfl⟩
      rfl
  obtain ⟨head, t, observed, store, named, numbered, branch, present⟩ := observed
  have row : ∀ row, s.store.synchronizationBaseline target mainBranch = some row →
      row.target = target ∧ row.branch = mainBranch := fun _ => synchronizationBaseline_some
  obtain ⟨refusal, refused, fails⟩ :=
    classify_refuses (capture s.host.live).snapshotId named numbered branch present row other
  refine ⟨refusal, t, ?_, fails⟩
  refine (eval_bind_ok (eval_ensure rfl)).trans ?_
  refine (eval_bind_ok (eval_query (a := some s.remote.repositoryId)
    (congrArg Except.ok pinned.bound))).trans ?_
  refine (eval_bind_ok (eval_rethrow prepared)).trans ?_
  refine (eval_bind_ok (eval_rethrow observed)).trans ?_
  have read : (query fun store => .ok (store.synchronizationBaseline target mainBranch)).eval t =
      (.ok (s.store.synchronizationBaseline target mainBranch), t) :=
    eval_query (congrArg (fun store => Except.ok (store.synchronizationBaseline target mainBranch))
      store)
  exact (eval_bind_ok read).trans ((eval_bind_ok (congrArg (·, t) refused)).trans rfl)

/-- A cycle that goes on from a promoted candidate: nothing changed, or a commit made past it was
published. -/
def GoesOn (git : Git) (candidateSha : ObjectId) (cycle : LocalSyncResult) : Prop :=
  cycle.disposition = .noChange ∨ cycle.disposition = .published ∧
    ∃ commitSha, cycle.commitSha = some commitSha ∧
      git.isAncestor candidateSha commitSha = true

/-- A cycle goes on where `main` is stored. -/
theorem goesOn_of_stored {commitSha : ObjectId} {credential : PublicationCredential}
    {branch : PyStr} {cycle : LocalSyncResult} (at_main : s.main = some commitSha)
    (stored : s.stored target = some commitSha)
    (ran : (synchronizeLocalConfiguration git capture credential target branch).eval s =
      (.ok cycle, t)) : GoesOn git commitSha cycle := by
  have ensured : Ensures onlySyncApp.rely (Publishes git onlySyncApp target)
      (synchronizeLocalConfiguration git capture credential target branch) _ s :=
    ensures_synchronize capture credential branch s
  have ended := ensured.eval SyncAppOnly.refl
  rw [ran] at ended
  rcases ended with ⟨_, ⟨seen, sees, at_branch, apart⟩, main⟩ | completed
  · have unmoved : t.main = s.main := main onlySyncApp_closed
    exact absurd (stored.trans (at_main.symm.trans (unmoved.symm.trans (sees at_branch)))) apart
  · rw [stored] at completed
    cases completed with
    | unchanged same => exact .inl same
    | published first index time made =>
      exact .inr ⟨first, _, made, git.commit_descends index commitSha time⟩

/-- A promotion has ended, `main` is at its candidate, and Repo B is the bound repository. -/
structure Ended (target : PyStr) (row : DeploymentPromotion) (s : System) : Prop
    extends Pinned target s where
  member : row ∈ s.store.promotions
  completed : ∃ time, row.phase = .completed time
  main : s.main = some row.candidateSha

/-- **A promotion keeps synchronization going exactly where its candidate was stored before it**:
in whatever run it ended, and whatever SyncApp does later, each cycle that finds `main` at the
candidate goes on. -/
theorem promotion_keeps_synchronization_iff {plan : PostDeploymentAssertionPlan}
    {here : Prog.Point System Unit} {row : DeploymentPromotion}
    (promoting : Prog.Reach SyncAppOnly (PromotionCall git plan) (.rest s) here)
    (ended : Ended target row here.state) :
    (∀ u, Prog.Reach SyncAppOnly (SyncAppCall git target capture) (.rest here.state) (.rest u) →
      u.main = some row.candidateSha → ∀ credential cycle v,
        (synchronizeLocalConfiguration git capture credential target mainBranch).eval u =
          (.ok cycle, v) → GoesOn git row.candidateSha cycle) ↔
      s.stored target = some row.candidateSha := by
  have stored : here.state.stored target = s.stored target :=
    promotionCalls_move.along (fun t => t.stored target = s.stored target)
      (fun _ _ same moved => (System.stored_congr moved.baselines).trans same)
      (fun _ _ same moves => moves.stored.trans same) (.rest trivial) promoting rfl
  rw [← stored]
  constructor
  · intro goes_on
    by_contra other
    have cleared : SyncAppOnly here.state { here.state with fault := none } :=
      ⟨⟨rfl, rfl, rfl⟩, rfl, rfl, rfl⟩
    obtain ⟨cycle, t, ran, fails⟩ := eval_synchronize_refused git capture .token
      (s := { here.state with fault := none }) rfl ⟨ended.bound, ended.named⟩ ended.main other
    rcases goes_on _ (.single (.others_rest cleared)) ended.main .token cycle t ran with same | same
    · rw [same] at fails
      cases fails
    · rw [same.1] at fails
      cases fails
  · intro at_candidate u later at_main credential cycle v ran
    have once : StoredOnce git target row.candidateSha u :=
      syncAppCalls_serve.along (StoredOnce git target row.candidateSha)
        (fun _ _ once moved => once.still moved.main (.inl (System.stored_congr moved.baselines)))
        (fun _ _ once serves => serves.storedOnce once) (.rest trivial) later
        ⟨row.candidateSha, ended.main, git.refl _, fun _ => at_candidate⟩
    obtain ⟨head, at_head, _, known⟩ := once
    have same : head = row.candidateSha := Option.some.inj (at_head.symm.trans at_main)
    exact goesOn_of_stored at_main (known same) ran

end

/-! ## A promotion of a synchronized configuration -/

/-- A promotion of `deployedHome`, as a call of the service. -/
def homePromotes : Prog System Unit :=
  (promoteFinalizedDeploymentOnce threeCommits .token homePlan 0).call

/-- The state it ends in. -/
def promotedHome : System := (homePromotes.advance 20 deployedHome).2

theorem promotedHome_reached : Prog.Reach SyncAppOnly (PromotionCall threeCommits homePlan)
    (.rest deployedHome) (.call (homePromotes.advance 20 deployedHome).1 promotedHome) :=
  .head (.start (.once .token 0) deployedHome) (Prog.Reach.advance 20 homePromotes deployedHome)

theorem promotedHome_ended :
    Ended homeTarget { homePromotion with phase := .completed 0 } promotedHome :=
  ⟨⟨by decide, by decide⟩, by decide, ⟨0, rfl⟩, by decide⟩

theorem promotion_keeps_synchronization_iff_promoted :
    ¬∀ u, Prog.Reach SyncAppOnly (SyncAppCall threeCommits homeTarget fun _ => oneFile)
      (.rest promotedHome) (.rest u) → u.main = some secondCommit → ∀ credential cycle v,
        (synchronizeLocalConfiguration threeCommits (fun _ => oneFile) credential homeTarget
          mainBranch).eval u = (.ok cycle, v) → GoesOn threeCommits secondCommit cycle :=
  fun goes_on => absurd
    ((promotion_keeps_synchronization_iff promotedHome_reached promotedHome_ended).mp goes_on)
    (by decide)

/-- The promotion moves `main` from the stored commit to the candidate, and the next cycle is a
divergence. -/
theorem promotion_then_diverges : ∃ row cycle t,
    deployedHome.main = deployedHome.stored homeTarget ∧
    Prog.Reach SyncAppOnly (PromotionCall threeCommits homePlan) (.rest deployedHome)
      (.rest promotedHome) ∧
    row ∈ promotedHome.store.promotions ∧ row.phase = .completed 0 ∧
    promotedHome.main = some row.candidateSha ∧
    (synchronizeLocalConfiguration threeCommits (fun _ => oneFile) .token homeTarget
      mainBranch).eval promotedHome = (.ok cycle, t) ∧ cycle.disposition = .diverged := by
  have shown : (((synchronizeLocalConfiguration threeCommits (fun _ => oneFile) .token homeTarget
      mainBranch).eval promotedHome).1.toOption.map (·.disposition)) = some .diverged := by decide
  have stopped := promotedHome_reached.tail (.crash _ promotedHome)
  cases ran : (synchronizeLocalConfiguration threeCommits (fun _ => oneFile) .token homeTarget
      mainBranch).eval promotedHome with
  | mk result t =>
    rw [ran] at shown
    cases result with
    | error failure => cases shown
    | ok cycle =>
      exact ⟨_, cycle, t, by decide, stopped, promotedHome_ended.member, rfl,
        promotedHome_ended.main, rfl, Option.some.inj shown⟩

end SyncApp
