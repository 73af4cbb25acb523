import SyncApp.Pipeline.Promotion
import SyncApp.Pipeline.Publishing

/-!
# What a promotion does

`Promotes` lists the atomic changes a promotion makes, with what it knows when it makes each: it
looks and notes the refs it saw, plans its row, publishes refs only after the last refs it saw were
to be published, and ends its row as the last refs it saw decide.

As for a cycle, a `PromotionWatch` says who else acts and what is known of the refs while they do.
-/

set_option autoImplicit false

namespace SyncApp

open Lib Raising Lane

/-- The last refs a promotion saw. -/
def lastRefs (events : List Event) : Option (PyStr × PromotionRemoteState) :=
  events.findSome? fun event =>
    match event with
    | .observedRefs deploymentId state => some (deploymentId, state)
    | _ => none

/-- The promotions, the plans and the events are left to the service. -/
structure PromotionOthers (s t : System) : Prop where
  promotions : t.store.promotions = s.store.promotions
  plans : t.store.plans = s.store.plans
  events : t.events = s.events

theorem PromotionOthers.refl (s : System) : PromotionOthers s s := ⟨rfl, rfl, rfl⟩

theorem PromotionOthers.trans (r s t : System) (first : PromotionOthers r s)
    (second : PromotionOthers s t) : PromotionOthers r t :=
  ⟨second.promotions.trans first.promotions, second.plans.trans first.plans,
    second.events.trans first.events⟩

/-- The records a promotion is decided on. -/
structure SameRecords (s t : System) : Prop where
  prepared : t.store.preparedDeployment = s.store.preparedDeployment
  plans : t.store.plans = s.store.plans
  observations : t.store.observations = s.store.observations
  finalizations : t.store.finalizations = s.store.finalizations

theorem SameRecords.refl (s : System) : SameRecords s s := ⟨rfl, rfl, rfl, rfl⟩

theorem SameRecords.trans (r s t : System) (first : SameRecords r s) (second : SameRecords s t) :
    SameRecords r t :=
  ⟨second.prepared.trans first.prepared, second.plans.trans first.plans,
    second.observations.trans first.observations, second.finalizations.trans first.finalizations⟩

/-- What a publication does to the refs: `main` goes forward to the candidate, the tag is made where
there is none, and nothing else changes. -/
structure MovesRefs (git : Git) (intent : DeploymentPromotion) (before after : RemoteRepository) :
    Prop where
  fullName : after.fullName = before.fullName
  repositoryId : after.repositoryId = before.repositoryId
  branches : ∀ name, name ≠ mainBranch → after.branches name = before.branches name
  main : after.branches mainBranch = before.branches mainBranch ∨
    after.branches mainBranch = some intent.candidateSha ∧
      (before.branches mainBranch).all (git.isAncestor · intent.candidateSha) = true
  tags : ∀ name, name ≠ intent.knownGoodTag → after.tags name = before.tags name
  tag : after.tags intent.knownGoodTag = before.tags intent.knownGoodTag ∨
    after.tags intent.knownGoodTag = some intent.candidateSha ∧
      before.tags intent.knownGoodTag = none

section

variable {git : Git} {intent : DeploymentPromotion} {first second third : RemoteRepository}

theorem MovesRefs.refl (remote : RemoteRepository) : MovesRefs git intent remote remote :=
  ⟨rfl, rfl, fun _ _ => rfl, .inl rfl, fun _ _ => rfl, .inl rfl⟩

theorem MovesRefs.trans (one : MovesRefs git intent first second)
    (two : MovesRefs git intent second third) : MovesRefs git intent first third where
  fullName := two.fullName.trans one.fullName
  repositoryId := two.repositoryId.trans one.repositoryId
  branches := fun name other => (two.branches name other).trans (one.branches name other)
  main := by
    rcases two.main with same | ⟨moved, forward⟩
    · rw [same]
      exact one.main
    · rcases one.main with same | ⟨_, before⟩
      · exact .inr ⟨moved, same ▸ forward⟩
      · exact .inr ⟨moved, before⟩
  tags := fun name other => (two.tags name other).trans (one.tags name other)
  tag := by
    rcases two.tag with same | ⟨tagged, absent⟩
    · rw [same]
      exact one.tag
    · rcases one.tag with same | ⟨present, _⟩
      · exact .inr ⟨tagged, same ▸ absent⟩
      · exact nomatch present.symm.trans absent

theorem MovesRefs.move (forward : (first.branches mainBranch).all
    (git.isAncestor · intent.candidateSha) = true) :
    MovesRefs git intent first (first.move mainBranch intent.candidateSha) :=
  ⟨rfl, rfl, fun _ other => first.move_apart _ other, .inr ⟨first.move_at _ _, forward⟩,
    fun _ _ => rfl, .inl rfl⟩

theorem MovesRefs.addTag
    (free : (first.tags intent.knownGoodTag).all (· = intent.candidateSha) = true) :
    MovesRefs git intent first (first.addTag intent.knownGoodTag intent.candidateSha) := by
  refine ⟨rfl, rfl, fun _ _ => rfl, .inl rfl, fun _ other => first.addTag_apart _ other, ?_⟩
  rw [first.addTag_at]
  cases tagged : first.tags intent.knownGoodTag with
  | none => exact .inr ⟨rfl, rfl⟩
  | some tagSha =>
    rw [tagged] at free
    exact .inl (congrArg some (of_decide_eq_true free).symm)

end

/-- Who else acts, what is known while they do, which promotions are carried out and which refs they
may see. -/
structure PromotionWatch (git : Git) (plan : PostDeploymentAssertionPlan) where
  rely : System → System → Prop
  sound : System → Prop
  mine : DeploymentPromotion → Prop
  allowed : DeploymentPromotion → PromotionRemoteState → Prop
  others : ∀ s t, rely s t → PromotionOthers s t
  stable : ∀ s t, rely s t → sound s → sound t
  looks : ∀ s t, t.remote = s.remote → SameRecords s t → sound s → sound t
  moves : ∀ s t intent, mine intent → MovesRefs git intent s.remote t.remote → t.store = s.store →
    sound s → sound t
  loaded : ∀ s row, sound s → loadDeploymentPromotion s.store plan = .ok (some row) → mine row
  planned : ∀ s₁ s₂ finalization prepared now, sound s₁ → sound s₂ →
    successfulFinalization s₁.store plan = .ok finalization →
    s₂.store.preparedDeployment finalization.deploymentId = some prepared →
      mine (plannedPromotion finalization prepared now)
  reads : ∀ intent s₁ s₂ s₃ candidate main, mine intent → sound s₁ → sound s₂ → sound s₃ →
    s₁.candidate = some candidate → s₂.main = some main →
      allowed intent ⟨candidate, main, s₃.remote.tags intent.knownGoodTag⟩

/-- A row that was planned on records that hold. -/
def PromotionWatch.Made {git : Git} {plan : PostDeploymentAssertionPlan}
    (watch : PromotionWatch git plan) (row : DeploymentPromotion) : Prop :=
  ∃ s₁ s₂ finalization prepared now, watch.sound s₁ ∧ watch.sound s₂ ∧
    successfulFinalization s₁.store plan = .ok finalization ∧
    s₂.store.preparedDeployment finalization.deploymentId = some prepared ∧
    finalization.finalizedAt ≤ now ∧ row = plannedPromotion finalization prepared now

/-- The disposition that ends a row in a phase. -/
def PromotionPhase.disposition : PromotionPhase → PromotionDisposition
  | .planned => .publish
  | .completed _ => .completed
  | .blocked _ => .blocked

section

variable (git : Git) {plan : PostDeploymentAssertionPlan} (watch : PromotionWatch git plan)

/-- What one action of a promotion does. -/
inductive Promotes (s t : System) : Prop where
  | looks (remote : t.remote = s.remote) (idle : Idle s t) (records : SameRecords s t)
      (kept : t.store.promotions = s.store.promotions ∧ t.store.rollbacks = s.store.rollbacks ∧
        t.store.workKeys = s.store.workKeys)
      (events : t.events = s.events ∨ ∃ head, t.events = .observedBranch head :: s.events)
  | observes (intent : DeploymentPromotion) (state : PromotionRemoteState)
      (allowed : watch.allowed intent state)
      (event : t = s.record (.observedRefs intent.deploymentId state))
  | calls (intent : DeploymentPromotion) (state : PromotionRemoteState)
      (planned : intent ∈ s.store.promotions ∧ intent.phase = .planned)
      (last : lastRefs s.events = some (intent.deploymentId, state))
      (publish : promotionDisposition intent state = .publish)
      (event : t = s.record (.publisherCalled intent.deploymentId))
  | plans (row : DeploymentPromotion) (made : watch.Made row) (valid : row.valid = true)
      (fresh : ∀ other ∈ s.store.promotions, other.deploymentId ≠ row.deploymentId)
      (store : t = { s with store := { s.store with promotions := s.store.promotions ++ [row] } })
  | settles (intent : DeploymentPromotion) (phase : PromotionPhase) (state : PromotionRemoteState)
      (planned : intent ∈ s.store.promotions ∧ intent.phase = .planned)
      (mine : watch.mine intent) (allowed : watch.allowed intent state)
      (last : lastRefs s.events = some (intent.deploymentId, state))
      (ends : phase ≠ .planned) (decided : promotionDisposition intent state = phase.disposition)
      (store : t = { s with store := { s.store with promotions := s.store.promotions.map fun row =>
        if row = intent then { intent with phase := phase } else row } })
  | moves (intent : DeploymentPromotion) (mine : watch.mine intent)
      (planned : intent ∈ s.store.promotions ∧ intent.phase = .planned)
      (store : t.store = s.store) (events : t.events = s.events) (refs : MovesRefs git intent s.remote t.remote)

end

/-! ## Single actions -/

section Actions

variable {git : Git} {plan : PostDeploymentAssertionPlan} {watch : PromotionWatch git plan}
  {intent : DeploymentPromotion} {s t : System}

theorem Promotes.same (s : System) : Promotes git watch s s :=
  .looks rfl (.refl s) (.refl s) ⟨rfl, rfl, rfl⟩ (.inl rfl)

/-- Whatever a promotion does keeps what is known. -/
theorem Promotes.sound (promotes : Promotes git watch s t) (sound : watch.sound s) :
    watch.sound t := by
  have kept : ∀ {t : System}, t.remote = s.remote → SameRecords s t → watch.sound t :=
    fun remote records => watch.looks s _ remote records sound
  cases promotes with
  | looks remote _ records => exact kept remote records
  | observes intent state _ event =>
    subst event
    exact kept rfl ⟨rfl, rfl, rfl, rfl⟩
  | calls intent state _ _ _ event =>
    subst event
    exact kept rfl ⟨rfl, rfl, rfl, rfl⟩
  | plans row _ _ _ store =>
    subst store
    exact kept rfl ⟨rfl, rfl, rfl, rfl⟩
  | settles intent phase state _ _ _ _ _ _ store =>
    subst store
    exact kept rfl ⟨rfl, rfl, rfl, rfl⟩
  | moves intent mine _ store _ refs => exact watch.moves s t intent mine refs store sound

/-- A planned row that is carried out, and what is known meanwhile. -/
structure Carries (watch : PromotionWatch git plan) (intent : DeploymentPromotion) (s : System) :
    Prop where
  sound : watch.sound s
  mine : watch.mine intent
  planned : intent ∈ s.store.promotions ∧ intent.phase = .planned

theorem Carries.others (carries : Carries watch intent s) (moved : watch.rely s t) :
    Carries watch intent t :=
  ⟨watch.stable s t moved carries.sound, carries.mine, by
    rw [(watch.others s t moved).promotions]
    exact carries.planned⟩

/-- A read of what is outside. -/
theorem carries_read {α : Type} {call : System → Except Failure (α × System)}
    {post : α → System → Prop} (carries : Carries watch intent s)
    (done : ∀ t a u, watch.rely s t → Carries watch intent t → call t = .ok (a, u) →
      (u = t ∨ ∃ head, u = t.record (.observedBranch head)) ∧
        (Carries watch intent u → post a u)) :
    Ensures watch.rely (Promotes git watch) (outside call) (returns post) s := by
  refine ensures_outside (fun t a u moved _ called => ?_) fun t failure _ => ⟨.same t, trivial⟩
  have before := carries.others moved
  obtain ⟨looked, holds⟩ := done t a u moved before called
  rcases looked with rfl | ⟨head, rfl⟩
  · exact ⟨.same u, holds before⟩
  · refine ⟨.looks rfl ⟨rfl, rfl, rfl⟩ ⟨rfl, rfl, rfl, rfl⟩ ⟨rfl, rfl, rfl⟩ (.inr ⟨head, rfl⟩), holds ?_⟩
    exact ⟨watch.looks t _ rfl ⟨rfl, rfl, rfl, rfl⟩ before.sound, before.mine, before.planned⟩

/-- A request that moves refs, for a row that is carried out. -/
theorem carries_request {call : System → Except Failure (Unit × System)}
    (carries : Carries watch intent s)
    (carried : ∀ t u, call t = .ok ((), u) →
      MovesRefs git intent t.remote u.remote ∧ u.store = t.store ∧ u.events = t.events) :
    Ensures watch.rely (Promotes git watch) (request call)
      (returns fun _ t => Carries watch intent t) s := by
  refine ensures_returns_request .same fun t _ u moved called => ?_
  obtain ⟨refs, store, events⟩ := carried t u called
  have before := carries.others moved
  refine ⟨.moves intent before.mine before.planned store events refs,
    watch.moves t u intent before.mine refs store before.sound, before.mine, ?_⟩
  rw [store]
  exact before.planned

/-! ### Reads -/

theorem head_commit {remote : RemoteRepository} {name branch : PyStr} {id : Int} {head : BranchHead}
    (found : remote.head name id branch = .ok head) : head.commitSha = remote.branches branch := by
  unfold RemoteRepository.head at found
  split at found
  · cases found
  split at found
  · cases found
  · cases found
    rfl

theorem carries_fetchTrustedCommit {branch : PyStr} {post : ObjectId → System → Prop}
    (carries : Carries watch intent s)
    (holds : ∀ t u commitSha, Carries watch intent t → t.remote.branches branch = some commitSha →
      Carries watch intent u → post commitSha u) :
    Ensures watch.rely (Promotes git watch) (fetchTrustedCommit intent branch) (returns post) s := by
  refine ensures_ends_bind (m := fun head u => Carries watch intent u ∧
      ∃ t, Carries watch intent t ∧ t.remote.branches branch = head.commitSha) ?_ fun head u held => ?_
  · refine ensures_ends_bind (m := fun head u => Carries watch intent u ∧
      ∃ t, Carries watch intent t ∧ t.remote.branches branch = head.commitSha) ?_ fun head u held => ?_
    · refine carries_read carries fun t head u moved before called => ?_
      cases found : t.remote.head intent.target intent.repositoryId branch with
      | error failure => rw [found] at called; cases called
      | ok seen =>
        rw [found] at called
        cases called
        exact ⟨.inr ⟨head, rfl⟩, fun after => ⟨after, t, before, (head_commit found).symm⟩⟩
    · exact ensures_returns_given fun _ => held
  · obtain ⟨after, t, before, seen⟩ := held
    cases present : head.commitSha with
    | none => trivial
    | some commitSha => exact holds t u commitSha before (seen.trans present) after

/-- Refs that were read one by one while what is known held. -/
def SeenRefs (watch : PromotionWatch git plan) (intent : DeploymentPromotion)
    (state : PromotionRemoteState) : Prop :=
  ∃ s₁ s₂ s₃, watch.sound s₁ ∧ watch.sound s₂ ∧ watch.sound s₃ ∧
    s₁.candidate = some state.candidateSha ∧ s₂.main = some state.mainSha ∧
    s₃.remote.tags intent.knownGoodTag = state.tagSha

theorem SeenRefs.allowed {state : PromotionRemoteState} (seen : SeenRefs watch intent state)
    (mine : watch.mine intent) : watch.allowed intent state := by
  obtain ⟨s₁, s₂, s₃, first, second, third, candidate, main, tag⟩ := seen
  have allowed := watch.reads intent s₁ s₂ s₃ _ _ mine first second third candidate main
  rw [tag] at allowed
  exact allowed

theorem carries_readPromotionRemoteState (carries : Carries watch intent s) :
    Ensures watch.rely (Promotes git watch) (readPromotionRemoteState intent)
      (returns fun state t => Carries watch intent t ∧ SeenRefs watch intent state) s := by
  refine ensures_ends_bind (m := fun candidate t => Carries watch intent t ∧
      ∃ s₁, watch.sound s₁ ∧ s₁.candidate = some candidate)
    (carries_fetchTrustedCommit carries fun t u candidate before seen after =>
      ⟨after, t, before.sound, seen⟩) fun candidate t first => ?_
  obtain ⟨carries, s₁, sound₁, seen₁⟩ := first
  refine ensures_ends_bind (m := fun main t => Carries watch intent t ∧
      ∃ s₂, watch.sound s₂ ∧ s₂.main = some main)
    (carries_fetchTrustedCommit carries fun t u main before seen after =>
      ⟨after, t, before.sound, seen⟩) fun main t second => ?_
  obtain ⟨carries, s₂, sound₂, seen₂⟩ := second
  refine ensures_ends_bind (m := fun tag t => Carries watch intent t ∧
      ∃ s₃, watch.sound s₃ ∧ s₃.remote.tags intent.knownGoodTag = tag)
    (carries_read carries fun t tag u _ before called => ?_) fun tag t third => ?_
  · cases called
    exact ⟨.inl rfl, fun after => ⟨after, t, before.sound, rfl⟩⟩
  · obtain ⟨carries, s₃, sound₃, seen₃⟩ := third
    exact ⟨carries, s₁, s₂, s₃, sound₁, sound₂, sound₃, seen₁, seen₂, seen₃⟩

theorem carries_readWithDeployKey (carries : Carries watch intent s) :
    Ensures watch.rely (Promotes git watch) (readPromotionRemoteStateWithDeployKey intent)
      (returns fun state t => Carries watch intent t ∧ SeenRefs watch intent state) s := by
  refine carries_read carries fun t state u _ before called => ?_
  split at called
  next candidate main _ at_candidate at_main =>
    cases called
    exact ⟨.inl rfl, fun after =>
      ⟨after, t, t, t, before.sound, before.sound, before.sound, at_candidate, at_main, rfl⟩⟩
  next => cases called

/-- What was read is the last that was noted. -/
structure Noted (watch : PromotionWatch git plan) (intent : DeploymentPromotion)
    (state : PromotionRemoteState) (s : System) : Prop extends Carries watch intent s where
  allowed : watch.allowed intent state
  last : lastRefs s.events = some (intent.deploymentId, state)

theorem Noted.others {state : PromotionRemoteState} (noted : Noted watch intent state s)
    (moved : watch.rely s t) : Noted watch intent state t :=
  ⟨noted.toCarries.others moved, noted.allowed, by
    rw [(watch.others s t moved).events]
    exact noted.last⟩

theorem carries_readRemote (credential : PublicationCredential) (carries : Carries watch intent s) :
    Ensures watch.rely (Promotes git watch) (readRemote credential intent)
      (returns fun state t => Noted watch intent state t) s := by
  have noted : ∀ state t, Carries watch intent t ∧ SeenRefs watch intent state →
      Ensures watch.rely (Promotes git watch) (do
        note (.observedRefs intent.deploymentId state)
        return state) (returns fun state t => Noted watch intent state t) t := by
    rintro state t ⟨carries, seen⟩
    have allowed := seen.allowed carries.mine
    refine ensures_ends_bind (m := fun _ u => Noted watch intent state u)
      (ensures_note fun u moved => ?_) fun _ u noted => noted
    have before := carries.others moved
    exact ⟨.observes intent state allowed rfl,
      ⟨watch.looks u _ rfl ⟨rfl, rfl, rfl, rfl⟩ before.sound, before.mine, before.planned⟩, allowed, rfl⟩
  cases credential with
  | token =>
    exact ensures_ends_bind (ensures_ends_rethrow (carries_readPromotionRemoteState carries)) noted
  | deployKey =>
    exact ensures_ends_bind (ensures_ends_rethrow (carries_readWithDeployKey carries)) noted

/-! ### Publication -/

theorem carries_createTag (carries : Carries watch intent s) :
    Ensures watch.rely (Promotes git watch)
      (createTag intent.knownGoodTag intent.candidateSha)
      (returns fun _ t => Carries watch intent t) s := by
  refine carries_request carries fun t u called => ?_
  split at called
  · cases called
  next absent =>
    cases called
    exact ⟨.addTag (by rw [absent]; rfl), rfl, rfl⟩

theorem carries_updateMain (carries : Carries watch intent s) :
    Ensures watch.rely (Promotes git watch) (updateMain git intent.candidateSha)
      (returns fun _ t => Carries watch intent t) s := by
  refine carries_request carries fun t u called => ?_
  split at called
  next forward =>
    cases called
    refine ⟨.move ?_, rfl, rfl⟩
    cases at_main : t.remote.branches mainBranch with
    | none => rfl
    | some commitSha =>
      unfold System.main at forward
      rw [at_main] at forward
      exact forward
  next => cases called

theorem carries_pushMissingRefs {state : PromotionRemoteState} (carries : Carries watch intent s) :
    Ensures watch.rely (Promotes git watch) (pushMissingRefs git intent state)
      (returns fun _ t => Carries watch intent t) s := by
  refine carries_request carries fun t u called => ?_
  dsimp only at called
  split at called
  next missing =>
    cases called
    obtain ⟨forward, untagged⟩ := missing
    refine ⟨?_, rfl, rfl⟩
    dsimp only
    generalize first : (if state.mainSha = intent.baselineSha then
      t.remote.move mainBranch intent.candidateSha else t.remote) = moved
    have main : MovesRefs git intent t.remote moved ∧ moved.tags = t.remote.tags := by
      subst first
      split
      next moves => exact ⟨.move (forward moves), rfl⟩
      next => exact ⟨.refl _, rfl⟩
    refine main.1.trans ?_
    split
    next tags => exact .addTag (main.2 ▸ untagged tags)
    next => exact .refl _
  next => cases called

theorem carries_publishPromotionRefs {state : PromotionRemoteState}
    (carries : Carries watch intent s) :
    Ensures watch.rely (Promotes git watch) (publishPromotionRefs git intent state)
      (returns fun _ t => Carries watch intent t) s := by
  refine ensures_ends_bind (m := fun _ t => Carries watch intent t)
    (carries_read carries fun t _ u _ _ called => ?_) fun _ t carries => ?_
  · split at called
    · cases called
      exact ⟨.inl rfl, fun after => after⟩
    · cases called
  refine ensures_returns_given fun _ => ?_
  refine ensures_ends_bind (m := fun _ u => Carries watch intent u) ?_ fun _ u carries => ?_
  · unfold publishMain
    split
    · exact carries_updateMain carries
    · exact ensures_returns_ensure fun _ => carries
  · unfold publishTag
    split
    · exact carries_createTag carries
    · exact ensures_returns_ensure fun _ => carries

theorem carries_publishWithDeployKey {state : PromotionRemoteState}
    (carries : Carries watch intent s) :
    Ensures watch.rely (Promotes git watch) (publishPromotionRefsWithDeployKey git intent state)
      (returns fun _ t => Carries watch intent t) s := by
  refine ensures_ends_bind (carries_readWithDeployKey carries) fun fresh t read => ?_
  refine ensures_returns_given fun _ => ?_
  refine ensures_returns_given fun _ => ?_
  split
  · exact read.1
  refine ensures_ends_bind (m := fun _ u => Carries watch intent u)
    (carries_read read.1 fun u _ v _ _ called => ?_) fun _ u carries => ?_
  · split at called
    · cases called
      exact ⟨.inl rfl, fun after => after⟩
    · cases called
  refine ensures_ends_bind (carries_readWithDeployKey carries) fun immediate v read => ?_
  refine ensures_returns_given fun _ => ?_
  split
  · exact read.1
  refine ensures_returns_given fun _ => ?_
  refine ensures_ends_bind (carries_pushMissingRefs read.1) fun _ w carries => ?_
  refine ensures_ends_bind (carries_readWithDeployKey carries) fun after x read => ?_
  split
  · exact read.1
  · trivial
  · trivial

/-- The publisher is called on refs that are to be published. -/
theorem carries_publishRefs {state : PromotionRemoteState} (credential : PublicationCredential)
    (noted : Noted watch intent state s)
    (publish : promotionDisposition intent state = .publish) :
    Ensures watch.rely (Promotes git watch) (publishRefs git credential intent state)
      (returns fun _ t => Carries watch intent t) s := by
  refine ensures_ends_bind (m := fun _ t => Carries watch intent t)
    (ensures_note fun t moved => ?_) fun _ t carries => ?_
  · have before := noted.others moved
    exact ⟨.calls intent state before.planned before.last publish rfl,
      watch.looks t _ rfl ⟨rfl, rfl, rfl, rfl⟩ before.sound, before.mine, before.planned⟩
  · cases credential with
    | token => exact ensures_ends_rethrow (carries_publishPromotionRefs carries)
    | deployKey => exact ensures_ends_rethrow (carries_publishWithDeployKey carries)

/-! ### The record -/

/-- What the transaction that ends a row writes and returns. -/
theorem setTerminalPromotion_ok {phase : PromotionPhase} {store changed : Store}
    {row : DeploymentPromotion}
    (settled : setTerminalPromotion plan intent phase store = .ok (row, changed)) :
    row.phase.same phase = true ∧ (changed = store ∨ changed = { store with
      promotions := store.promotions.map fun other =>
        if other = intent then { intent with phase := phase } else other }) := by
  unfold setTerminalPromotion at settled
  obtain ⟨loaded, found, settled⟩ := bind_eq_ok.mp settled
  cases loaded with
  | none => cases settled
  | some loaded =>
    dsimp only at settled
    split at settled
    next same =>
      cases settled
      exact ⟨same, .inl rfl⟩
    next =>
      split at settled
      · cases settled
      · cases settled
        refine ⟨?_, .inr rfl⟩
        cases phase <;> rfl

theorem PromotionPhase.same_completed {phase : PromotionPhase} {time : Int}
    (same : phase.same (.completed time) = true) : ∃ time, phase = .completed time := by
  cases phase with
  | completed time => exact ⟨time, rfl⟩
  | planned => cases same
  | blocked time => cases same

/-- A row is ended as the last refs decide. -/
theorem noted_setTerminal {phase : PromotionPhase} {state : PromotionRemoteState}
    (noted : Noted watch intent state s) (ends : phase ≠ .planned)
    (decided : promotionDisposition intent state = phase.disposition) :
    Ensures watch.rely (Promotes git watch) (setTerminal plan intent phase)
      (returns fun row _ => row.phase.same phase = true) s := by
  refine ensures_returns_given fun _ => ?_
  refine ensures_transaction (fun t row changed moved settled => ?_)
    fun t failure _ _ => ⟨.same t, trivial⟩
  have before := noted.others moved
  obtain ⟨same, rfl | rfl⟩ := setTerminalPromotion_ok settled
  · exact ⟨.same t, same⟩
  · exact ⟨.settles intent phase state before.planned before.mine before.allowed before.last ends
      decided rfl, same⟩

theorem noted_settlePromotion {state : PromotionRemoteState} {now : Int}
    {publish : Lane DeploymentPromotion} (noted : Noted watch intent state s)
    (rest : promotionDisposition intent state = .publish →
      Ensures watch.rely (Promotes git watch) publish
        (returns fun row _ => ∃ time, row.phase = .completed time) s) :
    Ensures watch.rely (Promotes git watch) (settlePromotion plan intent state now publish)
      (returns fun row _ => ∃ time, row.phase = .completed time) s := by
  unfold settlePromotion
  cases decided : promotionDisposition intent state with
  | blocked =>
    exact ensures_ends_bind (noted_setTerminal noted (fun wrong => nomatch wrong) decided)
      fun _ _ _ => trivial
  | completed =>
    have settled : Ensures watch.rely (Promotes git watch)
        (setTerminal plan intent (.completed now)) _ s :=
      noted_setTerminal noted (fun wrong => nomatch wrong) decided
    refine settled.mono fun result t same => ?_
    cases result with
    | ok row => exact PromotionPhase.same_completed same
    | error failure => trivial
  | publish => exact rest decided

/-- A planned row, carried out. -/
theorem carries_carryOut {credential : PublicationCredential} {now : Int}
    (carries : Carries watch intent s) :
    Ensures watch.rely (Promotes git watch) (carryOutPromotion git credential plan intent now)
      (returns fun row _ => ∃ time, row.phase = .completed time) s := by
  refine ensures_ends_bind (carries_readRemote credential carries) fun before t noted => ?_
  refine noted_settlePromotion noted fun publish => ?_
  refine ensures_ends_bind (carries_publishRefs credential noted publish) fun _ u carries => ?_
  refine ensures_ends_bind (carries_readRemote credential carries) fun after v noted => ?_
  exact noted_settlePromotion noted fun _ => trivial

/-! ## The promotion -/

/-- A row is loaded when it is the deployment's and its records ask for it. -/
theorem loadDeploymentPromotion_some_iff {store : Store} {row : DeploymentPromotion} :
    loadDeploymentPromotion store plan = .ok (some row) ↔
      store.promotions.find? (·.deploymentId = plan.deploymentId) = some row ∧
      ∃ finalization prepared, successfulFinalization store plan = .ok finalization ∧
        store.preparedDeployment plan.deploymentId = some prepared ∧
        { row with phase := .planned } = plannedPromotion finalization prepared row.plannedAt ∧
        finalization.finalizedAt ≤ row.plannedAt := by
  unfold loadDeploymentPromotion
  cases found : store.promotions.find? (·.deploymentId = plan.deploymentId) with
  | none =>
    constructor
    · intro wrong
      cases wrong
    · rintro ⟨wrong, _⟩
      cases wrong
  | some found_row =>
    constructor
    · intro loaded
      obtain ⟨finalization, successful, loaded⟩ := bind_eq_ok.mp loaded
      split at loaded
      · cases loaded
      next prepared evidence =>
        split at loaded
        · cases loaded
        next same =>
          cases loaded
          simp only [not_or, not_not, not_lt] at same
          exact ⟨rfl, finalization, prepared, successful, evidence, same.1, same.2⟩
    · rintro ⟨same, finalization, prepared, successful, evidence, planned, in_time⟩
      obtain rfl := Option.some.inj same
      refine bind_eq_ok.mpr ⟨finalization, successful, ?_⟩
      rw [evidence]
      dsimp only
      rw [if_neg (by simp only [not_or, not_not, not_lt]; exact ⟨planned, in_time⟩)]
      rfl

/-- The row that is loaded is one of the table. -/
theorem loadDeploymentPromotion_some {store : Store} {row : DeploymentPromotion}
    (loaded : loadDeploymentPromotion store plan = .ok (some row)) :
    row ∈ store.promotions ∧ row.deploymentId = plan.deploymentId := by
  have found := (loadDeploymentPromotion_some_iff.mp loaded).1
  exact ⟨List.mem_of_find?_eq_some found, by simpa using List.find?_some found⟩

theorem loadDeploymentPromotion_none {store : Store}
    (loaded : loadDeploymentPromotion store plan = .ok none) :
    ∀ row ∈ store.promotions, row.deploymentId ≠ plan.deploymentId := by
  unfold loadDeploymentPromotion at loaded
  cases found : store.promotions.find? (·.deploymentId = plan.deploymentId) with
  | none =>
    intro row member same
    exact absurd (decide_eq_true same) (List.find?_eq_none.mp found row member)
  | some found_row =>
    rw [found] at loaded
    obtain ⟨finalization, _, loaded⟩ := bind_eq_ok.mp loaded
    split at loaded
    · cases loaded
    · split at loaded
      · cases loaded
      · cases loaded

/-- A success is a row of the table, for the deployment of the plan. -/
theorem successfulFinalization_ok {store : Store} {finalization : DeploymentFinalization}
    (successful : successfulFinalization store plan = .ok finalization) :
    finalization.outcome = .success ∧
      loadDeploymentFinalization store plan = .ok (some finalization) := by
  unfold successfulFinalization at successful
  obtain ⟨found, loaded, successful⟩ := bind_eq_ok.mp successful
  cases found with
  | none => cases successful
  | some row =>
    dsimp only at successful
    split at successful
    next success =>
      cases successful
      exact ⟨success, mapError_eq_ok.mp loaded⟩
    next => cases successful

theorem successfulFinalization_deployment {store : Store} {finalization : DeploymentFinalization}
    (successful : successfulFinalization store plan = .ok finalization) :
    finalization.deploymentId = plan.deploymentId := by
  have found := (loadDeploymentFinalization_some (successfulFinalization_ok successful).2).1
  simpa using List.find?_some found

/-- The transaction that plans a row, where there is none. -/
theorem insertPromotion_ok {store changed : Store} {requested row : DeploymentPromotion}
    (fresh : ∀ other ∈ store.promotions, other.deploymentId ≠ plan.deploymentId)
    (inserted : insertPromotion plan requested store = .ok (row, changed)) :
    row = requested ∧ requested.valid = true ∧
      changed = { store with promotions := store.promotions ++ [requested] } := by
  unfold insertPromotion at inserted
  obtain ⟨_, _, inserted⟩ := bind_eq_ok.mp inserted
  obtain ⟨existing, loaded, inserted⟩ := bind_eq_ok.mp inserted
  cases existing with
  | some existing =>
    obtain ⟨member, same⟩ := loadDeploymentPromotion_some loaded
    exact absurd same (fresh existing member)
  | none =>
    dsimp only at inserted
    split at inserted
    next valid =>
      cases inserted
      exact ⟨rfl, valid, rfl⟩
    next => cases inserted

/-- What a promotion found of its row. -/
structure Found (watch : PromotionWatch git plan) (existing : Option DeploymentPromotion)
    (s : System) : Prop where
  sound : watch.sound s
  some : ∀ row, existing = some row → watch.mine row ∧ row ∈ s.store.promotions
  none : existing = none → ∀ row ∈ s.store.promotions, row.deploymentId ≠ plan.deploymentId

theorem Found.others {existing : Option DeploymentPromotion} (found : Found watch existing s)
    (moved : watch.rely s t) : Found watch existing t := by
  have same := (watch.others s t moved).promotions
  refine ⟨watch.stable s t moved found.sound, fun row here => ?_, fun absent => ?_⟩
  · rw [same]
    exact found.some row here
  · rw [same]
    exact found.none absent

theorem found_load (sound : watch.sound s) :
    Ensures watch.rely (Promotes git watch) (query (loadDeploymentPromotion · plan))
      (returns fun existing t => Found watch existing t) s := by
  refine ensures_query fun t moved => ⟨.same t, ?_⟩
  have known := watch.stable s t moved sound
  cases loaded : loadDeploymentPromotion t.store plan with
  | error failure => trivial
  | ok existing =>
    refine ⟨known, fun row here => ?_, fun absent => ?_⟩
    · subst here
      exact ⟨watch.loaded t row known loaded, (loadDeploymentPromotion_some loaded).1⟩
    · subst absent
      exact loadDeploymentPromotion_none loaded

theorem found_planPromotion {existing : Option DeploymentPromotion} {now : Int}
    (found : Found watch existing s) (open_row : ∀ row, existing = some row → row.phase = .planned) :
    Ensures watch.rely (Promotes git watch) (planPromotion plan existing now)
      (returns fun intent t => Carries watch intent t) s := by
  refine ensures_ends_bind (m := fun finalization t => Found watch existing t ∧
      finalization.deploymentId = plan.deploymentId ∧
      ∃ s₁, watch.sound s₁ ∧ successfulFinalization s₁.store plan = .ok finalization)
    (ensures_query fun t moved => ⟨.same t, ?_⟩) fun finalization t held => ?_
  · have here := found.others moved
    cases successful : successfulFinalization t.store plan with
    | error failure => trivial
    | ok finalization =>
      exact ⟨here, successfulFinalization_deployment successful, t, here.sound, successful⟩
  obtain ⟨found, deployment, s₁, sound₁, successful⟩ := held
  refine ensures_ends_bind (m := fun prepared u => Found watch existing u ∧
      ∃ s₂, watch.sound s₂ ∧
        s₂.store.preparedDeployment finalization.deploymentId = some prepared)
    (ensures_query fun u moved => ⟨.same u, ?_⟩) fun prepared u held => ?_
  · have here := found.others moved
    cases prepared : u.store.preparedDeployment finalization.deploymentId with
    | none => trivial
    | some evidence => exact ⟨here, u, here.sound, prepared⟩
  obtain ⟨found, s₂, sound₂, evidence⟩ := held
  refine ensures_returns_given fun in_time => ?_
  have mine := watch.planned s₁ s₂ finalization prepared now sound₁ sound₂ successful evidence
  cases existing with
  | some row =>
    obtain ⟨mine, member⟩ := found.some row rfl
    exact ⟨found.sound, mine, member, open_row row rfl⟩
  | none =>
    refine ensures_transaction (fun v row changed moved inserted => ?_)
      fun v failure _ _ => ⟨.same v, trivial⟩
    have here := found.others moved
    obtain ⟨rfl, valid, rfl⟩ := insertPromotion_ok (here.none rfl) inserted
    refine ⟨.plans _ ⟨s₁, s₂, finalization, prepared, now, sound₁, sound₂, successful, evidence,
      in_time, rfl⟩ valid (fun other member => ?_) rfl,
      watch.looks v _ rfl ⟨rfl, rfl, rfl, rfl⟩ here.sound, mine,
      List.mem_append_right _ (List.mem_singleton_self _), rfl⟩
    exact fun same => here.none rfl other member (same.trans deployment)

/-- **A promotion does only what it may**, whoever else acts between its steps. -/
theorem ensures_promote (credential : PublicationCredential) (now : Int) (sound : watch.sound s) :
    Ensures watch.rely (Promotes git watch)
      (promoteFinalizedDeploymentOnce git credential plan now)
      (returns fun row _ => ∃ time, row.phase = .completed time) s := by
  refine ensures_ends_bind (found_load sound) fun existing t found => ?_
  have carry : (∀ row, existing = some row → row.phase = .planned) →
      Ensures watch.rely (Promotes git watch) (do
        let intent ← planPromotion plan existing now
        carryOutPromotion git credential plan intent now)
      (returns fun row _ => ∃ time, row.phase = .completed time) t := fun open_row =>
    ensures_ends_bind (found_planPromotion found open_row) fun intent u carries =>
      carries_carryOut carries
  cases existing with
  | none => exact carry fun _ wrong => nomatch wrong
  | some row =>
    dsimp only [Option.map]
    cases phase : row.phase with
    | planned => exact carry fun _ same => Option.some.inj same ▸ phase
    | completed time => exact ⟨time, phase⟩
    | blocked time => trivial

theorem finishPromotion_onlyStatus (item : WorkItem) (now : Int) :
    OnlyStatus (finishPromotion item plan now) := by
  intro store a changed finished
  unfold finishPromotion at finished
  obtain ⟨current, _, finished⟩ := bind_eq_ok.mp finished
  obtain ⟨promotion, _, finished⟩ := bind_eq_ok.mp finished
  split at finished
  · split at finished
    · cases finished
    · exact completeWork_onlyStatus item now store a changed (mapError_eq_ok.mp finished)
  · cases finished

/-- The lane of a promotion. -/
theorem ensures_executePromotion (credential : PublicationCredential) (item : WorkItem) (now : Int)
    (own : ∀ t, watch.sound t → ∀ other, loadPlan t.store item.workKey = .ok other → other = plan)
    (sound : watch.sound s) :
    Ensures watch.rely (Promotes git watch)
      (executeCandidatePromotionOnce git credential item now) (returns fun _ _ => True) s := by
  refine ensures_returns_given fun _ => ensures_ends_rethrow ?_
  refine ensures_ends_bind (m := fun other t => other = plan ∧ watch.sound t)
    (ensures_query fun t moved => ⟨.same t, ?_⟩) fun other t held => ?_
  · have known := watch.stable s t moved sound
    cases loaded : loadPlan t.store item.workKey with
    | error failure => trivial
    | ok other => exact ⟨own t known other loaded, known⟩
  obtain ⟨rfl, known⟩ := held
  refine ensures_ends_bind (ensures_promote credential now known) fun promoted u completed => ?_
  obtain ⟨time, completed⟩ := completed
  rw [completed]
  refine ensures_transaction (fun v finished changed moved done => ⟨?_, trivial⟩)
    fun v failure _ _ => ⟨.same v, trivial⟩
  obtain ⟨⟨work, rfl⟩, keys⟩ := finishPromotion_onlyStatus item now v.store finished changed done
  exact .looks rfl ⟨rfl, rfl, rfl⟩ ⟨rfl, rfl, rfl, rfl⟩ ⟨rfl, rfl, keys⟩ (.inl rfl)

end Actions

end SyncApp
