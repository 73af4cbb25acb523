import SyncApp.Pipeline.ForeignWriter
import SyncApp.Pipeline.Promoting

/-!
# The promotion of one deployment

Whatever the refs look like and whoever moves them, the row of a promotion becomes completed only on
refs that are all at the candidate, the publisher is called only on refs that are to be published,
and a row that has ended stays as it is.

While nobody else moves the three refs, no row ends as blocked, each publication makes what is
missing only, and a promotion that is carried out again with nothing failing ends as completed,
wherever an earlier one stopped.
-/

set_option autoImplicit false

namespace SyncApp

open Lib Raising Lane

/-! ## Single actions -/

section Actions

variable {git : Git} {plan : PostDeploymentAssertionPlan} {watch : PromotionWatch git plan}
  {s t : System}

/-- The refs are all at a row's candidate. -/
def AllAtCandidate (row : DeploymentPromotion) (state : PromotionRemoteState) : Prop :=
  state.candidateSha = row.candidateSha ∧ state.mainSha = row.candidateSha ∧
    state.tagSha = some row.candidateSha

theorem promotionDisposition_completed {intent : DeploymentPromotion} {state : PromotionRemoteState}
    (completed : promotionDisposition intent state = .completed) : AllAtCandidate intent state := by
  unfold promotionDisposition at completed
  split at completed
  · cases completed
  next candidate =>
    split at completed
    · cases completed
    split at completed
    · cases completed
    split at completed
    next at_candidate => exact ⟨not_not.mp candidate, at_candidate⟩
    next => cases completed

/-- A row becomes completed on refs that are all at its candidate. -/
theorem Promotes.completes (promotes : Promotes git watch s t) {row : DeploymentPromotion}
    (member : row ∈ t.store.promotions) {time : Int} (completed : row.phase = .completed time) :
    row ∈ s.store.promotions ∨ ∃ state,
      lastRefs s.events = some (row.deploymentId, state) ∧ AllAtCandidate row state := by
  cases promotes with
  | looks _ _ _ kept => exact .inl (kept.1 ▸ member)
  | observes intent state _ event =>
    subst event
    exact .inl member
  | calls intent state _ _ _ event =>
    subst event
    exact .inl member
  | plans planned made _ _ store =>
    subst store
    rcases List.mem_append.mp member with old | new
    · exact .inl old
    · obtain ⟨_, _, _, _, _, _, _, _, _, _, rfl⟩ := made
      obtain rfl := List.mem_singleton.mp new
      cases completed
  | settles intent phase state _ _ _ last _ decided store =>
    subst store
    obtain ⟨other, old, same⟩ := List.mem_map.mp member
    split at same
    · subst same
      obtain rfl : phase = .completed time := completed
      exact .inr ⟨state, last, promotionDisposition_completed decided⟩
    · subst same
      exact .inl old
  | moves _ _ _ store => exact .inl (congrArg Store.promotions store ▸ member)

/-- The publisher is called for a planned row, on refs that are to be published. -/
theorem Promotes.calls_publisher (promotes : Promotes git watch s t) {deploymentId : PyStr}
    (called : t.events = .publisherCalled deploymentId :: s.events) :
    ∃ intent state, intent ∈ s.store.promotions ∧ intent.deploymentId = deploymentId ∧
      lastRefs s.events = some (deploymentId, state) ∧
      promotionDisposition intent state = .publish := by
  have longer : ∀ event : Event, event :: s.events ≠ s.events := fun event same => by
    have lengths := congrArg List.length same
    simp at lengths
  cases promotes with
  | looks _ _ _ _ events =>
    rcases events with same | ⟨head, seen⟩
    · exact absurd (called.symm.trans same) (longer _)
    · exact nomatch List.head_eq_of_cons_eq (called.symm.trans seen)
  | observes intent state _ event =>
    subst event
    exact nomatch List.head_eq_of_cons_eq called
  | calls intent state planned last publish event =>
    subst event
    obtain rfl := Event.publisherCalled.inj (List.head_eq_of_cons_eq called)
    exact ⟨intent, state, planned.1, rfl, last, publish⟩
  | plans _ _ _ _ store =>
    subst store
    exact absurd called.symm (longer _)
  | settles _ _ _ _ _ _ _ _ _ store =>
    subst store
    exact absurd called.symm (longer _)
  | moves _ _ _ _ events => exact absurd (called.symm.trans events) (longer _)

/-- The row of a deployment. -/
def System.promotion (system : System) (deploymentId : PyStr) : Option DeploymentPromotion :=
  system.store.promotions.find? (·.deploymentId = deploymentId)

/-- A row that has ended stays the row of its deployment. -/
theorem Promotes.ended (promotes : Promotes git watch s t) {deploymentId : PyStr}
    {row : DeploymentPromotion} (found : s.promotion deploymentId = some row)
    (ended : row.phase ≠ .planned) : t.promotion deploymentId = some row := by
  unfold System.promotion at *
  cases promotes with
  | looks _ _ _ kept => rw [kept.1]; exact found
  | observes intent state _ event => subst event; exact found
  | calls intent state _ _ _ event => subst event; exact found
  | plans planned _ _ _ store =>
    subst store
    exact List.find?_append.trans (by rw [found]; rfl)
  | settles intent phase state planned _ _ _ _ _ store =>
    subst store
    have keeps : ∀ other : DeploymentPromotion,
        (if other = intent then { intent with phase := phase } else other).deploymentId =
          other.deploymentId := by
      intro other
      split
      next same => rw [same]
      next => rfl
    have other : row ≠ intent := fun same => ended (same ▸ planned.2)
    rw [List.find?_map]
    simp only [Function.comp_def, keeps]
    rw [found]
    exact congrArg some (if_neg other)
  | moves _ _ _ store => rw [store]; exact found

end Actions

/-! ## Who may move the refs -/

theorem SameRecords.successful {s t : System} (same : SameRecords s t)
    (plan : PostDeploymentAssertionPlan) :
    successfulFinalization t.store plan = successfulFinalization s.store plan := by
  unfold successfulFinalization
  rw [loadDeploymentFinalization_congr same.prepared same.observations same.finalizations]

section

variable (git : Git) (plan : PostDeploymentAssertionPlan)

/-- The plan of the deployment is the stored one, if there is one. -/
def OwnPlan (s : System) : Prop := ∀ other, s.store.plans plan.deploymentId = some other → other = plan

/-- Anybody may move any ref. -/
def anyRefs : PromotionWatch git plan where
  rely := PromotionOthers
  sound := OwnPlan plan
  mine _ := True
  allowed _ _ := True
  others := fun _ _ moved => moved
  stable := fun _ _ moved own other stored => own other (moved.plans ▸ stored)
  looks := fun _ _ _ records own other stored => own other (records.plans ▸ stored)
  moves := fun _ _ _ _ _ store own other stored => own other (store ▸ stored)
  loaded := fun _ _ _ _ => trivial
  planned := fun _ _ _ _ _ _ _ _ _ => trivial
  reads := fun _ _ _ _ _ _ _ _ _ _ _ _ => trivial

/-- Nobody else moves the three refs of a promotion, or changes what it is decided on. -/
structure PromotionAlone (deploymentId : PyStr) (s t : System) : Prop
    extends PromotionOthers s t, SameRecords s t where
  candidate : t.candidate = s.candidate
  main : t.main = s.main
  tag : t.remote.tags (knownGoodTag deploymentId) = s.remote.tags (knownGoodTag deploymentId)
  named : t.remote.fullName = s.remote.fullName
  numbered : t.remote.repositoryId = s.remote.repositoryId

variable (finalization : DeploymentFinalization) (prepared : PreparedEvidence)

/-- A deployment that may be promoted: its records ask for it, and each of the three refs is where
the promotion found it or leaves it. -/
structure Promotable (s : System) : Prop where
  own : OwnPlan plan s
  successful : successfulFinalization s.store plan = .ok finalization
  evidence : s.store.preparedDeployment plan.deploymentId = some prepared
  candidate : s.candidate = some finalization.candidateSha
  main : s.main = some prepared.baselineSha ∨ s.main = some finalization.candidateSha
  tag : s.remote.tags (knownGoodTag plan.deploymentId) = none ∨
    s.remote.tags (knownGoodTag plan.deploymentId) = some finalization.candidateSha

/-- The refs a row is about are the deployment's. -/
structure OwnRefs (row : DeploymentPromotion) : Prop where
  candidate : row.candidateSha = finalization.candidateSha
  baseline : row.baselineSha = prepared.baselineSha
  tag : row.knownGoodTag = knownGoodTag plan.deploymentId

variable {plan finalization prepared}

theorem Promotable.others {s t : System} (promotable : Promotable plan finalization prepared s)
    (moved : PromotionAlone plan.deploymentId s t) : Promotable plan finalization prepared t where
  own := fun other stored => promotable.own other (moved.plans ▸ stored)
  successful := (moved.toSameRecords.successful plan).trans promotable.successful
  evidence := (congrFun moved.prepared _).trans promotable.evidence
  candidate := moved.candidate.trans promotable.candidate
  main := moved.main.symm ▸ promotable.main
  tag := moved.tag.symm ▸ promotable.tag

/-- Its records say which refs a planned row is about. -/
theorem plannedPromotion_ownRefs {now : Int} (here : finalization.deploymentId = plan.deploymentId) :
    OwnRefs plan finalization prepared (plannedPromotion finalization prepared now) :=
  ⟨rfl, rfl, congrArg knownGoodTag here⟩

theorem PromotionAlone.refl (deploymentId : PyStr) (s : System) : PromotionAlone deploymentId s s :=
  ⟨.refl s, rfl, rfl, rfl, rfl, rfl, rfl, rfl, rfl⟩

theorem PromotionAlone.trans (deploymentId : PyStr) (r s t : System)
    (first : PromotionAlone deploymentId r s) (second : PromotionAlone deploymentId s t) :
    PromotionAlone deploymentId r t :=
  have records := SameRecords.trans r s t first.toSameRecords second.toSameRecords
  ⟨.trans r s t first.toPromotionOthers second.toPromotionOthers, records.prepared,
    records.observations, records.finalizations, second.candidate.trans first.candidate,
    second.main.trans first.main, second.tag.trans first.tag, second.named.trans first.named,
    second.numbered.trans first.numbered⟩

theorem candidate_apart : candidateBranch ≠ mainBranch := by decide

/-- A publication leaves each ref where the promotion may find it. -/
theorem Promotable.moves {s t : System} {intent : DeploymentPromotion}
    (promotable : Promotable plan finalization prepared s)
    (own : OwnRefs plan finalization prepared intent) (refs : MovesRefs git intent s.remote t.remote)
    (store : t.store = s.store) : Promotable plan finalization prepared t := by
  refine ⟨fun other stored => promotable.own other (store ▸ stored), store ▸ promotable.successful,
    store ▸ promotable.evidence, (refs.branches _ candidate_apart).trans promotable.candidate, ?_, ?_⟩
  · rcases refs.main with same | ⟨moved, _⟩
    · have unmoved : t.main = s.main := same
      exact unmoved.symm ▸ promotable.main
    · exact .inr (moved.trans (congrArg some own.candidate))
  · have tag := refs.tag
    rw [own.tag] at tag
    rcases tag with same | ⟨tagged, _⟩
    · exact same.symm ▸ promotable.tag
    · exact .inr (tagged.trans (congrArg some own.candidate))

/-- Refs that a promotion may find are not blocked. -/
theorem promotable_reads {s₁ s₂ s₃ : System} {intent : DeploymentPromotion}
    {candidate main : ObjectId} (own : OwnRefs plan finalization prepared intent)
    (first : Promotable plan finalization prepared s₁)
    (second : Promotable plan finalization prepared s₂)
    (third : Promotable plan finalization prepared s₃) (at_candidate : s₁.candidate = some candidate)
    (at_main : s₂.main = some main) :
    promotionDisposition intent ⟨candidate, main, s₃.remote.tags intent.knownGoodTag⟩ ≠ .blocked := by
  have same_candidate : candidate = intent.candidateSha :=
    (Option.some.inj (at_candidate.symm.trans first.candidate)).trans own.candidate.symm
  have same_main : main = intent.baselineSha ∨ main = intent.candidateSha := by
    rw [own.baseline, own.candidate]
    exact second.main.imp (fun there => Option.some.inj (at_main.symm.trans there))
      fun there => Option.some.inj (at_main.symm.trans there)
  have same_tag : s₃.remote.tags intent.knownGoodTag = none ∨
      s₃.remote.tags intent.knownGoodTag = some intent.candidateSha := by
    rw [own.tag, own.candidate]
    exact third.tag
  unfold promotionDisposition
  rw [if_neg (not_not.mpr same_candidate), if_neg fun neither => same_main.elim neither.1 neither.2,
    if_neg fun neither => same_tag.elim neither.1 neither.2]
  split
  · exact fun wrong => nomatch wrong
  · exact fun wrong => nomatch wrong

variable (plan finalization prepared)

/-- Nobody else moves the three refs. -/
def onlyPromotion : PromotionWatch git plan where
  rely := PromotionAlone plan.deploymentId
  sound := Promotable plan finalization prepared
  mine := OwnRefs plan finalization prepared
  allowed intent state := promotionDisposition intent state ≠ .blocked
  others := fun _ _ moved => moved.toPromotionOthers
  stable := fun _ _ moved promotable => promotable.others moved
  looks := fun s t remote records promotable => by
    refine ⟨fun other stored => promotable.own other (records.plans ▸ stored),
      (records.successful plan).trans promotable.successful,
      (congrFun records.prepared _).trans promotable.evidence, ?_, ?_, ?_⟩
    · exact (congrFun (congrArg RemoteRepository.branches remote) _).trans promotable.candidate
    · have same : t.main = s.main := congrFun (congrArg RemoteRepository.branches remote) _
      exact same.symm ▸ promotable.main
    · rw [remote]
      exact promotable.tag
  moves := fun _ _ _ own refs store promotable => promotable.moves git own refs store
  loaded := fun s row promotable loaded => by
    obtain ⟨_, other, evidence, successful, stored, planned, _⟩ :=
      loadDeploymentPromotion_some_iff.mp loaded
    obtain rfl := Except.ok.inj (promotable.successful.symm.trans successful)
    obtain rfl := Option.some.inj (promotable.evidence.symm.trans stored)
    have refs : OwnRefs plan finalization prepared { row with phase := .planned } :=
      planned ▸ plannedPromotion_ownRefs (successfulFinalization_deployment successful)
    exact ⟨refs.candidate, refs.baseline, refs.tag⟩
  planned := fun s₁ s₂ other evidence now first second successful stored => by
    obtain rfl := Except.ok.inj (first.successful.symm.trans successful)
    have here := successfulFinalization_deployment successful
    rw [here] at stored
    obtain rfl := Option.some.inj (second.evidence.symm.trans stored)
    exact plannedPromotion_ownRefs here
  reads := fun _ _ _ _ _ _ own first second third => promotable_reads own first second third

end

/-! ## A promotion with nothing failing -/

section Clear

variable {git : Git} {plan : PostDeploymentAssertionPlan} {intent : DeploymentPromotion}
  {s : System}

/-- Nothing fails, and each of a row's refs is missing or at the candidate. -/
structure Clear (git : Git) (intent : DeploymentPromotion) (s : System) : Prop where
  fault : s.fault = none
  named : casefoldTarget s.remote.fullName = casefoldTarget intent.target
  numbered : s.remote.repositoryId = intent.repositoryId
  candidate : s.candidate = some intent.candidateSha
  main : s.main = some intent.baselineSha ∧
      git.isAncestor intent.baselineSha intent.candidateSha = true ∨
    s.main = some intent.candidateSha
  tag : s.remote.tags intent.knownGoodTag = none ∨
    s.remote.tags intent.knownGoodTag = some intent.candidateSha

theorem Clear.record (clear : Clear git intent s) (event : Event) :
    Clear git intent (s.record event) :=
  ⟨clear.fault, clear.named, clear.numbered, clear.candidate, clear.main, clear.tag⟩

theorem Clear.head (clear : Clear git intent s) (branch : PyStr) :
    s.remote.head intent.target intent.repositoryId branch =
      .ok ⟨s.remote.fullName, s.remote.repositoryId, branch, s.remote.branches branch⟩ := by
  unfold RemoteRepository.head
  rw [if_neg (not_not.mpr clear.named), if_neg (not_not.mpr clear.numbered)]

/-- The refs of a row, as they are. -/
structure RefsAre (intent : DeploymentPromotion) (s : System) (state : PromotionRemoteState) :
    Prop where
  candidate : s.candidate = some state.candidateSha
  main : s.main = some state.mainSha
  tag : s.remote.tags intent.knownGoodTag = state.tagSha

theorem eval_fetchTrustedCommit (clear : Clear git intent s) {branch : PyStr} {commitSha : ObjectId}
    (there : s.remote.branches branch = some commitSha) :
    ∃ event, (fetchTrustedCommit intent branch).eval s = (.ok commitSha, s.record event) := by
  have found := clear.head branch
  rw [there] at found
  have observed : (fetchTrustedBranchHead intent.target intent.repositoryId branch).eval s = (.ok
      ⟨s.remote.fullName, s.remote.repositoryId, branch, some commitSha⟩, s.record
        (.observedBranch ⟨s.remote.fullName, s.remote.repositoryId, branch, some commitSha⟩)) := by
    refine (eval_bind_ok (eval_outside clear.fault ?_)).trans (eval_bind_ok (eval_ensure rfl))
    rw [found]
    rfl
  exact ⟨_, eval_bind_ok observed⟩

theorem eval_readRemote (credential : PublicationCredential) (clear : Clear git intent s) :
    ∃ state events, (readRemote credential intent).eval s = (.ok state, { s with events := events }) ∧
      RefsAre intent s state := by
  obtain ⟨main, at_main⟩ : ∃ main, s.main = some main :=
    clear.main.elim (fun base => ⟨_, base.1⟩) fun there => ⟨_, there⟩
  cases credential with
  | token =>
    obtain ⟨first, read_candidate⟩ := eval_fetchTrustedCommit clear clear.candidate
    obtain ⟨second, read_main⟩ := eval_fetchTrustedCommit (clear.record first) at_main
    refine ⟨⟨intent.candidateSha, main, s.remote.tags intent.knownGoodTag⟩, _,
      eval_bind_ok (t := (s.record first).record second) (eval_rethrow ?_), clear.candidate,
      at_main, rfl⟩
    refine (eval_bind_ok read_candidate).trans ((eval_bind_ok read_main).trans ?_)
    exact eval_bind_ok (eval_outside (s := (s.record first).record second) clear.fault rfl)
  | deployKey =>
    refine ⟨⟨intent.candidateSha, main, s.remote.tags intent.knownGoodTag⟩, _,
      eval_bind_ok (eval_rethrow (eval_outside clear.fault ?_)), clear.candidate, at_main, rfl⟩
    rw [clear.head, clear.candidate, at_main]

/-- Where every ref is at the candidate. -/
structure Published (intent : DeploymentPromotion) (s t : System) : Prop where
  main : t.main = some intent.candidateSha
  tag : t.remote.tags intent.knownGoodTag = some intent.candidateSha
  store : t.store = s.store

theorem eval_publishMain (clear : Clear git intent s) {state : PromotionRemoteState}
    (refs : RefsAre intent s state) (apart : intent.candidateSha ≠ intent.baselineSha) :
    ∃ t, (publishMain git intent state).eval s = (.ok (), t) ∧ Clear git intent t ∧
      t.main = some intent.candidateSha ∧ t.remote.tags = s.remote.tags ∧ t.store = s.store := by
  unfold publishMain
  rcases clear.main with ⟨at_base, forward⟩ | at_candidate
  · have same : state.mainSha = intent.baselineSha :=
      Option.some.inj (refs.main.symm.trans at_base)
    rw [if_pos same]
    refine ⟨{ s with remote := s.remote.move mainBranch intent.candidateSha },
      eval_request clear.fault ?_, ⟨clear.fault, clear.named, clear.numbered, ?_, .inr ?_, clear.tag⟩,
      s.remote.move_at _ _, rfl, rfl⟩
    · rw [at_base]
      exact if_pos forward
    · exact (s.remote.move_apart _ candidate_apart).trans clear.candidate
    · exact s.remote.move_at _ _
  · have same : state.mainSha = intent.candidateSha :=
      Option.some.inj (refs.main.symm.trans at_candidate)
    rw [if_neg fun base => apart (same.symm.trans base)]
    exact ⟨s, eval_ensure same, clear, at_candidate, rfl, rfl⟩

theorem eval_publishTag (state : PromotionRemoteState) (clear : Clear git intent s)
    (there : s.main = some intent.candidateSha)
    (tagged : s.remote.tags intent.knownGoodTag = state.tagSha) :
    ∃ t, (publishTag intent state).eval s = (.ok (), t) ∧ Clear git intent t ∧
      Published intent s t := by
  unfold publishTag
  cases tag : state.tagSha with
  | none =>
    refine ⟨{ s with remote := s.remote.addTag intent.knownGoodTag intent.candidateSha },
      eval_request clear.fault ?_, ⟨clear.fault, clear.named, clear.numbered, clear.candidate,
        clear.main, .inr (s.remote.addTag_at _ _)⟩, there, s.remote.addTag_at _ _, rfl⟩
    rw [tagged, tag]
  | some tagSha =>
    have at_candidate : s.remote.tags intent.knownGoodTag = some intent.candidateSha :=
      clear.tag.resolve_left fun absent => nomatch absent.symm.trans (tagged.trans tag)
    have same : tagSha = intent.candidateSha :=
      Option.some.inj ((tagged.trans tag).symm.trans at_candidate)
    exact ⟨s, eval_ensure same, clear, there, at_candidate, rfl⟩

theorem eval_readWithDeployKey (clear : Clear git intent s) {state : PromotionRemoteState}
    (refs : RefsAre intent s state) :
    (readPromotionRemoteStateWithDeployKey intent).eval s = (.ok state, s) := by
  refine eval_outside clear.fault ?_
  rw [clear.head, refs.candidate, refs.main, refs.tag]

theorem eval_pushMissingRefs (clear : Clear git intent s) {state : PromotionRemoteState}
    (refs : RefsAre intent s state) (apart : intent.candidateSha ≠ intent.baselineSha) :
    ∃ t, (pushMissingRefs git intent state).eval s = (.ok (), t) ∧ Clear git intent t ∧
      Published intent s t := by
  have moves : ∃ moved, (if state.mainSha = intent.baselineSha then
        s.remote.move mainBranch intent.candidateSha else s.remote) = moved ∧
      moved.branches mainBranch = some intent.candidateSha ∧
      moved.branches candidateBranch = s.remote.branches candidateBranch ∧
      moved.tags = s.remote.tags ∧ moved.fullName = s.remote.fullName ∧
      moved.repositoryId = s.remote.repositoryId ∧
      (state.mainSha = intent.baselineSha →
        s.main.all (git.isAncestor · intent.candidateSha) = true) := by
    rcases clear.main with ⟨at_base, forward⟩ | at_candidate
    · have same : state.mainSha = intent.baselineSha :=
        Option.some.inj (refs.main.symm.trans at_base)
      refine ⟨_, if_pos same, s.remote.move_at _ _, s.remote.move_apart _ candidate_apart, rfl, rfl,
        rfl, fun _ => ?_⟩
      rw [at_base]
      exact forward
    · have same : state.mainSha = intent.candidateSha :=
        Option.some.inj (refs.main.symm.trans at_candidate)
      exact ⟨_, if_neg fun base => apart (same.symm.trans base), at_candidate, rfl, rfl, rfl, rfl,
        fun base => absurd (same.symm.trans base) apart⟩
  obtain ⟨moved, first, main, candidate, tags, fullName, repositoryId, forward⟩ := moves
  have free : state.tagSha = none →
      (s.remote.tags intent.knownGoodTag).all (· = intent.candidateSha) = true := by
    intro absent
    rw [refs.tag, absent]
    rfl
  have finish : ∃ tagged, (if state.tagSha = none then
        moved.addTag intent.knownGoodTag intent.candidateSha else moved) = tagged ∧
      tagged.tags intent.knownGoodTag = some intent.candidateSha ∧
      tagged.branches = moved.branches ∧ tagged.fullName = moved.fullName ∧
      tagged.repositoryId = moved.repositoryId := by
    by_cases absent : state.tagSha = none
    · exact ⟨_, if_pos absent, moved.addTag_at _ _, rfl, rfl, rfl⟩
    · refine ⟨_, if_neg absent, ?_, rfl, rfl, rfl⟩
      rw [tags]
      exact clear.tag.resolve_left fun none => absent (refs.tag.symm.trans none)
  obtain ⟨tagged, second, tag, branches, tagged_name, tagged_id⟩ := finish
  have at_main : tagged.branches mainBranch = some intent.candidateSha := branches ▸ main
  refine ⟨{ s with remote := tagged }, eval_request clear.fault ?_, ⟨clear.fault, ?_, ?_, ?_,
    .inr at_main, .inr tag⟩, at_main, tag, rfl⟩
  · dsimp only
    rw [if_pos ⟨forward, free⟩, first, second]
  · rw [tagged_name, fullName]
    exact clear.named
  · rw [tagged_id, repositoryId]
    exact clear.numbered
  · show tagged.branches candidateBranch = _
    rw [branches, candidate]
    exact clear.candidate

/-- What was read is right. -/
theorem RefsAre.disposition {state : PromotionRemoteState} (refs : RefsAre intent s state)
    (clear : Clear git intent s) : promotionDisposition intent state =
      if s.main = some intent.candidateSha ∧
          s.remote.tags intent.knownGoodTag = some intent.candidateSha then .completed
      else .publish := by
  have candidate : state.candidateSha = intent.candidateSha :=
    Option.some.inj (refs.candidate.symm.trans clear.candidate)
  have main : state.mainSha = intent.baselineSha ∨ state.mainSha = intent.candidateSha :=
    clear.main.imp (fun base => Option.some.inj (refs.main.symm.trans base.1))
      fun there => Option.some.inj (refs.main.symm.trans there)
  have tag := clear.tag
  rw [refs.tag] at tag
  unfold promotionDisposition
  rw [if_neg (not_not.mpr candidate), if_neg fun neither => main.elim neither.1 neither.2,
    if_neg fun neither => tag.elim neither.1 neither.2, refs.main, refs.tag]
  simp only [Option.some.injEq]

/-- Refs that are all at the candidate. -/
theorem Published.completed {t : System} (clear : Clear git intent t)
    (published : Published intent s t) {state : PromotionRemoteState}
    (refs : RefsAre intent t state) : promotionDisposition intent state = .completed :=
  (refs.disposition clear).trans (if_pos ⟨published.main, published.tag⟩)

theorem Clear.refs (clear : Clear git intent s) : ∃ state, RefsAre intent s state :=
  clear.main.elim (fun base => ⟨⟨_, _, _⟩, clear.candidate, base.1, rfl⟩)
    fun there => ⟨⟨_, _, _⟩, clear.candidate, there, rfl⟩

theorem eval_verifyRepository (clear : Clear git intent s) :
    (verifyRepository intent).eval s = (.ok (), s) := by
  refine eval_outside clear.fault ?_
  rw [clear.head]

theorem eval_fetchTrustedCandidate (clear : Clear git intent s) :
    (fetchTrustedCandidate intent).eval s = (.ok (), s) :=
  eval_outside clear.fault (if_pos clear.candidate)

theorem eval_publishRefs (credential : PublicationCredential) (clear : Clear git intent s)
    {state : PromotionRemoteState} (refs : RefsAre intent s state)
    (apart : intent.candidateSha ≠ intent.baselineSha)
    (missing : promotionDisposition intent state = .publish) :
    ∃ t, (publishRefs git credential intent state).eval s = (.ok (), t) ∧ Clear git intent t ∧
      Published intent s t := by
  have noted := clear.record (.publisherCalled intent.deploymentId)
  have noted_refs : RefsAre intent (s.record (.publisherCalled intent.deploymentId)) state :=
    ⟨refs.candidate, refs.main, refs.tag⟩
  cases credential with
  | token =>
    obtain ⟨t, moved, clear_t, main, tags, store⟩ := eval_publishMain noted noted_refs apart
    obtain ⟨u, tagged, clear_u, published⟩ := eval_publishTag state clear_t main
      ((congrFun tags _).trans refs.tag)
    refine ⟨u, (eval_bind_ok (eval_note _)).trans (eval_rethrow ?_), clear_u, published.main,
      published.tag, published.store.trans store⟩
    refine (eval_bind_ok (eval_verifyRepository noted)).trans ?_
    have same : state.candidateSha = intent.candidateSha :=
      Option.some.inj (refs.candidate.symm.trans clear.candidate)
    exact (eval_bind_ok (eval_ensure same)).trans ((eval_bind_ok moved).trans tagged)
  | deployKey =>
    obtain ⟨t, pushed, clear_t, published⟩ := eval_pushMissingRefs noted noted_refs apart
    obtain ⟨after, refs_after⟩ := clear_t.refs
    have authorized : authorizedState intent state = true := by
      unfold authorizedState
      rw [missing]
      rfl
    have read := eval_readWithDeployKey noted noted_refs
    refine ⟨t, (eval_bind_ok (eval_note _)).trans (eval_rethrow ?_), clear_t, published.main,
      published.tag, published.store⟩
    refine (eval_bind_ok read).trans ((eval_bind_ok (eval_ensure authorized)).trans ?_)
    refine (eval_bind_ok (eval_ensure rfl)).trans ?_
    rw [if_neg (by rw [missing]; exact fun wrong => nomatch wrong)]
    refine (eval_bind_ok (eval_fetchTrustedCandidate noted)).trans ((eval_bind_ok read).trans ?_)
    refine (eval_bind_ok (eval_ensure authorized)).trans ?_
    rw [if_neg (by rw [missing]; exact fun wrong => nomatch wrong)]
    refine (eval_bind_ok (eval_ensure rfl)).trans ((eval_bind_ok pushed).trans ?_)
    refine (eval_bind_ok (eval_readWithDeployKey clear_t refs_after)).trans ?_
    rw [published.completed clear_t refs_after]
    rfl

end Clear

/-! ## A promotion that is carried out again -/

section Again

variable (git : Git) (plan : PostDeploymentAssertionPlan) (finalization : DeploymentFinalization)
  (prepared : PreparedEvidence)

/-- A row that the deployment's records ask for, and that has not ended as blocked. -/
structure OwnRow (row : DeploymentPromotion) : Prop where
  planned : { row with phase := .planned } = plannedPromotion finalization prepared row.plannedAt
  in_time : finalization.finalizedAt ≤ row.plannedAt
  apart : row.candidateSha ≠ row.baselineSha
  going : ∀ time, row.phase ≠ .blocked time

/-- Every row of the deployment is its own. -/
def OwnRows (s : System) : Prop :=
  ∀ row ∈ s.store.promotions, row.deploymentId = plan.deploymentId → OwnRow finalization prepared row

/-- Repo B is the deployment's, and takes its candidate: `main` is there, or goes forward to it. -/
structure Takes (s : System) : Prop where
  named : casefoldTarget s.remote.fullName = casefoldTarget prepared.target
  numbered : s.remote.repositoryId = prepared.repositoryId
  forward : s.main = some finalization.candidateSha ∨
    git.isAncestor prepared.baselineSha finalization.candidateSha = true

variable {git plan finalization prepared} {s t : System} {row : DeploymentPromotion}

theorem System.promotion_some {deploymentId : PyStr} (found : s.promotion deploymentId = some row) :
    row ∈ s.store.promotions ∧ row.deploymentId = deploymentId :=
  ⟨List.mem_of_find?_eq_some found, by simpa using List.find?_some found⟩

/-- The deployment's own row is loaded. -/
theorem OwnRow.loads (own : OwnRow finalization prepared row)
    (promotable : Promotable plan finalization prepared s)
    (found : s.promotion plan.deploymentId = some row) :
    loadDeploymentPromotion s.store plan = .ok (some row) :=
  loadDeploymentPromotion_some_iff.mpr ⟨found, finalization, prepared, promotable.successful,
    promotable.evidence, own.planned, own.in_time⟩

theorem OwnRow.ownRefs (own : OwnRow finalization prepared row)
    (here : finalization.deploymentId = plan.deploymentId) : OwnRefs plan finalization prepared row := by
  have refs : OwnRefs plan finalization prepared { row with phase := .planned } :=
    own.planned ▸ plannedPromotion_ownRefs here
  exact ⟨refs.candidate, refs.baseline, refs.tag⟩

theorem Promotable.clear (promotable : Promotable plan finalization prepared s)
    (own : OwnRow finalization prepared row) (takes : Takes git finalization prepared s)
    (fault : s.fault = none) : Clear git row s := by
  have refs := own.ownRefs (successfulFinalization_deployment promotable.successful)
  have target : row.target = prepared.target := congrArg DeploymentPromotion.target own.planned
  have id : row.repositoryId = prepared.repositoryId :=
    congrArg DeploymentPromotion.repositoryId own.planned
  refine ⟨fault, target ▸ takes.named, id ▸ takes.numbered, refs.candidate ▸ promotable.candidate,
    ?_, ?_⟩
  · rw [refs.candidate, refs.baseline]
    rcases takes.forward with there | forward
    · exact .inr there
    · exact promotable.main.imp_left fun base => ⟨base, forward⟩
  · rw [refs.candidate, refs.tag]
    exact promotable.tag

/-- A planned row whose refs are all at its candidate ends as completed. -/
theorem eval_settle {state : PromotionRemoteState} {now : Int} {publish : Lane DeploymentPromotion}
    (loads : loadDeploymentPromotion s.store plan = .ok (some row)) (planned : row.phase = .planned)
    (apart : row.candidateSha ≠ row.baselineSha) (in_time : row.plannedAt ≤ now)
    (completed : promotionDisposition row state = .completed) :
    (settlePromotion plan row state now publish).eval s =
      (.ok { row with phase := .completed now }, { s with store := { s.store with
        promotions := s.store.promotions.map fun other =>
          if other = row then { row with phase := .completed now } else other } }) := by
  have valid : ({ row with phase := .completed now } : DeploymentPromotion).valid = true := by
    unfold DeploymentPromotion.valid
    exact decide_eq_true ⟨apart, decide_eq_true in_time⟩
  unfold settlePromotion
  rw [completed]
  refine (eval_bind_ok (eval_ensure valid)).trans (eval_transaction ?_)
  unfold setTerminalPromotion
  rw [loads]
  dsimp only [bind, Except.bind]
  rw [planned, if_neg (fun wrong => nomatch wrong), if_neg (by simp)]
  rfl

/-- Nothing failing, a planned row is carried out to its end. -/
theorem eval_carryOut (credential : PublicationCredential)
    (own : OwnRow finalization prepared row) (promotable : Promotable plan finalization prepared s)
    (found : s.promotion plan.deploymentId = some row) (planned : row.phase = .planned)
    (clear : Clear git row s) {now : Int} (in_time : row.plannedAt ≤ now) :
    ∃ t, (carryOutPromotion git credential plan row now).eval s =
      (.ok { row with phase := .completed now }, t) ∧
      t.promotion plan.deploymentId = some { row with phase := .completed now } := by
  have loads := own.loads promotable found
  have stored : ∀ {t : System}, t.store = s.store →
      ({ t with store := { t.store with promotions := t.store.promotions.map fun other =>
        if other = row then { row with phase := .completed now } else other } } : System).promotion
          plan.deploymentId = some { row with phase := .completed now } := by
    intro t same
    rw [same]
    have keeps : ∀ other : DeploymentPromotion,
        (if other = row then { row with phase := .completed now } else other).deploymentId =
          other.deploymentId := by
      intro other
      split
      next here => rw [here]
      next => rfl
    refine List.find?_map.trans ?_
    simp only [Function.comp_def, keeps]
    exact (congrArg _ found).trans (congrArg some (if_pos rfl))
  obtain ⟨before, events, read, refs⟩ := eval_readRemote credential clear
  by_cases done : promotionDisposition row before = .completed
  · refine ⟨_, (eval_bind_ok read).trans (eval_settle loads planned own.apart in_time done), ?_⟩
    exact stored rfl
  have missing : promotionDisposition row before = .publish := by
    have decided := refs.disposition clear
    split at decided
    · exact absurd decided done
    · exact decided
  have clear' : Clear git row { s with events := events } :=
    ⟨clear.fault, clear.named, clear.numbered, clear.candidate, clear.main, clear.tag⟩
  have refs' : RefsAre row { s with events := events } before :=
    ⟨refs.candidate, refs.main, refs.tag⟩
  obtain ⟨t, published, clear_t, at_candidate⟩ :=
    eval_publishRefs credential clear' refs' own.apart missing
  obtain ⟨after, events', read', refs_after⟩ := eval_readRemote credential clear_t
  have loads_after : loadDeploymentPromotion t.store plan = .ok (some row) :=
    at_candidate.store ▸ loads
  have settled : (settlePromotion plan row after now (throw promotionUnavailable)).eval
      { t with events := events' } = _ :=
    eval_settle loads_after planned own.apart in_time (at_candidate.completed clear_t refs_after)
  refine ⟨_, (eval_bind_ok read).trans ?_, stored (t := { t with events := events' })
    at_candidate.store⟩
  unfold settlePromotion
  rw [missing]
  exact (eval_bind_ok published).trans ((eval_bind_ok read').trans settled)

/-- Nothing failing, a promotion that is carried out again ends as completed. -/
theorem eval_promoteAgain (credential : PublicationCredential)
    (promotable : Promotable plan finalization prepared s)
    (rows : OwnRows plan finalization prepared s) (takes : Takes git finalization prepared s)
    (fault : s.fault = none) (found : s.promotion plan.deploymentId = some row) {now : Int}
    (in_time : row.plannedAt ≤ now) :
    ∃ ended t time, (promoteFinalizedDeploymentOnce git credential plan now).eval s = (.ok ended, t) ∧
      ended.phase = .completed time ∧ t.promotion plan.deploymentId = some ended := by
  obtain ⟨member, here⟩ := System.promotion_some found
  have own := rows row member here
  have loaded : (query (loadDeploymentPromotion · plan)).eval s = (.ok (some row), s) :=
    eval_query (own.loads promotable found)
  cases phase : row.phase with
  | blocked time => exact absurd phase (own.going time)
  | completed time =>
    refine ⟨row, s, time, (eval_bind_ok loaded).trans ?_, phase, found⟩
    dsimp only [Option.map]
    rw [phase]
    rfl
  | planned =>
    obtain ⟨t, carried, stored⟩ := eval_carryOut credential own promotable found phase
      (promotable.clear own takes fault) in_time
    refine ⟨_, t, now, (eval_bind_ok loaded).trans ?_, rfl, stored⟩
    dsimp only [Option.map]
    rw [phase]
    refine (eval_bind_ok ?_).trans carried
    refine (eval_bind_ok (eval_query promotable.successful)).trans ?_
    refine (eval_bind_ok (eval_query (a := prepared) ?_)).trans ?_
    · rw [successfulFinalization_deployment promotable.successful, promotable.evidence]
    · exact (eval_bind_ok (eval_ensure (own.in_time.trans in_time))).trans rfl

end Again

/-! ## Runs -/

section Runs

variable (git : Git) (plan : PostDeploymentAssertionPlan)

/-- The calls that promote a deployment: by itself, or for the work that was claimed for it. -/
inductive PromotionCall : Prog System Unit → Prop where
  | once (credential : PublicationCredential) (now : Int) :
      PromotionCall (promoteFinalizedDeploymentOnce git credential plan now).call
  | work (credential : PublicationCredential) (item : WorkItem) (now : Int)
      (own : item.workKey = plan.deploymentId) :
      PromotionCall (executeCandidatePromotionOnce git credential item now).call

variable {git plan}

theorem OwnPlan.loadPlan {s : System} (own : OwnPlan plan s) {item : WorkItem}
    (here : item.workKey = plan.deploymentId) {other : PostDeploymentAssertionPlan}
    (loaded : SyncApp.loadPlan s.store item.workKey = .ok other) : other = plan := by
  unfold SyncApp.loadPlan at loaded
  rw [here] at loaded
  cases stored : s.store.plans plan.deploymentId with
  | none => rw [stored] at loaded; cases loaded
  | some found =>
    rw [stored] at loaded
    cases loaded
    exact own other stored

/-- Promotions keep what is known of them. -/
theorem promotionCalls_keep (watch : PromotionWatch git plan) (refl : ∀ s, watch.rely s s)
    (trans : ∀ r s t, watch.rely r s → watch.rely s t → watch.rely r t)
    (own : ∀ s, watch.sound s → OwnPlan plan s) :
    Prog.Keeps watch.rely (Promotes git watch) watch.sound (PromotionCall git plan) where
  refl := refl
  trans := trans
  others := fun s t sound moved => watch.stable s t moved sound
  actions := fun _ _ sound promotes => promotes.sound sound
  safe := by
    rintro call (⟨credential, now⟩ | ⟨credential, item, now, here⟩) s sound
    · exact call_safe ((ensures_promote credential now sound).mono fun _ _ _ => trivial)
    · exact call_safe ((ensures_executePromotion credential item now
        (fun t known other loaded => (own t known).loadPlan here loaded) sound).mono
          fun _ _ _ => trivial)

theorem anyRefs_keep : Prog.Keeps PromotionOthers (Promotes git (anyRefs git plan)) (OwnPlan plan)
    (PromotionCall git plan) :=
  promotionCalls_keep (anyRefs git plan) .refl .trans fun _ own => own

variable {finalization : DeploymentFinalization} {prepared : PreparedEvidence}

theorem onlyPromotion_keep : Prog.Keeps (PromotionAlone plan.deploymentId)
    (Promotes git (onlyPromotion git plan finalization prepared))
    (Promotable plan finalization prepared) (PromotionCall git plan) :=
  promotionCalls_keep (onlyPromotion git plan finalization prepared)
    (PromotionAlone.refl plan.deploymentId) (PromotionAlone.trans plan.deploymentId)
    fun _ promotable => promotable.own

/-- What a promotion does while nobody else moves its refs keeps its rows its own. -/
theorem Promotes.ownRows {s t : System}
    (promotes : Promotes git (onlyPromotion git plan finalization prepared) s t)
    (rows : OwnRows plan finalization prepared s) : OwnRows plan finalization prepared t := by
  intro row member here
  cases promotes with
  | looks _ _ _ kept => exact rows row (kept.1 ▸ member) here
  | observes intent state _ event =>
    subst event
    exact rows row member here
  | calls intent state _ _ _ event =>
    subst event
    exact rows row member here
  | plans planned made valid _ store =>
    subst store
    rcases List.mem_append.mp member with old | new
    · exact rows row old here
    · obtain rfl := List.mem_singleton.mp new
      obtain ⟨s₁, s₂, other, evidence, now, first, second, successful, stored, in_time, rfl⟩ := made
      obtain rfl := Except.ok.inj (first.successful.symm.trans successful)
      rw [successfulFinalization_deployment successful] at stored
      obtain rfl := Option.some.inj (second.evidence.symm.trans stored)
      unfold DeploymentPromotion.valid at valid
      exact ⟨rfl, in_time, (of_decide_eq_true valid).1, fun _ wrong => nomatch wrong⟩
  | settles intent phase state planned _ allowed _ _ decided store =>
    subst store
    obtain ⟨other, old, same⟩ := List.mem_map.mp member
    split at same
    · subst same
      have own := rows intent planned.1 here
      refine ⟨own.planned, own.in_time, own.apart, fun time blocked => allowed ?_⟩
      obtain rfl : phase = .blocked time := blocked
      exact decided
    · subst same
      exact rows other old here
  | moves _ _ _ store => exact rows row (congrArg Store.promotions store ▸ member) here

/-- The refs after an action are those before it, but for refs of the promotion that were missing. -/
structure OnlyMissing (finalization : DeploymentFinalization) (prepared : PreparedEvidence)
    (before after : RemoteRepository) : Prop where
  branches : ∀ name, name ≠ mainBranch → after.branches name = before.branches name
  main : after.branches mainBranch = before.branches mainBranch ∨
    before.branches mainBranch = some prepared.baselineSha ∧
      after.branches mainBranch = some finalization.candidateSha
  tags : ∀ name, name ≠ knownGoodTag finalization.deploymentId →
    after.tags name = before.tags name
  tag : after.tags (knownGoodTag finalization.deploymentId) =
      before.tags (knownGoodTag finalization.deploymentId) ∨
    before.tags (knownGoodTag finalization.deploymentId) = none ∧
      after.tags (knownGoodTag finalization.deploymentId) = some finalization.candidateSha

theorem OnlyMissing.of_same {before after : RemoteRepository} (same : after = before) :
    OnlyMissing finalization prepared before after := by
  subst same
  exact ⟨fun _ _ => rfl, .inl rfl, fun _ _ => rfl, .inl rfl⟩

theorem Promotes.onlyMissing {s t : System}
    (promotes : Promotes git (onlyPromotion git plan finalization prepared) s t)
    (promotable : Promotable plan finalization prepared s) :
    OnlyMissing finalization prepared s.remote t.remote := by
  cases promotes with
  | looks remote => exact .of_same remote
  | observes intent state _ event => exact .of_same (event ▸ rfl)
  | calls intent state _ _ _ event => exact .of_same (event ▸ rfl)
  | plans _ _ _ _ store => exact .of_same (store ▸ rfl)
  | settles _ _ _ _ _ _ _ _ _ store => exact .of_same (store ▸ rfl)
  | moves intent own _ _ _ refs =>
    have tag : intent.knownGoodTag = knownGoodTag finalization.deploymentId := by
      rw [successfulFinalization_deployment promotable.successful]
      exact own.tag
    refine ⟨refs.branches, ?_, tag ▸ refs.tags, ?_⟩
    · refine refs.main.elim .inl fun moved => ?_
      rw [own.candidate] at moved
      rcases promotable.main with base | there
      · exact .inr ⟨base, moved.1⟩
      · exact .inl (moved.1.trans there.symm)
    · rw [← tag]
      refine refs.tag.imp_right fun tagged => ?_
      rw [own.candidate] at tagged
      exact tagged.symm

end Runs

/-! ## A promotion that stopped between `main` and the tag -/

def homePlan : PostDeploymentAssertionPlan := ⟨text "deployment", secondCommit⟩

def homePrepared : PreparedEvidence :=
  ⟨homeTarget, 1, firstCommit, secondCommit, oneFile.snapshotId, text "backup"⟩

def homeObservations : List StageObservation :=
  observationStages.map fun stage => ⟨homePlan.deploymentId, stage, 0, 0⟩

def homeFinalization : DeploymentFinalization :=
  ⟨homePlan.deploymentId, secondCommit, text "backup", homeObservations, .success, 0⟩

/-- The second commit is Repo B's `candidate`, and its deployment was a success. -/
def deployedHome : System :=
  { synchronizedHome with
    store := { synchronizedHome.store with
      preparedDeployment := fun deploymentId =>
        if deploymentId = homePlan.deploymentId then some homePrepared else none
      plans := fun deploymentId =>
        if deploymentId = homePlan.deploymentId then some homePlan else none
      observations := homeObservations
      finalizations := [homeFinalization] }
    remote := synchronizedHome.remote.move candidateBranch secondCommit }

def homePromotion : DeploymentPromotion := plannedPromotion homeFinalization homePrepared 0

/-- Its promotion has moved `main` and made no tag. -/
def halfPromotedHome : System :=
  { deployedHome with
    store := { deployedHome.store with promotions := [homePromotion] }
    remote := deployedHome.remote.move mainBranch secondCommit }

theorem halfPromotedHome_promotable : Promotable homePlan homeFinalization homePrepared
    halfPromotedHome where
  own := fun other stored => by
    have here : halfPromotedHome.store.plans homePlan.deploymentId = some homePlan := by decide
    exact Option.some.inj (stored.symm.trans here)
  successful := by decide
  evidence := by decide
  candidate := by decide
  main := .inr (by decide)
  tag := .inl (by decide)

end SyncApp
