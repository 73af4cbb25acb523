import SyncApp.Pipeline.AtMostOnce
import SyncApp.Pipeline.Lanes
import SyncApp.Pipeline.Promoting

/-!
# Promotion and rollback exclude each other

Every row and every item that takes a deployment forward needs a finalization as a success, and every
one that takes it back needs one as a failure. A finalization is never changed, so whatever the lanes
do, and wherever they stop, no deployment goes both ways.
-/

set_option autoImplicit false

namespace SyncApp

open Lib Raising Lane

namespace Store

variable (store : Store)

/-- The outcome a deployment was finalized with. -/
def outcome (deploymentId : PyStr) : Option DeploymentOutcome :=
  (store.finalizations.find? (·.deploymentId = deploymentId)).map (·.outcome)

/-- The deployments that have a promotion. -/
def promotedIds : List PyStr := store.promotions.map (·.deploymentId)

/-- The deployments that have a rollback. -/
def rolledBackIds : List PyStr := store.rollbacks.map (·.deploymentId)

/-- A deployment has a promotion, or work for one. -/
def GoesForward (deploymentId : PyStr) : Prop :=
  deploymentId ∈ store.promotedIds ∨ (WorkKind.candidatePromote, deploymentId) ∈ store.workKeys

/-- A deployment has a rollback, or work for one. -/
def GoesBack (deploymentId : PyStr) : Prop :=
  deploymentId ∈ store.rolledBackIds ∨
    (WorkKind.candidateRollback, deploymentId) ∈ store.workKeys ∨
    (WorkKind.deploymentRollback, deploymentId) ∈ store.workKeys

/-- A plan that is loaded for a deployment is the deployment's. -/
def OwnPlans : Prop :=
  ∀ deploymentId plan, store.plans deploymentId = some plan → plan.deploymentId = deploymentId

/-- Each deployment goes the way it was finalized. -/
structure Routed : Prop where
  own : store.OwnPlans
  forward : ∀ deploymentId, store.GoesForward deploymentId →
    store.outcome deploymentId = some .success
  back : ∀ deploymentId, store.GoesBack deploymentId →
    ∃ stage, store.outcome deploymentId = some (.failure stage)

end Store

/-- No finalization is lost, and what is new goes the way its deployment was finalized. -/
structure Follows (first second : Store) : Prop where
  plans : second.plans = first.plans
  outcomes : ∀ deploymentId outcome, first.outcome deploymentId = some outcome →
    second.outcome deploymentId = some outcome
  forward : ∀ deploymentId, second.GoesForward deploymentId →
    first.GoesForward deploymentId ∨ second.outcome deploymentId = some .success
  back : ∀ deploymentId, second.GoesBack deploymentId →
    first.GoesBack deploymentId ∨ ∃ stage, second.outcome deploymentId = some (.failure stage)

/-- An action of a lane, where plans are their deployments'. -/
def Routes (s t : System) : Prop := s.store.OwnPlans → Follows s.store t.store

/-- Others leave the two ways to the lanes. -/
structure LaneOthers (s t : System) : Prop where
  promotions : t.store.promotions = s.store.promotions
  rollbacks : t.store.rollbacks = s.store.rollbacks
  finalizations : t.store.finalizations = s.store.finalizations
  own : s.store.OwnPlans → t.store.OwnPlans
  work : ∀ workKind deploymentId,
    workKind ∈ [WorkKind.candidatePromote, .candidateRollback, .deploymentRollback] →
    (workKind, deploymentId) ∈ t.store.workKeys → (workKind, deploymentId) ∈ s.store.workKeys

theorem LaneOthers.refl (s : System) : LaneOthers s s :=
  ⟨rfl, rfl, rfl, fun own => own, fun _ _ _ here => here⟩

theorem LaneOthers.trans (r s t : System) (first : LaneOthers r s) (second : LaneOthers s t) :
    LaneOthers r t where
  promotions := second.promotions.trans first.promotions
  rollbacks := second.rollbacks.trans first.rollbacks
  finalizations := second.finalizations.trans first.finalizations
  own := fun own => second.own (first.own own)
  work := fun workKind deploymentId routed here =>
    first.work workKind deploymentId routed (second.work workKind deploymentId routed here)

/-! ## Steps -/

section Steps

variable {first second : Store} {s t : System}

theorem Follows.routed (follows : Follows first second) (routed : first.Routed) :
    second.Routed where
  own := by
    intro deploymentId plan loaded
    rw [follows.plans] at loaded
    exact routed.own deploymentId plan loaded
  forward := fun deploymentId here => by
    rcases follows.forward deploymentId here with before | success
    · exact follows.outcomes deploymentId _ (routed.forward deploymentId before)
    · exact success
  back := fun deploymentId here => by
    rcases follows.back deploymentId here with before | failure
    · obtain ⟨stage, failed⟩ := routed.back deploymentId before
      exact ⟨stage, follows.outcomes deploymentId _ failed⟩
    · exact failure

theorem outcome_congr (same : second.finalizations = first.finalizations) (deploymentId : PyStr) :
    second.outcome deploymentId = first.outcome deploymentId := by
  unfold Store.outcome
  rw [same]

theorem LaneOthers.routed (others : LaneOthers s t) (routed : s.store.Routed) :
    t.store.Routed where
  own := others.own routed.own
  forward := fun deploymentId here => by
    rw [outcome_congr others.finalizations]
    apply routed.forward
    rcases here with row | work
    · refine .inl ?_
      unfold Store.promotedIds at *
      rw [← others.promotions]
      exact row
    · exact .inr (others.work _ _ (by simp) work)
  back := fun deploymentId here => by
    rw [outcome_congr others.finalizations]
    apply routed.back
    rcases here with row | work | work
    · refine .inl ?_
      unfold Store.rolledBackIds at *
      rw [← others.rollbacks]
      exact row
    · exact .inr (.inl (others.work _ _ (by simp) work))
    · exact .inr (.inr (others.work _ _ (by simp) work))

/-- What leaves the tables and the keys of the queue. -/
theorem Follows.of_same (plans : second.plans = first.plans)
    (finalizations : second.finalizations = first.finalizations)
    (promoted : second.promotedIds = first.promotedIds)
    (rolledBack : second.rolledBackIds = first.rolledBackIds)
    (work : second.workKeys = first.workKeys) : Follows first second where
  plans := plans
  outcomes := fun deploymentId outcome here => (outcome_congr finalizations deploymentId).trans here
  forward := fun deploymentId here => by
    unfold Store.GoesForward at *
    rw [promoted, work] at here
    exact .inl here
  back := fun deploymentId here => by
    unfold Store.GoesBack at *
    rw [rolledBack, work] at here
    exact .inl here

theorem Follows.refl (store : Store) : Follows store store := .of_same rfl rfl rfl rfl rfl

theorem Routes.refl (s : System) : Routes s s := fun _ => .refl s.store

theorem Routes.of_store (same : t.store = s.store) : Routes s t := fun _ => by
  rw [same]
  exact .refl s.store

theorem OnlyStatus.follows {α : Type} {change : Store → Except Failure (α × Store)}
    (status : OnlyStatus change) {a : α} (changed : change first = .ok (a, second)) :
    Follows first second := by
  obtain ⟨⟨work, rfl⟩, keys⟩ := status first a second changed
  exact .of_same rfl rfl rfl rfl keys

/-- Rows of which one is replaced are for the same deployments. -/
theorem map_deploymentId_replaced {ρ : Type} [DecidableEq ρ] (deploymentId : ρ → PyStr)
    {current replacement : ρ} (same : deploymentId replacement = deploymentId current)
    (rows : List ρ) :
    (rows.map fun row => if row = current then replacement else row).map deploymentId =
      rows.map deploymentId := by
  rw [List.map_map]
  refine List.map_congr_left fun row _ => ?_
  simp only [Function.comp_apply]
  split
  next here => rw [here, same]
  next => rfl

/-- A finalization that is loaded is the deployment's outcome. -/
theorem loadDeploymentFinalization_outcome {store : Store} {plan : PostDeploymentAssertionPlan}
    {finalization : DeploymentFinalization}
    (loaded : loadDeploymentFinalization store plan = .ok (some finalization)) :
    store.outcome plan.deploymentId = some finalization.outcome := by
  unfold Store.outcome
  rw [(loadDeploymentFinalization_some loaded).1]
  rfl

/-- A new item goes the way its deployment was finalized. -/
theorem Follows.insertWork {item : WorkItem} (inserted : first.insertWork item = .ok second)
    (forward : item.workKind = .candidatePromote → first.outcome item.workKey = some .success)
    (back : item.workKind = .candidateRollback ∨ item.workKind = .deploymentRollback →
      ∃ stage, first.outcome item.workKey = some (.failure stage)) : Follows first second := by
  unfold Store.insertWork at inserted
  split at inserted
  · cases inserted
  cases inserted
  have keys : ∀ key, key ∈ ({ first with work := first.work ++ [item] } : Store).workKeys →
      key ∈ first.workKeys ∨ key = (item.workKind, item.workKey) := by
    intro key here
    unfold Store.workKeys at *
    rw [List.map_append] at here
    rcases List.mem_append.mp here with old | new
    · exact .inl old
    · exact .inr (List.mem_singleton.mp new)
  refine ⟨rfl, fun _ _ here => here, fun deploymentId here => ?_, fun deploymentId here => ?_⟩
  · rcases here with row | work
    · exact .inl (.inl row)
    rcases keys _ work with old | new
    · exact .inl (.inr old)
    · obtain ⟨kind, key⟩ := Prod.mk.inj new
      subst key
      exact .inr (forward kind.symm)
  · rcases here with row | work | work
    · exact .inl (.inl row)
    · rcases keys _ work with old | new
      · exact .inl (.inr (.inl old))
      · obtain ⟨kind, key⟩ := Prod.mk.inj new
        subst key
        exact .inr (back (.inl kind.symm))
    · rcases keys _ work with old | new
      · exact .inl (.inr (.inr old))
      · obtain ⟨kind, key⟩ := Prod.mk.inj new
        subst key
        exact .inr (back (.inr kind.symm))

theorem Follows.trans {third : Store} (one : Follows first second) (two : Follows second third) :
    Follows first third where
  plans := two.plans.trans one.plans
  outcomes := fun deploymentId outcome here =>
    two.outcomes deploymentId outcome (one.outcomes deploymentId outcome here)
  forward := fun deploymentId here => by
    rcases two.forward deploymentId here with before | success
    · exact (one.forward deploymentId before).imp_right (two.outcomes deploymentId _)
    · exact .inr success
  back := fun deploymentId here => by
    rcases two.back deploymentId here with before | failure
    · refine (one.back deploymentId before).imp_right fun ⟨stage, failed⟩ => ?_
      exact ⟨stage, two.outcomes deploymentId _ failed⟩
    · exact .inr failure

end Steps

/-! ## Transactions -/

section Transactions

variable {plan : PostDeploymentAssertionPlan} {first second : Store}

theorem routes_onlyStatus {α : Type} {change : Store → Except Failure (α × Store)}
    (status : OnlyStatus change) : Every Routes (transaction change) :=
  every_transaction .refl fun _ _ _ changed _ => status.follows changed

/-- A finalization is only added where its deployment has none. -/
theorem insertFinalization_follows {requested saved : DeploymentFinalization}
    (inserted : insertFinalization plan requested first = .ok (saved, second)) :
    Follows first second := by
  unfold insertFinalization at inserted
  obtain ⟨decided, _, inserted⟩ := bind_eq_ok.mp inserted
  split at inserted
  · cases inserted
  obtain ⟨existing, loaded, inserted⟩ := bind_eq_ok.mp inserted
  cases existing with
  | some existing =>
    cases inserted
    exact .refl first
  | none =>
    cases inserted
    refine ⟨rfl, fun deploymentId outcome here => ?_, fun _ here => .inl here,
      fun _ here => .inl here⟩
    unfold Store.outcome at *
    obtain ⟨row, found, same⟩ := Option.map_eq_some_iff.mp here
    rw [List.find?_append, found]
    exact congrArg some same

/-- A promotion is planned on a finalization as a success. -/
theorem insertPromotion_follows {requested saved : DeploymentPromotion}
    (here : requested.deploymentId = plan.deploymentId)
    (inserted : insertPromotion plan requested first = .ok (saved, second)) :
    Follows first second := by
  unfold insertPromotion at inserted
  obtain ⟨finalization, successful, inserted⟩ := bind_eq_ok.mp inserted
  obtain ⟨existing, _, inserted⟩ := bind_eq_ok.mp inserted
  obtain ⟨success, loaded⟩ := successfulFinalization_ok successful
  have outcome : first.outcome plan.deploymentId = some .success := by
    rw [loadDeploymentFinalization_outcome loaded, success]
  cases existing with
  | some existing =>
    cases inserted
    exact .refl first
  | none =>
    dsimp only at inserted
    split at inserted
    · cases inserted
      refine ⟨rfl, fun _ _ here => here, fun deploymentId goes => ?_, fun _ goes => .inl goes⟩
      rcases goes with row | work
      · unfold Store.promotedIds at row
        rw [List.map_append] at row
        rcases List.mem_append.mp row with old | new
        · exact .inl (.inl old)
        · obtain rfl := List.mem_singleton.mp new
          refine .inr ?_
          show first.outcome requested.deploymentId = some .success
          rw [here]
          exact outcome
      · exact .inl (.inr work)
    · cases inserted

theorem setTerminalPromotion_follows {current row : DeploymentPromotion} {phase : PromotionPhase}
    (settled : setTerminalPromotion plan current phase first = .ok (row, second)) :
    Follows first second := by
  obtain ⟨_, rfl | rfl⟩ := setTerminalPromotion_ok settled
  · exact .refl second
  · refine .of_same rfl rfl ?_ rfl rfl
    unfold Store.promotedIds
    have same : ({ current with phase := phase } : DeploymentPromotion).deploymentId =
      current.deploymentId := rfl
    exact map_deploymentId_replaced (·.deploymentId) same first.promotions

/-- A rollback is planned on a finalization as a failure. -/
theorem failureAuthority_outcome {evidence : PreparedEvidence × DeploymentFinalization}
    (authorized : failureAuthority first plan = .ok evidence) :
    ∃ stage, first.outcome plan.deploymentId = some (.failure stage) := by
  unfold failureAuthority at authorized
  obtain ⟨loaded, found, authorized⟩ := bind_eq_ok.mp authorized
  cases loaded with
  | none => cases authorized
  | some finalization =>
    dsimp only at authorized
    split at authorized
    · cases authorized
    next failed =>
      cases outcome : finalization.outcome with
      | success => exact absurd outcome failed
      | failure stage =>
        refine ⟨stage, ?_⟩
        rw [loadDeploymentFinalization_outcome (mapError_eq_ok.mp found), outcome]

theorem insertRollback_follows {requested : DeploymentRollback} {saved : DeploymentRollback × Bool}
    (here : requested.deploymentId = plan.deploymentId)
    (inserted : insertRollback plan requested first = .ok (saved, second)) :
    Follows first second := by
  unfold insertRollback at inserted
  obtain ⟨evidence, authorized, inserted⟩ := bind_eq_ok.mp inserted
  obtain ⟨existing, _, inserted⟩ := bind_eq_ok.mp inserted
  cases existing with
  | some existing =>
    obtain ⟨_, _, inserted⟩ := bind_eq_ok.mp inserted
    cases inserted
    exact .refl first
  | none =>
    dsimp only at inserted
    split at inserted
    · cases inserted
    · cases inserted
      refine ⟨rfl, fun _ _ here => here, fun _ goes => .inl goes, fun deploymentId goes => ?_⟩
      rcases goes with row | work
      · unfold Store.rolledBackIds at row
        rw [List.map_append] at row
        rcases List.mem_append.mp row with old | new
        · exact .inl (.inl old)
        · obtain rfl := List.mem_singleton.mp new
          refine .inr ?_
          show ∃ stage, first.outcome requested.deploymentId = some (.failure stage)
          rw [here]
          exact failureAuthority_outcome authorized
      · exact .inl (.inr work)

theorem replaceRollback_follows {current replacement : DeploymentRollback}
    (same : replacement.deploymentId = current.deploymentId)
    (replaced : replaceRollback plan current replacement first = .ok ((), second)) :
    Follows first second := by
  unfold replaceRollback at replaced
  obtain ⟨loaded, _, replaced⟩ := bind_eq_ok.mp replaced
  split at replaced
  · cases replaced
  · cases replaced
    refine .of_same rfl rfl rfl ?_ rfl
    unfold Store.rolledBackIds
    exact map_deploymentId_replaced (·.deploymentId) same first.rollbacks

theorem succeedWork_follows {item : WorkItem} {now : Int} {failure : Failure}
    (succeeded : succeedWork item now failure first = .ok second) : Follows first second := by
  unfold succeedWork at succeeded
  split at succeeded
  next updated =>
    cases succeeded
    have status := Store.updateWork_onlyStatus (by exact fun _ kind key => ⟨kind, key⟩) updated
    obtain ⟨⟨work, rfl⟩, keys⟩ := status
    exact .of_same rfl rfl rfl rfl keys
  next => cases succeeded

/-- The successor goes the way of the finalization that is there. -/
theorem finishFinalization_follows {item : WorkItem} {finalized : DeploymentFinalization}
    {now : Int} (own : first.OwnPlans)
    (finished : finishFinalization item plan finalized now first = .ok ((), second)) :
    Follows first second := by
  unfold finishFinalization at finished
  obtain ⟨current, planned, finished⟩ := bind_eq_ok.mp finished
  obtain ⟨record, loaded, finished⟩ := bind_eq_ok.mp finished
  have mine : current.deploymentId = item.workKey := by
    unfold loadPlan at planned
    cases stored : first.plans item.workKey with
    | none =>
      rw [stored] at planned
      cases planned
    | some found =>
      rw [stored] at planned
      cases planned
      exact own item.workKey current stored
  cases record with
  | none => cases finished
  | some record =>
    dsimp only at finished
    split at finished
    · cases finished
    next same =>
      simp only [not_or, not_not] at same
      split at finished
      · cases finished
      obtain ⟨scheduled, inserted, finished⟩ := bind_eq_ok.mp finished
      obtain ⟨settled, succeeded, finished⟩ := bind_eq_ok.mp finished
      cases finished
      have outcome : first.outcome item.workKey = some finalized.outcome := by
        rw [← mine, loadDeploymentFinalization_outcome loaded, same.2.1]
      refine (Follows.insertWork inserted (fun forward => ?_) fun back => ?_).trans
        (succeedWork_follows succeeded)
      · refine outcome.trans (congrArg some ?_)
        cases here : finalized.outcome with
        | success => rfl
        | failure stage => rw [here] at forward; cases forward
      · cases here : finalized.outcome with
        | success =>
          rw [here] at back
          rcases back with wrong | wrong
          · cases wrong
          · cases wrong
        | failure stage => exact ⟨stage, outcome.trans (congrArg some here)⟩

end Transactions

/-! ## Lanes -/

section Lanes

variable {plan : PostDeploymentAssertionPlan} {α : Type}

theorem routes_query (read : Store → Except Failure α) : Every Routes (query read) :=
  every_query .refl read

theorem routes_outside {call : System → Except Failure (α × System)}
    (looks : ∀ s a t, call s = .ok (a, t) → t.store = s.store) : Every Routes (outside call) :=
  every_outside .refl fun s a t called => .of_store (looks s a t called)

theorem routes_request {call : System → Except Failure (α × System)}
    (looks : ∀ s a t, call s = .ok (a, t) → t.store = s.store) : Every Routes (request call) :=
  every_request .refl fun s a t called => .of_store (looks s a t called)

theorem routes_note (event : Event) : Every Routes (note event) :=
  every_note fun _ => .of_store rfl

theorem routes_ask (read : RollbackAnswers → Except Failure α) : Every Routes (ask read) :=
  Every.action .refl

theorem routes_moment (time : Option Int) : Every Routes (moment time) := by
  cases time with
  | some time => exact .pure time
  | none => exact every_clock .refl

theorem routes_suppressedFailWork (item : WorkItem) (transient : Bool) (now : Int) :
    Every Routes (suppressedFailWork item transient now) :=
  .tryCatch (.bind (routes_onlyStatus (failWork_onlyStatus item transient now)) fun _ => .pure ())
    fun _ => .pure ()

theorem claimLane_onlyStatus (workKind : WorkKind) (now : Int) :
    OnlyStatus (claimLane workKind now) := by
  intro store claimed changed done
  obtain ⟨⟨_, first⟩, keys⟩ :=
    recoverInterruptedWork_onlyStatus (fun kind => kind = workKind) now store () _ rfl
  obtain ⟨⟨work, second⟩, more⟩ := claimWorkKind_onlyStatus workKind now _ claimed changed done
  rw [first] at second
  exact ⟨⟨work, second⟩, more.trans keys⟩

/-- A pass does what its executor does, and books it. -/
theorem routes_runLanePass (workKind : WorkKind) (failedClosed : String)
    {executor : WorkItem → Lane WorkItem} (now : Int)
    (executes : ∀ item, Every Routes (executor item)) :
    Every Routes (runLanePass workKind failedClosed executor now) := by
  refine .bind (every_rethrow _ (routes_onlyStatus (claimLane_onlyStatus workKind now)))
    fun claimed => ?_
  cases claimed with
  | none => exact .pure none
  | some item =>
    refine .bind (.tryCatch ?_ fun failure => ?_) fun _ => .pure (some item)
    · refine .bind (executes item) fun finished => ?_
      refine .bind (every_rethrow _ (routes_query _)) fun current => ?_
      exact every_ensure _ _
    · exact .bind (routes_suppressedFailWork item failure.transient now) fun _ => .throw _

/-! ### Finalization -/

theorem routes_finalizeDeploymentOnce (now : Int) :
    Every Routes (finalizeDeploymentOnce plan now) := by
  refine .bind (routes_query _) fun existing => ?_
  cases existing with
  | some existing => exact .pure existing
  | none =>
    refine .bind (routes_query _) fun requested => ?_
    exact every_transaction .refl fun _ _ _ inserted _ => insertFinalization_follows inserted

theorem routes_executeCandidateFinalizationOnce (item : WorkItem) (now : Int) :
    Every Routes (executeCandidateFinalizationOnce item now) := by
  refine .bind (every_ensure _ _) fun _ => every_rethrow _ ?_
  refine .bind (routes_query _) fun plan => ?_
  refine .bind (routes_finalizeDeploymentOnce now) fun finalized => ?_
  refine .bind (every_transaction .refl fun _ _ _ finished own =>
    finishFinalization_follows own finished) fun _ => ?_
  refine .bind (routes_query _) fun work => .bind (routes_query _) fun successor => ?_
  exact .bind (every_ensure _ _) fun _ => .pure work

/-! ### Promotion -/

section Promotion

variable (git : Git) (credential : PublicationCredential) (intent : DeploymentPromotion)

theorem routes_fetchTrustedCommit (branch : PyStr) :
    Every Routes (fetchTrustedCommit intent branch) := by
  refine .bind (.bind (routes_outside fun s a t called => ?_) fun head => ?_) fun head => ?_
  · split at called
    · cases called
      rfl
    · cases called
  · exact .bind (every_ensure _ _) fun _ => .pure head
  · split
    · exact .pure _
    · exact .throw _

theorem routes_readWithDeployKey : Every Routes (readPromotionRemoteStateWithDeployKey intent) := by
  refine routes_outside fun s a t called => ?_
  split at called
  · cases called
    rfl
  · cases called

theorem routes_readRemote : Every Routes (readRemote credential intent) := by
  have noted : ∀ state : PromotionRemoteState, Every Routes (do
      note (.observedRefs intent.deploymentId state)
      return state) := fun state => .bind (routes_note _) fun _ => .pure state
  cases credential with
  | token =>
    refine .bind (every_rethrow _ ?_) noted
    refine .bind (routes_fetchTrustedCommit intent _) fun candidate => ?_
    refine .bind (routes_fetchTrustedCommit intent _) fun main => ?_
    refine .bind (routes_outside fun s a t called => ?_) fun tag => .pure _
    cases called
    rfl
  | deployKey => exact .bind (every_rethrow _ (routes_readWithDeployKey intent)) noted

theorem routes_publishPromotionRefs (state : PromotionRemoteState) :
    Every Routes (publishPromotionRefs git intent state) := by
  refine .bind (routes_outside fun s a t called => ?_) fun _ => .bind (every_ensure _ _) fun _ =>
    .bind ?_ fun _ => ?_
  · split at called
    · cases called
      rfl
    · cases called
  · unfold publishMain
    split
    · refine routes_request fun s a t called => ?_
      split at called
      · cases called
        rfl
      · cases called
    · exact every_ensure _ _
  · unfold publishTag
    split
    · refine routes_request fun s a t called => ?_
      split at called
      · cases called
      · cases called
        rfl
    · exact every_ensure _ _

theorem routes_pushMissingRefs (state : PromotionRemoteState) :
    Every Routes (pushMissingRefs git intent state) := by
  refine routes_request fun s a t called => ?_
  dsimp only at called
  split at called
  · cases called
    rfl
  · cases called

theorem routes_publishWithDeployKey (state : PromotionRemoteState) :
    Every Routes (publishPromotionRefsWithDeployKey git intent state) := by
  refine .bind (routes_readWithDeployKey intent) fun fresh => ?_
  refine .bind (every_ensure _ _) fun _ => .bind (every_ensure _ _) fun _ => ?_
  split
  · exact .pure ()
  refine .bind (routes_outside fun s a t called => ?_) fun _ => ?_
  · split at called
    · cases called
      rfl
    · cases called
  refine .bind (routes_readWithDeployKey intent) fun immediate => .bind (every_ensure _ _) fun _ => ?_
  split
  · exact .pure ()
  refine .bind (every_ensure _ _) fun _ => .bind (routes_pushMissingRefs git intent _) fun _ => ?_
  refine .bind (routes_readWithDeployKey intent) fun after => ?_
  split
  · exact .pure ()
  · exact .throw _
  · exact .throw _

theorem routes_publishRefs (state : PromotionRemoteState) :
    Every Routes (publishRefs git credential intent state) := by
  refine .bind (routes_note _) fun _ => ?_
  cases credential with
  | token => exact every_rethrow _ (routes_publishPromotionRefs git intent state)
  | deployKey => exact every_rethrow _ (routes_publishWithDeployKey git intent state)

theorem routes_setTerminal (phase : PromotionPhase) :
    Every Routes (setTerminal plan intent phase) :=
  .bind (every_ensure _ _) fun _ =>
    every_transaction .refl fun _ _ _ settled _ => setTerminalPromotion_follows settled

theorem routes_settlePromotion (state : PromotionRemoteState) (now : Int)
    {publish : Lane DeploymentPromotion} (rest : Every Routes publish) :
    Every Routes (settlePromotion plan intent state now publish) := by
  unfold settlePromotion
  split
  · exact .bind (routes_setTerminal intent _) fun _ => .throw _
  · exact routes_setTerminal intent _
  · exact rest

theorem routes_planPromotion (existing : Option DeploymentPromotion) (now : Int) :
    Every Routes (planPromotion plan existing now) := by
  refine every_query_bind .refl fun store finalization successful => ?_
  refine .bind (routes_query _) fun prepared => .bind (every_ensure _ _) fun _ => ?_
  split
  · exact .pure _
  · exact every_transaction .refl fun _ _ _ inserted _ =>
      insertPromotion_follows (successfulFinalization_deployment successful) inserted

theorem routes_promoteFinalizedDeploymentOnce (now : Int) :
    Every Routes (promoteFinalizedDeploymentOnce git credential plan now) := by
  refine .bind (routes_query _) fun existing => ?_
  split
  · exact .pure _
  · exact .throw _
  refine .bind (routes_planPromotion existing now) fun intent => ?_
  refine .bind (routes_readRemote credential intent) fun before => ?_
  refine routes_settlePromotion intent before now ?_
  refine .bind (routes_publishRefs git credential intent before) fun _ => ?_
  refine .bind (routes_readRemote credential intent) fun after => ?_
  exact routes_settlePromotion intent after now (.throw _)

theorem routes_executeCandidatePromotionOnce (item : WorkItem) (now : Int) :
    Every Routes (executeCandidatePromotionOnce git credential item now) := by
  refine .bind (every_ensure _ _) fun _ => every_rethrow _ ?_
  refine .bind (routes_query _) fun plan => ?_
  refine .bind (routes_promoteFinalizedDeploymentOnce git credential now) fun promoted => ?_
  split
  · exact routes_onlyStatus (finishPromotion_onlyStatus item now)
  · exact .throw _

end Promotion

/-! ### Rollback -/

section Rollback

variable (access : RollbackAccess)

theorem routes_readRepository : Every Routes (readRepository access) :=
  .bind (.ofResult _) fun _ => routes_ask _

theorem routes_transitionRollback (current : DeploymentRollback) (change : RollbackChange)
    (time : Int) : Every Routes (transitionRollback plan current change time) := by
  refine .bind (every_ensure _ _) fun _ => ?_
  refine .bind (every_transaction .refl fun s a store replaced _ => ?_) fun _ => ?_
  · have same : (current.change change time).deploymentId = current.deploymentId := rfl
    exact replaceRollback_follows same replaced
  · exact .bind (routes_query _) fun loaded => .bind (every_ensure _ _) fun _ => .pure _

theorem routes_authorizeDeploymentRollbackOnce (observedAt : Option Int) :
    Every Routes (authorizeDeploymentRollbackOnce access plan observedAt) := by
  refine .bind (routes_query _) fun existing => ?_
  cases existing with
  | some existing => exact .bind (routes_query _) fun _ => .pure _
  | none =>
    refine .bind (routes_query _) fun authority => .bind (.ofResult _) fun _ => ?_
    refine .bind (routes_readRepository access) fun repository => .bind (every_ensure _ _) fun _ => ?_
    refine .bind (routes_ask _) fun backup => .bind (routes_query _) fun coreVersion => ?_
    refine .bind (every_ensure _ _) fun _ => .bind (routes_moment observedAt) fun time => ?_
    refine .bind (every_ensure _ _) fun _ => .bind (every_ensure _ _) fun _ => ?_
    refine .bind (every_transaction .refl fun s a store inserted _ => ?_) fun saved => ?_
    · exact insertRollback_follows rfl inserted
    refine .bind ?_ fun _ => .pure _
    unfold authorizeNewRollback.ensureSaved
    split
    · exact .pure ()
    · exact .bind (routes_query _) fun loaded => .bind (every_ensure _ _) fun _ => routes_query _

theorem routes_executeCandidateRollbackOnce (item : WorkItem) (now : Int) :
    Every Routes (executeCandidateRollbackOnce access item now) := by
  refine .bind (every_ensure _ _) fun _ => every_rethrow _ ?_
  refine .bind (routes_query _) fun plan => ?_
  refine .bind (routes_authorizeDeploymentRollbackOnce access (some now)) fun authorized => ?_
  refine .bind (every_ensure _ _) fun _ => ?_
  refine .bind (every_transaction .refl fun s a store finished _ => ?_) fun _ => ?_
  · obtain ⟨current, _, finished⟩ := bind_eq_ok.mp finished
    obtain ⟨intent, _, finished⟩ := bind_eq_ok.mp finished
    cases intent with
    | none => cases finished
    | some intent =>
      dsimp only at finished
      split at finished
      · cases finished
      obtain ⟨recovered, _, finished⟩ := bind_eq_ok.mp finished
      split at finished
      · cases finished
      obtain ⟨settled, succeeded, finished⟩ := bind_eq_ok.mp finished
      cases finished
      exact succeedWork_follows succeeded
  · exact .bind (routes_query _) fun work => .bind (every_ensure _ _) fun _ => .pure work

theorem routes_uncertainRestore (started : DeploymentRollback) (time : Int) :
    Every Routes (uncertainRestore plan started time) :=
  .bind (routes_transitionRollback _ _ _) fun _ => .throw _

theorem routes_requestDeploymentRestoreOnce (requestedAt : Option Int) :
    Every Routes (requestDeploymentRestoreOnce access plan requestedAt) := by
  refine .bind (routes_query _) fun current => ?_
  cases current with
  | none => exact .throw _
  | some current =>
    dsimp only
    split
    · exact .pure _
    · exact .pure _
    · exact .pure _
    · exact .pure _
    next =>
      refine .bind (.ofResult _) fun _ => .bind (.ofResult _) fun _ => ?_
      refine .bind (.bind (routes_readRepository access) fun _ => .bind (every_ensure _ _) fun _ =>
        .bind (routes_ask _) fun _ => every_ensure _ _) fun _ => ?_
      refine .bind (routes_moment requestedAt) fun time => ?_
      refine .bind (routes_transitionRollback _ _ _) fun started => ?_
      refine .bind (.action fun s => .of_store rfl) fun response => ?_
      cases response with
      | none => exact routes_uncertainRestore started time
      | some response =>
        unfold settleRestore
        dsimp only
        split
        · exact .bind (routes_transitionRollback _ _ _) fun _ => .pure _
        split
        · exact routes_uncertainRestore started time
        · exact .bind (routes_transitionRollback _ _ _) fun _ => .pure _
    · exact .throw _
    · exact .throw _

theorem routes_reconcileDeploymentRestoreOnce (fromisoformat : String → Option DateTime)
    (observedAt : Option Int) :
    Every Routes (reconcileDeploymentRestoreOnce fromisoformat access plan observedAt) := by
  refine .bind (routes_query _) fun current => ?_
  cases current with
  | none => exact .throw _
  | some current =>
    have reconciles :
        Every Routes (reconcileRequestedRestore fromisoformat access plan current observedAt) := by
      refine .bind (.ofResult _) fun _ => .bind (.ofResult _) fun _ => ?_
      refine .bind (routes_ask _) fun response => .bind (routes_moment observedAt) fun time => ?_
      refine .bind (every_ensure _ _) fun _ => ?_
      unfold settleReconciliation
      split
      · split
        · exact .pure _
        · exact .bind (routes_transitionRollback _ _ _) fun _ => .pure _
      · exact .bind (routes_transitionRollback _ _ _) fun _ => .pure _
      · exact .bind (routes_transitionRollback _ _ _) fun _ => .pure _
    dsimp only
    split
    · exact .pure _
    · exact .pure _
    · exact .pure _
    · exact .throw _
    · exact reconciles
    · exact reconciles
    · exact reconciles

theorem routes_completeDeploymentRollbackOnce (observedAt : Option Int) :
    Every Routes (completeDeploymentRollbackOnce access plan observedAt) := by
  refine .bind (routes_query _) fun current => ?_
  cases current with
  | none => exact .throw _
  | some current =>
    dsimp only
    split
    · exact .pure _
    split
    · exact .pure _
    split
    · refine .bind (.ofResult _) fun _ => .bind (routes_readRepository access) fun repository => ?_
      split
      · refine .bind (routes_ask _) fun _ => .bind (routes_moment observedAt) fun time => ?_
        exact .bind (every_ensure _ _) fun _ => .bind (routes_transitionRollback _ _ _) fun _ => .pure _
      · refine .bind (routes_moment observedAt) fun time => .bind (every_ensure _ _) fun _ => ?_
        exact .bind (routes_transitionRollback _ _ _) fun _ => .pure _
    · exact .throw _

theorem routes_underRecoveryPlan (rollback : DeploymentRollback) (failedClosed : String)
    {call : PostDeploymentAssertionPlan → Lane RollbackRestoreResult}
    (calls : ∀ plan, Every Routes (call plan)) :
    Every Routes (underRecoveryPlan rollback failedClosed call) :=
  .bind (routes_query _) fun plan => every_rethrow _ (calls plan)

/-- A poll and how it is booked. -/
theorem routes_runClaimedRollback (fromisoformat : String → Option DateTime) (item : WorkItem)
    (rollback : DeploymentRollback) (now : Int) :
    Every Routes (runClaimedRollback fromisoformat access item rollback now) := by
  have fails : ∀ transient, Every Routes (transaction (failWork item transient now)) :=
    fun transient => routes_onlyStatus (failWork_onlyStatus item transient now)
  refine .bind (.tryCatch ?_ fun failure => .bind (fails _) fun _ => .throw _) fun outcome => ?_
  · unfold pollRollback
    split
    · split
      · exact .pure _
      · exact .bind (routes_underRecoveryPlan rollback _ fun plan =>
          routes_completeDeploymentRollbackOnce access (some now)) fun _ => .pure _
    split
    · exact .bind (routes_underRecoveryPlan rollback _ fun plan =>
        routes_reconcileDeploymentRestoreOnce access fromisoformat (some now)) fun _ => .pure _
    split
    · exact .pure _
    · exact .bind (routes_underRecoveryPlan rollback _ fun plan =>
        routes_requestDeploymentRestoreOnce access (some now)) fun _ => .pure _
  · unfold settleRollbackPoll
    split
    · exact fails true
    split
    · exact fails false
    split
    · exact fails true
    · exact routes_onlyStatus (completeWork_onlyStatus item now)

end Rollback

/-! ### Discovery -/

/-- Work of a rollback that is there goes its way. -/
theorem enqueueWork_follows {deploymentId : PyStr} {now : Int} {item : WorkItem}
    {first second : Store} (here : deploymentId ∈ first.rolledBackIds)
    (enqueued : enqueueWork .deploymentRollback deploymentId now first = .ok (item, second)) :
    Follows first second ∧ second.rollbacks = first.rollbacks := by
  unfold enqueueWork at enqueued
  split at enqueued
  · cases enqueued
    exact ⟨.refl first, rfl⟩
  · cases enqueued
    refine ⟨⟨rfl, fun _ _ here => here, fun other goes => ?_, fun other goes => ?_⟩, rfl⟩
    · rcases goes with row | work
      · exact .inl (.inl row)
      unfold Store.workKeys at work
      rw [List.map_append] at work
      rcases List.mem_append.mp work with old | new
      · exact .inl (.inr old)
      · cases List.mem_singleton.mp new
    · rcases goes with row | work | work
      · exact .inl (.inl row)
      · unfold Store.workKeys at work
        rw [List.map_append] at work
        rcases List.mem_append.mp work with old | new
        · exact .inl (.inr (.inl old))
        · cases List.mem_singleton.mp new
      · unfold Store.workKeys at work
        rw [List.map_append] at work
        rcases List.mem_append.mp work with old | new
        · exact .inl (.inr (.inr old))
        · cases List.mem_singleton.mp new
          exact .inl (.inl here)

theorem LaneOthers.rolledBackIds {s t : System} (others : LaneOthers s t) :
    t.store.rolledBackIds = s.store.rolledBackIds := by
  unfold Store.rolledBackIds
  rw [others.rollbacks]

theorem ensures_enqueueRollbacks (now : Int) (deploymentIds : List PyStr) {s : System}
    (known : ∀ deploymentId ∈ deploymentIds, deploymentId ∈ s.store.rolledBackIds) :
    Ensures LaneOthers Routes (enqueueRollbacks now deploymentIds) (returns fun _ _ => True) s := by
  induction deploymentIds generalizing s with
  | nil => trivial
  | cons deploymentId deploymentIds ih =>
    refine ensures_ends_bind (m := fun _ t => ∀ other ∈ deploymentIds, other ∈ t.store.rolledBackIds)
      (ensures_transaction (fun t item store moved enqueued => ?_) fun t failure _ _ =>
        ⟨.refl t, trivial⟩) fun _ t known => ih known
    have here : ∀ other ∈ deploymentId :: deploymentIds, other ∈ t.store.rolledBackIds := by
      rw [moved.rolledBackIds]
      exact known
    obtain ⟨follows, rollbacks⟩ := enqueueWork_follows (here _ List.mem_cons_self) enqueued
    refine ⟨fun _ => follows, fun other later => ?_⟩
    unfold Store.rolledBackIds
    rw [rollbacks]
    exact here other (List.mem_cons_of_mem _ later)

theorem recoverInterruptedRollbackWork_onlyStatus (deploymentIds : List PyStr) (now : Int) :
    OnlyStatus fun store => .ok ((), recoverInterruptedRollbackWork deploymentIds now store) := by
  intro store a changed recovered
  cases recovered
  refine ⟨⟨_, rfl⟩, ?_⟩
  unfold Store.workKeys recoverInterruptedRollbackWork
  rw [List.map_map]
  refine List.map_congr_left fun item _ => ?_
  simp only [Function.comp_apply]
  split <;> rfl

theorem mem_listRetryableRollbacks {store : Store} {row : DeploymentRollback}
    (listed : row ∈ listRetryableRollbacks store) : row.deploymentId ∈ store.rolledBackIds := by
  have sorted := List.mem_of_mem_take listed
  rw [List.mem_insertionSort] at sorted
  exact List.mem_map_of_mem (List.mem_filter.mp sorted).1

/-- The lane of a rollback schedules work for rollbacks that are there. -/
theorem ensures_runDeploymentRollbackRetriggerPass (fromisoformat : String → Option DateTime)
    (access : RollbackAccess) (target : PyStr) (referenceTime : Int) (s : System) :
    Ensures LaneOthers Routes
      (runDeploymentRollbackRetriggerPass fromisoformat access target referenceTime)
      (returns fun _ _ => True) s := by
  have after : ∀ {β : Type} {program : Lane β} (t : System), Every Routes program →
      Ensures LaneOthers Routes program (returns fun _ _ => True) t := fun t every =>
    (every.ensures t).mono fun result _ _ => by cases result <;> trivial
  refine ensures_returns_given fun _ => ?_
  refine ensures_ends_bind (m := fun pending t =>
      ∀ row ∈ pending, row.deploymentId ∈ t.store.rolledBackIds)
    (ensures_query fun t moved => ⟨.refl t, fun row => mem_listRetryableRollbacks⟩)
    fun pending t known => ?_
  split
  · trivial
  refine ensures_returns_checked fun _ _ => ?_
  refine ensures_ends_bind (m := fun _ _ => True) ?_ fun claimed t _ => after t ?_
  · refine ensures_ends_bind (ensures_enqueueRollbacks referenceTime _ fun deploymentId here => ?_)
      fun _ t _ => after t ?_
    · rw [List.mem_insertionSort] at here
      obtain ⟨row, listed, rfl⟩ := List.mem_map.mp here
      exact known row listed
    · refine .bind (routes_onlyStatus (recoverInterruptedRollbackWork_onlyStatus _ _)) fun _ => ?_
      refine .bind (routes_onlyStatus (claimWorkKind_onlyStatus _ _)) fun claimed => ?_
      cases claimed with
      | none => exact .pure none
      | some item =>
        unfold claimDiscoveredWork.discovered
        dsimp only
        split
        · exact .pure _
        · exact .bind (routes_onlyStatus (failWork_onlyStatus item false _)) fun _ => .throw _
  · split
    · exact .pure none
    · exact .bind (routes_runClaimedRollback _ fromisoformat _ _ _) fun _ => .pure _

end Lanes

/-! ## Runs -/

section Runs

variable (git : Git) (fromisoformat : String → Option DateTime)

/-- The passes of the lanes, and what is done to their work by hand and at a start. -/
inductive LaneCall : Prog System Unit → Prop where
  | finalization (referenceTime : Option Int) :
      LaneCall (runCandidateFinalizationRetriggerPass referenceTime).call
  | promotion (credential : PublicationCredential) (referenceTime : Option Int) :
      LaneCall (runCandidatePromotionRetriggerPass git credential referenceTime).call
  | authorization (access : RollbackAccess) (referenceTime : Option Int) :
      LaneCall (runCandidateRollbackRetriggerPass access referenceTime).call
  | rollback (access : RollbackAccess) (target : PyStr) (referenceTime : Int) :
      LaneCall (runDeploymentRollbackRetriggerPass fromisoformat access target referenceTime).call
  | retry (workKind : WorkKind) (workKey : PyStr) (now : Int) :
      LaneCall (transaction (retryBlockedWork workKind workKey now)).call
  | recover (kinds : WorkKind → Bool) (now : Int) :
      LaneCall (transaction fun store => .ok ((), recoverInterruptedWork kinds now store)).call

variable {git fromisoformat}

theorem retryBlockedWork_onlyStatus (workKind : WorkKind) (workKey : PyStr) (now : Int) :
    OnlyStatus (retryBlockedWork workKind workKey now) := by
  intro store item changed retried
  unfold retryBlockedWork at retried
  split at retried
  · cases retried
  split at retried
  · cases retried
  dsimp only at retried
  split at retried
  · cases retried
  next updated =>
    cases retried
    refine Store.updateWork_onlyStatus ?_ updated
    exact fun _ _ _ => ⟨rfl, rfl⟩

theorem laneCalls_keep : Prog.Keeps LaneOthers Routes (fun s => s.store.Routed)
    (LaneCall git fromisoformat) where
  refl := .refl
  trans := .trans
  others := fun _ _ routed others => others.routed routed
  actions := fun _ _ routed routes => (routes routed.own).routed routed
  safe := by
    have dropped : ∀ {α : Type} {program : Lane α} (s : System), Every Routes program →
        Prog.Safe LaneOthers Routes program.call (fun _ _ => True) s := fun s every =>
      call_safe ((every.ensures s).mono fun _ _ _ => trivial)
    rintro call (_ | _ | _ | ⟨access, target, now⟩ | ⟨workKind, workKey, now⟩ | ⟨kinds, now⟩) s _
    · exact dropped s (.bind (routes_moment _) fun now => routes_runLanePass _ _ now fun item =>
        routes_executeCandidateFinalizationOnce item now)
    · exact dropped s (.bind (routes_moment _) fun now => routes_runLanePass _ _ now fun item =>
        routes_executeCandidatePromotionOnce git _ item now)
    · exact dropped s (.bind (routes_moment _) fun now => routes_runLanePass _ _ now fun item =>
        routes_executeCandidateRollbackOnce _ item now)
    · exact call_safe ((ensures_runDeploymentRollbackRetriggerPass fromisoformat access target now
        s).mono fun _ _ _ => trivial)
    · exact dropped s (routes_onlyStatus (retryBlockedWork_onlyStatus workKind workKey now))
    · exact dropped s (routes_onlyStatus (recoverInterruptedWork_onlyStatus kinds now))

/-- **Promotion and rollback exclude each other.** In whatever order the lanes make their passes,
wherever a pass breaks off, and whatever blocked work is retried by hand, no deployment that has a
promotion, or work for one, has a rollback, or work for one. -/
theorem promotion_excludes_rollback {s : System} {here : Prog.Point System Unit}
    (own : s.store.OwnPlans)
    (fresh : ∀ deploymentId, ¬s.store.GoesForward deploymentId ∧ ¬s.store.GoesBack deploymentId)
    (reached : Prog.Reach LaneOthers (LaneCall git fromisoformat) (.rest s) here)
    (deploymentId : PyStr) :
    ¬(here.state.store.GoesForward deploymentId ∧ here.state.store.GoesBack deploymentId) := by
  have start : s.store.Routed :=
    ⟨own, fun other goes => absurd goes (fresh other).1, fun other goes => absurd goes (fresh other).2⟩
  have routed := (laneCalls_keep.reach (.rest start) reached).inv
  rintro ⟨forward, back⟩
  obtain ⟨stage, failed⟩ := routed.back deploymentId back
  cases (routed.forward deploymentId forward).symm.trans failed

end Runs

/-! ## A failed deployment whose finalization stopped before it was scheduled -/

/-- The deployment was observed to fail, and is to be finalized. -/
def observedHome : System :=
  { failedHome with
    store := { failedHome.store with
      finalizations := []
      work := [Store.pendingWork .candidateFinalize failedPlan.deploymentId 0] } }

def finalizationPass : Prog System Unit := (runCandidateFinalizationRetriggerPass (some 0)).call

/-- The pass stopped when the finalization was there and the successor was not. -/
def interruptedHome : System := (finalizationPass.advance 5 observedHome).2

/-- The next pass takes it up. -/
def scheduledHome : System := (finalizationPass.advance 20 interruptedHome).2

example : interruptedHome.store.outcome failedPlan.deploymentId = some (.failure .startupErrors) ∧
    interruptedHome.store.workKeys = [(.candidateFinalize, failedPlan.deploymentId)] ∧
    scheduledHome.store.workKeys = [(.candidateFinalize, failedPlan.deploymentId),
      (.candidateRollback, failedPlan.deploymentId)] := by decide

theorem scheduledHome_reached :
    Prog.Reach LaneOthers (LaneCall threeCommits fun _ => none) (.rest observedHome)
      (.rest scheduledHome) := by
  have finalized : Prog.Reach LaneOthers (LaneCall threeCommits fun _ => none) (.rest observedHome)
      (.call (finalizationPass.advance 5 observedHome).1 interruptedHome) :=
    .head (.start (.finalization (some 0)) observedHome)
      (Prog.Reach.advance 5 finalizationPass observedHome)
  have stopped := finalized.tail (.crash _ interruptedHome)
  have scheduled := (stopped.tail (.start (.finalization (some 0)) interruptedHome)).trans
    (Prog.Reach.advance 20 finalizationPass interruptedHome)
  exact scheduled.tail (.crash _ scheduledHome)

theorem promotion_excludes_rollback_interrupted :
    ¬(scheduledHome.store.GoesForward failedPlan.deploymentId ∧
      scheduledHome.store.GoesBack failedPlan.deploymentId) := by
  have own : observedHome.store.OwnPlans := by
    intro deploymentId plan loaded
    have found : (if deploymentId = failedPlan.deploymentId then some failedPlan else none) =
      some plan := loaded
    split at found
    next here =>
      cases found
      exact here.symm
    next => cases found
  have fresh : ∀ deploymentId, ¬observedHome.store.GoesForward deploymentId ∧
      ¬observedHome.store.GoesBack deploymentId := by
    intro deploymentId
    have keys : observedHome.store.workKeys = [(.candidateFinalize, failedPlan.deploymentId)] := rfl
    have promoted : observedHome.store.promotedIds = [] := rfl
    have rolledBack : observedHome.store.rolledBackIds = [] := rfl
    unfold Store.GoesForward Store.GoesBack
    rw [keys, promoted, rolledBack]
    simp
  exact promotion_excludes_rollback own fresh scheduledHome_reached failedPlan.deploymentId

end SyncApp
