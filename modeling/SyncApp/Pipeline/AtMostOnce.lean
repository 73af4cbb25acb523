import SyncApp.Lib.Rows
import SyncApp.Pipeline.LocalSync
import SyncApp.Pipeline.Rollback
import SyncApp.Pipeline.Rules

/-!
# One restore for a rollback

Whatever is answered outside and wherever a call stops, the four calls of a rollback ask for its
restore at most once, and only while its row is started: the row leaves `planned` before the request
is sent and never comes back to it, and each of its changes is a compare and swap on the row that was
read.
-/

set_option autoImplicit false

namespace SyncApp

open Lib Raising Lane

/-- The row of a deployment's rollback. -/
def System.rollback (system : System) (deploymentId : PyStr) : Option DeploymentRollback :=
  system.store.rollbacks.find? (·.deploymentId = deploymentId)

/-- How often the restore of a deployment was asked for. -/
def System.restores (system : System) (deploymentId : PyStr) : Nat :=
  system.events.count (.restorePosted deploymentId)

/-- Others leave the rollbacks and the list of events to the service. -/
structure RollbackOthers (s t : System) : Prop where
  rollbacks : t.store.rollbacks = s.store.rollbacks
  events : t.events = s.events

theorem RollbackOthers.refl (s : System) : RollbackOthers s s := ⟨rfl, rfl⟩

theorem RollbackOthers.trans (r s t : System) (first : RollbackOthers r s)
    (second : RollbackOthers s t) : RollbackOthers r t :=
  ⟨second.rollbacks.trans first.rollbacks, second.events.trans first.events⟩

theorem System.rollback_some {s : System} {deploymentId : PyStr} {row : DeploymentRollback}
    (found : s.rollback deploymentId = some row) : row.deploymentId = deploymentId := by
  simpa using List.find?_some found

/-! ## Single actions -/

/-- The phases in which a restore was asked for and nothing is settled. -/
def RollbackPhase.requested : RollbackPhase → Bool
  | .restoreStarted | .restoreAcknowledged | .uncertain | .observing => true
  | .planned | .completed | .blocked => false

/-- The phases a requested restore comes to. -/
def RollbackPhase.answered : RollbackPhase → Bool
  | .planned | .restoreStarted => false
  | .restoreAcknowledged | .uncertain | .observing | .completed | .blocked => true

section

variable (deploymentId : PyStr)

/-- One row is replaced, and nothing else changes. -/
structure Replaces (current replacement : DeploymentRollback) (s t : System) : Prop where
  found : s.rollback deploymentId = some current
  events : t.events = s.events
  store : t.store = { s.store with
    rollbacks := s.store.rollbacks.map fun row => if row = current then replacement else row }

/-- The restore was asked for at most once, and not before the row was started. -/
structure Once (s : System) : Prop where
  absent : s.rollback deploymentId = none → s.restores deploymentId = 0
  planned : ∀ row, s.rollback deploymentId = some row → row.phase = .planned →
    s.restores deploymentId = 0 ∧ row.attemptCount = 0
  requested : ∀ row, s.rollback deploymentId = some row → row.phase ≠ .planned →
    s.restores deploymentId ≤ 1 ∧ row.attemptCount = 1

/-- A row that was read, with how often its restore was asked for. -/
structure Holding (current : DeploymentRollback) (count : Nat) (s : System) : Prop
    extends Once deploymentId s where
  found : s.rollback deploymentId = some current
  restores : s.restores deploymentId = count

end

/-- What one action of a rollback does. -/
inductive RollsBack (plan : PostDeploymentAssertionPlan) (s t : System) : Prop where
  | looks (store : t.store = s.store) (events : t.events = s.events)
  | plans (row : DeploymentRollback) (absent : s.rollback plan.deploymentId = none)
      (here : row.deploymentId = plan.deploymentId) (planned : row.phase = .planned)
      (unattempted : row.attemptCount = 0)
      (failed : ∃ evidence, failureAuthority s.store plan = .ok evidence)
      (store : t.store = { s.store with
        rollbacks := s.store.rollbacks ++ [row]
        recoveryAuthorities := s.store.recoveryAuthorities ++ [plan] })
      (events : t.events = s.events)
  | starts (current : DeploymentRollback) (planned : current.phase = .planned) (time : Int)
      (replaces : Replaces plan.deploymentId current
        (current.change ⟨.restoreStarted, .none, .none, current.attemptCount + 1, none⟩ time) s t)
  | posts (current : DeploymentRollback) (found : s.rollback plan.deploymentId = some current)
      (started : current.phase = .restoreStarted) (unsent : s.restores plan.deploymentId = 0)
      (store : t.store = s.store) (events : t.events = .restorePosted plan.deploymentId :: s.events)
  | settles (current : DeploymentRollback) (requested : current.phase.requested = true)
      (change : RollbackChange) (answered : change.phase.answered = true)
      (attempts : change.attemptCount = current.attemptCount) (time : Int)
      (replaces : Replaces plan.deploymentId current (current.change change time) s t)

section Steps

variable {deploymentId : PyStr} {s t : System} {current replacement : DeploymentRollback}
  {plan : PostDeploymentAssertionPlan}

theorem Replaces.rollback (replaces : Replaces deploymentId current replacement s t)
    (same : replacement.deploymentId = current.deploymentId) :
    t.rollback deploymentId = some replacement := by
  unfold System.rollback
  rw [replaces.store]
  refine Rows.find_replaced ?_ replaces.found
  exact same

theorem Replaces.restores (replaces : Replaces deploymentId current replacement s t) :
    t.restores deploymentId = s.restores deploymentId :=
  congrArg (List.count _) replaces.events

theorem rollback_congr (rollbacks : t.store.rollbacks = s.store.rollbacks) :
    t.rollback deploymentId = s.rollback deploymentId := by
  unfold System.rollback
  rw [rollbacks]

/-- The row and the count decide. -/
theorem Once.congr (once : Once deploymentId s)
    (row : t.rollback deploymentId = s.rollback deploymentId)
    (count : t.restores deploymentId = s.restores deploymentId) : Once deploymentId t := by
  refine ⟨?_, ?_, ?_⟩
  · rw [row, count]
    exact once.absent
  · rw [row, count]
    exact once.planned
  · rw [row, count]
    exact once.requested

theorem Once.of_some {row : DeploymentRollback} (found : s.rollback deploymentId = some row)
    (planned : row.phase = .planned → s.restores deploymentId = 0 ∧ row.attemptCount = 0)
    (requested : row.phase ≠ .planned → s.restores deploymentId ≤ 1 ∧ row.attemptCount = 1) :
    Once deploymentId s := by
  refine ⟨fun absent => ?_, fun other same => ?_, fun other same => ?_⟩
  · exact nomatch found.symm.trans absent
  · obtain rfl := Option.some.inj (found.symm.trans same)
    exact planned
  · obtain rfl := Option.some.inj (found.symm.trans same)
    exact requested

/-- **Each action keeps the restore asked for at most once.** -/
theorem RollsBack.once (rolls : RollsBack plan s t) (once : Once plan.deploymentId s) :
    Once plan.deploymentId t := by
  cases rolls with
  | looks store events =>
    exact once.congr (rollback_congr (congrArg Store.rollbacks store))
      (congrArg (List.count _) events)
  | plans row absent here planned unattempted _ store events =>
    have found : t.rollback plan.deploymentId = some row := by
      unfold System.rollback
      rw [store]
      refine Rows.find_added absent ?_
      exact here
    have unsent : t.restores plan.deploymentId = 0 :=
      (congrArg (List.count _) events).trans (once.absent absent)
    exact .of_some found (fun _ => ⟨unsent, unattempted⟩) fun wrong => absurd planned wrong
  | starts current planned time replaces =>
    obtain ⟨unsent, unattempted⟩ := once.planned current replaces.found planned
    refine .of_some (replaces.rollback rfl) (fun wrong => nomatch wrong) fun _ => ⟨?_, ?_⟩
    · rw [replaces.restores, unsent]
      exact Nat.zero_le 1
    · exact congrArg (· + 1) unattempted
  | posts current found started unsent store events =>
    have same : t.rollback plan.deploymentId = some current :=
      (rollback_congr (congrArg Store.rollbacks store)).trans found
    have count : t.restores plan.deploymentId = s.restores plan.deploymentId + 1 := by
      unfold System.restores
      rw [events, List.count_cons_self]
    have asked := once.requested current found (by rw [started]; exact fun wrong => nomatch wrong)
    refine .of_some same (fun wrong => nomatch started.symm.trans wrong) fun _ => ⟨?_, asked.2⟩
    rw [count, unsent]
  | settles current requested change answered attempts time replaces =>
    have asked := once.requested current replaces.found fun planned => by
      rw [planned] at requested
      cases requested
    refine .of_some (replaces.rollback rfl) (fun wrong => ?_) fun _ => ⟨?_, ?_⟩
    · have planned : change.phase = .planned := wrong
      rw [planned] at answered
      cases answered
    · rw [replaces.restores]
      exact asked.1
    · exact attempts.trans asked.2

theorem Once.others (once : Once deploymentId s) (moved : RollbackOthers s t) :
    Once deploymentId t :=
  once.congr (rollback_congr moved.rollbacks) (congrArg (List.count _) moved.events)

theorem Holding.others {count : Nat} (holding : Holding deploymentId current count s)
    (moved : RollbackOthers s t) : Holding deploymentId current count t :=
  ⟨holding.toOnce.others moved, (rollback_congr moved.rollbacks).trans holding.found,
    (congrArg (List.count _) moved.events).trans holding.restores⟩

theorem RollsBack.same (s : System) : RollsBack plan s s := .looks rfl rfl

end Steps

/-! ## Looking -/

section Looks

variable {plan : PostDeploymentAssertionPlan} {deploymentId : PyStr} {s : System} {α : Type}

/-- What others leave true while the service looks. -/
def Steady (known : System → Prop) : Prop := ∀ s t, RollbackOthers s t → known s → known t

theorem Holding.steady (current : DeploymentRollback) (count : Nat) :
    Steady (Holding deploymentId current count) := fun _ _ moved holding => holding.others moved

theorem Once.steady : Steady (Once deploymentId) := fun _ _ moved once => once.others moved

variable {known : System → Prop}

theorem steady_ask (steady : Steady known) {read : RollbackAnswers → Except Failure α}
    (here : known s) : Ensures RollbackOthers (RollsBack plan) (ask read)
      (returns fun _ t => known t) s := by
  refine Ensures.action fun t moved => ⟨.same t, ?_⟩
  cases answered : read t.answers with
  | ok a => exact steady s t moved here
  | error failure => trivial

theorem steady_query (steady : Steady known) {read : Store → Except Failure α} (here : known s) :
    Ensures RollbackOthers (RollsBack plan) (query read)
      (returns fun a t => known t ∧ read t.store = .ok a) s := by
  refine ensures_query fun t moved => ⟨.same t, ?_⟩
  cases found : read t.store with
  | ok a => exact ⟨steady s t moved here, found⟩
  | error failure => trivial

theorem steady_moment (steady : Steady known) (time : Option Int) (here : known s) :
    Ensures RollbackOthers (RollsBack plan) (moment time) (returns fun _ t => known t) s := by
  cases time with
  | some time => exact here
  | none => exact ensures_clock fun t moved => ⟨.same t, steady s t moved here⟩

theorem steady_readRepository (steady : Steady known) (access : RollbackAccess) (here : known s) :
    Ensures RollbackOthers (RollsBack plan) (readRepository access)
      (returns fun _ t => known t) s :=
  ensures_returns_checked fun _ _ => steady_ask steady here

theorem steady_readBackup (steady : Steady known) (here : known s) :
    Ensures RollbackOthers (RollsBack plan) readBackup (returns fun _ t => known t) s :=
  steady_ask steady here

theorem steady_reproveExternalInputs (steady : Steady known) (access : RollbackAccess)
    (intent : DeploymentRollback) (here : known s) :
    Ensures RollbackOthers (RollsBack plan) (reproveExternalInputs access intent)
      (returns fun _ t => known t) s := by
  refine ensures_ends_bind (steady_readRepository steady access here) fun _ t here => ?_
  refine ensures_returns_given fun _ => ?_
  refine ensures_ends_bind (steady_readBackup steady here) fun _ u here => ?_
  exact ensures_returns_ensure fun _ => here

end Looks

/-! ## Transitions -/

section Transitions

variable {plan : PostDeploymentAssertionPlan} {s : System} {current : DeploymentRollback}
  {count : Nat}

/-- The row that is loaded is the deployment's. -/
theorem loadDeploymentRollback_some {store : Store} {row : DeploymentRollback}
    (loaded : loadDeploymentRollback store plan = .ok (some row)) :
    store.rollbacks.find? (·.deploymentId = plan.deploymentId) = some row := by
  unfold loadDeploymentRollback at loaded
  cases found : store.rollbacks.find? (·.deploymentId = plan.deploymentId) with
  | none => rw [found] at loaded; cases loaded
  | some other =>
    rw [found] at loaded
    obtain ⟨⟨prepared, finalization⟩, _, loaded⟩ := bind_eq_ok.mp loaded
    dsimp only at loaded
    split at loaded
    · cases loaded
    · cases loaded
      rfl

theorem loadDeploymentRollback_none {store : Store}
    (loaded : loadDeploymentRollback store plan = .ok none) :
    store.rollbacks.find? (·.deploymentId = plan.deploymentId) = none := by
  unfold loadDeploymentRollback at loaded
  cases found : store.rollbacks.find? (·.deploymentId = plan.deploymentId) with
  | none => rfl
  | some other =>
    rw [found] at loaded
    obtain ⟨⟨prepared, finalization⟩, _, loaded⟩ := bind_eq_ok.mp loaded
    dsimp only at loaded
    split at loaded
    · cases loaded
    · cases loaded

/-- A row that was loaded is held. -/
theorem holding_load (once : Once plan.deploymentId s) :
    Ensures RollbackOthers (RollsBack plan) (query (loadDeploymentRollback · plan))
      (returns fun existing t => Once plan.deploymentId t ∧ ∀ row, existing = some row →
        Holding plan.deploymentId row (t.restores plan.deploymentId) t) s := by
  refine (steady_query Once.steady once).mono fun result t held => ?_
  cases result with
  | error failure => trivial
  | ok existing =>
    refine ⟨held.1, fun row here => ?_⟩
    subst here
    exact ⟨held.1, loadDeploymentRollback_some held.2, rfl⟩

/-- A transition of a row that is held. -/
theorem holding_transition {change : RollbackChange} {time : Int}
    (holding : Holding plan.deploymentId current count s)
    (moves : ∀ t u, Holding plan.deploymentId current count t →
      Replaces plan.deploymentId current (current.change change time) t u →
        RollsBack plan t u) :
    Ensures RollbackOthers (RollsBack plan)
      (transitionRollback plan current change time)
      (returns fun replacement t => replacement = current.change change time ∧
        Holding plan.deploymentId replacement count t) s := by
  refine ensures_returns_given fun _ => ?_
  refine ensures_ends_bind (m := fun _ t =>
      Holding plan.deploymentId (current.change change time) count t)
    (ensures_transaction (fun t result store moved replaced => ?_)
      fun t failure _ _ => ⟨.same t, trivial⟩) fun _ t held => ?_
  · have before := holding.others moved
    obtain ⟨loaded, found, replaced⟩ := bind_eq_ok.mp replaced
    split at replaced
    · cases replaced
    next same =>
      cases replaced
      have replaces : Replaces plan.deploymentId current (current.change change time) t
          { t with store := { t.store with rollbacks := t.store.rollbacks.map fun row =>
            if row = current then current.change change time else row } } :=
        ⟨before.found, rfl, rfl⟩
      have rolls := moves t _ before replaces
      exact ⟨rolls, rolls.once before.toOnce, replaces.rollback rfl,
        replaces.restores.trans before.restores⟩
  refine ensures_ends_bind (m := fun _ u =>
      Holding plan.deploymentId (current.change change time) count u)
    ((steady_query (Holding.steady _ _) held).mono fun result u known => ?_) fun loaded u held => ?_
  · cases result with
    | ok loaded => exact known.1
    | error failure => trivial
  · exact ensures_returns_given fun _ => ⟨rfl, held⟩

/-- A settled row, whatever is returned or raised after it. -/
theorem holding_settles {change : RollbackChange} {time : Int} {α : Type}
    {rest : DeploymentRollback → Lane α} (holding : Holding plan.deploymentId current count s)
    (requested : current.phase.requested = true) (answered : change.phase.answered = true)
    (attempts : change.attemptCount = current.attemptCount)
    (ends : ∀ row t, Ensures RollbackOthers (RollsBack plan) (rest row)
      (returns fun _ _ => True) t) :
    Ensures RollbackOthers (RollsBack plan)
      (transitionRollback plan current change time >>= rest) (returns fun _ _ => True) s :=
  ensures_ends_bind (holding_transition holding fun _ _ _ replaces =>
    .settles current requested change answered attempts time replaces) fun row t _ => ends row t

end Transitions

/-! ## The calls -/

section Calls

variable {plan : PostDeploymentAssertionPlan} {s : System} {current : DeploymentRollback}
  {count : Nat} (access : RollbackAccess)

/-- A rollback is planned where there is none. -/
theorem once_insert {requested : DeploymentRollback} (here : requested.deploymentId = plan.deploymentId)
    (planned : requested.phase = .planned) (unattempted : requested.attemptCount = 0)
    (once : Once plan.deploymentId s) :
    Ensures RollbackOthers (RollsBack plan)
      (transaction (insertRollback plan requested)) (returns fun _ t => Once plan.deploymentId t)
      s := by
  refine ensures_transaction (fun t saved store moved inserted => ?_)
    fun t failure _ _ => ⟨.same t, trivial⟩
  have before := once.others moved
  obtain ⟨evidence, failed, inserted⟩ := bind_eq_ok.mp inserted
  obtain ⟨existing, loaded, inserted⟩ := bind_eq_ok.mp inserted
  cases existing with
  | some existing =>
    obtain ⟨_, _, inserted⟩ := bind_eq_ok.mp inserted
    cases inserted
    exact ⟨.same t, before⟩
  | none =>
    dsimp only at inserted
    split at inserted
    · cases inserted
    · cases inserted
      have rolls : RollsBack plan t { t with store := { t.store with
          rollbacks := t.store.rollbacks ++ [requested]
          recoveryAuthorities := t.store.recoveryAuthorities ++ [plan] } } :=
        .plans requested (loadDeploymentRollback_none loaded) here planned unattempted
          ⟨evidence, failed⟩ rfl rfl
      exact ⟨rolls, rolls.once before⟩

theorem once_authorize (observedAt : Option Int) (once : Once plan.deploymentId s) :
    Ensures RollbackOthers (RollsBack plan)
      (authorizeDeploymentRollbackOnce access plan observedAt) (returns fun _ _ => True) s := by
  refine ensures_ends_bind (holding_load once) fun existing t loaded => ?_
  have look : ∀ {α : Type} {read : Store → Except Failure α} {u : System},
      Once plan.deploymentId u → Ensures RollbackOthers (RollsBack plan) (query read)
        (returns fun _ v => Once plan.deploymentId v) u := by
    intro α read u once
    refine (steady_query Once.steady once).mono fun result v held => ?_
    cases result with
    | ok a => exact held.1
    | error failure => trivial
  cases existing with
  | some existing => exact ensures_ends_bind (look loaded.1) fun _ _ _ => trivial
  | none =>
    refine ensures_ends_bind (look loaded.1) fun authority t once => ?_
    obtain ⟨prepared, finalization⟩ := authority
    refine ensures_returns_checked fun _ _ => ?_
    refine ensures_ends_bind (steady_readRepository Once.steady access once) fun repository t once => ?_
    refine ensures_returns_given fun _ => ?_
    refine ensures_ends_bind (steady_readBackup Once.steady once) fun backup t once => ?_
    refine ensures_ends_bind (look once) fun coreVersion t once => ?_
    refine ensures_returns_given fun _ => ?_
    refine ensures_ends_bind (steady_moment Once.steady observedAt once) fun time t once => ?_
    refine ensures_returns_given fun _ => ?_
    refine ensures_returns_given fun _ => ?_
    refine ensures_ends_bind (once_insert rfl rfl rfl once) fun saved t once => ?_
    refine ensures_ends_bind (m := fun _ _ => True) ?_ fun _ _ _ => trivial
    unfold authorizeNewRollback.ensureSaved
    split
    · trivial
    · refine ensures_ends_bind (look once) fun loaded t once => ?_
      refine ensures_returns_given fun _ => ?_
      exact (look once).mono fun result _ _ => by cases result <;> trivial

/-- A request that is not settled leaves the row uncertain. -/
theorem holding_uncertainRestore {time : Int} (holding : Holding plan.deploymentId current count s)
    (requested : current.phase.requested = true) :
    Ensures RollbackOthers (RollsBack plan) (uncertainRestore plan current time)
      (returns fun _ _ => True) s :=
  holding_settles holding requested rfl rfl fun _ _ => trivial

theorem holding_settleRestore {time : Int} {response : Option SupervisorResponse}
    (holding : Holding plan.deploymentId current count s)
    (requested : current.phase.requested = true) :
    Ensures RollbackOthers (RollsBack plan)
      (settleRestore access plan current time response) (returns fun _ _ => True) s := by
  cases response with
  | none => exact holding_uncertainRestore holding requested
  | some response =>
    unfold settleRestore
    dsimp only
    split
    · exact holding_settles holding requested rfl rfl fun _ _ => trivial
    split
    · exact holding_uncertainRestore holding requested
    · exact holding_settles holding requested rfl rfl fun _ _ => trivial

/-- The request is sent once, after the row was started. -/
theorem holding_requestPlannedRestore (requestedAt : Option Int)
    (holding : Holding plan.deploymentId current count s) (planned : current.phase = .planned) :
    Ensures RollbackOthers (RollsBack plan)
      (requestPlannedRestore access plan current requestedAt) (returns fun _ _ => True) s := by
  refine ensures_returns_checked fun _ _ => ?_
  refine ensures_returns_checked fun _ _ => ?_
  refine ensures_ends_bind (steady_reproveExternalInputs (Holding.steady _ _) access current holding)
    fun _ t holding => ?_
  refine ensures_ends_bind (steady_moment (Holding.steady _ _) requestedAt holding)
    fun time t holding => ?_
  refine ensures_ends_bind (holding_transition holding fun _ _ _ replaces =>
    .starts current planned time replaces) fun started u held => ?_
  obtain ⟨same, started_row⟩ := held
  have unsent : count = 0 :=
    holding.restores.symm.trans (holding.toOnce.planned current holding.found planned).1
  have here : started.deploymentId = plan.deploymentId := System.rollback_some started_row.found
  have phase : started.phase = .restoreStarted := congrArg DeploymentRollback.phase same
  refine ensures_ends_bind (m := fun _ v => Holding plan.deploymentId started (count + 1) v)
    (Ensures.action fun v moved => ?_) fun response v holding => ?_
  · have before := started_row.others moved
    have rolls : RollsBack plan v
        { v with events := .restorePosted started.deploymentId :: v.events } :=
      .posts started before.found phase (before.restores.trans unsent) rfl
        (congrArg (Event.restorePosted · :: v.events) here)
    refine ⟨rolls, rolls.once before.toOnce, before.found, ?_⟩
    unfold System.restores
    rw [here, List.count_cons_self]
    exact congrArg (· + 1) before.restores
  · exact holding_settleRestore access holding (by rw [phase]; rfl)

theorem once_request (requestedAt : Option Int) (once : Once plan.deploymentId s) :
    Ensures RollbackOthers (RollsBack plan)
      (requestDeploymentRestoreOnce access plan requestedAt) (returns fun _ _ => True) s := by
  refine ensures_ends_bind (holding_load once) fun existing t loaded => ?_
  cases existing with
  | none => trivial
  | some current =>
    dsimp only
    split
    · trivial
    · trivial
    · trivial
    · trivial
    next planned =>
      exact holding_requestPlannedRestore access requestedAt (loaded.2 current rfl) planned
    · trivial
    · trivial

variable (fromisoformat : String → Option DateTime)

theorem holding_settleReconciliation {time : Int} {job : Option SupervisorRestoreJob}
    (holding : Holding plan.deploymentId current count s)
    (requested : current.phase.requested = true) :
    Ensures RollbackOthers (RollsBack plan)
      (settleReconciliation plan current time job) (returns fun _ _ => True) s := by
  unfold settleReconciliation
  split
  · split
    · trivial
    · exact holding_settles holding requested rfl rfl fun _ _ => trivial
  · exact holding_settles holding requested rfl rfl fun _ _ => trivial
  · exact holding_settles holding requested rfl rfl fun _ _ => trivial

theorem holding_reconcile (observedAt : Option Int)
    (holding : Holding plan.deploymentId current count s)
    (requested : current.phase.requested = true) :
    Ensures RollbackOthers (RollsBack plan)
      (reconcileRequestedRestore fromisoformat access plan current observedAt)
      (returns fun _ _ => True) s := by
  refine ensures_returns_checked fun _ _ => ?_
  refine ensures_returns_checked fun _ _ => ?_
  refine ensures_ends_bind (steady_ask (Holding.steady _ _) holding) fun response t holding => ?_
  refine ensures_ends_bind (steady_moment (Holding.steady _ _) observedAt holding)
    fun time t holding => ?_
  exact ensures_returns_given fun _ => holding_settleReconciliation holding requested

theorem once_reconcile (observedAt : Option Int) (once : Once plan.deploymentId s) :
    Ensures RollbackOthers (RollsBack plan)
      (reconcileDeploymentRestoreOnce fromisoformat access plan observedAt)
      (returns fun _ _ => True) s := by
  refine ensures_ends_bind (holding_load once) fun existing t loaded => ?_
  cases existing with
  | none => trivial
  | some current =>
    have reconciles : current.phase.requested = true →
        Ensures RollbackOthers (RollsBack plan)
          (reconcileRequestedRestore fromisoformat access plan current observedAt)
          (returns fun _ _ => True) t := fun requested =>
      holding_reconcile access fromisoformat observedAt (loaded.2 current rfl) requested
    dsimp only
    split
    · trivial
    · trivial
    · trivial
    · trivial
    next phase => exact reconciles (by rw [phase]; rfl)
    next phase => exact reconciles (by rw [phase]; rfl)
    next phase => exact reconciles (by rw [phase]; rfl)

theorem holding_complete (observedAt : Option Int)
    (holding : Holding plan.deploymentId current count s)
    (requested : current.phase.requested = true) :
    Ensures RollbackOthers (RollsBack plan)
      (completeRestoredRollback access plan current observedAt) (returns fun _ _ => True) s := by
  refine ensures_returns_checked fun _ _ => ?_
  refine ensures_ends_bind (steady_readRepository (Holding.steady _ _) access holding)
    fun repository t holding => ?_
  split
  · refine ensures_ends_bind (steady_ask (Holding.steady _ _) holding) fun _ t holding => ?_
    refine ensures_ends_bind (steady_moment (Holding.steady _ _) observedAt holding)
      fun time t holding => ?_
    exact ensures_returns_given fun _ =>
      holding_settles holding requested rfl rfl fun _ _ => trivial
  · refine ensures_ends_bind (steady_moment (Holding.steady _ _) observedAt holding)
      fun time t holding => ?_
    exact ensures_returns_given fun _ =>
      holding_settles holding requested rfl rfl fun _ _ => trivial

theorem once_complete (observedAt : Option Int) (once : Once plan.deploymentId s) :
    Ensures RollbackOthers (RollsBack plan)
      (completeDeploymentRollbackOnce access plan observedAt) (returns fun _ _ => True) s := by
  refine ensures_ends_bind (holding_load once) fun existing t loaded => ?_
  cases existing with
  | none => trivial
  | some current =>
    dsimp only
    split
    · trivial
    split
    · trivial
    split
    next ready =>
      exact holding_complete access observedAt (loaded.2 current rfl) (by rw [ready.1]; rfl)
    · trivial

end Calls

/-! ## Runs -/

/-- What a rollback was authorized on is as it was; its phase and what goes with it may differ. -/
def SameAuthorization (row later : DeploymentRollback) : Prop :=
  ∃ change time, later = row.change change time

theorem SameAuthorization.refl (row : DeploymentRollback) : SameAuthorization row row :=
  ⟨⟨row.phase, row.reconciliationState, row.blockReason, row.attemptCount, row.restoreJobId⟩,
    row.updatedAt, rfl⟩

theorem SameAuthorization.trans {first second third : DeploymentRollback}
    (one : SameAuthorization first second) (two : SameAuthorization second third) :
    SameAuthorization first third := by
  obtain ⟨_, _, rfl⟩ := one
  obtain ⟨change, time, rfl⟩ := two
  exact ⟨change, time, rfl⟩

/-- The phases a rollback ends in. -/
def RollbackPhase.terminal : RollbackPhase → Bool
  | .completed | .blocked => true
  | _ => false

/-- The row of a deployment has come from a row, and is that row where it had ended. -/
def ComesFrom (deploymentId : PyStr) (row : DeploymentRollback) (s : System) : Prop :=
  ∃ later, s.rollback deploymentId = some later ∧ SameAuthorization row later ∧
    (row.phase.terminal = true → later = row)

section Runs

variable {deploymentId : PyStr} {s t : System} {row : DeploymentRollback}
  {plan : PostDeploymentAssertionPlan}

theorem Replaces.comesFrom {current : DeploymentRollback} {change : RollbackChange} {time : Int}
    (replaces : Replaces deploymentId current (current.change change time) s t)
    (going : current.phase.terminal = false) (from_row : ComesFrom deploymentId row s) :
    ComesFrom deploymentId row t := by
  obtain ⟨later, found, same, ended⟩ := from_row
  obtain rfl := Option.some.inj (found.symm.trans replaces.found)
  refine ⟨_, replaces.rollback rfl, same.trans ⟨change, time, rfl⟩, fun terminal => ?_⟩
  have unchanged := ended terminal
  rw [unchanged] at going
  exact nomatch terminal.symm.trans going

/-- Whatever an action does, the row goes on from the row it was. -/
theorem RollsBack.comesFrom (rolls : RollsBack plan s t)
    (from_row : ComesFrom plan.deploymentId row s) : ComesFrom plan.deploymentId row t := by
  have unmoved : t.rollback plan.deploymentId = s.rollback plan.deploymentId →
      ComesFrom plan.deploymentId row t := fun same => by
    unfold ComesFrom
    rw [same]
    exact from_row
  cases rolls with
  | looks store => exact unmoved (rollback_congr (congrArg Store.rollbacks store))
  | plans planned absent =>
    obtain ⟨later, found, _⟩ := from_row
    exact nomatch found.symm.trans absent
  | starts current planned time replaces =>
    exact replaces.comesFrom (by rw [planned]; rfl) from_row
  | posts current found started unsent store =>
    exact unmoved (rollback_congr (congrArg Store.rollbacks store))
  | settles current requested change answered attempts time replaces =>
    refine replaces.comesFrom ?_ from_row
    cases phase : current.phase with
    | completed => rw [phase] at requested; cases requested
    | blocked => rw [phase] at requested; cases requested
    | _ => rfl

/-- A request is sent while the row is started. -/
theorem RollsBack.posted (rolls : RollsBack plan s t)
    (sent : t.events = .restorePosted plan.deploymentId :: s.events) :
    ∃ row, s.rollback plan.deploymentId = some row ∧ row.phase = .restoreStarted := by
  have longer : t.events ≠ s.events := fun same => by
    have lengths := congrArg List.length (sent.symm.trans same)
    simp at lengths
  cases rolls with
  | posts current found started => exact ⟨current, found, started⟩
  | looks _ events => exact absurd events longer
  | plans _ _ _ _ _ _ _ events => exact absurd events longer
  | starts _ _ _ replaces => exact absurd replaces.events longer
  | settles _ _ _ _ _ _ replaces => exact absurd replaces.events longer

variable (fromisoformat : String → Option DateTime) (plan)

/-- The calls of one deployment's rollback. -/
inductive RollbackCall : Prog System Unit → Prop where
  | authorize (access : RollbackAccess) (observedAt : Option Int) :
      RollbackCall (authorizeDeploymentRollbackOnce access plan observedAt).call
  | request (access : RollbackAccess) (requestedAt : Option Int) :
      RollbackCall (requestDeploymentRestoreOnce access plan requestedAt).call
  | reconcile (access : RollbackAccess) (observedAt : Option Int) :
      RollbackCall (reconcileDeploymentRestoreOnce fromisoformat access plan observedAt).call
  | complete (access : RollbackAccess) (observedAt : Option Int) :
      RollbackCall (completeDeploymentRollbackOnce access plan observedAt).call

variable {fromisoformat plan}

theorem rollbackCalls_keep : Prog.Keeps RollbackOthers (RollsBack plan)
    (Once plan.deploymentId) (RollbackCall plan fromisoformat) where
  refl := .refl
  trans := .trans
  others := fun _ _ once moved => once.others moved
  actions := fun _ _ once rolls => rolls.once once
  safe := by
    have dropped : ∀ {α : Type} {program : Lane α} {s : System},
        Ensures RollbackOthers (RollsBack plan) program (returns fun _ _ => True) s →
        Prog.Safe RollbackOthers (RollsBack plan) program.call (fun _ _ => True) s :=
      fun ensured => call_safe (ensured.mono fun _ _ _ => trivial)
    rintro call (⟨access, time⟩ | ⟨access, time⟩ | ⟨access, time⟩ | ⟨access, time⟩) s once
    · exact dropped (once_authorize access time once)
    · exact dropped (once_request access time once)
    · exact dropped (once_reconcile access fromisoformat time once)
    · exact dropped (once_complete access time once)

/-- **A restore is asked for at most once.** In every run of a deployment's four calls, whatever is
answered outside and wherever a call breaks off: the request is sent at most once, and while the row
is started; the row counts one attempt at most; what it was authorized on stays; and a row that has
ended stays as it is. -/
theorem restore_posted_at_most_once {here : Prog.Point System Unit}
    (unplanned : s.rollback plan.deploymentId = none) (unsent : s.restores plan.deploymentId = 0)
    (reached : Prog.Reach RollbackOthers (RollbackCall plan fromisoformat) (.rest s) here) :
    here.state.restores plan.deploymentId ≤ 1 ∧
    (∀ row, here.state.rollback plan.deploymentId = some row → row.attemptCount ≤ 1) ∧
    (∀ there, Prog.Move RollbackOthers (RollbackCall plan fromisoformat) here there →
      there.state.events = .restorePosted plan.deploymentId :: here.state.events →
      ∃ row, here.state.rollback plan.deploymentId = some row ∧ row.phase = .restoreStarted) ∧
    ∀ there, Prog.Reach RollbackOthers (RollbackCall plan fromisoformat) here there →
      ∀ row, here.state.rollback plan.deploymentId = some row →
        ComesFrom plan.deploymentId row there.state := by
  have start : Once plan.deploymentId s := by
    refine ⟨fun _ => unsent, fun row found => ?_, fun row found => ?_⟩
    · exact nomatch unplanned.symm.trans found
    · exact nomatch unplanned.symm.trans found
  have kept := rollbackCalls_keep.reach (.rest start) reached
  have counted : here.state.restores plan.deploymentId ≤ 1 ∧
      ∀ row, here.state.rollback plan.deploymentId = some row → row.attemptCount ≤ 1 := by
    cases found : here.state.rollback plan.deploymentId with
    | none =>
      refine ⟨?_, fun _ wrong => nomatch wrong⟩
      rw [kept.inv.absent found]
      exact Nat.zero_le 1
    | some current =>
      have bounds : here.state.restores plan.deploymentId ≤ 1 ∧ current.attemptCount ≤ 1 := by
        by_cases planned : current.phase = .planned
        · obtain ⟨none, zero⟩ := kept.inv.planned current found planned
          omega
        · obtain ⟨one, attempted⟩ := kept.inv.requested current found planned
          omega
      exact ⟨bounds.1, fun row same => Option.some.inj same ▸ bounds.2⟩
  refine ⟨counted.1, counted.2, fun there moved sent => ?_, fun there later row found => ?_⟩
  · rcases (rollbackCalls_keep.move kept moved).2 with others | rolls
    · have lengths := congrArg List.length (sent.symm.trans others.events)
      simp at lengths
    · exact rolls.posted sent
  · refine rollbackCalls_keep.along (ComesFrom plan.deploymentId row) (fun u v from_row moved => ?_)
      (fun _ _ from_row rolls => rolls.comesFrom from_row) kept later
      ⟨row, found, .refl row, fun _ => rfl⟩
    unfold ComesFrom
    rw [rollback_congr moved.rollbacks]
    exact from_row

end Runs

/-! ## A restore whose request broke off -/

def failedPlan : PostDeploymentAssertionPlan := ⟨text "deployment", secondCommit⟩

def failedTarget : PyStr := text "home/config"

def failedPrepared : PreparedEvidence :=
  ⟨failedTarget, 1, firstCommit, secondCommit, sha256Empty [], text "backup"⟩

def failedObservation : StageObservation := ⟨failedPlan.deploymentId, .startupErrors, 1, 0⟩

def failedFinalization : DeploymentFinalization :=
  ⟨failedPlan.deploymentId, secondCommit, text "backup", [failedObservation],
    .failure .startupErrors, 0⟩

def failedAccess : RollbackAccess :=
  ⟨some "token", some "token", true, false, fun _ => none, 60, 65536⟩

/-- A deployment that was finalized as a failure; Repo B and the backup prove what they should, and
the Supervisor does not answer. -/
def failedHome : System :=
  { setUp failedTarget (sha256Empty []) with
    store := { (setUp failedTarget (sha256Empty [])).store with
      preparedDeployment := fun deploymentId =>
        if deploymentId = failedPlan.deploymentId then some failedPrepared else none
      plans := fun deploymentId =>
        if deploymentId = failedPlan.deploymentId then some failedPlan else none
      observations := [failedObservation]
      finalizations := [failedFinalization]
      coreVersion := fun _ => "2026.1.0" }
    answers := ⟨.proof ⟨1, true, firstCommit⟩, .proof ⟨"backup", "full", "2026.1.0", true, true⟩,
      none, none, false, false⟩ }

def authorizesHome : Prog System Unit :=
  (authorizeDeploymentRollbackOnce failedAccess failedPlan none).call

def authorizedHome : System := (authorizesHome.advance 20 failedHome).2

def requestsHome : Prog System Unit :=
  (requestDeploymentRestoreOnce failedAccess failedPlan none).call

def requestedHome : System := (requestsHome.advance 20 authorizedHome).2

/-- The request was sent and its outcome is not known. -/
example : requestedHome.restores failedPlan.deploymentId = 1 ∧
    (requestedHome.rollback failedPlan.deploymentId).map (·.phase) = some .uncertain := by decide

theorem authorizedHome_reached :
    Prog.Reach RollbackOthers (RollbackCall failedPlan fun _ => none) (.rest failedHome)
      (.rest authorizedHome) := by
  have authorized : Prog.Reach RollbackOthers (RollbackCall failedPlan fun _ => none)
      (.rest failedHome) (.call (authorizesHome.advance 20 failedHome).1 authorizedHome) :=
    .head (.start (.authorize failedAccess none) failedHome)
      (Prog.Reach.advance 20 authorizesHome failedHome)
  exact authorized.tail (.crash _ authorizedHome)

theorem requestedHome_reached :
    Prog.Reach RollbackOthers (RollbackCall failedPlan fun _ => none) (.rest authorizedHome)
      (.rest requestedHome) := by
  have requested : Prog.Reach RollbackOthers (RollbackCall failedPlan fun _ => none)
      (.rest authorizedHome) (.call (requestsHome.advance 20 authorizedHome).1 requestedHome) :=
    .head (.start (.request failedAccess none) authorizedHome)
      (Prog.Reach.advance 20 requestsHome authorizedHome)
  exact requested.tail (.crash _ requestedHome)

theorem restore_posted_at_most_once_uncertain :
    requestedHome.restores failedPlan.deploymentId ≤ 1 ∧
      ∃ row, authorizedHome.rollback failedPlan.deploymentId = some row ∧
        ComesFrom failedPlan.deploymentId row requestedHome := by
  have reached := authorizedHome_reached.trans requestedHome_reached
  refine ⟨(restore_posted_at_most_once (by decide) (by decide) reached).1, ?_⟩
  have later := (restore_posted_at_most_once (by decide) (by decide) authorizedHome_reached).2.2.2
    _ requestedHome_reached
  cases found : authorizedHome.rollback failedPlan.deploymentId with
  | none =>
    have there : (authorizedHome.rollback failedPlan.deploymentId).isSome = true := by decide
    rw [found] at there
    cases there
  | some row => exact ⟨row, rfl, later row found⟩

end SyncApp
