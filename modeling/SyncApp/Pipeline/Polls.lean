import SyncApp.Pipeline.AtMostOnce
import SyncApp.Pipeline.Lanes

/-!
# What a poll of a rollback comes to

A poll ends the rollback, leaves it to a later poll, or is refused for good. `poll` says which, from
the row and from what is answered, and `comes_pollRollback` that the poll of the lane comes to just
that: it leaves the row in an ended phase exactly where it ends the rollback, every other rollback as
it was, and an exception or a status that is booked as it should be.
-/

set_option autoImplicit false

namespace SyncApp

open Lib Raising Lane

/-! ## What a poll is answered -/

/-- The proof of Repo B that a poll is given. -/
def provedRepository (access : RollbackAccess) (answers : RollbackAnswers) :
    Except Failure RollbackRepositoryProof := do
  access.validateRepository
  answers.repository.read "repository" RollbackRepositoryProof.valid fun transient =>
    ⟨if transient then "repository proof is unavailable"
      else "rollback repository authority is invalid", transient⟩

/-- The proof of the backup that a poll is given. -/
def provedBackup (answers : RollbackAnswers) : Except Failure RollbackBackupProof :=
  answers.backup.read "backup" RollbackBackupProof.valid fun _ =>
    rollbackError "backup proof is unavailable"

namespace DeploymentRollback

variable (rollback : DeploymentRollback)

/-- Repo B is as the rollback was authorized on it. -/
def agreesRepository (proof : RollbackRepositoryProof) : Bool :=
  provesBaseline rollback.repositoryId rollback.baselineSha proof = true ∧
    proof = rollback.repositoryProof

/-- The backup is as the rollback was authorized on it. -/
def agreesBackup (proof : RollbackBackupProof) : Bool :=
  provesBackup rollback.backupSlug proof = true ∧ proof = rollback.backupProof

/-- A planned or restored rollback whose retry is not due. -/
def waits (now : Int) : Bool :=
  (rollback.phase = .planned ∨ rollback.phase = .observing) ∧ now < nextRetryAt rollback

end DeploymentRollback

/-- What a poll comes to. -/
inductive Poll where
  /-- The row ends. -/
  | ends
  /-- The row goes on, and a later attempt may end it. -/
  | goesOn
  /-- The row goes on, and no later attempt is to be made. -/
  | refused
deriving DecidableEq

/-- What an exception comes to. -/
def Failure.poll (failure : Failure) : Poll := if failure.transient then .goesOn else .refused

section

variable (fromisoformat : String → Option DateTime) (access : RollbackAccess)
  (answers : RollbackAnswers) (rollback : DeploymentRollback)

/-- A planned restore. -/
def pollPlanned : Poll :=
  match provedRepository access answers with
  | .error failure => failure.poll
  | .ok repository =>
    if rollback.agreesRepository repository then
      match provedBackup answers with
      | .error failure => failure.poll
      | .ok backup =>
        if rollback.agreesBackup backup then
          if answers.restore.any definitelyRejected then .ends else .goesOn
        else .refused
    else .refused

/-- A requested restore. -/
def pollRequested : Poll :=
  match answers.jobs with
  | none => .goesOn
  | some response =>
    match (reconciledRestoreJob fromisoformat response rollback.restoreIntent
        access.maxResponseBytes).map fun job => (job.failed, job.done) with
    | some (false, none) => .goesOn
    | some (false, some true) => .goesOn
    | _ => .ends

/-- A restored configuration. -/
def pollRestored : Poll :=
  match provedRepository access answers with
  | .error failure => failure.poll
  | .ok repository =>
    if rollback.agreesRepository repository then
      if answers.coreHealthy ∧ answers.supervisorHealthy then .ends else .goesOn
    else .ends

/-- What a poll of a rollback comes to. -/
def poll (now : Int) : Poll :=
  if rollback.waits now then .goesOn
  else
    match access.validateSupervisorToken with
    | .error _ => .refused
    | .ok _ =>
      match rollback.phase with
      | .planned => pollPlanned access answers rollback
      | .observing => pollRestored access answers rollback
      | _ => pollRequested fromisoformat access answers rollback

end

/-! ## Rows -/

/-- A row with its authority. -/
structure Held (plan : PostDeploymentAssertionPlan) (row : DeploymentRollback) (s : System) :
    Prop where
  recovered : loadRollbackRecoveryPlan s.store row = .ok plan
  loaded : loadDeploymentRollback s.store plan = .ok (some row)

/-- What holds of a row that no pass after `last` has changed. -/
structure RowSound (last : Int) (row : DeploymentRollback) : Prop where
  apart : row.baselineSha ≠ row.candidateSha
  attempts : row.attemptCount ≤ 1
  fresh : row.phase = .planned → row.attemptCount = 0
  job : row.restoreJobId.all isSlug = true
  since : row.authorizedAt ≤ row.updatedAt
  updated : row.phase ≠ .planned → row.updatedAt ≤ last
  restored : row.phase = .observing →
    row.reconciliationState = .restored ∧ row.restoreJobId ≠ none

/-- Every rollback has its authority. -/
def AllHeld (last : Int) (s : System) : Prop :=
  ∀ row ∈ s.store.rollbacks, RowSound last row ∧ ∃ plan, Held plan row s

/-- A row is replaced. -/
def System.replaceRow (s : System) (current replacement : DeploymentRollback) : System :=
  { s with store := { s.store with
    rollbacks := s.store.rollbacks.map fun row => if row = current then replacement else row } }

section Rows

variable {plan : PostDeploymentAssertionPlan} {row : DeploymentRollback} {s : System}
  {last now : Int} {change : RollbackChange}

theorem Held.here (held : Held plan row s) : plan.deploymentId = row.deploymentId := by
  have recovered := held.recovered
  unfold loadRollbackRecoveryPlan at recovered
  split at recovered
  · cases recovered
  next found =>
    split at recovered
    · cases recovered
    · cases recovered
      simpa using List.find?_some found

theorem Held.found (held : Held plan row s) : s.rollback row.deploymentId = some row := by
  rw [← held.here]
  exact loadDeploymentRollback_some held.loaded

theorem AllHeld.held_of_mem (sound : AllHeld last s) (member : row ∈ s.store.rollbacks) :
    s.rollback row.deploymentId = some row := by
  obtain ⟨_, plan, held⟩ := sound row member
  exact held.found

theorem AllHeld.later (sound : AllHeld last s) (later : last ≤ now) : AllHeld now s := by
  intro row member
  obtain ⟨rows, authority⟩ := sound row member
  exact ⟨{ rows with updated := fun moved => (rows.updated moved).trans later }, authority⟩

/-- The records a rollback is authorized on, and its authority. -/
structure SameAuthority (first second : Store) : Prop where
  prepared : second.preparedDeployment = first.preparedDeployment
  observations : second.observations = first.observations
  finalizations : second.finalizations = first.finalizations
  repositoryId : second.repositoryId = first.repositoryId
  authorities : second.recoveryAuthorities = first.recoveryAuthorities

theorem SameAuthority.failureAuthority {first second : Store} (same : SameAuthority first second) :
    failureAuthority second plan = failureAuthority first plan := by
  have loads : loadDeploymentFinalization second plan = loadDeploymentFinalization first plan :=
    loadDeploymentFinalization_congr same.prepared same.observations same.finalizations plan
  unfold SyncApp.failureAuthority isCandidateBlockedByFinalization
  rw [loads, same.prepared, same.repositoryId]

/-- What is loaded goes by the row of the deployment and its authorization. -/
theorem load_replaced {first second : Store} {row later : DeploymentRollback}
    (loaded : loadDeploymentRollback first plan = .ok (some row))
    (authority : SameAuthority first second)
    (found : second.rollbacks.find? (·.deploymentId = plan.deploymentId) = some later)
    (same : SameAuthorization row later) :
    loadDeploymentRollback second plan = .ok (some later) := by
  have before := loadDeploymentRollback_some loaded
  unfold loadDeploymentRollback at loaded ⊢
  rw [before] at loaded
  rw [found]
  obtain ⟨change, time, rfl⟩ := same
  dsimp only at loaded ⊢
  rw [authority.failureAuthority]
  obtain ⟨⟨prepared, finalization⟩, authorized, loaded⟩ := bind_eq_ok.mp loaded
  refine bind_eq_ok.mpr ⟨(prepared, finalization), authorized, ?_⟩
  dsimp only at loaded ⊢
  split at loaded
  · cases loaded
  next agrees =>
    rw [if_neg]
    · rfl
    · exact agrees

/-- A row that is left where it is keeps its authority. -/
theorem Held.congr {t : System} (held : Held plan row s) (rows : t.store.rollbacks = s.store.rollbacks)
    (same : SameAuthority s.store t.store) : Held plan row t where
  recovered := by
    have recovered := held.recovered
    unfold loadRollbackRecoveryPlan at recovered ⊢
    rw [same.authorities, same.prepared]
    exact recovered
  loaded := load_replaced held.loaded same (rows ▸ loadDeploymentRollback_some held.loaded)
    (.refl row)

theorem AllHeld.congr {t : System} (sound : AllHeld last s) (rows : t.store.rollbacks = s.store.rollbacks)
    (same : SameAuthority s.store t.store) : AllHeld last t := fun other member => by
  obtain ⟨kept, plan, held⟩ := sound other (rows ▸ member)
  exact ⟨kept, plan, held.congr rows same⟩

theorem find_replaceRow_apart {deploymentId : PyStr} {replacement : DeploymentRollback}
    (same : replacement.deploymentId = row.deploymentId)
    (apart : deploymentId ≠ row.deploymentId) :
    (s.replaceRow row replacement).rollback deploymentId = s.rollback deploymentId := by
  exact Rows.find_replace_apart same apart

/-- A row that changes keeps its authority. -/
theorem Held.replace (held : Held plan row s) :
    Held plan (row.change change now) (s.replaceRow row (row.change change now)) where
  recovered := held.recovered
  loaded := by
    refine load_replaced held.loaded ⟨rfl, rfl, rfl, rfl, rfl⟩ ?_ ⟨change, now, rfl⟩
    rw [held.here]
    exact Rows.find_replaced rfl held.found

/-- And so does every other row. -/
theorem AllHeld.replace (sound : AllHeld last s) (later : last ≤ now) (held : Held plan row s)
    (kept : RowSound now (row.change change now)) :
    AllHeld now (s.replaceRow row (row.change change now)) := by
  intro other member
  obtain ⟨before, old, same⟩ := List.mem_map.mp member
  split at same
  · subst same
    exact ⟨kept, plan, held.replace⟩
  next differs =>
    subst same
    obtain ⟨rows, authority, there⟩ := sound before old
    refine ⟨{ rows with updated := fun moved => (rows.updated moved).trans later }, authority,
      there.recovered, load_replaced there.loaded ⟨rfl, rfl, rfl, rfl, rfl⟩ ?_ (.refl before)⟩
    rw [there.here]
    have apart : before.deploymentId ≠ row.deploymentId := fun same => by
      have one := there.found
      rw [same, held.found] at one
      exact differs (Option.some.inj one).symm
    show (s.replaceRow row (row.change change now)).rollback before.deploymentId = some before
    rw [find_replaceRow_apart (by rfl) apart]
    exact there.found

end Rows

/-! ## Polls -/

/-- How the result of a call is booked on the work: as a failure that may pass or may not, or not at
all. -/
def booked : Except Failure RollbackRestoreResult → Option Bool
  | .error failure => some failure.transient
  | .ok outcome =>
    if outcome.status = .blocked ∨ outcome.status = .ambiguous then some false
    else if outcome.status ≠ .completed then some true
    else none

/-- What a poll leaves behind. -/
structure Polled (now : Int) (row : DeploymentRollback) (comes : Poll) (s t : System) : Prop where
  sound : AllHeld now t
  work : t.store.work = s.store.work
  apart : ∀ deploymentId, deploymentId ≠ row.deploymentId →
    t.rollback deploymentId = s.rollback deploymentId
  here : ∃ later, t.rollback row.deploymentId = some later ∧
    (later.phase.terminal = true ↔ comes = .ends)

/-- A call comes to what the answers say. -/
def Comes (now : Int) (row : DeploymentRollback) (comes : Poll) (s : System)
    (call : Lane RollbackRestoreResult) : Prop :=
  ∃ result t, call.eval s = (result, t) ∧ Polled now row comes s t ∧
    (comes = .goesOn → booked result = some true) ∧
    (comes = .refused → booked result = some false)

section Polls

variable {plan : PostDeploymentAssertionPlan} {row : DeploymentRollback} {s : System}
  {last now : Int} {access : RollbackAccess}

theorem eval_ask {α : Type} (read : RollbackAnswers → Except Failure α) (s : System) :
    (ask read).eval s = (read s.answers, s) := rfl

theorem eval_readRepository (access : RollbackAccess) (s : System) :
    (readRepository access).eval s = (provedRepository access s.answers, s) := by
  unfold readRepository provedRepository
  rw [eval_bind, eval_ofResult]
  cases access.validateRepository with
  | ok _ => rfl
  | error failure => rfl

theorem eval_readBackup (s : System) : readBackup.eval s = (provedBackup s.answers, s) := rfl

/-- A poll that changes nothing. -/
theorem Polled.still {comes : Poll} (sound : AllHeld last s) (later : last ≤ now)
    (held : Held plan row s) (going : row.phase.terminal = false) (unended : comes ≠ .ends) :
    Polled now row comes s s where
  sound := sound.later later
  work := rfl
  apart := fun _ _ => rfl
  here := ⟨row, held.found, by
    rw [going]
    exact ⟨fun wrong => (nomatch wrong), fun wrong => absurd wrong unended⟩⟩

/-- A call that raises, and has changed nothing. -/
theorem comes_raised {call : Lane RollbackRestoreResult} {failure : Failure} {comes : Poll}
    (sound : AllHeld last s) (later : last ≤ now) (held : Held plan row s)
    (going : row.phase.terminal = false) (raised : call.eval s = (.error failure, s))
    (same : comes = failure.poll) : Comes now row comes s call := by
  subst same
  unfold Failure.poll
  cases transient : failure.transient with
  | true =>
    refine ⟨_, s, raised, Polled.still sound later held going ?_, fun _ => ?_, fun wrong => ?_⟩
    · simp
    · exact congrArg some transient
    · simp at wrong
  | false =>
    refine ⟨_, s, raised, Polled.still sound later held going ?_, fun wrong => ?_, fun _ => ?_⟩
    · simp
    · simp at wrong
    · exact congrArg some transient

/-- The row ids of phases in which a job may stand, and must. -/
def RollbackChange.jobFits (change : RollbackChange) : Prop :=
  (change.phase = .restoreAcknowledged → change.restoreJobId ≠ none) ∧
    (change.phase ∈ [RollbackPhase.planned, .restoreStarted, .uncertain, .blocked] →
      change.restoreJobId = none)

/-- A transition of a held row that goes through. -/
theorem eval_transition {change : RollbackChange} (held : Held plan row s)
    (kept : RowSound now (row.change change now)) (fits : change.jobFits) :
    (transitionRollback plan row change now).eval s =
      (.ok (row.change change now), s.replaceRow row (row.change change now)) := by
  have valid : (row.change change now).valid = true := by
    refine decide_eq_true ⟨kept.apart, kept.attempts.trans (by decide), kept.job, fits.1, fits.2,
      kept.since⟩
  refine (eval_bind_ok (eval_ensure valid)).trans ?_
  have replaced : (transaction (replaceRollback plan row (row.change change now))).eval s =
      (.ok (), s.replaceRow row (row.change change now)) := by
    refine eval_transaction ?_
    unfold replaceRollback
    rw [held.loaded]
    exact if_neg (fun wrong => wrong rfl)
  refine (eval_bind_ok replaced).trans ?_
  refine (eval_bind_ok (eval_query held.replace.loaded)).trans ?_
  exact (eval_bind_ok (eval_ensure rfl)).trans rfl

/-- A transition leaves what the row has come to. -/
theorem Polled.replace {change : RollbackChange} {comes : Poll} (sound : AllHeld last s)
    (later : last ≤ now) (held : Held plan row s) (kept : RowSound now (row.change change now))
    (same : change.phase.terminal = true ↔ comes = .ends) :
    Polled now row comes s (s.replaceRow row (row.change change now)) where
  sound := sound.replace later held kept
  work := rfl
  apart := fun _ apart => find_replaceRow_apart (by rfl) apart
  here := ⟨row.change change now, Rows.find_replaced (by rfl) held.found, same⟩

/-- What a row comes to is what it comes to after a step on the way. -/
theorem Polled.after {comes : Poll} {middle : DeploymentRollback} {t u : System}
    (turned : Polled now row .goesOn s t) (same : middle.deploymentId = row.deploymentId)
    (polled : Polled now middle comes t u) : Polled now row comes s u where
  sound := polled.sound
  work := polled.work.trans turned.work
  apart := fun deploymentId apart =>
    (polled.apart deploymentId (same ▸ apart)).trans (turned.apart deploymentId apart)
  here := same ▸ polled.here

/-! ### A planned restore -/

theorem RowSound.change_to {change : RollbackChange} (rows : RowSound last row)
    (since : row.updatedAt ≤ now) (unplanned : change.phase ≠ .planned)
    (attempts : change.attemptCount ≤ 1) (job : change.restoreJobId.all isSlug = true)
    (restored : change.phase = .observing →
      change.reconciliationState = .restored ∧ change.restoreJobId ≠ none) :
    RowSound now (row.change change now) where
  apart := rows.apart
  attempts := attempts
  fresh := fun planned => absurd planned unplanned
  job := job
  since := rows.since.trans since
  updated := fun _ => le_refl now
  restored := restored

/-- A job that is acknowledged has a job identifier. -/
theorem restoreJobId_slug {response : SupervisorResponse} {limit : Nat} {jobId : String}
    (read : restoreJobId response limit = .ok jobId) : isSlug jobId = true := by
  unfold restoreJobId at read
  split at read
  · cases read
  split at read
  · split at read
    · split at read
      · split at read
        next slug =>
          cases read
          exact slug
        next => cases read
      · cases read
    · cases read
  · cases read

/-- A change to a row that was requested, and what the row comes to by it. -/
structure RollbackChange.Proper (change : RollbackChange) (comes : Poll) : Prop where
  unplanned : change.phase ≠ .planned
  attempts : change.attemptCount ≤ 1
  job : change.restoreJobId.all isSlug = true
  restored : change.phase = .observing →
    change.reconciliationState = .restored ∧ change.restoreJobId ≠ none
  fits : change.jobFits
  same : change.phase.terminal = true ↔ comes = .ends

/-- A call that changes a row, and then returns or raises. -/
theorem comes_transition {change : RollbackChange} {comes : Poll}
    {rest : DeploymentRollback → Lane RollbackRestoreResult}
    {result : Except Failure RollbackRestoreResult} (sound : AllHeld last s) (later : last ≤ now)
    (held : Held plan row s) (since : row.updatedAt ≤ now) (proper : change.Proper comes)
    (ends : ∀ replacement t, (rest replacement).eval t = (result, t))
    (goes : comes = .goesOn → booked result = some true) (taken : comes ≠ .refused) :
    Comes now row comes s (transitionRollback plan row change now >>= rest) := by
  have rows := (sound row (List.mem_of_find?_eq_some held.found)).1
  have kept : RowSound now (row.change change now) :=
    rows.change_to since proper.unplanned proper.attempts proper.job proper.restored
  have moved := eval_transition held kept proper.fits
  exact ⟨result, _, (eval_bind_ok moved).trans (ends _ _),
    .replace sound later held kept proper.same, goes, fun wrong => absurd wrong taken⟩

theorem comes_uncertainRestore (sound : AllHeld last s) (later : last ≤ now) (held : Held plan row s)
    (since : row.updatedAt ≤ now) (attempts : row.attemptCount ≤ 1) :
    Comes now row .goesOn s (uncertainRestore plan row now) :=
  comes_transition sound later held since
    ⟨by simp, attempts, rfl, by simp, ⟨by simp, by simp⟩, by simp [RollbackPhase.terminal]⟩
    (fun _ _ => rfl) (fun _ => by decide) (by simp)

theorem comes_settleRestore {response : Option SupervisorResponse} (sound : AllHeld last s)
    (later : last ≤ now) (held : Held plan row s) (since : row.updatedAt ≤ now)
    (attempts : row.attemptCount ≤ 1) :
    Comes now row (if response.any definitelyRejected then .ends else .goesOn) s
      (settleRestore access plan row now response) := by
  cases response with
  | none => exact comes_uncertainRestore sound later held since attempts
  | some response =>
    unfold settleRestore
    dsimp only [Option.any]
    split
    next rejected =>
      exact comes_transition sound later held since
        ⟨by simp, attempts, rfl, by simp, ⟨by simp, by simp⟩, by simp [RollbackPhase.terminal]⟩
        (fun _ _ => rfl) (by simp) (by simp)
    next =>
      split
      · exact comes_uncertainRestore sound later held since attempts
      next jobId read =>
        exact comes_transition sound later held since
          ⟨by simp, attempts, restoreJobId_slug read, by simp, ⟨by simp, by simp⟩,
            by simp [RollbackPhase.terminal]⟩
          (fun _ _ => rfl) (fun _ => rfl) (by simp)

theorem SameAuthority.of_eq {first second : Store} (same : second = first) :
    SameAuthority first second := by
  subst same
  exact ⟨rfl, rfl, rfl, rfl, rfl⟩

/-- A planned row that is started, and its request sent. -/
theorem comes_started (sound : AllHeld last s) (later : last ≤ now) (held : Held plan row s)
    (since : row.updatedAt ≤ now) (planned : row.phase = .planned) :
    Comes now row (if s.answers.restore.any definitelyRejected then .ends else .goesOn) s (do
      let started : DeploymentRollback ← transitionRollback plan row
        ⟨.restoreStarted, .none, .none, row.attemptCount + 1, none⟩ now
      let response ← postRestore started.deploymentId
      settleRestore access plan started now response) := by
  have rows := (sound row (List.mem_of_find?_eq_some held.found)).1
  have unattempted := rows.fresh planned
  have kept : RowSound now (row.change
      ⟨.restoreStarted, .none, .none, row.attemptCount + 1, none⟩ now) :=
    rows.change_to since (by simp) (by simp [unattempted]) rfl (by simp)
  have moved := eval_transition held kept ⟨by simp, by simp⟩
  have turned : Polled now row .goesOn s (s.replaceRow row (row.change
      ⟨.restoreStarted, .none, .none, row.attemptCount + 1, none⟩ now)) :=
    .replace sound later held kept (by simp [RollbackPhase.terminal])
  have sent : ∀ t : System, ∃ u, (postRestore row.deploymentId).eval t =
      (.ok t.answers.restore, u) ∧ u.store = t.store := fun t => ⟨_, rfl, rfl⟩
  obtain ⟨u, posted, same⟩ := sent (s.replaceRow row (row.change
    ⟨.restoreStarted, .none, .none, row.attemptCount + 1, none⟩ now))
  have settled : Comes now _ (if s.answers.restore.any definitelyRejected then .ends else .goesOn) u
      (settleRestore access plan _ now s.answers.restore) :=
    comes_settleRestore (turned.sound.congr (congrArg Store.rollbacks same) (.of_eq same))
      (le_refl now) (held.replace.congr (congrArg Store.rollbacks same) (.of_eq same)) (le_refl now)
      kept.attempts
  obtain ⟨result, t, ran, polled, goes, refused⟩ := settled
  refine ⟨result, t, ?_, turned.after rfl ?_, goes, refused⟩
  · exact (eval_bind_ok moved).trans ((eval_bind_ok posted).trans ran)
  · refine ⟨polled.sound, polled.work.trans (congrArg Store.work same), fun other apart => ?_,
      polled.here⟩
    exact (polled.apart other apart).trans (rollback_congr (congrArg Store.rollbacks same))

theorem comes_requestPlannedRestore (sound : AllHeld last s) (later : last ≤ now)
    (held : Held plan row s) (since : row.updatedAt ≤ now) (planned : row.phase = .planned)
    (token : access.validateSupervisorToken = .ok ()) (limits : access.validateLimits = .ok ()) :
    Comes now row (pollPlanned access s.answers row) s
      (requestPlannedRestore access plan row (some now)) := by
  have going : row.phase.terminal = false := by
    rw [planned]
    rfl
  have front : ∀ result : Except Failure Unit,
      (reproveExternalInputs access row).eval s = (result, s) →
      (requestPlannedRestore access plan row (some now)).eval s = (match result with
        | .ok _ => (do
            let started : DeploymentRollback ← transitionRollback plan row
              ⟨.restoreStarted, .none, .none, row.attemptCount + 1, none⟩ now
            let response ← postRestore started.deploymentId
            settleRestore access plan started now response : Lane RollbackRestoreResult).eval s
        | .error failure => (.error failure, s)) := by
    intro result reproved
    unfold requestPlannedRestore
    rw [token, limits]
    refine (eval_bind_ok rfl).trans ((eval_bind_ok rfl).trans ?_)
    rw [eval_bind, reproved]
    cases result with
    | ok _ => exact eval_bind_ok rfl
    | error failure => rfl
  have raises : ∀ failure : Failure,
      (reproveExternalInputs access row).eval s = (.error failure, s) →
      Comes now row failure.poll s (requestPlannedRestore access plan row (some now)) :=
    fun failure raised => comes_raised sound later held going (front (.error failure) raised) rfl
  have first := eval_readRepository access s
  unfold pollPlanned
  cases repository : provedRepository access s.answers with
  | error failure =>
    rw [repository] at first
    exact raises failure (eval_bind_error first)
  | ok proof =>
    rw [repository] at first
    dsimp only
    split
    next agrees =>
      have second := eval_readBackup s
      have reads : (reproveExternalInputs access row).eval s = (do
          let backup ← readBackup
          ensure (provesBackup row.backupSlug backup = true ∧ backup = row.backupProof)
            (invalidProof "backup") : Lane Unit).eval s :=
        (eval_bind_ok first).trans (eval_bind_ok (eval_ensure (of_decide_eq_true agrees)))
      cases backup : provedBackup s.answers with
      | error failure =>
        rw [backup] at second
        exact raises failure (reads.trans (eval_bind_error second))
      | ok backup_proof =>
        rw [backup] at second
        dsimp only
        split
        next agrees =>
          obtain ⟨result, t, ran, comes⟩ := comes_started sound later held since planned
          refine ⟨result, t, (front (.ok ()) ?_).trans ran, comes⟩
          exact reads.trans ((eval_bind_ok second).trans (eval_ensure (of_decide_eq_true agrees)))
        next differs =>
          refine raises (invalidProof "backup") ?_
          refine reads.trans ((eval_bind_ok second).trans (eval_ensure_not fun agrees => ?_))
          exact differs (decide_eq_true agrees)
    next differs =>
      refine raises (invalidProof "repository") ((eval_bind_ok first).trans (eval_bind_error ?_))
      exact eval_ensure_not fun agrees => differs (decide_eq_true agrees)

/-! ### A requested restore -/

theorem parseRestoreJob_slug {fromisoformat : String → Option DateTime} {intent : RestoreIntent}
    {value : List (String × Json)} {job : SupervisorRestoreJob}
    (parsed : parseRestoreJob fromisoformat intent value = some job) : isSlug job.jobId = true := by
  unfold parseRestoreJob at parsed
  split at parsed
  · cases parsed
  split at parsed
  · split at parsed
    next shape =>
      simp only [Bool.and_eq_true] at shape
      split at parsed
      · split at parsed
        · cases parsed
        · cases parsed
          exact shape.1.1
      · cases parsed
    next => cases parsed
  · cases parsed

theorem reconciledRestoreJob_slug {fromisoformat : String → Option DateTime}
    {response : SupervisorResponse} {intent : RestoreIntent} {limit : Nat}
    {job : SupervisorRestoreJob}
    (read : reconciledRestoreJob fromisoformat response intent limit = some job) :
    isSlug job.jobId = true := by
  unfold reconciledRestoreJob at read
  split at read
  · cases read
  split at read
  · cases read
  split at read
  · obtain ⟨parsed, _⟩ := Option.filter_eq_some_iff.mp read
    exact parseRestoreJob_slug parsed
  split at read
  · split at read
    next only =>
      split at read
      · cases read
      · cases read
        have member := List.mem_singleton_self (some job)
        rw [← only] at member
        obtain ⟨value, _, matched⟩ := List.mem_filterMap.mp member
        split at matched
        · split at matched
          · exact parseRestoreJob_slug (Option.some.inj matched)
          · cases matched
        · cases matched
    · cases read
  · cases read

variable (fromisoformat : String → Option DateTime)

/-- What the evidence of a job comes to. -/
theorem comes_settleReconciliation {job : Option SupervisorRestoreJob} (sound : AllHeld last s)
    (later : last ≤ now) (held : Held plan row s) (since : row.updatedAt ≤ now)
    (going : row.phase.terminal = false) (slug : ∀ seen, job = some seen → isSlug seen.jobId = true) :
    Comes now row (match job.map fun job => (job.failed, job.done) with
      | some (false, none) => .goesOn
      | some (false, some true) => .goesOn
      | _ => .ends) s (settleReconciliation plan row now job) := by
  have attempts := (sound row (List.mem_of_find?_eq_some held.found)).1.attempts
  have ambiguous : Comes now row .ends s (do
      let _ ← transitionRollback plan row
        ⟨.blocked, .ambiguous, .ambiguous, row.attemptCount, none⟩ now
      return ⟨.ambiguous, false⟩) :=
    comes_transition sound later held since
      ⟨by simp, attempts, rfl, by simp, ⟨by simp, by simp⟩, by simp [RollbackPhase.terminal]⟩
      (fun _ _ => rfl) (by simp) (by simp)
  cases job with
  | none => exact ambiguous
  | some job =>
    obtain ⟨jobId, done, failed, createdAt⟩ := job
    have shape : isSlug jobId = true := slug _ rfl
    cases failed with
    | true => exact ambiguous
    | false =>
      cases done with
      | none =>
        unfold settleReconciliation
        dsimp only [Option.map]
        split
        · exact ⟨.ok ⟨.inProgress, false⟩, s, rfl, .still sound later held going (by simp),
            fun _ => rfl, by simp⟩
        · exact comes_transition sound later held since
            ⟨by simp, attempts, shape, by simp, ⟨by simp, by simp⟩, by simp [RollbackPhase.terminal]⟩
            (fun _ _ => rfl) (fun _ => rfl) (by simp)
      | some done =>
        cases done with
        | false => exact ambiguous
        | true =>
          exact comes_transition sound later held since
            ⟨by simp, attempts, shape, by simp, ⟨by simp, by simp⟩, by simp [RollbackPhase.terminal]⟩
            (fun _ _ => rfl) (fun _ => rfl) (by simp)

theorem comes_reconcileRequestedRestore (sound : AllHeld last s) (later : last ≤ now)
    (held : Held plan row s) (since : row.updatedAt ≤ now) (going : row.phase.terminal = false)
    (token : access.validateSupervisorToken = .ok ()) (limits : access.validateLimits = .ok ()) :
    Comes now row (pollRequested fromisoformat access s.answers row) s
      (reconcileRequestedRestore fromisoformat access plan row (some now)) := by
  unfold reconcileRequestedRestore
  rw [token, limits]
  unfold pollRequested
  cases answered : s.answers.jobs with
  | none =>
    show Comes now row .goesOn s _
    refine comes_raised sound later held going ((eval_bind_ok rfl).trans ((eval_bind_ok rfl).trans
      (eval_bind_error (e := rollbackError "rollback reconciliation is temporarily unavailable")
        ?_))) (by decide)
    rw [eval_ask, answered]
  | some response =>
    have slug : ∀ seen, reconciledRestoreJob fromisoformat response row.restoreIntent
        access.maxResponseBytes = some seen → isSlug seen.jobId = true :=
      fun _ read => reconciledRestoreJob_slug read
    obtain ⟨result, t, ran, comes⟩ := comes_settleReconciliation sound later held since going slug
    refine ⟨result, t, (eval_bind_ok rfl).trans ((eval_bind_ok rfl).trans
      ((eval_bind_ok (a := response) (t := s) ?_).trans ?_)), comes⟩
    · rw [eval_ask, answered]
    · exact (eval_bind_ok rfl).trans ((eval_bind_ok (eval_ensure since)).trans ran)

/-! ### A restored configuration -/

theorem comes_completeRestoredRollback (sound : AllHeld last s) (later : last ≤ now)
    (held : Held plan row s) (since : row.updatedAt ≤ now) (observing : row.phase = .observing)
    (token : access.validateSupervisorToken = .ok ()) :
    Comes now row (pollRestored access s.answers row) s
      (completeRestoredRollback access plan row (some now)) := by
  have rows := (sound row (List.mem_of_find?_eq_some held.found)).1
  have going : row.phase.terminal = false := by
    rw [observing]
    rfl
  have first := eval_readRepository access s
  unfold completeRestoredRollback pollRestored
  rw [token]
  cases repository : provedRepository access s.answers with
  | error failure =>
    rw [repository] at first
    exact comes_raised sound later held going ((eval_bind_ok rfl).trans (eval_bind_error first)) rfl
  | ok proof =>
    rw [repository] at first
    by_cases agrees : row.agreesRepository proof = true
    · have proved := of_decide_eq_true agrees
      dsimp only
      rw [if_pos agrees]
      have healthy : ∀ answer : Except Failure Unit,
          (if s.answers.coreHealthy ∧ s.answers.supervisorHealthy then .ok ()
            else .error (rollbackError "rollback post-restore health is unavailable")) = answer →
          (ask fun answers => if answers.coreHealthy ∧ answers.supervisorHealthy then .ok ()
            else .error (rollbackError "rollback post-restore health is unavailable")).eval s =
            (answer, s) := fun answer same => congrArg (·, s) same
      by_cases health : s.answers.coreHealthy ∧ s.answers.supervisorHealthy
      · rw [if_pos health]
        have completes : Comes now row .ends s (do
            let _ ← transitionRollback plan row
              ⟨.completed, .restored, .none, row.attemptCount, row.restoreJobId⟩ now
            return ⟨.completed, false⟩) :=
          comes_transition sound later held since
            ⟨by simp, rows.attempts, rows.job, by simp, ⟨by simp, by simp⟩,
              by simp [RollbackPhase.terminal]⟩
            (fun _ _ => rfl) (by simp) (by simp)
        obtain ⟨result, t, ran, comes⟩ := completes
        refine ⟨result, t, ?_, comes⟩
        refine (eval_bind_ok rfl).trans ((eval_bind_ok first).trans ?_)
        rw [if_pos proved]
        refine (eval_bind_ok (healthy (.ok ()) (if_pos health))).trans ?_
        exact (eval_bind_ok rfl).trans ((eval_bind_ok (eval_ensure since)).trans ran)
      · rw [if_neg health]
        have unhealthy : (completeHealthyRollback plan row (some now)).eval s =
            (.error (rollbackError "rollback post-restore health is unavailable"), s) :=
          eval_bind_error (healthy (.error _) (if_neg health))
        refine comes_raised sound later held going ((eval_bind_ok rfl).trans
          ((eval_bind_ok first).trans ?_)) (?_ : Poll.goesOn = (rollbackError
            "rollback post-restore health is unavailable").poll)
        · rw [if_pos proved]
          exact unhealthy
        · decide
    · have differs : ¬(provesBaseline row.repositoryId row.baselineSha proof = true ∧
          proof = row.repositoryProof) := fun proved => agrees (decide_eq_true proved)
      dsimp only
      rw [if_neg agrees]
      have diverges : Comes now row .ends s (do
          let _ ← transitionRollback plan row
            ⟨.blocked, .restored, .repositoryDivergence, row.attemptCount, none⟩ now
          return ⟨.blocked, false⟩) :=
        comes_transition sound later held since
          ⟨by simp, rows.attempts, rfl, by simp, ⟨by simp, by simp⟩, by simp [RollbackPhase.terminal]⟩
          (fun _ _ => rfl) (by simp) (by simp)
      obtain ⟨result, t, ran, comes⟩ := diverges
      refine ⟨result, t, ?_, comes⟩
      refine (eval_bind_ok rfl).trans ((eval_bind_ok first).trans ?_)
      rw [if_neg differs]
      exact (eval_bind_ok rfl).trans ((eval_bind_ok (eval_ensure since)).trans ran)

/-! ### Any poll -/

theorem validateSupervisorToken_error {failure : Failure}
    (refused : access.validateSupervisorToken = .error failure) : failure.poll = .refused := by
  have credential : failure = rollbackError "rollback proof credential is unavailable" := by
    unfold RollbackAccess.validateSupervisorToken validateRollbackToken at refused
    split at refused
    · split at refused
      · cases refused
      · exact (Except.error.inj refused).symm
    · exact (Except.error.inj refused).symm
  rw [credential]
  decide

theorem comes_underRecoveryPlan {comes : Poll} {failedClosed : String}
    {call : PostDeploymentAssertionPlan → Lane RollbackRestoreResult} (held : Held plan row s)
    (called : Comes now row comes s (call plan)) :
    Comes now row comes s (underRecoveryPlan row failedClosed call) := by
  obtain ⟨result, t, ran, polled, goes, refused⟩ := called
  have planned : (query (loadRollbackRecoveryPlan · row)).eval s = (.ok plan, s) :=
    eval_query held.recovered
  cases result with
  | ok outcome => exact ⟨.ok outcome, t, (eval_bind_ok planned).trans (eval_rethrow ran), polled,
      goes, refused⟩
  | error failure => exact ⟨.error ⟨failedClosed, failure.transient⟩, t,
      (eval_bind_ok planned).trans (eval_tryCatch_error ran), polled, goes, refused⟩

theorem updatedAt_le_of_due (due : ¬now < nextRetryAt row) : row.updatedAt ≤ now := by
  unfold nextRetryAt at due
  generalize min 60 (2 ^ min row.attemptCount 5) = delay at due
  omega

/-- Where the token is refused, the call is, before it has changed anything. -/
theorem comes_checkedToken {comes : Poll} {rest : Unit → Lane RollbackRestoreResult}
    (sound : AllHeld last s) (later : last ≤ now) (held : Held plan row s)
    (going : row.phase.terminal = false)
    (taken : access.validateSupervisorToken = .ok () →
      Comes now row comes s (ofResult access.validateSupervisorToken >>= rest)) :
    Comes now row (match access.validateSupervisorToken with
      | .error _ => .refused
      | .ok _ => comes) s (ofResult access.validateSupervisorToken >>= rest) := by
  cases token : access.validateSupervisorToken with
  | ok _ =>
    rw [token] at taken
    exact taken rfl
  | error failure =>
    exact comes_raised sound later held going (eval_bind_error (e := failure) rfl)
      (validateSupervisorToken_error token).symm

/-- How the result of a poll is booked; a poll that waits counts as a failure that may pass. -/
def bookedPoll : Except Failure (Option RollbackRestoreResult) → Option Bool
  | .error failure => some failure.transient
  | .ok none => some true
  | .ok (some outcome) => booked (.ok outcome)

theorem comes_some {comes : Poll} {call : Lane RollbackRestoreResult}
    (called : Comes now row comes s call) :
    ∃ result t, (do return some (← call) : Lane (Option RollbackRestoreResult)).eval s =
        (result, t) ∧ Polled now row comes s t ∧
      (comes = .goesOn → bookedPoll result = some true) ∧
      (comes = .refused → bookedPoll result = some false) := by
  obtain ⟨result, t, ran, polled, goes, refused⟩ := called
  cases result with
  | ok outcome => exact ⟨.ok (some outcome), t, eval_bind_ok ran, polled, goes, refused⟩
  | error failure => exact ⟨.error failure, t, eval_bind_error ran, polled, goes, refused⟩

theorem comes_pollRollback (sound : AllHeld last s) (later : last ≤ now) (held : Held plan row s)
    (listed : row.phase.retryable = true) (limits : access.validateLimits = .ok ()) :
    ∃ result t, (pollRollback fromisoformat access row now).eval s = (result, t) ∧
      Polled now row (poll fromisoformat access s.answers row now) s t ∧
      (poll fromisoformat access s.answers row now = .goesOn → bookedPoll result = some true) ∧
      (poll fromisoformat access s.answers row now = .refused → bookedPoll result = some false) := by
  have rows := (sound row (List.mem_of_find?_eq_some held.found)).1
  have going : row.phase.terminal = false := by
    cases phase : row.phase with
    | completed => rw [phase] at listed; cases listed
    | blocked => rw [phase] at listed; cases listed
    | _ => rfl
  have loads : (query (loadDeploymentRollback · plan)).eval s = (.ok (some row), s) :=
    eval_query held.loaded
  have loaded : ∀ (rest : Option DeploymentRollback → Lane RollbackRestoreResult) (comes : Poll),
      Comes now row comes s (rest (some row)) →
        Comes now row comes s (query (loadDeploymentRollback · plan) >>= rest) := by
    rintro rest comes ⟨result, t, ran, rested⟩
    exact ⟨result, t, (eval_bind_ok loads).trans ran, rested⟩
  have waiting : ∃ result t, (pure none : Lane (Option RollbackRestoreResult)).eval s = (result, t) ∧
      Polled now row .goesOn s t ∧ (Poll.goesOn = .goesOn → bookedPoll result = some true) ∧
      (Poll.goesOn = .refused → bookedPoll result = some false) :=
    ⟨.ok none, s, rfl, .still sound later held going (by simp), fun _ => rfl, by simp⟩
  have reconciles : row.phase.requested = true → row.phase ≠ .observing →
      Comes now row (match access.validateSupervisorToken with
        | .error _ => .refused
        | .ok _ => pollRequested fromisoformat access s.answers row) s
        (reconcilePendingRollback fromisoformat access row now) := by
    intro requested unobserved
    refine comes_underRecoveryPlan held (loaded _ _ ?_)
    have reads : Comes now row _ s
        (reconcileRequestedRestore fromisoformat access plan row (some now)) :=
      comes_checkedToken sound later held going fun token =>
        comes_reconcileRequestedRestore fromisoformat sound later held
          ((rows.updated fun planned => by rw [planned] at requested; cases requested).trans later)
          going token limits
    cases phase : row.phase with
    | restoreStarted => simpa only [phase] using reads
    | restoreAcknowledged => simpa only [phase] using reads
    | uncertain => simpa only [phase] using reads
    | observing => exact absurd phase unobserved
    | planned => rw [phase] at requested; cases requested
    | completed => rw [phase] at requested; cases requested
    | blocked => rw [phase] at requested; cases requested
  unfold pollRollback poll DeploymentRollback.waits rollbackRequiresReconciliation
  cases phase : row.phase with
  | planned =>
    by_cases early : now < nextRetryAt row
    · simpa [early] using waiting
    · have requests : Comes now row (match access.validateSupervisorToken with
          | .error _ => .refused
          | .ok _ => pollPlanned access s.answers row) s
          (executeRollbackRestore access row now) := by
        refine comes_underRecoveryPlan held (loaded _ _ ?_)
        have asks : Comes now row _ s (requestPlannedRestore access plan row (some now)) :=
          comes_checkedToken sound later held going fun token =>
            comes_requestPlannedRestore sound later held (updatedAt_le_of_due early) phase token
              limits
        simpa only [phase] using asks
      simpa [early] using comes_some requests
  | observing =>
    by_cases early : now < nextRetryAt row
    · simpa [early] using waiting
    · have completes : Comes now row (match access.validateSupervisorToken with
          | .error _ => .refused
          | .ok _ => pollRestored access s.answers row) s
          (completeRollbackObservation access row now) := by
        refine comes_underRecoveryPlan held (loaded _ _ ?_)
        have proves : Comes now row _ s (completeRestoredRollback access plan row (some now)) :=
          comes_checkedToken sound later held going fun token =>
            comes_completeRestoredRollback sound later held (updatedAt_le_of_due early) phase token
        simpa [phase, rows.restored phase] using proves
      simpa [early] using comes_some completes
  | restoreStarted => simpa using comes_some (reconciles (by rw [phase]; rfl) (by rw [phase]; simp))
  | restoreAcknowledged =>
    simpa using comes_some (reconciles (by rw [phase]; rfl) (by rw [phase]; simp))
  | uncertain => simpa using comes_some (reconciles (by rw [phase]; rfl) (by rw [phase]; simp))
  | completed => rw [phase] at listed; cases listed
  | blocked => rw [phase] at listed; cases listed

end Polls

end SyncApp
