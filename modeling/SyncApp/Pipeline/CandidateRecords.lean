import SyncApp.Pipeline.BackupOnce
import SyncApp.Pipeline.PreflightCalls

/-!
# What a call does to the records of a candidate

The row of a candidate, its checkpoints and its backup, as a record of the candidate alone.
`records_step` says once what a transaction of the preflight can do to it, and `reach_records` what
passes can do that are broken off, taken up again and overlap.
-/

set_option autoImplicit false

namespace SyncApp

open Lib Raising Lane

/-! ## Records -/

/-- What the tables hold of a candidate. -/
@[ext] structure CandidateRecords where
  orchestration : Option CandidateOrchestration
  checkpoint : (stage : PreflightStage) → Option (CandidateCheckpoint stage)
  backup : Option CandidateBackupCheckpoint

def Store.records (store : Store) (candidateSha : ShortDigest) : CandidateRecords :=
  ⟨store.orchestration candidateSha, fun stage => store.checkpoint stage candidateSha,
    store.backupCheckpoint candidateSha⟩

namespace CandidateRecords

variable (records : CandidateRecords) {stage : PreflightStage}

/-- The records with another checkpoint of a stage. -/
def withCheckpoint (row : CandidateCheckpoint stage) : CandidateRecords :=
  { records with checkpoint := fun other =>
      if same : stage = other then some (same ▸ row) else records.checkpoint other }

@[simp] theorem withCheckpoint_here (row : CandidateCheckpoint stage) :
    (records.withCheckpoint row).checkpoint stage = some row := dif_pos rfl

theorem withCheckpoint_apart (row : CandidateCheckpoint stage) {other : PreflightStage}
    (apart : stage ≠ other) :
    (records.withCheckpoint row).checkpoint other = records.checkpoint other := dif_neg apart

@[simp] theorem withCheckpoint_orchestration (row : CandidateCheckpoint stage) :
    (records.withCheckpoint row).orchestration = records.orchestration := rfl

@[simp] theorem withCheckpoint_backup (row : CandidateCheckpoint stage) :
    (records.withCheckpoint row).backup = records.backup := rfl

end CandidateRecords

/-- What a transaction can do to the records of a candidate. -/
inductive RecordStep : CandidateRecords → CandidateRecords → Prop where
  | kept (records : CandidateRecords) : RecordStep records records
  | registered {records : CandidateRecords} (record : CandidateOrchestration)
    (absent : records.orchestration = none) (detected : record.phase = .detected) :
    RecordStep records { records with orchestration := some record }
  | planned {records : CandidateRecords} {stage : PreflightStage}
    (current : CandidateOrchestration) (plan : CandidateCheckpoint stage)
    (here : records.orchestration = some current) (starts : current.phase = stage.before)
    (absent : records.checkpoint stage = none) (bound : plan.orchestration = current)
    (isPlan : plan.phase = .planned) : RecordStep records (records.withCheckpoint plan)
  | finished {records : CandidateRecords} {stage : PreflightStage}
    (current : CandidateOrchestration) (planned finished : CandidateCheckpoint stage)
    (decision : StageDecision stage) (now : Int) (here : records.orchestration = some current)
    (starts : current.phase = stage.before) (found : records.checkpoint stage = some planned)
    (isPlan : planned.phase = .planned) (finishes : finished.phase = decision.checkpointPhase now) :
    RecordStep records { records.withCheckpoint finished with
      orchestration := some { current with phase := decision.successorPhase, updatedAt := now } }
  | backupPlanned {records : CandidateRecords} (current : CandidateOrchestration)
    (plan : CandidateBackupCheckpoint) (here : records.orchestration = some current)
    (starts : current.phase = .semanticallyValidated) (absent : records.backup = none)
    (isPlan : plan.phase = .planned) : RecordStep records { records with backup := some plan }
  | backupMoved {records : CandidateRecords} (row : CandidateBackupCheckpoint) (phase : BackupPhase)
    (found : records.backup = some row) (going : row.phase.during = .semanticallyValidated)
    (goes : phase.during = .semanticallyValidated) :
    RecordStep records { records with backup := some { row with phase := phase } }
  | backupFinished {records : CandidateRecords} (current : CandidateOrchestration)
    (row : CandidateBackupCheckpoint) (phase : BackupPhase) (now : Int)
    (here : records.orchestration = some current)
    (starts : current.phase = .semanticallyValidated) (found : records.backup = some row)
    (going : row.phase.during = .semanticallyValidated)
    (ends : phase.during = .completed ∨ phase.during = .blocked) :
    RecordStep records { records with
      orchestration := some { current with phase := phase.during, updatedAt := now }
      backup := some { row with phase := phase } }

/-! ## Calls that leave the records -/

/-- The tables of candidates are left alone. -/
structure LeavesRecords (store changed : Store) : Prop where
  orchestrations : changed.orchestrations = store.orchestrations
  checkpoints : changed.checkpoints = store.checkpoints
  backupCheckpoints : changed.backupCheckpoints = store.backupCheckpoints

section Leaves

variable {store changed : Store}

theorem LeavesRecords.refl (store : Store) : LeavesRecords store store := ⟨rfl, rfl, rfl⟩

theorem LeavesRecords.records (leaves : LeavesRecords store changed) (candidateSha : ShortDigest) :
    changed.records candidateSha = store.records candidateSha := by
  unfold Store.records Store.orchestration Store.checkpoint Store.backupCheckpoint
  rw [leaves.orchestrations, leaves.checkpoints, leaves.backupCheckpoints]

theorem LeavesRecords.of_onlyWork {α : Type} {change : Store → Except Failure (α × Store)}
    (only : OnlyWork change) (store : Store) : LeavesRecords store (committed change store) := by
  refine committed_eq (.refl store) fun a changed done => ?_
  obtain ⟨work, rfl⟩ := only store a changed done
  exact ⟨rfl, rfl, rfl⟩

theorem claimCandidateWork_onlyWork (action : CandidateAction) (now : Int) :
    OnlyWork (claimCandidateWork action now) := by
  intro store a changed claimed
  unfold claimCandidateWork at claimed
  split at claimed
  · cases claimed
    exact ⟨store.work, rfl⟩
  · split at claimed
    · cases claimed
    next updated =>
      cases claimed
      exact Store.updateWork_onlyWork updated

theorem recoverAndClaim_onlyWork (action : CandidateAction) (now : Int) :
    OnlyWork fun store => claimCandidateWork action now (recoverCandidateWork action now store) := by
  intro store a changed claimed
  obtain ⟨work, rfl⟩ := claimCandidateWork_onlyWork action now _ a changed claimed
  exact ⟨work, rfl⟩

theorem claimDuePendingCandidate_onlyWork (target : PyStr) (repositoryId now : Int) :
    OnlyWork (claimDuePendingCandidate target repositoryId now) := by
  intro store a changed claimed
  unfold claimDuePendingCandidate at claimed
  split at claimed
  · cases claimed
    exact ⟨store.work, rfl⟩
  · split at claimed
    · cases claimed
    next updated =>
      cases claimed
      exact Store.updateWork_onlyWork updated

theorem enqueueWork_onlyWork (workKind : WorkKind) (workKey : PyStr) (now : Int) :
    OnlyWork (enqueueWork workKind workKey now) := by
  intro store a changed enqueued
  unfold enqueueWork at enqueued
  split at enqueued
  · cases enqueued
    exact ⟨store.work, rfl⟩
  · cases enqueued
    exact ⟨_, rfl⟩

theorem scheduleRoutineWork_onlyWork (workKind : WorkKind) (workKey : PyStr) (now : Int) :
    OnlyWork (scheduleRoutineWork workKind workKey now) := by
  intro store a changed scheduled
  unfold scheduleRoutineWork at scheduled
  split at scheduled
  · cases scheduled
    exact ⟨_, rfl⟩
  · split at scheduled
    · split at scheduled
      · cases scheduled
      next updated =>
        cases scheduled
        exact Store.updateWork_onlyWork updated
    all_goals
      cases scheduled
      exact ⟨_, rfl⟩

theorem scheduleAt_onlyWork (proved : Bool) (item : WorkItem) (deadline now : Int) :
    OnlyWork (scheduleAt proved item deadline now) := by
  intro store a changed scheduled
  unfold scheduleAt at scheduled
  dsimp only at scheduled
  split at scheduled
  · cases scheduled
  · refine OnlyStatus.onlyWork (settleWork_onlyStatus ?_) store a changed scheduled
    exact fun _ kind key => ⟨kind, key⟩

theorem retryBlockedWork_onlyWork (workKind : WorkKind) (workKey : PyStr) (now : Int) :
    OnlyWork (retryBlockedWork workKind workKey now) := by
  intro store a changed retried
  unfold retryBlockedWork at retried
  split at retried
  · cases retried
  · split at retried
    · cases retried
    · dsimp only at retried
      split at retried
      · cases retried
      next updated =>
        cases retried
        exact Store.updateWork_onlyWork updated

/-- What a claim changes. -/
def claimChange (item : WorkItem) (now : Int) (store : Store) : Except Failure (WorkItem × Store) :=
  match store.updateWork item fun _ => item.claimedAt now with
  | none => .error (stateFailure "Work claim changed unexpectedly")
  | some changed => .ok (item.claimedAt now, changed)

theorem onlyWork_claimChange (item : WorkItem) (now : Int) : OnlyWork (claimChange item now) := by
  intro store a changed ran
  unfold claimChange at ran
  split at ran
  · cases ran
  next updated =>
    cases ran
    exact Store.updateWork_onlyWork updated

theorem LeavesRecords.claim (selected : Option WorkItem) (now : Int) (store : Store) :
    LeavesRecords store (WorkCall.claim selected now store).2 := by
  unfold WorkCall.claim
  split
  · exact .refl store
  · split
    · exact .refl store
    next item _ =>
      have back : (WorkCall.readBack store (claimChange item now store)).2 =
          committed (claimChange item now) store := committed_readBack store
      exact back ▸ LeavesRecords.of_onlyWork (onlyWork_claimChange item now) store

theorem LeavesRecords.workCall (call : WorkCall) (store : Store) :
    LeavesRecords store (call.perform store).2 := by
  have settled {change : Store → Except Failure (WorkItem × Store)} (only : OnlyWork change) :
      LeavesRecords store (WorkCall.readBack store (change store)).2 := by
    rw [committed_readBack]
    exact .of_onlyWork only store
  have returned {change : Store → Except Failure (WorkItem × Store)} (only : OnlyWork change) :
      LeavesRecords store (WorkCall.returned store (change store)).2 := by
    have same : (WorkCall.returned store (change store)).2 = committed change store := by
      unfold committed
      cases change store with
      | error failure => rfl
      | ok result => rfl
    exact same ▸ .of_onlyWork only store
  have identified {workKind : WorkKind} {workKey : PyStr} {failure : Failure → Failure}
      {calls : Store → WorkCall.Outcome} (leaves : LeavesRecords store (calls store).2) :
      LeavesRecords store (WorkCall.identified workKind workKey failure calls store).2 := by
    unfold WorkCall.identified
    split
    · exact .refl store
    · exact leaves
  cases call with
  | enqueueWork => exact identified (settled (enqueueWork_onlyWork _ _ _))
  | claimWork => exact .claim _ _ _
  | claimWorkKind workKind now =>
    unfold WorkCall.perform
    dsimp only
    split
    · exact .refl store
    · exact .claim _ _ _
  | failWork => exact settled (failWork_onlyWork _ _ _)
  | deferWork => exact settled (deferWork_onlyStatus _ _).onlyWork
  | completeWork => exact settled (completeWork_onlyWork _ _)
  | scheduleAt => exact settled (scheduleAt_onlyWork _ _ _ _)
  | recoverInterruptedWork => exact ⟨rfl, rfl, rfl⟩
  | scheduleRoutineWork => exact identified (returned (scheduleRoutineWork_onlyWork _ _ _))
  | retryBlockedWork => exact identified (returned (retryBlockedWork_onlyWork _ _ _))

theorem LeavesRecords.retry (request : AdministrativeRetryRequest) (now : Int) (store : Store) :
    LeavesRecords store (committed (applyAdministrativeRetryRequest request now) store) := by
  refine committed_eq (.refl store) fun a changed applied => ?_
  unfold applyAdministrativeRetryRequest at applied
  split at applied
  · cases applied
  split at applied
  · split at applied
    · cases applied
    · cases applied
      exact .refl store
  · obtain ⟨⟨retried, between⟩, first, applied⟩ := bind_eq_ok.mp applied
    cases applied
    unfold retryIfBlocked at first
    split at first
    · cases first
      exact ⟨rfl, rfl, rfl⟩
    split at first
    · cases first
      exact ⟨rfl, rfl, rfl⟩
    split at first
    · cases first
    next updated =>
      cases first
      obtain ⟨work, rfl⟩ := Store.updateWork_onlyWork updated
      exact ⟨rfl, rfl, rfl⟩

end Leaves

/-! ## Rows that are added and replaced -/

section Rows

variable {store : Store} {stage : PreflightStage} {candidateSha : ShortDigest}

/-- The tables after a stage has other rows, by the row of the candidate among them. -/
theorem records_withCheckpoints {rows : List (CandidateCheckpoint stage)}
    {row : CandidateCheckpoint stage}
    (here : rows.find? (·.candidateSha = candidateSha) = some row) :
    (store.withCheckpoints stage rows).records candidateSha =
      (store.records candidateSha).withCheckpoint row := by
  refine CandidateRecords.ext rfl (funext fun other => ?_) rfl
  show ((store.withCheckpoints stage rows).checkpoints other).find? _ = _
  by_cases same : stage = other
  · subst same
    rw [Store.withCheckpoints_here, CandidateRecords.withCheckpoint_here]
    exact here
  · rw [Store.withCheckpoints_apart _ _ same, CandidateRecords.withCheckpoint_apart _ _ same]
    rfl

/-- Rows of other candidates. -/
theorem records_withCheckpoints_apart {rows : List (CandidateCheckpoint stage)}
    (same : rows.find? (·.candidateSha = candidateSha) = store.checkpoint stage candidateSha) :
    (store.withCheckpoints stage rows).records candidateSha = store.records candidateSha := by
  refine CandidateRecords.ext rfl (funext fun other => ?_) rfl
  show ((store.withCheckpoints stage rows).checkpoints other).find? _ = _
  by_cases here : stage = other
  · subst here
    rw [Store.withCheckpoints_here]
    exact same
  · rw [Store.withCheckpoints_apart _ _ here]
    rfl

/-- A candidate that is moved on. -/
theorem orchestration_moved {current : CandidateOrchestration}
    (found : store.orchestration current.candidateSha = some current) (phase : OrchestrationPhase)
    (now : Int) (candidateSha : ShortDigest) :
    (store.orchestrations.map fun row =>
        if row = current then { current with phase := phase, updatedAt := now } else row).find?
        (·.candidateSha = candidateSha) =
      if candidateSha = current.candidateSha then
        some { current with phase := phase, updatedAt := now }
      else store.orchestration candidateSha := by
  have same : ({ current with phase := phase, updatedAt := now } :
      CandidateOrchestration).candidateSha = current.candidateSha := rfl
  split
  next here =>
    subst here
    exact Rows.find_replaced same found
  next apart => exact Rows.find_replace_apart same apart

/-- A backup that is moved on. -/
theorem backupCheckpoint_moved {row : CandidateBackupCheckpoint}
    (found : store.backupCheckpoint row.candidateSha = some row) (phase : BackupPhase)
    (candidateSha : ShortDigest) :
    (store.backupCheckpoints.map fun other =>
        if other = row then { row with phase := phase } else other).find?
        (·.candidateSha = candidateSha) =
      if candidateSha = row.candidateSha then some { row with phase := phase }
      else store.backupCheckpoint candidateSha := by
  have same : ({ row with phase := phase } : CandidateBackupCheckpoint).candidateSha =
    row.candidateSha := rfl
  split
  next here =>
    subst here
    exact Rows.find_replaced same found
  next apart => exact Rows.find_replace_apart same apart

end Rows

/-! ## The writing calls -/

section Steps

variable {rules : PreflightRules} {naming : DeploymentNaming} {stage : PreflightStage}
  {store : Store} {current : CandidateOrchestration} {now : Int} (candidateSha : ShortDigest)

/-- Nothing that concerns the candidate. -/
theorem RecordStep.of_eq {before after : CandidateRecords} (same : after = before) :
    RecordStep before after := same ▸ .kept before

theorem step_register (claimed : WorkItem) (target : PyStr) (repositoryId now : Int) :
    RecordStep (store.records candidateSha)
      ((committed (registerClaimedCandidate claimed target repositoryId now) store).records
        candidateSha) := by
  refine committed_eq (P := fun changed => RecordStep _ (changed.records candidateSha)) (.kept _)
    fun a changed registered => ?_
  unfold registerClaimedCandidate at registered
  split at registered
  · cases registered
  next named _ =>
    split at registered
    · cases registered
    split at registered
    · split at registered
      · cases registered
      · cases registered
        exact .kept _
    next absent =>
      cases registered
      by_cases here : candidateSha = named
      · subst here
        let record := createOrchestration candidateSha target repositoryId now
        have added : ({ store with orchestrations := store.orchestrations ++ [record] } :
            Store).records candidateSha =
              { store.records candidateSha with orchestration := some record } :=
          CandidateRecords.ext (Rows.find_added absent rfl) rfl rfl
        rw [added]
        exact .registered record absent rfl
      · exact .of_eq (CandidateRecords.ext
          (Rows.find_added_apart fun same => here same.symm) rfl rfl)

/-- A plan that is recorded is the only one of its stage. -/
theorem recordStagePlan_ok {plan : CandidateCheckpoint stage} {changed : Store}
    (recorded : recordStagePlan current plan store = .ok ((), changed)) :
    store.orchestration current.candidateSha = some current ∧
      store.checkpoint stage plan.candidateSha = none ∧
      changed = store.withCheckpoints stage (store.checkpoints stage ++ [plan]) := by
  obtain ⟨loaded, first, recorded⟩ := bind_eq_ok.mp recorded
  split at recorded
  · cases recorded
  next able =>
    rw [not_or, not_not, Option.isSome_iff_ne_none, not_not] at able
    obtain ⟨rfl, absent⟩ := able
    cases recorded
    exact ⟨(loadCandidateOrchestration_some (mapError_eq_ok.mp first)).1, absent, rfl⟩

theorem step_plan (inputs : StageInputs stage) :
    RecordStep (store.records candidateSha)
      ((committed (PreflightCall.planStage rules current inputs now) store).records
        candidateSha) := by
  refine committed_eq (P := fun changed => RecordStep _ (changed.records candidateSha)) (.kept _)
    fun a changed done => ?_
  unfold PreflightCall.planStage at done
  split at done
  · cases done
  next starts =>
    obtain ⟨plan, planned, recorded⟩ := bind_eq_ok.mp done
    obtain ⟨bound, named, -, -, isPlan⟩ := planCheckpoint_candidate planned
    obtain ⟨here, absent, rfl⟩ := recordStagePlan_ok recorded
    by_cases same : candidateSha = plan.candidateSha
    · subst same
      rw [records_withCheckpoints (Rows.find_added absent rfl)]
      exact .planned current plan (named ▸ here) (not_not.mp starts) absent bound isPlan
    · refine .of_eq (records_withCheckpoints_apart ?_)
      exact Rows.find_added_apart fun here => same here.symm

/-- What finishing a row makes of it. -/
theorem CandidateCheckpoint.finish_ok {planned finished : CandidateCheckpoint stage}
    {decision : StageDecision stage} (finishes : planned.finish rules decision now = .ok finished) :
    planned.phase = .planned ∧ finished.phase = decision.checkpointPhase now ∧
      finished.candidateSha = planned.candidateSha ∧ finished.target = planned.target ∧
      finished.repositoryId = planned.repositoryId := by
  unfold CandidateCheckpoint.finish at finishes
  dsimp only at finishes
  split at finishes
  · cases finishes
  next able =>
    rw [not_or, not_not] at able
    cases finishes
    exact ⟨able.1, rfl, rfl, rfl, rfl⟩

/-- A stage moves on a candidate that is where it starts. -/
theorem successor_ok {phase : OrchestrationPhase} {advanced : CandidateOrchestration}
    (advances : stage.successor current phase now = .ok advanced) :
    current.phase = stage.before ∧ advanced = { current with phase := phase, updatedAt := now } := by
  unfold PreflightStage.successor at advances
  split at advances
  · cases advances
  next able =>
    rw [not_or, not_not] at able
    cases advances
    exact ⟨able.1, rfl⟩

/-- The transaction of a stage replaces the row that was planned and moves the candidate on. -/
theorem completeStage_ok {planned finished : CandidateCheckpoint stage}
    {advanced : CandidateOrchestration} {finishedAt : Int} {changed : Store}
    (completes : completeStage rules planned finished current advanced finishedAt store =
      .ok ((), changed)) :
    store.checkpoint stage planned.candidateSha = some planned ∧
      store.orchestration current.candidateSha = some current ∧
      ∃ work, changed = { store.withCheckpoints stage ((store.checkpoints stage).map fun row =>
            if row = planned then finished else row) with
          orchestrations := store.orchestrations.map fun row =>
            if row = current then advanced else row
          work := work } := by
  unfold completeStage at completes
  obtain ⟨row, first, loaded⟩ := bind_eq_ok.mp (mapError_eq_ok.mp completes)
  obtain ⟨orchestration, _, checked⟩ := bind_eq_ok.mp loaded
  split at checked
  · cases checked
  next able =>
    rw [not_or, not_not] at able
    rw [able.1] at first
    dsimp only at checked
    obtain ⟨moved, replaced, settles⟩ := bind_eq_ok.mp checked
    obtain ⟨here, rfl⟩ := replaceOrchestration_ok replaced
    refine ⟨(loadCheckpoint_some first).1, here, ?_⟩
    split at settles
    · obtain ⟨settled, third, last⟩ := bind_eq_ok.mp settles
      cases last
      obtain ⟨work, rfl⟩ := settleCandidateWork_onlyWork third
      exact ⟨work, rfl⟩
    · cases settles
      exact ⟨_, rfl⟩

theorem step_finish (planned : CandidateCheckpoint stage) (decision : StageDecision stage) :
    RecordStep (store.records candidateSha)
      ((committed (PreflightCall.finishStage rules planned decision current now) store).records
        candidateSha) := by
  refine committed_eq (P := fun changed => RecordStep _ (changed.records candidateSha)) (.kept _)
    fun a changed done => ?_
  unfold PreflightCall.finishStage at done
  split at done
  · cases done
  next named =>
    have named : planned.candidateSha = current.candidateSha := not_not.mp named
    obtain ⟨finished, finishes, done⟩ := bind_eq_ok.mp done
    obtain ⟨advanced, advances, completes⟩ := bind_eq_ok.mp done
    obtain ⟨isPlan, phase, kept, -, -⟩ := CandidateCheckpoint.finish_ok finishes
    have advances := mapError_eq_ok.mp advances
    rw [StageDecision.successor_eq] at advances
    obtain ⟨starts, rfl⟩ := successor_ok advances
    obtain ⟨found, here, work, rfl⟩ := completeStage_ok completes
    have orchestration := orchestration_moved here decision.successorPhase now candidateSha
    by_cases same : candidateSha = current.candidateSha
    · subst same
      have row : (store.withCheckpoints stage ((store.checkpoints stage).map fun row =>
          if row = planned then finished else row)).records current.candidateSha =
          (store.records current.candidateSha).withCheckpoint finished :=
        records_withCheckpoints (named ▸ Rows.find_replaced kept found)
      rw [if_pos rfl] at orchestration
      have step : RecordStep (store.records current.candidateSha) _ :=
        .finished current planned finished decision now here starts (named ▸ found) isPlan phase
      refine Eq.subst (motive := RecordStep _) ?_ step
      symm
      apply CandidateRecords.ext
      · exact orchestration
      · exact (congrArg CandidateRecords.checkpoint row :)
      · rfl
    · have row : (store.withCheckpoints stage ((store.checkpoints stage).map fun row =>
          if row = planned then finished else row)).records candidateSha =
          store.records candidateSha :=
        records_withCheckpoints_apart (Rows.find_replace_apart kept fun here => same (here.trans named))
      rw [if_neg same] at orchestration
      apply RecordStep.of_eq
      apply CandidateRecords.ext
      · exact orchestration
      · exact (congrArg CandidateRecords.checkpoint row :)
      · rfl

/-! The backup. -/

variable {row : CandidateBackupCheckpoint}

theorem step_planBackup (authority : CandidateBackupAuthority) :
    RecordStep (store.records candidateSha)
      ((committed (PreflightCall.planOfBackup naming current authority now) store).records
        candidateSha) := by
  refine committed_eq (P := fun changed => RecordStep _ (changed.records candidateSha)) (.kept _)
    fun a changed done => ?_
  unfold PreflightCall.planOfBackup at done
  split at done
  · cases done
  next starts =>
    obtain ⟨plan, planned, recorded⟩ := bind_eq_ok.mp done
    obtain ⟨named, -, -, -, isPlan, -⟩ := planBackup_candidate planned
    obtain ⟨loaded, first, _⟩ := bind_eq_ok.mp recorded
    have here : store.orchestration current.candidateSha = some current := by
      unfold recordPlan at recorded
      rw [first] at recorded
      replace recorded : (if loaded ≠ some current ∨ _ then _ else _) = _ := recorded
      split at recorded
      · cases recorded
      next able =>
        obtain rfl := not_not.mp (not_or.mp able).1
        exact (loadCandidateOrchestration_some first).1
    obtain ⟨absent, rfl⟩ := recordPlan_ok recorded
    by_cases same : candidateSha = plan.candidateSha
    · subst same
      have added : ({ store with backupCheckpoints := store.backupCheckpoints ++ [plan] } :
          Store).records plan.candidateSha =
            { store.records plan.candidateSha with backup := some plan } :=
        CandidateRecords.ext rfl rfl (Rows.find_added absent rfl)
      rw [added]
      exact .backupPlanned current plan (named ▸ here) (not_not.mp starts) absent isPlan
    · apply RecordStep.of_eq
      exact CandidateRecords.ext rfl rfl (Rows.find_added_apart fun here => same here.symm)

/-- A backup that goes on without ending. -/
theorem step_moveBackup {replacement : Except Failure CandidateBackupCheckpoint}
    (moves : ∀ moved, replacement = .ok moved → row.phase.during = .semanticallyValidated ∧
      ∃ phase : BackupPhase, phase.during = .semanticallyValidated ∧
        moved = { row with phase := phase }) :
    RecordStep (store.records candidateSha)
      ((committed (PreflightCall.moveBackup row replacement) store).records candidateSha) := by
  refine committed_eq (P := fun changed => RecordStep _ (changed.records candidateSha)) (.kept _)
    fun a changed done => ?_
  obtain ⟨moved, replaces, done⟩ := bind_eq_ok.mp done
  obtain ⟨going, phase, goes, rfl⟩ := moves moved replaces
  obtain ⟨replaced, stored, done⟩ := bind_eq_ok.mp done
  cases done
  obtain ⟨found, rfl⟩ := replaceCheckpoint_ok stored
  have backup := backupCheckpoint_moved found phase candidateSha
  by_cases same : candidateSha = row.candidateSha
  · subst same
    rw [if_pos rfl] at backup
    have step : RecordStep (store.records row.candidateSha) _ :=
      .backupMoved row phase found going goes
    refine Eq.subst (motive := RecordStep _) ?_ step
    exact CandidateRecords.ext rfl rfl backup.symm
  · rw [if_neg same] at backup
    exact .of_eq (CandidateRecords.ext rfl rfl backup)

theorem step_startBackup :
    RecordStep (store.records candidateSha)
      ((committed (PreflightCall.moveBackup row (row.start now)) store).records candidateSha) := by
  refine step_moveBackup candidateSha fun moved starts => ?_
  unfold CandidateBackupCheckpoint.start at starts
  split at starts
  · cases starts
  next able =>
    cases starts
    have planned : row.phase = .planned := not_not.mp (not_or.mp able).1
    exact ⟨congrArg BackupPhase.during planned, _, rfl, rfl⟩

theorem step_doubtBackup :
    RecordStep (store.records candidateSha)
      ((committed (PreflightCall.moveBackup row row.markUncertain) store).records candidateSha) := by
  refine step_moveBackup candidateSha fun moved doubts => ?_
  unfold CandidateBackupCheckpoint.markUncertain at doubts
  split at doubts
  next started =>
    cases doubts
    exact ⟨congrArg BackupPhase.during started, _, rfl, rfl⟩
  · cases doubts

/-- What a prepared deployment adds is not about the candidate. -/
theorem LeavesRecords.insertPreparation {deploymentId : PyStr} {prepared : Option PreparedDeployment}
    {changed : Store} (inserted : insertPreparation deploymentId prepared store = .ok changed) :
    LeavesRecords store changed := by
  cases prepared with
  | none =>
    cases inserted
    exact .refl store
  | some prepared =>
    obtain ⟨middle, first, second⟩ := bind_eq_ok.mp inserted
    unfold Store.insertPrepared at first
    split at first
    · cases first
    · cases first
      unfold Store.insertWork at second
      split at second
      · cases second
      · cases second
        exact ⟨rfl, rfl, rfl⟩

/-- The transaction that ends a backup replaces its row and moves the candidate on. -/
theorem step_finishAtomically (phase : BackupPhase) {advanced : CandidateOrchestration}
    {status : WorkStatus} {finishedAt : Int} {prepared : Option PreparedDeployment} {changed : Store}
    (named : row.candidateSha = current.candidateSha) (going : row.phase.during = .semanticallyValidated)
    (ends : phase.during = .completed ∨ phase.during = .blocked)
    (advances : backupSuccessor current phase.during now = .ok advanced)
    (finishes : finishAtomically row { row with phase := phase } current advanced status finishedAt
      prepared store = .ok ((), changed)) :
    RecordStep (store.records candidateSha) (changed.records candidateSha) := by
  unfold backupSuccessor at advances
  split at advances
  · cases advances
  next able =>
    obtain starts := not_not.mp (not_or.mp able).1
    cases advances
    obtain ⟨replaced, first, second⟩ := bind_eq_ok.mp finishes
    obtain ⟨found, rfl⟩ := replaceCheckpoint_ok first
    obtain ⟨added, inserted, third⟩ := bind_eq_ok.mp second
    obtain ⟨moved, advances, fourth⟩ := bind_eq_ok.mp third
    obtain ⟨settled, settles, last⟩ := bind_eq_ok.mp fourth
    cases last
    obtain ⟨work, rfl⟩ := settleCandidateWork_onlyWork settles
    obtain ⟨here, rfl⟩ := replaceOrchestration_ok advances
    have leaves := LeavesRecords.insertPreparation inserted
    have orchestration := orchestration_moved here phase.during now candidateSha
    have backup := backupCheckpoint_moved found phase candidateSha
    have kept := leaves.records candidateSha
    have checkpoints := congrArg CandidateRecords.checkpoint kept
    have backups := (congrArg CandidateRecords.backup kept).trans backup
    by_cases same : candidateSha = current.candidateSha
    · have before : store.orchestration current.candidateSha = some current :=
        (congrArg CandidateRecords.orchestration
          (leaves.records current.candidateSha)).symm.trans here
      rw [if_pos (same.trans named.symm)] at backups
      rw [if_pos same] at orchestration
      have step : RecordStep (store.records candidateSha) _ := .backupFinished current row phase now
        (same ▸ before) starts (same.trans named.symm ▸ found) going ends
      refine Eq.subst (motive := RecordStep _) ?_ step
      exact CandidateRecords.ext orchestration.symm checkpoints.symm backups.symm
    · rw [if_neg (named ▸ same)] at backups
      rw [if_neg same] at orchestration
      exact .of_eq (CandidateRecords.ext
        (orchestration.trans (congrArg CandidateRecords.orchestration kept)) checkpoints backups)

theorem step_completeBackup (evidence : CandidateBackupEvidence) :
    RecordStep (store.records candidateSha)
      ((committed (PreflightCall.finishBackup row current evidence now) store).records
        candidateSha) := by
  refine committed_eq (P := fun changed => RecordStep _ (changed.records candidateSha)) (.kept _)
    fun a changed done => ?_
  unfold PreflightCall.finishBackup at done
  split at done
  · cases done
  next named =>
    obtain ⟨completed, completes, done⟩ := bind_eq_ok.mp done
    obtain ⟨advanced, advances, finishes⟩ := bind_eq_ok.mp done
    cases asked : row.requestedAt with
    | none =>
      unfold CandidateBackupCheckpoint.complete at completes
      rw [asked] at completes
      cases completes
    | some startedAt =>
      obtain ⟨_, rfl⟩ := complete_ok asked completes
      refine step_finishAtomically candidateSha (.completed startedAt evidence.backupSlug now)
        (not_not.mp named) ?_ (.inl rfl) advances finishes
      unfold CandidateBackupCheckpoint.requestedAt at asked
      split at asked
      next phase => exact congrArg BackupPhase.during phase
      next phase => exact congrArg BackupPhase.during phase
      next => cases asked

theorem step_blockBackup :
    RecordStep (store.records candidateSha)
      ((committed (PreflightCall.giveUpBackup row current now) store).records candidateSha) := by
  refine committed_eq (P := fun changed => RecordStep _ (changed.records candidateSha)) (.kept _)
    fun a changed done => ?_
  unfold PreflightCall.giveUpBackup at done
  split at done
  · cases done
  next named =>
    obtain ⟨blocked, blocks, done⟩ := bind_eq_ok.mp done
    obtain ⟨advanced, advances, finishes⟩ := bind_eq_ok.mp done
    unfold CandidateBackupCheckpoint.block at blocks
    split at blocks
    next planned =>
      split at blocks
      · cases blocks
      · cases blocks
        exact step_finishAtomically candidateSha (.blocked none now) (not_not.mp named)
          (congrArg BackupPhase.during planned) (.inr rfl) advances finishes
    next startedAt uncertain =>
      split at blocks
      · cases blocks
      · cases blocks
        exact step_finishAtomically candidateSha (.blocked (some startedAt) now) (not_not.mp named)
          (congrArg BackupPhase.during uncertain) (.inr rfl) advances finishes
    next => cases blocks

/-- **What a transaction does to the records of a candidate.** -/
theorem records_step (call : PreflightCall) (store : Store) :
    RecordStep (store.records candidateSha)
      ((call.store rules naming store).records candidateSha) := by
  have left {changed : Store} (leaves : LeavesRecords store changed) :
      RecordStep (store.records candidateSha) (changed.records candidateSha) :=
    .of_eq (leaves.records candidateSha)
  cases call with
  | work call => exact left (.workCall call store)
  | recover action now => exact left ⟨rfl, rfl, rfl⟩
  | claim action now => exact left (.of_onlyWork (claimCandidateWork_onlyWork action now) store)
  | recoverAndClaim action now =>
    exact left (.of_onlyWork (recoverAndClaim_onlyWork action now) store)
  | claimPending target repositoryId now =>
    exact left (.of_onlyWork (claimDuePendingCandidate_onlyWork target repositoryId now) store)
  | register claimed target repositoryId now =>
    exact step_register candidateSha claimed target repositoryId now
  | plan stage current inputs now => exact step_plan candidateSha inputs
  | finish stage planned decision current now => exact step_finish candidateSha planned decision
  | planBackup current authority now => exact step_planBackup candidateSha authority
  | startBackup row now => exact step_startBackup candidateSha
  | doubtBackup row => exact step_doubtBackup candidateSha
  | completeBackup row current evidence now => exact step_completeBackup candidateSha evidence
  | blockBackup row current now => exact step_blockBackup candidateSha
  | retry request now => exact left (.retry request now store)

end Steps

/-! ## Runs -/

section Runs

variable {rules : PreflightRules} {naming : DeploymentNaming}

/-- Others: processes that leave the tables of candidates alone, and passes that go on at the same
time. -/
def PreflightOthers (rules : PreflightRules) (naming : DeploymentNaming) : System → System → Prop :=
  Relation.ReflTransGen fun s t => LeavesRecords s.store t.store ∨ PreflightMoves rules naming s t

/-- What transactions do to the records of a candidate one after the other. -/
abbrev RecordSteps : CandidateRecords → CandidateRecords → Prop := Relation.ReflTransGen RecordStep

theorem PreflightMoves.records {s t : System} (moves : PreflightMoves rules naming s t) (candidateSha : ShortDigest) :
    RecordStep (s.store.records candidateSha) (t.store.records candidateSha) := by
  obtain same | ⟨call, performed⟩ := moves
  · exact .of_eq (congrArg (Store.records · candidateSha) same)
  · rw [performed]
    exact records_step candidateSha call s.store

theorem PreflightOthers.records {s t : System} (moved : PreflightOthers rules naming s t)
    (candidateSha : ShortDigest) :
    RecordSteps (s.store.records candidateSha) (t.store.records candidateSha) := by
  induction moved with
  | refl => exact .refl
  | tail _ move ih =>
    refine ih.tail ?_
    rcases move with leaves | moves
    · exact .of_eq (leaves.records candidateSha)
    · exact moves.records candidateSha

theorem preflight_keeps : Prog.Keeps (PreflightOthers rules naming) (PreflightMoves rules naming)
    (fun _ => True) (PreflightPass rules naming) where
  refl := fun _ => .refl
  trans := fun _ _ _ => .trans
  others := fun _ _ _ _ => trivial
  actions := fun _ _ _ _ => trivial
  safe := fun _ known s _ => (every_pass known).safe s

/-- **What runs of the passes do to the records of a candidate**, broken off, taken up again and
with others between any two actions. -/
theorem reach_records {start : System} {here there : Prog.Point System Unit}
    (first : Prog.Reach (PreflightOthers rules naming) (PreflightPass rules naming) (.rest start) here)
    (later : Prog.Reach (PreflightOthers rules naming) (PreflightPass rules naming) here there)
    (candidateSha : ShortDigest) :
    RecordSteps (here.state.store.records candidateSha) (there.state.store.records candidateSha) := by
  have kept := preflight_keeps.reach (.rest trivial) first
  exact preflight_keeps.along
    (fun t => RecordSteps (here.state.store.records candidateSha) (t.store.records candidateSha))
    (fun _ _ steps moved => steps.trans (moved.records candidateSha))
    (fun _ _ steps moves => steps.tail (moves.records candidateSha)) kept later .refl

end Runs

end SyncApp
