import SyncApp.Pipeline.Preflight
import SyncApp.Pipeline.Rules

/-!
# The transactions of a candidate's preflight

Every transaction that a pass over candidates makes, with what its pass has made sure of before. A
pass that is broken off has made some of them, and passes that overlap make theirs in turn, so a run
is a list of these calls. `every_pass` says that the passes make no others.
-/

set_option autoImplicit false

namespace SyncApp

open Lib Raising Lane

/-- The UUID that a name gives, which is a work key. -/
structure DeploymentNaming where
  uuid5 : PyStr → String
  isKey : ∀ name, isWorkKey (text (uuid5 name)) = true

inductive PreflightCall where
  /-- Another call on the work table. -/
  | work (call : WorkCall)
  | recover (action : CandidateAction) (now : Int)
  | claim (action : CandidateAction) (now : Int)
  | recoverAndClaim (action : CandidateAction) (now : Int)
  | claimPending (target : PyStr) (repositoryId now : Int)
  | register (claimed : WorkItem) (target : PyStr) (repositoryId now : Int)
  | plan (stage : PreflightStage) (current : CandidateOrchestration) (inputs : StageInputs stage)
    (now : Int)
  | finish (stage : PreflightStage) (planned : CandidateCheckpoint stage)
    (decision : StageDecision stage) (current : CandidateOrchestration) (now : Int)
  | planBackup (current : CandidateOrchestration) (authority : CandidateBackupAuthority) (now : Int)
  | startBackup (row : CandidateBackupCheckpoint) (now : Int)
  | doubtBackup (row : CandidateBackupCheckpoint)
  | completeBackup (row : CandidateBackupCheckpoint) (current : CandidateOrchestration)
    (evidence : CandidateBackupEvidence) (now : Int)
  | blockBackup (row : CandidateBackupCheckpoint) (current : CandidateOrchestration) (now : Int)
  | retry (request : AdministrativeRetryRequest) (now : Int)

/-- The store after a transaction, which may have been refused. -/
def committed {α : Type} (change : Store → Except Failure (α × Store)) (store : Store) : Store :=
  match change store with
  | .ok (_, changed) => changed
  | .error _ => store

theorem committed_eq {α : Type} {change : Store → Except Failure (α × Store)} {store : Store}
    {P : Store → Prop} (refused : P store) (commits : ∀ a changed, change store = .ok (a, changed) →
      P changed) : P (committed change store) := by
  unfold committed
  split
  next result => exact commits _ _ result
  next => exact refused

namespace PreflightCall

section

variable (rules : PreflightRules) (naming : DeploymentNaming)

/-- A plan of a candidate that is where the stage starts. -/
def planStage {stage : PreflightStage} (current : CandidateOrchestration) (inputs : StageInputs stage)
    (now : Int) (store : Store) : Except Failure (Unit × Store) :=
  if current.phase ≠ stage.before then .error stage.invalid
  else do
    let plan ← planCheckpoint rules current inputs.sources inputs.subject now
    recordStagePlan current plan store

/-- A stage that is finished, of the candidate it was planned for. -/
def finishStage {stage : PreflightStage} (planned : CandidateCheckpoint stage)
    (decision : StageDecision stage) (current : CandidateOrchestration) (now : Int) (store : Store) :
    Except Failure (Unit × Store) :=
  if planned.candidateSha ≠ current.candidateSha then .error stage.invalid
  else do
    let finished ← planned.finish rules decision now
    let advanced ← (decision.successor current now).mapError fun _ => stage.invalid
    completeStage rules planned finished current advanced now store

/-- A plan of a candidate that is at its backup. -/
def planOfBackup (current : CandidateOrchestration) (authority : CandidateBackupAuthority)
    (now : Int) (store : Store) : Except Failure (Unit × Store) :=
  if current.phase ≠ .semanticallyValidated then .error backupInvalid
  else do
    let plan ← SyncApp.planBackup naming.uuid5 current authority now
    recordPlan current plan store

/-- A backup that goes on to another phase. -/
def moveBackup (row : CandidateBackupCheckpoint)
    (replacement : Except Failure CandidateBackupCheckpoint) (store : Store) :
    Except Failure (Unit × Store) := do
  let replacement ← replacement
  return ((), ← replaceCheckpoint row replacement store)

/-- A backup that is completed, of the candidate it was planned for. -/
def finishBackup (row : CandidateBackupCheckpoint) (current : CandidateOrchestration)
    (evidence : CandidateBackupEvidence) (now : Int) (store : Store) :
    Except Failure (Unit × Store) :=
  if row.candidateSha ≠ current.candidateSha then .error backupInvalid
  else do
    let completed ← row.complete evidence now
    let advanced ← backupSuccessor current .completed now
    finishAtomically row completed current advanced .succeeded now (some (evidence.prepared now))
      store

/-- A backup that is given up, of the candidate it was planned for. -/
def giveUpBackup (row : CandidateBackupCheckpoint) (current : CandidateOrchestration) (now : Int)
    (store : Store) : Except Failure (Unit × Store) :=
  if row.candidateSha ≠ current.candidateSha then .error backupInvalid
  else do
    let blocked ← row.block now
    let advanced ← backupSuccessor current .blocked now
    finishAtomically row blocked current advanced .blocked now none store

/-- The store after a call. -/
def store (call : PreflightCall) (store : Store) : Store :=
  match call with
  | work call => (call.perform store).2
  | recover action now => recoverCandidateWork action now store
  | claim action now => committed (claimCandidateWork action now) store
  | recoverAndClaim action now =>
    committed (fun store => claimCandidateWork action now (recoverCandidateWork action now store)) store
  | claimPending target repositoryId now =>
    committed (claimDuePendingCandidate target repositoryId now) store
  | register claimed target repositoryId now =>
    committed (registerClaimedCandidate claimed target repositoryId now) store
  | plan _ current inputs now => committed (planStage rules current inputs now) store
  | finish _ planned decision current now =>
    committed (finishStage rules planned decision current now) store
  | planBackup current authority now => committed (planOfBackup naming current authority now) store
  | startBackup row now => committed (moveBackup row (row.start now)) store
  | doubtBackup row => committed (moveBackup row row.markUncertain) store
  | completeBackup row current evidence now =>
    committed (finishBackup row current evidence now) store
  | blockBackup row current now => committed (giveUpBackup row current now) store
  | retry request now => committed (applyAdministrativeRetryRequest request now) store

/-- A call as the machine makes it. -/
def perform (call : PreflightCall) (before : Store) : Unit × Store :=
  ((), call.store rules naming before)

end

end PreflightCall

/-! ## What the passes do -/

section Passes

variable (rules : PreflightRules) (naming : DeploymentNaming)

/-- An action that leaves the database, or makes one of the calls. -/
def PreflightMoves (s t : System) : Prop :=
  t.store = s.store ∨ ∃ call : PreflightCall, t.store = call.store rules naming s.store

variable {rules naming}

theorem PreflightMoves.still (s : System) : PreflightMoves rules naming s s := .inl rfl

/-- A transaction that is one of the calls. -/
theorem every_call {α : Type} {change : Store → Except Failure (α × Store)} (call : PreflightCall)
    (same : ∀ store, committed change store = call.store rules naming store) :
    Every (PreflightMoves rules naming) (transaction change) := by
  refine every_transaction PreflightMoves.still fun s a changed done => .inr ⟨call, ?_⟩
  rw [← same]
  unfold committed
  rw [done]

theorem every_read {α : Type} (read : Store → Except Failure α) :
    Every (PreflightMoves rules naming) (query read) := every_query PreflightMoves.still read

theorem every_moment (referenceTime : Option Int) :
    Every (PreflightMoves rules naming) (moment referenceTime) := by
  cases referenceTime with
  | none => exact every_clock PreflightMoves.still
  | some time => exact .pure time

/-- What follows a value that is there. -/
theorem every_given {α β : Type} {acts : System → System → Prop} {result : Except Failure α}
    {rest : α → Lane β} (continues : ∀ a, result = .ok a → Every acts (rest a)) :
    Every acts (ofResult result >>= rest) := by
  cases result with
  | ok a => exact continues a rfl
  | error failure => exact .throw failure

/-- What follows a condition may use it. -/
theorem every_ensured {α : Type} {acts : System → System → Prop} {condition : Prop}
    [Decidable condition] {failure : Failure} {rest : Unit → Lane α}
    (continues : condition → Every acts (rest ())) :
    Every acts (ensure condition failure >>= rest) := by
  unfold ensure
  split
  next held => exact continues held
  next => exact .throw failure

theorem every_attempt {α : Type} {acts : System → System → Prop} {program : Lane α}
    (every : Every acts program) : Every acts (attempt program) := by
  refine Every.tryCatch (Every.bind every fun a => ?_) fun failure => ?_
  · exact Every.pure (Except.ok a)
  · exact Every.pure (Except.error failure)

theorem committed_readBack {change : Store → Except Failure (WorkItem × Store)} (store : Store) :
    (WorkCall.readBack store (change store)).2 = committed change store := by
  unfold committed
  cases change store with
  | error failure => rfl
  | ok result =>
    unfold WorkCall.readBack
    dsimp only
    split <;> rfl

theorem every_failWork (item : WorkItem) (transient : Bool) (now : Int) :
    Every (PreflightMoves rules naming) (transaction (failWork item transient now)) :=
  every_call (.work (.failWork item transient now)) fun store => (committed_readBack store).symm

theorem every_suppressedFailWork (item : WorkItem) (transient : Bool) (now : Int) :
    Every (PreflightMoves rules naming) (suppressedFailWork item transient now) :=
  ((every_failWork item transient now).bind fun _ => .pure ()).tryCatch fun _ => .pure ()

theorem every_deferClaimed (now : Int) (claimed : WorkItem) :
    Every (PreflightMoves rules naming) (deferClaimed now claimed) := by
  have deferred : Every (PreflightMoves rules naming) (transaction (deferWork claimed now)) :=
    every_call (.work (.deferWork claimed now)) fun store => (committed_readBack store).symm
  exact deferred.bind fun _ => .pure ()

theorem every_register (claimed : WorkItem) (target : PyStr) (repositoryId now : Int) :
    Every (PreflightMoves rules naming)
      (transaction (registerClaimedCandidate claimed target repositoryId now)) :=
  every_call (.register claimed target repositoryId now) fun _ => rfl

/-! ## Stages -/

theorem loadCandidateOrchestration_some {store : Store} {candidateSha : ShortDigest}
    {record : CandidateOrchestration}
    (loaded : loadCandidateOrchestration store candidateSha = .ok (some record)) :
    store.orchestration candidateSha = some record ∧
      store.repositoryId record.target = some record.repositoryId := by
  unfold loadCandidateOrchestration at loaded
  split at loaded
  · cases loaded
  next found =>
    split at loaded
    · cases loaded
    next bound =>
      cases loaded
      exact ⟨found, not_not.mp bound⟩

theorem required_eq {ρ : Type} {stage : PreflightStage} {loaded : Except Failure (Option ρ)} {row : ρ}
    (present : required stage loaded = .ok row) : loaded = .ok (some row) := by
  unfold required at present
  split at present
  · cases present
    rfl
  · cases present

section Stages

variable {stage : PreflightStage} {orchestration : CandidateOrchestration} {now : Int}

theorem loadOwnCheckpoint_some {store : Store} {candidateSha : ShortDigest}
    {row : CandidateCheckpoint stage}
    (loaded : loadOwnCheckpoint stage store candidateSha = .ok (some row)) :
    store.checkpoint stage candidateSha = some row ∧
      ∃ current, store.orchestration candidateSha = some current ∧ row.binds current = true := by
  unfold loadOwnCheckpoint at loaded
  split at loaded
  · cases loaded
  next row found =>
    obtain ⟨current, present, loaded⟩ := bind_eq_ok.mp loaded
    split at loaded
    next here =>
      cases loaded
      exact ⟨found, current, (loadCandidateOrchestration_some (required_eq present)).1, here.2⟩
    next => cases loaded

/-- What a loader gives is the row of the candidate, bound to the candidate as it stands. -/
theorem loadCheckpoint_some {store : Store} {candidateSha : ShortDigest}
    {row : CandidateCheckpoint stage}
    (loaded : loadCheckpoint rules store candidateSha stage = .ok (some row)) :
    store.checkpoint stage candidateSha = some row ∧
      ∃ current, store.orchestration candidateSha = some current ∧ row.binds current = true := by
  apply loadOwnCheckpoint_some
  cases stage with
  | fetchStage | integrity | dependency => exact loaded
  | risk =>
    obtain ⟨own, first, loaded⟩ := bind_eq_ok.mp loaded
    cases own with
    | none => cases loaded
    | some own =>
      obtain ⟨dependency, _, loaded⟩ := bind_eq_ok.mp loaded
      split at loaded
      · cases loaded
        exact first
      · cases loaded
  | static =>
    obtain ⟨own, first, loaded⟩ := bind_eq_ok.mp loaded
    cases own with
    | none => cases loaded
    | some own =>
      obtain ⟨sources, _, loaded⟩ := bind_eq_ok.mp loaded
      split at loaded
      · cases loaded
        exact first
      · cases loaded
  | semantic =>
    obtain ⟨own, first, loaded⟩ := bind_eq_ok.mp loaded
    cases own with
    | none => cases loaded
    | some own =>
      obtain ⟨sources, _, loaded⟩ := bind_eq_ok.mp loaded
      obtain ⟨static, _, loaded⟩ := bind_eq_ok.mp loaded
      split at loaded
      · cases loaded
        exact first
      · cases loaded

theorem Store.checkpoint_candidate {store : Store} {candidateSha : ShortDigest}
    {row : CandidateCheckpoint stage} (found : store.checkpoint stage candidateSha = some row) :
    row.candidateSha = candidateSha := by
  simpa using List.find?_some found

theorem every_ensureOrchestration (stage : PreflightStage) (orchestration : CandidateOrchestration) :
    Every (PreflightMoves rules naming) (ensureOrchestration stage orchestration) :=
  (every_rethrow _ (every_read _)).bind fun _ => every_ensure _ _

theorem every_loadCompletedStage (stage : PreflightStage) (staged : Bool)
    (orchestration : CandidateOrchestration) :
    Every (PreflightMoves rules naming) (loadCompletedCandidateStage stage staged orchestration) :=
  (every_read _).bind fun row => (every_ensure _ _).bind fun _ => .pure row

theorem every_loadEvidence (stage earlier : PreflightStage) (candidateSha : ShortDigest) :
    Every (PreflightMoves rules naming) (loadEvidence rules stage earlier candidateSha) := by
  refine (every_read _).bind fun row => ?_
  cases row.evidence with
  | none => exact .throw _
  | some evidence => exact .pure (row, evidence)

/-- A planned stage is finished for the candidate it was planned for. -/
theorem every_finishPlanned (answers : StageAnswers stage) {planned : CandidateCheckpoint stage}
    (named : planned.candidateSha = orchestration.candidateSha) :
    Every (PreflightMoves rules naming) (finishPlanned rules answers planned orchestration now) := by
  refine every_given fun decision _ => ?_
  refine every_given fun finished finishes => ?_
  refine every_given fun advanced advances => ?_
  refine Every.bind (every_call (.finish stage planned decision orchestration now)
    fun store => ?_) fun _ => .pure _
  show committed _ store = committed (PreflightCall.finishStage rules planned decision orchestration now)
    store
  unfold committed PreflightCall.finishStage
  rw [if_neg (not_not.mpr named), finishes, advances]
  rfl

theorem planCheckpoint_candidate {inputs : StageInputs stage} {plan : CandidateCheckpoint stage}
    (planned : planCheckpoint rules orchestration inputs.sources inputs.subject now = .ok plan) :
    plan.orchestration = orchestration ∧ plan.candidateSha = orchestration.candidateSha ∧
      plan.target = orchestration.target ∧ plan.repositoryId = orchestration.repositoryId ∧
      plan.phase = .planned := by
  unfold planCheckpoint at planned
  dsimp only at planned
  split at planned
  · cases planned
    exact ⟨rfl, rfl, rfl, rfl, rfl⟩
  · cases planned

theorem every_recordPlanned {inputs : StageInputs stage} {plan : CandidateCheckpoint stage}
    (starts : orchestration.phase = stage.before)
    (planned : planCheckpoint rules orchestration inputs.sources inputs.subject now = .ok plan) :
    Every (PreflightMoves rules naming) (recordPlanned rules orchestration plan) := by
  refine Every.bind (every_call (.plan stage orchestration inputs now) fun store => ?_) fun _ =>
    (every_read _).bind fun _ => every_ensure _ _
  show committed _ store = committed (PreflightCall.planStage rules orchestration inputs now) store
  unfold committed PreflightCall.planStage
  rw [if_neg (not_not.mpr starts), planned]
  rfl

theorem every_resumeStage (answers : StageAnswers stage) (inputs : StageInputs stage) :
    Every (PreflightMoves rules naming) (resumeStage rules answers inputs orchestration now) := by
  refine every_query_bind PreflightMoves.still fun store checkpoint loaded => ?_
  cases checkpoint with
  | none =>
    refine every_ensured fun starts => every_given fun plan planned => ?_
    exact (every_recordPlanned starts planned).bind fun _ =>
      every_finishPlanned answers (planCheckpoint_candidate planned).2.1
  | some row =>
    have named : row.candidateSha = orchestration.candidateSha :=
      Store.checkpoint_candidate (loadCheckpoint_some loaded).1
    dsimp only
    split
    · exact (every_ensure _ _).bind fun _ => .pure _
    · exact (every_ensure _ _).bind fun _ => .pure _
    · exact every_ensured fun _ => (every_ensure _ _).bind fun _ =>
        every_finishPlanned answers named

/-! ## Executors -/

variable (orchestration now)

theorem every_fetchStage (workspaceId : String) (answers : StageAnswers .fetchStage) :
    Every (PreflightMoves rules naming)
      (executeCandidateFetchStageOnce rules orchestration now workspaceId answers) :=
  (every_ensureOrchestration _ _).bind fun _ => every_resumeStage _ _

theorem every_integrity (answers : StageAnswers .integrity) :
    Every (PreflightMoves rules naming) (executeCandidateIntegrityOnce rules orchestration now answers) := by
  refine (every_ensureOrchestration _ _).bind fun _ => (every_loadCompletedStage _ _ _).bind fun row => ?_
  split
  · exact every_resumeStage _ _
  · exact .throw _

theorem every_dependency (answers : StageAnswers .dependency) :
    Every (PreflightMoves rules naming) (executeCandidateDependencyOnce rules orchestration now answers) := by
  refine (every_ensureOrchestration _ _).bind fun _ => (every_loadCompletedStage _ _ _).bind fun _ => ?_
  refine (every_loadEvidence _ _ _).bind fun integrity => (every_ensure _ _).bind fun _ => ?_
  split
  exact every_resumeStage _ _

theorem every_risk (answers : StageAnswers .risk) :
    Every (PreflightMoves rules naming) (executeCandidateRiskOnce rules orchestration now answers) := by
  refine (every_ensureOrchestration _ _).bind fun _ => (every_loadEvidence _ _ _).bind fun row => ?_
  split
  exact every_resumeStage _ _

theorem every_static (answers : StageAnswers .static) :
    Every (PreflightMoves rules naming) (executeCandidateStaticOnce rules orchestration now answers) := by
  refine (every_ensureOrchestration _ _).bind fun _ => (every_loadCompletedStage _ _ _).bind fun _ => ?_
  refine (every_loadEvidence _ _ _).bind fun integrity => (every_loadEvidence _ _ _).bind fun _ => ?_
  refine (every_loadEvidence _ _ _).bind fun _ => ?_
  split
  exact every_resumeStage _ _

theorem every_semantic (answers : StageAnswers .semantic) :
    Every (PreflightMoves rules naming) (executeCandidateSemanticOnce rules orchestration now answers) := by
  refine (every_ensureOrchestration _ _).bind fun _ => (every_loadCompletedStage _ _ _).bind fun _ => ?_
  refine (every_loadEvidence _ _ _).bind fun integrity => (every_loadEvidence _ _ _).bind fun _ => ?_
  refine (every_loadEvidence _ _ _).bind fun _ => (every_loadEvidence _ _ _).bind fun _ => ?_
  split
  split
  · exact .throw _
  · exact every_resumeStage _ _

end Stages

/-! ## The lanes -/

section Lanes

variable {action : CandidateAction} {now : Int} {claimed : WorkItem}

theorem every_recoverThenClaim (action : CandidateAction) (now : Int) :
    Every (PreflightMoves rules naming) (recoverThenClaim action now) :=
  (every_call (.recover action now) fun _ => rfl).bind fun _ =>
    every_rethrow _ (every_call (.claim action now) fun _ => rfl)

theorem every_recoverAndClaim (action : CandidateAction) (now : Int) :
    Every (PreflightMoves rules naming) (recoverAndClaim action now) :=
  every_rethrow _ (every_call (.recoverAndClaim action now) fun _ => rfl)

theorem every_getWork (item : WorkItem) (handler : Failure → Failure) :
    Every (PreflightMoves rules naming)
      (rethrow (query (Store.getWork · item.workKind item.workKey)) handler) :=
  every_rethrow _ (every_read _)

theorem every_failingClosed {α : Type} {program : Lane α}
    (every : Every (PreflightMoves rules naming) program) :
    Every (PreflightMoves rules naming) (failingClosed action now claimed program) :=
  every.tryCatch fun _ => (every_suppressedFailWork _ _ _).bind fun _ => .throw _

theorem every_claimedOrchestration (action : CandidateAction) (claimed : WorkItem) :
    Every (PreflightMoves rules naming) (claimedOrchestration action claimed) := by
  refine (every_read _).bind fun loaded => ?_
  cases loaded with
  | none => exact .throw _
  | some orchestration => exact .pure orchestration

theorem every_deferringPass {executor : CandidateOrchestration → Lane Unit}
    (every : ∀ orchestration, Every (PreflightMoves rules naming) (executor orchestration)) :
    Every (PreflightMoves rules naming) (runDeferringPass action now executor) := by
  refine (every_recoverThenClaim action now).bind fun item => ?_
  cases item with
  | none => exact .pure none
  | some item =>
    refine (every_getWork item _).bind fun claimed => ?_
    refine (every_failingClosed ((every_claimedOrchestration _ _).bind every)).bind fun _ => ?_
    exact (every_rethrow _ (every_deferClaimed _ _)).bind fun _ => .pure _

theorem every_blockingPass {executor : CandidateOrchestration → Lane Bool}
    (every : ∀ orchestration, Every (PreflightMoves rules naming) (executor orchestration)) :
    Every (PreflightMoves rules naming) (runBlockingPass action now executor) := by
  refine (every_recoverAndClaim action now).bind fun item => ?_
  cases item with
  | none => exact .pure none
  | some item =>
    refine (every_getWork item _).bind fun claimed => ?_
    refine (every_failingClosed ?_).bind fun _ => .pure _
    refine (every_claimedOrchestration _ _).bind fun orchestration =>
      (every orchestration).bind fun advances => ?_
    cases advances with
    | true => exact every_deferClaimed _ _
    | false => exact .pure ()

variable (referenceTime : Option Int)

theorem every_registeredOrchestration (target : PyStr) (claimed : WorkItem) (now : Int) :
    Every (PreflightMoves rules naming) (registeredOrchestration target claimed now) := by
  refine (every_read _).bind fun loaded => ?_
  cases loaded with
  | some orchestration => exact .pure orchestration
  | none => exact (every_read _).bind fun _ => every_register _ _ _ _

theorem every_fetchStagePass (target : PyStr) (workspaceId : String)
    (answers : StageAnswers .fetchStage) :
    Every (PreflightMoves rules naming)
      (runCandidateFetchStageRetriggerPass rules referenceTime target workspaceId answers) := by
  refine (every_moment referenceTime).bind fun now => (every_recoverThenClaim _ _).bind fun item => ?_
  cases item with
  | none => exact .pure none
  | some item =>
    refine (every_getWork item _).bind fun claimed => ?_
    refine Every.bind (Every.tryCatch ?_ fun _ => (every_suppressedFailWork _ _ _).bind fun _ =>
      .throw _) fun _ => (every_rethrow _ (every_deferClaimed _ _)).bind fun _ => .pure _
    exact (every_registeredOrchestration _ _ _).bind fun _ =>
      (every_fetchStage _ _ _ _).bind fun _ => .pure ()

theorem every_integrityPass (answers : StageAnswers .integrity) :
    Every (PreflightMoves rules naming) (runCandidateIntegrityRetriggerPass rules referenceTime answers) :=
  (every_moment referenceTime).bind fun _ => every_deferringPass fun _ =>
    (every_integrity _ _ _).bind fun _ => .pure ()

theorem every_dependencyPass (answers : StageAnswers .dependency) :
    Every (PreflightMoves rules naming) (runCandidateDependencyRetriggerPass rules referenceTime answers) :=
  (every_moment referenceTime).bind fun _ => every_deferringPass fun _ =>
    (every_dependency _ _ _).bind fun _ => .pure ()

theorem every_riskPass (answers : StageAnswers .risk) :
    Every (PreflightMoves rules naming) (runCandidateRiskRetriggerPass rules referenceTime answers) :=
  (every_moment referenceTime).bind fun _ => every_blockingPass fun _ =>
    (every_risk _ _ _).bind fun _ => .pure true

theorem every_staticPass (answers : StageAnswers .static) :
    Every (PreflightMoves rules naming) (runCandidateStaticRetriggerPass rules referenceTime answers) :=
  (every_moment referenceTime).bind fun _ => every_blockingPass fun _ =>
    (every_static _ _ _).bind fun _ => .pure _

theorem every_semanticPass (answers : StageAnswers .semantic) :
    Every (PreflightMoves rules naming) (runCandidateSemanticRetriggerPass rules referenceTime answers) :=
  (every_moment referenceTime).bind fun _ => every_blockingPass fun _ =>
    (every_semantic _ _ _).bind fun _ => .pure _

/-! ## The routine process -/

theorem every_executeAction (answers : PreflightAnswers) (action : CandidateAction)
    (orchestration : CandidateOrchestration) (now : Int) :
    Every (PreflightMoves rules naming) (executeAction rules answers action orchestration now) := by
  cases action with
  | fetchStage => exact (every_fetchStage _ _ _ _).bind fun _ => .pure ()
  | analyze => exact (every_integrity _ _ _).bind fun _ => .pure ()
  | analyzeDependencies => exact (every_dependency _ _ _).bind fun _ => .pure ()
  | classifyRisk => exact (every_risk _ _ _).bind fun _ => .pure ()
  | validate => exact (every_static _ _ _).bind fun _ => .pure ()
  | validateSemantics => exact (every_semantic _ _ _).bind fun _ => .pure ()
  | prepareBackup | none => exact .throw _

theorem every_recordFailure (claimed : WorkItem) (transient : Bool) (now : Int) :
    Every (PreflightMoves rules naming) (recordExecutorFailure claimed transient now) :=
  (every_rethrow _ (every_failWork _ _ _)).bind fun _ => .pure _

theorem every_settleAdvanced (claimed : WorkItem) (now : Int) :
    Every (PreflightMoves rules naming) (settleAdvanced claimed now) := by
  refine (every_getWork claimed _).bind fun persisted => ?_
  split
  · exact .pure _
  · exact (every_ensure _ _).bind fun _ => (every_rethrow _ (every_deferClaimed _ _)).bind fun _ =>
      .pure _

theorem every_pendingOrchestration (target : PyStr) (repositoryId : Int) (claimed : WorkItem)
    (action : CandidateAction) (now : Int) :
    Every (PreflightMoves rules naming) (pendingOrchestration target repositoryId claimed action now) := by
  refine (every_read _).bind fun loaded => ?_
  cases loaded with
  | some orchestration => exact .pure orchestration
  | none => exact (every_ensure _ _).bind fun _ => every_register _ _ _ _

theorem every_executePending (answers : PreflightAnswers) (target : PyStr) (repositoryId : Int)
    (claimed : WorkItem) (action : CandidateAction) (now : Int) :
    Every (PreflightMoves rules naming)
      (executePending rules answers target repositoryId claimed action now) := by
  refine (every_attempt (every_pendingOrchestration _ _ _ _ _)).bind fun registered => ?_
  cases registered with
  | error failure =>
    dsimp only
    split
    · exact .throw failure
    · exact every_recordFailure _ _ _
  | ok orchestration =>
    refine (every_ensure _ _).bind fun _ => (every_attempt (every_executeAction _ _ _ _)).bind
      fun executed => ?_
    cases executed with
    | error failure => exact every_recordFailure _ _ _
    | ok result => exact every_settleAdvanced _ _

theorem every_preflightProcess (answers : PreflightAnswers) (target : PyStr) :
    Every (PreflightMoves rules naming)
      (runCandidatePreflightProcess rules referenceTime answers target) := by
  refine (every_moment referenceTime).bind fun now => (every_read _).bind fun repositoryId => ?_
  refine Every.bind (every_rethrow _ (every_call (.claimPending target repositoryId now) fun _ => rfl))
    fun claim => ?_
  cases claim with
  | none => exact .pure _
  | some claim => exact every_executePending _ _ _ _ _ _

end Lanes

/-! ## The backup -/

section Backup

variable {row : CandidateBackupCheckpoint} {current : CandidateOrchestration} {now : Int}
  (fromisoformat : String → Option DateTime) (access : BackupAccess)

theorem every_askSupervisor (candidateSha : ShortDigest) (reconciling : Bool)
    (request : BackupRequest) (limit : Nat) :
    Every (PreflightMoves rules naming) (askSupervisor candidateSha reconciling request limit) :=
  Every.action fun _ => .inl rfl

theorem every_verifySemantic (candidateSha : ShortDigest) :
    Every (PreflightMoves rules naming) (verifySemantic candidateSha) := Every.action fun _ => .inl rfl

theorem every_verifiedEvidence (semantic : CandidateSemanticValidation) (candidateSha : ShortDigest)
    (reconciling : Bool) (slug : String) (maxResponseBytes : Nat) :
    Every (PreflightMoves rules naming)
      (verifiedEvidence semantic candidateSha reconciling slug maxResponseBytes) :=
  (every_askSupervisor _ _ _ _).bind fun _ => (Every.ofResult _).bind fun _ =>
    (every_verifySemantic _).bind fun _ => .pure _

theorem every_createBackup (semantic : CandidateSemanticValidation) (candidateSha : ShortDigest)
    (backupName : Option String) (timeoutSeconds : Rat) (maxResponseBytes : Nat) :
    Every (PreflightMoves rules naming) (createCandidateBackup access semantic candidateSha backupName
      timeoutSeconds maxResponseBytes) := by
  refine (every_verifySemantic _).bind fun _ => (Every.ofResult _).bind fun _ => ?_
  refine (Every.ofResult _).bind fun _ => (Every.ofResult _).bind fun _ => ?_
  exact (every_askSupervisor _ _ _ _).bind fun _ => (Every.ofResult _).bind fun _ =>
    every_verifiedEvidence _ _ _ _ _

theorem every_reconcileCandidateBackup (semantic : CandidateSemanticValidation)
    (candidateSha : ShortDigest) (requestName : String) (startedAt : Int) (timeoutSeconds : Rat)
    (maxResponseBytes : Nat) :
    Every (PreflightMoves rules naming) (reconcileCandidateBackup fromisoformat access semantic candidateSha
      requestName startedAt timeoutSeconds maxResponseBytes) := by
  refine (every_verifySemantic _).bind fun _ => (Every.ofResult _).bind fun _ => ?_
  refine (Every.ofResult _).bind fun _ => (Every.ofResult _).bind fun _ => ?_
  exact (every_askSupervisor _ _ _ _).bind fun _ => (Every.ofResult _).bind fun _ =>
    every_verifiedEvidence _ _ _ _ _

theorem every_readCheckpoint (row : CandidateBackupCheckpoint) :
    Every (PreflightMoves rules naming) (ensureCheckpoint row) :=
  (every_read _).bind fun _ => every_ensure _ _

theorem every_readFinished (finished : CandidateBackupCheckpoint) (advanced : CandidateOrchestration) :
    Every (PreflightMoves rules naming) (ensureFinished finished advanced) :=
  (every_readCheckpoint finished).bind fun _ => (every_read _).bind fun _ => every_ensure _ _

/-- A backup that goes on, by one of the calls. -/
theorem every_transition {replacement : CandidateBackupCheckpoint}
    {result : Except Failure CandidateBackupCheckpoint} (call : PreflightCall)
    (calls : call.store rules naming = committed (PreflightCall.moveBackup row result))
    (moved : result = .ok replacement) :
    Every (PreflightMoves rules naming) (transitionCheckpoint row replacement) := by
  refine Every.bind (every_call call fun store => ?_) fun _ => every_readCheckpoint _
  rw [calls, moved]
  rfl

theorem every_finishSuccess {evidence : CandidateBackupEvidence}
    {completed : CandidateBackupCheckpoint} (named : row.candidateSha = current.candidateSha)
    (completes : row.complete evidence now = .ok completed) :
    Every (PreflightMoves rules naming) (finishSuccess row completed current evidence now) := by
  refine every_ensured fun _ => every_given fun advanced advances => ?_
  refine Every.bind (every_call (.completeBackup row current evidence now) fun store => ?_) fun _ =>
    (every_readFinished _ _).bind fun _ => (every_read _).bind fun _ =>
      (every_ensure _ _).bind fun _ => .pure _
  show committed _ store = committed (PreflightCall.finishBackup row current evidence now) store
  unfold committed PreflightCall.finishBackup
  rw [if_neg (not_not.mpr named), completes, advances]
  rfl

theorem every_finishBlock {blocked : CandidateBackupCheckpoint}
    (named : row.candidateSha = current.candidateSha) (blocks : row.block now = .ok blocked) :
    Every (PreflightMoves rules naming) (finishBlock row blocked current now) := by
  refine every_given fun advanced advances => ?_
  refine Every.bind (every_call (.blockBackup row current now) fun store => ?_) fun _ =>
    (every_readFinished _ _).bind fun _ => .pure _
  show committed _ store = committed (PreflightCall.giveUpBackup row current now) store
  unfold committed PreflightCall.giveUpBackup
  rw [if_neg (not_not.mpr named), blocks, advances]
  rfl

theorem start_candidate {started : CandidateBackupCheckpoint} (starts : row.start now = .ok started) :
    started.candidateSha = row.candidateSha := by
  unfold CandidateBackupCheckpoint.start at starts
  split at starts
  · cases starts
  · cases starts
    rfl

theorem markUncertain_candidate {uncertain : CandidateBackupCheckpoint}
    (doubts : row.markUncertain = .ok uncertain) : uncertain.candidateSha = row.candidateSha := by
  unfold CandidateBackupCheckpoint.markUncertain at doubts
  split at doubts
  · cases doubts
    rfl
  · cases doubts

theorem every_requestBackup {authority : CandidateBackupAuthority}
    (named : row.candidateSha = current.candidateSha) :
    Every (PreflightMoves rules naming) (requestBackup access row current authority now) := by
  refine every_given fun started starts => ?_
  refine (every_transition (.startBackup row now) rfl starts).bind fun _ => ?_
  refine (every_attempt (every_createBackup _ _ _ _ _ _)).bind fun created => ?_
  cases created with
  | error failure =>
    refine every_given fun uncertain doubts => ?_
    exact (every_transition (.doubtBackup started) rfl doubts).bind fun _ => .throw _
  | ok evidence =>
    exact every_given fun completed completes =>
      every_finishSuccess ((start_candidate starts).trans named) completes

theorem every_reconcileBackup {authority : CandidateBackupAuthority} {startedAt : Int}
    (named : row.candidateSha = current.candidateSha) :
    Every (PreflightMoves rules naming)
      (reconcileBackup fromisoformat access row startedAt current authority now) := by
  refine (every_attempt (every_reconcileCandidateBackup _ _ _ _ _ _ _ _)).bind fun found => ?_
  cases found with
  | error failure =>
    refine (every_note fun _ => .inl rfl).bind fun _ => ?_
    exact every_given fun blocked blocks => every_finishBlock named blocks
  | ok evidence => exact every_given fun completed completes => every_finishSuccess named completes

theorem every_continueBackup {authority : CandidateBackupAuthority}
    (named : row.candidateSha = current.candidateSha) :
    Every (PreflightMoves rules naming)
      (continueBackup fromisoformat access row current authority now) := by
  unfold continueBackup
  split
  · exact every_requestBackup access named
  · refine every_given fun uncertain doubts => ?_
    exact (every_transition (.doubtBackup row) rfl doubts).bind fun _ =>
      every_reconcileBackup fromisoformat access ((markUncertain_candidate doubts).trans named)
  · exact every_reconcileBackup fromisoformat access named
  · exact .throw _
  · exact .throw _

theorem planBackup_candidate {uuid5 : PyStr → String} {authority : CandidateBackupAuthority}
    {plan : CandidateBackupCheckpoint} (planned : planBackup uuid5 current authority now = .ok plan) :
    plan.candidateSha = current.candidateSha ∧ plan.orchestration = current ∧
      plan.target = current.target ∧ plan.repositoryId = current.repositoryId ∧
      plan.phase = .planned ∧ ∃ name, plan.deploymentId = uuid5 name := by
  unfold planBackup at planned
  dsimp only at planned
  split at planned
  · cases planned
  · cases planned
    exact ⟨rfl, rfl, rfl, rfl, rfl, _, rfl⟩

theorem every_planAndRequest (current : CandidateOrchestration) (now : Int) :
    Every (PreflightMoves rules naming)
      (planAndRequestBackup fromisoformat naming.uuid5 access current now) := by
  refine Every.bind (Every.action fun _ => .inl rfl) fun authority => every_ensured fun starts => ?_
  refine every_given fun plan planned => ?_
  refine Every.bind (every_call (.planBackup current authority now) fun store => ?_) fun _ =>
    (every_readCheckpoint _).bind fun _ =>
      every_continueBackup fromisoformat access (planBackup_candidate planned).1
  show committed _ store = committed (PreflightCall.planOfBackup naming current authority now) store
  unfold committed PreflightCall.planOfBackup
  rw [if_neg (not_not.mpr starts), planned]
  rfl

theorem every_resumeBackup (named : row.candidateSha = current.candidateSha) :
    Every (PreflightMoves rules naming) (resumeBackup fromisoformat access row current now) := by
  unfold resumeBackup
  split
  · exact (every_read _).bind fun _ => (every_ensure _ _).bind fun _ => .pure _
  · exact .pure _
  · exact Every.bind (Every.action fun _ => .inl rfl) fun _ => (every_ensure _ _).bind fun _ =>
      every_continueBackup fromisoformat access named

theorem loadCandidateBackupCheckpoint_some {store : Store} {candidateSha : ShortDigest}
    (loaded : loadCandidateBackupCheckpoint store candidateSha = .ok (some row)) :
    store.backupCheckpoint candidateSha = some row := by
  unfold loadCandidateBackupCheckpoint at loaded
  split at loaded
  · cases loaded
  next found =>
    obtain ⟨current, _, loaded⟩ := bind_eq_ok.mp loaded
    split at loaded
    · split at loaded
      · cases loaded
      · cases loaded
        exact found
    · cases loaded

theorem Store.backupCheckpoint_candidate {store : Store} {candidateSha : ShortDigest}
    (found : store.backupCheckpoint candidateSha = some row) : row.candidateSha = candidateSha := by
  simpa using List.find?_some found

theorem every_executeBackup (orchestration : CandidateOrchestration) (referenceTime : Option Int) :
    Every (PreflightMoves rules naming) (executeCandidateBackupOnce fromisoformat naming.uuid5 access
      orchestration referenceTime) := by
  refine (every_moment referenceTime).bind fun now => (every_read _).bind fun _ => ?_
  refine (every_ensure _ _).bind fun _ => every_query_bind PreflightMoves.still fun store checkpoint loaded => ?_
  cases checkpoint with
  | none => exact every_planAndRequest fromisoformat access orchestration now
  | some row =>
    exact every_resumeBackup fromisoformat access
      (Store.backupCheckpoint_candidate (loadCandidateBackupCheckpoint_some loaded))

/-- The lane of the backup claims as the others do. -/
theorem claimBackupWork_eq (now : Int) (store : Store) :
    claimBackupWork now store =
      claimCandidateWork .prepareBackup now (recoverCandidateWork .prepareBackup now store) := rfl

theorem every_backupPass (referenceTime : Option Int) :
    Every (PreflightMoves rules naming)
      (runCandidateBackupRetriggerPass fromisoformat naming.uuid5 access referenceTime) := by
  refine (every_moment referenceTime).bind fun now => ?_
  refine Every.bind (every_rethrow _ (every_call (.recoverAndClaim .prepareBackup now)
    fun store => rfl)) fun item => ?_
  cases item with
  | none => exact .pure none
  | some item =>
    refine (every_getWork item _).bind fun claimed => Every.bind (Every.tryCatch ?_ fun failure => ?_)
      fun _ => .pure _
    · exact (every_read _).bind fun orchestration =>
        (every_executeBackup fromisoformat access orchestration _).bind fun _ => .pure _
    · exact (every_suppressedFailWork _ _ _).bind fun _ => .throw _

end Backup

/-- A pass over candidates: one of the lanes, the routine process, the detection of a candidate, or
an administrative request. -/
inductive PreflightPass (rules : PreflightRules) (naming : DeploymentNaming) : Prog System Unit → Prop
  where
  | process (referenceTime : Option Int) (answers : PreflightAnswers) (target : PyStr) :
    PreflightPass rules naming (runCandidatePreflightProcess rules referenceTime answers target).call
  | fetchStage (referenceTime : Option Int) (target : PyStr) (workspaceId : String)
    (answers : StageAnswers .fetchStage) : PreflightPass rules naming
      (runCandidateFetchStageRetriggerPass rules referenceTime target workspaceId answers).call
  | integrity (referenceTime : Option Int) (answers : StageAnswers .integrity) :
    PreflightPass rules naming (runCandidateIntegrityRetriggerPass rules referenceTime answers).call
  | dependency (referenceTime : Option Int) (answers : StageAnswers .dependency) :
    PreflightPass rules naming (runCandidateDependencyRetriggerPass rules referenceTime answers).call
  | risk (referenceTime : Option Int) (answers : StageAnswers .risk) :
    PreflightPass rules naming (runCandidateRiskRetriggerPass rules referenceTime answers).call
  | static (referenceTime : Option Int) (answers : StageAnswers .static) :
    PreflightPass rules naming (runCandidateStaticRetriggerPass rules referenceTime answers).call
  | semantic (referenceTime : Option Int) (answers : StageAnswers .semantic) :
    PreflightPass rules naming (runCandidateSemanticRetriggerPass rules referenceTime answers).call
  | backup (fromisoformat : String → Option DateTime) (access : BackupAccess)
    (referenceTime : Option Int) : PreflightPass rules naming
      (runCandidateBackupRetriggerPass fromisoformat naming.uuid5 access referenceTime).call
  | detect (workKey : PyStr) (now : Int) :
    PreflightPass rules naming (enqueueCandidate workKey now).call
  | retry (request : AdministrativeRetryRequest) (now : Int) :
    PreflightPass rules naming (transaction (applyAdministrativeRetryRequest request now)).call

theorem every_enqueueCandidate (workKey : PyStr) (now : Int) :
    Every (PreflightMoves rules naming) (enqueueCandidate workKey now) := by
  refine every_given fun valid validated => Every.bind (every_call
    (.work (.enqueueWork .candidate workKey now)) fun store => ?_) fun _ => .pure ()
  show _ = (WorkCall.identified .candidate workKey id _ store).2
  unfold WorkCall.identified
  rw [validated]
  exact (committed_readBack store).symm

/-- The passes make no other transactions than the calls. -/
theorem every_pass {pass : Prog System Unit} (known : PreflightPass rules naming pass) :
    Prog.Every (PreflightMoves rules naming) pass := by
  have dropped {α : Type} {program : Lane α} (every : Every (PreflightMoves rules naming) program) :
      Prog.Every (PreflightMoves rules naming) program.call := Prog.Every.bind every fun _ => trivial
  cases known with
  | process => exact dropped (every_preflightProcess _ _ _)
  | fetchStage => exact dropped (every_fetchStagePass _ _ _ _)
  | integrity => exact dropped (every_integrityPass _ _)
  | dependency => exact dropped (every_dependencyPass _ _)
  | risk => exact dropped (every_riskPass _ _)
  | static => exact dropped (every_staticPass _ _)
  | semantic => exact dropped (every_semanticPass _ _)
  | backup fromisoformat access => exact dropped (every_backupPass fromisoformat access _)
  | detect => exact dropped (every_enqueueCandidate _ _)
  | retry request now => exact dropped (every_call (.retry request now) fun _ => rfl)

end Passes

end SyncApp
