import SyncApp.LiveApply.Reconciling
import SyncApp.LiveApply.WriteAhead

/-!
# What a recorded outcome decides

A reconciliation records its outcome in one transaction and settles the progress row in another. A
call that comes after only the first looks at the live path again, and the record is final: where
the path shows something else by then, the record is refused and the row stays as it was
(`reconcile_decides_iff`).
-/

set_option autoImplicit false

namespace SyncApp

open Lib Raising Sys App LiveApplyReconciliation LiveApplyJournal

/-! ## The record and the row -/

/-- The phase that a recorded outcome settles an operation in. -/
def ReconciliationOutcome.settled : ReconciliationOutcome → ProgressPhase
  | .applied => .mutationVerified
  | .notApplied | .ambiguous => .blocked

/-- The world after the clock was read. -/
def World.tick (world : World) : World :=
  { world with host := { world.host with drawn := world.host.drawn + 1 } }

/-- The rows where one of them is replaced. -/
def Database.settle (db : Database) (row replacement : PersistedLiveApplyProgress) : Database :=
  { db with progress := db.progress.map fun other => if other = row then replacement else other }

section Records

variable {hashing : Hashing} {world : World} {plan : LiveApplyPlan}
  {row : PersistedLiveApplyProgress} {record : LiveApplyReconciliationRecord}

theorem eval_now (world : World) :
    (onHost Sys.now).eval world = (.ok (world.host.clock world.host.drawn), world.tick) :=
  eval_onHost Sys.now world

theorem eval_transaction_ok {α : Type} {refused : String} {a : α} {db : Database}
    {change : Database → Except PyError (α × Database)} (quiet : world.host.fault = none)
    (changed : change world.db = .ok (a, db)) :
    (transaction refused change).eval world = (.ok a, { world with db := db }) := by
  unfold transaction
  rw [eval_action, quiet]
  dsimp only
  rw [changed]

theorem eval_transaction_error {α : Type} {refused : String} {error : PyError}
    {change : Database → Except PyError (α × Database)} (quiet : world.host.fault = none)
    (changed : change world.db = .error error) :
    (transaction refused change).eval world = (.error error, world) := by
  unfold transaction
  rw [eval_action, quiet]
  dsimp only
  rw [changed]

/-- A row that can be settled: it is started, it is the row of its operation, and it is bound to the
plan. -/
structure Settles (hashing : Hashing) (db : Database) (plan : LiveApplyPlan)
    (row : PersistedLiveApplyProgress) : Prop where
  started : row.progress.phase = .mutationStarted
  loaded : loadLiveApplyProgress hashing row.progress.deploymentId row.progress.operationIndex db =
    .ok (some row)
  bound : revalidatePlanBinding hashing db row.progress plan = .ok ()

theorem Settles.selected {db : Database} (settles : Settles hashing db plan row) :
    selectProgressRow db row.progress.deploymentId row.progress.operationIndex = some row ∧
      revalidateIntentBinding hashing db row.progress = .ok () := by
  have loaded := settles.loaded
  unfold loadLiveApplyProgress at loaded
  split at loaded
  · cases loaded
  · split at loaded
    · cases loaded
    next found =>
      obtain ⟨_, bound, same⟩ := bind_eq_ok.mp loaded
      cases same
      exact ⟨found, bound⟩

theorem Settles.context {db : Database} (settles : Settles hashing db plan row) :
    validateContext hashing row.progress plan db = .ok () := by
  obtain ⟨persisted, _, checked⟩ := bind_eq_ok.mp settles.bound
  split at checked
  · cases checked
  · have valid : validateProgressPlanBinding hashing row.progress plan = .ok () := by
      unfold asStateError at checked
      split at checked
      next valid => exact valid
      next => split at checked <;> cases checked
    unfold validateContext
    rw [valid]
    dsimp only
    rw [settles.loaded]
    exact if_pos ⟨rfl, settles.started⟩

/-- An outcome is recorded over one that was recorded before where they are the same. -/
theorem recordReconciliation_eval (outcome : ReconciliationOutcome) (quiet : world.host.fault = none)
    (settles : Settles hashing world.db plan row)
    (recorded : reconciliationRow world.db row.progress.deploymentId row.progress.operationIndex =
      some record) :
    (recordLiveApplyReconciliation hashing row.progress plan outcome).eval world =
      if record.outcome = outcome then (.ok record, world.tick)
      else (.error (stateError "Live Apply reconciliation outcome cannot be changed"),
        world.tick) := by
  unfold recordLiveApplyReconciliation
  rw [eval_bind_ok ((eval_query_ok quiet).trans (by rw [settles.context])),
    eval_bind_ok (eval_now world)]
  have found : reconciliationRow world.tick.db row.progress.deploymentId
    row.progress.operationIndex = some record := recorded
  split
  next same =>
    refine eval_transaction_ok quiet ?_
    unfold reconciliationTransaction
    rw [found]
    exact if_neg (not_not.mpr same)
  next apart =>
    refine eval_transaction_error quiet ?_
    unfold reconciliationTransaction
    rw [found]
    exact if_pos apart

/-- A started row is replaced by the one that settles it. -/
theorem Settles.transaction {db : Database} (settles : Settles hashing db plan row)
    {phase : ProgressPhase} (ends : phase ≠ .mutationStarted) (when : Int) :
    progressTransaction hashing ⟨{ row.progress with phase := phase }, when⟩ plan db =
      .ok ((⟨{ row.progress with phase := phase }, when⟩, false),
        db.settle row ⟨{ row.progress with phase := phase }, when⟩) := by
  obtain ⟨selected, bound⟩ := settles.selected
  have apart : row.progress.phase ≠ phase := settles.started ▸ ends.symm
  have same : sameOperation row.progress { row.progress with phase := phase } = true :=
    decide_eq_true rfl
  have rebound : revalidatePlanBinding hashing db { row.progress with phase := phase } plan =
    .ok () := settles.bound
  unfold progressTransaction
  dsimp only
  rw [rebound, selected]
  show (revalidateIntentBinding hashing db row.progress >>= fun _ => _) = _
  rw [bound, same]
  show (if row.progress.phase = phase then _ else _) = _
  rw [if_neg apart]
  unfold transitionLiveApplyProgress
  rw [if_pos (.inl settles.started)]
  rfl

theorem recordProgress_eval (quiet : world.host.fault = none)
    (settles : Settles hashing world.db plan row) {phase : ProgressPhase}
    (ends : phase ≠ .mutationStarted) :
    ∃ replacement : PersistedLiveApplyProgress,
      replacement.progress = { row.progress with phase := phase } ∧
      (recordLiveApplyProgress hashing { row.progress with phase := phase } plan).eval world =
        (.ok replacement, { world.tick with db := world.db.settle row replacement }) := by
  refine ⟨⟨{ row.progress with phase := phase }, world.host.clock world.host.drawn⟩, rfl, ?_⟩
  unfold recordLiveApplyProgress
  have rebound : revalidatePlanBinding hashing world.db { row.progress with phase := phase } plan =
    .ok () := settles.bound
  have ticked : Settles hashing world.tick.db plan row := settles
  have still : world.tick.host.fault = none := quiet
  rw [eval_bind_ok ((eval_query_ok quiet).trans (by rw [rebound])), eval_bind_ok (eval_now world)]
  exact (eval_bind_ok (eval_transaction_ok still (ticked.transaction ends _))).trans rfl

end Records

/-! ## The call -/

section Call

variable {hashing : Hashing} {world : World} {plan : LiveApplyPlan}
  {authorization : ApplyAuthorization} {stageEvidence : StagePrewriteEvidence}
  {stage : CandidateStage} {preconditions : LiveApplyPreconditionEvidence}
  {row : PersistedLiveApplyProgress}

theorem looks_onHost {α : Type} {program : Sys α} (looks : Looks program) :
    Looks (onHost program) := by
  intro world
  rw [eval_onHost, looks world.host]
  rfl

theorem looks_query {α : Type} {refused : String} {read : Database → Except PyError α} :
    Looks (query refused read) := by
  intro world
  unfold query
  rw [eval_action]
  split
  · rfl
  · rfl

theorem looks_validateStageEntries {entries : List CandidateStageEntry}
    {operations : List LiveApplyOperation} :
    Looks (validateStageEntries entries operations) := by
  induction operations with
  | nil => exact .pure _
  | cons operation operations ih =>
    unfold validateStageEntries
    split
    · exact .bind (looks_require _ _) fun _ => ih
    · exact .bind (.throw _) fun _ => ih
    · exact .bind (looks_require _ _) fun _ => ih

theorem looks_validateChain :
    Looks (validateChain hashing authorization stageEvidence stage plan preconditions) := by
  unfold validateChain
  refine .bind (looks_orRaise (.bind (.ofResult _) fun intent => .bind looks_query fun _ =>
    .pure _) _) fun found => ?_
  refine .bind (looks_require _ _) fun _ => .bind (looks_onHost ?_) fun _ =>
    .bind (looks_require _ _) fun _ => .pure _
  exact .bind (looks_require _ _) fun _ => .bind (looks_require _ _) fun _ =>
    looks_validateStageEntries

/-- An intent that is derived is that of the plan's deployment. -/
theorem derived_deployment {intent : LiveApplyIntent}
    (derived : LiveApplyIntents.deriveLiveApplyIntent hashing authorization stageEvidence plan
      preconditions = .ok intent) :
    intent.deploymentId = plan.deploymentId := by
  unfold LiveApplyIntents.deriveLiveApplyIntent at derived
  dsimp only at derived
  split at derived
  · cases derived
  split at derived
  · cases derived
  next bound =>
    have same := (not_or.mp bound).1
    have equal : plan.deploymentId = authorization.deploymentId :=
      congrArg Prod.fst (not_not.mp same)
    split at derived
    · cases derived
    split at derived
    · cases derived
    · obtain ⟨_, _, rest⟩ := bind_eq_ok.mp derived
      split at rest
      · cases rest
      · cases rest
        exact equal.symm

theorem chain_bound {intent : LiveApplyIntent}
    (bound : ((validateChain hashing authorization stageEvidence stage plan preconditions).eval
      world).1 = .ok intent) :
    intent.deploymentId = plan.deploymentId ∧ world.host.fault = none := by
  have ran := looks_validateChain.eval bound
  obtain ⟨⟨derived, persisted⟩, _, read, checks⟩ := eval_bind_eq_ok.mp ran
  obtain ⟨_, _, _, checks⟩ := eval_bind_eq_ok.mp checks
  obtain ⟨_, _, _, checks⟩ := eval_bind_eq_ok.mp checks
  obtain ⟨_, _, _, returned⟩ := eval_bind_eq_ok.mp checks
  cases returned
  obtain ⟨_, _, derives, loads⟩ := eval_bind_eq_ok.mp (eval_orRaise_eq_ok.mp read)
  obtain ⟨_, _, loaded, returned⟩ := eval_bind_eq_ok.mp loads
  cases returned
  rw [eval_ofResult] at derives
  have derived := congrArg Prod.fst derives
  have still : world = _ := congrArg Prod.snd derives
  refine ⟨derived_deployment derived, ?_⟩
  rw [still]
  unfold query at loaded
  rw [eval_action] at loaded
  split at loaded
  · cases loaded
  next quiet => exact quiet

/-- A reconciliation that was recorded while its row was not yet settled: the row of an uncertain
operation is started, and an outcome is on record for it. -/
structure Reconcilable (hashing : Hashing) (world : World) (authorization : ApplyAuthorization)
    (stageEvidence : StagePrewriteEvidence) (stage : CandidateStage) (plan : LiveApplyPlan)
    (preconditions : LiveApplyPreconditionEvidence) (operationIndex : Nat)
    (operation : LiveApplyOperation) (row : PersistedLiveApplyProgress)
    (record : LiveApplyReconciliationRecord) : Prop where
  bound : ∃ intent, ((LiveApplyReconciliation.validateChain hashing authorization stageEvidence
    stage plan preconditions).eval world).1 = .ok intent
  planned : plan.operations[operationIndex]? = some operation
  uncertain : ∃ path, discoverLiveApplyRecovery hashing plan world.db =
    .ok (.reconcileUncertain operationIndex path)
  loaded : loadLiveApplyProgress hashing plan.deploymentId operationIndex world.db = .ok (some row)
  started : row.progress.phase = .mutationStarted
  recorded : reconciliationRow world.db plan.deploymentId operationIndex = some record

theorem loaded_selected {db : Database} {deploymentId : PyStr} {operationIndex : Nat}
    (loaded : loadLiveApplyProgress hashing deploymentId operationIndex db = .ok (some row)) :
    selectProgressRow db deploymentId operationIndex = some row := by
  unfold loadLiveApplyProgress at loaded
  split at loaded
  · cases loaded
  · split at loaded
    · cases loaded
    next found =>
      obtain ⟨_, _, same⟩ := bind_eq_ok.mp loaded
      cases same
      exact found

theorem revalidatePlanBindings_mem {db : Database} {rows : List PersistedLiveApplyProgress}
    (bound : revalidatePlanBindings hashing db plan rows = .ok ()) (mem : row ∈ rows) :
    revalidatePlanBinding hashing db row.progress plan = .ok () := by
  induction rows with
  | nil => cases mem
  | cons first rows ih =>
    obtain ⟨⟨⟩, first_bound, rest⟩ := bind_eq_ok.mp bound
    rcases List.mem_cons.mp mem with rfl | later
    · exact first_bound
    · exact ih rest later

/-- A recovery that is discovered has every row bound to the plan. -/
theorem discovered_bound {db : Database} {decision : LiveApplyRecoveryDecision}
    {operationIndex : Nat}
    (discovered : discoverLiveApplyRecovery hashing plan db = .ok decision)
    (selected : selectProgressRow db plan.deploymentId operationIndex = some row) :
    revalidatePlanBinding hashing db row.progress plan = .ok () := by
  obtain ⟨persisted, identity, rest⟩ := bind_eq_ok.mp discovered
  obtain ⟨records, found, rest⟩ := bind_eq_ok.mp rest
  obtain ⟨⟨⟩, bound, _⟩ := bind_eq_ok.mp rest
  have deployment : persisted.intent.deploymentId = plan.deploymentId := by
    obtain ⟨loaded, _, checked⟩ := bind_eq_ok.mp identity
    split at checked
    · cases checked
    · dsimp only at checked
      split at checked
      · cases checked
      next same =>
        obtain ⟨_, _, checked⟩ := bind_eq_ok.mp checked
        split at checked
        · cases checked
        · cases checked
          exact (congrArg Prod.fst (not_not.mp same)).symm
  have listed : records = progressRows db plan.deploymentId := by
    unfold discoverLiveApplyProgress at found
    split at found
    · cases found
    · obtain ⟨rows, queried, found⟩ := bind_eq_ok.mp found
      obtain ⟨_, _, found⟩ := bind_eq_ok.mp found
      obtain ⟨_, _, found⟩ := bind_eq_ok.mp found
      cases found
      unfold selectProgressRows at queried
      split at queried
      · cases queried
      · cases queried
        rw [deployment]
  refine revalidatePlanBindings_mem bound ?_
  rw [listed]
  unfold progressRows
  rw [List.mem_insertionSort, List.mem_filter]
  have keys := List.find?_some selected
  simp only [decide_eq_true_eq] at keys
  exact ⟨List.mem_of_find?_eq_some selected, decide_eq_true keys.1⟩

/-- The row of a pending reconciliation can be settled. -/
theorem Reconcilable.settles {operationIndex : Nat} {operation : LiveApplyOperation}
    {record : LiveApplyReconciliationRecord}
    (pending : Reconcilable hashing world authorization stageEvidence stage plan preconditions
      operationIndex operation row record) :
    (row.progress.deploymentId = plan.deploymentId ∧
      row.progress.operationIndex = operationIndex) ∧ Settles hashing world.db plan row := by
  have selected := loaded_selected pending.loaded
  have keys := List.find?_some selected
  simp only [decide_eq_true_eq] at keys
  obtain ⟨path, discovered⟩ := pending.uncertain
  refine ⟨keys, pending.started, ?_, discovered_bound discovered selected⟩
  rw [keys.1, keys.2]
  exact pending.loaded

/-- The row that settles another is found in its place. -/
theorem Database.settle_selected {db : Database} {replacement : PersistedLiveApplyProgress}
    {deploymentId : PyStr} {operationIndex : Nat}
    (selected : selectProgressRow db deploymentId operationIndex = some row)
    (deployment : replacement.progress.deploymentId = row.progress.deploymentId)
    (index : replacement.progress.operationIndex = row.progress.operationIndex) :
    selectProgressRow (db.settle row replacement) deploymentId operationIndex =
      some replacement := by
  unfold selectProgressRow Database.settle at *
  rw [List.find?_map]
  have selects : ((fun row : PersistedLiveApplyProgress =>
      decide (row.progress.deploymentId = deploymentId ∧
        row.progress.operationIndex = operationIndex)) ∘
      fun other => if other = row then replacement else other) = fun row =>
      decide (row.progress.deploymentId = deploymentId ∧
        row.progress.operationIndex = operationIndex) := by
    funext other
    simp only [Function.comp_apply]
    by_cases at_row : other = row
    · rw [if_pos at_row, deployment, index, at_row]
    · rw [if_neg at_row]
  rw [selects, selected, Option.map_some, if_pos rfl]

/-- A finish with the outcome on record settles the row. -/
theorem finishReconciliation_eval {record : LiveApplyReconciliationRecord}
    (quiet : world.host.fault = none) (settles : Settles hashing world.db plan row)
    (recorded : reconciliationRow world.db row.progress.deploymentId row.progress.operationIndex =
      some record) :
    ∃ after replacement,
      (finishReconciliation hashing row.progress plan record.outcome).eval world =
        (.ok ⟨record.outcome, row.progress.operationIndex, row.progress.operationPathSha256, false⟩,
          after) ∧
      replacement.progress = { row.progress with phase := record.outcome.settled } ∧
      after.db = world.db.settle row replacement := by
  have again : Settles hashing world.tick.db plan row := settles
  have still : world.tick.host.fault = none := quiet
  have ends : record.outcome.settled ≠ .mutationStarted := by cases record.outcome <;> nofun
  obtain ⟨replacement, same, stored⟩ := recordProgress_eval still again ends
  refine ⟨{ world.tick.tick with db := world.db.settle row replacement }, replacement, ?_, same, rfl⟩
  have reconciled := recordReconciliation_eval record.outcome quiet settles recorded
  rw [if_pos rfl] at reconciled
  have transits : transitionLiveApplyProgress row.progress
      (if record.outcome = .applied then .mutationVerified else .blocked) =
      .ok { row.progress with phase := record.outcome.settled } := by
    unfold transitionLiveApplyProgress
    rw [if_pos (.inl settles.started)]
    cases record.outcome <;> rfl
  unfold finishReconciliation
  refine (eval_bind_ok (a := ()) (eval_tryCatch_ok ?_)).trans rfl
  refine (eval_bind_ok reconciled).trans ?_
  rw [transits]
  refine (eval_bind_ok (eval_ofResult _ _)).trans ?_
  exact (eval_bind_ok stored).trans rfl

/-- A finish with another outcome is refused, and nothing is stored. -/
theorem finishReconciliation_refused {record : LiveApplyReconciliationRecord}
    {outcome : ReconciliationOutcome} (quiet : world.host.fault = none)
    (settles : Settles hashing world.db plan row)
    (recorded : reconciliationRow world.db row.progress.deploymentId row.progress.operationIndex =
      some record) (apart : record.outcome ≠ outcome) :
    (finishReconciliation hashing row.progress plan outcome).eval world =
      (.error ⟨.reconciliationError, "unable to persist live Apply reconciliation"⟩,
        world.tick) := by
  have refused := recordReconciliation_eval outcome quiet settles recorded
  rw [if_neg apart] at refused
  unfold finishReconciliation
  exact eval_bind_error ((eval_tryCatch_error (eval_bind_error refused)).trans rfl)

/-- **A recorded outcome decides only what is still there to see.** A call settles the row as the
record says, and returns its outcome, exactly when the live path shows that outcome again; otherwise
the call is refused and the rows are what they were. -/
theorem reconcile_decides_iff {operationIndex : Nat} {operation : LiveApplyOperation}
    {record : LiveApplyReconciliationRecord}
    (pending : Reconcilable hashing world authorization stageEvidence stage plan preconditions
      operationIndex operation row record) :
    ((∃ result after settled,
      (reconcileLiveApplyOperation hashing authorization stageEvidence stage plan preconditions
        operationIndex).eval world = (.ok result, after) ∧ result.outcome = record.outcome ∧
      selectProgressRow after.db plan.deploymentId operationIndex = some settled ∧
      settled.progress.phase = record.outcome.settled) ↔
      Shows hashing world stage preconditions.root operation row.progress record.outcome) ∧
    (¬Shows hashing world stage preconditions.root operation row.progress record.outcome →
      ∃ after, (reconcileLiveApplyOperation hashing authorization stageEvidence stage plan
        preconditions operationIndex).eval world =
          (.error ⟨.reconciliationError, "unable to persist live Apply reconciliation"⟩, after) ∧
        after.db = world.db) := by
  obtain ⟨⟨deployment, index⟩, settles⟩ := pending.settles
  obtain ⟨intent, bound⟩ := pending.bound
  obtain ⟨same_deployment, quiet⟩ := chain_bound bound
  obtain ⟨path, discovered⟩ := pending.uncertain
  have looked : ∃ outcome, (uncertainOutcome hashing stage preconditions.root operation
      row.progress).eval world = (.ok outcome, world) ∧
      ∀ other, Shows hashing world stage preconditions.root operation row.progress other ↔
        other = outcome := uncertainOutcome_eval quiet
  obtain ⟨outcome, found, shows⟩ := looked
  have recorded : reconciliationRow world.db row.progress.deploymentId
      row.progress.operationIndex = some record := by
    rw [deployment, index]
    exact pending.recorded
  have call : (reconcileLiveApplyOperation hashing authorization stageEvidence stage plan
      preconditions operationIndex).eval world =
      (finishReconciliation hashing row.progress plan outcome).eval world := by
    unfold reconcileLiveApplyOperation
    rw [eval_bind_ok (looks_validateChain.eval bound), pending.planned]
    dsimp only
    rw [eval_bind_ok ((eval_query_ok quiet).trans (by rw [discovered])), same_deployment,
      eval_bind_ok ((eval_query_ok quiet).trans (by rw [pending.loaded]))]
    dsimp only
    rw [eval_bind_ok (eval_require rfl), eval_bind_ok found]
  rw [call, shows]
  by_cases agrees : record.outcome = outcome
  · subst agrees
    obtain ⟨after, replacement, ran, same, stored⟩ :=
      finishReconciliation_eval quiet settles recorded
    refine ⟨⟨fun _ => rfl, fun _ => ⟨_, after, replacement, ran, rfl, ?_, by rw [same]⟩⟩,
      fun wrong => (wrong rfl).elim⟩
    rw [stored]
    exact Database.settle_selected (loaded_selected pending.loaded) (by rw [same]) (by rw [same])
  · have refused := finishReconciliation_refused quiet settles recorded agrees
    refine ⟨⟨?_, fun wrong => (agrees wrong).elim⟩, fun _ => ⟨_, refused, rfl⟩⟩
    rintro ⟨result, after, settled, ran, _⟩
    cases refused.symm.trans ran

end Call

/-! ## A record that came too early -/

def someDeployment : PyStr := text "00000000-0000-0000-0000-000000000000"

/-- The removal of `a`. -/
def removal : LiveApplyOperation :=
  ⟨text "a", .deleted, some .regular, some (.sha256 zeroDigest), none, none, none, none⟩

def removalPlan : LiveApplyPlan :=
  ⟨someDeployment, text "ha", 1, .sha256 zeroDigest, .sha256 zeroDigest, zeroDigest, [removal]⟩

def removalAuthorization : ApplyAuthorization :=
  ⟨someDeployment, text "ha", 1, .sha256 zeroDigest, .sha256 zeroDigest, text "b", zeroDigest⟩

def removalEvidence : StagePrewriteEvidence :=
  ⟨someDeployment, text "ha", 1, .sha256 zeroDigest, zeroDigest⟩

/-- A candidate without files. -/
def emptyStage : CandidateStage :=
  ⟨text "/s", zeroDigest, text "ha", 1, text "candidate", .sha256 zeroDigest, []⟩

def removalPreconditions : LiveApplyPreconditionEvidence :=
  ⟨someDeployment, text "ha", 1, .sha256 zeroDigest, .sha256 zeroDigest, zeroDigest, text "/h",
    [text "a"]⟩

def removalRow : PersistedLiveApplyProgress :=
  ⟨⟨someDeployment, zeroDigest, zeroDigest, 0, zeroDigest, .mutationStarted⟩, 0⟩

def removalRecord : LiveApplyReconciliationRecord := ⟨someDeployment, 0, .applied, 0⟩

/-- The removal was recorded as applied and its row is still started; by now the file stands there
again, or it does not. -/
def recordedWorld (again : Bool) : World where
  db := {
    repositoryId := fun _ => some 1
    preparedDeployment := fun _ => some ⟨text "ha", 1, .sha256 zeroDigest, .sha256 zeroDigest,
      zeroDigest, text "b"⟩
    intents := [⟨⟨someDeployment, text "ha", 1, .sha256 zeroDigest, .sha256 zeroDigest, zeroDigest,
      text "b", text "/h", zeroDigest⟩, 0⟩]
    progress := [removalRow]
    guards := [⟨someDeployment, 0, zeroDigest, zeroDigest, zeroDigest, 0, [], 0⟩]
    reconciliations := [removalRecord]
  }
  host := {
    live := ⟨fun ino => match ino with
      | 0 => some (.directory fun name => if again ∧ name = text "a" then some 1 else none)
      | 1 => some (.file 0o644 [])
      | _ => none, 2⟩
    openRoot := fun path => if path = text "/h" then .ok 0 else .error .noent
    stages := fun root => if root = text "/s" then
      some ⟨true, some (CandidateStages.manifestOf emptyStage), [⟨[], true, []⟩]⟩ else none
    clock := fun time => time
    uuid := fun _ => []
    drawn := 0
    fault := none
  }
  entered := [(someDeployment, 0)]

theorem recordedWorld_pending (again : Bool) :
    Reconcilable zeroHashing (recordedWorld again) removalAuthorization removalEvidence emptyStage
      removalPlan removalPreconditions 0 removal removalRow removalRecord where
  bound := ⟨⟨someDeployment, text "ha", 1, .sha256 zeroDigest, .sha256 zeroDigest, zeroDigest,
    text "b", text "/h", zeroDigest⟩, by cases again <;> decide +kernel⟩
  planned := rfl
  uncertain := ⟨zeroDigest, by cases again <;> decide +kernel⟩
  loaded := by cases again <;> decide +kernel
  started := rfl
  recorded := by cases again <;> decide +kernel

/-- **The file is back when the call comes again**, and the recorded outcome is refused. -/
theorem recorded_removal_stuck :
    Reconcilable zeroHashing (recordedWorld true) removalAuthorization removalEvidence emptyStage
      removalPlan removalPreconditions 0 removal removalRow removalRecord ∧
    ¬∃ result after settled,
      (reconcileLiveApplyOperation zeroHashing removalAuthorization removalEvidence emptyStage
        removalPlan removalPreconditions 0).eval (recordedWorld true) = (.ok result, after) ∧
      result.outcome = removalRecord.outcome ∧
      selectProgressRow after.db removalPlan.deploymentId 0 = some settled ∧
      settled.progress.phase = removalRecord.outcome.settled := by
  refine ⟨recordedWorld_pending true, ?_⟩
  rintro ⟨result, after, settled, ran, _⟩
  have refused : ((reconcileLiveApplyOperation zeroHashing removalAuthorization removalEvidence
      emptyStage removalPlan removalPreconditions 0).eval (recordedWorld true)).1.isOk = false := by
    decide +kernel
  rw [ran] at refused
  cases refused

/-- The file is still gone, and the row is settled. -/
theorem recorded_removal_settled :
    ∃ result after settled,
      (reconcileLiveApplyOperation zeroHashing removalAuthorization removalEvidence emptyStage
        removalPlan removalPreconditions 0).eval (recordedWorld false) = (.ok result, after) ∧
      result.outcome = removalRecord.outcome ∧
      selectProgressRow after.db removalPlan.deploymentId 0 = some settled ∧
      settled.progress.phase = removalRecord.outcome.settled := by
  refine (reconcile_decides_iff (recordedWorld_pending false)).1.mpr ⟨none, ⟨?_, ?_⟩, rfl⟩
  · rfl
  · refine ⟨_, rfl, rfl, rfl, rfl, 0, rfl, rfl, .absent rfl⟩

end SyncApp
