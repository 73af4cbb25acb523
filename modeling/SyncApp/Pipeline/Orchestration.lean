import SyncApp.Pipeline.CandidateRecords

/-!
# A candidate only moves forward

The phase of a candidate, its checkpoints and its backup are written by seven executors, and what
every transaction can do to them is `RecordStep`. Along any run a phase follows its chain, what ended
stays, and the checkpoints are those of the phase. A blocked candidate is the exception: its phase
does not tell which stage it was blocked in, and its checkpoints do.
-/

set_option autoImplicit false

namespace SyncApp

open Lib

/-! ## Forward -/

/-- One step of a candidate along its phases. -/
inductive OrchestrationPhase.Next : OrchestrationPhase → OrchestrationPhase → Prop where
  | stage (stage : PreflightStage) : Next stage.before stage.after
  | staticBlocked : Next .riskClassified .blocked
  | semanticBlocked : Next .staticValidated .blocked
  | backupCompleted : Next .semanticallyValidated .completed
  | backupBlocked : Next .semanticallyValidated .blocked

/-- A candidate that is through. -/
def OrchestrationPhase.ended : OrchestrationPhase → Bool
  | .completed | .blocked => true
  | _ => false

namespace CandidateRecords

/-- A candidate with nothing recorded. -/
def fresh : CandidateRecords := ⟨none, fun _ => none, none⟩

/-- What the records of a candidate may become. -/
structure Advances (before after : CandidateRecords) : Prop where
  orchestration : ∀ current, before.orchestration = some current → ∃ phase updatedAt,
    after.orchestration = some { current with phase := phase, updatedAt := updatedAt } ∧
      Relation.ReflTransGen OrchestrationPhase.Next current.phase phase
  ended : ∀ current, before.orchestration = some current → current.phase.ended = true →
    after.orchestration = some current
  checkpoints : ∀ stage (row : CandidateCheckpoint stage), before.checkpoint stage = some row →
    row.phase ≠ .planned → after.checkpoint stage = some row
  backup : ∀ row, before.backup = some row → row.phase.terminal = true → after.backup = some row

variable {first before after : CandidateRecords}

theorem Advances.refl (records : CandidateRecords) : Advances records records where
  orchestration current here := ⟨current.phase, current.updatedAt, here, .refl⟩
  ended _ here _ := here
  checkpoints _ _ found _ := found
  backup _ found _ := found

theorem Advances.trans (once : Advances first before) (again : Advances before after) :
    Advances first after where
  orchestration current here := by
    obtain ⟨phase, updatedAt, middle, goes⟩ := once.orchestration current here
    obtain ⟨last, lastAt, there, goesOn⟩ := again.orchestration _ middle
    exact ⟨last, lastAt, there, goes.trans goesOn⟩
  ended current here ended := again.ended current (once.ended current here ended) ended
  checkpoints stage row found finished :=
    again.checkpoints stage row (once.checkpoints stage row found finished) finished
  backup row found ended := again.backup row (once.backup row found ended) ended

end CandidateRecords

section Steps

variable {before after : CandidateRecords}

theorem StageDecision.next {stage : PreflightStage} (decision : StageDecision stage) :
    OrchestrationPhase.Next stage.before decision.successorPhase := by
  cases decision with
  | rejected semantic =>
    cases semantic
    exact .semanticBlocked
  | accepted evidence =>
    show OrchestrationPhase.Next stage.before
      (if evidence.syntaxValid = true then stage.after else .blocked)
    split
    · exact .stage stage
    next invalid =>
      -- Only a configuration has a syntax.
      cases evidence with
      | validation => exact .staticBlocked
      | _ => exact absurd rfl invalid

theorem BackupPhase.next {phase : BackupPhase}
    (ends : phase.during = .completed ∨ phase.during = .blocked) :
    OrchestrationPhase.Next .semanticallyValidated phase.during := by
  rcases ends with completed | blocked
  · exact completed ▸ .backupCompleted
  · exact blocked ▸ .backupBlocked

/-- A candidate that is not through is not blocked. -/
theorem OrchestrationPhase.onChain {phase : OrchestrationPhase} (goes : phase.ended = false) :
    phase ≠ .blocked := by
  rintro rfl
  cases goes

theorem PreflightStage.before_goes (stage : PreflightStage) : stage.before.ended = false := by
  cases stage <;> rfl

theorem PreflightStage.after_goes (stage : PreflightStage) : stage.after.ended = false := by
  cases stage <;> rfl

/-- A decision has nothing against the candidate, or blocks it. -/
theorem StageDecision.ends {stage : PreflightStage} (decision : StageDecision stage) :
    (∃ evidence, decision = .accepted evidence ∧ evidence.syntaxValid = true) ∨
      decision.successorPhase = .blocked := by
  cases decision with
  | rejected => exact .inr rfl
  | accepted evidence =>
    cases valid : evidence.syntaxValid with
    | true => exact .inl ⟨evidence, rfl, valid⟩
    | false => exact .inr (if_neg (by rw [valid]; nofun))

theorem BackupPhase.goes_of_during {phase : BackupPhase}
    (going : phase.during = .semanticallyValidated) : phase.terminal = false := by
  cases phase <;> first | rfl | cases going

/-- One transaction moves a candidate forward. -/
theorem RecordStep.advances (step : RecordStep before after) : before.Advances after := by
  cases step with
  | kept => exact .refl before
  | registered record absent detected =>
    refine ⟨fun _ wrong => ?_, fun _ wrong => ?_, fun _ _ found _ => found, fun _ found _ => found⟩
    · exact nomatch absent.symm.trans wrong
    · exact nomatch absent.symm.trans wrong
  | @planned stage current plan here starts absent bound isPlan =>
    refine ⟨fun current there => ⟨current.phase, current.updatedAt, there, .refl⟩,
      fun _ there _ => there, fun other row found finished => ?_, fun _ found _ => found⟩
    have apart : stage ≠ other := by
      rintro rfl
      exact nomatch absent.symm.trans found
    rw [CandidateRecords.withCheckpoint_apart _ _ apart]
    exact found
  | @finished stage current planned finished decision now here starts found isPlan finishes =>
    refine ⟨fun other there => ?_, fun other there ended => ?_, fun other row there done => ?_,
      fun _ there _ => there⟩
    · obtain rfl := Option.some.inj (here.symm.trans there)
      exact ⟨decision.successorPhase, now, rfl, .single (starts ▸ decision.next)⟩
    · obtain rfl := Option.some.inj (here.symm.trans there)
      rw [starts, stage.before_goes] at ended
      cases ended
    · have apart : stage ≠ other := by
        rintro rfl
        obtain rfl := Option.some.inj (found.symm.trans there)
        exact done isPlan
      exact (CandidateRecords.withCheckpoint_apart _ finished apart).trans there
  | backupPlanned current plan here starts absent isPlan =>
    refine ⟨fun current there => ⟨current.phase, current.updatedAt, there, .refl⟩,
      fun _ there _ => there, fun _ _ found _ => found, fun row found _ => ?_⟩
    exact nomatch absent.symm.trans found
  | backupMoved row phase found going goes =>
    refine ⟨fun current there => ⟨current.phase, current.updatedAt, there, .refl⟩,
      fun _ there _ => there, fun _ _ found _ => found, fun other there ended => ?_⟩
    obtain rfl := Option.some.inj (found.symm.trans there)
    rw [BackupPhase.goes_of_during going] at ended
    cases ended
  | backupFinished current row phase now here starts found going ends =>
    refine ⟨fun other there => ?_, fun other there ended => ?_, fun _ _ found _ => found,
      fun other there ended => ?_⟩
    · obtain rfl := Option.some.inj (here.symm.trans there)
      exact ⟨phase.during, now, rfl, .single (starts ▸ BackupPhase.next ends)⟩
    · obtain rfl := Option.some.inj (here.symm.trans there)
      rw [starts] at ended
      cases ended
    · obtain rfl := Option.some.inj (found.symm.trans there)
      rw [BackupPhase.goes_of_during going] at ended
      cases ended

theorem RecordSteps.advances (steps : RecordSteps before after) : before.Advances after := by
  induction steps with
  | refl => exact .refl before
  | tail _ step ih => exact ih.trans step.advances

end Steps

/-! ## The checkpoints of a phase -/

/-- A checkpoint that was completed with nothing against the candidate. -/
def CandidateCheckpoint.passed {stage : PreflightStage} (row : CandidateCheckpoint stage) : Bool :=
  row.evidence.any StageEvidence.syntaxValid

namespace CandidateRecords

variable (records : CandidateRecords)

/-- The checkpoint of a stage is completed. -/
def completed (stage : PreflightStage) : Bool :=
  (records.checkpoint stage).any CandidateCheckpoint.isCompleted

/-- The backup is completed. -/
def backedUp : Bool := records.backup.any fun row => row.phase.during = .completed

/-- The checkpoints of all stages up to a rank are completed, with nothing against the candidate. -/
def PassedUpTo (rank : Nat) : Prop :=
  ∀ stage : PreflightStage, stage.after.rank ≤ rank →
    ∃ row, records.checkpoint stage = some row ∧ row.passed = true

/-- The records of a candidate whose phase is on the chain. -/
structure UnderWay (current : CandidateOrchestration) : Prop where
  completed : ∀ stage, records.completed stage = true ↔ current.phase.shows stage = true
  passed : ∀ stage (row : CandidateCheckpoint stage), records.checkpoint stage = some row →
    row.isCompleted = true → row.passed = true
  planned : ∀ stage (row : CandidateCheckpoint stage), records.checkpoint stage = some row →
    row.isCompleted = false →
      row.phase = .planned ∧ row.orchestration = current ∧ current.phase = stage.before
  backup : ∀ row, records.backup = some row → row.phase.during = current.phase
  backedUp : records.backedUp = true ↔ current.phase = .completed

/-- The records of a blocked candidate: its configuration, its release or its backup was refused. -/
inductive BlockedIn : Prop where
  | static (row : CandidateCheckpoint .static) (found : records.checkpoint .static = some row)
    (completed : row.isCompleted = true) (invalid : row.passed = false)
    (passed : records.PassedUpTo OrchestrationPhase.riskClassified.rank)
    (unvalidated : records.checkpoint .semantic = none) (unsaved : records.backup = none)
  | semantic (row : CandidateCheckpoint .semantic) (found : records.checkpoint .semantic = some row)
    (blockedAt : Int) (rejected : row.phase = .blocked rfl blockedAt)
    (passed : records.PassedUpTo OrchestrationPhase.staticValidated.rank)
    (unsaved : records.backup = none)
  | backup (row : CandidateBackupCheckpoint) (found : records.backup = some row)
    (blocked : row.phase.during = .blocked)
    (passed : records.PassedUpTo OrchestrationPhase.semanticallyValidated.rank)

/-- The records of a candidate fit its phase. -/
inductive Fits : Prop where
  | absent (absent : records = fresh)
  | underWay (current : CandidateOrchestration) (here : records.orchestration = some current)
    (goes : current.phase ≠ .blocked) (stands : records.UnderWay current)
  | blocked (current : CandidateOrchestration) (here : records.orchestration = some current)
    (blocked : current.phase = .blocked) (blockedIn : records.BlockedIn)

end CandidateRecords

section Fits

variable {records before after : CandidateRecords} {current : CandidateOrchestration}

/-- A stage is one step. -/
theorem PreflightStage.after_rank (stage : PreflightStage) :
    stage.after.rank = stage.before.rank + 1 := by cases stage <;> rfl

/-- A candidate that is where a stage starts does not show it. -/
theorem OrchestrationPhase.not_shows {stage : PreflightStage} {phase : OrchestrationPhase}
    (starts : phase = stage.before) : phase.shows stage = false := by
  have next := stage.after_rank
  refine decide_eq_false ?_
  rw [starts]
  omega

theorem CandidateRecords.completed_iff {stage : PreflightStage} :
    records.completed stage = true ↔
      ∃ row, records.checkpoint stage = some row ∧ row.isCompleted = true := Option.any_eq_true _ _

theorem CandidateRecords.backedUp_iff :
    records.backedUp = true ↔ ∃ row, records.backup = some row ∧ row.phase.during = .completed := by
  unfold CandidateRecords.backedUp
  simp only [Option.any_eq_true, decide_eq_true_eq]

theorem CandidateCheckpoint.completed_of_passed {stage : PreflightStage}
    {row : CandidateCheckpoint stage} (passed : row.passed = true) : row.isCompleted = true := by
  unfold CandidateCheckpoint.passed CandidateCheckpoint.evidence at passed
  unfold CandidateCheckpoint.isCompleted
  split at passed
  next => rfl
  next => cases passed

/-- What the phase shows is passed. -/
theorem CandidateRecords.UnderWay.passedUpTo (stands : records.UnderWay current) :
    records.PassedUpTo current.phase.rank := by
  intro stage shown
  have completed := (stands.completed stage).mpr (decide_eq_true shown)
  obtain ⟨row, found, isCompleted⟩ := CandidateRecords.completed_iff.mp completed
  exact ⟨row, found, stands.passed stage row found isCompleted⟩

/-- A stage that the candidate has not come to has no row. -/
theorem CandidateRecords.UnderWay.absent (stands : records.UnderWay current) {stage : PreflightStage}
    (ahead : current.phase.rank < stage.before.rank) : records.checkpoint stage = none := by
  cases found : records.checkpoint stage with
  | none => rfl
  | some row =>
    exfalso
    cases isCompleted : row.isCompleted with
    | false =>
      have there := (stands.planned stage row found isCompleted).2.2
      rw [there] at ahead
      exact Nat.lt_irrefl _ ahead
    | true =>
      have shown := (stands.completed stage).mp
        (CandidateRecords.completed_iff.mpr ⟨row, found, isCompleted⟩)
      have shown := of_decide_eq_true shown
      have next := stage.after_rank
      omega

theorem BackupPhase.during_rank (phase : BackupPhase) :
    OrchestrationPhase.semanticallyValidated.rank ≤ phase.during.rank := by
  cases phase <;> simp [BackupPhase.during, OrchestrationPhase.rank]

/-- Before the backup there is no backup. -/
theorem CandidateRecords.UnderWay.unsaved (stands : records.UnderWay current)
    (ahead : current.phase.rank < OrchestrationPhase.semanticallyValidated.rank) :
    records.backup = none := by
  cases found : records.backup with
  | none => rfl
  | some row =>
    exfalso
    rw [← stands.backup row found] at ahead
    exact Nat.not_lt.mpr row.phase.during_rank ahead

/-- A candidate that is not through is on the chain. -/
theorem CandidateRecords.Fits.goes (fits : records.Fits)
    (here : records.orchestration = some current) (goes : current.phase.ended = false) :
    records.UnderWay current := by
  cases fits with
  | absent absent =>
    rw [absent] at here
    cases here
  | underWay other there goes stands =>
    obtain rfl := Option.some.inj (there.symm.trans here)
    exact stands
  | blocked other there blocked =>
    obtain rfl := Option.some.inj (there.symm.trans here)
    rw [blocked] at goes
    cases goes

/-- A candidate that is registered has nothing else recorded. -/
theorem CandidateRecords.Fits.registered (fits : records.Fits) (absent : records.orchestration = none)
    (record : CandidateOrchestration) (detected : record.phase = .detected) :
    ({ records with orchestration := some record } : CandidateRecords).Fits := by
  cases fits with
  | underWay current here => exact nomatch absent.symm.trans here
  | blocked current here => exact nomatch absent.symm.trans here
  | absent absent =>
    subst absent
    refine .underWay record rfl (detected ▸ nofun) ?_
    exact {
      completed := fun stage => by
        have behind : record.phase.shows stage = false := by
          rw [detected]
          cases stage <;> rfl
        rw [behind]
        rfl
      passed := fun _ _ wrong => by cases wrong
      planned := fun _ _ wrong => by cases wrong
      backup := fun _ wrong => by cases wrong
      backedUp := by
        rw [detected]
        exact ⟨nofun, nofun⟩ }

/-- A plan of the stage that a candidate is at. -/
theorem CandidateRecords.UnderWay.plan (stands : records.UnderWay current) {stage : PreflightStage}
    {plan : CandidateCheckpoint stage} (starts : current.phase = stage.before)
    (bound : plan.orchestration = current) (isPlan : plan.phase = .planned) :
    (records.withCheckpoint plan).UnderWay current := by
  have incomplete : plan.isCompleted = false := by
    unfold CandidateCheckpoint.isCompleted
    rw [isPlan]
  refine ⟨fun other => ?_, fun other row found => ?_, fun other row found => ?_, stands.backup,
    stands.backedUp⟩
  · by_cases same : stage = other
    · subst same
      rw [CandidateRecords.completed_iff, CandidateRecords.withCheckpoint_here]
      rw [OrchestrationPhase.not_shows starts]
      refine ⟨fun ⟨row, here, completed⟩ => ?_, nofun⟩
      obtain rfl := Option.some.inj here
      exact nomatch incomplete.symm.trans completed
    · unfold CandidateRecords.completed
      rw [CandidateRecords.withCheckpoint_apart _ _ same]
      exact stands.completed other
  · by_cases same : stage = other
    · subst same
      obtain rfl := Option.some.inj ((CandidateRecords.withCheckpoint_here _ _).symm.trans found)
      exact fun wrong => nomatch incomplete.symm.trans wrong
    · exact stands.passed other row
        ((CandidateRecords.withCheckpoint_apart _ _ same).symm.trans found)
  · by_cases same : stage = other
    · subst same
      obtain rfl := Option.some.inj ((CandidateRecords.withCheckpoint_here _ _).symm.trans found)
      exact fun _ => ⟨isPlan, bound, starts⟩
    · exact stands.planned other row
        ((CandidateRecords.withCheckpoint_apart _ _ same).symm.trans found)

theorem PreflightStage.eq_of_rank {stage other : PreflightStage}
    (same : stage.before.rank = other.before.rank) : stage = other := by
  cases stage <;> cases other <;> first | rfl | cases same

/-- Every stage comes before the backup. -/
theorem PreflightStage.before_saved (stage : PreflightStage) :
    stage.before.rank < OrchestrationPhase.semanticallyValidated.rank := by cases stage <;> decide

/-- What was passed before a stage is passed whatever the stage leaves. -/
theorem CandidateRecords.PassedUpTo.finish {stage : PreflightStage}
    (passed : records.PassedUpTo stage.before.rank) (finished : CandidateCheckpoint stage)
    (orchestration : Option CandidateOrchestration) :
    ({ records.withCheckpoint finished with orchestration := orchestration } :
      CandidateRecords).PassedUpTo stage.before.rank := by
  intro other shown
  have apart : stage ≠ other := by
    rintro rfl
    have next := stage.after_rank
    omega
  obtain ⟨row, found, done⟩ := passed other shown
  exact ⟨row, (CandidateRecords.withCheckpoint_apart _ _ apart).trans found, done⟩

/-- A stage with nothing against the candidate takes it to the next phase. -/
theorem CandidateRecords.UnderWay.accept (stands : records.UnderWay current) {stage : PreflightStage}
    {finished : CandidateCheckpoint stage} {now : Int} (starts : current.phase = stage.before)
    (passed : finished.passed = true) :
    ({ records.withCheckpoint finished with
      orchestration := some { current with phase := stage.after, updatedAt := now } } :
      CandidateRecords).UnderWay { current with phase := stage.after, updatedAt := now } := by
  have next := stage.after_rank
  have isCompleted := CandidateCheckpoint.completed_of_passed passed
  have here := CandidateRecords.withCheckpoint_here records finished
  have unsaved : records.backup = none := stands.unsaved (starts ▸ stage.before_saved)
  refine ⟨fun other => ?_, fun other row found => ?_, fun other row found => ?_, ?_, ?_⟩
  · by_cases same : stage = other
    · subst same
      refine ⟨fun _ => decide_eq_true (Nat.le_refl _), fun _ => ?_⟩
      exact CandidateRecords.completed_iff.mpr ⟨finished, here, isCompleted⟩
    · show Option.any _ ((records.withCheckpoint finished).checkpoint other) = true ↔ _
      rw [CandidateRecords.withCheckpoint_apart _ _ same]
      refine (stands.completed other).trans ?_
      have apart : stage.before.rank ≠ other.before.rank := mt PreflightStage.eq_of_rank same
      have otherNext := other.after_rank
      unfold OrchestrationPhase.shows
      rw [starts, decide_eq_true_eq, decide_eq_true_eq]
      show other.after.rank ≤ stage.before.rank ↔ other.after.rank ≤ stage.after.rank
      omega
  · by_cases same : stage = other
    · subst same
      obtain rfl := Option.some.inj (here.symm.trans found)
      exact fun _ => passed
    · exact stands.passed other row
        ((CandidateRecords.withCheckpoint_apart _ _ same).symm.trans found)
  · by_cases same : stage = other
    · subst same
      obtain rfl := Option.some.inj (here.symm.trans found)
      exact fun wrong => nomatch isCompleted.symm.trans wrong
    · intro incomplete
      have there := (stands.planned other row
        ((CandidateRecords.withCheckpoint_apart _ _ same).symm.trans found) incomplete).2.2
      have same_rank := congrArg OrchestrationPhase.rank (starts.symm.trans there)
      exact absurd (PreflightStage.eq_of_rank same_rank) same
  · intro row found
    exact nomatch unsaved.symm.trans found
  · rw [CandidateRecords.backedUp_iff]
    refine ⟨fun ⟨row, found, _⟩ => (nomatch unsaved.symm.trans found), fun wrong => ?_⟩
    cases stage <;> cases wrong

/-- A stage that a candidate fails in. -/
theorem CandidateRecords.UnderWay.refuse (stands : records.UnderWay current) {stage : PreflightStage}
    {decision : StageDecision stage} {finished : CandidateCheckpoint stage} {now : Int}
    (starts : current.phase = stage.before) (finishes : finished.phase = decision.checkpointPhase now)
    (refused : decision.successorPhase = .blocked) (orchestration : Option CandidateOrchestration) :
    ({ records.withCheckpoint finished with orchestration := orchestration } :
      CandidateRecords).BlockedIn := by
  have here := CandidateRecords.withCheckpoint_here records finished
  have unsaved : records.backup = none := stands.unsaved (starts ▸ stage.before_saved)
  have passed : records.PassedUpTo stage.before.rank := starts ▸ stands.passedUpTo
  have passed := passed.finish finished orchestration
  cases decision with
  | rejected semantic =>
    cases semantic
    exact .semantic finished here now finishes passed unsaved
  | accepted evidence =>
    have invalid : evidence.syntaxValid = false := by
      cases valid : evidence.syntaxValid with
      | false => rfl
      | true =>
        replace refused : (if evidence.syntaxValid then stage.after else .blocked) = .blocked := refused
        rw [if_pos valid] at refused
        cases stage <;> cases refused
    cases evidence with
    | validation =>
      refine .static finished here ?_ ?_ passed ?_ unsaved
      · unfold CandidateCheckpoint.isCompleted
        rw [finishes]
        rfl
      · unfold CandidateCheckpoint.passed CandidateCheckpoint.evidence
        rw [finishes]
        exact invalid
      · have apart : PreflightStage.static ≠ .semantic := nofun
        have ahead : current.phase.rank < PreflightStage.semantic.before.rank := by
          rw [starts]
          decide
        exact (CandidateRecords.withCheckpoint_apart records finished apart).trans
          (stands.absent ahead)
    | _ => cases invalid

/-- A backup of a candidate that is at its backup. -/
theorem CandidateRecords.UnderWay.save (stands : records.UnderWay current)
    (starts : current.phase = .semanticallyValidated) {row : CandidateBackupCheckpoint}
    (going : row.phase.during = .semanticallyValidated) :
    ({ records with backup := some row } : CandidateRecords).UnderWay current where
  completed := stands.completed
  passed := stands.passed
  planned := stands.planned
  backup := by
    intro other found
    obtain rfl := Option.some.inj found
    exact going.trans starts.symm
  backedUp := by
    rw [CandidateRecords.backedUp_iff, starts]
    refine ⟨fun ⟨other, found, completed⟩ => ?_, nofun⟩
    obtain rfl := Option.some.inj found
    exact nomatch going.symm.trans completed

/-- A backup that is completed. -/
theorem CandidateRecords.UnderWay.saved (stands : records.UnderWay current) {now : Int}
    (starts : current.phase = .semanticallyValidated) {row : CandidateBackupCheckpoint}
    (completed : row.phase.during = .completed) :
    ({ records with
      orchestration := some { current with phase := .completed, updatedAt := now }
      backup := some row } : CandidateRecords).UnderWay
        { current with phase := .completed, updatedAt := now } where
  completed := fun stage => by
    refine (stands.completed stage).trans ?_
    rw [starts]
    cases stage <;> exact Iff.rfl
  passed := stands.passed
  planned := fun stage other found incomplete => by
    have there := (stands.planned stage other found incomplete).2.2
    rw [starts] at there
    cases stage <;> cases there
  backup := by
    intro other found
    obtain rfl := Option.some.inj found
    exact completed
  backedUp := by
    rw [CandidateRecords.backedUp_iff]
    exact ⟨fun _ => rfl, fun _ => ⟨row, rfl, completed⟩⟩

/-- A backup that goes on is one of a candidate at its backup. -/
theorem CandidateRecords.Fits.backup (fits : records.Fits) {row : CandidateBackupCheckpoint}
    (found : records.backup = some row) (going : row.phase.during = .semanticallyValidated) :
    ∃ current, records.orchestration = some current ∧ current.phase = .semanticallyValidated ∧
      records.UnderWay current := by
  cases fits with
  | absent absent =>
    rw [absent] at found
    cases found
  | underWay current here goes stands =>
    exact ⟨current, here, (stands.backup row found).symm.trans going, stands⟩
  | blocked current here blocked blockedIn =>
    exfalso
    cases blockedIn with
    | static _ _ _ _ _ _ unsaved => exact nomatch unsaved.symm.trans found
    | semantic _ _ _ _ _ unsaved => exact nomatch unsaved.symm.trans found
    | backup other there blocked =>
      obtain rfl := Option.some.inj (there.symm.trans found)
      exact nomatch going.symm.trans blocked

/-- **One transaction leaves records that fit.** -/
theorem RecordStep.fits (step : RecordStep before after) (fits : before.Fits) : after.Fits := by
  cases step with
  | kept => exact fits
  | registered record absent detected => exact fits.registered absent record detected
  | planned current plan here starts absent bound isPlan =>
    have goes := starts ▸ PreflightStage.before_goes _
    exact .underWay current here (OrchestrationPhase.onChain goes)
      ((fits.goes here goes).plan starts bound isPlan)
  | @finished stage current planned finished decision now here starts found isPlan finishes =>
    have stands := fits.goes here (starts ▸ stage.before_goes)
    rcases decision.ends with ⟨evidence, rfl, valid⟩ | refused
    · have goes : (StageDecision.accepted evidence).successorPhase = stage.after := if_pos valid
      have passed : finished.passed = true := by
        unfold CandidateCheckpoint.passed CandidateCheckpoint.evidence
        rw [finishes]
        exact valid
      rw [goes]
      exact .underWay _ rfl (OrchestrationPhase.onChain stage.after_goes)
        (stands.accept starts passed)
    · rw [refused]
      exact .blocked _ rfl rfl (stands.refuse starts finishes refused _)
  | backupPlanned current plan here starts absent isPlan =>
    have goes : current.phase.ended = false := by rw [starts]; rfl
    exact .underWay current here (OrchestrationPhase.onChain goes)
      ((fits.goes here goes).save starts (congrArg BackupPhase.during isPlan))
  | backupMoved row phase found going goes =>
    obtain ⟨current, here, starts, stands⟩ := fits.backup found going
    have under : current.phase.ended = false := by rw [starts]; rfl
    exact .underWay current here (OrchestrationPhase.onChain under) (stands.save starts goes)
  | backupFinished current row phase now here starts found going ends =>
    obtain ⟨other, there, _, stands⟩ := fits.backup found going
    obtain rfl := Option.some.inj (here.symm.trans there)
    rcases ends with completed | blocked
    · rw [completed]
      exact .underWay _ rfl nofun (stands.saved starts completed)
    · rw [blocked]
      exact .blocked _ rfl rfl (.backup _ rfl blocked (starts ▸ stands.passedUpTo :))

end Fits

/-! ## Runs -/

section Runs

variable {rules : PreflightRules} {naming : DeploymentNaming}

theorem RecordSteps.fits {before after : CandidateRecords} (steps : RecordSteps before after)
    (fits : before.Fits) : after.Fits := by
  induction steps with
  | refl => exact fits
  | tail _ step ih => exact step.fits ih

/-- **A candidate only moves forward, and its checkpoints are those of its phase.** -/
theorem orchestration_moves_forward (candidateSha : ShortDigest) {start : System}
    {here there : Prog.Point System Unit}
    (unrecorded : start.store.records candidateSha = CandidateRecords.fresh)
    (first : Prog.Reach (PreflightOthers rules naming) (PreflightPass rules naming) (.rest start) here)
    (later : Prog.Reach (PreflightOthers rules naming) (PreflightPass rules naming) here there) :
    (here.state.store.records candidateSha).Fits ∧
      (here.state.store.records candidateSha).Advances (there.state.store.records candidateSha) := by
  constructor
  · have steps := reach_records .refl first candidateSha
    exact steps.fits (.absent unrecorded)
  · exact (reach_records first later candidateSha).advances

end Runs

/-! ## A candidate that is blocked -/

def detectedSha : ShortDigest := ⟨"dddddddddddddddddddddddddddddddddddddddd", by decide⟩

def detectedTarget : PyStr := text "home/config"

def detectedSemantic : CandidateSemanticValidation :=
  ⟨detectedTarget, 1, firstCommit,
    sha256Empty [], sha256Empty [], .low, "2026.1.0"⟩

/-- Rows with one digest. -/
def detectedRules : PreflightRules :=
  ⟨fun _ _ => sha256Empty [], fun _ _ => true, fun _ => some (sha256Empty [], "2026.1.0")⟩

/-- `uuid5(NAMESPACE_URL, …)` of the candidate. -/
def detectedNaming : DeploymentNaming :=
  ⟨fun _ => "dc5ac093-07a7-587d-a03d-b0b9b81ecbb3", fun _ => by decide⟩

/-- A home with nothing recorded, whose Supervisor does not answer. -/
def detectedHome : System :=
  { setUp detectedTarget (sha256Empty []) with
    backup := ⟨fun _ => some ⟨detectedSemantic, ⟨sha256Empty [], sha256Empty [], sha256Empty [],
      sha256Empty [], sha256Empty [], sha256Empty []⟩⟩, fun _ => true, fun _ => .exception⟩ }

/-- Nothing is against the candidate, but its configuration may be. -/
def detectedAnswers (syntaxValid : Bool) : PreflightAnswers where
  workspaceId := "workspace"
  stages
    | .fetchStage => ⟨true, true, .ok (.accepted (.stage (sha256Empty []) 0 0))⟩
    | .integrity => ⟨true, true, .ok (.accepted (.changes detectedSemantic.baselineSha "[]" 0))⟩
    | .dependency => ⟨true, true, .ok (.accepted (.dependencies "\x7b\x7d" "[]" 0))⟩
    | .risk => ⟨true, true, .ok (.accepted (.risk "[]" "\x7b\x7d" .low 0))⟩
    | .static => ⟨true, true, .ok (.accepted (.validation "\x7b\x7d" syntaxValid 0 0))⟩
    | .semantic => ⟨true, true, .ok (.accepted (.semantic detectedSemantic))⟩

/-- The routine process, and the lane of the backup. -/
inductive DetectedPass where
  | detect
  | process (syntaxValid : Bool)
  | backup (now : Int)

def DetectedPass.program : DetectedPass → Prog System Unit
  | detect => (enqueueCandidate detectedSha.key 0).call
  | process syntaxValid => (runCandidatePreflightProcess detectedRules (some 0)
      (detectedAnswers syntaxValid) detectedTarget).call
  | backup now => (runCandidateBackupRetriggerPass (fun _ => none) detectedNaming.uuid5
      ⟨some "token", fun _ => none⟩ (some now)).call

theorem DetectedPass.known (pass : DetectedPass) :
    PreflightPass detectedRules detectedNaming pass.program := by
  cases pass with
  | detect => exact .detect _ _
  | process => exact .process _ _ _
  | backup => exact .backup _ _ _

/-- The home after passes, each of which has the time it needs. -/
def afterPasses (passes : List DetectedPass) (s : System) : System :=
  passes.foldl (fun s pass => (pass.program.advance 60 s).2) s

theorem afterPasses_reached (passes : List DetectedPass) (s : System) :
    Prog.Reach (PreflightOthers detectedRules detectedNaming)
      (PreflightPass detectedRules detectedNaming) (.rest s) (.rest (afterPasses passes s)) := by
  induction passes generalizing s with
  | nil => exact .refl
  | cons pass passes ih =>
    have once : Prog.Reach (PreflightOthers detectedRules detectedNaming)
        (PreflightPass detectedRules detectedNaming) (.call pass.program s) _ :=
      .advance 60 pass.program s
    exact (Relation.ReflTransGen.head (.start pass.known s) (once.tail (.crash _ _))).trans (ih _)

/-- The points that runs lead to. -/
abbrev DetectedReach (s t : System) : Prop :=
  Prog.Reach (PreflightOthers detectedRules detectedNaming)
    (PreflightPass detectedRules detectedNaming) (.rest s) (.rest t)

/-- A candidate that was analyzed. -/
def analyzedHome : System :=
  afterPasses [.detect, .process false, .process false, .process false] detectedHome

/-- Its configuration is refused. -/
def refusedHome : System := afterPasses [.process false, .process false] analyzedHome

/-- Its backup fails. -/
def unsavedHome : System :=
  afterPasses [.process true, .process true, .process true, .backup 1, .backup 200] analyzedHome

theorem analyzedHome_reached : DetectedReach detectedHome analyzedHome :=
  afterPasses_reached [.detect, .process false, .process false, .process false] detectedHome

theorem refusedHome_reached : DetectedReach analyzedHome refusedHome :=
  afterPasses_reached [.process false, .process false] analyzedHome

theorem unsavedHome_reached : DetectedReach analyzedHome unsavedHome :=
  afterPasses_reached [.process true, .process true, .process true, .backup 1, .backup 200]
    analyzedHome

theorem refusedHome_blocked : (refusedHome.store.records detectedSha).orchestration =
      some ⟨detectedSha, detectedTarget, 1, .blocked, 0, 0⟩ ∧
    (refusedHome.store.records detectedSha).completed .semantic = false := by decide +kernel

theorem unsavedHome_blocked : (unsavedHome.store.records detectedSha).orchestration =
      some ⟨detectedSha, detectedTarget, 1, .blocked, 0, 200⟩ ∧
    (unsavedHome.store.records detectedSha).completed .semantic = true := by decide +kernel

theorem analyzed_moves_forward :
    (analyzedHome.store.records detectedSha).Fits ∧
      (analyzedHome.store.records detectedSha).Advances
        (refusedHome.store.records detectedSha) := by
  -- For any homes on the way: these two would be run.
  suffices moves : ∀ s t, DetectedReach detectedHome s → DetectedReach s t →
      (s.store.records detectedSha).Fits ∧
        (s.store.records detectedSha).Advances (t.store.records detectedSha) from
    moves _ _ analyzedHome_reached refusedHome_reached
  intro s t first later
  exact orchestration_moves_forward detectedSha rfl first later

/-- A phase does not tell which stages are completed, whatever is read as past a stage. -/
theorem phase_hides_stages :
    ¬∃ past : OrchestrationPhase → PreflightStage → Prop, ∀ there,
      Prog.Reach (PreflightOthers detectedRules detectedNaming)
        (PreflightPass detectedRules detectedNaming) (.rest detectedHome) there →
      ∀ current, (there.state.store.records detectedSha).orchestration = some current →
        ∀ stage, (there.state.store.records detectedSha).completed stage = true ↔
          past current.phase stage := by
  rintro ⟨past, tells⟩
  have told : ∀ s, DetectedReach detectedHome s → ∀ current,
      (s.store.records detectedSha).orchestration = some current →
      ((s.store.records detectedSha).completed .semantic = true ↔ past current.phase .semantic) :=
    fun s reached current here => tells (.rest s) reached current here .semantic
  have unsaved := told _ (analyzedHome_reached.trans unsavedHome_reached) _ unsavedHome_blocked.1
  have refused := told _ (analyzedHome_reached.trans refusedHome_reached) _ refusedHome_blocked.1
  have completed := refused.mpr (unsaved.mp unsavedHome_blocked.2)
  exact nomatch refusedHome_blocked.2.symm.trans completed

end SyncApp
