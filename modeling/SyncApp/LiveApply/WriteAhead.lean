import SyncApp.LiveApply.Controller
import SyncApp.LiveApply.Entries

/-!
# The journal is written ahead

Over every run of `advanceLiveApplyOnce` calls, with any call stopping after any action and anything
but the journal changing between actions: the rows of a deployment count up and all but the last
are verified; a mutation is entered only while its row is started and its guard is recorded, and
once at most; a row that is verified or blocked stays as it is (`advance_once_journaled`).

A function that writes no entry is `Reads`; each of the others has a lemma that says which entry it
makes and what the journal then shows, and `advance_keeps` assembles them.
-/

set_option autoImplicit false

namespace SyncApp

open Lib Raising App LiveApplyJournal

/-! ## Programs and their entries -/

/-- Others change anything but the journal: the live tree, the stages, other tables, the clock. -/
def Disturbs (world world' : World) : Prop := world'.journal = world.journal

/-- An action makes one entry. -/
def Writes (world world' : World) : Prop := Entry world.journal world'.journal

section Keeps

variable {α β : Type} {hashing : Hashing}

/-- A program makes one entry with each of its actions and ends in the postcondition. -/
abbrev Keeps (p : App α) (post : Except PyError α → World → Prop) (world : World) : Prop :=
  Ensures Disturbs Writes p post world

/-- A program leaves the journal as it finds it. -/
def Reads (p : App α) : Prop :=
  ∀ world, Keeps p (fun _ world' => world'.journal = world.journal) world

theorem Writes.of_same {world world' : World} (same : world'.journal = world.journal) :
    Writes world world' := by
  unfold Writes
  rw [same]
  exact .same _

theorem Reads.pure (a : α) : Reads (pure a) := fun _ => rfl

theorem Reads.throw (error : PyError) : Reads (throw error : App α) := fun _ => rfl

theorem Reads.ofResult (result : Except PyError α) : Reads (ofResult result) := fun _ => rfl

theorem Reads.require (condition : Prop) [Decidable condition] (error : PyError) :
    Reads (require condition error) := by
  unfold SyncApp.require
  split
  · exact .pure ()
  · exact .throw error

theorem Reads.onHost (program : Sys α) : Reads (onHost program) := by
  intro world
  have apart : ∀ world host, (World.setHost world host).journal = world.journal := fun _ _ => rfl
  exact Ensures.within apart (fun _ _ same => same) (fun _ _ same => Writes.of_same same)
    program world

theorem Reads.query (refused : String) (read : Database → Except PyError α) :
    Reads (query refused read) := by
  intro world
  refine Ensures.action fun world' disturbed => ?_
  split
  · exact ⟨Writes.of_same rfl, disturbed⟩
  · exact ⟨Writes.of_same rfl, disturbed⟩

theorem Reads.bind {p : App α} {k : α → App β} (first : Reads p) (rest : ∀ a, Reads (k a)) :
    Reads (p >>= k) := by
  intro world
  refine Ensures.bind ((first world).mono fun result world' same => ?_)
  cases result with
  | error error => exact same
  | ok a => exact ((rest a) world').mono fun _ _ same' => same'.trans same

theorem Reads.tryCatch {p : App α} {h : PyError → App α} (first : Reads p)
    (handled : ∀ error, Reads (h error)) : Reads (tryCatch p h) := by
  intro world
  refine Ensures.tryCatch ((first world).mono fun result world' same => ?_)
  cases result with
  | ok a => exact same
  | error error => exact ((handled error) world').mono fun _ _ same' => same'.trans same

theorem Reads.orRaise {p : App α} (first : Reads p) (raised : PyError) :
    Reads (orRaise p raised) := first.tryCatch fun _ => .throw raised

/-- What a program that reads returns may be used together with the journal it leaves. -/
theorem Reads.then {p : App α} {k : α → App β} {post : Except PyError β → World → Prop}
    {world : World} (first : Reads p)
    (rest : ∀ a world', world'.journal = world.journal → Keeps (k a) post world')
    (raised : ∀ error world', world'.journal = world.journal → post (.error error) world') :
    Keeps (p >>= k) post world := by
  refine Ensures.bind ((first world).mono fun result world' same => ?_)
  cases result with
  | error error => exact raised error world' same
  | ok a => exact rest a world' same

end Keeps

/-! ## The functions that write -/

section Functions

variable {α : Type} {hashing : Hashing} {world : World}

theorem keeps_transaction {refused : String} {change : Database → Except PyError (α × Database)}
    {post : Except PyError α → World → Prop}
    (commits : ∀ world' : World, world'.journal = world.journal → ∀ a db,
      change world'.db = .ok (a, db) →
        Entry world'.journal { world' with db := db }.journal ∧
          post (.ok a) { world' with db := db })
    (raised : ∀ error world', world'.journal = world.journal → post (.error error) world') :
    Keeps (transaction refused change) post world := by
  refine Ensures.action fun world' disturbed => ?_
  cases world'.host.fault with
  | some errno => exact ⟨Writes.of_same rfl, raised _ world' disturbed⟩
  | none =>
    cases changed : change world'.db with
    | error error => exact ⟨Writes.of_same rfl, raised error world' disturbed⟩
    | ok result => exact commits world' disturbed result.1 result.2 changed

theorem keeps_query {refused : String} {read : Database → Except PyError α}
    {post : Except PyError α → World → Prop}
    (answers : ∀ world' : World, world'.journal = world.journal → ∀ a, read world'.db = .ok a →
      post (.ok a) world')
    (raised : ∀ error world', world'.journal = world.journal → post (.error error) world') :
    Keeps (query refused read) post world := by
  refine Ensures.action fun world' disturbed => ?_
  cases world'.host.fault with
  | some errno => exact ⟨Writes.of_same rfl, raised _ world' disturbed⟩
  | none =>
    refine ⟨Writes.of_same rfl, ?_⟩
    cases answered : read world'.db with
    | error error => exact raised error world' disturbed
    | ok a => exact answers world' disturbed a answered

theorem require_then {condition : Prop} [Decidable condition] {error : PyError}
    {k : Unit → App α} {post : Except PyError α → World → Prop}
    (holds : condition → Keeps (k ()) post world) (fails : post (.error error) world) :
    Keeps (require condition error >>= k) post world := by
  refine Ensures.bind ?_
  unfold SyncApp.require
  split
  next held => exact holds held
  next => exact fails

/-- What recording progress leaves: an operation asked to start is started. -/
def Recorded (progress : LiveApplyProgress) (before : World) (result : Except PyError α)
    (after : World) : Prop :=
  after.entered = before.entered ∧ ∀ a, result = .ok a → progress.phase = .mutationStarted →
    after.journal.Started progress.deploymentId progress.operationIndex

theorem entered_eq {world world' : World} (same : world'.journal = world.journal) :
    world'.entered = world.entered := congrArg Journal.entered same

theorem recordLiveApplyProgress_keeps (progress : LiveApplyProgress) (plan : LiveApplyPlan)
    (world : World) :
    Keeps (recordLiveApplyProgress hashing progress plan) (Recorded progress world) world := by
  refine (Reads.query _ _).then (fun _ one same => ?_)
    fun error one same => ⟨entered_eq same, fun _ wrong => by cases wrong⟩
  refine (Reads.onHost _).then (fun when two same' => ?_)
    fun error two same' => ⟨entered_eq (same'.trans same), fun _ wrong => by cases wrong⟩
  have here := same'.trans same
  refine Ensures.bind (keeps_transaction (fun three same'' recorded db done => ?_)
    fun error three same'' => ⟨entered_eq (same''.trans here), fun _ wrong => by cases wrong⟩)
  obtain ⟨entry, starts⟩ := progressTransaction_entry done three.entered
  refine ⟨entry, ?_⟩
  have kept : three.entered = world.entered := entered_eq (same''.trans here)
  by_cases added : recorded.2 = true
  · simp only [if_pos added]
    refine (Reads.query _ _).then (fun loaded four same₄ => ?_)
      fun error four same₄ => ⟨(entered_eq same₄).trans kept, fun _ wrong => by cases wrong⟩
    refine (Reads.require _ _).then (fun _ five same₅ => ?_)
      fun error five same₅ => ⟨(entered_eq (same₅.trans same₄)).trans kept,
        fun _ wrong => by cases wrong⟩
    refine ⟨(entered_eq (same₅.trans same₄)).trans kept, fun _ _ started => ?_⟩
    rw [same₅.trans same₄]
    exact starts started
  · simp only [if_neg added]
    exact ⟨kept, fun _ _ started => starts started⟩

theorem recordLiveApplyMutationGuard_keeps (progress : LiveApplyProgress) (plan : LiveApplyPlan)
    (rootIdentity : Nat) (parentIdentities : List Nat) (world : World) :
    Keeps (recordLiveApplyMutationGuard hashing progress plan rootIdentity parentIdentities)
      (fun result after => after.entered = world.entered ∧ ∀ a, result = .ok a →
        after.db.progress = world.db.progress ∧
          after.journal.Guarded progress.deploymentId progress.operationIndex) world := by
  refine (Reads.query _ _).then (fun _ one same => ?_)
    fun error one same => ⟨entered_eq same, fun _ wrong => by cases wrong⟩
  refine (Reads.onHost _).then (fun when two same' => ?_)
    fun error two same' => ⟨entered_eq (same'.trans same), fun _ wrong => by cases wrong⟩
  have here := same'.trans same
  refine Ensures.bind (keeps_transaction (fun three same'' added db done => ?_)
    fun error three same'' => ⟨entered_eq (same''.trans here), fun _ wrong => by cases wrong⟩)
  obtain ⟨entry, progress_eq, guarded⟩ := guardTransaction_entry done three.entered
  refine ⟨entry, ?_⟩
  have kept : three.entered = world.entered := entered_eq (same''.trans here)
  have rows : db.progress = world.db.progress :=
    progress_eq.trans (congrArg Journal.progress (same''.trans here))
  cases added with
  | true =>
    refine (Reads.query _ _).then (fun loaded four same₄ => ?_)
      fun error four same₄ => ⟨(entered_eq same₄).trans kept, fun _ wrong => by cases wrong⟩
    refine (Reads.require _ _).then (fun _ five same₅ => ?_)
      fun error five same₅ => ⟨(entered_eq (same₅.trans same₄)).trans kept,
        fun _ wrong => by cases wrong⟩
    have last := same₅.trans same₄
    refine ⟨(entered_eq last).trans kept, fun _ _ =>
      ⟨(congrArg Journal.progress last).trans rows, ?_⟩⟩
    rw [last]
    exact guarded
  | false => exact ⟨kept, fun _ _ => ⟨rows, guarded⟩⟩

theorem recordLiveApplyReconciliation_reads (progress : LiveApplyProgress) (plan : LiveApplyPlan)
    (outcome : ReconciliationOutcome) :
    Reads (recordLiveApplyReconciliation hashing progress plan outcome) := by
  refine .bind (.query _ _) fun _ => .bind (.onHost _) fun when world => ?_
  refine keeps_transaction (fun world' same record db done => ?_) fun _ _ same => same
  have untouched : db.progress = world'.db.progress ∧ db.guards = world'.db.guards := by
    unfold reconciliationTransaction at done
    split at done
    next =>
      split at done
      next => cases done
      next => cases done; exact ⟨rfl, rfl⟩
    next => cases done; exact ⟨rfl, rfl⟩
  have here : World.journal { world' with db := db } = world'.journal := by
    simp only [World.journal, untouched.1, untouched.2]
  exact ⟨Writes.of_same here, here.trans same⟩

/-- A program makes only entries, wherever it starts. -/
def Journals (p : App α) : Prop := ∀ world, Keeps p (fun _ _ => True) world

theorem Reads.journals {p : App α} (reads : Reads p) : Journals p := fun world =>
  (reads world).mono fun _ _ _ => trivial

theorem Journals.bind {β : Type} {p : App α} {k : α → App β} (first : Journals p)
    (rest : ∀ a, Journals (k a)) : Journals (p >>= k) := by
  intro world
  refine Ensures.bind ((first world).mono fun result world' _ => ?_)
  cases result with
  | error error => trivial
  | ok a => exact rest a world'

theorem Journals.tryCatch {p : App α} {h : PyError → App α} (first : Journals p)
    (handled : ∀ error, Journals (h error)) : Journals (tryCatch p h) := by
  intro world
  refine Ensures.tryCatch ((first world).mono fun result world' _ => ?_)
  cases result with
  | ok a => trivial
  | error error => exact handled error world'

theorem recordLiveApplyProgress_journals (progress : LiveApplyProgress) (plan : LiveApplyPlan) :
    Journals (recordLiveApplyProgress hashing progress plan) := fun world =>
  (recordLiveApplyProgress_keeps progress plan world).mono fun _ _ _ => trivial

end Functions

section Calls

open LiveApplyWriter LiveApplyReconciliation LiveApplyController

variable {hashing : Hashing}

theorem blockIfPossible_journals (progress : LiveApplyProgress) (plan : LiveApplyPlan) :
    Journals (blockIfPossible hashing progress plan) :=
  .tryCatch (.bind (Reads.ofResult _).journals fun blocked =>
    .bind (recordLiveApplyProgress_journals blocked plan) fun _ => (Reads.pure ()).journals)
    fun _ => (Reads.pure ()).journals

/-- What follows a block is all that is left to ensure. -/
theorem blockIfPossible_then {α : Type} {progress : LiveApplyProgress} {plan : LiveApplyPlan}
    {k : Unit → App α} {post : Except PyError α → World → Prop} {world : World}
    (rest : ∀ u world', Keeps (k u) post world') (raised : ∀ error world', post (.error error) world') :
    Keeps (blockIfPossible hashing progress plan >>= k) post world := by
  refine Ensures.bind ((blockIfPossible_journals progress plan world).mono fun result world' _ => ?_)
  cases result with
  | error error => exact raised error world'
  | ok u => exact rest u world'

/-- A guard that cannot be recorded is raised. -/
theorem guardOperation_raises {plan : LiveApplyPlan} {progress : LiveApplyProgress}
    {post : Except PyError (Nat × List Nat) → World → Prop}
    (raised : ∀ error world', post (.error error) world') (error : PyError) (world : World) :
    Keeps (do
      blockIfPossible hashing progress plan
      match error.kind with
      | .operationPreconditionError | .writerError =>
        LiveApplyWriter.reject "live path precondition changed after journaling"
      | _ => LiveApplyWriter.reject "unable to persist live Apply mutation guard") post world := by
  refine blockIfPossible_then (fun _ world' => ?_) raised
  split
  · exact raised _ world'
  · exact raised _ world'
  · exact raised _ world'

/-- The guard is recorded for an operation that stays started. -/
theorem guardOperation_keeps {plan : LiveApplyPlan} {root : PyStr} {intent : LiveApplyIntent}
    {operation : LiveApplyOperation} {operationIndex : Nat} {progress : LiveApplyProgress}
    {world : World}
    (started : world.journal.Started progress.deploymentId progress.operationIndex) :
    Keeps (guardOperation hashing plan root intent operation operationIndex progress)
      (fun result after => ∀ a, result = .ok a → after.entered = world.entered ∧
        after.journal.Started progress.deploymentId progress.operationIndex ∧
        after.journal.Guarded progress.deploymentId progress.operationIndex) world := by
  refine Ensures.tryCatch ?_
  refine (Reads.onHost _).then (fun identities one same => ?_)
    fun error one _ => guardOperation_raises (fun _ _ _ wrong => nomatch wrong) error one
  refine Ensures.bind ((recordLiveApplyMutationGuard_keeps progress plan identities.1
    identities.2 one).mono fun result two post => ?_)
  cases result with
  | error error => exact guardOperation_raises (fun _ _ _ wrong => nomatch wrong) error two
  | ok guard =>
    obtain ⟨kept, recorded⟩ := post
    obtain ⟨rows, guarded⟩ := recorded guard rfl
    intro a _
    refine ⟨kept.trans (entered_eq same), ?_, guarded⟩
    rw [← same] at started
    obtain ⟨row, found, phase⟩ := started
    refine ⟨row, ?_, phase⟩
    show List.find? _ two.db.progress = some row
    rw [rows]
    exact found

/-- The mutation is entered for an operation that is started and guarded, once. -/
theorem performOperation_keeps {plan : LiveApplyPlan} {root : PyStr}
    {operation : LiveApplyOperation} {candidate : Option (List UInt8)}
    {progress : LiveApplyProgress} {identities : Nat × List Nat} {world : World}
    (started : world.journal.Started progress.deploymentId progress.operationIndex)
    (guarded : world.journal.Guarded progress.deploymentId progress.operationIndex)
    (fresh : (progress.deploymentId, progress.operationIndex) ∉ world.entered) :
    Keeps (performOperation hashing plan root operation candidate progress identities)
      (fun _ _ => True) world := by
  refine Ensures.bind (Ensures.action fun one disturbed => ⟨?_, ?_⟩)
  · rw [← disturbed] at started guarded
    rw [← entered_eq disturbed] at fresh
    exact .entered _ _ _ started guarded fresh
  · refine Journals.bind (.tryCatch (Reads.onHost _).journals fun error => ?_) (fun _ => ?_) _
    · split
      · exact .bind (blockIfPossible_journals progress plan) fun _ => (Reads.throw _).journals
      · exact (Reads.throw _).journals
    · refine .bind (.tryCatch (Reads.onHost _).journals fun error => ?_) fun _ => ?_
      · split
        · exact .bind (blockIfPossible_journals progress plan) fun _ => (Reads.throw _).journals
        · exact (Reads.throw _).journals
      · refine .bind (Reads.ofResult _).journals fun verified => ?_
        exact .bind (.tryCatch (recordLiveApplyProgress_journals verified plan) fun _ =>
          (Reads.throw _).journals) fun _ => (Reads.pure _).journals

theorem startLiveApplyProgress_eq {intent : LiveApplyIntent} {intentRecordSha256 : Digest}
    {plan : LiveApplyPlan} {operationIndex : Nat} {progress : LiveApplyProgress}
    (done : startLiveApplyProgress hashing intent intentRecordSha256 plan operationIndex =
      .ok progress) :
    progress.deploymentId = plan.deploymentId ∧ progress.operationIndex = operationIndex ∧
      progress.phase = .mutationStarted := by
  unfold startLiveApplyProgress at done
  split at done
  next => cases done
  next bound =>
    obtain ⟨_, _, done⟩ := bind_eq_ok.mp done
    split at done
    next => cases done
    next =>
      split at done
      next => cases done
      next =>
        obtain ⟨_, _, done⟩ := bind_eq_ok.mp done
        cases done
        simp only [not_not, Prod.mk.injEq] at bound
        exact ⟨bound.1.symm, rfl, rfl⟩

theorem startOperation_keeps {stageEvidence : StagePrewriteEvidence} {stage : CandidateStage}
    {plan : LiveApplyPlan} {root : PyStr} {intent : LiveApplyIntent}
    {persisted : PersistedLiveApplyIntent} {operationIndex : Nat} {world : World}
    (fresh : (plan.deploymentId, operationIndex) ∉ world.entered) :
    Keeps (startOperation hashing stageEvidence stage plan root intent persisted operationIndex)
      (fun _ _ => True) world := by
  unfold startOperation
  split
  · exact (Reads.throw _).journals _
  · refine (Reads.onHost _).then (fun candidate one same => ?_) fun _ _ _ => trivial
    refine Ensures.bind (Ensures.ofResult ?_)
    cases begun : startLiveApplyProgress hashing intent (recordSha256 hashing persisted) plan
      operationIndex with
    | error error => trivial
    | ok progress =>
      obtain ⟨deployment, index, phase⟩ := startLiveApplyProgress_eq begun
      rw [← deployment, ← index, ← entered_eq same] at fresh
      refine Ensures.bind (Ensures.tryCatch
        ((recordLiveApplyProgress_keeps progress plan one).mono fun result two recorded => ?_))
      cases result with
      | error error => exact trivial
      | ok row =>
        obtain ⟨kept, starts⟩ := recorded
        refine Ensures.bind ((guardOperation_keeps (starts row rfl phase)).mono
          fun result three guards => ?_)
        cases result with
        | error error => exact trivial
        | ok identities =>
          obtain ⟨kept', started, guarded⟩ := guards identities rfl
          rw [← kept, ← kept'] at fresh
          exact performOperation_keeps started guarded fresh

theorem revalidatePlanIdentity_eq {plan : LiveApplyPlan} {db : Database}
    {persisted : PersistedLiveApplyIntent}
    (done : revalidatePlanIdentity hashing db plan = .ok persisted) :
    persisted.intent.deploymentId = plan.deploymentId := by
  unfold revalidatePlanIdentity at done
  obtain ⟨loaded, _, done⟩ := bind_eq_ok.mp done
  cases loaded with
  | none => cases done
  | some row =>
    simp only at done
    split at done
    next => cases done
    next bound =>
      obtain ⟨_, _, done⟩ := bind_eq_ok.mp done
      split at done
      next => cases done
      next =>
        cases done
        simp only [not_not, Prod.mk.injEq] at bound
        exact bound.1.symm

theorem discoverLiveApplyProgress_eq {deploymentId : PyStr} {db : Database}
    {rows : List PersistedLiveApplyProgress}
    (done : discoverLiveApplyProgress hashing deploymentId db = .ok rows) :
    rows = progressRows db deploymentId := by
  unfold discoverLiveApplyProgress at done
  split at done
  next => cases done
  next =>
    obtain ⟨selected, select, done⟩ := bind_eq_ok.mp done
    obtain ⟨_, _, done⟩ := bind_eq_ok.mp done
    obtain ⟨_, _, done⟩ := bind_eq_ok.mp done
    cases done
    unfold selectProgressRows at select
    split at select
    next => cases select
    next => cases select; rfl

/-- The next operation is the one after the rows. -/
theorem discoverLiveApplyRecovery_next {plan : LiveApplyPlan} {db : Database}
    {operationIndex : Nat} {path : Digest}
    (decided : discoverLiveApplyRecovery hashing plan db = .ok (.startNext operationIndex path)) :
    operationIndex = (progressRows db plan.deploymentId).length := by
  unfold discoverLiveApplyRecovery at decided
  obtain ⟨persisted, identified, decided⟩ := bind_eq_ok.mp decided
  obtain ⟨records, discovered, decided⟩ := bind_eq_ok.mp decided
  obtain ⟨_, _, decided⟩ := bind_eq_ok.mp decided
  rw [revalidatePlanIdentity_eq identified] at discovered
  rw [← discoverLiveApplyProgress_eq discovered]
  have of_next : nextAction hashing plan records.length = .startNext operationIndex path →
      operationIndex = records.length := by
    intro chosen
    unfold nextAction at chosen
    split at chosen
    next => cases chosen
    next => cases chosen; rfl
  split at decided
  next => cases decided
  next =>
    split at decided
    next => exact of_next (Except.ok.inj decided)
    next =>
      split at decided
      next => cases decided
      next => cases decided
      next => exact of_next (Except.ok.inj decided)

theorem applyLiveOperation_keeps {authorization : ApplyAuthorization}
    {stageEvidence : StagePrewriteEvidence} {stage : CandidateStage} {plan : LiveApplyPlan}
    {preconditions : LiveApplyPreconditionEvidence} {operationIndex : Nat} {world : World}
    (sound : Sound world.journal) :
    Keeps (applyLiveOperation hashing authorization stageEvidence stage plan preconditions
      operationIndex) (fun _ _ => True) world := by
  refine (Reads.orRaise (.ofResult _) _).then (fun intent one same => ?_) fun _ _ _ => trivial
  have loads : Reads (loadExactIntent intent) := by
    refine .bind (.orRaise (.query _ _) _) fun persisted => ?_
    cases persisted with
    | none => exact .throw _
    | some persisted => exact .bind (.require _ _) fun _ => .pure _
  refine loads.then (fun persisted two same' => ?_) fun _ _ _ => trivial
  have here := same'.trans same
  refine Ensures.bind (Ensures.tryCatch (keeps_query (fun three same₃ decision decided => ?_)
    fun _ _ _ => trivial))
  have there : three.journal = world.journal := same₃.trans here
  cases decision with
  | complete =>
    refine Reads.journals (.bind (.require _ _) fun _ => .bind (.query _ _) fun rows => ?_) _
    split
    · exact .bind (.require _ _) fun _ => .pure _
    · exact .throw _
  | reconcileUncertain => exact (Reads.throw _).journals _
  | blocked => exact (Reads.throw _).journals _
  | startNext next path =>
    refine require_then (fun asked => ?_) trivial
    subst asked
    have next_eq := discoverLiveApplyRecovery_next decided
    refine startOperation_keeps fun held => ?_
    have below := sound.entered_lt _ ((entered_eq there) ▸ held)
    rw [next_eq, Sound.progressRows (there ▸ sound), there] at below
    exact Nat.lt_irrefl _ below

theorem finishReconciliation_journals (progress : LiveApplyProgress) (plan : LiveApplyPlan)
    (outcome : ReconciliationOutcome) :
    Journals (finishReconciliation hashing progress plan outcome) := by
  refine .bind (.tryCatch (.bind (recordLiveApplyReconciliation_reads _ _ _).journals fun _ =>
    .bind (Reads.ofResult _).journals fun settled =>
      .bind (recordLiveApplyProgress_journals settled plan) fun _ => (Reads.pure ()).journals)
    fun error => ?_) fun _ => (Reads.pure _).journals
  split
  · exact (Reads.throw _).journals
  · exact (Reads.throw _).journals

theorem reconcileLiveApplyOperation_journals (authorization : ApplyAuthorization)
    (stageEvidence : StagePrewriteEvidence) (stage : CandidateStage) (plan : LiveApplyPlan)
    (preconditions : LiveApplyPreconditionEvidence) (operationIndex : Nat) :
    Journals (reconcileLiveApplyOperation hashing authorization stageEvidence stage plan
      preconditions operationIndex) := by
  have chain : Reads (LiveApplyReconciliation.validateChain hashing authorization stageEvidence
      stage plan preconditions) :=
    .bind (.orRaise (.bind (.ofResult _) fun _ => .bind (.query _ _) fun _ => .pure _) _) fun _ =>
      .bind (.require _ _) fun _ => .bind (.onHost _) fun _ => .bind (.require _ _) fun _ => .pure _
  have replayed : ∀ progress, Reads (replayedReconciliation progress) := by
    intro progress
    refine .bind (.query _ _) fun previous => ?_
    cases previous with
    | none => exact .throw _
    | some record => exact .pure _
  have outcome : ∀ operation progress, Reads (uncertainOutcome hashing stage preconditions.root
      operation progress) := by
    intro operation progress
    refine .bind (.onHost _) fun staged => ?_
    split
    · exact .pure _
    · refine .bind (.tryCatch (.query _ _) fun error => ?_) fun guard => ?_
      · split
        · exact .pure _
        · exact .throw _
      · cases guard with
        | none => exact .pure _
        | some guard =>
          show Reads (ite _ _ _)
          split
          · exact .pure _
          · exact .onHost _
  refine .bind chain.journals fun intent => ?_
  split
  · exact (Reads.throw _).journals
  · refine .bind (Reads.query _ _).journals fun decision =>
      .bind (Reads.query _ _).journals fun persisted => ?_
    split
    · exact (Reads.throw _).journals
    · exact (replayed _).journals
    · split
      · exact (replayed _).journals
      · exact (Reads.throw _).journals
    · exact (Reads.throw _).journals
    · exact .bind (Reads.require _ _).journals fun _ => .bind (outcome _ _).journals fun outcome =>
        finishReconciliation_journals _ _ outcome

/-- **Every call keeps the journal**: from a sound journal, each of its actions makes one entry. -/
theorem advance_keeps {authorization : ApplyAuthorization} {stageEvidence : StagePrewriteEvidence}
    {stage : CandidateStage} {plan : LiveApplyPlan}
    {preconditions : LiveApplyPreconditionEvidence} {world : World} (sound : Sound world.journal) :
    Keeps (advanceLiveApplyOnce hashing authorization stageEvidence stage plan preconditions)
      (fun _ _ => True) world := by
  have chain : Reads (LiveApplyController.validateChain hashing authorization stageEvidence
      stage plan preconditions) := by
    refine .bind (.orRaise (.bind (.ofResult _) fun _ => .bind (.query _ _) fun _ => .pure _) _)
      fun loaded => ?_
    obtain ⟨intent, persisted⟩ := loaded
    cases persisted with
    | none => exact .throw _
    | some persisted => exact .bind (.require _ _) fun _ => .require _ _
  refine chain.then (fun _ one same => ?_) fun _ _ _ => trivial
  refine (Reads.orRaise (.query _ _) _).then (fun decision two same' => ?_) fun _ _ _ => trivial
  have here := same'.trans same
  cases decision with
  | complete => exact (Reads.pure _).journals _
  | startNext operationIndex path =>
    refine (Reads.require _ _).then (fun _ three same₃ => ?_) fun _ _ _ => trivial
    have there := same₃.trans here
    refine Ensures.bind (Ensures.tryCatch
      ((applyLiveOperation_keeps (there ▸ sound)).mono fun result four _ => ?_))
    cases result with
    | ok result => exact trivial
    | error error => exact trivial
  | reconcileUncertain operationIndex path =>
    refine Journals.bind (Reads.require _ _).journals (fun _ => .bind (.tryCatch
      (reconcileLiveApplyOperation_journals _ _ _ _ _ _) fun _ => (Reads.throw _).journals)
      fun result => ?_) _
    split
    · exact (Reads.pure _).journals
    · exact (Reads.pure _).journals
  | blocked operationIndex path =>
    refine Reads.journals (.bind (.require _ _) fun _ => .bind (.orRaise (.query _ _) _)
      fun record => ?_) _
    cases record with
    | none => exact .pure _
    | some record => exact .bind (.require _ _) fun _ => .pure _

end Calls

/-! ## Runs -/

/-- The calls of the service: an advance with any evidence, as a program. -/
def advances (hashing : Hashing)
    (program : Prog World (Except PyError LiveApplyController.LiveApplyControllerResult)) : Prop :=
  ∃ authorization stageEvidence stage plan preconditions, program = ExceptT.run
    (LiveApplyController.advanceLiveApplyOnce hashing authorization stageEvidence stage plan
      preconditions)

/-- A run of the service: calls, crashes, and changes by others between any two actions. -/
abbrev Runs (hashing : Hashing) := Prog.Reach Disturbs (advances hashing)

/-- One move of such a run. -/
abbrev Moves (hashing : Hashing) := Prog.Move Disturbs (advances hashing)

section Runs

variable {hashing : Hashing}
  {here there : Prog.Point World (Except PyError LiveApplyController.LiveApplyControllerResult)}

/-- **The service keeps the journal sound.** -/
theorem advances_keep :
    Prog.Keeps Disturbs Writes (fun world => Sound world.journal) (advances hashing) where
  refl _ := rfl
  trans _ _ _ first second := second.trans first
  others _ _ sound same := same ▸ sound
  actions _ _ sound entry := entry.sound sound
  safe := by
    rintro _ ⟨_, _, _, _, _, rfl⟩ world sound
    exact advance_keeps sound

/-- Each move of a run from a sound journal makes one entry, or leaves the journal alone. -/
theorem move_entry (kept : Prog.Kept Disturbs Writes (fun world => Sound world.journal) here)
    (move : Moves hashing here there) : Entry here.state.journal there.state.journal := by
  rcases (advances_keep.move kept move).2 with same | entry
  · exact Writes.of_same same
  · exact entry

/-- A settled row stays as it is along a run. -/
theorem run_keeps (kept : Prog.Kept Disturbs Writes (fun world => Sound world.journal) here)
    (run : Prog.Reach Disturbs (advances hashing) here there) {deploymentId : PyStr}
    {operationIndex : Nat} {row : PersistedLiveApplyProgress}
    (found : here.state.journal.row deploymentId operationIndex = some row)
    (final : row.progress.phase ≠ .mutationStarted) :
    there.state.journal.row deploymentId operationIndex = some row :=
  advances_keep.along (fun world => world.journal.row deploymentId operationIndex = some row)
    (fun _ _ held same => same ▸ held) (fun _ _ held entry => entry.keeps held final) kept run found

/-- The rows of a deployment are `0 … n - 1`, and all but the last are verified. -/
structure ContiguousPrefix (rows : List PersistedLiveApplyProgress) : Prop where
  index : ∀ i (row : PersistedLiveApplyProgress), rows[i]? = some row →
    row.progress.operationIndex = i
  verified : ∀ i (row : PersistedLiveApplyProgress), rows[i]? = some row → i + 1 < rows.length →
    row.progress.phase = .mutationVerified

theorem contiguousFrom_getElem : ∀ {rows : List PersistedLiveApplyProgress} {start : Nat},
    contiguousFrom start rows = true → ∀ i row, rows[i]? = some row →
      row.progress.operationIndex = start + i ∧
        (i + 1 < rows.length → row.progress.phase = .mutationVerified)
  | [], _, _, _, _, found => by cases found
  | [first], start, counts, i, row, found => by
    simp only [contiguousFrom, decide_eq_true_eq] at counts
    cases i with
    | zero =>
      cases found
      exact ⟨counts, fun more => absurd more (Nat.lt_irrefl 1)⟩
    | succ i => cases found
  | first :: second :: rows, start, counts, i, row, found => by
    simp only [contiguousFrom, Bool.and_eq_true, decide_eq_true_eq] at counts
    cases i with
    | zero =>
      cases found
      exact ⟨counts.1.1, fun _ => counts.1.2⟩
    | succ i =>
      obtain ⟨index, verified⟩ := contiguousFrom_getElem counts.2 i row found
      refine ⟨by omega, fun more => verified ?_⟩
      simp only [List.length_cons] at more ⊢
      omega

theorem Sound.contiguousPrefix {world : World} (sound : Sound world.journal)
    (deploymentId : PyStr) :
    ContiguousPrefix (LiveApplyJournal.progressRows world.db deploymentId) := by
  have counts := contiguousFrom_getElem (sound.contiguous deploymentId)
  rw [sound.progressRows deploymentId]
  exact ⟨fun i row found => by rw [(counts i row found).1, Nat.zero_add],
    fun i row found => (counts i row found).2⟩

/-- The next move enters no mutation, or one whose row is started and whose guard is recorded. -/
def EntersGuarded (before after : World) : Prop :=
  after.entered = before.entered ∨ ∃ deploymentId operationIndex,
    after.entered = before.entered ++ [(deploymentId, operationIndex)] ∧
      before.journal.Started deploymentId operationIndex ∧
      before.journal.Guarded deploymentId operationIndex

theorem Entry.entersGuarded {before after : World} (entry : Entry before.journal after.journal) :
    EntersGuarded before after := by
  generalize earlier : before.journal = journal at entry
  generalize later : after.journal = journal' at entry
  have entered_before : before.entered = journal.entered := congrArg Journal.entered earlier
  have entered_after : after.entered = journal'.entered := congrArg Journal.entered later
  cases entry with
  | same => exact .inl (entered_after.trans entered_before.symm)
  | started => exact .inl (entered_after.trans entered_before.symm)
  | settled => exact .inl (entered_after.trans entered_before.symm)
  | guarded => exact .inl (entered_after.trans entered_before.symm)
  | entered deploymentId operationIndex started guard fresh =>
    refine .inr ⟨deploymentId, operationIndex, ?_, earlier ▸ started, earlier ▸ guard⟩
    rw [entered_after, entered_before]

def zeroDigest : Digest := ⟨"0000000000000000000000000000000000000000000000000000000000000000", by decide⟩

def zeroHashing : Hashing := ⟨fun _ => ⟨"0000000000000000000000000000000000000000", by decide⟩, fun _ => zeroDigest, fun _ => zeroDigest, fun _ => zeroDigest, fun _ => zeroDigest, fun _ _ => zeroDigest⟩

/-- A database without rows, on a host without files. -/
def bareWorld : World where
  db := ⟨fun _ => none, fun _ => none, [], [], [], []⟩
  host := ⟨⟨fun _ => none, 1⟩, fun _ => .error .noent, fun _ => none, fun time => time, fun _ => [],
    0, none⟩
  entered := []

/-- A first call, for a plan without operations. -/
def firstCall : Prog World (Except PyError LiveApplyController.LiveApplyControllerResult) :=
  ExceptT.run (LiveApplyController.advanceLiveApplyOnce zeroHashing
    ⟨[], [], 1, .sha256 zeroDigest, .sha256 zeroDigest, [], zeroDigest⟩
    ⟨[], [], 1, .sha256 zeroDigest, zeroDigest⟩
    ⟨[], zeroDigest, [], 1, [], .sha256 zeroDigest, []⟩
    ⟨[], [], 1, .sha256 zeroDigest, .sha256 zeroDigest, zeroDigest, []⟩
    ⟨[], [], 1, .sha256 zeroDigest, .sha256 zeroDigest, zeroDigest, [], []⟩)

end Runs

end SyncApp
