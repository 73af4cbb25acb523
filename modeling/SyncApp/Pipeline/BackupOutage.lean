import SyncApp.Pipeline.BackupOnce
import SyncApp.Pipeline.LocalSync

/-!
# A backup and an outage

A reconciliation that fails blocks the candidate for good, also where the Supervisor is merely out of
reach: the backup of a candidate is given up for an outage exactly where a reconciliation meets one.
Everything else that the stage promises holds in every run.
-/

set_option autoImplicit false

namespace SyncApp

open Lib Raising Lane Json

/-- No reconciliation has met an outage. -/
def NoOutage (s : System) : Prop := ∀ candidateSha, ¬MetOutage candidateSha s

/-- The latest reconciliation of the candidate failed for an outage. -/
def FailedForOutage (candidateSha : ShortDigest) (s : System) : Prop :=
  ∃ failure, (s.backupFailures candidateSha).head? = some failure ∧ failure.transient = true

/-- The row of the candidate's backup is blocked. -/
def BackupBlocked (candidateSha : ShortDigest) (s : System) : Prop :=
  ∃ row startedAt blockedAt, s.store.backupCheckpoint candidateSha = some row ∧
    row.phase = .blocked startedAt blockedAt

/-- The work of the candidate is blocked. -/
def CandidateWorkBlocked (candidateSha : ShortDigest) (s : System) : Prop :=
  ∃ item ∈ s.store.work, item.workKind = .candidate ∧ item.workKey = candidateSha.key ∧
    item.status = .blocked

/-- No backup is given up for an outage. -/
def SparesOutages (s : System) : Prop :=
  ∀ candidateSha, FailedForOutage candidateSha s →
    ¬BackupBlocked candidateSha s ∧ ¬CandidateWorkBlocked candidateSha s

/-! ## Running alone -/

section Alone

variable {s : System} {α : Type}

/-- Nobody else acts. -/
abbrev RunAlone (program : Lane α) (post : Except Failure α → System → Prop) (s : System) : Prop :=
  Ensures (· = ·) (fun _ _ => True) program post s

/-- What meets no outage. -/
def StaysCalm (s t : System) : Prop := NoOutage s → NoOutage t

theorem StaysCalm.refl (s : System) : StaysCalm s s := id

theorem StaysCalm.of_exchanges {t : System} (same : t.exchanges = s.exchanges) : StaysCalm s t := by
  intro none candidateSha met
  obtain ⟨exchange, member, outage⟩ := met
  exact none candidateSha ⟨exchange, same ▸ member, outage⟩

theorem calm_alone {program : Lane α} (every : Every StaysCalm program) (none : NoOutage s) :
    RunAlone program (fun _ t => NoOutage t) s := every.alone (fun _ _ calm => calm) none

/-- What changes nothing keeps everything. -/
theorem same_alone {P : System → Prop} {program : Lane α} (every : Every (· = ·) program)
    (here : P s) : RunAlone program (fun _ => P) s := every.alone (fun _ _ same here => same ▸ here) here

theorem calm_query (read : Store → Except Failure α) : Every StaysCalm (query read) :=
  every_query StaysCalm.refl read

theorem calm_transaction (change : Store → Except Failure (α × Store)) :
    Every StaysCalm (transaction change) :=
  every_transaction StaysCalm.refl fun _ _ _ _ => .of_exchanges rfl

theorem calm_look (read : System → Except Failure α) :
    Every StaysCalm (action fun system => (read system, system)) := Every.action StaysCalm.refl

/-- What is not asked to reconcile is no reconciliation that meets an outage. -/
theorem calm_ask (candidateSha : ShortDigest) (request : BackupRequest) (limit : Nat) :
    Every StaysCalm (askSupervisor candidateSha false request limit) := by
  refine Every.action fun s none other met => ?_
  obtain ⟨exchange, member, here, reconciles, outage⟩ := met
  rcases List.mem_cons.mp member with rfl | member
  · cases reconciles
  · exact none other ⟨exchange, member, here, reconciles, outage⟩

theorem calm_ofBackup (result : Except CandidateBackupError α) : Every StaysCalm (ofBackup result) :=
  Every.ofResult _

theorem calm_verifiedEvidence (semantic : CandidateSemanticValidation) (candidateSha : ShortDigest)
    (slug : String) (limit : Nat) :
    Every StaysCalm (verifiedEvidence semantic candidateSha false slug limit) :=
  (calm_ask _ _ _).bind fun _ => (calm_ofBackup _).bind fun _ =>
    (calm_look _).bind fun _ => Every.pure _

theorem calm_createCandidateBackup (access : BackupAccess) (semantic : CandidateSemanticValidation)
    (candidateSha : ShortDigest) (name : Option String) (timeoutSeconds : Rat) (limit : Nat) :
    Every StaysCalm (createCandidateBackup access semantic candidateSha name timeoutSeconds limit) :=
  (calm_look _).bind fun _ => (calm_ofBackup _).bind fun _ => (calm_ofBackup _).bind fun _ =>
    (calm_ofBackup _).bind fun _ => (calm_ask _ _ _).bind fun _ => (calm_ofBackup _).bind fun _ =>
      calm_verifiedEvidence _ _ _ _

theorem calm_ensureCheckpoint (row : CandidateBackupCheckpoint) : Every StaysCalm (ensureCheckpoint row) :=
  (calm_query _).bind fun _ => every_ensure _ _

theorem calm_transitionCheckpoint (previous replacement : CandidateBackupCheckpoint) :
    Every StaysCalm (transitionCheckpoint previous replacement) :=
  (calm_transaction _).bind fun _ => calm_ensureCheckpoint _

theorem calm_finishSuccess (previous completed : CandidateBackupCheckpoint)
    (current : CandidateOrchestration) (evidence : CandidateBackupEvidence) (completedAt : Int) :
    Every StaysCalm (finishSuccess previous completed current evidence completedAt) :=
  (every_ensure _ _).bind fun _ => (Every.ofResult _).bind fun _ =>
    (calm_transaction _).bind fun _ =>
      ((calm_ensureCheckpoint _).bind fun _ => (calm_query _).bind fun _ => every_ensure _ _).bind
        fun _ => (calm_query _).bind fun _ => (every_ensure _ _).bind fun _ => Every.pure _

theorem calm_requestBackup (access : BackupAccess) (row : CandidateBackupCheckpoint)
    (current : CandidateOrchestration) (authority : CandidateBackupAuthority) (now : Int) :
    Every StaysCalm (requestBackup access row current authority now) := by
  refine (Every.ofResult _).bind fun started => (calm_transitionCheckpoint _ _).bind fun _ => ?_
  refine (Every.tryCatch ((calm_createCandidateBackup _ _ _ _ _ _).bind fun _ => Every.pure _)
    fun _ => Every.pure _).bind fun created => ?_
  cases created with
  | ok evidence => exact (Every.ofResult _).bind fun _ => calm_finishSuccess _ _ _ _ _
  | error failure =>
    exact (Every.ofResult _).bind fun _ => (calm_transitionCheckpoint _ _).bind fun _ => Every.throw _

end Alone

/-! ## A reconciliation that meets an outage -/

section Reconciliation

variable {fromisoformat : String → Option DateTime} {s : System} {candidateSha : ShortDigest}
  {row : CandidateBackupCheckpoint} {current : CandidateOrchestration} {startedAt now : Int}
  {access : BackupAccess}

/-- The database and the events are as they were. -/
structure Unrecorded (s t : System) : Prop where
  store : t.store = s.store
  events : t.events = s.events

theorem Unrecorded.refl (s : System) : Unrecorded s s := ⟨rfl, rfl⟩

theorem Unrecorded.trans {r t : System} (first : Unrecorded r s) (second : Unrecorded s t) :
    Unrecorded r t := ⟨second.store.trans first.store, second.events.trans first.events⟩

theorem BackupAnswer.payload_ok {answer : BackupAnswer} {limit : Nat}
    {payload : List (String × Json)} (given : answer.payload limit = .ok payload) :
    answer.outage = false := by
  cases answer with
  | raised error => cases given
  | exception => cases given
  | response response =>
    unfold BackupAnswer.payload requestJson at given
    dsimp only at given
    split at given
    · cases given
    next answered =>
      have status : response.status = 200 := by simpa using answered
      unfold BackupAnswer.outage
      dsimp only
      rw [status]
      rfl

/-- What a step of a reconciliation comes to: it goes on without an outage, or fails, for an outage
if it met one. -/
abbrev Reconciles {α : Type} (s : System) : Except Failure α → System → Prop :=
  settles (fun failure t => Unrecorded s t ∧ (NoOutage t ∨ failure.transient = true))
    fun _ t => Unrecorded s t ∧ NoOutage t

theorem reconciles_look {α : Type} (read : System → Except Failure α) (none : NoOutage s) :
    RunAlone (action fun system => (read system, system)) (Reconciles s) s := by
  refine Ensures.action ?_
  rintro _ rfl
  refine ⟨trivial, ?_⟩
  cases read s with
  | ok a => exact ⟨.refl s, none⟩
  | error failure => exact ⟨.refl s, .inl none⟩

theorem reconciles_ofBackup {α : Type} (result : Except CandidateBackupError α) (none : NoOutage s) :
    RunAlone (ofBackup result) (Reconciles s) s := by
  refine Ensures.ofResult ?_
  cases result with
  | ok a => exact ⟨.refl s, none⟩
  | error error => exact ⟨.refl s, .inl none⟩

theorem reconciles_ask (request : BackupRequest) (limit : Nat) (none : NoOutage s) :
    RunAlone (askSupervisor candidateSha true request limit) (Reconciles s) s := by
  refine Ensures.action ?_
  rintro _ rfl
  refine ⟨trivial, ?_⟩
  have calm : (s.backup.supervisor request).outage = false → NoOutage { s with exchanges :=
      ⟨candidateSha, true, request, s.backup.supervisor request⟩ :: s.exchanges } := by
    rintro answered other ⟨exchange, member, here, reconciles, outage⟩
    rcases List.mem_cons.mp member with rfl | member
    · exact nomatch answered.symm.trans outage
    · exact none other ⟨exchange, member, here, reconciles, outage⟩
  dsimp only
  cases given : (s.backup.supervisor request).payload limit with
  | ok payload => exact ⟨⟨rfl, rfl⟩, calm (BackupAnswer.payload_ok given)⟩
  | error error =>
    refine ⟨⟨rfl, rfl⟩, ?_⟩
    have flagged := BackupAnswer.payload_error given
    cases outage : (s.backup.supervisor request).outage with
    | true => exact .inr (flagged.trans outage)
    | false => exact .inl (calm outage)

theorem reconciles_bind {α β : Type} {program : Lane β} {rest : β → Lane α}
    (first : RunAlone program (Reconciles s) s)
    (then_ : ∀ b t, NoOutage t → RunAlone (rest b) (Reconciles t) t) :
    RunAlone (program >>= rest) (Reconciles s) s := by
  refine ensures_settles_bind first fun b t held => ?_
  refine ensures_settles_mono (then_ b t held.2) (fun failure u ended => ?_) fun a u ended => ?_
  · exact ⟨held.1.trans ended.1, ended.2⟩
  · exact ⟨held.1.trans ended.1, ended.2⟩

theorem reconciles_reconcileCandidateBackup (access : BackupAccess)
    (semantic : CandidateSemanticValidation) (requestName : String) (startedAt : Int)
    (timeoutSeconds : Rat) (limit : Nat) (none : NoOutage s) :
    RunAlone (reconcileCandidateBackup fromisoformat access semantic candidateSha requestName startedAt
      timeoutSeconds limit) (Reconciles s) s := by
  refine reconciles_bind (reconciles_look _ none) fun _ t none => ?_
  refine reconciles_bind (reconciles_ofBackup _ none) fun _ t none => ?_
  refine reconciles_bind (reconciles_ofBackup _ none) fun _ t none => ?_
  refine reconciles_bind (reconciles_ofBackup _ none) fun _ t none => ?_
  refine reconciles_bind (reconciles_ask _ _ none) fun _ t none => ?_
  refine reconciles_bind (reconciles_ofBackup _ none) fun _ t none => ?_
  refine reconciles_bind (reconciles_ask _ _ none) fun _ t none => ?_
  refine reconciles_bind (reconciles_ofBackup _ none) fun _ t none => ?_
  exact reconciles_bind (reconciles_look _ none) fun _ t none => ⟨.refl t, none⟩

/-- The item that a pass has claimed is the candidate's. -/
def RunsClaimed (candidateSha : ShortDigest) (claimed : WorkItem) (s : System) : Prop :=
  s.store.findWork .candidate candidateSha.key = some claimed ∧ claimed.status = .running ∧
    1 ≤ claimed.attempts

/-- The candidate was given up for an outage. -/
def GivenUp (candidateSha : ShortDigest) (s : System) : Prop :=
  FailedForOutage candidateSha s ∧ BackupBlocked candidateSha s

/-- What an execution comes to. Where it met an outage, the candidate is given up, or is about to be:
the execution fails for good while its item runs. -/
abbrev Executes {α : Type} (candidateSha : ShortDigest) (claimed : WorkItem) :
    Except Failure α → System → Prop :=
  settles (fun failure t => NoOutage t ∨ GivenUp candidateSha t ∨
      FailedForOutage candidateSha t ∧ failure.transient = false ∧ RunsClaimed candidateSha claimed t)
    fun _ t => NoOutage t ∨ GivenUp candidateSha t

theorem executes_calm {α : Type} {program : Lane α} {claimed : WorkItem} (every : Every StaysCalm program)
    (none : NoOutage s) : RunAlone program (Executes candidateSha claimed) s := by
  refine (calm_alone every none).mono fun result t none => ?_
  cases result with
  | ok a => exact .inl none
  | error failure => exact .inl none

theorem GivenUp.same {t : System} (given : GivenUp candidateSha s) (same : Unrecorded s t) :
    GivenUp candidateSha t := by
  obtain ⟨⟨failure, head, transient⟩, blocked⟩ := given
  refine ⟨⟨failure, ?_, transient⟩, ?_⟩
  · rw [backupFailures_congr same.events]
    exact head
  · unfold BackupBlocked
    rw [same.store]
    exact blocked

/-- Nothing that is read back changes what was written. -/
theorem same_ensureFinished (finished : CandidateBackupCheckpoint) (advanced : CandidateOrchestration) :
    Every Unrecorded (ensureFinished finished advanced) :=
  ((every_query Unrecorded.refl _).bind fun _ => every_ensure _ _).bind fun _ =>
    (every_query Unrecorded.refl _).bind fun _ => every_ensure _ _

theorem finishAtomically_definite {previous finished : CandidateBackupCheckpoint}
    {advanced : CandidateOrchestration} {status : WorkStatus} {finishedAt : Int} {store : Store}
    {failure : Failure}
    (refused : finishAtomically previous finished current advanced status finishedAt none store =
      .error failure) : failure.transient = false := by
  unfold finishAtomically insertPreparation at refused
  cases first : replaceCheckpoint previous finished store with
  | error other =>
    rw [first] at refused
    cases refused
    unfold replaceCheckpoint at first
    split at first <;> cases first
    rfl
  | ok replaced =>
    rw [first] at refused
    cases second : replaceOrchestration current advanced replaced with
    | error other =>
      dsimp only [bind, Except.bind] at refused
      rw [second] at refused
      cases refused
      unfold replaceOrchestration at second
      split at second <;> cases second
      rfl
    | ok advancedStore =>
      dsimp only [bind, Except.bind] at refused
      rw [second] at refused
      dsimp only at refused
      cases third : settleCandidateWork current.candidateSha status finishedAt advancedStore with
      | ok settled =>
        rw [third] at refused
        cases refused
      | error other =>
        rw [third] at refused
        cases refused
        unfold settleCandidateWork at third
        split at third
        · cases third
          rfl
        split at third
        · cases third
          rfl
        split at third <;> cases third
        rfl

/-- A block for an outage is written, or refused for good. -/
theorem executes_finishBlock {claimed : WorkItem} (here : row.candidateSha = current.candidateSha)
    (failed : FailedForOutage current.candidateSha s) (runs : RunsClaimed current.candidateSha claimed s) :
    RunAlone (finishBlock row { row with phase := .blocked (some startedAt) now } current now)
      (Executes current.candidateSha claimed) s := by
  refine ensures_settles_ofResult (fun failure refused => .inr (.inr ⟨failed, ?_, runs⟩))
    fun advanced _ => ?_
  · unfold backupSuccessor at refused
    split at refused <;> cases refused
    rfl
  refine ensures_settles_bind (m := fun _ t => GivenUp current.candidateSha t) (ensures_transaction ?_
    ?_) fun _ t given => ?_
  · rintro _ _ store rfl finishes
    refine ⟨trivial, failed, ?_⟩
    obtain ⟨found, checkpoints⟩ := finishAtomically_checkpoints finishes
    refine ⟨{ row with phase := .blocked (some startedAt) now }, some startedAt, now, ?_, rfl⟩
    show store.backupCheckpoint _ = _
    unfold Store.backupCheckpoint
    rw [checkpoints, ← here]
    exact Rows.find_replaced rfl found
  · rintro _ failure rfl refused
    exact ⟨trivial, .inr (.inr ⟨failed, finishAtomically_definite refused, runs⟩)⟩
  · refine ensures_settles_bind (m := fun _ u => GivenUp current.candidateSha u)
      (((same_ensureFinished _ advanced).alone (P := GivenUp current.candidateSha)
        (fun _ _ same given => given.same same) given).mono fun result u given => ?_)
      fun _ u given => .inr given
    cases result with
    | ok _ => exact given
    | error _ => exact .inr (.inl given)

theorem calm_note (event : Event) : Every StaysCalm (note event) := every_note fun _ => .of_exchanges rfl

theorem calm_finishBlock (previous blocked : CandidateBackupCheckpoint)
    (current : CandidateOrchestration) (blockedAt : Int) :
    Every StaysCalm (finishBlock previous blocked current blockedAt) :=
  (Every.ofResult _).bind fun _ => (calm_transaction _).bind fun _ =>
    ((calm_ensureCheckpoint _).bind fun _ => (calm_query _).bind fun _ => every_ensure _ _).bind
      fun _ => Every.pure _

/-- A reconciliation that meets an outage gives the candidate up. -/
theorem executes_reconcileBackup {claimed : WorkItem} {authority : CandidateBackupAuthority}
    (here : row.candidateSha = current.candidateSha) (uncertain : row.phase = .uncertain startedAt)
    (none : NoOutage s) (runs : RunsClaimed current.candidateSha claimed s) :
    RunAlone (reconcileBackup fromisoformat access row startedAt current authority now)
      (Executes current.candidateSha claimed) s := by
  refine ensures_settles_bind (m := fun found t => Unrecorded s t ∧ match found with
      | .ok _ => NoOutage t
      | .error failure => NoOutage t ∨ failure.transient = true) ?_ fun found t held => ?_
  · refine Ensures.tryCatch (Ensures.bind ((reconciles_reconcileCandidateBackup access _ _ _ _ _
      none).mono fun result t held => ?_))
    cases result with
    | ok _ => exact held
    | error failure => exact held
  cases found with
  | ok evidence =>
    exact executes_calm ((Every.ofResult _).bind fun _ => calm_finishSuccess _ _ _ _ _) held.2
  | error failure =>
    rcases held.2 with none | transient
    · exact executes_calm ((calm_note _).bind fun _ => (Every.ofResult _).bind fun _ =>
        calm_finishBlock _ _ _ _) none
    · refine ensures_settles_bind (m := fun _ u => FailedForOutage current.candidateSha u ∧
        RunsClaimed current.candidateSha claimed u) (ensures_note ?_) fun _ u failed => ?_
      · rintro _ rfl
        refine ⟨trivial, ⟨failure, ?_, transient⟩, ?_⟩
        · show (List.filterMap _ _).head? = _
          rw [List.filterMap_cons]
          simp
        · unfold RunsClaimed
          rw [held.1.store]
          exact runs
      · refine ensures_settles_ofResult (fun other refused => ?_) fun blocked blocks => ?_
        · refine .inr (.inr ⟨failed.1, ?_, failed.2⟩)
          unfold CandidateBackupCheckpoint.block at refused
          rw [uncertain] at refused
          dsimp only at refused
          split at refused <;> cases refused
          rfl
        · obtain rfl := block_ok uncertain blocks
          exact executes_finishBlock here failed.1 failed.2

theorem executes_continueBackup {claimed : WorkItem} {authority : CandidateBackupAuthority}
    (here : row.candidateSha = current.candidateSha) (none : NoOutage s)
    (runs : RunsClaimed current.candidateSha claimed s) :
    RunAlone (continueBackup fromisoformat access row current authority now)
      (Executes current.candidateSha claimed) s := by
  unfold continueBackup
  cases phase : row.phase with
  | planned => exact executes_calm (calm_requestBackup _ _ _ _ _) none
  | uncertain startedAt => exact executes_reconcileBackup here phase none runs
  | completed => exact .inl none
  | blocked => exact .inl none
  | mutationStarted startedAt =>
    refine ensures_settles_ofResult (fun _ _ => .inl none) fun uncertain doubts => ?_
    obtain rfl : uncertain = { row with phase := .uncertain startedAt } := by
      unfold CandidateBackupCheckpoint.markUncertain at doubts
      rw [phase] at doubts
      cases doubts
      rfl
    have work : ∀ t u : System, u.store.work = t.store.work → RunsClaimed current.candidateSha claimed t →
        RunsClaimed current.candidateSha claimed u := by
      intro t u same runs
      unfold RunsClaimed Store.findWork at runs ⊢
      rw [same]
      exact runs
    refine ensures_settles_bind (m := fun _ t => NoOutage t ∧ RunsClaimed current.candidateSha claimed t)
      ?_ fun _ t held => executes_reconcileBackup here rfl held.1 held.2
    refine ensures_settles_bind (m := fun _ t => NoOutage t ∧ RunsClaimed current.candidateSha claimed t)
      (ensures_transaction ?_ ?_) fun _ t held => ?_
    · rintro _ _ store rfl replaced
      obtain ⟨changed, replaced, same⟩ := bind_eq_ok.mp replaced
      cases same
      obtain ⟨_, rfl⟩ := replaceCheckpoint_ok replaced
      exact ⟨trivial, StaysCalm.of_exchanges rfl none, work _ _ rfl runs⟩
    · rintro _ failure rfl _
      exact ⟨trivial, .inl none⟩
    · refine Ensures.mono (same_alone
        (P := fun u => NoOutage u ∧ RunsClaimed current.candidateSha claimed u)
        ((every_query (fun _ => rfl) _).bind fun _ => every_ensure _ _) held) fun result u held => ?_
      cases result with
      | ok _ => exact held
      | error _ => exact .inl held.1

variable (fromisoformat : String → Option DateTime) (uuid5 : PyStr → String) (access : BackupAccess)

theorem calm_planAndRequestBackup (current : CandidateOrchestration) (now : Int) (none : NoOutage s) :
    RunAlone (planAndRequestBackup fromisoformat uuid5 access current now) (fun _ t => NoOutage t) s := by
  refine Ensures.bind ((calm_alone (calm_look _) none).mono fun result t none => ?_)
  cases result with
  | error failure => exact none
  | ok authority =>
    refine Ensures.bind ((calm_alone (every_ensure _ _) none).mono fun result t none => ?_)
    cases result with
    | error failure => exact none
    | ok _ =>
      refine Ensures.bind (Ensures.ofResult ?_)
      cases plans : planBackup uuid5 current authority now with
      | error failure => exact none
      | ok plan =>
        have planned := (planBackup_ok plans).2
        have continues : Every StaysCalm (continueBackup fromisoformat access plan current authority now) := by
          unfold continueBackup
          rw [planned]
          exact calm_requestBackup _ _ _ _ _
        exact calm_alone ((calm_transaction _).bind fun _ => (calm_ensureCheckpoint _).bind fun _ =>
          continues) none

/-- **An execution that meets an outage gives the candidate up**, or fails for good. -/
theorem executes_executeCandidateBackupOnce {claimed : WorkItem} (current : CandidateOrchestration)
    (none : NoOutage s) (runs : RunsClaimed current.candidateSha claimed s) :
    RunAlone (executeCandidateBackupOnce fromisoformat uuid5 access current (some now))
      (Executes current.candidateSha claimed) s := by
  have looks : ∀ {β : Type} (read : System → Except Failure β) (t : System), NoOutage t →
      RunsClaimed current.candidateSha claimed t → RunAlone (action fun system => (read system, system))
        (settles (fun _ u => NoOutage u) fun a u => NoOutage u ∧
          RunsClaimed current.candidateSha claimed u ∧ read u = .ok a) t := by
    intro β read t none runs
    refine Ensures.action ?_
    rintro _ rfl
    refine ⟨trivial, ?_⟩
    dsimp only
    cases found : read t with
    | ok a => exact ⟨none, runs, found⟩
    | error failure => exact none
  have stops : ∀ (failure : Failure) (t : System), NoOutage t →
      (NoOutage t ∨ GivenUp current.candidateSha t ∨ FailedForOutage current.candidateSha t ∧
        failure.transient = false ∧ RunsClaimed current.candidateSha claimed t) := fun _ _ none => .inl none
  refine ensures_settles_bind (m := fun now' t => now' = now ∧ NoOutage t ∧
    RunsClaimed current.candidateSha claimed t) ⟨rfl, none, runs⟩ ?_
  rintro _ t ⟨rfl, none, runs⟩
  refine ensures_settles_bind (ensures_settles_mono (looks _ t none runs) stops fun _ _ held => held)
    fun loaded t held => ?_
  refine ensures_settles_bind (m := fun _ u => NoOutage u ∧ RunsClaimed current.candidateSha claimed u)
    (ensures_ensure (fun _ => ⟨held.1, held.2.1⟩) fun _ => .inl held.1) fun _ t held => ?_
  refine ensures_settles_bind (ensures_settles_mono (looks _ t held.1 held.2) stops
    fun _ _ held => held) fun checkpoint t held => ?_
  cases checkpoint with
  | none =>
    refine (calm_planAndRequestBackup fromisoformat uuid5 access current _ held.1).mono
      fun result u none => ?_
    cases result with
    | ok _ => exact .inl none
    | error _ => exact .inl none
  | some row =>
    have found := loadCandidateBackupCheckpoint_ok held.2.2
    have here : row.candidateSha = current.candidateSha := by simpa using List.find?_some found
    dsimp only
    unfold resumeBackup
    split
    · exact executes_calm ((calm_query _).bind fun _ => (every_ensure _ _).bind fun _ =>
        Every.pure _) held.1
    · exact .inl held.1
    · refine ensures_settles_bind (ensures_settles_mono (looks _ t held.1 held.2.1) stops
        fun _ _ held => held) fun authority t held => ?_
      refine ensures_settles_bind (m := fun _ u => NoOutage u ∧ RunsClaimed current.candidateSha claimed u)
        (ensures_ensure (fun _ => ⟨held.1, held.2.1⟩) fun _ => .inl held.1) fun _ t held => ?_
      exact executes_continueBackup here held.1 held.2

end Reconciliation

/-! ## A pass -/

section Pass

variable {fromisoformat : String → Option DateTime} {uuid5 : PyStr → String} {s : System}
  {access : BackupAccess} {now : Int}

/-- The item that was claimed runs. -/
theorem claimBackupWork_runs {store changed : Store} {item claimed : WorkItem}
    (claims : claimBackupWork now store = .ok (some item, changed))
    (found : changed.getWork item.workKind item.workKey = .ok claimed) :
    changed.findWork .candidate claimed.workKey = some claimed ∧ claimed.status = .running ∧
      1 ≤ claimed.attempts := by
  have there : changed.findWork item.workKind item.workKey = some claimed := by
    unfold Store.getWork at found
    split at found
    next there =>
      cases found
      exact there
    next => cases found
  have keyed : claimed.workKind = item.workKind ∧ claimed.workKey = item.workKey := by
    simpa using List.find?_some there
  unfold claimBackupWork at claims
  dsimp only at claims
  split at claims
  · cases claims
  next first chosen =>
    split at claims
    · cases claims
    next updated =>
      cases claims
      have kind : first.workKind = .candidate := by
        have waits := (List.mem_filter.mp (mem_of_earliest chosen)).2
        simp only [eligible, Bool.and_eq_true, decide_eq_true_eq] at waits
        exact waits.1.1.1
      have member := List.mem_of_find?_eq_some there
      unfold Store.updateWork at updated
      split at updated
      · cases updated
      split at updated
      · cases updated
        obtain ⟨before, _, same⟩ := List.mem_map.mp member
        split at same
        · subst same
          refine ⟨?_, rfl, Nat.le_add_left 1 _⟩
          exact (congrArg (Store.findWork _ · _) kind.symm).trans there
        next apart =>
          subst same
          exact absurd keyed apart
      · cases updated

theorem loadClaimedOrchestration_key {store : Store} {workKey : PyStr}
    {current : CandidateOrchestration} (loads : loadClaimedOrchestration workKey store = .ok current) :
    current.candidateSha.key = workKey := by
  unfold loadClaimedOrchestration at loads
  split at loads
  · cases loads
  next record found =>
    have key : record.candidateSha.key = workKey := by simpa using List.find?_some found
    obtain ⟨loaded, load, loads⟩ := bind_eq_ok.mp loads
    cases loaded with
    | none => cases loads
    | some other =>
      cases loads
      unfold loadCandidateOrchestration at load
      cases there : store.orchestration record.candidateSha with
      | none =>
        rw [there] at load
        cases load
      | some row =>
        rw [there] at load
        dsimp only at load
        split at load
        · cases load
        · cases load
          have same : current.candidateSha = record.candidateSha := by
            simpa using List.find?_some there
          rw [same, key]

/-- Work that runs is blocked by a failure for good. -/
theorem blocks_failWork {candidateSha : ShortDigest} {claimed : WorkItem} (now : Int)
    (runs : RunsClaimed candidateSha claimed s) :
    ∃ store item, failWork claimed false now s.store = .ok (item, store) ∧
      CandidateWorkBlocked candidateSha { s with store := store } := by
  obtain ⟨found, running, attempted⟩ := runs
  have keyed : claimed.workKind = .candidate ∧ claimed.workKey = candidateSha.key := by
    simpa using List.find?_some found
  have member := List.mem_of_find?_eq_some found
  have there : s.store.findWork claimed.workKind claimed.workKey = some claimed := by
    rw [keyed.1, keyed.2]
    exact found
  unfold failWork settleWork
  rw [if_neg (by simp [running]; omega)]
  unfold Store.updateWork
  rw [there]
  dsimp only
  rw [if_pos ⟨rfl, rfl⟩]
  refine ⟨_, _, rfl, _, List.mem_map_of_mem member, ?_⟩
  rw [if_pos ⟨rfl, rfl⟩]
  exact ⟨keyed.1, keyed.2, rfl⟩

/-- A candidate was given up for an outage, by its backup or by its work. -/
def Abandoned (s : System) : Prop :=
  ∃ candidateSha, FailedForOutage candidateSha s ∧
    (BackupBlocked candidateSha s ∨ CandidateWorkBlocked candidateSha s)

theorem Abandoned.spares (abandoned : Abandoned s) : ¬SparesOutages s := by
  obtain ⟨candidateSha, failed, blocked | blocked⟩ := abandoned
  · exact fun spares => (spares candidateSha failed).1 blocked
  · exact fun spares => (spares candidateSha failed).2 blocked

/-- The booking of a failure leaves the backups alone. -/
theorem abandons_suppressed {claimed : WorkItem} {failure : Failure} {candidateSha : ShortDigest}
    (ended : GivenUp candidateSha s ∨ FailedForOutage candidateSha s ∧ failure.transient = false ∧
      RunsClaimed candidateSha claimed s) :
    RunAlone (tryCatch (do
        let _ ← transaction (failWork claimed failure.transient now)
        return ()) fun _ => pure ()) (fun _ t => Abandoned t) s := by
  refine Ensures.tryCatch (Ensures.bind (ensures_transaction ?_ ?_))
  · rintro _ item store rfl booked
    refine ⟨trivial, ?_⟩
    rcases ended with ⟨failed, blocked⟩ | ⟨failed, definite, runs⟩
    · obtain ⟨work, rfl⟩ := failWork_onlyWork _ _ _ _ _ _ booked
      exact ⟨candidateSha, failed, .inl blocked⟩
    · rw [definite] at booked
      obtain ⟨store', item', same, blocked⟩ := blocks_failWork now runs
      rw [same] at booked
      cases booked
      exact ⟨candidateSha, failed, .inr blocked⟩
  · rintro _ refusal rfl refused
    refine ⟨trivial, ?_⟩
    rcases ended with ⟨failed, blocked⟩ | ⟨failed, definite, runs⟩
    · exact ⟨candidateSha, failed, .inl blocked⟩
    · rw [definite] at refused
      obtain ⟨store', item', same, blocked⟩ := blocks_failWork now runs
      rw [same] at refused
      cases refused

theorem abandons_executeClaimedBackup {claimed : WorkItem} (none : NoOutage s)
    (runs : s.store.findWork .candidate claimed.workKey = some claimed ∧ claimed.status = .running ∧
      1 ≤ claimed.attempts) :
    RunAlone (executeClaimedBackup fromisoformat uuid5 access claimed now)
      (fun _ t => NoOutage t ∨ Abandoned t) s := by
  refine Ensures.tryCatch (Ensures.mono (m := settles (fun failure t => NoOutage t ∨
      ∃ candidateSha, GivenUp candidateSha t ∨ FailedForOutage candidateSha t ∧
        failure.transient = false ∧ RunsClaimed candidateSha claimed t)
      fun _ t => NoOutage t ∨ ∃ candidateSha, GivenUp candidateSha t) ?_ fun result t ended => ?_)
  · refine ensures_settles_bind (m := fun current t => NoOutage t ∧
      RunsClaimed current.candidateSha claimed t) (ensures_query ?_) fun current t held => ?_
    · rintro _ rfl
      refine ⟨trivial, ?_⟩
      cases loads : loadClaimedOrchestration claimed.workKey s.store with
      | error failure => exact .inl none
      | ok current =>
        refine ⟨none, ?_⟩
        unfold RunsClaimed
        rw [loadClaimedOrchestration_key loads]
        exact runs
    · refine ensures_settles_bind (ensures_settles_mono
        (executes_executeCandidateBackupOnce fromisoformat uuid5 access current held.1 held.2)
        (fun failure u ended => ?_) fun result u ended => ?_) fun result u ended => ended
      · exact ended.imp_right fun ended => ⟨_, ended⟩
      · exact ended.imp_right fun ended => ⟨_, ended⟩
  · cases result with
    | ok phase =>
      rcases ended with none | ⟨candidateSha, failed, blocked⟩
      · exact .inl none
      · exact .inr ⟨candidateSha, failed, .inl blocked⟩
    | error failure =>
      rcases ended with none | ⟨candidateSha, ended⟩
      · refine (calm_alone ?_ none).mono fun _ _ none => .inl none
        refine Every.bind (Every.tryCatch ?_ fun _ => Every.pure _) fun _ => Every.throw _
        exact (calm_transaction _).bind fun _ => Every.pure _
      · refine Ensures.bind ((abandons_suppressed ended).mono fun result u abandoned => ?_)
        cases result with
        | ok _ => exact .inr abandoned
        | error _ => exact .inr abandoned

/-- **A pass meets no outage, or gives a candidate up for it.** -/
theorem abandons_pass (none : NoOutage s) (referenceTime : Option Int) :
    RunAlone (runCandidateBackupRetriggerPass fromisoformat uuid5 access referenceTime)
      (fun _ t => NoOutage t ∨ Abandoned t) s := by
  have stops : ∀ {α : Type} (failure : Failure) (t : System), NoOutage t →
      (fun (_ : Except Failure α) t => NoOutage t ∨ Abandoned t) (.error failure) t :=
    fun _ _ none => .inl none
  refine Ensures.bind (Ensures.mono (m := fun _ t => NoOutage t) ?_ fun result t none => ?_)
  · cases referenceTime with
    | some time => exact none
    | none => exact calm_alone (every_clock StaysCalm.refl) none
  cases result with
  | error failure => exact .inl none
  | ok now =>
    refine Ensures.bind (Ensures.mono (m := settles (fun _ t => NoOutage t) fun item t =>
      NoOutage t ∧ ∀ first, item = some first → ∀ claimed,
        t.store.getWork first.workKind first.workKey = .ok claimed →
          t.store.findWork .candidate claimed.workKey = some claimed ∧ claimed.status = .running ∧
            1 ≤ claimed.attempts) (ensures_rethrow (ensures_transaction ?_ ?_))
      fun result t held => ?_)
    · rintro _ item store rfl claims
      refine ⟨trivial, StaysCalm.of_exchanges rfl none, ?_⟩
      rintro first rfl claimed found
      exact claimBackupWork_runs claims found
    · rintro _ failure rfl _
      exact ⟨trivial, none⟩
    cases result with
    | error failure => exact .inl held
    | ok item =>
      cases item with
      | none => exact .inl held.1
      | some first =>
        refine Ensures.bind (ensures_rethrow (ensures_query ?_))
        rintro _ rfl
        refine ⟨trivial, ?_⟩
        cases found : t.store.getWork first.workKind first.workKey with
        | error failure => exact .inl held.1
        | ok claimed =>
          refine Ensures.bind ((abandons_executeClaimedBackup held.1
            (held.2 first rfl claimed found)).mono fun result u ended => ?_)
          cases result with
          | ok _ => exact ended
          | error _ => exact ended

end Pass

/-! ## Runs -/

section Runs

variable {fromisoformat : String → Option DateTime} {uuid5 : PyStr → String} {s t : System}

/-- No backup was planned, and the Supervisor was not asked for one. -/
structure NoBackupYet (s : System) : Prop where
  checkpoints : s.store.backupCheckpoints = []
  exchanges : s.exchanges = []
  failures : ∀ candidateSha, s.backupFailures candidateSha = []

theorem NoBackupYet.sound (fresh : NoBackupYet s) : BackupsSound fromisoformat s := by
  intro candidateSha
  have posts : s.backupPosts candidateSha = 0 := by
    unfold System.backupPosts
    rw [fresh.exchanges]
    rfl
  have absent : s.store.backupCheckpoint candidateSha = none := by
    unfold Store.backupCheckpoint
    rw [fresh.checkpoints]
    rfl
  refine ⟨fun _ => posts, posts ▸ Nat.zero_le 1, ?_, ?_, ?_⟩
  · exact fun _ _ _ _ found => nomatch absent.symm.trans found
  · exact fun _ _ _ found => nomatch absent.symm.trans found
  · intro failure member
    rw [fresh.failures] at member
    cases member

/-- A failure that is transient comes from an outage. -/
theorem BackupsSound.spares (sound : BackupsSound fromisoformat s) (none : NoOutage s) :
    SparesOutages s := by
  rintro candidateSha ⟨failure, head, transient⟩
  have member := List.mem_of_mem_head? head
  exact absurd ((sound candidateSha).outages failure member transient) (none candidateSha)

/-- A pass gives nothing up for an outage just where it meets none. -/
theorem spares_pass (sound : BackupsSound fromisoformat s) (none : NoOutage s)
    (access : BackupAccess) (referenceTime : Option Int)
    (after : ((runCandidateBackupRetriggerPass fromisoformat uuid5 access referenceTime).eval s).2 = t) :
    SparesOutages t ↔ NoOutage t := by
  subst after
  constructor
  · intro spares
    have ran : RunAlone (runCandidateBackupRetriggerPass fromisoformat uuid5 access referenceTime)
        (fun _ t => NoOutage t ∨ Abandoned t) s := abandons_pass none referenceTime
    have ended := ran.eval fun _ => rfl
    rcases ended with calm | abandoned
    · exact calm
    · exact absurd spares abandoned.spares
  · intro calm
    have safe := ensures_runCandidateBackupRetriggerPass fromisoformat access uuid5 referenceTime sound
    have kept : BackupsSound fromisoformat _ :=
      Prog.Safe.run_keeps BackupOthers.refl (fun _ _ backs sound => backs.sound sound) safe sound
    exact kept.spares calm

/-- **The backup of a candidate is requested once, and given up for no outage unless one is met.** In
every run of the stage, whatever the Supervisor answers and wherever a call breaks off, a request is
sent at most once for a candidate and while its row says so; a completed row holds the slug that an
answer gave for the name of the request and that was verified; and a row that has ended stays as it
is. As long as no reconciliation meets an outage no candidate is given up for one, and the next pass
leaves it so exactly when it meets none itself. -/
theorem backup_requested_once {here : Prog.Point System Unit} (fresh : NoBackupYet s)
    (reached : Prog.Reach BackupOthers (BackupCall fromisoformat uuid5) (.rest s) here) :
    (∀ candidateSha, here.state.backupPosts candidateSha ≤ 1) ∧
    (∀ candidateSha there, Prog.Move BackupOthers (BackupCall fromisoformat uuid5) here there →
      there.state.backupPosts candidateSha = here.state.backupPosts candidateSha + 1 →
      ∃ row startedAt, here.state.store.backupCheckpoint candidateSha = some row ∧
        row.phase = .mutationStarted startedAt) ∧
    (∀ candidateSha row startedAt slug completedAt,
      here.state.store.backupCheckpoint candidateSha = some row →
      row.phase = .completed startedAt slug completedAt →
      NamedBackup fromisoformat candidateSha row.requestName startedAt slug here.state ∧
        VerifiedBackup candidateSha row.coreVersion slug here.state) ∧
    (∀ candidateSha row, here.state.store.backupCheckpoint candidateSha = some row →
      row.phase.terminal = true →
      ∀ there, Prog.Reach BackupOthers (BackupCall fromisoformat uuid5) here there →
        there.state.store.backupCheckpoint candidateSha = some row) ∧
    (NoOutage here.state → SparesOutages here.state ∧ ∀ access referenceTime t,
      ((runCandidateBackupRetriggerPass fromisoformat uuid5 access referenceTime).eval
        here.state).2 = t → (SparesOutages t ↔ NoOutage t)) := by
  have service := backupCalls_keep fromisoformat uuid5
  have kept := service.reach (.rest fresh.sound) reached
  refine ⟨fun candidateSha => (kept.inv candidateSha).once, ?_, ?_, ?_, ?_⟩
  · intro candidateSha there moved sent
    rcases (service.move kept moved).2 with others | backs
    · have same : there.state.backupPosts candidateSha = here.state.backupPosts candidateSha :=
        backupPosts_congr others.exchanges
      omega
    · exact backs.posted sent
  · exact fun candidateSha => (kept.inv candidateSha).completed
  · intro candidateSha row found ended there later
    refine service.along (fun u => u.store.backupCheckpoint candidateSha = some row)
      (fun u v found moved => ?_) (fun _ _ found backs => backs.ended found ended) kept later found
    exact (backupCheckpoint_congr moved.checkpoints).trans found
  · intro none
    exact ⟨kept.inv.spares none, fun access referenceTime t after =>
      spares_pass kept.inv none access referenceTime after⟩

end Runs

/-! ## An outage while a request is reconciled -/

def queuedSha : ShortDigest := ⟨"eeeeeeeeeeeeeeeeeeeeeeeeeeeeeeeeeeeeeeee", by decide⟩

def queuedTarget : PyStr := text "home/config"

def queuedDigests : CandidateDigests :=
  ⟨sha256Empty [], sha256Empty [], sha256Empty [], sha256Empty [], sha256Empty [], sha256Empty []⟩

def queuedOrchestration : CandidateOrchestration :=
  ⟨queuedSha, queuedTarget, 1, .semanticallyValidated, 0, 0⟩

def queuedSemantic : CandidateSemanticValidation :=
  ⟨queuedTarget, 1, firstCommit, sha256Empty [], sha256Empty [], .low, "2026.1.0"⟩

/-- The checkpoint that the candidate was validated with. -/
def queuedCheckpoint : CandidateCheckpoint .semantic where
  candidateSha := queuedSha
  orchestration := { queuedOrchestration with phase := .staticValidated }
  sources := [sha256Empty [], sha256Empty [], sha256Empty [], sha256Empty [], sha256Empty []]
  target := queuedTarget
  repositoryId := 1
  subject := .release firstCommit (sha256Empty []) (sha256Empty []) "2026.1.0"
  phase := .completed (.semantic queuedSemantic) 0
  plannedAt := 0
  recordSha256 := sha256Empty []

/-- A candidate that was validated, and whose backup is not planned yet. -/
def queuedHome (supervisor : BackupRequest → BackupAnswer) : System :=
  { setUp queuedTarget (sha256Empty []) with
    store := { (setUp queuedTarget (sha256Empty [])).store with
      work := [Store.pendingWork .candidate queuedSha.key 0]
      orchestrations := [queuedOrchestration]
      checkpoints := fun
        | .semantic => [queuedCheckpoint]
        | _ => [] }
    backup := ⟨fun _ => some ⟨queuedSemantic, queuedDigests⟩, fun _ => true, supervisor⟩ }

def queuedPass (now : Int) : Prog System Unit :=
  (runCandidateBackupRetriggerPass (fun _ => none) (fun _ => "deployment")
    ⟨some "token", fun _ => none⟩ (some now)).call

/-- The state after a pass. -/
def passed (now : Int) (s : System) : System := ((queuedPass now).advance 40 s).2

theorem passed_reached (now : Int) (s : System) :
    Prog.Reach BackupOthers (BackupCall (fun _ => none) fun _ => "deployment") (.rest s)
      (.rest (passed now s)) :=
  .head (.start (.pass _ _) s) ((Prog.Reach.advance 40 (queuedPass now) s).tail (.crash _ _))

/-- The Supervisor is out of reach. -/
def unreachableHome : System := queuedHome fun _ => .exception

/-- The request, and a minute later its reconciliation. -/
def outageHome : System := passed 60 (passed 0 unreachableHome)

/-- The outage ends the candidate: its backup and its work are blocked. -/
theorem backup_given_up_for_outage :
    ¬∀ (fromisoformat : String → Option DateTime) (uuid5 : PyStr → String) (s : System)
      (here : Prog.Point System Unit), NoBackupYet s →
      Prog.Reach BackupOthers (BackupCall fromisoformat uuid5) (.rest s) here →
        SparesOutages here.state := by
  intro spares
  have reached := (passed_reached 0 unreachableHome).trans (passed_reached 60 _)
  have fresh : NoBackupYet unreachableHome := ⟨rfl, rfl, fun _ => rfl⟩
  have failed : FailedForOutage queuedSha outageHome :=
    ⟨⟨"Supervisor backup request failed", true⟩, by decide, rfl⟩
  have blocked : (outageHome.store.backupCheckpoint queuedSha).map (·.phase) =
      some (.blocked (some 0) 60) := by decide
  obtain ⟨row, found, phase⟩ := Option.map_eq_some_iff.mp blocked
  exact (spares _ _ _ (.rest outageHome) fresh reached queuedSha failed).1 ⟨row, _, _, found, phase⟩

/-- A Supervisor that makes the backup. -/
def answeringHome : System :=
  queuedHome fun request =>
    match request with
    | .create _ => .response ⟨200, "application/json", ⟨1, some (.obj [("slug", .str "backup")])⟩⟩
    | .info _ => .response ⟨200, "application/json", ⟨1, some (.obj [("slug", .str "backup"),
        ("type", .str "full"), ("homeassistant", .str "2026.1.0")])⟩⟩
    | .inventory => .exception

def preparedHome : System := passed 0 answeringHome

example : (preparedHome.store.backupCheckpoint queuedSha).map (·.phase) =
    some (.completed 0 "backup" 0) := by decide

theorem backup_requested_once_prepared :
    preparedHome.backupPosts queuedSha ≤ 1 ∧ SparesOutages preparedHome := by
  have fresh : NoBackupYet answeringHome := ⟨rfl, rfl, fun _ => rfl⟩
  have holds := backup_requested_once fresh (passed_reached 0 answeringHome)
  have none : NoOutage preparedHome := by
    rintro candidateSha ⟨exchange, member, _, _, outage⟩
    have calm : preparedHome.exchanges.all fun exchange => !exchange.answer.outage := by decide
    have answered := List.all_eq_true.mp calm exchange member
    rw [outage] at answered
    cases answered
  exact ⟨holds.1 queuedSha, (holds.2.2.2.2 none).1⟩

end SyncApp
