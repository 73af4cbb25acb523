import SyncApp.DeployKey.Interruption

/-!
# A rotation is taken up where it was left

In every run of administrative calls, broken off anywhere, both generations stay on disk, and the
request that activates a rotation is through once it is repeated undisturbed (`rotation_resumes`).

Two things break this. An activation in which a step fails is booked as blocked, and is never tried
again; and between the two renames, when no key is in use, a request to generate one makes a third.
-/

set_option autoImplicit false

namespace SyncApp.DeployKey

open Lib Raising

variable {receipts : String → KeyAction → Option KeyReceipt} {files : KeyFiles}
  {record : RotationRecord} {original candidate : DeployKeyEnrollment}

/-! ## An activation in which no step fails -/

theorem reconcileActivation_calm {renames : Renames}
    (renamed : Renaming files original candidate renames) {rounds : Nat}
    (enough : renames.left < rounds) :
    ∃ files', files'.record = files.record ∧ Renaming files' original candidate .after ∧
      Calmly (reconcileActivation original.generationId candidate.generationId rounds) files (.ok ())
        files' := by
  induction rounds generalizing files renames with
  | zero => exact absurd enough (Nat.not_lt_zero _)
  | succ rounds ih =>
    have found := Calmly.inspectPlaces renamed.unjournaled renamed.directory
    rw [renames.states_holds] at found
    cases renames with
    | before =>
      obtain ⟨files', same, after, goes⟩ := ih renamed.retains (by
        simp only [Renames.left] at enough ⊢
        omega)
      refine ⟨files', same, after, .bind found ?_⟩
      dsimp only [Renames.states]
      rw [if_pos rfl]
      exact .bind (.renameDirectory (renamed.directory .active) (renamed.directory .retained)) goes
    | between =>
      obtain ⟨files', same, after, goes⟩ := ih renamed.activates (by
        simp only [Renames.left] at enough ⊢
        omega)
      refine ⟨files', same, after, .bind found ?_⟩
      dsimp only [Renames.states]
      rw [if_neg (by simp), if_pos rfl]
      exact .bind (.renameDirectory (renamed.directory .candidate) (renamed.directory .active)) goes
    | after =>
      refine ⟨files, rfl, renamed, .bind found ?_⟩
      dsimp only [Renames.states]
      rw [if_neg (by simp), if_neg (by simp), if_pos rfl]
      exact .pure _ _

/-- The status of a rotation that is through. -/
def RotationRecord.activatedStatus (record : RotationRecord) (candidate : DeployKeyEnrollment) :
    DeployKeyRotationStatus :=
  ⟨record.requestId, record.rotationId, .activated, record.target, record.repositoryId,
    candidate.generationId, candidate.fingerprint, some candidate, record.observationSha256,
    some (record.originalGenerationId, record.originalFingerprint), record.blockedReason⟩

theorem RotationRecord.status_activated (chosen : record.candidate = some candidate) :
    ({ record with phase := .activated } : RotationRecord).status =
      .ok (record.activatedStatus candidate) := by
  obtain ⟨⟩ := record
  cases chosen
  rfl

/-- A rotation that is through validates. -/
theorem validateRecordGenerations_calm (activation : Activation record original candidate)
    (renamed : Renaming files original candidate .after) :
    Calmly (validateRecordGenerations { record with phase := .activated }) files (.ok ()) files := by
  refine .unjournaled (renamed.unjournaled .candidate) ?_
  refine .bind (.inspectKey (renamed.unjournaled .active) (renamed.directory .active)) ?_
  refine .bind (.inspectKey (renamed.unjournaled .retained) (renamed.directory .retained)) ?_
  have ids : ¬(some candidate.generationId ≠ generationIdOf record.candidate ∨
      original.generationId ≠ record.originalGenerationId) := by
    rw [activation.chosen, activation.started.generation]
    simp [generationIdOf]
  rw [if_neg ids]
  have verified : ({ record with phase := .activated } : RotationRecord).verifyCandidate candidate =
      .ok () := if_neg (not_not.mpr activation.chosen)
  have retained : ({ record with phase := .activated } : RotationRecord).verifyOriginal original =
      .ok () := by
    refine if_neg ?_
    rw [activation.started.generation, activation.started.fingerprint]
    simp
  refine .bind (.lexists files .candidate) ?_
  have gone : files.directory .candidate = none := renamed.directory .candidate
  rw [gone, Option.isSome_none, if_neg Bool.false_ne_true]
  exact .bind (.done verified) (.done retained)

theorem Renames.left_lt (renames : Renames) : renames.left < 3 := by
  cases renames with
  | before => decide
  | between => decide
  | after => decide

theorem finishActivation_calm {renames : Renames}
    (activation : Activation record original candidate)
    (renamed : Renaming files original candidate renames) :
    ∃ files', files'.record = some { record with phase := .activated } ∧
      Renaming files' original candidate .after ∧
        Calmly (finishActivation record) files (.ok (record.activatedStatus candidate)) files' := by
  obtain ⟨files', -, after, reconciled⟩ := reconcileActivation_calm renamed
    renames.left_lt
  have after' : Renaming (files'.setRecord { record with phase := .activated }) original candidate
      .after := ⟨after.unjournaled, after.directory⟩
  refine ⟨files'.setRecord { record with phase := .activated }, rfl, after', ?_⟩
  rw [activation.started.generation] at reconciled
  rw [finishActivation_eq activation.chosen]
  refine .bind (.failingAs (.bind reconciled (.writeRecord _ files'))) ?_
  exact .bind (validateRecordGenerations_calm activation after')
    (.done (RotationRecord.status_activated activation.chosen))

theorem readRecord_calm (recorded : files.record = some record) (valid : record.valid = true) :
    Calmly readRecord files (.ok record) files := by
  refine .look ?_
  rw [KeyFiles.readRecord, recorded]
  exact if_pos valid

theorem Activating.valid {renames : Renames}
    (activating : Activating receipts files record original candidate renames) :
    record.valid = true := by
  obtain ⟨-, phase, ⟨-, chosen, -, observed, unblocked⟩, -, -⟩ := activating
  simp only [RotationRecord.valid, phase, chosen, observed, unblocked]
  rfl

/-- **An activation that was left at any of its renames is through, once no step fails.** -/
theorem activateRepoBDeployKeyRotation_calm {renames : Renames}
    (activating : Activating receipts files record original candidate renames) :
    ∃ files', files'.record = some { record with phase := .activated } ∧
      Renaming files' original candidate .after ∧
        Calmly (activateRepoBDeployKeyRotation record.requestId) files
          (.ok (record.activatedStatus candidate)) files' := by
  obtain ⟨files', recorded, renamed, goes⟩ :=
    finishActivation_calm activating.activation activating.renamed
  refine ⟨files', recorded, renamed, .bind (.look rfl) (.bind (readRecord_calm activating.recorded
    activating.valid) ?_)⟩
  rw [if_neg (not_not.mpr rfl), activating.phase]
  exact goes

/-- A rotation whose access is proved validates. -/
theorem Begun.validates (begun : Begun files record original) (phase : record.phase = .verified) :
    Calmly (validateRecordGenerations record) files (.ok ()) files := by
  obtain ⟨named, unjournaled⟩ := begun.ready (.inr phase)
  obtain ⟨candidate, chosen⟩ := Option.ne_none_iff_exists'.mp named
  have verified : record.verifyCandidate candidate = .ok () := if_neg (not_not.mpr chosen)
  have started : record.verifyOriginal original = .ok () := by
    refine if_neg ?_
    rw [begun.started.generation, begun.started.fingerprint]
    simp
  refine .unjournaled unjournaled ?_
  rw [phase]
  refine .bind (.inspectKey begun.settled begun.inUse) (.bind (.done started) ?_)
  rw [chosen]
  refine .bind (.inspectKey unjournaled (begun.named candidate chosen)) (.bind (.done verified) ?_)
  refine .bind (.lexists files .retained) ?_
  rw [begun.unretained, Option.isSome_none, if_neg Bool.false_ne_true]
  exact .pure _ _

/-- An activation of a rotation whose access is proved is through, when no step fails. -/
theorem Begun.activates (begun : Begun files record original) (phase : record.phase = .verified)
    (valid : record.valid = true) :
    ∃ files' status, files'.record = some { record with phase := .activated } ∧
      Calmly (activateRepoBDeployKeyRotation record.requestId) files (.ok status) files' := by
  obtain ⟨candidate, activating⟩ :=
    @Begun.activating (fun _ _ => none) _ _ _ begun phase valid rfl
  obtain ⟨files', recorded, -, goes⟩ :=
    finishActivation_calm activating.activation activating.renamed
  refine ⟨files', record.activatedStatus candidate, recorded, .bind (.look rfl) (.bind (readRecord_calm begun.recorded valid) ?_)⟩
  rw [if_neg (not_not.mpr rfl), phase]
  exact .bind (begun.validates phase) (.bind (.failingAs (.writeRecord _ files)) goes)

/-! ## An activation ends -/

/-- No activation is under way for the request. -/
def KeyFiles.Settled (files : KeyFiles) (requestId : String) : Prop :=
  ∀ record, files.record = some record → record.requestId = requestId → record.phase ≠ .activating

/-- What holds after a program that looks, and after what follows it. -/
theorem eval_looks_bind {α β : Type} {program : KeyProgram α} {rest : α → KeyProgram β}
    {home : KeyHome} (holds : KeyFiles → Prop) (looking : Every Looking program)
    (failed : holds home.files)
    (goes : ∀ a home', program.eval home = (.ok a, home') → home'.files = home.files →
      holds ((rest a).eval home').2.files) : holds ((program >>= rest).eval home).2.files := by
  have same : (program.eval home).2.files = home.files := by
    have kept := Prog.Safe.run (fun _ => rfl) (Prog.Every.alone looking
      (fun s t acted (here : s.files = home.files) => (congrArg KeyState.files acted).trans here)
      (rfl : home.files = home.files))
    exact kept
  rw [eval_bind]
  cases ended : program.eval home with
  | mk result home' =>
    rw [ended] at same
    cases result with
    | ok a => exact goes a home' ended same
    | error raised =>
      rw [← same] at failed
      exact failed

/-- What a calm run ends in. -/
theorem Calmly.eval {α : Type} {program : KeyProgram α} {result : Except KeyError α}
    {files' : KeyFiles} {home : KeyHome} (calmly : Calmly program home.files result files')
    (untroubled : true ∉ home.faults) :
    (program.eval home).1 = result ∧ (program.eval home).2.files = files' ∧
      (program.eval home).2.receipts = home.receipts := by
  obtain ⟨faults, -, ran⟩ := calmly home rfl untroubled
  rw [ran]
  exact ⟨rfl, rfl, rfl⟩

/-- An activation that cannot go on changes nothing. -/
theorem activateRepoBDeployKeyRotation_stays {home : KeyHome} {requestId : String}
    (settled : home.files.Settled requestId)
    (unverified : ∀ record, home.files.record = some record → record.requestId = requestId →
      record.valid = true → record.phase ≠ .verified) :
    ((activateRepoBDeployKeyRotation requestId).eval home).2.files.Settled requestId := by
  refine eval_looks_bind (·.Settled requestId) (look_looks _ _) settled fun _ home' _ same => ?_
  rw [← same] at settled unverified
  refine eval_looks_bind (·.Settled requestId) (look_looks _ _) settled
    fun record home'' read same => ?_
  obtain ⟨recorded, valid⟩ := KeyFiles.readRecord_ok (eval_look_ok read).1
  rw [← same] at settled
  split
  · exact settled
  · have bound : record.requestId = requestId := Decidable.not_not.mp ‹_›
    cases phase : record.phase with
    | blocked => exact settled
    | preparing => exact settled
    | prepared => exact settled
    | verified => exact absurd phase (unverified record recorded bound valid)
    | activating => exact absurd phase (settled record (by rw [same]; exact recorded) bound)
    | activated =>
      exact eval_looks_bind (·.Settled requestId) (validateRecordGenerations_looks record) settled
        fun _ home' _ same => same.symm ▸ settled

/-- An activation in which no step fails where it could go on leaves none under way. -/
theorem activateRepoBDeployKeyRotation_settles {home : KeyHome}
    (good : Good receipts home.files) {requestId : String}
    (unanswered : receipts requestId .rotateActivate = none)
    (untroubled : ∀ record, home.files.record = some record → record.requestId = requestId →
      record.phase = .verified ∨ record.phase = .activating → true ∉ home.faults) :
    ((activateRepoBDeployKeyRotation requestId).eval home).2.files.Settled requestId := by
  -- A record that says `activated` settles the request.
  have through {record : RotationRecord} {files' : KeyFiles}
      (recorded : files'.record = some { record with phase := .activated }) :
      files'.Settled requestId := by
    intro other there _ wrong
    cases recorded.symm.trans there
    cases wrong
  by_cases verified : ∃ record, home.files.record = some record ∧ record.requestId = requestId ∧
      record.valid = true ∧ record.phase = .verified
  · obtain ⟨record, recorded, rfl, valid, phase⟩ := verified
    have early : record.phase ≠ .activating ∧ record.phase ≠ .activated := by
      rw [phase]
      exact ⟨nofun, nofun⟩
    obtain ⟨original, begun⟩ := good.fits.begun_of recorded early
    obtain ⟨files', status, after, goes⟩ := begun.activates phase valid
    rw [(goes.eval (untroubled record recorded rfl (.inl phase))).2.1]
    exact through after
  · by_cases settled : home.files.Settled requestId
    · refine activateRepoBDeployKeyRotation_stays settled fun record recorded bound valid phase => ?_
      exact verified ⟨record, recorded, bound, valid, phase⟩
    · simp only [KeyFiles.Settled, not_forall, not_not] at settled
      obtain ⟨record, recorded, rfl, phase⟩ := settled
      cases good.fits with
      | idle unrecorded => cases unrecorded.symm.trans recorded
      | begun other original begun =>
        cases begun.recorded.symm.trans recorded
        exact absurd phase begun.early.1
      | activated other original candidate there activated =>
        cases there.symm.trans recorded
        cases phase.symm.trans activated
      | activating other original candidate renames there _ activation renamed =>
        cases there.symm.trans recorded
        obtain ⟨files', after, -, goes⟩ := activateRepoBDeployKeyRotation_calm
          ⟨recorded, phase, activation, renamed, unanswered⟩
        rw [(goes.eval (untroubled record recorded rfl (.inr phase))).2.1]
        exact through after

/-! ## An activation that fails is not repeated -/

/-- What the program raises is final. -/
def Final {α : Type} (program : KeyProgram α) : Prop :=
  ∀ home home' raised, program.eval home = (.error raised, home') → raised.transient = false

namespace Final

variable {α β : Type}

theorem pure (a : α) : Final (Pure.pure a : KeyProgram α) := by
  intro home home' raised ran
  cases ran

theorem throw {raised : KeyError} (final : raised.transient = false) :
    Final (MonadExcept.throw raised : KeyProgram α) := by
  rintro home home' other ⟨⟩
  exact final

theorem ofResult {result : Except KeyError α}
    (final : ∀ raised, result = .error raised → raised.transient = false) :
    Final (Raising.ofResult result : KeyProgram α) := by
  intro home home' raised ran
  exact final raised (congrArg Prod.fst ran)

theorem bind {program : KeyProgram α} {rest : α → KeyProgram β} (first : Final program)
    (goes : ∀ a, Final (rest a)) : Final (program >>= rest) := by
  intro home home' raised ran
  rcases eval_bind_eq_error.mp ran with failed | ⟨a, between, -, failed⟩
  · exact first home home' raised failed
  · exact goes a between home' raised failed

theorem failingAs {program : KeyProgram α} {raised : KeyError} (final : raised.transient = false) :
    Final (failingAs raised program) := by
  intro home home' other ran
  rw [DeployKey.failingAs, eval_tryCatch] at ran
  cases ended : program.eval home with
  | mk result between =>
    rw [ended] at ran
    cases result with
    | ok a => cases ran
    | error _ =>
      cases ran
      exact final

theorem look {fault : KeyError} {read : KeyFiles → Except KeyError α}
    (failed : fault.transient = false)
    (final : ∀ files raised, read files = .error raised → raised.transient = false) :
    Final (look fault read) := by
  intro home home' raised ran
  rw [look_eq] at ran
  have ended : (if home.faults.head? = some true then .error fault else read home.files) =
      Except.error raised := congrArg Prod.fst ran
  split at ended
  · cases ended
    exact failed
  · exact final home.files raised ended

/-- A look that always finds something. -/
theorem find {fault : KeyError} (read : KeyFiles → α) (failed : fault.transient = false) :
    Final (DeployKey.look fault fun files => .ok (read files)) := by
  refine look failed fun files raised wrong => ?_
  cases wrong

end Final

theorem inspectKey_final (place : KeyPlace) (label : String) : Final (inspectKey place label) :=
  .failingAs rfl

theorem lexists_final (place : KeyPlace) : Final (lexists place) := .find _ rfl

theorem inspectOptional_final (place : KeyPlace) : Final (inspectOptional place) := by
  refine .bind (lexists_final place) fun there => ?_
  split
  · exact .bind (inspectKey_final _ _) fun _ => .pure _
  · exact .pure _

theorem inspectPlaces_final : Final inspectPlaces :=
  .bind (inspectOptional_final _) fun _ => .bind (inspectOptional_final _) fun _ =>
    .bind (inspectOptional_final _) fun _ => .pure _

theorem verifyOriginal_final (record : RotationRecord) (enrollment : DeployKeyEnrollment) :
    ∀ raised, record.verifyOriginal enrollment = .error raised → raised.transient = false := by
  intro raised failed
  unfold RotationRecord.verifyOriginal at failed
  split at failed
  · cases failed
    rfl
  · cases failed

theorem verifyCandidate_final (record : RotationRecord) (enrollment : DeployKeyEnrollment) :
    ∀ raised, record.verifyCandidate enrollment = .error raised → raised.transient = false := by
  intro raised failed
  unfold RotationRecord.verifyCandidate at failed
  split at failed
  · cases failed
    rfl
  · cases failed

theorem validateActivated_final (record : RotationRecord) : Final (validateActivated record) := by
  refine .bind (inspectKey_final _ _) fun active => .bind (inspectKey_final _ _) fun retained => ?_
  split
  · exact .throw rfl
  · refine .bind (lexists_final _) fun there => ?_
    split
    · exact .throw rfl
    · exact .bind (.ofResult (verifyCandidate_final _ _)) fun _ =>
        .ofResult (verifyOriginal_final _ _)

theorem validateStaged_final (record : RotationRecord) : Final (validateStaged record) := by
  refine .bind (inspectKey_final _ _) fun active =>
    .bind (.ofResult (verifyOriginal_final _ _)) fun _ => ?_
  split
  · split
    · exact .throw rfl
    · refine .bind (lexists_final _) fun there => ?_
      split
      · exact .throw rfl
      · exact .pure _
  · refine .bind (inspectKey_final _ _) fun candidate =>
      .bind (.ofResult (verifyCandidate_final _ _)) fun _ => .bind (lexists_final _) fun there => ?_
    split
    · exact .throw rfl
    · exact .pure _

theorem validateRecordGenerations_final (record : RotationRecord) :
    Final (validateRecordGenerations record) := by
  refine .bind (.find _ rfl) fun there => ?_
  split
  · exact .throw rfl
  · split
    · refine .bind inspectPlaces_final fun states => ?_
      split
      · exact .throw rfl
      · exact .pure _
    · exact validateActivated_final record
    · exact validateStaged_final record

theorem status_final (record : RotationRecord) :
    ∀ raised, record.status = .error raised → raised.transient = false := by
  intro raised failed
  unfold RotationRecord.status at failed
  split at failed
  · split at failed
    · cases failed
      rfl
    · cases failed
  · cases failed

theorem finishActivation_final (record : RotationRecord) : Final (finishActivation record) :=
  .bind (.failingAs rfl) fun _ => .bind (validateRecordGenerations_final _) fun _ =>
    .ofResult (status_final _)

/-- **Whatever fails in an activation, the failure is final.** -/
theorem activateRepoBDeployKeyRotation_final (requestId : String) :
    Final (activateRepoBDeployKeyRotation requestId) := by
  refine .bind (.find _ rfl) fun _ => .bind (.look rfl fun files raised failed => ?_) fun record => ?_
  · unfold KeyFiles.readRecord at failed
    split at failed
    · cases failed
      rfl
    · split at failed
      · cases failed
      · cases failed
        rfl
  · have replays : Final (do
        validateRecordGenerations record
        ofResult record.status) :=
      .bind (validateRecordGenerations_final _) fun _ => .ofResult (status_final _)
    split
    · exact .throw rfl
    · cases phase : record.phase with
      | blocked => exact .throw rfl
      | preparing => exact .throw rfl
      | prepared => exact .throw rfl
      | activated => exact replays
      | activating => exact finishActivation_final record
      | verified =>
        exact .bind (validateRecordGenerations_final _) fun _ => .bind (.failingAs rfl) fun _ =>
          finishActivation_final _

/-! ## Calls -/

/-- The files fit the record, an activation that is under way has no receipt, and no activation is to
be tried again. -/
structure Upheld (state : KeyState) : Prop where
  good : Good state.receipts state.files
  final : ∀ requestId receipt, state.receipts requestId .rotateActivate = some receipt →
    receipt.status ≠ .retry

namespace KeyCall

variable (call : KeyCall)

/-- The call gets to its action: no receipt is replayed, and none is for another repository. -/
def performs (state : KeyState) : Bool :=
  call.request.valid call.settings &&
    match state.receipts call.request.requestId call.request.action with
    | none => true
    | some receipt => receipt.target == call.settings.target.toLower &&
        receipt.repositoryId == call.settings.repositoryId && !receipt.replays call.now

end KeyCall

/-- No key is generated while a rotation has none in use, and no step fails in an activation that can
go on. -/
structure Orderly (state : KeyState) (call : KeyCall) : Prop where
  inUse : call.performs state = true → call.request.action = .generate →
    state.files.record ≠ none → state.files.directory .active ≠ none
  untroubled : call.performs state = true → call.request.action = .rotateActivate →
    ∀ record, state.files.record = some record → record.requestId = call.request.requestId →
      record.phase = .verified ∨ record.phase = .activating → true ∉ call.faults

theorem receiptOf_final {settings : KeySettings} {attempts : Nat} {now : Int}
    {performed : Except KeyError ActionOutcome}
    (final : ∀ raised, performed = .error raised → raised.transient = false) :
    (receiptOf settings attempts now performed).status ≠ .retry := by
  unfold receiptOf
  cases performed with
  | ok done =>
    dsimp only
    split
    · nofun
    · nofun
  | error raised =>
    dsimp only
    rw [final raised rfl, if_neg (fun wrong => Bool.false_ne_true wrong.1)]
    nofun

/-- Another receipt leaves what is upheld, where it is final and leaves no activation under way. -/
theorem Upheld.withReceipt {state : KeyState} (upheld : Upheld state) {request : KeyRequest}
    {receipt : KeyReceipt}
    (settled : request.action = .rotateActivate → state.files.Settled request.requestId)
    (final : request.action = .rotateActivate → receipt.status ≠ .retry) :
    Upheld (state.withReceipt request receipt) := by
  refine ⟨⟨upheld.good.fits, fun record recorded phase => ?_⟩, fun requestId other there => ?_⟩
  · show (if record.requestId = request.requestId ∧ KeyAction.rotateActivate = request.action then
      some receipt else state.receipts record.requestId .rotateActivate) = none
    split
    · next same => exact absurd phase (settled same.2.symm record recorded same.1)
    · exact upheld.good.pending record recorded phase
  · change (if requestId = request.requestId ∧ KeyAction.rotateActivate = request.action then
      some receipt else state.receipts requestId .rotateActivate) = some other at there
    split at there
    · next same =>
        cases there
        exact final same.2.symm
    · exact upheld.final requestId other there

/-- What is kept since a state. -/
def KeptSince (start : KeyFiles) (home : KeyHome) : Prop :=
  Upheld home.toKeyState ∧ start.Continues home.files

theorem attemptAction_upholds {home : KeyHome} {start : KeyFiles} (kept : KeptSince start home)
    {request : KeyRequest}
    (inUse : request.action = .generate → home.files.record ≠ none →
      home.files.directory .active ≠ none)
    (unanswered : request.action = .rotateActivate →
      home.receipts request.requestId .rotateActivate = none)
    (untroubled : request.action = .rotateActivate → ∀ record, home.files.record = some record →
      record.requestId = request.requestId → record.phase = .verified ∨ record.phase = .activating →
        true ∉ home.faults) (settings : KeySettings) (attempts : Nat) (now : Int) :
    Ensures (· = ·) (fun _ t => KeptSince start t) (attemptAction request settings attempts now)
      (fun _ t => KeptSince start t) home := by
  obtain ⟨upheld, continues⟩ := kept
  have stays (t : KeyHome) (stable : Stable home.receipts start t) : KeptSince start t :=
    ⟨⟨stable.unsaved.symm ▸ stable.good, fun requestId receipt there =>
      upheld.final requestId receipt (stable.unsaved ▸ there)⟩, stable.continues⟩
  have sustained : Sustains home.receipts start (performAction request settings) (fun _ _ => True)
      home.files := performAction_sustains upheld.good request settings inUse unanswered
  have performed := Prog.Safe.with_run (sustained home rfl ⟨rfl, upheld.good, continues⟩)
  have guarded := Prog.Safe.guarantees performed fun _ t stable => stays t stable
  -- Where the action ends: the receipt that is saved then leaves no activation under way.
  have saves (result : Except KeyError ActionOutcome) (t : KeyHome)
      (stable : Stable home.receipts start t)
      (ran : (performAction request settings).eval home = (result, t)) :
      Ensures (· = ·) (fun _ t => KeptSince start t) (do
        let receipt := receiptOf settings attempts now result
        saveReceipt request receipt
        return receipt.result false) (fun _ t => KeptSince start t) t := by
    obtain ⟨upheld', continues'⟩ := stays t stable
    have activation (action : request.action = .rotateActivate) :
        t.files.Settled request.requestId ∧
          ∀ raised, result = .error raised → raised.transient = false := by
      have settles := activateRepoBDeployKeyRotation_settles upheld.good (unanswered action)
        (untroubled action)
      rw [performAction, action] at ran
      change (activateRepoBDeployKeyRotation request.requestId >>= fun status =>
        pure (rotationResult "activated" status)).eval home = (result, t) at ran
      rw [eval_bind] at ran
      cases ended : (activateRepoBDeployKeyRotation request.requestId).eval home with
      | mk performed t' =>
        rw [ended] at ran settles
        cases performed with
        | ok status =>
          cases ran
          exact ⟨settles, nofun⟩
        | error raised =>
          cases ran
          refine ⟨settles, ?_⟩
          rintro other ⟨⟩
          exact activateRepoBDeployKeyRotation_final _ _ _ _ ended
    refine Ensures.bind (Ensures.action fun t' same => ?_)
    subst same
    split
    · have saved : Upheld (t.toKeyState.withReceipt request
          (receiptOf settings attempts now result)) :=
        upheld'.withReceipt (fun action => (activation action).1)
          fun action => receiptOf_final (activation action).2
      exact ⟨⟨saved, continues'⟩, ⟨saved, continues'⟩⟩
    · exact ⟨⟨upheld', continues'⟩, ⟨upheld', continues'⟩⟩
  refine Ensures.bind (Ensures.tryCatch (Ensures.bind (Ensures.mono guarded ?_)))
  rintro result t ⟨⟨stable, -⟩, ran⟩
  cases result with
  | ok done => exact saves (.ok done) t stable ran
  | error raised => exact saves (.error raised) t stable ran

/-- **Whatever a call leaves, wherever it is broken off, is upheld, and the rotation goes on.** -/
theorem KeyCall.program_upholds {state : KeyState} {call : KeyCall} (upheld : Upheld state)
    (orderly : Orderly state call) :
    Ensures (· = ·) (fun _ t => KeptSince state.files t) call.program
      (fun _ t => KeptSince state.files t) (call.home state) := by
  have kept : KeptSince state.files (call.home state) := ⟨upheld, .refl _⟩
  have attempts (performs : call.performs state = true)
      (unanswered : call.request.action = .rotateActivate →
        state.receipts call.request.requestId .rotateActivate = none) (count : Nat) :
      Ensures (· = ·) (fun _ t => KeptSince state.files t)
        (attemptAction call.request call.settings count call.now)
        (fun _ t => KeptSince state.files t) (call.home state) :=
    attemptAction_upholds kept (orderly.inUse performs) unanswered (orderly.untroubled performs) _ _ _
  unfold KeyCall.program applyDeployKeyAdministrativeRequest
  split
  · exact .throw kept
  · next valid =>
      refine Ensures.bind (Ensures.action fun t same => ?_)
      subst same
      refine ⟨kept, ?_⟩
      show Ensures _ _ (match state.receipts call.request.requestId call.request.action with
        | none => attemptAction call.request call.settings 1 call.now
        | some receipt => _) _ _
      cases there : state.receipts call.request.requestId call.request.action with
      | none =>
        refine attempts ?_ (fun action => action ▸ there) 1
        rw [KeyCall.performs, there, Bool.and_true]
        exact Bool.eq_true_of_not_eq_false valid
      | some receipt =>
        dsimp only
        split
        · exact .throw kept
        · next bound =>
            split
            · exact .pure kept
            · next due =>
                obtain ⟨target, repositoryId⟩ := not_or.mp bound
                refine attempts ?_ (fun action => ?_) _
                · rw [KeyCall.performs, there, Bool.eq_true_of_not_eq_false valid]
                  simp [Decidable.not_not.mp target, Decidable.not_not.mp repositoryId, due]
                · -- A receipt of an activation is always replayed.
                  rw [action] at there
                  have final := upheld.final _ _ there
                  exact absurd (by simp [KeyReceipt.replays, final]) due

/-- What the program of a call leaves at each of its actions, the call leaves, wherever it is broken
off. -/
theorem KeyCall.perform_leaves {state : KeyState} {call : KeyCall} (holds : KeyState → Prop)
    (program : Ensures (· = ·) (fun _ t => holds t.toKeyState) call.program
      (fun _ t => holds t.toKeyState) (call.home state)) (here : holds state) :
    holds (call.perform state).2 := by
  unfold KeyCall.perform
  cases call.brokenOff with
  | none => exact Prog.Safe.run (fun _ => rfl) program
  | some actions =>
    have left : holds (Prog.advance actions call.program.run (call.home state)).2.toKeyState :=
      @Prog.Safe.advance_leaves KeyHome _ (· = ·) (fun _ t => holds t.toKeyState) (fun _ => rfl)
        (fun t => holds t.toKeyState) (fun _ _ left => left) actions _ _ _ program here
    exact left

theorem KeyCall.perform_upholds {state : KeyState} {call : KeyCall} (upheld : Upheld state)
    (orderly : Orderly state call) :
    Upheld (call.perform state).2 ∧ state.files.Continues (call.perform state).2.files := by
  exact KeyCall.perform_leaves
    (fun left : KeyState => Upheld left ∧ state.files.Continues left.files)
    (KeyCall.program_upholds upheld orderly) ⟨upheld, .refl _⟩

/-! ## Runs -/

open Lib.Machine

/-- The calls are made one after another. -/
abbrev performCall (call : KeyCall) (state : KeyState) :
    Option (Except KeyError KeyResult) × KeyState := call.perform state

theorem upheld_along {state : KeyState} {calls : List KeyCall} (upheld : Upheld state)
    (orderly : Along performCall Orderly state calls) {m n : Nat} (earlier : m ≤ n) :
    Upheld (after performCall state (calls.take n)) ∧
      (after performCall state (calls.take m)).files.Continues
        (after performCall state (calls.take n)).files := by
  induction calls generalizing state m n with
  | nil =>
    rw [List.take_nil, List.take_nil]
    exact ⟨upheld, .refl _⟩
  | cons call calls ih =>
    obtain ⟨next, continues⟩ := KeyCall.perform_upholds upheld orderly.1
    cases n with
    | zero =>
      rw [Nat.le_zero.mp earlier]
      exact ⟨upheld, .refl _⟩
    | succ n =>
      cases m with
      | zero =>
        obtain ⟨kept, goes⟩ := ih next orderly.2 (Nat.zero_le n)
        exact ⟨kept, continues.trans goes⟩
      | succ m => exact ih next orderly.2 (Nat.le_of_succ_le_succ earlier)

/-- The call repeats the request that activates a rotation, and nothing disturbs it. -/
structure KeyCall.Repeats (call : KeyCall) (record : RotationRecord) : Prop where
  request : call.request = ⟨record.requestId, .rotateActivate⟩
  valid : call.request.valid call.settings = true
  untroubled : true ∉ call.faults
  whole : call.brokenOff = none

/-- The rotation is through: the answer is `activated`, the candidate is in use, and the original is
retained. -/
structure Activates (call : KeyCall) (state : KeyState) (record : RotationRecord) : Prop where
  answers : ∃ result, (call.perform state).1 = some (.ok result) ∧ result.outcome = "activated"
  inUse : ∃ candidate, record.candidate = some candidate ∧
    (call.perform state).2.files.directory .active = some ⟨some candidate⟩
  retained : ∃ original, record.Original original ∧
    (call.perform state).2.files.directory .retained = some ⟨some original⟩

theorem RotationRecord.activatedStatus_loads (record : RotationRecord)
    (generated : isUuid4 candidate.generationId = true) (settings : KeySettings) (now : Int) :
    (receiptOf settings 1 now (.ok (rotationResult "activated"
      (record.activatedStatus candidate)))).loads = true := by
  rw [KeyReceipt.loads, receiptOf, rotationResult, RotationRecord.activatedStatus]
  exact generated

/-- What the request that activates a rotation answers the first time, when the activation is
through. -/
theorem activation_answers {call : KeyCall} {state : KeyState} {t : KeyHome} {requestId : String}
    {status : DeployKeyRotationStatus} (request : call.request = ⟨requestId, .rotateActivate⟩)
    (valid : call.request.valid call.settings = true)
    (unanswered : state.receipts requestId .rotateActivate = none)
    (loads : (receiptOf call.settings 1 call.now
      (.ok (rotationResult "activated" status))).loads = true)
    (ran : (activateRepoBDeployKeyRotation requestId).eval (call.home state) = (.ok status, t)) :
    call.program.eval (call.home state) =
      (.ok ((receiptOf call.settings 1 call.now (.ok (rotationResult "activated" status))).result
        false), { t with toKeyState := (t.toKeyState.withReceipt call.request
          (receiptOf call.settings 1 call.now (.ok (rotationResult "activated" status)))) }) := by
  have performed : (performAction call.request call.settings).eval (call.home state) =
      (.ok (rotationResult "activated" status), t) := by
    rw [request]
    exact eval_bind_ok ran
  have saved : (saveReceipt call.request (receiptOf call.settings 1 call.now
      (.ok (rotationResult "activated" status)))).eval t =
        (.ok (), { t with toKeyState := (t.toKeyState.withReceipt call.request
          (receiptOf call.settings 1 call.now (.ok (rotationResult "activated" status)))) }) :=
    if_pos loads
  have loaded : (loadReceipt call.request).eval (call.home state) =
      (.ok none, call.home state) := by
    show (Except.ok (state.receipts call.request.requestId call.request.action), _) = _
    rw [request, unanswered]
  rw [KeyCall.program, applyDeployKeyAdministrativeRequest, if_neg (by rw [valid]; nofun)]
  refine (eval_bind_ok loaded).trans ?_
  refine (eval_bind_ok (eval_tryCatch_ok (eval_bind_ok performed))).trans ?_
  exact eval_bind_ok saved

/-- **An activation that is under way is through once its request is repeated undisturbed.** -/
theorem Upheld.resumes {state : KeyState} (upheld : Upheld state)
    (recorded : state.files.record = some record) (phase : record.phase = .activating)
    {call : KeyCall} (repeated : call.Repeats record) : Activates call state record := by
  obtain ⟨request, valid, untroubled, whole⟩ := repeated
  have unanswered := upheld.good.pending record recorded phase
  cases upheld.good.fits with
  | idle unrecorded => cases unrecorded.symm.trans recorded
  | begun other original begun =>
    cases begun.recorded.symm.trans recorded
    exact absurd phase begun.early.1
  | activated other original candidate there activated =>
    cases there.symm.trans recorded
    cases phase.symm.trans activated
  | activating other original candidate renames there _ activation renamed =>
    cases there.symm.trans recorded
    obtain ⟨files', -, after, goes⟩ := activateRepoBDeployKeyRotation_calm
      ⟨recorded, phase, activation, renamed, unanswered⟩
    obtain ⟨faults, -, ran⟩ := goes (call.home state) rfl untroubled
    have ended := activation_answers request valid unanswered
      (record.activatedStatus_loads activation.generated _ _) ran
    have performed : call.perform state = (some (call.program.eval (call.home state)).1,
        (call.program.eval (call.home state)).2.toKeyState) := by
      rw [KeyCall.perform, whole]
    rw [ended] at performed
    refine ⟨⟨_, congrArg Prod.fst performed, rfl⟩, ⟨candidate, activation.chosen, ?_⟩,
      ⟨original, activation.started, ?_⟩⟩
    · rw [performed]
      exact after.directory .active
    · rw [performed]
      exact after.directory .retained

/-- No rotation has begun. -/
structure KeyState.Fresh (state : KeyState) : Prop where
  unrecorded : state.files.record = none
  uncandidated : state.files.directory .candidate = none
  unretained : state.files.directory .retained = none
  unjournaled : state.files.journal .candidate = none
  settled : state.files.journal .retained = none
  unanswered : ∀ requestId kind, state.receipts requestId kind = none

theorem KeyState.Fresh.upheld {state : KeyState} (fresh : state.Fresh) : Upheld state := by
  refine ⟨⟨.idle fresh.unrecorded fresh.uncandidated fresh.unretained fresh.unjournaled
    fresh.settled, fun record _ _ => fresh.unanswered _ _⟩, fun requestId receipt there => ?_⟩
  cases (fresh.unanswered requestId .rotateActivate).symm.trans there

/-- What is to hold of a rotation, by a record of it: both generations are on disk, no third is in
use, and an activation under way is through once its request is repeated undisturbed. -/
structure Intact (record : RotationRecord) (state : KeyState) : Prop where
  kept : ∃ original, record.Original original ∧
    (state.files.directory .active = some ⟨some original⟩ ∨
      state.files.directory .retained = some ⟨some original⟩)
  candidate : ∀ candidate, record.candidate = some candidate →
    state.files.directory .candidate = some ⟨some candidate⟩ ∨
      state.files.directory .active = some ⟨some candidate⟩
  thirdless : ∀ directory, state.files.directory .active = some directory →
    ∃ enrollment, directory = ⟨some enrollment⟩ ∧ (record.Original enrollment ∨
      ∃ later, state.files.record = some later ∧ later.candidate = some enrollment)
  resumes : ∀ later, state.files.record = some later → later.phase = .activating →
    ∀ call : KeyCall, call.Repeats later → Activates call state later

theorem RotationRecord.Continues.started {later : RotationRecord} (goes : record.Continues later)
    (started : later.Original original) : record.Original original :=
  ⟨started.generation.trans goes.generation, started.fingerprint.trans goes.fingerprint⟩

/-- The generations of an activation, by an earlier record. -/
theorem Renaming.intact {renames : Renames} {later : RotationRecord} {state : KeyState}
    (renamed : Renaming state.files original candidate renames)
    (activation : Activation later original candidate) (recorded : state.files.record = some later)
    (goes : record.Continues later)
    (resumes : ∀ later, state.files.record = some later → later.phase = .activating →
      ∀ call : KeyCall, call.Repeats later → Activates call state later) : Intact record state := by
  have started := goes.started activation.started
  refine ⟨⟨original, started, ?_⟩, fun other chosen => ?_, fun directory inUse => ?_, resumes⟩
  · cases renames with
    | before => exact .inl (renamed.directory .active)
    | between => exact .inr (renamed.directory .retained)
    | after => exact .inr (renamed.directory .retained)
  · have same : some candidate = some other := by
      rcases goes.candidate with unnamed | same
      · cases unnamed.symm.trans chosen
      · exact activation.chosen.symm.trans (same.trans chosen)
    cases same
    cases renames with
    | before => exact .inl (renamed.directory .candidate)
    | between => exact .inl (renamed.directory .candidate)
    | after => exact .inr (renamed.directory .active)
  · have there := (renamed.directory .active).symm.trans inUse
    cases renames with
    | before =>
      cases there
      exact ⟨original, rfl, .inl started⟩
    | between => cases there
    | after =>
      cases there
      exact ⟨candidate, rfl, .inr ⟨later, recorded, activation.chosen⟩⟩

theorem Upheld.intact {state : KeyState} (upheld : Upheld state) {later : RotationRecord}
    (recorded : state.files.record = some later) (goes : record.Continues later) :
    Intact record state := by
  have resumes : ∀ later, state.files.record = some later → later.phase = .activating →
      ∀ call : KeyCall, call.Repeats later → Activates call state later :=
    fun later recorded phase call repeated => upheld.resumes recorded phase repeated
  cases upheld.good.fits with
  | idle unrecorded => cases unrecorded.symm.trans recorded
  | activating other original candidate renames there phase activation renamed =>
    cases there.symm.trans recorded
    exact renamed.intact activation recorded goes resumes
  | activated other original candidate there phase activation renamed =>
    cases there.symm.trans recorded
    exact renamed.intact activation recorded goes resumes
  | begun other original begun =>
    cases begun.recorded.symm.trans recorded
    have started := goes.started begun.started
    refine ⟨⟨original, started, .inl begun.inUse⟩, fun candidate chosen => ?_,
      fun directory inUse => ?_, resumes⟩
    · rcases goes.candidate with unnamed | same
      · cases unnamed.symm.trans chosen
      · exact .inl (begun.named candidate (same.trans chosen))
    · cases begun.inUse.symm.trans inUse
      exact ⟨original, rfl, .inl started⟩

/-- **A rotation is atomic and resumable in orderly runs**: whatever the order of the calls, whichever
are broken off and wherever, what holds at one point of the run about the rotation holds at every
later one. -/
theorem rotation_resumes (state : KeyState) (fresh : state.Fresh) (calls : List KeyCall)
    (orderly : Along performCall Orderly state calls) (m n : Nat) (earlier : m ≤ n)
    (record : RotationRecord)
    (recorded : (after performCall state (calls.take m)).files.record = some record) :
    Intact record (after performCall state (calls.take n)) := by
  obtain ⟨upheld, continues⟩ := upheld_along fresh.upheld orderly earlier
  obtain ⟨later, there, goes⟩ := continues record recorded
  exact upheld.intact there goes

/-! ## A run -/

def keyUuid (last : Fin 5) : Uuid4 :=
  match last with
  | 0 => ⟨"00000000-0000-4000-8000-000000000000", by decide⟩
  | 1 => ⟨"00000000-0000-4000-8000-000000000001", by decide⟩
  | 2 => ⟨"00000000-0000-4000-8000-000000000002", by decide⟩
  | 3 => ⟨"00000000-0000-4000-8000-000000000003", by decide⟩
  | 4 => ⟨"00000000-0000-4000-8000-000000000004", by decide⟩

/-- A call that makes the generation it is given, where it makes one. -/
def keyCall (request : KeyRequest) (generation : Fin 5) (faults : List Bool)
    (brokenOff : Option Nat) : KeyCall :=
  ⟨request, ⟨"o/r", 1, "token"⟩, 0, ⟨keyUuid generation, keyUuid generation,
    some ("ssh-ed25519 AAAA", "SHA256:" ++ (keyUuid generation).val),
    ⟨.ok ("o/r", 1), .ok (0, "observation")⟩⟩, faults, brokenOff⟩

/-- No key, no rotation, and no receipt. -/
def noKeys : KeyState := ⟨⟨fun _ => none, fun _ => none, none⟩, fun _ _ => none⟩

theorem noKeys_fresh : noKeys.Fresh := ⟨rfl, rfl, rfl, rfl, rfl, fun _ _ => rfl⟩

/-- A rotation up to the call that activates it. -/
def rotationCalls (activation : KeyCall) : List KeyCall :=
  [keyCall ⟨(keyUuid 0).val, .generate⟩ 1 [] none,
    keyCall ⟨(keyUuid 2).val, .rotatePrepare⟩ 3 [] none,
    keyCall ⟨(keyUuid 2).val, .rotateVerify⟩ 3 [] none, activation]

/-- A test that finds the repository for a moment out of reach. -/
def unreachedCall (now : Int) : KeyCall :=
  ⟨⟨(keyUuid 2).val, .test⟩, ⟨"o/r", 1, "token"⟩, now,
    ⟨keyUuid 3, keyUuid 3, none, ⟨.error true, .ok (0, "observation")⟩⟩, [], none⟩

/-- The activation, with the steps that fail and where it is broken off. -/
def activationCall (faults : List Bool) (brokenOff : Option Nat) : KeyCall :=
  keyCall ⟨(keyUuid 2).val, .rotateActivate⟩ 3 faults brokenOff

theorem rotationCalls_orderly (brokenOff : Option Nat) :
    Along performCall Orderly noKeys (rotationCalls (activationCall [] brokenOff)) := by
  have others {state : KeyState} {call : KeyCall} (kind : call.request.action ≠ .generate)
      (quiet : call.faults = []) : Orderly state call :=
    ⟨fun _ wrong => absurd wrong kind, fun _ _ _ _ _ _ => quiet ▸ List.not_mem_nil⟩
  exact ⟨⟨fun _ _ recorded => absurd rfl recorded, nofun⟩, others nofun rfl, others nofun rfl,
    others nofun rfl, trivial⟩

/-- Broken off between the two renames, the rotation is intact while no key is in use. -/
theorem broken_off_rotation_resumes :
    ∃ record, (after performCall noKeys
        ((rotationCalls (activationCall [] (some 20))).take 3)).files.record = some record ∧
      Intact record (after performCall noKeys
        ((rotationCalls (activationCall [] (some 20))).take 4)) ∧
      (after performCall noKeys
        ((rotationCalls (activationCall [] (some 20))).take 4)).files.directory .active = none := by
  obtain ⟨record, recorded⟩ := Option.isSome_iff_exists.mp (by decide +kernel :
    (after performCall noKeys
      ((rotationCalls (activationCall [] (some 20))).take 3)).files.record.isSome = true)
  exact ⟨record, recorded, rotation_resumes noKeys noKeys_fresh _ (rotationCalls_orderly _) 3 4
    (by decide) record recorded, by decide +kernel⟩

/-- The outcome of an answer. -/
def outcomeOf : Option (Except KeyError KeyResult) → Option String
  | some (.ok result) => some result.outcome
  | _ => none

/-- The first step after the first rename fails. -/
def failingFaults : List Bool := List.replicate 18 false ++ [true]

/-- A key is generated between the renames. -/
def thirdCalls : List KeyCall :=
  rotationCalls (activationCall [] (some 20)) ++ [keyCall ⟨(keyUuid 4).val, .generate⟩ 4 [] none]

/-- **A rotation is not intact in every run**: an activation in which one step fails is answered
`blocked` for ever, with no key in use; and after one that is broken off between its renames, a request
to generate a key puts a third in use. -/
theorem rotation_not_resumable :
    (¬∀ calls : List KeyCall, ∀ m n, m ≤ n → ∀ record,
      (after performCall noKeys (calls.take m)).files.record = some record →
        Intact record (after performCall noKeys (calls.take n))) ∧
    ¬∀ calls : List KeyCall, (∀ call ∈ calls, call.faults = []) → ∀ m n, m ≤ n → ∀ record,
      (after performCall noKeys (calls.take m)).files.record = some record →
        Intact record (after performCall noKeys (calls.take n)) := by
  constructor
  · intro intact
    have found := (by decide +kernel : (after performCall noKeys
      ((rotationCalls (activationCall failingFaults none)).take 4)).files.record.map
        (fun record => (record.phase, record.requestId)) = some (.activating, (keyUuid 2).val))
    obtain ⟨record, recorded, same⟩ := Option.map_eq_some_iff.mp found
    obtain ⟨phase, requested⟩ := Prod.mk.inj same
    obtain ⟨⟨result, answered, activated⟩, -, -⟩ := (intact _ 4 4 (le_refl 4) record recorded).resumes
      record recorded phase (activationCall [] none)
      ⟨by rw [requested]; rfl, by decide, List.not_mem_nil, rfl⟩
    have blocked := (by decide +kernel : outcomeOf ((activationCall [] none).perform
      (after performCall noKeys ((rotationCalls (activationCall failingFaults none)).take 4))).1 =
        some "blocked")
    rw [answered, outcomeOf, activated] at blocked
    exact absurd blocked (by decide)
  · intro intact
    have found := (by decide +kernel : (after performCall noKeys (thirdCalls.take 5)).files.record.map
      (fun record => (record.originalGenerationId, generationIdOf record.candidate)) =
        some ((keyUuid 1).val, some (keyUuid 3).val))
    have third := (by decide +kernel :
      (after performCall noKeys (thirdCalls.take 5)).files.directory .active =
        some ⟨some ⟨"ssh-ed25519 AAAA", "SHA256:" ++ (keyUuid 4).val, (keyUuid 4).val⟩⟩)
    obtain ⟨record, recorded, same⟩ := Option.map_eq_some_iff.mp found
    obtain ⟨original, chosen⟩ := Prod.mk.inj same
    obtain ⟨enrollment, whole, known⟩ := (intact thirdCalls (by decide) 5 5 (le_refl 5) record
      recorded).thirdless _ third
    cases whole
    rcases known with started | ⟨later, recorded', named⟩
    · exact absurd (started.generation.trans original) (by decide)
    · cases recorded.symm.trans recorded'
      rw [named] at chosen
      exact absurd chosen (by decide)

end SyncApp.DeployKey
