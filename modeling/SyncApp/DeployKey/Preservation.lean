import SyncApp.DeployKey.Resumption

/-!
# What no run of administrative calls loses

Without any condition on the run: no key directory is lost (`no_generation_lost`), whichever steps
fail and wherever a call is broken off. And a request is attempted at most eight times: its receipt
says how often it was, and a receipt that is not for a retry is never replaced
(`receipts_are_bounded`).
-/

set_option autoImplicit false

namespace SyncApp.DeployKey

open Lib Raising

/-! ## Directories -/

/-- A directory that is in some place is in some place still, and no receipt changes. -/
structure Retains (s t : KeyHome) : Prop where
  receipts : t.receipts = s.receipts
  directories : ∀ place directory, s.files.directory place = some directory →
    ∃ place', t.files.directory place' = some directory

namespace Retains

variable {α : Type}

theorem of_directories {s t : KeyHome} (receipts : t.receipts = s.receipts)
    (same : t.files.directory = s.files.directory) : Retains s t :=
  ⟨receipts, fun place _ there => ⟨place, (congrFun same place).trans there⟩⟩

theorem of_looking {s t : KeyHome} (looking : Looking s t) : Retains s t :=
  .of_directories (congrArg KeyState.receipts looking)
    (congrArg (KeyFiles.directory ∘ KeyState.files) looking)

theorem of_generates {s t : KeyHome} {place : KeyPlace} (generates : Generates place s t) :
    Retains s t := by
  refine ⟨generates.receipts, fun other directory there => ⟨other, ?_⟩⟩
  by_cases here : other = place
  · subst here
    rcases generates.appears with same | ⟨absent, -⟩
    · exact same.trans there
    · cases absent.symm.trans there
  · exact (generates.directories other here).trans there

theorem weaken {acts : KeyHome → KeyHome → Prop} {program : KeyProgram α}
    (every : Every acts program) (weaker : ∀ s t, acts s t → Retains s t) :
    Every Retains program := by
  have all (p : Prog KeyHome (Except KeyError α)) (each : Prog.Every acts p) :
      Prog.Every Retains p := by
    induction p with
    | done a => trivial
    | act update next ih =>
      exact ⟨fun s => weaker s _ (each.1 s), fun s => ih s (each.2 s)⟩
  exact all program.run every

theorem looks {program : KeyProgram α} (looking : Every Looking program) : Every Retains program :=
  weaken looking fun _ _ => of_looking

theorem look {fault : KeyError} {read : KeyFiles → Except KeyError α} :
    Every Retains (look fault read) := looks (look_looks _ _)

theorem generates {place : KeyPlace} {program : KeyProgram α}
    (every : Every (Generates place) program) : Every Retains program :=
  weaken every fun _ _ => of_generates

theorem writeRecord (record : RotationRecord) : Every Retains (writeRecord record) := by
  have synced : Every Retains (change id) :=
    every_change (fun _ => of_directories rfl rfl) fun _ => of_directories rfl rfl
  have renamed : Every Retains (change (·.setRecord record)) :=
    every_change (fun _ => of_directories rfl rfl) fun _ => of_directories rfl rfl
  have written : Every Retains (do
      change id
      change id
      change (·.setRecord record)
      fsyncDirectory
      return (.ok () : Except KeyError Unit)) :=
    synced.bind fun _ => synced.bind fun _ => renamed.bind fun _ => synced.bind fun _ => .pure _
  exact (written.tryCatch fun _ => .pure _).bind fun _ => synced.bind fun _ => .ofResult _

theorem persistOrFail (record : RotationRecord) : Every Retains (persistOrFail record) :=
  every_failingAs (writeRecord record)

theorem suppressedWrite (record : RotationRecord) : Every Retains (suppressedWrite record) :=
  (writeRecord record).tryCatch fun _ => .pure _

theorem recordCandidate (record : RotationRecord) {candidate : KeyProgram DeployKeyEnrollment}
    (generates : Every Retains candidate) (raised : KeyError) :
    Every Retains (recordCandidate record candidate raised) := by
  refine ((generates.bind fun _ => .pure _).tryCatch fun _ => .pure _).bind fun generated => ?_
  cases generated with
  | error other => exact (suppressedWrite _).bind fun _ => .throw _
  | ok enrollment =>
    exact ((writeRecord _).bind fun _ => .pure _).tryCatch fun _ =>
      (suppressedWrite _).bind fun _ => .throw _

theorem replayPrepare (record : RotationRecord) : Every Retains (replayPrepare record) := by
  unfold DeployKey.replayPrepare
  have replays (record : RotationRecord) : Every Retains (do
      validateRecordGenerations record
      ofResult record.status) :=
    (looks (validateRecordGenerations_looks record)).bind fun _ => .ofResult _
  have active (record : RotationRecord) {rest : KeyProgram DeployKeyRotationStatus}
      (goes : Every Retains rest) : Every Retains (do
        let active ← inspectKey .active "active"
        ofResult (record.verifyOriginal active)
        rest) :=
    (looks (inspectKey_looks _ _)).bind fun _ => (Every.ofResult _).bind fun _ => goes
  cases record.phase with
  | activating => exact replays record
  | activated => exact replays record
  | prepared => exact active record (replays record)
  | verified => exact active record (replays record)
  | blocked =>
    refine active record ?_
    split
    · exact .throw _
    · exact .throw _
  | preparing =>
    exact active record ((recordCandidate record (generates existingCandidate_generates) _).bind
      fun prepared => replays prepared)

theorem beginRotation (requestId target : String) (repositoryId : Int) :
    Every Retains (beginRotation requestId target repositoryId) := by
  refine (looks (inspectKey_looks _ _)).bind fun active => (looks (lexists_looks _)).bind fun _ =>
    (looks (lexists_looks _)).bind fun _ => ?_
  split
  · split
    · exact .throw _
    · exact .throw _
  · refine look.bind fun _ => ?_
    split
    · exact .throw _
    · refine (looks answers_looks).bind fun answered => ?_
      refine ((writeRecord _).tryCatch fun _ => (suppressedWrite _).bind fun _ => .throw _).bind
        fun _ => ?_
      exact (recordCandidate _ (generates (ensureRepoBDeployKey_generates _)) _).bind fun _ =>
        .ofResult _

theorem prepareRepoBDeployKeyRotation (requestId target : String) (repositoryId : Int) :
    Every Retains (prepareRepoBDeployKeyRotation requestId target repositoryId) := by
  refine (Every.ofResult _).bind fun _ => look.bind fun _ => look.bind fun there => ?_
  split
  · exact look.bind fun record => (Every.ofResult _).bind fun _ => replayPrepare record
  · exact beginRotation requestId target repositoryId

theorem verifyCandidateAccess (record : RotationRecord) (target : String) (repositoryId : Int) :
    Every Retains (verifyCandidateAccess record target repositoryId) := by
  refine ((looks ((testRepoBDeployKeyAccess_looks _ _ _).bind fun _ => .pure _)).tryCatch
    fun _ => .pure _).bind fun tested => ?_
  cases tested with
  | error raised =>
    dsimp only
    split
    · exact .throw _
    · exact (persistOrFail _).bind fun _ => .throw _
  | ok proof =>
    dsimp only
    split
    · exact (persistOrFail _).bind fun _ => .throw _
    · exact (persistOrFail _).bind fun _ => .ofResult _

theorem verifyRepoBDeployKeyRotation (requestId target : String) (repositoryId : Int) :
    Every Retains (verifyRepoBDeployKeyRotation requestId target repositoryId) := by
  refine (Every.ofResult _).bind fun _ => look.bind fun _ => look.bind fun record =>
    (Every.ofResult _).bind fun _ => (looks (validateRecordGenerations_looks record)).bind fun _ => ?_
  cases record.phase with
  | blocked => exact .throw _
  | preparing => exact .throw _
  | verified => exact .ofResult _
  | activating => exact .ofResult _
  | activated => exact .ofResult _
  | prepared => exact verifyCandidateAccess record target repositoryId

/-- A rename takes a directory to a place where none is. -/
theorem renameDirectory (source destination : KeyPlace) :
    Every Retains (renameDirectory source destination) := by
  refine (looks (lexists_looks _)).bind fun there => ?_
  split
  · exact .throw _
  · refine Every.bind (every_onFiles (fun _ => of_directories rfl rfl)
      fun home result files taken => ?_) fun _ => generates (@Generates.fsync .active)
    split at taken
    · next directory moved free =>
        cases taken
        refine ⟨rfl, fun place other here => ?_⟩
        by_cases isSource : place = source
        · subst isSource
          obtain rfl : directory = other := Option.some.inj (moved.symm.trans here)
          refine ⟨destination, ?_⟩
          have apart : destination ≠ place := by
            rintro rfl
            cases free.symm.trans here
          simp [KeyFiles.setDirectory, apart]
        · refine ⟨place, ?_⟩
          have apart : place ≠ destination := by
            rintro rfl
            cases free.symm.trans here
          simp [KeyFiles.setDirectory, isSource, apart, here]
    · cases taken

theorem reconcileActivation (originalId candidateId : String) (rounds : Nat) :
    Every Retains (reconcileActivation originalId candidateId rounds) := by
  induction rounds with
  | zero => exact .throw _
  | succ rounds ih =>
    refine (looks inspectPlaces_looks).bind fun states => ?_
    split
    · exact (renameDirectory _ _).bind fun _ => ih
    · split
      · exact (renameDirectory _ _).bind fun _ => ih
      · split
        · exact .pure _
        · exact .throw _

theorem finishActivation (record : RotationRecord) : Every Retains (finishActivation record) := by
  refine Every.bind (every_failingAs ?_) fun _ =>
    (looks (validateRecordGenerations_looks _)).bind fun _ => .ofResult _
  cases record.candidate with
  | none => exact (Every.throw _).bind fun _ => writeRecord _
  | some candidate => exact (reconcileActivation _ _ _).bind fun _ => writeRecord _

theorem activateRepoBDeployKeyRotation (requestId : String) :
    Every Retains (activateRepoBDeployKeyRotation requestId) := by
  refine look.bind fun _ => look.bind fun record => ?_
  have validates := looks (validateRecordGenerations_looks record)
  split
  · exact .throw _
  · cases record.phase with
    | blocked => exact .throw _
    | preparing => exact .throw _
    | prepared => exact .throw _
    | activated => exact validates.bind fun _ => .ofResult _
    | verified =>
      exact validates.bind fun _ => (persistOrFail _).bind fun _ => finishActivation _
    | activating => exact finishActivation record

theorem performAction (request : KeyRequest) (settings : KeySettings) :
    Every Retains (performAction request settings) := by
  unfold DeployKey.performAction
  cases request.action with
  | generate =>
    exact (generates (ensureRepoBDeployKey_generates _)).bind fun _ => .pure _
  | test => exact (looks (testRepoBDeployKeyAccess_looks _ _ _)).bind fun _ => .pure _
  | rotatePrepare => exact (prepareRepoBDeployKeyRotation _ _ _).bind fun _ => .pure _
  | rotateVerify => exact (verifyRepoBDeployKeyRotation _ _ _).bind fun _ => .pure _
  | rotateActivate => exact (activateRepoBDeployKeyRotation _).bind fun _ => .pure _

end Retains

/-! ## Runs -/

open Lib.Machine

/-- Directories that are somewhere are somewhere still. -/
def KeyFiles.Loses (files files' : KeyFiles) : Prop :=
  ∃ place directory, files.directory place = some directory ∧
    ∀ place', files'.directory place' ≠ some directory

theorem KeyFiles.not_loses {files files' : KeyFiles} :
    ¬files.Loses files' ↔ ∀ place directory, files.directory place = some directory →
      ∃ place', files'.directory place' = some directory := by
  simp only [KeyFiles.Loses, not_exists, not_and, not_forall, not_not]

theorem attemptAction_loses_nothing (request : KeyRequest) (settings : KeySettings) (attempts : Nat)
    (now : Int) :
    Every (fun s t => ¬s.files.Loses t.files) (attemptAction request settings attempts now) := by
  have same (home : KeyHome) (files : KeyFiles) (same : files = home.files) :
      ¬home.files.Loses files := by
    subst same
    exact KeyFiles.not_loses.mpr fun place _ there => ⟨place, there⟩
  have performed : Every (fun s t => ¬s.files.Loses t.files) (performAction request settings) := by
    have all (p : Prog KeyHome (Except KeyError ActionOutcome)) (each : Prog.Every Retains p) :
        Prog.Every (fun s t => ¬s.files.Loses t.files) p := by
      induction p with
      | done a => trivial
      | act update next ih =>
        exact ⟨fun s => KeyFiles.not_loses.mpr (each.1 s).directories, fun s => ih s (each.2 s)⟩
    exact all _ (Retains.performAction request settings)
  refine ((performed.bind fun _ => .pure _).tryCatch fun _ => .pure _).bind fun done => ?_
  refine (Every.action fun home => ?_).bind fun _ => .pure _
  split
  · exact same home _ rfl
  · exact same home _ rfl

theorem KeyCall.program_loses_nothing (call : KeyCall) :
    Every (fun s t => ¬s.files.Loses t.files) call.program := by
  unfold KeyCall.program applyDeployKeyAdministrativeRequest
  split
  · exact .throw _
  · refine (Every.action fun home => ?_).bind fun existing => ?_
    · exact KeyFiles.not_loses.mpr fun place _ there => ⟨place, there⟩
    · cases existing with
      | none => exact attemptAction_loses_nothing _ _ _ _
      | some receipt =>
        dsimp only
        split
        · exact .throw _
        · split
          · exact .pure _
          · exact attemptAction_loses_nothing _ _ _ _

theorem KeyCall.perform_loses_nothing (call : KeyCall) (state : KeyState) :
    ¬state.files.Loses (call.perform state).2.files := by
  have leaves : Ensures (· = ·) (fun _ t => ¬state.files.Loses t.files) call.program
      (fun _ t => ¬state.files.Loses t.files) (call.home state) := by
    refine Prog.Every.alone_leaves call.program_loses_nothing (fun s t acted here => ?_) ?_
    · refine KeyFiles.not_loses.mpr fun place directory there => ?_
      obtain ⟨place', there⟩ := KeyFiles.not_loses.mp here place directory there
      exact KeyFiles.not_loses.mp acted place' directory there
    · exact KeyFiles.not_loses.mpr fun place _ there => ⟨place, there⟩
  exact KeyCall.perform_leaves (fun left : KeyState => ¬state.files.Loses left.files) leaves
    (KeyFiles.not_loses.mpr fun place _ there => ⟨place, there⟩)

/-- **No run loses a key**: a generation that is on disk at one point of a run, in use, as a candidate
or retained, is on disk at every later one, whichever steps fail and wherever calls are broken off. -/
theorem no_generation_lost (state : KeyState) (calls : List KeyCall) (m n : Nat) (earlier : m ≤ n)
    (place : KeyPlace) (directory : KeyDirectory)
    (there : (after performCall state (calls.take m)).files.directory place = some directory) :
    ∃ place', (after performCall state (calls.take n)).files.directory place' = some directory := by
  induction calls generalizing state m n place with
  | nil =>
    rw [List.take_nil] at there ⊢
    exact ⟨place, there⟩
  | cons call calls ih =>
    cases n with
    | zero =>
      rw [Nat.le_zero.mp earlier] at there
      exact ⟨place, there⟩
    | succ n =>
      cases m with
      | zero =>
        obtain ⟨place', there⟩ :=
          KeyFiles.not_loses.mp (call.perform_loses_nothing state) place directory there
        exact ih (call.perform state).2 0 n (Nat.zero_le n) place' there
      | succ m => exact ih (call.perform state).2 m n (Nat.le_of_succ_le_succ earlier) place there

/-- The key in use is on disk when the rotation that replaces it is broken off between its renames. -/
theorem broken_off_rotation_loses_nothing :
    ∃ place, (after performCall noKeys
      ((rotationCalls (activationCall [] (some 20))).take 4)).files.directory place =
        some ⟨some ⟨"ssh-ed25519 AAAA", "SHA256:" ++ (keyUuid 1).val, (keyUuid 1).val⟩⟩ :=
  no_generation_lost noKeys _ 1 4 (by decide) .active _ (by decide +kernel)

/-! ## Receipts -/

/-- How long a retry waits. -/
def pauseAfter (attempts : Nat) : Nat := min (60 * 2 ^ (attempts - 1)) 3600

/-- What holds of every receipt. -/
structure KeyReceipt.Sound (receipt : KeyReceipt) : Prop where
  attempted : 1 ≤ receipt.attempts
  bounded : receipt.attempts ≤ maxAttempts
  retried : receipt.status = .retry → receipt.attempts < maxAttempts ∧
    receipt.nextAttemptAt = some (receipt.processedAt + pauseAfter receipt.attempts)

/-- A receipt that a later one may stand in the place of. -/
def KeyReceipt.Precedes (receipt later : KeyReceipt) : Prop :=
  receipt = later ∨ receipt.status = .retry ∧ receipt.attempts < later.attempts ∧
    receipt.processedAt + pauseAfter receipt.attempts ≤ later.processedAt

theorem KeyReceipt.Precedes.trans {receipt later last : KeyReceipt} (first : receipt.Precedes later)
    (rest : later.Precedes last) : receipt.Precedes last := by
  rcases first with rfl | ⟨retried, fewer, paused⟩
  · exact rest
  · rcases rest with rfl | ⟨-, fewer', paused'⟩
    · exact .inr ⟨retried, fewer, paused⟩
    · refine .inr ⟨retried, Nat.lt_trans fewer fewer', le_trans paused (le_trans ?_ paused')⟩
      exact Int.le_add_of_nonneg_right (Int.natCast_nonneg _)

/-- The receipt of an attempt. -/
theorem receiptOf_sound {settings : KeySettings} {attempts : Nat} {now : Int}
    {performed : Except KeyError ActionOutcome} (attempted : 1 ≤ attempts)
    (bounded : attempts ≤ maxAttempts) : (receiptOf settings attempts now performed).Sound := by
  unfold receiptOf
  cases performed with
  | ok done =>
    refine ⟨attempted, bounded, fun wrong => ?_⟩
    dsimp only at wrong
    split at wrong
    · cases wrong
    · cases wrong
  | error raised =>
    dsimp only
    split
    · next again => exact ⟨attempted, bounded, fun _ => ⟨again.2, rfl⟩⟩
    · exact ⟨attempted, bounded, nofun⟩

theorem receiptOf_attempts (settings : KeySettings) (attempts : Nat) (now : Int)
    (performed : Except KeyError ActionOutcome) :
    (receiptOf settings attempts now performed).attempts = attempts ∧
      (receiptOf settings attempts now performed).processedAt = now := by
  unfold receiptOf
  cases performed with
  | ok done => exact ⟨rfl, rfl⟩
  | error raised =>
    dsimp only
    split
    · exact ⟨rfl, rfl⟩
    · exact ⟨rfl, rfl⟩

/-- Every receipt is sound. -/
def KeyState.Receipted (state : KeyState) : Prop :=
  ∀ requestId kind receipt, state.receipts requestId kind = some receipt → receipt.Sound

/-- Each receipt gives way to a later one at most. -/
def KeyState.Succeeds (later state : KeyState) : Prop :=
  ∀ requestId kind receipt, state.receipts requestId kind = some receipt →
    ∃ next, later.receipts requestId kind = some next ∧ receipt.Precedes next

theorem attemptAction_receipted {home : KeyHome} (receipted : home.Receipted) {request : KeyRequest}
    {settings : KeySettings} {attempts : Nat} {now : Int} (attempted : 1 ≤ attempts)
    (bounded : attempts ≤ maxAttempts)
    (next : ∀ receipt, home.receipts request.requestId request.action = some receipt →
      receipt.status = .retry ∧ receipt.attempts < attempts ∧
        receipt.processedAt + pauseAfter receipt.attempts ≤ now) :
    Ensures (· = ·) (fun _ t => t.Receipted ∧ t.Succeeds home.toKeyState)
      (attemptAction request settings attempts now)
      (fun _ t => t.Receipted ∧ t.Succeeds home.toKeyState) home := by
  have stays {t : KeyHome} (same : t.receipts = home.receipts) :
      t.Receipted ∧ t.Succeeds home.toKeyState := by
    refine ⟨fun requestId kind receipt there => receipted requestId kind receipt (same ▸ there), ?_⟩
    exact fun requestId kind receipt there =>
      ⟨receipt, (congrFun (congrFun same requestId) kind).trans there, .inl rfl⟩
  have saves (result : Except KeyError ActionOutcome) (t : KeyHome)
      (same : t.receipts = home.receipts) :
      Ensures (· = ·) (fun _ t => t.Receipted ∧ t.Succeeds home.toKeyState) (do
        let receipt := receiptOf settings attempts now result
        saveReceipt request receipt
        return receipt.result false) (fun _ t => t.Receipted ∧ t.Succeeds home.toKeyState) t := by
    refine Ensures.bind (Ensures.action fun t' here => ?_)
    subst here
    split
    · have saved : (t.toKeyState.withReceipt request
          (receiptOf settings attempts now result)).Receipted ∧
          (t.toKeyState.withReceipt request
            (receiptOf settings attempts now result)).Succeeds home.toKeyState := by
        constructor
        · intro requestId kind receipt there
          change (if _ then _ else t.receipts requestId kind) = _ at there
          split at there
          · cases there
            exact receiptOf_sound attempted bounded
          · exact (stays same).1 requestId kind receipt there
        · intro requestId kind receipt there
          show ∃ next, (if requestId = request.requestId ∧ kind = request.action then
            some (receiptOf settings attempts now result) else t.receipts requestId kind) = some next ∧ _
          split
          · next key =>
              obtain ⟨rfl, rfl⟩ := key
              obtain ⟨retried, fewer, paused⟩ := next receipt there
              obtain ⟨counted, processed⟩ := receiptOf_attempts settings attempts now result
              exact ⟨_, rfl, .inr ⟨retried, counted.symm ▸ fewer, processed.symm ▸ paused⟩⟩
          · exact (stays same).2 requestId kind receipt there
      exact ⟨saved, saved⟩
    · exact ⟨stays same, stays same⟩
  have performed := Prog.Every.alone_leaves (Retains.performAction request settings)
    (fun s t acted (here : s.receipts = home.receipts) => acted.receipts.trans here) rfl
  have guarded := Prog.Safe.guarantees performed fun _ t same => stays same
  refine Ensures.bind (Ensures.tryCatch (Ensures.bind (Ensures.mono guarded ?_)))
  intro result t same
  cases result with
  | ok done => exact saves (.ok done) t same
  | error raised => exact saves (.error raised) t same

theorem KeyCall.program_receipted (call : KeyCall) {state : KeyState} (receipted : state.Receipted) :
    Ensures (· = ·) (fun _ t => t.Receipted ∧ t.Succeeds state) call.program
      (fun _ t => t.Receipted ∧ t.Succeeds state) (call.home state) := by
  have here : state.Receipted ∧ state.Succeeds state :=
    ⟨receipted, fun _ _ receipt there => ⟨receipt, there, .inl rfl⟩⟩
  unfold KeyCall.program applyDeployKeyAdministrativeRequest
  split
  · exact .throw here
  · refine Ensures.bind (Ensures.action fun t same => ?_)
    subst same
    refine ⟨here, ?_⟩
    dsimp only
    cases there : (call.home state).receipts call.request.requestId call.request.action with
    | none =>
      refine @attemptAction_receipted (call.home state) receipted _ _ _ _ (le_refl 1) (by decide) fun receipt wrong => ?_
      cases there.symm.trans wrong
    | some receipt =>
      dsimp only
      split
      · exact .throw here
      · split
        · exact .pure here
        · next due =>
            have sound := receipted _ _ _ there
            have due : receipt.status = .retry ∧ ¬receipt.nextAttemptAt.any (call.now < ·) = true := by
              simpa [KeyReceipt.replays] using due
            obtain ⟨fewer, paused⟩ := sound.retried due.1
            refine @attemptAction_receipted (call.home state) receipted _ _ _ _ (Nat.le_add_left 1 _) fewer fun other same => ?_
            cases there.symm.trans same
            refine ⟨due.1, Nat.lt_succ_self _, ?_⟩
            have late := due.2
            rw [paused] at late
            simpa using late

theorem KeyCall.perform_receipted (call : KeyCall) {state : KeyState} (receipted : state.Receipted) :
    (call.perform state).2.Receipted ∧ (call.perform state).2.Succeeds state := by
  exact KeyCall.perform_leaves (fun left : KeyState => left.Receipted ∧ left.Succeeds state)
    (call.program_receipted receipted)
    ⟨receipted, fun _ _ receipt there => ⟨receipt, there, .inl rfl⟩⟩

/-- **A request is attempted at most eight times, each time after its pause, and an outcome that is
not for a retry stays for ever.** -/
theorem receipts_are_bounded (state : KeyState) (receipted : state.Receipted) (calls : List KeyCall)
    (m n : Nat) (earlier : m ≤ n) (requestId : String) (kind : KeyAction) (receipt : KeyReceipt)
    (there : (after performCall state (calls.take m)).receipts requestId kind = some receipt) :
    receipt.Sound ∧ ∃ later,
      (after performCall state (calls.take n)).receipts requestId kind = some later ∧
        receipt.Precedes later := by
  induction calls generalizing state m n receipt with
  | nil =>
    rw [List.take_nil] at there ⊢
    exact ⟨receipted _ _ _ there, receipt, there, .inl rfl⟩
  | cons call calls ih =>
    obtain ⟨next, succeeds⟩ := call.perform_receipted receipted
    cases n with
    | zero =>
      rw [Nat.le_zero.mp earlier] at there
      exact ⟨receipted _ _ _ there, receipt, there, .inl rfl⟩
    | succ n =>
      cases m with
      | zero =>
        obtain ⟨between, there', first⟩ := succeeds requestId kind receipt there
        obtain ⟨-, later, last, rest⟩ := ih (call.perform state).2 next 0 n (Nat.zero_le n) between
          there'
        exact ⟨receipted _ _ _ there, later, last, first.trans rest⟩
      | succ m =>
        exact ih (call.perform state).2 next m n (Nat.le_of_succ_le_succ earlier) receipt there

/-- A test that is repeated after its pause. -/
theorem repeated_test_is_bounded :
    ∃ receipt later : KeyReceipt, receipt.Sound ∧ (after performCall noKeys
      [unreachedCall 0, unreachedCall 60]).receipts (keyUuid 2).val .test = some later ∧
        receipt.Precedes later ∧ later.attempts = 2 := by
  obtain ⟨receipt, there⟩ := Option.isSome_iff_exists.mp (by decide +kernel :
    ((after performCall noKeys ([unreachedCall 0, unreachedCall 60].take 1)).receipts
      (keyUuid 2).val .test).isSome = true)
  obtain ⟨sound, later, last, precedes⟩ := receipts_are_bounded noKeys (fun _ _ _ => nofun)
    [unreachedCall 0, unreachedCall 60] 1 2 (by decide) _ _ receipt there
  have counted := (by decide +kernel : ((after performCall noKeys
    [unreachedCall 0, unreachedCall 60]).receipts (keyUuid 2).val .test).map (·.attempts) = some 2)
  rw [show (after performCall noKeys [unreachedCall 0, unreachedCall 60]).receipts
    (keyUuid 2).val .test = some later from last] at counted
  exact ⟨receipt, later, sound, last, precedes, Option.some.inj counted⟩

end SyncApp.DeployKey
