import SyncApp.DeployKey.Fitting

/-!
# Actions that are broken off

Each administrative action keeps the files fit for the record of the rotation, whichever of its steps
fail and wherever it is broken off (`performAction_sustains`). An activation takes up its renames from
where they were left (`reconcileActivation_sustains`). A key is generated only where there is no
rotation, or one whose key is in use.
-/

set_option autoImplicit false

namespace SyncApp.DeployKey

open Lib Raising

variable {receipts : String → KeyAction → Option KeyReceipt} {start files : KeyFiles}
  {record : RotationRecord} {original candidate : DeployKeyEnrollment}

/-! ## Prepare and verify -/

/-- A rotation that is not activated yet. -/
theorem Fits.begun_of (fits : Fits files) (recorded : files.record = some record)
    (early : record.phase ≠ .activating ∧ record.phase ≠ .activated) :
    ∃ original, Begun files record original := by
  cases fits with
  | idle unrecorded =>
    rw [unrecorded] at recorded
    cases recorded
  | begun other original begun =>
    obtain rfl : other = record := Option.some.inj (begun.recorded.symm.trans recorded)
    exact ⟨original, begun⟩
  | activating other original candidate renames there phase =>
    obtain rfl : other = record := Option.some.inj (there.symm.trans recorded)
    exact absurd phase early.1
  | activated other original candidate there phase =>
    obtain rfl : other = record := Option.some.inj (there.symm.trans recorded)
    exact absurd phase early.2

/-- The record that is read is there. -/
theorem KeyFiles.readRecord_ok (read : files.readRecord = .ok record) :
    files.record = some record ∧ record.valid = true := by
  unfold KeyFiles.readRecord at read
  split at read
  · cases read
  · split at read
    · cases read
      exact ⟨‹_›, ‹_›⟩
    · cases read

/-- What follows a step that looks, on the same files. -/
theorem Sustains.looks_bind {α β : Type} {program : KeyProgram α} {rest : α → KeyProgram β}
    (looking : Every Looking program)
    (goes : ∀ a, Sustains receipts start (rest a) (fun _ _ => True) files) :
    Sustains receipts start (program >>= rest) (fun _ _ => True) files := by
  refine .bind (.looks looking fun result => ?_)
  cases result with
  | ok a => exact goes a
  | error raised => trivial

/-- What follows the record that is read. -/
theorem Sustains.readRecord_bind {β : Type} {rest : RotationRecord → KeyProgram β}
    (goes : ∀ record, files.record = some record → record.valid = true →
      Sustains receipts start (rest record) (fun _ _ => True) files) :
    Sustains receipts start (readRecord >>= rest) (fun _ _ => True) files := by
  refine .bind (.look trivial ?_)
  cases read : files.readRecord with
  | error raised => trivial
  | ok record =>
    obtain ⟨recorded, valid⟩ := KeyFiles.readRecord_ok read
    exact goes record recorded valid

/-- What is looked at last. -/
theorem Sustains.last {α : Type} {program : KeyProgram α} (looking : Every Looking program) :
    Sustains receipts start program (fun _ _ => True) files := .looks looking fun _ => trivial

theorem replayPrepare_sustains (fits : Fits files) (recorded : files.record = some record) :
    Sustains receipts start (replayPrepare record) (fun _ _ => True) files := by
  unfold replayPrepare
  have replays : Every Looking (do
      validateRecordGenerations record
      ofResult record.status) :=
    (validateRecordGenerations_looks record).bind fun _ => .ofResult _
  have replaysActive : Every Looking (do
      let active ← inspectKey .active "active"
      ofResult (record.verifyOriginal active)
      validateRecordGenerations record
      ofResult record.status) :=
    (inspectKey_looks _ _).bind fun _ => (Every.ofResult _).bind fun _ => replays
  cases phase : record.phase with
  | activating => exact .last replays
  | activated => exact .last replays
  | prepared => exact .last replaysActive
  | verified => exact .last replaysActive
  | blocked =>
    refine .looks_bind (inspectKey_looks _ _) fun active => .looks_bind (.ofResult _) fun _ => ?_
    split
    · exact .throw trivial
    · exact .throw trivial
  | preparing =>
    refine .looks_bind (inspectKey_looks _ _) fun active => .looks_bind (.ofResult _) fun _ => ?_
    have early : record.phase ≠ .activating ∧ record.phase ≠ .activated := by
      rw [phase]
      exact ⟨nofun, nofun⟩
    obtain ⟨original, begun⟩ := fits.begun_of recorded early
    refine .bind ((begun.sustains_recordCandidate phase existingCandidate_generates
      (fun _ _ _ => eval_existingCandidate_ok) _).mono fun result files' _ => ?_)
    cases result with
    | error raised => trivial
    | ok prepared =>
      exact .looks_bind (validateRecordGenerations_looks _) fun _ => .ofResult trivial

/-- The rotation that begins with the key in use. -/
theorem Begun.of_initial (uncandidated : files.directory .candidate = none)
    (unretained : files.directory .retained = none) (settled : files.journal .retained = none)
    (inUse : files.directory .active = some ⟨some original⟩)
    (unjournaled : files.journal .active = none) (requestId rotationId target : String)
    (repositoryId : Int) :
    Begun (files.setRecord (initialRecord requestId rotationId target repositoryId original))
      (initialRecord requestId rotationId target repositoryId original) original where
  inUse := inUse
  unretained := unretained
  settled := unjournaled
  unjournaled := settled
  generated := by
    intro directory there
    cases uncandidated.symm.trans there
  recorded := rfl
  started := ⟨rfl, rfl⟩
  early := ⟨nofun, nofun⟩
  unprepared := fun _ => rfl
  named := nofun
  ready := by
    rintro (wrong | wrong)
    · cases wrong
    · cases wrong

theorem beginRotation_sustains (good : Good receipts files) (unrecorded : files.record = none)
    (requestId target : String) (repositoryId : Int) :
    Sustains receipts start (beginRotation requestId target repositoryId) (fun _ _ => True) files := by
  have continues (record : RotationRecord) : files.Continues (files.setRecord record) := by
    intro other there
    cases unrecorded.symm.trans there
  refine .bind ((Sustains.finds (inspectKey_looks _ _)).mono fun result files' ends => ?_)
  obtain ⟨same, home, home', here, ran⟩ := ends
  cases same
  cases result with
  | error raised => trivial
  | ok active =>
    obtain ⟨inspected, -⟩ := eval_inspectKey_ok ran
    rw [here] at inspected
    obtain ⟨inUse, unjournaled⟩ := KeyFiles.inspect_ok inspected
    refine .looks_bind (lexists_looks _) fun there => .looks_bind (lexists_looks _) fun there' => ?_
    split
    · split
      · exact .throw trivial
      · exact .throw trivial
    · refine .looks_bind (look_looks _ _) fun journaled => ?_
      split
      · exact .throw trivial
      · refine .looks_bind answers_looks fun answered => ?_
        cases good.fits with
        | begun other original begun => cases unrecorded.symm.trans begun.recorded
        | activating other original candidate renames recorded => cases unrecorded.symm.trans recorded
        | activated other original candidate recorded => cases unrecorded.symm.trans recorded
        | idle _ uncandidated unretained _ settled =>
          have begun := Begun.of_initial uncandidated unretained settled inUse unjournaled requestId
            answered.rotationId.val target repositoryId
          have blocked := begun.blockedFor .generationFailed
          have written : Begun (files.setRecord ((initialRecord requestId answered.rotationId.val
              target repositoryId active).blockedFor .generationFailed)) _ active :=
            ⟨⟨blocked.inUse, blocked.unretained, blocked.settled, blocked.unjournaled,
              blocked.generated⟩, rfl, blocked.started, blocked.early, blocked.unprepared,
              blocked.named, blocked.ready⟩
          refine .bind (.tryCatch (.writeRecord good begun.good (continues _) ?_ fun _ => ⟨?_, ?_⟩))
          · refine .bind ((begun.sustains_recordCandidate rfl (ensureRepoBDeployKey_generates _)
              (fun _ _ _ => eval_ensureRepoBDeployKey_ok) _).mono fun result files' _ => ?_)
            cases result with
            | error raised => trivial
            | ok prepared => exact .ofResult trivial
          · exact .bind (.suppressedWrite good written.good (continues _) (.throw trivial)
              (.throw trivial))
          · exact .bind (.suppressedWrite begun.good blocked.good
              (.setRecord rfl (RotationRecord.continues_blockedFor _ _)) (.throw trivial)
              (.throw trivial))

theorem prepareRepoBDeployKeyRotation_sustains (good : Good receipts files)
    (requestId target : String) (repositoryId : Int) :
    Sustains receipts start (prepareRepoBDeployKeyRotation requestId target repositoryId)
      (fun _ _ => True) files := by
  refine .looks_bind (.ofResult _) fun _ => .looks_bind (look_looks _ _) fun _ => ?_
  refine .bind (.look trivial ?_)
  cases recorded : files.record with
  | none => exact beginRotation_sustains good recorded requestId target repositoryId
  | some record =>
    refine .readRecord_bind fun record recorded _ => .looks_bind (.ofResult _) fun _ => ?_
    exact replayPrepare_sustains good.fits recorded

/-- What is recorded of a candidate whose access is proved. -/
theorem Begun.verifiedBy (begun : Begun files record original) (phase : record.phase = .prepared)
    (observationSha256 : String) :
    Begun (files.setRecord { record with
        phase := .verified, observationSha256 := some observationSha256 })
      { record with phase := .verified, observationSha256 := some observationSha256 } original where
  inUse := begun.inUse
  unretained := begun.unretained
  settled := begun.settled
  unjournaled := begun.unjournaled
  generated := begun.generated
  recorded := rfl
  started := ⟨begun.started.generation, begun.started.fingerprint⟩
  early := ⟨nofun, nofun⟩
  unprepared := nofun
  named := begun.named
  ready := fun _ => begun.ready (.inl phase)

theorem verifyCandidateAccess_sustains (begun : Begun files record original)
    (phase : record.phase = .prepared) (target : String) (repositoryId : Int) :
    Sustains receipts start (verifyCandidateAccess record target repositoryId) (fun _ _ => True)
      files := by
  have tests : Every Looking (tryCatch (do
      return (.ok (← testRepoBDeployKeyAccess target repositoryId .candidate) :
        Except KeyError DeployKeyAccessProof)) fun raised => pure (.error raised)) :=
    ((testRepoBDeployKeyAccess_looks _ _ _).bind fun _ => .pure _).tryCatch fun _ => .pure _
  have blocks (reason : BlockReason) : Sustains receipts start (do
      persistOrFail (record.blockedFor reason)
      throw rotationBlocked : KeyProgram DeployKeyRotationStatus) (fun _ _ => True) files :=
    .bind (.persistOrFail begun.good (begun.blockedFor reason).good
      (.setRecord begun.recorded (record.continues_blockedFor reason)) (.throw trivial)
      fun _ => ⟨trivial, trivial⟩)
  refine .looks_bind tests fun tested => ?_
  cases tested with
  | error raised =>
    dsimp only
    split
    · exact .throw trivial
    · exact blocks .accessFailed
  | ok proof =>
    dsimp only
    split
    · exact blocks .proofMismatch
    · exact .bind (.persistOrFail begun.good (begun.verifiedBy phase _).good
        (.setRecord begun.recorded ⟨rfl, rfl, rfl, .inr rfl⟩) (.ofResult trivial)
        fun _ => ⟨trivial, trivial⟩)

theorem verifyRepoBDeployKeyRotation_sustains (good : Good receipts files)
    (requestId target : String) (repositoryId : Int) :
    Sustains receipts start (verifyRepoBDeployKeyRotation requestId target repositoryId)
      (fun _ _ => True) files := by
  refine .looks_bind (.ofResult _) fun _ => .looks_bind (look_looks _ _) fun _ => ?_
  refine .readRecord_bind fun record recorded _ => .looks_bind (.ofResult _) fun _ => ?_
  refine .looks_bind (validateRecordGenerations_looks _) fun _ => ?_
  cases phase : record.phase with
  | blocked => exact .throw trivial
  | preparing => exact .throw trivial
  | verified => exact .ofResult trivial
  | activating => exact .ofResult trivial
  | activated => exact .ofResult trivial
  | prepared =>
    have early : record.phase ≠ .activating ∧ record.phase ≠ .activated := by
      rw [phase]
      exact ⟨nofun, nofun⟩
    obtain ⟨original, begun⟩ := good.fits.begun_of recorded early
    exact verifyCandidateAccess_sustains begun phase target repositoryId

/-! ## Generate -/

/-- A key that is in use, whole and without a journal, is only looked at. -/
theorem replayKey_looks (place : KeyPlace) (directory : KeyDirectory) :
    Every Looking (replayKey place directory none) := (look_looks _ _).bind fun _ => .pure _

/-- Where there is no rotation, a key is generated; during one, the key in use is looked at. -/
theorem generate_sustains (good : Good receipts files)
    (inUse : files.record ≠ none → files.directory .active ≠ none) :
    Sustains receipts start (ensureRepoBDeployKey .active) (fun _ _ => True) files := by
  have replays {enrollment : DeployKeyEnrollment}
      (there : files.directory .active = some ⟨some enrollment⟩)
      (unjournaled : files.journal .active = none) :
      Sustains receipts start (ensureRepoBDeployKey .active) (fun _ _ => True) files := by
    refine .bind (.look trivial ?_)
    rw [there, unjournaled]
    exact .last (replayKey_looks .active _)
  have renames_replay {record : RotationRecord} {original candidate : DeployKeyEnrollment}
      {renames : Renames} (recorded : files.record = some record)
      (renamed : Renaming files original candidate renames) :
      Sustains receipts start (ensureRepoBDeployKey .active) (fun _ _ => True) files := by
    cases renames with
    | before => exact replays (renamed.directory .active) (renamed.unjournaled .active)
    | after => exact replays (renamed.directory .active) (renamed.unjournaled .active)
    | between => exact absurd (renamed.directory .active) (inUse (recorded ▸ nofun))
  cases good.fits with
  | begun record original begun => exact replays begun.inUse begun.settled
  | activating record original candidate renames recorded phase activation renamed =>
    exact renames_replay recorded renamed
  | activated record original candidate recorded phase activation renamed =>
    exact renames_replay recorded renamed
  | idle unrecorded uncandidated unretained unjournaled settled =>
    refine (Sustains.every (ensureRepoBDeployKey_generates .active) (fun files' =>
      files'.record = none ∧ files'.directory .candidate = none ∧ files'.directory .retained = none ∧
        files'.journal .candidate = none ∧ files'.journal .retained = none)
      ?_ ?_ ⟨unrecorded, uncandidated, unretained, unjournaled, settled⟩).mono fun _ _ _ => trivial
    · rintro s t generates ⟨unrecorded, uncandidated, unretained, unjournaled, settled⟩
      exact ⟨generates.receipts, generates.record.trans unrecorded,
        (generates.directories .candidate nofun).trans uncandidated,
        (generates.directories .retained nofun).trans unretained,
        (generates.journals .candidate nofun).trans unjournaled,
        (generates.journals .retained nofun).trans settled⟩
    · rintro files' ⟨unrecorded', uncandidated, unretained, unjournaled, settled⟩
      refine ⟨⟨.idle unrecorded' uncandidated unretained unjournaled settled, ?_⟩,
        .of_record (unrecorded'.trans unrecorded.symm)⟩
      intro record there
      cases unrecorded'.symm.trans there

/-! ## Activate -/

/-- An activation that is under way, with what is needed to go on with it. -/
structure Activating (receipts : String → KeyAction → Option KeyReceipt) (files : KeyFiles)
    (record : RotationRecord) (original candidate : DeployKeyEnrollment) (renames : Renames) :
    Prop where
  recorded : files.record = some record
  phase : record.phase = .activating
  activation : Activation record original candidate
  renamed : Renaming files original candidate renames
  unanswered : receipts record.requestId .rotateActivate = none

namespace Activating

variable {renames : Renames}

theorem good (activating : Activating receipts files record original candidate renames) :
    Good receipts files := by
  refine ⟨.activating _ _ _ _ activating.recorded activating.phase activating.activation
    activating.renamed, fun other there _ => ?_⟩
  obtain rfl : record = other := Option.some.inj (activating.recorded.symm.trans there)
  exact activating.unanswered

/-- The record of the activation that is through. -/
theorem activated_good (activating : Activating receipts files record original candidate .after) :
    Good receipts (files.setRecord { record with phase := .activated }) := by
  obtain ⟨-, -, ⟨started, chosen, generated, observed, unblocked⟩, ⟨unjournaled, directory⟩, -⟩ :=
    activating
  refine ⟨.activated { record with phase := .activated } original candidate rfl rfl
    ⟨⟨started.generation, started.fingerprint⟩, chosen, generated, observed, unblocked⟩
    ⟨unjournaled, directory⟩, ?_⟩
  rintro other ⟨⟩ phase
  cases phase

end Activating

/-- What the first rename leaves. -/
theorem Renaming.retains (renamed : Renaming files original candidate .before) :
    Renaming ((files.setDirectory .retained (some ⟨some original⟩)).setDirectory .active none)
      original candidate .between where
  unjournaled := renamed.unjournaled
  directory := by
    intro place
    cases place with
    | active => rfl
    | retained => rfl
    | candidate => exact renamed.directory .candidate

/-- What the second rename leaves. -/
theorem Renaming.activates (renamed : Renaming files original candidate .between) :
    Renaming ((files.setDirectory .active (some ⟨some candidate⟩)).setDirectory .candidate none)
      original candidate .after where
  unjournaled := renamed.unjournaled
  directory := by
    intro place
    cases place with
    | active => rfl
    | candidate => rfl
    | retained => exact renamed.directory .retained

/-- The generations that are found. -/
def Renames.states (renames : Renames) (originalId candidateId : String) :
    Option String × Option String × Option String :=
  match renames with
  | before => (some originalId, some candidateId, none)
  | between => (none, some candidateId, some originalId)
  | after => (some candidateId, none, some originalId)

theorem Renames.states_holds (renames : Renames) (original candidate : DeployKeyEnrollment) :
    (generationIdOf (renames.holds original candidate .active),
      generationIdOf (renames.holds original candidate .candidate),
      generationIdOf (renames.holds original candidate .retained)) =
        renames.states original.generationId candidate.generationId := by
  cases renames with
  | before => rfl
  | between => rfl
  | after => rfl

/-- What is found while the renames are made. -/
theorem Renaming.found {renames : Renames} (renamed : Renaming files original candidate renames)
    {home home' : KeyHome} (here : home.files = files)
    {states : Option String × Option String × Option String}
    (ran : inspectPlaces.eval home = (.ok states, home')) :
    states = renames.states original.generationId candidate.generationId := by
  obtain ⟨found, there, rfl⟩ := eval_inspectPlaces_ok ran
  have same (place : KeyPlace) : found place = renames.holds original candidate place := by
    have both := (there place).symm.trans ((congrArg (·.directory place) here).trans
      (renamed.directory place))
    cases holds : renames.holds original candidate place with
    | none =>
      rw [holds] at both
      exact Option.map_eq_none_iff.mp both
    | some enrollment =>
      rw [holds] at both
      obtain ⟨other, isOther, same⟩ := Option.map_eq_some_iff.mp both
      cases same
      exact isOther
  rw [same, same, same]
  exact renames.states_holds original candidate

theorem renameDirectory_sustains {source destination : KeyPlace} {directory : KeyDirectory}
    (there : files.directory source = some directory)
    (good : Good receipts
      ((files.setDirectory destination (some directory)).setDirectory source none)) :
    Sustains receipts start (renameDirectory source destination) (fun result files' =>
      result = .ok () →
        files' = (files.setDirectory destination (some directory)).setDirectory source none) files := by
  refine .bind (.looks (lexists_looks _) fun result => ?_)
  cases result with
  | error raised => exact nofun
  | ok taken =>
    cases taken with
    | true => exact .throw nofun
    | false =>
      refine .bind (.onFiles nofun (fun _ _ => nofun) fun _ files' renamed => ?_)
      rw [there] at renamed
      cases free : files.directory destination with
      | some other =>
        rw [free] at renamed
        cases renamed
      | none =>
        rw [free] at renamed
        cases renamed
        exact ⟨good, .of_record rfl, .change nofun good (.refl _) fun _ => rfl⟩

/-- **The renames are taken up from where they were left.** -/
theorem reconcileActivation_sustains {renames : Renames}
    (activating : Activating receipts files record original candidate renames) (rounds : Nat) :
    Sustains receipts start
      (reconcileActivation original.generationId candidate.generationId rounds)
      (fun result files' => result = .ok () →
        Activating receipts files' record original candidate .after) files := by
  induction rounds generalizing files renames with
  | zero => exact .throw nofun
  | succ rounds ih =>
    refine .bind ((Sustains.finds inspectPlaces_looks).mono fun result files' ends => ?_)
    obtain ⟨same, home, home', here, ran⟩ := ends
    cases same
    cases result with
    | error raised => exact nofun
    | ok states =>
      cases activating.renamed.found here ran
      obtain ⟨recorded, phase, activation, renamed, unanswered⟩ := activating
      cases renames with
      | before =>
        have next : Activating receipts ((files.setDirectory .retained
            (some ⟨some original⟩)).setDirectory .active none) record original candidate .between :=
          ⟨recorded, phase, activation, renamed.retains, unanswered⟩
        dsimp only [Renames.states]
        rw [if_pos rfl]
        refine .bind ((renameDirectory_sustains (renamed.directory .active)
          next.good).mono fun result files' ends => ?_)
        cases result with
        | error raised => exact nofun
        | ok done =>
          cases ends rfl
          exact ih next
      | between =>
        have next : Activating receipts ((files.setDirectory .active
            (some ⟨some candidate⟩)).setDirectory .candidate none) record original candidate .after :=
          ⟨recorded, phase, activation, renamed.activates, unanswered⟩
        dsimp only [Renames.states]
        rw [if_neg (by simp), if_pos rfl]
        refine .bind ((renameDirectory_sustains (renamed.directory .candidate)
          next.good).mono fun result files' ends => ?_)
        cases result with
        | error raised => exact nofun
        | ok done =>
          cases ends rfl
          exact ih next
      | after =>
        dsimp only [Renames.states]
        rw [if_neg (by simp), if_neg (by simp), if_pos rfl]
        exact .pure fun _ => ⟨recorded, phase, activation, renamed, unanswered⟩

/-- What a valid record that is verified says, of the files it fits. -/
theorem Begun.activating (begun : Begun files record original) (phase : record.phase = .verified)
    (valid : record.valid = true) (unanswered : receipts record.requestId .rotateActivate = none) :
    ∃ candidate, Activating receipts (files.setRecord { record with phase := .activating })
      { record with phase := .activating } original candidate .before := by
  obtain ⟨named, unjournaled⟩ := begun.ready (.inr phase)
  obtain ⟨candidate, chosen⟩ := Option.ne_none_iff_exists'.mp named
  have there := begun.named candidate chosen
  obtain ⟨other, same, version⟩ := begun.generated _ there
  cases same
  simp only [RotationRecord.valid, phase, chosen, Bool.and_eq_true, beq_iff_eq] at valid
  have observed : record.observationSha256.isSome = true := by simpa using valid.1.2
  have unblocked : record.blockedReason = none := Option.not_isSome_iff_eq_none.mp (by
    rw [valid.2]
    decide)
  refine ⟨candidate, rfl, rfl, ⟨⟨begun.started.generation, begun.started.fingerprint⟩, chosen, version,
    observed, unblocked⟩, ⟨?_, ?_⟩, unanswered⟩
  · intro place
    cases place with
    | active => exact begun.settled
    | candidate => exact unjournaled
    | retained => exact begun.unjournaled
  · intro place
    cases place with
    | active => exact begun.inUse
    | candidate => exact there
    | retained => exact begun.unretained

theorem finishActivation_eq (chosen : record.candidate = some candidate) :
    finishActivation record = (do
      failingAs activationInterrupted do
        reconcileActivation record.originalGenerationId candidate.generationId 3
        writeRecord { record with phase := .activated }
      validateRecordGenerations { record with phase := .activated }
      ofResult ({ record with phase := .activated } : RotationRecord).status) := by
  obtain ⟨⟩ := record
  cases chosen
  rfl

theorem finishActivation_sustains {renames : Renames}
    (activating : Activating receipts files record original candidate renames) :
    Sustains receipts start (finishActivation record) (fun _ _ => True) files := by
  rw [finishActivation_eq activating.activation.chosen]
  refine .bind (.failingAs ?_)
  refine .bind (@Sustains.mono _ _ _ _ _ (fun result files' => result = .ok () →
    Activating receipts files' record original candidate .after) _ ?_ fun result files' ends => ?_)
  · rw [activating.activation.started.generation.symm]
    exact reconcileActivation_sustains activating 3
  · cases result with
    | error raised => trivial
    | ok done =>
      have after := ends rfl
      refine .writeRecord after.good after.activated_good
        (.setRecord after.recorded ⟨rfl, rfl, rfl, .inr rfl⟩) ?_ fun _ => ⟨trivial, trivial⟩
      exact .looks_bind (validateRecordGenerations_looks _) fun _ => .ofResult trivial

theorem activateRepoBDeployKeyRotation_sustains (good : Good receipts files) {requestId : String}
    (unanswered : receipts requestId .rotateActivate = none) :
    Sustains receipts start (activateRepoBDeployKeyRotation requestId) (fun _ _ => True) files := by
  refine .looks_bind (look_looks _ _) fun _ => .readRecord_bind fun record recorded valid => ?_
  split
  · exact .throw trivial
  · have same : record.requestId = requestId := Decidable.not_not.mp ‹_›
    rw [← same] at unanswered
    cases phase : record.phase with
    | blocked => exact .throw trivial
    | preparing => exact .throw trivial
    | prepared => exact .throw trivial
    | activated => exact .looks_bind (validateRecordGenerations_looks _) fun _ => .ofResult trivial
    | verified =>
      have early : record.phase ≠ .activating ∧ record.phase ≠ .activated := by
        rw [phase]
        exact ⟨nofun, nofun⟩
      obtain ⟨original, begun⟩ := good.fits.begun_of recorded early
      obtain ⟨candidate, activating⟩ := begun.activating phase valid unanswered
      refine .looks_bind (validateRecordGenerations_looks _) fun _ => ?_
      exact .bind (.persistOrFail good activating.good (.setRecord recorded ⟨rfl, rfl, rfl, .inr rfl⟩)
        (finishActivation_sustains activating) fun _ => ⟨trivial, trivial⟩)
    | activating =>
      cases good.fits with
      | idle unrecorded => cases unrecorded.symm.trans recorded
      | begun other original begun =>
        cases begun.recorded.symm.trans recorded
        exact absurd phase begun.early.1
      | activated other original candidate there activated =>
        cases there.symm.trans recorded
        cases phase.symm.trans activated
      | activating other original candidate renames there _ activation renamed =>
        cases there.symm.trans recorded
        exact finishActivation_sustains ⟨recorded, phase, activation, renamed, unanswered⟩

/-- **Wherever an action is broken off, and whichever of its steps fail, the files fit.** -/
theorem performAction_sustains (good : Good receipts files) (request : KeyRequest)
    (settings : KeySettings)
    (inUse : request.action = .generate → files.record ≠ none → files.directory .active ≠ none)
    (unanswered : request.action = .rotateActivate →
      receipts request.requestId .rotateActivate = none) :
    Sustains receipts start (performAction request settings) (fun _ _ => True) files := by
  have answered {α : Type} {program : KeyProgram α} {outcome : α → ActionOutcome}
      (sustains : Sustains receipts start program (fun _ _ => True) files) :
      Sustains receipts start (do
        let a ← program
        return outcome a) (fun _ _ => True) files := by
    refine .bind (sustains.mono fun result files' _ => ?_)
    cases result with
    | error raised => trivial
    | ok a => exact .pure trivial
  unfold performAction
  cases action : request.action with
  | generate => exact answered (generate_sustains good (inUse action))
  | test => exact answered (.last (testRepoBDeployKeyAccess_looks _ _ _))
  | rotatePrepare => exact answered (prepareRepoBDeployKeyRotation_sustains good _ _ _)
  | rotateVerify => exact answered (verifyRepoBDeployKeyRotation_sustains good _ _ _)
  | rotateActivate =>
    exact answered (activateRepoBDeployKeyRotation_sustains good (unanswered action))

end SyncApp.DeployKey
