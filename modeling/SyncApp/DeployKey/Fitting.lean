import SyncApp.DeployKey.Effects

/-!
# Files that fit the record of a rotation

Whatever action a program is broken off after, and whichever of its steps fail, the files fit the
record (`Fits`): both generations are there, and while the rotation is activated they stand as one of
the two renames left them. And what the record says of the generations stays.

`Sustains` says that a program keeps this at each of its actions, with one rule for every construct.
-/

set_option autoImplicit false

namespace SyncApp.DeployKey

open Lib Raising

/-! ## Files that fit the record -/

/-- The generation a rotation began with. -/
structure RotationRecord.Original (record : RotationRecord) (original : DeployKeyEnrollment) : Prop where
  generation : original.generationId = record.originalGenerationId
  fingerprint : original.fingerprint = record.originalFingerprint

/-- The generations before an activation. -/
structure Placed (files : KeyFiles) (original : DeployKeyEnrollment) : Prop where
  inUse : files.directory .active = some ⟨some original⟩
  unretained : files.directory .retained = none
  settled : files.journal .active = none
  unjournaled : files.journal .retained = none
  generated : ∀ directory, files.directory .candidate = some directory →
    ∃ candidate, directory = ⟨some candidate⟩ ∧ isUuid4 candidate.generationId = true

/-- A rotation that is not activated yet. -/
structure Begun (files : KeyFiles) (record : RotationRecord) (original : DeployKeyEnrollment) : Prop
    extends Placed files original where
  recorded : files.record = some record
  started : record.Original original
  early : record.phase ≠ .activating ∧ record.phase ≠ .activated
  unprepared : record.phase = .preparing → record.candidate = none
  named : ∀ candidate, record.candidate = some candidate →
    files.directory .candidate = some ⟨some candidate⟩
  ready : record.phase = .prepared ∨ record.phase = .verified →
    record.candidate ≠ none ∧ files.journal .candidate = none

/-- How far the renames of an activation are. -/
inductive Renames where
  | before
  | between
  | after
deriving DecidableEq

/-- How many of the renames are left. -/
def Renames.left : Renames → Nat
  | before => 2
  | between => 1
  | after => 0

/-- The generation in a place. -/
def Renames.holds (renames : Renames) (original candidate : DeployKeyEnrollment) :
    KeyPlace → Option DeployKeyEnrollment
  | .active =>
    match renames with
    | before => some original
    | between => none
    | after => some candidate
  | .candidate =>
    match renames with
    | before | between => some candidate
    | after => none
  | .retained =>
    match renames with
    | before => none
    | between | after => some original

/-- The generations of an activation. -/
structure Renaming (files : KeyFiles) (original candidate : DeployKeyEnrollment) (renames : Renames) :
    Prop where
  unjournaled : ∀ place, files.journal place = none
  directory : ∀ place, files.directory place =
    (renames.holds original candidate place).map fun enrollment => ⟨some enrollment⟩

/-- The record of an activation. -/
structure Activation (record : RotationRecord) (original candidate : DeployKeyEnrollment) : Prop where
  started : record.Original original
  chosen : record.candidate = some candidate
  generated : isUuid4 candidate.generationId = true
  observed : record.observationSha256.isSome = true
  unblocked : record.blockedReason = none

/-- The files fit the record, if there is one. -/
inductive Fits (files : KeyFiles) : Prop where
  | idle (unrecorded : files.record = none) (uncandidated : files.directory .candidate = none)
    (unretained : files.directory .retained = none) (unjournaled : files.journal .candidate = none)
    (settled : files.journal .retained = none)
  | begun (record : RotationRecord) (original : DeployKeyEnrollment)
    (begun : Begun files record original)
  | activating (record : RotationRecord) (original candidate : DeployKeyEnrollment)
    (renames : Renames) (recorded : files.record = some record) (phase : record.phase = .activating)
    (activation : Activation record original candidate)
    (renamed : Renaming files original candidate renames)
  | activated (record : RotationRecord) (original candidate : DeployKeyEnrollment)
    (recorded : files.record = some record) (phase : record.phase = .activated)
    (activation : Activation record original candidate)
    (renamed : Renaming files original candidate .after)

/-- What a record says of a rotation stays. -/
structure RotationRecord.Continues (record later : RotationRecord) : Prop where
  request : later.requestId = record.requestId
  generation : later.originalGenerationId = record.originalGenerationId
  fingerprint : later.originalFingerprint = record.originalFingerprint
  candidate : record.candidate = none ∨ later.candidate = record.candidate

/-- The rotation goes on. -/
def KeyFiles.Continues (files files' : KeyFiles) : Prop :=
  ∀ record, files.record = some record →
    ∃ later, files'.record = some later ∧ record.Continues later

theorem RotationRecord.Continues.refl (record : RotationRecord) : record.Continues record :=
  ⟨rfl, rfl, rfl, .inr rfl⟩

theorem RotationRecord.Continues.trans {record later last : RotationRecord}
    (first : record.Continues later) (rest : later.Continues last) : record.Continues last where
  request := rest.request.trans first.request
  generation := rest.generation.trans first.generation
  fingerprint := rest.fingerprint.trans first.fingerprint
  candidate := by
    rcases first.candidate with unnamed | same
    · exact .inl unnamed
    · rcases rest.candidate with unnamed | same'
      · exact .inl (same ▸ unnamed)
      · exact .inr (same'.trans same)

namespace KeyFiles.Continues

variable {files files' files'' : KeyFiles}

theorem refl (files : KeyFiles) : files.Continues files :=
  fun record here => ⟨record, here, .refl record⟩

theorem trans (first : files.Continues files') (rest : files'.Continues files'') :
    files.Continues files'' := by
  intro record here
  obtain ⟨later, there, goes⟩ := first record here
  obtain ⟨last, there', goes'⟩ := rest later there
  exact ⟨last, there', goes.trans goes'⟩

theorem of_record (same : files'.record = files.record) : files.Continues files' :=
  fun record here => ⟨record, same.trans here, .refl record⟩

/-- A record that goes on from the one that is there. -/
theorem setRecord {record later : RotationRecord} (here : files.record = some record)
    (goes : record.Continues later) : files.Continues (files.setRecord later) := by
  intro other there
  obtain rfl : record = other := Option.some.inj (here.symm.trans there)
  exact ⟨later, rfl, goes⟩

end KeyFiles.Continues

/-- The files fit, and an activation that is under way has no receipt. -/
structure Good (receipts : String → KeyAction → Option KeyReceipt) (files : KeyFiles) : Prop where
  fits : Fits files
  pending : ∀ record, files.record = some record → record.phase = .activating →
    receipts record.requestId .rotateActivate = none

/-! ## What a program keeps -/

section Rules

variable (receipts : String → KeyAction → Option KeyReceipt) (start : KeyFiles)

/-- A home as a program may leave it. -/
structure Stable (home : KeyHome) : Prop where
  unsaved : home.receipts = receipts
  good : Good receipts home.files
  continues : start.Continues home.files

/-- From such files, whichever of its steps fail, the program leaves the files good at each step, and
ends in the postcondition. -/
def Sustains {α : Type} (program : KeyProgram α) (post : Except KeyError α → KeyFiles → Prop)
    (files : KeyFiles) : Prop :=
  ∀ home : KeyHome, home.files = files → Stable receipts start home →
    Ensures (· = ·) (fun _ t => Stable receipts start t) program
      (fun result t => Stable receipts start t ∧ post result t.files) home

variable {receipts start} {α β : Type} {files : KeyFiles}

namespace Sustains

theorem pure {a : α} {post : Except KeyError α → KeyFiles → Prop} (ends : post (.ok a) files) :
    Sustains receipts start (Pure.pure a) post files := by
  rintro home rfl stable
  exact ⟨stable, ends⟩

theorem throw {raised : KeyError} {post : Except KeyError α → KeyFiles → Prop}
    (ends : post (.error raised) files) :
    Sustains receipts start (MonadExcept.throw raised) post files := by
  rintro home rfl stable
  exact ⟨stable, ends⟩

theorem ofResult {result : Except KeyError α} {post : Except KeyError α → KeyFiles → Prop}
    (ends : post result files) : Sustains receipts start (Raising.ofResult result) post files := by
  rintro home rfl stable
  exact ⟨stable, ends⟩

theorem mono {program : KeyProgram α} {post post' : Except KeyError α → KeyFiles → Prop}
    (sustains : Sustains receipts start program post files)
    (weaker : ∀ result files', post result files' → post' result files') :
    Sustains receipts start program post' files := by
  intro home here stable
  exact (sustains home here stable).mono fun result t ends => ⟨ends.1, weaker result _ ends.2⟩

theorem bind {program : KeyProgram α} {rest : α → KeyProgram β}
    {post : Except KeyError β → KeyFiles → Prop}
    (first : Sustains receipts start program (fun result files' => match result with
      | .ok a => Sustains receipts start (rest a) post files'
      | .error raised => post (.error raised) files') files) :
    Sustains receipts start (program >>= rest) post files := by
  intro home here stable
  refine Ensures.bind ((first home here stable).mono fun result t ends => ?_)
  cases result with
  | ok a => exact ends.2 t rfl ends.1
  | error raised => exact ends

theorem tryCatch {program : KeyProgram α} {handler : KeyError → KeyProgram α}
    {post : Except KeyError α → KeyFiles → Prop}
    (first : Sustains receipts start program (fun result files' => match result with
      | .ok a => post (.ok a) files'
      | .error raised => Sustains receipts start (handler raised) post files') files) :
    Sustains receipts start (MonadExcept.tryCatch program handler) post files := by
  intro home here stable
  refine Ensures.tryCatch ((first home here stable).mono fun result t ends => ?_)
  cases result with
  | ok a => exact ends
  | error raised => exact ends.2 t rfl ends.1

theorem failingAs {program : KeyProgram α} {raised : KeyError}
    {post : Except KeyError α → KeyFiles → Prop}
    (first : Sustains receipts start program (fun result files' => match result with
      | .ok a => post (.ok a) files'
      | .error _ => post (.error raised) files') files) :
    Sustains receipts start (failingAs raised program) post files := by
  refine tryCatch (first.mono fun result files' ends => ?_)
  cases result with
  | ok a => exact ends
  | error other => exact throw ends

/-- A step that changes the files, or fails. -/
theorem onFiles {fault : KeyError} {step : KeyFiles → Except KeyError (α × KeyFiles)}
    {post : Except KeyError α → KeyFiles → Prop} (failed : post (.error fault) files)
    (refused : ∀ raised, step files = .error raised → post (.error raised) files)
    (taken : ∀ a files', step files = .ok (a, files') →
      Good receipts files' ∧ files.Continues files' ∧ post (.ok a) files') :
    Sustains receipts start (onFiles fault step) post files := by
  rintro home rfl stable
  refine Ensures.action fun t same => ?_
  subst same
  split
  · exact ⟨⟨stable.unsaved, stable.good, stable.continues⟩,
      ⟨stable.unsaved, stable.good, stable.continues⟩, failed⟩
  · cases ended : step home.files with
    | error raised =>
      exact ⟨⟨stable.unsaved, stable.good, stable.continues⟩,
        ⟨stable.unsaved, stable.good, stable.continues⟩, refused raised ended⟩
    | ok reached =>
      obtain ⟨good, continues, ends⟩ := taken reached.1 reached.2 ended
      exact ⟨⟨stable.unsaved, good, stable.continues.trans continues⟩,
        ⟨stable.unsaved, good, stable.continues.trans continues⟩, ends⟩

theorem change {update : KeyFiles → KeyFiles} {post : Except KeyError Unit → KeyFiles → Prop}
    (failed : post (.error .osError) files) (good : Good receipts (update files))
    (continues : files.Continues (update files)) (ends : post (.ok ()) (update files)) :
    Sustains receipts start (change update) post files := by
  refine onFiles failed (fun _ wrong => nomatch wrong) fun _ files' taken => ?_
  cases taken
  exact ⟨good, continues, ends⟩

/-- A program whose every action keeps a fact about the files that leaves them good. -/
theorem every {acts : KeyHome → KeyHome → Prop} {program : KeyProgram α} (every : Every acts program)
    (holds : KeyFiles → Prop)
    (keeps : ∀ s t, acts s t → holds s.files → t.receipts = s.receipts ∧ holds t.files)
    (good : ∀ files', holds files' → Good receipts files' ∧ files.Continues files')
    (here : holds files) :
    Sustains receipts start program (fun _ files' => holds files') files := by
  rintro home rfl stable
  have all := Prog.Every.alone_leaves every
    (fun s t acted (before : s.receipts = receipts ∧ holds s.files) => by
      obtain ⟨same, after⟩ := keeps s t acted before.2
      exact ⟨same.trans before.1, after⟩) (⟨stable.unsaved, here⟩ : _ ∧ holds home.files)
  have stays (t : KeyHome) (after : t.receipts = receipts ∧ holds t.files) :
      Stable receipts start t :=
    ⟨after.1, (good _ after.2).1, stable.continues.trans (good _ after.2).2⟩
  exact (Prog.Safe.guarantees all fun _ t after => stays t after).mono fun _ t after =>
    ⟨stays t after, after.2⟩

theorem looks {program : KeyProgram α} {post : Except KeyError α → KeyFiles → Prop}
    (looking : Every Looking program) (ends : ∀ result, post result files) :
    Sustains receipts start program post files := by
  intro home here stable
  subst here
  have kept : Sustains receipts start program (fun _ files' => files' = home.files) home.files :=
    every looking (· = home.files)
      (fun s t acted same =>
        ⟨congrArg KeyState.receipts acted, (congrArg KeyState.files acted).trans same⟩)
      (fun files' same => by
        subst same
        exact ⟨stable.good, .refl _⟩) rfl
  refine kept.mono (fun result files' same => ?_) home rfl stable
  subst same
  exact ends result

theorem look {fault : KeyError} {read : KeyFiles → Except KeyError α}
    {post : Except KeyError α → KeyFiles → Prop} (failed : post (.error fault) files)
    (found : post (read files) files) : Sustains receipts start (look fault read) post files := by
  rw [look_eq]
  rintro home rfl stable
  refine Ensures.action fun t same => ?_
  subst same
  refine ⟨⟨stable.unsaved, stable.good, stable.continues⟩,
    ⟨stable.unsaved, stable.good, stable.continues⟩, ?_⟩
  show post (if home.faults.head? = some true then _ else _) home.files
  split
  · exact failed
  · exact found

/-- The record that is written is there in the end, unless the write fails before its rename. -/
theorem writeRecord {record : RotationRecord} {post : Except KeyError Unit → KeyFiles → Prop}
    (here : Good receipts files) (good : Good receipts (files.setRecord record))
    (continues : files.Continues (files.setRecord record))
    (ends : post (.ok ()) (files.setRecord record))
    (failed : ∀ raised, post (.error raised) files ∧ post (.error raised) (files.setRecord record)) :
    Sustains receipts start (writeRecord record) post files := by
  -- What the inner program leaves: the record, or a failure before it or after.
  let between (result : Except KeyError (Except KeyError Unit)) (files' : KeyFiles) : Prop :=
    match result with
    | .ok written => match written with
      | .ok () => files' = files.setRecord record
      | .error _ => files' = files ∨ files' = files.setRecord record
    | .error _ => False
  have handled (raised : KeyError) (files' : KeyFiles)
      (left : files' = files ∨ files' = files.setRecord record) :
      Sustains receipts start (Pure.pure (.error raised)) between files' := pure left
  refine bind (@mono _ _ _ _ _ between _ (tryCatch ?_) ?_)
  · refine bind (change (handled _ _ (.inl rfl)) here (.refl _) ?_)
    refine bind (change (handled _ _ (.inl rfl)) here (.refl _) ?_)
    refine bind (change (handled _ _ (.inl rfl)) good continues ?_)
    exact bind (change (handled _ _ (.inr rfl)) good (.refl _) (pure rfl))
  · intro result files' left
    cases result with
    | error raised => exact left.elim
    | ok written =>
      cases written with
      | ok done =>
        cases (show files' = files.setRecord record from left)
        exact bind (change (failed _).2 good (.refl _) (ofResult ends))
      | error raised =>
        rcases (show files' = files ∨ files' = files.setRecord record from left) with rfl | rfl
        · exact bind (change (failed _).1 here (.refl _) (ofResult (failed raised).1))
        · exact bind (change (failed _).2 good (.refl _) (ofResult (failed raised).2))

theorem suppressedWrite {record : RotationRecord} {post : Except KeyError Unit → KeyFiles → Prop}
    (here : Good receipts files) (good : Good receipts (files.setRecord record))
    (continues : files.Continues (files.setRecord record)) (unwritten : post (.ok ()) files)
    (written : post (.ok ()) (files.setRecord record)) :
    Sustains receipts start (suppressedWrite record) post files :=
  tryCatch (writeRecord here good continues written fun _ => ⟨pure unwritten, pure written⟩)

theorem persistOrFail {record : RotationRecord} {post : Except KeyError Unit → KeyFiles → Prop}
    (here : Good receipts files) (good : Good receipts (files.setRecord record))
    (continues : files.Continues (files.setRecord record))
    (ends : post (.ok ()) (files.setRecord record))
    (failed : ∀ raised, post (.error raised) files ∧ post (.error raised) (files.setRecord record)) :
    Sustains receipts start (persistOrFail record) post files :=
  failingAs (writeRecord here good continues ends fun _ => failed _)

/-- What the run of a program ends in. -/
theorem with_eval {program : KeyProgram α} {post : Except KeyError α → KeyFiles → Prop}
    (sustains : Sustains receipts start program post files) :
    Sustains receipts start program (fun result files' => post result files' ∧
      ∃ home home', home.files = files ∧ home'.files = files' ∧
        program.eval home = (result, home')) files := by
  intro home here stable
  exact (Prog.Safe.with_run (sustains home here stable)).mono fun result t ends =>
    ⟨ends.1.1, ends.1.2, home, t, here, rfl, ends.2⟩

/-- What a program that looks finds. -/
theorem finds {program : KeyProgram α} (looking : Every Looking program) :
    Sustains receipts start program (fun result files' => files' = files ∧
      ∃ home home', home.files = files ∧ program.eval home = (result, home')) files := by
  have kept : Sustains receipts start program (fun _ files' => files' = files) files :=
    looks looking fun _ => rfl
  refine kept.with_eval.mono fun result files' ends => ⟨ends.1, ?_⟩
  obtain ⟨home, home', here, -, ran⟩ := ends.2
  exact ⟨home, home', here, ran⟩

end Sustains

end Rules

/-! ## Before an activation -/

section Before

variable {receipts : String → KeyAction → Option KeyReceipt} {start files : KeyFiles}
  {record : RotationRecord} {original : DeployKeyEnrollment}

theorem Begun.good (begun : Begun files record original) : Good receipts files := by
  refine ⟨.begun _ _ begun, fun other there phase => ?_⟩
  obtain rfl : record = other := Option.some.inj (begun.recorded.symm.trans there)
  exact absurd phase begun.early.1

/-- What is recorded of a rotation that is not blocked by it. -/
theorem Begun.blockedFor (begun : Begun files record original) (reason : BlockReason) :
    Begun (files.setRecord (record.blockedFor reason)) (record.blockedFor reason) original where
  inUse := begun.inUse
  unretained := begun.unretained
  settled := begun.settled
  unjournaled := begun.unjournaled
  generated := begun.generated
  recorded := rfl
  started := ⟨begun.started.generation, begun.started.fingerprint⟩
  early := ⟨nofun, nofun⟩
  unprepared := nofun
  named := begun.named
  ready := by
    rintro (wrong | wrong)
    · cases wrong
    · cases wrong

theorem RotationRecord.continues_blockedFor (record : RotationRecord) (reason : BlockReason) :
    record.Continues (record.blockedFor reason) := ⟨rfl, rfl, rfl, .inr rfl⟩

/-- The candidate that stands in its place is recorded. -/
theorem Begun.preparedWith (begun : Begun files record original) {candidate : DeployKeyEnrollment}
    (there : files.directory .candidate = some ⟨some candidate⟩)
    (unjournaled : files.journal .candidate = none) :
    Begun (files.setRecord (record.preparedWith candidate)) (record.preparedWith candidate)
      original where
  inUse := begun.inUse
  unretained := begun.unretained
  settled := begun.settled
  unjournaled := begun.unjournaled
  generated := begun.generated
  recorded := rfl
  started := ⟨begun.started.generation, begun.started.fingerprint⟩
  early := ⟨nofun, nofun⟩
  unprepared := nofun
  named := by
    rintro other ⟨⟩
    exact there
  ready := fun _ => ⟨nofun, unjournaled⟩

/-- A generation of a candidate leaves a rotation that waits for it. -/
theorem Begun.generates {s t : KeyHome} (generates : Generates .candidate s t)
    (begun : Begun s.files record original) (phase : record.phase = .preparing) :
    Begun t.files record original where
  inUse := (generates.directories .active nofun).trans begun.inUse
  unretained := (generates.directories .retained nofun).trans begun.unretained
  settled := (generates.journals .active nofun).trans begun.settled
  unjournaled := (generates.journals .retained nofun).trans begun.unjournaled
  generated := by
    intro directory there
    rcases generates.appears with same | ⟨-, made, version, appeared⟩
    · exact begun.generated directory (same.symm.trans there)
    · exact ⟨made, Option.some.inj (there.symm.trans appeared), version⟩
  recorded := generates.record.trans begun.recorded
  started := begun.started
  early := begun.early
  unprepared := begun.unprepared
  named := by
    intro candidate named
    rw [begun.unprepared phase] at named
    cases named
  ready := by
    rw [phase]
    rintro (wrong | wrong)
    · cases wrong
    · cases wrong

/-- A generation of a candidate, which stands whole in its place once it is answered. -/
theorem Begun.sustains_candidate (begun : Begun files record original)
    (phase : record.phase = .preparing) {program : KeyProgram DeployKeyEnrollment}
    (generates : Every (Generates .candidate) program)
    (whole : ∀ home home' enrollment, program.eval home = (.ok enrollment, home') →
      home'.files.directory .candidate = some ⟨some enrollment⟩ ∧
        home'.files.journal .candidate = none) :
    Sustains receipts start program (fun result files' => Begun files' record original ∧
      ∀ enrollment, result = .ok enrollment →
        files'.directory .candidate = some ⟨some enrollment⟩ ∧
          files'.journal .candidate = none) files := by
  have kept : Sustains receipts start program (fun _ files' => Begun files' record original) files :=
    .every generates (Begun · record original)
      (fun s t acted begun => ⟨acted.receipts, begun.generates acted phase⟩)
      (fun files' after => ⟨after.good, .of_record (after.recorded.trans begun.recorded.symm)⟩) begun
  refine kept.with_eval.mono fun result files' ends => ⟨ends.1, ?_⟩
  rintro enrollment rfl
  obtain ⟨home, home', -, rfl, ran⟩ := ends.2
  exact whole home home' enrollment ran

/-- The candidate of a rotation is recorded, or the rotation is blocked. -/
theorem Begun.sustains_recordCandidate (begun : Begun files record original)
    (phase : record.phase = .preparing) {program : KeyProgram DeployKeyEnrollment}
    (generates : Every (Generates .candidate) program)
    (whole : ∀ home home' enrollment, program.eval home = (.ok enrollment, home') →
      home'.files.directory .candidate = some ⟨some enrollment⟩ ∧
        home'.files.journal .candidate = none) (raised : KeyError) :
    Sustains receipts start (recordCandidate record program raised) (fun _ _ => True) files := by
  let generated (result : Except KeyError (Except KeyError DeployKeyEnrollment))
      (files' : KeyFiles) : Prop :=
    Begun files' record original ∧ ∀ enrollment, result = .ok (.ok enrollment) →
      files'.directory .candidate = some ⟨some enrollment⟩ ∧ files'.journal .candidate = none
  refine .bind (@Sustains.mono _ _ _ _ _ generated _ (.tryCatch (.bind ?_)) ?_)
  · refine (begun.sustains_candidate phase generates whole).mono fun result files' ends => ?_
    cases result with
    | error other => exact .pure ⟨ends.1, nofun⟩
    | ok enrollment =>
      refine .pure ⟨ends.1, ?_⟩
      rintro other ⟨⟩
      exact ends.2 enrollment rfl
  · rintro result files' ⟨begun, candidate⟩
    cases result with
    | error other => trivial
    | ok generated =>
      cases generated with
      | error other =>
        exact .bind (.suppressedWrite begun.good (begun.blockedFor _).good
          (.setRecord begun.recorded (record.continues_blockedFor _)) (.throw trivial)
          (.throw trivial))
      | ok enrollment =>
        obtain ⟨there, unjournaled⟩ := candidate enrollment rfl
        have prepared := begun.preparedWith there unjournaled
        have continues : record.Continues (record.preparedWith enrollment) :=
          ⟨rfl, rfl, rfl, .inl (begun.unprepared phase)⟩
        have blocked := prepared.blockedFor .generationFailed
        refine .tryCatch (.bind (.writeRecord begun.good prepared.good
          (.setRecord begun.recorded continues) (.pure trivial) fun _ => ⟨?_, ?_⟩))
        · -- The record was not written, and the one that is blocked has the candidate none the less.
          exact .bind (.suppressedWrite begun.good
            (@Begun.good _ _ _ _ ⟨⟨blocked.inUse, blocked.unretained, blocked.settled,
              blocked.unjournaled, blocked.generated⟩, rfl, blocked.started, blocked.early,
              blocked.unprepared, blocked.named, blocked.ready⟩)
            (.setRecord begun.recorded (continues.trans (.trans (.refl _)
              (RotationRecord.continues_blockedFor _ _)))) (.throw trivial) (.throw trivial))
        · exact .bind (.suppressedWrite prepared.good blocked.good
            (.setRecord rfl (RotationRecord.continues_blockedFor _ _)) (.throw trivial)
            (.throw trivial))

end Before

end SyncApp.DeployKey
