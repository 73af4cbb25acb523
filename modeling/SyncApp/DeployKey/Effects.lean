import SyncApp.DeployKey.Administration
import SyncApp.Lib.Machine

/-!
# What the steps of a program leave

Three kinds of facts about the programs on the protected directory. A program that only looks leaves
the state (`Looking`). A generation touches nothing but its own place, and takes nothing from it
(`Generates`). And where no step fails, a program has one result (`Calmly`).
-/

set_option autoImplicit false

namespace SyncApp.DeployKey

open Lib Raising

variable {α β : Type}

theorem untroubled_tail {faults : List Bool} (none_fails : true ∉ faults) : true ∉ faults.tail :=
  fun there => none_fails (List.mem_of_mem_tail there)

theorem head_of_untroubled {faults : List Bool} (none_fails : true ∉ faults) :
    faults.head? ≠ some true := by
  intro here
  exact none_fails (List.mem_of_mem_head? here)

/-! ## Steps -/

section Steps

variable {acts : KeyHome → KeyHome → Prop}

/-- A step is of a kind when what it leaves is, whether it fails or not. -/
theorem every_onFiles {fault : KeyError} {step : KeyFiles → Except KeyError (α × KeyFiles)}
    (failed : ∀ home, acts home home.spend)
    (done : ∀ home result files, step home.files = .ok (result, files) →
      acts home { home.spend with files := files }) :
    Every acts (onFiles fault step) := by
  refine Every.action fun home => ?_
  split
  · exact failed home
  · cases taken : step home.files with
    | error raised => exact failed home
    | ok reached => exact done home reached.1 reached.2 taken

theorem every_change {update : KeyFiles → KeyFiles} (failed : ∀ home, acts home home.spend)
    (done : ∀ home, acts home { home.spend with files := update home.files }) :
    Every acts (change update) := by
  refine every_onFiles failed fun home result files taken => ?_
  cases taken
  exact done home

/-- A step that looks, as one action. -/
theorem look_eq (fault : KeyError) (read : KeyFiles → Except KeyError α) :
    look fault read = action fun home =>
      (if home.faults.head? = some true then .error fault else read home.files, home.spend) := by
  refine congrArg action (funext fun home => ?_)
  split
  · rfl
  · dsimp only
    cases read home.files with
    | error raised => rfl
    | ok value => rfl

/-- What follows a step that looks starts from what is read. -/
theorem every_look_bind {fault : KeyError} {read : KeyFiles → Except KeyError α}
    {rest : α → KeyProgram β} (looking : ∀ home, acts home home.spend)
    (goes : ∀ files value, read files = .ok value → Every acts (rest value)) :
    Every acts (look fault read >>= rest) := by
  rw [look_eq]
  refine Every.action_bind looking fun home value taken => ?_
  split at taken
  · cases taken
  · exact goes home.files value taken

theorem every_failingAs {raised : KeyError} {program : KeyProgram α}
    (every : Every acts program) : Every acts (failingAs raised program) :=
  every.tryCatch fun _ => .throw raised

theorem every_answers (same : ∀ home, acts home home) : Every acts answers :=
  Every.action fun home => same home

end Steps

/-! ## Programs that look -/

/-- The state is as it was. -/
def Looking (s t : KeyHome) : Prop := t.toKeyState = s.toKeyState

theorem look_looks (fault : KeyError) (read : KeyFiles → Except KeyError α) :
    Every Looking (look fault read) := by
  rw [look_eq]
  exact Every.action fun _ => rfl

theorem answers_looks : Every Looking answers := every_answers fun _ => rfl

theorem inspectRepoBDeployKey_looks (place : KeyPlace) :
    Every Looking (inspectRepoBDeployKey place) := look_looks _ _

theorem inspectKey_looks (place : KeyPlace) (label : String) :
    Every Looking (inspectKey place label) := every_failingAs (inspectRepoBDeployKey_looks place)

theorem lexists_looks (place : KeyPlace) : Every Looking (lexists place) := look_looks _ _

theorem inspectOptional_looks (place : KeyPlace) : Every Looking (inspectOptional place) := by
  refine (lexists_looks place).bind fun there => ?_
  split
  · exact (inspectKey_looks place _).bind fun _ => .pure _
  · exact .pure _

theorem inspectPlaces_looks : Every Looking inspectPlaces :=
  (inspectOptional_looks _).bind fun _ => (inspectOptional_looks _).bind fun _ =>
    (inspectOptional_looks _).bind fun _ => .pure _

theorem validateActivated_looks (record : RotationRecord) :
    Every Looking (validateActivated record) := by
  refine (inspectKey_looks _ _).bind fun active => (inspectKey_looks _ _).bind fun retained => ?_
  split
  · exact .throw _
  · refine (lexists_looks _).bind fun there => ?_
    split
    · exact .throw _
    · exact (Every.ofResult _).bind fun _ => .ofResult _

theorem validateStaged_looks (record : RotationRecord) : Every Looking (validateStaged record) := by
  refine (inspectKey_looks _ _).bind fun active => (Every.ofResult _).bind fun _ => ?_
  split
  · split
    · exact .throw _
    · refine (lexists_looks _).bind fun there => ?_
      split
      · exact .throw _
      · exact .pure _
  · refine (inspectKey_looks _ _).bind fun candidate => (Every.ofResult _).bind fun _ => ?_
    refine (lexists_looks _).bind fun there => ?_
    split
    · exact .throw _
    · exact .pure _

theorem validateRecordGenerations_looks (record : RotationRecord) :
    Every Looking (validateRecordGenerations record) := by
  refine (look_looks _ _).bind fun there => ?_
  split
  · exact .throw _
  · split
    · refine inspectPlaces_looks.bind fun states => ?_
      split
      · exact .throw _
      · exact .pure _
    · exact validateActivated_looks record
    · exact validateStaged_looks record

theorem testRepoBDeployKeyAccess_looks (target : String) (repositoryId : Int) (place : KeyPlace) :
    Every Looking (testRepoBDeployKeyAccess target repositoryId place) := by
  unfold testRepoBDeployKeyAccess
  split
  · exact .throw _
  · refine answers_looks.bind fun answered => (Every.ofResult _).bind fun identity => ?_
    split
    · exact .throw _
    · refine (every_failingAs (inspectRepoBDeployKey_looks place)).bind fun enrollment => ?_
      exact (Every.ofResult _).bind fun _ => .pure _

/-! ## Generations -/

/-- Only a place and its journal change; a directory that is there stays, and one that comes is whole
and of version 4. -/
structure Generates (place : KeyPlace) (s t : KeyHome) : Prop where
  receipts : t.receipts = s.receipts
  record : t.files.record = s.files.record
  directories : ∀ other, other ≠ place → t.files.directory other = s.files.directory other
  journals : ∀ other, other ≠ place → t.files.journal other = s.files.journal other
  appears : t.files.directory place = s.files.directory place ∨
    s.files.directory place = none ∧ ∃ enrollment, isUuid4 enrollment.generationId = true ∧
      t.files.directory place = some ⟨some enrollment⟩

namespace Generates

variable {place : KeyPlace}

theorem of_looking {s t : KeyHome} (looking : Looking s t) : Generates place s t := by
  have files : t.files = s.files := congrArg KeyState.files looking
  have receipts : t.receipts = s.receipts := congrArg KeyState.receipts looking
  rw [Looking] at looking
  constructor
  · exact receipts
  · rw [files]
  · intro other _
    rw [files]
  · intro other _
    rw [files]
  · exact .inl (by rw [files])

theorem trans {r s t : KeyHome} (first : Generates place r s) (rest : Generates place s t) :
    Generates place r t where
  receipts := rest.receipts.trans first.receipts
  record := rest.record.trans first.record
  directories other apart := (rest.directories other apart).trans (first.directories other apart)
  journals other apart := (rest.journals other apart).trans (first.journals other apart)
  appears := by
    rcases first.appears with same | ⟨absent, made⟩
    · rcases rest.appears with same' | ⟨absent, made⟩
      · exact .inl (same'.trans same)
      · exact .inr ⟨same ▸ absent, made⟩
    · refine .inr ⟨absent, ?_⟩
      rcases rest.appears with same | ⟨gone, made'⟩
      · exact same ▸ made
      · exact made'

/-- A program that looks generates nothing. -/
theorem looks {program : KeyProgram α} (looking : Every Looking program) :
    Every (Generates place) program := by
  have weaker (p : Prog KeyHome (Except KeyError α)) (all : Prog.Every Looking p) :
      Prog.Every (Generates place) p := by
    induction p with
    | done a => trivial
    | act update next ih => exact ⟨fun s => of_looking (all.1 s), fun s => ih s (all.2 s)⟩
  exact weaker program.run looking

/-- A change of the journal. -/
theorem journal (journal : Option KeyJournal) :
    Every (Generates place) (change (·.setJournal place journal)) := by
  refine every_change (fun home => of_looking rfl) fun home => ?_
  constructor
  · rfl
  · rfl
  · exact fun _ _ => rfl
  · intro other apart
    exact if_neg apart
  · exact .inl rfl

theorem fsync : Every (Generates place) fsyncDirectory :=
  every_change (fun _ => of_looking rfl) fun _ => of_looking rfl

/-- A generation that is whole appears where there is none. -/
theorem renameInto {enrollment : DeployKeyEnrollment}
    (generated : isUuid4 enrollment.generationId = true) :
    Every (Generates place) (renameInto place ⟨some enrollment⟩) := by
  refine every_onFiles (fun home => of_looking rfl) fun home result files taken => ?_
  cases there : home.files.directory place with
  | some directory =>
    rw [there] at taken
    cases taken
  | none =>
    rw [there] at taken
    cases taken
    constructor
    · rfl
    · rfl
    · intro other apart
      exact if_neg apart
    · exact fun _ _ => rfl
    · exact .inr ⟨there, enrollment, generated, if_pos rfl⟩

end Generates

theorem writeJournal_generates (place : KeyPlace) (generationId : String) :
    Every (Generates place) (writeJournal place generationId) :=
  every_failingAs ((Generates.journal _).bind fun _ => (Generates.journal _).bind fun _ =>
    Generates.fsync)

theorem removeJournal_generates (place : KeyPlace) : Every (Generates place) (removeJournal place) :=
  (Generates.journal _).bind fun _ => Generates.fsync

theorem replayKey_generates (place : KeyPlace) (directory : KeyDirectory)
    (journal : Option KeyJournal) : Every (Generates place) (replayKey place directory journal) := by
  refine (Generates.looks (look_looks _ _)).bind fun enrollment => ?_
  cases journal with
  | none => exact .pure _
  | some journal =>
    refine (Generates.looks (look_looks _ _)).bind fun journalId => ?_
    split
    · exact .throw _
    · exact (every_failingAs (removeJournal_generates place)).bind fun _ => .pure _

theorem generateKey_generates (place : KeyPlace) : Every (Generates place) (generateKey place) := by
  refine (Generates.looks answers_looks).bind fun answered => ?_
  refine (writeJournal_generates _ _).bind fun _ => every_failingAs ?_
  refine every_look_bind (fun _ => .of_looking rfl) fun files enrollment made => ?_
  refine (Generates.renameInto ?_).bind fun _ => ?_
  · cases keygen : answered.keygen with
    | none =>
      rw [keygen] at made
      cases made
    | some key =>
      rw [keygen] at made
      cases made
      exact answered.generationId.property
  · exact Generates.fsync.bind fun _ => (removeJournal_generates place).bind fun _ => .pure _

/-- **A generation touches only its own place, and takes nothing from it.** -/
theorem ensureRepoBDeployKey_generates (place : KeyPlace) :
    Every (Generates place) (ensureRepoBDeployKey place) := by
  refine (Generates.looks (look_looks _ _)).bind fun found => ?_
  obtain ⟨directory, journal⟩ := found
  cases directory with
  | some directory => exact replayKey_generates place directory journal
  | none =>
    cases journal with
    | some journal => exact (Generates.looks (look_looks _ _)).bind fun _ => .throw _
    | none => exact generateKey_generates place

/-! ## Programs that succeed -/

theorem eval_onFiles_ok {fault : KeyError} {step : KeyFiles → Except KeyError (α × KeyFiles)}
    {home home' : KeyHome} {a : α} (ran : (onFiles fault step).eval home = (.ok a, home')) :
    ∃ files, step home.files = .ok (a, files) ∧ home' = { home.spend with files := files } := by
  change (if home.faults.head? = some true then (Except.error fault, home.spend) else _) = _ at ran
  split at ran
  · cases ran
  · cases taken : step home.files with
    | error raised =>
      rw [taken] at ran
      cases ran
    | ok reached =>
      rw [taken] at ran
      cases ran
      exact ⟨_, rfl, rfl⟩

theorem eval_look_ok {fault : KeyError} {read : KeyFiles → Except KeyError α} {home home' : KeyHome}
    {a : α} (ran : (look fault read).eval home = (.ok a, home')) :
    read home.files = .ok a ∧ home' = home.spend := by
  rw [look_eq] at ran
  change (if home.faults.head? = some true then _ else _, home.spend) = _ at ran
  split at ran
  · cases ran
  · obtain ⟨found, spent⟩ := Prod.mk.inj ran
    exact ⟨found, spent.symm⟩

theorem eval_change_ok {update : KeyFiles → KeyFiles} {home home' : KeyHome}
    (ran : (change update).eval home = (.ok (), home')) : home'.files = update home.files := by
  obtain ⟨files, taken, rfl⟩ := eval_onFiles_ok ran
  cases taken
  rfl

theorem eval_failingAs_ok {raised : KeyError} {program : KeyProgram α} {home home' : KeyHome} {a : α}
    (ran : (failingAs raised program).eval home = (.ok a, home')) :
    program.eval home = (.ok a, home') := by
  rw [failingAs, eval_tryCatch] at ran
  cases ended : program.eval home with
  | mk result reached =>
    rw [ended] at ran
    cases result with
    | ok b => exact ran
    | error other => cases ran

theorem eval_removeJournal_ok {place : KeyPlace} {home home' : KeyHome}
    (ran : (removeJournal place).eval home = (.ok (), home')) :
    home'.files = home.files.setJournal place none := by
  obtain ⟨_, between, removed, synced⟩ := eval_bind_eq_ok.mp ran
  exact (eval_change_ok synced).trans (eval_change_ok removed)

theorem eval_replayKey_ok {place : KeyPlace} {directory : KeyDirectory} {journal : Option KeyJournal}
    {home home' : KeyHome} {enrollment : DeployKeyEnrollment}
    (there : home.files.directory place = some directory) (journaled : home.files.journal place = journal)
    (ran : (replayKey place directory journal).eval home = (.ok enrollment, home')) :
    home'.files.directory place = some ⟨some enrollment⟩ ∧ home'.files.journal place = none := by
  obtain ⟨read, after, looked, rest⟩ := eval_bind_eq_ok.mp ran
  obtain ⟨inspected, rfl⟩ := eval_look_ok looked
  have whole : directory = ⟨some read⟩ := by
    obtain ⟨inside⟩ := directory
    cases inside with
    | none => cases inspected
    | some other =>
      cases inspected
      rfl
  cases journal with
  | none =>
    cases rest
    exact ⟨there.trans (congrArg some whole), journaled⟩
  | some journal =>
    obtain ⟨journalId, after, looked, rest⟩ := eval_bind_eq_ok.mp rest
    obtain ⟨-, rfl⟩ := eval_look_ok looked
    split at rest
    · cases rest
    · obtain ⟨_, after, removed, rest⟩ := eval_bind_eq_ok.mp rest
      have files := eval_removeJournal_ok (eval_failingAs_ok removed)
      cases rest
      rw [files]
      exact ⟨there.trans (congrArg some whole), if_pos rfl⟩

theorem eval_generateKey_ok {place : KeyPlace} {home home' : KeyHome}
    {enrollment : DeployKeyEnrollment}
    (ran : (generateKey place).eval home = (.ok enrollment, home')) :
    home'.files.directory place = some ⟨some enrollment⟩ ∧ home'.files.journal place = none := by
  obtain ⟨answered, after, asked, rest⟩ := eval_bind_eq_ok.mp ran
  obtain ⟨_, after, journaled, rest⟩ := eval_bind_eq_ok.mp rest
  obtain ⟨generated, after, made, rest⟩ := eval_bind_eq_ok.mp (eval_failingAs_ok rest)
  obtain ⟨_, after, renamed, rest⟩ := eval_bind_eq_ok.mp rest
  obtain ⟨_, after, synced, rest⟩ := eval_bind_eq_ok.mp rest
  obtain ⟨_, after, removed, rest⟩ := eval_bind_eq_ok.mp rest
  cases rest
  obtain ⟨files, placed, rfl⟩ := eval_onFiles_ok renamed
  rw [eval_removeJournal_ok removed, eval_change_ok synced]
  refine ⟨?_, if_pos rfl⟩
  split at placed
  · cases placed
  · cases placed
    exact if_pos rfl

/-- A generation that is answered is in its place, whole and without a journal. -/
theorem eval_ensureRepoBDeployKey_ok {place : KeyPlace} {home home' : KeyHome}
    {enrollment : DeployKeyEnrollment}
    (ran : (ensureRepoBDeployKey place).eval home = (.ok enrollment, home')) :
    home'.files.directory place = some ⟨some enrollment⟩ ∧ home'.files.journal place = none := by
  obtain ⟨⟨directory, journal⟩, after, looked, rest⟩ := eval_bind_eq_ok.mp ran
  obtain ⟨found, rfl⟩ := eval_look_ok looked
  obtain ⟨there, journaled⟩ := Prod.mk.inj (Except.ok.inj found)
  cases directory with
  | some directory => exact @eval_replayKey_ok _ _ _ home.spend _ _ there journaled rest
  | none =>
    cases journal with
    | some journal =>
      obtain ⟨_, after, looked, rest⟩ := eval_bind_eq_ok.mp rest
      cases rest
    | none => exact eval_generateKey_ok rest

/-- What is inspected is there, whole and without a journal. -/
theorem KeyFiles.inspect_ok {files : KeyFiles} {place : KeyPlace} {enrollment : DeployKeyEnrollment}
    (inspected : files.inspect place = .ok enrollment) :
    files.directory place = some ⟨some enrollment⟩ ∧ files.journal place = none := by
  unfold KeyFiles.inspect at inspected
  cases journaled : files.journal place with
  | some journal =>
    rw [journaled] at inspected
    obtain ⟨_, -, wrong⟩ := bind_eq_ok.mp inspected
    cases wrong
  | none =>
    rw [journaled] at inspected
    cases there : files.directory place with
    | none =>
      rw [there] at inspected
      cases inspected
    | some directory =>
      obtain ⟨inside⟩ := directory
      rw [there] at inspected
      cases inside with
      | none => cases inspected
      | some other =>
        cases inspected
        exact ⟨rfl, rfl⟩

theorem eval_inspectKey_ok {place : KeyPlace} {label : String} {home home' : KeyHome}
    {enrollment : DeployKeyEnrollment}
    (ran : (inspectKey place label).eval home = (.ok enrollment, home')) :
    home.files.inspect place = .ok enrollment ∧ home'.files = home.files := by
  obtain ⟨inspected, rfl⟩ := eval_look_ok (eval_failingAs_ok ran)
  exact ⟨inspected, rfl⟩

theorem eval_inspectOptional_ok {place : KeyPlace} {home home' : KeyHome}
    {found : Option DeployKeyEnrollment}
    (ran : (inspectOptional place).eval home = (.ok found, home')) :
    home.files.directory place = (found.map fun enrollment => ⟨some enrollment⟩) ∧
      home'.files = home.files := by
  obtain ⟨there, after, looked, rest⟩ := eval_bind_eq_ok.mp ran
  obtain ⟨found, rfl⟩ := eval_look_ok looked
  split at rest
  · obtain ⟨enrollment, after, inspected, rest⟩ := eval_bind_eq_ok.mp rest
    obtain ⟨whole, same⟩ := eval_inspectKey_ok inspected
    cases rest
    exact ⟨(KeyFiles.inspect_ok whole).1, same⟩
  · cases rest
    cases found
    exact ⟨Option.not_isSome_iff_eq_none.mp ‹_›, rfl⟩

/-- What is found at the three places is what is there. -/
theorem eval_inspectPlaces_ok {home home' : KeyHome}
    {states : Option String × Option String × Option String}
    (ran : inspectPlaces.eval home = (.ok states, home')) :
    ∃ found : KeyPlace → Option DeployKeyEnrollment,
      (∀ place, home.files.directory place = (found place).map fun enrollment => ⟨some enrollment⟩) ∧
        states = (generationIdOf (found .active), generationIdOf (found .candidate),
          generationIdOf (found .retained)) := by
  obtain ⟨active, after, inspected, rest⟩ := eval_bind_eq_ok.mp ran
  obtain ⟨candidate, after', inspected', rest⟩ := eval_bind_eq_ok.mp rest
  obtain ⟨retained, after'', inspected'', rest⟩ := eval_bind_eq_ok.mp rest
  obtain ⟨isActive, same⟩ := eval_inspectOptional_ok inspected
  obtain ⟨isCandidate, same'⟩ := eval_inspectOptional_ok inspected'
  obtain ⟨isRetained, -⟩ := eval_inspectOptional_ok inspected''
  cases rest
  rw [same] at isCandidate
  rw [same', same] at isRetained
  refine ⟨fun
    | .active => active
    | .candidate => candidate
    | .retained => retained, fun place => ?_, rfl⟩
  cases place with
  | active => exact isActive
  | candidate => exact isCandidate
  | retained => exact isRetained

theorem existingCandidate_generates : Every (Generates .candidate) existingCandidate := by
  refine (Generates.looks (lexists_looks _)).bind fun there => ?_
  split
  · exact Generates.looks (inspectKey_looks _ _)
  · exact ensureRepoBDeployKey_generates _

theorem eval_existingCandidate_ok {home home' : KeyHome} {enrollment : DeployKeyEnrollment}
    (ran : existingCandidate.eval home = (.ok enrollment, home')) :
    home'.files.directory .candidate = some ⟨some enrollment⟩ ∧
      home'.files.journal .candidate = none := by
  obtain ⟨there, after, looked, rest⟩ := eval_bind_eq_ok.mp ran
  split at rest
  · obtain ⟨inspected, same⟩ := eval_inspectKey_ok rest
    rw [same]
    exact KeyFiles.inspect_ok inspected
  · exact eval_ensureRepoBDeployKey_ok rest

/-! ## Where no step fails -/

/-- From such files the program ends with the result and leaves the other files, where no step
fails. -/
def Calmly (program : KeyProgram α) (files : KeyFiles) (result : Except KeyError α)
    (files' : KeyFiles) : Prop :=
  ∀ home : KeyHome, home.files = files → true ∉ home.faults →
    ∃ faults, true ∉ faults ∧
      program.eval home = (result, { home with files := files', faults := faults })

namespace Calmly

variable {files files' files'' : KeyFiles}

theorem pure (a : α) (files : KeyFiles) :
    Calmly (Pure.pure a : KeyProgram α) files (.ok a) files := by
  rintro home rfl untroubled
  exact ⟨home.faults, untroubled, rfl⟩

theorem ofResult (result : Except KeyError α) (files : KeyFiles) :
    Calmly (Raising.ofResult result) files result files := by
  rintro home rfl untroubled
  exact ⟨home.faults, untroubled, rfl⟩

theorem done {result : Except KeyError α} {a : α} (same : result = .ok a) :
    Calmly (Raising.ofResult result) files (.ok a) files := same ▸ ofResult _ _

theorem bind {program : KeyProgram α} {rest : α → KeyProgram β} {a : α} {result : Except KeyError β}
    (first : Calmly program files (.ok a) files') (goes : Calmly (rest a) files' result files'') :
    Calmly (program >>= rest) files result files'' := by
  intro home here untroubled
  obtain ⟨faults, fewer, ran⟩ := first home here untroubled
  obtain ⟨faults', fewer', ran'⟩ := goes { home with files := files', faults := faults } rfl fewer
  exact ⟨faults', fewer', (eval_bind_ok ran).trans ran'⟩

theorem tryCatch {program : KeyProgram α} {handler : KeyError → KeyProgram α} {a : α}
    (first : Calmly program files (.ok a) files') :
    Calmly (MonadExcept.tryCatch program handler) files (.ok a) files' := by
  intro home here untroubled
  obtain ⟨faults, fewer, ran⟩ := first home here untroubled
  exact ⟨faults, fewer, eval_tryCatch_ok ran⟩

theorem failingAs {program : KeyProgram α} {raised : KeyError} {a : α}
    (first : Calmly program files (.ok a) files') :
    Calmly (failingAs raised program) files (.ok a) files' := tryCatch first

theorem onFiles {fault : KeyError} {step : KeyFiles → Except KeyError (α × KeyFiles)} {a : α}
    (taken : step files = .ok (a, files')) :
    Calmly (onFiles fault step) files (.ok a) files' := by
  rintro home rfl untroubled
  refine ⟨home.faults.tail, untroubled_tail untroubled, ?_⟩
  show (if home.faults.head? = some true then _ else _) = _
  rw [if_neg (head_of_untroubled untroubled), taken]
  rfl

theorem look {fault : KeyError} {read : KeyFiles → Except KeyError α} {a : α}
    (found : read files = .ok a) : Calmly (look fault read) files (.ok a) files :=
  onFiles (by rw [found]; rfl)

theorem change (update : KeyFiles → KeyFiles) (files : KeyFiles) :
    Calmly (change update) files (.ok ()) (update files) := onFiles rfl

theorem lexists (files : KeyFiles) (place : KeyPlace) :
    Calmly (lexists place) files (.ok (files.directory place).isSome) files := look rfl

/-- A candidate without a journal goes on. -/
theorem unjournaled {α : Type} {rest : KeyProgram α} {raised : KeyError} {result : Except KeyError α}
    {place : KeyPlace} (unjournaled : files.journal place = none)
    (goes : Calmly rest files result files') :
    Calmly (do
      let there ← journalExists place
      if there then throw raised else rest) files result files' := by
  have absent : Calmly (journalExists place) files (.ok false) files := look (by rw [unjournaled]; rfl)
  refine bind absent ?_
  rw [if_neg Bool.false_ne_true]
  exact goes

/-- A generation that is whole is inspected. -/
theorem inspectKey {place : KeyPlace} {label : String} {enrollment : DeployKeyEnrollment}
    (unjournaled : files.journal place = none)
    (there : files.directory place = some ⟨some enrollment⟩) :
    Calmly (inspectKey place label) files (.ok enrollment) files := by
  refine failingAs (look ?_)
  rw [KeyFiles.inspect, unjournaled, there]
  rfl

theorem inspectOptional {place : KeyPlace} {found : Option DeployKeyEnrollment}
    (unjournaled : files.journal place = none)
    (there : files.directory place = found.map fun enrollment => ⟨some enrollment⟩) :
    Calmly (inspectOptional place) files (.ok found) files := by
  refine bind (lexists files place) ?_
  cases found with
  | none =>
    rw [there]
    exact pure none files
  | some enrollment =>
    rw [there]
    exact bind (inspectKey unjournaled there) (pure (some enrollment) files)

theorem inspectPlaces {found : KeyPlace → Option DeployKeyEnrollment}
    (unjournaled : ∀ place, files.journal place = none)
    (there : ∀ place, files.directory place = (found place).map fun enrollment => ⟨some enrollment⟩) :
    Calmly inspectPlaces files (.ok (generationIdOf (found .active),
      generationIdOf (found .candidate), generationIdOf (found .retained))) files :=
  bind (inspectOptional (unjournaled _) (there _)) <|
    bind (inspectOptional (unjournaled _) (there _)) <|
      bind (inspectOptional (unjournaled _) (there _)) (pure _ files)

theorem writeRecord (record : RotationRecord) (files : KeyFiles) :
    Calmly (writeRecord record) files (.ok ()) (files.setRecord record) := by
  have written : Calmly (do
      DeployKey.change id
      DeployKey.change id
      DeployKey.change (·.setRecord record)
      fsyncDirectory
      return (.ok () : Except KeyError Unit)) files (.ok (.ok ())) (files.setRecord record) :=
    bind (change id files) <| bind (change id files) <| bind (change _ files) <|
      bind (change id _) (pure _ _)
  exact bind (tryCatch written) (bind (change id _) (ofResult _ _))

theorem renameDirectory {source destination : KeyPlace} {directory : KeyDirectory}
    (there : files.directory source = some directory)
    (free : files.directory destination = none) :
    Calmly (renameDirectory source destination) files (.ok ())
      ((files.setDirectory destination (some directory)).setDirectory source none) := by
  refine bind (lexists files destination) ?_
  rw [free]
  refine @bind _ _ _ _ _ _ _ () _ (onFiles ?_) (change id _)
  rw [there, free]
  rfl

end Calmly

end SyncApp.DeployKey
