import SyncApp.Pipeline.Preflight

/-!
# Key generations

A deploy key stands in a directory of its own, written whole under a temporary name and renamed into
its place, with a journal beside that place while it is made. A rotation has three places: the key in
use, the one that is to replace it, and the one that was replaced.

A directory is known by what an inspection reads of it, and a temporary name is read by nobody, so
what is under one is the value that is renamed. Each step may fail with an `OSError` that changes
nothing; which do is listed in `faults`.
-/

set_option autoImplicit false

namespace SyncApp.DeployKey

open Lib Raising

/-- What the program raises. -/
inductive KeyError where
  | osError
  | deployKey (message : String)
  | access (message : String) (transient : Bool)
  | rotation (message : String) (transient : Bool)
  | administration (message : String)
deriving DecidableEq

/-- `getattr(error, "transient", False)`, or an `OSError`. -/
def KeyError.transient : KeyError → Bool
  | osError => true
  | access _ transient | rotation _ transient => transient
  | deployKey _ | administration _ => false

/-- The algorithm is always `ssh-ed25519`. -/
structure DeployKeyEnrollment where
  publicKey : String
  fingerprint : String
  generationId : String
deriving DecidableEq

/-- A key directory, by what is read of it; nothing where it is not whole. -/
structure KeyDirectory where
  enrollment : Option DeployKeyEnrollment
deriving DecidableEq

/-- The names of a rotation that are directories. -/
inductive KeyPlace where
  | active
  | candidate
  | retained
deriving DecidableEq

/-- A journal of a generation, which a write may have left torn. -/
inductive KeyJournal where
  | torn
  | names (generationId : String)
deriving DecidableEq

inductive RotationPhase where
  | preparing
  | prepared
  | verified
  | activating
  | activated
  | blocked
deriving DecidableEq

inductive BlockReason where
  | generationFailed
  | accessFailed
  | proofMismatch
deriving DecidableEq

/-- The record of a rotation. Its three columns about the candidate are filled together. -/
structure RotationRecord where
  requestId : String
  rotationId : String
  phase : RotationPhase
  target : String
  repositoryId : Int
  originalGenerationId : String
  originalFingerprint : String
  candidate : Option DeployKeyEnrollment
  observationSha256 : Option String
  blockedReason : Option BlockReason
deriving DecidableEq

/-- The protected directory: key directories, the journal beside each, and the record. -/
structure KeyFiles where
  directory : KeyPlace → Option KeyDirectory
  journal : KeyPlace → Option KeyJournal
  record : Option RotationRecord

namespace KeyFiles

variable (files : KeyFiles)

def setDirectory (place : KeyPlace) (directory : Option KeyDirectory) : KeyFiles :=
  { files with directory := fun other => if other = place then directory else files.directory other }

def setJournal (place : KeyPlace) (journal : Option KeyJournal) : KeyFiles :=
  { files with journal := fun other => if other = place then journal else files.journal other }

def setRecord (record : RotationRecord) : KeyFiles := { files with record := some record }

@[simp] theorem setDirectory_directory (place other : KeyPlace) (directory : Option KeyDirectory) :
    (files.setDirectory place directory).directory other =
      if other = place then directory else files.directory other := rfl

@[simp] theorem setDirectory_journal (place : KeyPlace) (directory : Option KeyDirectory) :
    (files.setDirectory place directory).journal = files.journal := rfl

@[simp] theorem setDirectory_record (place : KeyPlace) (directory : Option KeyDirectory) :
    (files.setDirectory place directory).record = files.record := rfl

@[simp] theorem setJournal_directory (place : KeyPlace) (journal : Option KeyJournal) :
    (files.setJournal place journal).directory = files.directory := rfl

@[simp] theorem setJournal_journal (place other : KeyPlace) (journal : Option KeyJournal) :
    (files.setJournal place journal).journal other =
      if other = place then journal else files.journal other := rfl

@[simp] theorem setJournal_record (place : KeyPlace) (journal : Option KeyJournal) :
    (files.setJournal place journal).record = files.record := rfl

@[simp] theorem setRecord_directory (record : RotationRecord) :
    (files.setRecord record).directory = files.directory := rfl

@[simp] theorem setRecord_journal (record : RotationRecord) :
    (files.setRecord record).journal = files.journal := rfl

@[simp] theorem setRecord_record (record : RotationRecord) :
    (files.setRecord record).record = some record := rfl

end KeyFiles

/-! ## Programs -/

/-- What a test of a key finds outside: the repository, unless its identity is not proved, and what
`git ls-remote` observed. An error is transient or not, and the second has its message. -/
structure AccessAnswers where
  identity : Except Bool (String × Int)
  observation : Except (String × Bool) (Nat × String)

/-- What `uuid4` gives. -/
abbrev Uuid4 := {value : String // isUuid4 value = true}

/-- What a call finds outside the protected directory. -/
structure KeyAnswers where
  rotationId : Uuid4
  generationId : Uuid4
  /-- The public key and its fingerprint, where `ssh-keygen` makes one. -/
  keygen : Option (String × String)
  access : AccessAnswers

inductive KeyAction where
  | generate
  | test
  | rotatePrepare
  | rotateVerify
  | rotateActivate
deriving DecidableEq

inductive ReceiptStatus where
  | completed
  | retry
  | blocked
deriving DecidableEq

/-- A receipt, beside the request and the action it is for. `target_sha256` is of the target in lower
case. -/
structure KeyReceipt where
  target : String
  repositoryId : Int
  status : ReceiptStatus
  outcome : String
  attempts : Nat
  nextAttemptAt : Option Int
  processedAt : Int
  publicKey : Option String
  fingerprint : Option String
  generationId : Option String
deriving DecidableEq

/-- What a call leaves. -/
structure KeyState where
  files : KeyFiles
  receipts : String → KeyAction → Option KeyReceipt

structure KeyHome extends KeyState where
  /-- Which of the next steps in the protected directory fail. -/
  faults : List Bool
  answers : KeyAnswers

abbrev KeyProgram (α : Type) := Raising KeyError KeyHome α

/-- The state after a step that fails. -/
def KeyHome.spend (home : KeyHome) : KeyHome := { home with faults := home.faults.tail }

/-- One step in the protected directory, with what is raised where it fails. -/
def onFiles {α : Type} (fault : KeyError) (step : KeyFiles → Except KeyError (α × KeyFiles)) :
    KeyProgram α :=
  action fun home =>
    if home.faults.head? = some true then (.error fault, home.spend)
    else
      match step home.files with
      | .ok (result, files) => (.ok result, { home.spend with files := files })
      | .error raised => (.error raised, home.spend)

/-- A step that only reads. -/
def look {α : Type} (fault : KeyError) (read : KeyFiles → Except KeyError α) : KeyProgram α :=
  onFiles fault fun files => (read files).map fun result => (result, files)

/-- A step that changes something. -/
def change (update : KeyFiles → KeyFiles) : KeyProgram Unit :=
  onFiles .osError fun files => .ok ((), update files)

/-- `_fsync_directory`, of the protected directory. -/
def fsyncDirectory : KeyProgram Unit := change id

def answers : KeyProgram KeyAnswers := action fun home => (.ok home.answers, home)

/-- What the program raises is raised in its stead as the given exception. -/
def failingAs {α : Type} (raised : KeyError) (program : KeyProgram α) : KeyProgram α :=
  tryCatch program fun _ => throw raised

/-! ## Inspection -/

def stateInvalid : KeyError := .deployKey "Deploy key state is invalid"

def stateIncomplete : KeyError := .deployKey "Deploy key state is incomplete"

def generationFailed : KeyError := .deployKey "Deploy key generation failed"

/-- `_inspect_generation`. -/
def KeyDirectory.inspect (directory : KeyDirectory) : Except KeyError DeployKeyEnrollment :=
  match directory.enrollment with
  | some enrollment => .ok enrollment
  | none => .error stateInvalid

/-- `_read_journal`. -/
def KeyJournal.read : KeyJournal → Except KeyError String
  | torn => .error stateIncomplete
  | names generationId => .ok generationId

/-- What `inspect_repo_b_deploy_key` reads. -/
def KeyFiles.inspect (files : KeyFiles) (place : KeyPlace) : Except KeyError DeployKeyEnrollment :=
  match files.journal place with
  | some journal => do
    let _ ← journal.read
    .error stateIncomplete
  | none =>
    match files.directory place with
    | none => .error stateInvalid
    | some directory => directory.inspect

/-- `inspect_repo_b_deploy_key`. -/
def inspectRepoBDeployKey (place : KeyPlace) : KeyProgram DeployKeyEnrollment :=
  look stateInvalid (·.inspect place)

/-! ## Generation -/

/-- `_write_journal`: a file that is created empty and then written. -/
def writeJournal (place : KeyPlace) (generationId : String) : KeyProgram Unit :=
  failingAs stateIncomplete do
    change (·.setJournal place (some .torn))
    change (·.setJournal place (some (.names generationId)))
    fsyncDirectory

/-- The journal of a generation that is whole is removed. -/
def removeJournal (place : KeyPlace) : KeyProgram Unit := do
  change (·.setJournal place none)
  fsyncDirectory

/-- A new generation under a temporary name, inspected. -/
def generateTemporary (keygen : Option (String × String)) (generationId : String) :
    KeyProgram DeployKeyEnrollment :=
  look generationFailed fun _ =>
    match keygen with
    | some (publicKey, fingerprint) => .ok ⟨publicKey, fingerprint, generationId⟩
    | none => .error generationFailed

/-- The directories and the journal that are there. -/
def lookAround (place : KeyPlace) : KeyProgram (Option KeyDirectory × Option KeyJournal) :=
  look stateInvalid fun files => .ok (files.directory place, files.journal place)

/-- A directory is renamed into a place, where nothing may be. -/
def renameInto (place : KeyPlace) (directory : KeyDirectory) : KeyProgram Unit :=
  onFiles .osError fun files =>
    match files.directory place with
    | some _ => .error .osError
    | none => .ok ((), files.setDirectory place (some directory))

/-- A generation where there is none. -/
def generateKey (place : KeyPlace) : KeyProgram DeployKeyEnrollment := do
  let answered ← answers
  writeJournal place answered.generationId.val
  failingAs generationFailed do
    let enrollment ← generateTemporary answered.keygen answered.generationId.val
    renameInto place ⟨some enrollment⟩
    fsyncDirectory
    removeJournal place
    return enrollment

/-- A generation that is there, and whose journal may not have been removed. -/
def replayKey (place : KeyPlace) (directory : KeyDirectory) (journal : Option KeyJournal) :
    KeyProgram DeployKeyEnrollment := do
  let enrollment ← look stateInvalid fun _ => directory.inspect
  match journal with
  | none => return enrollment
  | some journal => do
    let journalId ← look stateInvalid fun _ => journal.read
    if journalId ≠ enrollment.generationId then throw stateIncomplete
    else do
      failingAs stateIncomplete (removeJournal place)
      return enrollment

/-- `ensure_repo_b_deploy_key`. -/
def ensureRepoBDeployKey (place : KeyPlace) : KeyProgram DeployKeyEnrollment := do
  let found ← lookAround place
  match found with
  | (some directory, journal) => replayKey place directory journal
  | (none, some journal) => do
    let _ ← look stateInvalid fun _ => journal.read
    throw stateIncomplete
  | (none, none) => generateKey place

end SyncApp.DeployKey
