import SyncApp.LiveApply.Evidence
import SyncApp.Lib.Raising

/-!
# The host of a live Apply

The state a live Apply acts on: the state database, and the host with the live configuration as a
file system of inodes, the staging trees on disk, the clock and the supply of random names. `Sys` is
the programs on the host, `App` those on both; each system call and each database transaction is one
action, and `fault` makes calls fail while it is set.

A row of the database that would fail its own integrity check is not represented: `record_sha256`
of a row is the hash of the row's other columns. A directory's identity (`st_dev`, `st_ino`) is its
inode number.

`entered` is no state of the program: it lists the operations for which `_mutate_operation` was
entered, in order.
-/

set_option autoImplicit false

namespace SyncApp

open Lib Raising

inductive ProgressPhase where
  | mutationStarted
  | mutationVerified
  | blocked
deriving DecidableEq

inductive ReconciliationOutcome where
  | applied
  | notApplied
  | ambiguous
deriving DecidableEq

structure LiveApplyProgress where
  deploymentId : PyStr
  intentRecordSha256 : Digest
  operationsSha256 : Digest
  operationIndex : Nat
  operationPathSha256 : Digest
  phase : ProgressPhase
deriving DecidableEq

structure PersistedLiveApplyProgress where
  progress : LiveApplyProgress
  updatedAt : Int
deriving DecidableEq

structure PersistedLiveApplyIntent where
  intent : LiveApplyIntent
  recordedAt : Int
deriving DecidableEq

structure LiveApplyMutationGuard where
  deploymentId : PyStr
  operationIndex : Nat
  intentRecordSha256 : Digest
  operationsSha256 : Digest
  operationPathSha256 : Digest
  rootIdentity : Nat
  parentIdentities : List Nat
  recordedAt : Int
deriving DecidableEq

structure LiveApplyReconciliationRecord where
  deploymentId : PyStr
  operationIndex : Nat
  outcome : ReconciliationOutcome
  recordedAt : Int
deriving DecidableEq

/-- The evidence of a prepared deployment that an intent is checked against. -/
structure PreparedEvidence where
  target : PyStr
  repositoryId : Int
  baselineSha : ObjectId
  candidateSha : ObjectId
  stageManifestSha256 : Digest
  backupSlug : PyStr
deriving DecidableEq

/-- The tables a live Apply reads and writes. -/
structure Database where
  repositoryId : PyStr → Option Int
  preparedDeployment : PyStr → Option PreparedEvidence
  intents : List PersistedLiveApplyIntent
  progress : List PersistedLiveApplyProgress
  guards : List LiveApplyMutationGuard
  reconciliations : List LiveApplyReconciliationRecord

/-- What a staging tree holds beside directories; `owned` when its owner and link count are. -/
structure StagedFile where
  regular : Bool
  owned : Bool
  mode : Nat
  bytes : List UInt8

/-- A directory of a staging tree under its relative path, the root's being empty: whether it and
its subdirectories are real and private, and its files under their relative paths. -/
structure StagedDirectory where
  path : PyStr
  isPrivate : Bool
  files : List (PyStr × StagedFile)

/-- A staging root on disk: whether its own paths are private, its manifest where the file is
private, and the directories of its tree as they are walked. -/
structure StageDisk where
  isPrivate : Bool
  manifest : Option StageManifest
  directories : List StagedDirectory

/-- What is outside the database: the live file system, where absolute paths lead, the staging
trees, the clock and the random names, and the error a call fails with while one is set. -/
structure Host where
  live : FileSystem PyStr
  openRoot : PyStr → Except Errno Nat
  stages : PyStr → Option StageDisk
  clock : Nat → Int
  uuid : Nat → PyStr
  drawn : Nat
  fault : Option Errno

structure World where
  db : Database
  host : Host
  entered : List (PyStr × Nat)

/-- Programs on the host that may raise. -/
abbrev Sys (α : Type) := Raising PyError Host α

/-- Programs on the host and the database that may raise. -/
abbrev App (α : Type) := Raising PyError World α

def World.setHost (world : World) (host : Host) : World := { world with host := host }

/-- A program on the host, among programs that use the database too. -/
def onHost {α : Type} (program : Sys α) : App α := program.within World.host World.setHost

section Raise

variable {σ α : Type}

/-- `if not condition: raise error`. -/
def require (condition : Prop) [Decidable condition] (error : PyError) : Raising PyError σ Unit :=
  if condition then pure () else throw error

/-- `except OSError`. -/
def onOsError (program : Raising PyError σ α) (handler : Errno → Raising PyError σ α) :
    Raising PyError σ α :=
  tryCatch program fun error =>
    match error.kind with
    | .osError errno => handler errno
    | _ => throw error

/-- `except Exception: raise raised`. -/
def orRaise (program : Raising PyError σ α) (raised : PyError) : Raising PyError σ α :=
  tryCatch program fun _ => throw raised

/-- `contextlib.suppress(Exception)`. -/
def suppress (program : Raising PyError σ Unit) : Raising PyError σ Unit :=
  tryCatch program fun _ => pure ()

end Raise

/-! ## The database -/

namespace App

variable {α : Type}

/-- One transaction of the database; `refused` is what a database error becomes. -/
def transaction (refused : String) (change : Database → Except PyError (α × Database)) : App α :=
  Raising.action fun world =>
    match world.host.fault with
    | some _ => (.error ⟨.stateError, refused⟩, world)
    | none =>
      match change world.db with
      | .error error => (.error error, world)
      | .ok (result, db) => (.ok result, { world with db := db })

/-- One read of the database. -/
def query (refused : String) (read : Database → Except PyError α) : App α :=
  Raising.action fun world =>
    match world.host.fault with
    | some _ => (.error ⟨.stateError, refused⟩, world)
    | none => (read world.db, world)

/-- Notes that `_mutate_operation` is entered. -/
def entering (deploymentId : PyStr) (operationIndex : Nat) : App Unit :=
  Raising.action fun world =>
    (.ok (), { world with entered := world.entered ++ [(deploymentId, operationIndex)] })

end App

/-! ## The host -/

namespace Sys

variable {α : Type}

/-- A name that is handed to the system holds no NUL. -/
def named (name : PyStr) : Sys Unit :=
  require (name.contains 0 = false) ⟨.valueError, "embedded null byte"⟩

/-- One call that only reads the host. -/
def ask (call : Host → Except Errno α) : Sys α :=
  Raising.action fun host =>
    match host.fault with
    | some errno => (.error ⟨.osError errno, ""⟩, host)
    | none =>
      match call host with
      | .error errno => (.error ⟨.osError errno, ""⟩, host)
      | .ok result => (.ok result, host)

/-- One call that only reads the live file system. -/
def look (call : FileSystem PyStr → Except Errno α) : Sys α := ask fun host => call host.live

/-- One call that changes the live file system. -/
def change (call : FileSystem PyStr → Except Errno (α × FileSystem PyStr)) : Sys α :=
  Raising.action fun host =>
    match host.fault with
    | some errno => (.error ⟨.osError errno, ""⟩, host)
    | none =>
      match call host.live with
      | .error errno => (.error ⟨.osError errno, ""⟩, host)
      | .ok (result, live) => (.ok result, { host with live := live })

/-- A staging root as it is on disk now. -/
def stageDisk (root : PyStr) : Sys StageDisk :=
  ask fun host => match host.stages root with
    | some disk => .ok disk
    | none => .error .noent

/-- `datetime.now(UTC)`. -/
def now : Sys Int :=
  Raising.action fun host => (.ok (host.clock host.drawn), { host with drawn := host.drawn + 1 })

/-- `uuid.uuid4().hex`. -/
def uuid4 : Sys PyStr :=
  Raising.action fun host => (.ok (host.uuid host.drawn), { host with drawn := host.drawn + 1 })

/-! ## Calls on the live file system -/

/-- `os.open(path, O_RDONLY | O_DIRECTORY | O_NOFOLLOW)` for an absolute path. -/
def openPath (path : PyStr) : Sys Nat := do
  named path
  ask fun host => host.openRoot path

/-- `os.open(name, O_RDONLY | O_DIRECTORY | O_NOFOLLOW, dir_fd=dir)`. -/
def openDirectoryAt (dir : Nat) (name : PyStr) : Sys Nat := do
  named name
  look fun fs => fs.openDirectory dir name

/-- `os.open(name, O_RDONLY | O_NOFOLLOW, dir_fd=dir)`. -/
def openAt (dir : Nat) (name : PyStr) : Sys Nat := do
  named name
  look fun fs => fs.openRead dir name

/-- `os.stat(name, dir_fd=dir, follow_symlinks=False)`. -/
def statAt (dir : Nat) (name : PyStr) : Sys (Nat × Node PyStr) := do
  named name
  look fun fs => fs.lstat dir name

def fstat (fd : Nat) : Sys (Node PyStr) :=
  look fun fs => match fs.node fd with
    | some node => .ok node
    | none => .error .other

/-- `_read_all`. -/
def readAll (fd : Nat) : Sys (List UInt8) :=
  look fun fs => match fs.node fd with
    | some (.file _ bytes) => .ok bytes
    | some (.directory _) => .error .isdir
    | _ => .error .other

def createAt (dir : Nat) (name : PyStr) (mode : Nat) : Sys Nat := do
  named name
  change fun fs => fs.createExclusive dir name mode

def writeAll (fd : Nat) (bytes : List UInt8) : Sys Unit :=
  change fun fs => (fs.writeBytes fd bytes).map fun fs => ((), fs)

def fchmod (fd : Nat) (mode : Nat) : Sys Unit :=
  change fun fs => (fs.chmod fd mode).map fun fs => ((), fs)

/-- `os.fsync` can fail; it changes nothing that is read back. -/
def fsync (_fd : Nat) : Sys Unit := look fun _ => .ok ()

def linkAt (dir : Nat) (source target : PyStr) : Sys Unit := do
  named source
  named target
  change fun fs => (fs.link dir source target).map fun fs => ((), fs)

def unlinkAt (dir : Nat) (name : PyStr) : Sys Unit := do
  named name
  change fun fs => (fs.unlink dir name).map fun fs => ((), fs)

end Sys

end SyncApp
