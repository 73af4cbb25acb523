import SyncApp.LiveApply.Evidence
import SyncApp.Lib.Calendar
import SyncApp.Lib.JsonText
import Mathlib.Data.List.Sort
import Mathlib.Data.Prod.Lex
import Mathlib.Algebra.GroupWithZero.Nat

/-!
# Log artifacts

`buildLogArtifact` stages the records of the last thirty days, one file for each category, with a
manifest that binds the files, their counts and the reference time. `expectedLogArtifactId` computes
the id of the artifact without staging it, and `loadLogArtifact` makes the evidence of an artifact
from its directory alone.

A time is a count of microseconds (`Lib.Calendar`). The directory of an artifact is what a walk of
it reports, in any order.
-/

set_option autoImplicit false

namespace SyncApp

open Lib

namespace LogArtifacts

/-- A `datetime`: its clock, and how far this is ahead of UTC, where it says so. -/
structure DateTime where
  clock : Nat
  offset : Option Int
deriving DecidableEq

structure LogRecord where
  category : PyStr
  recordId : PyStr
  timestamp : DateTime
  message : PyStr
deriving DecidableEq

structure LogArtifactFile where
  path : PyStr
  sha256 : Digest
  size : Nat
deriving DecidableEq

/-- Evidence of an artifact, in the directory `name` of `parent`. -/
structure LogArtifact where
  parent : PyStr
  name : PyStr
  artifactId : Digest
  files : List LogArtifactFile
deriving DecidableEq

/-- What a walk meets: a directory, and whether it is private; or a file, and its bytes where it is
a private regular file of one link. -/
inductive ArtifactNode where
  | directory (path : PyStr) (isPrivate : Bool)
  | file (path : PyStr) (content : Option (List UInt8))
deriving DecidableEq

def ArtifactNode.path : ArtifactNode → PyStr
  | directory path _ => path
  | file path _ => path

/-- The directory of an artifact: whether it is private, and what a walk of it meets. -/
structure ArtifactRoot where
  isPrivate : Bool
  walk : List ArtifactNode
deriving DecidableEq

/-- The directory artifacts are staged in: whether it is private, what it holds, and the order in
which the file system reports what stands in a directory. -/
structure StagingRoot where
  path : PyStr
  isPrivate : Bool
  holds : PyStr → Bool
  report : List ArtifactNode → List ArtifactNode
  complete : ∀ nodes, (report nodes).Perm nodes

/-- The exceptions: `LogArtifactError`, `LogArtifactLoadError`, and those of `datetime` and of an
encoding. -/
inductive ArtifactError where
  | artifact (message : String)
  | load (message : String)
  | overflow
  | unencodable
deriving DecidableEq

def reject {α : Type} (message : String) : Except ArtifactError α := .error (.artifact message)

/-- `_CATEGORIES`. -/
def categories : List PyStr :=
  [text "deployments", text "home-assistant", text "supervisor", text "syncapp"]

/-- `_RETENTION_DAYS`, in microseconds. -/
def retention : Nat := 30 * Calendar.microsPerDay

def maxRecords : Nat := 10000

def maxRecordBytes : Nat := 1024 * 1024

def maxArtifactBytes : Nat := 16 * 1024 * 1024

/-! ## Records -/

/-- `value.astimezone(UTC)`. -/
def astimezone (clock : Nat) (offset : Int) : Except ArtifactError Nat :=
  let utc : Int := clock - offset
  if 0 ≤ utc ∧ utc < Calendar.limit then .ok utc.toNat else .error .overflow

def normalizeReferenceTime (value : DateTime) : Except ArtifactError Nat :=
  match value.offset with
  | none => reject "log artifact reference time must be timezone-aware"
  | some offset => astimezone value.clock offset

/-- `reference_time - timedelta(days=_RETENTION_DAYS)`. -/
def cutoffOf (reference : Nat) : Except ArtifactError Nat :=
  if reference < retention then .error .overflow else .ok (reference - retention)

def isAlphanumeric (c : Nat) : Bool :=
  (48 ≤ c && c ≤ 57) || (65 ≤ c && c ≤ 90) || (97 ≤ c && c ≤ 122)

/-- `_RECORD_ID`. -/
def isRecordId : PyStr → Bool
  | [] => false
  | c :: rest => isAlphanumeric c && rest.length ≤ 127 &&
    rest.all fun c => isAlphanumeric c || c = 46 || c = 95 || c = 58 || c = 45

/-- `message.encode("utf-8")`. -/
def encodeMessage (message : PyStr) : Except ArtifactError (List UInt8) :=
  if message.all fun c => Utf8.Scalar c then .ok (Utf8.encode message) else .error .unencodable

/-- A record with its time in UTC. -/
structure Normalized where
  record : LogRecord
  timestamp : Nat
deriving DecidableEq

/-- One record of `_normalize_records`; `identities` are those before it. -/
def normalizeRecord (reference : Nat) (identities : List (PyStr × PyStr)) (record : LogRecord) :
    Except ArtifactError Normalized :=
  match record.timestamp.offset with
  | none => reject "log artifact record metadata is invalid"
  | some offset =>
    if record.category ∉ categories ∨ !isRecordId record.recordId then
      reject "log artifact record metadata is invalid"
    else do
      let timestamp ← astimezone record.timestamp.clock offset
      if timestamp > reference then reject "log artifact record timestamp is in the future"
      else if (record.category, record.recordId) ∈ identities then
        reject "log artifact contains a duplicate record identity"
      else
        let encoded ← encodeMessage record.message
        if encoded.length > maxRecordBytes then
          reject "log artifact record exceeds encoded byte limit"
        else .ok ⟨record, timestamp⟩

def normalizeEach (reference : Nat) (identities : List (PyStr × PyStr)) :
    List LogRecord → Except ArtifactError (List Normalized)
  | [] => .ok []
  | record :: records => do
    let normalized ← normalizeRecord reference identities record
    let later ← normalizeEach reference ((record.category, record.recordId) :: identities) records
    return normalized :: later

/-- The key records are sorted by. -/
abbrev SortKey := PyStr ×ₗ Nat ×ₗ PyStr ×ₗ PyStr

def sortKey (item : Normalized) : SortKey :=
  toLex (item.record.category,
    toLex (item.timestamp, toLex (item.record.recordId, item.record.message)))

/-- `_normalize_records`. -/
def normalizeRecords (records : List LogRecord) (reference : Nat) :
    Except ArtifactError (List Normalized) :=
  if records.length > maxRecords then reject "log artifact record set is invalid or too large"
  else do
    let normalized ← normalizeEach reference [] records
    return normalized.insertionSort fun first second => sortKey first ≤ sortKey second

/-! ## Files -/

/-- `_canonical_json`, of a value whose keys are sorted. -/
def canonicalJson (value : JsonText.Value) : List UInt8 :=
  Utf8.encode (JsonText.write false value ++ [10])

def recordValue (item : Normalized) : JsonText.Value :=
  .obj [(text "message", .str item.record.message), (text "record_id", .str item.record.recordId),
    (text "timestamp", .str (Calendar.render item.timestamp))]

def payloadPath (category : PyStr) : PyStr := text "logs/" ++ category ++ text "/records.jsonl"

def payloadOf (retained : List Normalized) (category : PyStr) : List UInt8 :=
  (retained.filter (·.record.category = category)).flatMap fun item =>
    canonicalJson (recordValue item)

/-- `_render_payloads`, in the order of the paths. -/
def renderPayloads (retained : List Normalized) : List (PyStr × List UInt8) :=
  categories.map fun category => (payloadPath category, payloadOf retained category)

def manifestPath : PyStr := text "manifest.json"

variable (hashing : Hashing)

def fileEvidence (path : PyStr) (data : List UInt8) : LogArtifactFile :=
  ⟨path, hashing.sha256 data, data.length⟩

def fileValue (file : LogArtifactFile) : JsonText.Value :=
  .obj [(text "path", .str file.path), (text "sha256", .str (text file.sha256.hex)),
    (text "size", .int file.size)]

def countOf (retained : List Normalized) (category : PyStr) : Nat :=
  (retained.filter (·.record.category = category)).length

def manifestValue (reference : Nat) (files : List LogArtifactFile) (retained : List Normalized) :
    JsonText.Value :=
  .obj [(text "categories", .arr (categories.map .str)), (text "files", .arr (files.map fileValue)),
    (text "record_counts",
      .obj (categories.map fun category => (category, .int (countOf retained category)))),
    (text "reference_time", .str (Calendar.render reference)), (text "retention_days", .int 30),
    (text "schema", .int 1)]

/-- `_manifest_bytes`. -/
def manifestBytes (reference : Nat) (files : List LogArtifactFile) (retained : List Normalized) :
    List UInt8 := canonicalJson (manifestValue reference files retained)

/-- The records of the window. -/
def retainedRecords (records : List LogRecord) (reference : Nat) :
    Except ArtifactError (List Normalized) := do
  let normalized ← normalizeRecords records reference
  let cutoff ← cutoffOf reference
  return normalized.filter (cutoff ≤ ·.timestamp)

/-- `expected_log_artifact_id`. -/
def expectedLogArtifactId (records : List LogRecord) (referenceTime : DateTime) :
    Except ArtifactError Digest := do
  let reference ← normalizeReferenceTime referenceTime
  let retained ← retainedRecords records reference
  let files := (renderPayloads retained).map fun (path, payload) => fileEvidence hashing path payload
  let totalSize := (files.map (·.size)).sum
  let manifest := manifestBytes reference files retained
  if totalSize + manifest.length > maxArtifactBytes then
    reject "log artifact exceeds encoded byte limit"
  else .ok (hashing.sha256 manifest)

/-! ## Staging -/

/-- The directories above a path, the highest first. -/
def parentsOf (path : PyStr) : List PyStr := (splitPath path).dropLast.inits.tail.map asPosix

/-- `_ensure_private_parent_directories`. -/
def ensureParents (nodes : List ArtifactNode) (path : PyStr) : List ArtifactNode :=
  (parentsOf path).foldl (fun nodes parent =>
    if nodes.any (·.path = parent) then nodes else nodes ++ [.directory parent true]) nodes

/-- `_write_private_file`: nothing may stand there. -/
def writePrivateFile (nodes : List ArtifactNode) (path : PyStr) (data : List UInt8) :
    Except ArtifactError (List ArtifactNode) :=
  if nodes.any (·.path = path) then reject "log artifact file could not be created safely"
  else .ok (nodes ++ [.file path (some data)])

/-- Stages the payloads, each within what is left of the byte limit. -/
def stagePayloads (nodes : List ArtifactNode) (totalSize : Nat) :
    List (PyStr × List UInt8) →
      Except ArtifactError (List ArtifactNode × Nat × List LogArtifactFile)
  | [] => .ok (nodes, totalSize, [])
  | (path, payload) :: payloads =>
    if totalSize + payload.length > maxArtifactBytes then
      reject "log artifact exceeds encoded byte limit"
    else do
      let nodes ← writePrivateFile (ensureParents nodes path) path payload
      let (nodes, totalSize, files) ← stagePayloads nodes (totalSize + payload.length) payloads
      return (nodes, totalSize, fileEvidence hashing path payload :: files)

/-! ## Verifying -/

/-- The path is written as `PurePosixPath` writes it, is relative and stays inside. -/
def plainPath (path : PyStr) : Bool :=
  path ≠ [] && path.head? ≠ some slash && !(splitPath path).any fun part =>
    part = [] || part = text "." || part = text ".."

/-- `_validate_file_evidence`; `observed` are the paths before. -/
def validateEach (observed : List PyStr) : List LogArtifactFile → Except ArtifactError Unit
  | [] => .ok ()
  | file :: files =>
    if !plainPath file.path ∨ file.path ∈ observed ∨ file.size > maxArtifactBytes then
      reject "log artifact file evidence is invalid"
    else validateEach (file.path :: observed) files

def expectedOrder : List PyStr := categories.map payloadPath ++ [manifestPath]

def validateFileEvidence (files : List LogArtifactFile) : Except ArtifactError Unit :=
  if files = [] then reject "log artifact file evidence is invalid"
  else do
    validateEach [] files
    if files.map (·.path) ≠ expectedOrder then
      reject "log artifact file evidence layout is invalid"
    else .ok ()

def expectedDirectories (files : List LogArtifactFile) : List PyStr :=
  files.flatMap fun file => parentsOf file.path

/-- What a verification has met: the directories, and the files with their bytes. -/
structure Observed where
  directories : List PyStr
  files : List (PyStr × List UInt8)

/-- `_read_private_regular_file`. -/
def readPrivateRegularFile (content : Option (List UInt8)) : Except ArtifactError (List UInt8) :=
  match content with
  | none => reject "log artifact contains an unsafe file entry"
  | some data =>
    if data.length > maxArtifactBytes then
      reject "log artifact file exceeds verification byte limit"
    else .ok data

/-- One node of the walk. -/
def observe (files : List LogArtifactFile) (observed : Observed) :
    ArtifactNode → Except ArtifactError Observed
  | .directory path isPrivate =>
    if path ∉ expectedDirectories files ∨ !isPrivate then
      reject "log artifact directory layout or mode is invalid"
    else .ok { observed with directories := path :: observed.directories }
  | .file path content =>
    match files.find? (·.path = path) with
    | none => reject "log artifact file layout does not match evidence"
    | some evidence =>
      if path ∈ observed.files.map (·.1) then
        reject "log artifact file layout does not match evidence"
      else do
        let data ← readPrivateRegularFile content
        if data.length ≠ evidence.size ∨ hashing.sha256 data ≠ evidence.sha256 then
          reject "log artifact bytes do not match evidence"
        else .ok { observed with files := (path, data) :: observed.files }

/-- `_parse_canonical_utc_timestamp`. Of the forms `fromisoformat` reads, all but the one that is
rendered are refused by the comparison. -/
def parseCanonicalUtcTimestamp (value : PyStr) : Except ArtifactError Nat :=
  if value.getLast? ≠ some 90 then reject "log artifact timestamp is not canonical UTC"
  else match Calendar.parse value with
    | none => reject "log artifact timestamp is invalid"
    | some t =>
      if Calendar.render t ≠ value then reject "log artifact timestamp is not canonical UTC"
      else .ok t

/-- `data.splitlines()`. -/
def splitLines : List UInt8 → List (List UInt8)
  | [] => []
  | c :: rest =>
    if c = 10 then [] :: splitLines rest
    else if c = 13 then match rest with
      | [] => [[]]
      | next :: more => [] :: if next = 10 then splitLines more else splitLines (next :: more)
    else match splitLines rest with
      | [] => [[c]]
      | line :: lines => (c :: line) :: lines

/-- What a line of a payload says: time, id and message, in the order they are sorted by. -/
abbrev LogRow := Nat ×ₗ PyStr ×ₗ PyStr

def invalidPayload {α : Type} : Except ArtifactError α :=
  reject "log artifact record payload is invalid"

/-- The message, id and timestamp of a line, where it is an object of these three texts. -/
def lineTexts (line : List UInt8) : Option (PyStr × PyStr × PyStr) :=
  match JsonText.load line with
  | some (.obj members) =>
    if JsonText.hasKeys members [text "message", text "record_id", text "timestamp"] then
      match JsonText.get? members (text "message"), JsonText.get? members (text "record_id"),
          JsonText.get? members (text "timestamp") with
      | some (.str message), some (.str recordId), some (.str timestamp) =>
        some (message, recordId, timestamp)
      | _, _, _ => none
    else none
  | _ => none

/-- One line of a payload; `identities` are the ids before it in its category. -/
def verifyLine (reference cutoff : Nat) (identities : List PyStr) (line : List UInt8) :
    Except ArtifactError LogRow :=
  match lineTexts line with
  | none => invalidPayload
  | some (message, recordId, timestampText) => do
    let encoded ← encodeMessage message
    if encoded.length > maxRecordBytes ∨ !isRecordId recordId then invalidPayload
    else
      let timestamp ← parseCanonicalUtcTimestamp timestampText
      if timestamp < cutoff ∨ timestamp > reference then
        reject "log artifact record falls outside retention window"
      else if recordId ∈ identities then
        reject "log artifact contains a duplicate record identity"
      else .ok (toLex (timestamp, toLex (recordId, message)))

/-- The lines of a payload; `total` counts the records before. -/
def verifyLines (reference cutoff : Nat) (total : Nat) (identities : List PyStr) :
    List (List UInt8) → Except ArtifactError (List LogRow)
  | [] => .ok []
  | line :: lines =>
    if total + 1 > maxRecords then reject "log artifact contains too many retained records"
    else do
      let row ← verifyLine reference cutoff identities line
      let rows ← verifyLines reference cutoff (total + 1) ((ofLex (ofLex row).2).1 :: identities) lines
      return row :: rows

/-- The records of one payload. -/
def decodePayload (reference cutoff total : Nat) (data : List UInt8) :
    Except ArtifactError (List LogRow) := do
  let rows ← verifyLines reference cutoff total [] (splitLines data)
  if rows ≠ rows.insertionSort (· ≤ ·) then
    reject "log artifact records are not in canonical order"
  else .ok rows

/-- `_verify_record_payloads`, for the categories left: how many records each has. -/
def verifyRecordPayloads (reference cutoff : Nat) (files : List (PyStr × List UInt8)) (total : Nat) :
    List PyStr → Except ArtifactError (List (PyStr × Nat))
  | [] => .ok []
  | category :: rest =>
    match files.lookup (payloadPath category) with
    | none => reject "log artifact category payload is missing"
    | some data => do
      let rows ← decodePayload reference cutoff total data
      let counts ← verifyRecordPayloads reference cutoff files (total + rows.length) rest
      return (category, rows.length) :: counts

/-- The evidence that an entry of a manifest spells. -/
def fileOf : JsonText.Value → Option LogArtifactFile
  | .obj members =>
    if JsonText.hasKeys members [text "path", text "sha256", text "size"] then
      match JsonText.get? members (text "path"), JsonText.get? members (text "sha256"),
          JsonText.get? members (text "size") with
      | some (.str path), some (.str sha256), some (.int size) =>
        if size < 0 then none
        else (digestOf (String.ofList (sha256.map Char.ofNat))).map fun digest =>
          ⟨path, digest, size.toNat⟩
      | _, _, _ => none
    else none
  | _ => none

/-- The evidence of a list of entries. -/
def filesOf : Option JsonText.Value → Option (List LogArtifactFile)
  | some (.arr items) => items.mapM fileOf
  | _ => none

/-- Equal to the number, as Python compares an integer or a truth value with it. -/
def isNumber (n : Int) : Option JsonText.Value → Bool
  | some (.int value) => value = n
  | some (.bool value) => (if value then 1 else 0) = n
  | _ => false

def isCategories : Option JsonText.Value → Bool
  | some (.arr items) => items.length = categories.length &&
    (items.zip categories).all fun (item, category) =>
      match item with
      | .str name => name = category
      | _ => false
  | _ => false

def countIn (members : List (PyStr × JsonText.Value)) (category : PyStr) : Option (PyStr × Nat) :=
  match JsonText.get? members category with
  | some (.int value) => if value < 0 then none else some (category, value.toNat)
  | _ => none

/-- The counts of the categories, where the value has exactly these. -/
def countsOf : Option JsonText.Value → Option (List (PyStr × Nat))
  | some (.obj members) =>
    if JsonText.hasKeys members categories then categories.mapM (countIn members) else none
  | _ => none

/-- `_verify_manifest`. -/
def verifyManifest (manifest : List UInt8) (files : List LogArtifactFile)
    (fileBytes : List (PyStr × List UInt8)) : Except ArtifactError Unit :=
  match JsonText.load manifest with
  | some (.obj members) =>
    if !isNumber 1 (JsonText.get? members (text "schema")) ∨
        !isNumber 30 (JsonText.get? members (text "retention_days")) ∨
        !isCategories (JsonText.get? members (text "categories")) ∨
        filesOf (JsonText.get? members (text "files")) ≠
          some (files.filter (·.path ≠ manifestPath)) then
      reject "log artifact manifest does not match evidence"
    else match countsOf (JsonText.get? members (text "record_counts")) with
      | none => reject "log artifact manifest record counts are invalid"
      | some counts =>
        match JsonText.get? members (text "reference_time") with
        | some (.str referenceText) => do
          let reference ← parseCanonicalUtcTimestamp referenceText
          let cutoff ← cutoffOf reference
          let observed ← verifyRecordPayloads reference cutoff fileBytes 0 categories
          if counts ≠ observed then
            reject "log artifact manifest record counts do not match payloads"
          else .ok ()
        | _ => reject "log artifact manifest reference time is invalid"
  | _ => reject "log artifact manifest is invalid"

def verifyLogArtifact (root : ArtifactRoot) (artifact : LogArtifact) : Except ArtifactError Unit :=
  if artifact.name ≠ text artifact.artifactId.hex then
    reject "log artifact root is not bound to its identifier"
  else do
    validateFileEvidence artifact.files
    if !root.isPrivate then reject "log artifact root is not a private directory"
    else
      let observed ← root.walk.foldlM (observe hashing artifact.files) ⟨[], []⟩
      if !(artifact.files.all fun file => observed.files.any (·.1 = file.path)) ∨
          !(expectedDirectories artifact.files).all (observed.directories.contains ·) then
        reject "log artifact layout does not match evidence"
      else match observed.files.lookup manifestPath with
        | none => reject "log artifact manifest does not match artifact identifier"
        | some manifest =>
          if hashing.sha256 manifest ≠ artifact.artifactId then
            reject "log artifact manifest does not match artifact identifier"
          else verifyManifest manifest artifact.files observed.files

/-! ## Building -/

/-- What building wraps: everything but its own exception. -/
def failClosed {α : Type} : Except ArtifactError α → Except ArtifactError α
  | .error (.artifact message) => reject message
  | .error _ => reject "log artifact staging failed closed"
  | .ok value => .ok value

/-- What is staged of the records of the window: the evidence, and the directory. -/
def stageArtifact (staging : StagingRoot) (reference : Nat) (retained : List Normalized) :
    Except ArtifactError (LogArtifact × ArtifactRoot) := do
  let (nodes, totalSize, dataEvidence) ← stagePayloads hashing [] 0 (renderPayloads retained)
  let manifest := manifestBytes reference dataEvidence retained
  if totalSize + manifest.length > maxArtifactBytes then
    reject "log artifact exceeds encoded byte limit"
  else
    let nodes ← writePrivateFile nodes manifestPath manifest
    let artifactId := hashing.sha256 manifest
    if staging.holds (text artifactId.hex) then
      reject "log artifact destination already exists"
    else
      let artifact : LogArtifact := ⟨staging.path, text artifactId.hex, artifactId,
        dataEvidence ++ [fileEvidence hashing manifestPath manifest]⟩
      let root : ArtifactRoot := ⟨true, staging.report nodes⟩
      verifyLogArtifact hashing root artifact
      return (artifact, root)

def validateStagingRoot (staging : StagingRoot) : Except ArtifactError Unit :=
  if staging.isPrivate then .ok ()
  else reject "log artifact staging root must be a private directory"

def buildLogArtifact (staging : StagingRoot) (records : List LogRecord) (referenceTime : DateTime) :
    Except ArtifactError (LogArtifact × ArtifactRoot) := do
  validateStagingRoot staging
  let reference ← normalizeReferenceTime referenceTime
  let retained ← retainedRecords records reference
  failClosed (stageArtifact hashing staging reference retained)

/-! ## Loading -/

def rejectLoad {α : Type} (message : String) : Except ArtifactError α := .error (.load message)

/-- `_read_private_manifest`. -/
def readPrivateManifest (root : ArtifactRoot) : Except ArtifactError (List UInt8) :=
  if !root.isPrivate then rejectLoad "log artifact directory is unsafe"
  else match root.walk.find? (·.path = manifestPath) with
    | some (.file _ (some data)) =>
      if data.length > maxArtifactBytes then
        rejectLoad "log artifact manifest exceeds the verification limit"
      else .ok data
    | some _ => rejectLoad "log artifact manifest is unsafe"
    | none => rejectLoad "log artifact manifest is unavailable"

/-- `_manifest_file_evidence`. -/
def manifestFileEvidence (manifest : List UInt8) : Except ArtifactError (List LogArtifactFile) :=
  match JsonText.load manifest with
  | some (.obj members) =>
    match JsonText.get? members (text "files") with
    | some (.arr items) =>
      match items.mapM fileOf with
      | some files =>
        if files.any (·.size > maxArtifactBytes) then
          rejectLoad "log artifact manifest file evidence is invalid"
        else .ok files
      | none => rejectLoad "log artifact manifest file evidence is invalid"
    | _ => rejectLoad "log artifact manifest file evidence is invalid"
  | _ => rejectLoad "log artifact manifest is invalid"

/-- What loading wraps: the exceptions of verification. -/
def loadClosed {α : Type} : Except ArtifactError α → Except ArtifactError α
  | .error (.load message) => rejectLoad message
  | .error _ => rejectLoad "log artifact reconstruction failed closed"
  | .ok value => .ok value

/-- `load_log_artifact`, of the directory that stands under the id in the protected root. -/
def loadLogArtifact (staging : StagingRoot) (root : ArtifactRoot) (artifactId : Digest) :
    Except ArtifactError LogArtifact := do
  if !staging.isPrivate then rejectLoad "log artifact protected root is unsafe"
  else
    let manifest ← readPrivateManifest root
    if hashing.sha256 manifest ≠ artifactId then
      rejectLoad "log artifact manifest does not match its identifier"
    else
      let files ← manifestFileEvidence manifest
      let artifact : LogArtifact := ⟨staging.path, text artifactId.hex, artifactId,
        files ++ [⟨manifestPath, artifactId, manifest.length⟩]⟩
      loadClosed (verifyLogArtifact hashing root artifact)
      return artifact

end LogArtifacts

end SyncApp
