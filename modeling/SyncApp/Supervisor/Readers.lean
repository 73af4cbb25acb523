import SyncApp.Lib.Json

/-!
# The readers of Supervisor answers

SyncApp talks to one Supervisor, and each subsystem reads its answers with a reader of its own.
Seven of them stand here, each as its module computes it:

- Core restart (`coreRestartValidate`), Supervisor info (`supervisorInfoValidate`), full restore
  (`restoreJobId`) and restore jobs (`reconciledRestoreJob`);
- backup creation (`backupSlug`), backup inventory (`reconciledBackupSlug`), backup info
  (`verifyBackupInfo`) and the rollback backup proof (`readRollbackBackupProof`), the first three
  behind `requestJson`.

A response carries its status, its media type and a body. A body is the length of its bytes
together with the syntax tree the bytes spell, `none` where they are not UTF-8 or not JSON. The
interpreter's recursion limit on very deep texts is not modelled. Timestamps are read by
`datetime.fromisoformat`, a parameter: no reader depends on more than whether it refuses, gives a
naive time, or gives an aware one.
-/

set_option autoImplicit false

namespace SyncApp

open Lib Lib.Json

/-- A `datetime` as `fromisoformat` gives it; an aware one is the instant it stands for in UTC. -/
inductive DateTime where
  | naive
  | aware (utc : Int)
deriving DecidableEq

/-- The bytes of an answer: how many there are, and the JSON text they spell if they spell one. -/
structure Body where
  length : Nat
  text : Option Json

/-- A bounded Supervisor response, as every transport hands it to its reader. -/
structure SupervisorResponse where
  status : Int
  contentType : String
  body : Body

/-! ## Media types and identifiers -/

/-- The characters `str.strip` removes. -/
def isSpace (c : Char) : Bool :=
  let n := c.toNat
  (9 ≤ n && n ≤ 13) || (28 ≤ n && n ≤ 32) || n == 0x85 || n == 0xA0 || n == 0x1680 ||
    (0x2000 ≤ n && n ≤ 0x200A) || n == 0x2028 || n == 0x2029 || n == 0x202F || n == 0x205F ||
    n == 0x3000

/-- The media type of a content type: what stands before the first `;`, stripped, in lower case.
Only ASCII letters are lowered: no other character lowers to one of `application/json`. -/
def mediaType (value : String) : List Char :=
  let head := value.toList.takeWhile (· ≠ ';')
  let stripped := ((head.dropWhile isSpace).reverse.dropWhile isSpace).reverse
  stripped.map Char.toLower

def isJsonMedia (value : String) : Bool :=
  mediaType value == "application/json".toList

/-- `^[A-Za-z0-9][A-Za-z0-9_-]{0,127}$`, the shape of backup slugs and of job identifiers. -/
def isSlug (value : String) : Bool :=
  match value.toList with
  | [] => false
  | first :: rest =>
    first.isAlphanum && rest.length ≤ 127 &&
      rest.all fun c => c.isAlphanum || c == '_' || c == '-'

/-- `0|[1-9][0-9]*`. -/
def isCounter : List Char → Bool
  | [] => false
  | '0' :: rest => rest.isEmpty
  | first :: rest => first.isDigit && rest.all Char.isDigit

/-- `^20[0-9]{2}\.(?:[1-9]|1[0-2])\.(?:0|[1-9][0-9]*)$`, the shape of a Core version. -/
def isCoreVersion (value : String) : Bool :=
  match value.toList with
  | '2' :: '0' :: a :: b :: '.' :: rest =>
    let month := rest.takeWhile (· ≠ '.')
    a.isDigit && b.isDigit &&
      ["1", "2", "3", "4", "5", "6", "7", "8", "9", "10", "11", "12"].any (·.toList == month) &&
      match rest.dropWhile (· ≠ '.') with
      | '.' :: patch => isCounter patch
      | _ => false
  | _ => false

/-! ## The shared front of the readers -/

/-- `json.loads` with the hook that refuses a repeated key; `constants` says whether bare words
such as `NaN` are let through, as they are where no `parse_constant` hook is given. -/
def jsonLoads (constants : Bool) (body : Body) : Option Json :=
  body.text.filter (strict constants)

/-- A response with status 200, media type JSON and a body of at most `limit` bytes. -/
def SupervisorResponse.acceptable (response : SupervisorResponse) (limit : Nat) : Bool :=
  response.status == 200 && isJsonMedia response.contentType && response.body.length ≤ limit

/-- The envelope `{"result": "ok", "data": …}` with an object for data, and nothing else. -/
def envelopeData : Option Json → Option (List (String × Json))
  | some (.obj members) =>
    if hasKeys members ["result", "data"] && isStr "ok" (get? members "result") then
      match get? members "data" with
      | some (.obj data) => some data
      | _ => none
    else none
  | _ => none

/-! ## Core restart -/

/-- `core_restart_transport._validate_response`: the payload is `{"result": "ok", "data": {}}`. -/
def coreRestartValidate (response : SupervisorResponse) (limit : Nat) : Except String Unit :=
  if !response.acceptable limit then .error "Core restart response is invalid"
  else
    match envelopeData (jsonLoads true response.body) with
    | some [] => .ok ()
    | _ => .error "Core restart response is invalid"

/-! ## Supervisor info -/

/-- `supervisor_health_observation._validate_response`. -/
def supervisorInfoValidate (response : SupervisorResponse) (limit : Nat) : Except String Unit :=
  if !response.acceptable limit then .error "Supervisor health response is invalid"
  else
    match envelopeData (jsonLoads true response.body) with
    | some data =>
      if isTrue (get? data "healthy") && isTrue (get? data "supported") then .ok ()
      else .error "Supervisor health response is invalid"
    | none => .error "Supervisor health response is invalid"

/-! ## Full restore and its jobs -/

/-- `deployment_rollback._restore_job_id`. -/
def restoreJobId (response : SupervisorResponse) (limit : Nat) : Except String String :=
  if !response.acceptable limit then .error "rollback restore response is invalid"
  else
    match envelopeData (jsonLoads true response.body) with
    | some data =>
      if hasKeys data ["job_id"] then
        match get? data "job_id" with
        | some (.str jobId) =>
          if isSlug jobId then .ok jobId else .error "rollback restore response is invalid"
        | _ => .error "rollback restore response is invalid"
      else .error "rollback restore response is invalid"
    | none => .error "rollback restore response is invalid"

/-- The part of a rollback record that the restore readers look at. -/
structure RestoreIntent where
  backupSlug : String
  restoreJobId : Option String
  authorizedAt : Int
  updatedAt : Int

/-- One restore job of the Supervisor's job list. -/
structure SupervisorRestoreJob where
  jobId : String
  done : Option Bool
  failed : Bool
  createdAt : Int
deriving DecidableEq

/-- The members every job object has. -/
def jobKeys : List String :=
  ["name", "reference", "uuid", "progress", "stage", "done", "errors", "created", "extra",
    "child_jobs"]

/-- The `done` of a job: absent or null, or a truth value; anything else is refused. -/
def jobDone : Option Json → Option (Option Bool)
  | none => some none
  | some .null => some none
  | some (.bool value) => some (some value)
  | _ => none

/-- `deployment_rollback._parse_restore_job`. -/
def parseRestoreJob (fromisoformat : String → Option DateTime) (intent : RestoreIntent)
    (value : List (String × Json)) : Option SupervisorRestoreJob :=
  if !hasKeys value jobKeys then none
  else
    match get? value "uuid", jobDone (get? value "done"), get? value "errors",
      get? value "created", get? value "child_jobs" with
    | some (.str jobId), some done, some (.arr errors), some (.str created), some (.arr _) =>
      if isSlug jobId && isStr "backup_manager_full_restore" (get? value "name") &&
          isStr intent.backupSlug (get? value "reference") then
        match fromisoformat created with
        | some (.aware createdAt) =>
          if createdAt < intent.authorizedAt then none
          else some ⟨jobId, done, !errors.isEmpty, createdAt⟩
        | _ => none
      else none
    | _, _, _, _, _ => none

/-- The jobs of the list that restore the intended backup, each parsed or refused. -/
def matchingJobs (fromisoformat : String → Option DateTime) (intent : RestoreIntent)
    (jobs : List Json) : List (Option SupervisorRestoreJob) :=
  jobs.filterMap fun
    | .obj candidate =>
      if isStr "backup_manager_full_restore" (get? candidate "name") &&
          isStr intent.backupSlug (get? candidate "reference") then
        some (parseRestoreJob fromisoformat intent candidate)
      else none
    | _ => none

/-- `deployment_rollback._reconciled_restore_job`. -/
def reconciledRestoreJob (fromisoformat : String → Option DateTime) (response : SupervisorResponse)
    (intent : RestoreIntent) (limit : Nat) : Option SupervisorRestoreJob :=
  if !response.acceptable limit then none
  else
    match envelopeData (jsonLoads true response.body) with
    | none => none
    | some data =>
      match intent.restoreJobId with
      | some known =>
        (parseRestoreJob fromisoformat intent data).filter (·.jobId == known)
      | none =>
        match hasKeys data ["ignore_conditions", "jobs"], get? data "jobs" with
        | true, some (.arr jobs) =>
          match matchingJobs fromisoformat intent jobs with
          | [some job] => if job.createdAt < intent.updatedAt then none else some job
          | _ => none
        | _, _ => none

/-! ## Backups -/

/-- `CandidateBackupError`: its message, and whether the failure may pass. -/
structure CandidateBackupError where
  message : String
  transient : Bool
deriving DecidableEq

/-- A refusal that another attempt would meet again. -/
def CandidateBackupError.permanent (message : String) : CandidateBackupError := ⟨message, false⟩

/-- `candidate_backup._request_json`, from the response its transport gave. -/
def requestJson (response : SupervisorResponse) (limit : Nat) :
    Except CandidateBackupError (List (String × Json)) :=
  if response.status != 200 then
    .error ⟨"Supervisor backup request failed",
      response.status == 408 || response.status == 429 || response.status ≥ 500⟩
  else if !isJsonMedia response.contentType then
    .error (.permanent "Supervisor backup response is not JSON")
  else if limit < response.body.length then
    .error (.permanent "Supervisor backup response exceeds size limit")
  else
    match jsonLoads false response.body with
    | none => .error (.permanent "Supervisor backup response contains invalid JSON")
    | some (.obj payload) => .ok payload
    | some _ => .error (.permanent "Supervisor backup response shape is invalid")

/-- `candidate_backup._backup_slug`. -/
def backupSlug (payload : List (String × Json)) : Except CandidateBackupError String :=
  if !hasKeys payload ["slug"] then
    .error (.permanent "Supervisor backup creation response is ambiguous")
  else
    match get? payload "slug" with
    | some (.str slug) =>
      if isSlug slug then .ok slug else .error (.permanent "Supervisor backup identifier is invalid")
    | _ => .error (.permanent "Supervisor backup identifier is invalid")

/-- The `content` of a backup says that Home Assistant is in it, or there is no `content`. -/
def includesHomeAssistant : Option Json → Bool
  | none => true
  | some .null => true
  | some (.obj content) => isTrue (get? content "homeassistant")
  | _ => false

/-- `candidate_backup._verify_backup_info`. -/
def verifyBackupInfo (payload : List (String × Json)) (slug coreVersion : String) :
    Except CandidateBackupError Unit :=
  if !isStr slug (get? payload "slug") then
    .error (.permanent "Supervisor backup identity verification failed")
  else if !isStr "full" (get? payload "type") then
    .error (.permanent "Supervisor backup is not a full backup")
  else if !isStr coreVersion (get? payload "homeassistant") then
    .error (.permanent "Supervisor backup Home Assistant version is invalid")
  else if !includesHomeAssistant (get? payload "content") then
    .error (.permanent "Supervisor backup does not contain Home Assistant")
  else .ok ()

/-- What one inventory item contributes: nothing when it is not named as the request was, its slug
when it is that backup, an error when it carries the name and is not well formed. -/
def inventoryMatch (fromisoformat : String → Option DateTime) (requestName : String)
    (startedAt : Int) : Json → Except CandidateBackupError (Option String)
  | .obj item =>
    if !isStr requestName (get? item "name") then .ok none
    else if !(["slug", "name", "date"].all ((keys item).contains ·)) || 32 < item.length then
      .error (.permanent "Supervisor backup inventory is invalid")
    else
      match get? item "slug", get? item "date" with
      | some (.str slug), some (.str created) =>
        if !isSlug slug then .error (.permanent "Supervisor backup inventory is invalid")
        else
          match fromisoformat created with
          | none => .error (.permanent "Supervisor backup inventory is invalid")
          | some .naive => .error (.permanent "Supervisor backup timestamp is invalid")
          | some (.aware createdAt) =>
            if createdAt < startedAt then .error (.permanent "Supervisor backup inventory is stale")
            else .ok (some slug)
      | _, _ => .error (.permanent "Supervisor backup inventory is invalid")
  | _ => .ok none

/-- The slugs of the items that match, in inventory order. -/
def inventoryMatches (fromisoformat : String → Option DateTime) (requestName : String)
    (startedAt : Int) : List Json → Except CandidateBackupError (List String)
  | [] => .ok []
  | item :: items => do
    let found ← inventoryMatch fromisoformat requestName startedAt item
    let rest ← inventoryMatches fromisoformat requestName startedAt items
    return found.toList ++ rest

/-- `candidate_backup._reconciled_backup_slug`. -/
def reconciledBackupSlug (fromisoformat : String → Option DateTime)
    (payload : List (String × Json)) (requestName : String) (startedAt : Int) :
    Except CandidateBackupError String :=
  if !hasKeys payload ["backups"] then
    .error (.permanent "Supervisor backup inventory is invalid")
  else
    match get? payload "backups" with
    | some (.arr backups) =>
      if 64 < backups.length then .error (.permanent "Supervisor backup inventory is invalid")
      else do
        match ← inventoryMatches fromisoformat requestName startedAt backups with
        | [slug] => return slug
        | _ => throw (.permanent "Supervisor backup inventory is ambiguous")
    | _ => .error (.permanent "Supervisor backup inventory is invalid")

/-- A `RollbackBackupProof`; the reader only ever gives one of a full, restorable backup that
includes Home Assistant. -/
structure RollbackBackupProof where
  slug : String
  backupType : String
  homeassistantVersion : String
  includesHomeassistant : Bool
  restorable : Bool
deriving DecidableEq

/-- `deployment_rollback_transport.read_rollback_backup_proof`, from the response its transport
gave for a valid slug, token and limit. -/
def readRollbackBackupProof (slug : String) (response : SupervisorResponse) (limit : Nat) :
    Except String RollbackBackupProof :=
  if !isSlug slug || !response.acceptable limit then .error "rollback proof response is invalid"
  else
    match jsonLoads false response.body with
    | some (.obj value) =>
      match get? value "homeassistant" with
      | some (.str version) =>
        if isStr slug (get? value "slug") && isStr "full" (get? value "type") &&
            isCoreVersion version && includesHomeAssistant (get? value "content") then
          .ok ⟨slug, "full", version, true, true⟩
        else .error "rollback proof response is invalid"
      | _ => .error "rollback proof response is invalid"
    | _ => .error "rollback proof response is invalid"

end SyncApp
