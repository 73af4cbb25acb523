import SyncApp.Supervisor.Readers

/-!
# One Supervisor, two formats

The restart, info, restore and job readers take the envelope `{"result": "ok", "data": …}`; the
backup readers take the payload itself as the answer's body. A Supervisor that encodes every
answer in one way can therefore not satisfy both families.

**The law** (`backup_readers_refuse`): for every encoding under which the first family accepts all
its valid payloads, some valid payload of the backup readers is refused. The argument is about key
sets. What the first family accepts has exactly the keys `result` and `data`
(`Enveloped.keys_of_requestJson`), and each backup reader looks for a key of its own at the top
level. One payload is valid as a Supervisor info answer and as a backup info answer at once,
because info answers may carry more members than the reader asks for, and it decides the encoding.

`envelope` is the encoding real Supervisors use; the first family accepts it
(`envelope_accepted`), so the law is not empty.
-/

set_option autoImplicit false

namespace SyncApp

open Lib Lib.Json

/-- A successful JSON answer. -/
def answer (body : Body) : SupervisorResponse := ⟨200, "application/json", body⟩

/-- The response's body is an envelope around an object. -/
def Enveloped (response : SupervisorResponse) : Prop :=
  ∃ data, envelopeData (jsonLoads true response.body) = some data

/-! ## What an accepted envelope looks like -/

theorem envelopeData_eq_some {json : Option Json} {data : List (String × Json)}
    (opened : envelopeData json = some data) :
    ∃ members, json = some (.obj members) ∧ hasKeys members ["result", "data"] = true ∧
      get? members "result" = some (.str "ok") ∧ get? members "data" = some (.obj data) := by
  unfold envelopeData at opened
  split at opened
  next members =>
    split at opened
    next shape =>
      rw [Bool.and_eq_true, isStr_iff] at shape
      split at opened
      next inner held =>
        cases opened
        exact ⟨members, rfl, shape.1, shape.2, held⟩
      · cases opened
    · cases opened
  · cases opened

theorem Enveloped.of_restart {response : SupervisorResponse} {limit : Nat}
    (accepted : coreRestartValidate response limit = .ok ()) : Enveloped response := by
  unfold coreRestartValidate at accepted
  split at accepted
  · cases accepted
  · split at accepted
    next opened => exact ⟨[], opened⟩
    · cases accepted

theorem Enveloped.of_info {response : SupervisorResponse} {limit : Nat}
    (accepted : supervisorInfoValidate response limit = .ok ()) : Enveloped response := by
  unfold supervisorInfoValidate at accepted
  split at accepted
  · cases accepted
  · split at accepted
    next data opened => exact ⟨data, opened⟩
    · cases accepted

theorem Enveloped.of_restore {response : SupervisorResponse} {limit : Nat} {jobId : String}
    (accepted : restoreJobId response limit = .ok jobId) : Enveloped response := by
  unfold restoreJobId at accepted
  split at accepted
  · cases accepted
  · split at accepted
    next data opened => exact ⟨data, opened⟩
    · cases accepted

theorem Enveloped.of_jobs {fromisoformat : String → Option DateTime}
    {response : SupervisorResponse} {intent : RestoreIntent} {limit : Nat}
    {job : SupervisorRestoreJob}
    (accepted : reconciledRestoreJob fromisoformat response intent limit = some job) :
    Enveloped response := by
  unfold reconciledRestoreJob at accepted
  split at accepted
  · cases accepted
  · split at accepted
    · cases accepted
    next data opened => exact ⟨data, opened⟩

/-- Letting constants through or not, a body that loads loads as its own text. -/
theorem jsonLoads_agree {body : Body} {first second : Bool} {json json' : Json}
    (one : jsonLoads first body = some json) (other : jsonLoads second body = some json') :
    json = json' := by
  obtain ⟨held, -⟩ := Option.filter_eq_some_iff.mp one
  obtain ⟨held', -⟩ := Option.filter_eq_some_iff.mp other
  exact Option.some.inj (held.symm.trans held')

/-- **What a backup request reads out of an envelope** has the envelope's two keys. -/
theorem Enveloped.keys_of_requestJson {response : SupervisorResponse} {limit : Nat}
    {payload : List (String × Json)} (enveloped : Enveloped response)
    (read : requestJson response limit = .ok payload) :
    hasKeys payload ["result", "data"] = true := by
  obtain ⟨data, opened⟩ := enveloped
  obtain ⟨members, loaded, shape, -, -⟩ := envelopeData_eq_some opened
  unfold requestJson at read
  split at read
  · cases read
  · split at read
    · cases read
    · split at read
      · cases read
      · split at read
        · cases read
        next body loaded' =>
          cases read
          cases jsonLoads_agree loaded loaded'
          exact shape
        · cases read

/-- An object with the envelope's keys holds nothing under any other key. -/
theorem get?_envelope {members : List (String × Json)}
    (shape : hasKeys members ["result", "data"] = true) (key : String)
    (other : key ∉ ["result", "data"]) : get? members key = none := by
  cases found : get? members key with
  | none => rfl
  | some value => exact absurd ((hasKeys_iff.mp shape key).mp (mem_keys_of_get? found)) other

/-! ## The backup readers refuse envelopes -/

theorem Enveloped.creation_refuses {response : SupervisorResponse} {limit : Nat}
    (enveloped : Enveloped response) {slug : String} :
    (requestJson response limit).bind backupSlug ≠ .ok slug := by
  intro accepted
  cases read : requestJson response limit with
  | error refusal => rw [read] at accepted; cases accepted
  | ok payload =>
    rw [read] at accepted
    change backupSlug payload = .ok slug at accepted
    have shape := hasKeys_iff.mp (enveloped.keys_of_requestJson read)
    unfold backupSlug at accepted
    split at accepted
    · cases accepted
    next bare =>
      rw [Bool.not_eq_true, Bool.not_eq_false', hasKeys_iff] at bare
      have : "result" ∈ ["slug"] := (bare "result").mp ((shape "result").mpr (by simp))
      simp at this

theorem Enveloped.inventory_refuses {response : SupervisorResponse} {limit : Nat}
    (enveloped : Enveloped response) {fromisoformat : String → Option DateTime}
    {requestName slug : String} {startedAt : Int} :
    (requestJson response limit).bind
      (reconciledBackupSlug fromisoformat · requestName startedAt) ≠ .ok slug := by
  intro accepted
  cases read : requestJson response limit with
  | error refusal => rw [read] at accepted; cases accepted
  | ok payload =>
    rw [read] at accepted
    change reconciledBackupSlug fromisoformat payload requestName startedAt = .ok slug at accepted
    have shape := hasKeys_iff.mp (enveloped.keys_of_requestJson read)
    unfold reconciledBackupSlug at accepted
    split at accepted
    · cases accepted
    next bare =>
      rw [Bool.not_eq_true, Bool.not_eq_false', hasKeys_iff] at bare
      have : "result" ∈ ["backups"] := (bare "result").mp ((shape "result").mpr (by simp))
      simp at this

theorem Enveloped.backupInfo_refuses {response : SupervisorResponse} {limit : Nat}
    (enveloped : Enveloped response) {slug coreVersion : String} :
    (requestJson response limit).bind (verifyBackupInfo · slug coreVersion) ≠ .ok () := by
  intro accepted
  cases read : requestJson response limit with
  | error refusal => rw [read] at accepted; cases accepted
  | ok payload =>
    rw [read] at accepted
    change verifyBackupInfo payload slug coreVersion = .ok () at accepted
    have missing := get?_envelope (enveloped.keys_of_requestJson read) "slug" (by simp)
    unfold verifyBackupInfo at accepted
    rw [missing] at accepted
    cases accepted

theorem Enveloped.proof_refuses {response : SupervisorResponse} {limit : Nat}
    (enveloped : Enveloped response) {slug : String} {proof : RollbackBackupProof} :
    readRollbackBackupProof slug response limit ≠ .ok proof := by
  intro accepted
  obtain ⟨data, opened⟩ := enveloped
  obtain ⟨members, loaded, shape, -, -⟩ := envelopeData_eq_some opened
  unfold readRollbackBackupProof at accepted
  split at accepted
  · cases accepted
  · split at accepted
    next value loaded' =>
      cases jsonLoads_agree loaded loaded'
      rw [get?_envelope shape "homeassistant" (by simp)] at accepted
      cases accepted
    · cases accepted

/-! ## Valid payloads -/

/-- A payload of a healthy Supervisor's info answer. -/
structure ValidInfo (payload : Payload) : Prop where
  healthy : payload.get? "healthy" = some (.bool true)
  supported : payload.get? "supported" = some (.bool true)

/-- A payload of a full restore answer: the job that was started. -/
structure ValidRestore (payload : Payload) (jobId : String) : Prop where
  keys : hasKeys payload.members ["job_id"] = true
  held : payload.get? "job_id" = some (.str jobId)
  shape : isSlug jobId = true

section Valid

variable (fromisoformat : String → Option DateTime)

/-- A job object that restores the intended backup. -/
structure ValidJob (intent : RestoreIntent) (value : List (String × Json))
    (job : SupervisorRestoreJob) : Prop where
  keys : hasKeys value jobKeys = true
  uuid : get? value "uuid" = some (.str job.jobId)
  shape : isSlug job.jobId = true
  name : get? value "name" = some (.str "backup_manager_full_restore")
  reference : get? value "reference" = some (.str intent.backupSlug)
  done : jobDone (get? value "done") = some job.done
  errors : ∃ errors, get? value "errors" = some (.arr errors) ∧ job.failed = !errors.isEmpty
  children : ∃ children, get? value "child_jobs" = some (.arr children)
  created : ∃ created, get? value "created" = some (.str created) ∧
    fromisoformat created = some (.aware job.createdAt)
  authorized : intent.authorizedAt ≤ job.createdAt

/-- A value of the job list that is not a restore of the intended backup. -/
def OtherJob (intent : RestoreIntent) : Json → Prop
  | .obj candidate => get? candidate "name" ≠ some (.str "backup_manager_full_restore") ∨
      get? candidate "reference" ≠ some (.str intent.backupSlug)
  | _ => True

/-- A payload of a job answer: the known job itself, or the job list with one restore of the
intended backup, started after the request was journaled. -/
inductive ValidJobs (intent : RestoreIntent) (payload : Payload) (job : SupervisorRestoreJob) :
    Prop where
  | known (requested : intent.restoreJobId = some job.jobId)
      (valid : ValidJob fromisoformat intent payload.members job)
  | listed (unknown : intent.restoreJobId = none)
      (keys : hasKeys payload.members ["ignore_conditions", "jobs"] = true)
      (front back : List Json) (value : List (String × Json))
      (jobs : payload.get? "jobs" = some (.arr (front ++ .obj value :: back)))
      (others : ∀ other ∈ front ++ back, OtherJob intent other)
      (valid : ValidJob fromisoformat intent value job)
      (fresh : intent.updatedAt ≤ job.createdAt)

/-- A payload of a backup creation answer. -/
structure ValidCreation (payload : Payload) (slug : String) : Prop where
  keys : hasKeys payload.members ["slug"] = true
  held : payload.get? "slug" = some (.str slug)
  shape : isSlug slug = true

/-- A payload of an inventory answer: at most 64 backups, one of them under the requested name and
not older than the request. -/
structure ValidInventory (requestName : String) (startedAt : Int) (payload : Payload)
    (slug : String) : Prop where
  keys : hasKeys payload.members ["backups"] = true
  listed : ∃ front back item created, ∃ createdAt : Int,
    payload.get? "backups" = some (.arr (front ++ .obj item :: back)) ∧
    (front ++ .obj item :: back).length ≤ 64 ∧ item.length ≤ 32 ∧
    get? item "name" = some (.str requestName) ∧ get? item "slug" = some (.str slug) ∧
    get? item "date" = some (.str created) ∧ fromisoformat created = some (.aware createdAt) ∧
    startedAt ≤ createdAt ∧ isSlug slug = true ∧
    ∀ other ∈ front ++ back, ∀ members, other = .obj members →
      get? members "name" ≠ some (.str requestName)

/-- A payload of a backup info answer for a full backup with Home Assistant in it. -/
structure ValidBackupInfo (payload : Payload) (slug coreVersion : String) : Prop where
  held : payload.get? "slug" = some (.str slug)
  shape : isSlug slug = true
  full : payload.get? "type" = some (.str "full")
  version : payload.get? "homeassistant" = some (.str coreVersion)
  core : isCoreVersion coreVersion = true
  content : includesHomeAssistant (payload.get? "content") = true

/-! ## Families of readers under one encoding -/

/-- The restart, info, restore and job readers accept every valid payload of theirs, at every
limit the answer's length keeps. -/
structure EnvelopeReadersAccept (enc : Payload → Body) : Prop where
  restart : ∀ payload, payload.members = [] → ∀ limit, (enc payload).length ≤ limit →
    coreRestartValidate (answer (enc payload)) limit = .ok ()
  info : ∀ payload, ValidInfo payload → ∀ limit, (enc payload).length ≤ limit →
    supervisorInfoValidate (answer (enc payload)) limit = .ok ()
  restore : ∀ payload jobId, ValidRestore payload jobId → ∀ limit, (enc payload).length ≤ limit →
    restoreJobId (answer (enc payload)) limit = .ok jobId
  jobs : ∀ intent payload job, ValidJobs fromisoformat intent payload job → ∀ limit,
    (enc payload).length ≤ limit →
    reconciledRestoreJob fromisoformat (answer (enc payload)) intent limit = some job

/-- The backup readers accept every valid payload of theirs and extract what it says. -/
structure BackupReadersAccept (enc : Payload → Body) : Prop where
  creation : ∀ payload slug, ValidCreation payload slug → ∀ limit, (enc payload).length ≤ limit →
    (requestJson (answer (enc payload)) limit).bind backupSlug = .ok slug
  inventory : ∀ requestName startedAt payload slug,
    ValidInventory fromisoformat requestName startedAt payload slug → ∀ limit,
    (enc payload).length ≤ limit →
    (requestJson (answer (enc payload)) limit).bind
      (reconciledBackupSlug fromisoformat · requestName startedAt) = .ok slug
  info : ∀ payload slug coreVersion, ValidBackupInfo payload slug coreVersion → ∀ limit,
    (enc payload).length ≤ limit →
    (requestJson (answer (enc payload)) limit).bind (verifyBackupInfo · slug coreVersion) = .ok ()
  proof : ∀ payload slug coreVersion, ValidBackupInfo payload slug coreVersion → ∀ limit,
    (enc payload).length ≤ limit →
    readRollbackBackupProof slug (answer (enc payload)) limit =
      .ok ⟨slug, "full", coreVersion, true, true⟩

end Valid

/-! ## The envelope encoding -/

/-- A JSON answer that loads: a body that spells a strict object. -/
theorem jsonLoads_of_strict {constants : Bool} {length : Nat} {json : Json}
    (accepted : strict false json = true) : jsonLoads constants ⟨length, some json⟩ = some json :=
  Option.filter_eq_some_iff.mpr ⟨rfl, strict_mono accepted⟩

/-- The encoding `{"result": "ok", "data": payload}`, with bodies of the given lengths. -/
def envelope (length : Payload → Nat) (payload : Payload) : Body :=
  ⟨length payload, some (.obj [("result", .str "ok"), ("data", .obj payload.members)])⟩

theorem answer_acceptable {body : Body} {limit : Nat} (fits : body.length ≤ limit) :
    (answer body).acceptable limit = true := by
  have media : isJsonMedia "application/json" = true := by decide
  simp only [SupervisorResponse.acceptable, answer, media, Bool.and_true, beq_self_eq_true,
    Bool.true_and]
  exact decide_eq_true fits

theorem envelope_opens {length : Payload → Nat} {payload : Payload} :
    envelopeData (jsonLoads true (answer (envelope length payload)).body) =
      some payload.members := by
  have loaded : jsonLoads true (envelope length payload) =
      some (.obj [("result", .str "ok"), ("data", .obj payload.members)]) := by
    refine jsonLoads_of_strict ?_
    have inner := payload.accepted
    have distinct : (keys [("result", .str "ok"), ("data", .obj payload.members)]).Nodup := by
      simp [keys]
    simp only [strict, strictMembers, distinct, decide_true, Bool.true_and, Bool.and_true] at inner ⊢
    exact inner
  simp only [answer, loaded]
  rfl

section Accepted

variable {fromisoformat : String → Option DateTime} {intent : RestoreIntent}

/-- A valid job object parses to the job it describes. -/
theorem ValidJob.parsed {value : List (String × Json)} {job : SupervisorRestoreJob}
    (valid : ValidJob fromisoformat intent value job) :
    parseRestoreJob fromisoformat intent value = some job := by
  obtain ⟨errors, listed, failed⟩ := valid.errors
  obtain ⟨children, childJobs⟩ := valid.children
  obtain ⟨created, stamp, read⟩ := valid.created
  have fresh : ¬ job.createdAt < intent.authorizedAt := Int.not_lt.mpr valid.authorized
  simp only [parseRestoreJob, valid.keys, valid.uuid, valid.done, listed, stamp, childJobs,
    valid.shape, valid.name, valid.reference, isStr, read, fresh, ← failed, Bool.not_true,
    Bool.false_eq_true, if_false, beq_self_eq_true, Bool.and_self, if_true]

/-- Values that are no restore of the intended backup contribute no job. -/
theorem matchingJobs_others {jobs : List Json} (others : ∀ other ∈ jobs, OtherJob intent other) :
    matchingJobs fromisoformat intent jobs = [] := by
  refine List.filterMap_eq_nil_iff.mpr fun other mem => ?_
  have away := others other mem
  cases other with
  | obj candidate =>
    have apart : (isStr "backup_manager_full_restore" (get? candidate "name") &&
        isStr intent.backupSlug (get? candidate "reference")) = false := by
      rw [Bool.and_eq_false_iff, ← Bool.not_eq_true, ← Bool.not_eq_true, isStr_iff, isStr_iff]
      exact away
    simp only [apart, Bool.false_eq_true, if_false]
  | _ => rfl

/-- A job list with one restore of the intended backup yields that one. -/
theorem matchingJobs_listed {front back : List Json} {value : List (String × Json)}
    {job : SupervisorRestoreJob} (others : ∀ other ∈ front ++ back, OtherJob intent other)
    (valid : ValidJob fromisoformat intent value job) :
    matchingJobs fromisoformat intent (front ++ .obj value :: back) = [some job] := by
  have before : matchingJobs fromisoformat intent front = [] :=
    matchingJobs_others fun other mem => others other (List.mem_append_left back mem)
  have after : matchingJobs fromisoformat intent back = [] :=
    matchingJobs_others fun other mem => others other (List.mem_append_right front mem)
  unfold matchingJobs at before after ⊢
  rw [List.filterMap_append, List.filterMap_cons, before, after]
  simp only [isStr_iff.mpr valid.name, isStr_iff.mpr valid.reference, Bool.and_self, if_true,
    valid.parsed, List.nil_append]

/-- **The first family accepts the envelope encoding**, whatever its bodies' lengths. -/
theorem envelope_accepted (length : Payload → Nat) :
    EnvelopeReadersAccept fromisoformat (envelope length) where
  restart payload empty limit fits := by
    simp only [coreRestartValidate, answer_acceptable fits, envelope_opens, empty, Bool.not_true,
      Bool.false_eq_true, if_false]
  info payload valid limit fits := by
    have healthy := isTrue_iff.mpr valid.healthy
    have supported := isTrue_iff.mpr valid.supported
    simp only [Payload.get?] at healthy supported
    simp only [supervisorInfoValidate, answer_acceptable fits, envelope_opens, healthy, supported,
      Bool.not_true, Bool.false_eq_true, if_false, Bool.and_self, if_true]
  restore payload jobId valid limit fits := by
    have held := valid.held
    simp only [Payload.get?] at held
    simp only [restoreJobId, answer_acceptable fits, envelope_opens, valid.keys, held, valid.shape,
      Bool.not_true, Bool.false_eq_true, if_false, if_true]
  jobs intent payload job valid limit fits := by
    simp only [reconciledRestoreJob, answer_acceptable fits, envelope_opens, Bool.not_true,
      Bool.false_eq_true, if_false]
    cases valid with
    | known requested valid =>
      simp only [requested, valid.parsed, Option.filter_some, beq_self_eq_true, if_true]
    | listed unknown keys front back value jobs others valid fresh =>
      have current : ¬ job.createdAt < intent.updatedAt := Int.not_lt.mpr fresh
      simp only [Payload.get?] at jobs
      simp only [unknown, keys, jobs, matchingJobs_listed others valid, current, if_false]

end Accepted

/-! ## The bare encoding -/

/-- The encoding that sends the payload as the body, with bodies of the given lengths. -/
def bare (length : Payload → Nat) (payload : Payload) : Body :=
  ⟨length payload, some (.obj payload.members)⟩

theorem requestJson_bare {length : Payload → Nat} {payload : Payload} {limit : Nat}
    (fits : (bare length payload).length ≤ limit) :
    requestJson (answer (bare length payload)) limit = .ok payload.members := by
  have media : isJsonMedia "application/json" = true := by decide
  have within : ¬ limit < (bare length payload).length := Nat.not_lt.mpr fits
  have loaded : jsonLoads false (bare length payload) = some (.obj payload.members) :=
    jsonLoads_of_strict payload.accepted
  simp only [requestJson, answer, media, within, loaded, bne_self_eq_false, Bool.not_true,
    Bool.false_eq_true, if_false]

/-- Inventory items under other names contribute no slug. -/
theorem inventoryMatches_others {fromisoformat : String → Option DateTime} {requestName : String}
    {startedAt : Int} : ∀ {items : List Json}, (∀ other ∈ items, ∀ members, other = .obj members →
      get? members "name" ≠ some (.str requestName)) → ∀ rest,
      inventoryMatches fromisoformat requestName startedAt (items ++ rest) =
        inventoryMatches fromisoformat requestName startedAt rest
  | [], _, _ => rfl
  | item :: items, others, rest => by
    have passed : inventoryMatch fromisoformat requestName startedAt item = .ok none := by
      cases item with
      | obj members =>
        have away : isStr requestName (get? members "name") = false := by
          rw [← Bool.not_eq_true, isStr_iff]
          exact others (.obj members) List.mem_cons_self members rfl
        simp only [inventoryMatch, away, Bool.not_false, if_true]
      | _ => rfl
    have later : inventoryMatches fromisoformat requestName startedAt (items ++ rest) =
        inventoryMatches fromisoformat requestName startedAt rest :=
      inventoryMatches_others (fun other mem => others other (List.mem_cons_of_mem _ mem)) rest
    simp only [List.cons_append, inventoryMatches, passed, later]
    cases inventoryMatches fromisoformat requestName startedAt rest <;> rfl

/-- **The backup readers accept the bare encoding**, and extract what each payload says. So the
two families are each consistent; they differ in the format they take. -/
theorem bare_accepted {fromisoformat : String → Option DateTime} (length : Payload → Nat) :
    BackupReadersAccept fromisoformat (bare length) where
  creation payload slug valid limit fits := by
    have held := valid.held
    simp only [Payload.get?] at held
    simp only [requestJson_bare fits, Except.bind, backupSlug, valid.keys, held, valid.shape,
      Bool.not_true, Bool.false_eq_true, if_false, if_true]
  inventory requestName startedAt payload slug valid limit fits := by
    obtain ⟨front, back, item, created, createdAt, backups, few, small, name, held, date, read,
      fresh, shape, others⟩ := valid.listed
    simp only [Payload.get?] at backups
    have present : (["slug", "name", "date"].all ((keys item).contains ·)) = true := by
      simp only [List.all_cons, List.all_nil, Bool.and_true, Bool.and_eq_true, List.contains_iff_mem]
      exact ⟨mem_keys_of_get? held, mem_keys_of_get? name, mem_keys_of_get? date⟩
    have found : inventoryMatch fromisoformat requestName startedAt (.obj item) =
        .ok (some slug) := by
      simp only [inventoryMatch, isStr_iff.mpr name, present, held, date, shape, read,
        Nat.not_lt.mpr small, Int.not_lt.mpr fresh, Bool.not_true, decide_false, Bool.or_self,
        Bool.false_eq_true, if_false]
    have rest : inventoryMatches fromisoformat requestName startedAt back = .ok [] := by
      have others' : ∀ other ∈ back, ∀ members, other = .obj members →
          get? members "name" ≠ some (.str requestName) :=
        fun other mem => others other (List.mem_append_right front mem)
      simpa only [List.append_nil, inventoryMatches] using
        inventoryMatches_others others' []
    have listed : inventoryMatches fromisoformat requestName startedAt (front ++ .obj item :: back) =
        .ok [slug] := by
      rw [inventoryMatches_others fun other mem => others other (List.mem_append_left back mem)]
      simp only [inventoryMatches, found, rest]
      rfl
    simp only [requestJson_bare fits, Except.bind, reconciledBackupSlug, valid.keys, backups, listed,
      Nat.not_lt.mpr few, Bool.not_true, Bool.false_eq_true, if_false]
    rfl
  info payload slug coreVersion valid limit fits := by
    have held := isStr_iff.mpr valid.held
    have full := isStr_iff.mpr valid.full
    have version := isStr_iff.mpr valid.version
    have content := valid.content
    simp only [Payload.get?] at held full version content
    simp only [requestJson_bare fits, Except.bind, verifyBackupInfo, held, full, version, content,
      Bool.not_true, Bool.false_eq_true, if_false]
  proof payload slug coreVersion valid limit fits := by
    have held := isStr_iff.mpr valid.held
    have full := isStr_iff.mpr valid.full
    have version := valid.version
    have content := valid.content
    simp only [Payload.get?] at held full version content
    have loaded : jsonLoads false (answer (bare length payload)).body =
        some (.obj payload.members) := jsonLoads_of_strict payload.accepted
    simp only [readRollbackBackupProof, answer_acceptable fits, loaded, valid.shape, held, full,
      version, valid.core, content, Bool.not_true, Bool.or_self, Bool.false_eq_true, if_false,
      Bool.and_self, if_true]

/-! ## The law -/

/-- A payload that answers as the info of a healthy Supervisor and as the info of a backup. -/
def sharedPayload : Payload where
  members := [("healthy", .bool true), ("supported", .bool true), ("slug", .str "a"),
    ("type", .str "full"), ("homeassistant", .str "2026.1.0")]
  accepted := by decide

theorem sharedPayload_info : ValidInfo sharedPayload := ⟨rfl, rfl⟩

theorem sharedPayload_backupInfo : ValidBackupInfo sharedPayload "a" "2026.1.0" where
  held := rfl
  shape := by decide
  full := rfl
  version := rfl
  core := by decide
  content := rfl

/-- **No encoding serves both families.** Whatever one way a Supervisor encodes its answers in, if
the restart, info, restore and job readers accept its valid answers, the backup readers do not. -/
theorem backup_readers_refuse (fromisoformat : String → Option DateTime) (enc : Payload → Body)
    (accepts : EnvelopeReadersAccept fromisoformat enc) :
    ¬ BackupReadersAccept fromisoformat enc := by
  intro backups
  -- the shared payload's answer is an envelope, as the info reader accepts it
  have enveloped : Enveloped (answer (enc sharedPayload)) :=
    Enveloped.of_info (accepts.info sharedPayload sharedPayload_info _ (Nat.le_refl _))
  -- and the backup info reader takes no envelope
  exact enveloped.backupInfo_refuses
    (backups.info sharedPayload "a" "2026.1.0" sharedPayload_backupInfo _ (Nat.le_refl _))

/-- A Supervisor that answers in envelopes. -/
def supervisorBody : Payload → Body :=
  envelope fun payload =>
    compactLength (.obj [("result", .str "ok"), ("data", .obj payload.members)])

/-- `datetime.fromisoformat` as far as one timestamp goes. -/
def newYearClock (text : String) : Option DateTime :=
  if text = "2026-01-01T00:00:00+00:00" then some (.aware 1767225600) else none

/-- The payload of a backup creation. -/
def createdBackup : Payload := ⟨[("slug", .str "a1b2c3d4")], by decide⟩

/-- A Supervisor that answers in envelopes satisfies the first family, and its answer to a backup
creation is refused. -/
theorem supervisorBody_refused :
    EnvelopeReadersAccept newYearClock supervisorBody ∧
      ValidCreation createdBackup "a1b2c3d4" ∧
      (requestJson (answer (supervisorBody createdBackup)) 65536).bind backupSlug =
        .error (.permanent "Supervisor backup creation response is ambiguous") ∧
      ¬ BackupReadersAccept newYearClock supervisorBody := by
  have refused : (requestJson (answer (supervisorBody createdBackup)) 65536).bind backupSlug =
      .error (.permanent "Supervisor backup creation response is ambiguous") := by decide
  have valid : ValidCreation createdBackup "a1b2c3d4" := ⟨by decide, rfl, by decide⟩
  refine ⟨envelope_accepted _, valid, refused, fun backups => ?_⟩
  have accepted := backups.creation createdBackup "a1b2c3d4" valid 65536 (by decide)
  rw [refused] at accepted
  cases accepted

/-- The law at a Supervisor that answers in envelopes. -/
theorem backup_readers_refuse_supervisorBody :
    ¬ BackupReadersAccept newYearClock supervisorBody :=
  backup_readers_refuse newYearClock supervisorBody (envelope_accepted _)

end SyncApp
