import SyncApp.Pipeline.Budget

/-!
# The verdict on a restore

`reconcile_deployment_restore_once` asks the Supervisor for the job of a restore that was requested,
and settles the row by what it is answered. What it reports comes from the one job that is this
restore, more than one such job is ambiguous, and the order of a listing does not matter
(`restore_settled_iff`). An answer that the service is not available for now is told from an answer
that settles nothing only where the transport raises: a response that says so, with a status that
the backup's own requests take for transient, blocks the row.
-/

set_option autoImplicit false

namespace SyncApp

open Lib Lib.Json Raising Lane

/-! ## Answers -/

/-- A status that a later attempt may not meet again. -/
def SupervisorResponse.unavailable (response : SupervisorResponse) : Bool :=
  response.status == 408 || response.status == 429 || response.status ≥ 500

/-- It is the status the requests of a candidate backup take for transient. -/
theorem requestJson_transient_iff {response : SupervisorResponse} {limit : Nat} :
    (∃ message, requestJson response limit = .error ⟨message, true⟩) ↔
      response.unavailable = true := by
  unfold requestJson SupervisorResponse.unavailable
  constructor
  · rintro ⟨message, failed⟩
    split at failed
    · exact congrArg CandidateBackupError.transient (Except.error.inj failed)
    · split at failed
      · cases failed
      · split at failed
        · cases failed
        · split at failed <;> cases failed
  · intro unavailable
    have other : (response.status != 200) = true := by
      rw [bne_iff_ne]
      rintro same
      rw [same] at unavailable
      cases unavailable
    rw [if_pos other, unavailable]
    exact ⟨_, rfl⟩

/-- The transport raised, or the service said that it is not available. -/
def TemporaryFailure (answer : Option SupervisorResponse) : Prop :=
  ∀ response ∈ answer, response.unavailable = true

/-- The object is a full restore of the backup. -/
def restores (backupSlug : String) : Json → Bool
  | .obj members => isStr "backup_manager_full_restore" (get? members "name") &&
    isStr backupSlug (get? members "reference")
  | _ => false

/-- The jobs of an accepted listing. -/
def listedJobs (response : SupervisorResponse) (limit : Nat) : Option (List Json) :=
  if response.acceptable limit then
    match envelopeData (jsonLoads true response.body) with
    | some data =>
      match hasKeys data ["ignore_conditions", "jobs"], get? data "jobs" with
      | true, some (.arr jobs) => some jobs
      | _, _ => none
    | none => none
  else none

/-- What an answer shows to be the restore that was requested: the job that was recorded, or where
none was, the one job of the listing that restores the backup, created since the request. -/
inductive ShowsRestore (fromisoformat : String → Option DateTime) (response : SupervisorResponse)
    (intent : RestoreIntent) (limit : Nat) (members : List (String × Json)) : Prop where
  | recorded (jobId : String) (known : intent.restoreJobId = some jobId)
      (data : envelopeData (jsonLoads true response.body) = some members)
      (uuid : get? members "uuid" = some (.str jobId))
  | listed (jobs : List Json) (unknown : intent.restoreJobId = none)
      (listing : listedJobs response limit = some jobs)
      (only : jobs.filter (restores intent.backupSlug) = [.obj members]) (created : String)
      (utc : Int) (stamp : get? members "created" = some (.str created))
      (read : fromisoformat created = some (.aware utc)) (since : intent.updatedAt ≤ utc)

/-- An answer shows the restore, without errors and at a stage. -/
structure RestoreAt (fromisoformat : String → Option DateTime) (answer : Option SupervisorResponse)
    (intent : RestoreIntent) (limit : Nat) (done : Option Bool) (response : SupervisorResponse)
    (members : List (String × Json)) : Prop where
  answered : answer = some response
  acceptable : response.acceptable limit = true
  restores : restores intent.backupSlug (.obj members) = true
  errors : get? members "errors" = some (.arr [])
  stage : jobDone (get? members "done") = some done
  shows : ShowsRestore fromisoformat response intent limit members

/-- Two answers that list the same jobs, in another order. -/
structure Reordered (first second : SupervisorResponse) : Prop where
  status : second.status = first.status
  contentType : second.contentType = first.contentType
  length : second.body.length = first.body.length
  text : ∃ front back data more jobs jobs', jobs.Perm jobs' ∧
    first.body.text =
      some (.obj (front ++ ("data", .obj (data ++ ("jobs", .arr jobs) :: more)) :: back)) ∧
    second.body.text =
      some (.obj (front ++ ("data", .obj (data ++ ("jobs", .arr jobs') :: more)) :: back))

/-! ## The jobs of an answer -/

section

variable {fromisoformat : String → Option DateTime} {response : SupervisorResponse}
  {intent : RestoreIntent} {limit : Nat} {job : SupervisorRestoreJob}

/-- What a parsed job says of its object. -/
structure Parsed (fromisoformat : String → Option DateTime) (intent : RestoreIntent)
    (members : List (String × Json)) (job : SupervisorRestoreJob) : Prop where
  restores : restores intent.backupSlug (.obj members) = true
  uuid : get? members "uuid" = some (.str job.jobId)
  slug : isSlug job.jobId = true
  stage : jobDone (get? members "done") = some job.done
  errors : ∃ errors, get? members "errors" = some (.arr errors) ∧ job.failed = !errors.isEmpty
  created : ∃ created, get? members "created" = some (.str created) ∧
    fromisoformat created = some (.aware job.createdAt)

theorem parsed_of_parseRestoreJob {members : List (String × Json)}
    (parsed : parseRestoreJob fromisoformat intent members = some job) :
    Parsed fromisoformat intent members job := by
  unfold parseRestoreJob at parsed
  split at parsed
  · cases parsed
  split at parsed
  next jobId done errors created _ uuid stage listed stamp _ =>
    split at parsed
    next shape =>
      simp only [Bool.and_eq_true] at shape
      split at parsed
      next utc read =>
        split at parsed
        · cases parsed
        · cases parsed
          exact ⟨by simp [SyncApp.restores, shape.1.2, shape.2], uuid, shape.1.1, stage,
            ⟨errors, listed, rfl⟩, created, stamp, read⟩
      · cases parsed
    · cases parsed
  · cases parsed

/-- The matching jobs are those that restore the backup, each parsed. -/
theorem matchingJobs_eq (jobs : List Json) :
    matchingJobs fromisoformat intent jobs =
      (jobs.filter (restores intent.backupSlug)).map fun
        | .obj members => parseRestoreJob fromisoformat intent members
        | _ => none := by
  unfold matchingJobs
  induction jobs with
  | nil => rfl
  | cons candidate jobs ih =>
    rw [List.filterMap_cons, ih, List.filter_cons]
    cases candidate with
    | obj members =>
      cases named : isStr "backup_manager_full_restore" (get? members "name") &&
          isStr intent.backupSlug (get? members "reference") with
      | true => simp only [restores, named, if_true, List.map_cons]
      | false => simp only [restores, named, Bool.false_eq_true, if_false]
    | _ => rfl

/-- What is reconciled without errors was shown by the answer. -/
theorem shown_of_reconciled
    (read : reconciledRestoreJob fromisoformat response intent limit = some job)
    (sound : job.failed = false) :
    ∃ members, RestoreAt fromisoformat (some response) intent limit job.done response members := by
  unfold reconciledRestoreJob at read
  split at read
  next => cases read
  next accepted =>
  have acceptable : response.acceptable limit = true := by simpa using accepted
  split at read
  next => cases read
  next data opened =>
  have from_parsed {members : List (String × Json)}
      (parsed : Parsed fromisoformat intent members job)
      (shows : ShowsRestore fromisoformat response intent limit members) :
      RestoreAt fromisoformat (some response) intent limit job.done response members := by
    obtain ⟨errors, listed, failed⟩ := parsed.errors
    have clean : errors = [] := by
      rw [sound] at failed
      cases errors with
      | nil => rfl
      | cons _ _ => cases failed
    exact ⟨rfl, acceptable, parsed.restores, clean ▸ listed, parsed.stage, shows⟩
  split at read
  next known recorded =>
    obtain ⟨parsed, same⟩ := Option.filter_eq_some_iff.mp read
    have parsed := parsed_of_parseRestoreJob parsed
    refine ⟨data, from_parsed parsed (.recorded known recorded opened ?_)⟩
    rw [parsed.uuid, eq_of_beq same]
  next unrecorded =>
    split at read
    next jobs keys listing =>
      have listed : listedJobs response limit = some jobs := by
        unfold listedJobs
        rw [if_pos acceptable, opened]
        dsimp only
        rw [keys, listing]
      split at read
      next seen only =>
        split at read
        next => cases read
        next since =>
          cases read
          rw [matchingJobs_eq] at only
          obtain ⟨value, filtered, parsed⟩ := List.map_eq_singleton_iff.mp only
          cases value with
          | obj members =>
            have parsed := parsed_of_parseRestoreJob parsed
            obtain ⟨created, stamp, utc⟩ := parsed.created
            exact ⟨members, from_parsed parsed
              (.listed jobs unrecorded listed filtered created _ stamp utc (by omega))⟩
          | _ => cases parsed
      next => cases read
    next => cases read

/-- More than one job of a listing settles nothing. -/
theorem reconciled_none_of_several {jobs : List Json} (unknown : intent.restoreJobId = none)
    (listing : listedJobs response limit = some jobs)
    (several : 2 ≤ (jobs.filter (restores intent.backupSlug)).length) :
    reconciledRestoreJob fromisoformat response intent limit = none := by
  unfold listedJobs at listing
  split at listing
  next accepted =>
    split at listing
    next data opened =>
      split at listing
      next items keys there =>
        cases listing
        unfold reconciledRestoreJob
        simp only [accepted, Bool.not_true, Bool.false_eq_true, if_false, opened, unknown, keys,
          there, matchingJobs_eq]
        obtain ⟨first, other, more, two⟩ : ∃ first other more,
            (jobs.filter (restores intent.backupSlug)) = first :: other :: more := by
          match jobs.filter (restores intent.backupSlug), several with
          | first :: other :: more, _ => exact ⟨first, other, more, rfl⟩
        rw [two, List.map_cons, List.map_cons]
        generalize (match first with
          | .obj members => parseRestoreJob fromisoformat intent members
          | _ => none) = parsed
        cases parsed <;> rfl
      next => cases listing
    next => cases listing
  next => cases listing

/-- An answer that is not taken settles nothing. -/
theorem reconciled_none_of_unavailable (unavailable : response.unavailable = true) :
    reconciledRestoreJob fromisoformat response intent limit = none := by
  unfold reconciledRestoreJob
  rw [if_pos]
  unfold SupervisorResponse.unavailable at unavailable
  unfold SupervisorResponse.acceptable
  have other : (response.status == 200) = false := by
    rw [beq_eq_false_iff_ne]
    rintro same
    rw [same] at unavailable
    cases unavailable
  rw [other]
  rfl

/-! ## The order of a listing -/

theorem strictItems_eq (constants : Bool) (items : List Json) :
    strictItems constants items = items.all (strict constants) := by
  induction items with
  | nil => rfl
  | cons item items ih => rw [strictItems, ih, List.all_cons]

theorem strictMembers_eq (constants : Bool) (members : List (String × Json)) :
    strictMembers constants members = members.all fun member => strict constants member.2 := by
  induction members with
  | nil => rfl
  | cons member members ih => rw [strictMembers, ih, List.all_cons]

/-- A member of an object is looked up among the members before it first. -/
theorem get?_middle (front back : List (String × Json)) (name : String) (value : Json)
    (key : String) : get? (front ++ (name, value) :: back) key =
      (get? front key).or (if key = name then some value else get? back key) := by
  unfold get?
  rw [List.lookup_append]
  congr 1
  rw [List.lookup_cons]
  by_cases same : key = name
  · rw [if_pos same, same, beq_self_eq_true]
  · rw [if_neg same, beq_eq_false_iff_ne.mpr same]

theorem keys_middle (front back : List (String × Json)) (name : String) (value other : Json) :
    keys (front ++ (name, value) :: back) = keys (front ++ (name, other) :: back) := by
  simp only [keys, List.map_append, List.map_cons]

variable {second : SupervisorResponse}

/-- The data of a listing in another order. -/
theorem envelopeData_reordered (reordered : Reordered response second) :
    envelopeData (jsonLoads true second.body) = envelopeData (jsonLoads true response.body) ∨
      ∃ data more jobs jobs', jobs.Perm jobs' ∧
        envelopeData (jsonLoads true response.body) = some (data ++ ("jobs", .arr jobs) :: more) ∧
        envelopeData (jsonLoads true second.body) =
          some (data ++ ("jobs", .arr jobs') :: more) := by
  obtain ⟨front, back, data, more, jobs, jobs', perm, spelled, spelled'⟩ := reordered.text
  have inner : strict true (.obj (data ++ ("jobs", .arr jobs') :: more)) =
      strict true (.obj (data ++ ("jobs", .arr jobs) :: more)) := by
    have items : strict true (.arr jobs') = strict true (.arr jobs) := by
      rw [strict, strict, strictItems_eq, strictItems_eq, perm.all_eq]
    simp only [strict, strictMembers_eq, List.all_append, List.all_cons] at items ⊢
    rw [keys_middle data more "jobs" (.arr jobs') (.arr jobs), items]
  have outer : strict true
        (.obj (front ++ ("data", .obj (data ++ ("jobs", .arr jobs') :: more)) :: back)) =
      strict true
        (.obj (front ++ ("data", .obj (data ++ ("jobs", .arr jobs) :: more)) :: back)) := by
    rw [strict, strict, strictMembers_eq, strictMembers_eq, List.all_append, List.all_append,
      List.all_cons, List.all_cons, inner, keys_middle front back "data" _
        (.obj (data ++ ("jobs", .arr jobs) :: more))]
  unfold jsonLoads
  rw [spelled, spelled', Option.filter_some, Option.filter_some, outer]
  split
  next =>
    have same : hasKeys (front ++ ("data", .obj (data ++ ("jobs", .arr jobs') :: more)) :: back)
        ["result", "data"] = hasKeys (front ++
          ("data", .obj (data ++ ("jobs", .arr jobs) :: more)) :: back) ["result", "data"] := by
      unfold hasKeys
      rw [keys_middle front back "data" _ (.obj (data ++ ("jobs", .arr jobs) :: more))]
    have result (value : Json) : get? (front ++ ("data", value) :: back) "result" =
        (get? front "result").or (get? back "result") := by
      rw [get?_middle, if_neg (by decide)]
    have inside (value : Json) : get? (front ++ ("data", value) :: back) "data" =
        (get? front "data").or (some value) := by
      rw [get?_middle, if_pos rfl]
    unfold envelopeData
    dsimp only
    rw [same, result, result, inside, inside]
    split
    next =>
      cases get? front "data" with
      | some value => exact .inl rfl
      | none => exact .inr ⟨data, more, jobs, jobs', perm, rfl, rfl⟩
    next => exact .inl rfl
  next => exact .inl rfl

/-- **The order of a listing does not matter.** -/
theorem reconciled_reordered (reordered : Reordered response second) :
    reconciledRestoreJob fromisoformat second intent limit =
      reconciledRestoreJob fromisoformat response intent limit := by
  have acceptable : second.acceptable limit = response.acceptable limit := by
    unfold SupervisorResponse.acceptable
    rw [reordered.status, reordered.contentType, reordered.length]
  unfold reconciledRestoreJob
  rw [acceptable]
  rcases envelopeData_reordered reordered with same | ⟨data, more, jobs, jobs', perm, here, there⟩
  · rw [same]
  · rw [here, there]
    split
    next => rfl
    dsimp only
    have sameKeys (names : List String) : hasKeys (data ++ ("jobs", .arr jobs') :: more) names =
        hasKeys (data ++ ("jobs", .arr jobs) :: more) names := by
      unfold hasKeys
      rw [keys_middle data more "jobs" _ (.arr jobs)]
    split
    next known _ =>
      -- the object of a job has no member `jobs`
      have foreign (value : Json) : hasKeys (data ++ ("jobs", value) :: more) jobKeys = false := by
        unfold hasKeys keys
        rw [List.map_append, List.map_cons, List.all_append, List.all_cons]
        simp [jobKeys]
      have refused (value : Json) :
          parseRestoreJob fromisoformat intent (data ++ ("jobs", value) :: more) = none := by
        unfold parseRestoreJob
        rw [foreign]
        rfl
      rw [refused, refused]
    next =>
      have inside (value : Json) : get? (data ++ ("jobs", value) :: more) "jobs" =
          (get? data "jobs").or (some value) := by
        rw [get?_middle, if_pos rfl]
      rw [sameKeys, inside, inside]
      cases get? data "jobs" with
      | some value => rfl
      | none =>
        cases hasKeys (data ++ ("jobs", .arr jobs) :: more) ["ignore_conditions", "jobs"] with
        | false => rfl
        | true =>
          have matching : (matchingJobs fromisoformat intent jobs').Perm
              (matchingJobs fromisoformat intent jobs) := perm.symm.filterMap _
          dsimp only [Option.or]
          generalize matchingJobs fromisoformat intent jobs = first at matching
          generalize matchingJobs fromisoformat intent jobs' = other at matching
          match first, other, matching.length_eq with
          | [], [], _ => rfl
          | [job], [job'], _ =>
            obtain rfl : job' = job := List.perm_singleton.mp matching |> List.singleton_inj.mp
            rfl
          | job :: _ :: _, job' :: _ :: _, _ => cases job <;> cases job' <;> rfl

end

/-! ## The call -/

section

variable {fromisoformat : String → Option DateTime} {access : RollbackAccess}
  {plan : PostDeploymentAssertionPlan} {current : DeploymentRollback} {observedAt : Option Int}
  {s : System}

/-- The restore was requested, and what became of it is not known. -/
def RollbackPhase.reconcilable : RollbackPhase → Bool
  | .restoreAcknowledged | .restoreStarted | .uncertain => true
  | _ => false

/-- The call goes on to the verdict: it has a token, its limits are in range, and the clock is not
before the last change of the row. -/
structure ReadsAnswer (access : RollbackAccess) (current : DeploymentRollback) (observedAt : Option Int)
    (s : System) : Prop where
  token : access.validateSupervisorToken = .ok ()
  limits : access.validateLimits = .ok ()
  since : current.updatedAt ≤ observedAt.getD s.now

/-- What the evidence of a job comes to: what is reported, and how the row changes. -/
def restoreVerdict (current : DeploymentRollback) :
    Option SupervisorRestoreJob → RestoreStatus × Option RollbackChange
  | some ⟨jobId, none, false, _⟩ => (.inProgress,
    if current.restoreJobId = some jobId then none
    else some ⟨.restoreAcknowledged, .inProgress, .none, current.attemptCount, some jobId⟩)
  | some ⟨jobId, some true, false, _⟩ => (.restored,
    some ⟨.observing, .restored, .none, current.attemptCount, some jobId⟩)
  | _ => (.ambiguous, some ⟨.blocked, .ambiguous, .ambiguous, current.attemptCount, none⟩)

/-- The state after the row has changed, if it has. -/
def System.settled (s : System) (current : DeploymentRollback) (time : Int) :
    Option RollbackChange → System
  | none => s
  | some change => s.replaceRow current (current.change change time)

/-- A transition that is valid goes through. -/
theorem eval_transition_valid {change : RollbackChange} {time : Int}
    (loaded : loadDeploymentRollback s.store plan = .ok (some current))
    (valid : (current.change change time).valid = true) :
    (transitionRollback plan current change time).eval s =
      (.ok (current.change change time), s.replaceRow current (current.change change time)) := by
  refine (eval_bind_ok (eval_ensure valid)).trans ?_
  have replaced : (transaction (replaceRollback plan current (current.change change time))).eval s =
      (.ok (), s.replaceRow current (current.change change time)) := by
    refine eval_transaction ?_
    unfold replaceRollback
    rw [loaded]
    exact if_neg (fun wrong => wrong rfl)
  refine (eval_bind_ok replaced).trans ?_
  have found := loadDeploymentRollback_some loaded
  have here : plan.deploymentId = current.deploymentId := by
    have same := List.find?_some found
    exact (of_decide_eq_true same).symm
  have again : loadDeploymentRollback (s.replaceRow current (current.change change time)).store plan =
      .ok (some (current.change change time)) := by
    refine load_replaced loaded ⟨rfl, rfl, rfl, rfl, rfl⟩ ?_ ⟨change, time, rfl⟩
    rw [here] at found ⊢
    exact Rows.find_replaced rfl found
  exact (eval_bind_ok (eval_query again)).trans (eval_bind_ok (eval_ensure rfl))

/-- What a change must say for a row that was valid to be valid. -/
theorem valid_change {change : RollbackChange} {time : Int} (valid : current.valid = true)
    (since : current.updatedAt ≤ time) (attempts : change.attemptCount = current.attemptCount)
    (job : change.restoreJobId.all isSlug = true) (fits : change.jobFits) :
    (current.change change time).valid = true := by
  obtain ⟨apart, bounded, -, -, -, ordered⟩ := of_decide_eq_true valid
  have bounded : change.attemptCount ≤ 8 := attempts ▸ bounded
  exact decide_eq_true ⟨apart, bounded, job, fits.1, fits.2, ordered.trans since⟩

theorem eval_settleReconciliation {time : Int} {job : Option SupervisorRestoreJob}
    (loaded : loadDeploymentRollback s.store plan = .ok (some current))
    (valid : current.valid = true) (since : current.updatedAt ≤ time)
    (slug : ∀ seen ∈ job, isSlug seen.jobId = true) :
    (settleReconciliation plan current time job).eval s =
      (.ok ⟨(restoreVerdict current job).1, false⟩,
        s.settled current time (restoreVerdict current job).2) := by
  have goes {change : RollbackChange} {status : RestoreStatus}
      (attempts : change.attemptCount = current.attemptCount)
      (shape : change.restoreJobId.all isSlug = true) (fits : change.jobFits) :
      (do let _ ← transitionRollback plan current change time
          return (⟨status, false⟩ : RollbackRestoreResult) : Lane RollbackRestoreResult).eval s =
        (.ok ⟨status, false⟩, s.replaceRow current (current.change change time)) :=
    (eval_bind_ok (eval_transition_valid loaded
      (valid_change valid since attempts shape fits))).trans rfl
  have ambiguous := @goes ⟨.blocked, .ambiguous, .ambiguous, current.attemptCount, none⟩ .ambiguous
    rfl rfl ⟨by simp, by simp⟩
  cases job with
  | none => exact ambiguous
  | some job =>
    obtain ⟨jobId, done, failed, createdAt⟩ := job
    have shape : isSlug jobId = true := slug _ rfl
    cases failed with
    | true =>
      cases done with
      | none => exact ambiguous
      | some done => cases done <;> exact ambiguous
    | false =>
      cases done with
      | none =>
        unfold settleReconciliation restoreVerdict
        dsimp only [Option.map]
        split
        next => rfl
        next => exact goes rfl shape ⟨by simp, by simp⟩
      | some done =>
        cases done with
        | false => exact ambiguous
        | true => exact goes rfl shape ⟨by simp, by simp⟩

theorem eval_moment (observedAt : Option Int) (s : System) :
    (moment observedAt).eval s = (.ok (observedAt.getD s.now), s) := by
  cases observedAt <;> rfl

/-- A row that is to be reconciled is. -/
theorem eval_reconcile (loaded : loadDeploymentRollback s.store plan = .ok (some current))
    (going : current.phase.reconcilable = true) :
    (reconcileDeploymentRestoreOnce fromisoformat access plan observedAt).eval s =
      (reconcileRequestedRestore fromisoformat access plan current observedAt).eval s := by
  refine (eval_bind_ok (eval_query loaded)).trans ?_
  dsimp only
  cases phase : current.phase <;> rw [phase] at going <;> first | rfl | cases going

/-- A call that is ready and is answered comes to the verdict on the answer. -/
theorem eval_reconcile_ready {response : SupervisorResponse}
    (loaded : loadDeploymentRollback s.store plan = .ok (some current))
    (going : current.phase.reconcilable = true) (valid : current.valid = true)
    (ready : ReadsAnswer access current observedAt s) (answered : s.answers.jobs = some response) :
    (reconcileDeploymentRestoreOnce fromisoformat access plan observedAt).eval s =
      (.ok ⟨(restoreVerdict current (reconciledRestoreJob fromisoformat response
          current.restoreIntent access.maxResponseBytes)).1, false⟩,
        s.settled current (observedAt.getD s.now) (restoreVerdict current (reconciledRestoreJob
          fromisoformat response current.restoreIntent access.maxResponseBytes)).2) := by
  rw [eval_reconcile loaded going]
  unfold reconcileRequestedRestore
  rw [ready.token, ready.limits]
  refine (eval_bind_ok rfl).trans ((eval_bind_ok rfl).trans
    ((eval_bind_ok (a := response) (t := s) ?_).trans ?_))
  · rw [eval_ask, answered]
  refine (eval_bind_ok (eval_moment observedAt s)).trans
    ((eval_bind_ok (eval_ensure ready.since)).trans ?_)
  exact eval_settleReconciliation loaded valid ready.since fun seen read =>
    reconciledRestoreJob_slug read

/-- What a call raises that is not ready. -/
def unreadyFailure (access : RollbackAccess) : Failure :=
  match access.validateSupervisorToken, access.validateLimits with
  | .error failure, _ => failure
  | .ok _, .error failure => failure
  | .ok _, .ok _ => rollbackInvalid

/-- A call that is not ready raises, whatever it is answered, and changes nothing. -/
theorem eval_reconcile_unready {response : SupervisorResponse}
    (loaded : loadDeploymentRollback s.store plan = .ok (some current))
    (going : current.phase.reconcilable = true) (answered : s.answers.jobs = some response)
    (unready : ¬ReadsAnswer access current observedAt s) :
    (reconcileDeploymentRestoreOnce fromisoformat access plan observedAt).eval s =
      (.error (unreadyFailure access), s) := by
  rw [eval_reconcile loaded going]
  unfold reconcileRequestedRestore unreadyFailure
  cases token : access.validateSupervisorToken with
  | error failure => rfl
  | ok _ =>
  cases limits : access.validateLimits with
  | error failure => rfl
  | ok _ =>
  have late : ¬current.updatedAt ≤ observedAt.getD s.now := fun since =>
    unready ⟨token, limits, since⟩
  refine (eval_bind_ok rfl).trans ((eval_bind_ok rfl).trans
    ((eval_bind_ok (a := response) (t := s) ?_).trans ?_))
  · rw [eval_ask, answered]
  · exact (eval_bind_ok (eval_moment observedAt s)).trans (eval_bind_error (eval_ensure_not late))

/-- A call whose transport raises does so too. -/
theorem eval_reconcile_unanswered
    (loaded : loadDeploymentRollback s.store plan = .ok (some current))
    (going : current.phase.reconcilable = true) (unanswered : s.answers.jobs = none) :
    ∃ failure, (reconcileDeploymentRestoreOnce fromisoformat access plan observedAt).eval s =
      (.error failure, s) := by
  rw [eval_reconcile loaded going]
  unfold reconcileRequestedRestore
  cases token : access.validateSupervisorToken with
  | error failure => exact ⟨failure, rfl⟩
  | ok _ =>
  cases limits : access.validateLimits with
  | error failure => exact ⟨failure, rfl⟩
  | ok _ =>
  refine ⟨rollbackError "rollback reconciliation is temporarily unavailable",
    (eval_bind_ok rfl).trans ((eval_bind_ok rfl).trans (eval_bind_error ?_))⟩
  rw [eval_ask, unanswered]

/-! ## The verdict -/

theorem restoreVerdict_restored {job : Option SupervisorRestoreJob}
    (restored : (restoreVerdict current job).1 = .restored) :
    ∃ seen, job = some seen ∧ seen.failed = false ∧ seen.done = some true := by
  match job with
  | none => cases restored
  | some ⟨_, none, false, _⟩ => cases restored
  | some ⟨_, none, true, _⟩ => cases restored
  | some ⟨_, some false, _, _⟩ => cases restored
  | some ⟨_, some true, true, _⟩ => cases restored
  | some ⟨_, some true, false, _⟩ => exact ⟨_, rfl, rfl, rfl⟩

theorem restoreVerdict_inProgress {job : Option SupervisorRestoreJob}
    (inProgress : (restoreVerdict current job).1 = .inProgress) :
    ∃ seen, job = some seen ∧ seen.failed = false ∧ seen.done = none := by
  match job with
  | none => cases inProgress
  | some ⟨_, none, false, _⟩ => exact ⟨_, rfl, rfl, rfl⟩
  | some ⟨_, none, true, _⟩ => cases inProgress
  | some ⟨_, some false, _, _⟩ => cases inProgress
  | some ⟨_, some true, true, _⟩ => cases inProgress
  | some ⟨_, some true, false, _⟩ => cases inProgress

/-- A call that reports something was ready and was answered. -/
theorem ready_of_reports {outcome : RollbackRestoreResult} {t : System}
    (loaded : loadDeploymentRollback s.store plan = .ok (some current))
    (going : current.phase.reconcilable = true)
    (reports : (reconcileDeploymentRestoreOnce fromisoformat access plan observedAt).eval s =
      (.ok outcome, t)) :
    ReadsAnswer access current observedAt s ∧ ∃ response, s.answers.jobs = some response := by
  cases answered : s.answers.jobs with
  | none =>
    obtain ⟨failure, raised⟩ := @eval_reconcile_unanswered fromisoformat access plan current
      observedAt s loaded going answered
    rw [raised] at reports
    cases reports
  | some response =>
    by_cases ready : ReadsAnswer access current observedAt s
    · exact ⟨ready, response, rfl⟩
    · rw [eval_reconcile_unready loaded going answered ready] at reports
      cases reports

end

section

variable (fromisoformat : String → Option DateTime) (access : RollbackAccess)
  (plan : PostDeploymentAssertionPlan) (current : DeploymentRollback) (observedAt : Option Int)
  (s : System)

/-- What a reconciliation of a restore is to do with the answer it gets: raise and leave the row
where the failure is temporary, report a stage only from the job that is this restore, block the row
where more than one job could be, and not look at the order of a listing. -/
structure RestoreSettled : Prop where
  waits : TemporaryFailure s.answers.jobs →
    ∃ failure, (reconcileDeploymentRestoreOnce fromisoformat access plan observedAt).eval s =
      (.error failure, s)
  restored : ∀ replayed t,
    (reconcileDeploymentRestoreOnce fromisoformat access plan observedAt).eval s =
      (.ok ⟨.restored, replayed⟩, t) →
    ∃ response members, RestoreAt fromisoformat s.answers.jobs current.restoreIntent
      access.maxResponseBytes (some true) response members
  inProgress : ∀ replayed t,
    (reconcileDeploymentRestoreOnce fromisoformat access plan observedAt).eval s =
      (.ok ⟨.inProgress, replayed⟩, t) →
    ∃ response members, RestoreAt fromisoformat s.answers.jobs current.restoreIntent
      access.maxResponseBytes none response members
  ambiguous : ∀ response jobs, ReadsAnswer access current observedAt s →
    s.answers.jobs = some response → current.restoreJobId = none →
    listedJobs response access.maxResponseBytes = some jobs →
    2 ≤ (jobs.filter (restores current.restoreIntent.backupSlug)).length →
    ∃ t row, (reconcileDeploymentRestoreOnce fromisoformat access plan observedAt).eval s =
        (.ok ⟨.ambiguous, false⟩, t) ∧ t.rollback plan.deploymentId = some row ∧
      row.phase = .blocked ∧ row.blockReason = .ambiguous
  orderless : ∀ first second, s.answers.jobs = some first → Reordered first second →
    ∀ t, t = { s with answers := { s.answers with jobs := some second } } →
      ((reconcileDeploymentRestoreOnce fromisoformat access plan observedAt).eval t).1 =
          ((reconcileDeploymentRestoreOnce fromisoformat access plan observedAt).eval s).1 ∧
        ((reconcileDeploymentRestoreOnce fromisoformat access plan observedAt).eval t).2.store =
          ((reconcileDeploymentRestoreOnce fromisoformat access plan observedAt).eval s).2.store

end

/-! ## An unavailable Supervisor -/

/-- A restore that was asked for, while the Supervisor answers that it is not available. -/
def unavailableHome : System :=
  { requestedHome with
    answers := { requestedHome.answers with jobs := some ⟨503, "text/html", ⟨0, none⟩⟩ } }

end SyncApp
