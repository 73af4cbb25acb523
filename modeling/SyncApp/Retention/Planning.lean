import SyncApp.Records.Columns

/-!
# Plans of history retention

The generated branches `logs` and `database` keep the commits of a number of days. A plan comes from
a linear history, newest first: the head is retained, and so is what was committed since the cutoff.

Whatever the times are, what is retained and what is pruned are the history again, in its order
(`planRetention_spec`); and the authorization of a replacement has both from a history that is
linear down to its root (`authorize_spec`).

The two branches have a copy of the code each; `Branch.pick` says what they differ in. The identity
of the repository, which each step compares, is left out.
-/

set_option autoImplicit false

namespace SyncApp

open Lib

namespace Retention

open Raising (bind_eq_ok)
open Records (hexOf isObjectId)

/-- A `datetime`: the instant it stands for, and how far its zone is from UTC, if it has one. -/
structure Timestamp where
  instant : Int
  offset : Option Int
deriving DecidableEq

inductive Branch where
  | logs
  | database
deriving DecidableEq

/-- What one copy of the code has, and what the other. -/
def Branch.pick {α : Type} (logs database : α) : Branch → α
  | .logs => logs
  | .database => database

def invalid (message : String) : Failure := ⟨message, false⟩

/-- `_IDENTITY_PATTERN`. -/
def isIdentity (value : PyStr) : Bool :=
  let letter (c : Nat) : Bool := (65 ≤ c && c ≤ 90) || (97 ≤ c && c ≤ 122) || (48 ≤ c && c ≤ 57)
  value.head?.any letter && value.length ≤ 128 &&
    value.all fun c => letter c || c = 46 || c = 95 || c = 45

/-- `_SHA_PATTERN` of the evidence. -/
def Branch.isSha : Branch → PyStr → Bool := Branch.pick (hexOf 40) isObjectId

/-! ## Plans -/

/-- `LogHistoryCommit`, `DatabaseSnapshotEvidence`. -/
structure Commit where
  sha : PyStr
  committedAt : Timestamp
deriving DecidableEq

def Commit.since (cutoff : Int) (commit : Commit) : Bool := cutoff ≤ commit.committedAt.instant

/-- `LogHistoryRetentionPlan`, `DatabaseRetentionPlan`. -/
structure Plan where
  expectedHead : PyStr
  referenceTime : Timestamp
  days : Int
  cutoff : Int
  retained : List PyStr
  pruned : List PyStr
deriving DecidableEq

/-- `MAX_HISTORY_COMMITS`, `MAX_DATABASE_SNAPSHOTS`. -/
def maxCommits : Nat := 4096

/-- `_require_utc`. -/
def requireUtc (time : Timestamp) (field : String) : Except Failure Unit :=
  if time.offset = some 0 then .ok ()
  else .error (invalid (field ++ " must be timezone-aware UTC"))

/-- The loop over the history, with what was seen and the time before. -/
def checkCommits (branch : Branch) (reference : Int) :
    List PyStr → Option Int → List Commit → Except Failure Unit
  | _, _, [] => .ok ()
  | seen, previous, commit :: commits =>
    if branch.pick (hexOf 40) isIdentity commit.sha = false then
      .error (invalid (branch.pick "logs history contains an invalid commit SHA"
        "database snapshot contains an invalid identity"))
    else if commit.sha ∈ seen then
      .error (invalid (branch.pick "logs history contains a duplicate commit SHA"
        "database snapshot evidence contains a duplicate identity"))
    else do
      requireUtc commit.committedAt (branch.pick "committed_at" "created_at")
      if reference < commit.committedAt.instant then
        throw (invalid (branch.pick "logs history contains a future commit timestamp"
          "database snapshot evidence contains a future timestamp"))
      else if previous.any (· < commit.committedAt.instant) then
        throw (invalid (branch.pick "logs history must be ordered newest-first"
          "database snapshot evidence must be ordered newest-first"))
      else
        checkCommits branch reference (commit.sha :: seen) (some commit.committedAt.instant) commits

/-- A plan for a number of days. -/
def planRetention (branch : Branch) (days : Int) (commits : List Commit) (reference : Timestamp) :
    Except Failure Plan := do
  requireUtc reference "reference_time"
  if maxCommits < commits.length then
    throw (invalid (branch.pick "logs history exceeds the planning limit"
      "database snapshot evidence exceeds the planning limit"))
  else
    match commits with
    | [] =>
      throw (invalid (branch.pick "logs history must contain a current head"
        "database snapshot evidence must contain a newest snapshot"))
    | head :: older => do
      checkCommits branch reference.instant [] none commits
      let cutoff := reference.instant - days * 86400000000
      -- a time before the first year is no `datetime`
      if cutoff < 0 then throw (invalid "date value out of range")
      else
        let retained := older.filter (·.since cutoff)
        let pruned := older.filter (!·.since cutoff)
        return ⟨head.sha, reference, days, cutoff, head.sha :: retained.map Commit.sha,
          pruned.map Commit.sha⟩

/-- `plan_log_history_retention`, with `LOG_RETENTION_DAYS`. -/
def planLogHistoryRetention (commits : List Commit) (reference : Timestamp) :
    Except Failure Plan :=
  planRetention .logs 30 commits reference

/-- `plan_database_retention`. -/
def planDatabaseRetention (days : Int) (commits : List Commit) (reference : Timestamp) :
    Except Failure Plan :=
  if days < 1 ∨ 365 < days then
    .error (invalid "retention days are outside the configured safety bounds")
  else planRetention .database days commits reference

def Branch.plan (branch : Branch) (days : Int) (commits : List Commit) (reference : Timestamp) :
    Except Failure Plan :=
  branch.pick (planLogHistoryRetention commits reference)
    (planDatabaseRetention days commits reference)

/-! ## Evidence -/

/-- `LogHistoryRecord`, `DatabaseHistoryRecord`. -/
structure Record where
  sha : PyStr
  committedAt : Timestamp
  parents : List PyStr
deriving DecidableEq

def Record.commit (record : Record) : Commit := ⟨record.sha, record.committedAt⟩

/-- `TrustedLogHistoryEvidence`, `TrustedDatabaseHistoryEvidence`. -/
structure Evidence where
  expectedHead : PyStr
  records : List Record
  plan : Plan
deriving DecidableEq

/-- The loop over the records. -/
def checkRecords (branch : Branch) : List Record → Except Failure Unit
  | [] => .ok ()
  | record :: older =>
    if branch.isSha record.sha = false then
      .error (invalid (branch.pick "logs" "database" ++ " history contains an invalid commit SHA"))
    else if record.parents.any fun parent => !branch.isSha parent then
      .error (invalid (branch.pick "logs" "database" ++ " history contains an invalid parent SHA"))
    else if 1 < record.parents.length then
      .error (invalid (branch.pick "logs" "database" ++ " history must be linear"))
    else
      match older with
      | [] =>
        if record.parents = [] then .ok ()
        else .error (invalid (branch.pick "logs" "database" ++
          " history evidence must be complete to the root"))
      | next :: _ =>
        if record.parents = [next.sha] then checkRecords branch older
        else .error (invalid (branch.pick "logs" "database" ++
          " history parent chain is inconsistent"))

/-- `validate_trusted_log_history_evidence`, `validate_trusted_database_history_evidence`. -/
def validateEvidence (branch : Branch) (days : Int) (head : PyStr) (records : List Record)
    (reference : Timestamp) : Except Failure Evidence := do
  if branch.isSha head = false then
    throw (invalid ("trusted " ++ branch.pick "logs" "database" ++ " head is invalid"))
  else if maxCommits < records.length then
    throw (invalid (branch.pick "logs" "database" ++ " history exceeds the evidence limit"))
  else
    match records with
    | [] =>
      throw (invalid ("trusted " ++ branch.pick "logs" "database" ++ " history must not be empty"))
    | first :: _ => do
      if first.sha ≠ head then
        throw (invalid ("trusted " ++ branch.pick "logs" "database" ++
          " history does not match the verified head"))
      else
        checkRecords branch records
        let plan ← branch.plan days (records.map Record.commit) reference
        return ⟨head, records, plan⟩

/-! ## Authorization -/

/-- `LogHistoryReplacementAuthorization`, `DatabaseHistoryReplacementAuthorization`. -/
structure Authorization where
  expectedHead : PyStr
  retained : List PyStr
  pruned : List PyStr
deriving DecidableEq

/-- `authorize_log_history_replacement`, `authorize_database_history_replacement`, with the head
that was proved again. -/
def authorize (branch : Branch) (evidence : Evidence) (prewrite : PyStr) :
    Except Failure Authorization := do
  let name := "trusted " ++ branch.pick "logs" "database"
  let plan := evidence.plan
  if evidence.expectedHead ≠ prewrite then
    throw (invalid (name ++ " prewrite proof does not match retention evidence"))
  else if branch = .logs ∧ plan.expectedHead ≠ evidence.expectedHead then
    throw (invalid (name ++ " retention head is inconsistent"))
  else if plan.retained.head? ≠ some evidence.expectedHead then
    throw (invalid (name ++ " retained history is invalid"))
  else if ¬plan.retained.Nodup ∨ ¬plan.pruned.Nodup then
    throw (invalid (name ++ " retention authorization contains duplicate commits"))
  else if plan.retained.any plan.pruned.contains then
    throw (invalid (name ++ " retained and pruned history overlap"))
  else if plan.retained ++ plan.pruned ≠ evidence.records.map Record.sha then
    throw (invalid (name ++ " retention authorization does not match history evidence"))
  else
    let validated ← branch.plan plan.days (evidence.records.map Record.commit) plan.referenceTime
    if validated ≠ plan then throw (invalid (name ++ " retention plan is inconsistent"))
    else return ⟨evidence.expectedHead, plan.retained, plan.pruned⟩

/-! ## What a plan is -/

section

variable {branch : Branch} {days : Int} {commits : List Commit} {records : List Record}
  {reference : Timestamp} {plan : Plan} {head : PyStr} {evidence : Evidence}
  {authorization : Authorization}

/-- A history that was looked through is ordered newest first. -/
theorem checkCommits_ordered {instant : Int} {seen : List PyStr} {previous : Option Int}
    (checked : checkCommits branch instant seen previous commits = .ok ()) :
    commits.Pairwise (fun newer older => older.committedAt.instant ≤ newer.committedAt.instant) ∧
      ∀ time ∈ previous, ∀ commit ∈ commits, commit.committedAt.instant ≤ time := by
  induction commits generalizing seen previous with
  | nil => exact ⟨.nil, fun _ _ commit mem => nomatch mem⟩
  | cons commit commits ih =>
    unfold checkCommits at checked
    split at checked
    next => cases checked
    next =>
      split at checked
      next => cases checked
      next =>
        obtain ⟨⟨⟩, -, rest⟩ := bind_eq_ok.mp checked
        split at rest
        next => cases rest
        next =>
          split at rest
          next => cases rest
          next inOrder =>
            obtain ⟨ordered, bounded⟩ := ih rest
            have later := bounded _ rfl
            refine ⟨.cons later ordered, fun time held => ?_⟩
            have here : commit.committedAt.instant ≤ time := by
              rw [Option.mem_def.mp held, Option.any_some, decide_eq_true_eq] at inOrder
              omega
            exact List.forall_mem_cons.mpr ⟨here, fun other mem => (later other mem).trans here⟩

/-- Of what is ordered, what comes since a time and what comes before it are all, in their order. -/
theorem filter_since_append_before {cutoff : Int} (ordered : commits.Pairwise fun newer older =>
    older.committedAt.instant ≤ newer.committedAt.instant) :
    commits.filter (·.since cutoff) ++ commits.filter (!·.since cutoff) = commits := by
  induction ordered with
  | nil => rfl
  | @cons commit commits later _ ih =>
    cases since : commit.since cutoff with
    | true =>
      rw [List.filter_cons_of_pos since, List.filter_cons_of_neg (by rw [since]; decide),
        List.cons_append, ih]
    | false =>
      have none : commits.filter (·.since cutoff) = [] :=
        List.filter_eq_nil_iff.mpr fun other mem inside => by
          have := later other mem
          unfold Commit.since at since inside
          rw [decide_eq_true_eq] at inside
          rw [decide_eq_false_iff_not] at since
          omega
      rw [none] at ih
      rw [List.filter_cons_of_neg (by rw [since]; decide),
        List.filter_cons_of_pos (by rw [since]; decide), none]
      exact congrArg (commit :: ·) ih

/-- **What is retained and what is pruned are the history**, and its head is retained. -/
theorem planRetention_spec (planned : planRetention branch days commits reference = .ok plan) :
    plan.retained ++ plan.pruned = commits.map Commit.sha ∧
      plan.retained.head? = commits.head?.map Commit.sha ∧ plan.retained ≠ [] := by
  unfold planRetention at planned
  obtain ⟨⟨⟩, -, rest⟩ := bind_eq_ok.mp planned
  split at rest
  next => cases rest
  next =>
    cases commits with
    | nil => cases rest
    | cons first older =>
      obtain ⟨⟨⟩, checked, rest⟩ := bind_eq_ok.mp rest
      dsimp only at rest
      split at rest
      next => cases rest
      next =>
        cases rest
        refine ⟨?_, rfl, List.cons_ne_nil _ _⟩
        rw [List.map_cons, List.cons_append, ← List.map_append,
          filter_since_append_before (List.pairwise_cons.mp (checkCommits_ordered checked).1).2]

theorem Branch.plan_eq_ok (planned : branch.plan days commits reference = .ok plan) :
    ∃ days, planRetention branch days commits reference = .ok plan := by
  cases branch with
  | logs => exact ⟨30, planned⟩
  | database =>
    refine ⟨days, ?_⟩
    change planDatabaseRetention days commits reference = .ok plan at planned
    unfold planDatabaseRetention at planned
    split at planned
    next => cases planned
    next => exact planned

/-! ## What an authorization is -/

/-- The records go from parent to parent, down to one that has none. -/
def Linked : List Record → Prop
  | [] => True
  | [record] => record.parents = []
  | record :: next :: older => record.parents = [next.sha] ∧ Linked (next :: older)

theorem checkRecords_linked (checked : checkRecords branch records = .ok ()) : Linked records := by
  induction records with
  | nil => trivial
  | cons record older ih =>
    unfold checkRecords at checked
    split at checked
    next => cases checked
    next =>
      split at checked
      next => cases checked
      next =>
        split at checked
        next => cases checked
        next =>
          cases older with
          | nil =>
            dsimp only at checked
            split at checked
            next root => exact root
            next => cases checked
          | cons next older =>
            dsimp only at checked
            split at checked
            next parent => exact ⟨parent, ih checked⟩
            next => cases checked

theorem validateEvidence_spec
    (validated : validateEvidence branch days head records reference = .ok evidence) :
    evidence.records = records ∧ evidence.expectedHead = head ∧ Linked records ∧
      evidence.plan.retained ++ evidence.plan.pruned = records.map Record.sha ∧
      evidence.plan.retained.head? = some head ∧
      branch.plan days (records.map Record.commit) reference = .ok evidence.plan := by
  unfold validateEvidence at validated
  split at validated
  next => cases validated
  next =>
    split at validated
    next => cases validated
    next =>
      cases records with
      | nil => cases validated
      | cons first older =>
        dsimp only at validated
        split at validated
        next => cases validated
        next same =>
          obtain ⟨⟨⟩, checked, rest⟩ := bind_eq_ok.mp validated
          obtain ⟨plan, planned, last⟩ := bind_eq_ok.mp rest
          cases last
          obtain ⟨days', made⟩ := Branch.plan_eq_ok planned
          obtain ⟨whole, retained, -⟩ := planRetention_spec made
          refine ⟨rfl, rfl, checkRecords_linked checked, ?_, ?_, planned⟩
          · rw [whole, List.map_map]
            rfl
          · rw [retained]
            exact congrArg some (not_not.mp same)

/-- **An authorization has the plan's two parts**, each commit once. -/
theorem authorize_spec {prewrite : PyStr}
    (authorized : authorize branch evidence prewrite = .ok authorization) :
    authorization.expectedHead = evidence.expectedHead ∧
      authorization.retained ++ authorization.pruned = evidence.records.map Record.sha ∧
      authorization.retained.head? = some authorization.expectedHead ∧
      (authorization.retained ++ authorization.pruned).Nodup := by
  unfold authorize at authorized
  dsimp only at authorized
  split at authorized
  next => cases authorized
  next =>
    split at authorized
    next => cases authorized
    next =>
      split at authorized
      next => cases authorized
      next first =>
        split at authorized
        next => cases authorized
        next once =>
          split at authorized
          next => cases authorized
          next apart =>
            split at authorized
            next => cases authorized
            next whole =>
              obtain ⟨validated, -, rest⟩ := bind_eq_ok.mp authorized
              split at rest
              next => cases rest
              next =>
                cases rest
                refine ⟨rfl, not_not.mp whole, not_not.mp first, ?_⟩
                rw [not_or, not_not, not_not] at once
                refine List.nodup_append.mpr ⟨once.1, once.2, fun sha mem other there same => ?_⟩
                refine apart (List.any_eq_true.mpr ⟨sha, mem, ?_⟩)
                rw [same]
                exact List.contains_iff_mem.mpr there

end

end Retention

end SyncApp
