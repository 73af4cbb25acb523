import SyncApp.Lib.IsoTime
import SyncApp.Pipeline.WorkTable
import SyncApp.Supervisor.Readers

/-!
# The work table as its columns hold it

A row keeps its times as texts, and a claim compares and orders the texts. Every operation that
writes a row is here with the texts it writes: each is the `isoformat` of a time in UTC, so the order
of the texts is that of the times (`Lib.Calendar.isoformat_lt_iff`), and a claim takes a row that is
due first (`claim_chronological`).

A time is a count of microseconds. `datetime.fromisoformat` is a parameter, of which only this is
used: it reads back what `isoformat` wrote. SQLite itself does not fail here.
-/

set_option autoImplicit false

namespace SyncApp

open Lib

namespace WorkRows

/-- A time in UTC, as `_timestamp` returns it. -/
abbrev Moment := {t : Nat // t < Calendar.limit}

structure Row where
  workKind : PyStr
  workKey : PyStr
  status : WorkStatus
  attempts : Nat
  createdAt : PyStr
  updatedAt : PyStr
  nextAttemptAt : Option PyStr
deriving DecidableEq

/-- `WorkItem`, as `_work_from_row` makes it. -/
structure Item where
  workKind : PyStr
  workKey : PyStr
  status : WorkStatus
  attempts : Nat
  createdAt : Nat
  updatedAt : Nat
  nextAttemptAt : Option Nat
deriving DecidableEq

/-! ## Reading -/

def validateKind (workKind : PyStr) : Except Failure Unit :=
  if isWorkKind workKind then .ok () else .error (stateFailure "Invalid work kind")

def validateIdentity (workKind workKey : PyStr) : Except Failure Unit := do
  validateKind workKind
  if isWorkKey workKey then .ok () else .error (stateFailure "Invalid work key")

variable (fromisoformat : PyStr → Option DateTime)

/-- `_parse_timestamp`. A time that UTC has no date for is an `OverflowError`. -/
def parseTimestamp (value : PyStr) : Except Failure Nat :=
  match fromisoformat value with
  | some (.aware utc) =>
    if 0 ≤ utc ∧ utc < Calendar.limit then .ok utc.toNat
    else .error (stateFailure "date value out of range")
  | _ => .error (stateFailure "Invalid state timestamp")

def parseOptional : Option PyStr → Except Failure (Option Nat)
  | none => .ok none
  | some value => (parseTimestamp fromisoformat value).map some

/-- `_work_from_row`. -/
def workFromRow (row : Row) : Except Failure Item := do
  validateIdentity row.workKind row.workKey
  let createdAt ← parseTimestamp fromisoformat row.createdAt
  let updatedAt ← parseTimestamp fromisoformat row.updatedAt
  let nextAttemptAt ← parseOptional fromisoformat row.nextAttemptAt
  return ⟨row.workKind, row.workKey, row.status, row.attempts, createdAt, updatedAt, nextAttemptAt⟩

/-- `WHERE work_kind = ? AND work_key = ?`. -/
def Row.named (workKind workKey : PyStr) (row : Row) : Bool :=
  row.workKind = workKind && row.workKey = workKey

/-- `_get_work`. -/
def getWork (workKind workKey : PyStr) (rows : List Row) : Except Failure Item :=
  match rows.filter (·.named workKind workKey) with
  | [row] => workFromRow fromisoformat row
  | _ => .error (stateFailure "Work record is missing")

/-! ## Writing -/

def isoText (now : Moment) : PyStr := Calendar.isoformat now

def pendingRow (workKind workKey : PyStr) (now : Moment) : Row :=
  ⟨workKind, workKey, .pending, 0, isoText now, isoText now, some (isoText now)⟩

namespace Row

/-- `WHERE work_kind = ? AND work_key = ? AND status = ? AND attempts = ?`. -/
def matching (workKind workKey : PyStr) (status : WorkStatus) (attempts : Nat) (row : Row) : Bool :=
  row.named workKind workKey && row.status = status && row.attempts = attempts

/-- `SET status = ?, attempts = ?, updated_at = ?, next_attempt_at = ?`. -/
def set (status : WorkStatus) (attempts : Nat) (now : Moment) (nextAttemptAt : Option Moment)
    (row : Row) : Row :=
  { row with
    status, attempts, updatedAt := isoText now, nextAttemptAt := nextAttemptAt.map isoText }

/-- `ORDER BY next_attempt_at, created_at, work_kind, work_key`, of texts. -/
def before (first second : Row) : Bool :=
  let due (row : Row) : PyStr := row.nextAttemptAt.getD []
  if due first ≠ due second then decide (due first < due second)
  else if first.createdAt ≠ second.createdAt then decide (first.createdAt < second.createdAt)
  else if first.workKind ≠ second.workKind then decide (first.workKind < second.workKind)
  else decide (first.workKey < second.workKey)

/-- `WHERE status IN ('pending','retry') AND next_attempt_at <= ?`, of texts. -/
def eligible (now : Moment) (row : Row) : Bool :=
  (row.status = .pending || row.status = .retry) &&
    row.nextAttemptAt.any fun due => !decide (isoText now < due)

end Row

/-- `UPDATE`, where it has to change one row. -/
def updateOne (matching : Row → Bool) (change : Row → Row) (rows : List Row) : Option (List Row) :=
  if rows.countP matching = 1 then
    some (rows.map fun row => if matching row then change row else row)
  else none

/-- `ORDER BY … LIMIT 1`. -/
def earliest : List Row → Option Row
  | [] => none
  | row :: rows =>
    match earliest rows with
    | none => some row
    | some other => if other.before row then some other else some row

/-- A call's answer, and the table after it. -/
abbrev Outcome := Except Failure (Option Item) × List Row

/-- A transaction that commits, where it commits, and the row that is read back after it. -/
def readBack (workKind workKey : PyStr) (failure : Failure) (rows : List Row)
    (committed : Option (List Row)) : Outcome :=
  match committed with
  | none => (.error failure, rows)
  | some rows => ((getWork fromisoformat workKind workKey rows).map some, rows)

/-- A transaction that reads the row back before it commits, and commits only where it is `pending`
from now on. -/
def rearm (failed : Failure) (unchanged inconsistent : String) (workKind workKey : PyStr)
    (createdAt : Nat) (now : Moment) (rows : List Row) (changed : Option (List Row)) : Outcome :=
  match changed with
  | none => (.error (stateFailure unchanged), rows)
  | some changed =>
    match getWork fromisoformat workKind workKey changed with
    | .error _ => (.error failed, rows)
    | .ok item =>
      if item.status ≠ .pending ∨ item.attempts ≠ 0 ∨ item.createdAt ≠ createdAt ∨
          item.updatedAt ≠ now ∨ item.nextAttemptAt ≠ some now.val then
        (.error (stateFailure inconsistent), rows)
      else (.ok (some item), changed)

def enqueueWork (workKind workKey : PyStr) (now : Moment) (rows : List Row) : Outcome :=
  match validateIdentity workKind workKey with
  | .error failure => (.error failure, rows)
  | .ok () =>
    readBack fromisoformat workKind workKey (stateFailure "Unable to enqueue work") rows
      (some (if rows.any (·.named workKind workKey) then rows
        else rows ++ [pendingRow workKind workKey now]))

/-- `claim_work` and `claim_work_kind`, over the rows they choose from. -/
def claim (among : List Row) (now : Moment) (rows : List Row) : Outcome :=
  match earliest (among.filter (·.eligible now)) with
  | none => (.ok none, rows)
  | some row =>
    match workFromRow fromisoformat row with
    | .error failure => (.error failure, rows)
    | .ok item =>
      readBack fromisoformat item.workKind item.workKey
        (stateFailure "Work claim changed unexpectedly") rows
        (updateOne (·.matching item.workKind item.workKey item.status item.attempts)
          (fun row => row.set .running (row.attempts + 1) now none) rows)

def claimWork (now : Moment) (rows : List Row) : Outcome := claim fromisoformat rows now rows

/-- Its rows are all of one kind, so their order by it is no matter. -/
def claimWorkKind (workKind : PyStr) (now : Moment) (rows : List Row) : Outcome :=
  match validateKind workKind with
  | .error failure => (.error failure, rows)
  | .ok () => claim fromisoformat (rows.filter (·.workKind = workKind)) now rows

/-- `recover_interrupted_work`, and the same of one kind as the lanes have it. -/
def recoverInterruptedWork (kinds : PyStr → Bool) (now : Moment) (rows : List Row) : Outcome :=
  (.ok none, rows.map fun row =>
    if row.status = .running ∧ kinds row.workKind then row.set .retry row.attempts now (some now)
    else row)

/-- A transition of a claimed item. -/
def settle (refused unchanged : String) (item : Item) (change : Row → Row) (rows : List Row) :
    Outcome :=
  if item.status ≠ .running ∨ item.attempts < 1 then (.error (stateFailure refused), rows)
  else
    readBack fromisoformat item.workKind item.workKey (stateFailure unchanged) rows
      (updateOne (·.matching item.workKind item.workKey .running item.attempts) change rows)

/-- When work that failed is due again, where there is such a time. -/
def retryTime (attempts : Nat) (now : Moment) : Option Moment :=
  let due := now + min (60 * 2 ^ (attempts - 1)) maxWorkBackoffSeconds * 1000000
  if within : due < Calendar.limit then some ⟨due, within⟩ else none

def failWork (item : Item) (transient : Bool) (now : Moment) (rows : List Row) : Outcome :=
  let settled := settle fromisoformat "Only running work can fail"
    "Work transition changed unexpectedly" item
  if item.status = .running ∧ 1 ≤ item.attempts ∧ transient ∧ item.attempts < maxWorkAttempts then
    match retryTime item.attempts now with
    | some due => settled (fun row => row.set .retry row.attempts now (some due)) rows
    | none => (.error (stateFailure "date value out of range"), rows)
  else settled (fun row => row.set .blocked row.attempts now none) rows

def deferWork (item : Item) (now : Moment) (rows : List Row) : Outcome :=
  settle fromisoformat "Only running work can be deferred" "Work transition changed unexpectedly"
    item (fun row => row.set .pending 0 now (some now)) rows

def completeWork (item : Item) (now : Moment) (rows : List Row) : Outcome :=
  settle fromisoformat "Only running work can complete" "Work transition changed unexpectedly" item
    (fun row => row.set .succeeded row.attempts now none) rows

/-- `_schedule_at`, once the evidence of the observation window is proved. -/
def scheduleAt (item : Item) (deadline now : Moment) (rows : List Row) : Outcome :=
  settle fromisoformat "Candidate Core observation failed closed"
    "Candidate Core observation failed closed" item
    (fun row => row.set .retry 0 now (some deadline)) rows

def scheduleRoutineWork (workKind workKey : PyStr) (now : Moment) (rows : List Row) : Outcome :=
  let failed := stateFailure "routine work scheduling failed closed"
  let rearmed := rearm fromisoformat failed "routine work generation changed unexpectedly"
    "routine work durable state is inconsistent" workKind workKey now now rows
  match validateIdentity workKind workKey with
  | .error _ => (.error failed, rows)
  | .ok () =>
    match rows.find? (·.named workKind workKey) with
    | none => rearmed (some (rows ++ [pendingRow workKind workKey now]))
    | some row =>
      match workFromRow fromisoformat row with
      | .error _ => (.error failed, rows)
      | .ok existing =>
        if existing.status = .succeeded then
          rearmed (updateOne (·.matching workKind workKey .succeeded existing.attempts)
            (fun row => { row.set .pending 0 now (some now) with createdAt := isoText now }) rows)
        else (.ok (some existing), rows)

def retryBlockedWork (workKind workKey : PyStr) (now : Moment) (rows : List Row) : Outcome :=
  let failed := stateFailure "administrative retry failed closed"
  match validateIdentity workKind workKey with
  | .error _ => (.error failed, rows)
  | .ok () =>
    match rows.find? (·.named workKind workKey) with
    | none => (.error (stateFailure "administrative retry work item does not exist"), rows)
    | some row =>
      match workFromRow fromisoformat row with
      | .error _ => (.error failed, rows)
      | .ok blocked =>
        if blocked.status ≠ .blocked then
          (.error (stateFailure "only blocked work can be administratively retried"), rows)
        else
          rearm fromisoformat failed "administrative retry work item changed unexpectedly"
            "administrative retry durable state is inconsistent" workKind workKey
            blocked.createdAt now rows
            (updateOne (·.matching workKind workKey .blocked blocked.attempts)
              (fun row => row.set .pending 0 now (some now)) rows)

/-! ## Runs -/

inductive Call where
  | enqueueWork (workKind workKey : PyStr) (now : Moment)
  | claimWork (now : Moment)
  | claimWorkKind (workKind : PyStr) (now : Moment)
  | recoverInterruptedWork (kinds : PyStr → Bool) (now : Moment)
  | failWork (item : Item) (transient : Bool) (now : Moment)
  | deferWork (item : Item) (now : Moment)
  | completeWork (item : Item) (now : Moment)
  | scheduleAt (item : Item) (deadline now : Moment)
  | scheduleRoutineWork (workKind workKey : PyStr) (now : Moment)
  | retryBlockedWork (workKind workKey : PyStr) (now : Moment)

def perform : Call → List Row → Outcome
  | .enqueueWork workKind workKey now => enqueueWork fromisoformat workKind workKey now
  | .claimWork now => claimWork fromisoformat now
  | .claimWorkKind workKind now => claimWorkKind fromisoformat workKind now
  | .recoverInterruptedWork kinds now => recoverInterruptedWork kinds now
  | .failWork item transient now => failWork fromisoformat item transient now
  | .deferWork item now => deferWork fromisoformat item now
  | .completeWork item now => completeWork fromisoformat item now
  | .scheduleAt item deadline now => scheduleAt fromisoformat item deadline now
  | .scheduleRoutineWork workKind workKey now => scheduleRoutineWork fromisoformat workKind workKey now
  | .retryBlockedWork workKind workKey now => retryBlockedWork fromisoformat workKind workKey now

/-- The table after these calls, from an empty one. -/
def tableAfter (calls : List Call) : List Row :=
  calls.foldl (fun rows call => (perform fromisoformat call rows).2) []

/-! ## Rows that the operations write -/

/-- `fromisoformat` reads back what `isoformat` wrote. -/
def ReadsBack : Prop :=
  ∀ t < Calendar.limit, fromisoformat (Calendar.isoformat t) = some (.aware t)

/-- The text is that of a time in UTC. -/
def Stamp (value : PyStr) : Prop := ∃ now : Moment, value = isoText now

structure Row.Stamped (row : Row) : Prop where
  identity : validateIdentity row.workKind row.workKey = .ok ()
  createdAt : Stamp row.createdAt
  updatedAt : Stamp row.updatedAt
  nextAttemptAt : ∀ due, row.nextAttemptAt = some due → Stamp due

def Row.key (row : Row) : PyStr × PyStr := (row.workKind, row.workKey)

/-- The table keeps its primary key, and all its times are texts of times in UTC. -/
structure Written (rows : List Row) : Prop where
  unique : (rows.map Row.key).Nodup
  stamped : ∀ row ∈ rows, row.Stamped

variable {rows : List Row} {row : Row}

theorem Row.named_iff {workKind workKey : PyStr} :
    row.named workKind workKey = true ↔ row.key = (workKind, workKey) := by
  unfold Row.named Row.key
  simp [Prod.ext_iff]

/-! ### Keeping them so -/

/-- A change of a row that keeps its key and writes only times in UTC. -/
structure Restamps (change : Row → Row) : Prop where
  key : ∀ row, (change row).key = row.key
  stamped : ∀ row : Row, row.Stamped → (change row).Stamped

theorem restamps_set (status : WorkStatus) (attempts : Row → Nat) (now : Moment)
    (due : Option Moment) : Restamps fun row => row.set status (attempts row) now due where
  key _ := rfl
  stamped row stamped :=
    ⟨stamped.identity, stamped.createdAt, ⟨now, rfl⟩, fun text held => by
      obtain ⟨at_, -, rfl⟩ := Option.map_eq_some_iff.mp held
      exact ⟨at_, rfl⟩⟩

theorem restamps_generation (now : Moment) :
    Restamps fun row => { row.set .pending 0 now (some now) with createdAt := isoText now } where
  key _ := rfl
  stamped row stamped :=
    ⟨stamped.identity, ⟨now, rfl⟩, ⟨now, rfl⟩,
      ((restamps_set .pending (fun _ => 0) now (some now)).stamped row stamped).nextAttemptAt⟩

theorem Restamps.ite {change : Row → Row} (restamps : Restamps change) (p : Row → Prop)
    [DecidablePred p] : Restamps fun row => if p row then change row else row where
  key row := by
    split
    · exact restamps.key row
    · rfl
  stamped row stamped := by
    split
    · exact restamps.stamped row stamped
    · exact stamped

theorem Written.map (written : Written rows) {change : Row → Row} (restamps : Restamps change) :
    Written (rows.map change) := by
  constructor
  · rw [List.map_map]
    exact (List.map_congr_left fun row _ => restamps.key row) ▸ written.unique
  · intro row mem
    obtain ⟨old, there, rfl⟩ := List.mem_map.mp mem
    exact restamps.stamped old (written.stamped old there)

theorem Written.updateOne (written : Written rows) {matching : Row → Bool} {change : Row → Row}
    (restamps : Restamps change) {changed : List Row}
    (updated : updateOne matching change rows = some changed) : Written changed := by
  unfold WorkRows.updateOne at updated
  split at updated
  · cases updated
    exact written.map (restamps.ite _)
  · cases updated

theorem Written.append (written : Written rows) {workKind workKey : PyStr} (now : Moment)
    (identity : validateIdentity workKind workKey = .ok ())
    (fresh : ∀ row ∈ rows, ¬row.named workKind workKey) :
    Written (rows ++ [pendingRow workKind workKey now]) := by
  constructor
  · rw [List.map_append, List.nodup_append]
    refine ⟨written.unique, List.nodup_singleton _, ?_⟩
    rintro key mem other last rfl
    obtain ⟨row, there, named⟩ := List.mem_map.mp mem
    exact fresh row there (Row.named_iff.mpr (named.trans (List.mem_singleton.mp last)))
  · intro row mem
    rcases List.mem_append.mp mem with old | new
    · exact written.stamped row old
    · cases List.mem_singleton.mp new
      exact ⟨identity, ⟨now, rfl⟩, ⟨now, rfl⟩, fun due held => ⟨now, (Option.some.inj held).symm⟩⟩

section Keeping

variable {fromisoformat}

theorem readBack_rows (workKind workKey : PyStr) (failure : Failure) (rows : List Row)
    (committed : Option (List Row)) :
    (readBack fromisoformat workKind workKey failure rows committed).2 = committed.getD rows := by
  cases committed <;> rfl

variable (fromisoformat) in
theorem rearm_rows (failed : Failure) (unchanged inconsistent : String) (workKind workKey : PyStr)
    (createdAt : Nat) (now : Moment) (rows : List Row) (changed : Option (List Row)) :
    (rearm fromisoformat failed unchanged inconsistent workKind workKey createdAt now rows
        changed).2 = rows ∨
      changed = some (rearm fromisoformat failed unchanged inconsistent workKind workKey createdAt
        now rows changed).2 := by
  unfold rearm
  cases changed with
  | none => exact .inl rfl
  | some changed =>
    dsimp only
    split
    · exact .inl rfl
    · split
      · exact .inl rfl
      · exact .inr rfl

theorem Written.getD (written : Written rows) {committed : Option (List Row)}
    (kept : ∀ changed, committed = some changed → Written changed) :
    Written (committed.getD rows) := by
  cases committed with
  | none => exact written
  | some changed => exact kept changed rfl

theorem Written.settle (written : Written rows) {change : Row → Row} (restamps : Restamps change)
    (refused unchanged : String) (item : Item) :
    Written (settle fromisoformat refused unchanged item change rows).2 := by
  unfold WorkRows.settle
  split
  · exact written
  · rw [readBack_rows]
    exact written.getD fun changed => written.updateOne restamps

theorem Written.claim (written : Written rows) (among : List Row) (now : Moment) :
    Written (claim fromisoformat among now rows).2 := by
  unfold WorkRows.claim
  split
  · exact written
  · split
    · exact written
    · rw [readBack_rows]
      exact written.getD fun changed =>
        written.updateOne (restamps_set .running (·.attempts + 1) now none)

theorem Written.rearm (written : Written rows) {failed : Failure}
    {unchanged inconsistent : String} {workKind workKey : PyStr} {createdAt : Nat} {now : Moment}
    {changed : Option (List Row)} (kept : ∀ rows', changed = some rows' → Written rows') :
    Written (rearm fromisoformat failed unchanged inconsistent workKind workKey createdAt now rows
      changed).2 := by
  rcases rearm_rows fromisoformat failed unchanged inconsistent workKind workKey createdAt now rows
    changed with same | there
  · rw [same]
    exact written
  · exact kept _ there

theorem find_none {workKind workKey : PyStr} (absent : rows.find? (·.named workKind workKey) = none) :
    ∀ row ∈ rows, ¬row.named workKind workKey :=
  List.find?_eq_none.mp absent

/-- **Every operation keeps the times of the table texts of times in UTC.** -/
theorem Written.perform (written : Written rows) (call : Call) :
    Written (perform fromisoformat call rows).2 := by
  cases call with
  | enqueueWork workKind workKey now =>
    show Written (enqueueWork fromisoformat workKind workKey now rows).2
    unfold WorkRows.enqueueWork
    split
    · exact written
    next identity =>
      rw [readBack_rows]
      refine written.getD fun changed made => ?_
      cases made
      split
      · exact written
      next absent =>
        refine written.append now identity fun row mem named => absent ?_
        exact List.any_eq_true.mpr ⟨row, mem, named⟩
  | claimWork now => exact written.claim rows now
  | claimWorkKind workKind now =>
    show Written (claimWorkKind fromisoformat workKind now rows).2
    unfold WorkRows.claimWorkKind
    split
    · exact written
    · exact written.claim _ now
  | recoverInterruptedWork kinds now =>
    exact written.map ((restamps_set .retry (·.attempts) now (some now)).ite _)
  | failWork item transient now =>
    show Written (failWork fromisoformat item transient now rows).2
    unfold WorkRows.failWork
    dsimp only
    split
    · split
      next due _ => exact written.settle (restamps_set .retry (·.attempts) now (some due)) _ _ item
      next => exact written
    · exact written.settle (restamps_set .blocked (·.attempts) now none) _ _ item
  | deferWork item now =>
    exact written.settle (restamps_set .pending (fun _ => 0) now (some now)) _ _ item
  | completeWork item now =>
    exact written.settle (restamps_set .succeeded (·.attempts) now none) _ _ item
  | scheduleAt item deadline now =>
    exact written.settle (restamps_set .retry (fun _ => 0) now (some deadline)) _ _ item
  | scheduleRoutineWork workKind workKey now =>
    show Written (scheduleRoutineWork fromisoformat workKind workKey now rows).2
    unfold WorkRows.scheduleRoutineWork
    dsimp only
    split
    · exact written
    next identity =>
      split
      next absent =>
        refine written.rearm fun changed made => ?_
        cases made
        exact written.append now identity (find_none absent)
      next row found =>
        split
        · exact written
        · split
          · exact written.rearm fun changed => written.updateOne (restamps_generation now)
          · exact written
  | retryBlockedWork workKind workKey now =>
    show Written (retryBlockedWork fromisoformat workKind workKey now rows).2
    unfold WorkRows.retryBlockedWork
    dsimp only
    split
    · exact written
    · split
      · exact written
      next row found =>
        split
        · exact written
        · split
          · exact written
          · exact written.rearm fun changed =>
              written.updateOne (restamps_set .pending (fun _ => 0) now (some now))

variable (fromisoformat) in
theorem written_tableAfter (calls : List Call) : Written (tableAfter fromisoformat calls) := by
  unfold tableAfter
  have empty : Written [] := ⟨List.nodup_nil, fun _ mem => nomatch mem⟩
  generalize ([] : List Row) = rows at empty
  induction calls generalizing rows with
  | nil => exact empty
  | cons call calls ih => exact ih _ (empty.perform call)

end Keeping

/-! ## What a claim takes -/

/-- A row that is due at a time, and since when. -/
structure Due (now : Moment) (row : Row) (since : Moment) : Prop where
  waits : row.status = .pending ∨ row.status = .retry
  next : row.nextAttemptAt = some (isoText since)
  past : since ≤ now

/-- The claimed item of a row. -/
def claimedItem (row : Row) (createdAt : Nat) (now : Moment) : Item :=
  ⟨row.workKind, row.workKey, .running, row.attempts + 1, createdAt, now, none⟩

/-- What a claim among some rows of a table is: nothing where nothing is due; otherwise an item that
was due first, and the table with its row claimed. -/
structure ClaimsFirst (now : Moment) (among rows : List Row) (outcome : Outcome) : Prop where
  none_iff : outcome = (.ok none, rows) ↔ ∀ row ∈ among, ∀ since, ¬Due now row since
  first : outcome ≠ (.ok none, rows) → ∃ row ∈ among, ∃ since createdAt, Due now row since ∧
    (∀ other ∈ among, ∀ earlier, Due now other earlier → since ≤ earlier) ∧
    row.createdAt = isoText createdAt ∧ outcome = (.ok (some (claimedItem row createdAt now)),
      rows.map fun other => if other = row then row.set .running (row.attempts + 1) now none
        else other)

theorem isoText_lt {first second : Moment} : isoText first < isoText second ↔ first < second :=
  Calendar.isoformat_lt_iff first.2 second.2

theorem isoText_injective {first second : Moment} (same : isoText first = isoText second) :
    first = second := by
  rcases lt_trichotomy first second with less | equal | more
  · exact absurd (isoText_lt.mpr less) (same ▸ List.lt_irrefl _)
  · exact equal
  · exact absurd (isoText_lt.mpr more) (same ▸ List.lt_irrefl _)

/-- **What the query selects by texts is what is due.** -/
theorem eligible_iff {now : Moment} (stamped : row.Stamped) :
    row.eligible now = true ↔ ∃ since, Due now row since := by
  unfold Row.eligible
  rw [Bool.and_eq_true, Bool.or_eq_true, decide_eq_true_eq, decide_eq_true_eq, Option.any_eq_true]
  constructor
  · rintro ⟨waits, text, next, past⟩
    obtain ⟨since, rfl⟩ := stamped.nextAttemptAt text next
    rw [Bool.not_eq_true', decide_eq_false_iff_not, isoText_lt] at past
    exact ⟨since, waits, next, not_lt.mp past⟩
  · rintro ⟨since, waits, next, past⟩
    refine ⟨waits, isoText since, next, ?_⟩
    rw [Bool.not_eq_true', decide_eq_false_iff_not, isoText_lt]
    exact not_lt.mpr past

theorem earliest_eq_none {rows : List Row} : earliest rows = none ↔ rows = [] := by
  cases rows with
  | nil => exact iff_of_true rfl rfl
  | cons row rows =>
    refine iff_of_false (fun none => ?_) (List.cons_ne_nil _ _)
    unfold earliest at none
    split at none
    · cases none
    · split at none <;> cases none

/-- A row that comes before another is due no later, by the texts. -/
theorem before_le {first second : Row} {since later : Moment}
    (next : first.nextAttemptAt = some (isoText since))
    (next' : second.nextAttemptAt = some (isoText later)) :
    (first.before second = true → since ≤ later) ∧ (¬first.before second = true → later ≤ since) := by
  unfold Row.before
  simp only [next, next', Option.getD_some]
  by_cases same : isoText since = isoText later
  · have equal := isoText_injective same
    exact ⟨fun _ => le_of_eq equal, fun _ => le_of_eq equal.symm⟩
  · rw [if_pos same, decide_eq_true_eq, isoText_lt]
    exact ⟨le_of_lt, not_lt.mp⟩

theorem earliest_spec {rows : List Row} {row : Row} (found : earliest rows = some row)
    (timed : ∀ other ∈ rows, ∃ since, other.nextAttemptAt = some (isoText since)) :
    row ∈ rows ∧ ∀ since, row.nextAttemptAt = some (isoText since) →
      ∀ other ∈ rows, ∀ later, other.nextAttemptAt = some (isoText later) → since ≤ later := by
  induction rows generalizing row with
  | nil => cases found
  | cons head rows ih =>
    obtain ⟨here, later⟩ := List.forall_mem_cons.mp timed
    obtain ⟨start, next⟩ := here
    have alone : ∀ since, head.nextAttemptAt = some (isoText since) → since = start :=
      fun since held => isoText_injective (Option.some.inj (held.symm.trans next))
    unfold earliest at found
    cases rest : earliest rows with
    | none =>
      rw [rest] at found
      cases found
      rw [earliest_eq_none.mp rest]
      refine ⟨List.mem_cons_self, fun since held other mem later held' => ?_⟩
      cases List.mem_singleton.mp mem
      rw [alone since held, alone later held']
    | some other =>
      rw [rest] at found
      obtain ⟨mem, least⟩ := ih rest later
      obtain ⟨due, timedOther⟩ := later other mem
      have order := before_le timedOther next
      dsimp only at found
      split at found
      next before =>
        cases found
        refine ⟨List.mem_cons_of_mem _ mem, fun since held third there last held' => ?_⟩
        rcases List.mem_cons.mp there with rfl | there
        · rw [alone last held',
            isoText_injective (Option.some.inj (held.symm.trans timedOther))]
          exact order.1 before
        · exact least since held third there last held'
      next after =>
        cases found
        refine ⟨List.mem_cons_self, fun since held third there last held' => ?_⟩
        rw [alone since held]
        rcases List.mem_cons.mp there with rfl | there
        · rw [alone last held']
        · exact le_trans (order.2 after) (least due timedOther third there last held')

/-! ### The row that is claimed -/

section Claiming

variable {fromisoformat}

theorem parseTimestamp_isoText (reads : ReadsBack fromisoformat) (now : Moment) :
    parseTimestamp fromisoformat (isoText now) = .ok now := by
  unfold parseTimestamp
  rw [show fromisoformat (isoText now) = some (.aware now.val) from reads now now.2]
  have within := now.2
  dsimp only
  rw [if_pos (by omega), Int.toNat_natCast]

theorem workFromRow_stamped (reads : ReadsBack fromisoformat) (stamped : row.Stamped) :
    ∃ (createdAt updatedAt : Moment) (nextAttemptAt : Option Moment),
      row.createdAt = isoText createdAt ∧ row.updatedAt = isoText updatedAt ∧
        row.nextAttemptAt = nextAttemptAt.map isoText ∧ workFromRow fromisoformat row =
          .ok ⟨row.workKind, row.workKey, row.status, row.attempts, createdAt, updatedAt,
            nextAttemptAt.map (·.val)⟩ := by
  obtain ⟨createdAt, created⟩ := stamped.createdAt
  obtain ⟨updatedAt, updated⟩ := stamped.updatedAt
  unfold workFromRow
  rw [stamped.identity, created, updated]
  cases next : row.nextAttemptAt with
  | none =>
    refine ⟨createdAt, updatedAt, none, rfl, rfl, rfl, ?_⟩
    show (parseTimestamp fromisoformat (isoText createdAt) >>= fun created => _) = _
    rw [parseTimestamp_isoText reads, parseTimestamp_isoText reads]
    rfl
  | some due =>
    obtain ⟨since, rfl⟩ := stamped.nextAttemptAt due next
    refine ⟨createdAt, updatedAt, some since, rfl, rfl, rfl, ?_⟩
    show (parseTimestamp fromisoformat (isoText createdAt) >>= fun created => _) = _
    rw [parseTimestamp_isoText reads, parseTimestamp_isoText reads, parseOptional,
      parseTimestamp_isoText reads]
    rfl

/-- The rows of a key are one. -/
theorem filter_named (unique : (rows.map Row.key).Nodup) (mem : row ∈ rows) :
    rows.filter (·.named row.workKind row.workKey) = [row] := by
  induction rows with
  | nil => cases mem
  | cons head rows ih =>
    obtain ⟨fresh, unique⟩ := List.nodup_cons.mp unique
    rcases List.mem_cons.mp mem with rfl | there
    · rw [List.filter_cons_of_pos (Row.named_iff.mpr rfl), List.filter_eq_nil_iff.mpr]
      intro other held named
      exact fresh (List.mem_map.mpr ⟨other, held, Row.named_iff.mp named⟩)
    · have apart : ¬head.named row.workKind row.workKey := fun named =>
        fresh (List.mem_map.mpr ⟨row, there, (Row.named_iff.mp named).symm⟩)
      rw [List.filter_cons_of_neg apart, ih unique there]

/-- A row is updated by its key, its status and its attempts. -/
theorem updateOne_row (unique : (rows.map Row.key).Nodup) (mem : row ∈ rows)
    (change : Row → Row) :
    updateOne (·.matching row.workKind row.workKey row.status row.attempts) change rows =
      some (rows.map fun other => if other = row then change row else other) := by
  have only : ∀ other ∈ rows,
      other.matching row.workKind row.workKey row.status row.attempts = true ↔ other = row := by
    intro other held
    constructor
    · intro matched
      unfold Row.matching at matched
      rw [Bool.and_eq_true, Bool.and_eq_true] at matched
      have there : other ∈ rows.filter (·.named row.workKind row.workKey) :=
        List.mem_filter.mpr ⟨held, matched.1.1⟩
      rw [filter_named unique mem] at there
      exact List.mem_singleton.mp there
    · rintro rfl
      simp [Row.matching, Row.named]
  have once : rows.countP (·.matching row.workKind row.workKey row.status row.attempts) = 1 := by
    have distinct : rows.Nodup := List.Nodup.of_map _ unique
    rw [← List.count_eq_one_of_mem distinct mem, List.count]
    refine List.countP_congr fun other held => ?_
    rw [only other held, beq_iff_eq]
  unfold updateOne
  rw [if_pos once]
  congr 1
  refine List.map_congr_left fun other held => ?_
  by_cases same : other = row
  · rw [if_pos ((only other held).mpr same), if_pos same, same]
  · rw [if_neg fun matched => same ((only other held).mp matched), if_neg same]

/-- **A claim takes a row that was due first.** -/
theorem claim_first (reads : ReadsBack fromisoformat) (written : Written rows) {among : List Row}
    (within : ∀ row ∈ among, row ∈ rows) (now : Moment) :
    ClaimsFirst now among rows (claim fromisoformat among now rows) := by
  have due {row : Row} : row ∈ among.filter (·.eligible now) ↔
      row ∈ among ∧ ∃ since, Due now row since := by
    rw [List.mem_filter]
    exact and_congr_right fun mem => eligible_iff (written.stamped row (within row mem))
  unfold claim
  cases found : earliest (among.filter (·.eligible now)) with
  | none =>
    dsimp only
    refine ⟨iff_of_true rfl fun row mem since held => ?_, fun other => absurd rfl other⟩
    have there := due.mpr ⟨mem, since, held⟩
    rw [earliest_eq_none.mp found] at there
    cases there
  | some row =>
    obtain ⟨mem, least⟩ := earliest_spec found fun other held =>
      (due.mp held).2.imp fun since late => late.next
    obtain ⟨chosen, since, late⟩ := due.mp mem
    have held := within row chosen
    have stamped := written.stamped row held
    obtain ⟨createdAt, updatedAt, nextAttemptAt, created, -, -, decoded⟩ :=
      workFromRow_stamped reads stamped
    have updated := updateOne_row written.unique held
      fun row => row.set .running (row.attempts + 1) now none
    have changed := written.updateOne (restamps_set .running (·.attempts + 1) now none) updated
    generalize answered : (rows.map fun other =>
      if other = row then row.set .running (row.attempts + 1) now none else other) = rows'
      at updated changed
    have there : row.set .running (row.attempts + 1) now none ∈ rows' := by
      rw [← answered]
      exact List.mem_map.mpr ⟨row, held, if_pos rfl⟩
    have read : getWork fromisoformat row.workKind row.workKey rows' =
        .ok (claimedItem row createdAt now) := by
      obtain ⟨createdAt', updatedAt', next', created', updated', timed, decoded'⟩ :=
        workFromRow_stamped reads (changed.stamped _ there)
      have only := filter_named changed.unique there
      unfold getWork
      rw [show rows'.filter (·.named row.workKind row.workKey) =
        [row.set .running (row.attempts + 1) now none] from only]
      dsimp only
      rw [decoded']
      obtain rfl : createdAt = createdAt' := isoText_injective (created.symm.trans created')
      obtain rfl : now = updatedAt' := isoText_injective updated'
      obtain rfl : next' = none := by
        cases next' with
        | none => rfl
        | some due => cases timed
      rfl
    have outcome : readBack fromisoformat row.workKind row.workKey
        (stateFailure "Work claim changed unexpectedly") rows
        (updateOne (·.matching row.workKind row.workKey row.status row.attempts)
          (fun row => row.set .running (row.attempts + 1) now none) rows) =
        (.ok (some (claimedItem row createdAt now)), rows') := by
      rw [updated, readBack, read]
      rfl
    dsimp only
    rw [decoded]
    dsimp only
    rw [outcome]
    refine ⟨iff_of_false (fun same => ?_) fun none => none row chosen since late, fun _ => ?_⟩
    · cases (Prod.ext_iff.mp same).1
    · exact ⟨row, chosen, since, createdAt, late,
        fun other mem' earlier early => least since late.next other
          (due.mpr ⟨mem', earlier, early⟩) earlier early.next, created, by rw [answered]⟩

/-- **The order of the queue is that of time.** After any operations of the store, a claim takes
nothing exactly where nothing is due, and otherwise an item that was due first; a claim of one kind
does so among the items of that kind. -/
theorem claim_chronological (reads : ReadsBack fromisoformat) (calls : List Call) (now : Moment) :
    ClaimsFirst now (tableAfter fromisoformat calls) (tableAfter fromisoformat calls)
        (claimWork fromisoformat now (tableAfter fromisoformat calls)) ∧
      ∀ workKind, isWorkKind workKind = true →
        ClaimsFirst now ((tableAfter fromisoformat calls).filter (·.workKind = workKind))
          (tableAfter fromisoformat calls)
          (claimWorkKind fromisoformat workKind now (tableAfter fromisoformat calls)) := by
  have written := written_tableAfter fromisoformat calls
  refine ⟨claim_first reads written (fun _ mem => mem) now, fun workKind valid => ?_⟩
  have within : ∀ row ∈ (tableAfter fromisoformat calls).filter (·.workKind = workKind),
      row ∈ tableAfter fromisoformat calls := fun row mem => (List.mem_filter.mp mem).1
  have chosen := claim_first reads written within now
  unfold claimWorkKind validateKind
  rw [if_pos valid]
  exact chosen

end Claiming

/-- `fromisoformat` of the texts that `isoformat` writes in UTC. -/
def readIsoformat (value : PyStr) : Option DateTime :=
  (Calendar.parseIsoformat value).map fun t => .aware t

theorem readIsoformat_reads : ReadsBack readIsoformat := fun t within => by
  unfold readIsoformat
  rw [Calendar.parseIsoformat_isoformat within]
  rfl

/-- Half a second before the second day, and at its start: texts of two widths. -/
def twoWidths : List Call :=
  [.enqueueWork (text "candidate") (text "b") ⟨86400000000, by decide⟩,
    .enqueueWork (text "candidate") (text "a") ⟨86399500000, by decide⟩]

theorem claim_across_widths :
    ClaimsFirst ⟨86400000000, by decide⟩ (tableAfter readIsoformat twoWidths)
        (tableAfter readIsoformat twoWidths)
        (claimWork readIsoformat ⟨86400000000, by decide⟩ (tableAfter readIsoformat twoWidths)) ∧
      (claimWork readIsoformat ⟨86400000000, by decide⟩ (tableAfter readIsoformat twoWidths)).1 =
        .ok (some ⟨text "candidate", text "a", .running, 1, 86399500000, 86400000000, none⟩) :=
  ⟨(claim_chronological readIsoformat_reads twoWidths ⟨86400000000, by decide⟩).1,
    by decide +kernel⟩

end WorkRows

end SyncApp
