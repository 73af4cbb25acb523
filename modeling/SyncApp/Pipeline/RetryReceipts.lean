import SyncApp.Lib.Transaction
import SyncApp.Records.Columns

/-!
# Receipts of administrative retries

A request to retry one blocked item is consumed in a transaction: it resets the item where it is
blocked, and records the outcome under the request's identifier. The process may be killed after any
of its statements, and the same request comes again at each boot.

Once an outcome is recorded, a request with that identifier changes nothing: with the same identity
it returns the outcome that was recorded, with another it raises. So each identifier resets its item
at most once over a run (`retry_one_shot`).

SHA-256 is a parameter, and so is `datetime.fromisoformat`. A key with half of a surrogate pair
cannot be bound to a statement, and no request has one.
-/

set_option autoImplicit false

namespace SyncApp

open Lib

namespace RetryReceipts

open Session (query execute atomically)
open WorkRows (Row Item Moment)

/-! ## Tables -/

/-- A row of `administrative_retry_request`. -/
structure ReceiptRow where
  requestId : PyStr
  identitySha256 : PyStr
  outcome : PyStr
  processedAt : PyStr
  recordSha256 : PyStr
deriving DecidableEq

structure Tables where
  work : List Row
  receipts : List ReceiptRow
deriving DecidableEq

/-- `AdministrativeRetryRequest`. -/
structure Request where
  requestId : PyStr
  workKind : PyStr
  workKey : PyStr
  bindable : ∀ c ∈ workKey, Utf8.Scalar c

/-- `AdministrativeRetryReceipt`. -/
structure Receipt where
  requestId : PyStr
  identitySha256 : PyStr
  outcome : PyStr
  processedAt : Nat
  recordSha256 : PyStr
deriving DecidableEq

/-- `AdministrativeRetryResult`. -/
structure Result where
  outcome : PyStr
  replayed : Bool
deriving DecidableEq

def retried : PyStr := text "retried"

def rejected : PyStr := text "rejected"

def failedClosed : Failure := ⟨"administrative retry request failed closed", false⟩

/-- Whatever is raised is raised as a request that failed closed. -/
def closed {α : Type} (result : Except Failure α) : Except Failure α :=
  result.mapError fun _ => failedClosed

/-- `_validate_request_id`: a UUID of version 4 as Python writes it. -/
def isRequestId (value : PyStr) : Bool :=
  ObservationChain.isDeploymentId value && value[14]? = some 52 &&
    value[19]?.any [56, 57, 97, 98].contains

/-- `_validate_request`. -/
def Request.valid (request : Request) : Bool :=
  isRequestId request.requestId && isWorkKind request.workKind && isWorkKey request.workKey

/-- Two requests are for the same item. -/
def Request.SameItem (first second : Request) : Prop :=
  second.workKind = first.workKind ∧ second.workKey = first.workKey

def Request.identity (request : Request) : List UInt8 :=
  Utf8.encode (JsonText.write true (.arr [.str request.workKind, .str request.workKey]))

section

variable (sha256 : List UInt8 → PyStr) (fromisoformat : PyStr → Option DateTime)

/-- `_identity_digest`. -/
def Request.identitySha256 (request : Request) : PyStr := sha256 request.identity

/-- `_receipt_digest`. -/
def receiptDigest (requestId identitySha256 outcome : PyStr) (processedAt : Nat) : PyStr :=
  sha256 (Utf8.encode (JsonText.write true (.arr [.int 1, .str requestId, .str identitySha256,
    .str outcome, .str (Calendar.isoformat processedAt)])))

/-! ## Receipts -/

def readReceipt (row : ReceiptRow) : Except Failure Receipt :=
  if isRequestId row.requestId && Records.isHash row.identitySha256 &&
      [retried, rejected].contains row.outcome && Records.isHash row.recordSha256 then
    match WorkRows.parseTimestamp fromisoformat row.processedAt with
    | .ok time =>
      if row.recordSha256 =
          receiptDigest sha256 row.requestId row.identitySha256 row.outcome time then
        .ok ⟨row.requestId, row.identitySha256, row.outcome, time, row.recordSha256⟩
      else .error failedClosed
    | .error _ => .error failedClosed
  else .error failedClosed

/-- `_load_receipt`. -/
def loadReceipt (requestId : PyStr) (receipts : List ReceiptRow) :
    Except Failure (Option Receipt) :=
  match receipts.filter (·.requestId = requestId) with
  | [] => .ok none
  | [row] => (readReceipt sha256 fromisoformat row).map some
  | _ => .error failedClosed

/-- `_new_receipt`. -/
def newReceipt (request : Request) (outcome : PyStr) (now : Moment) : Receipt :=
  ⟨request.requestId, request.identitySha256 sha256, outcome, now,
    receiptDigest sha256 request.requestId (request.identitySha256 sha256) outcome now⟩

def Receipt.row (receipt : Receipt) : ReceiptRow :=
  ⟨receipt.requestId, receipt.identitySha256, receipt.outcome,
    Calendar.isoformat receipt.processedAt, receipt.recordSha256⟩

/-! ## Statements -/

/-- `INSERT INTO administrative_retry_request`, whose key is the identifier. -/
def insertReceipt (receipt : Receipt) (tables : Tables) : Except Failure Tables :=
  if tables.receipts.any (·.requestId = receipt.requestId) then .error failedClosed
  else .ok { tables with receipts := tables.receipts ++ [receipt.row] }

/-- The receipt is there as it was meant. -/
def checkReceipt (receipt : Receipt) (tables : Tables) : Except Failure Unit := do
  let persisted ← loadReceipt sha256 fromisoformat receipt.requestId tables.receipts
  if persisted = some receipt then return () else throw failedClosed

/-- The item of a request, where it is blocked. -/
def findBlocked (request : Request) (tables : Tables) : Except Failure (Option Item) :=
  match tables.work.find? (·.named request.workKind request.workKey) with
  | none => .ok none
  | some row => closed do
    let item ← WorkRows.workFromRow fromisoformat row
    return if item.status = .blocked then some item else none

/-- `UPDATE work`. -/
def rearm (request : Request) (blocked : Item) (now : Moment) (tables : Tables) :
    Except Failure Tables :=
  match WorkRows.updateOne
      (·.matching request.workKind request.workKey .blocked blocked.attempts)
      (fun row => row.set .pending 0 now (some now)) tables.work with
  | none => .error failedClosed
  | some work => .ok { tables with work := work }

/-- The item is as it was meant. -/
def checkRearmed (request : Request) (blocked : Item) (now : Moment) (tables : Tables) :
    Except Failure Unit := closed do
  let item ← WorkRows.getWork fromisoformat request.workKind request.workKey tables.work
  if item.status ≠ .pending ∨ item.attempts ≠ 0 ∨ item.createdAt ≠ blocked.createdAt ∨
      item.updatedAt ≠ now ∨ item.nextAttemptAt ≠ some now.val then throw failedClosed
  else return ()

/-! ## A request -/

def writeReceipt (receipt : Receipt) : Raising Failure Tables Unit := do
  execute (insertReceipt receipt)
  query (checkReceipt sha256 fromisoformat receipt)

/-- A request that was not consumed before. -/
def consume (request : Request) (now : Moment) : Raising Failure Tables Result := do
  let blocked : Option Item ← query (findBlocked fromisoformat request)
  match blocked with
  | none => do
    writeReceipt sha256 fromisoformat (newReceipt sha256 request rejected now)
    return ⟨rejected, false⟩
  | some item => do
    execute (rearm request item now)
    writeReceipt sha256 fromisoformat (newReceipt sha256 request retried now)
    query (checkRearmed fromisoformat request item now)
    return ⟨retried, false⟩

def attempt (request : Request) (now : Moment) : Raising Failure Tables Result := do
  let existing : Option Receipt ←
    query fun tables => loadReceipt sha256 fromisoformat request.requestId tables.receipts
  match existing with
  | some receipt =>
    if receipt.identitySha256 = request.identitySha256 sha256 then return ⟨receipt.outcome, true⟩
    else throw failedClosed
  | none => consume sha256 fromisoformat request now

/-- `apply_administrative_retry_request`. -/
def applyRequest (request : Request) (now : Moment) : Raising Failure (Session Tables) Result :=
  if request.valid then atomically (attempt sha256 fromisoformat request now)
  else throw failedClosed

/-! ## Runs -/

/-- What happens: a request, which may be killed after a number of actions, or anything to the work
table. -/
inductive Event where
  | request (request : Request) (now : Moment) (killedAfter : Option Nat)
  | work (rows : List Row)

/-- A request of a run: what it answered, if it came to that, and the tables before and after it. -/
structure Entry where
  request : Request
  now : Moment
  answer : Option (Except Failure Result)
  before : Tables
  after : Tables

def call (request : Request) (now : Moment) (killedAfter : Option Nat) (tables : Tables) : Entry :=
  match killedAfter with
  | none =>
    let (answer, session) :=
      (applyRequest sha256 fromisoformat request now).eval (Session.rest tables)
    ⟨request, now, some answer, tables, session.committed⟩
  | some actions =>
    let (_, session) :=
      (applyRequest sha256 fromisoformat request now).run.advance actions (Session.rest tables)
    ⟨request, now, none, tables, session.crash.committed⟩

/-- What a run is asked for. -/
def requests : List Event → List Request
  | [] => []
  | .work _ :: events => requests events
  | .request request _ _ :: events => request :: requests events

/-- The requests of a run, in order, with what they came to. -/
def entries : Tables → List Event → List Entry
  | _, [] => []
  | tables, .work rows :: events => entries { tables with work := rows } events
  | tables, .request request now killedAfter :: events =>
    let entry := call sha256 fromisoformat request now killedAfter tables
    entry :: entries entry.after events

end

/-! ## What a transaction comes to -/

section

variable {sha256 : List UInt8 → PyStr} {fromisoformat : PyStr → Option DateTime}
  {request : Request} {now : Moment} {tables tables' : Tables} {result : Result}

open Raising

theorem execute_eq_ok {change : Tables → Except Failure Tables}
    (ran : (execute change).eval tables = (.ok (), tables')) : change tables = .ok tables' := by
  unfold execute at ran
  rw [eval_action] at ran
  split at ran
  next changed same =>
    rw [same]
    exact congrArg Except.ok (Prod.ext_iff.mp ran).2
  next => cases ran

theorem query_eq_ok {α : Type} {read : Tables → Except Failure α} {a : α}
    (ran : (query read).eval tables = (.ok a, tables')) : read tables = .ok a ∧ tables' = tables :=
  ⟨(Prod.ext_iff.mp ran).1, (Prod.ext_iff.mp ran).2.symm⟩

/-- Receipts of other requests are loaded as they were. -/
theorem loadReceipt_append {receipts : List ReceiptRow} {row : ReceiptRow} {requestId : PyStr}
    (apart : row.requestId ≠ requestId) :
    loadReceipt sha256 fromisoformat requestId (receipts ++ [row]) =
      loadReceipt sha256 fromisoformat requestId receipts := by
  unfold loadReceipt
  rw [List.filter_append, List.filter_singleton, decide_eq_false apart, cond_false, List.append_nil]

/-- A receipt that was written is there, and is loaded as it was meant. -/
theorem writeReceipt_eq_ok {receipt : Receipt}
    (ran : (writeReceipt sha256 fromisoformat receipt).eval tables = (.ok (), tables')) :
    tables' = { tables with receipts := tables.receipts ++ [receipt.row] } ∧
      loadReceipt sha256 fromisoformat receipt.requestId tables'.receipts = .ok (some receipt) := by
  obtain ⟨⟨⟩, inserted, wrote, checked⟩ := eval_bind_eq_ok.mp ran
  obtain ⟨fine, rfl⟩ := query_eq_ok checked
  have made := execute_eq_ok wrote
  unfold insertReceipt at made
  split at made
  next => cases made
  next =>
    cases made
    obtain ⟨persisted, loaded, rest⟩ := bind_eq_ok.mp fine
    split at rest
    next same => exact ⟨rfl, same ▸ loaded⟩
    next => cases rest

/-- The one item of a request was blocked, and is pending. -/
def Rearmed (request : Request) (now : Moment) (before after : List Row) : Prop :=
  ∃ front row back, before = front ++ row :: back ∧
    row.named request.workKind request.workKey = true ∧ row.status = .blocked ∧
    after = front ++ row.set .pending 0 now (some now) :: back

theorem updateOne_eq_some {matching : Row → Bool} {change : Row → Row} {rows changed : List Row}
    (updated : WorkRows.updateOne matching change rows = some changed) :
    ∃ front row back, rows = front ++ row :: back ∧ matching row = true ∧
      changed = front ++ change row :: back := by
  unfold WorkRows.updateOne at updated
  split at updated
  next only =>
    cases updated
    induction rows with
    | nil => cases only
    | cons row rows ih =>
      cases here : matching row with
      | true =>
        rw [List.countP_cons_of_pos here, Nat.succ_inj] at only
        refine ⟨[], row, rows, rfl, here, ?_⟩
        rw [List.map_cons, if_pos here]
        refine congrArg _ ?_
        refine (List.map_congr_left fun other mem => ?_).trans (List.map_id rows)
        exact if_neg (List.countP_eq_zero.mp only other mem)
      | false =>
        rw [List.countP_cons_of_neg (by rw [here]; exact Bool.false_ne_true)] at only
        obtain ⟨front, found, back, rfl, matches_, same⟩ := ih only
        refine ⟨row :: front, found, back, rfl, matches_, ?_⟩
        rw [List.map_cons, if_neg (by rw [here]; exact Bool.false_ne_true), same]
        rfl
  next => cases updated

theorem rearm_eq_ok {blocked : Item} (rearmed : rearm request blocked now tables = .ok tables') :
    Rearmed request now tables.work tables'.work ∧ tables'.receipts = tables.receipts := by
  unfold rearm at rearmed
  split at rearmed
  next => cases rearmed
  next work updated =>
    cases rearmed
    obtain ⟨front, row, back, before, matching, after⟩ := updateOne_eq_some updated
    unfold WorkRows.Row.matching at matching
    rw [Bool.and_eq_true, Bool.and_eq_true, decide_eq_true_eq] at matching
    exact ⟨⟨front, row, back, before, matching.1.1, matching.1.2, after⟩, rfl⟩

/-- What a request does that is consumed. -/
structure Consumed (sha256 : List UInt8 → PyStr) (fromisoformat : PyStr → Option DateTime)
    (request : Request) (now : Moment) (outcome : PyStr) (before after : Tables) : Prop where
  receipts : after.receipts = before.receipts ++ [(newReceipt sha256 request outcome now).row]
  known : loadReceipt sha256 fromisoformat request.requestId after.receipts =
    .ok (some (newReceipt sha256 request outcome now))
  work : outcome = rejected ∧ after.work = before.work ∨
    outcome = retried ∧ Rearmed request now before.work after.work

theorem consume_eq_ok
    (ran : (consume sha256 fromisoformat request now).eval tables = (.ok result, tables')) :
    result.replayed = false ∧
      Consumed sha256 fromisoformat request now result.outcome tables tables' := by
  obtain ⟨blocked, unchanged, found, rest⟩ := eval_bind_eq_ok.mp ran
  obtain ⟨-, rfl⟩ := query_eq_ok found
  cases blocked with
  | none =>
    obtain ⟨⟨⟩, written, wrote, rest⟩ := eval_bind_eq_ok.mp rest
    obtain ⟨rfl, known⟩ := writeReceipt_eq_ok wrote
    cases rest
    exact ⟨rfl, rfl, known, .inl ⟨rfl, rfl⟩⟩
  | some item =>
    obtain ⟨⟨⟩, rearmed, updated, rest⟩ := eval_bind_eq_ok.mp rest
    obtain ⟨⟨⟩, written, wrote, rest⟩ := eval_bind_eq_ok.mp rest
    obtain ⟨⟨⟩, checked, fine, last⟩ := eval_bind_eq_ok.mp rest
    obtain ⟨-, rfl⟩ := query_eq_ok fine
    cases last
    obtain ⟨exactly, receipts⟩ := rearm_eq_ok (execute_eq_ok updated)
    obtain ⟨rfl, known⟩ := writeReceipt_eq_ok wrote
    exact ⟨rfl, congrArg (· ++ _) receipts, known, .inr ⟨rfl, exactly⟩⟩

/-- A request that is new is consumed. -/
theorem attempt_unknown
    (unknown : loadReceipt sha256 fromisoformat request.requestId tables.receipts = .ok none) :
    (attempt sha256 fromisoformat request now).eval tables =
      (consume sha256 fromisoformat request now).eval tables :=
  (eval_bind_ok (congrArg (·, tables) unknown)).trans rfl

/-- A request whose outcome is recorded changes nothing. -/
theorem attempt_known {receipt : Receipt}
    (known : loadReceipt sha256 fromisoformat request.requestId tables.receipts =
      .ok (some receipt)) :
    (attempt sha256 fromisoformat request now).eval tables =
      (if receipt.identitySha256 = request.identitySha256 sha256 then
        .ok ⟨receipt.outcome, true⟩ else .error failedClosed, tables) := by
  refine (eval_bind_ok (congrArg (·, tables) known)).trans ?_
  dsimp only
  split <;> rfl

theorem attempt_failed {failure : Failure}
    (failed : loadReceipt sha256 fromisoformat request.requestId tables.receipts =
      .error failure) :
    (attempt sha256 fromisoformat request now).eval tables = (.error failure, tables) :=
  eval_bind_error (congrArg (·, tables) failed)

/-! ## What a request comes to -/

/-- A call that is not killed. -/
theorem call_ends (valid : request.valid = true) :
    call sha256 fromisoformat request now none tables =
      match (attempt sha256 fromisoformat request now).eval tables with
      | (.ok result, after) => ⟨request, now, some (.ok result), tables, after⟩
      | (.error failure, _) => ⟨request, now, some (.error failure), tables, tables⟩ := by
  unfold call applyRequest
  rw [if_pos valid]
  dsimp only
  rw [Session.eval_atomically]
  rcases (attempt sha256 fromisoformat request now).eval tables with ⟨result, after⟩
  cases result <;> rfl

theorem call_invalid (invalid : request.valid = false) :
    call sha256 fromisoformat request now none tables =
      ⟨request, now, some (.error failedClosed), tables, tables⟩ := by
  unfold call applyRequest
  rw [invalid, if_neg Bool.false_ne_true]
  rfl

/-- A call that is killed leaves the tables as they were, or as it would have left them. -/
theorem call_killed (actions : Nat) :
    ∃ after, call sha256 fromisoformat request now (some actions) tables =
        ⟨request, now, none, tables, after⟩ ∧
      (after = tables ∨ after = (call sha256 fromisoformat request now none tables).after) := by
  refine ⟨_, rfl, ?_⟩
  unfold call applyRequest
  dsimp only
  split
  next =>
    exact (Session.crash_atomically _ tables actions).imp (congrArg Session.committed)
      fun ended => (congrArg Session.committed ended).trans rfl
  next =>
    left
    cases actions <;> rfl

/-- What a request of a run comes to: nothing, or it is consumed. -/
inductive Comes (sha256 : List UInt8 → PyStr) (fromisoformat : PyStr → Option DateTime)
    (e : Entry) : Prop where
  | unchanged (same : e.after = e.before)
  | consumed (outcome : PyStr) (valid : e.request.valid = true)
      (unknown : loadReceipt sha256 fromisoformat e.request.requestId e.before.receipts = .ok none)
      (consumed : Consumed sha256 fromisoformat e.request e.now outcome e.before e.after)
      (answered : ∀ answer ∈ e.answer, answer = .ok ⟨outcome, false⟩)

theorem call_comes (killedAfter : Option Nat) :
    Comes sha256 fromisoformat (call sha256 fromisoformat request now killedAfter tables) := by
  have whole : Comes sha256 fromisoformat (call sha256 fromisoformat request now none tables) := by
    cases valid : request.valid with
    | false =>
      rw [call_invalid valid]
      exact .unchanged rfl
    | true =>
      rw [call_ends valid]
      split
      next result after ran =>
        cases loaded : loadReceipt sha256 fromisoformat request.requestId tables.receipts with
        | error failure =>
          rw [attempt_failed loaded] at ran
          cases ran
        | ok existing =>
          cases existing with
          | some receipt =>
            rw [attempt_known loaded] at ran
            exact .unchanged (Prod.ext_iff.mp ran).2.symm
          | none =>
            rw [attempt_unknown loaded] at ran
            obtain ⟨first, consumed⟩ := consume_eq_ok ran
            refine .consumed result.outcome valid loaded consumed fun answer there => ?_
            cases there
            rw [← first]
      next => exact .unchanged rfl
  cases killedAfter with
  | none => exact whole
  | some actions =>
    obtain ⟨after, made, same | same⟩ :=
      @call_killed sha256 fromisoformat request now tables actions
    · rw [made]
      exact .unchanged same
    · rw [made]
      cases whole with
      | unchanged still => exact .unchanged (same.trans still)
      | consumed outcome valid unknown consumed answered =>
        rw [← same] at consumed
        exact .consumed outcome valid unknown consumed fun answer there => nomatch there

/-- A request whose outcome is recorded changes nothing, and is answered by the record. -/
theorem call_known {receipt : Receipt} (killedAfter : Option Nat)
    (known : loadReceipt sha256 fromisoformat request.requestId tables.receipts =
      .ok (some receipt)) :
    (call sha256 fromisoformat request now killedAfter tables).after = tables ∧
      ∀ answer ∈ (call sha256 fromisoformat request now killedAfter tables).answer, answer =
        if request.valid = true ∧ receipt.identitySha256 = request.identitySha256 sha256 then
          .ok ⟨receipt.outcome, true⟩
        else .error failedClosed := by
  have whole : call sha256 fromisoformat request now none tables = ⟨request, now, some (
      if request.valid = true ∧ receipt.identitySha256 = request.identitySha256 sha256 then
        .ok ⟨receipt.outcome, true⟩ else .error failedClosed), tables, tables⟩ := by
    cases valid : request.valid with
    | false =>
      rw [call_invalid valid, if_neg (fun both => Bool.false_ne_true both.1)]
    | true =>
      rw [call_ends valid, attempt_known known]
      by_cases same : receipt.identitySha256 = request.identitySha256 sha256
      · rw [if_pos same, if_pos ⟨rfl, same⟩]
      · rw [if_neg same, if_neg fun both => same both.2]
  cases killedAfter with
  | some actions =>
    obtain ⟨after, made, same⟩ := @call_killed sha256 fromisoformat request now tables actions
    rw [whole] at same
    rw [made]
    exact ⟨same.elim id id, fun answer there => nomatch there⟩
  | none =>
    rw [whole]
    exact ⟨rfl, fun answer there => (Option.some.inj there).symm⟩

/-! ## Runs -/

/-- What is recorded stays recorded. -/
theorem known_after {requestId : PyStr} {receipt : Receipt} (killedAfter : Option Nat)
    (known : loadReceipt sha256 fromisoformat requestId tables.receipts = .ok (some receipt)) :
    loadReceipt sha256 fromisoformat requestId
      (call sha256 fromisoformat request now killedAfter tables).after.receipts =
        .ok (some receipt) := by
  by_cases same : request.requestId = requestId
  · rw [(call_known killedAfter (same ▸ known)).1]
    exact known
  · cases @call_comes sha256 fromisoformat request now tables killedAfter with
    | unchanged still =>
      rw [still]
      cases killedAfter <;> exact known
    | consumed outcome valid unknown consumed answered =>
      rw [consumed.receipts, loadReceipt_append]
      · cases killedAfter <;> exact known
      · cases killedAfter <;> exact same

/-- The requests of a run are those of its events, each on the tables it found. -/
theorem entries_calls {events : List Event} :
    ∀ e ∈ entries sha256 fromisoformat tables events, e.request ∈ requests events ∧
      ∃ killedAfter, e = call sha256 fromisoformat e.request e.now killedAfter e.before := by
  induction events generalizing tables with
  | nil => exact fun e mem => nomatch mem
  | cons event events ih =>
    cases event with
    | work rows => exact ih
    | request request now killedAfter =>
      refine List.forall_mem_cons.mpr ⟨⟨?_, killedAfter, ?_⟩, fun e mem => ?_⟩
      · cases killedAfter <;> exact List.mem_cons_self
      · cases killedAfter <;> rfl
      · exact ⟨List.mem_cons_of_mem _ (ih e mem).1, (ih e mem).2⟩

/-- So every later request of the run finds it. -/
theorem known_along {requestId : PyStr} {receipt : Receipt} {events : List Event}
    (known : loadReceipt sha256 fromisoformat requestId tables.receipts = .ok (some receipt)) :
    ∀ e ∈ entries sha256 fromisoformat tables events,
      loadReceipt sha256 fromisoformat requestId e.before.receipts = .ok (some receipt) := by
  induction events generalizing tables with
  | nil => exact fun e mem => nomatch mem
  | cons event events ih =>
    cases event with
    | work rows => exact ih known
    | request request now killedAfter =>
      refine List.forall_mem_cons.mpr ⟨?_, ih (known_after killedAfter known)⟩
      cases killedAfter <;> exact known

/-! ## One identity, one item -/

theorem isWorkKind_scalar {workKind : PyStr} (kind : isWorkKind workKind = true) :
    ∀ c ∈ workKind, Utf8.Scalar c := by
  intro c mem
  refine Utf8.scalar_of_ascii ?_
  unfold isWorkKind at kind
  cases workKind with
  | nil => cases mem
  | cons first rest =>
    simp only [Bool.and_eq_true, decide_eq_true_eq, List.all_eq_true, Bool.or_eq_true,
      beq_iff_eq] at kind
    rcases List.mem_cons.mp mem with rfl | later
    · omega
    · have := kind.2 c later
      omega

/-- Valid requests of one identity are for one item. -/
theorem sameItem_of_identity {first second : Request} (valid : first.valid = true)
    (valid' : second.valid = true) (same : second.identity = first.identity) :
    first.SameItem second := by
  have plain : ∀ request : Request, request.valid = true →
      JsonText.Plain (.arr [.str request.workKind, .str request.workKey]) := by
    intro request valid
    unfold Request.valid at valid
    rw [Bool.and_eq_true, Bool.and_eq_true] at valid
    exact ⟨isWorkKind_scalar valid.1.2, request.bindable, trivial⟩
  have one := @JsonText.load_write true _ (plain first valid) [] fun c mem => nomatch mem
  have two := @JsonText.load_write true _ (plain second valid') [] fun c mem => nomatch mem
  rw [List.append_nil] at one two
  unfold Request.identity at same
  rw [same, one] at two
  injection two with items
  injection items with items
  injection items with kind rest
  injection rest with key
  injection kind with kind
  injection key with key
  exact ⟨kind.symm, key.symm⟩

/-- A valid request has the identity of a request for the same item. -/
theorem identity_of_sameItem {first second : Request} (same : first.SameItem second) :
    second.identity = first.identity := by
  unfold Request.identity
  rw [same.1, same.2]

/-! ## Once -/

/-- The request's outcome was recorded. -/
def Entry.Records (e : Entry) : Prop := e.after.receipts ≠ e.before.receipts

/-- The request changed the work table. -/
def Entry.Resets (e : Entry) : Prop := e.after.work ≠ e.before.work

/-- What a recorded outcome is: whether the item was reset. -/
def Entry.outcome (e : Entry) : PyStr := if e.after.work = e.before.work then rejected else retried

/-- A later request changes nothing, and is answered by what the first one with its identifier came
to. -/
structure Entry.Repeats (first later : Entry) : Prop where
  unchanged : later.after = later.before
  replayed : first.request.SameItem later.request →
    ∀ answer ∈ later.answer, answer = .ok ⟨first.outcome, true⟩
  refused : ¬first.request.SameItem later.request →
    ∀ answer ∈ later.answer, answer = .error failedClosed

/-- Retries are one-shot over a run: each identifier resets an item at most once, the exact one that
was asked for, and what was first recorded answers every later request. -/
structure OneShot (run : List Entry) : Prop where
  once : run.Pairwise fun first later =>
    later.request.requestId = first.request.requestId → first.Resets → ¬later.Resets
  exactly : ∀ e ∈ run, e.Resets → Rearmed e.request e.now e.before.work e.after.work
  answered : ∀ e ∈ run, e.Records → ∀ answer ∈ e.answer, answer = .ok ⟨e.outcome, false⟩
  settled : run.Pairwise fun first later =>
    later.request.requestId = first.request.requestId → first.Records → first.Repeats later

theorem Rearmed.changed {before after : List Row} (rearmed : Rearmed request now before after) :
    after ≠ before := by
  obtain ⟨front, row, back, rfl, -, blocked, rfl⟩ := rearmed
  intro same
  have pending := congrArg Row.status (List.cons.inj (List.append_cancel_left same)).1
  rw [blocked] at pending
  cases pending

/-- What is recorded is what happened to the item. -/
theorem Consumed.outcome_eq {e : Entry} {outcome : PyStr}
    (consumed : Consumed sha256 fromisoformat e.request e.now outcome e.before e.after) :
    e.outcome = outcome := by
  unfold Entry.outcome
  rcases consumed.work with ⟨rfl, same⟩ | ⟨rfl, rearmed⟩
  · exact if_pos same
  · exact if_neg rearmed.changed

theorem Consumed.records {e : Entry} {outcome : PyStr}
    (consumed : Consumed sha256 fromisoformat e.request e.now outcome e.before e.after) :
    e.Records := by
  intro same
  rw [consumed.receipts] at same
  exact List.cons_ne_nil _ _ (List.append_right_eq_self.mp same)

theorem Comes.exactly {e : Entry} (comes : Comes sha256 fromisoformat e) (resets : e.Resets) :
    Rearmed e.request e.now e.before.work e.after.work ∧ e.Records := by
  cases comes with
  | unchanged same => exact absurd (congrArg Tables.work same) resets
  | consumed outcome valid unknown consumed answered =>
    exact ⟨(consumed.work.resolve_left fun same => resets same.2).2, consumed.records⟩

theorem Comes.answered {e : Entry} (comes : Comes sha256 fromisoformat e) (records : e.Records) :
    ∀ answer ∈ e.answer, answer = .ok ⟨e.outcome, false⟩ := by
  cases comes with
  | unchanged same => exact absurd (congrArg Tables.receipts same) records
  | consumed outcome valid unknown consumed answered =>
    rw [consumed.outcome_eq]
    exact answered

/-- A request that comes where another one's outcome is recorded repeats it. -/
theorem repeats_of_known {first later : Entry} {killedAfter : Option Nat}
    (valid : first.request.valid = true)
    (apart : sha256 first.request.identity = sha256 later.request.identity →
      first.request.identity = later.request.identity)
    (known : loadReceipt sha256 fromisoformat later.request.requestId later.before.receipts =
      .ok (some (newReceipt sha256 first.request first.outcome first.now)))
    (called : later = call sha256 fromisoformat later.request later.now killedAfter later.before)
    (same : later.request.requestId = first.request.requestId) : first.Repeats later := by
  obtain ⟨unchanged, answered⟩ := @call_known _ _ _ later.now _ _ killedAfter known
  rw [← called] at unchanged answered
  refine ⟨unchanged, fun item answer there => ?_, fun other answer there => ?_⟩
  · have valid' : later.request.valid = true := by
      unfold Request.valid at valid ⊢
      rw [same, item.1, item.2]
      exact valid
    rw [answered answer there, if_pos ⟨valid', (congrArg sha256 (identity_of_sameItem item)).symm⟩]
    rfl
  · rw [answered answer there, if_neg]
    rintro ⟨valid', digests⟩
    exact other (sameItem_of_identity valid valid' (apart digests).symm)

theorem settled_along {events : List Event}
    (apart : ∀ r ∈ requests events, ∀ r' ∈ requests events,
      sha256 r.identity = sha256 r'.identity → r.identity = r'.identity) :
    (entries sha256 fromisoformat tables events).Pairwise fun first later =>
      later.request.requestId = first.request.requestId → first.Records →
        first.Repeats later := by
  induction events generalizing tables with
  | nil => exact .nil
  | cons event events ih =>
    cases event with
    | work rows => exact ih apart
    | request request now killedAfter =>
      refine .cons (fun later mem same records => ?_)
        (ih fun r here r' there => apart r (.tail _ here) r' (.tail _ there))
      obtain ⟨asked, again, called⟩ := entries_calls later mem
      have comes := @call_comes sha256 fromisoformat request now tables killedAfter
      cases comes with
      | unchanged still => exact absurd (congrArg Tables.receipts still) records
      | consumed outcome valid unknown consumed answered =>
        have known := known_along consumed.known later mem
        rw [← consumed.outcome_eq, ← same] at known
        refine repeats_of_known valid (apart _ ?_ _ (.tail _ asked)) known called same
        cases killedAfter <;> exact .head _

/-- **Administrative retries are one-shot** over every run of requests, replays, crashes and changes
of the work table, as long as SHA-256 tells apart the identities that are asked for. -/
theorem retry_one_shot (sha256 : List UInt8 → PyStr) (fromisoformat : PyStr → Option DateTime)
    (tables : Tables) (events : List Event)
    (apart : ∀ r ∈ requests events, ∀ r' ∈ requests events,
      sha256 r.identity = sha256 r'.identity → r.identity = r'.identity) :
    OneShot (entries sha256 fromisoformat tables events) := by
  have comes : ∀ e ∈ entries sha256 fromisoformat tables events,
      Comes sha256 fromisoformat e := by
    intro e mem
    obtain ⟨-, killedAfter, called⟩ := entries_calls e mem
    rw [called]
    exact call_comes killedAfter
  have settled := @settled_along sha256 fromisoformat tables events apart
  refine ⟨?_, fun e mem resets => ((comes e mem).exactly resets).1,
    fun e mem records => (comes e mem).answered records, settled⟩
  refine (List.Pairwise.and_mem.mp settled).imp ?_
  rintro first later ⟨mem, -, repeats⟩ same resets again
  exact again (congrArg Tables.work
    (repeats same ((comes first mem).exactly resets).2).unchanged)

/-! ## An item that is blocked again -/

def requestOf (workKey : String) (fits : ∀ c ∈ text workKey, Utf8.Scalar c) : Request where
  requestId := text "00000000-0000-4000-8000-000000000000"
  workKind := text "candidate"
  workKey := text workKey
  bindable := fits

def blockedRow : Row :=
  ⟨text "candidate", text "a", .blocked, 5, text "0001-01-01T00:00:00+00:00",
    text "0001-01-01T00:00:00+00:00", none⟩

/-- A request is killed, comes again, and comes once more after its item was blocked again; and one
with its identifier is for another item. -/
def blockedAgain : List Event :=
  let item := requestOf "a" (by decide)
  let other := requestOf "other" (by decide)
  [.request item ⟨0, by decide⟩ (some 5), .request item ⟨1, by decide⟩ none, .work [blockedRow],
    .request item ⟨2, by decide⟩ none, .request other ⟨3, by decide⟩ none]

/-- A hash that tells texts of different lengths apart. -/
def lengthHash (bytes : List UInt8) : PyStr := List.replicate 64 (48 + bytes.length % 10)

theorem blocked_again_stays_blocked :
    OneShot (entries lengthHash WorkRows.readIsoformat ⟨[blockedRow], []⟩ blockedAgain) ∧
      (entries lengthHash WorkRows.readIsoformat ⟨[blockedRow], []⟩ blockedAgain).map
          (fun e => (e.answer, e.after.work.map (·.status))) =
        [(none, [.blocked]), (some (.ok ⟨retried, false⟩), [.pending]),
          (some (.ok ⟨retried, true⟩), [.blocked]), (some (.error failedClosed), [.blocked])] :=
  ⟨retry_one_shot _ _ _ _ (by decide +kernel), by decide +kernel⟩

end

end RetryReceipts

end SyncApp
