import SyncApp.Lib.Machine
import SyncApp.Pipeline.Lanes

/-!
# The work table

Every call that writes the `work` table, as its caller sees it: the transaction commits or leaves
the table, and what the call returns is read back after it. `perform_effect` says once what a call
can do to the table; the rest is read off it.

SQLite itself does not fail here, and a call has one of the work kinds and a key that it can store.
-/

set_option autoImplicit false

namespace SyncApp

open Lib

/-! ## Identities -/

namespace WorkKind

/-- The text of a work kind. -/
def name : WorkKind → PyStr
  | localSync => text "local_sync"
  | candidate => text "candidate"
  | candidateApply => text "candidate_apply"
  | candidateApplyExecute => text "candidate_apply_execute"
  | candidateRestart => text "candidate_restart"
  | candidateObserve => text "candidate_observe"
  | candidateObserveSupervisor => text "candidate_observe_supervisor"
  | candidateObserveIntegrations => text "candidate_observe_integrations"
  | candidateObserveStartupErrors => text "candidate_observe_startup_errors"
  | candidateObserveResources => text "candidate_observe_resources"
  | candidateObserveEntities => text "candidate_observe_entities"
  | candidateObserveAutomationScripts => text "candidate_observe_automation_scripts"
  | candidateObserveAssertions => text "candidate_observe_assertions"
  | candidateFinalize => text "candidate_finalize"
  | candidatePromote => text "candidate_promote"
  | candidateRollback => text "candidate_rollback"
  | deploymentRollback => text "deployment_rollback"
  | other kind => kind.name

/-- The kinds that have a lane. -/
def lanes : List WorkKind :=
  [localSync, candidate, candidateApply, candidateApplyExecute, candidateRestart, candidateObserve,
    candidateObserveSupervisor, candidateObserveIntegrations, candidateObserveStartupErrors,
    candidateObserveResources, candidateObserveEntities, candidateObserveAutomationScripts,
    candidateObserveAssertions, candidateFinalize, candidatePromote, candidateRollback,
    deploymentRollback]

theorem lanes_names : lanes.map name = laneKindNames := by rfl

/-- Every text is the name of a kind. -/
theorem exists_name (value : PyStr) : ∃ kind : WorkKind, kind.name = value := by
  by_cases lane : value ∈ laneKindNames
  · rw [← lanes_names] at lane
    obtain ⟨kind, -, named⟩ := List.mem_map.mp lane
    exact ⟨kind, named⟩
  · exact ⟨other ⟨value, lane⟩, rfl⟩

end WorkKind

/-- `_WORK_KIND`. -/
def isWorkKind : PyStr → Bool
  | [] => false
  | first :: rest =>
    (97 ≤ first && first ≤ 122) && rest.length ≤ 63 &&
      rest.all fun c =>
        (97 ≤ c && c ≤ 122) || (48 ≤ c && c ≤ 57) || c == 95 || c == 46 || c == 45

def isWorkKey (workKey : PyStr) : Bool :=
  1 ≤ workKey.length && workKey.length ≤ 256 && !workKey.any fun c => c < 0x20 || c == 0x7F

/-- `_validate_work_kind`. -/
def validateWorkKind (workKind : WorkKind) : Except Failure Unit :=
  if isWorkKind workKind.name then .ok () else .error (stateFailure "Invalid work kind")

/-- `_validate_work_identity`. -/
def validateWorkIdentity (workKind : WorkKind) (workKey : PyStr) : Except Failure Unit :=
  match validateWorkKind workKind with
  | .error failure => .error failure
  | .ok () => if isWorkKey workKey then .ok () else .error (stateFailure "Invalid work key")

/-- `_work_from_row`. -/
def workFromRow (row : WorkItem) : Except Failure WorkItem :=
  match validateWorkIdentity row.workKind row.workKey with
  | .error failure => .error failure
  | .ok () => .ok row

/-! ## Rows that change -/

namespace WorkItem

variable (item : WorkItem) (now : Int)

def claimedAt : WorkItem :=
  { item with
    status := .running, attempts := item.attempts + 1, updatedAt := now, nextAttemptAt := none }

def failedAt (transient : Bool) : WorkItem :=
  if transient ∧ item.attempts < maxWorkAttempts then
    { item with
      status := .retry, updatedAt := now
      nextAttemptAt := some
        (now + (min (60 * 2 ^ (item.attempts - 1)) maxWorkBackoffSeconds : Nat)) }
  else { item with status := .blocked, updatedAt := now, nextAttemptAt := none }

/-- `pending` again, with no attempts made. -/
def rearmedAt : WorkItem :=
  { item with status := .pending, attempts := 0, updatedAt := now, nextAttemptAt := some now }

/-- The next look at an observation window, at its deadline. -/
def awaitedAt (deadline : Int) : WorkItem :=
  { item with
    status := .retry, attempts := 0, updatedAt := now, nextAttemptAt := some deadline }

def completedAt : WorkItem :=
  { item with status := .succeeded, updatedAt := now, nextAttemptAt := none }

def recoveredAt : WorkItem :=
  if item.status = .running then
    { item with status := .retry, updatedAt := now, nextAttemptAt := some now }
  else item

/-- The next generation of routine work. -/
def scheduledAt : WorkItem :=
  { item with
    status := .pending, attempts := 0, createdAt := now, updatedAt := now
    nextAttemptAt := some now }

/-- `ORDER BY next_attempt_at, created_at, work_kind, work_key`. -/
def beforeAny (first second : WorkItem) : Bool :=
  let key (item : WorkItem) : Int × Int := (item.nextAttemptAt.getD 0, item.createdAt)
  if (key first).1 ≠ (key second).1 then decide ((key first).1 < (key second).1)
  else if (key first).2 ≠ (key second).2 then decide ((key first).2 < (key second).2)
  else if first.workKind.name ≠ second.workKind.name then
    decide (first.workKind.name < second.workKind.name)
  else decide (first.workKey < second.workKey)

end WorkItem

/-- `ORDER BY … LIMIT 1` over all kinds. -/
def earliestAny : List WorkItem → Option WorkItem
  | [] => none
  | item :: items =>
    match earliestAny items with
    | none => some item
    | some other => if other.beforeAny item then some other else some item

theorem mem_of_earliestAny {items : List WorkItem} {item : WorkItem}
    (first : earliestAny items = some item) : item ∈ items := by
  induction items with
  | nil => cases first
  | cons head items ih =>
    unfold earliestAny at first
    cases rest : earliestAny items with
    | none =>
      rw [rest] at first
      cases first
      exact List.mem_cons_self
    | some other =>
      rw [rest] at first
      dsimp only at first
      split at first
      · cases first
        exact List.mem_cons_of_mem _ (ih rest)
      · cases first
        exact List.mem_cons_self

def eligibleAny (now : Int) (item : WorkItem) : Bool :=
  (item.status = .pending || item.status = .retry) && item.nextAttemptAt.any (· ≤ now)

/-! ## Calls -/

/-- The transaction of `schedule_routine_work`. -/
def scheduleRoutineWork (workKind : WorkKind) (workKey : PyStr) (now : Int) (store : Store) :
    Except Failure (WorkItem × Store) :=
  match store.findWork workKind workKey with
  | none =>
    let item := Store.pendingWork workKind workKey now
    .ok (item, { store with work := store.work ++ [item] })
  | some existing =>
    match existing.status with
    | .succeeded =>
      match store.updateWork existing fun _ => existing.scheduledAt now with
      | none => .error (stateFailure "routine work generation changed unexpectedly")
      | some store => .ok (existing.scheduledAt now, store)
    | .pending | .running | .retry | .blocked => .ok (existing, store)

/-- The transaction of `_schedule_at`, once the evidence of the observation window is proved. -/
def scheduleAt (proved : Bool) (item : WorkItem) (deadline now : Int) :
    Store → Except Failure (WorkItem × Store) := fun store =>
  let refused := "Candidate Core observation failed closed"
  if item.workKind ≠ .candidateObserve ∨ ¬proved then .error ⟨refused, false⟩
  else
    settleWork refused refused item
      (fun current =>
        { current with
          status := .retry, attempts := 0, updatedAt := now, nextAttemptAt := some deadline })
      store

inductive WorkCall where
  | enqueueWork (workKind : WorkKind) (workKey : PyStr) (now : Int)
  | claimWork (now : Int)
  | claimWorkKind (workKind : WorkKind) (now : Int)
  | failWork (item : WorkItem) (transient : Bool) (now : Int)
  | deferWork (item : WorkItem) (now : Int)
  | completeWork (item : WorkItem) (now : Int)
  | scheduleAt (proved : Bool) (item : WorkItem) (deadline now : Int)
  | recoverInterruptedWork (now : Int)
  | scheduleRoutineWork (workKind : WorkKind) (workKey : PyStr) (now : Int)
  | retryBlockedWork (workKind : WorkKind) (workKey : PyStr) (now : Int)

namespace WorkCall

/-- What a call returns, and the store after it. -/
abbrev Outcome := Except Failure (Option WorkItem) × Store

/-- The transaction of a call, and the row that is read back where it commits. -/
def readBack (store : Store) : Except Failure (WorkItem × Store) → Outcome
  | .error failure => (.error failure, store)
  | .ok (item, committed) =>
    match committed.getWork item.workKind item.workKey with
    | .error failure => (.error failure, committed)
    | .ok row => ((workFromRow row).map some, committed)

/-- The transaction of a call that returns what it read within it. -/
def returned (store : Store) : Except Failure (WorkItem × Store) → Outcome
  | .error failure => (.error failure, store)
  | .ok (item, committed) => (.ok (some item), committed)

/-- A call for one work kind and key, which are checked first. -/
def identified (workKind : WorkKind) (workKey : PyStr) (failure : Failure → Failure)
    (call : Store → Outcome) (store : Store) : Outcome :=
  match validateWorkIdentity workKind workKey with
  | .error refused => (.error (failure refused), store)
  | .ok () => call store

/-- `claim_work` and `claim_work_kind`, for the row they select. -/
def claim (selected : Option WorkItem) (now : Int) (store : Store) : Outcome :=
  match selected with
  | none => (.ok none, store)
  | some row =>
    match workFromRow row with
    | .error failure => (.error failure, store)
    | .ok item =>
      readBack store <|
        match store.updateWork item fun _ => item.claimedAt now with
        | none => .error (stateFailure "Work claim changed unexpectedly")
        | some committed => .ok (item.claimedAt now, committed)

def perform (call : WorkCall) (store : Store) : Outcome :=
  match call with
  | enqueueWork workKind workKey now =>
    identified workKind workKey id
      (fun store => readBack store (SyncApp.enqueueWork workKind workKey now store)) store
  | claimWork now => claim (earliestAny (store.work.filter (eligibleAny now))) now store
  | claimWorkKind workKind now =>
    match validateWorkKind workKind with
    | .error failure => (.error failure, store)
    | .ok () => claim (earliest (store.work.filter (eligible workKind now))) now store
  | failWork item transient now => readBack store (SyncApp.failWork item transient now store)
  | deferWork item now => readBack store (SyncApp.deferWork item now store)
  | completeWork item now => readBack store (SyncApp.completeWork item now store)
  | scheduleAt proved item deadline now =>
    readBack store (SyncApp.scheduleAt proved item deadline now store)
  | recoverInterruptedWork now =>
    (.ok none, SyncApp.recoverInterruptedWork (fun _ => true) now store)
  | scheduleRoutineWork workKind workKey now =>
    identified workKind workKey (fun _ => stateFailure "routine work scheduling failed closed")
      (fun store => returned store (SyncApp.scheduleRoutineWork workKind workKey now store)) store
  | retryBlockedWork workKind workKey now =>
    identified workKind workKey (fun _ => stateFailure "administrative retry failed closed")
      (fun store => returned store (SyncApp.retryBlockedWork workKind workKey now store)) store

def claims : WorkCall → Bool
  | claimWork _ | claimWorkKind _ _ => true
  | _ => false

/-- The item that a call has claimed, by its answer. -/
def issued (call : WorkCall) : Except Failure (Option WorkItem) → Option WorkItem
  | .ok claimed => if call.claims then claimed else none
  | .error _ => none

@[simp] theorem issued_ok (call : WorkCall) (item : Option WorkItem) :
    call.issued (.ok item) = if call.claims then item else none := rfl

end WorkCall

/-! ## The table -/

/-- The table keeps its primary key, and every row can be read. -/
structure Readable (store : Store) : Prop where
  unique : store.workKeys.Nodup
  rows : ∀ item ∈ store.work, validateWorkIdentity item.workKind item.workKey = .ok ()

namespace Store

variable {store : Store} {item next : WorkItem} {workKind : WorkKind} {workKey : PyStr}

/-- The table with another row for an item. -/
def replaceWork (store : Store) (item next : WorkItem) : Store :=
  { store with work := item.updateIn (fun _ => next) store.work }

/-- The table with one more row. -/
def addWork (store : Store) (item : WorkItem) : Store :=
  { store with work := store.work ++ [item] }

theorem findWork_some (found : store.findWork workKind workKey = some item) :
    item ∈ store.work ∧ item.workKind = workKind ∧ item.workKey = workKey := by
  refine ⟨List.mem_of_find?_eq_some found, ?_⟩
  simpa using List.find?_some found

theorem mem_workKeys (member : item ∈ store.work) :
    (item.workKind, item.workKey) ∈ store.workKeys :=
  List.mem_map.mpr ⟨item, member, rfl⟩

theorem findWork_none (absent : store.findWork workKind workKey = none) :
    (workKind, workKey) ∉ store.workKeys := by
  intro there
  obtain ⟨item, member, same⟩ := List.mem_map.mp there
  refine absurd ?_ (List.find?_eq_none.mp absent item member)
  exact decide_eq_true (Prod.ext_iff.mp same)

/-- Rows that change in place are found where they were. -/
theorem findWork_map {change : WorkItem → WorkItem}
    (keeps : ∀ row, (change row).workKind = row.workKind ∧ (change row).workKey = row.workKey) :
    ({ store with work := store.work.map change } : Store).findWork workKind workKey =
      (store.findWork workKind workKey).map change := by
  unfold findWork
  rw [List.find?_map]
  simp only [Function.comp_def, fun row => (keeps row).1, fun row => (keeps row).2]

theorem workKeys_map {change : WorkItem → WorkItem}
    (keeps : ∀ row, (change row).workKind = row.workKind ∧ (change row).workKey = row.workKey) :
    ({ store with work := store.work.map change } : Store).workKeys = store.workKeys := by
  unfold workKeys
  rw [List.map_map]
  refine List.map_congr_left fun row _ => ?_
  exact Prod.ext (keeps row).1 (keeps row).2

section Replace

variable (same : next.workKind = item.workKind ∧ next.workKey = item.workKey)

include same

theorem replace_keeps (row : WorkItem) :
    (if row.workKind = item.workKind ∧ row.workKey = item.workKey then next else row).workKind =
        row.workKind ∧
      (if row.workKind = item.workKind ∧ row.workKey = item.workKey then next else row).workKey =
        row.workKey := by
  split
  next here => exact ⟨same.1.trans here.1.symm, same.2.trans here.2.symm⟩
  next => exact ⟨rfl, rfl⟩

theorem replaceWork_workKeys : (store.replaceWork item next).workKeys = store.workKeys :=
  workKeys_map (replace_keeps same)

/-- The row of the replaced item. -/
theorem findWork_replaced (found : store.findWork item.workKind item.workKey = some item) :
    (store.replaceWork item next).findWork item.workKind item.workKey = some next := by
  refine (findWork_map (replace_keeps same)).trans ?_
  rw [found]
  exact congrArg some (if_pos ⟨rfl, rfl⟩)

/-- The row of another item. -/
theorem findWork_replace_apart (apart : ¬(item.workKind = workKind ∧ item.workKey = workKey)) :
    (store.replaceWork item next).findWork workKind workKey = store.findWork workKind workKey := by
  refine (findWork_map (replace_keeps same)).trans ?_
  cases found : store.findWork workKind workKey with
  | none => rfl
  | some row =>
    obtain ⟨-, kind, key⟩ := findWork_some found
    refine congrArg some (if_neg fun here => apart ?_)
    exact ⟨here.1.symm.trans kind, here.2.symm.trans key⟩

end Replace

theorem addWork_workKeys :
    (store.addWork item).workKeys = store.workKeys ++ [(item.workKind, item.workKey)] :=
  List.map_append

theorem findWork_added (absent : store.findWork item.workKind item.workKey = none) :
    (store.addWork item).findWork item.workKind item.workKey = some item := by
  unfold findWork at absent
  unfold findWork addWork
  rw [List.find?_append, absent]
  simp

theorem findWork_add_apart (apart : ¬(item.workKind = workKind ∧ item.workKey = workKey)) :
    (store.addWork item).findWork workKind workKey = store.findWork workKind workKey := by
  unfold findWork addWork
  rw [List.find?_append]
  simp [apart]

theorem updateWork_found {update : WorkItem → WorkItem} {row : WorkItem}
    (unique : store.workKeys.Nodup)
    (found : store.findWork item.workKind item.workKey = some row) :
    store.updateWork item update =
      if row.status = item.status ∧ row.attempts = item.attempts then
        some (store.replaceWork row (update row)) else none := by
  obtain ⟨member, kind, key⟩ := findWork_some found
  unfold updateWork
  rw [found]
  dsimp only
  split
  next =>
    refine congrArg some (congrArg (fun work => ({ store with work := work } : Store)) ?_)
    refine List.map_congr_left fun other there => ?_
    rw [kind, key]
    split
    next here =>
      exact congrArg update (eq_of_key unique member there ⟨here.1.trans kind.symm,
        here.2.trans key.symm⟩)
    next => rfl
  next => rfl

end Store

/-- The keys alone say whether a table can be read. -/
theorem Readable.of_keys {store changed : Store} (table : Readable store)
    (same : changed.workKeys = store.workKeys) : Readable changed := by
  refine ⟨same ▸ table.unique, fun row member => ?_⟩
  have there : (row.workKind, row.workKey) ∈ store.workKeys := same ▸ Store.mem_workKeys member
  obtain ⟨old, known, key⟩ := List.mem_map.mp there
  obtain ⟨kind, key⟩ := Prod.ext_iff.mp key
  rw [← show old.workKind = row.workKind from kind, ← show old.workKey = row.workKey from key]
  exact table.rows old known

/-! ## What a call can do -/

/-- A claimed item that still is the claim of its row. -/
structure WorkItem.Holds (item row : WorkItem) : Prop where
  workKind : row.workKind = item.workKind
  workKey : row.workKey = item.workKey
  status : item.status = .running
  attempts : 1 ≤ item.attempts
  rowStatus : row.status = .running
  rowAttempts : row.attempts = item.attempts

/-- What a call does to the row it is about. -/
inductive RowStep : WorkCall → WorkItem → WorkItem → Prop where
  | claimed {row : WorkItem} {now : Int} (free : row.status = .pending ∨ row.status = .retry) :
    RowStep (.claimWork now) row (row.claimedAt now)
  | claimedKind {row : WorkItem} {now : Int}
    (free : row.status = .pending ∨ row.status = .retry) :
    RowStep (.claimWorkKind row.workKind now) row (row.claimedAt now)
  | failed {item row : WorkItem} {transient : Bool} {now : Int} (held : item.Holds row) :
    RowStep (.failWork item transient now) row (row.failedAt now transient)
  | deferred {item row : WorkItem} {now : Int} (held : item.Holds row) :
    RowStep (.deferWork item now) row (row.rearmedAt now)
  | completed {item row : WorkItem} {now : Int} (held : item.Holds row) :
    RowStep (.completeWork item now) row (row.completedAt now)
  | awaited {proved : Bool} {item row : WorkItem} {deadline now : Int}
    (window : item.workKind = .candidateObserve ∧ proved = true) (held : item.Holds row) :
    RowStep (.scheduleAt proved item deadline now) row (row.awaitedAt now deadline)
  | scheduled {row : WorkItem} {now : Int} (succeeded : row.status = .succeeded) :
    RowStep (.scheduleRoutineWork row.workKind row.workKey now) row (row.scheduledAt now)
  | retried {row : WorkItem} {now : Int} (blocked : row.status = .blocked) :
    RowStep (.retryBlockedWork row.workKind row.workKey now) row (row.rearmedAt now)

/-- A call that finds what it is for already done, or nothing to do. -/
inductive Quiet : WorkCall → Option WorkItem → Prop where
  | enqueued (workKind : WorkKind) (workKey : PyStr) (now : Int) (row : WorkItem) :
    Quiet (.enqueueWork workKind workKey now) (some row)
  | scheduled (row : WorkItem) (now : Int) (live : row.status ≠ .succeeded) :
    Quiet (.scheduleRoutineWork row.workKind row.workKey now) (some row)
  | claimed {call : WorkCall} (claims : call.claims = true) : Quiet call none

/-- Everything a call can do. -/
inductive Effect (store : Store) (call : WorkCall) : WorkCall.Outcome → Prop where
  | refused (failure : Failure) : Effect store call (.error failure, store)
  | nothing (item : Option WorkItem) (quiet : Quiet call item) :
    Effect store call (.ok item, store)
  | added (workKind : WorkKind) (workKey : PyStr) (now : Int)
    (creates : call = .enqueueWork workKind workKey now ∨
      call = .scheduleRoutineWork workKind workKey now)
    (absent : store.findWork workKind workKey = none)
    (valid : validateWorkIdentity workKind workKey = .ok ()) :
    Effect store call
      (.ok (some (Store.pendingWork workKind workKey now)),
        store.addWork (Store.pendingWork workKind workKey now))
  | stepped (row next : WorkItem)
    (found : store.findWork row.workKind row.workKey = some row) (step : RowStep call row next) :
    Effect store call (.ok (some next), store.replaceWork row next)
  | recovered (now : Int) (recovers : call = .recoverInterruptedWork now) :
    Effect store call
      (.ok none, { store with work := store.work.map (WorkItem.recoveredAt · now) })

theorem WorkItem.failedAt_key (row : WorkItem) (now : Int) (transient : Bool) :
    (row.failedAt now transient).workKind = row.workKind ∧
      (row.failedAt now transient).workKey = row.workKey := by
  unfold failedAt
  split <;> exact ⟨rfl, rfl⟩

theorem WorkItem.recoveredAt_key (row : WorkItem) (now : Int) :
    (row.recoveredAt now).workKind = row.workKind ∧
      (row.recoveredAt now).workKey = row.workKey := by
  unfold recoveredAt
  split <;> exact ⟨rfl, rfl⟩

theorem RowStep.same_key {call : WorkCall} {row next : WorkItem} (step : RowStep call row next) :
    next.workKind = row.workKind ∧ next.workKey = row.workKey := by
  cases step with
  | failed held => exact row.failedAt_key _ _
  | _ => exact ⟨rfl, rfl⟩

namespace WorkCall

variable {store : Store}

theorem readBack_row {committed : Store} {item row : WorkItem}
    (found : committed.findWork item.workKind item.workKey = some row)
    (valid : validateWorkIdentity item.workKind item.workKey = .ok ()) :
    readBack store (.ok (item, committed)) = (.ok (some row), committed) := by
  obtain ⟨-, kind, key⟩ := Store.findWork_some found
  have got : committed.getWork item.workKind item.workKey = .ok row := by
    unfold Store.getWork
    rw [found]
  have read : workFromRow row = .ok row := by
    unfold workFromRow
    rw [kind, key, valid]
  unfold readBack
  dsimp only
  rw [got]
  dsimp only
  rw [read]
  rfl

/-- The row of a step is read back as the step left it. -/
theorem readBack_step {item row next : WorkItem} (readable : Readable store)
    (found : store.findWork row.workKind row.workKey = some row)
    (same : next.workKind = row.workKind ∧ next.workKey = row.workKey)
    (named : item.workKind = row.workKind ∧ item.workKey = row.workKey) :
    readBack store (.ok (item, store.replaceWork row next)) =
      (.ok (some next), store.replaceWork row next) := by
  apply readBack_row
  · rw [named.1, named.2]
    exact Store.findWork_replaced same found
  · rw [named.1, named.2]
    exact readable.rows row (Store.findWork_some found).1

/-- A transition with an item that is the claim of its row. -/
theorem settle_held {refused unchanged : String} {item row : WorkItem}
    {update : WorkItem → WorkItem} (readable : Readable store)
    (found : store.findWork item.workKind item.workKey = some row) (held : item.Holds row)
    (same : (update row).workKind = row.workKind ∧ (update row).workKey = row.workKey)
    (named : (update item).workKind = item.workKind ∧ (update item).workKey = item.workKey) :
    readBack store (settleWork refused unchanged item update store) =
      (.ok (some (update row)), store.replaceWork row (update row)) := by
  have here : store.findWork row.workKind row.workKey = some row := by
    rw [held.workKind, held.workKey]
    exact found
  have able : ¬(item.status ≠ .running ∨ item.attempts < 1) := by
    rw [not_or, Decidable.not_not, Nat.not_lt]
    exact ⟨held.status, held.attempts⟩
  unfold settleWork
  rw [if_neg able, Store.updateWork_found readable.unique found,
    if_pos ⟨held.rowStatus.trans held.status.symm, held.rowAttempts⟩]
  exact readBack_step readable here same
    ⟨named.1.trans held.workKind.symm, named.2.trans held.workKey.symm⟩

/-- A transition of a claimed item. -/
theorem effect_settle {call : WorkCall} {refused unchanged : String} {item : WorkItem}
    {update : WorkItem → WorkItem} (readable : Readable store)
    (step : ∀ row, item.Holds row → RowStep call row (update row))
    (named : (update item).workKind = item.workKind ∧ (update item).workKey = item.workKey) :
    Effect store call (readBack store (settleWork refused unchanged item update store)) := by
  by_cases held : ∃ row, store.findWork item.workKind item.workKey = some row ∧ item.Holds row
  · obtain ⟨row, found, holds⟩ := held
    have steps := step row holds
    rw [settle_held readable found holds steps.same_key named]
    refine .stepped row (update row) ?_ steps
    rw [holds.workKind, holds.workKey]
    exact found
  · unfold settleWork
    split
    next => exact .refused _
    next able =>
      rw [not_or, Decidable.not_not, Nat.not_lt] at able
      cases found : store.findWork item.workKind item.workKey with
      | none =>
        have missing : store.updateWork item update = none := by
          unfold Store.updateWork
          rw [found]
        rw [missing]
        exact .refused _
      | some row =>
        obtain ⟨-, kind, key⟩ := Store.findWork_some found
        have changed : ¬(row.status = item.status ∧ row.attempts = item.attempts) := by
          rintro ⟨status, attempts⟩
          exact held ⟨row, found, kind, key, able.1, able.2, status.trans able.1, attempts⟩
        rw [Store.updateWork_found readable.unique found, if_neg changed]
        exact .refused _

/-- A claim of an item that was selected. -/
theorem effect_claim {call : WorkCall} {selected : Option WorkItem} {now : Int}
    (readable : Readable store) (claims : call.claims = true)
    (step : ∀ row, selected = some row → row ∈ store.work ∧ RowStep call row (row.claimedAt now)) :
    Effect store call (claim selected now store) := by
  cases selected with
  | none => exact .nothing none (.claimed claims)
  | some row =>
    obtain ⟨member, steps⟩ := step row rfl
    have found := Store.findWork_of_mem readable.unique member
    have read : workFromRow row = .ok row := by
      unfold workFromRow
      rw [readable.rows row member]
    unfold claim
    dsimp only
    rw [read]
    dsimp only
    rw [Store.updateWork_found readable.unique found, if_pos ⟨rfl, rfl⟩]
    dsimp only
    have back : readBack store (.ok (row.claimedAt now, store.replaceWork row _)) = _ :=
      readBack_step readable found steps.same_key ⟨rfl, rfl⟩
    rw [back]
    exact .stepped row _ found steps

/-- A call that is refused where its work kind and key are none. -/
theorem effect_identified {call : WorkCall} {workKind : WorkKind} {workKey : PyStr}
    {failure : Failure → Failure} {body : Store → Outcome}
    (effect : validateWorkIdentity workKind workKey = .ok () → Effect store call (body store)) :
    Effect store call (identified workKind workKey failure body store) := by
  unfold identified
  cases valid : validateWorkIdentity workKind workKey with
  | error refused => exact .refused _
  | ok _ => exact effect valid

theorem eligible_free {workKind : WorkKind} {now : Int} {item : WorkItem}
    (here : eligible workKind now item = true) :
    item.workKind = workKind ∧ (item.status = .pending ∨ item.status = .retry) := by
  simp only [eligible, Bool.and_eq_true, Bool.or_eq_true, decide_eq_true_eq] at here
  exact here.1

theorem eligibleAny_free {now : Int} {item : WorkItem} (here : eligibleAny now item = true) :
    item.status = .pending ∨ item.status = .retry := by
  simp only [eligibleAny, Bool.and_eq_true, Bool.or_eq_true, decide_eq_true_eq] at here
  exact here.1

theorem effect_enqueue {workKind : WorkKind} {workKey : PyStr} {now : Int}
    (readable : Readable store)
    (valid : validateWorkIdentity workKind workKey = .ok ()) :
    Effect store (.enqueueWork workKind workKey now)
      (readBack store (SyncApp.enqueueWork workKind workKey now store)) := by
  unfold SyncApp.enqueueWork
  cases found : store.findWork workKind workKey with
  | none =>
    have back : readBack store (.ok (Store.pendingWork workKind workKey now,
        store.addWork (Store.pendingWork workKind workKey now))) = _ :=
      readBack_row (Store.findWork_added found) valid
    dsimp only
    rw [show ({ store with work := store.work ++ [Store.pendingWork workKind workKey now] } :
      Store) = store.addWork (Store.pendingWork workKind workKey now) from rfl, back]
    exact .added workKind workKey now (.inl rfl) found valid
  | some row =>
    obtain ⟨member, -, -⟩ := Store.findWork_some found
    dsimp only
    rw [readBack_row (Store.findWork_of_mem readable.unique member) (readable.rows row member)]
    exact .nothing (some row) (.enqueued workKind workKey now row)

theorem effect_schedule {workKind : WorkKind} {workKey : PyStr} {now : Int}
    (readable : Readable store)
    (valid : validateWorkIdentity workKind workKey = .ok ()) :
    Effect store (.scheduleRoutineWork workKind workKey now)
      (returned store (SyncApp.scheduleRoutineWork workKind workKey now store)) := by
  unfold SyncApp.scheduleRoutineWork
  cases found : store.findWork workKind workKey with
  | none => exact .added workKind workKey now (.inr rfl) found valid
  | some row =>
    obtain ⟨member, rfl, rfl⟩ := Store.findWork_some found
    dsimp only
    cases status : row.status with
    | succeeded =>
      dsimp only
      rw [Store.updateWork_found readable.unique found, if_pos ⟨rfl, rfl⟩]
      exact .stepped row _ found (.scheduled status)
    | pending | running | retry | blocked =>
      exact .nothing (some row) (.scheduled row now (by simp [status]))

theorem effect_retry {workKind : WorkKind} {workKey : PyStr} {now : Int}
    (readable : Readable store) :
    Effect store (.retryBlockedWork workKind workKey now)
      (returned store (SyncApp.retryBlockedWork workKind workKey now store)) := by
  unfold SyncApp.retryBlockedWork
  cases found : store.findWork workKind workKey with
  | none => exact .refused _
  | some row =>
    obtain ⟨member, rfl, rfl⟩ := Store.findWork_some found
    dsimp only
    split
    next => exact .refused _
    next blocked =>
      rw [Decidable.not_not] at blocked
      rw [Store.updateWork_found readable.unique found, if_pos ⟨rfl, rfl⟩]
      exact .stepped row _ found (.retried blocked)

/-- Every running row is recovered. -/
theorem recoverInterruptedWork_all (now : Int) (store : Store) :
    SyncApp.recoverInterruptedWork (fun _ => true) now store =
      { store with work := store.work.map (WorkItem.recoveredAt · now) } := by
  unfold SyncApp.recoverInterruptedWork WorkItem.recoveredAt
  simp only [and_true]

/-- What each call can do to a table that can be read. -/
theorem perform_effect (readable : Readable store) (call : WorkCall) :
    Effect store call (call.perform store) := by
  cases call with
  | enqueueWork workKind workKey now =>
    unfold perform
    apply effect_identified
    intro valid
    exact effect_enqueue readable valid
  | claimWork now =>
    refine effect_claim readable rfl fun row selected => ?_
    obtain ⟨member, free⟩ := List.mem_filter.mp (mem_of_earliestAny selected)
    exact ⟨member, .claimed (eligibleAny_free free)⟩
  | claimWorkKind workKind now =>
    unfold perform
    dsimp only
    split
    next => exact .refused _
    next =>
      refine effect_claim readable rfl fun row selected => ?_
      obtain ⟨member, free⟩ := List.mem_filter.mp (mem_of_earliest selected)
      obtain ⟨rfl, unclaimed⟩ := eligible_free free
      exact ⟨member, .claimedKind unclaimed⟩
  | failWork item transient now =>
    apply effect_settle readable
    · intro row held
      have same : (if transient = true ∧ item.attempts < maxWorkAttempts then
          { row with
            status := .retry, updatedAt := now
            nextAttemptAt := some
              (now + (min (60 * 2 ^ (item.attempts - 1)) maxWorkBackoffSeconds : Nat)) }
          else { row with status := .blocked, updatedAt := now, nextAttemptAt := none }) =
          row.failedAt now transient := by
        unfold WorkItem.failedAt
        rw [held.rowAttempts]
      rw [same]
      exact .failed held
    · split <;> exact ⟨rfl, rfl⟩
  | deferWork item now => exact effect_settle readable (fun _ => .deferred) ⟨rfl, rfl⟩
  | completeWork item now => exact effect_settle readable (fun _ => .completed) ⟨rfl, rfl⟩
  | scheduleAt proved item deadline now =>
    unfold perform SyncApp.scheduleAt
    dsimp only
    split
    next => exact .refused _
    next window =>
      rw [not_or, Decidable.not_not, Decidable.not_not] at window
      exact effect_settle readable (fun _ => .awaited window) ⟨rfl, rfl⟩
  | recoverInterruptedWork now =>
    unfold perform
    dsimp only
    rw [recoverInterruptedWork_all]
    exact .recovered now rfl
  | scheduleRoutineWork workKind workKey now =>
    unfold perform
    apply effect_identified
    intro valid
    exact effect_schedule readable valid
  | retryBlockedWork workKind workKey now =>
    unfold perform
    apply effect_identified
    intro _
    exact effect_retry readable

end WorkCall

/-! ## Attempts that are given back -/

/-- A call gives a row its attempts back. -/
def WorkCall.Rearms (call : WorkCall) (row : WorkItem) : Prop :=
  match call with
  | deferWork item _ => item.Holds row
  | scheduleAt proved item _ _ =>
    (item.workKind = .candidateObserve ∧ proved = true) ∧ item.Holds row
  | scheduleRoutineWork workKind workKey _ =>
    (row.workKind = workKind ∧ row.workKey = workKey) ∧ row.status = .succeeded
  | retryBlockedWork workKind workKey _ =>
    (row.workKind = workKind ∧ row.workKey = workKey) ∧ row.status = .blocked
  | _ => False

theorem WorkItem.failedAt_attempts (row : WorkItem) (now : Int) (transient : Bool) :
    (row.failedAt now transient).attempts = row.attempts := by
  unfold failedAt
  split <;> rfl

theorem WorkItem.recoveredAt_attempts (row : WorkItem) (now : Int) :
    (row.recoveredAt now).attempts = row.attempts := by
  unfold recoveredAt
  split <;> rfl

/-- A step of a row gives it its attempts back, or counts its claims. -/
theorem RowStep.attempts {call : WorkCall} {row next : WorkItem} (step : RowStep call row next) :
    call.Rearms row ∧ next.attempts = 0 ∧ call.claims = false ∨
      ¬call.Rearms row ∧ next.attempts = row.attempts + if call.claims then 1 else 0 := by
  cases step with
  | claimed | claimedKind => exact .inr ⟨not_false, rfl⟩
  | failed => exact .inr ⟨not_false, row.failedAt_attempts _ _⟩
  | completed => exact .inr ⟨not_false, rfl⟩
  | deferred held => exact .inl ⟨held, rfl, rfl⟩
  | awaited window held => exact .inl ⟨⟨window, held⟩, rfl, rfl⟩
  | scheduled succeeded => exact .inl ⟨⟨⟨rfl, rfl⟩, succeeded⟩, rfl, rfl⟩
  | retried blocked => exact .inl ⟨⟨⟨rfl, rfl⟩, blocked⟩, rfl, rfl⟩

/-- A call that gives a row its attempts back is carried out. -/
theorem WorkCall.perform_rearms {store : Store} {call : WorkCall} {row : WorkItem}
    (readable : Readable store) (found : store.findWork row.workKind row.workKey = some row)
    (rearms : call.Rearms row) :
    ∃ next, RowStep call row next ∧
      call.perform store = (.ok (some next), store.replaceWork row next) := by
  have valid := readable.rows row (Store.findWork_some found).1
  have claimed : ∀ {item : WorkItem}, item.Holds row →
      store.findWork item.workKind item.workKey = some row := by
    intro item held
    rw [← held.workKind, ← held.workKey]
    exact found
  cases call with
  | enqueueWork | claimWork | claimWorkKind | failWork | completeWork | recoverInterruptedWork =>
    exact rearms.elim
  | deferWork item now =>
    exact ⟨row.rearmedAt now, .deferred rearms,
      settle_held readable (claimed rearms) rearms ⟨rfl, rfl⟩ ⟨rfl, rfl⟩⟩
  | scheduleAt proved item deadline now =>
    obtain ⟨window, held⟩ := rearms
    refine ⟨row.awaitedAt now deadline, .awaited window held, ?_⟩
    have able : ¬(item.workKind ≠ .candidateObserve ∨ ¬proved = true) := by
      rw [not_or, Decidable.not_not, Decidable.not_not]
      exact window
    unfold perform SyncApp.scheduleAt
    dsimp only
    rw [if_neg able]
    exact settle_held readable (claimed held) held ⟨rfl, rfl⟩ ⟨rfl, rfl⟩
  | scheduleRoutineWork workKind workKey now =>
    obtain ⟨⟨rfl, rfl⟩, succeeded⟩ := rearms
    refine ⟨row.scheduledAt now, .scheduled succeeded, ?_⟩
    unfold perform identified SyncApp.scheduleRoutineWork
    dsimp only
    rw [valid, found]
    dsimp only
    rw [succeeded]
    dsimp only
    rw [Store.updateWork_found readable.unique found, if_pos ⟨rfl, rfl⟩]
    rfl
  | retryBlockedWork workKind workKey now =>
    obtain ⟨⟨rfl, rfl⟩, blocked⟩ := rearms
    refine ⟨row.rearmedAt now, .retried blocked, ?_⟩
    unfold perform identified SyncApp.retryBlockedWork
    dsimp only
    rw [valid, found]
    dsimp only
    rw [if_neg (not_not_intro blocked), Store.updateWork_found readable.unique found,
      if_pos ⟨rfl, rfl⟩]
    rfl

/-! ## What every call keeps -/

/-- What the claims and the recoveries rely on in a row. -/
structure WorkItem.Formed (row : WorkItem) : Prop where
  /-- Exactly a row that waits for an attempt has a time for it. -/
  scheduled : row.nextAttemptAt.isSome ↔ row.status = .pending ∨ row.status = .retry
  attempted : row.status = .running → 1 ≤ row.attempts

structure WellFormedTable (store : Store) : Prop extends Readable store where
  formed : ∀ row ∈ store.work, row.Formed

namespace WorkItem.Formed

variable {row : WorkItem}

theorem waits (timed : row.nextAttemptAt.isSome)
    (waiting : row.status = .pending ∨ row.status = .retry) : row.Formed := by
  refine ⟨iff_of_true timed waiting, fun running => ?_⟩
  rw [running] at waiting
  obtain wrong | wrong := waiting <;> cases wrong

theorem ended (untimed : row.nextAttemptAt = none)
    (settled : row.status = .succeeded ∨ row.status = .blocked) : row.Formed := by
  refine ⟨iff_of_false (by simp [untimed]) fun waiting => ?_, fun running => ?_⟩
  · obtain here | here := settled <;> rw [here] at waiting <;>
      obtain wrong | wrong := waiting <;> cases wrong
  · rw [running] at settled
    obtain wrong | wrong := settled <;> cases wrong

theorem claimed (row : WorkItem) (now : Int) : (row.claimedAt now).Formed := by
  refine ⟨iff_of_false Bool.false_ne_true fun waiting => ?_, fun _ => Nat.le_add_left 1 _⟩
  obtain wrong | wrong := waiting <;> cases wrong

theorem failed (row : WorkItem) (now : Int) (transient : Bool) :
    (row.failedAt now transient).Formed := by
  unfold failedAt
  split
  next => exact waits rfl (.inr rfl)
  next => exact ended rfl (.inr rfl)

theorem recovered (formed : row.Formed) (now : Int) : (row.recoveredAt now).Formed := by
  unfold recoveredAt
  split
  next => exact waits rfl (.inr rfl)
  next => exact formed

end WorkItem.Formed

theorem RowStep.formed {call : WorkCall} {row next : WorkItem} (step : RowStep call row next) :
    next.Formed := by
  cases step with
  | claimed | claimedKind => exact .claimed row _
  | failed held => exact .failed row _ _
  | deferred | scheduled | retried => exact .waits rfl (.inl rfl)
  | awaited => exact .waits rfl (.inr rfl)
  | completed => exact .ended rfl (.inl rfl)

section Effect

variable {store : Store} {call : WorkCall} {outcome : WorkCall.Outcome}

/-- No row disappears, and none changes its identity. -/
theorem Effect.workKeys (effect : Effect store call outcome) :
    store.workKeys <+: outcome.2.workKeys := by
  cases effect with
  | refused | nothing => exact List.prefix_rfl
  | added workKind workKey now creates absent valid =>
    rw [Store.addWork_workKeys]
    exact List.prefix_append _ _
  | stepped row next found step =>
    exact ⟨[], (List.append_nil _).trans (Store.replaceWork_workKeys step.same_key).symm⟩
  | recovered now recovers =>
    refine ⟨[], (List.append_nil _).trans ?_⟩
    exact (Store.workKeys_map fun row => row.recoveredAt_key now).symm

theorem Effect.readable (table : Readable store) (effect : Effect store call outcome) :
    Readable outcome.2 := by
  cases effect with
  | refused | nothing => exact table
  | added workKind workKey now creates absent valid =>
    refine ⟨?_, ?_⟩
    · rw [Store.addWork_workKeys]
      rw [← List.concat_eq_append]
      exact table.unique.concat (Store.findWork_none absent)
    · intro row member
      obtain there | here := List.mem_append.mp member
      · exact table.rows row there
      · cases List.mem_singleton.mp here
        exact valid
  | stepped row next found step => exact table.of_keys (Store.replaceWork_workKeys step.same_key)
  | recovered now recovers =>
    exact table.of_keys (Store.workKeys_map fun row => row.recoveredAt_key now)

theorem Effect.wellFormed (table : WellFormedTable store) (effect : Effect store call outcome) :
    WellFormedTable outcome.2 := by
  refine ⟨effect.readable table.toReadable, ?_⟩
  cases effect with
  | refused | nothing => exact table.formed
  | added workKind workKey now creates absent valid =>
    intro row member
    obtain there | here := List.mem_append.mp member
    · exact table.formed row there
    · cases List.mem_singleton.mp here
      exact .waits rfl (.inl rfl)
  | stepped row next found step =>
    intro other member
    obtain rfl | ⟨there, -⟩ :=
      (Store.mem_updateIn table.unique (Store.findWork_some found).1).mp member
    · exact step.formed
    · exact table.formed other there
  | recovered now recovers =>
    intro row member
    obtain ⟨before, there, rfl⟩ := List.mem_map.mp member
    exact (table.formed before there).recovered now

/-- A call that raises has changed nothing. -/
theorem Effect.raised (effect : Effect store call outcome) {failure : Failure}
    (raised : outcome.1 = .error failure) : outcome.2 = store := by
  cases effect with
  | refused => rfl
  | _ => cases raised

/-- What becomes of a row, beside the item that the call has claimed. -/
inductive RowFate (call : WorkCall) (issued : Option WorkItem) (row : WorkItem) :
    WorkItem → Prop where
  | kept
    (apart : ∀ item, issued = some item →
      ¬(item.workKind = row.workKind ∧ item.workKey = row.workKey)) :
    RowFate call issued row row
  | stepped (next : WorkItem) (step : RowStep call row next)
    (answer : issued = if call.claims then some next else none) :
    RowFate call issued row next
  | recovered (now : Int) (recovers : call = .recoverInterruptedWork now)
    (answer : issued = none) :
    RowFate call issued row (row.recoveredAt now)

theorem RowFate.same_key {issued : Option WorkItem} {row next : WorkItem}
    (fate : RowFate call issued row next) :
    next.workKind = row.workKind ∧ next.workKey = row.workKey := by
  cases fate with
  | kept => exact ⟨rfl, rfl⟩
  | stepped _ step => exact step.same_key
  | recovered now => exact row.recoveredAt_key now

/-- No row disappears, and what becomes of it is the call's doing. -/
theorem Effect.fate {workKind : WorkKind} {workKey : PyStr} {row : WorkItem}
    (effect : Effect store call outcome) (found : store.findWork workKind workKey = some row) :
    ∃ next, outcome.2.findWork workKind workKey = some next ∧
      RowFate call (call.issued outcome.1) row next := by
  obtain ⟨-, rfl, rfl⟩ := Store.findWork_some found
  cases effect with
  | refused failure => exact ⟨row, found, .kept fun item none => nomatch none⟩
  | nothing returned quiet =>
    refine ⟨row, found, .kept fun item claimed => ?_⟩
    cases quiet with
    | enqueued | scheduled => cases claimed
    | claimed => simp at claimed
  | added workKind workKey now creates absent valid =>
    have apart : ¬(workKind = row.workKind ∧ workKey = row.workKey) := by
      rintro ⟨rfl, rfl⟩
      rw [found] at absent
      cases absent
    refine ⟨row, (Store.findWork_add_apart apart).trans found, .kept fun item claimed => ?_⟩
    obtain rfl | rfl := creates <;> cases claimed
  | stepped other next there step =>
    by_cases here : other.workKind = row.workKind ∧ other.workKey = row.workKey
    · rw [here.1, here.2, found] at there
      cases there
      exact ⟨next, Store.findWork_replaced step.same_key found, .stepped next step rfl⟩
    · refine ⟨row, (Store.findWork_replace_apart step.same_key here).trans found,
        .kept fun item claimed => ?_⟩
      obtain ⟨-, same⟩ : call.claims = true ∧ next = item := by simpa using claimed
      rw [← same, step.same_key.1, step.same_key.2]
      exact here
  | recovered now recovers =>
    refine ⟨row.recoveredAt now, ?_, .recovered now recovers (ite_self none)⟩
    rw [Store.findWork_map (fun row => row.recoveredAt_key now), found]
    rfl

/-- A row that is new is a pending one. -/
theorem Effect.fresh {workKind : WorkKind} {workKey : PyStr} {row : WorkItem}
    (effect : Effect store call outcome) (absent : store.findWork workKind workKey = none)
    (found : outcome.2.findWork workKind workKey = some row) :
    ∃ now, row = Store.pendingWork workKind workKey now ∧ call.claims = false := by
  cases effect with
  | refused | nothing =>
    rw [absent] at found
    cases found
  | added kind key now creates absent' valid =>
    by_cases here : kind = workKind ∧ key = workKey
    · obtain ⟨rfl, rfl⟩ := here
      have added : (store.addWork (Store.pendingWork kind key now)).findWork kind key = some _ :=
        Store.findWork_added absent
      cases added.symm.trans found
      exact ⟨now, rfl, by obtain rfl | rfl := creates <;> rfl⟩
    · rw [Store.findWork_add_apart here, absent] at found
      cases found
  | stepped other next there step =>
    by_cases here : other.workKind = workKind ∧ other.workKey = workKey
    · rw [here.1, here.2, absent] at there
      cases there
    · rw [Store.findWork_replace_apart step.same_key here, absent] at found
      cases found
  | recovered now recovers =>
    rw [Store.findWork_map (fun row => row.recoveredAt_key now), absent] at found
    cases found

end Effect

end SyncApp
