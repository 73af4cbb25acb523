import Mathlib.Algebra.Group.Nat.Defs
import Mathlib.Data.List.Nodup
import SyncApp.Pipeline.State

/-!
# The work queue

The transitions of a work item as transactions of `StateStore`, and the pass every lane makes: take
up what was interrupted, claim the first eligible item, execute it and settle a failure.
-/

set_option autoImplicit false

namespace SyncApp

open Lib Raising Lane

def stateFailure (message : String) : Failure := ⟨message, false⟩

def maxWorkAttempts : Nat := 8

def maxWorkBackoffSeconds : Nat := 3600

namespace Store

variable (store : Store)

/-- `_get_work`, where the item is. -/
def findWork (workKind : WorkKind) (workKey : PyStr) : Option WorkItem :=
  store.work.find? fun item => item.workKind = workKind ∧ item.workKey = workKey

def getWork (workKind : WorkKind) (workKey : PyStr) : Except Failure WorkItem :=
  match store.findWork workKind workKey with
  | some item => .ok item
  | none => .error (stateFailure "Work record is missing")

/-- A pending item. -/
def pendingWork (workKind : WorkKind) (workKey : PyStr) (now : Int) : WorkItem :=
  ⟨workKind, workKey, .pending, 0, now, now, some now⟩

/-- `INSERT INTO work`, which the primary key may refuse. -/
def insertWork (item : WorkItem) : Except Failure Store :=
  match store.findWork item.workKind item.workKey with
  | some _ => .error (stateFailure "UNIQUE constraint failed: work.work_kind, work.work_key")
  | none => .ok { store with work := store.work ++ [item] }

/-- `UPDATE work … WHERE status = 'running' AND attempts = ?` for a claimed item. -/
def updateWork (item : WorkItem) (update : WorkItem → WorkItem) : Option Store :=
  match store.findWork item.workKind item.workKey with
  | none => none
  | some current =>
    if current.status = item.status ∧ current.attempts = item.attempts then
      some { store with
        work := store.work.map fun other =>
          if other.workKind = item.workKind ∧ other.workKey = item.workKey then update other
          else other }
    else none

end Store

/-! ## Transitions -/

/-- `enqueue_work`. -/
def enqueueWork (workKind : WorkKind) (workKey : PyStr) (now : Int) (store : Store) :
    Except Failure (WorkItem × Store) :=
  match store.findWork workKind workKey with
  | some item => .ok (item, store)
  | none =>
    let item := Store.pendingWork workKind workKey now
    .ok (item, { store with work := store.work ++ [item] })

def eligible (workKind : WorkKind) (now : Int) (item : WorkItem) : Bool :=
  item.workKind = workKind && (item.status = .pending || item.status = .retry) &&
    item.nextAttemptAt.any (· ≤ now)

/-- `ORDER BY next_attempt_at, created_at, work_key`. -/
def WorkItem.before (first second : WorkItem) : Bool :=
  let key (item : WorkItem) : Int × Int := (item.nextAttemptAt.getD 0, item.createdAt)
  if (key first).1 ≠ (key second).1 then decide ((key first).1 < (key second).1)
  else if (key first).2 ≠ (key second).2 then decide ((key first).2 < (key second).2)
  else decide (first.workKey < second.workKey)

/-- `ORDER BY … LIMIT 1`. -/
def earliest : List WorkItem → Option WorkItem
  | [] => none
  | item :: items =>
    match earliest items with
    | none => some item
    | some other => if other.before item then some other else some item

theorem mem_of_earliest {items : List WorkItem} {item : WorkItem}
    (first : earliest items = some item) : item ∈ items := by
  induction items with
  | nil => cases first
  | cons head items ih =>
    unfold earliest at first
    cases rest : earliest items with
    | none =>
      rw [rest] at first
      cases first
      exact List.mem_cons_self
    | some other =>
      rw [rest] at first
      dsimp only at first
      split at first
      · cases first
        exact List.mem_cons_of_mem _ (ih rest)
      · cases first
        exact List.mem_cons_self

/-- `claim_work_kind`. -/
def claimWorkKind (workKind : WorkKind) (now : Int) (store : Store) :
    Except Failure (Option WorkItem × Store) :=
  match earliest (store.work.filter (eligible workKind now)) with
  | none => .ok (none, store)
  | some item =>
    let claimed := { item with
      status := .running, attempts := item.attempts + 1, updatedAt := now, nextAttemptAt := none }
    match store.updateWork item fun _ => claimed with
    | none => .error (stateFailure "Work claim changed unexpectedly")
    | some store => .ok (some claimed, store)

/-- `recover_interrupted_work`, for the kinds it is run for. -/
def recoverInterruptedWork (kinds : WorkKind → Bool) (now : Int) (store : Store) : Store :=
  { store with
    work := store.work.map fun item =>
      if item.status = .running ∧ kinds item.workKind then
        { item with status := .retry, updatedAt := now, nextAttemptAt := some now }
      else item }

/-- A transition of a claimed item. -/
def settleWork (refused unchanged : String) (item : WorkItem) (update : WorkItem → WorkItem)
    (store : Store) : Except Failure (WorkItem × Store) :=
  if item.status ≠ .running ∨ item.attempts < 1 then .error (stateFailure refused)
  else
    match store.updateWork item update with
    | none => .error (stateFailure unchanged)
    | some store => .ok (update item, store)

/-- `fail_work`. -/
def failWork (item : WorkItem) (transient : Bool) (now : Int) :
    Store → Except Failure (WorkItem × Store) :=
  settleWork "Only running work can fail" "Work transition changed unexpectedly" item fun current =>
    if transient ∧ item.attempts < maxWorkAttempts then
      { current with
        status := .retry, updatedAt := now
        nextAttemptAt := some
          (now + (min (60 * 2 ^ (item.attempts - 1)) maxWorkBackoffSeconds : Nat)) }
    else { current with status := .blocked, updatedAt := now, nextAttemptAt := none }

/-- `defer_work`. -/
def deferWork (item : WorkItem) (now : Int) : Store → Except Failure (WorkItem × Store) :=
  settleWork "Only running work can be deferred" "Work transition changed unexpectedly" item
    fun current =>
      { current with status := .pending, attempts := 0, updatedAt := now, nextAttemptAt := some now }

/-- `complete_work`. -/
def completeWork (item : WorkItem) (now : Int) : Store → Except Failure (WorkItem × Store) :=
  settleWork "Only running work can complete" "Work transition changed unexpectedly" item
    fun current => { current with status := .succeeded, updatedAt := now, nextAttemptAt := none }

/-! ## What the transitions leave alone -/

/-- Which items there are. -/
def Store.workKeys (store : Store) : List (WorkKind × PyStr) :=
  store.work.map fun item => (item.workKind, item.workKey)

/-- A transaction that changes the queue alone. -/
def OnlyWork {α : Type} (change : Store → Except Failure (α × Store)) : Prop :=
  ∀ store a changed, change store = .ok (a, changed) →
    ∃ work, changed = { store with work := work }

/-- A transaction that changes the items of the queue alone, and not which there are. -/
def OnlyStatus {α : Type} (change : Store → Except Failure (α × Store)) : Prop :=
  ∀ store a changed, change store = .ok (a, changed) →
    (∃ work, changed = { store with work := work }) ∧ changed.workKeys = store.workKeys

theorem OnlyStatus.onlyWork {α : Type} {change : Store → Except Failure (α × Store)}
    (status : OnlyStatus change) : OnlyWork change :=
  fun store a changed done => (status store a changed done).1

theorem Store.updateWork_onlyWork {store changed : Store} {item : WorkItem}
    {update : WorkItem → WorkItem} (updated : store.updateWork item update = some changed) :
    ∃ work, changed = { store with work := work } := by
  unfold updateWork at updated
  split at updated
  · cases updated
  split at updated
  · cases updated
    exact ⟨_, rfl⟩
  · cases updated

/-- An update of one item that leaves its identity. -/
def KeepsKey (item : WorkItem) (update : WorkItem → WorkItem) : Prop :=
  ∀ other, other.workKind = item.workKind → other.workKey = item.workKey →
    (update other).workKind = item.workKind ∧ (update other).workKey = item.workKey

theorem Store.updateWork_onlyStatus {store changed : Store} {item : WorkItem}
    {update : WorkItem → WorkItem} (keeps : KeepsKey item update)
    (updated : store.updateWork item update = some changed) :
    (∃ work, changed = { store with work := work }) ∧ changed.workKeys = store.workKeys := by
  refine ⟨updateWork_onlyWork updated, ?_⟩
  unfold updateWork at updated
  split at updated
  · cases updated
  split at updated
  · cases updated
    unfold workKeys
    rw [List.map_map]
    refine List.map_congr_left fun other _ => ?_
    simp only [Function.comp_apply]
    split
    next here =>
      obtain ⟨kind, key⟩ := keeps other here.1 here.2
      rw [kind, key, here.1, here.2]
    next => rfl
  · cases updated

theorem claimWorkKind_onlyStatus (workKind : WorkKind) (now : Int) :
    OnlyStatus (claimWorkKind workKind now) := by
  intro store a changed claimed
  unfold claimWorkKind at claimed
  split at claimed
  · cases claimed
    exact ⟨⟨store.work, rfl⟩, rfl⟩
  dsimp only at claimed
  split at claimed
  · cases claimed
  next updated =>
    cases claimed
    refine Store.updateWork_onlyStatus ?_ updated
    exact fun _ _ _ => ⟨rfl, rfl⟩

theorem settleWork_onlyStatus {refused unchanged : String} {item : WorkItem}
    {update : WorkItem → WorkItem} (keeps : KeepsKey item update) :
    OnlyStatus (settleWork refused unchanged item update) := by
  intro store a changed settled
  unfold settleWork at settled
  split at settled
  · cases settled
  split at settled
  · cases settled
  next updated =>
    cases settled
    exact Store.updateWork_onlyStatus keeps updated

theorem failWork_onlyStatus (item : WorkItem) (transient : Bool) (now : Int) :
    OnlyStatus (failWork item transient now) := by
  refine settleWork_onlyStatus fun other kind key => ?_
  split <;> exact ⟨kind, key⟩

theorem deferWork_onlyStatus (item : WorkItem) (now : Int) : OnlyStatus (deferWork item now) :=
  settleWork_onlyStatus fun _ kind key => ⟨kind, key⟩

theorem completeWork_onlyStatus (item : WorkItem) (now : Int) :
    OnlyStatus (completeWork item now) :=
  settleWork_onlyStatus fun _ kind key => ⟨kind, key⟩

theorem recoverInterruptedWork_onlyStatus (kinds : WorkKind → Bool) (now : Int) :
    OnlyStatus fun store => .ok ((), recoverInterruptedWork kinds now store) := by
  intro store a changed recovered
  cases recovered
  refine ⟨⟨_, rfl⟩, ?_⟩
  unfold Store.workKeys recoverInterruptedWork
  rw [List.map_map]
  refine List.map_congr_left fun item _ => ?_
  simp only [Function.comp_apply]
  split <;> rfl

theorem claimWorkKind_onlyWork (workKind : WorkKind) (now : Int) :
    OnlyWork (claimWorkKind workKind now) := (claimWorkKind_onlyStatus workKind now).onlyWork

theorem failWork_onlyWork (item : WorkItem) (transient : Bool) (now : Int) :
    OnlyWork (failWork item transient now) := (failWork_onlyStatus item transient now).onlyWork

theorem completeWork_onlyWork (item : WorkItem) (now : Int) : OnlyWork (completeWork item now) :=
  (completeWork_onlyStatus item now).onlyWork

theorem recoverInterruptedWork_onlyWork (kinds : WorkKind → Bool) (now : Int) :
    OnlyWork fun store => .ok ((), recoverInterruptedWork kinds now store) :=
  (recoverInterruptedWork_onlyStatus kinds now).onlyWork

/-! ## Items by their keys -/

section Keys

variable {store : Store} {item other : WorkItem}

/-- Under the primary key, an item is the one with its key. -/
theorem Store.eq_of_key (unique : store.workKeys.Nodup) (member : item ∈ store.work)
    (there : other ∈ store.work)
    (same : other.workKind = item.workKind ∧ other.workKey = item.workKey) : other = item := by
  apply List.inj_on_of_nodup_map unique there member
  exact Prod.ext same.1 same.2

theorem Store.findWork_of_mem (unique : store.workKeys.Nodup) (member : item ∈ store.work) :
    store.findWork item.workKind item.workKey = some item := by
  unfold findWork
  cases found : store.work.find? fun other =>
      other.workKind = item.workKind ∧ other.workKey = item.workKey with
  | none =>
    have wrong := List.find?_eq_none.mp found item member
    exact absurd (decide_eq_true ⟨rfl, rfl⟩) wrong
  | some other =>
    have same : other.workKind = item.workKind ∧ other.workKey = item.workKey := by
      simpa using List.find?_some found
    exact congrArg some (eq_of_key unique member (List.mem_of_find?_eq_some found) same)

/-- The items after an update of one. -/
def WorkItem.updateIn (item : WorkItem) (update : WorkItem → WorkItem) (items : List WorkItem) :
    List WorkItem :=
  items.map fun other =>
    if other.workKind = item.workKind ∧ other.workKey = item.workKey then update other else other

theorem Store.updateWork_of_mem {update : WorkItem → WorkItem} (unique : store.workKeys.Nodup)
    (member : item ∈ store.work) :
    store.updateWork item update = some { store with work := item.updateIn update store.work } := by
  unfold updateWork
  rw [findWork_of_mem unique member]
  exact if_pos ⟨rfl, rfl⟩

/-- What an update leaves is the updated item and all the others. -/
theorem Store.mem_updateIn {update : WorkItem → WorkItem} (unique : store.workKeys.Nodup)
    (member : item ∈ store.work) :
    other ∈ item.updateIn update store.work ↔ other = update item ∨
      other ∈ store.work ∧ ¬(other.workKind = item.workKind ∧ other.workKey = item.workKey) := by
  unfold WorkItem.updateIn
  rw [List.mem_map]
  constructor
  · rintro ⟨before, there, rfl⟩
    split
    next same => exact .inl (congrArg update (eq_of_key unique member there same))
    next apart => exact .inr ⟨there, apart⟩
  · rintro (rfl | ⟨there, apart⟩)
    · exact ⟨item, member, if_pos ⟨rfl, rfl⟩⟩
    · exact ⟨other, there, if_neg apart⟩

end Keys

end SyncApp
