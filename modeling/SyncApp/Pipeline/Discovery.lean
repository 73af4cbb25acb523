import SyncApp.Lib.Ranked
import SyncApp.Pipeline.Budget

/-!
# Discovery of rollbacks

A pass of the rollback lane reads the first rollbacks that are not over, up to a limit, but claims
the first item of any rollback. Where the item's rollback is beyond the limit the pass holds it for
one without authority and gives it up, though its row is there and is not over.
-/

set_option autoImplicit false

namespace SyncApp

open Lib Raising Lane

/-! ## What is discovered -/

/-- How many rollbacks that are not over are listed before one. -/
def Store.listedAhead (store : Store) (row : DeploymentRollback) : Nat :=
  Ranked.ahead DeploymentRollback.listedBefore (store.rollbacks.filter (·.phase.retryable)) row

/-- The tables keep their primary keys. -/
structure PrimaryKeys (store : Store) : Prop where
  work : store.workKeys.Nodup
  rollbacks : (store.rollbacks.map (·.deploymentId)).Nodup

instance : Std.Total DeploymentRollback.listedBefore where
  total first second := by
    unfold DeploymentRollback.listedBefore
    obtain earlier | same | later := lt_trichotomy first.updatedAt second.updatedAt
    · exact .inl (.inl earlier)
    · by_cases before : second.deploymentId < first.deploymentId
      · exact .inr (.inr ⟨same.symm, lt_asymm before⟩)
      · exact .inl (.inr ⟨same, before⟩)
    · exact .inr (.inl later)

instance : IsTrans DeploymentRollback DeploymentRollback.listedBefore where
  trans first second third one two := by
    unfold DeploymentRollback.listedBefore at one two ⊢
    obtain one | ⟨same, here⟩ := one
    · obtain two | ⟨same', -⟩ := two
      · exact .inl (one.trans two)
      · exact .inl (same' ▸ one)
    · obtain two | ⟨same', there⟩ := two
      · exact .inl (same ▸ two)
      · exact .inr ⟨same.trans same', not_lt.mpr ((not_lt.mp here).trans (not_lt.mp there))⟩

section Discovery

variable {store : Store} {row other : DeploymentRollback}

/-- A row by its deployment. -/
theorem PrimaryKeys.eq_of_id (keys : PrimaryKeys store) (member : row ∈ store.rollbacks)
    (there : other ∈ store.rollbacks) (same : other.deploymentId = row.deploymentId) :
    other = row :=
  List.inj_on_of_nodup_map keys.rollbacks there member same

theorem mem_of_listed (listed : row ∈ listRetryableRollbacks store) :
    row ∈ store.rollbacks ∧ row.phase.retryable = true := by
  have sorted := List.mem_of_mem_take listed
  rw [List.mem_insertionSort] at sorted
  exact List.mem_filter.mp sorted

/-- A rollback that is not over is discovered exactly when it comes before the limit. -/
theorem listed_iff (keys : PrimaryKeys store) (member : row ∈ store.rollbacks)
    (live : row.phase.retryable = true) :
    row ∈ listRetryableRollbacks store ↔ store.listedAhead row < maxDiscoveredRollbacks := by
  refine Ranked.mem_take_insertionSort_iff ?_ ?_ (List.mem_filter.mpr ⟨member, live⟩)
    maxDiscoveredRollbacks
  · exact (List.Nodup.of_map _ keys.rollbacks).filter _
  · intro one here two there first second
    refine keys.eq_of_id (List.mem_filter.mp there).1 (List.mem_filter.mp here).1 ?_
    obtain earlier | ⟨same, before⟩ := first
    · obtain later | ⟨same, -⟩ := second
      · exact absurd later (lt_asymm earlier)
      · exact absurd same (ne_of_gt earlier)
    · obtain later | ⟨-, after⟩ := second
      · exact absurd same (ne_of_gt later)
      · exact le_antisymm (not_lt.mp before) (not_lt.mp after)

/-- What a pass finds of the rollback that an item is for. -/
theorem find_listed (keys : PrimaryKeys store) (member : row ∈ store.rollbacks)
    (live : row.phase.retryable = true) :
    (listRetryableRollbacks store).find? (·.deploymentId = row.deploymentId) =
      if store.listedAhead row < maxDiscoveredRollbacks then some row else none := by
  have only : ∀ other ∈ listRetryableRollbacks store, other.deploymentId = row.deploymentId →
      other = row := fun other listed => keys.eq_of_id member (mem_of_listed listed).1
  split
  next within =>
    have listed := (listed_iff keys member live).mpr within
    cases found : (listRetryableRollbacks store).find? (·.deploymentId = row.deploymentId) with
    | none =>
      have missing := List.find?_eq_none.mp found row listed
      exact absurd (decide_eq_true rfl) missing
    | some other =>
      have same : other.deploymentId = row.deploymentId := by simpa using List.find?_some found
      exact congrArg some (only other (List.mem_of_find?_eq_some found) same)
  next beyond =>
    rw [List.find?_eq_none]
    intro other listed same
    have here := only other listed (of_decide_eq_true same)
    exact beyond ((listed_iff keys member live).mp (here ▸ listed))

end Discovery

/-! ## What a pass does with the item it claims -/

section Pass

variable (fromisoformat : String → Option DateTime) (access : RollbackAccess) (target : PyStr)
  (now : Int) (s : System) (item : WorkItem) (row : DeploymentRollback)

/-- The claim of a pass comes with this rollback. -/
def ClaimedWith : Prop :=
  ((claimDiscoveredWork (listRetryableRollbacks s.store) now).eval s).1 =
    .ok (some (item.claimed now, row))

/-- The pass goes on to poll this rollback, under the item it claimed. -/
def Processes : Prop :=
  (runDeploymentRollbackRetriggerPass fromisoformat access target now).eval s =
    (runClaimedRollback fromisoformat (passAccess access) (item.claimed now) row now >>=
      fun _ => pure (some row.deploymentId) : Lane (Option PyStr)).eval
        { s with store := s.store.claimedBy item now }

/-- The pass blocks the item it claimed. -/
def GivesUpClaim : Prop :=
  ∃ after, (runDeploymentRollbackRetriggerPass fromisoformat access target now).eval s =
      (.error (retriggerError "claimed rollback work has no durable authority"), after) ∧
    after.store.rollbacks = s.store.rollbacks ∧
    ∃ blocked ∈ after.store.work, blocked.workKind = .deploymentRollback ∧
      blocked.workKey = item.workKey ∧ blocked.status = .blocked

variable {fromisoformat access target now s item row}

/-- A pass that claims an item. -/
theorem eval_pass (unique : s.store.workKeys.Nodup) (claims : Claims access target s.store)
    (first : s.store.firstRollbackWork now = some item) :
    (runDeploymentRollbackRetriggerPass fromisoformat access target now).eval s =
      (claimDiscoveredWork.discovered (listRetryableRollbacks s.store) now (item.claimed now) >>=
        fun claimed => match claimed with
          | none => (pure none : Lane (Option PyStr))
          | some (item, rollback) => do
            let _ ← runClaimedRollback fromisoformat (passAccess access) item rollback now
            return some rollback.deploymentId).eval
        { s with store := s.store.claimedBy item now } := by
  obtain ⟨known, listed, valid⟩ := claims
  unfold runDeploymentRollbackRetriggerPass
  rw [eval_bind_ok (eval_ensure known)]
  rw [eval_bind_ok (eval_query (a := listRetryableRollbacks s.store) rfl)]
  rw [if_neg listed, valid, eval_bind_ok rfl, eval_bind, eval_claimDiscoveredWork unique, first]
  exact (eval_bind ..).symm

theorem processes_of_found (unique : s.store.workKeys.Nodup) (claims : Claims access target s.store)
    (first : s.store.firstRollbackWork now = some item)
    (found : (listRetryableRollbacks s.store).find? (·.deploymentId = item.workKey) = some row) :
    ClaimedWith now s item row ∧ Processes fromisoformat access target now s item row := by
  constructor
  · unfold ClaimedWith
    rw [eval_claimDiscoveredWork unique, first]
    dsimp only
    rw [eval_discovered found]
  · exact (eval_pass unique claims first).trans (eval_bind_ok (eval_discovered found _))

theorem givesUpClaim_of_absent (unique : s.store.workKeys.Nodup)
    (claims : Claims access target s.store)
    (first : s.store.firstRollbackWork now = some item)
    (absent : (listRetryableRollbacks s.store).find? (·.deploymentId = item.workKey) = none) :
    ¬ClaimedWith now s item row ∧ GivesUpClaim fromisoformat access target now s item := by
  have keys : (s.store.claimedBy item now).workKeys.Nodup := claimedBy_unique unique item
  have member := claimedBy_member unique first
  obtain ⟨work, tables⟩ := (sameWork_discovered s.store now).work
  constructor
  · unfold ClaimedWith
    rw [eval_claimDiscoveredWork unique, first]
    dsimp only
    rw [eval_undiscovered keys member absent]
    exact nofun
  · refine ⟨_, (eval_pass unique claims first).trans
      (eval_bind_error (eval_undiscovered keys member absent)), ?_, ?_⟩
    · unfold Store.claimedBy
      rw [tables]
    · refine ⟨settledItem (item.claimed now) now (some false) (item.claimed now),
        (Store.mem_updateIn keys member).mpr (.inl rfl), ?_, ?_, ?_⟩
      · rw [(settledItem_keeps _ _ _).1]
        exact (firstRollbackWork_some first).2
      · exact (settledItem_keeps _ _ _).2
      · unfold settledItem
        simp

/-- **A pass processes the rollback it claimed, where that is not over, exactly when fewer rollbacks
than it discovers are listed before it.** Otherwise it blocks the item as one without authority. -/
theorem claimed_rollback_processed_iff (keys : PrimaryKeys s.store)
    (claims : Claims access target s.store) (first : s.store.firstRollbackWork now = some item)
    (found : s.rollback item.workKey = some row) (live : row.phase.retryable = true) :
    (ClaimedWith now s item row ↔ s.store.listedAhead row < maxDiscoveredRollbacks) ∧
      (s.store.listedAhead row < maxDiscoveredRollbacks →
        Processes fromisoformat access target now s item row) ∧
      (maxDiscoveredRollbacks ≤ s.store.listedAhead row →
        GivesUpClaim fromisoformat access target now s item) := by
  have member := List.mem_of_find?_eq_some found
  have here : row.deploymentId = item.workKey := by simpa using List.find?_some found
  have looked := find_listed keys member live
  rw [here] at looked
  by_cases within : s.store.listedAhead row < maxDiscoveredRollbacks
  · rw [if_pos within] at looked
    obtain ⟨claimed, processed⟩ : ClaimedWith now s item row ∧
        Processes fromisoformat access target now s item row :=
      processes_of_found keys.work claims first looked
    exact ⟨iff_of_true claimed within, fun _ => processed,
      fun beyond => absurd within (Nat.not_lt.mpr beyond)⟩
  · rw [if_neg within] at looked
    obtain ⟨claimed, gives_up⟩ := givesUpClaim_of_absent keys.work claims first looked
    exact ⟨iff_of_false claimed within, fun inside => absurd inside within, fun _ => gives_up⟩

end Pass

/-! ## A rollback that others have overtaken -/

/-- A rollback whose work was given up while its restore went on. -/
def stuckRollback (row : DeploymentRollback) (n : Nat) : DeploymentRollback :=
  { row with
    deploymentId := text "stuck" ++ [n], phase := .restoreAcknowledged, attemptCount := 8
    updatedAt := n - 40 }

def stuckWork (n : Nat) : WorkItem :=
  { Store.pendingWork .deploymentRollback (text "stuck" ++ [n]) 0 with
    status := .blocked, attempts := 8, nextAttemptAt := none }

/-- A rollback that was just authorized, 31 that are stuck, and one more that is authorized later. -/
def crowdedHome : System :=
  { runningHome with
    store := { runningHome.store with
      rollbacks := runningHome.store.rollbacks.flatMap fun row =>
        row :: { row with deploymentId := text "later", updatedAt := 1 } ::
          (List.range 31).map (stuckRollback row)
      work := (List.range 31).map stuckWork } }

/-- The first rollback has been polled once. -/
def overtakenHome : System := hourlyPass 1 crowdedHome

/-- The item a pass claims first, and its rollback. -/
theorem exists_first {s : System} {now : Int} {holds : WorkItem → DeploymentRollback → Bool}
    (decided : (s.store.firstRollbackWork now).any (fun item =>
      (s.rollback item.workKey).any (holds item)) = true) :
    ∃ item row, s.store.firstRollbackWork now = some item ∧
      s.rollback item.workKey = some row ∧ holds item row = true := by
  obtain ⟨item, first, there⟩ := (Option.any_eq_true _ _).mp decided
  obtain ⟨row, found, here⟩ := (Option.any_eq_true _ _).mp there
  exact ⟨item, row, first, found, here⟩

theorem claimed_rollback_processed_crowded :
    ∃ item row, crowdedHome.store.firstRollbackWork 4000 = some item ∧
      ClaimedWith 4000 crowdedHome item row := by
  have keys : PrimaryKeys crowdedHome.store := ⟨by decide, by decide⟩
  have claims : Claims failedAccess failedTarget crowdedHome.store :=
    ⟨by decide, by decide, by decide⟩
  obtain ⟨item, row, first, found, live⟩ : ∃ item row,
      crowdedHome.store.firstRollbackWork 4000 = some item ∧
        crowdedHome.rollback item.workKey = some row ∧
        (decide (row.phase.retryable = true ∧
          crowdedHome.store.listedAhead row < maxDiscoveredRollbacks)) = true :=
    exists_first (by decide)
  obtain ⟨live, within⟩ := of_decide_eq_true live
  have processed : (ClaimedWith 4000 crowdedHome item row ↔ _) ∧
      (_ → Processes startedNow failedAccess failedTarget 4000 crowdedHome item row) ∧ _ :=
    claimed_rollback_processed_iff keys claims first found live
  exact ⟨item, row, first, processed.1.mpr within⟩

/-- The second pass claims the rollback that the first one polled, and gives it up. -/
theorem overtaken_rollback_given_up :
    ¬∀ (access : RollbackAccess) (target : PyStr) (now : Int) (s : System) (item : WorkItem)
      (row : DeploymentRollback), PrimaryKeys s.store → Claims access target s.store →
      s.store.firstRollbackWork now = some item → s.rollback item.workKey = some row →
      row.phase.retryable = true → ClaimedWith now s item row := by
  intro processed
  have keys : PrimaryKeys overtakenHome.store := ⟨by decide, by decide⟩
  have claims : Claims failedAccess failedTarget overtakenHome.store :=
    ⟨by decide, by decide, by decide⟩
  obtain ⟨item, row, first, found, here⟩ : ∃ item row,
      overtakenHome.store.firstRollbackWork 8000 = some item ∧
        overtakenHome.rollback item.workKey = some row ∧
        (row.phase.retryable && ((listRetryableRollbacks overtakenHome.store).find?
          (·.deploymentId = item.workKey)).isNone) = true :=
    exists_first (by decide)
  rw [Bool.and_eq_true, Option.isNone_iff_eq_none] at here
  have given_up : ¬ClaimedWith 8000 overtakenHome item row ∧
      GivesUpClaim startedNow failedAccess failedTarget 8000 overtakenHome item :=
    givesUpClaim_of_absent keys.work claims first here.2
  exact given_up.1
    (processed failedAccess failedTarget 8000 overtakenHome item row keys claims first found here.1)

end SyncApp
