import SyncApp.Pipeline.Polls

/-!
# The budget of a rollback

Every poll that does not end a rollback is a failed attempt of its work, also where the restore goes
on as it should, and a poll that is refused for good blocks the work at once. So the work and the row
agree, blocked work only beside a row that has ended, exactly as long as each pass that claims a
rollback's work either ends the rollback, or is not refused and comes before the last attempt.
-/

set_option autoImplicit false

namespace SyncApp

open Lib Raising Lane

/-! ## The condition on a pass -/

/-- Each of these deployments has its work. -/
def Store.enqueueRollbacks (now : Int) : List PyStr → Store → Store
  | [], store => store
  | deploymentId :: deploymentIds, store =>
    enqueueRollbacks now deploymentIds
      (match store.findWork .deploymentRollback deploymentId with
        | some _ => store
        | none => { store with
            work := store.work ++ [Store.pendingWork .deploymentRollback deploymentId now] })

/-- The rollbacks that a pass discovers, in the order of their deployments. -/
def Store.discoveredIds (store : Store) : List PyStr :=
  ((listRetryableRollbacks store).map (·.deploymentId)).insertionSort fun first second =>
    ¬second < first

/-- The work that a pass finds to claim: that of every rollback it discovers, with what was
interrupted taken up. -/
def Store.discovered (store : Store) (now : Int) : Store :=
  recoverInterruptedRollbackWork store.discoveredIds now
    (store.enqueueRollbacks now store.discoveredIds)

/-- The work that comes first. -/
def Store.firstRollbackWork (store : Store) (now : Int) : Option WorkItem :=
  earliest ((store.discovered now).work.filter (eligible .deploymentRollback now))

/-- The pass gets as far as to claim work. -/
def Claims (access : RollbackAccess) (target : PyStr) (store : Store) : Prop :=
  slash ∈ target ∧ listRetryableRollbacks store ≠ [] ∧ validatePassAccess access = .ok ()

/-- A poll ends the rollback, or is not refused and comes before the last attempt. -/
def PollKeeps (comes : Poll) (attempts : Nat) : Prop :=
  match comes with
  | .ends => True
  | .goesOn => attempts < maxWorkAttempts
  | .refused => False

/-- **The condition on a pass**: what it claims first is work of a rollback that it discovered, and
the poll keeps to the budget. -/
def PassKeeps (fromisoformat : String → Option DateTime) (access : RollbackAccess) (target : PyStr)
    (now : Int) (s : System) : Prop :=
  Claims access target s.store → ∀ item, s.store.firstRollbackWork now = some item →
    match (listRetryableRollbacks s.store).find? (·.deploymentId = item.workKey) with
    | none => ∃ row, s.rollback item.workKey = some row ∧ row.phase.terminal = true
    | some row =>
      PollKeeps (poll fromisoformat (passAccess access) s.answers row now) (item.attempts + 1)

/-- Work that is blocked is that of a rollback that has ended. -/
def Agrees (s : System) : Prop :=
  ∀ item ∈ s.store.work, item.workKind = .deploymentRollback → item.status = .blocked →
    ∃ row, s.rollback item.workKey = some row ∧ row.phase.terminal = true

/-! ## Passes -/

/-- What holds between the passes: every rollback has its authority, and work has its primary key. -/
structure Rested (last : Int) (s : System) : Prop where
  sound : AllHeld last s
  unique : s.store.workKeys.Nodup

/-- Work that goes by the rows of the deployments. -/
def AgreesOn (rollback : PyStr → Option DeploymentRollback) (item : WorkItem) : Prop :=
  item.workKind = .deploymentRollback → item.status = .blocked →
    ∃ row, rollback item.workKey = some row ∧ row.phase.terminal = true

section Passes

variable {s t : System} {last now : Int}

theorem agrees_iff : Agrees s ↔ ∀ item ∈ s.store.work, AgreesOn s.rollback item := Iff.rfl

/-! ### Discovery -/

/-- A store that differs in its work, and in nothing a key tells. -/
structure SameWork (first second : Store) : Prop where
  work : ∃ work, second = { first with work := work }
  unique : first.workKeys.Nodup → second.workKeys.Nodup
  blocked : ∀ item ∈ second.work, item.status = .blocked → item ∈ first.work

theorem SameWork.refl (store : Store) : SameWork store store :=
  ⟨⟨store.work, rfl⟩, fun unique => unique, fun _ member _ => member⟩

theorem SameWork.trans {first second third : Store} (one : SameWork first second)
    (two : SameWork second third) : SameWork first third where
  work := by
    obtain ⟨_, rfl⟩ := one.work
    obtain ⟨work, rfl⟩ := two.work
    exact ⟨work, rfl⟩
  unique := fun unique => two.unique (one.unique unique)
  blocked := fun item member blocked => one.blocked item (two.blocked item member blocked) blocked

theorem sameWork_enqueueRollbacks (now : Int) (deploymentIds : List PyStr) (store : Store) :
    SameWork store (store.enqueueRollbacks now deploymentIds) := by
  induction deploymentIds generalizing store with
  | nil => exact .refl store
  | cons deploymentId deploymentIds ih =>
    refine SameWork.trans ?_ (ih _)
    cases found : store.findWork .deploymentRollback deploymentId with
    | some item => exact .refl store
    | none =>
      refine ⟨⟨_, rfl⟩, fun unique => ?_, fun item member blocked => ?_⟩
      · unfold Store.workKeys at unique ⊢
        rw [List.map_append]
        refine List.nodup_append.mpr ⟨unique, List.nodup_singleton _, ?_⟩
        rintro key old _ new rfl
        obtain ⟨item, member, same⟩ := List.mem_map.mp old
        obtain ⟨kind, here⟩ := Prod.mk.inj (same.trans (List.mem_singleton.mp new))
        exact absurd (decide_eq_true ⟨kind, here⟩) (List.find?_eq_none.mp found item member)
      · rcases List.mem_append.mp member with old | new
        · exact old
        · obtain rfl := List.mem_singleton.mp new
          cases blocked

theorem sameWork_recover (deploymentIds : List PyStr) (now : Int) (store : Store) :
    SameWork store (recoverInterruptedRollbackWork deploymentIds now store) := by
  have keys : (recoverInterruptedRollbackWork deploymentIds now store).workKeys = store.workKeys := by
    unfold Store.workKeys recoverInterruptedRollbackWork
    rw [List.map_map]
    refine List.map_congr_left fun item _ => ?_
    simp only [Function.comp_apply]
    split <;> rfl
  refine ⟨⟨_, rfl⟩, fun unique => keys ▸ unique, fun item member blocked => ?_⟩
  obtain ⟨before, old, same⟩ := List.mem_map.mp member
  split at same
  · subst same
    cases blocked
  · exact same ▸ old

theorem sameWork_discovered (store : Store) (now : Int) : SameWork store (store.discovered now) :=
  (sameWork_enqueueRollbacks now _ store).trans (sameWork_recover _ now _)

theorem eval_enqueueRollbacks (now : Int) (deploymentIds : List PyStr) (s : System) :
    (enqueueRollbacks now deploymentIds).eval s =
      (.ok (), { s with store := s.store.enqueueRollbacks now deploymentIds }) := by
  induction deploymentIds generalizing s with
  | nil => rfl
  | cons deploymentId deploymentIds ih =>
    cases found : s.store.findWork .deploymentRollback deploymentId with
    | some item =>
      have enqueued : (transaction (enqueueWork .deploymentRollback deploymentId now)).eval s =
          (.ok item, s) := by
        refine eval_transaction ?_
        unfold enqueueWork
        rw [found]
      refine (eval_bind_ok enqueued).trans ((ih s).trans ?_)
      conv_rhs => unfold Store.enqueueRollbacks
      rw [found]
    | none =>
      have enqueued : (transaction (enqueueWork .deploymentRollback deploymentId now)).eval s =
          (.ok (Store.pendingWork .deploymentRollback deploymentId now), { s with
            store := { s.store with
              work := s.store.work ++ [Store.pendingWork .deploymentRollback deploymentId now] } }) := by
        refine eval_transaction ?_
        unfold enqueueWork
        rw [found]
      refine (eval_bind_ok enqueued).trans ((ih _).trans ?_)
      conv_rhs => unfold Store.enqueueRollbacks
      rw [found]

/-- The item that a pass claims. -/
def WorkItem.claimed (item : WorkItem) (now : Int) : WorkItem :=
  { item with
    status := .running, attempts := item.attempts + 1, updatedAt := now, nextAttemptAt := none }

/-- The database once an item was claimed. -/
def Store.claimedBy (store : Store) (item : WorkItem) (now : Int) : Store :=
  { store.discovered now with
    work := item.updateIn (fun _ => item.claimed now) (store.discovered now).work }

theorem firstRollbackWork_some {store : Store} {item : WorkItem}
    (first : store.firstRollbackWork now = some item) :
    item ∈ (store.discovered now).work ∧ item.workKind = .deploymentRollback := by
  obtain ⟨member, waits⟩ := List.mem_filter.mp (mem_of_earliest first)
  simp only [eligible, Bool.and_eq_true, decide_eq_true_eq] at waits
  exact ⟨member, waits.1.1⟩

theorem eval_claimDiscoveredWork (unique : s.store.workKeys.Nodup) :
    (claimDiscoveredWork (listRetryableRollbacks s.store) now).eval s =
      match s.store.firstRollbackWork now with
      | none => (.ok none, { s with store := s.store.discovered now })
      | some item =>
        (claimDiscoveredWork.discovered (listRetryableRollbacks s.store) now (item.claimed now)).eval
          { s with store := s.store.claimedBy item now } := by
  unfold claimDiscoveredWork
  refine (eval_bind_ok (eval_enqueueRollbacks now _ s)).trans ?_
  refine (eval_bind_ok rfl).trans ?_
  have claims : claimWorkKind .deploymentRollback now (s.store.discovered now) =
      match s.store.firstRollbackWork now with
      | none => .ok (none, s.store.discovered now)
      | some item => .ok (some (item.claimed now), s.store.claimedBy item now) := by
    unfold claimWorkKind Store.firstRollbackWork
    cases first : earliest ((s.store.discovered now).work.filter (eligible .deploymentRollback now)) with
    | none => rfl
    | some item =>
      have member := (firstRollbackWork_some first).1
      dsimp only
      rw [Store.updateWork_of_mem ((sameWork_discovered s.store now).unique unique) member]
      rfl
  cases first : s.store.firstRollbackWork now with
  | none =>
    rw [first] at claims
    exact (eval_bind_ok (eval_transaction claims)).trans rfl
  | some item =>
    rw [first] at claims
    exact (eval_bind_ok (eval_transaction claims)).trans rfl

/-! ### Settling -/

/-- A claimed item is settled. -/
theorem eval_settleWork {refused unchanged : String} {item : WorkItem}
    {update : WorkItem → WorkItem} (unique : s.store.workKeys.Nodup) (member : item ∈ s.store.work)
    (running : item.status = .running) (attempted : 1 ≤ item.attempts) :
    (transaction (settleWork refused unchanged item update)).eval s =
      (.ok (update item), { s with
        store := { s.store with work := item.updateIn update s.store.work } }) := by
  refine eval_transaction ?_
  unfold settleWork
  rw [if_neg (by simp [running]; omega), Store.updateWork_of_mem unique member]

/-- What is blocked after an item was settled goes by that item. -/
theorem agrees_updateIn {store : Store} {item : WorkItem} {update : WorkItem → WorkItem}
    {rollback : PyStr → Option DeploymentRollback} (unique : store.workKeys.Nodup)
    (member : item ∈ store.work) (kind : item.workKind = .deploymentRollback)
    (keeps : (update item).workKind = item.workKind ∧ (update item).workKey = item.workKey)
    (others : ∀ other ∈ store.work, other ≠ item → AgreesOn rollback other) :
    (∀ other ∈ item.updateIn update store.work, AgreesOn rollback other) ↔
      ((update item).status = .blocked →
        ∃ row, rollback item.workKey = some row ∧ row.phase.terminal = true) := by
  constructor
  · intro agrees blocked
    have here := agrees (update item) ((Store.mem_updateIn unique member).mpr (.inl rfl))
    rw [← keeps.2]
    exact here (keeps.1.trans kind) blocked
  · intro agrees other there
    rcases (Store.mem_updateIn unique member).mp there with rfl | ⟨old, apart⟩
    · intro _ blocked
      rw [keeps.2]
      exact agrees blocked
    · refine others other old fun same => apart ?_
      rw [same]
      exact ⟨rfl, rfl⟩

/-- What is known where a pass has claimed its item. -/
structure Claimed (last now : Int) (item : WorkItem) (s : System) : Prop where
  sound : AllHeld last s
  unique : s.store.workKeys.Nodup
  member : item.claimed now ∈ s.store.work
  kind : item.workKind = .deploymentRollback
  others : ∀ other ∈ s.store.work, other ≠ item.claimed now → AgreesOn s.rollback other

/-- A claim leaves the keys. -/
theorem claimedBy_unique (unique : s.store.workKeys.Nodup) (item : WorkItem) :
    (s.store.claimedBy item now).workKeys.Nodup := by
  have keys : (s.store.claimedBy item now).workKeys = (s.store.discovered now).workKeys := by
    unfold Store.workKeys Store.claimedBy WorkItem.updateIn
    rw [List.map_map]
    refine List.map_congr_left fun other _ => ?_
    simp only [Function.comp_apply]
    split
    next here => exact Prod.ext here.1.symm here.2.symm
    next => rfl
  rw [keys]
  exact (sameWork_discovered s.store now).unique unique

theorem claimedBy_member {item : WorkItem} (unique : s.store.workKeys.Nodup)
    (first : s.store.firstRollbackWork now = some item) :
    item.claimed now ∈ (s.store.claimedBy item now).work :=
  (Store.mem_updateIn ((sameWork_discovered s.store now).unique unique)
    (firstRollbackWork_some first).1).mpr (.inl rfl)

theorem claimed_of_first {item : WorkItem} (rested : Rested last s) (agrees : Agrees s)
    (first : s.store.firstRollbackWork now = some item) :
    Claimed last now item { s with store := s.store.claimedBy item now } := by
  have same := sameWork_discovered s.store now
  obtain ⟨member, kind⟩ := firstRollbackWork_some first
  have unique := same.unique rested.unique
  obtain ⟨work, tables⟩ := same.work
  have rows : (s.store.claimedBy item now).rollbacks = s.store.rollbacks := by
    unfold Store.claimedBy
    rw [tables]
  refine ⟨rested.sound.congr rows ?_, claimedBy_unique rested.unique item,
    claimedBy_member rested.unique first, kind, fun other there apart => ?_⟩
  · unfold Store.claimedBy
    rw [tables]
    exact ⟨rfl, rfl, rfl, rfl, rfl⟩
  · rcases (Store.mem_updateIn unique member).mp there with wrong | ⟨old, _⟩
    · exact absurd wrong apart
    · intro rollback blocked
      rw [rollback_congr rows]
      exact agrees other (same.blocked other old blocked) rollback blocked

/-- What a poll makes of the item that was claimed for it. -/
def settledItem (item : WorkItem) (now : Int) : Option Bool → WorkItem → WorkItem
  | some transient => fun current =>
    if transient ∧ item.attempts < maxWorkAttempts then
      { current with
        status := .retry, updatedAt := now
        nextAttemptAt := some
          (now + (min (60 * 2 ^ (item.attempts - 1)) maxWorkBackoffSeconds : Nat)) }
    else { current with status := .blocked, updatedAt := now, nextAttemptAt := none }
  | none => fun current =>
    { current with status := .succeeded, updatedAt := now, nextAttemptAt := none }

theorem settledItem_keeps (item : WorkItem) (booking : Option Bool) (current : WorkItem) :
    (settledItem item now booking current).workKind = current.workKind ∧
      (settledItem item now booking current).workKey = current.workKey := by
  unfold settledItem
  split
  · split
    · exact ⟨rfl, rfl⟩
    · exact ⟨rfl, rfl⟩
  · exact ⟨rfl, rfl⟩

variable (fromisoformat : String → Option DateTime) {access : RollbackAccess}
  {plan : PostDeploymentAssertionPlan} {row : DeploymentRollback} {item : WorkItem}

/-- A poll is booked on the item that was claimed for it. -/
theorem eval_runClaimedRollback {result : Except Failure (Option RollbackRestoreResult)}
    (unique : t.store.workKeys.Nodup) (member : item ∈ t.store.work)
    (running : item.status = .running) (attempted : 1 ≤ item.attempts)
    (ran : (pollRollback fromisoformat access row now).eval s = (result, t)) :
    ((runClaimedRollback fromisoformat access item row now).eval s).2 = { t with
      store := { t.store with
        work := item.updateIn (settledItem item now (bookedPoll result)) t.store.work } } := by
  have fails : ∀ transient, (transaction (failWork item transient now)).eval t =
      (.ok (settledItem item now (some transient) item), { t with
        store := { t.store with
          work := item.updateIn (settledItem item now (some transient)) t.store.work } }) :=
    fun transient => eval_settleWork unique member running attempted
  unfold runClaimedRollback
  cases result with
  | error failure =>
    rw [eval_bind, eval_tryCatch_error ran, eval_bind_ok (fails failure.transient)]
    rfl
  | ok outcome =>
    rw [eval_bind_ok (eval_tryCatch_ok ran)]
    cases outcome with
    | none =>
      unfold settleRollbackPoll
      dsimp only
      rw [fails true]
      rfl
    | some outcome =>
      unfold settleRollbackPoll bookedPoll booked
      dsimp only
      split
      · rw [fails false]
      · split
        · rw [fails true]
        · exact congrArg Prod.snd (eval_settleWork unique member running attempted)

/-- Settling an item leaves the rows and the keys. -/
theorem rested_settled (booking : Option Bool) (sound : AllHeld now t)
    (unique : t.store.workKeys.Nodup) : Rested now { t with
      store := { t.store with work := item.updateIn (settledItem item now booking) t.store.work } } := by
  refine ⟨sound.congr rfl ⟨rfl, rfl, rfl, rfl, rfl⟩, ?_⟩
  have keys : (item.updateIn (settledItem item now booking) t.store.work).map
      (fun other => (other.workKind, other.workKey)) = t.store.workKeys := by
    unfold WorkItem.updateIn Store.workKeys
    rw [List.map_map]
    refine List.map_congr_left fun other _ => ?_
    simp only [Function.comp_apply]
    split
    · exact Prod.ext (settledItem_keeps _ _ other).1 (settledItem_keeps _ _ other).2
    · rfl
  show ((item.updateIn (settledItem item now booking) t.store.work).map
    fun other => (other.workKind, other.workKey)).Nodup
  rw [keys]
  exact unique

theorem agrees_runClaimedRollback (claimed : Claimed last now item s) (later : last ≤ now)
    (here : row.deploymentId = item.workKey) (held : Held plan row s)
    (listed : row.phase.retryable = true) (limits : access.validateLimits = .ok ()) :
    let after := ((runClaimedRollback fromisoformat access (item.claimed now) row now).eval s).2
    Rested now after ∧
      (Agrees after ↔ PollKeeps (poll fromisoformat access s.answers row now) (item.attempts + 1)) := by
  obtain ⟨result, t, ran, polled, goes, refused⟩ :=
    comes_pollRollback fromisoformat claimed.sound later held listed limits
  have unique : t.store.workKeys.Nodup := by
    unfold Store.workKeys
    rw [polled.work]
    exact claimed.unique
  have member : item.claimed now ∈ t.store.work := by
    rw [polled.work]
    exact claimed.member
  have settled := eval_runClaimedRollback fromisoformat unique member rfl
    (Nat.succ_le_succ (Nat.zero_le item.attempts)) ran
  have others : ∀ other ∈ t.store.work, other ≠ item.claimed now → AgreesOn t.rollback other := by
    intro other there differs kind blocked
    have apart : other.workKey ≠ row.deploymentId := fun same =>
      differs (Store.eq_of_key unique member there
        ⟨kind.trans claimed.kind.symm, same.trans here⟩)
    rw [polled.apart other.workKey apart]
    rw [polled.work] at there
    exact claimed.others other there differs kind blocked
  obtain ⟨row', found, terminal⟩ := polled.here
  rw [here] at found
  dsimp only
  rw [settled]
  constructor
  · exact rested_settled _ polled.sound unique
  · refine (agrees_updateIn unique member claimed.kind
      (settledItem_keeps (item.claimed now) (bookedPoll result) (item.claimed now)) others).trans ?_
    cases comes : poll fromisoformat access s.answers row now with
    | ends => exact ⟨fun _ => trivial, fun _ _ => ⟨row', found, terminal.mpr comes⟩⟩
    | goesOn =>
      have unended : ¬∃ row, t.rollback (item.claimed now).workKey = some row ∧
          row.phase.terminal = true := by
        rintro ⟨other, same, ended⟩
        obtain rfl := Option.some.inj (found.symm.trans same)
        exact nomatch comes.symm.trans (terminal.mp ended)
      rw [goes comes]
      unfold settledItem PollKeeps
      by_cases left : (item.claimed now).attempts < maxWorkAttempts
      · simp [left, show item.attempts + 1 < maxWorkAttempts from left]
      · simp only [left, and_false, if_false, true_implies]
        exact ⟨fun ended => absurd ended unended, fun wrong => absurd wrong left⟩
    | refused =>
      have unended : ¬∃ row, t.rollback (item.claimed now).workKey = some row ∧
          row.phase.terminal = true := by
        rintro ⟨other, same, ended⟩
        obtain rfl := Option.some.inj (found.symm.trans same)
        exact nomatch comes.symm.trans (terminal.mp ended)
      rw [refused comes]
      unfold settledItem PollKeeps
      simpa using unended

theorem passAccess_validateLimits (access : RollbackAccess) :
    (passAccess access).validateLimits = .ok () := by
  unfold RollbackAccess.validateLimits passAccess
  refine if_neg ?_
  show ¬((60 : Rat) ≤ 0 ∨ (60 : Rat) < 60 ∨ 64 * 1024 = 0 ∨ 1024 * 1024 < 64 * 1024)
  decide

/-- What a pass lists is a row of the table, in a phase that goes on. -/
theorem find_listRetryableRollbacks {store : Store} {deploymentId : PyStr}
    (found : (listRetryableRollbacks store).find? (·.deploymentId = deploymentId) = some row) :
    row ∈ store.rollbacks ∧ row.phase.retryable = true ∧ row.deploymentId = deploymentId := by
  have listed := List.mem_of_mem_take (List.mem_of_find?_eq_some found)
  rw [List.mem_insertionSort] at listed
  obtain ⟨member, retryable⟩ := List.mem_filter.mp listed
  exact ⟨member, retryable, by simpa using List.find?_some found⟩

/-- A claimed item of a rollback that was discovered. -/
theorem eval_discovered {pending : List DeploymentRollback}
    (found : pending.find? (·.deploymentId = item.workKey) = some row) (u : System) :
    (claimDiscoveredWork.discovered pending now (item.claimed now)).eval u =
      (.ok (some (item.claimed now, row)), u) := by
  unfold claimDiscoveredWork.discovered
  rw [show pending.find? (·.deploymentId = (item.claimed now).workKey) = some row from found]
  rfl

/-- A claimed item of no rollback that was discovered is given up. -/
theorem eval_undiscovered {pending : List DeploymentRollback} (unique : s.store.workKeys.Nodup)
    (member : item.claimed now ∈ s.store.work)
    (absent : pending.find? (·.deploymentId = item.workKey) = none) :
    (claimDiscoveredWork.discovered pending now (item.claimed now)).eval s =
      (.error (retriggerError "claimed rollback work has no durable authority"), { s with
        store := { s.store with
          work := (item.claimed now).updateIn
            (settledItem (item.claimed now) now (some false)) s.store.work } }) := by
  have fails : (transaction (failWork (item.claimed now) false now)).eval s =
      (.ok (settledItem (item.claimed now) now (some false) (item.claimed now)), { s with
        store := { s.store with
          work := (item.claimed now).updateIn
            (settledItem (item.claimed now) now (some false)) s.store.work } }) :=
    eval_settleWork unique member rfl (Nat.succ_le_succ (Nat.zero_le item.attempts))
  unfold claimDiscoveredWork.discovered
  rw [show pending.find? (·.deploymentId = (item.claimed now).workKey) = none from absent]
  exact (eval_bind_ok fails).trans rfl

/-- A claimed item of no rollback that was discovered is blocked. -/
theorem agrees_undiscovered {pending : List DeploymentRollback} (claimed : Claimed last now item s)
    (later : last ≤ now) (absent : pending.find? (·.deploymentId = item.workKey) = none) :
    ∃ failure after, (claimDiscoveredWork.discovered pending now (item.claimed now)).eval s =
        (.error failure, after) ∧
      Rested now after ∧ (Agrees after ↔
        ∃ row, s.rollback item.workKey = some row ∧ row.phase.terminal = true) := by
  refine ⟨_, _, eval_undiscovered claimed.unique claimed.member absent,
    rested_settled _ (claimed.sound.later later) claimed.unique, ?_⟩
  refine (agrees_updateIn claimed.unique claimed.member claimed.kind
    (settledItem_keeps (item.claimed now) (some false) (item.claimed now)) claimed.others).trans ?_
  unfold settledItem
  simp only [Bool.false_eq_true, false_and, if_false, true_implies]
  exact Iff.rfl

/-- What a pass leaves that gets as far as to claim work. -/
theorem after_pass {target : PyStr} (claims : Claims access target s.store)
    (unique : s.store.workKeys.Nodup) :
    ((runDeploymentRollbackRetriggerPass fromisoformat access target now).eval s).2 =
      match s.store.firstRollbackWork now with
      | none => { s with store := s.store.discovered now }
      | some item =>
        match (listRetryableRollbacks s.store).find? (·.deploymentId = item.workKey) with
        | none => ((claimDiscoveredWork.discovered (listRetryableRollbacks s.store) now
            (item.claimed now)).eval { s with store := s.store.claimedBy item now }).2
        | some row => ((runClaimedRollback fromisoformat (passAccess access) (item.claimed now) row
            now).eval { s with store := s.store.claimedBy item now }).2 := by
  obtain ⟨known, listed, valid⟩ := claims
  unfold runDeploymentRollbackRetriggerPass
  rw [eval_bind_ok (eval_ensure known)]
  rw [eval_bind_ok (eval_query (a := listRetryableRollbacks s.store) rfl)]
  rw [if_neg listed, valid, eval_bind_ok rfl, eval_bind, eval_claimDiscoveredWork unique]
  cases first : s.store.firstRollbackWork now with
  | none => rfl
  | some item =>
    dsimp only
    cases found : (listRetryableRollbacks s.store).find? (·.deploymentId = item.workKey) with
    | none =>
      rw [eval_undiscovered (claimedBy_unique unique item) (claimedBy_member unique first) found]
    | some row =>
      rw [eval_discovered found]
      dsimp only
      rw [eval_bind]
      split
      · rfl
      · rfl

/-- **A pass keeps the work and the rows agreeing exactly where it meets the condition.** -/
theorem agrees_pass (rested : Rested last s) (agrees : Agrees s) (later : last ≤ now)
    (access : RollbackAccess) (target : PyStr) :
    let after := ((runDeploymentRollbackRetriggerPass fromisoformat access target now).eval s).2
    Rested now after ∧ (Agrees after ↔ PassKeeps fromisoformat access target now s) := by
  dsimp only
  by_cases claims : Claims access target s.store
  · rw [after_pass fromisoformat claims rested.unique]
    have same := sameWork_discovered s.store now
    unfold PassKeeps
    cases first : s.store.firstRollbackWork now with
    | none =>
      obtain ⟨work, tables⟩ := same.work
      have rows : (s.store.discovered now).rollbacks = s.store.rollbacks := by rw [tables]
      have authority : SameAuthority s.store (s.store.discovered now) := by
        rw [tables]
        exact ⟨rfl, rfl, rfl, rfl, rfl⟩
      have kept : Agrees { s with store := s.store.discovered now } := by
        intro item member kind blocked
        rw [rollback_congr rows]
        exact agrees item (same.blocked item member blocked) kind blocked
      refine ⟨⟨(rested.sound.later later).congr rows authority, same.unique rested.unique⟩, ?_⟩
      exact iff_of_true kept fun _ item wrong => nomatch wrong
    | some item =>
      have claimed := claimed_of_first rested agrees first
      have decided : ∀ {kept : WorkItem → Prop}, (Claims access target s.store → ∀ other,
          some item = some other → kept other) ↔ kept item := fun {kept} =>
        ⟨fun all => all claims item rfl, fun holds _ _ same => Option.some.inj same ▸ holds⟩
      rw [decided]
      dsimp only
      cases found : (listRetryableRollbacks s.store).find? (·.deploymentId = item.workKey) with
      | none =>
        obtain ⟨failure, after, raised, rests, keeps⟩ := agrees_undiscovered claimed later found
        rw [raised]
        refine ⟨rests, keeps.trans ?_⟩
        rw [rollback_congr (show (s.store.claimedBy item now).rollbacks = s.store.rollbacks by
          obtain ⟨work, tables⟩ := same.work
          unfold Store.claimedBy
          rw [tables])]
      | some row =>
        obtain ⟨member, retryable, here⟩ := find_listRetryableRollbacks found
        obtain ⟨_, plan, held⟩ := rested.sound row member
        obtain ⟨work, tables⟩ := same.work
        have authority : SameAuthority s.store (s.store.claimedBy item now) := by
          unfold Store.claimedBy
          rw [tables]
          exact ⟨rfl, rfl, rfl, rfl, rfl⟩
        have rows : (s.store.claimedBy item now).rollbacks = s.store.rollbacks := by
          unfold Store.claimedBy
          rw [tables]
        exact agrees_runClaimedRollback fromisoformat claimed later here (held.congr rows authority)
          retryable (passAccess_validateLimits access)
  · have still : ((runDeploymentRollbackRetriggerPass fromisoformat access target now).eval s).2 =
        s := by
      unfold runDeploymentRollbackRetriggerPass
      by_cases known : slash ∈ target
      · rw [eval_bind_ok (eval_ensure known)]
        rw [eval_bind_ok (eval_query (a := listRetryableRollbacks s.store) rfl)]
        by_cases unlisted : listRetryableRollbacks s.store = []
        · rw [if_pos unlisted]
          rfl
        · rw [if_neg unlisted]
          cases valid : validatePassAccess access with
          | error failure => rw [eval_bind_error rfl]
          | ok _ => exact absurd ⟨known, unlisted, valid⟩ claims
      · rw [eval_bind_error (eval_ensure_not known)]
    rw [still]
    exact ⟨⟨rested.sound.later later, rested.unique⟩,
      iff_of_true agrees fun claimed => absurd claimed claims⟩

end Passes

/-! ## Runs -/

/-- Rollbacks that were authorized, and not taken up yet. -/
structure JustAuthorized (s : System) : Prop where
  planned : ∀ row ∈ s.store.rollbacks, row.phase = .planned ∧ row.attemptCount = 0 ∧
    row.valid = true ∧ ∃ plan, Held plan row s
  unique : s.store.workKeys.Nodup
  unscheduled : ∀ item ∈ s.store.work, item.workKind ≠ .deploymentRollback

/-- Between the passes others leave the rollbacks, their authority and their work; what is answered
may change. -/
structure BetweenPasses (s t : System) : Prop where
  rollbacks : t.store.rollbacks = s.store.rollbacks
  authority : SameAuthority s.store t.store
  unique : s.store.workKeys.Nodup → t.store.workKeys.Nodup
  work : ∀ item ∈ t.store.work, item.workKind = .deploymentRollback → item ∈ s.store.work

section Runs

variable (fromisoformat : String → Option DateTime)

/-- Passes at increasing reference times, each of which meets a condition. -/
inductive Passes (condition : RollbackAccess → PyStr → Int → System → Prop) (first : Int)
    (s : System) : Int → System → Prop where
  | start : Passes condition first s first s
  | others {last : Int} {t u : System} (run : Passes condition first s last t)
      (between : BetweenPasses t u) : Passes condition first s last u
  | pass {last : Int} {t : System} (run : Passes condition first s last t) (access : RollbackAccess)
      (target : PyStr) (now : Int) (later : last ≤ now) (met : condition access target now t) :
      Passes condition first s now
        ((runDeploymentRollbackRetriggerPass fromisoformat access target now).eval t).2

variable {fromisoformat} {s t : System} {first last now : Int}

theorem JustAuthorized.rested (authorized : JustAuthorized s) : Rested first s ∧ Agrees s := by
  refine ⟨⟨fun row member => ?_, authorized.unique⟩, fun item member kind =>
    absurd kind (authorized.unscheduled item member)⟩
  obtain ⟨planned, unattempted, valid, held⟩ := authorized.planned row member
  obtain ⟨apart, attempts, job, _, _, since⟩ := of_decide_eq_true valid
  refine ⟨⟨apart, ?_, fun _ => unattempted, job, since, fun moved => absurd planned moved,
    fun observing => nomatch planned.symm.trans observing⟩, held⟩
  rw [unattempted]
  exact Nat.zero_le 1

theorem BetweenPasses.rested (between : BetweenPasses s t) (rested : Rested last s) :
    Rested last t :=
  ⟨rested.sound.congr between.rollbacks between.authority, between.unique rested.unique⟩

theorem BetweenPasses.agrees (between : BetweenPasses s t) (agrees : Agrees s) : Agrees t := by
  intro item member kind blocked
  rw [rollback_congr between.rollbacks]
  exact agrees item (between.work item member kind) kind blocked

/-- **Rollback work and rollback rows agree as long as every pass keeps to the budget.** In a run
whose passes all meet the condition no work is blocked beside a rollback that has not ended, and the
next pass leaves it so exactly when it meets the condition itself. -/
theorem rollback_work_agrees (authorized : JustAuthorized s)
    (run : Passes fromisoformat (PassKeeps fromisoformat) first s last t) :
    Agrees t ∧ ∀ (access : RollbackAccess) (target : PyStr) (now : Int), last ≤ now →
      (Agrees ((runDeploymentRollbackRetriggerPass fromisoformat access target now).eval t).2 ↔
        PassKeeps fromisoformat access target now t) := by
  have kept : Rested last t ∧ Agrees t := by
    induction run with
    | start => exact authorized.rested
    | others _ between ih => exact ⟨between.rested ih.1, between.agrees ih.2⟩
    | pass _ access target now later met ih =>
      have passed := agrees_pass fromisoformat ih.1 ih.2 later access target
      exact ⟨passed.1, passed.2.mpr met⟩
  exact ⟨kept.2, fun access target now later =>
    (agrees_pass fromisoformat kept.1 kept.2 later access target).2⟩

end Runs

/-! ## A restore that is still running at the last attempt -/

/-- The Supervisor takes up the restore. -/
def acknowledgedRestore : SupervisorResponse :=
  ⟨200, "application/json", ⟨1, some (.obj [("result", .str "ok"),
    ("data", .obj [("job_id", .str "job")])])⟩⟩

/-- Its job is under way. -/
def runningRestore : SupervisorResponse :=
  ⟨200, "application/json", ⟨1, some (.obj [("result", .str "ok"),
    ("data", .obj [("name", .str "backup_manager_full_restore"), ("reference", .str "backup"),
      ("uuid", .str "job"), ("progress", .null), ("stage", .null), ("done", .null),
      ("errors", .arr []), ("created", .str "now"), ("extra", .null), ("child_jobs", .arr [])])])⟩⟩

/-- A rollback that was authorized; its restore is taken up when it is asked for, and stays under
way. -/
def runningHome : System :=
  { authorizedHome with
    answers := { authorizedHome.answers with
      restore := some acknowledgedRestore, jobs := some runningRestore } }

def startedNow : String → Option DateTime := fun _ => some (.aware 1)

/-- A pass more than an hour after the one before it. -/
def hourlyPass (n : Nat) (s : System) : System :=
  ((runDeploymentRollbackRetriggerPass startedNow failedAccess failedTarget (4000 * n)).eval s).2

/-- After a number of passes. -/
def runningAfter : Nat → System
  | 0 => runningHome
  | n + 1 => hourlyPass (n + 1) (runningAfter n)

/-- The eighth pass gives up a restore that is under way. -/
example : (runningAfter 8).store.work.map (fun item => (item.status, item.attempts)) =
      [(.blocked, 8)] ∧
    ((runningAfter 8).rollback failedPlan.deploymentId).map (·.phase) =
      some .restoreAcknowledged := by decide

theorem runningHome_authorized : JustAuthorized runningHome where
  planned := by
    intro row member
    obtain ⟨only, here, there⟩ : ∃ only, runningHome.store.rollbacks = [only] ∧
        (only.phase = .planned ∧ only.attemptCount = 0 ∧ only.valid = true ∧
          Held failedPlan only runningHome) := by
      refine ⟨_, rfl, by decide, by decide, by decide, by decide, by decide⟩
    rw [here] at member
    obtain rfl := List.mem_singleton.mp member
    exact ⟨there.1, there.2.1, there.2.2.1, failedPlan, there.2.2.2⟩
  unique := List.nodup_nil
  unscheduled := fun _ wrong => nomatch wrong

theorem runningAfter_passes
    (condition : RollbackAccess → PyStr → Int → System → Prop) (n : Nat)
    (met : ∀ k < n, condition failedAccess failedTarget (4000 * (k + 1 : Nat)) (runningAfter k)) :
    Passes startedNow condition 0 runningHome (4000 * n) (runningAfter n) := by
  induction n with
  | zero => exact .start
  | succ n ih =>
    refine .pass (ih fun k below => met k (by omega)) failedAccess failedTarget _ (by omega) ?_
    exact met n (by omega)

theorem runningAfter_disagrees : ¬Agrees (runningAfter 8) := by
  intro agrees
  have given_up : ∃ item ∈ (runningAfter 8).store.work, item.workKind = .deploymentRollback ∧
      item.status = .blocked ∧ ((runningAfter 8).rollback item.workKey).any (·.phase.terminal) =
        false := by decide
  obtain ⟨item, member, kind, blocked, going⟩ := given_up
  obtain ⟨row, found, terminal⟩ := agrees item member kind blocked
  rw [found] at going
  exact nomatch terminal.symm.trans going

/-- Not every sequence of passes keeps rollback work and rollback rows agreeing. -/
theorem rollback_work_gives_up : ¬∀ (fromisoformat : String → Option DateTime) (first last : Int)
    (s t : System), JustAuthorized s →
      Passes fromisoformat (fun _ _ _ _ => True) first s last t → Agrees t := by
  intro every
  have agrees := every startedNow 0 _ runningHome (runningAfter 8) runningHome_authorized
    (runningAfter_passes _ 8 fun _ _ => trivial)
  exact runningAfter_disagrees agrees

/-- Seven passes keep to the budget, and the eighth does not. -/
theorem rollback_work_agrees_running : Agrees (runningAfter 7) ∧
    ¬PassKeeps startedNow failedAccess failedTarget 32000 (runningAfter 7) := by
  have checked : ∀ k < 7, ((runningAfter k).store.firstRollbackWork (4000 * (k + 1 : Nat))).all
      (fun item => item.attempts + 1 < maxWorkAttempts ∧
        ((listRetryableRollbacks (runningAfter k).store).find?
          (·.deploymentId = item.workKey)).any fun row =>
            poll startedNow (passAccess failedAccess) (runningAfter k).answers row
              (4000 * (k + 1 : Nat)) = .goesOn) = true := by decide
  have keeps : ∀ k < 7, PassKeeps startedNow failedAccess failedTarget (4000 * (k + 1 : Nat))
      (runningAfter k) := by
    intro k below _ item first
    have here := checked k below
    rw [first] at here
    obtain ⟨left, goes⟩ := of_decide_eq_true here
    cases found : (listRetryableRollbacks (runningAfter k).store).find?
        (·.deploymentId = item.workKey) with
    | none =>
      rw [found] at goes
      cases goes
    | some row =>
      rw [found] at goes
      dsimp only
      rw [of_decide_eq_true goes]
      exact left
  have run := runningAfter_passes (PassKeeps startedNow) 7 keeps
  obtain ⟨agrees, next⟩ := rollback_work_agrees runningHome_authorized run
  refine ⟨agrees, fun kept => ?_⟩
  exact runningAfter_disagrees ((next failedAccess failedTarget 32000 (by decide)).mpr kept)

end SyncApp
