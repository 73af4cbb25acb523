import SyncApp.Pipeline.WorkTable

/-!
# Runs of the work queue

What holds of the work table along every run of calls, from a table that has no rows: the invariant
that the claims and the recoveries rely on, how often an item is claimed, and what the item that a
claim returned can still do to its row.
-/

set_option autoImplicit false

namespace SyncApp

open Lib Machine WorkCall

/-- The store where no work was ever enqueued. -/
def Store.withoutWork (store : Store) : Store := { store with work := [] }

theorem withoutWork_wellFormed (store : Store) : WellFormedTable store.withoutWork :=
  ⟨⟨List.nodup_nil, fun _ wrong => nomatch wrong⟩, fun _ wrong => nomatch wrong⟩

theorem perform_wellFormed {store : Store} (table : WellFormedTable store) (call : WorkCall) :
    WellFormedTable (call.perform store).2 :=
  (perform_effect table.toReadable call).wellFormed table

theorem after_wellFormed (store : Store) (calls : List WorkCall) :
    WellFormedTable (after perform store.withoutWork calls) :=
  after_keeps WellFormedTable (fun _ call table => perform_wellFormed table call) calls
    (withoutWork_wellFormed store)

/-! ## The table along a run -/

/-- What a call may do to a row. -/
structure AllowedChange (call : WorkCall) (row next : WorkItem) : Prop where
  workKind : next.workKind = row.workKind
  workKey : next.workKey = row.workKey
  /-- `succeeded` is left by routine scheduling alone, for `pending`. -/
  succeeded : row.status = .succeeded → next.status ≠ .succeeded →
    next.status = .pending ∧ ∃ now, call = .scheduleRoutineWork row.workKind row.workKey now
  /-- `blocked` is left by an administrative retry alone, for `pending`. -/
  blocked : row.status = .blocked → next.status ≠ .blocked →
    next.status = .pending ∧ ∃ now, call = .retryBlockedWork row.workKind row.workKey now
  createdAt : next.createdAt ≠ row.createdAt →
    row.status = .succeeded ∧ next.status = .pending ∧
      ∃ now, call = .scheduleRoutineWork row.workKind row.workKey now

namespace AllowedChange

variable {call : WorkCall} {row next : WorkItem}

theorem kept (call : WorkCall) (row : WorkItem) : AllowedChange call row row :=
  ⟨rfl, rfl, fun here left => absurd here left, fun here left => absurd here left,
    fun left => absurd rfl left⟩

/-- A change of a row that is live. -/
theorem of_live (key : next.workKind = row.workKind ∧ next.workKey = row.workKey)
    (live : row.status ≠ .succeeded ∧ row.status ≠ .blocked)
    (created : next.createdAt = row.createdAt) : AllowedChange call row next :=
  ⟨key.1, key.2, fun here => absurd here live.1, fun here => absurd here live.2,
    fun left => absurd created left⟩

theorem of_free (key : next.workKind = row.workKind ∧ next.workKey = row.workKey)
    (free : row.status = .pending ∨ row.status = .retry)
    (created : next.createdAt = row.createdAt) : AllowedChange call row next := by
  refine of_live key ?_ created
  obtain here | here := free <;> rw [here] <;> exact ⟨nofun, nofun⟩

theorem of_running (key : next.workKind = row.workKind ∧ next.workKey = row.workKey)
    (running : row.status = .running) (created : next.createdAt = row.createdAt) :
    AllowedChange call row next := by
  refine of_live key ?_ created
  rw [running]
  exact ⟨nofun, nofun⟩

end AllowedChange

theorem RowStep.allowed {call : WorkCall} {row next : WorkItem} (step : RowStep call row next) :
    AllowedChange call row next := by
  have key := step.same_key
  cases step with
  | claimed free | claimedKind free => exact .of_free key free rfl
  | failed held =>
    refine .of_running key held.rowStatus ?_
    unfold WorkItem.failedAt
    split <;> rfl
  | deferred held | awaited _ held | completed held =>
    exact .of_running key held.rowStatus rfl
  | @scheduled _ now succeeded =>
    refine ⟨rfl, rfl, fun _ _ => ⟨rfl, now, rfl⟩, fun here _ => ?_, fun _ => ?_⟩
    · rw [succeeded] at here
      cases here
    · exact ⟨succeeded, rfl, now, rfl⟩
  | @retried _ now blocked =>
    refine ⟨rfl, rfl, fun here _ => ?_, fun _ _ => ⟨rfl, now, rfl⟩, fun left => absurd rfl left⟩
    rw [blocked] at here
    cases here

theorem RowFate.allowed {call : WorkCall} {issued : Option WorkItem} {row next : WorkItem}
    (fate : RowFate call issued row next) : AllowedChange call row next := by
  cases fate with
  | kept => exact .kept call row
  | stepped _ step => exact step.allowed
  | recovered now =>
    unfold WorkItem.recoveredAt
    split
    next running => exact .of_running ⟨rfl, rfl⟩ running rfl
    next => exact .kept call row

/-- In every state that a run of calls reaches, each row is formed, each call leaves every row
in its place and changes it as it may, and a call that raises leaves the table. -/
theorem work_table_invariant (store : Store) (calls : List WorkCall) :
    (∀ row ∈ (after perform store.withoutWork calls).work,
      (row.nextAttemptAt.isSome ↔ row.status = .pending ∨ row.status = .retry) ∧
        (row.status = .running → 1 ≤ row.attempts)) ∧
      (after perform store.withoutWork calls).workKeys.Nodup ∧
      ∀ call : WorkCall,
        (after perform store.withoutWork calls).workKeys <+:
            (call.perform (after perform store.withoutWork calls)).2.workKeys ∧
          (∀ row ∈ (after perform store.withoutWork calls).work,
            ∃ next ∈ (call.perform (after perform store.withoutWork calls)).2.work,
              AllowedChange call row next) ∧
          ∀ failure, (call.perform (after perform store.withoutWork calls)).1 = .error failure →
            (call.perform (after perform store.withoutWork calls)).2 =
              after perform store.withoutWork calls := by
  have table := after_wellFormed store calls
  generalize after perform store.withoutWork calls = reached at table ⊢
  refine ⟨fun row member => ?_, table.unique, fun call => ?_⟩
  · exact ⟨(table.formed row member).scheduled, (table.formed row member).attempted⟩
  · have effect := perform_effect table.toReadable call
    refine ⟨effect.workKeys, fun row member => ?_, fun failure => effect.raised⟩
    obtain ⟨next, found, fate⟩ := effect.fate (Store.findWork_of_mem table.unique member)
    exact ⟨next, (Store.findWork_some found).1, fate.allowed⟩

/-! ## Attempts -/

/-- A call that is answered with a claim of the item. -/
def claimsItem (workKind : WorkKind) (workKey : PyStr) (call : WorkCall)
    (answer : Except Failure (Option WorkItem)) : Bool :=
  (call.issued answer).any fun item => item.workKind = workKind ∧ item.workKey = workKey

/-- The attempts that the row of an item counts. -/
def Store.attemptsOf (workKind : WorkKind) (workKey : PyStr) (store : Store) : Nat :=
  (store.findWork workKind workKey).elim 0 WorkItem.attempts

section Step

variable {store : Store} {call : WorkCall} {outcome : WorkCall.Outcome} {row next : WorkItem}

/-- Where a row keeps its attempts, it counts the claims of its item. -/
theorem RowFate.attempts {issued : Option WorkItem} (fate : RowFate call issued row next)
    (keeps : ¬call.Rearms row) :
    next.attempts = row.attempts + if issued.any fun item =>
      item.workKind = row.workKind ∧ item.workKey = row.workKey then 1 else 0 := by
  have key := fate.same_key
  cases fate with
  | kept apart =>
    cases issued with
    | none => rfl
    | some item => simp [apart item rfl]
  | stepped _ step answer =>
    obtain ⟨wrong, -⟩ | ⟨-, counted⟩ := step.attempts
    · exact absurd wrong keeps
    · rw [counted, answer]
      cases call.claims with
      | true => simp [key]
      | false => rfl
  | recovered now _ answer =>
    rw [answer, row.recoveredAt_attempts now]
    rfl

/-- A claim is answered with an item of the table. -/
theorem Effect.issued_found (effect : Effect store call outcome) {item : WorkItem}
    (claimed : call.issued outcome.1 = some item) :
    ∃ row, store.findWork item.workKind item.workKey = some row := by
  cases effect with
  | refused => cases claimed
  | nothing returned quiet =>
    cases quiet with
    | enqueued | scheduled => cases claimed
    | claimed => simp at claimed
  | added workKind workKey now creates =>
    obtain rfl | rfl := creates <;> cases claimed
  | stepped other next there step =>
    obtain ⟨-, rfl⟩ : call.claims = true ∧ next = item := by simpa using claimed
    rw [step.same_key.1, step.same_key.2]
    exact ⟨other, there⟩
  | recovered => simp at claimed

/-- One call counts the claim of an item, where it does not rearm it. -/
theorem Effect.attemptsOf {workKind : WorkKind} {workKey : PyStr}
    (effect : Effect store call outcome)
    (keeps : ∀ row, store.findWork workKind workKey = some row → ¬call.Rearms row) :
    outcome.2.attemptsOf workKind workKey = store.attemptsOf workKind workKey +
      if claimsItem workKind workKey call outcome.1 then 1 else 0 := by
  unfold Store.attemptsOf claimsItem
  cases found : store.findWork workKind workKey with
  | some row =>
    obtain ⟨next, there, fate⟩ := effect.fate found
    obtain ⟨-, rfl, rfl⟩ := Store.findWork_some found
    rw [there]
    exact fate.attempts (keeps row found)
  | none =>
    have unclaimed : (call.issued outcome.1).any (fun item =>
        item.workKind = workKind ∧ item.workKey = workKey) = false := by
      rw [Option.any_eq_false]
      intro item claimed
      obtain ⟨row, there⟩ := effect.issued_found claimed
      rw [decide_eq_false_iff_not]
      rintro ⟨rfl, rfl⟩
      rw [found] at there
      cases there
    rw [unclaimed]
    cases next : outcome.2.findWork workKind workKey with
    | none => rfl
    | some row =>
      obtain ⟨now, rfl, -⟩ := effect.fresh found next
      rfl

end Step

/-! ## The retry budget -/

/-- A row that may be claimed has an attempt left. -/
structure WorkItem.WithinBudget (row : WorkItem) : Prop where
  attempts : row.attempts ≤ maxWorkAttempts
  free : row.status = .pending ∨ row.status = .retry → row.attempts < maxWorkAttempts

def Store.WithinBudget (store : Store) : Prop := ∀ row ∈ store.work, row.WithinBudget

/-- No last attempt of an item is interrupted. -/
def Spares (store : Store) : WorkCall → Prop
  | .recoverInterruptedWork _ =>
    ∀ row ∈ store.work, row.status = .running → row.attempts < maxWorkAttempts
  | _ => True

instance (store : Store) (call : WorkCall) : Decidable (Spares store call) :=
  match call with
  | .recoverInterruptedWork _ =>
    inferInstanceAs
      (Decidable (∀ row ∈ store.work, row.status = .running → row.attempts < maxWorkAttempts))
  | .enqueueWork _ _ _ | .claimWork _ | .claimWorkKind _ _ | .failWork _ _ _ | .deferWork _ _
  | .completeWork _ _ | .scheduleAt _ _ _ _ | .scheduleRoutineWork _ _ _
  | .retryBlockedWork _ _ _ => .isTrue trivial

/-- The calls a retry budget is for. -/
def WorkCall.plain : WorkCall → Bool
  | enqueueWork _ _ _ | claimWork _ | claimWorkKind _ _ | failWork _ _ _ | completeWork _ _
  | recoverInterruptedWork _ => true
  | deferWork _ _ | scheduleAt _ _ _ _ | scheduleRoutineWork _ _ _ | retryBlockedWork _ _ _ => false

theorem WorkCall.plain_keeps {call : WorkCall} (plain : call.plain = true) (row : WorkItem) :
    ¬call.Rearms row := by
  cases call with
  | deferWork | scheduleAt | scheduleRoutineWork | retryBlockedWork => cases plain
  | _ => exact not_false

section Budget

variable {store : Store} {call : WorkCall} {row next : WorkItem}

theorem RowStep.withinBudget (step : RowStep call row next) (within : row.WithinBudget) :
    next.WithinBudget := by
  cases step with
  | claimed free | claimedKind free =>
    refine ⟨within.free free, fun wrong => ?_⟩
    obtain wrong | wrong := wrong <;> cases wrong
  | failed =>
    unfold WorkItem.failedAt
    split
    next left => exact ⟨within.attempts, fun _ => left.2⟩
    next =>
      refine ⟨within.attempts, fun wrong => ?_⟩
      obtain wrong | wrong := wrong <;> cases wrong
  | completed =>
    refine ⟨within.attempts, fun wrong => ?_⟩
    obtain wrong | wrong := wrong <;> cases wrong
  | deferred | awaited | scheduled | retried => exact ⟨Nat.zero_le _, fun _ => Nat.zero_lt_succ _⟩

theorem RowFate.withinBudget {issued : Option WorkItem} (fate : RowFate call issued row next)
    (spared : ∀ now, call = .recoverInterruptedWork now → row.status = .running →
      row.attempts < maxWorkAttempts)
    (within : row.WithinBudget) : next.WithinBudget := by
  cases fate with
  | kept => exact within
  | stepped _ step => exact step.withinBudget within
  | recovered now recovers =>
    unfold WorkItem.recoveredAt
    split
    next running => exact ⟨within.attempts, fun _ => spared now recovers running⟩
    next => exact within

/-- A call keeps every item within its budget where it interrupts no last attempt. -/
theorem perform_withinBudget (table : WellFormedTable store) (spares : Spares store call)
    (within : store.WithinBudget) : (call.perform store).2.WithinBudget := by
  intro next member
  have effect := perform_effect table.toReadable call
  have found := Store.findWork_of_mem (perform_wellFormed table call).unique member
  cases before : store.findWork next.workKind next.workKey with
  | none =>
    obtain ⟨now, same, -⟩ := effect.fresh before found
    rw [same]
    exact ⟨Nat.zero_le _, fun _ => Nat.zero_lt_succ _⟩
  | some row =>
    obtain ⟨there, -, -⟩ := Store.findWork_some before
    obtain ⟨other, kept, fate⟩ := effect.fate before
    rw [found] at kept
    cases kept
    refine fate.withinBudget (fun now recovers => ?_) (within row there)
    subst recovers
    exact spares row there

/-- An interrupted last attempt makes the item claimable once more. -/
theorem perform_overspends (spends : ¬Spares store call) : ¬(call.perform store).2.WithinBudget := by
  cases call with
  | recoverInterruptedWork now =>
    unfold Spares at spends
    push Not at spends
    obtain ⟨row, member, running, last⟩ := spends
    intro within
    have again : { row with status := .retry, updatedAt := now, nextAttemptAt := some now } ∈
        (WorkCall.perform (.recoverInterruptedWork now) store).2.work :=
      List.mem_map.mpr ⟨row, member, if_pos ⟨running, rfl⟩⟩
    exact absurd ((within _ again).free (.inr rfl)) (Nat.not_lt.mpr last)
  | _ => exact (spends trivial).elim

/-- Along a run whose recoveries interrupt no last attempt, an item is claimed as often as its row
counts, which is within the budget; any other recovery puts an item over its budget. -/
theorem claims_within_budget (store : Store) (calls : List WorkCall)
    (plain : ∀ call ∈ calls, call.plain = true)
    (spares : Along perform Spares store.withoutWork calls) :
    (∀ workKind workKey,
      tally perform (claimsItem workKind workKey) store.withoutWork calls =
          (after perform store.withoutWork calls).attemptsOf workKind workKey ∧
        tally perform (claimsItem workKind workKey) store.withoutWork calls ≤ maxWorkAttempts) ∧
      (∀ row ∈ (after perform store.withoutWork calls).work, row.attempts ≤ maxWorkAttempts) ∧
      ∀ call : WorkCall, (call.perform (after perform store.withoutWork calls)).2.WithinBudget ↔
        Spares (after perform store.withoutWork calls) call := by
  have table := after_wellFormed store calls
  have within : (after perform store.withoutWork calls).WithinBudget := by
    refine (spares.keeps (fun s => WellFormedTable s ∧ s.WithinBudget) ?_
      ⟨withoutWork_wellFormed store, fun _ wrong => nomatch wrong⟩).2
    rintro s call ⟨table, within⟩ spares
    exact ⟨perform_wellFormed table call, perform_withinBudget table spares within⟩
  have attempted : ∀ workKind workKey,
      (after perform store.withoutWork calls).attemptsOf workKind workKey ≤ maxWorkAttempts := by
    intro workKind workKey
    unfold Store.attemptsOf
    cases found : (after perform store.withoutWork calls).findWork workKind workKey with
    | none => exact Nat.zero_le _
    | some row => exact (within row (Store.findWork_some found).1).attempts
  have counted : ∀ workKind workKey,
      tally perform (claimsItem workKind workKey) store.withoutWork calls =
        (after perform store.withoutWork calls).attemptsOf workKind workKey := by
    intro workKind workKey
    have grown := (Along.of_forall plain).measure WellFormedTable (Store.attemptsOf workKind workKey)
      (fun _ call table _ => perform_wellFormed table call)
      (fun _ call table plain => (perform_effect table.toReadable call).attemptsOf
        fun row _ => call.plain_keeps plain row)
      (withoutWork_wellFormed store)
    rw [grown]
    exact (Nat.zero_add _).symm
  refine ⟨fun workKind workKey => ⟨counted workKind workKey, ?_⟩,
    fun row member => (within row member).attempts, fun call => ⟨fun kept => ?_, fun spares => ?_⟩⟩
  · rw [counted]
    exact attempted workKind workKey
  · by_contra spends
    exact perform_overspends spends kept
  · exact perform_withinBudget table spares within

end Budget

/-- A store where only the repository is bound. -/
def boundStore : Store := (setUp (text "owner/repo") (sha256Empty [])).store

/-- Work that takes the process down each time it runs. -/
def crashingRun (attempts : Nat) : List WorkCall :=
  .enqueueWork .localSync (text "main") 0 ::
    (List.replicate attempts
      [.claimWorkKind .localSync 0, .recoverInterruptedWork 0]).flatten

theorem claims_within_budget_crashing :
    (∀ call ∈ crashingRun 7, call.plain = true) ∧
      tally perform (claimsItem .localSync (text "main")) boundStore.withoutWork
        (crashingRun 7) ≤ maxWorkAttempts := by
  have plain : ∀ call ∈ crashingRun 7, call.plain = true := by decide
  have spares : Along perform Spares boundStore.withoutWork (crashingRun 7) := by decide
  exact ⟨plain, ((claims_within_budget boundStore (crashingRun 7) plain spares).1 _ _).2⟩

/-- Nine interruptions are nine claims, and the item is claimable again. -/
theorem interrupted_work_overspends :
    ¬∀ calls : List WorkCall, (∀ call ∈ calls, call.plain = true) →
      tally perform (claimsItem .localSync (text "main")) boundStore.withoutWork calls ≤
          maxWorkAttempts ∧
        ∀ row ∈ (after perform boundStore.withoutWork calls).work,
          row.attempts ≤ maxWorkAttempts := by
  intro bounded
  have wrong := (bounded (crashingRun 9) (by decide)).1
  exact absurd wrong (by decide)

/-! ## Claimed items -/

/-- A transition with a claimed item. -/
def WorkCall.Spends (token : WorkItem) : WorkCall → Prop
  | failWork item _ _ | deferWork item _ | completeWork item _ => item = token
  | _ => False

/-- The row has been claimed again, or released, since the item was claimed. -/
def Spent (token : WorkItem) (store : Store) : Prop :=
  ∃ row, store.findWork token.workKind token.workKey = some row ∧
    (token.attempts < row.attempts ∨ token.attempts = row.attempts ∧ row.status ≠ .running)

/-- The call with which a claimed item ends: its own transition, or the recovery of its row. -/
def Ends (token : WorkItem) (store : Store) (call : WorkCall) : Prop :=
  (call.Spends token ∧ ∃ answer, (call.perform store).1 = .ok answer) ∨
    ∃ now row, call = .recoverInterruptedWork now ∧
      store.findWork token.workKind token.workKey = some row ∧ token.Holds row

/-- A call leaves the row of an item the attempts it counts. -/
def KeepsAttempts (token : WorkItem) (store : Store) (call : WorkCall) : Prop :=
  ∀ row, store.findWork token.workKind token.workKey = some row → ¬call.Rearms row

section Tokens

variable {store : Store} {call : WorkCall} {outcome : WorkCall.Outcome} {token : WorkItem}

/-- A transition that is answered held the row. -/
theorem Effect.spends (effect : Effect store call outcome) (spends : call.Spends token) :
    (∃ failure, outcome = (.error failure, store)) ∨
      ∃ row next, store.findWork token.workKind token.workKey = some row ∧ token.Holds row ∧
        RowStep call row next ∧ outcome = (.ok (some next), store.replaceWork row next) := by
  cases effect with
  | refused failure => exact .inl ⟨failure, rfl⟩
  | nothing returned quiet =>
    cases quiet with
    | enqueued | scheduled => exact spends.elim
    | claimed claims => cases call <;> first | exact spends.elim | cases claims
  | added workKind workKey now creates => obtain rfl | rfl := creates <;> exact spends.elim
  | recovered now recovers =>
    subst recovers
    exact spends.elim
  | stepped row next found step =>
    have held : token.Holds row := by
      cases step with
      | failed held | deferred held | completed held =>
        subst spends
        exact held
      | _ => exact spends.elim
    refine .inr ⟨row, next, ?_, held, step, rfl⟩
    rw [← held.workKind, ← held.workKey]
    exact found

theorem Effect.spent_refuses (effect : Effect store call outcome) (spent : Spent token store)
    (spends : call.Spends token) : ∃ failure, outcome.1 = .error failure ∧ outcome.2 = store := by
  obtain ⟨failure, rfl⟩ | ⟨row, next, found, held, -, -⟩ := effect.spends spends
  · exact ⟨failure, rfl, rfl⟩
  · obtain ⟨other, there, passed⟩ := spent
    rw [found] at there
    cases there
    obtain more | ⟨-, released⟩ := passed
    · exact absurd held.rowAttempts (Nat.ne_of_gt more)
    · exact absurd held.rowStatus released

/-- What a call that leaves the attempts does to the row of a spent item. -/
theorem RowFate.spent {issued : Option WorkItem} {row next : WorkItem}
    (fate : RowFate call issued row next) (keeps : ¬call.Rearms row) {attempts : Nat}
    (passed : attempts < row.attempts ∨ attempts = row.attempts ∧ row.status ≠ .running) :
    attempts < next.attempts ∨ attempts = next.attempts ∧ next.status ≠ .running := by
  cases fate with
  | kept => exact passed
  | stepped _ step =>
    cases step with
    | claimed | claimedKind =>
      left
      show attempts < row.attempts + 1
      omega
    | failed held =>
      obtain more | ⟨-, released⟩ := passed
      · rw [row.failedAt_attempts]
        exact .inl more
      · exact absurd held.rowStatus released
    | completed held =>
      obtain more | ⟨-, released⟩ := passed
      · exact .inl more
      · exact absurd held.rowStatus released
    | deferred held => exact absurd held keeps
    | awaited window held => exact absurd ⟨window, held⟩ keeps
    | scheduled succeeded => exact absurd ⟨⟨rfl, rfl⟩, succeeded⟩ keeps
    | retried blocked => exact absurd ⟨⟨rfl, rfl⟩, blocked⟩ keeps
  | recovered now =>
    unfold WorkItem.recoveredAt
    split
    next running =>
      obtain more | ⟨-, released⟩ := passed
      · exact .inl more
      · exact absurd running released
    next => exact passed

theorem Effect.keeps_spent (effect : Effect store call outcome)
    (keeps : KeepsAttempts token store call) (spent : Spent token store) :
    Spent token outcome.2 := by
  obtain ⟨row, found, passed⟩ := spent
  obtain ⟨next, there, fate⟩ := effect.fate found
  exact ⟨next, there, fate.spent (keeps row found) passed⟩

/-- A claimed item that ends with its attempts counted is spent. -/
theorem Ends.spent (readable : Readable store) (ends : Ends token store call)
    (keeps : KeepsAttempts token store call) : Spent token (call.perform store).2 := by
  have effect := perform_effect readable call
  obtain ⟨spends, answer, done⟩ | ⟨now, row, rfl, found, held⟩ := ends
  · obtain ⟨failure, refused⟩ | ⟨row, next, found, held, step, stepped⟩ := effect.spends spends
    · rw [refused] at done
      cases done
    · rw [stepped]
      have row_key : row.workKind = token.workKind ∧ row.workKey = token.workKey :=
        ⟨held.workKind, held.workKey⟩
      refine ⟨next, ?_, .inr ?_⟩
      · rw [← row_key.1, ← row_key.2] at found ⊢
        exact Store.findWork_replaced step.same_key found
      · cases step with
        | failed =>
          rw [row.failedAt_attempts, held.rowAttempts]
          refine ⟨rfl, ?_⟩
          unfold WorkItem.failedAt
          split <;> exact nofun
        | completed => exact ⟨held.rowAttempts.symm, nofun⟩
        | deferred => exact absurd (spends ▸ held) (keeps row found)
        | claimed | claimedKind | awaited | scheduled | retried => exact spends.elim
  · refine ⟨row.recoveredAt now, ?_, .inr ⟨?_, ?_⟩⟩
    · have recovered : (WorkCall.perform (.recoverInterruptedWork now) store).2 = _ :=
        recoverInterruptedWork_all now store
      rw [recovered, Store.findWork_map (fun row => row.recoveredAt_key now), found]
      rfl
    · rw [row.recoveredAt_attempts, held.rowAttempts]
    · unfold WorkItem.recoveredAt
      rw [if_pos held.rowStatus]
      exact nofun

/-- A spent item stays spent as long as its row keeps the attempts it counts, and no longer. -/
theorem spent_iff_keepsAttempts (readable : Readable store) (spent : Spent token store)
    (claimed : 1 ≤ token.attempts) (call : WorkCall) :
    Spent token (call.perform store).2 ↔ KeepsAttempts token store call := by
  constructor
  · rintro ⟨next, there, passed⟩ row found rearms
    obtain ⟨-, kind, key⟩ := Store.findWork_some found
    rw [← kind, ← key] at there found
    obtain ⟨rearmed, step, done⟩ := perform_rearms readable found rearms
    rw [done, Store.findWork_replaced step.same_key found] at there
    cases there
    obtain ⟨-, none, -⟩ | ⟨kept, -⟩ := step.attempts
    · rw [none] at passed
      omega
    · exact kept rearms
  · exact fun keeps => (perform_effect readable call).keeps_spent keeps spent

end Tokens

/-- The first claim of a local synchronization. -/
def firstClaim : WorkItem := (Store.pendingWork .localSync (text "main") 0).claimedAt 0

def claimedRun : List WorkCall := [.enqueueWork .localSync (text "main") 0, .claimWork 0]

end SyncApp
