import SyncApp.Pipeline.Orchestration
import SyncApp.Lib.Machine

/-!
# The lane of a candidate

Each lane over candidates selects by the next action of the candidate's row, so an item that waits is
claimed by one lane exactly unless its row is past every action. A candidate's row and its item end
in one transaction, and only an administrative request makes an ended item wait again. So every
waiting item has its lane as long as no request is made for a candidate whose row has ended
(`waiting_covered_iff`).
-/

set_option autoImplicit false

namespace SyncApp

open Lib Raising

/-! ## Ended items and ended candidates -/

/-- The item waits for nothing any more. -/
def WorkItem.AtEnd (item : WorkItem) : Prop := item.status = .blocked ∨ item.status = .succeeded

/-- No action is left for the candidate. -/
def CandidateOrchestration.AtEnd (row : CandidateOrchestration) : Prop := row.phase.nextAction = .none

/-- An item of a candidate waits. -/
def WorkItem.Waits (item : WorkItem) : Prop :=
  item.workKind = .candidate ∧ (item.status = .pending ∨ item.status = .retry)

/-- Each waiting item of a candidate is, at some time, among the rows of one lane exactly. -/
def Store.Covered (store : Store) : Prop :=
  ∀ item ∈ store.work, item.Waits → ∃! action, ∃ now, item ∈ store.laneRows action now

/-- The item of a candidate has ended. -/
def Store.ItemAtEnd (store : Store) (workKey : PyStr) : Prop :=
  ∃ item, store.findWork .candidate workKey = some item ∧ item.AtEnd

/-- A call makes an ended item of a candidate wait again. -/
inductive PreflightCall.Rearms (store : Store) (workKey : PyStr) : PreflightCall → Prop where
  | administrative (request : AdministrativeRetryRequest) (now : Int) (row : WorkItem)
    (kind : request.workKind = .candidate) (key : request.workKey = workKey)
    (formed : isUuid4 request.requestId = true)
    (fresh : store.retryReceipts.find? (·.requestId = request.requestId) = none)
    (found : store.findWork .candidate workKey = some row) (blocked : row.status = .blocked) :
    Rearms store workKey (.retry request now)
  | retried (now : Int) (row : WorkItem) (found : store.findWork .candidate workKey = some row)
    (blocked : row.status = .blocked) :
    Rearms store workKey (.work (.retryBlockedWork .candidate workKey now))
  | scheduled (now : Int) (row : WorkItem) (found : store.findWork .candidate workKey = some row)
    (succeeded : row.status = .succeeded) :
    Rearms store workKey (.work (.scheduleRoutineWork .candidate workKey now))

/-- No call makes the item of an ended candidate wait again. -/
def RearmsNoEnded (store : Store) (call : PreflightCall) : Prop :=
  ∀ row ∈ store.orchestrations, row.AtEnd → ¬call.Rearms store row.candidateSha.key

/-! ## One lane -/

section Lanes

variable {store : Store}

theorem ShortDigest.eq_of_key {first second : ShortDigest} (same : first.key = second.key) :
    first = second := by
  obtain ⟨first, firstShape⟩ := first
  obtain ⟨second, secondShape⟩ := second
  have chars : first.toList = second.toList :=
    List.map_injective_iff.mpr (fun _ _ same => Char.ext (UInt32.toNat_inj.mp same)) same
  obtain rfl : first = second := String.ext chars
  rfl

/-- A candidate has one row. -/
theorem Store.row_of_key (rows : (store.orchestrations.map (·.candidateSha)).Nodup)
    {first second : CandidateOrchestration} (here : first ∈ store.orchestrations)
    (there : second ∈ store.orchestrations) (same : first.candidateSha.key = second.candidateSha.key) :
    first = second :=
  List.inj_on_of_nodup_map rows here there (ShortDigest.eq_of_key same)

theorem Store.laneSelects_iff {action : CandidateAction} {workKey : PyStr} :
    store.laneSelects action workKey = true ↔ action ≠ .none ∧
      (action = .fetchStage ∧ store.unregistered workKey = true ∨
        store.waitsFor action workKey = true) := by
  cases action <;> simp [laneSelects]

theorem Store.waitsFor_iff {action : CandidateAction} {workKey : PyStr} :
    store.waitsFor action workKey = true ↔
      ∃ row ∈ store.orchestrations, row.candidateSha.key = workKey ∧ row.phase.nextAction = action := by
  simp [waitsFor]

theorem Store.unregistered_iff {workKey : PyStr} :
    store.unregistered workKey = true ↔
      ∀ row ∈ store.orchestrations, row.candidateSha.key ≠ workKey := by
  simp [unregistered]

/-- A lane selects a key by its one row, or as unregistered. -/
theorem Store.laneSelects_unique (rows : (store.orchestrations.map (·.candidateSha)).Nodup)
    (workKey : PyStr) :
    (∃! action, store.laneSelects action workKey = true) ↔
      ∀ row ∈ store.orchestrations, row.candidateSha.key = workKey → ¬row.AtEnd := by
  constructor
  · rintro ⟨action, selects, -⟩ row member key ended
    obtain ⟨acts, ⟨-, absent⟩ | waits⟩ := laneSelects_iff.mp selects
    · exact unregistered_iff.mp absent row member key
    · obtain ⟨other, there, otherKey, next⟩ := waitsFor_iff.mp waits
      obtain rfl := row_of_key rows member there (key.trans otherKey.symm)
      exact acts (next.symm.trans ended)
  · intro going
    by_cases registered : ∃ row ∈ store.orchestrations, row.candidateSha.key = workKey
    · obtain ⟨row, member, key⟩ := registered
      refine ⟨row.phase.nextAction, ?_, fun action selects => ?_⟩
      · refine laneSelects_iff.mpr ⟨going row member key, .inr ?_⟩
        exact waitsFor_iff.mpr ⟨row, member, key, rfl⟩
      · obtain ⟨-, ⟨-, absent⟩ | waits⟩ := laneSelects_iff.mp selects
        · exact absurd key (unregistered_iff.mp absent row member)
        · obtain ⟨other, there, otherKey, next⟩ := waitsFor_iff.mp waits
          obtain rfl := row_of_key rows member there (key.trans otherKey.symm)
          exact next.symm
    · have absent : store.unregistered workKey = true :=
        unregistered_iff.mpr fun row member key => registered ⟨row, member, key⟩
      refine ⟨.fetchStage, laneSelects_iff.mpr ⟨nofun, .inl ⟨rfl, absent⟩⟩, fun action selects => ?_⟩
      obtain ⟨-, ⟨fetches, -⟩ | waits⟩ := laneSelects_iff.mp selects
      · exact fetches
      · obtain ⟨row, member, key, -⟩ := waitsFor_iff.mp waits
        exact absurd ⟨row, member, key⟩ registered

/-- A waiting item comes to be due, so the claim of a lane is a matter of its key. -/
theorem Store.mem_laneRows {item : WorkItem} (member : item ∈ store.work) (formed : item.Formed)
    (waits : item.Waits) (action : CandidateAction) :
    (∃ now, item ∈ store.laneRows action now) ↔ store.laneSelects action item.workKey = true := by
  constructor
  · rintro ⟨now, there⟩
    exact (Bool.and_eq_true_iff.mp (List.mem_filter.mp there).2).2
  · intro selects
    obtain ⟨due, timed⟩ := Option.isSome_iff_exists.mp (formed.scheduled.mpr waits.2)
    refine ⟨due, List.mem_filter.mpr ⟨member, Bool.and_eq_true_iff.mpr ⟨?_, selects⟩⟩⟩
    simp only [eligible, Bool.and_eq_true, Bool.or_eq_true, decide_eq_true_eq]
    exact ⟨waits, by simp [timed]⟩

end Lanes

/-! ## What the passes keep -/

/-- Rows can be read and are unique, and a candidate ends together with its item. -/
structure LanesSound (store : Store) : Prop where
  table : WellFormedTable store
  rows : (store.orchestrations.map (·.candidateSha)).Nodup
  deployments : ∀ row ∈ store.backupCheckpoints, isWorkKey (text row.deploymentId) = true
  ended : ∀ row ∈ store.orchestrations, row.AtEnd → store.ItemAtEnd row.candidateSha.key

/-- Every waiting item has its lane. -/
theorem LanesSound.covered {store : Store} (sound : LanesSound store) : store.Covered := by
  intro item member waits
  have lanes := (Store.laneSelects_unique sound.rows item.workKey).mpr fun row there key ended => by
    obtain ⟨other, found, settled⟩ := sound.ended row there ended
    have here := Store.findWork_of_mem sound.table.unique member
    rw [waits.1, ← key] at here
    obtain rfl := Option.some.inj (here.symm.trans found)
    rcases waits.2 with pending | retry <;> rcases settled with blocked | succeeded
    · cases pending.symm.trans blocked
    · cases pending.symm.trans succeeded
    · cases retry.symm.trans blocked
    · cases retry.symm.trans succeeded
  simpa only [Store.mem_laneRows member (sound.table.formed item member) waits] using lanes

/-- An ended candidate whose item waits has no lane. -/
theorem LanesSound.uncovered {store : Store} {row : CandidateOrchestration} {item : WorkItem}
    (table : WellFormedTable store) (rows : (store.orchestrations.map (·.candidateSha)).Nodup)
    (there : row ∈ store.orchestrations) (ended : row.AtEnd) (member : item ∈ store.work)
    (waits : item.Waits) (key : item.workKey = row.candidateSha.key) : ¬store.Covered := by
  intro covered
  have lanes := covered item member waits
  simp only [Store.mem_laneRows member (table.formed item member) waits] at lanes
  exact (Store.laneSelects_unique rows item.workKey).mp lanes row there key.symm ended

/-- What a call may leave of the work: no item of a candidate goes on that has ended, where the call
does not make it wait again. -/
structure KeepsEnded (store changed : Store) (rearms : PyStr → Prop) : Prop where
  table : WellFormedTable changed
  kept : ∀ workKey, store.ItemAtEnd workKey → ¬rearms workKey → changed.ItemAtEnd workKey

/-- What a call may leave of the rows of candidates. -/
inductive RowsStep (store changed : Store) : Prop where
  | kept (same : changed.orchestrations = store.orchestrations)
  | added (record : CandidateOrchestration)
    (absent : store.orchestration record.candidateSha = none) (detected : record.phase = .detected)
    (added : changed.orchestrations = store.orchestrations ++ [record])
  | moved (current advanced : CandidateOrchestration)
    (named : advanced.candidateSha = current.candidateSha)
    (moved : changed.orchestrations =
      store.orchestrations.map fun row => if row = current then advanced else row)
    (ends : advanced.AtEnd → changed.ItemAtEnd current.candidateSha.key)

/-- What a call may leave of the tables that the lanes select from. -/
structure LaneStep (store changed : Store) (rearms : PyStr → Prop) : Prop
    extends KeepsEnded store changed rearms where
  rows : RowsStep store changed
  deployments : ∀ row ∈ changed.backupCheckpoints, isWorkKey (text row.deploymentId) = true

section Steps

variable {store between changed : Store} {rearms : PyStr → Prop}

/-- **A step that makes no ended candidate wait again keeps the lanes.** -/
theorem LanesSound.step (sound : LanesSound store) (step : LaneStep store changed rearms)
    (quiet : ∀ row ∈ store.orchestrations, row.AtEnd → ¬rearms row.candidateSha.key) :
    LanesSound changed := by
  have kept : ∀ row ∈ store.orchestrations, row.AtEnd → changed.ItemAtEnd row.candidateSha.key :=
    fun row there ended => step.kept _ (sound.ended row there ended) (quiet row there ended)
  refine ⟨step.table, ?_, step.deployments, ?_⟩
  · cases step.rows with
    | kept same => exact same ▸ sound.rows
    | added record absent _ added =>
      rw [added, List.map_append, List.map_singleton, ← List.concat_eq_append]
      refine sound.rows.concat fun there => ?_
      obtain ⟨row, member, same⟩ := List.mem_map.mp there
      exact List.find?_eq_none.mp absent row member (decide_eq_true same)
    | moved current advanced named moved _ =>
      rw [moved, List.map_map]
      refine (List.map_congr_left fun row _ => ?_) ▸ sound.rows
      show row.candidateSha = (if row = current then advanced else row).candidateSha
      split
      next here => rw [here, named]
      next => rfl
  · cases step.rows with
    | kept same =>
      rw [same]
      exact kept
    | added record _ detected added =>
      intro row member ended
      rw [added] at member
      rcases List.mem_append.mp member with there | new
      · exact kept row there ended
      · obtain rfl := List.mem_singleton.mp new
        unfold CandidateOrchestration.AtEnd at ended
        rw [detected] at ended
        cases ended
    | moved current advanced named moved ends =>
      intro row member ended
      rw [moved] at member
      obtain ⟨before, there, rfl⟩ := List.mem_map.mp member
      split at ended
      next here =>
        rw [if_pos here, named]
        exact ends ended
      next apart =>
        rw [if_neg apart]
        exact kept before there ended

theorem KeepsEnded.refl (table : WellFormedTable store) : KeepsEnded store store rearms :=
  ⟨table, fun _ ended _ => ended⟩

theorem KeepsEnded.trans (first : KeepsEnded store between rearms)
    (second : KeepsEnded between changed rearms) : KeepsEnded store changed rearms :=
  ⟨second.table, fun workKey ended quiet => second.kept workKey (first.kept workKey ended quiet) quiet⟩

theorem Store.findWork_congr (same : changed.work = store.work) :
    changed.findWork = store.findWork := by
  unfold findWork
  rw [same]

theorem WellFormedTable.of_work (table : WellFormedTable store) (same : changed.work = store.work) :
    WellFormedTable changed := by
  obtain ⟨⟨unique, rows⟩, formed⟩ := table
  refine ⟨⟨?_, same ▸ rows⟩, same ▸ formed⟩
  unfold Store.workKeys at unique ⊢
  rw [same]
  exact unique

/-- Other tables are no matter. -/
theorem KeepsEnded.of_work (keeps : KeepsEnded store between rearms)
    (same : changed.work = between.work) : KeepsEnded store changed rearms := by
  refine ⟨keeps.table.of_work same, fun workKey ended quiet => ?_⟩
  unfold Store.ItemAtEnd
  rw [Store.findWork_congr same]
  exact keeps.kept workKey ended quiet

/-- A row that was not at its end, or that is made to wait again. -/
theorem KeepsEnded.replaced (table : WellFormedTable store) {item next : WorkItem}
    (found : store.findWork item.workKind item.workKey = some item)
    (same : next.workKind = item.workKind ∧ next.workKey = item.workKey) (formed : next.Formed)
    (going : item.workKind = .candidate → item.AtEnd → rearms item.workKey) :
    KeepsEnded store (store.replaceWork item next) rearms := by
  refine ⟨⟨table.toReadable.of_keys (Store.replaceWork_workKeys same), fun other member => ?_⟩,
    fun workKey ended quiet => ?_⟩
  · obtain rfl | ⟨there, -⟩ :=
      (Store.mem_updateIn table.unique (Store.findWork_some found).1).mp member
    · exact formed
    · exact table.formed other there
  · obtain ⟨other, here, settled⟩ := ended
    refine ⟨other, (Store.findWork_replace_apart same ?_).trans here, settled⟩
    rintro ⟨kind, rfl⟩
    rw [← kind, found] at here
    obtain rfl := Option.some.inj here
    exact quiet (going kind settled)

/-- A row of another kind, or of a key that had none. -/
theorem KeepsEnded.added (table : WellFormedTable store) {item : WorkItem}
    (absent : store.findWork item.workKind item.workKey = none) (formed : item.Formed)
    (valid : validateWorkIdentity item.workKind item.workKey = .ok ()) :
    KeepsEnded store (store.addWork item) rearms := by
  refine ⟨⟨⟨?_, fun row member => ?_⟩, fun row member => ?_⟩, fun workKey ended _ => ?_⟩
  · rw [Store.addWork_workKeys, ← List.concat_eq_append]
    exact table.unique.concat (Store.findWork_none absent)
  · rcases List.mem_append.mp member with there | new
    · exact table.rows row there
    · obtain rfl := List.mem_singleton.mp new
      exact valid
  · rcases List.mem_append.mp member with there | new
    · exact table.formed row there
    · obtain rfl := List.mem_singleton.mp new
      exact formed
  · obtain ⟨other, here, settled⟩ := ended
    refine ⟨other, (Store.findWork_add_apart ?_).trans here, settled⟩
    rintro ⟨kind, key⟩
    rw [kind, key, here] at absent
    cases absent

/-- Rows that change while they run. -/
theorem KeepsEnded.mapped (table : WellFormedTable store) {change : WorkItem → WorkItem}
    (keeps : ∀ row, (change row).workKind = row.workKind ∧ (change row).workKey = row.workKey)
    (formed : ∀ row, row.Formed → (change row).Formed)
    (rests : ∀ row, row.status ≠ .running → change row = row) :
    KeepsEnded store { store with work := store.work.map change } rearms := by
  refine ⟨⟨table.toReadable.of_keys (Store.workKeys_map keeps), fun row member => ?_⟩,
    fun workKey ended _ => ?_⟩
  · obtain ⟨before, there, rfl⟩ := List.mem_map.mp member
    exact formed before (table.formed before there)
  · obtain ⟨item, here, settled⟩ := ended
    refine ⟨item, ?_, settled⟩
    rw [Store.findWork_map keeps, here, Option.map_some]
    refine congrArg some (rests item fun running => ?_)
    rcases settled with blocked | succeeded
    · cases running.symm.trans blocked
    · cases running.symm.trans succeeded

theorem KeepsEnded.committed {α : Type} {change : Store → Except Failure (α × Store)}
    (table : WellFormedTable store)
    (commits : ∀ a changed, change store = .ok (a, changed) → KeepsEnded store changed rearms) :
    KeepsEnded store (committed change store) rearms :=
  committed_eq (.refl table) commits

/-- Tables that a call leaves alone. -/
theorem LaneStep.of_leaves (sound : LanesSound store) (keeps : KeepsEnded store changed rearms)
    (leaves : LeavesRecords store changed) : LaneStep store changed rearms where
  toKeepsEnded := keeps
  rows := .kept leaves.orchestrations
  deployments := by
    rw [leaves.backupCheckpoints]
    exact sound.deployments

theorem LaneStep.refl (sound : LanesSound store) : LaneStep store store rearms :=
  .of_leaves sound (.refl sound.table) (.refl store)

/-- A call that is refused changes nothing. -/
theorem LaneStep.committed {α : Type} {change : Store → Except Failure (α × Store)}
    (sound : LanesSound store)
    (commits : ∀ a changed, change store = .ok (a, changed) → LaneStep store changed rearms) :
    LaneStep store (committed change store) rearms :=
  committed_eq (.refl sound) commits

end Steps

/-! ## The calls -/

section Calls

variable {store changed : Store} {rearms : PyStr → Prop} {now : Int}

/-- An item that waits is not at its end. -/
theorem WorkItem.not_atEnd {item : WorkItem} (free : item.status = .pending ∨ item.status = .retry) :
    ¬item.AtEnd := by
  rintro (blocked | succeeded) <;> rcases free with pending | retry
  · cases pending.symm.trans blocked
  · cases retry.symm.trans blocked
  · cases pending.symm.trans succeeded
  · cases retry.symm.trans succeeded

theorem WorkItem.not_atEnd_of_running {item : WorkItem} (running : item.status = .running) :
    ¬item.AtEnd := by
  rintro (blocked | succeeded)
  · cases running.symm.trans blocked
  · cases running.symm.trans succeeded

/-- A claim of an item that waits. -/
theorem KeepsEnded.claimed (table : WellFormedTable store) {item : WorkItem}
    (member : item ∈ store.work) (free : item.status = .pending ∨ item.status = .retry)
    (updated : store.updateWork item (fun _ => item.claimedAt now) = some changed) :
    KeepsEnded store changed rearms := by
  rw [Store.updateWork_of_mem table.unique member] at updated
  obtain rfl := Option.some.inj updated
  refine .replaced table (Store.findWork_of_mem table.unique member) ⟨rfl, rfl⟩ (.claimed item now) ?_
  exact fun _ settled => absurd settled (WorkItem.not_atEnd free)

theorem keepsEnded_claimCandidate (table : WellFormedTable store) {action : CandidateAction}
    {claim : Option WorkItem} (claimed : claimCandidateWork action now store = .ok (claim, changed)) :
    KeepsEnded store changed rearms := by
  unfold claimCandidateWork at claimed
  split at claimed
  · cases claimed
    exact .refl table
  next item first =>
    obtain ⟨member, due⟩ := List.mem_filter.mp (mem_of_earliest first)
    have free := (WorkCall.eligible_free (Bool.and_eq_true_iff.mp due).1).2
    split at claimed
    · cases claimed
    next updated =>
      cases claimed
      exact .claimed table member free updated

theorem keepsEnded_claimPending (table : WellFormedTable store) {target : PyStr} {repositoryId : Int}
    {claim : Option (WorkItem × CandidateAction)}
    (claimed : claimDuePendingCandidate target repositoryId now store = .ok (claim, changed)) :
    KeepsEnded store changed rearms := by
  unfold claimDuePendingCandidate at claimed
  split at claimed
  · cases claimed
    exact .refl table
  next item first =>
    obtain ⟨member, due⟩ := List.mem_filter.mp (mem_of_earliest first)
    simp only [Bool.and_eq_true, decide_eq_true_eq] at due
    split at claimed
    · cases claimed
    next updated =>
      cases claimed
      exact .claimed table member (.inl due.1.1.1.2) updated

theorem keepsEnded_recover (table : WellFormedTable store) (action : CandidateAction) (now : Int) :
    KeepsEnded store (recoverCandidateWork action now store) rearms := by
  refine .mapped table (fun row => ?_) (fun row formed => ?_) fun row rests => ?_
  · split <;> exact ⟨rfl, rfl⟩
  · split
    · exact .waits rfl (.inr rfl)
    · exact formed
  · exact if_neg fun taken => rests taken.2.1

/-- What becomes of an ended item in a call on the work table. -/
theorem RowFate.atEnd {call : WorkCall} {issued : Option WorkItem} {row next : WorkItem}
    (fate : RowFate call issued row next) (settled : row.AtEnd) : next = row ∨
      row.status = .blocked ∧ (∃ now, call = .retryBlockedWork row.workKind row.workKey now) ∨
      row.status = .succeeded ∧ ∃ now, call = .scheduleRoutineWork row.workKind row.workKey now := by
  cases fate with
  | kept => exact .inl rfl
  | recovered now =>
    refine .inl (if_neg fun running => ?_)
    exact WorkItem.not_atEnd_of_running running settled
  | stepped _ step =>
    cases step with
    | claimed free | claimedKind free => exact absurd settled (WorkItem.not_atEnd free)
    | failed held | deferred held | completed held | awaited _ held =>
      exact absurd settled (WorkItem.not_atEnd_of_running held.rowStatus)
    | scheduled succeeded => exact .inr (.inr ⟨succeeded, _, rfl⟩)
    | retried blocked => exact .inr (.inl ⟨blocked, _, rfl⟩)

theorem keepsEnded_workCall (table : WellFormedTable store) (call : WorkCall) :
    KeepsEnded store (call.perform store).2
      (fun workKey => (PreflightCall.work call).Rearms store workKey) := by
  have effect := WorkCall.perform_effect table.toReadable call
  refine ⟨effect.wellFormed table, fun workKey ⟨item, found, settled⟩ quiet => ?_⟩
  obtain ⟨next, there, fate⟩ := effect.fate found
  obtain ⟨-, kind, key⟩ := Store.findWork_some found
  rcases fate.atEnd settled with rfl | ⟨blocked, now, rfl⟩ | ⟨succeeded, now, rfl⟩
  · exact ⟨next, there, settled⟩
  · rw [kind, key] at quiet
    exact absurd (.retried now item found blocked) quiet
  · rw [kind, key] at quiet
    exact absurd (.scheduled now item found succeeded) quiet

theorem keepsEnded_retry (table : WellFormedTable store) {request : AdministrativeRetryRequest}
    {result : AdministrativeRetryResult}
    (applied : applyAdministrativeRetryRequest request now store = .ok (result, changed)) :
    KeepsEnded store changed
      (fun workKey => (PreflightCall.retry request now).Rearms store workKey) := by
  unfold applyAdministrativeRetryRequest at applied
  split at applied
  · cases applied
  next able =>
    have formed : isUuid4 request.requestId = true := by
      simpa using (not_or.mp able).1
    split at applied
    · split at applied
      · cases applied
      · cases applied
        exact .refl table
    next fresh =>
      obtain ⟨⟨retried, middle⟩, first, applied⟩ := bind_eq_ok.mp applied
      cases applied
      refine KeepsEnded.of_work (?_ : KeepsEnded store middle _) rfl
      unfold retryIfBlocked at first
      split at first
      · cases first
        exact .refl table
      next row found =>
        split at first
        · cases first
          exact .refl table
        next blocked =>
          split at first
          · cases first
          next updated =>
            cases first
            obtain ⟨member, kind, key⟩ := Store.findWork_some found
            rw [Store.updateWork_of_mem table.unique member] at updated
            obtain rfl := Option.some.inj updated
            refine .replaced table (Store.findWork_of_mem table.unique member) ⟨rfl, rfl⟩
              (.waits rfl (.inl rfl)) fun candidate _ => ?_
            refine .administrative request now row (kind.symm.trans candidate) key.symm formed fresh
              ?_ (not_not.mp blocked)
            rw [← candidate]
            exact Store.findWork_of_mem table.unique member

/-- A candidate's item that is settled together with its row. -/
theorem keepsEnded_settle (table : WellFormedTable store) {candidateSha : ShortDigest}
    {status : WorkStatus} (ends : status = .blocked ∨ status = .succeeded)
    (settled : settleCandidateWork candidateSha status now store = .ok changed) :
    KeepsEnded store changed rearms ∧ changed.ItemAtEnd candidateSha.key := by
  unfold settleCandidateWork at settled
  split at settled
  · cases settled
  next item found =>
    obtain ⟨member, kind, key⟩ := Store.findWork_some found
    split at settled
    · cases settled
    next running =>
      have here := Store.findWork_of_mem table.unique member
      rw [Store.updateWork_found table.unique here, if_pos ⟨rfl, rfl⟩] at settled
      cases settled
      let next := { item with status := status, updatedAt := now, nextAttemptAt := none }
      have replaced : (store.replaceWork item next).findWork item.workKind item.workKey = some next :=
        Store.findWork_replaced ⟨rfl, rfl⟩ here
      constructor
      · refine .replaced table here ⟨rfl, rfl⟩ (.ended rfl ends.symm) fun _ atEnd => ?_
        exact absurd atEnd (WorkItem.not_atEnd_of_running (not_not.mp running))
      · rw [kind, key] at replaced
        exact ⟨next, replaced, ends⟩

/-! The rows of candidates. -/

variable {rules : PreflightRules} {naming : DeploymentNaming} {stage : PreflightStage}
  {current : CandidateOrchestration}

theorem laneStep_register (sound : LanesSound store) (claimed : WorkItem) (target : PyStr)
    (repositoryId : Int) :
    LaneStep store (committed (registerClaimedCandidate claimed target repositoryId now) store)
      rearms := by
  refine .committed sound fun a changed registered => ?_
  unfold registerClaimedCandidate at registered
  split at registered
  · cases registered
  split at registered
  · cases registered
  split at registered
  · split at registered
    · cases registered
    · cases registered
      exact .refl sound
  next absent =>
    cases registered
    exact ⟨.of_work (.refl sound.table) rfl, .added _ absent rfl rfl, sound.deployments⟩

theorem laneStep_plan (sound : LanesSound store) (inputs : StageInputs stage) :
    LaneStep store (committed (PreflightCall.planStage rules current inputs now) store) rearms := by
  refine .committed sound fun a changed planned => ?_
  unfold PreflightCall.planStage at planned
  split at planned
  · cases planned
  · obtain ⟨plan, -, recorded⟩ := bind_eq_ok.mp planned
    obtain ⟨-, -, rfl⟩ := recordStagePlan_ok recorded
    exact ⟨.of_work (.refl sound.table) rfl, .kept rfl, sound.deployments⟩

/-- What a stage blocks is settled in the same transaction. -/
theorem laneStep_completeStage (sound : LanesSound store) {planned finished : CandidateCheckpoint stage}
    {phase : OrchestrationPhase} (ends : phase.nextAction = .none → phase = .blocked)
    (completes : completeStage rules planned finished current
      { current with phase := phase, updatedAt := now } now store = .ok ((), changed)) :
    LaneStep store changed rearms := by
  unfold completeStage at completes
  obtain ⟨row, -, loaded⟩ := bind_eq_ok.mp (mapError_eq_ok.mp completes)
  obtain ⟨orchestration, -, checked⟩ := bind_eq_ok.mp loaded
  split at checked
  · cases checked
  dsimp only at checked
  obtain ⟨moved, replaced, settles⟩ := bind_eq_ok.mp checked
  obtain ⟨-, same⟩ := replaceOrchestration_ok replaced
  have keeps : KeepsEnded store moved rearms := by
    subst same
    exact KeepsEnded.of_work (.refl sound.table) rfl
  split at settles
  · obtain ⟨settled, work, last⟩ := bind_eq_ok.mp settles
    cases last
    obtain ⟨settling, atEnd⟩ := keepsEnded_settle keeps.table (.inl rfl) work
    have keeps := keeps.trans settling
    obtain ⟨_, rfl⟩ := settleCandidateWork_onlyWork work
    subst same
    exact ⟨keeps, .moved current { current with phase := phase, updatedAt := now } rfl rfl
      fun _ => atEnd, sound.deployments⟩
  next going =>
    cases settles
    subst same
    exact ⟨keeps, .moved current { current with phase := phase, updatedAt := now } rfl rfl
      fun ended => absurd (ends ended) going, sound.deployments⟩

theorem StageDecision.blocks (decision : StageDecision stage)
    (ended : decision.successorPhase.nextAction = .none) : decision.successorPhase = .blocked := by
  rcases decision.ends with ⟨evidence, rfl, valid⟩ | blocked
  · have goes : (StageDecision.accepted evidence).successorPhase = stage.after := if_pos valid
    rw [goes] at ended
    cases stage <;> cases ended
  · exact blocked

theorem laneStep_finish (sound : LanesSound store) (planned : CandidateCheckpoint stage)
    (decision : StageDecision stage) :
    LaneStep store (committed (PreflightCall.finishStage rules planned decision current now) store)
      rearms := by
  refine .committed sound fun a changed done => ?_
  unfold PreflightCall.finishStage at done
  split at done
  · cases done
  · obtain ⟨finished, -, done⟩ := bind_eq_ok.mp done
    obtain ⟨advanced, advances, completes⟩ := bind_eq_ok.mp done
    have advances := mapError_eq_ok.mp advances
    rw [StageDecision.successor_eq] at advances
    obtain ⟨-, rfl⟩ := successor_ok advances
    exact laneStep_completeStage sound decision.blocks completes

/-! The backup. -/

variable {row : CandidateBackupCheckpoint}

theorem laneStep_planBackup (sound : LanesSound store) (authority : CandidateBackupAuthority) :
    LaneStep store (committed (PreflightCall.planOfBackup naming current authority now) store)
      rearms := by
  refine .committed sound fun a changed done => ?_
  unfold PreflightCall.planOfBackup at done
  split at done
  · cases done
  · obtain ⟨plan, planned, recorded⟩ := bind_eq_ok.mp done
    obtain ⟨-, -, -, -, -, name, named⟩ := planBackup_candidate planned
    obtain ⟨-, rfl⟩ := recordPlan_ok recorded
    refine ⟨.of_work (.refl sound.table) rfl, .kept rfl, fun row member => ?_⟩
    rcases List.mem_append.mp member with there | new
    · exact sound.deployments row there
    · obtain rfl := List.mem_singleton.mp new
      rw [named]
      exact naming.isKey name

/-- A backup keeps its deployment. -/
theorem deployments_replaced (sound : LanesSound store) {replacement : CandidateBackupCheckpoint}
    (here : store.backupCheckpoint row.candidateSha = some row)
    (same : replacement.deploymentId = row.deploymentId) :
    ∀ other ∈ store.backupCheckpoints.map fun other => if other = row then replacement else other,
      isWorkKey (text other.deploymentId) = true := by
  intro other member
  obtain ⟨before, there, rfl⟩ := List.mem_map.mp member
  split
  · rw [same]
    exact sound.deployments row (List.mem_of_find?_eq_some here)
  · exact sound.deployments before there

theorem laneStep_moveBackup (sound : LanesSound store)
    {replacement : Except Failure CandidateBackupCheckpoint}
    (moves : ∀ moved, replacement = .ok moved → moved.deploymentId = row.deploymentId) :
    LaneStep store (committed (PreflightCall.moveBackup row replacement) store) rearms := by
  refine .committed sound fun a changed done => ?_
  obtain ⟨moved, given, done⟩ := bind_eq_ok.mp done
  obtain ⟨replaced, stored, done⟩ := bind_eq_ok.mp done
  cases done
  obtain ⟨here, rfl⟩ := replaceCheckpoint_ok stored
  exact ⟨.of_work (.refl sound.table) rfl, .kept rfl,
    deployments_replaced sound here (moves moved given)⟩

theorem keepsEnded_insertPreparation (table : WellFormedTable store) {deploymentId : PyStr}
    (named : isWorkKey deploymentId = true) {prepared : Option PreparedDeployment}
    (inserted : insertPreparation deploymentId prepared store = .ok changed) :
    KeepsEnded store changed rearms := by
  cases prepared with
  | none =>
    cases inserted
    exact .refl table
  | some prepared =>
    obtain ⟨middle, first, second⟩ := bind_eq_ok.mp inserted
    unfold Store.insertPrepared at first
    split at first
    · cases first
    · cases first
      unfold Store.insertWork at second
      split at second
      · cases second
      next absent =>
        cases second
        have added : KeepsEnded store (store.addWork (Store.pendingWork .candidateApply deploymentId
            prepared.runtime.preparedAt)) rearms := by
          refine .added table absent (.waits rfl (.inl rfl)) ?_
          show validateWorkIdentity .candidateApply deploymentId = .ok ()
          unfold validateWorkIdentity
          rw [show validateWorkKind .candidateApply = .ok () by decide +kernel]
          exact if_pos named
        exact added.of_work rfl

/-- The end of a backup is the end of its candidate and of the item. -/
theorem laneStep_finishAtomically (sound : LanesSound store) {finished : CandidateBackupCheckpoint}
    {advanced : CandidateOrchestration} {status : WorkStatus}
    (ends : status = .blocked ∨ status = .succeeded) {prepared : Option PreparedDeployment}
    (named : advanced.candidateSha = current.candidateSha)
    (same : finished.deploymentId = row.deploymentId)
    (finishes : finishAtomically row finished current advanced status now prepared store =
      .ok ((), changed)) :
    LaneStep store changed rearms := by
  obtain ⟨replaced, first, second⟩ := bind_eq_ok.mp finishes
  obtain ⟨here, rfl⟩ := replaceCheckpoint_ok first
  obtain ⟨added, inserted, third⟩ := bind_eq_ok.mp second
  obtain ⟨moved, advances, fourth⟩ := bind_eq_ok.mp third
  obtain ⟨settled, settles, last⟩ := bind_eq_ok.mp fourth
  cases last
  have deployments := deployments_replaced sound here same
  have keyed : isWorkKey (text finished.deploymentId) = true := by
    rw [same]
    exact sound.deployments row (List.mem_of_find?_eq_some here)
  let replaced : Store := { store with
    backupCheckpoints := store.backupCheckpoints.map fun other =>
      if other = row then finished else other }
  have replaces : KeepsEnded store replaced rearms := .of_work (.refl sound.table) rfl
  have prepares : KeepsEnded store added rearms :=
    replaces.trans (keepsEnded_insertPreparation replaces.table keyed inserted)
  have leaves := LeavesRecords.insertPreparation inserted
  obtain ⟨-, same⟩ := replaceOrchestration_ok advances
  have advancing : KeepsEnded store moved rearms := by
    subst same
    exact prepares.of_work rfl
  obtain ⟨settling, atEnd⟩ := keepsEnded_settle advancing.table ends settles
  have keeps := advancing.trans settling
  obtain ⟨work, rfl⟩ := settleCandidateWork_onlyWork settles
  subst same
  refine ⟨keeps, .moved current advanced named ?_ fun _ => atEnd, ?_⟩
  · exact congrArg (List.map _) leaves.orchestrations
  · show ∀ row ∈ added.backupCheckpoints, _
    rw [leaves.backupCheckpoints]
    exact deployments

theorem backupSuccessor_named {phase : OrchestrationPhase} {advanced : CandidateOrchestration}
    (advances : backupSuccessor current phase now = .ok advanced) :
    advanced.candidateSha = current.candidateSha := by
  unfold backupSuccessor at advances
  split at advances
  · cases advances
  · cases advances
    rfl

theorem laneStep_completeBackup (sound : LanesSound store) (evidence : CandidateBackupEvidence) :
    LaneStep store (committed (PreflightCall.finishBackup row current evidence now) store) rearms := by
  refine .committed sound fun a changed done => ?_
  unfold PreflightCall.finishBackup at done
  split at done
  · cases done
  · obtain ⟨completed, completes, done⟩ := bind_eq_ok.mp done
    obtain ⟨advanced, advances, finishes⟩ := bind_eq_ok.mp done
    refine laneStep_finishAtomically sound (.inr rfl) (backupSuccessor_named advances) ?_ finishes
    cases asked : row.requestedAt with
    | none =>
      unfold CandidateBackupCheckpoint.complete at completes
      rw [asked] at completes
      cases completes
    | some startedAt =>
      obtain ⟨_, rfl⟩ := complete_ok asked completes
      rfl

theorem laneStep_blockBackup (sound : LanesSound store) :
    LaneStep store (committed (PreflightCall.giveUpBackup row current now) store) rearms := by
  refine .committed sound fun a changed done => ?_
  unfold PreflightCall.giveUpBackup at done
  split at done
  · cases done
  · obtain ⟨blocked, blocks, done⟩ := bind_eq_ok.mp done
    obtain ⟨advanced, advances, finishes⟩ := bind_eq_ok.mp done
    refine laneStep_finishAtomically sound (.inl rfl) (backupSuccessor_named advances) ?_ finishes
    unfold CandidateBackupCheckpoint.block at blocks
    split at blocks
    · split at blocks
      · cases blocks
      · cases blocks
        rfl
    · split at blocks
      · cases blocks
      · cases blocks
        rfl
    · cases blocks

/-- **What every call leaves of the tables that the lanes select from.** -/
theorem lane_step (sound : LanesSound store) (call : PreflightCall) :
    LaneStep store (call.store rules naming store) (fun workKey => call.Rearms store workKey) := by
  cases call with
  | work call => exact .of_leaves sound (keepsEnded_workCall sound.table call) (.workCall call store)
  | recover action now =>
    exact .of_leaves sound (keepsEnded_recover sound.table action now) ⟨rfl, rfl, rfl⟩
  | claim action now =>
    have leaves := LeavesRecords.of_onlyWork (claimCandidateWork_onlyWork action now) store
    refine .of_leaves sound ?_ leaves
    exact KeepsEnded.committed sound.table fun _ _ => keepsEnded_claimCandidate sound.table
  | recoverAndClaim action now =>
    have leaves := LeavesRecords.of_onlyWork (recoverAndClaim_onlyWork action now) store
    refine .of_leaves sound ?_ leaves
    show KeepsEnded store (committed (fun store =>
      claimCandidateWork action now (recoverCandidateWork action now store)) store) _
    refine .committed sound.table fun _ _ claimed => ?_
    have recovered : KeepsEnded store (recoverCandidateWork action now store)
        fun workKey => (PreflightCall.recoverAndClaim action now).Rearms store workKey :=
      keepsEnded_recover sound.table action now
    exact recovered.trans (keepsEnded_claimCandidate recovered.table claimed)
  | claimPending target repositoryId now =>
    have leaves := LeavesRecords.of_onlyWork
      (claimDuePendingCandidate_onlyWork target repositoryId now) store
    refine .of_leaves sound ?_ leaves
    exact KeepsEnded.committed sound.table fun _ _ => keepsEnded_claimPending sound.table
  | register claimed target repositoryId now => exact laneStep_register sound claimed target repositoryId
  | plan stage current inputs now => exact laneStep_plan sound inputs
  | finish stage planned decision current now => exact laneStep_finish sound planned decision
  | planBackup current authority now => exact laneStep_planBackup sound authority
  | startBackup row now =>
    refine laneStep_moveBackup sound fun moved starts => ?_
    unfold CandidateBackupCheckpoint.start at starts
    split at starts
    · cases starts
    · cases starts
      rfl
  | doubtBackup row =>
    refine laneStep_moveBackup sound fun moved doubts => ?_
    unfold CandidateBackupCheckpoint.markUncertain at doubts
    split at doubts
    · cases doubts
      rfl
    · cases doubts
  | completeBackup row current evidence now => exact laneStep_completeBackup sound evidence
  | blockBackup row current now => exact laneStep_blockBackup sound
  | retry request now =>
    refine .of_leaves sound ?_ (.retry request now store)
    exact KeepsEnded.committed sound.table fun _ _ => keepsEnded_retry sound.table

theorem RowStep.waits {call : WorkCall} {row next : WorkItem} (step : RowStep call row next)
    (rearms : call.Rearms row) : next.status = .pending ∨ next.status = .retry := by
  cases step with
  | claimed | claimedKind | failed | completed => exact rearms.elim
  | deferred | scheduled | retried => exact .inl rfl
  | awaited => exact .inr rfl

/-- A call on the work table that gives an item of a candidate its attempts back. -/
theorem rearmed_waits (table : WellFormedTable store) {call : WorkCall} {item : WorkItem}
    {workKey : PyStr} (found : store.findWork .candidate workKey = some item)
    (rearms : call.Rearms item) :
    ∃ next ∈ (call.perform store).2.work, next.Waits ∧ next.workKey = workKey := by
  obtain ⟨member, kind, key⟩ := Store.findWork_some found
  have here := Store.findWork_of_mem table.unique member
  obtain ⟨next, step, performed⟩ := WorkCall.perform_rearms table.toReadable here rearms
  rw [performed]
  obtain ⟨sameKind, sameKey⟩ := step.same_key
  refine ⟨next, ?_, ⟨sameKind.trans kind, step.waits rearms⟩, sameKey.trans key⟩
  exact (Store.mem_updateIn table.unique member).mpr (.inl rfl)

/-- A call that makes the item of an ended candidate wait again leaves it without a lane. -/
theorem rearmed_uncovered (sound : LanesSound store) {call : PreflightCall}
    {row : CandidateOrchestration} (there : row ∈ store.orchestrations) (ended : row.AtEnd)
    (rearms : call.Rearms store row.candidateSha.key) :
    ¬(call.store rules naming store).Covered := by
  have step := @lane_step _ rules naming sound call
  suffices waits : (call.store rules naming store).orchestrations = store.orchestrations ∧
      ∃ item ∈ (call.store rules naming store).work, item.Waits ∧
        item.workKey = row.candidateSha.key by
    obtain ⟨same, item, member, waits, key⟩ := waits
    rw [← same] at there
    refine LanesSound.uncovered step.table ?_ there ended member waits key
    rw [same]
    exact sound.rows
  cases rearms with
  | administrative request now item kind key formed fresh found blocked =>
    obtain ⟨member, itemKind, itemKey⟩ := Store.findWork_some found
    have leaves := LeavesRecords.retry request now store
    refine ⟨leaves.orchestrations, item.rearmedAt now, ?_, ⟨itemKind, .inl rfl⟩, itemKey⟩
    have identity : validateWorkIdentity request.workKind request.workKey = .ok () := by
      rw [kind, key, ← itemKey, ← itemKind]
      exact sound.table.rows item member
    have here := Store.findWork_of_mem sound.table.unique member
    show item.rearmedAt now ∈ (committed (applyAdministrativeRetryRequest request now) store).work
    unfold committed applyAdministrativeRetryRequest
    rw [if_neg (by simp [formed, identity]), fresh]
    unfold retryIfBlocked
    dsimp only
    rw [kind, key, found]
    dsimp only
    rw [if_neg (not_not_intro blocked), Store.updateWork_of_mem sound.table.unique member]
    exact (Store.mem_updateIn sound.table.unique member).mpr (.inl rfl)
  | retried now item found blocked =>
    have named := (Store.findWork_some found).2
    exact ⟨(LeavesRecords.workCall _ store).orchestrations,
      rearmed_waits sound.table found ⟨named, blocked⟩⟩
  | scheduled now item found succeeded =>
    have named := (Store.findWork_some found).2
    exact ⟨(LeavesRecords.workCall _ store).orchestrations,
      rearmed_waits sound.table found ⟨named, succeeded⟩⟩

end Calls

/-! ## Runs -/

section Runs

variable {rules : PreflightRules} {naming : DeploymentNaming}

/-- Nothing is in the tables that the lanes select from. -/
structure Store.Unused (store : Store) : Prop where
  work : store.work = []
  orchestrations : store.orchestrations = []
  backupCheckpoints : store.backupCheckpoints = []

theorem Store.Unused.sound {store : Store} (unused : store.Unused) : LanesSound store := by
  obtain ⟨work, orchestrations, backupCheckpoints⟩ := unused
  refine ⟨⟨⟨?_, ?_⟩, ?_⟩, ?_, ?_, ?_⟩
  · unfold Store.workKeys
    rw [work]
    exact List.nodup_nil
  · rw [work]
    exact fun _ => nofun
  · rw [work]
    exact fun _ => nofun
  · rw [orchestrations]
    exact List.nodup_nil
  · rw [backupCheckpoints]
    exact fun _ => nofun
  · rw [orchestrations]
    exact fun _ => nofun

theorem LanesSound.call {store : Store} (sound : LanesSound store) {call : PreflightCall}
    (quiet : RearmsNoEnded store call) : LanesSound (call.perform rules naming store).2 :=
  sound.step (lane_step sound call) quiet

theorem LanesSound.covered_iff {store : Store} (sound : LanesSound store) (calls : List PreflightCall) :
    (∀ n, (Machine.after (PreflightCall.perform rules naming) store (calls.take n)).Covered) ↔
      Machine.Along (PreflightCall.perform rules naming) RearmsNoEnded store calls := by
  induction calls generalizing store with
  | nil => exact ⟨fun _ => trivial, fun _ n => by rw [List.take_nil]; exact sound.covered⟩
  | cons call calls ih =>
    constructor
    · intro covered
      have quiet : RearmsNoEnded store call := fun row there ended rearms =>
        rearmed_uncovered sound there ended rearms (covered 1)
      exact ⟨quiet, (ih (sound.call quiet)).mp fun n => covered (n + 1)⟩
    · rintro ⟨quiet, later⟩ n
      cases n with
      | zero => exact sound.covered
      | succ n => exact (ih (sound.call quiet)).mpr later n

/-- **In every run, each waiting candidate always has its one lane** exactly where no call makes the
item of an ended candidate wait again. -/
theorem waiting_covered_iff (rules : PreflightRules) (naming : DeploymentNaming) {store : Store}
    (unused : store.Unused) (calls : List PreflightCall) :
    (∀ n, (Machine.after (PreflightCall.perform rules naming) store (calls.take n)).Covered) ↔
      Machine.Along (PreflightCall.perform rules naming) RearmsNoEnded store calls :=
  unused.sound.covered_iff calls

theorem waiting_covered_here :
    (∀ n, (Machine.after (PreflightCall.perform detectedRules detectedNaming) detectedHome.store
        (List.take n [.work (.enqueueWork .candidate detectedSha.key 0),
          .claimPending detectedTarget 1 0])).Covered) ↔
      Machine.Along (PreflightCall.perform detectedRules detectedNaming) RearmsNoEnded
        detectedHome.store [.work (.enqueueWork .candidate detectedSha.key 0),
          .claimPending detectedTarget 1 0] :=
  waiting_covered_iff detectedRules detectedNaming ⟨rfl, rfl, rfl⟩ _

end Runs

/-! ## A candidate without a lane -/

def retriedRequest : AdministrativeRetryRequest :=
  ⟨"00000000-0000-4000-8000-000000000000", .candidate, detectedSha.key⟩

/-- An administrator asks for the candidate whose configuration was refused. -/
def retriedHome : System :=
  ((Lane.transaction (applyAdministrativeRetryRequest retriedRequest 1)).call.advance 60
    refusedHome).2

/-- A pass that has the time it needs. -/
theorem pass_reached {pass : Prog System Unit} (known : PreflightPass detectedRules detectedNaming pass)
    (s : System) : DetectedReach s (pass.advance 60 s).2 := by
  have once : Prog.Reach (PreflightOthers detectedRules detectedNaming)
      (PreflightPass detectedRules detectedNaming) (.call pass s) _ := .advance 60 pass s
  exact Relation.ReflTransGen.head (.start known s) (once.tail (.crash _ _))

theorem retriedHome_reached : DetectedReach detectedHome retriedHome :=
  (analyzedHome_reached.trans refusedHome_reached).trans (pass_reached (.retry retriedRequest 1) _)

theorem retriedHome_tables :
    retriedHome.store.findWork .candidate detectedSha.key =
        some ⟨.candidate, detectedSha.key, .pending, 0, 0, 1, some 1⟩ ∧
      retriedHome.store.orchestrations = [⟨detectedSha, detectedTarget, 1, .blocked, 0, 0⟩] := by
  decide +kernel

theorem retriedHome_unselected (action : CandidateAction) :
    retriedHome.store.laneSelects action detectedSha.key = false := by
  cases action <;>
    simp [Store.laneSelects, Store.unregistered, Store.waitsFor, retriedHome_tables.2,
      OrchestrationPhase.nextAction]

/-- Runs of the passes lead to a waiting candidate that no lane claims. -/
theorem waiting_uncovered :
    ¬∀ s, DetectedReach detectedHome s → s.store.Covered := by
  intro covered
  have member := (Store.findWork_some retriedHome_tables.1).1
  obtain ⟨action, ⟨now, there⟩, -⟩ := covered _ retriedHome_reached _ member ⟨rfl, .inl rfl⟩
  have selects := (Bool.and_eq_true_iff.mp (List.mem_filter.mp there).2).2
  exact nomatch (retriedHome_unselected action).symm.trans selects

end SyncApp
