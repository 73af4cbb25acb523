import SyncApp.LiveApply.Journal

/-!
# Entries of the journal

`Entry` is all that one action may do to the journal: add the next row once the rows before it are
verified, settle a started row, add a guard, or enter a mutation that is started, guarded and new.
The invariant `Sound` and the permanence of settled rows follow from it alone (`Entry.sound`,
`Entry.keeps`), and the two transactions that write make one entry each.
-/

set_option autoImplicit false

namespace SyncApp

open Lib Raising LiveApplyJournal


/-- The progress rows, the guards, and the operations whose mutation was entered. -/
structure Journal where
  progress : List PersistedLiveApplyProgress
  guards : List LiveApplyMutationGuard
  entered : List (PyStr × Nat)

def World.journal (world : World) : Journal := ⟨world.db.progress, world.db.guards, world.entered⟩

namespace Journal

/-- The rows of a deployment, as they were added. -/
def rows (journal : Journal) (deploymentId : PyStr) : List PersistedLiveApplyProgress :=
  journal.progress.filter fun row => row.progress.deploymentId = deploymentId

/-- The row of an operation. -/
def row (journal : Journal) (deploymentId : PyStr) (operationIndex : Nat) :
    Option PersistedLiveApplyProgress :=
  journal.progress.find? fun row =>
    row.progress.deploymentId = deploymentId ∧ row.progress.operationIndex = operationIndex

/-- The operation is started and not settled. -/
def Started (journal : Journal) (deploymentId : PyStr) (operationIndex : Nat) : Prop :=
  ∃ row, journal.row deploymentId operationIndex = some row ∧
    row.progress.phase = .mutationStarted

/-- The operation has a mutation guard. -/
def Guarded (journal : Journal) (deploymentId : PyStr) (operationIndex : Nat) : Prop :=
  ∃ guard ∈ journal.guards,
    guard.deploymentId = deploymentId ∧ guard.operationIndex = operationIndex

end Journal

/-- The invariant of the journal. -/
structure Sound (journal : Journal) : Prop where
  contiguous : ∀ deploymentId, contiguousFrom 0 (journal.rows deploymentId) = true
  entered_lt : ∀ entry ∈ journal.entered, entry.2 < (journal.rows entry.1).length
  entered_once : journal.entered.Nodup

/-- What one action does to the journal. -/
inductive Entry : Journal → Journal → Prop where
  | same (journal : Journal) : Entry journal journal
  | started (journal : Journal) (row : PersistedLiveApplyProgress)
      (next : row.progress.operationIndex = (journal.rows row.progress.deploymentId).length)
      (verified : ∀ prior ∈ journal.rows row.progress.deploymentId,
        prior.progress.phase = .mutationVerified)
      (phase : row.progress.phase = .mutationStarted) :
      Entry journal { journal with progress := journal.progress ++ [row] }
  | settled (journal : Journal) (existing replacement : PersistedLiveApplyProgress)
      (started : existing.progress.phase = .mutationStarted)
      (same : sameOperation existing.progress replacement.progress = true) :
      Entry journal { journal with progress := journal.progress.map fun row =>
        if row = existing then replacement else row }
  | guarded (journal : Journal) (guard : LiveApplyMutationGuard) :
      Entry journal { journal with guards := journal.guards ++ [guard] }
  | entered (journal : Journal) (deploymentId : PyStr) (operationIndex : Nat)
      (started : journal.Started deploymentId operationIndex)
      (guard : journal.Guarded deploymentId operationIndex)
      (fresh : (deploymentId, operationIndex) ∉ journal.entered) :
      Entry journal { journal with
        entered := journal.entered ++ [(deploymentId, operationIndex)] }

/-! ## Contiguous rows -/

/-- Rows that are all verified and count up may be followed by the next row. -/
theorem contiguousFrom_append {row : PersistedLiveApplyProgress} :
    ∀ {rows : List PersistedLiveApplyProgress} {index : Nat}, contiguousFrom index rows = true →
      (∀ prior ∈ rows, prior.progress.phase = .mutationVerified) →
      row.progress.operationIndex = index + rows.length →
      contiguousFrom index (rows ++ [row]) = true
  | [], index, _, _, next => by simpa [contiguousFrom] using next
  | [first], index, counts, verified, next => by
    simp only [contiguousFrom, decide_eq_true_eq] at counts
    have phase := verified first List.mem_cons_self
    have next : row.progress.operationIndex = index + 1 := next
    simp [contiguousFrom, counts, phase, next]
  | first :: second :: rows, index, counts, verified, next => by
    simp only [contiguousFrom, Bool.and_eq_true, decide_eq_true_eq] at counts
    obtain ⟨⟨here, phase⟩, rest⟩ := counts
    have next' : row.progress.operationIndex = index + 1 + (second :: rows).length := by
      simp only [List.length_cons] at next ⊢
      omega
    have later := contiguousFrom_append rest
      (fun prior held => verified prior (List.mem_cons_of_mem _ held)) next'
    simp only [List.cons_append] at later ⊢
    simp only [contiguousFrom, here, phase, later, decide_true, Bool.and_true]

/-- Rows still count up when each keeps its index and the verified ones stay verified. -/
theorem contiguousFrom_map {f : PersistedLiveApplyProgress → PersistedLiveApplyProgress}
    (index_eq : ∀ row, (f row).progress.operationIndex = row.progress.operationIndex)
    (verified : ∀ row, row.progress.phase = .mutationVerified →
      (f row).progress.phase = .mutationVerified) :
    ∀ {rows : List PersistedLiveApplyProgress} {index : Nat}, contiguousFrom index rows = true →
      contiguousFrom index (rows.map f) = true
  | [], _, _ => rfl
  | [first], index, counts => by
    simpa only [contiguousFrom, List.map, index_eq] using counts
  | first :: second :: rows, index, counts => by
    simp only [contiguousFrom, Bool.and_eq_true, decide_eq_true_eq] at counts
    obtain ⟨⟨here, phase⟩, rest⟩ := counts
    have later := contiguousFrom_map index_eq verified rest
    simp only [List.map] at later ⊢
    simp only [contiguousFrom, index_eq, here, verified first phase, later, decide_true,
      Bool.and_true]

/-- The index of a row that counts up from one on is at least that one. -/
theorem contiguousFrom_index {rows : List PersistedLiveApplyProgress} {index : Nat}
    (counts : contiguousFrom index rows = true) :
    rows.Pairwise fun first second =>
      first.progress.operationIndex < second.progress.operationIndex := by
  have bounded : ∀ {rows : List PersistedLiveApplyProgress} {index : Nat},
      contiguousFrom index rows = true → ∀ row ∈ rows, index ≤ row.progress.operationIndex := by
    intro rows
    induction rows with
    | nil => intro _ _ row held; cases held
    | cons first rows ih =>
      intro index counts row held
      cases rows with
      | nil =>
        simp only [contiguousFrom, decide_eq_true_eq] at counts
        rw [List.mem_singleton] at held
        subst held
        omega
      | cons second rows =>
        simp only [contiguousFrom, Bool.and_eq_true, decide_eq_true_eq] at counts
        rcases List.mem_cons.mp held with rfl | later
        · omega
        · have := ih counts.2 row later
          omega
  induction rows generalizing index with
  | nil => exact .nil
  | cons first rows ih =>
    cases rows with
    | nil => exact List.pairwise_singleton _ _
    | cons second rows =>
      simp only [contiguousFrom, Bool.and_eq_true, decide_eq_true_eq] at counts
      refine .cons (fun row held => ?_) (ih counts.2)
      have := bounded counts.2 row held
      omega

/-- Rows that count up have indices below their end. -/
theorem contiguousFrom_lt {row : PersistedLiveApplyProgress} {operationIndex : Nat} :
    ∀ {rows : List PersistedLiveApplyProgress} {index : Nat}, contiguousFrom index rows = true →
      row ∈ rows → row.progress.operationIndex = index + operationIndex →
      operationIndex < rows.length
  | [], _, _, held, _ => by cases held
  | [first], index, counts, held, at_index => by
    simp only [contiguousFrom, decide_eq_true_eq] at counts
    rw [List.mem_singleton] at held
    subst held
    simp only [List.length_singleton]
    omega
  | first :: second :: rows, index, counts, held, at_index => by
    simp only [contiguousFrom, Bool.and_eq_true, decide_eq_true_eq] at counts
    simp only [List.length_cons]
    rcases List.mem_cons.mp held with rfl | later
    · omega
    · cases operationIndex with
      | zero => omega
      | succ operationIndex =>
        have before : operationIndex < (second :: rows).length :=
          contiguousFrom_lt counts.2 later (by omega)
        simp only [List.length_cons] at before
        omega

/-- Rows that count up are in the order of a sorted query. -/
theorem Sound.progressRows {world : World} (sound : Sound world.journal) (deploymentId : PyStr) :
    LiveApplyJournal.progressRows world.db deploymentId = world.journal.rows deploymentId := by
  have ordered := (contiguousFrom_index (sound.contiguous deploymentId)).imp
    fun below => Nat.le_of_lt below
  exact List.Pairwise.insertionSort_eq ordered

/-! ## What one entry keeps -/

/-- The replacement of a row is a row of the same operation. -/
theorem sameOperation_eq {left right : LiveApplyProgress} (same : sameOperation left right = true) :
    right.deploymentId = left.deploymentId ∧ right.operationIndex = left.operationIndex := by
  have equal : { left with phase := right.phase } = right := of_decide_eq_true same
  constructor
  · rw [← equal]
  · rw [← equal]

theorem Entry.rows_settled {journal : Journal} {existing replacement : PersistedLiveApplyProgress}
    (same : sameOperation existing.progress replacement.progress = true) (deploymentId : PyStr) :
    ((journal.progress.map fun row => if row = existing then replacement else row).filter
      fun row => row.progress.deploymentId = deploymentId) =
    (journal.rows deploymentId).map fun row => if row = existing then replacement else row := by
  obtain ⟨deployment, -⟩ := sameOperation_eq same
  rw [List.filter_map]
  congr 1
  apply List.filter_congr
  intro row _
  simp only [Function.comp_apply]
  by_cases at_row : row = existing
  · rw [if_pos at_row, deployment, at_row]
  · rw [if_neg at_row]

/-- **One action keeps the invariant.** -/
theorem Entry.sound {journal journal' : Journal} (entry : Entry journal journal')
    (sound : Sound journal) : Sound journal' := by
  cases entry with
  | same => exact sound
  | started row next verified phase =>
    have rows_eq : ∀ deploymentId, (Journal.rows { journal with
        progress := journal.progress ++ [row] } deploymentId) = journal.rows deploymentId ++
        if row.progress.deploymentId = deploymentId then [row] else [] := by
      intro deploymentId
      unfold Journal.rows
      rw [List.filter_append]
      by_cases mine : row.progress.deploymentId = deploymentId
      · rw [if_pos mine, List.filter_cons_of_pos (by simpa using mine), List.filter_nil]
      · rw [if_neg mine, List.filter_cons_of_neg (by simpa using mine), List.filter_nil]
    refine ⟨fun deploymentId => ?_, fun entry held => ?_, sound.entered_once⟩
    · rw [rows_eq]
      by_cases mine : row.progress.deploymentId = deploymentId
      · subst mine
        rw [if_pos rfl]
        exact contiguousFrom_append (sound.contiguous _) verified (by rw [next, Nat.zero_add])
      · rw [if_neg mine, List.append_nil]
        exact sound.contiguous deploymentId
    · rw [rows_eq, List.length_append]
      exact Nat.lt_of_lt_of_le (sound.entered_lt entry held) (Nat.le_add_right _ _)
  | settled existing replacement started same =>
    obtain ⟨-, index⟩ := sameOperation_eq same
    have index_eq : ∀ row : PersistedLiveApplyProgress,
        (if row = existing then replacement else row).progress.operationIndex =
          row.progress.operationIndex := by
      intro row
      by_cases at_row : row = existing
      · rw [if_pos at_row, index, at_row]
      · rw [if_neg at_row]
    have verified : ∀ row : PersistedLiveApplyProgress,
        row.progress.phase = .mutationVerified →
          (if row = existing then replacement else row).progress.phase = .mutationVerified := by
      intro row phase
      by_cases at_row : row = existing
      · rw [at_row, started] at phase
        cases phase
      · rw [if_neg at_row]
        exact phase
    refine ⟨fun deploymentId => ?_, fun entry held => ?_, sound.entered_once⟩
    · show contiguousFrom 0 (List.filter _ _) = true
      rw [Entry.rows_settled same]
      exact contiguousFrom_map index_eq verified (sound.contiguous deploymentId)
    · show entry.2 < (List.filter _ _).length
      rw [Entry.rows_settled same, List.length_map]
      exact sound.entered_lt entry held
  | guarded => exact ⟨sound.contiguous, sound.entered_lt, sound.entered_once⟩
  | entered deploymentId operationIndex started guard fresh =>
    refine ⟨sound.contiguous, fun entry held => ?_, ?_⟩
    · rcases List.mem_append.mp held with before | now
      · exact sound.entered_lt entry before
      · rw [List.mem_singleton] at now
        subst now
        obtain ⟨row, found, -⟩ := started
        have at_row := List.find?_some found
        simp only [decide_eq_true_eq] at at_row
        have mem : row ∈ journal.rows deploymentId :=
          List.mem_filter.mpr ⟨List.mem_of_find?_eq_some found, by simpa using at_row.1⟩
        exact contiguousFrom_lt (sound.contiguous deploymentId) mem (by rw [at_row.2, Nat.zero_add])
    · rw [List.nodup_append]
      refine ⟨sound.entered_once, List.nodup_singleton _, fun entry before other now => ?_⟩
      rw [List.mem_singleton] at now
      subst now
      intro same
      exact fresh (same ▸ before)

/-- **A settled row stays as it is.** -/
theorem Entry.keeps {journal journal' : Journal} (entry : Entry journal journal')
    {deploymentId : PyStr} {operationIndex : Nat} {row : PersistedLiveApplyProgress}
    (found : journal.row deploymentId operationIndex = some row)
    (final : row.progress.phase ≠ .mutationStarted) :
    journal'.row deploymentId operationIndex = some row := by
  cases entry with
  | same => exact found
  | started added _ _ _ =>
    unfold Journal.row at found ⊢
    rw [List.find?_append, found, Option.some_or]
  | settled existing replacement started same =>
    obtain ⟨deployment, index⟩ := sameOperation_eq same
    have kept : row ≠ existing := by
      intro at_row
      rw [at_row] at final
      exact final started
    unfold Journal.row at found ⊢
    rw [List.find?_map]
    have selects : ((fun row : PersistedLiveApplyProgress =>
        decide (row.progress.deploymentId = deploymentId ∧
          row.progress.operationIndex = operationIndex)) ∘
        fun row => if row = existing then replacement else row) = fun row =>
        decide (row.progress.deploymentId = deploymentId ∧
          row.progress.operationIndex = operationIndex) := by
      funext other
      simp only [Function.comp_apply]
      by_cases at_row : other = existing
      · rw [if_pos at_row, deployment, index, at_row]
      · rw [if_neg at_row]
    rw [selects, found, Option.map_some, if_neg kept]
  | guarded => exact found
  | entered => exact found

/-! ## The transactions -/

section Transactions

variable {hashing : Hashing}

/-- Rows that count up with the last one verified are all verified. -/
theorem contiguousFrom_verified : ∀ {rows : List PersistedLiveApplyProgress} {index : Nat},
    contiguousFrom index rows = true →
    (∀ last ∈ rows.getLast?, last.progress.phase = .mutationVerified) →
    ∀ row ∈ rows, row.progress.phase = .mutationVerified
  | [], _, _, _ => fun _ held => by cases held
  | [first], _, _, last => fun row held => by
    rw [List.mem_singleton] at held
    exact held ▸ last first rfl
  | first :: second :: rows, index, counts, last => fun row held => by
    simp only [contiguousFrom, Bool.and_eq_true, decide_eq_true_eq] at counts
    rw [List.getLast?_cons_cons] at last
    rcases List.mem_cons.mp held with rfl | later
    · exact counts.1.2
    · exact contiguousFrom_verified counts.2 last row later

/-- **The progress transaction** makes one entry, leaves the guards alone, and when it is asked to
start an operation leaves that operation started. -/
theorem progressTransaction_entry {requested recorded : PersistedLiveApplyProgress}
    {plan : LiveApplyPlan} {db db' : Database} {added : Bool}
    (done : progressTransaction hashing requested plan db = .ok ((recorded, added), db'))
    (entered : List (PyStr × Nat)) :
    Entry ⟨db.progress, db.guards, entered⟩ ⟨db'.progress, db'.guards, entered⟩ ∧
      (requested.progress.phase = .mutationStarted →
        Journal.Started ⟨db'.progress, db'.guards, entered⟩ requested.progress.deploymentId
          requested.progress.operationIndex) := by
  unfold progressTransaction at done
  obtain ⟨-, -, done⟩ := bind_eq_ok.mp done
  split at done
  next existing found =>
    obtain ⟨-, -, done⟩ := bind_eq_ok.mp done
    split at done
    next => cases done
    next same =>
      split at done
      next phase =>
        cases done
        exact ⟨.same _, fun started => ⟨recorded, found, phase.trans started⟩⟩
      next phase =>
        obtain ⟨transitioned, moved, done⟩ := bind_eq_ok.mp done
        cases done
        unfold transitionLiveApplyProgress at moved
        split at moved
        next allowed =>
          simp only [asStateError, Except.ok.injEq] at moved
          subst moved
          have started : existing.progress.phase = .mutationStarted := by
            rcases allowed with started | replay
            · exact started
            · exact absurd replay.symm phase
          refine ⟨.settled _ existing _ started (decide_eq_true rfl), fun asked => ?_⟩
          exact absurd (started.trans asked.symm) phase
        next => cases moved
  next absent =>
    split at done
    next => cases done
    next phase =>
      obtain ⟨prior, selected, done⟩ := bind_eq_ok.mp done
      obtain ⟨-, -, done⟩ := bind_eq_ok.mp done
      obtain ⟨_, counted, done⟩ := bind_eq_ok.mp done
      split at done
      next => cases done
      next next_index =>
        split at done
        next => cases done
        next last =>
          cases done
          simp only [not_not] at phase next_index
          unfold selectProgressRows at selected
          split at selected
          next => cases selected
          next =>
            simp only [Except.ok.injEq] at selected
            subst selected
            have counts : contiguousFrom 0 (progressRows db requested.progress.deploymentId) := by
              unfold validateContiguousHistory at counted
              split at counted
              next counts => exact counts
              next => cases counted
            have verified := contiguousFrom_verified counts fun row held => by
              simp only [Option.any_eq_true, decide_eq_true_eq, not_exists, not_and,
                not_not] at last
              exact last row held
            refine ⟨.started _ requested ?_ (fun row held => ?_) phase, fun _ => ?_⟩
            · rw [next_index]
              exact List.length_insertionSort _ _
            · exact verified row ((List.mem_insertionSort _).mpr held)
            · refine ⟨requested, ?_, phase⟩
              show List.find? _ (db.progress ++ [requested]) = some requested
              unfold selectProgressRow at absent
              rw [List.find?_append, absent, Option.none_or]
              simp

/-- **The guard transaction** makes one entry, and leaves the operation guarded. -/
theorem guardTransaction_entry {record : LiveApplyMutationGuard} {db db' : Database} {added : Bool}
    (done : guardTransaction record db = .ok (added, db')) (entered : List (PyStr × Nat)) :
    Entry ⟨db.progress, db.guards, entered⟩ ⟨db'.progress, db'.guards, entered⟩ ∧
      db'.progress = db.progress ∧ Journal.Guarded ⟨db'.progress, db'.guards, entered⟩
        record.deploymentId record.operationIndex := by
  unfold guardTransaction at done
  split at done
  next existing found =>
    split at done
    next => cases done
    next =>
      cases done
      have at_row := List.find?_some found
      simp only [decide_eq_true_eq] at at_row
      exact ⟨.same _, rfl, existing, List.mem_of_find?_eq_some found, at_row⟩
  next =>
    cases done
    exact ⟨.guarded _ record, rfl, record, List.mem_append_right _ List.mem_cons_self, rfl, rfl⟩

end Transactions

end SyncApp
