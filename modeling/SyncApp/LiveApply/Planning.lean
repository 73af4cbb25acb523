import SyncApp.LiveApply.Changes
import SyncApp.LiveApply.Admission
import SyncApp.LiveApply.WriteAhead
import Mathlib.Data.List.Dedup

/-!
# A plan turns the baseline into the candidate

A tree of files is a map from paths to bytes and modes; a Git tree *holds* it when it names the
object of each file. `executeOperation` is what an operation does to the map: it asks for the
baseline at its path and leaves the candidate there.

`plan_gives_candidate`: the changes between two trees are accepted by the planner, and the plan
executes on the baseline to the candidate, with one operation for each path that differs and none
for the others.
-/

set_option autoImplicit false

namespace SyncApp

open Lib Raising CandidateTrees LiveApplyPlanner

/-! ## Files and what an operation does to them -/

/-- The bytes and the mode of each file. -/
abbrev Files := PyStr → Option (List UInt8 × GitMode)

/-- A tree holds files: it has an entry for each of them, which names its object. -/
def Holds (objectId : List UInt8 → ObjectId) (files : Files) (tree : List TreeEntry) : Prop :=
  ∀ path, entryAt tree path = (files path).map fun file => ⟨path, file.2, objectId file.1⟩

/-- An operation on files; `staged` are the bytes it writes. -/
def executeOperation (objectId : List UInt8 → ObjectId) (staged : PyStr → Option (List UInt8))
    (operation : LiveApplyOperation) (files : Files) : Option Files :=
  let found := files operation.path
  if operation.baselineMode = found.map (·.2) ∧
      operation.baselineObjectId = found.map fun file => objectId file.1 then
    match operation.status with
    | .deleted => some (Function.update files operation.path none)
    | .modeChanged =>
      match found, operation.candidateMode with
      | some file, some mode => some (Function.update files operation.path (some (file.1, mode)))
      | _, _ => none
    | .added | .modified | .modifiedAndModeChanged =>
      match staged operation.path, operation.candidateMode with
      | some bytes, some mode => some (Function.update files operation.path (some (bytes, mode)))
      | _, _ => none
  else none

def executeOperations (objectId : List UInt8 → ObjectId) (staged : PyStr → Option (List UInt8)) :
    List LiveApplyOperation → Files → Option Files
  | [], files => some files
  | operation :: operations, files => do
    executeOperations objectId staged operations
      (← executeOperation objectId staged operation files)

/-- Operations that each leave the candidate at their own path leave it at all of them. -/
theorem executeOperations_eq {objectId : List UInt8 → ObjectId}
    {staged : PyStr → Option (List UInt8)} {baseline candidate : Files}
    {operations : List LiveApplyOperation} {files : Files}
    (each : ∀ operation ∈ operations, ∀ files : Files,
      files operation.path = baseline operation.path →
      executeOperation objectId staged operation files =
        some (Function.update files operation.path (candidate operation.path)))
    (distinct : (operations.map (·.path)).Nodup)
    (start : ∀ operation ∈ operations, files operation.path = baseline operation.path) :
    executeOperations objectId staged operations files =
      some fun path => if path ∈ operations.map (·.path) then candidate path else files path := by
  induction operations generalizing files with
  | nil => rfl
  | cons operation operations ih =>
    rw [List.map_cons, List.nodup_cons] at distinct
    unfold executeOperations
    rw [each operation List.mem_cons_self files (start operation List.mem_cons_self)]
    have others : ∀ other ∈ operations, other.path ≠ operation.path :=
      fun other mem same => distinct.1 (same ▸ List.mem_map_of_mem mem)
    refine (ih (fun other mem => each other (List.mem_cons_of_mem _ mem)) distinct.2
      fun other mem => ?_).trans (congrArg some (funext fun path => ?_))
    · rw [Function.update_of_ne (others other mem)]
      exact start other (List.mem_cons_of_mem _ mem)
    · by_cases here : path = operation.path
      · subst here
        rw [if_neg distinct.1, List.map_cons, if_pos List.mem_cons_self, Function.update_self]
      · rw [Function.update_of_ne here, List.map_cons]
        simp only [List.mem_cons, here, false_or]

/-! ## The changes of two trees -/

section Trees

variable {tree baseline candidate : List TreeEntry} {path : PyStr} {entry : TreeEntry}
  {change : CandidateChange}

theorem entryAt_mem (found : entryAt tree path = some entry) :
    entry ∈ tree ∧ entry.path = path := by
  unfold entryAt at found
  have here := List.find?_some found
  exact ⟨List.mem_reverse.mp (List.mem_of_find?_eq_some found), of_decide_eq_true here⟩

theorem CandidateTrees.TreeForm.nodup (form : TreeForm tree) : (tree.map (·.path)).Nodup :=
  List.pairwise_map.mpr (form.increasing.imp fun less => ne_of_lt less)

theorem CandidateTrees.TreeForm.entryAt_eq (form : TreeForm tree) (mem : entry ∈ tree) :
    entryAt tree entry.path = some entry := by
  unfold entryAt
  cases found : tree.reverse.find? (·.path = entry.path) with
  | none =>
    have wrong := List.find?_eq_none.mp found entry (List.mem_reverse.mpr mem)
    exact (wrong (decide_eq_true rfl)).elim
  | some other =>
    obtain ⟨held, same⟩ := entryAt_mem found
    rw [List.inj_on_of_nodup_map form.nodup held mem same]

theorem mem_pathsOf : path ∈ pathsOf baseline candidate ↔
    path ∈ baseline.map (·.path) ∨ path ∈ candidate.map (·.path) := by
  unfold pathsOf
  rw [List.mem_insertionSort, List.mem_dedup, List.mem_append]

theorem pathsOf_increasing : (pathsOf baseline candidate).Pairwise (· < ·) := by
  have ordered := List.pairwise_insertionSort (· ≤ ·)
    (baseline.map (·.path) ++ candidate.map (·.path)).dedup
  have distinct := (List.perm_insertionSort (· ≤ ·) _).nodup_iff.mpr
    (List.nodup_dedup (baseline.map (·.path) ++ candidate.map (·.path)))
  exact (ordered.and distinct).imp fun both => lt_of_le_of_ne both.1 both.2

theorem changeOf_path {old new : Option TreeEntry} (changed : changeOf path old new = some change) :
    change.path = path := by
  unfold changeOf at changed
  split at changed
  · cases changed
  · cases changed
    rfl

theorem mem_buildChanges : change ∈ buildChanges baseline candidate ↔
    changeOf change.path (entryAt baseline change.path) (entryAt candidate change.path) =
      some change := by
  unfold buildChanges
  rw [List.mem_filterMap]
  constructor
  · rintro ⟨path, -, changed⟩
    rw [changeOf_path changed]
    exact changed
  · intro changed
    refine ⟨change.path, mem_pathsOf.mpr ?_, changed⟩
    by_contra nowhere
    obtain ⟨not_old, not_new⟩ := not_or.mp nowhere
    have absent {tree : List TreeEntry} (free : change.path ∉ tree.map (·.path)) :
        entryAt tree change.path = none := by
      cases found : entryAt tree change.path with
      | none => rfl
      | some entry =>
        obtain ⟨held, same⟩ := entryAt_mem found
        exact (free (same ▸ List.mem_map_of_mem held)).elim
    rw [absent not_old, absent not_new] at changed
    cases changed

theorem buildChanges_increasing :
    (buildChanges baseline candidate).Pairwise fun first second => first.path < second.path := by
  unfold buildChanges
  rw [List.pairwise_filterMap]
  refine pathsOf_increasing.imp fun {first second} less change changed other changed' => ?_
  rw [changeOf_path changed, changeOf_path changed']
  exact less

theorem validateResult_eq_ok {changes : List CandidateChange} {previous : Option PyStr}
    (increasing : changes.Pairwise fun first second => first.path < second.path)
    (above : ∀ before ∈ previous, ∀ change ∈ changes, before < change.path) :
    validateResult previous changes = .ok () := by
  induction changes generalizing previous with
  | nil => rfl
  | cons change changes ih =>
    obtain ⟨first, rest⟩ := List.pairwise_cons.mp increasing
    unfold validateResult
    rw [if_neg]
    · refine ih rest fun before held other mem => ?_
      cases held
      exact first other mem
    · cases previous with
      | none => nofun
      | some before =>
        simpa using above before rfl change List.mem_cons_self

/-- **A status fits its sides**: the planner takes every change that the comparison makes. -/
theorem validateChange_eq_ok {old new : Option TreeEntry}
    (changed : changeOf path old new = some change) (safe : safePath path = true)
    (old_path : ∀ entry ∈ old, entry.path = path) (new_path : ∀ entry ∈ new, entry.path = path) :
    validateChange change = .ok () := by
  unfold changeOf at changed
  split at changed
  · cases changed
  next apart =>
    cases changed
    unfold validateChange
    rw [safe]
    cases old with
    | none =>
      cases new with
      | none => exact (apart rfl).elim
      | some new => rfl
    | some old =>
      cases new with
      | none => rfl
      | some new =>
        by_cases objects : old.objectId = new.objectId
        · have modes : old.gitMode ≠ new.gitMode := by
            intro same
            have paths := (old_path old rfl).trans (new_path new rfl).symm
            refine apart (congrArg some ?_)
            cases old
            cases new
            exact TreeEntry.mk.injEq .. ▸ ⟨paths, same, objects⟩
          simp [statusOf, validGitSide, objects, modes]
        · by_cases modes : old.gitMode = new.gitMode
          · simp [statusOf, validGitSide, objects, modes]
          · simp [statusOf, validGitSide, objects, modes]

theorem changeOf_eq_some {old new : Option TreeEntry}
    (changed : changeOf path old new = some change) :
    old ≠ new ∧ change = ⟨path, statusOf old new, old.map (·.gitMode), old.map (·.objectId),
      new.map (·.gitMode), new.map (·.objectId)⟩ := by
  unfold changeOf at changed
  split at changed
  · cases changed
  next apart => exact ⟨apart, (Option.some.inj changed).symm⟩

/-- A path that the candidate has is not deleted. -/
theorem statusOf_some (old : Option TreeEntry) (new : TreeEntry) :
    statusOf old (some new) ≠ .deleted := by
  cases old with
  | none => nofun
  | some old =>
    unfold statusOf
    dsimp only
    split
    · nofun
    · split <;> nofun

/-- A path that the baseline has is not added. -/
theorem statusOf_old (old : TreeEntry) (new : Option TreeEntry) :
    statusOf (some old) new ≠ .added := by
  cases new with
  | none => nofun
  | some new =>
    unfold statusOf
    dsimp only
    split
    · nofun
    · split <;> nofun

/-- The paths of a comparison are those of its trees. -/
theorem mem_buildChanges_path (mem : change ∈ buildChanges baseline candidate) :
    change.path ∈ baseline.map (·.path) ∨ change.path ∈ candidate.map (·.path) := by
  obtain ⟨path, held, changed⟩ := List.mem_filterMap.mp mem
  rw [changeOf_path changed]
  exact mem_pathsOf.mp held

/-! ## The plan of a comparison -/

/-- A staged entry as the tree has it. -/
def treeEntryOf (entry : CandidateStageEntry) : TreeEntry :=
  ⟨entry.path, entry.gitMode, entry.objectId⟩

theorem bindCandidateTree_eq_ok {stage : CandidateStage}
    (bound : bindCandidateTreeToStage candidate stage = .ok ()) :
    candidate = stage.entries.map treeEntryOf := by
  unfold bindCandidateTreeToStage at bound
  split at bound
  · cases bound
  next same_length =>
    split at bound
    next all_same =>
      have lengths := not_not.mp same_length
      clear bound same_length
      generalize stage.entries = entries at all_same lengths ⊢
      induction candidate generalizing entries with
      | nil =>
        rw [List.length_nil, eq_comm, List.length_eq_zero_iff] at lengths
        rw [lengths, List.map_nil]
      | cons first rest ih =>
        cases entries with
        | nil => cases lengths
        | cons staged entries =>
          rw [List.zip_cons_cons, List.all_cons, Bool.and_eq_true] at all_same
          obtain ⟨here, later⟩ := all_same
          simp only [Bool.and_eq_true, decide_eq_true_eq] at here
          rw [List.map_cons, ← ih entries later (Nat.succ.inj lengths)]
          obtain ⟨⟨path, mode⟩, object⟩ := here
          unfold treeEntryOf
          rw [← path, ← mode, ← object]
    next => cases bound

/-- What is staged at a path is the tree's entry. -/
theorem staged_entryAt {entries : List CandidateStageEntry}
    (form : TreeForm (entries.map treeEntryOf)) (path : PyStr) :
    (entries.find? (·.path = path)).map treeEntryOf = entryAt (entries.map treeEntryOf) path := by
  cases found : entries.find? (·.path = path) with
  | none =>
    cases held : entryAt (entries.map treeEntryOf) path with
    | none => rfl
    | some entry =>
      obtain ⟨mem, here⟩ := entryAt_mem held
      obtain ⟨staged, at_staged, rfl⟩ := List.mem_map.mp mem
      exact (List.find?_eq_none.mp found staged at_staged (decide_eq_true here)).elim
  | some staged =>
    have here : staged.path = path := of_decide_eq_true (List.find?_some found :)
    rw [Option.map_some, ← here]
    exact (form.entryAt_eq (List.mem_map_of_mem (List.mem_of_find?_eq_some found))).symm

/-- The operation of a change. -/
def operationOf (entries : List CandidateStageEntry) (change : CandidateChange) :
    LiveApplyOperation :=
  let staged := entries.find? (·.path = change.path)
  ⟨change.path, change.status, change.baselineMode, change.baselineObjectId, change.candidateMode,
    change.candidateObjectId, staged.map (·.size), staged.map (·.sha256)⟩

theorem buildOperation_eq_ok {entries : List CandidateStageEntry} {old : Option TreeEntry}
    (changed : changeOf path old ((entries.find? (·.path = path)).map treeEntryOf) = some change) :
    buildOperation entries change = .ok (operationOf entries change) := by
  obtain ⟨apart, same⟩ := changeOf_eq_some changed
  unfold buildOperation operationOf
  cases found : entries.find? (·.path = path) with
  | none =>
    rw [found] at same apart
    cases old with
    | none => exact (apart rfl).elim
    | some old =>
      subst same
      dsimp only
      rw [found]
      rfl
  | some entry =>
    rw [found] at same
    have kept := statusOf_some old (treeEntryOf entry)
    subst same
    dsimp only [Option.map_some] at kept ⊢
    rw [found]
    generalize statusOf old (some (treeEntryOf entry)) = status at kept ⊢
    cases status with
    | deleted => exact (kept rfl).elim
    | _ => simp [treeEntryOf]

theorem operationsOf_eq_ok {entries : List CandidateStageEntry} {changes : List CandidateChange}
    {seen : List PyStr}
    (each : ∀ change ∈ changes, validateChange change = .ok () ∧
      buildOperation entries change = .ok (operationOf entries change))
    (distinct : (changes.map (·.path)).Nodup) (fresh : ∀ change ∈ changes, change.path ∉ seen) :
    operationsOf entries seen changes = .ok (changes.map (operationOf entries)) := by
  induction changes generalizing seen with
  | nil => rfl
  | cons change changes ih =>
    obtain ⟨⟨valid, built⟩, later⟩ := List.forall_mem_cons.mp each
    obtain ⟨new, others⟩ := List.forall_mem_cons.mp fresh
    rw [List.map_cons, List.nodup_cons] at distinct
    have rest : operationsOf entries (change.path :: seen) changes =
        .ok (changes.map (operationOf entries)) := by
      refine ih later distinct.2 fun other mem held => ?_
      rcases List.mem_cons.mp held with same | before
      · exact distinct.1 (same ▸ List.mem_map_of_mem mem)
      · exact others other mem before
    unfold operationsOf
    rw [valid, built, rest]
    have unseen : seen.contains change.path = false := by simpa using new
    simp only [unseen]
    rfl

theorem Scalar.encodable {path : PyStr} (scalar : ∀ c ∈ path, Utf8.Scalar c) : Encodable path := by
  unfold Encodable
  rw [List.any_eq_false]
  intro c mem
  have bounds := (scalar c mem).2
  simpa [Nat.not_le] using bounds

variable {entries : List CandidateStageEntry}

/-- Every path of a comparison is a path of one of the trees. -/
theorem buildChanges_form (old : TreeForm baseline) (new : TreeForm candidate)
    (mem : change ∈ buildChanges baseline candidate) :
    safePath change.path = true ∧ (∀ c ∈ change.path, Utf8.Scalar c) ∧ 0 ∉ change.path := by
  rcases mem_buildChanges_path mem with held | held
  · obtain ⟨entry, mem, same⟩ := List.mem_map.mp held
    rw [← same]
    exact ⟨old.safe entry mem, old.scalar entry mem, old.clean entry mem⟩
  · obtain ⟨entry, mem, same⟩ := List.mem_map.mp held
    rw [← same]
    exact ⟨new.safe entry mem, new.scalar entry mem, new.clean entry mem⟩

/-- **The planner takes every comparison** with the staged tree. -/
theorem buildOperations_eq_ok (old : TreeForm baseline)
    (new : TreeForm (entries.map treeEntryOf)) :
    buildOperations entries (buildChanges baseline (entries.map treeEntryOf)) =
      .ok ((buildChanges baseline (entries.map treeEntryOf)).map (operationOf entries)) := by
  have increasing := @buildChanges_increasing baseline (entries.map treeEntryOf)
  have form := @buildChanges_form baseline (entries.map treeEntryOf)
  generalize compared : buildChanges baseline (entries.map treeEntryOf) = changes at increasing form
  have staged : stagedByPath entries = .ok () := by
    unfold stagedByPath
    have safe : (entries.any fun entry => !safePath entry.path) = false := by
      rw [List.any_eq_false]
      intro entry mem
      rw [Bool.not_eq_true, Bool.not_eq_false']
      exact new.safe (treeEntryOf entry) (List.mem_map_of_mem mem)
    have distinct : (entries.map (·.path)).Nodup := by
      have nodup := new.nodup
      rw [List.map_map] at nodup
      exact nodup
    rw [safe, if_neg Bool.false_ne_true, if_pos distinct]
  have each : ∀ change ∈ changes, validateChange change = .ok () ∧
      buildOperation entries change = .ok (operationOf entries change) := by
    intro change mem
    have changed := mem_buildChanges.mp (compared ▸ mem)
    refine ⟨validateChange_eq_ok changed (form old new mem).1
      (fun entry held => (entryAt_mem held).2) (fun entry held => (entryAt_mem held).2), ?_⟩
    rw [← staged_entryAt new] at changed
    exact buildOperation_eq_ok changed
  have distinct : (changes.map (·.path)).Nodup :=
    List.pairwise_map.mpr (increasing.imp fun less => ne_of_lt less)
  have ordered : (changes.map (operationOf entries)).Pairwise
      fun first second => first.path ≤ second.path :=
    List.pairwise_map.mpr (increasing.imp fun less => le_of_lt less)
  have encodable : ∀ operation ∈ changes.map (operationOf entries), Encodable operation.path := by
    intro operation mem
    obtain ⟨change, held, rfl⟩ := List.mem_map.mp mem
    exact Scalar.encodable (form old new held).2.1
  unfold buildOperations
  rw [staged]
  refine bind_eq_ok.mpr ⟨(), rfl, bind_eq_ok.mpr
    ⟨_, operationsOf_eq_ok each distinct fun _ _ => List.not_mem_nil, bind_eq_ok.mpr
      ⟨_, encodeAll_eq_ok.mpr ⟨encodable, rfl⟩, congrArg Except.ok ?_⟩⟩⟩
  exact List.Pairwise.insertionSort_eq ordered

/-! ## Executing the plan -/

variable {objectId : List UInt8 → ObjectId} {B C : Files}

/-- No two contents of the same path have one object. -/
def Tells (objectId : List UInt8 → ObjectId) (B C : Files) : Prop :=
  ∀ path old new, B path = some old → C path = some new → objectId old.1 = objectId new.1 →
    old.1 = new.1

theorem Holds.entryAt_eq (tells : Tells objectId B C) (old : Holds objectId B baseline)
    (new : Holds objectId C candidate) :
    entryAt baseline path = entryAt candidate path ↔ B path = C path := by
  rw [old path, new path]
  cases before : B path with
  | none =>
    cases after : C path with
    | none => simp
    | some file => simp
  | some file =>
    cases after : C path with
    | none => simp
    | some file' =>
      constructor
      · intro same
        have entries := Option.some.inj same
        have modes : file.2 = file'.2 := congrArg TreeEntry.gitMode entries
        have bytes := tells path file file' before after (congrArg TreeEntry.objectId entries)
        exact congrArg some (Prod.ext bytes modes)
      · intro same
        rw [Option.some.inj same]

/-- **A path has an operation exactly when it differs.** -/
theorem mem_buildChanges_paths (tells : Tells objectId B C) (old : Holds objectId B baseline)
    (new : Holds objectId C candidate) :
    path ∈ (buildChanges baseline candidate).map (·.path) ↔ B path ≠ C path := by
  rw [ne_eq, ← Holds.entryAt_eq tells old new, List.mem_map]
  constructor
  · rintro ⟨change, mem, rfl⟩
    exact (changeOf_eq_some (mem_buildChanges.mp mem)).1
  · intro apart
    obtain ⟨change, changed⟩ : ∃ change,
        changeOf path (entryAt baseline path) (entryAt candidate path) = some change :=
      ⟨_, if_neg apart⟩
    have here := changeOf_path changed
    subst here
    exact ⟨change, mem_buildChanges.mpr changed, rfl⟩

/-- The operation of a change leaves the candidate at its path. -/
theorem executeOperation_eq (tells : Tells objectId B C) (old : Holds objectId B baseline)
    (new : Holds objectId C (entries.map treeEntryOf))
    (mem : change ∈ buildChanges baseline (entries.map treeEntryOf)) {files : Files}
    (here : files change.path = B change.path) :
    executeOperation objectId (fun path => (C path).map (·.1)) (operationOf entries change) files =
      some (Function.update files change.path (C change.path)) := by
  obtain ⟨apart, same⟩ := changeOf_eq_some (mem_buildChanges.mp mem)
  rw [old, new] at apart same
  have mode : change.baselineMode = (B change.path).map (·.2) :=
    (congrArg CandidateChange.baselineMode same).trans (Option.map_map ..)
  have object : change.baselineObjectId = (B change.path).map fun file => objectId file.1 :=
    (congrArg CandidateChange.baselineObjectId same).trans (Option.map_map ..)
  have candidate_mode : change.candidateMode = (C change.path).map (·.2) :=
    (congrArg CandidateChange.candidateMode same).trans (Option.map_map ..)
  have status : change.status = statusOf
      ((B change.path).map fun file => ⟨change.path, file.2, objectId file.1⟩)
      ((C change.path).map fun file => ⟨change.path, file.2, objectId file.1⟩) :=
    congrArg CandidateChange.status same
  unfold executeOperation operationOf
  dsimp only
  rw [here, if_pos ⟨mode, object⟩, status, candidate_mode]
  cases before : B change.path with
  | none =>
    cases after : C change.path with
    | none =>
      rw [before, after] at apart
      exact (apart rfl).elim
    | some file => rfl
  | some file =>
    cases after : C change.path with
    | none => rfl
    | some file' =>
      simp only [Option.map_some, statusOf]
      by_cases objects : objectId file.1 = objectId file'.1
      · have bytes := tells _ file file' before after objects
        simp only [bytes, ne_eq, not_true_eq_false, false_and, if_false]
      · by_cases modes : file.2 = file'.2
        · simp only [objects, modes, ne_eq, not_true_eq_false, not_false_eq_true, and_false,
            if_false, if_true]
        · simp only [objects, modes, ne_eq, not_false_eq_true, and_self, if_true]

theorem operationOf_paths (changes : List CandidateChange) :
    (changes.map (operationOf entries)).map (·.path) = changes.map (·.path) := by
  rw [List.map_map]
  rfl

/-- The operations of a comparison execute on the one tree's files to the other's. -/
theorem execute_comparison (tells : Tells objectId B C) (old : Holds objectId B baseline)
    (new : Holds objectId C (entries.map treeEntryOf))
    (distinct : ((buildChanges baseline (entries.map treeEntryOf)).map (·.path)).Nodup) :
    executeOperations objectId (fun path => (C path).map (·.1))
      ((buildChanges baseline (entries.map treeEntryOf)).map (operationOf entries)) B = some C := by
  have each : ∀ operation ∈
      (buildChanges baseline (entries.map treeEntryOf)).map (operationOf entries),
      ∀ files : Files, files operation.path = B operation.path →
        executeOperation objectId (fun path => (C path).map (·.1)) operation files =
          some (Function.update files operation.path (C operation.path)) := by
    intro operation mem files here
    obtain ⟨change, held, rfl⟩ := List.mem_map.mp mem
    exact executeOperation_eq tells old new held here
  rw [executeOperations_eq each (by rw [operationOf_paths]; exact distinct) fun _ _ => rfl,
    operationOf_paths]
  congr 1
  funext path
  split
  · rfl
  next free =>
    rw [mem_buildChanges_paths tells old new] at free
    exact not_not.mp free

end Trees

section Plan

variable {hashing : Hashing} {host : Host} {evidence : StagePrewriteEvidence}
  {stage : CandidateStage} {detected : CandidateChanges} {baseline candidate : List TreeEntry}
  {baselineRaw candidateRaw : List UInt8} {objectId : List UInt8 → ObjectId} {B C : Files}

/-- **The plan of a comparison gives the candidate.** For trees that Git lists and that hold files
`B` and `C`, the second staged: the comparison is accepted, the planner takes it, its plan executes
on `B` to `C`, each path has one operation where `B` and `C` differ and none elsewhere, and the
operations are in the order of their paths' bytes. -/
theorem plan_gives_candidate (parsed_baseline : parseTree baselineRaw = .ok baseline)
    (parsed_candidate : parseTree candidateRaw = .ok candidate)
    (staged : bindCandidateTreeToStage candidate stage = .ok ())
    (old : Holds objectId B baseline) (new : Holds objectId C candidate)
    (tells : Tells objectId B C) (changed : detected.changes = buildChanges baseline candidate)
    (bound : validateBindings evidence stage detected = .ok ())
    (verified : (CandidateStages.verifyCandidateStage hashing stage).eval host = (.ok (), host)) :
    compareTrees candidateRaw baselineRaw stage = .ok detected.changes ∧
    ∃ plan, (buildLiveApplyPlan hashing evidence stage detected).eval host = (.ok plan, host) ∧
      executeOperations objectId (fun path => (C path).map (·.1)) plan.operations B = some C ∧
      (∀ path, (plan.operations.filter (·.path = path)).length =
        if B path = C path then 0 else 1) ∧
      plan.operations.Pairwise fun first second =>
        Utf8.encode first.path < Utf8.encode second.path := by
  have old_form := parseTree_form parsed_baseline
  have new_form := parseTree_form parsed_candidate
  have increasing := @buildChanges_increasing baseline candidate
  have compared : compareTrees candidateRaw baselineRaw stage =
      .ok (buildChanges baseline candidate) :=
    bind_eq_ok.mpr ⟨_, parsed_candidate, bind_eq_ok.mpr ⟨_, parsed_baseline,
      bind_eq_ok.mpr ⟨(), staged, bind_eq_ok.mpr ⟨(), validateResult_eq_ok increasing nofun, rfl⟩⟩⟩⟩
  refine ⟨compared.trans (by rw [changed]), ?_⟩
  obtain rfl := bindCandidateTree_eq_ok staged
  have built := buildOperations_eq_ok old_form new_form
  have distinct : ((buildChanges baseline (stage.entries.map treeEntryOf)).map (·.path)).Nodup :=
    List.pairwise_map.mpr (increasing.imp fun less => ne_of_lt less)
  refine ⟨_, (eval_bind_ok ((eval_ofResult _ _).trans (by rw [bound]))).trans
    ((eval_bind_ok (eval_orRaise_ok verified)).trans ((eval_bind_ok ((eval_ofResult _ _).trans
      (by rw [changed, built]))).trans rfl)), ?_, fun path => ?_, ?_⟩
  · exact execute_comparison tells old new distinct
  · rw [← List.countP_eq_length_filter]
    have counted (operations : List LiveApplyOperation) :
        operations.countP (fun operation => operation.path = path) =
          (operations.map (·.path)).count path := by
      rw [List.count, List.countP_map]
      exact List.countP_congr fun operation _ => by simp
    rw [counted, operationOf_paths, distinct.count]
    by_cases here : B path = C path
    · rw [if_pos here, if_neg fun mem => (mem_buildChanges_paths tells old new).mp mem here]
    · rw [if_neg here, if_pos ((mem_buildChanges_paths tells old new).mpr here)]
  · refine List.pairwise_map.mpr (increasing.imp_of_mem fun {first second} one other less => ?_)
    exact Utf8.encode_lt (buildChanges_form old_form new_form other).2.1 less

/-! An example: `a` becomes executable, `b` is added and `c` deleted. -/

/-- A record of a listing, of ASCII texts. -/
def recordOf (mode object path : String) : List UInt8 :=
  (mode ++ " blob " ++ object ++ "\t" ++ path).toList.map (fun c => .ofNat c.toNat) ++ [0]

def zeros : String := "0000000000000000000000000000000000000000"

def ones : String := "1111111111111111111111111111111111111111"

/-- Tells an empty file from others. -/
def emptiness (bytes : List UInt8) : ObjectId :=
  if bytes = [] then .sha1 ⟨zeros, by decide⟩ else .sha1 ⟨ones, by decide⟩

def sampleBaseline : Files := fun path =>
  if path = text "a" then some ([], .regular) else if path = text "c" then some ([1], .regular)
  else none

def sampleCandidate : Files := fun path =>
  if path = text "a" then some ([], .executable) else if path = text "b" then some ([1], .regular)
  else none

def sampleBaselineTree : List TreeEntry :=
  [⟨text "a", .regular, emptiness []⟩, ⟨text "c", .regular, emptiness [1]⟩]

def sampleCandidateTree : List TreeEntry :=
  [⟨text "a", .executable, emptiness []⟩, ⟨text "b", .regular, emptiness [1]⟩]

def sampleStage : CandidateStage :=
  ⟨text "/s", zeroDigest, text "ha", 1, text "candidate", .sha256 zeroDigest,
    [⟨text "a", .executable, emptiness [], 0, zeroDigest⟩,
      ⟨text "b", .regular, emptiness [1], 1, zeroDigest⟩]⟩

def sampleChanges : CandidateChanges :=
  ⟨text "ha", 1, .sha256 zeroDigest, .sha256 zeroDigest,
    buildChanges sampleBaselineTree sampleCandidateTree⟩

def sampleEvidence : StagePrewriteEvidence :=
  ⟨text "d", text "ha", 1, .sha256 zeroDigest, zeroDigest⟩

/-- A host that holds the stage. -/
def stagedHost : Host := { bareWorld.host with
  stages := fun root => if root = text "/s" then
    some ⟨true, some (CandidateStages.manifestOf sampleStage),
      [⟨[], true, [(text "a", ⟨true, true, 0o700, []⟩), (text "b", ⟨true, true, 0o600, [1]⟩)]⟩]⟩
    else none }

theorem sampleBaseline_holds : Holds emptiness sampleBaseline sampleBaselineTree := by
  intro path
  unfold sampleBaseline
  by_cases first : path = text "a"
  · subst first
    decide
  rw [if_neg first]
  by_cases second : path = text "c"
  · subst second
    decide
  rw [if_neg second]
  simp [entryAt, sampleBaselineTree, eq_comm, first, second]

theorem sampleCandidate_holds : Holds emptiness sampleCandidate sampleCandidateTree := by
  intro path
  unfold sampleCandidate
  by_cases first : path = text "a"
  · subst first
    decide
  rw [if_neg first]
  by_cases second : path = text "b"
  · subst second
    decide
  rw [if_neg second]
  simp [entryAt, sampleCandidateTree, eq_comm, first, second]

theorem sample_tells : Tells emptiness sampleBaseline sampleCandidate := by
  intro path old new before after _
  unfold sampleBaseline at before
  unfold sampleCandidate at after
  by_cases first : path = text "a"
  · rw [if_pos first] at before after
    cases before
    cases after
    rfl
  · rw [if_neg first] at before after
    split at before
    next here =>
      subst here
      cases after
    next => cases before

theorem sample_plan_gives_candidate :
    compareTrees (recordOf "100755" zeros "a" ++ recordOf "100644" ones "b")
      (recordOf "100644" zeros "a" ++ recordOf "100644" ones "c") sampleStage =
      .ok sampleChanges.changes ∧
    ∃ plan, (buildLiveApplyPlan zeroHashing sampleEvidence sampleStage sampleChanges).eval
        stagedHost = (.ok plan, stagedHost) ∧
      executeOperations emptiness (fun path => (sampleCandidate path).map (·.1)) plan.operations
        sampleBaseline = some sampleCandidate ∧
      (∀ path, (plan.operations.filter (·.path = path)).length =
        if sampleBaseline path = sampleCandidate path then 0 else 1) ∧
      plan.operations.Pairwise fun first second =>
        Utf8.encode first.path < Utf8.encode second.path := by
  have verified : (CandidateStages.verifyCandidateStage zeroHashing sampleStage).eval stagedHost =
      (.ok (), stagedHost) :=
    (looks_verifyCandidateStage sampleStage).eval (by decide +kernel)
  exact plan_gives_candidate (by decide +kernel) (by decide +kernel) (by decide +kernel)
    sampleBaseline_holds sampleCandidate_holds sample_tells rfl (by decide +kernel) verified

end Plan

end SyncApp
