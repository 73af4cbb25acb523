import SyncApp.LiveApply.Planning

/-!
# Which plans an unmodified baseline admits

The live tree is exactly the baseline (`LiveTree`), and the plan is that of a comparison with a
candidate. The proof of the preconditions looks at each path in that one tree, so an added path is
refused where the baseline has a file in place of one of its directories, or a directory in its own
place (`preconditions_hold_iff`). Every other plan is admitted.
-/

set_option autoImplicit false

namespace SyncApp

open Lib Raising Sys CandidateTrees LiveApplyPreconditions

theorem cleanParts_splitPath {path : PyStr} (clean : 0 ∉ path) : CleanParts (splitPath path) := by
  intro part mem
  unfold Clean
  rw [List.contains_eq_mem, decide_eq_false_iff_not]
  exact fun held => clean (mem_of_mem_splitPath mem held)

/-! ## The live tree -/

/-- The live tree is exactly these files, with the directories they need. -/
structure LiveTree (fs : FileSystem PyStr) (root : Nat) (files : Files) : Prop where
  held : ∀ path bytes mode, files path = some (bytes, mode) → ∃ bits, gitMode bits = mode ∧
    fs.view root (splitPath path).dropLast ((splitPath path).getLastD []) = some (.file bits bytes)
  only : ∀ front name standing, fs.view root front name = some standing →
    (∃ path bits bytes, splitPath path = front ++ [name] ∧
      files path = some (bytes, gitMode bits) ∧ standing = .file bits bytes) ∨
    (standing = .directory ∧ ∃ path more, files path ≠ none ∧ more ≠ [] ∧
      splitPath path = front ++ name :: more)

section Walk

variable {host host' : Host} {root dir : Nat} {path : PyStr}

/-- The walk of an added path goes as far as there are directories, where nothing else is in its
way. -/
theorem openParentChain_free (quiet : host.fault = none) {parts : List PyStr} {dir : Nat}
    (clean : CleanParts parts)
    (free : ∀ front part back, parts = front ++ part :: back → ∀ standing,
      host.live.view dir front part = some standing → standing = .directory) :
    (openParentChain true dir parts).eval host = (.ok (host.live.resolve dir parts), host) := by
  induction parts generalizing dir with
  | nil => rfl
  | cons part parts ih =>
    unfold openParentChain
    cases opened : host.live.openDirectory dir part with
    | ok next =>
      have first : (openDirectoryAt dir part).eval host = (.ok next, host) :=
        (openDirectoryAt_eq_ok quiet).mpr ⟨clean.cons.1, opened, rfl⟩
      rw [FileSystem.resolve_cons, opened]
      refine (eval_bind_ok (eval_onOsError_ok (eval_bind_ok first))).trans ?_
      refine ih clean.cons.2 fun front name back parts_eq standing found => ?_
      refine free (part :: front) name back (by rw [parts_eq, List.cons_append]) standing ?_
      obtain ⟨parent, ino, node, resolved, held, same⟩ := FileSystem.view_eq_some.mp found
      refine FileSystem.view_eq_some.mpr ⟨parent, ino, node, ?_, held, same⟩
      rw [FileSystem.resolve_cons, opened]
      exact resolved
    | error errno =>
      have absent : errno = .noent := by
        unfold FileSystem.openDirectory at opened
        split at opened
        next => exact (Except.error.inj opened).symm
        next => cases opened
        next found other held =>
          have standing := free [] part parts rfl _
            (FileSystem.view_eq_some.mpr ⟨dir, _, _, rfl, held, rfl⟩)
          obtain ⟨ino, node⟩ := found
          cases node with
          | directory entries => exact (other ino entries rfl).elim
          | _ => cases standing
      subst absent
      rw [FileSystem.resolve_cons, opened]
      refine (eval_bind_ok ((eval_onOsError_os (eval_bind_error
        (openDirectoryAt_error quiet clean.cons.1 opened))).trans rfl)).trans rfl

/-- A walk that ends early has met a name that is free. -/
theorem openParentChain_none (quiet : host.fault = none) {added : Bool} {parts : List PyStr}
    {dir : Nat} (ran : (openParentChain added dir parts).eval host = (.ok none, host')) :
    ∃ front part back next, parts = front ++ part :: back ∧
      host.live.resolve dir front = some next ∧ host.live.lookup next part = none := by
  induction parts generalizing dir with
  | nil => cases ran
  | cons part parts ih =>
    unfold openParentChain at ran
    obtain ⟨next, _, opened, rest⟩ := eval_bind_eq_ok.mp ran
    have first := openPart_eq_ok quiet added rfl (fun errno other host found => by
      cases errno <;> simp [LiveApplyPreconditions.reject] at other ⊢) opened
    obtain ⟨rfl, clean, ⟨next, found_at, rfl⟩ | ⟨absent, isAdded, rfl⟩⟩ := first
    · obtain ⟨front, name, back, last, rfl, resolved, free⟩ := ih rest
      refine ⟨part :: front, name, back, last, rfl, ?_, free⟩
      rw [FileSystem.resolve_cons, found_at]
      exact resolved
    · refine ⟨[], part, parts, dir, rfl, rfl, ?_⟩
      unfold FileSystem.openDirectory at absent
      split at absent
      next free => exact free
      next => cases absent
      next => cases absent

/-- An operation whose baseline stands, or whose name and way are free, is verified. -/
theorem verifyOperation_free (quiet : host.fault = none) {hashing : Hashing}
    {operation : LiveApplyOperation} (clean : 0 ∉ operation.path)
    (added : operation.status = .added)
    (free : ∀ front name back, splitPath operation.path = front ++ name :: back → ∀ standing,
      host.live.view root front name = some standing → standing = .directory ∧ back ≠ []) :
    (verifyOperation hashing root operation).eval host = (.ok (), host) := by
  have names := splitPath_split operation.path
  have parts_clean := cleanParts_splitPath clean
  have above : CleanParts (splitPath operation.path).dropLast :=
    fun part mem => parts_clean part (List.dropLast_subset _ mem)
  have leaf_clean : Clean ((splitPath operation.path).getLastD []) := by
    refine parts_clean _ ?_
    rw [← names]
    simp
  have walked : (openParentChain true root (splitPath operation.path).dropLast).eval host =
      (.ok (host.live.resolve root (splitPath operation.path).dropLast), host) := by
    refine openParentChain_free quiet above fun front part back parts standing found => ?_
    refine (free front part (back ++ [(splitPath operation.path).getLastD []]) ?_ standing found).1
    refine names.symm.trans ?_
    rw [parts, List.append_assoc, List.cons_append]
  unfold verifyOperation
  dsimp only
  rw [added, decide_eq_true rfl, eval_bind_ok walked]
  cases resolved : host.live.resolve root (splitPath operation.path).dropLast with
  | none => rfl
  | some parent =>
    refine verifyLeaf_ok quiet leaf_clean (.inl ⟨added, ?_⟩)
    cases held : host.live.lookup parent ((splitPath operation.path).getLastD []) with
    | none => rfl
    | some found =>
      have standing := free (splitPath operation.path).dropLast _ [] names.symm _
        (FileSystem.view_eq_some.mpr ⟨parent, found.1, found.2, resolved, held, rfl⟩)
      exact (standing.2 rfl).elim

/-! ### What stands on the way -/

section Standing

variable {fs : FileSystem PyStr} {files : Files} {above : PyStr}

/-- A path does not lead through a file. -/
theorem LiveTree.resolve_file (live : LiveTree fs root files) (file : files above ≠ none)
    (back : List PyStr) : fs.resolve root (splitPath above ++ back) = none := by
  obtain ⟨⟨bytes, mode⟩, found⟩ := Option.ne_none_iff_exists'.mp file
  obtain ⟨bits, -, standing⟩ := live.held above bytes mode found
  cases resolved : fs.resolve root (splitPath above ++ back) with
  | none => rfl
  | some last =>
    rw [← splitPath_split above, List.append_assoc, List.singleton_append] at resolved
    exact nomatch standing.symm.trans (FileSystem.resolve_directory resolved)

/-- On the way to a file there are directories, and the file at its end. -/
theorem LiveTree.view_above (live : LiveTree fs root files) (file : files above ≠ none)
    {front back : List PyStr} {name : PyStr} (names : splitPath above = front ++ name :: back) :
    ∃ standing, fs.view root front name = some standing ∧
      (back ≠ [] → standing = .directory) := by
  obtain ⟨⟨bytes, mode⟩, found⟩ := Option.ne_none_iff_exists'.mp file
  obtain ⟨bits, -, standing⟩ := live.held above bytes mode found
  rw [← splitPath_split above] at names
  rcases List.eq_nil_or_concat back with last | ⟨back, last, rfl⟩
  · subst last
    obtain ⟨fronts, ends⟩ := List.append_inj' names rfl
    rw [fronts, List.singleton_inj.mp ends] at standing
    exact ⟨_, standing, fun more => (more rfl).elim⟩
  · have fronts : (splitPath above).dropLast = front ++ name :: back := by
      rw [List.concat_eq_append, ← List.cons_append, ← List.append_assoc] at names
      exact (List.append_inj' names rfl).1
    obtain ⟨parent, _, _, resolved, _, _⟩ := FileSystem.view_eq_some.mp standing
    rw [fronts] at resolved
    exact ⟨_, FileSystem.resolve_directory resolved, fun _ => rfl⟩

end Standing

/-! ### What is refused -/

variable {hashing : Hashing} {files : Files} {operation : LiveApplyOperation} {above : PyStr}

/-- An added path is refused below a file. -/
theorem LiveTree.refused_below (quiet : host.fault = none) (live : LiveTree host.live root files)
    (file : files above ≠ none)
    (verified : (verifyOperation hashing root operation).eval host = (.ok (), host)) :
    startsBelow operation.path above = false := by
  refine eq_false_of_ne_true fun below => ?_
  obtain ⟨more, some, names⟩ := startsBelow_iff.mp below
  have parts : (splitPath operation.path).dropLast = splitPath above ++ more.dropLast := by
    rw [names, List.dropLast_append_of_ne_nil some]
  unfold verifyOperation at verified
  obtain ⟨found, _, walked, _⟩ := eval_bind_eq_ok.mp verified
  rw [parts] at walked
  cases found with
  | some last =>
    have resolved := (openParentChain_eq_ok quiet walked).2.1
    exact nomatch (live.resolve_file file _).symm.trans resolved
  | none =>
    obtain ⟨front, part, back, next, split, resolved, free⟩ := openParentChain_none quiet walked
    rcases List.append_eq_append_iff.mp split with ⟨rest, front_eq, _⟩ | ⟨rest, above_eq, part_eq⟩
    · rw [front_eq] at resolved
      exact nomatch (live.resolve_file file _).symm.trans resolved
    · cases rest with
      | nil =>
        rw [List.append_nil] at above_eq
        rw [← above_eq, ← List.append_nil (splitPath above)] at resolved
        exact nomatch (live.resolve_file file _).symm.trans resolved
      | cons name rest =>
        obtain ⟨rfl, _⟩ := List.cons.inj part_eq
        obtain ⟨standing, found, _⟩ := live.view_above file above_eq
        obtain ⟨parent, _, _, here, held, _⟩ := FileSystem.view_eq_some.mp found
        cases resolved.symm.trans here
        exact nomatch free.symm.trans held

/-- An added path is refused in place of a directory. -/
theorem LiveTree.refused_over (quiet : host.fault = none) (live : LiveTree host.live root files)
    (file : files above ≠ none) (added : operation.status = .added)
    (verified : (verifyOperation hashing root operation).eval host = (.ok (), host)) :
    startsBelow above operation.path = false := by
  refine eq_false_of_ne_true fun below => ?_
  obtain ⟨more, some, names⟩ := startsBelow_iff.mp below
  rw [← splitPath_split operation.path, List.append_assoc, List.singleton_append] at names
  obtain ⟨standing, found, _⟩ := live.view_above file names
  obtain ⟨parent, _, _, here, held, _⟩ := FileSystem.view_eq_some.mp found
  cases (verifyOperation_of_ok quiet verified).2 with
  | unparented _ unresolved => exact nomatch unresolved.symm.trans here
  | parented _ _ resolved leaf =>
    cases resolved.symm.trans here
    rcases leaf with ⟨_, free⟩ | ⟨other, _⟩
    · exact nomatch free.symm.trans held
    · exact other added

end Walk

/-! ## Admission -/

section Admission

variable {hashing : Hashing} {host before : Host} {evidence : StagePrewriteEvidence}
  {stage : CandidateStage} {detected : CandidateChanges} {plan : LiveApplyPlan}
  {baseline candidate : List TreeEntry} {entries : List CandidateStageEntry}
  {baselineRaw candidateRaw : List UInt8} {width : ObjectId} {B : Files} {root : Nat}
  {path : PyStr} {change : CandidateChange}

theorem gitBlobObjectId_again (bytes : List UInt8) (width : ObjectId) :
    gitBlobObjectId hashing bytes (gitBlobObjectId hashing bytes width) =
      gitBlobObjectId hashing bytes width := by
  cases width <;> rfl

theorem Holds.file {objectId : List UInt8 → ObjectId} (holds : Holds objectId B baseline) :
    B path = none ↔ entryAt baseline path = none := by
  rw [holds path, Option.map_eq_none_iff]

/-- The operation of a change to a file that stands is verified. -/
theorem verifyOperation_changed (quiet : host.fault = none)
    (old : Holds (fun bytes => gitBlobObjectId hashing bytes width) B baseline)
    (live : LiveTree host.live root B) (clean : 0 ∉ change.path)
    (mem : change ∈ buildChanges baseline candidate) (file : B change.path ≠ none) :
    (verifyOperation hashing root (operationOf entries change)).eval host = (.ok (), host) := by
  obtain ⟨⟨bytes, mode⟩, found⟩ := Option.ne_none_iff_exists'.mp file
  obtain ⟨bits, bits_mode, standing⟩ := live.held change.path bytes mode found
  obtain ⟨parent, ino, node, resolved, held, same⟩ := FileSystem.view_eq_some.mp standing
  have parts_clean := cleanParts_splitPath clean
  obtain ⟨_, sides⟩ := changeOf_eq_some (mem_buildChanges.mp mem)
  rw [old change.path, found] at sides
  have other : change.status ≠ .added := by
    rw [congrArg CandidateChange.status sides]
    exact statusOf_old _ _
  cases node with
  | file mode' bytes' =>
    cases same
    refine verifyOperation_ok quiet (fun part mem => parts_clean part (List.dropLast_subset _ mem))
      (parts_clean _ ?_) resolved (.inr ⟨other, ino, bits, bytes, _, held,
        congrArg CandidateChange.baselineObjectId sides, gitBlobObjectId_again bytes width, ?_⟩)
    · rw [← splitPath_split change.path]
      exact List.mem_append_right _ (List.mem_singleton_self _)
    · rw [bits_mode]
      exact congrArg CandidateChange.baselineMode sides
  | directory => cases same
  | symlink => cases same
  | special => cases same

/-- The form of a plan that a comparison gives. -/
theorem validateOperations_comparison (old : TreeForm baseline)
    (new : TreeForm (entries.map treeEntryOf)) :
    validateOperations ((buildChanges baseline (entries.map treeEntryOf)).map
      (operationOf entries)) = .ok () := by
  refine validateOperations_eq_ok.mpr ⟨fun operation mem => ?_,
    List.pairwise_map.mpr (buildChanges_increasing.imp fun less => less)⟩
  obtain ⟨change, held, rfl⟩ := List.mem_map.mp mem
  obtain ⟨safe, scalar, _⟩ := buildChanges_form old new held
  obtain ⟨apart, sides⟩ := changeOf_eq_some (mem_buildChanges.mp held)
  have status := congrArg CandidateChange.status sides
  have mode := congrArg CandidateChange.baselineMode sides
  have object := congrArg CandidateChange.baselineObjectId sides
  refine ⟨Scalar.encodable scalar, safe, fun added => ?_, fun other => ?_⟩
  · cases before : entryAt baseline change.path with
    | none =>
      rw [before] at mode object
      exact ⟨mode, object⟩
    | some entry =>
      rw [before] at status
      exact (statusOf_old entry _ (status.symm.trans added)).elim
  · cases before : entryAt baseline change.path with
    | none =>
      rw [before] at status
      exact (other status).elim
    | some entry =>
      rw [before] at mode object
      exact ⟨fun wrong => (nomatch mode.symm.trans wrong),
        fun wrong => (nomatch object.symm.trans wrong)⟩

/-- No path of the candidate lies below a file of the baseline, or above one. -/
def KeepsShape (baseline candidate : List TreeEntry) : Prop :=
  ∀ added ∈ candidate, ∀ held ∈ baseline, startsBelow added.path held.path = false ∧
    startsBelow held.path added.path = false

instance (baseline candidate : List TreeEntry) : Decidable (KeepsShape baseline candidate) :=
  inferInstanceAs (Decidable (∀ added ∈ candidate, ∀ held ∈ baseline, _ ∧ _))

/-- An added path has an operation of its own. -/
theorem added_operation {added : TreeEntry} (new : TreeForm candidate) (mem : added ∈ candidate)
    (free : entryAt baseline added.path = none) :
    ∃ operation ∈ (buildChanges baseline candidate).map (operationOf entries),
      operation.path = added.path ∧ operation.status = .added := by
  have changed : changeOf added.path none (some added) = some _ := rfl
  have here := new.entryAt_eq mem
  refine ⟨_, List.mem_map_of_mem (mem_buildChanges.mpr ?_), changeOf_path changed, rfl⟩
  rw [changeOf_path changed, free, here]
  exact changed

/-- An added path is free, and so is its way, where the shape is kept. -/
theorem verifyOperation_added (quiet : host.fault = none) {objectId : List UInt8 → ObjectId}
    (old : Holds objectId B baseline) (live : LiveTree host.live root B)
    (keeps : KeepsShape baseline candidate) (clean : 0 ∉ change.path)
    (mem : change ∈ buildChanges baseline candidate) (free : B change.path = none) :
    (verifyOperation hashing root (operationOf entries change)).eval host = (.ok (), host) := by
  obtain ⟨apart, sides⟩ := changeOf_eq_some (mem_buildChanges.mp mem)
  have absent := old.file.mp free
  rw [absent] at apart sides
  have status : change.status = .added := congrArg CandidateChange.status sides
  obtain ⟨added, found⟩ := Option.ne_none_iff_exists'.mp apart.symm
  obtain ⟨added_mem, added_path⟩ := entryAt_mem found
  refine verifyOperation_free quiet clean status fun front name back names standing at_name => ?_
  have baseline_entry {above : PyStr} (file : B above ≠ none) :
      ∃ held ∈ baseline, held.path = above := by
    obtain ⟨held, found⟩ := Option.ne_none_iff_exists'.mp fun wrong => file (old.file.mpr wrong)
    exact ⟨held, (entryAt_mem found)⟩
  rcases live.only front name standing at_name with
    ⟨above, bits, bytes, above_names, file, _⟩ | ⟨directory, above, more, file, some, above_names⟩
  · obtain ⟨held, held_mem, held_path⟩ := baseline_entry (by rw [file]; nofun)
    by_cases last : back = []
    · subst last
      have same : change.path = above := splitPath_injective (names.trans above_names.symm)
      rw [same, file] at free
      cases free
    · have below := (keeps added added_mem held held_mem).1
      rw [added_path, held_path] at below
      have names_below : splitPath change.path = splitPath above ++ back := by
        rw [above_names, List.append_assoc, List.singleton_append]
        exact names
      exact nomatch below.symm.trans (startsBelow_iff.mpr ⟨back, last, names_below⟩)
  · refine ⟨directory, fun last => ?_⟩
    subst last
    obtain ⟨held, held_mem, held_path⟩ := baseline_entry file
    have below := (keeps added added_mem held held_mem).2
    rw [added_path, held_path] at below
    have names_below : splitPath above = splitPath change.path ++ more := by
      have here : splitPath change.path = front ++ [name] := names
      rw [here, List.append_assoc, List.singleton_append]
      exact above_names
    exact nomatch below.symm.trans (startsBelow_iff.mpr ⟨more, some, names_below⟩)

/-- **Which plans an unmodified baseline admits**: for trees that Git lists, the second staged, and a
live tree that is exactly the first, the plan of their comparison is admitted if and only if no path
of the candidate lies below a file of the baseline or above one. -/
theorem preconditions_hold_iff (parsed_baseline : parseTree baselineRaw = .ok baseline)
    (parsed_candidate : parseTree candidateRaw = .ok candidate)
    (staged : bindCandidateTreeToStage candidate stage = .ok ())
    (changed : detected.changes = buildChanges baseline candidate)
    (built : ((buildLiveApplyPlan hashing evidence stage detected).eval before).1 = .ok plan)
    (old : Holds (fun bytes => gitBlobObjectId hashing bytes width) B baseline)
    (quiet : host.fault = none) (absolute : path.head? = some slash) (named : Clean path)
    (opened : host.openRoot path = .ok root) (live : LiveTree host.live root B) :
    (proveLiveApplyPreconditions hashing plan path).eval host =
      (.ok (preconditionEvidence plan path), host) ↔ KeepsShape baseline candidate := by
  have old_form := parseTree_form parsed_baseline
  have new_form := parseTree_form parsed_candidate
  obtain rfl := bindCandidateTree_eq_ok staged
  have operations : plan.operations =
      (buildChanges baseline (stage.entries.map treeEntryOf)).map (operationOf stage.entries) := by
    have ran : (buildLiveApplyPlan hashing evidence stage detected).eval before = (.ok plan, _) :=
      Prod.ext built rfl
    obtain ⟨_, _, _, rest⟩ := eval_bind_eq_ok.mp ran
    obtain ⟨_, _, _, rest⟩ := eval_bind_eq_ok.mp rest
    obtain ⟨operations, _, made, returned⟩ := eval_bind_eq_ok.mp rest
    rw [changed, buildOperations_eq_ok old_form new_form] at made
    cases made
    cases returned
    rfl
  rw [proveLiveApplyPreconditions_eq_ok quiet]
  constructor
  · rintro ⟨_, _, ⟨root', _, opened', each⟩, _, _⟩
    cases opened.symm.trans opened'
    rw [operations] at each
    intro added added_mem held held_mem
    have file : B held.path ≠ none := fun wrong =>
      nomatch (old.file.mp wrong).symm.trans (old_form.entryAt_eq held_mem)
    cases before : entryAt baseline added.path with
    | some entry =>
      obtain ⟨entry_mem, same⟩ := entryAt_mem before
      rw [← same]
      exact ⟨old_form.apart entry entry_mem held held_mem,
        old_form.apart held held_mem entry entry_mem⟩
    | none =>
      obtain ⟨operation, mem, same, status⟩ := added_operation new_form added_mem before
      rw [← same]
      exact ⟨live.refused_below quiet file (each operation mem),
        live.refused_over quiet file status (each operation mem)⟩
  · intro keeps
    refine ⟨absolute, ?_, ⟨root, named, opened, fun operation mem => ?_⟩, rfl, rfl⟩
    · rw [operations]
      exact validateOperations_comparison old_form new_form
    · rw [operations] at mem
      obtain ⟨change, held, rfl⟩ := List.mem_map.mp mem
      have clean := (buildChanges_form old_form new_form held).2.2
      by_cases free : B change.path = none
      · exact verifyOperation_added quiet old live keeps clean held free
      · exact verifyOperation_changed quiet old live clean held free

end Admission

/-! An example: the live tree is the file `a`. -/

section Example

def longZeros : String := "0000000000000000000000000000000000000000000000000000000000000000"

def loneFile : Files := fun path => if path = text "a" then some ([], .regular) else none

def loneTree : List TreeEntry := [⟨text "a", .regular, .sha256 zeroDigest⟩]

/-- A candidate with a new directory beside the file. -/
def besideTree : List TreeEntry :=
  [⟨text "a", .regular, .sha256 zeroDigest⟩, ⟨text "b/c", .regular, .sha256 zeroDigest⟩]

/-- A candidate with a directory in place of the file. -/
def insteadTree : List TreeEntry := [⟨text "a/b", .regular, .sha256 zeroDigest⟩]

def stageOf (root : String) (tree : List TreeEntry) : CandidateStage :=
  ⟨text root, zeroDigest, text "ha", 1, text "candidate", .sha256 zeroDigest,
    tree.map fun entry => ⟨entry.path, entry.gitMode, entry.objectId, 0, zeroDigest⟩⟩

def changesOf (tree : List TreeEntry) : CandidateChanges :=
  ⟨text "ha", 1, .sha256 zeroDigest, .sha256 zeroDigest, buildChanges loneTree tree⟩

def planOf (root : String) (tree : List TreeEntry) : LiveApplyPlan :=
  ⟨text "d", text "ha", 1, .sha256 zeroDigest, .sha256 zeroDigest, zeroDigest,
    (changesOf tree).changes.map (operationOf (stageOf root tree).entries)⟩

/-- A host that holds the file, and the stages of both candidates. -/
def loneHost : Host := { bareWorld.host with
  live := ⟨fun ino => match ino with
    | 0 => some (.directory fun name => if name = text "a" then some 1 else none)
    | 1 => some (.file 0o644 [])
    | _ => none, 2⟩
  openRoot := fun path => if path = text "/h" then .ok 0 else .error .noent
  stages := fun root =>
    if root = text "/s" then
      some ⟨true, some (CandidateStages.manifestOf (stageOf "/s" besideTree)),
        [⟨[], true, [(text "a", ⟨true, true, 0o600, []⟩)]⟩,
          ⟨text "b", true, [(text "b/c", ⟨true, true, 0o600, []⟩)]⟩]⟩
    else if root = text "/t" then
      some ⟨true, some (CandidateStages.manifestOf (stageOf "/t" insteadTree)),
        [⟨[], true, []⟩, ⟨text "a", true, [(text "a/b", ⟨true, true, 0o600, []⟩)]⟩]⟩
    else none }

theorem lone_holds :
    Holds (fun bytes => gitBlobObjectId zeroHashing bytes (.sha256 zeroDigest)) loneFile loneTree := by
  intro path
  unfold loneFile
  by_cases here : path = text "a"
  · subst here
    decide
  · rw [if_neg here]
    simp [entryAt, loneTree, eq_comm, here]

theorem lone_live : LiveTree loneHost.live 0 loneFile := by
  constructor
  · intro path bytes mode held
    unfold loneFile at held
    split at held
    next here =>
      subst here
      cases held
      exact ⟨0o644, rfl, by decide +kernel⟩
    next => cases held
  · intro front name standing found
    obtain ⟨parent, ino, node, resolved, held, same⟩ := FileSystem.view_eq_some.mp found
    have only_name {name : PyStr} {ino : Nat} {node : Node PyStr}
        (held : loneHost.live.lookup 0 name = some (ino, node)) :
        name = text "a" ∧ ino = 1 ∧ node = .file 0o644 [] := by
      obtain ⟨bound, standing⟩ := FileSystem.lookup_eq_some.mp held
      have entry : (if name = text "a" then some 1 else none) = some ino := bound
      split at entry
      next here =>
        cases entry
        cases standing
        exact ⟨here, rfl, rfl⟩
      next => cases entry
    cases front with
    | nil =>
      cases resolved
      obtain ⟨rfl, rfl, rfl⟩ := only_name held
      exact .inl ⟨text "a", 0o644, [], rfl, rfl, same.symm⟩
    | cons part front =>
      have first : loneHost.live.resolve 0 ([] ++ part :: front) = some parent := resolved
      obtain ⟨_, _, node', here, held', directory⟩ :=
        FileSystem.view_eq_some.mp (FileSystem.resolve_directory first)
      cases here
      obtain ⟨-, -, rfl⟩ := only_name held'
      cases directory

/-- The new directory is admitted. -/
theorem beside_admitted :
    (proveLiveApplyPreconditions zeroHashing (planOf "/s" besideTree) (text "/h")).eval loneHost =
      (.ok (preconditionEvidence (planOf "/s" besideTree) (text "/h")), loneHost) := by
  have parsed : parseTree (recordOf "100644" longZeros "a") = .ok loneTree := by decide +kernel
  have parsed_candidate : parseTree (recordOf "100644" longZeros "b/c" ++
      recordOf "100644" longZeros "a") = .ok besideTree := by decide +kernel
  have staged : bindCandidateTreeToStage besideTree (stageOf "/s" besideTree) = .ok () := by
    decide +kernel
  have built : ((buildLiveApplyPlan zeroHashing sampleEvidence (stageOf "/s" besideTree)
      (changesOf besideTree)).eval loneHost).1 = .ok (planOf "/s" besideTree) := rfl
  have named : Clean (text "/h") := rfl
  exact (preconditions_hold_iff parsed parsed_candidate staged rfl built lone_holds rfl rfl named rfl
    lone_live).mpr (by decide +kernel)

/-- **The directory in place of the file is refused**, although the live tree is the baseline. -/
theorem instead_refused :
    parseTree (recordOf "100644" longZeros "a") = .ok loneTree ∧
    parseTree (recordOf "100644" longZeros "a/b") = .ok insteadTree ∧
    Holds (fun bytes => gitBlobObjectId zeroHashing bytes (.sha256 zeroDigest)) loneFile loneTree ∧
    LiveTree loneHost.live 0 loneFile ∧
    ((buildLiveApplyPlan zeroHashing sampleEvidence (stageOf "/t" insteadTree)
      (changesOf insteadTree)).eval loneHost).1 = .ok (planOf "/t" insteadTree) ∧
    ((proveLiveApplyPreconditions zeroHashing (planOf "/t" insteadTree) (text "/h")).eval
      loneHost).1.isOk = false :=
  ⟨by decide +kernel, by decide +kernel, lone_holds, lone_live, rfl, by decide +kernel⟩

end Example

end SyncApp
