import SyncApp.LiveApply.Admission
import SyncApp.Publication.SnapshotCommit

/-!
# When the published commit is the snapshot

Content is proved on the work tree, but a commit holds what Git makes of the work tree, and the
admission proof of a later Apply has its own rule for modes and for paths.

**The law** (`commitIsSnapshot_iff`): for a live tree that capture and the workspace accept, the
commit is the snapshot exactly when Git ignores none of its files and converts none of them, and
either the baseline holds the snapshot already or admission takes every file: its owner may execute
it whenever anyone may, and its path has no part that folds to `.git` and has an encoding.
-/

set_option autoImplicit false

namespace SyncApp

open Lib Raising LiveApplyPreconditions

/-! ## Trees that capture accepts -/

/-- A tree of regular files under legal names. -/
structure Regular (tree : SourceTree) : Prop where
  distinct : FileTree.Distinct tree
  root : ∃ entries, tree = .node entries
  legal : ∀ path leaf, tree.get? path = some (.leaf leaf) → ∀ name ∈ path, LegalName name
  file : ∀ path leaf, tree.get? path = some (.leaf leaf) → ∃ node, leaf = .file node

section Accepted

variable {sha256 : List UInt8 → Digest} {identity : List SnapshotFile → Digest} {site : Site}
  {includePath : PyStr → Bool} {tree : SourceTree}

/-- Every selected leaf of an accepted scan was scanned, and is singly linked. -/
theorem scanLeaves_of_ok : ∀ {leaves : List (Parts × Leaf)} {files : List SourceFile},
    scanLeaves (some fun path => .answer (includePath path)) leaves = .ok files →
    ∀ path node, (path, Leaf.file node) ∈ leaves → includePath (asPosix path) = true →
      node.links = 1 ∧ ∃ file ∈ files, file.path = asPosix path
  | [], _, _, _, _, mem, _ => nomatch mem
  | (path', leaf) :: leaves, files, scanned, path, node, mem, included => by
    unfold scanLeaves at scanned
    obtain ⟨found, first, more⟩ := bind_eq_ok.mp scanned
    obtain ⟨rest, later, same⟩ := bind_eq_ok.mp more
    cases same
    rcases List.mem_cons.mp mem with here | below
    · cases here
      simp only [scanLeaf, Option.map_some, Option.getD_some, included] at first
      split at first
      · cases first
      next single =>
        cases first
        exact ⟨not_not.mp single, _, List.mem_append_left _ (List.mem_singleton_self _), rfl⟩
    · obtain ⟨single, file, held, same⟩ := scanLeaves_of_ok later path node below included
      exact ⟨single, file, List.mem_append_right _ held, same⟩

/-- Every file that was copied opened. -/
theorem copyFiles_of_ok {stamps : PyStr → Stamp} : ∀ {entries : List SourceFile}
    {start grown : SourceTree} {files : List SnapshotFile},
    copyFiles sha256 tree stamps entries start = .ok (grown, files) → ∀ entry ∈ entries,
      ∃ node, openRegular (.snapshot "source file cannot be opened safely")
        (.snapshot "snapshot file is not a unique regular file") tree entry.path = .ok node
  | [], _, _, _, _, _, mem => nomatch mem
  | first :: entries, start, grown, files, copied, entry, mem => by
    unfold copyFiles at copied
    obtain ⟨⟨copy, digest⟩, made, more⟩ := bind_eq_ok.mp copied
    obtain ⟨node, opened, -⟩ := bind_eq_ok.mp made
    rcases List.mem_cons.mp mem with rfl | later
    · exact ⟨node, opened⟩
    · simp only at more
      split at more
      · cases more
      next next inserted =>
        obtain ⟨⟨grown', files'⟩, rest, -⟩ := bind_eq_ok.mp more
        exact copyFiles_of_ok rest entry later

/-- **What capture accepts is selectable**: the selected files are singly linked and readable. -/
theorem Regular.selectable (regular : Regular tree) {snapshot : Snapshot}
    (captured : site.capture sha256 identity includePath tree = .ok snapshot) :
    Selectable includePath tree := by
  unfold Site.capture captureSnapshot at captured
  obtain ⟨_, -, captured⟩ := bind_eq_ok.mp captured
  obtain ⟨_, -, captured⟩ := bind_eq_ok.mp captured
  split at captured
  · cases captured
  obtain ⟨initial, scanned, captured⟩ := bind_eq_ok.mp captured
  obtain ⟨⟨copy, files⟩, copied, -⟩ := bind_eq_ok.mp captured
  refine ⟨regular.distinct, regular.root, regular.legal, fun path leaf held included => ?_⟩
  obtain ⟨node, rfl⟩ := regular.file path leaf held
  have met := (FileTree.mem_walk regular.distinct).mpr held
  obtain ⟨single, entry, listed, same⟩ := scanLeaves_of_ok scanned path node met included
  obtain ⟨opened, opens⟩ := copyFiles_of_ok copied entry listed
  refine ⟨node, rfl, single, ?_⟩
  unfold openRegular at opens
  rw [same, pathParts_asPosix (regular.legal path _ held), held] at opens
  by_contra unreadable
  simp only [Bool.not_eq_true] at unreadable
  simp only [unreadable, Bool.not_false, if_true] at opens
  cases opens

/-- **What the workspace accepts**: it holds the copies of the selected files and verifies. -/
theorem Selectable.workspace (selectable : Selectable includePath tree) {snapshot : Snapshot}
    {staged : SourceTree} {workspace : GitWorkspace}
    (captured : site.capture sha256 identity includePath tree = .ok snapshot)
    (stagedAt : snapshot.root.tree = some staged)
    (prepared : prepareGitWorkspace sha256 identity (.directory site.workspacePath)
      site.workspaceStamps snapshot.root staged snapshot.root = .ok workspace) :
    workFiles workspace.tree =
        ((selected includePath tree).map (copyOf site.stamps)).map (copyOf site.workspaceStamps) ∧
      verifyWorkspaceContent sha256 identity workspace = .ok workspace.snapshotId := by
  obtain ⟨root, tree', placedAt, copies, same⟩ := site.capture_eq sha256 identity selectable
  have listing := selectable.listing.copies site.stamps
  have isolated : overlap root.path site.workspacePath = false := placedAt ▸ site.isolated
  rw [captured] at same
  have straight : Straight ((selected includePath tree).map (copyOf site.stamps)) := by
    by_contra bent
    rw [copies.verify_bent listing bent] at same
    cases same
  rw [copies.verify_straight listing straight] at same
  cases same
  cases (Option.some.inj (stagedAt.symm.trans copies.tree))
  have clean := copies.clean_of_prepared listing straight isolated prepared
  obtain ⟨workspace', prepared', holds, -, content⟩ :=
    copies.prepare_eq site.workspaceStamps listing straight clean isolated
  cases Except.ok.inj (prepared.symm.trans prepared')
  refine ⟨?_, content⟩
  have walked := walk_of_holdsExactly (listing.copies site.workspaceStamps) holds
  unfold workFiles selected
  rw [walked, filterMap_pick_asLeaves]
  refine List.filter_eq_self.mpr fun placed mem => ?_
  obtain ⟨copy, kept, rfl⟩ := List.mem_map.mp mem
  refine decide_eq_true ?_
  exact fun start => clean copy kept (List.mem_of_head? start)

end Accepted

/-! ## What Git stages -/

section Stages

variable {rules : GitRules} {files : List Placed}

theorem addAll_copies (rules : GitRules) (stamps : PyStr → Stamp) (files : List Placed) :
    rules.addAll (files.map (copyOf stamps)) = rules.addAll files := by
  have same : workContent (files.map (copyOf stamps)) = workContent files := by
    unfold workContent
    rw [List.map_map]
    rfl
  unfold GitRules.addAll
  rw [same, List.filter_map, List.map_map]
  rfl

/-- The snapshot as a tree of Git. -/
def snapshotTree (files : List Placed) : GitTree :=
  files.map fun placed => (placed.1, .blob (recordedMode placed.2.mode) placed.2.bytes)

/-- Git stages each of the files, with its bytes. -/
structure StagesExactly (rules : GitRules) (files : List Placed) : Prop where
  kept : ∀ placed ∈ files, rules.ignored (workContent files) placed.1 = false
  exact : ∀ placed ∈ files,
    rules.convert (workContent files) placed.1 placed.2.bytes = placed.2.bytes

theorem StagesExactly.addAll_eq (stages : StagesExactly rules files) :
    rules.addAll files = snapshotTree files := by
  unfold GitRules.addAll snapshotTree
  rw [List.filter_eq_self.mpr fun placed mem => by rw [stages.kept placed mem]; rfl]
  refine List.map_congr_left fun placed mem => ?_
  rw [stages.exact placed mem]

/-- The bytes of a blob. -/
def GitObject.content : GitObject → Option (List UInt8)
  | .blob _ bytes => some bytes
  | _ => none

/-- Git stages exactly when the index has each file's bytes under its path. -/
theorem stagesExactly_of_content
    (distinct : ∀ a ∈ files, ∀ b ∈ files, a.1 = b.1 → a = b)
    (shown : ∀ placed ∈ files, ∃ object, (placed.1, object) ∈ rules.addAll files ∧
      object.content = some placed.2.bytes) : StagesExactly rules files := by
  have staged : ∀ placed ∈ files, rules.ignored (workContent files) placed.1 = false ∧
      rules.convert (workContent files) placed.1 placed.2.bytes = placed.2.bytes := by
    intro placed mem
    obtain ⟨object, held, bytes⟩ := shown placed mem
    obtain ⟨other, kept, same⟩ := List.mem_map.mp held
    obtain ⟨listed, unignored⟩ := List.mem_filter.mp kept
    obtain ⟨path, rfl⟩ := Prod.mk.inj same
    cases distinct other listed placed mem path
    exact ⟨by simpa using unignored, Option.some.inj bytes⟩
  exact ⟨fun placed mem => (staged placed mem).1, fun placed mem => (staged placed mem).2⟩

end Stages

/-! ## What admission takes -/

/-- A plan that expects what a commit holds under some of its paths. -/
structure Expects (hashing : Hashing) (commit : GitCommit) (plan : LiveApplyPlan) : Prop where
  increasing : plan.operations.Pairwise fun first second => first.path < second.path
  baseline : ∀ operation ∈ plan.operations, operation.status ≠ .added ∧
    ∃ path mode bytes width, (path, .blob mode bytes) ∈ commit.tree ∧
      operation.path = asPosix path ∧ operation.baselineMode = some mode ∧
      operation.baselineObjectId = some (gitBlobObjectId hashing bytes width)

/-- The live configuration stands as a tree below the directory that a path opens. -/
structure Mounted (host : Host) (root : PyStr) (tree : SourceTree) : Prop where
  quiet : host.fault = none
  absolute : root.head? = some slash
  clean : Clean root
  held : ∃ ino, host.openRoot root = .ok ino ∧ ∀ front name node,
    tree.get? (front ++ [name]) = some (.leaf (.file node)) →
      CleanParts front ∧ Clean name ∧ ∃ dir leaf, host.live.resolve ino front = some dir ∧
        host.live.lookup dir name = some (leaf, .file node.mode node.bytes)

/-- The admission proof takes a file as Git records it. -/
structure Admissible (placed : Placed) : Prop where
  mode : recordedMode placed.2.mode = gitMode placed.2.mode
  reserved : ∀ name ∈ placed.1, foldsToGit name = false
  encodable : Encodable (asPosix placed.1)

theorem gitBlobObjectId_idem (hashing : Hashing) (bytes : List UInt8) (width : ObjectId) :
    gitBlobObjectId hashing bytes (gitBlobObjectId hashing bytes width) =
      gitBlobObjectId hashing bytes width := by
  cases width with
  | sha1 digest => rfl
  | sha256 digest => rfl

theorem splitPath_asPosix {path : Parts} (legal : ∀ name ∈ path, LegalName name) (more : path ≠ []) :
    splitPath (asPosix path) = path :=
  List.splitOn_intercalate slash (fun name mem => (legal name mem).spelled.apart) more

/-- A spelled path is safe when no part of it folds to `.git`. -/
theorem safePath_asPosix {path : Parts} (legal : ∀ name ∈ path, LegalName name) (more : path ≠ []) :
    safePath (asPosix path) = true ↔ ∀ name ∈ path, foldsToGit name = false := by
  have shaped : ¬(asPosix path = [] ∨ (asPosix path).head? = some slash) :=
    not_or.mpr ⟨asPosix_ne_nil legal more, asPosix_head legal⟩
  unfold safePath
  rw [if_neg shaped, splitPath_asPosix legal more, Bool.not_eq_true', List.any_eq_false]
  refine forall₂_congr fun name mem => ?_
  have plain := legal name mem
  simp [plain.spelled.nonempty, plain.ne_dot, plain.ne_dotdot]

section Admission

variable {hashing : Hashing} {host : Host} {root : PyStr} {tree : SourceTree} {placed : Placed}

/-- Where a file of a mounted tree is found by an operation on its path. -/
theorem Mounted.found (mounted : Mounted host root tree) {ino : Nat}
    (opened : host.openRoot root = .ok ino) (legal : ∀ name ∈ placed.1, LegalName name)
    (more : placed.1 ≠ []) (held : tree.get? placed.1 = some (.leaf (.file placed.2)))
    (operation : LiveApplyOperation) (named : operation.path = asPosix placed.1) :
    CleanParts (parentParts operation) ∧ Clean (leafName operation) ∧ ∃ dir leaf,
      host.live.resolve ino (parentParts operation) = some dir ∧
      host.live.lookup dir (leafName operation) = some (leaf, .file placed.2.mode placed.2.bytes) := by
  obtain ⟨ino', opened', holds⟩ := mounted.held
  cases Except.ok.inj (opened.symm.trans opened')
  obtain ⟨front, name, grown⟩ := List.eq_nil_or_concat placed.1 |>.resolve_left more
  unfold parentParts leafName
  rw [named, splitPath_asPosix legal more, grown, List.concat_eq_append, List.dropLast_concat,
    List.getLastD_concat]
  rw [grown, List.concat_eq_append] at held
  exact holds front name placed.2 held

/-- The admission proof accepts what a commit holds under any of its paths. -/
def Admits (hashing : Hashing) (host : Host) (root : PyStr) (commit : GitCommit) : Prop :=
  ∀ plan, Expects hashing commit plan →
    ∃ evidence, (proveLiveApplyPreconditions hashing plan root).eval host = (.ok evidence, host)

/-- An unchanged live tree admits the blobs of its own files. -/
theorem Mounted.admits (mounted : Mounted host root tree) {files : List Placed}
    (listing : Listing files)
    (held : ∀ placed ∈ files, tree.get? placed.1 = some (.leaf (.file placed.2)))
    (admissible : ∀ placed ∈ files, Admissible placed) (message : String) :
    Admits hashing host root ⟨snapshotTree files, message⟩ := by
  intro plan expects
  obtain ⟨ino, opened, -⟩ := mounted.held
  -- the file that an operation is about
  have about : ∀ operation ∈ plan.operations, operation.status ≠ .added ∧ ∃ placed ∈ files,
      operation.path = asPosix placed.1 ∧
      operation.baselineMode = some (gitMode placed.2.mode) ∧ ∃ width,
        operation.baselineObjectId = some (gitBlobObjectId hashing placed.2.bytes width) := by
    intro operation mem
    obtain ⟨other, path, mode, bytes, width, entry, named, moded, hashed⟩ :=
      expects.baseline operation mem
    obtain ⟨placed, listed, same⟩ := List.mem_map.mp entry
    cases same
    rw [(admissible placed listed).mode] at moded
    exact ⟨other, placed, listed, named, moded, width, hashed⟩
  refine ⟨_, (proveLiveApplyPreconditions_eq_ok mounted.quiet).mpr
    ⟨mounted.absolute, validateOperations_eq_ok.mpr ⟨fun operation mem => ?_, expects.increasing⟩,
      ⟨ino, mounted.clean, opened, fun operation mem => ?_⟩, rfl, rfl⟩⟩
  · obtain ⟨other, placed, listed, named, moded, width, hashed⟩ := about operation mem
    refine ⟨named ▸ (admissible placed listed).encodable, ?_, fun added => absurd added other,
      fun _ => ⟨by simp [moded], by simp [hashed]⟩⟩
    rw [named]
    exact (safePath_asPosix (listing.legal placed listed) (listing.nonempty listed)).mpr
      (admissible placed listed).reserved
  · obtain ⟨other, placed, listed, named, moded, width, hashed⟩ := about operation mem
    obtain ⟨clean, cleanName, dir, leaf, resolved, found⟩ := mounted.found opened
      (listing.legal placed listed) (listing.nonempty listed) (held placed listed) operation named
    exact verifyOperation_ok mounted.quiet clean cleanName resolved
      (.inr ⟨other, leaf, placed.2.mode, placed.2.bytes, _, found, hashed,
        gitBlobObjectId_idem hashing _ width, moded⟩)

/-- A deletion that expects a blob under a path. -/
def deletionOf (hashing : Hashing) (placed : Placed) (width : ObjectId) : LiveApplyOperation :=
  ⟨asPosix placed.1, .deleted, some (recordedMode placed.2.mode),
    some (gitBlobObjectId hashing placed.2.bytes width), none, none, none, none⟩

/-- A file whose blob is admitted is admissible. -/
theorem Mounted.admissible (mounted : Mounted host root tree) {commit : GitCommit}
    (admits : Admits hashing host root commit)
    (legal : ∀ name ∈ placed.1, LegalName name) (more : placed.1 ≠ [])
    (held : tree.get? placed.1 = some (.leaf (.file placed.2)))
    (entry : (placed.1, .blob (recordedMode placed.2.mode) placed.2.bytes) ∈ commit.tree)
    (plan : LiveApplyPlan) (width : ObjectId)
    (alone : plan.operations = [deletionOf hashing placed width]) : Admissible placed := by
  have expects : Expects hashing commit plan := by
    refine ⟨alone ▸ List.pairwise_singleton _ _, fun operation mem => ?_⟩
    rw [alone, List.mem_singleton] at mem
    subst mem
    exact ⟨nofun, placed.1, _, placed.2.bytes, width, entry, rfl, rfl, rfl⟩
  obtain ⟨evidence, proved⟩ := admits plan expects
  obtain ⟨-, valid, ⟨ino, -, opened, each⟩, -, -⟩ :=
    (proveLiveApplyPreconditions_eq_ok mounted.quiet).mp proved
  have mem : deletionOf hashing placed width ∈ plan.operations := by
    rw [alone]
    exact List.mem_singleton_self _
  obtain ⟨encodable, formed⟩ := (validateOperations_eq_ok.mp valid).1 _ mem
  obtain ⟨clean, cleanName, dir, leaf, resolved, found⟩ :=
    mounted.found opened legal more held (deletionOf hashing placed width) rfl
  refine ⟨?_, (safePath_asPosix legal more).mp formed.safe, encodable⟩
  obtain ⟨-, applicable⟩ := verifyOperation_of_ok mounted.quiet (each _ mem)
  cases applicable with
  | unparented added _ => cases added
  | parented _ _ resolved' applies =>
    cases Option.some.inj (resolved.symm.trans resolved')
    rcases applies with ⟨added, -⟩ | ⟨-, ino', mode, bytes, baseline, found', -, -, moded⟩
    · cases added
    · cases Option.some.inj (found.symm.trans found')
      exact Option.some.inj moded

end Admission

/-! ## The law -/

section Law

variable (rules : GitRules) (sha256 : List UInt8 → Digest) (identity : List SnapshotFile → Digest)
  (hashing : Hashing) (host : Host) (root : PyStr)

/-- **The published commit is the snapshot**: a commit that is made holds exactly the files' paths
and bytes and is admitted on the live tree, and none is made exactly when the baseline is the
snapshot already. -/
structure CommitIsSnapshot (files : List Placed) (workspace : GitWorkspace) (baseline : GitTree) :
    Prop where
  ends : ∃ result, createSnapshotCommit rules sha256 identity workspace baseline = .ok result
  content : ∀ commit, createSnapshotCommit rules sha256 identity workspace baseline =
    .ok (some commit) → ∀ path bytes, (∃ object, (path, object) ∈ commit.tree ∧
      object.content = bytes) ↔ ∃ placed ∈ files, placed.1 = path ∧ some placed.2.bytes = bytes
  unchanged : createSnapshotCommit rules sha256 identity workspace baseline = .ok none ↔
    SameTree baseline (snapshotTree files)
  admitted : ∀ commit, createSnapshotCommit rules sha256 identity workspace baseline =
    .ok (some commit) → Admits hashing host root commit

variable {rules sha256 identity hashing host root}

theorem content_snapshotTree {files : List Placed} (path : Parts) (bytes : Option (List UInt8)) :
    (∃ object, (path, object) ∈ snapshotTree files ∧ object.content = bytes) ↔
      ∃ placed ∈ files, placed.1 = path ∧ some placed.2.bytes = bytes := by
  unfold snapshotTree
  constructor
  · rintro ⟨object, held, rfl⟩
    obtain ⟨placed, mem, same⟩ := List.mem_map.mp held
    cases same
    exact ⟨placed, mem, rfl, rfl⟩
  · rintro ⟨placed, mem, rfl, rfl⟩
    exact ⟨_, List.mem_map_of_mem mem, rfl⟩

/-- Files with one path are one file. -/
theorem Selectable.one_path {includePath : PyStr → Bool} {tree : SourceTree}
    (selectable : Selectable includePath tree) :
    ∀ a ∈ selected includePath tree, ∀ b ∈ selected includePath tree, a.1 = b.1 → a = b := by
  rintro ⟨path, node⟩ mem ⟨path', node'⟩ mem' rfl
  have held := ((mem_selected selectable.distinct).mp mem).1
  have held' := ((mem_selected selectable.distinct).mp mem').1
  cases Option.some.inj (held.symm.trans held')
  rfl

variable {site : Site} {includePath : PyStr → Bool} {tree : SourceTree} {snapshot : Snapshot}
  {staged : SourceTree} {workspace : GitWorkspace}

/-- What is made of an accepted tree: what Git stages of its files, unless the baseline holds it. -/
theorem Selectable.created (selectable : Selectable includePath tree) (rules : GitRules)
    (baseline : GitTree)
    (captured : site.capture sha256 identity includePath tree = .ok snapshot)
    (stagedAt : snapshot.root.tree = some staged)
    (prepared : prepareGitWorkspace sha256 identity (.directory site.workspacePath)
      site.workspaceStamps snapshot.root staged snapshot.root = .ok workspace) :
    createSnapshotCommit rules sha256 identity workspace baseline =
      .ok (if gitStatus baseline (rules.addAll (selected includePath tree)) = [] then none
        else some ⟨rules.addAll (selected includePath tree),
          "Sync verified snapshot " ++ workspace.snapshotId.hex⟩) := by
  obtain ⟨worked, verified⟩ := selectable.workspace captured stagedAt prepared
  have created := createSnapshotCommit_eq rules sha256 identity baseline verified
  rwa [worked, addAll_copies, addAll_copies] at created

/-- A commit that is the snapshot, or a baseline that is, was staged exactly. -/
theorem CommitIsSnapshot.stages (selectable : Selectable includePath tree) {baseline : GitTree}
    {message : String}
    (created : createSnapshotCommit rules sha256 identity workspace baseline =
      .ok (if gitStatus baseline (rules.addAll (selected includePath tree)) = [] then none
        else some ⟨rules.addAll (selected includePath tree), message⟩))
    (published : CommitIsSnapshot rules sha256 identity hashing host root (selected includePath tree)
      workspace baseline) : StagesExactly rules (selected includePath tree) := by
  refine stagesExactly_of_content selectable.one_path fun placed mem => ?_
  split at created
  next same =>
    have snapshotted := published.unchanged.mp created
    have held : (placed.1, .blob (recordedMode placed.2.mode) placed.2.bytes) ∈ baseline :=
      (snapshotted _).mpr (List.mem_map_of_mem mem)
    exact ⟨_, (gitStatus_eq_nil.mp same _).mp held, rfl⟩
  next other =>
    exact (published.content _ created placed.1 _).mpr ⟨placed, mem, rfl, rfl⟩

/-- **When the published commit is the snapshot**: exactly when Git ignores and converts none of
the files, and the baseline is the snapshot already or admission takes every file. -/
theorem commitIsSnapshot_iff {recorder : Option PyStr} (baseline : GitTree)
    (regular : Regular tree)
    (captured : site.capture sha256 identity (includeInMain recorder) tree = .ok snapshot)
    (stagedAt : snapshot.root.tree = some staged)
    (prepared : prepareGitWorkspace sha256 identity (.directory site.workspacePath)
      site.workspaceStamps snapshot.root staged snapshot.root = .ok workspace)
    (mounted : Mounted host root tree) :
    CommitIsSnapshot rules sha256 identity hashing host root (selected (includeInMain recorder) tree)
        workspace baseline ↔
      StagesExactly rules (selected (includeInMain recorder) tree) ∧
        (SameTree baseline (snapshotTree (selected (includeInMain recorder) tree)) ∨
          ∀ placed ∈ selected (includeInMain recorder) tree, Admissible placed) := by
  have selectable := regular.selectable captured
  have created := selectable.created rules baseline captured stagedAt prepared
  have listing := selectable.listing
  have held : ∀ placed ∈ selected (includeInMain recorder) tree,
      tree.get? placed.1 = some (.leaf (.file placed.2)) :=
    fun placed mem => ((mem_selected selectable.distinct).mp mem).1
  constructor
  · intro published
    have stages := published.stages selectable created
    rw [stages.addAll_eq] at created
    refine ⟨stages, ?_⟩
    by_cases same : gitStatus baseline (snapshotTree (selected (includeInMain recorder) tree)) = []
    · exact .inl (gitStatus_eq_nil.mp same)
    · rw [if_neg same] at created
      refine .inr fun placed mem => ?_
      exact mounted.admissible (published.admitted _ created) (listing.legal placed mem)
        (listing.nonempty mem) (held placed mem) (List.mem_map_of_mem mem)
        ⟨[], [], 0, .sha1 (hashing.sha1 []), .sha1 (hashing.sha1 []), hashing.sha256 [],
          [deletionOf hashing placed (.sha1 (hashing.sha1 []))]⟩ _ rfl
  · rintro ⟨stages, taken⟩
    rw [stages.addAll_eq] at created
    refine ⟨⟨_, created⟩, fun commit made => ?_, ?_, fun commit made => ?_⟩
    · rw [created] at made
      split at made
      · cases made
      · cases made
        exact content_snapshotTree
    · rw [created, ← gitStatus_eq_nil]
      split
      next same => exact iff_of_true rfl same
      next other => exact iff_of_false nofun other
    · rw [created] at made
      split at made
      · cases made
      next other =>
        cases made
        rcases taken with same | admissible
        · exact absurd (gitStatus_eq_nil.mpr same) other
        · exact mounted.admits listing held admissible _

/-- A straight selection without Git parts is captured and becomes a workspace. -/
theorem Selectable.accepted (selectable : Selectable includePath tree)
    (straight : Straight (selected includePath tree))
    (clean : ∀ placed ∈ selected includePath tree, text ".git" ∉ placed.1) :
    ∃ snapshot staged workspace, site.capture sha256 identity includePath tree = .ok snapshot ∧
      snapshot.root.tree = some staged ∧
      prepareGitWorkspace sha256 identity (.directory site.workspacePath) site.workspaceStamps
        snapshot.root staged snapshot.root = .ok workspace := by
  obtain ⟨root, staged, placedAt, copies, captured⟩ := site.capture_eq sha256 identity selectable
  have listing := selectable.listing.copies site.stamps
  have isolated : overlap root.path site.workspacePath = false := placedAt ▸ site.isolated
  have straight' : Straight ((selected includePath tree).map (copyOf site.stamps)) :=
    straight_copies.mpr straight
  obtain ⟨workspace, prepared, -⟩ := copies.prepare_eq site.workspaceStamps listing straight'
    (by simpa only [List.forall_mem_map, copyOf] using clean) isolated
  exact ⟨_, staged, workspace, captured.trans (copies.verify_straight listing straight'),
    copies.tree, prepared⟩

end Law

/-! ## A configuration with a `.gitignore` -/

/-- The ignore rules as far as plain names go: a line of the root's `.gitignore` names what is
ignored at any depth. No attributes are set. -/
def plainRules : GitRules where
  ignored content path :=
    let lines := (content.find? (·.1 = [text ".gitignore"])).map fun file =>
      (file.2.map UInt8.toNat).splitOn 10
    (lines.getD []).any fun line => line ≠ [] && path.contains line
  convert _ _ bytes := bytes

/-- A file with the mode `0600`. -/
def privateFile (content : String) : FileNode :=
  ⟨0o600, 1, content.toList.map fun c => UInt8.ofNat c.toNat, ⟨1, 7, 0, 0⟩, true⟩

/-- A `.gitignore` beside an empty `secrets.yaml`. -/
def besideGitignore (content : String) : SourceTree :=
  .node [(text ".gitignore", .leaf (.file (privateFile content))),
    (text "secrets.yaml", .leaf (.file (privateFile "")))]

/-- The host with that configuration at `/config`. -/
def gitignoreHost (content : String) : Host where
  live := {
    node ino := if ino = 1 then some (.directory fun name => if name = text ".gitignore" then some 2
        else if name = text "secrets.yaml" then some 3 else none)
      else if ino = 2 then some (.file 0o600 (privateFile content).bytes)
      else if ino = 3 then some (.file 0o600 []) else none
    next := 4 }
  openRoot path := if path = text "/config" then .ok 1 else .error .noent
  stages _ := none
  clock time := time
  uuid _ := []
  drawn := 0
  fault := none

theorem walk_besideGitignore (content : String) : (besideGitignore content).walk =
    [([text ".gitignore"], .file (privateFile content)),
      ([text "secrets.yaml"], .file (privateFile ""))] := by
  have ordered : text ".gitignore" ≤ text "secrets.yaml" := by decide
  unfold FileTree.walk besideGitignore FileTree.visit FileTree.gather
  simp [FileTree.visitEntries, FileTree.visit, ordered]

theorem distinct_besideGitignore (content : String) :
    FileTree.Distinct (besideGitignore content) := by
  have other : text ".gitignore" ≠ text "secrets.yaml" := by decide
  refine .node (by simpa using other) fun name tree mem => ?_
  rcases List.mem_cons.mp mem with same | mem
  · cases same
    exact .leaf _
  · cases List.mem_singleton.mp mem
    exact .leaf _

theorem regular_besideGitignore (content : String) : Regular (besideGitignore content) := by
  have distinct := distinct_besideGitignore content
  have shown : ∀ path leaf, (besideGitignore content).get? path = some (.leaf leaf) →
      (∀ name ∈ path, LegalName name) ∧ ∃ node, leaf = .file node := by
    intro path leaf held
    have met := (FileTree.mem_walk distinct).mpr held
    rw [walk_besideGitignore] at met
    rcases List.mem_cons.mp met with same | met
    · cases same
      exact ⟨by decide, _, rfl⟩
    · cases List.mem_singleton.mp met
      exact ⟨by decide, _, rfl⟩
  exact ⟨distinct, ⟨_, rfl⟩, fun path leaf held => (shown path leaf held).1,
    fun path leaf held => (shown path leaf held).2⟩

theorem selected_besideGitignore (content : String) :
    selected (includeInMain none) (besideGitignore content) =
      [([text ".gitignore"], privateFile content), ([text "secrets.yaml"], privateFile "")] := by
  have first : includeInMain none (asPosix [text ".gitignore"]) = true := by decide
  have second : includeInMain none (asPosix [text "secrets.yaml"]) = true := by decide
  unfold selected
  rw [walk_besideGitignore]
  simp [pick, first, second]

theorem selectable_besideGitignore (content : String) :
    Selectable (includeInMain none) (besideGitignore content) := by
  have regular := regular_besideGitignore content
  refine ⟨regular.distinct, regular.root, regular.legal, fun path leaf held _ => ?_⟩
  have met := (FileTree.mem_walk regular.distinct).mpr held
  rw [walk_besideGitignore] at met
  rcases List.mem_cons.mp met with same | met
  · cases same
    exact ⟨_, rfl, rfl, rfl⟩
  · cases List.mem_singleton.mp met
    exact ⟨_, rfl, rfl, rfl⟩

theorem mounted_besideGitignore (content : String) :
    Mounted (gitignoreHost content) (text "/config") (besideGitignore content) := by
  refine ⟨rfl, by decide, by unfold Clean; decide, 1, rfl, fun front name node held => ?_⟩
  have met := (FileTree.mem_walk (distinct_besideGitignore content)).mpr held
  rw [walk_besideGitignore] at met
  rcases List.mem_cons.mp met with same | met
  · obtain ⟨path, file⟩ := Prod.mk.inj same
    cases file
    cases front with
    | nil =>
      cases path
      exact ⟨List.forall_mem_nil _, by unfold Clean; decide, 1, 2, rfl, rfl⟩
    | cons first front => simp at path
  · obtain ⟨path, file⟩ := Prod.mk.inj (List.mem_singleton.mp met)
    cases file
    cases front with
    | nil =>
      cases path
      exact ⟨List.forall_mem_nil _, by unfold Clean; decide, 1, 3, rfl, rfl⟩
    | cons first front => simp at path

/-- The configuration is captured at any site, and becomes a workspace. -/
theorem accepted_besideGitignore (sha256 : List UInt8 → Digest)
    (identity : List SnapshotFile → Digest) (content : String) :
    ∃ snapshot staged workspace,
      configSite.capture sha256 identity (includeInMain none) (besideGitignore content) =
        .ok snapshot ∧
      snapshot.root.tree = some staged ∧
      prepareGitWorkspace sha256 identity (.directory configSite.workspacePath)
        configSite.workspaceStamps snapshot.root staged snapshot.root = .ok workspace := by
  have selectable := selectable_besideGitignore content
  have files := selected_besideGitignore content
  refine selectable.accepted ?_ ?_
  · refine (sorted_iff_straight selectable.listing).mp ?_
    have less : asPosix [text ".gitignore"] < asPosix [text "secrets.yaml"] := by decide
    rw [files]
    exact List.pairwise_pair.mpr less
  · rw [files]
    simp only [List.forall_mem_cons, List.not_mem_nil, IsEmpty.forall_iff, implies_true, and_true]
    decide

/-- SHA-256, as far as the three files go. -/
def gitignoreSha256 (bytes : List UInt8) : Digest :=
  if bytes = [] then sha256Empty bytes
  else if bytes = (privateFile "secrets.yaml\n").bytes then
    ⟨"e280264fab13037ba14b721cdd22aa5238075bd97b8a9598b98d4ca1f996e47f", by decide⟩
  else ⟨"24c8d36ff7ec3a3c2a6387fa53394c3a52f7712aa918f6beeba4359b3fafbfd0", by decide⟩

/-- The identities of the two listings. -/
def gitignoreIdentity (files : List SnapshotFile) : Digest :=
  if files.map (·.size) = [13, 0] then
    ⟨"6f6b7cc7249e53d2e49a2e47f349766076b35c6d2ad824f51c08cea14de08b7b", by decide⟩
  else ⟨"a34de957a999d145c54dc19b159864bdb14d3714b7b93c56c457760881c9e422", by decide⟩

/-- SHA-1, as far as the blobs of the three files go. -/
def gitignoreSha1 (payload : List UInt8) : ShortDigest :=
  if payload = blobPayload [] then ⟨"e69de29bb2d1d6434b8b29ae775ad8c2e48c5391", by decide⟩
  else if payload = blobPayload (privateFile "secrets.yaml\n").bytes then
    ⟨"03cdeecefd5f685ca4d1f06a2fb413962725541a", by decide⟩
  else ⟨"98e6ef67fad8af56cb3721edbd420b3d6fcc0bb1", by decide⟩

/-- The hash functions; no document is hashed here. -/
def gitignoreHashing : Hashing :=
  let document := gitignoreSha256 []
  ⟨gitignoreSha1, gitignoreSha256, fun _ => document, fun _ => document, fun _ => document,
    fun _ _ => document⟩

/-- **A file that a `.gitignore` names is dropped**: capture and the workspace accept the
configuration, and the commit on an empty baseline does not hold `secrets.yaml`. -/
theorem commit_drops_secrets : ∃ snapshot staged workspace,
    Regular (besideGitignore "secrets.yaml\n") ∧
    configSite.capture gitignoreSha256 gitignoreIdentity (includeInMain none)
      (besideGitignore "secrets.yaml\n") = .ok snapshot ∧
    snapshot.root.tree = some staged ∧
    prepareGitWorkspace gitignoreSha256 gitignoreIdentity (.directory configSite.workspacePath)
      configSite.workspaceStamps snapshot.root staged snapshot.root = .ok workspace ∧
    Mounted (gitignoreHost "secrets.yaml\n") (text "/config") (besideGitignore "secrets.yaml\n") ∧
    ¬ CommitIsSnapshot plainRules gitignoreSha256 gitignoreIdentity gitignoreHashing
      (gitignoreHost "secrets.yaml\n") (text "/config")
      (selected (includeInMain none) (besideGitignore "secrets.yaml\n")) workspace [] := by
  obtain ⟨snapshot, staged, workspace, captured, stagedAt, prepared⟩ :=
    accepted_besideGitignore gitignoreSha256 gitignoreIdentity "secrets.yaml\n"
  refine ⟨snapshot, staged, workspace, regular_besideGitignore _, captured, stagedAt, prepared,
    mounted_besideGitignore _, fun published => ?_⟩
  have selectable := selectable_besideGitignore "secrets.yaml\n"
  have stages := published.stages selectable
    (selectable.created plainRules [] captured stagedAt prepared)
  rw [selected_besideGitignore] at stages
  have kept := stages.kept ([text "secrets.yaml"], privateFile "") (by simp)
  have dropped : plainRules.ignored (workContent [([text ".gitignore"], privateFile "secrets.yaml\n"),
      ([text "secrets.yaml"], privateFile "")]) [text "secrets.yaml"] = true := by decide
  rw [dropped] at kept
  cases kept

/-- A `.gitignore` that names no file of the configuration: the commit is the snapshot. -/
theorem commitIsSnapshot_iff_databases : ∃ snapshot staged workspace,
    configSite.capture gitignoreSha256 gitignoreIdentity (includeInMain none)
      (besideGitignore "*.db\n") = .ok snapshot ∧
    snapshot.root.tree = some staged ∧
    prepareGitWorkspace gitignoreSha256 gitignoreIdentity (.directory configSite.workspacePath)
      configSite.workspaceStamps snapshot.root staged snapshot.root = .ok workspace ∧
    CommitIsSnapshot plainRules gitignoreSha256 gitignoreIdentity gitignoreHashing
      (gitignoreHost "*.db\n") (text "/config")
      (selected (includeInMain none) (besideGitignore "*.db\n")) workspace [] := by
  obtain ⟨snapshot, staged, workspace, captured, stagedAt, prepared⟩ :=
    accepted_besideGitignore gitignoreSha256 gitignoreIdentity "*.db\n"
  refine ⟨snapshot, staged, workspace, captured, stagedAt, prepared,
    (commitIsSnapshot_iff [] (regular_besideGitignore _) captured stagedAt prepared
      (mounted_besideGitignore _)).mpr ⟨⟨?_, fun _ _ => rfl⟩, .inr ?_⟩⟩
  · rw [selected_besideGitignore]
    simp only [List.forall_mem_cons, List.not_mem_nil, IsEmpty.forall_iff, implies_true, and_true]
    decide
  · rw [selected_besideGitignore]
    simp only [List.forall_mem_cons, List.not_mem_nil, IsEmpty.forall_iff, implies_true, and_true]
    exact ⟨⟨by decide, by decide, by unfold Encodable; decide⟩,
      ⟨by decide, by decide, by unfold Encodable; decide⟩⟩

end SyncApp
