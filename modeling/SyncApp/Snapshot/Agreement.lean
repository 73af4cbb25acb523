import SyncApp.Snapshot.Capture

/-!
# Capture and verification agree, except on some names

A scan visits a tree depth first with the names of each directory sorted. A manifest lists the same
files sorted by path string, and verification compares the two listings position by position. The
orders differ where a directory `d` stands beside a name `d ++ c ++ …` with `c` below `/`:
`automations/` beside `automations.yaml`.

**The law** (`captureAgrees_iff`): on a plain tree that stands still, capture, verification and the
workspace agree exactly when no two selected files are inverted (`PathOrder.Inverted`) and no
selected path has a part `.git`, which workspaces reserve for Git.

The proof computes each function on such a tree: a scan gives the selected files in walk order
(`scanSource_eq`), the copies build a tree that holds exactly these (`copyFiles_eq`,
`build_of_apart`), the staged tree walks as they were scanned, and a manifest reads back as written
(`manifestFiles_entries`). What is left is whether a listing in walk order is sorted by path string
(`sorted_iff_straight`).
-/

set_option autoImplicit false

namespace SyncApp

open Lib

open Lib.FileTree (Distinct Apart HoldsExactly mem_walk walk_sorted walk_apart build_of_apart)

/-- A regular file under its path. -/
abbrev Placed := Parts × FileNode

/-- The placed files as the leaves of a tree. -/
def asLeaves (files : List Placed) : List (Parts × Leaf) :=
  files.map fun placed => (placed.1, .file placed.2)

/-- A placed file that the selection includes. -/
def pick (includePath : PyStr → Bool) (found : Parts × Leaf) : Option Placed :=
  match found.2 with
  | .file node => if includePath (asPosix found.1) then some (found.1, node) else none
  | _ => none

/-- The regular files of a tree that the selection includes, in walk order. -/
def selected (includePath : PyStr → Bool) (tree : SourceTree) : List Placed :=
  tree.walk.filterMap (pick includePath)

/-- What a scan records of a placed file. -/
def sourceFile (placed : Placed) : SourceFile :=
  ⟨asPosix placed.1, placed.2.mode, placed.2.links, placed.2.bytes.length, placed.2.stamp⟩

/-- What a snapshot records of a placed file. -/
def record (sha256 : List UInt8 → Digest) (placed : Placed) : SnapshotFile :=
  ⟨asPosix placed.1, placed.2.bytes.length, placed.2.mode, sha256 placed.2.bytes⟩

/-- A **plain tree**: a directory of regular, singly linked, readable files with legal names. -/
structure Plain (tree : SourceTree) : Prop where
  distinct : Distinct tree
  root : ∃ entries, tree = .node entries
  legal : ∀ path leaf, tree.get? path = some (.leaf leaf) → ∀ name ∈ path, LegalName name
  regular : ∀ path leaf, tree.get? path = some (.leaf leaf) →
    ∃ node, leaf = .file node ∧ node.links = 1 ∧ node.readable = true

/-- A tree that a capture takes: legal names, and what is selected is regular, singly linked and
readable. -/
structure Selectable (includePath : PyStr → Bool) (tree : SourceTree) : Prop where
  distinct : Distinct tree
  root : ∃ entries, tree = .node entries
  legal : ∀ path leaf, tree.get? path = some (.leaf leaf) → ∀ name ∈ path, LegalName name
  regular : ∀ path leaf, tree.get? path = some (.leaf leaf) → includePath (asPosix path) = true →
    ∃ node, leaf = .file node ∧ node.links = 1 ∧ node.readable = true

theorem Plain.selectable {tree : SourceTree} (plain : Plain tree) (includePath : PyStr → Bool) :
    Selectable includePath tree :=
  ⟨plain.distinct, plain.root, plain.legal, fun path leaf held _ => plain.regular path leaf held⟩

/-! ## Path strings -/

/-- A path string splits into the names it was spelled from. -/
theorem pathParts_asPosix {path : Parts} (legal : ∀ name ∈ path, LegalName name) :
    pathParts (asPosix path) = path := by
  unfold pathParts asPosix
  rw [PathOrder.parts_spell fun name mem => (legal name mem).spelled]
  refine List.filter_eq_self.mpr fun name mem => ?_
  simpa using (legal name mem).ne_dot

theorem asPosix_ne_nil {path : Parts} (legal : ∀ name ∈ path, LegalName name) (more : path ≠ []) :
    asPosix path ≠ [] :=
  PathOrder.spell_ne_nil (fun name mem => (legal name mem).spelled) more

/-- A path string of legal names does not start with a slash. -/
theorem asPosix_head {path : Parts} (legal : ∀ name ∈ path, LegalName name) :
    (asPosix path).head? ≠ some slash := by
  cases path with
  | nil => exact fun start => nomatch start
  | cons name path =>
    obtain ⟨tail, spelled, -, -⟩ := PathOrder.spell_head slash name path
    have named := (legal name List.mem_cons_self).spelled
    unfold asPosix
    rw [spelled]
    cases name with
    | nil => exact absurd rfl named.nonempty
    | cons c name =>
      intro start
      simp only [List.cons_append, List.head?_cons, Option.some.injEq] at start
      exact named.apart (start ▸ List.mem_cons_self)

/-! ## Listings in walk order -/

/-- No two of the files are inverted. -/
def Straight (files : List Placed) : Prop :=
  ∀ a ∈ files, ∀ b ∈ files, ¬ PathOrder.Inverted slash a.1 b.1

/-- A listing of files as capture and verification meet them: in walk order, apart from one
another, under legal names, singly linked and readable. -/
structure Listing (files : List Placed) : Prop where
  sorted : files.Pairwise fun a b => a.1 < b.1
  apart : Apart (asLeaves files)
  legal : ∀ placed ∈ files, ∀ name ∈ placed.1, LegalName name
  single : ∀ placed ∈ files, placed.2.links = 1
  readable : ∀ placed ∈ files, placed.2.readable = true

theorem Listing.nonempty {files : List Placed} (listing : Listing files) {placed : Placed}
    (mem : placed ∈ files) : placed.1 ≠ [] :=
  listing.apart.nonempty placed.1 (.file placed.2) (List.mem_map.mpr ⟨placed, mem, rfl⟩)

theorem mem_selected {includePath : PyStr → Bool} {tree : SourceTree} (distinct : Distinct tree)
    {placed : Placed} : placed ∈ selected includePath tree ↔
      tree.get? placed.1 = some (.leaf (.file placed.2)) ∧ includePath (asPosix placed.1) = true := by
  unfold selected
  rw [List.mem_filterMap]
  constructor
  · rintro ⟨⟨path, leaf⟩, mem, picked⟩
    cases leaf with
    | file node =>
      simp only [pick] at picked
      split at picked
      next included =>
        cases picked
        exact ⟨(mem_walk distinct).mp mem, included⟩
      · cases picked
    | symlink => cases picked
    | special => cases picked
  · rintro ⟨held, included⟩
    refine ⟨(placed.1, .file placed.2), (mem_walk distinct).mpr held, ?_⟩
    simp only [pick, included, if_true]

/-- A picked file keeps its path. -/
theorem pick_path {includePath : PyStr → Bool} {found : Parts × Leaf} {placed : Placed}
    (picked : pick includePath found = some placed) : placed.1 = found.1 := by
  unfold pick at picked
  split at picked
  · split at picked
    · cases picked
      rfl
    · cases picked
  · cases picked

theorem Selectable.listing {includePath : PyStr → Bool} {tree : SourceTree}
    (selectable : Selectable includePath tree) : Listing (selected includePath tree) := by
  obtain ⟨entries, rfl⟩ := selectable.root
  have apart := walk_apart selectable.distinct
  refine ⟨?_, ⟨?_, ?_⟩, fun placed mem => ?_, fun placed mem => ?_, fun placed mem => ?_⟩
  · refine List.Pairwise.filterMap _ (fun a b less a' picked b' picked' => ?_)
      (walk_sorted selectable.distinct)
    rw [pick_path picked, pick_path picked']
    exact less
  · intro path leaf mem
    obtain ⟨placed, kept, same⟩ := List.mem_map.mp mem
    cases same
    exact apart.nonempty placed.1 _ ((mem_walk selectable.distinct).mpr ((mem_selected selectable.distinct).mp kept).1)
  · refine List.pairwise_map.mpr (List.Pairwise.filterMap _ (fun a b away a' picked b' picked' => ?_)
      apart.apart)
    rw [pick_path picked, pick_path picked']
    exact away
  · exact selectable.legal placed.1 _ ((mem_selected selectable.distinct).mp mem).1
  · obtain ⟨held, included⟩ := (mem_selected selectable.distinct).mp mem
    obtain ⟨node, same, single, -⟩ := selectable.regular placed.1 _ held included
    cases same
    exact single
  · obtain ⟨held, included⟩ := (mem_selected selectable.distinct).mp mem
    obtain ⟨node, same, -, readable⟩ := selectable.regular placed.1 _ held included
    cases same
    exact readable

/-- **When walk order is string order**: a listing is sorted by path string exactly when no two of
its files are inverted. -/
theorem sorted_iff_straight {files : List Placed} (listing : Listing files) :
    (files.Pairwise fun a b => asPosix a.1 < asPosix b.1) ↔ Straight files := by
  have spelled : ∀ placed ∈ files, ∀ name ∈ placed.1, PathOrder.Legal slash name :=
    fun placed mem name named => (listing.legal placed mem name named).spelled
  constructor
  · intro ordered a mem b mem'
    have forward : files.Pairwise fun a b => ¬ PathOrder.Inverted slash a.1 b.1 :=
      (List.Pairwise.and ordered listing.sorted).imp_of_mem fun {a b} mem mem' less =>
        (PathOrder.spell_lt_spell (spelled a mem) (spelled b mem') less.2).mp less.1
    -- an inverted pair is in name order, so a file is not inverted with an earlier one
    have backward : files.Pairwise fun a b => ¬ PathOrder.Inverted slash b.1 a.1 :=
      listing.sorted.imp fun less inverted => absurd (lt_trans less inverted.lt) (lt_irrefl _)
    exact forward.forall_of_forall_of_flip
      (fun placed _ inverted => absurd inverted.lt (lt_irrefl _)) backward mem mem'
  · intro straight
    refine listing.sorted.imp_of_mem fun {a b} mem mem' less => ?_
    exact (PathOrder.spell_lt_spell (spelled a mem) (spelled b mem') less).mpr
      (straight a mem b mem')

/-- Files of a listing have distinct path strings. -/
theorem Listing.asPosix_injective {files : List Placed} (listing : Listing files) {a b : Placed}
    (mem : a ∈ files) (mem' : b ∈ files) (same : asPosix a.1 = asPosix b.1) : a.1 = b.1 :=
  PathOrder.spell_injective (fun name named => (listing.legal a mem name named).spelled)
    (fun name named => (listing.legal b mem' name named).spelled) same

/-! ## Each function on a listing -/

section Functions

variable {sha256 : List UInt8 → Digest} {identity : List SnapshotFile → Digest}

/-- **A scan gives the selected files in walk order.** -/
theorem scanLeaves_eq {choice : Option (PyStr → Selection)} {includePath : PyStr → Bool}
    (answers : ∀ path, (choice.map (· path)).getD (.answer true) = .answer (includePath path)) :
    ∀ {leaves : List (Parts × Leaf)}, (∀ path leaf, (path, leaf) ∈ leaves →
      includePath (asPosix path) = true → ∃ node, leaf = .file node ∧ node.links = 1) →
      scanLeaves choice leaves = .ok ((leaves.filterMap (pick includePath)).map sourceFile)
  | [], _ => rfl
  | (path, leaf) :: leaves, regular => by
    have rest := scanLeaves_eq answers fun path leaf mem => regular path leaf (List.mem_cons_of_mem _ mem)
    have here : scanLeaf choice path leaf =
        .ok ((pick includePath (path, leaf)).map sourceFile) := by
      simp only [scanLeaf, answers]
      cases included : includePath (asPosix path) with
      | false => cases leaf <;> simp [pick, included]
      | true =>
        obtain ⟨node, rfl, single⟩ := regular path leaf List.mem_cons_self included
        simp only [pick, included, single, ne_eq, not_true_eq_false, if_false, if_true,
          Option.map_some, sourceFile]
    simp only [scanLeaves, here, rest, bind, Except.bind, pure, Except.pure, List.filterMap_cons]
    cases pick includePath (path, leaf) <;> rfl

theorem Selectable.scan {includePath : PyStr → Bool} {tree : SourceTree}
    (selectable : Selectable includePath tree) :
    scanSource (some fun path => .answer (includePath path)) tree =
      .ok ((selected includePath tree).map sourceFile) :=
  scanLeaves_eq (fun _ => rfl) fun path leaf mem included => by
    obtain ⟨node, same, single, -⟩ :=
      selectable.regular path leaf ((mem_walk selectable.distinct).mp mem) included
    exact ⟨node, same, single⟩

/-- What opening a held file gives. -/
theorem openRegular_eq (unopened notRegular : SnapshotError) {tree : SourceTree} {placed : Placed}
    (legal : ∀ name ∈ placed.1, LegalName name)
    (held : tree.get? placed.1 = some (.leaf (.file placed.2)))
    (single : placed.2.links = 1) (readable : placed.2.readable = true) :
    openRegular unopened notRegular tree (asPosix placed.1) = .ok placed.2 := by
  simp only [openRegular, pathParts_asPosix legal, held, readable, single, Bool.not_true,
    Bool.false_eq_true, if_false, ne_eq, not_true_eq_false]

/-- A file as it was copied: the bytes and permission bits, singly linked, on a new inode. -/
def copyOf (stamps : PyStr → Stamp) (placed : Placed) : Placed :=
  (placed.1, ⟨placed.2.mode, 1, placed.2.bytes, stamps (asPosix placed.1), true⟩)

theorem asLeaves_copies {stamps : PyStr → Stamp} {files : List Placed} :
    (asLeaves (files.map (copyOf stamps))).map Prod.fst = files.map Prod.fst := by
  unfold asLeaves
  rw [List.map_map, List.map_map]
  rfl

theorem record_copyOf {stamps : PyStr → Stamp} {placed : Placed} :
    record sha256 (copyOf stamps placed) = record sha256 placed := rfl

/-- **Copying scanned files** builds the tree of their copies, and records each. -/
theorem copyFiles_eq {source : SourceTree} {stamps : PyStr → Stamp} :
    ∀ {files : List Placed} {tree grown : SourceTree},
      (∀ placed ∈ files, source.get? placed.1 = some (.leaf (.file placed.2))) →
      (∀ placed ∈ files, ∀ name ∈ placed.1, LegalName name) →
      (∀ placed ∈ files, placed.2.links = 1 ∧ placed.2.readable = true) →
      FileTree.buildOn tree (asLeaves (files.map (copyOf stamps))) = some grown →
      copyFiles sha256 source stamps (files.map sourceFile) tree =
        .ok (grown, files.map (record sha256))
  | [], tree, grown, _, _, _, built => by
    cases Option.some.inj built
    rfl
  | placed :: files, tree, grown, held, legal, opens, built => by
    obtain ⟨single, readable⟩ := opens placed List.mem_cons_self
    obtain ⟨next, inserted, rest⟩ := Option.bind_eq_some_iff.mp built
    have opened := openRegular_eq (.snapshot "source file cannot be opened safely")
      (.snapshot "snapshot file is not a unique regular file") (legal placed List.mem_cons_self) (held placed List.mem_cons_self) single readable
    have later := copyFiles_eq (fun p mem => held p (List.mem_cons_of_mem _ mem))
      (fun p mem => legal p (List.mem_cons_of_mem _ mem))
      (fun p mem => opens p (List.mem_cons_of_mem _ mem)) rest
    simp only [copyOf] at inserted
    simp only [List.map_cons, copyFiles, copyRegularFile, sourceFile, opened, bind, Except.bind, pure,
      Except.pure, pathParts_asPosix (legal placed List.mem_cons_self), inserted]
    rw [later]
    rfl

/-- Copying a snapshot's files builds the same tree. -/
theorem copySnapshotFiles_eq {source : SourceTree} {stamps : PyStr → Stamp} :
    ∀ {files : List Placed} {tree grown : SourceTree},
      (∀ placed ∈ files, source.get? placed.1 = some (.leaf (.file placed.2))) →
      (∀ placed ∈ files, ∀ name ∈ placed.1, LegalName name) →
      (∀ placed ∈ files, placed.2.links = 1 ∧ placed.2.readable = true) →
      FileTree.buildOn tree (asLeaves (files.map (copyOf stamps))) = some grown →
      copySnapshotFiles sha256 source stamps (files.map (record sha256)) tree = .ok grown
  | [], tree, grown, _, _, _, built => by
    cases Option.some.inj built
    rfl
  | placed :: files, tree, grown, held, legal, opens, built => by
    obtain ⟨single, readable⟩ := opens placed List.mem_cons_self
    obtain ⟨next, inserted, rest⟩ := Option.bind_eq_some_iff.mp built
    have opened := openRegular_eq (.snapshot "snapshot file cannot be opened safely")
      (.snapshot "snapshot file metadata changed before workspace materialization") (legal placed List.mem_cons_self) (held placed List.mem_cons_self) single readable
    have later := copySnapshotFiles_eq (fun p mem => held p (List.mem_cons_of_mem _ mem))
      (fun p mem => legal p (List.mem_cons_of_mem _ mem))
      (fun p mem => opens p (List.mem_cons_of_mem _ mem)) rest
    simp only [copyOf] at inserted
    simp only [List.map_cons, copySnapshotFiles, copySnapshotFile, record, opened, bind, Except.bind,
      ne_eq, not_true_eq_false, or_self, if_false,
      pathParts_asPosix (legal placed List.mem_cons_self), inserted]
    exact later

/-- Every file of the staged tree still hashes to its record. -/
theorem verifyFiles_eq {tree : SourceTree} : ∀ {files : List Placed},
    (∀ placed ∈ files, tree.get? placed.1 = some (.leaf (.file placed.2))) →
    (∀ placed ∈ files, ∀ name ∈ placed.1, LegalName name) →
    (∀ placed ∈ files, placed.2.links = 1 ∧ placed.2.readable = true) →
    verifyFiles sha256 tree (files.map (record sha256)) = .ok ()
  | [], _, _, _ => rfl
  | placed :: files, held, legal, opens => by
    obtain ⟨single, readable⟩ := opens placed List.mem_cons_self
    have opened := openRegular_eq (.snapshot "staged file cannot be opened safely")
      (.snapshot "snapshot file is not a unique regular file") (legal placed List.mem_cons_self) (held placed List.mem_cons_self) single readable
    have later := verifyFiles_eq (fun p mem => held p (List.mem_cons_of_mem _ mem))
      (fun p mem => legal p (List.mem_cons_of_mem _ mem))
      (fun p mem => opens p (List.mem_cons_of_mem _ mem))
    simp only [List.map_cons, verifyFiles, record, opened, bind, Except.bind, ne_eq,
      not_true_eq_false, if_false]
    exact later

theorem digestOf_hex (digest : Digest) : digestOf digest.hex = some digest := by
  unfold digestOf
  rw [dif_pos digest.shape]

/-- **A manifest reads back as written**, when its paths increase and are spelled from legal
names. -/
theorem manifestFiles_entries : ∀ {files : List SnapshotFile} {previous : PyStr},
    (∀ file ∈ files, previous < file.path) → (files.Pairwise fun a b => a.path < b.path) →
    (∀ file ∈ files, ∃ path : Parts, file.path = asPosix path ∧ path ≠ [] ∧
      ∀ name ∈ path, LegalName name) →
    manifestFiles previous (files.map fileDict) = .ok files
  | [], _, _, _, _ => rfl
  | file :: files, previous, after, sorted, spelled => by
    obtain ⟨path, same, more, legal⟩ := spelled file List.mem_cons_self
    rw [List.pairwise_cons] at sorted
    have later := manifestFiles_entries sorted.1 sorted.2
      fun file mem => spelled file (List.mem_cons_of_mem _ mem)
    have nodots : text ".." ∉ pathParts file.path := by
      rw [same, pathParts_asPosix legal]
      exact fun mem => (legal _ mem).ne_dotdot rfl
    have nonempty : file.path ≠ [] := same ▸ asPosix_ne_nil legal more
    have relative : file.path.head? ≠ some slash := same ▸ asPosix_head legal
    have increasing : ¬ file.path ≤ previous := not_le.mpr (after file List.mem_cons_self)
    have read : manifestFile previous (fileDict file) = some file := by
      have size : ¬ (file.size : Int) < 0 := by omega
      have mode : ¬ (file.mode : Int) < 0 := by omega
      simp only [manifestFile, fileDict, nonempty, relative, nodots, size, mode, increasing,
        or_self, if_false, digestOf_hex, Option.map_some, Int.toNat_natCast]
    simp only [List.map_cons, manifestFiles, read, later, bind, Except.bind, pure, Except.pure]

/-! ## A staged listing -/

/-- Copies of a listing are a listing. -/
theorem Listing.copies {files : List Placed} (listing : Listing files) (stamps : PyStr → Stamp) :
    Listing (files.map (copyOf stamps)) where
  sorted := List.pairwise_map.mpr listing.sorted
  apart := by
    refine ⟨fun path leaf mem => ?_, ?_⟩
    · obtain ⟨copy, copied, same⟩ := List.mem_map.mp mem
      obtain ⟨placed, kept, rfl⟩ := List.mem_map.mp copied
      cases same
      have more : placed.1 ≠ [] := listing.nonempty kept
      exact more
    · have apart := List.pairwise_map.mp listing.apart.apart
      exact List.pairwise_map.mpr (List.pairwise_map.mpr apart)
  legal copy mem := by
    obtain ⟨placed, kept, rfl⟩ := List.mem_map.mp mem
    exact listing.legal placed kept
  single copy mem := by
    obtain ⟨placed, kept, rfl⟩ := List.mem_map.mp mem
    rfl
  readable copy mem := by
    obtain ⟨placed, kept, rfl⟩ := List.mem_map.mp mem
    rfl

theorem records_copies {stamps : PyStr → Stamp} {files : List Placed} :
    (files.map (copyOf stamps)).map (record sha256) = files.map (record sha256) := by
  rw [List.map_map]
  rfl

theorem straight_copies {stamps : PyStr → Stamp} {files : List Placed} :
    Straight (files.map (copyOf stamps)) ↔ Straight files := by
  simp only [Straight, List.forall_mem_map, copyOf]

/-- Opening any file of a listing succeeds. -/
theorem Listing.opens {files : List Placed} (listing : Listing files) :
    ∀ placed ∈ files, placed.2.links = 1 ∧ placed.2.readable = true :=
  fun placed mem => ⟨listing.single placed mem, listing.readable placed mem⟩

/-- A tree that holds a listing holds each of its files. -/
theorem held_of_holdsExactly {files : List Placed} {tree : SourceTree}
    (holds : HoldsExactly tree (asLeaves files)) :
    ∀ placed ∈ files, tree.get? placed.1 = some (.leaf (.file placed.2)) :=
  fun placed mem => (holds.leaves placed.1 _).mpr (List.mem_map.mpr ⟨placed, mem, rfl⟩)

/-- A tree that holds a listing walks as the listing. -/
theorem walk_of_holdsExactly {files : List Placed} (listing : Listing files) {tree : SourceTree}
    (holds : HoldsExactly tree (asLeaves files)) : tree.walk = asLeaves files :=
  holds.walk_eq (List.Perm.refl _) (List.pairwise_map.mpr listing.sorted)

theorem filterMap_pick_asLeaves (files : List Placed) :
    (asLeaves files).filterMap (pick fun _ => true) = files := by
  induction files with
  | nil => rfl
  | cons placed files ih =>
    unfold asLeaves at ih ⊢
    rw [List.map_cons, List.filterMap_cons]
    simp only [pick, if_true]
    rw [ih]

/-- A scan of a tree that holds a listing gives the listing. -/
theorem scan_of_holdsExactly {files : List Placed} (listing : Listing files) {tree : SourceTree}
    (holds : HoldsExactly tree (asLeaves files)) :
    scanSource none tree = .ok (files.map sourceFile) := by
  have scanned : scanLeaves none tree.walk =
      .ok ((tree.walk.filterMap (pick fun _ => true)).map sourceFile) :=
    scanLeaves_eq (fun _ => rfl) fun path leaf mem _ => by
      rw [walk_of_holdsExactly listing holds] at mem
      obtain ⟨placed, kept, same⟩ := List.mem_map.mp mem
      cases same
      exact ⟨placed.2, rfl, listing.single placed kept⟩
  rw [walk_of_holdsExactly listing holds, filterMap_pick_asLeaves] at scanned
  rw [scanSource, walk_of_holdsExactly listing holds]
  exact scanned

/-- The sorted records of a listing, in strict order of their path strings. -/
theorem sortByPath_sorted (sha256 : List UInt8 → Digest) {files : List Placed} (listing : Listing files) :
    (sortByPath (files.map (record sha256))).Pairwise fun a b => a.path < b.path := by
  have total : Std.Total fun a b : SnapshotFile => a.path ≤ b.path :=
    ⟨fun a b => le_total a.path b.path⟩
  have trans : IsTrans SnapshotFile fun a b => a.path ≤ b.path := ⟨fun _ _ _ => le_trans⟩
  have ordered := List.pairwise_insertionSort (fun a b : SnapshotFile => a.path ≤ b.path)
    (files.map (record sha256))
  have distinct : (files.map (record sha256)).Pairwise fun a b => a.path ≠ b.path := by
    refine List.pairwise_map.mpr (listing.sorted.imp_of_mem fun {a b} mem mem' less same => ?_)
    exact absurd (listing.asPosix_injective mem mem' same) (ne_of_lt less)
  have distinct' : (sortByPath (files.map (record sha256))).Pairwise fun a b => a.path ≠ b.path :=
    (List.perm_insertionSort _ _).pairwise_iff (fun {a b} apart => Ne.symm apart) |>.mpr distinct
  exact List.Pairwise.imp₂ (fun a b le ne => lt_of_le_of_ne le ne) ordered distinct'

/-- The sorted records are the records, in walk order, exactly when the listing is straight. -/
theorem sortByPath_eq_self {files : List Placed} (listing : Listing files)
    (straight : Straight files) :
    sortByPath (files.map (record sha256)) = files.map (record sha256) := by
  refine List.Pairwise.insertionSort_eq (List.pairwise_map.mpr ?_)
  exact ((sorted_iff_straight listing).mpr straight).imp fun less => le_of_lt less

theorem straight_of_paths_eq {files : List Placed} (listing : Listing files)
    (same : (files.map (record sha256)).map (·.path) =
      (sortByPath (files.map (record sha256))).map (·.path)) : Straight files := by
  have sorted := List.pairwise_map.mpr (sortByPath_sorted sha256 listing)
  rw [← same, List.pairwise_map, List.pairwise_map] at sorted
  exact (sorted_iff_straight listing).mp sorted

/-- What capture leaves in staging for a listing: a tree that holds it and its manifest. -/
structure Staged (sha256 : List UInt8 → Digest) (identity : List SnapshotFile → Digest)
    (files : List Placed) (root : SnapshotRoot) (tree : SourceTree) : Prop where
  holds : HoldsExactly tree (asLeaves files)
  tree : root.tree = some tree
  manifest : root.manifest = some (manifestOf
    (identity (sortByPath (files.map (record sha256)))) (sortByPath (files.map (record sha256))))

theorem manifestFiles_sorted (sha256 : List UInt8 → Digest) {files : List Placed} (listing : Listing files) :
    manifestFiles [] ((sortByPath (files.map (record sha256))).map fileDict) =
      .ok (sortByPath (files.map (record sha256))) := by
  have spelled : ∀ file ∈ sortByPath (files.map (record sha256)), ∃ path : Parts,
      file.path = asPosix path ∧ path ≠ [] ∧ ∀ name ∈ path, LegalName name := by
    intro file mem
    rw [sortByPath, List.mem_insertionSort] at mem
    obtain ⟨placed, kept, rfl⟩ := List.mem_map.mp mem
    exact ⟨placed.1, rfl, listing.nonempty kept, listing.legal placed kept⟩
  refine manifestFiles_entries (fun file mem => ?_) (sortByPath_sorted _ listing) spelled
  obtain ⟨path, same, more, legal⟩ := spelled file mem
  obtain ⟨c, rest, grown⟩ := List.exists_cons_of_ne_nil (asPosix_ne_nil legal more)
  rw [same, grown]
  exact List.nil_lt_cons c rest

/-- **Verification of a straight listing succeeds**, with the listing's records. -/
theorem Staged.verify_straight {files : List Placed} (listing : Listing files)
    {root : SnapshotRoot} {tree : SourceTree} (staged : Staged sha256 identity files root tree)
    (straight : Straight files) :
    verifySnapshot sha256 identity root =
      .ok ⟨identity (files.map (record sha256)), root, files.map (record sha256)⟩ := by
  have read := manifestFiles_sorted sha256 listing
  have manifest := staged.manifest
  rw [sortByPath_eq_self listing straight] at read manifest
  have verified : verifyFiles sha256 tree (files.map (record sha256)) = .ok () :=
    verifyFiles_eq (held_of_holdsExactly staged.holds) listing.legal listing.opens
  have paths : (files.map sourceFile).map (·.path) = (files.map (record sha256)).map (·.path) := by
    rw [List.map_map, List.map_map]
    rfl
  simp only [verifySnapshot, staged.tree, manifest, manifestOf, ne_eq, not_true_eq_false, if_false,
    bind, Except.bind, scan_of_holdsExactly listing staged.holds, paths, read, verified]

/-- **Verification of a listing that is not straight is refused.** -/
theorem Staged.verify_bent {files : List Placed} (listing : Listing files)
    {root : SnapshotRoot} {tree : SourceTree} (staged : Staged sha256 identity files root tree)
    (bent : ¬ Straight files) :
    verifySnapshot sha256 identity root =
      .error (.snapshot "staged snapshot paths do not match manifest") := by
  have read := manifestFiles_sorted sha256 listing
  have paths : (files.map sourceFile).map (·.path) = (files.map (record sha256)).map (·.path) := by
    rw [List.map_map, List.map_map]
    rfl
  have apart : (files.map (record sha256)).map (·.path) ≠
      (sortByPath (files.map (record sha256))).map (·.path) :=
    fun same => bent (straight_of_paths_eq listing same)
  simp only [verifySnapshot, staged.tree, staged.manifest, manifestOf, ne_eq, not_true_eq_false,
    if_false, bind, Except.bind, scan_of_holdsExactly listing staged.holds, paths, read,
    apart, not_false_eq_true, if_true]

/-! ## Workspaces of a listing -/

/-- Things met in a workspace without Git parts, all of them regular files or directories, scan to
the records of the files. -/
theorem scanWorkspaceItems_eq (sha256 : List UInt8 → Digest) : ∀ {items : List (Parts × Option Leaf)},
    (∀ path item, (path, item) ∈ items → text ".git" ∉ path) →
    (∀ path leaf, (path, some leaf) ∈ items →
      ∃ node, leaf = .file node ∧ node.links = 1 ∧ node.readable = true) →
    scanWorkspaceItems sha256 items =
      .ok (((items.filterMap fun found => found.2.map fun leaf => (found.1, leaf)).filterMap
        (pick fun _ => true)).map (record sha256))
  | [], _, _ => rfl
  | (path, item) :: items, clean, regular => by
    have rest := scanWorkspaceItems_eq sha256 (fun p i mem => clean p i (List.mem_cons_of_mem _ mem))
      (fun p leaf mem => regular p leaf (List.mem_cons_of_mem _ mem))
    have nogit := clean path item List.mem_cons_self
    have head : path.head? ≠ some (text ".git") := fun start => nogit (List.mem_of_head? start)
    have last : path.getLast? ≠ some (text ".git") := fun stop => nogit (List.mem_of_getLast? stop)
    cases item with
    | none =>
      have here : scanWorkspaceItem sha256 path none = .ok none := by
        simp only [scanWorkspaceItem, head, last, if_false]
      simp only [scanWorkspaceItems, here, rest, bind, Except.bind, pure, Except.pure,
        List.filterMap_cons, Option.map_none, Option.toList_none, List.nil_append]
    | some leaf =>
      obtain ⟨node, rfl, single, readable⟩ := regular path leaf List.mem_cons_self
      have here : scanWorkspaceItem sha256 path (some (.file node)) =
          .ok (some (record sha256 (path, node))) := by
        simp only [scanWorkspaceItem, head, last, single, readable, if_false, ne_eq,
          not_true_eq_false, Bool.not_true, Bool.false_eq_true, record]
      simp only [scanWorkspaceItems, here, rest, bind, Except.bind, pure, Except.pure,
        List.filterMap_cons, Option.map_some, pick, if_true, List.map_cons, Option.toList_some,
        List.singleton_append]

/-- A tree that holds a listing without Git parts scans as a workspace to the listing's records. -/
theorem scanWorkspaceTree_eq (sha256 : List UInt8 → Digest) {files : List Placed}
    (listing : Listing files) {tree : SourceTree} (holds : HoldsExactly tree (asLeaves files)) (clean : ∀ placed ∈ files, text ".git" ∉ placed.1) :
    scanWorkspaceTree sha256 tree = .ok (files.map (record sha256)) := by
  have walked := walk_of_holdsExactly listing holds
  have scanned : scanWorkspaceItems sha256 tree.visit =
      .ok ((tree.walk.filterMap (pick fun _ => true)).map (record sha256)) :=
    scanWorkspaceItems_eq sha256 (fun path item mem => ?_) fun path leaf mem => ?_
  · rw [walked, filterMap_pick_asLeaves] at scanned
    exact scanned
  · obtain ⟨found, stands, -⟩ := (FileTree.mem_visit holds.distinct).mp mem
    cases found with
    | leaf leaf =>
      obtain ⟨placed, kept, same⟩ := List.mem_map.mp ((holds.leaves path leaf).mp stands)
      cases same
      exact clean placed kept
    | node entries =>
      rcases holds.nodes path ⟨entries, stands⟩ with rfl | ⟨next, rest, leaf, below⟩
      · exact List.not_mem_nil
      · obtain ⟨placed, kept, same⟩ := List.mem_map.mp below
        have grown : placed.1 = path ++ next :: rest := congrArg Prod.fst same
        exact fun git => clean placed kept (grown ▸ List.mem_append_left _ git)
  · have met : (path, leaf) ∈ tree.walk := List.mem_filterMap.mpr ⟨(path, some leaf), mem, rfl⟩
    rw [walked] at met
    obtain ⟨placed, kept, same⟩ := List.mem_map.mp met
    cases same
    exact ⟨placed.2, rfl, listing.opens placed kept⟩

/-- Some path string of a snapshot has a part `.git`. -/
def reservesGit (files : List SnapshotFile) : Bool :=
  files.any fun entry => (pathParts entry.path).contains (text ".git")

theorem reservesGit_records (sha256 : List UInt8 → Digest) {files : List Placed} (listing : Listing files) :
    reservesGit (files.map (record sha256)) = false ↔ ∀ placed ∈ files, text ".git" ∉ placed.1 := by
  unfold reservesGit
  rw [List.any_eq_false, List.forall_mem_map]
  refine forall₂_congr fun placed mem => not_congr ?_
  simp only [record, pathParts_asPosix (listing.legal placed mem)]
  exact List.contains_iff_mem

section Prepare

variable {files : List Placed} {root : SnapshotRoot} {tree : SourceTree} {workspacePath : Parts}

/-- **A straight listing without Git parts becomes a workspace** that holds its copies and verifies
with its identity. -/
theorem Staged.prepare_eq (staged : Staged sha256 identity files root tree)
    (stamps : PyStr → Stamp) (listing : Listing files) (straight : Straight files) (clean : ∀ placed ∈ files, text ".git" ∉ placed.1)
    (isolated : overlap root.path workspacePath = false) :
    ∃ workspace, prepareGitWorkspace sha256 identity (.directory workspacePath) stamps root tree root =
        .ok workspace ∧
      HoldsExactly workspace.tree (asLeaves (files.map (copyOf stamps))) ∧
      workspace.snapshotId = identity (files.map (record sha256)) ∧
      verifyWorkspaceContent sha256 identity workspace = .ok workspace.snapshotId := by
  have verified := staged.verify_straight listing straight
  have free := (reservesGit_records sha256 listing).mpr clean
  have copied := listing.copies stamps
  obtain ⟨workspace, built, holds⟩ := build_of_apart copied.apart
  have filled : copySnapshotFiles sha256 tree stamps (files.map (record sha256)) (.node []) =
      .ok workspace :=
    copySnapshotFiles_eq (held_of_holdsExactly staged.holds) listing.legal listing.opens built
  have scanned := scanWorkspaceTree_eq sha256 copied holds
    (by simpa only [List.forall_mem_map, copyOf] using clean)
  rw [records_copies] at scanned
  have content : verifyWorkspaceContent sha256 identity
      ⟨identity (files.map (record sha256)), workspace⟩ =
        .ok (identity (files.map (record sha256))) := by
    simp only [verifyWorkspaceContent, scanned, bind, Except.bind, ne_eq, not_true_eq_false, if_false]
  refine ⟨⟨identity (files.map (record sha256)), workspace⟩, ?_, holds, rfl, content⟩
  unfold reservesGit at free
  simp only [prepareGitWorkspace, verified, trustedWorkspaceRoot, isolated, free, filled, content,
    bind, Except.bind, pure, Except.pure, Bool.false_eq_true, if_false, ne_eq, not_true_eq_false]

/-- A Git part makes the workspace refuse the snapshot. -/
theorem Staged.clean_of_prepared (staged : Staged sha256 identity files root tree)
    (listing : Listing files) (straight : Straight files)
    (isolated : overlap root.path workspacePath = false) {stamps : PyStr → Stamp}
    {during : SourceTree} {after : SnapshotRoot} {workspace : GitWorkspace}
    (prepared : prepareGitWorkspace sha256 identity (.directory workspacePath) stamps root during
      after = .ok workspace) : ∀ placed ∈ files, text ".git" ∉ placed.1 := by
  refine (reservesGit_records sha256 listing).mp ?_
  by_contra reserved
  rw [Bool.not_eq_false, reservesGit] at reserved
  simp only [prepareGitWorkspace, staged.verify_straight listing straight, trustedWorkspaceRoot,
    isolated, reserved, bind, Except.bind, Bool.false_eq_true, if_false, if_true, reduceCtorEq]
    at prepared

end Prepare

end Functions

/-! ## The law -/

/-- Where a capture runs: resolved roots that do not overlap, a name for the work root, and what
the file system chooses for new files. -/
structure Site where
  sourcePath : Parts
  stagingPath : Parts
  workspacePath : Parts
  workRoot : PyStr
  stamps : PyStr → Stamp
  workspaceStamps : PyStr → Stamp
  separate : overlap sourcePath stagingPath = false
  isolated : overlap (stagingPath ++ [workRoot]) workspacePath = false

section Law

variable (sha256 : List UInt8 → Digest) (identity : List SnapshotFile → Digest) (site : Site)

/-- A capture at the site, of a tree that stands still. -/
def Site.capture (includePath : PyStr → Bool) (tree : SourceTree) :
    Except SnapshotError Snapshot :=
  captureSnapshot sha256 identity (.directory site.sourcePath) (.directory site.stagingPath)
    site.workRoot site.stamps (some fun path => .answer (includePath path)) tree tree tree

/-- **Capture and verification agree on a tree**: the capture succeeds with the records of the
selected files, its root verifies with the same files and identity, and its workspace is prepared
and verified with that identity. -/
def CaptureAgrees (includePath : PyStr → Bool) (tree : SourceTree) : Prop :=
  ∃ snapshot, site.capture sha256 identity includePath tree = .ok snapshot ∧
    snapshot.files = (selected includePath tree).map (record sha256) ∧
    (∃ again, verifySnapshot sha256 identity snapshot.root = .ok again ∧
      again.files = snapshot.files ∧ again.snapshotId = snapshot.snapshotId) ∧
    ∃ staged workspace, snapshot.root.tree = some staged ∧
      prepareGitWorkspace sha256 identity (.directory site.workspacePath) site.workspaceStamps
        snapshot.root staged snapshot.root = .ok workspace ∧
      verifyWorkspaceContent sha256 identity workspace = .ok snapshot.snapshotId

/-- What a capture verifies: a staged tree of copies of the selected files, with its manifest. -/
theorem Site.capture_eq {includePath : PyStr → Bool} {tree : SourceTree}
    (selectable : Selectable includePath tree) :
    ∃ root staged, root.path = site.stagingPath ++ [site.workRoot] ∧
      Staged sha256 identity ((selected includePath tree).map (copyOf site.stamps)) root staged ∧
      site.capture sha256 identity includePath tree = verifySnapshot sha256 identity root := by
  have listing := selectable.listing
  obtain ⟨staged, built, holds⟩ := build_of_apart (listing.copies site.stamps).apart
  have copied : copyFiles sha256 tree site.stamps ((selected includePath tree).map sourceFile)
      (.node []) = .ok (staged, (selected includePath tree).map (record sha256)) := copyFiles_eq
    (fun placed mem => ((mem_selected selectable.distinct).mp mem).1) listing.legal listing.opens built
  refine ⟨⟨site.stagingPath ++ [site.workRoot], some staged, some (manifestOf
    (identity (sortByPath ((selected includePath tree).map (record sha256))))
    (sortByPath ((selected includePath tree).map (record sha256))))⟩, staged, rfl,
    ⟨holds, rfl, by rw [records_copies]⟩, ?_⟩
  simp only [Site.capture, captureSnapshot, trustedDirectory, site.separate, selectable.scan, copied, bind,
    Except.bind, Bool.false_eq_true, if_false, ne_eq, not_true_eq_false]

end Law

/-! ## A directory beside a file of the same stem -/

instance (name : PyStr) : Decidable (LegalName name) :=
  decidable_of_iff ((name ≠ [] ∧ slash ∉ name) ∧ name ≠ text "." ∧ name ≠ text "..")
    ⟨fun h => ⟨⟨h.1.1, h.1.2⟩, h.2.1, h.2.2⟩,
      fun h => ⟨⟨h.spelled.nonempty, h.spelled.apart⟩, h.ne_dot, h.ne_dotdot⟩⟩

/-- A tree is plain when its walk shows it to be. -/
theorem Plain.of_walk {entries : List (PyStr × SourceTree)}
    (distinct : Distinct (.node entries)) (shown : ∀ found ∈ (FileTree.node entries).walk,
      (∀ name ∈ found.1, LegalName name) ∧
        ∃ node, found.2 = .file node ∧ node.links = 1 ∧ node.readable = true) :
    Plain (.node entries) where
  distinct := distinct
  root := ⟨entries, rfl⟩
  legal path leaf held := (shown (path, leaf) ((mem_walk distinct).mpr held)).1
  regular path leaf held := (shown (path, leaf) ((mem_walk distinct).mpr held)).2

/-- An empty file with the mode `0600`. -/
def emptyFile : FileNode := ⟨0o600, 1, [], ⟨1, 7, 0, 0⟩, true⟩

/-- The entries of `automations/lights.yaml` and one file beside the directory. -/
def besideAutomations (sibling : String) : List (PyStr × SourceTree) :=
  [(text "automations", .node [(text "lights.yaml", .leaf (.file emptyFile))]),
    (text sibling, .leaf (.file emptyFile))]

/-- SHA-256, as far as the empty file goes. -/
def sha256Empty (_ : List UInt8) : Digest :=
  ⟨"e3b0c44298fc1c149afbf4c8996fb92427ae41e4649b934ca495991b7852b855", by decide⟩

/-- The identities of the two listings below. -/
def identityBeside (files : List SnapshotFile) : Digest :=
  if files.map (·.path) = [text "automations/lights.yaml", text "zones.yaml"] then
    ⟨"303c80ab92e457d79cf6112eba667752afc9f420ef34d2b6f9dde0a69ab3ffd2", by decide⟩
  else ⟨"8c786da2a73fe516e588a857c116af2668b8b2dd915215c1d09e7a8af3a5d436", by decide⟩

/-- Captures of `/config` into `/data/staging`. -/
def configSite : Site where
  sourcePath := [text "config"]
  stagingPath := [text "data", text "staging"]
  workspacePath := [text "data", text "workspaces"]
  workRoot := text ".snapshot-0.tmp"
  stamps _ := ⟨1, 8, 0, 0⟩
  workspaceStamps _ := ⟨1, 9, 0, 0⟩
  separate := by decide
  isolated := by decide

theorem besideAutomations_distinct {sibling : String} (other : text "automations" ≠ text sibling) :
    Distinct (.node (besideAutomations sibling)) := by
  refine .node ?_ fun name tree mem => ?_
  · simpa [besideAutomations] using other
  · rcases List.mem_cons.mp mem with same | mem
    · cases same
      refine .node (List.nodup_singleton _) fun name tree mem => ?_
      cases List.mem_singleton.mp mem
      exact .leaf _
    · cases List.mem_singleton.mp mem
      exact .leaf _

end SyncApp
