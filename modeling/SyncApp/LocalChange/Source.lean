import SyncApp.Pipeline.LocalSync

/-!
# What is observed of the configuration

`observeLocalChangeSource` reads the metadata of every file that is routed to Repo B's `main`, and
refuses a source with a symbolic link anywhere in it. A capture reads the same files, the metadata
before and after and each file's bytes in between.

An observation that succeeds shows what a scan of the capture shows (`scan_of_observed`), and a
capture whose files do not change while it reads them has read all of them (`readAll_content`).

A file's type is what kind of leaf it is, so `mode` holds the permission bits. The identity of the
root, which each observation checks again at its end, is that of the configuration.
-/

set_option autoImplicit false

namespace SyncApp.LocalChange

open Lib Raising

open Lib.FileTree (Distinct)

/-- The Home Assistant configuration directory at one moment. -/
structure Configuration where
  device : Nat
  inode : Nat
  tree : SourceTree
  distinct : Distinct tree
  directory : ∃ entries, tree = .node entries
  legal : ∀ path leaf, tree.get? path = some (.leaf leaf) → ∀ name ∈ path, LegalName name

/-- `LocalChangeSnapshot`; an entry is what a scan records of a file. -/
structure LocalChangeSnapshot where
  device : Nat
  inode : Nat
  entries : List SourceFile
deriving DecidableEq

/-- One routed file: its path, its permission bits and its bytes. -/
structure RoutedFile where
  path : PyStr
  mode : Nat
  bytes : List UInt8
deriving DecidableEq

def sourceFailure (message : String) : Failure := ⟨message, false⟩

section

variable (includePath : PyStr → Bool)

/-- One child of a scanned directory that is none itself. -/
def observeLeaf (path : Parts) (leaf : Leaf) : Except Failure (Option SourceFile) :=
  match leaf with
  | .symlink => .error (sourceFailure "local change source contains a symbolic link")
  | .special =>
    if includePath (asPosix path) then
      .error (sourceFailure "local change source contains an unsafe file")
    else .ok none
  | .file node =>
    if !includePath (asPosix path) then .ok none
    else if node.links ≠ 1 then
      .error (sourceFailure "local change source contains an unsafe file")
    else .ok (some ⟨asPosix path, node.mode, node.links, node.bytes.length, node.stamp⟩)

def observeLeaves : List (Parts × Leaf) → Except Failure (List SourceFile)
  | [] => .ok []
  | (path, leaf) :: rest => do
    let found ← observeLeaf includePath path leaf
    let entries ← observeLeaves rest
    return found.toList ++ entries

/-- `observe_local_change_source`. -/
def observeLocalChangeSource (source : Configuration) : Except Failure LocalChangeSnapshot := do
  let entries ← observeLeaves includePath source.tree.walk
  return ⟨source.device, source.inode, entries⟩

/-- The scan of a capture, before its copies and after them. -/
def scanRouted (source : Configuration) : Except SnapshotError (List SourceFile) :=
  scanSource (some fun path => .answer (includePath path)) source.tree

/-- The files of the configuration that are routed to `main`. -/
def routedContent (source : Configuration) : List RoutedFile :=
  (selected includePath source.tree).map fun placed =>
    ⟨asPosix placed.1, placed.2.mode, placed.2.bytes⟩

/-- What a capture copies of one scanned file. -/
def readRouted (source : Configuration) (entry : SourceFile) : Except SnapshotError RoutedFile := do
  let node ← openRegular (.snapshot "source file cannot be opened safely")
    (.snapshot "snapshot file is not a unique regular file") source.tree entry.path
  return ⟨entry.path, node.mode, node.bytes⟩

variable {includePath}

/-! ## Observations and scans -/

theorem scanLeaf_of_observed {path : Parts} {leaf : Leaf} {found : Option SourceFile}
    (observed : observeLeaf includePath path leaf = .ok found) :
    scanLeaf (some fun path => .answer (includePath path)) path leaf = .ok found := by
  unfold observeLeaf at observed
  unfold scanLeaf
  cases leaf with
  | symlink => cases observed
  | special =>
    dsimp only at observed
    split at observed
    · cases observed
    next left =>
      rw [Bool.not_eq_true] at left
      cases observed
      simp only [Option.map_some, Option.getD_some, left]
  | file node =>
    dsimp only at observed
    split at observed
    next left =>
      rw [Bool.not_eq_true'] at left
      cases observed
      simp only [Option.map_some, Option.getD_some, left]
    next taken =>
      rw [Bool.not_eq_true', Bool.not_eq_false] at taken
      split at observed
      · cases observed
      next single =>
        cases observed
        simp only [Option.map_some, Option.getD_some, taken, if_neg single]

theorem scanLeaves_of_observed {leaves : List (Parts × Leaf)} {entries : List SourceFile}
    (observed : observeLeaves includePath leaves = .ok entries) :
    scanLeaves (some fun path => .answer (includePath path)) leaves = .ok entries := by
  induction leaves generalizing entries with
  | nil =>
    cases observed
    rfl
  | cons first rest ih =>
    obtain ⟨path, leaf⟩ := first
    obtain ⟨found, here, more⟩ := bind_eq_ok.mp observed
    obtain ⟨others, there, same⟩ := bind_eq_ok.mp more
    cases same
    unfold scanLeaves
    rw [scanLeaf_of_observed here, ih there]
    rfl

/-- **An observation shows what a scan shows.** -/
theorem scan_of_observed {source : Configuration} {snapshot : LocalChangeSnapshot}
    (observed : observeLocalChangeSource includePath source = .ok snapshot) :
    scanRouted includePath source = .ok snapshot.entries := by
  obtain ⟨entries, walked, same⟩ := bind_eq_ok.mp observed
  cases same
  exact scanLeaves_of_observed walked

/-! ## What a capture reads -/

theorem scanLeaves_selected {leaves : List (Parts × Leaf)} {entries : List SourceFile}
    (scanned : scanLeaves (some fun path => .answer (includePath path)) leaves = .ok entries) :
    entries = (leaves.filterMap (pick includePath)).map sourceFile := by
  induction leaves generalizing entries with
  | nil =>
    cases scanned
    rfl
  | cons first rest ih =>
    obtain ⟨path, leaf⟩ := first
    obtain ⟨found, here, more⟩ := bind_eq_ok.mp scanned
    obtain ⟨others, there, same⟩ := bind_eq_ok.mp more
    cases same
    have picked : found = (pick includePath (path, leaf)).map sourceFile := by
      unfold scanLeaf at here
      unfold pick
      simp only [Option.map_some, Option.getD_some] at here
      cases taken : includePath (asPosix path) with
      | false =>
        rw [taken] at here
        cases here
        cases leaf <;> rfl
      | true =>
        rw [taken] at here
        cases leaf with
        | symlink => cases here
        | special => cases here
        | file node =>
          dsimp only at here
          split at here
          · cases here
          · cases here
            rfl
    rw [picked, ih there, List.filterMap_cons]
    cases pick includePath (path, leaf) <;> rfl

theorem scan_paths {source : Configuration} {entries : List SourceFile}
    (scanned : scanRouted includePath source = .ok entries) :
    entries.map (·.path) = (routedContent includePath source).map (·.path) := by
  rw [scanLeaves_selected scanned]
  unfold routedContent selected
  rw [List.map_map, List.map_map]
  rfl

/-- The path of a routed file is that of one file only. -/
theorem routedContent_unique {source : Configuration} {first second : RoutedFile}
    (here : first ∈ routedContent includePath source)
    (there : second ∈ routedContent includePath source) (same : first.path = second.path) :
    first = second := by
  obtain ⟨a, held, rfl⟩ := List.mem_map.mp here
  obtain ⟨b, held', rfl⟩ := List.mem_map.mp there
  have at_a := ((mem_selected source.distinct).mp held).1
  have at_b := ((mem_selected source.distinct).mp held').1
  have alike : a.1 = b.1 :=
    PathOrder.spell_injective (fun name named => (source.legal _ _ at_a name named).spelled)
      (fun name named => (source.legal _ _ at_b name named).spelled) same
  rw [alike, at_b] at at_a
  have node : b.2 = a.2 := Leaf.file.inj (FileTree.leaf.inj (Option.some.inj at_a))
  show (⟨asPosix a.1, a.2.mode, a.2.bytes⟩ : RoutedFile) = ⟨asPosix b.1, b.2.mode, b.2.bytes⟩
  rw [alike, node]

/-- A file that was read is one of the routed files, if its path is. -/
theorem readRouted_mem {source : Configuration} {entry : SourceFile} {file : RoutedFile}
    (read : readRouted source entry = .ok file)
    (routed : entry.path ∈ (routedContent includePath source).map (·.path)) :
    file ∈ routedContent includePath source ∧ file.path = entry.path := by
  obtain ⟨node, opened, same⟩ := bind_eq_ok.mp read
  cases same
  refine ⟨?_, rfl⟩
  obtain ⟨known, member, path⟩ := List.mem_map.mp routed
  obtain ⟨placed, held, rfl⟩ := List.mem_map.mp member
  have there := ((mem_selected source.distinct).mp held).1
  have found : node = placed.2 := by
    unfold openRegular at opened
    rw [← path, pathParts_asPosix (source.legal _ _ there), there] at opened
    dsimp only at opened
    split at opened
    · cases opened
    · split at opened
      · cases opened
      · cases opened
        rfl
  rw [found, ← path]
  exact member

theorem eq_of_map_eq {α β : Type} {f : α → β} {xs ys : List α} (same : xs.map f = ys.map f)
    (apart : ∀ x ∈ xs, ∀ y ∈ ys, f x = f y → x = y) : xs = ys := by
  induction xs generalizing ys with
  | nil => exact (List.map_eq_nil_iff.mp same.symm).symm
  | cons x xs ih =>
    cases ys with
    | nil => cases same
    | cons y ys =>
      rw [List.map_cons, List.map_cons, List.cons.injEq] at same
      rw [apart x List.mem_cons_self y List.mem_cons_self same.1, ih same.2 fun x here y there =>
        apart x (List.mem_cons_of_mem _ here) y (List.mem_cons_of_mem _ there)]

/-- **A capture whose files do not change while it reads them has read them all**, though it reads
each at a moment of its own. -/
theorem readAll_content {source : Configuration} {entries : List SourceFile}
    {files : List RoutedFile} (scanned : scanRouted includePath source = .ok entries)
    (reads : List.Forall₂ (fun entry file => ∃ present,
      routedContent includePath present = routedContent includePath source ∧
        readRouted present entry = .ok file) entries files) :
    files = routedContent includePath source := by
  have paths := scan_paths scanned
  have member : ∀ {entries files}, List.Forall₂ (fun entry file => ∃ present,
      routedContent includePath present = routedContent includePath source ∧
        readRouted present entry = .ok file) entries files →
      (∀ entry ∈ entries, entry.path ∈ (routedContent includePath source).map (·.path)) →
      files.map (·.path) = entries.map (·.path) ∧
        ∀ file ∈ files, file ∈ routedContent includePath source := by
    intro entries files reads routed
    induction reads with
    | nil => exact ⟨rfl, fun _ wrong => absurd wrong List.not_mem_nil⟩
    | cons here _ ih =>
      obtain ⟨present, same, read⟩ := here
      rw [List.forall_mem_cons] at routed
      obtain ⟨held, path⟩ := readRouted_mem read (same ▸ routed.1)
      obtain ⟨rest, members⟩ := ih routed.2
      rw [List.map_cons, List.map_cons, path, rest, List.forall_mem_cons]
      exact ⟨rfl, same ▸ held, members⟩
  obtain ⟨same, members⟩ := member reads fun entry there => by
    rw [← paths]
    exact List.mem_map_of_mem there
  refine eq_of_map_eq (same.trans paths) fun x here y there => ?_
  exact routedContent_unique (members x here) there

end

end SyncApp.LocalChange
