import Mathlib.Data.List.Lex
import Mathlib.Data.List.Nodup
import Mathlib.Data.List.Sort

/-!
# Directory trees, their walks, and trees built file by file

A directory tree is a file or a list of named entries; the order of the list is the order in which
the file system reports a directory and means nothing. `visit` meets the tree depth first with the
names of each directory sorted, and `walk` lists the files it meets. `insert` puts a file at a
path, making the missing directories above it, and refuses to overwrite anything.

What the modules above use:

- `visit_sorted`: a visit meets paths in the lexicographic order of their names;
- `mem_visit` and `mem_walk`: it meets exactly what the tree holds;
- `build_of_apart`: files whose paths are not below one another build a tree, and the tree holds
  exactly these;
- `HoldsExactly.walk_eq`: so a tree built from the files of a walk, in any order, walks the same
  way.

The names of a directory are distinct in every real tree; `Distinct` says so.
-/

set_option autoImplicit false

namespace Lib

/-- A file, or a directory with its entries. -/
inductive FileTree (ν φ : Type) where
  | leaf (file : φ)
  | node (entries : List (ν × FileTree ν φ))

namespace FileTree

variable {ν φ : Type}

/-- Induction over a tree: a directory's entries come before the directory. -/
@[elab_as_elim]
theorem induct {motive : FileTree ν φ → Prop} (leaf : ∀ file, motive (leaf file))
    (node : ∀ entries, (∀ name tree, (name, tree) ∈ entries → motive tree) →
      motive (node entries)) : ∀ tree, motive tree
  | .leaf file => leaf file
  | .node entries => node entries fun name tree mem =>
      have : sizeOf tree < sizeOf entries := by
        have := List.sizeOf_lt_of_mem mem
        simp only [Prod.mk.sizeOf_spec] at this
        omega
      induct leaf node tree
termination_by tree => sizeOf tree

/-- In every directory the names are distinct. -/
inductive Distinct : FileTree ν φ → Prop where
  | leaf (file : φ) : Distinct (leaf file)
  | node {entries : List (ν × FileTree ν φ)} (names : (entries.map Prod.fst).Nodup)
      (below : ∀ name tree, (name, tree) ∈ entries → Distinct tree) : Distinct (node entries)

section Ordered

variable [LinearOrder ν]

/-- What stands at a path. -/
def get? : FileTree ν φ → List ν → Option (FileTree ν φ)
  | tree, [] => some tree
  | leaf _, _ :: _ => none
  | node entries, name :: path => (entries.lookup name).bind (get? · path)

theorem lookup_cons_of_ne {entry : ν × FileTree ν φ} {entries : List (ν × FileTree ν φ)}
    {name : ν} (other : name ≠ entry.1) :
    (entry :: entries).lookup name = entries.lookup name := by
  have skipped : (name == entry.1) = false := beq_false_of_ne other
  rw [List.lookup_cons, skipped]

theorem lookup_of_mem {entries : List (ν × FileTree ν φ)} (names : (entries.map Prod.fst).Nodup)
    {name : ν} {tree : FileTree ν φ} (mem : (name, tree) ∈ entries) :
    entries.lookup name = some tree := by
  induction entries with
  | nil => cases mem
  | cons entry entries ih =>
    rw [List.map_cons, List.nodup_cons] at names
    rcases List.mem_cons.mp mem with rfl | later
    · simp only [List.lookup_cons_self]
    · have other : name ≠ entry.1 := fun same =>
        names.1 (same ▸ List.mem_map_of_mem (f := Prod.fst) later)
      rw [lookup_cons_of_ne other, ih names.2 later]

theorem mem_of_lookup {entries : List (ν × FileTree ν φ)} {name : ν} {tree : FileTree ν φ}
    (found : entries.lookup name = some tree) : (name, tree) ∈ entries := by
  obtain ⟨front, back, rfl, -⟩ := List.lookup_eq_some_iff.mp found
  exact List.mem_append_right front List.mem_cons_self

theorem Distinct.lookup {entries : List (ν × FileTree ν φ)} (distinct : Distinct (.node entries))
    {name : ν} {tree : FileTree ν φ} (found : entries.lookup name = some tree) : Distinct tree := by
  cases distinct with
  | node _ below => exact below name tree (mem_of_lookup found)

/-- A file has nothing below it. -/
theorem get?_below_leaf {tree : FileTree ν φ} {path more : List ν} {file : φ}
    (held : tree.get? path = some (leaf file)) {found : FileTree ν φ}
    (deeper : tree.get? (path ++ more) = some found) : more = [] := by
  induction path generalizing tree with
  | nil =>
    cases Option.some.inj held
    cases more with
    | nil => rfl
    | cons name more => cases deeper
  | cons name path ih =>
    cases tree with
    | leaf _ => cases held
    | node entries =>
      simp only [get?, List.cons_append] at held deeper
      obtain ⟨child, found, held⟩ := Option.bind_eq_some_iff.mp held
      rw [found] at deeper
      exact ih held deeper

/-! ## Insertion -/

/-- Sets what a directory holds under a name. -/
def upsert (name : ν) (tree : FileTree ν φ) : List (ν × FileTree ν φ) → List (ν × FileTree ν φ)
  | [] => [(name, tree)]
  | entry :: entries =>
    if name = entry.1 then (name, tree) :: entries else entry :: upsert name tree entries

theorem lookup_upsert {name other : ν} {tree : FileTree ν φ} {entries : List (ν × FileTree ν φ)} :
    (upsert name tree entries).lookup other =
      if other = name then some tree else entries.lookup other := by
  induction entries with
  | nil =>
    by_cases same : other = name
    · simp only [upsert, same, List.lookup_cons_self, if_true]
    · rw [upsert, lookup_cons_of_ne same, if_neg same]
  | cons entry entries ih =>
    unfold upsert
    by_cases here : name = entry.1
    · by_cases same : other = name
      · simp only [here, same, List.lookup_cons_self, if_true]
      · rw [if_pos here, if_neg same, lookup_cons_of_ne same, lookup_cons_of_ne (here ▸ same)]
    · rw [if_neg here]
      by_cases same : other = entry.1
      · subst same
        rw [if_neg (Ne.symm here), List.lookup_cons_self, List.lookup_cons_self]
      · rw [lookup_cons_of_ne same, lookup_cons_of_ne same, ih]

theorem names_upsert {name : ν} {tree : FileTree ν φ} {entries : List (ν × FileTree ν φ)}
    {other : ν} : other ∈ (upsert name tree entries).map Prod.fst ↔
      other = name ∨ other ∈ entries.map Prod.fst := by
  induction entries with
  | nil => simp [upsert]
  | cons entry entries ih =>
    unfold upsert
    by_cases here : name = entry.1
    · rw [if_pos here]
      simp [here]
    · rw [if_neg here]
      simp only [List.map_cons, List.mem_cons, ih]
      tauto

theorem Distinct.upsert {name : ν} {tree : FileTree ν φ} {entries : List (ν × FileTree ν φ)}
    (distinct : Distinct (.node entries)) (below : Distinct tree) :
    Distinct (.node (FileTree.upsert name tree entries)) := by
  cases distinct with
  | node names children =>
    induction entries with
    | nil =>
      refine .node (List.nodup_singleton _) fun other child mem => ?_
      cases List.mem_singleton.mp mem
      exact below
    | cons entry entries ih =>
      rw [List.map_cons, List.nodup_cons] at names
      have rest : ∀ other child, (other, child) ∈ entries → Distinct child :=
        fun other child mem => children other child (List.mem_cons_of_mem _ mem)
      unfold FileTree.upsert
      by_cases here : name = entry.1
      · rw [if_pos here]
        refine .node ?_ fun other child mem => ?_
        · rw [List.map_cons, List.nodup_cons]
          exact ⟨here ▸ names.1, names.2⟩
        · rcases List.mem_cons.mp mem with same | later
          · cases same
            exact below
          · exact rest other child later
      · rw [if_neg here]
        cases ih names.2 rest with
        | node names' children' =>
          refine .node ?_ fun other child mem => ?_
          · rw [List.map_cons, List.nodup_cons]
            refine ⟨fun mem => ?_, names'⟩
            rcases names_upsert.mp mem with same | mem
            · exact here same.symm
            · exact names.1 mem
          · rcases List.mem_cons.mp mem with same | later
            · exact children other child (same ▸ List.mem_cons_self)
            · exact children' other child later

/-- Puts a file at a path, making the directories above it. Nothing is overwritten: the insertion
is refused where something stands at the path, or a file stands above it. -/
def insert (file : φ) : List ν → FileTree ν φ → Option (FileTree ν φ)
  | [], _ => none
  | _ :: _, leaf _ => none
  | [name], node entries =>
    if (entries.lookup name).isSome then none else some (node (upsert name (leaf file) entries))
  | name :: next :: path, node entries =>
    (insert file (next :: path) ((entries.lookup name).getD (node []))).map
      fun child => node (upsert name child entries)

theorem Distinct.insert {file : φ} {path : List ν} {tree tree' : FileTree ν φ}
    (distinct : Distinct tree) (inserted : FileTree.insert file path tree = some tree') :
    Distinct tree' := by
  induction path generalizing tree tree' with
  | nil => cases inserted
  | cons name path ih =>
    cases tree with
    | leaf _ => simp [FileTree.insert] at inserted
    | node entries =>
      cases path with
      | nil =>
        simp only [FileTree.insert] at inserted
        split at inserted
        · cases inserted
        · cases inserted
          exact distinct.upsert (.leaf file)
      | cons next path =>
        simp only [FileTree.insert] at inserted
        obtain ⟨child, deeper, rfl⟩ := Option.map_eq_some_iff.mp inserted
        refine distinct.upsert (ih ?_ deeper)
        cases found : entries.lookup name with
        | none => exact .node List.nodup_nil fun _ _ mem => nomatch mem
        | some below => exact distinct.lookup found

/-- After an insertion the tree holds the file at its path, and every other file as before. -/
theorem get?_insert_leaf {file : φ} {path : List ν} {tree tree' : FileTree ν φ}
    (inserted : insert file path tree = some tree') {other : List ν} {held : φ} :
    tree'.get? other = some (leaf held) ↔
      (other = path ∧ held = file) ∨ tree.get? other = some (leaf held) := by
  induction path generalizing tree tree' other with
  | nil => cases inserted
  | cons name path ih =>
    cases tree with
    | leaf _ => simp [insert] at inserted
    | node entries =>
      cases path with
      | nil =>
        simp only [insert] at inserted
        split at inserted
        · cases inserted
        next free =>
          cases inserted
          have absent : entries.lookup name = none := by
            rwa [Option.not_isSome_iff_eq_none] at free
          cases other with
          | nil => simp [get?]
          | cons first rest =>
            simp only [get?, lookup_upsert]
            by_cases same : first = name
            · subst same
              cases rest <;> simp [get?, absent, eq_comm]
            · simp [same]
      | cons next path =>
        simp only [insert] at inserted
        obtain ⟨child, deeper, rfl⟩ := Option.map_eq_some_iff.mp inserted
        cases other with
        | nil => simp [get?]
        | cons first rest =>
          simp only [get?, lookup_upsert]
          by_cases same : first = name
          · subst same
            rw [if_pos rfl, Option.bind_some, ih deeper]
            cases found : entries.lookup first with
            | none => cases rest <;> simp [get?]
            | some below => simp
          · simp [same]

/-- After an insertion the directories are those there were, and those above the file. -/
theorem get?_insert_node {file : φ} {path : List ν} {tree tree' : FileTree ν φ}
    (inserted : insert file path tree = some tree') (other : List ν) :
    (∃ entries, tree'.get? other = some (node entries)) ↔
      (∃ entries, tree.get? other = some (node entries)) ∨ ∃ next rest, path = other ++ next :: rest := by
  induction path generalizing tree tree' other with
  | nil => cases inserted
  | cons name path ih =>
    cases tree with
    | leaf _ => simp [insert] at inserted
    | node entries =>
      cases path with
      | nil =>
        simp only [insert] at inserted
        split at inserted
        · cases inserted
        next free =>
          cases inserted
          have absent : entries.lookup name = none := by
            rwa [Option.not_isSome_iff_eq_none] at free
          cases other with
          | nil => simp [get?]
          | cons first rest =>
            simp only [get?, lookup_upsert]
            by_cases same : first = name
            · subst same
              cases rest <;> simp [get?, absent]
            · simp [same]
      | cons next path =>
        simp only [insert] at inserted
        obtain ⟨child, deeper, rfl⟩ := Option.map_eq_some_iff.mp inserted
        cases other with
        | nil => simp [get?]
        | cons first rest =>
          simp only [get?, lookup_upsert]
          by_cases same : first = name
          · subst same
            rw [if_pos rfl, Option.bind_some, ih deeper]
            cases found : entries.lookup first with
            | none => cases rest <;> simp [get?]
            | some below => simp
          · simp [same, Ne.symm same]

/-- An insertion is accepted where nothing stands at the path and no file above it. -/
theorem insert_isSome (file : φ) {path : List ν} {entries : List (ν × FileTree ν φ)}
    (more : path ≠ []) (free : (node entries).get? path = none)
    (above : ∀ front back held, path = front ++ back →
      (node entries).get? front ≠ some (leaf held)) :
    ∃ tree, insert file path (node entries) = some tree := by
  induction path generalizing entries with
  | nil => exact absurd rfl more
  | cons name path ih =>
    cases path with
    | nil =>
      have absent : entries.lookup name = none := by
        cases found : entries.lookup name with
        | none => rfl
        | some below => simp [get?, found] at free
      refine ⟨node (upsert name (leaf file) entries), ?_⟩
      simp only [insert, absent, Option.isSome_none, Bool.false_eq_true, if_false]
    | cons next path =>
      cases found : entries.lookup name with
      | none =>
        have fresh : (node ([] : List (ν × FileTree ν φ))).get? (next :: path) = none := rfl
        obtain ⟨child, deeper⟩ := ih (List.cons_ne_nil _ _) fresh fun front back held split => by
          cases front <;> simp [get?]
        refine ⟨node (upsert name child entries), ?_⟩
        simp only [insert, found, Option.getD_none, deeper, Option.map_some]
      | some below =>
        cases below with
        | leaf held =>
          refine absurd ?_ (above [name] (next :: path) held rfl)
          simp [get?, found]
        | node children =>
          simp only [get?, found, Option.bind_some] at free
          obtain ⟨child, deeper⟩ := ih (List.cons_ne_nil _ _) free fun front back held split => by
            have clear := above (name :: front) back held (by rw [split, List.cons_append])
            simpa only [get?, found, Option.bind_some] using clear
          refine ⟨node (upsert name child entries), ?_⟩
          simp only [insert, found, Option.getD_some, deeper, Option.map_some]

/-! ## Trees built from files -/

/-- The tree of a list of files, each inserted in turn. -/
def buildOn : FileTree ν φ → List (List ν × φ) → Option (FileTree ν φ)
  | tree, [] => some tree
  | tree, (path, file) :: files => (insert file path tree).bind (buildOn · files)

def build (files : List (List ν × φ)) : Option (FileTree ν φ) := buildOn (node []) files

/-- The paths are not empty, and none is the beginning of another. -/
structure Apart (files : List (List ν × φ)) : Prop where
  nonempty : ∀ path file, (path, file) ∈ files → path ≠ []
  apart : files.Pairwise fun a b => ¬ a.1 <+: b.1 ∧ ¬ b.1 <+: a.1

/-- The tree holds the files of the list and nothing else, and no directory without a file. -/
structure HoldsExactly (tree : FileTree ν φ) (files : List (List ν × φ)) : Prop where
  distinct : Distinct tree
  root : ∃ entries, tree = node entries
  leaves : ∀ path file, tree.get? path = some (leaf file) ↔ (path, file) ∈ files
  nodes : ∀ path, (∃ entries, tree.get? path = some (node entries)) →
    path = [] ∨ ∃ next rest file, (path ++ next :: rest, file) ∈ files

theorem HoldsExactly.insert_fresh {tree : FileTree ν φ} {files : List (List ν × φ)} {path : List ν}
    {file : φ} (holds : HoldsExactly tree files) (more : path ≠ [])
    (fresh : ∀ other held, (other, held) ∈ files → ¬ other <+: path ∧ ¬ path <+: other) :
    ∃ tree', insert file path tree = some tree' ∧ HoldsExactly tree' (files ++ [(path, file)]) := by
  obtain ⟨entries, rfl⟩ := holds.root
  have free : (node entries).get? path = none := by
    cases found : (node entries).get? path with
    | none => rfl
    | some below =>
      cases below with
      | leaf held =>
        exact absurd (List.prefix_refl _) (fresh path held ((holds.leaves path held).mp found)).1
      | node children =>
        rcases holds.nodes path ⟨children, found⟩ with empty | ⟨next, rest, held, mem⟩
        · exact absurd empty more
        · exact absurd (List.prefix_append _ _) (fresh _ held mem).2
  obtain ⟨tree', inserted⟩ := insert_isSome file more free fun front back held split found =>
    (fresh front held ((holds.leaves front held).mp found)).1 (split ▸ List.prefix_append _ _)
  refine ⟨tree', inserted, holds.distinct.insert inserted, ?_, fun other held => ?_, fun other held => ?_⟩
  · obtain ⟨entries', found⟩ := (get?_insert_node inserted []).mpr (.inl ⟨entries, rfl⟩)
    exact ⟨entries', Option.some.inj found⟩
  · rw [get?_insert_leaf inserted, holds.leaves, List.mem_append, List.mem_singleton, Prod.mk.injEq]
    exact or_comm
  · rcases (get?_insert_node inserted _).mp held with before | ⟨next, rest, below⟩
    · rcases holds.nodes other before with empty | ⟨next, rest, file', mem⟩
      · exact .inl empty
      · exact .inr ⟨next, rest, file', List.mem_append_left _ mem⟩
    · exact .inr ⟨next, rest, file, List.mem_append_right _ (below ▸ List.mem_singleton_self _)⟩

theorem buildOn_of_apart : ∀ {files done : List (List ν × φ)} {tree : FileTree ν φ},
    HoldsExactly tree done → Apart (done ++ files) →
      ∃ tree', buildOn tree files = some tree' ∧ HoldsExactly tree' (done ++ files)
  | [], done, tree, holds, _ => ⟨tree, rfl, by rwa [List.append_nil]⟩
  | (path, file) :: files, done, tree, holds, apart => by
    have mem : (path, file) ∈ done ++ (path, file) :: files :=
      List.mem_append_right _ List.mem_cons_self
    have fresh : ∀ other held, (other, held) ∈ done → ¬ other <+: path ∧ ¬ path <+: other :=
      fun other held before => (List.pairwise_append.mp apart.apart).2.2 (other, held) before
        (path, file) List.mem_cons_self
    obtain ⟨tree', inserted, holds'⟩ := holds.insert_fresh (apart.nonempty path file mem) fresh
    have shifted : done ++ (path, file) :: files = (done ++ [(path, file)]) ++ files := by
      rw [List.append_assoc, List.singleton_append]
    rw [shifted] at apart ⊢
    obtain ⟨tree'', built, holds''⟩ := buildOn_of_apart holds' apart
    exact ⟨tree'', by rw [buildOn, inserted, Option.bind_some, built], holds''⟩

/-- **Files apart from one another build a tree**, and the tree holds exactly these. -/
theorem build_of_apart {files : List (List ν × φ)} (apart : Apart files) :
    ∃ tree, build files = some tree ∧ HoldsExactly tree files := by
  have empty : HoldsExactly (node ([] : List (ν × FileTree ν φ))) [] := by
    refine HoldsExactly.mk (.node List.nodup_nil fun _ _ mem => nomatch mem) ⟨[], rfl⟩
      (fun path file => ?_) fun path held => ?_
    · cases path <;> simp [get?]
    · cases path with
      | nil => exact .inl rfl
      | cons name path => simp [get?] at held
  exact buildOn_of_apart empty apart

/-! ## Walks -/

/-- The file a tree is, if it is one. -/
def file? : FileTree ν φ → Option φ
  | leaf file => some file
  | node _ => none

/-- Lists what was found in the entries of a directory, entry by entry in name order. -/
def gather {β : Type} (entries : List (ν × List (List ν × β))) : List (List ν × β) :=
  (entries.insertionSort fun a b => a.1 ≤ b.1).flatMap fun entry =>
    entry.2.map fun found => (entry.1 :: found.1, found.2)

mutual

/-- A depth-first visit with the names of each directory sorted, a directory before what is in it.
An entry's own visit is a value, so it may be taken before the sort puts the entries in order. -/
def visit : FileTree ν φ → List (List ν × Option φ)
  | leaf file => [([], some file)]
  | node entries => ([], none) :: gather (visitEntries entries)

def visitEntries : List (ν × FileTree ν φ) → List (ν × List (List ν × Option φ))
  | [] => []
  | (name, tree) :: entries => (name, visit tree) :: visitEntries entries

end

/-- The files of a visit. -/
def walk (tree : FileTree ν φ) : List (List ν × φ) :=
  tree.visit.filterMap fun found => found.2.map fun file => (found.1, file)

theorem visitEntries_eq_map (entries : List (ν × FileTree ν φ)) :
    visitEntries entries = entries.map fun entry => (entry.1, visit entry.2) := by
  induction entries with
  | nil => rfl
  | cons entry entries ih => rw [visitEntries, ih, List.map_cons]

theorem mem_gather {β : Type} {entries : List (ν × List (List ν × β))} {path : List ν} {item : β} :
    (path, item) ∈ gather entries ↔
      ∃ name rest items, path = name :: rest ∧ (name, items) ∈ entries ∧ (rest, item) ∈ items := by
  unfold gather
  simp only [List.mem_flatMap, List.mem_insertionSort, List.mem_map, Prod.mk.injEq]
  constructor
  · rintro ⟨⟨name, items⟩, mem, ⟨rest, held⟩, found, same, rfl⟩
    exact ⟨name, rest, items, same.symm, mem, found⟩
  · rintro ⟨name, rest, items, same, mem, found⟩
    exact ⟨(name, items), mem, (rest, item), found, same.symm, rfl⟩

/-- **A visit meets exactly what stands in the tree.** -/
theorem mem_visit {tree : FileTree ν φ} (distinct : Distinct tree) {path : List ν}
    {item : Option φ} :
    (path, item) ∈ tree.visit ↔ ∃ found, tree.get? path = some found ∧ found.file? = item := by
  induction tree using induct generalizing path with
  | leaf held =>
    cases path with
    | nil => simp [visit, get?, file?, eq_comm]
    | cons name path => simp [visit, get?]
  | node entries ih =>
    rw [visit, List.mem_cons, mem_gather, visitEntries_eq_map]
    cases distinct with
    | node names below =>
      cases path with
      | nil => simp [get?, file?, eq_comm]
      | cons name path =>
        simp only [get?, Prod.mk.injEq, List.cons_ne_nil, false_and, false_or]
        constructor
        · rintro ⟨name', rest, items, same, mem, found⟩
          obtain ⟨rfl, rfl⟩ := List.cons.inj same
          obtain ⟨⟨name, tree⟩, child, same⟩ := List.mem_map.mp mem
          cases same
          obtain ⟨held, stands, kind⟩ := (ih name tree child (below name tree child)).mp found
          exact ⟨held, by rw [lookup_of_mem names child, Option.bind_some, stands], kind⟩
        · rintro ⟨held, stands, kind⟩
          obtain ⟨tree, found, stands⟩ := Option.bind_eq_some_iff.mp stands
          have child := mem_of_lookup found
          exact ⟨name, path, tree.visit, rfl, List.mem_map.mpr ⟨(name, tree), child, rfl⟩,
            (ih name tree child (below name tree child)).mpr ⟨held, stands, kind⟩⟩

/-- **A walk meets exactly the files the tree holds.** -/
theorem mem_walk {tree : FileTree ν φ} (distinct : Distinct tree) {path : List ν} {file : φ} :
    (path, file) ∈ tree.walk ↔ tree.get? path = some (leaf file) := by
  unfold walk
  rw [List.mem_filterMap]
  constructor
  · rintro ⟨⟨path', item⟩, mem, kept⟩
    obtain ⟨file', rfl, same⟩ := Option.map_eq_some_iff.mp kept
    cases same
    obtain ⟨found, stands, kind⟩ := (mem_visit distinct).mp mem
    cases found with
    | leaf held =>
      cases kind
      exact stands
    | node _ => cases kind
  · intro stands
    exact ⟨(path, some file), (mem_visit distinct).mpr ⟨leaf file, stands, rfl⟩, rfl⟩

/-- Entries with distinct names, sorted, have names in strict order. -/
theorem sorted_names {β : Type} {entries : List (ν × β)} (names : (entries.map Prod.fst).Nodup) :
    (entries.insertionSort fun a b => a.1 ≤ b.1).Pairwise fun a b => a.1 < b.1 := by
  have total : Std.Total fun a b : ν × β => a.1 ≤ b.1 := ⟨fun a b => le_total a.1 b.1⟩
  have trans : IsTrans (ν × β) fun a b => a.1 ≤ b.1 := ⟨fun _ _ _ => le_trans⟩
  have ordered := List.pairwise_insertionSort (fun a b : ν × β => a.1 ≤ b.1) entries
  have distinct : (entries.insertionSort fun a b => a.1 ≤ b.1).Pairwise fun a b => a.1 ≠ b.1 := by
    have perm := (List.perm_insertionSort (fun a b : ν × β => a.1 ≤ b.1) entries).map Prod.fst
    exact List.pairwise_map.mp (perm.nodup_iff.mpr names)
  exact List.Pairwise.imp₂ (fun a b le ne => lt_of_le_of_ne le ne) ordered distinct

/-- **A visit meets paths in the lexicographic order of their names.** -/
theorem visit_sorted {tree : FileTree ν φ} (distinct : Distinct tree) :
    tree.visit.Pairwise fun a b => a.1 < b.1 := by
  induction tree using induct with
  | leaf file => exact List.pairwise_singleton _ _
  | node entries ih =>
    cases distinct with
    | node names below =>
      have names' : ((visitEntries entries).map Prod.fst).Nodup := by
        rw [visitEntries_eq_map, List.map_map]
        exact names
      rw [visit, List.pairwise_cons]
      refine ⟨fun ⟨path, item⟩ mem => ?_, ?_⟩
      · obtain ⟨name, rest, items, rfl, -⟩ := mem_gather.mp mem
        exact List.nil_lt_cons _ _
      rw [gather, List.pairwise_flatMap]
      constructor
      · rintro ⟨name, items⟩ mem
        rw [List.mem_insertionSort, visitEntries_eq_map] at mem
        obtain ⟨⟨name', tree⟩, child, same⟩ := List.mem_map.mp mem
        cases same
        rw [List.pairwise_map]
        exact (ih name' tree child (below name' tree child)).imp fun less =>
          List.cons_lt_cons_iff.mpr (.inr ⟨rfl, less⟩)
      · refine (sorted_names names').imp fun {a b} less found mem found' mem' => ?_
        obtain ⟨one, -, rfl⟩ := List.mem_map.mp mem
        obtain ⟨other, -, rfl⟩ := List.mem_map.mp mem'
        exact List.cons_lt_cons_iff.mpr (.inl less)

theorem walk_sorted {tree : FileTree ν φ} (distinct : Distinct tree) :
    tree.walk.Pairwise fun a b => a.1 < b.1 := by
  refine List.Pairwise.filterMap _ (fun a b less found kept found' kept' => ?_)
    (visit_sorted distinct)
  obtain ⟨file, -, rfl⟩ := Option.map_eq_some_iff.mp kept
  obtain ⟨file', -, rfl⟩ := Option.map_eq_some_iff.mp kept'
  exact less

/-- Two listings in strict path order with the same members are one listing. -/
theorem eq_of_sorted {β : Type} {first second : List (List ν × β)}
    (one : first.Pairwise fun a b => a.1 < b.1) (other : second.Pairwise fun a b => a.1 < b.1)
    (same : ∀ found, found ∈ first ↔ found ∈ second) : first = second := by
  have nodup : ∀ {files : List (List ν × β)}, (files.Pairwise fun a b => a.1 < b.1) →
      files.Nodup := fun sorted => sorted.imp fun less eq => absurd (eq ▸ less) (lt_irrefl _)
  have perm : first.Perm second := (List.perm_ext_iff_of_nodup (nodup one) (nodup other)).mpr same
  exact perm.eq_of_pairwise (fun a b _ _ ab ba => absurd (lt_trans ab ba) (lt_irrefl _)) one other

/-- A tree that holds exactly the files of a listing in path order walks as that listing. -/
theorem HoldsExactly.walk_eq {tree : FileTree ν φ} {files sorted : List (List ν × φ)}
    (holds : HoldsExactly tree files) (perm : sorted.Perm files)
    (ordered : sorted.Pairwise fun a b => a.1 < b.1) : tree.walk = sorted := by
  refine eq_of_sorted (walk_sorted holds.distinct) ordered fun found => ?_
  rw [mem_walk holds.distinct, holds.leaves, perm.mem_iff]

/-- The files of a directory are apart from one another. -/
theorem walk_apart {entries : List (ν × FileTree ν φ)} (distinct : Distinct (.node entries)) :
    Apart (node entries).walk := by
  have held : ∀ path file, (path, file) ∈ (node entries).walk →
      (node entries).get? path = some (leaf file) := fun path file => (mem_walk distinct).mp
  -- a file below another file's path is that file
  have below : ∀ {a b : List ν × φ}, a ∈ (node entries).walk → b ∈ (node entries).walk →
      a.1 <+: b.1 → a.1 = b.1 := by
    rintro a b mem mem' ⟨more, grown⟩
    have deeper := held b.1 b.2 mem'
    rw [← grown] at deeper
    rw [← grown, get?_below_leaf (held a.1 a.2 mem) deeper, List.append_nil]
  refine ⟨fun path file mem empty => ?_, ?_⟩
  · have root := held path file mem
    rw [empty] at root
    cases root
  · refine (walk_sorted distinct).imp_of_mem fun {a b} mem mem' less => ⟨fun under => ?_, fun under => ?_⟩
    · exact absurd (below mem mem' under) (ne_of_lt less)
    · exact absurd (below mem' mem under) (ne_of_gt less)

end Ordered

end FileTree

end Lib
