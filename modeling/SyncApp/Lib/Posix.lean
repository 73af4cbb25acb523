import Mathlib.Logic.Function.Basic

/-!
# A file system of inodes

Directories map names to inode numbers and a table maps inode numbers to what they are, so two
names may share a file, an open file or directory is its inode number, and a name can be bound to
another inode while the old one stays open. An inode number stands for a device and a number on it.

The operations are those a program uses on one directory it holds open. Each is atomic and fails
with an error number and no effect. Inodes are never reclaimed; one without a name is unreachable
from every directory.

`resolve` walks directories from a root, `view` says what stands at a path. A file system is known
by its `entries`, by which inodes are directories, and by what the others are (`leaf`); each
operation is described by what it does to these three, and a change that binds names to files only
leaves every `resolve` alone (`resolve_congr`).
-/

set_option autoImplicit false

namespace Lib

/-- The error numbers that are told apart; `nosys` is any that says a call is not supported. -/
inductive Errno where
  | noent
  | exist
  | loop
  | notdir
  | isdir
  | nosys
  | other
deriving DecidableEq

/-- What an inode is. -/
inductive Node (ν : Type) where
  | file (mode : Nat) (bytes : List UInt8)
  | directory (entries : ν → Option Nat)
  | symlink
  | special

/-- The mode of a regular file. -/
def Node.regularMode {ν : Type} : Node ν → Option Nat
  | .file mode _ => some mode
  | _ => none

/-- An inode table, and a number above every one in use. -/
structure FileSystem (ν : Type) where
  node : Nat → Option (Node ν)
  next : Nat

namespace FileSystem

variable {ν : Type}

/-- The entries of a directory; none where the inode is no directory. -/
def entries (fs : FileSystem ν) (dir : Nat) : ν → Option Nat :=
  match fs.node dir with
  | some (.directory entries) => entries
  | _ => fun _ => none

/-- The inode a name of a directory is bound to, and what it is. -/
def lookup (fs : FileSystem ν) (dir : Nat) (name : ν) : Option (Nat × Node ν) :=
  (fs.entries dir name).bind fun ino => (fs.node ino).map fun node => (ino, node)

/-- The inode is a directory. -/
def isDirectory (fs : FileSystem ν) (ino : Nat) : Bool :=
  match fs.node ino with
  | some (.directory _) => true
  | _ => false

/-- What an inode is, unless it is a directory. -/
def leaf (fs : FileSystem ν) (ino : Nat) : Option (Node ν) :=
  if fs.isDirectory ino then none else fs.node ino

/-- Numbers from `next` on are free, and every name is bound to an inode in use. -/
structure Sane (fs : FileSystem ν) : Prop where
  fresh : ∀ ino, fs.next ≤ ino → fs.node ino = none
  bound : ∀ dir name ino, fs.entries dir name = some ino → (fs.node ino).isSome = true

/-! ## Reading -/

/-- `open` with `O_DIRECTORY | O_NOFOLLOW`. -/
def openDirectory (fs : FileSystem ν) (dir : Nat) (name : ν) : Except Errno Nat :=
  match fs.lookup dir name with
  | none => .error .noent
  | some (ino, .directory _) => .ok ino
  | some _ => .error .notdir

/-- `stat` without following a link: the inode and what it is. -/
def lstat (fs : FileSystem ν) (dir : Nat) (name : ν) : Except Errno (Nat × Node ν) :=
  match fs.lookup dir name with
  | none => .error .noent
  | some found => .ok found

/-- `open` for reading with `O_NOFOLLOW`. -/
def openRead (fs : FileSystem ν) (dir : Nat) (name : ν) : Except Errno Nat :=
  match fs.lookup dir name with
  | none => .error .noent
  | some (_, .symlink) => .error .loop
  | some (ino, _) => .ok ino

/-- The directory a list of names leads to. -/
def resolve (fs : FileSystem ν) (dir : Nat) : List ν → Option Nat
  | [] => some dir
  | name :: names =>
    match fs.openDirectory dir name with
    | .ok next => resolve fs next names
    | .error _ => none

/-- What stands at a path, without inode numbers. -/
inductive View where
  | file (mode : Nat) (bytes : List UInt8)
  | directory
  | symlink
  | special
deriving DecidableEq

def Node.view : Node ν → View
  | .file mode bytes => .file mode bytes
  | .directory _ => .directory
  | .symlink => .symlink
  | .special => .special

/-- What stands at the path `front ++ [name]` below a directory. -/
def view (fs : FileSystem ν) (root : Nat) (front : List ν) (name : ν) : Option View :=
  (fs.resolve root front).bind fun dir => (fs.lookup dir name).map fun found => Node.view found.2

/-- Every directory below a root has one path: none has a second name. -/
def OnePath (fs : FileSystem ν) (root : Nat) : Prop :=
  ∀ path path' dir, fs.resolve root path = some dir → fs.resolve root path' = some dir →
    path = path'

section Read

variable {fs fs' : FileSystem ν} {dir ino : Nat} {name : ν} {node : Node ν}

theorem isDirectory_congr (same : fs'.node ino = fs.node ino) :
    fs'.isDirectory ino = fs.isDirectory ino := by
  unfold isDirectory
  rw [same]

theorem entries_congr (same : fs'.node ino = fs.node ino) :
    fs'.entries ino = fs.entries ino := by
  unfold entries
  rw [same]

theorem isDirectory_of_directory {held : ν → Option Nat}
    (directory : fs.node ino = some (.directory held)) : fs.isDirectory ino = true := by
  unfold isDirectory
  rw [directory]

theorem isDirectory_of_file {mode : Nat} {bytes : List UInt8}
    (file : fs.node ino = some (.file mode bytes)) : fs.isDirectory ino = false := by
  unfold isDirectory
  rw [file]

theorem entries_of_directory {held : ν → Option Nat}
    (directory : fs.node ino = some (.directory held)) : fs.entries ino = held := by
  unfold entries
  rw [directory]

theorem node_of_isDirectory (directory : fs.isDirectory ino = true) :
    fs.node ino = some (.directory (fs.entries ino)) := by
  unfold isDirectory at directory
  split at directory
  next held at_node => rw [entries_of_directory at_node, at_node]
  next => cases directory

theorem entries_of_not_directory (file : fs.isDirectory ino = false) (n : ν) :
    fs.entries ino n = none := by
  unfold entries
  cases held : fs.node ino with
  | none => rfl
  | some node =>
    cases node with
    | directory entries => rw [isDirectory_of_directory held] at file; cases file
    | file => rfl
    | symlink => rfl
    | special => rfl

theorem isDirectory_of_entry (bound : fs.entries dir name = some ino) :
    fs.isDirectory dir = true := by
  rw [← Bool.not_eq_false]
  intro file
  rw [entries_of_not_directory file] at bound
  cases bound

theorem isDirectory_fresh (sane : fs.Sane) : fs.isDirectory fs.next = false := by
  unfold isDirectory
  rw [sane.fresh fs.next (Nat.le_refl _)]

theorem leaf_eq_some : fs.leaf ino = some node ↔
    fs.node ino = some node ∧ fs.isDirectory ino = false := by
  unfold leaf
  cases fs.isDirectory ino with
  | true => simp
  | false => simp

theorem leaf_of_file {mode : Nat} {bytes : List UInt8}
    (file : fs.node ino = some (.file mode bytes)) : fs.leaf ino = some (.file mode bytes) :=
  leaf_eq_some.mpr ⟨file, isDirectory_of_file file⟩

theorem lookup_eq_some : fs.lookup dir name = some (ino, node) ↔
    fs.entries dir name = some ino ∧ fs.node ino = some node := by
  unfold lookup
  cases fs.entries dir name with
  | none => simp
  | some found =>
    simp only [Option.bind_some, Option.map_eq_some_iff, Prod.mk.injEq, Option.some.injEq]
    constructor
    · rintro ⟨node', held, rfl, rfl⟩
      exact ⟨rfl, held⟩
    · rintro ⟨rfl, held⟩
      exact ⟨node, held, rfl, rfl⟩

theorem lookup_eq_none (sane : fs.Sane) :
    fs.lookup dir name = none ↔ fs.entries dir name = none := by
  unfold lookup
  cases bound : fs.entries dir name with
  | none => simp
  | some ino =>
    obtain ⟨node, held⟩ := Option.isSome_iff_exists.mp (sane.bound dir name ino bound)
    simp [held]

theorem openDirectory_eq_ok : fs.openDirectory dir name = .ok ino ↔
    fs.entries dir name = some ino ∧ fs.isDirectory ino = true := by
  unfold openDirectory
  constructor
  · intro opened
    split at opened
    next => cases opened
    next found held at_name =>
      cases opened
      obtain ⟨bound, directory⟩ := lookup_eq_some.mp at_name
      exact ⟨bound, isDirectory_of_directory directory⟩
    next => cases opened
  · rintro ⟨bound, directory⟩
    have found := lookup_eq_some.mpr ⟨bound, node_of_isDirectory directory⟩
    rw [found]

theorem resolve_cons (names : List ν) : fs.resolve dir (name :: names) =
    match fs.openDirectory dir name with
    | .ok next => fs.resolve next names
    | .error _ => none := rfl

/-- Paths lead to the same directories when each name does. -/
theorem resolve_congr (same : ∀ dir name ino,
      fs'.openDirectory dir name = .ok ino ↔ fs.openDirectory dir name = .ok ino) :
    ∀ (path : List ν) (dir : Nat), fs'.resolve dir path = fs.resolve dir path
  | [], _ => rfl
  | name :: path, dir => by
    rw [resolve_cons, resolve_cons]
    cases opened : fs.openDirectory dir name with
    | ok next =>
      rw [(same dir name next).mpr opened]
      exact resolve_congr same path next
    | error errno =>
      cases opened' : fs'.openDirectory dir name with
      | ok next =>
        rw [(same dir name next).mp opened'] at opened
        cases opened
      | error _ => rfl

theorem isDirectory_of_resolve {root : Nat} (directory : fs.isDirectory root = true) :
    ∀ {path : List ν} {dir : Nat}, fs.resolve root path = some dir → fs.isDirectory dir = true := by
  intro path
  induction path generalizing root with
  | nil =>
    intro dir found
    cases found
    exact directory
  | cons name path ih =>
    intro dir found
    rw [resolve_cons] at found
    split at found
    next next opened => exact ih (openDirectory_eq_ok.mp opened).2 found
    next => cases found

theorem resolve_append (front back : List ν) : fs.resolve dir (front ++ back) =
    (fs.resolve dir front).bind fun next => fs.resolve next back := by
  induction front generalizing dir with
  | nil => rfl
  | cons name front ih =>
    rw [List.cons_append, resolve_cons, resolve_cons]
    cases fs.openDirectory dir name with
    | ok next => exact ih
    | error _ => rfl

/-- What stands in a directory that a path leads to. -/
theorem view_eq_some {front : List ν} {name : ν} {standing : View} :
    fs.view dir front name = some standing ↔ ∃ next ino node, fs.resolve dir front = some next ∧
      fs.lookup next name = some (ino, node) ∧ Node.view node = standing := by
  unfold view
  rw [Option.bind_eq_some_iff]
  constructor
  · rintro ⟨next, resolved, found⟩
    obtain ⟨⟨ino, node⟩, held, rfl⟩ := Option.map_eq_some_iff.mp found
    exact ⟨next, ino, node, resolved, held, rfl⟩
  · rintro ⟨next, ino, node, resolved, held, rfl⟩
    exact ⟨next, resolved, Option.map_eq_some_iff.mpr ⟨(ino, node), held, rfl⟩⟩

theorem openDirectory_view {name : ν} : (∃ next, fs.openDirectory dir name = .ok next) ↔
    fs.view dir [] name = some .directory := by
  rw [view_eq_some]
  unfold openDirectory
  constructor
  · rintro ⟨next, opened⟩
    split at opened
    next => cases opened
    next ino entries held => exact ⟨dir, ino, .directory entries, rfl, held, rfl⟩
    next => cases opened
  · rintro ⟨_, ino, node, resolved, held, directory⟩
    cases resolved
    cases node with
    | directory entries => exact ⟨ino, by rw [held]⟩
    | _ => cases directory

/-- A path leads on through a name exactly where a directory stands under it. -/
theorem resolve_directory {front back : List ν} {name : ν} {last : Nat}
    (resolved : fs.resolve dir (front ++ name :: back) = some last) :
    fs.view dir front name = some .directory := by
  rw [resolve_append] at resolved
  obtain ⟨next, here, rest⟩ := Option.bind_eq_some_iff.mp resolved
  rw [resolve_cons] at rest
  split at rest
  next opened =>
    obtain ⟨_, ino, node, same, held, directory⟩ := view_eq_some.mp (openDirectory_view.mp ⟨_, opened⟩)
    cases same
    exact view_eq_some.mpr ⟨next, ino, node, here, held, directory⟩
  next => cases rest

/-- Where a directory stands, its path leads to it. -/
theorem resolve_of_view {front : List ν} {name : ν}
    (standing : fs.view dir front name = some .directory) :
    ∃ next, fs.resolve dir (front ++ [name]) = some next := by
  obtain ⟨parent, ino, node, here, held, directory⟩ := view_eq_some.mp standing
  obtain ⟨next, opened⟩ := openDirectory_view.mpr
    (view_eq_some.mpr ⟨parent, ino, node, rfl, held, directory⟩)
  refine ⟨next, ?_⟩
  rw [resolve_append, here]
  show fs.resolve parent [name] = some next
  rw [resolve_cons, opened]
  rfl

end Read

/-! ## Writing -/

def setNode (fs : FileSystem ν) (ino : Nat) (node : Node ν) : FileSystem ν :=
  { fs with node := Function.update fs.node ino (some node) }

theorem node_setNode_self {fs : FileSystem ν} {ino : Nat} (node : Node ν) :
    (fs.setNode ino node).node ino = some node := Function.update_self _ _ _

theorem node_setNode_of_ne {fs : FileSystem ν} {ino other : Nat} (node : Node ν)
    (apart : other ≠ ino) : (fs.setNode ino node).node other = fs.node other :=
  Function.update_of_ne apart _ _

section Parts

variable {fs fs' : FileSystem ν} {ino mode next : Nat} {bytes : List UInt8}
  {entries : Nat → ν → Option Nat} {leaf : Nat → Option (Node ν)}

theorem entries_setFile (file : fs.isDirectory ino = false) :
    (fs.setNode ino (.file mode bytes)).entries = fs.entries := by
  funext d n
  by_cases here : d = ino
  · subst here
    rw [entries_of_not_directory file,
      entries_of_not_directory (isDirectory_of_file (node_setNode_self _))]
  · exact congrFun (entries_congr (node_setNode_of_ne _ here)) n

theorem isDirectory_setFile (file : fs.isDirectory ino = false) :
    (fs.setNode ino (.file mode bytes)).isDirectory = fs.isDirectory := by
  funext other
  by_cases here : other = ino
  · subst here
    rw [file]
    exact isDirectory_of_file (node_setNode_self _)
  · exact isDirectory_congr (node_setNode_of_ne _ here)

theorem leaf_setFile (file : fs.isDirectory ino = false) :
    (fs.setNode ino (.file mode bytes)).leaf =
      Function.update fs.leaf ino (some (.file mode bytes)) := by
  funext other
  by_cases here : other = ino
  · subst here
    rw [Function.update_self]
    exact leaf_of_file (node_setNode_self _)
  · rw [Function.update_of_ne here]
    unfold leaf
    rw [isDirectory_setFile file, node_setNode_of_ne _ here]

/-- A file system as another one with these entries and these leaves, and the same directories. -/
structure Outcome (fs fs' : FileSystem ν) (entries : Nat → ν → Option Nat)
    (leaf : Nat → Option (Node ν)) (next : Nat) : Prop where
  entries : fs'.entries = entries
  isDirectory : fs'.isDirectory = fs.isDirectory
  leaf : fs'.leaf = leaf
  next : fs'.next = next

theorem Outcome.trans {fs'' : FileSystem ν} {entries' : Nat → ν → Option Nat}
    {leaf' : Nat → Option (Node ν)} {next' : Nat}
    (first : Outcome fs fs' entries leaf next) (second : Outcome fs' fs'' entries' leaf' next') :
    Outcome fs fs'' entries' leaf' next' :=
  ⟨second.entries, second.isDirectory.trans first.isDirectory, second.leaf, second.next⟩

theorem Outcome.node {node : Node ν}
    (outcome : Outcome fs fs' entries leaf next) (held : leaf ino = some node) :
    fs'.node ino = some node :=
  (leaf_eq_some.mp (outcome.leaf ▸ held)).1

/-- What an inode is, read from the parts. -/
theorem node_eq_none : fs.node ino = none ↔ fs.isDirectory ino = false ∧ fs.leaf ino = none := by
  unfold leaf
  constructor
  · intro held
    have file : fs.isDirectory ino = false := by
      unfold isDirectory
      rw [held]
    rw [file]
    exact ⟨rfl, held⟩
  · rintro ⟨file, held⟩
    rw [file] at held
    exact held

/-- An outcome is sane when its leaves are those before and those it binds. -/
theorem Outcome.sane (outcome : Outcome fs fs' entries leaf next)
    (sane : fs.Sane) (grows : fs.next ≤ next)
    (fresh : ∀ ino, next ≤ ino → leaf ino = none)
    (kept : ∀ ino, fs.leaf ino ≠ none → leaf ino ≠ none)
    (bound : ∀ d n ino, entries d n = some ino → fs.entries d n = some ino ∨ leaf ino ≠ none) :
    fs'.Sane := by
  refine ⟨fun ino above => ?_, fun d n ino held => ?_⟩
  · rw [outcome.next] at above
    refine node_eq_none.mpr ⟨?_, ?_⟩
    · rw [outcome.isDirectory]
      exact (node_eq_none.mp (sane.fresh ino (Nat.le_trans grows above))).1
    · rw [outcome.leaf]
      exact fresh ino above
  · rw [outcome.entries] at held
    rw [Option.isSome_iff_ne_none]
    intro absent
    obtain ⟨file, none_leaf⟩ := node_eq_none.mp absent
    rw [outcome.isDirectory] at file
    rw [outcome.leaf] at none_leaf
    rcases bound d n ino held with before | now
    · have used := sane.bound d n ino before
      rw [Option.isSome_iff_ne_none] at used
      exact used (node_eq_none.mpr ⟨file, by
        by_contra here
        exact kept ino here none_leaf⟩)
    · exact now none_leaf

end Parts

section Write

variable [DecidableEq ν]

/-- Binds a name of a directory to an inode, or to none. -/
def bindName (fs : FileSystem ν) (dir : Nat) (name : ν) (target : Option Nat) : FileSystem ν :=
  fs.setNode dir (.directory (Function.update (fs.entries dir) name target))

/-- `open` with `O_CREAT | O_EXCL`: a new empty file. -/
def createExclusive (fs : FileSystem ν) (dir : Nat) (name : ν) (mode : Nat) :
    Except Errno (Nat × FileSystem ν) :=
  if !fs.isDirectory dir then .error .noent
  else if (fs.entries dir name).isSome then .error .exist
  else .ok (fs.next,
    { (fs.setNode fs.next (.file mode [])).bindName dir name (some fs.next) with
      next := fs.next + 1 })

/-- Writes a file's bytes through its descriptor. -/
def writeBytes (fs : FileSystem ν) (ino : Nat) (bytes : List UInt8) : Except Errno (FileSystem ν) :=
  match fs.node ino with
  | some (.file mode _) => .ok (fs.setNode ino (.file mode bytes))
  | _ => .error .other

/-- `fchmod`. -/
def chmod (fs : FileSystem ν) (ino : Nat) (mode : Nat) : Except Errno (FileSystem ν) :=
  match fs.node ino with
  | some (.file _ bytes) => .ok (fs.setNode ino (.file mode bytes))
  | _ => .error .other

/-- `link` within one directory: a second name for a file. -/
def link (fs : FileSystem ν) (dir : Nat) (source target : ν) : Except Errno (FileSystem ν) :=
  match fs.lookup dir source with
  | none => .error .noent
  | some (_, .directory _) => .error .other
  | some (ino, _) =>
    if (fs.entries dir target).isSome then .error .exist
    else .ok (fs.bindName dir target (some ino))

/-- `unlink`. -/
def unlink (fs : FileSystem ν) (dir : Nat) (name : ν) : Except Errno (FileSystem ν) :=
  match fs.lookup dir name with
  | none => .error .noent
  | some (_, .directory _) => .error .isdir
  | some _ => .ok (fs.bindName dir name none)

/-- `renameat2` with `RENAME_EXCHANGE` within one directory. -/
def exchange (fs : FileSystem ν) (dir : Nat) (first second : ν) : Except Errno (FileSystem ν) :=
  match fs.entries dir first, fs.entries dir second with
  | some one, some other =>
    .ok ((fs.bindName dir first (some other)).bindName dir second (some one))
  | _, _ => .error .noent

/-- `renameat2` with `RENAME_NOREPLACE` within one directory. -/
def renameNoReplace (fs : FileSystem ν) (dir : Nat) (source target : ν) :
    Except Errno (FileSystem ν) :=
  match fs.entries dir source with
  | none => .error .noent
  | some ino =>
    if (fs.entries dir target).isSome then .error .exist
    else .ok ((fs.bindName dir target (some ino)).bindName dir source none)

/-- One name of one directory bound anew. -/
def rebind (entries : Nat → ν → Option Nat) (dir : Nat) (name : ν) (target : Option Nat) :
    Nat → ν → Option Nat :=
  fun d n => if d = dir ∧ n = name then target else entries d n

section Rebind

variable {entries : Nat → ν → Option Nat} {dir : Nat} {name : ν} {target : Option Nat}

@[simp] theorem rebind_self : rebind entries dir name target dir name = target := if_pos ⟨rfl, rfl⟩

theorem rebind_other {d : Nat} {n : ν} (other : ¬(d = dir ∧ n = name)) :
    rebind entries dir name target d n = entries d n := if_neg other

theorem rebind_name {n : ν} (other : n ≠ name) :
    rebind entries dir name target dir n = entries dir n := if_neg fun same => other same.2

/-- A name that is bound and bound back shows nothing of it. -/
theorem rebind_back (before : entries dir name = target) {temporary : Option Nat} :
    rebind (rebind entries dir name temporary) dir name target = entries := by
  funext d n
  by_cases here : d = dir ∧ n = name
  · obtain ⟨rfl, rfl⟩ := here
    rw [rebind_self, before]
  · rw [rebind_other here, rebind_other here]

theorem rebind_comm {other : ν} {second : Option Nat} (apart : name ≠ other) :
    rebind (rebind entries dir name target) dir other second =
      rebind (rebind entries dir other second) dir name target := by
  funext d n
  unfold rebind
  by_cases first : d = dir ∧ n = name
  · obtain ⟨rfl, rfl⟩ := first
    simp [apart]
  · by_cases last : d = dir ∧ n = other
    · obtain ⟨rfl, rfl⟩ := last
      simp [Ne.symm apart]
    · simp [first, last]

end Rebind

section Effects

variable {fs : FileSystem ν} {dir ino mode : Nat} {name : ν} {bytes : List UInt8}

theorem entries_bindName (target : Option Nat) :
    (fs.bindName dir name target).entries = rebind fs.entries dir name target := by
  funext d n
  by_cases here : d = dir
  · subst here
    have held : (fs.bindName d name target).entries d =
        Function.update (fs.entries d) name target :=
      entries_of_directory (node_setNode_self _)
    rw [held]
    by_cases at_name : n = name
    · rw [at_name, Function.update_self, rebind_self]
    · rw [Function.update_of_ne at_name, rebind_name at_name]
  · rw [rebind_other fun same => here same.1]
    exact congrFun (entries_congr (node_setNode_of_ne _ here)) n

theorem isDirectory_bindName (directory : fs.isDirectory dir = true) (target : Option Nat) :
    (fs.bindName dir name target).isDirectory = fs.isDirectory := by
  funext other
  by_cases here : other = dir
  · subst here
    rw [directory]
    exact isDirectory_of_directory (node_setNode_self _)
  · exact isDirectory_congr (node_setNode_of_ne _ here)

theorem leaf_bindName (directory : fs.isDirectory dir = true) (target : Option Nat) :
    (fs.bindName dir name target).leaf = fs.leaf := by
  funext other
  unfold leaf
  rw [isDirectory_bindName directory]
  by_cases here : other = dir
  · subst here
    rw [if_pos directory, if_pos directory]
  · rw [show (fs.bindName dir name target).node other = fs.node other from
      node_setNode_of_ne _ here]

/-! ### The operations on sane file systems -/

theorem createExclusive_ok (sane : fs.Sane) (directory : fs.isDirectory dir = true)
    (free : fs.entries dir name = none) :
    ∃ fs', fs.createExclusive dir name mode = .ok (fs.next, fs') ∧
      Outcome fs fs' (rebind fs.entries dir name (some fs.next))
        (Function.update fs.leaf fs.next (some (.file mode []))) (fs.next + 1) := by
  have file := isDirectory_fresh sane
  have still : (fs.setNode fs.next (.file mode [])).isDirectory dir = true := by
    rw [isDirectory_setFile file, directory]
  refine ⟨{ (fs.setNode fs.next (.file mode [])).bindName dir name (some fs.next) with
    next := fs.next + 1 }, ?_, ?_, ?_, ?_, rfl⟩
  · unfold createExclusive
    simp only [directory, free, Bool.not_true, Bool.false_eq_true, Option.isSome_none, if_false]
  · exact (entries_bindName _).trans (by rw [entries_setFile file])
  · exact (isDirectory_bindName still _).trans (isDirectory_setFile file)
  · exact (leaf_bindName still _).trans (leaf_setFile file)

omit [DecidableEq ν] in
theorem writeBytes_ok {held : List UInt8} (file : fs.node ino = some (.file mode held)) :
    ∃ fs', fs.writeBytes ino bytes = .ok fs' ∧ Outcome fs fs' fs.entries
      (Function.update fs.leaf ino (some (.file mode bytes))) fs.next := by
  have not_directory := isDirectory_of_file file
  refine ⟨_, ?_, entries_setFile not_directory, isDirectory_setFile not_directory,
    leaf_setFile not_directory, rfl⟩
  unfold writeBytes
  rw [file]

omit [DecidableEq ν] in
theorem chmod_ok {held : Nat} (file : fs.node ino = some (.file held bytes)) :
    ∃ fs', fs.chmod ino mode = .ok fs' ∧ Outcome fs fs' fs.entries
      (Function.update fs.leaf ino (some (.file mode bytes))) fs.next := by
  have not_directory := isDirectory_of_file file
  refine ⟨_, ?_, entries_setFile not_directory, isDirectory_setFile not_directory,
    leaf_setFile not_directory, rfl⟩
  unfold chmod
  rw [file]

theorem bindName_outcome (directory : fs.isDirectory dir = true) (name : ν) (target : Option Nat) :
    Outcome fs (fs.bindName dir name target) (rebind fs.entries dir name target) fs.leaf fs.next :=
  ⟨entries_bindName target, isDirectory_bindName directory target, leaf_bindName directory target,
    rfl⟩

theorem link_ok {target : ν} {node : Node ν} (bound : fs.entries dir name = some ino)
    (held : fs.leaf ino = some node) (free : fs.entries dir target = none) :
    ∃ fs', fs.link dir name target = .ok fs' ∧
      Outcome fs fs' (rebind fs.entries dir target (some ino)) fs.leaf fs.next := by
  refine ⟨_, ?_, bindName_outcome (isDirectory_of_entry bound) _ _⟩
  obtain ⟨held, file⟩ := leaf_eq_some.mp held
  unfold link
  rw [lookup_eq_some.mpr ⟨bound, held⟩]
  cases node with
  | directory entries => rw [isDirectory_of_directory held] at file; cases file
  | file => simp only [free, Option.isSome_none, Bool.false_eq_true, if_false]
  | symlink => simp only [free, Option.isSome_none, Bool.false_eq_true, if_false]
  | special => simp only [free, Option.isSome_none, Bool.false_eq_true, if_false]

theorem unlink_ok {node : Node ν} (bound : fs.entries dir name = some ino)
    (held : fs.leaf ino = some node) :
    ∃ fs', fs.unlink dir name = .ok fs' ∧
      Outcome fs fs' (rebind fs.entries dir name none) fs.leaf fs.next := by
  refine ⟨_, ?_, bindName_outcome (isDirectory_of_entry bound) _ _⟩
  obtain ⟨held, file⟩ := leaf_eq_some.mp held
  unfold unlink
  rw [lookup_eq_some.mpr ⟨bound, held⟩]
  cases node with
  | directory entries => rw [isDirectory_of_directory held] at file; cases file
  | file => rfl
  | symlink => rfl
  | special => rfl

theorem exchange_ok {second : ν} {other : Nat} (bound : fs.entries dir name = some ino)
    (bound' : fs.entries dir second = some other) :
    ∃ fs', fs.exchange dir name second = .ok fs' ∧ Outcome fs fs'
      (rebind (rebind fs.entries dir name (some other)) dir second (some ino)) fs.leaf fs.next := by
  have first := bindName_outcome (isDirectory_of_entry bound) name (some other)
  have directory : (fs.bindName dir name (some other)).isDirectory dir = true := by
    rw [first.isDirectory]
    exact isDirectory_of_entry bound
  have last := bindName_outcome directory second (some ino)
  rw [first.entries, first.leaf, first.next] at last
  refine ⟨_, ?_, first.trans last⟩
  unfold exchange
  rw [bound, bound']

theorem renameNoReplace_ok {target : ν} (bound : fs.entries dir name = some ino)
    (free : fs.entries dir target = none) :
    ∃ fs', fs.renameNoReplace dir name target = .ok fs' ∧ Outcome fs fs'
      (rebind (rebind fs.entries dir target (some ino)) dir name none) fs.leaf fs.next := by
  have first := bindName_outcome (isDirectory_of_entry bound) target (some ino)
  have directory : (fs.bindName dir target (some ino)).isDirectory dir = true := by
    rw [first.isDirectory]
    exact isDirectory_of_entry bound
  have last := bindName_outcome directory name none
  rw [first.entries, first.leaf, first.next] at last
  refine ⟨_, ?_, first.trans last⟩
  unfold renameNoReplace
  rw [bound]
  simp only [free, Option.isSome_none, Bool.false_eq_true, if_false]

end Effects

end Write

/-! ## What stands under a name -/

/-- What an inode is, whatever a directory holds. -/
def standing (fs : FileSystem ν) (ino : Nat) : Option View := (fs.node ino).map Node.view

/-- The inode a name is bound to, and what it is, whatever a directory holds. -/
def found (fs : FileSystem ν) (dir : Nat) (name : ν) : Option (Nat × View) :=
  (fs.entries dir name).bind fun ino => (fs.standing ino).map fun view => (ino, view)

section Standing

variable {fs fs' : FileSystem ν} {dir ino mode : Nat} {name : ν} {bytes : List UInt8} {view : View}

theorem standing_congr (directories : fs'.isDirectory ino = fs.isDirectory ino)
    (leaves : fs'.leaf ino = fs.leaf ino) : fs'.standing ino = fs.standing ino := by
  unfold standing
  cases directory : fs.isDirectory ino with
  | true =>
    rw [node_of_isDirectory directory, node_of_isDirectory (directories.trans directory)]
    rfl
  | false =>
    rw [directory] at directories
    unfold leaf at leaves
    rw [directory, directories] at leaves
    rw [show fs'.node ino = fs.node ino from leaves]

theorem standing_file (held : fs.leaf ino = some (.file mode bytes)) :
    fs.standing ino = some (.file mode bytes) := by
  unfold standing
  rw [(leaf_eq_some.mp held).1]
  rfl

theorem standing_eq_file : fs.standing ino = some (.file mode bytes) ↔
    fs.node ino = some (.file mode bytes) := by
  unfold standing
  constructor
  · intro stands
    obtain ⟨node, held, same⟩ := Option.map_eq_some_iff.mp stands
    cases node with
    | file => cases same; exact held
    | directory => cases same
    | symlink => cases same
    | special => cases same
  · intro held
    rw [held]
    rfl

theorem found_eq_some : fs.found dir name = some (ino, view) ↔
    fs.entries dir name = some ino ∧ fs.standing ino = some view := by
  unfold found
  cases fs.entries dir name with
  | none => simp
  | some other =>
    simp only [Option.bind_some, Option.map_eq_some_iff, Prod.mk.injEq, Option.some.injEq]
    constructor
    · rintro ⟨v, stands, rfl, rfl⟩
      exact ⟨rfl, stands⟩
    · rintro ⟨rfl, stands⟩
      exact ⟨view, stands, rfl, rfl⟩

theorem exists_standing (sane : fs.Sane) (bound : fs.entries dir name = some ino) :
    ∃ view, fs.standing ino = some view := by
  obtain ⟨node, held⟩ := Option.isSome_iff_exists.mp (sane.bound dir name ino bound)
  exact ⟨Node.view node, by unfold standing; rw [held]; rfl⟩

theorem found_map (sane : fs.Sane) : (fs.found dir name).map Prod.fst = fs.entries dir name := by
  cases bound : fs.entries dir name with
  | none => unfold found; rw [bound]; rfl
  | some ino =>
    obtain ⟨view, stands⟩ := exists_standing sane bound
    rw [found_eq_some.mpr ⟨bound, stands⟩]
    rfl

theorem found_congr (entries : fs'.entries dir name = fs.entries dir name)
    (stands : ∀ ino, fs.entries dir name = some ino → fs'.standing ino = fs.standing ino) :
    fs'.found dir name = fs.found dir name := by
  unfold found
  rw [entries]
  cases bound : fs.entries dir name with
  | none => rfl
  | some ino => rw [Option.bind_some, Option.bind_some, stands ino bound]

theorem Outcome.standing {entries : Nat → ν → Option Nat} {next : Nat}
    (outcome : Outcome fs fs' entries fs.leaf next) (ino : Nat) :
    fs'.standing ino = fs.standing ino :=
  standing_congr (congrFun outcome.isDirectory ino) (congrFun outcome.leaf ino)

theorem Outcome.standing_of_ne {entries : Nat → ν → Option Nat} {next other : Nat}
    {node : Option (Node ν)}
    (outcome : Outcome fs fs' entries (Function.update fs.leaf other node) next)
    (apart : ino ≠ other) : fs'.standing ino = fs.standing ino :=
  standing_congr (congrFun outcome.isDirectory ino)
    ((congrFun outcome.leaf ino).trans (Function.update_of_ne apart _ _))

end Standing

/-! ## What a change that succeeds has done -/

section Changes

variable [DecidableEq ν] {fs fs' : FileSystem ν} {dir ino mode : Nat} {name target : ν}
  {bytes : List UInt8}

omit [DecidableEq ν] in
theorem sane_of_bound {entries : Nat → ν → Option Nat} (sane : fs.Sane)
    (outcome : Outcome fs fs' entries fs.leaf fs.next)
    (bound : ∀ d n ino, entries d n = some ino → ∃ d' n', fs.entries d' n' = some ino) :
    fs'.Sane := by
  have held (ino : Nat) : fs'.node ino = none ↔ fs.node ino = none := by
    rw [node_eq_none, node_eq_none, outcome.isDirectory, outcome.leaf]
  refine ⟨fun ino above => ?_, fun d n ino there => ?_⟩
  · rw [outcome.next] at above
    exact (held ino).mpr (sane.fresh ino above)
  · rw [outcome.entries] at there
    obtain ⟨d', n', before⟩ := bound d n ino there
    have used := sane.bound d' n' ino before
    rw [Option.isSome_iff_ne_none] at used ⊢
    exact fun absent => used ((held ino).mp absent)

theorem exchange_eq_ok (sane : fs.Sane) (called : fs.exchange dir name target = .ok fs') :
    ∃ ino other, fs.entries dir name = some ino ∧ fs.entries dir target = some other ∧ fs'.Sane ∧
      Outcome fs fs' (rebind (rebind fs.entries dir name (some other)) dir target (some ino))
        fs.leaf fs.next := by
  cases bound : fs.entries dir name with
  | none => unfold exchange at called; rw [bound] at called; cases called
  | some ino =>
    cases bound' : fs.entries dir target with
    | none => unfold exchange at called; rw [bound, bound'] at called; cases called
    | some other =>
      obtain ⟨_, exchanged, outcome⟩ := exchange_ok bound bound'
      cases called.symm.trans exchanged
      refine ⟨ino, other, rfl, rfl, sane_of_bound sane outcome fun d n found there => ?_, outcome⟩
      unfold rebind at there
      split at there
      · cases there
        exact ⟨dir, name, bound⟩
      · split at there
        · cases there
          exact ⟨dir, target, bound'⟩
        · exact ⟨d, n, there⟩

theorem renameNoReplace_eq_ok (sane : fs.Sane)
    (called : fs.renameNoReplace dir name target = .ok fs') :
    ∃ ino, fs.entries dir name = some ino ∧ fs.entries dir target = none ∧ fs'.Sane ∧
      Outcome fs fs' (rebind (rebind fs.entries dir target (some ino)) dir name none)
        fs.leaf fs.next := by
  cases bound : fs.entries dir name with
  | none => unfold renameNoReplace at called; rw [bound] at called; cases called
  | some ino =>
    cases free : fs.entries dir target with
    | some other =>
      unfold renameNoReplace at called
      simp only [bound, free, Option.isSome_some, if_true] at called
      cases called
    | none =>
      obtain ⟨_, renamed, outcome⟩ := renameNoReplace_ok bound free
      cases called.symm.trans renamed
      refine ⟨ino, rfl, rfl, sane_of_bound sane outcome fun d n found there => ?_, outcome⟩
      unfold rebind at there
      split at there
      · cases there
      · split at there
        · cases there
          exact ⟨dir, name, bound⟩
        · exact ⟨d, n, there⟩

theorem link_eq_ok (sane : fs.Sane) (called : fs.link dir name target = .ok fs') :
    ∃ ino, fs.entries dir name = some ino ∧ fs.entries dir target = none ∧ fs'.Sane ∧
      Outcome fs fs' (rebind fs.entries dir target (some ino)) fs.leaf fs.next := by
  unfold link at called
  split at called
  · cases called
  · cases called
  next ino node directory at_name =>
    obtain ⟨bound, held⟩ := lookup_eq_some.mp at_name
    split at called
    · cases called
    next taken =>
      have free := Option.not_isSome_iff_eq_none.mp taken
      cases called
      have outcome := bindName_outcome (isDirectory_of_entry bound) target (some ino)
      refine ⟨ino, bound, free, sane_of_bound sane outcome fun d n found there => ?_, outcome⟩
      unfold rebind at there
      split at there
      · cases there
        exact ⟨dir, name, bound⟩
      · exact ⟨d, n, there⟩

theorem unlink_eq_ok (sane : fs.Sane) (called : fs.unlink dir name = .ok fs') :
    fs'.Sane ∧ Outcome fs fs' (rebind fs.entries dir name none) fs.leaf fs.next := by
  unfold unlink at called
  split at called
  · cases called
  · cases called
  next ino node directory at_name =>
    obtain ⟨bound, held⟩ := lookup_eq_some.mp at_name
    cases called
    have outcome := bindName_outcome (isDirectory_of_entry bound) name none
    refine ⟨sane_of_bound sane outcome fun d n found there => ?_, outcome⟩
    unfold rebind at there
    split at there
    · cases there
    · exact ⟨d, n, there⟩

theorem createExclusive_eq_ok (sane : fs.Sane)
    (called : fs.createExclusive dir name mode = .ok (ino, fs')) :
    ino = fs.next ∧ fs.entries dir name = none ∧ fs'.Sane ∧
      Outcome fs fs' (rebind fs.entries dir name (some fs.next))
        (Function.update fs.leaf fs.next (some (.file mode []))) (fs.next + 1) := by
  have directory : fs.isDirectory dir = true := by
    by_contra wrong
    unfold createExclusive at called
    rw [Bool.not_eq_true] at wrong
    rw [wrong] at called
    cases called
  have free : fs.entries dir name = none := by
    by_contra wrong
    unfold createExclusive at called
    simp only [directory, Bool.not_true, Bool.false_eq_true, if_false,
      Option.isSome_iff_ne_none.mpr wrong, if_true] at called
    cases called
  obtain ⟨_, created, outcome⟩ := @createExclusive_ok ν _ fs dir mode name sane directory free
  cases called.symm.trans created
  refine ⟨rfl, free, outcome.sane sane (Nat.le_succ _) ?_ ?_ ?_, outcome⟩
  · intro ino above
    rw [Function.update_of_ne (by omega)]
    exact (node_eq_none.mp (sane.fresh ino (by omega))).2
  · intro ino held
    by_cases same : ino = fs.next
    · rw [same, Function.update_self]
      exact Option.some_ne_none _
    · rw [Function.update_of_ne same]
      exact held
  · intro d n ino there
    unfold rebind at there
    split at there
    · cases there
      rw [Function.update_self]
      exact .inr (Option.some_ne_none _)
    · exact .inl there

omit [DecidableEq ν] in
/-- A file rewritten in place. -/
theorem sane_of_rewritten {node : Node ν} (sane : fs.Sane) (used : fs.node ino ≠ none)
    (outcome : Outcome fs fs' fs.entries (Function.update fs.leaf ino (some node)) fs.next) :
    fs'.Sane := by
  refine outcome.sane sane (Nat.le_refl _) ?_ ?_ fun d n ino there => .inl there
  · intro other above
    have fresh := sane.fresh other above
    have apart : other ≠ ino := fun same => used (same ▸ fresh)
    rw [Function.update_of_ne apart]
    exact (node_eq_none.mp fresh).2
  · intro other held
    by_cases same : other = ino
    · rw [same, Function.update_self]
      exact Option.some_ne_none _
    · rw [Function.update_of_ne same]
      exact held

omit [DecidableEq ν] in
theorem writeBytes_eq_ok (called : fs.writeBytes ino bytes = .ok fs') :
    ∃ mode held, fs.node ino = some (.file mode held) := by
  unfold writeBytes at called
  split at called
  next mode held at_node => exact ⟨mode, held, at_node⟩
  next => cases called

omit [DecidableEq ν] in
theorem chmod_eq_ok (called : fs.chmod ino mode = .ok fs') :
    ∃ before held, fs.node ino = some (.file before held) := by
  unfold chmod at called
  split at called
  next before held at_node => exact ⟨before, held, at_node⟩
  next => cases called

end Changes

end FileSystem

end Lib
