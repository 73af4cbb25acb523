import SyncApp.LiveApply.Evidence
import SyncApp.Lib.Raising
import SyncApp.Lib.Utf8

/-!
# The changes of a candidate

Reads the two trees that Git lists, binds the candidate's to the stage, and compares them path by
path. What Git prints for a tree (`ls-tree -rz`) is a parameter: the bytes.

A tree that is read (`parseTree`) holds safe paths in increasing order, each once, and none is a
directory of another (`TreeForm`); the laws of a comparison need no more.
-/

set_option autoImplicit false

namespace SyncApp

open Lib

namespace CandidateTrees

structure CandidateChangeError where
  message : String
deriving DecidableEq

def reject {α : Type} (message : String) : Except CandidateChangeError α := .error ⟨message⟩

structure TreeEntry where
  path : PyStr
  gitMode : GitMode
  objectId : ObjectId
deriving DecidableEq

/-! ## Reading a tree -/

/-- `raw.decode("ascii")`. -/
def decodeAscii (raw : List UInt8) : Option PyStr :=
  if raw.all (· < 0x80) then some (raw.map UInt8.toNat) else none

/-- What stands before the first separator and after it. -/
def splitFirst (separator : UInt8) : List UInt8 → Option (List UInt8 × List UInt8)
  | [] => none
  | byte :: bytes =>
    if byte = separator then some ([], bytes)
    else (splitFirst separator bytes).map fun split => (byte :: split.1, split.2)

structure RawEntry where
  path : PyStr
  mode : PyStr
  objectType : PyStr
  objectId : PyStr

/-- The fields of a record, `mode type object<tab>path`; none where it is malformed. -/
def splitRecord (record : List UInt8) : Option RawEntry := do
  let (metadata, rawPath) ← splitFirst 9 record
  let (modeRaw, rest) ← splitFirst 32 metadata
  let (typeRaw, objectRaw) ← splitFirst 32 rest
  let mode ← decodeAscii modeRaw
  let objectType ← decodeAscii typeRaw
  let objectId ← decodeAscii objectRaw
  let path ← Utf8.decode rawPath
  return ⟨path, mode, objectType, objectId⟩

/-- `_ALLOWED_MODES`. -/
def parseMode (mode : PyStr) : Option GitMode :=
  if mode = text "100644" then some .regular
  else if mode = text "100755" then some .executable
  else none

/-- `_OBJECT_ID`: 40 or 64 hexadecimal characters. -/
def parseObjectId (objectId : PyStr) : Option ObjectId :=
  let hex := String.ofList (objectId.map Char.ofNat)
  if shape : hex.length = 40 ∧ hex.toList.all ("0123456789abcdef".toList.contains ·) = true then
    some (.sha1 ⟨hex, shape⟩)
  else if shape : hex.length = 64 ∧ hex.toList.all ("0123456789abcdef".toList.contains ·) = true then
    some (.sha256 ⟨hex, shape⟩)
  else none

/-- `path.startswith(above + "/")`. -/
def startsBelow (path above : PyStr) : Bool := (above ++ [slash]).isPrefixOf path

/-- `_validate_tree_entry`; `seen` are the paths before it. -/
def validateTreeEntry (seen : List PyStr) (raw : RawEntry) :
    Except CandidateChangeError TreeEntry :=
  match parseMode raw.mode, parseObjectId raw.objectId with
  | some gitMode, some objectId =>
    if !safePath raw.path ∨ raw.objectType ≠ text "blob" ∨ raw.path ∈ seen then
      reject "Git tree metadata contains an unsafe entry"
    else if seen.any fun existing =>
        startsBelow raw.path existing || startsBelow existing raw.path then
      reject "Git tree metadata contains conflicting paths"
    else .ok ⟨raw.path, gitMode, objectId⟩
  | _, _ => reject "Git tree metadata contains an unsafe entry"

def parseRecords (seen : List PyStr) : List (List UInt8) → Except CandidateChangeError (List TreeEntry)
  | [] => .ok []
  | record :: records => do
    match splitRecord record with
    | none => reject "Git tree metadata is malformed"
    | some raw =>
      let entry ← validateTreeEntry seen raw
      let entries ← parseRecords (entry.path :: seen) records
      return entry :: entries

/-- The records of a listing: what NULs end. -/
def records (raw : List UInt8) : List (List UInt8) :=
  let records := raw.splitOn 0
  if records.getLast? = some [] then records.dropLast else records

/-- `_parse_tree`. Paths that were decoded have an encoding to be sorted by. -/
def parseTree (raw : List UInt8) : Except CandidateChangeError (List TreeEntry) := do
  let entries ← parseRecords [] (records raw)
  return entries.insertionSort fun first second => first.path ≤ second.path

/-! ## Comparing trees -/

/-- `_bind_candidate_tree_to_stage`. -/
def bindCandidateTreeToStage (candidateTree : List TreeEntry) (stage : CandidateStage) :
    Except CandidateChangeError Unit :=
  if candidateTree.length ≠ stage.entries.length then
    reject "candidate Git tree does not match staged evidence"
  else if (candidateTree.zip stage.entries).all fun (gitEntry, stagedEntry) =>
      gitEntry.path = stagedEntry.path && gitEntry.gitMode = stagedEntry.gitMode &&
        gitEntry.objectId = stagedEntry.objectId then .ok ()
  else reject "candidate Git tree does not match staged evidence"

/-- `{entry.path: entry for entry in tree}`: the last entry of a path counts. -/
def entryAt (tree : List TreeEntry) (path : PyStr) : Option TreeEntry :=
  tree.reverse.find? (·.path = path)

/-- The status of a path whose entries are not the same. -/
def statusOf : Option TreeEntry → Option TreeEntry → ChangeStatus
  | none, _ => .added
  | some _, none => .deleted
  | some old, some new =>
    if old.objectId ≠ new.objectId ∧ old.gitMode ≠ new.gitMode then .modifiedAndModeChanged
    else if old.objectId ≠ new.objectId then .modified
    else .modeChanged

def changeOf (path : PyStr) (old new : Option TreeEntry) : Option CandidateChange :=
  if old = new then none
  else some ⟨path, statusOf old new, old.map (·.gitMode), old.map (·.objectId),
    new.map (·.gitMode), new.map (·.objectId)⟩

/-- The paths of both trees, each once, in the order of their bytes. -/
def pathsOf (baseline candidate : List TreeEntry) : List PyStr :=
  ((baseline.map (·.path) ++ candidate.map (·.path)).dedup).insertionSort (· ≤ ·)

/-- `_build_changes`. -/
def buildChanges (baseline candidate : List TreeEntry) : List CandidateChange :=
  (pathsOf baseline candidate).filterMap fun path =>
    changeOf path (entryAt baseline path) (entryAt candidate path)

/-- `_validate_result`; `previous` is the path before. -/
def validateResult (previous : Option PyStr) :
    List CandidateChange → Except CandidateChangeError Unit
  | [] => .ok ()
  | change :: changes =>
    if previous.any fun before => change.path ≤ before then
      reject "candidate change evidence is invalid"
    else validateResult (some change.path) changes

/-- The comparison in `detect_candidate_changes`, of the listings of both trees. -/
def compareTrees (candidateRaw baselineRaw : List UInt8) (stage : CandidateStage) :
    Except CandidateChangeError (List CandidateChange) := do
  let candidateTree ← parseTree candidateRaw
  let baselineTree ← parseTree baselineRaw
  bindCandidateTreeToStage candidateTree stage
  let changes := buildChanges baselineTree candidateTree
  validateResult none changes
  return changes

/-! ## What is read -/

/-- The form of a tree that was read. -/
structure TreeForm (tree : List TreeEntry) : Prop where
  safe : ∀ entry ∈ tree, safePath entry.path = true
  scalar : ∀ entry ∈ tree, ∀ c ∈ entry.path, Utf8.Scalar c
  clean : ∀ entry ∈ tree, 0 ∉ entry.path
  increasing : tree.Pairwise fun first second => first.path < second.path
  apart : ∀ first ∈ tree, ∀ second ∈ tree, startsBelow first.path second.path = false

theorem splitFirst_eq_some {separator : UInt8} {bytes before after : List UInt8}
    (split : splitFirst separator bytes = some (before, after)) :
    bytes = before ++ separator :: after := by
  induction bytes generalizing before with
  | nil => cases split
  | cons byte bytes ih =>
    unfold splitFirst at split
    split at split
    next here =>
      cases split
      rw [here, List.nil_append]
    next =>
      obtain ⟨⟨front, back⟩, later, same⟩ := Option.map_eq_some_iff.mp split
      cases same
      rw [ih later, List.cons_append]

/-- The path of a record is decoded from the record's bytes. -/
theorem splitRecord_path {record : List UInt8} {raw : RawEntry}
    (split : splitRecord record = some raw) :
    ∃ rawPath, (∀ byte ∈ rawPath, byte ∈ record) ∧ Utf8.decode rawPath = some raw.path := by
  unfold splitRecord at split
  simp only [Option.bind_eq_bind, Option.bind_eq_some_iff, Option.pure_def, Option.some.injEq]
    at split
  obtain ⟨⟨metadata, rawPath⟩, first, _, _, _, _, _, _, _, _, _, _, path, decoded, rfl⟩ := split
  refine ⟨rawPath, fun byte mem => ?_, decoded⟩
  rw [splitFirst_eq_some first]
  exact List.mem_append_right _ (List.mem_cons_of_mem _ mem)

theorem records_clean {raw record : List UInt8} (mem : record ∈ records raw) : 0 ∉ record := by
  unfold records at mem
  dsimp only at mem
  split at mem
  · exact PathOrder.not_mem_of_mem_splitOn (List.dropLast_subset _ mem)
  · exact PathOrder.not_mem_of_mem_splitOn mem

/-- A text without NUL is what bytes without NUL spell. -/
theorem decode_clean {bytes : List UInt8} {path : PyStr} (decoded : Utf8.decode bytes = some path)
    (clean : 0 ∉ bytes) : 0 ∉ path := by
  intro held
  rw [← (Utf8.decode_eq_some decoded).2] at clean
  exact clean (List.mem_flatMap.mpr ⟨0, held, List.mem_singleton_self _⟩)

theorem validateTreeEntry_eq_ok {seen : List PyStr} {raw : RawEntry} {entry : TreeEntry}
    (valid : validateTreeEntry seen raw = .ok entry) :
    entry.path = raw.path ∧ safePath raw.path = true ∧ raw.path ∉ seen ∧
      ∀ existing ∈ seen, startsBelow raw.path existing = false ∧
        startsBelow existing raw.path = false := by
  unfold validateTreeEntry at valid
  split at valid
  · split at valid
    · cases valid
    next allowed =>
      split at valid
      · cases valid
      next free =>
        cases valid
        simp only [not_or, Bool.not_eq_true', Bool.not_eq_false, ne_eq, not_not] at allowed
        have apart : ∀ existing ∈ seen, startsBelow raw.path existing = false ∧
            startsBelow existing raw.path = false := by simpa using free
        exact ⟨rfl, allowed.1, allowed.2.2, apart⟩
  · cases valid

/-- What the records of a listing are read as, beside what was read before them. -/
theorem parseRecords_eq_ok {rs : List (List UInt8)} {seen : List PyStr}
    {entries : List TreeEntry} (clean : ∀ record ∈ rs, 0 ∉ record)
    (parsed : parseRecords seen rs = .ok entries) :
    (∀ entry ∈ entries, safePath entry.path = true ∧ (∀ c ∈ entry.path, Utf8.Scalar c) ∧
      0 ∉ entry.path ∧ entry.path ∉ seen ∧ ∀ existing ∈ seen,
        startsBelow entry.path existing = false ∧ startsBelow existing entry.path = false) ∧
    entries.Pairwise fun first second => first.path ≠ second.path ∧
      startsBelow first.path second.path = false ∧ startsBelow second.path first.path = false := by
  induction rs generalizing seen entries with
  | nil =>
    cases parsed
    exact ⟨fun _ mem => (nomatch mem), .nil⟩
  | cons record rs ih =>
    obtain ⟨here, later⟩ := List.forall_mem_cons.mp clean
    unfold parseRecords at parsed
    split at parsed
    · cases parsed
    next raw split_at =>
      obtain ⟨entry, valid, rest⟩ := Raising.bind_eq_ok.mp parsed
      obtain ⟨others, read, same⟩ := Raising.bind_eq_ok.mp rest
      cases same
      obtain ⟨path_eq, safe, fresh, apart⟩ := validateTreeEntry_eq_ok valid
      obtain ⟨rawPath, inside, decoded⟩ := splitRecord_path split_at
      obtain ⟨each, pairs⟩ := ih later read
      rw [← path_eq] at safe fresh apart decoded
      refine ⟨List.forall_mem_cons.mpr ⟨⟨safe, (Utf8.decode_eq_some decoded).1,
        decode_clean decoded fun nul => here (inside 0 nul), fresh, apart⟩, fun other mem => ?_⟩,
        List.pairwise_cons.mpr ⟨fun other mem => ?_, pairs⟩⟩
      · obtain ⟨safe', scalar', clean', fresh', apart'⟩ := each other mem
        exact ⟨safe', scalar', clean', fun held => fresh' (List.mem_cons_of_mem _ held),
          fun existing held => apart' existing (List.mem_cons_of_mem _ held)⟩
      · obtain ⟨-, -, -, fresh', apart'⟩ := each other mem
        have both := apart' entry.path List.mem_cons_self
        exact ⟨fun same => fresh' (same ▸ List.mem_cons_self), both.2, both.1⟩

theorem startsBelow_self (path : PyStr) : startsBelow path path = false := by
  refine eq_false_of_ne_true fun below => ?_
  have longer := (List.isPrefixOf_iff_prefix.mp below).length_le
  rw [List.length_append, List.length_singleton] at longer
  omega

/-- **What is read has the form of a tree.** -/
theorem parseTree_form {raw : List UInt8} {tree : List TreeEntry}
    (parsed : parseTree raw = .ok tree) : TreeForm tree := by
  obtain ⟨entries, read, same⟩ := Raising.bind_eq_ok.mp parsed
  cases same
  obtain ⟨each, pairs⟩ := parseRecords_eq_ok (fun _ => records_clean) read
  have perm := List.perm_insertionSort (fun (first second : TreeEntry) => first.path ≤ second.path)
    entries
  have symmetric : ∀ first second : TreeEntry, (first.path ≠ second.path ∧
      startsBelow first.path second.path = false ∧ startsBelow second.path first.path = false) →
      second.path ≠ first.path ∧ startsBelow second.path first.path = false ∧
        startsBelow first.path second.path = false :=
    fun first second both => ⟨both.1.symm, both.2.2, both.2.1⟩
  have sorted_pairs := (perm.symm.pairwise_iff fun {first second} => symmetric first second).mp pairs
  have ordered := List.pairwise_insertionSort
    (fun (first second : TreeEntry) => first.path ≤ second.path) entries
  refine ⟨fun entry mem => (each entry (perm.mem_iff.mp mem)).1,
    fun entry mem => (each entry (perm.mem_iff.mp mem)).2.1,
    fun entry mem => (each entry (perm.mem_iff.mp mem)).2.2.1, ?_, fun first mem second held => ?_⟩
  · exact (ordered.and sorted_pairs).imp fun both => lt_of_le_of_ne both.1 both.2.1
  · exact List.Pairwise.forall_of_forall_of_flip (fun entry _ => startsBelow_self entry.path)
      (sorted_pairs.imp fun both => both.2.1) (sorted_pairs.imp fun both => both.2.2) mem held

/-! ## The names of a path -/

section Names

variable {path above : PyStr}

theorem splitPath_ne_nil (path : PyStr) : splitPath path ≠ [] := List.splitOn_ne_nil _ _

theorem splitPath_split (path : PyStr) :
    (splitPath path).dropLast ++ [(splitPath path).getLastD []] = splitPath path := by
  have more := splitPath_ne_nil path
  generalize splitPath path = names at more
  obtain ⟨front, last, rfl⟩ := (List.eq_nil_or_concat names).resolve_left more
  simp

theorem intercalate_append {sep : PyStr} {front back : List PyStr} (some : front ≠ [])
    (more : back ≠ []) :
    sep.intercalate (front ++ back) = sep.intercalate front ++ sep ++ sep.intercalate back := by
  induction front with
  | nil => exact (some rfl).elim
  | cons name front ih =>
    by_cases last : front = []
    · subst last
      rw [List.singleton_append, List.intercalate_cons_of_ne_nil more, List.intercalate_singleton]
    · have joined : front ++ back ≠ [] := List.append_ne_nil_of_left_ne_nil last back
      rw [List.cons_append, List.intercalate_cons_of_ne_nil joined,
        List.intercalate_cons_of_ne_nil last, ih last]
      simp only [List.append_assoc]

theorem mem_intercalate {sep name : PyStr} {names : List PyStr} {c : Nat} (mem : name ∈ names)
    (held : c ∈ name) : c ∈ sep.intercalate names := by
  induction names with
  | nil => cases mem
  | cons first names ih =>
    by_cases last : names = []
    · subst last
      rw [List.mem_singleton] at mem
      rw [List.intercalate_singleton, ← mem]
      exact held
    · rw [List.intercalate_cons_of_ne_nil last]
      rcases List.mem_cons.mp mem with rfl | later
      · exact List.mem_append_left _ (List.mem_append_left _ held)
      · exact List.mem_append_right _ (ih later)

theorem splitPath_injective (same : splitPath path = splitPath above) : path = above := by
  have spelled := congrArg [slash].intercalate same
  unfold splitPath at spelled
  rwa [List.intercalate_splitOn, List.intercalate_splitOn] at spelled

/-- A path lies below another where its names go on from the other's. -/
theorem startsBelow_iff :
    startsBelow path above = true ↔ ∃ more, more ≠ [] ∧ splitPath path = splitPath above ++ more := by
  unfold startsBelow
  rw [List.isPrefixOf_iff_prefix]
  constructor
  · rintro ⟨rest, rfl⟩
    refine ⟨splitPath rest, splitPath_ne_nil rest, ?_⟩
    unfold splitPath
    rw [List.append_assoc, List.singleton_append, List.splitOn_append_cons_self]
  · rintro ⟨more, some, names⟩
    refine ⟨[slash].intercalate more, ?_⟩
    have spelled := congrArg [slash].intercalate names
    rw [intercalate_append (splitPath_ne_nil above) some] at spelled
    unfold splitPath at spelled
    rw [List.intercalate_splitOn, List.intercalate_splitOn] at spelled
    exact spelled.symm

theorem mem_of_mem_splitPath {part : PyStr} {c : Nat} (mem : part ∈ splitPath path)
    (held : c ∈ part) : c ∈ path := by
  have spelled : [slash].intercalate (path.splitOn slash) = path := List.intercalate_splitOn slash
  rw [← spelled]
  exact mem_intercalate mem held

end Names

end CandidateTrees

end SyncApp
