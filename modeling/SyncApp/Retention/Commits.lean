import SyncApp.Retention.Rewriting

/-!
# What a rebuilt commit is

`severed` is what a rebuilt commit should be: the original, byte for byte, but for its parent and
the headers that are dropped. What the code writes is that exactly where reading the original's
line ends harms nothing that is kept, and no header is the bare word `tree`
(`rewriteCommitParent_severed`).

`gitParents` is how Git reads the parents of an object: the lines after the tree's.
-/

set_option autoImplicit false

namespace SyncApp

open Lib

namespace Retention

open CommitText
open Records (isObjectId isObjectId_ascii)

/-! ## Commits as they should be -/

/-- The commit with this parent, or with none, and without its signatures. -/
def CommitParts.severed (parent : Option PyStr) (parsed : CommitParts) : PyStr :=
  parsed.rewritten isDropped isTree (parentLines parent)

def severed (parent : Option PyStr) (original : PyStr) : Option PyStr :=
  (parse original).map (CommitParts.severed parent)

/-- Every CR of the commit stands in a header that is dropped, and what it is read to begin is
dropped too. -/
def ReadsWell (original : PyStr) : Prop :=
  ∃ parsed, parse original = some parsed ∧ parsed.Harmless isDropped

/-- No header is the bare word `tree`. -/
def OneTreeKey (original : PyStr) : Prop :=
  ∀ parsed, parse original = some parsed → ∀ group ∈ parsed.groups,
    isTreeKey (group.headD []) = true → isTree (group.headD []) = true

/-- The parents of an object, as Git reads them. -/
def gitParents (object : List UInt8) : List PyStr :=
  match (object.map UInt8.toNat).splitOn 10 with
  | [] => []
  | tree :: lines => if isTree tree then (lines.takeWhile isParent).map (·.drop 7) else []

/-! ## Lines -/

theorem isTree_iff {line : PyStr} : isTree line = true ↔ treePrefix <+: line :=
  List.isPrefixOf_iff_prefix

theorem isParent_iff {line : PyStr} : isParent line = true ↔ parentPrefix <+: line :=
  List.isPrefixOf_iff_prefix

theorem isTree_not_continuation {line : PyStr} (continues : isContinuation line = true) :
    isTree line = false := by
  refine Bool.eq_false_iff.mpr fun tree => ?_
  obtain ⟨rest, rfl⟩ := isTree_iff.mp tree
  exact Bool.false_ne_true continues

theorem isParent_not_continuation {line : PyStr} (continues : isContinuation line = true) :
    isParent line = false := by
  refine Bool.eq_false_iff.mpr fun parent => ?_
  obtain ⟨rest, rfl⟩ := isParent_iff.mp parent
  exact Bool.false_ne_true continues

theorem nameOf_tree {group : List PyStr} (tree : isTree (group.headD []) = true) :
    nameOf group = text "tree" := by
  obtain ⟨rest, same⟩ := isTree_iff.mp tree
  unfold nameOf
  rw [← same]
  rfl

theorem nameOf_parent {group : List PyStr} (parent : isParent (group.headD []) = true) :
    nameOf group = text "parent" := by
  obtain ⟨rest, same⟩ := isParent_iff.mp parent
  unfold nameOf
  rw [← same]
  rfl

theorem isTree_kept {group : List PyStr} (tree : isTree (group.headD []) = true) :
    isDropped (nameOf group) = false := by
  rw [nameOf_tree tree]
  decide

theorem isParent_dropped {group : List PyStr} (parent : isParent (group.headD []) = true) :
    isDropped (nameOf group) = true := by
  rw [nameOf_parent parent]
  decide

theorem isTreeKey_of_isTree (line : PyStr) (tree : isTree line = true) : isTreeKey line = true :=
  decide_eq_true (@nameOf_tree [line] tree)

theorem isTreeKey_kept {group : List PyStr} (tree : isTreeKey (group.headD []) = true) :
    isDropped (nameOf group) = false := by
  have named : nameOf group = text "tree" := of_decide_eq_true tree
  rw [named]
  decide

theorem isParent_parentLines {parent : Option PyStr} :
    ∀ line ∈ parentLines parent, isParent line = true := by
  cases parent with
  | none => exact fun line mem => nomatch mem
  | some parent =>
    intro line mem
    rw [List.mem_singleton.mp mem]
    exact isParent_iff.mpr (List.prefix_append _ _)

theorem isTree_parentLines {parent : Option PyStr} :
    ∀ line ∈ parentLines parent, isTree line = false := by
  cases parent with
  | none => exact fun line mem => nomatch mem
  | some parent =>
    intro line mem
    rw [List.mem_singleton.mp mem]
    rfl

theorem hex_ascii {sha : PyStr} (hex : isObjectId sha = true) : ∀ c ∈ sha, 14 ≤ c ∧ c < 128 := by
  intro c mem
  unfold isObjectId Records.hexOf at hex
  rw [Bool.or_eq_true, Bool.and_eq_true, Bool.and_eq_true] at hex
  have all : sha.all ObservationChain.isHex = true := hex.elim (·.2) (·.2)
  have := List.all_eq_true.mp all c mem
  unfold ObservationChain.isHex at this
  simp only [Bool.or_eq_true, Bool.and_eq_true, decide_eq_true_eq] at this
  omega

/-- A line with a parent is a line of ASCII. -/
theorem parentLines_ascii {parent : Option PyStr} (hex : ∀ sha ∈ parent, isObjectId sha = true) :
    ∀ line ∈ parentLines parent, line ≠ [] ∧ ∀ c ∈ line, 14 ≤ c ∧ c < 128 := by
  cases parent with
  | none => exact fun line mem => nomatch mem
  | some sha =>
    intro line mem
    rw [List.mem_singleton.mp mem]
    refine ⟨List.cons_ne_nil _ _, fun c inside => ?_⟩
    rcases List.mem_append.mp inside with word | id
    · exact (show ∀ c ∈ parentPrefix, 14 ≤ c ∧ c < 128 by decide) c word
    · exact hex_ascii (hex sha rfl) c id

theorem parentLines_fine {parent : Option PyStr} (hex : ∀ sha ∈ parent, isObjectId sha = true) :
    ∀ line ∈ parentLines parent, 10 ∉ line ∧ 13 ∉ line ∧ line ≠ [] := by
  intro line mem
  obtain ⟨some, ascii⟩ := parentLines_ascii hex line mem
  refine ⟨fun inside => ?_, fun inside => ?_, some⟩
  · have := (ascii 10 inside).1
    omega
  · have := (ascii 13 inside).1
    omega

/-! ## Commits of one parent -/

/-- The text has one tree and this one parent. -/
structure OneParent (parent : PyStr) (parsed : CommitParts) : Prop where
  tree : ∃ group, parsed.groups.filter (isTree <| ·.headD []) = [group] ∧
    isObjectId ((group.headD []).drop 5) = true
  parents : ∃ group, parsed.groups.filter (isParent <| ·.headD []) = [group] ∧
    (group.headD []).drop 7 = parent
  hex : isObjectId parent = true

section

variable {branch : Branch} {raw original parent rebuilt : PyStr} {added : Option PyStr}
  {parsed read : CommitParts}

theorem rewriteCommitParent_eq_ok :
    rewriteCommitParent branch raw parent added = .ok rebuilt ↔
      ∃ parsed, parse raw = some parsed ∧ OneParent parent parsed ∧
        rebuilt = parsed.rewritten isDropped isTreeKey (parentLines added) := by
  unfold rewriteCommitParent
  constructor
  · intro made
    split at made
    next => cases made
    next parsed taken =>
      split at made
      next tree group trees parents =>
        split at made
        next fine =>
          rw [Bool.and_eq_true, Bool.and_eq_true, decide_eq_true_eq] at fine
          cases made
          refine ⟨parsed, taken, ⟨⟨tree, trees, fine.1.1⟩, ⟨group, parents, fine.2⟩, ?_⟩, rfl⟩
          exact fine.2 ▸ fine.1.2
        next => cases made
      next => cases made
  · rintro ⟨parsed, taken, ⟨⟨tree, trees, treeSha⟩, ⟨group, parents, same⟩, hex⟩, rfl⟩
    rw [taken]
    dsimp only
    rw [trees, parents]
    dsimp only
    rw [treeSha, same, hex, decide_eq_true rfl]
    rfl

/-- A commit of one parent is still something when it is rewritten. -/
theorem OneParent.rewriteGroups_ne_nil (one : OneParent parent parsed) (of : parsed.Of raw)
    {marks : PyStr → Bool} {lines : List PyStr} :
    joinLines (rewriteGroups isDropped marks lines parsed.groups) ≠ [] := by
  obtain ⟨group, trees, -⟩ := one.tree
  have mem : group ∈ parsed.groups.filter (isTree <| ·.headD []) :=
    trees ▸ List.mem_singleton_self _
  obtain ⟨here, tree⟩ := List.mem_filter.mp mem
  obtain ⟨rest, same⟩ := isTree_iff.mp tree
  have held := (of.groups group here).nonempty
  cases group with
  | nil => exact absurd rfl held
  | cons line more =>
    have line_mem : line ∈ rewriteGroups isDropped marks lines parsed.groups := by
      refine List.mem_flatMap.mpr ⟨line :: more, here, ?_⟩
      rw [keptOf_of_kept (isTree_kept tree)]
      split
      · exact List.mem_cons_self
      · exact List.mem_cons_self
    have inside : 116 ∈ line := by
      rw [← show treePrefix ++ rest = line from same]
      exact List.mem_cons_self
    exact List.ne_nil_of_mem (mem_joinLines line_mem inside)

/-- **What the code writes for a commit is the commit severed** exactly where it reads it well. -/
theorem rewriteCommitParent_severed (hex : ∀ sha ∈ added, isObjectId sha = true)
    (made : rewriteCommitParent branch (translate original) parent added = .ok rebuilt) :
    severed added original = some rebuilt ↔
      ReadsWell original ∧ (added ≠ none → OneTreeKey original) := by
  obtain ⟨read, was, one, rfl⟩ := rewriteCommitParent_eq_ok.mp made
  have harmless := @translate_harmless_iff isDropped isTreeKey isTree (parentLines added) original
    read (by decide) (parentLines_fine hex) isTreeKey_of_isTree was
    (one.rewriteGroups_ne_nil (parse_eq_some.mp was))
  have some_iff : severed added original =
      some (read.rewritten isDropped isTreeKey (parentLines added)) ↔
      ∃ parsed, parse original = some parsed ∧
        parsed.rewritten isDropped isTree (parentLines added) =
          read.rewritten isDropped isTreeKey (parentLines added) := Option.map_eq_some_iff
  have lines : parentLines added ≠ [] ↔ added ≠ none := by
    cases added with
    | none => exact ⟨fun held => absurd rfl held, fun held => absurd rfl held⟩
    | some sha => exact ⟨fun _ => Option.some_ne_none sha, fun _ => List.cons_ne_nil _ _⟩
  rw [some_iff, harmless]
  constructor
  · rintro ⟨parsed, taken, reads, keys⟩
    refine ⟨⟨parsed, taken, reads⟩, fun some other same group mem key => ?_⟩
    cases taken.symm.trans same
    exact keys (lines.mpr some) group mem (isTreeKey_kept key) key
  · rintro ⟨⟨parsed, taken, reads⟩, keys⟩
    exact ⟨parsed, taken, reads, fun some group mem _ key =>
      keys (lines.mp some) parsed taken group mem key⟩

/-- A commit without CR is read well. -/
theorem readsWell_of_not_mem (free : 13 ∉ original) (taken : parse original = some parsed) :
    ReadsWell original := by
  have of := parse_eq_some.mp taken
  rw [of.whole] at free
  have lines : ∀ group ∈ parsed.groups, ∀ line ∈ group, 13 ∉ line := by
    intro group mem line here inside
    refine free (List.mem_append_left _ (mem_joinLines ?_ inside))
    exact List.mem_flatten.mpr ⟨group, mem, here⟩
  refine ⟨parsed, taken, fun mem => free (List.mem_append_right _ (.tail _ (.tail _ mem))),
    fun group mem _ => lines group mem, fun group mem gone part inside => ?_⟩
  rw [(of.groups group mem).regroup_of_not_mem (lines group mem)] at inside
  exact List.mem_singleton.mp inside ▸ gone

/-- The trees of a commit that is read well are those that are read. -/
theorem filter_isTree (reads : parsed.Harmless isDropped) (taken : parse original = some parsed)
    (was : parse (translate original) = some read) :
    parsed.groups.filter (isTree <| ·.headD []) = read.groups.filter (isTree <| ·.headD []) := by
  have kept := reads.filter_kept (by decide) (parse_eq_some.mp taken) (parse_eq_some.mp was)
  have trees : ∀ groups : List (List PyStr), groups.filter (isTree <| ·.headD []) =
      (groups.filter fun group => !isDropped (nameOf group)).filter (isTree <| ·.headD []) := by
    intro groups
    rw [List.filter_filter]
    refine List.filter_congr fun group _ => ?_
    cases tree : isTree (group.headD []) with
    | true => rw [isTree_kept tree]; rfl
    | false => rfl
  rw [trees, trees read.groups, kept]

/-! ## What is read of a rebuilt commit -/

/-- The parents of what is rewritten are those that were added. -/
theorem isParent_rewriteGroups {marks : PyStr → Bool} {lines : List PyStr} {line : PyStr}
    {groups : List (List PyStr)} (all : ∀ group ∈ groups, Group group)
    (mem : line ∈ rewriteGroups isDropped marks lines groups)
    (isParentLine : isParent line = true) : line ∈ lines := by
  obtain ⟨group, here, inside⟩ := List.mem_flatMap.mp mem
  unfold keptOf at inside
  split at inside
  next => cases inside
  next kept =>
    have old : line ∉ group := by
      intro held
      obtain ⟨nonempty, -, continued⟩ := all group here
      cases group with
      | nil => exact nonempty rfl
      | cons first more =>
        rcases List.mem_cons.mp held with rfl | later
        · exact kept (@isParent_dropped (line :: more) isParentLine)
        · rw [isParent_not_continuation (continued line later)] at isParentLine
          cases isParentLine
    split at inside
    next => exact (List.mem_append.mp inside).resolve_left old
    next => exact absurd inside old

/-- The parent is added after the tree. -/
theorem OneParent.added_mem (one : OneParent parent parsed) {line : PyStr}
    (mem : line ∈ parentLines added) :
    line ∈ rewriteGroups isDropped isTreeKey (parentLines added) parsed.groups := by
  obtain ⟨group, trees, -⟩ := one.tree
  have held : group ∈ parsed.groups.filter (isTree <| ·.headD []) :=
    trees ▸ List.mem_singleton_self _
  obtain ⟨here, tree⟩ := List.mem_filter.mp held
  refine List.mem_flatMap.mpr ⟨group, here, ?_⟩
  rw [keptOf_of_kept (isTree_kept tree), if_pos (isTreeKey_of_isTree _ tree)]
  exact List.mem_append_right _ mem

/-- The header of a severed commit has the tree of the original and the parent that was added. -/
theorem severed_lines {group : List PyStr} (of : parsed.Of raw)
    (trees : parsed.groups.filter (isTree <| ·.headD []) = [group]) :
    (rewriteGroups isDropped isTree (parentLines added) parsed.groups).filter isTree =
        [group.headD []] ∧
      (rewriteGroups isDropped isTree (parentLines added) parsed.groups).filter isParent =
        parentLines added := by
  have kept : (parsed.groups.filter fun group => !isDropped (nameOf group)).filter
      (isTree <| ·.headD []) = [group] := by
    rw [List.filter_filter, ← trees]
    refine List.filter_congr fun group _ => ?_
    cases tree : isTree (group.headD []) with
    | true => rw [isTree_kept tree]; rfl
    | false => rfl
  have added_trees : (parentLines added).filter isTree = [] :=
    List.filter_eq_nil_iff.mpr fun line mem => by
      rw [isTree_parentLines line mem]
      exact Bool.false_ne_true
  have added_parents : (parentLines added).filter isParent = parentLines added :=
    List.filter_eq_self.mpr isParent_parentLines
  have dropped : ∀ group ∈ parsed.groups.filter fun group => !isDropped (nameOf group),
      isParent (group.headD []) = false := by
    intro group mem
    refine Bool.eq_false_iff.mpr fun parent => ?_
    have := (List.mem_filter.mp mem).2
    rw [isParent_dropped parent] at this
    cases this
  rw [filter_rewriteGroups (fun _ => isTree_not_continuation) of.groups,
    filter_rewriteGroups (fun _ => isParent_not_continuation) of.groups, added_trees, added_parents]
  generalize parsed.groups.filter (fun group => !isDropped (nameOf group)) = groups at kept dropped
  constructor
  · have all : ∀ groups : List (List PyStr), (groups.flatMap fun group =>
        (if isTree (group.headD []) then [group.headD []] else []) ++
          if isTree (group.headD []) then [] else []) =
        (groups.filter (isTree <| ·.headD [])).map (·.headD []) := by
      intro groups
      induction groups with
      | nil => rfl
      | cons other groups ih =>
        rw [List.flatMap_cons, ih, List.filter_cons]
        split <;> rfl
    rw [all, kept]
    rfl
  · have all : ∀ groups : List (List PyStr), (∀ group ∈ groups, isParent (group.headD []) = false) →
        (groups.flatMap fun group =>
          (if isParent (group.headD []) then [group.headD []] else []) ++
            if isTree (group.headD []) then parentLines added else []) =
        (groups.filter (isTree <| ·.headD [])).flatMap fun _ => parentLines added := by
      intro groups none
      induction groups with
      | nil => rfl
      | cons other groups ih =>
        obtain ⟨here, later⟩ := List.forall_mem_cons.mp none
        rw [List.flatMap_cons, ih later, here, if_neg Bool.false_ne_true, List.nil_append]
        cases tree : isTree (other.headD []) with
        | true =>
          rw [@List.filter_cons_of_pos _ (isTree <| ·.headD []) other groups tree,
            List.flatMap_cons]
          rfl
        | false =>
          rw [@List.filter_cons_of_neg _ (isTree <| ·.headD []) other groups
            (by rw [tree]; decide)]
          rfl
    rw [all groups dropped, kept]
    exact List.append_nil _

/-- What is read of a text with one tree, and the parents among its header lines. -/
theorem commitTreeAndParents_compose {lines : List PyStr} {message tree : PyStr}
    {parents : List PyStr} (header : HeaderLines lines) (some : joinLines lines ≠ [])
    (trees : lines.filter isTree = [tree]) (hex : isObjectId (tree.drop 5) = true)
    (found : (lines.filter isParent).map (·.drop 7) = parents)
    (all : ∀ sha ∈ parents, isObjectId sha = true) (few : parents.length ≤ 1) :
    commitTreeAndParents branch (compose lines message) = .ok (tree.drop 5, parents) := by
  unfold commitTreeAndParents
  rw [partitionBlank_compose header]
  dsimp only
  rw [splitOn_joinLines header.nonempty header.single, trees, found, if_neg some]
  show (if _ then _ else _) = _
  rw [hex, List.all_eq_true.mpr all, decide_eq_true few]
  rfl

/-- A commit of one parent is read with its tree and this parent. -/
theorem OneParent.commitTreeAndParents (one : OneParent parent parsed)
    (taken : parse raw = some parsed) {group : List PyStr}
    (trees : parsed.groups.filter (isTree <| ·.headD []) = [group]) :
    isObjectId ((group.headD []).drop 5) = true ∧
      Retention.commitTreeAndParents branch raw = .ok ((group.headD []).drop 5, [parent]) := by
  have of := parse_eq_some.mp taken
  obtain ⟨⟨_, same, hex⟩, ⟨other, parents, here⟩, parentHex⟩ := one
  cases trees.symm.trans same
  refine ⟨hex, ?_⟩
  rw [of.whole]
  refine commitTreeAndParents_compose of.lines of.header ?_ hex ?_ ?_ (Nat.le_refl 1)
  · rw [filter_flatten (fun _ => isTree_not_continuation) of.groups, trees]
    rfl
  · rw [filter_flatten (fun _ => isParent_not_continuation) of.groups, parents]
    exact congrArg (fun sha => [sha]) here
  · exact fun sha mem => List.mem_singleton.mp mem ▸ parentHex

/-- A severed commit is read with the original's tree and the parent that was added. -/
theorem severed_commitTreeAndParents (of : parsed.Of raw)
    (hex : ∀ sha ∈ added, isObjectId sha = true) {group : List PyStr}
    (trees : parsed.groups.filter (isTree <| ·.headD []) = [group])
    (treeHex : isObjectId ((group.headD []).drop 5) = true) :
    commitTreeAndParents branch (CommitParts.severed added parsed) =
      .ok ((group.headD []).drop 5, added.toList) := by
  obtain ⟨treeLines, parents⟩ := @severed_lines raw added parsed group of trees
  have nonempty : joinLines (rewriteGroups isDropped isTree (parentLines added) parsed.groups) ≠
      [] := by
    have mem : group.headD [] ∈ rewriteGroups isDropped isTree (parentLines added)
        parsed.groups := List.mem_of_mem_filter (treeLines ▸ List.mem_singleton_self _)
    have tree : isTree (group.headD []) = true := by
      have mem : group ∈ parsed.groups.filter (isTree <| ·.headD []) :=
        trees ▸ List.mem_singleton_self group
      exact (List.mem_filter.mp mem).2
    obtain ⟨rest, same⟩ := isTree_iff.mp tree
    have inside : 116 ∈ group.headD [] := by
      rw [← same]
      exact List.mem_cons_self
    exact List.ne_nil_of_mem (mem_joinLines mem inside)
  have header := headerLines_rewriteGroups of.lines of.groups
    (fun line mem => ⟨(parentLines_fine hex line mem).1, (parentLines_fine hex line mem).2.2⟩)
    (fun empty => nonempty (by rw [empty]; rfl))
  refine commitTreeAndParents_compose header nonempty treeLines treeHex ?_ ?_ ?_
  · rw [parents]
    cases added with
    | none => rfl
    | some sha => rfl
  · exact fun sha mem => hex sha (Option.mem_toList.mp mem)
  · cases added with
    | none => exact Nat.zero_le 1
    | some sha => exact Nat.le_refl 1

/-! ## Git's parents -/

theorem octets_joinLines (lines : List PyStr) :
    Utf8.octets (joinLines lines) = joinLines (lines.map Utf8.octets) := by
  induction lines with
  | nil => rfl
  | cons line lines ih =>
    cases lines with
    | nil => rw [joinLines_singleton, List.map_singleton, joinLines_singleton]
    | cons next lines =>
      have more : (next :: lines).map Utf8.octets ≠ [] := List.cons_ne_nil _ _
      rw [@joinLines_cons line (next :: lines) (List.cons_ne_nil _ _), List.map_cons,
        joinLines_cons more, Utf8.octets_append, Utf8.octets_cons 10,
        Utf8.octets_char_ascii (by decide), ih]
      rfl

/-- The lines of an object are those of the text that it spells. -/
theorem octets_lines {value : PyStr} (scalars : ∀ c ∈ value, Utf8.Scalar c) :
    (Utf8.octets value).splitOn 10 = (value.splitOn 10).map Utf8.octets := by
  have whole := congrArg Utf8.octets (joinLines_splitOn value)
  rw [octets_joinLines] at whole
  rw [← whole]
  refine splitOn_joinLines ?_ fun line mem inside => ?_
  · exact fun empty => List.splitOn_ne_nil _ _ (List.map_eq_nil_iff.mp empty)
  · obtain ⟨old, here, rfl⟩ := List.mem_map.mp mem
    refine PathOrder.not_mem_of_mem_splitOn here (Utf8.mem_of_mem_octets (fun c there => ?_)
      (by decide) inside)
    refine scalars c ?_
    rw [← joinLines_splitOn value]
    exact mem_joinLines here there

theorem splitOn_compose {lines : List PyStr} (header : HeaderLines lines) (message : PyStr) :
    (compose lines message).splitOn 10 = lines ++ [] :: message.splitOn 10 := by
  have nonempty : lines ++ [] :: message.splitOn 10 ≠ [] :=
    List.append_ne_nil_of_left_ne_nil header.nonempty _
  have single : ∀ line ∈ lines ++ [] :: message.splitOn 10, 10 ∉ line := by
    intro line mem
    rcases List.mem_append.mp mem with here | there
    · exact header.single line here
    · rcases List.mem_cons.mp there with rfl | later
      · exact List.not_mem_nil
      · exact PathOrder.not_mem_of_mem_splitOn later
  have whole : joinLines (lines ++ [] :: message.splitOn 10) = compose lines message := by
    rw [joinLines_append header.nonempty (List.cons_ne_nil _ _),
      joinLines_cons (List.splitOn_ne_nil _ _), joinLines_splitOn]
    rfl
  rw [← whole, splitOn_joinLines nonempty single]

theorem mem_of_mem_joinLines {lines : List PyStr} {c : Nat} (mem : c ∈ joinLines lines) :
    c = 10 ∨ ∃ line ∈ lines, c ∈ line := by
  induction lines with
  | nil => cases mem
  | cons line lines ih =>
    cases lines with
    | nil =>
      rw [joinLines_singleton] at mem
      exact .inr ⟨line, List.mem_cons_self, mem⟩
    | cons next lines =>
      rw [joinLines_cons (List.cons_ne_nil _ _)] at mem
      rcases List.mem_append.mp mem with here | there
      · exact .inr ⟨line, List.mem_cons_self, here⟩
      · rcases List.mem_cons.mp there with same | later
        · exact .inl same
        · exact (ih later).imp id fun ⟨other, held, inside⟩ =>
            ⟨other, List.mem_cons_of_mem _ held, inside⟩

/-- What is rewritten can be encoded where the text can. -/
theorem rewritten_scalars (of : parsed.Of raw) (scalars : ∀ c ∈ raw, Utf8.Scalar c)
    (hex : ∀ sha ∈ added, isObjectId sha = true) {marks : PyStr → Bool} :
    ∀ c ∈ parsed.rewritten isDropped marks (parentLines added), Utf8.Scalar c := by
  intro c mem
  rw [of.whole] at scalars
  rcases List.mem_append.mp mem with front | back
  · rcases mem_of_mem_joinLines front with rfl | ⟨line, here, inside⟩
    · exact Utf8.scalar_of_ascii (by decide)
    · rcases mem_rewriteGroups here with old | new
      · exact scalars c (List.mem_append_left _ (mem_joinLines old inside))
      · exact Utf8.scalar_of_ascii ((parentLines_ascii hex line new).2 c inside).2
  · exact scalars c (List.mem_append_right _ back)

theorem isParent_of_octets {line : PyStr} (scalars : ∀ c ∈ line, Utf8.Scalar c)
    (parent : isParent (Utf8.octets line) = true) : isParent line = true :=
  isParent_iff.mpr (Utf8.isPrefix_of_octets scalars (by decide) (isParent_iff.mp parent))

/-- What is kept does not begin with a parent. -/
theorem head_rewriteGroups {marks : PyStr → Bool} {lines : List PyStr}
    {groups : List (List PyStr)} (all : ∀ group ∈ groups, Group group) :
    ∀ line ∈ (rewriteGroups isDropped marks lines groups).head?, isParent line = false := by
  induction groups with
  | nil => exact fun line mem => nomatch mem
  | cons group groups ih =>
    obtain ⟨held, later⟩ := List.forall_mem_cons.mp all
    unfold rewriteGroups at ih ⊢
    rw [List.flatMap_cons]
    cases gone : isDropped (nameOf group) with
    | true =>
      rw [keptOf, if_pos gone]
      exact ih later
    | false =>
      have opened := held.nonempty
      cases group with
      | nil => exact absurd rfl opened
      | cons first more =>
        have here : isParent first = false := by
          refine Bool.eq_false_iff.mpr fun parent => ?_
          have := @isParent_dropped (first :: more) parent
          rw [gone] at this
          cases this
        rw [keptOf_of_kept gone]
        intro line mem
        split at mem
        · cases mem
          exact here
        · cases mem
          exact here

theorem gitParents_cons {object : List UInt8} {tree : PyStr} {lines : List PyStr}
    (same : (object.map UInt8.toNat).splitOn 10 = tree :: lines) :
    gitParents object =
      if isTree tree then (lines.takeWhile isParent).map (·.drop 7) else [] := by
  unfold gitParents
  rw [same]

/-- A line after the tree with which the parents begin is one of them. -/
theorem isParent_of_gitParents {object : List UInt8} {tree line parents : PyStr}
    {lines : List PyStr}
    (same : (object.map UInt8.toNat).splitOn 10 = tree :: Utf8.octets line :: lines)
    (scalars : ∀ c ∈ line, Utf8.Scalar c) (linear : gitParents object = [parents]) :
    isTree tree = true ∧ isParent line = true := by
  rw [gitParents_cons same] at linear
  split at linear
  next isTreeLine =>
    refine ⟨isTreeLine, isParent_of_octets scalars ?_⟩
    by_contra not
    rw [List.takeWhile_cons_of_neg not] at linear
    cases linear
  next => cases linear

/-- A linear commit begins with its tree and its parent. -/
theorem groups_of_gitParents {parents : PyStr} (of : parsed.Of original)
    (scalars : ∀ c ∈ original, Utf8.Scalar c)
    (linear : gitParents (Utf8.encode original) = [parents]) :
    ∃ tree parent more groups, parsed.groups = [tree] :: (parent :: more) :: groups ∧
      isTree (Utf8.octets tree) = true ∧ isParent parent = true := by
  have lines : ((Utf8.encode original).map UInt8.toNat).splitOn 10 =
      (parsed.groups.flatten ++ [] :: parsed.message.splitOn 10).map Utf8.octets := by
    have spelled := octets_lines scalars
    rw [of.whole, splitOn_compose of.lines] at spelled
    rw [of.whole]
    exact spelled
  have each : ∀ line ∈ parsed.groups.flatten, ∀ c ∈ line, Utf8.Scalar c := by
    intro line mem c inside
    rw [of.whole] at scalars
    exact scalars c (List.mem_append_left _ (mem_joinLines mem inside))
  have nonempty := of.lines.nonempty
  have all := of.groups
  cases groups : parsed.groups with
  | nil =>
    rw [groups] at nonempty
    exact absurd rfl nonempty
  | cons first rest =>
    rw [groups] at lines each all
    obtain ⟨held, others⟩ := List.forall_mem_cons.mp all
    cases first with
    | nil => exact absurd rfl held.nonempty
    | cons tree conts =>
      cases conts with
      | cons line conts =>
        obtain ⟨-, parent⟩ := isParent_of_gitParents lines (each line (by simp)) linear
        rw [isParent_not_continuation (held.continued line List.mem_cons_self)] at parent
        cases parent
      | nil =>
        cases rest with
        | nil =>
          obtain ⟨-, parent⟩ := isParent_of_gitParents lines (fun c mem => nomatch mem) linear
          cases parent
        | cons second rest =>
          obtain ⟨held', -⟩ := List.forall_mem_cons.mp others
          cases second with
          | nil => exact absurd rfl held'.nonempty
          | cons parent more =>
            obtain ⟨isTreeLine, isParentLine⟩ :=
              isParent_of_gitParents lines (each parent (by simp)) linear
            exact ⟨tree, parent, more, rest, rfl, isTreeLine, isParentLine⟩

/-- **Git reads of a severed commit the parent that was added.** -/
theorem gitParents_severed {parents : PyStr} (of : parsed.Of original)
    (scalars : ∀ c ∈ original, Utf8.Scalar c)
    (linear : gitParents (Utf8.encode original) = [parents])
    (hex : ∀ sha ∈ added, isObjectId sha = true) :
    gitParents (Utf8.encode (CommitParts.severed added parsed)) = added.toList := by
  obtain ⟨tree, parent, more, groups, same, isTreeLine, isParentLine⟩ :=
    groups_of_gitParents of scalars linear
  have all := of.groups
  have fine : ∀ line ∈ parentLines added, 10 ∉ line ∧ line ≠ [] := fun line mem =>
    ⟨(parentLines_fine hex line mem).1, (parentLines_fine hex line mem).2.2⟩
  have treeScalars : ∀ c ∈ tree, Utf8.Scalar c := by
    intro c inside
    rw [of.whole, same] at scalars
    exact scalars c (List.mem_append_left _ (mem_joinLines (by simp) inside))
  have treeText : isTree tree = true :=
    isTree_iff.mpr (Utf8.isPrefix_of_octets treeScalars (by decide) (isTree_iff.mp isTreeLine))
  have kept : rewriteGroups isDropped isTree (parentLines added) parsed.groups =
      tree :: (parentLines added ++ rewriteGroups isDropped isTree (parentLines added) groups) := by
    have first : keptOf isDropped isTree (parentLines added) [tree] =
        tree :: parentLines added := by
      exact (keptOf_of_kept (@isTree_kept [tree] treeText)).trans (if_pos treeText)
    have second : keptOf isDropped isTree (parentLines added) (parent :: more) = [] :=
      if_pos (@isParent_dropped (parent :: more) isParentLine)
    rw [same]
    unfold rewriteGroups
    rw [List.flatMap_cons, List.flatMap_cons, first, second]
    rfl
  have header : HeaderLines (rewriteGroups isDropped isTree (parentLines added) parsed.groups) :=
    headerLines_rewriteGroups of.lines of.groups fine (by rw [kept]; exact List.cons_ne_nil _ _)
  have spelled := octets_lines (@rewritten_scalars original added parsed of scalars hex isTree)
  have taken : (CommitParts.severed added parsed).splitOn 10 = tree :: (parentLines added ++
      (rewriteGroups isDropped isTree (parentLines added) groups ++
        [] :: parsed.message.splitOn 10)) := by
    refine (splitOn_compose header parsed.message).trans ?_
    rw [kept, List.cons_append, List.append_assoc]
  have lines : ((Utf8.encode (CommitParts.severed added parsed)).map UInt8.toNat).splitOn 10 =
      Utf8.octets tree :: (parentLines added ++
        (rewriteGroups isDropped isTree (parentLines added) groups ++
          [] :: parsed.message.splitOn 10)).map Utf8.octets :=
    spelled.trans (congrArg (List.map Utf8.octets) taken)
  have parentsOctets : (parentLines added).map Utf8.octets = parentLines added := by
    refine (List.map_congr_left fun line mem => ?_).trans (List.map_id _)
    exact Utf8.octets_ascii fun c inside => ((parentLines_ascii hex line mem).2 c inside).2
  have stop : ((rewriteGroups isDropped isTree (parentLines added) groups ++
      [] :: parsed.message.splitOn 10).map Utf8.octets).takeWhile isParent = [] := by
    have head := @head_rewriteGroups isTree (parentLines added) groups fun group mem =>
      all group (same ▸ List.mem_cons_of_mem _ (List.mem_cons_of_mem _ mem))
    have inside : ∀ line ∈ rewriteGroups isDropped isTree (parentLines added) groups,
        ∀ c ∈ line, Utf8.Scalar c := by
      intro line mem c there
      rcases mem_rewriteGroups mem with old | new
      · rw [of.whole, same] at scalars
        refine scalars c (List.mem_append_left _ (mem_joinLines ?_ there))
        rw [List.flatten_cons, List.flatten_cons]
        exact List.mem_append_right _ (List.mem_append_right _ old)
      · exact Utf8.scalar_of_ascii ((parentLines_ascii hex line new).2 c there).2
    cases rest : rewriteGroups isDropped isTree (parentLines added) groups with
    | nil => rfl
    | cons line lines =>
      rw [rest] at head inside
      rw [List.cons_append, List.map_cons, List.takeWhile_cons_of_neg]
      intro parent
      have := isParent_of_octets (inside line List.mem_cons_self) parent
      rw [head line rfl] at this
      cases this
  rw [gitParents_cons lines, if_pos isTreeLine, List.map_append, parentsOctets,
    List.takeWhile_append_of_pos isParent_parentLines, stop, List.append_nil]
  cases added <;> rfl

end

end Retention

end SyncApp
