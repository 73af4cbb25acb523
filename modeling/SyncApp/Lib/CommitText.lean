import Mathlib.Data.List.Infix
import SyncApp.Lib.PathOrder

/-!
# Texts with a header

A text is a header, a blank line and a message, as a commit object of Git is. The header is a list of
lines; a line that begins with a space continues the one before it, and a group of lines is named by
what comes before the first space of its first line. `rewriteGroups` drops the groups of some names
and adds lines after those that begin in a certain way.

`translate` is what a reader does that takes every kind of line end for the same: it replaces CR LF
and CR by LF. A text is rewritten as if it had been read as it is exactly where that reading harms
nothing that is kept (`translate_harmless_iff`).
-/

set_option autoImplicit false

namespace Lib

namespace CommitText

open PathOrder (not_mem_of_mem_splitOn)

abbrev Text := List Nat

/-! ## Lines -/

/-- The text up to the first blank line, and after it. -/
def partitionBlank : Text → Option (Text × Text)
  | [] => none
  | c :: rest =>
    if c = 10 ∧ rest.head? = some 10 then some ([], rest.tail)
    else (partitionBlank rest).map fun (header, message) => (c :: header, message)

def joinLines (lines : List Text) : Text := [10].intercalate lines

/-- The text with this header and this message. -/
def compose (lines : List Text) (message : Text) : Text := joinLines lines ++ 10 :: 10 :: message

/-- Lines as they stand before a blank line: without a line end, and none but the first empty. -/
structure HeaderLines (lines : List Text) : Prop where
  nonempty : lines ≠ []
  single : ∀ line ∈ lines, 10 ∉ line
  filled : ∀ line ∈ lines.tail, line ≠ []

theorem joinLines_singleton (line : Text) : joinLines [line] = line := List.append_nil line

theorem joinLines_cons {line : Text} {lines : List Text} (more : lines ≠ []) :
    joinLines (line :: lines) = line ++ 10 :: joinLines lines := by
  cases lines with
  | nil => exact absurd rfl more
  | cons next lines => rfl

theorem joinLines_append {first second : List Text} (one : first ≠ []) (other : second ≠ []) :
    joinLines (first ++ second) = joinLines first ++ 10 :: joinLines second := by
  induction first with
  | nil => exact absurd rfl one
  | cons line first ih =>
    cases first with
    | nil =>
      rw [joinLines_singleton]
      exact joinLines_cons other
    | cons next first =>
      rw [List.cons_append, joinLines_cons (by simp), ih (List.cons_ne_nil _ _),
        joinLines_cons (List.cons_ne_nil _ _), List.append_assoc]
      rfl

theorem splitOn_joinLines {lines : List Text} (nonempty : lines ≠ [])
    (single : ∀ line ∈ lines, 10 ∉ line) : (joinLines lines).splitOn 10 = lines :=
  List.splitOn_intercalate 10 single nonempty

theorem joinLines_splitOn (text : Text) : joinLines (text.splitOn 10) = text :=
  List.intercalate_splitOn 10

/-- A line goes by whole. -/
theorem partitionBlank_line {line : Text} (single : 10 ∉ line) {rest : Text}
    (apart : rest.head? ≠ some 10) :
    partitionBlank (line ++ 10 :: rest) =
      (partitionBlank rest).map fun (header, message) => (line ++ 10 :: header, message) := by
  induction line with
  | nil =>
    rw [List.nil_append, partitionBlank, if_neg (fun held => apart held.2)]
    rfl
  | cons c line ih =>
    have first : c ≠ 10 := fun same => single (same ▸ List.mem_cons_self)
    rw [List.cons_append, partitionBlank, if_neg (fun held => first held.1),
      ih fun mem => single (List.mem_cons_of_mem _ mem), Option.map_map]
    rfl

theorem partitionBlank_last {line : Text} (single : 10 ∉ line) (message : Text) :
    partitionBlank (line ++ 10 :: 10 :: message) = some (line, message) := by
  induction line with
  | nil => rfl
  | cons c line ih =>
    have first : c ≠ 10 := fun same => single (same ▸ List.mem_cons_self)
    rw [List.cons_append, partitionBlank, if_neg (fun held => first held.1),
      ih fun mem => single (List.mem_cons_of_mem _ mem)]
    rfl

theorem head_of_filled {line : Text} (single : 10 ∉ line) (filled : line ≠ []) (rest : Text) :
    (line ++ rest).head? ≠ some 10 := by
  cases line with
  | nil => exact absurd rfl filled
  | cons c line =>
    intro same
    exact single (Option.some.inj same ▸ List.mem_cons_self)

/-- **A composed text is taken apart as it was put together.** -/
theorem partitionBlank_compose {lines : List Text} (header : HeaderLines lines) (message : Text) :
    partitionBlank (compose lines message) = some (joinLines lines, message) := by
  obtain ⟨nonempty, single, filled⟩ := header
  induction lines with
  | nil => exact absurd rfl nonempty
  | cons line lines ih =>
    obtain ⟨first, later⟩ := List.forall_mem_cons.mp single
    cases lines with
    | nil =>
      rw [compose, joinLines_singleton]
      exact partitionBlank_last first message
    | cons next lines =>
      obtain ⟨here, rest⟩ := List.forall_mem_cons.mp filled
      have apart : (compose (next :: lines) message).head? ≠ some 10 := by
        unfold compose
        cases lines with
        | nil =>
          rw [joinLines_singleton]
          exact head_of_filled (later next List.mem_cons_self) here _
        | cons more lines =>
          rw [joinLines_cons (List.cons_ne_nil _ _), List.append_assoc]
          exact head_of_filled (later next List.mem_cons_self) here _
      have whole : compose (line :: next :: lines) message =
          line ++ 10 :: compose (next :: lines) message := by
        unfold compose
        rw [joinLines_cons (List.cons_ne_nil _ _), List.append_assoc]
        rfl
      rw [whole, partitionBlank_line first apart, ih (List.cons_ne_nil _ _) later rest,
        joinLines_cons (List.cons_ne_nil _ _)]
      rfl

theorem compose_injective {lines lines' : List Text} {message message' : Text}
    (one : HeaderLines lines) (other : HeaderLines lines')
    (same : compose lines message = compose lines' message') :
    lines = lines' ∧ message = message' := by
  have first := partitionBlank_compose one message
  rw [same, partitionBlank_compose other message', Option.some.injEq, Prod.mk.injEq] at first
  refine ⟨?_, first.2.symm⟩
  rw [← splitOn_joinLines one.nonempty one.single, ← first.1,
    splitOn_joinLines other.nonempty other.single]

theorem headerLines_cons_splitOn {c : Nat} {header : Text} (lines : HeaderLines (header.splitOn 10))
    (apart : c = 10 → header.head? ≠ some 10) (some : c = 10 → header ≠ []) :
    HeaderLines ((c :: header).splitOn 10) := by
  obtain ⟨nonempty, single, filled⟩ := lines
  refine ⟨List.splitOn_ne_nil _ _, fun line mem => not_mem_of_mem_splitOn mem, ?_⟩
  rw [List.splitOn_cons_eq_if_modifyHead]
  cases pieces : header.splitOn 10 with
  | nil => exact absurd pieces nonempty
  | cons first more =>
    rw [pieces] at filled
    split
    next blank =>
      have blank : c = 10 := by simpa using blank
      refine List.forall_mem_cons.mpr ⟨fun empty => ?_, filled⟩
      have whole := joinLines_splitOn header
      rw [pieces, empty] at whole
      cases more with
      | nil => exact some blank whole.symm
      | cons next more =>
        rw [joinLines_cons (List.cons_ne_nil _ _)] at whole
        exact apart blank (whole ▸ rfl)
    next => exact filled

theorem partitionBlank_eq_some {text header message : Text}
    (split : partitionBlank text = some (header, message)) :
    text = header ++ 10 :: 10 :: message ∧ HeaderLines (header.splitOn 10) := by
  induction text generalizing header with
  | nil => cases split
  | cons c rest ih =>
    rw [partitionBlank] at split
    split at split
    next blank =>
      cases split
      obtain ⟨rfl, second⟩ := blank
      cases rest with
      | nil => cases second
      | cons d message =>
        cases second
        exact ⟨rfl, ⟨by simp, by simp, by simp⟩⟩
    next line =>
      obtain ⟨⟨front, after⟩, found, same⟩ := Option.map_eq_some_iff.mp split
      cases same
      obtain ⟨rfl, lines⟩ := ih found
      refine ⟨rfl, headerLines_cons_splitOn lines (fun here first => ?_) fun here empty => ?_⟩
      · refine line ⟨here, ?_⟩
        cases front with
        | nil => cases first
        | cons d front => exact first
      · exact line ⟨here, by rw [empty]; rfl⟩

/-! ## Groups -/

/-- `line.startswith(" ")`. -/
def isContinuation (line : Text) : Bool := line.head? == some 32

/-- The groups of the lines, the first of which goes on with this one. -/
def groupAfter (group : List Text) : List Text → List (List Text)
  | [] => [group]
  | line :: lines =>
    if isContinuation line then groupAfter (group ++ [line]) lines
    else group :: groupAfter [line] lines

/-- Every line that continues another goes with it; the first line continues none. -/
def groupLines : List Text → Option (List (List Text))
  | [] => some []
  | line :: lines => if isContinuation line then none else some (groupAfter [line] lines)

/-- A group is a line and the lines that continue it. -/
structure Group (group : List Text) : Prop where
  nonempty : group ≠ []
  opened : ∀ line ∈ group.head?, isContinuation line = false
  continued : ∀ line ∈ group.tail, isContinuation line = true

/-- What comes before the first space of a group. -/
def nameOf (group : List Text) : Text := (group.headD []).takeWhile (· ≠ 32)

theorem Group.singleton {line : Text} (opened : isContinuation line = false) : Group [line] :=
  ⟨List.cons_ne_nil _ _, fun _ same => Option.some.inj same ▸ opened, fun _ mem => nomatch mem⟩

theorem Group.concat {group : List Text} {line : Text} (held : Group group)
    (continues : isContinuation line = true) : Group (group ++ [line]) := by
  obtain ⟨nonempty, opened, continued⟩ := held
  cases group with
  | nil => exact absurd rfl nonempty
  | cons first more =>
    refine ⟨List.cons_ne_nil _ _, opened, fun other mem => ?_⟩
    rcases List.mem_append.mp mem with before | last
    · exact continued other before
    · exact List.mem_singleton.mp last ▸ continues

theorem groupAfter_spec {group : List Text} (held : Group group) (lines : List Text) :
    (groupAfter group lines).flatten = group ++ lines ∧
      ∀ other ∈ groupAfter group lines, Group other := by
  induction lines generalizing group with
  | nil =>
    exact ⟨by simp [groupAfter], fun other mem => List.mem_singleton.mp mem ▸ held⟩
  | cons line lines ih =>
    rw [groupAfter]
    split
    next continues =>
      obtain ⟨whole, groups⟩ := ih (held.concat continues)
      exact ⟨by rw [whole, List.append_assoc]; rfl, groups⟩
    next opens =>
      obtain ⟨whole, groups⟩ := ih (Group.singleton (Bool.eq_false_iff.mpr opens))
      refine ⟨by rw [List.flatten_cons, whole]; rfl, fun other mem => ?_⟩
      rcases List.mem_cons.mp mem with rfl | later
      · exact held
      · exact groups other later

theorem groupAfter_of_group {group more : List Text}
    (continued : ∀ line ∈ more, isContinuation line = true) (lines : List Text) :
    groupAfter group (more ++ lines) = groupAfter (group ++ more) lines := by
  induction more generalizing group with
  | nil => rw [List.nil_append, List.append_nil]
  | cons line more ih =>
    obtain ⟨here, later⟩ := List.forall_mem_cons.mp continued
    rw [List.cons_append, groupAfter, if_pos here, ih later, List.append_assoc]
    rfl

theorem groupAfter_flatten {group : List Text} {groups : List (List Text)}
    (all : ∀ other ∈ groups, Group other) :
    groupAfter group groups.flatten = group :: groups := by
  induction groups generalizing group with
  | nil => rfl
  | cons next groups ih =>
    obtain ⟨⟨nonempty, opened, continued⟩, later⟩ := List.forall_mem_cons.mp all
    cases next with
    | nil => exact absurd rfl nonempty
    | cons line more =>
      rw [List.flatten_cons, List.cons_append, groupAfter,
        if_neg (by rw [opened line rfl]; exact Bool.false_ne_true),
        @groupAfter_of_group [line] more continued, ih later]
      rfl

/-- **The groups of lines are the only ones they fall into.** -/
theorem groupLines_eq_some {lines : List Text} {groups : List (List Text)} :
    groupLines lines = some groups ↔ groups.flatten = lines ∧ ∀ group ∈ groups, Group group := by
  constructor
  · intro made
    cases lines with
    | nil =>
      cases made
      exact ⟨rfl, fun group mem => nomatch mem⟩
    | cons line lines =>
      rw [groupLines] at made
      split at made
      next => cases made
      next opens =>
        cases made
        exact groupAfter_spec (Group.singleton (Bool.eq_false_iff.mpr opens)) lines
  · rintro ⟨rfl, all⟩
    cases groups with
    | nil => rfl
    | cons group groups =>
      obtain ⟨⟨nonempty, opened, continued⟩, later⟩ := List.forall_mem_cons.mp all
      cases group with
      | nil => exact absurd rfl nonempty
      | cons line more =>
        rw [List.flatten_cons, List.cons_append, groupLines,
          if_neg (by rw [opened line rfl]; exact Bool.false_ne_true),
          @groupAfter_of_group [line] more continued, groupAfter_flatten later]
        rfl

theorem exists_groupLines {line : Text} (lines : List Text) (opens : isContinuation line = false) :
    ∃ groups, groupLines (line :: lines) = some groups :=
  ⟨groupAfter [line] lines, by rw [groupLines, if_neg (by rw [opens]; exact Bool.false_ne_true)]⟩

/-! ## Texts -/

structure CommitParts where
  groups : List (List Text)
  message : Text
deriving DecidableEq

/-- The groups of the header and the message, where there is a header. -/
def parse (text : Text) : Option CommitParts := do
  let (header, message) ← partitionBlank text
  if header = [] then none
  else
    let groups ← groupLines (header.splitOn 10)
    return ⟨groups, message⟩

/-- What a text is like that is taken apart. -/
structure CommitParts.Of (parsed : CommitParts) (text : Text) : Prop where
  whole : text = compose parsed.groups.flatten parsed.message
  lines : HeaderLines parsed.groups.flatten
  header : joinLines parsed.groups.flatten ≠ []
  groups : ∀ group ∈ parsed.groups, Group group

theorem parse_eq_some {text : Text} {parsed : CommitParts} :
    parse text = some parsed ↔ parsed.Of text := by
  constructor
  · intro read
    simp only [parse, Option.bind_eq_bind, Option.bind_eq_some_iff] at read
    obtain ⟨⟨header, message⟩, split, rest⟩ := read
    dsimp only at rest
    split at rest
    next => cases rest
    next some =>
      obtain ⟨groups, grouped, same⟩ := Option.bind_eq_some_iff.mp rest
      cases same
      obtain ⟨whole, lines⟩ := partitionBlank_eq_some split
      obtain ⟨flat, all⟩ := groupLines_eq_some.mp grouped
      refine ⟨?_, flat ▸ lines, ?_, all⟩
      · rw [flat, compose, joinLines_splitOn]
        exact whole
      · rw [flat, joinLines_splitOn]
        exact some
  · rintro ⟨rfl, lines, header, all⟩
    simp only [parse, Option.bind_eq_bind, Option.bind_eq_some_iff]
    refine ⟨_, partitionBlank_compose lines parsed.message, ?_⟩
    dsimp only
    rw [if_neg header, splitOn_joinLines lines.nonempty lines.single,
      groupLines_eq_some.mpr ⟨rfl, all⟩]
    rfl

/-! ## Line ends -/

/-- CR LF and CR are read as LF. -/
def translate : Text → Text
  | [] => []
  | c :: rest =>
    if c = 13 then if rest.head? = some 10 then translate rest else 10 :: translate rest
    else c :: translate rest

/-- What a line is read as: a CR ends a line, but for the last one before the line's own end. -/
def pieces : Text → List Text
  | [] => [[]]
  | c :: rest =>
    if c = 13 then if rest = [] then [[]] else [] :: pieces rest
    else (pieces rest).modifyHead (c :: ·)

theorem not_mem_translate (text : Text) : 13 ∉ translate text := by
  induction text with
  | nil => exact List.not_mem_nil
  | cons c rest ih =>
    rw [translate]
    split
    next =>
      split
      next => exact ih
      next =>
        rintro (_ | ⟨_, later⟩)
        exact ih later
    next other =>
      intro mem
      rcases List.mem_cons.mp mem with same | later
      · exact other same.symm
      · exact ih later

theorem mem_of_mem_translate {text : Text} {c : Nat} (mem : c ∈ translate text) :
    c = 10 ∨ c ∈ text := by
  induction text with
  | nil => cases mem
  | cons d rest ih =>
    have later : c ∈ translate rest → c = 10 ∨ c ∈ d :: rest := fun inside =>
      (ih inside).imp id (List.mem_cons_of_mem _)
    rw [translate] at mem
    split at mem
    next =>
      split at mem
      next => exact later mem
      next => exact (List.mem_cons.mp mem).elim .inl later
    next =>
      exact (List.mem_cons.mp mem).elim (fun same => .inr (same ▸ List.mem_cons_self)) later

theorem translate_of_not_mem {text : Text} (free : 13 ∉ text) : translate text = text := by
  induction text with
  | nil => rfl
  | cons c rest ih =>
    rw [translate, if_neg fun same : c = 13 => free (same ▸ List.mem_cons_self),
      ih fun mem => free (List.mem_cons_of_mem _ mem)]

theorem pieces_of_not_mem {line : Text} (free : 13 ∉ line) : pieces line = [line] := by
  induction line with
  | nil => rfl
  | cons c rest ih =>
    rw [pieces, if_neg fun same : c = 13 => free (same ▸ List.mem_cons_self),
      ih fun mem => free (List.mem_cons_of_mem _ mem)]
    rfl

theorem pieces_eq_cons (line : Text) : ∃ first more, pieces line = first :: more ∧
    (isContinuation line = false → isContinuation first = false) := by
  induction line with
  | nil => exact ⟨[], [], rfl, fun _ => rfl⟩
  | cons c rest ih =>
    obtain ⟨first, more, same, -⟩ := ih
    rw [pieces, same]
    split
    next =>
      split
      next => exact ⟨[], [], rfl, fun _ => rfl⟩
      next => exact ⟨[], first :: more, rfl, fun _ => rfl⟩
    next => exact ⟨c :: first, more, rfl, fun opened => opened⟩

theorem pieces_ne_nil (line : Text) : pieces line ≠ [] := by
  obtain ⟨first, more, same, -⟩ := pieces_eq_cons line
  rw [same]
  exact List.cons_ne_nil _ _

theorem pieces_single {line : Text} (single : 10 ∉ line) : ∀ piece ∈ pieces line, 10 ∉ piece := by
  induction line with
  | nil =>
    intro piece mem
    rw [List.mem_singleton.mp mem]
    exact List.not_mem_nil
  | cons c rest ih =>
    have later := ih fun mem => single (List.mem_cons_of_mem _ mem)
    rw [pieces]
    split
    next =>
      split
      next =>
        intro piece mem
        rw [List.mem_singleton.mp mem]
        exact List.not_mem_nil
      next => exact List.forall_mem_cons.mpr ⟨List.not_mem_nil, later⟩
    next =>
      obtain ⟨first, more, same, -⟩ := pieces_eq_cons rest
      rw [same] at later ⊢
      obtain ⟨here, others⟩ := List.forall_mem_cons.mp later
      refine List.forall_mem_cons.mpr ⟨fun mem => ?_, others⟩
      rcases List.mem_cons.mp mem with rfl | inside
      · exact single List.mem_cons_self
      · exact here inside

/-- A line is read piece by piece. -/
theorem translate_line {line : Text} (single : 10 ∉ line) (rest : Text) :
    translate (line ++ 10 :: rest) = joinLines (pieces line) ++ 10 :: translate rest := by
  induction line with
  | nil => rfl
  | cons c line ih =>
    have later := ih fun mem => single (List.mem_cons_of_mem _ mem)
    rw [List.cons_append, translate, pieces]
    split
    next =>
      cases line with
      | nil => rfl
      | cons d line =>
        have apart : d ≠ 10 := fun same =>
          single (same ▸ List.mem_cons_of_mem _ List.mem_cons_self)
        rw [if_neg (by simpa using apart), if_neg (List.cons_ne_nil _ _),
          joinLines_cons (pieces_ne_nil _), later]
        rfl
    next =>
      obtain ⟨first, more, same, -⟩ := pieces_eq_cons line
      rw [later, same, List.modifyHead_cons]
      cases more with
      | nil =>
        rw [joinLines_singleton, joinLines_singleton]
        rfl
      | cons next more =>
        rw [joinLines_cons (List.cons_ne_nil _ _), joinLines_cons (List.cons_ne_nil _ _)]
        rfl

theorem translate_lines {lines : List Text} (nonempty : lines ≠ [])
    (single : ∀ line ∈ lines, 10 ∉ line) (rest : Text) :
    translate (joinLines lines ++ 10 :: rest) =
      joinLines (lines.flatMap pieces) ++ 10 :: translate rest := by
  induction lines with
  | nil => exact absurd rfl nonempty
  | cons line lines ih =>
    obtain ⟨here, later⟩ := List.forall_mem_cons.mp single
    cases lines with
    | nil =>
      rw [joinLines_singleton, translate_line here, List.flatMap_singleton]
    | cons next lines =>
      have others : (next :: lines).flatMap pieces ≠ [] := by
        rw [List.flatMap_cons]
        exact List.append_ne_nil_of_left_ne_nil (pieces_ne_nil next) _
      rw [joinLines_cons (List.cons_ne_nil _ _), List.append_assoc, List.cons_append,
        translate_line here, ih (List.cons_ne_nil _ _) later,
        show (line :: next :: lines).flatMap pieces = pieces line ++ (next :: lines).flatMap pieces
          from List.flatMap_cons,
        joinLines_append (pieces_ne_nil line) others, List.append_assoc]
      rfl

/-! ## Rewriting -/

section

variable (drops marks : Text → Bool) (added : List Text)

/-- What is kept of a group, and what is added after it. -/
def keptOf (group : List Text) : List Text :=
  if drops (nameOf group) then [] else if marks (group.headD []) then group ++ added else group

def rewriteGroups (groups : List (List Text)) : List Text :=
  groups.flatMap (keptOf drops marks added)

def CommitParts.rewritten (parsed : CommitParts) : Text :=
  compose (rewriteGroups drops marks added parsed.groups) parsed.message

/-- The groups that a group is read as. -/
def regroup (group : List Text) : List (List Text) :=
  (groupLines (group.flatMap pieces)).getD []

/-- Every CR stands in a group that is dropped, and so is all that this group is read as. -/
structure CommitParts.Harmless (parsed : CommitParts) : Prop where
  message : 13 ∉ parsed.message
  kept : ∀ group ∈ parsed.groups, drops (nameOf group) = false → ∀ line ∈ group, 13 ∉ line
  dropped : ∀ group ∈ parsed.groups, drops (nameOf group) = true →
    ∀ part ∈ regroup group, drops (nameOf part) = true

end

section

variable {drops marks exact : Text → Bool} {added : List Text} {groups : List (List Text)}
  {group : List Text} {text : Text} {parsed read : CommitParts}

theorem mem_joinLines {lines : List Text} {line : Text} {c : Nat} (mem : line ∈ lines)
    (inside : c ∈ line) : c ∈ joinLines lines := by
  induction lines with
  | nil => cases mem
  | cons next lines ih =>
    cases lines with
    | nil =>
      rw [joinLines_singleton]
      exact List.mem_singleton.mp mem ▸ inside
    | cons more lines =>
      rw [joinLines_cons (List.cons_ne_nil _ _)]
      rcases List.mem_cons.mp mem with rfl | later
      · exact List.mem_append_left _ inside
      · exact List.mem_append_right _ (List.mem_cons_of_mem _ (ih later))

theorem mem_keptOf {line : Text} (mem : line ∈ keptOf drops marks added group) :
    line ∈ group ∨ line ∈ added := by
  unfold keptOf at mem
  split at mem
  next => cases mem
  next =>
    split at mem
    next => exact List.mem_append.mp mem
    next => exact .inl mem

theorem mem_rewriteGroups {line : Text} (mem : line ∈ rewriteGroups drops marks added groups) :
    line ∈ groups.flatten ∨ line ∈ added := by
  obtain ⟨group, here, inside⟩ := List.mem_flatMap.mp mem
  exact (mem_keptOf inside).imp (fun held => List.mem_flatten.mpr ⟨group, here, held⟩) id

/-- What is rewritten is lines before a blank line again. -/
theorem headerLines_rewriteGroups (lines : HeaderLines groups.flatten)
    (all : ∀ group ∈ groups, Group group) (fine : ∀ line ∈ added, 10 ∉ line ∧ line ≠ [])
    (nonempty : rewriteGroups drops marks added groups ≠ []) :
    HeaderLines (rewriteGroups drops marks added groups) := by
  refine ⟨nonempty, fun line mem => ?_, fun line mem => ?_⟩
  · exact (mem_rewriteGroups mem).elim (lines.single line) fun new => (fine line new).1
  · cases groups with
    | nil => exact absurd rfl nonempty
    | cons group groups =>
      obtain ⟨held, -⟩ := List.forall_mem_cons.mp all
      cases group with
      | nil => exact absurd rfl held.nonempty
      | cons first more =>
        have filled : ∀ other ∈ more ++ groups.flatten, other ≠ [] := lines.filled
        have later : line ∈ rewriteGroups drops marks added groups → line ≠ [] := fun inside =>
          (mem_rewriteGroups inside).elim (fun old => filled line (List.mem_append_right _ old))
            fun new => (fine line new).2
        unfold rewriteGroups at mem
        rw [List.flatMap_cons, keptOf] at mem
        split at mem
        next => exact later (List.mem_of_mem_tail mem)
        next =>
          split at mem
          next =>
            rcases List.mem_append.mp mem with here | inside
            · rcases List.mem_append.mp here with old | new
              · exact filled line (List.mem_append_left _ old)
              · exact (fine line new).2
            · exact later inside
          next =>
            rcases List.mem_append.mp mem with old | inside
            · exact filled line (List.mem_append_left _ old)
            · exact later inside

theorem Group.groupLines_self (held : Group group) : groupLines group = some [group] :=
  groupLines_eq_some.mpr
    ⟨List.flatten_singleton, fun _ mem => List.mem_singleton.mp mem ▸ held⟩

theorem Group.groupLines_pieces (held : Group group) :
    groupLines (group.flatMap pieces) = some (regroup group) := by
  obtain ⟨nonempty, opened, -⟩ := held
  unfold regroup
  cases group with
  | nil => exact absurd rfl nonempty
  | cons line more =>
    obtain ⟨first, others, same, opens⟩ := pieces_eq_cons line
    rw [List.flatMap_cons, same]
    obtain ⟨parts, made⟩ := exists_groupLines (others ++ more.flatMap pieces)
      (opens (opened line rfl))
    rw [List.cons_append, made]
    rfl

theorem flatMap_pieces_of_not_mem (free : ∀ line ∈ group, 13 ∉ line) :
    group.flatMap pieces = group := by
  induction group with
  | nil => rfl
  | cons line more ih =>
    obtain ⟨here, later⟩ := List.forall_mem_cons.mp free
    rw [List.flatMap_cons, pieces_of_not_mem here, ih later]
    rfl

theorem Group.regroup_of_not_mem (held : Group group) (free : ∀ line ∈ group, 13 ∉ line) :
    regroup group = [group] := by
  unfold regroup
  rw [flatMap_pieces_of_not_mem free, held.groupLines_self]
  rfl

/-- The groups of what lines are read as are those that each group is read as. -/
theorem groupLines_flatMap_pieces (all : ∀ group ∈ groups, Group group) :
    groupLines (groups.flatten.flatMap pieces) = some (groups.flatMap regroup) := by
  refine groupLines_eq_some.mpr ⟨?_, fun part mem => ?_⟩
  · induction groups with
    | nil => rfl
    | cons group groups ih =>
      obtain ⟨here, later⟩ := List.forall_mem_cons.mp all
      rw [List.flatMap_cons, List.flatten_append, List.flatten_cons, List.flatMap_append, ih later,
        (groupLines_eq_some.mp here.groupLines_pieces).1]
  · obtain ⟨group, here, inside⟩ := List.mem_flatMap.mp mem
    exact (groupLines_eq_some.mp (all group here).groupLines_pieces).2 part inside

theorem CommitParts.Of.translate (of : parsed.Of text) (free : 13 ∉ parsed.message) :
    translate text = compose (parsed.groups.flatten.flatMap pieces) parsed.message := by
  have still : CommitText.translate (10 :: parsed.message) = 10 :: parsed.message :=
    translate_of_not_mem fun mem => (List.mem_cons.mp mem).elim (by decide) free
  rw [of.whole, compose, translate_lines of.lines.nonempty of.lines.single, still]
  rfl

/-- What is read of the text with this message is what its groups are read as. -/
theorem CommitParts.Of.read_groups (of : parsed.Of text) (free : 13 ∉ parsed.message)
    (was : read.Of (CommitText.translate text)) (same : parsed.message = read.message) :
    read.groups = parsed.groups.flatMap regroup := by
  have whole := was.whole
  rw [of.translate free, same, compose, compose, List.append_cancel_right_eq] at whole
  have nonempty : parsed.groups.flatten.flatMap pieces ≠ [] := by
    cases lines : parsed.groups.flatten with
    | nil => exact absurd lines of.lines.nonempty
    | cons line more =>
      rw [List.flatMap_cons]
      exact List.append_ne_nil_of_left_ne_nil (pieces_ne_nil line) _
  have single : ∀ line ∈ parsed.groups.flatten.flatMap pieces, 10 ∉ line := by
    intro line mem
    obtain ⟨old, here, inside⟩ := List.mem_flatMap.mp mem
    exact pieces_single (of.lines.single old here) line inside
  have lines := congrArg (List.splitOn 10) whole
  rw [splitOn_joinLines nonempty single,
    splitOn_joinLines was.lines.nonempty was.lines.single] at lines
  have grouped := groupLines_flatMap_pieces of.groups
  rw [lines, groupLines_eq_some.mpr ⟨rfl, was.groups⟩] at grouped
  exact Option.some.inj grouped

theorem CommitParts.Of.not_mem (was : read.Of (CommitText.translate text)) :
    13 ∉ read.message ∧ ∀ line ∈ read.groups.flatten, 13 ∉ line := by
  have free := not_mem_translate text
  rw [was.whole] at free
  refine ⟨fun mem => free ?_, fun line here mem => free ?_⟩
  · exact List.mem_append_right _ (.tail _ (.tail _ mem))
  · exact List.mem_append_left _ (mem_joinLines here mem)

theorem length_flatMap_le {α β : Type} {f g : α → List β} {l : List α}
    (le : ∀ a ∈ l, (f a).length ≤ (g a).length) : (l.flatMap f).length ≤ (l.flatMap g).length := by
  induction l with
  | nil => exact le_refl _
  | cons a l ih =>
    obtain ⟨here, later⟩ := List.forall_mem_cons.mp le
    rw [List.flatMap_cons, List.flatMap_cons, List.length_append, List.length_append]
    exact Nat.add_le_add here (ih later)

/-- Where each part is no longer and the whole is the same, each part is. -/
theorem eq_of_flatMap_eq {α β : Type} {f g : α → List β} {l : List α}
    (le : ∀ a ∈ l, (f a).length ≤ (g a).length) (same : l.flatMap f = l.flatMap g) :
    ∀ a ∈ l, f a = g a := by
  induction l with
  | nil => exact fun a mem => nomatch mem
  | cons a l ih =>
    obtain ⟨here, later⟩ := List.forall_mem_cons.mp le
    have rest := length_flatMap_le later
    rw [List.flatMap_cons, List.flatMap_cons] at same
    have total := congrArg List.length same
    rw [List.length_append, List.length_append] at total
    obtain ⟨one, others⟩ := List.append_inj same (by omega)
    exact List.forall_mem_cons.mpr ⟨one, ih later others⟩

theorem keptOf_of_kept (kept : drops (nameOf group) = false) :
    keptOf drops marks added group =
      if marks (group.headD []) then group ++ added else group :=
  if_neg (by rw [kept]; exact Bool.false_ne_true)

theorem rewriteGroups_regroup (held : Group group) (kept : drops (nameOf group) = false)
    (free : ∀ line ∈ group, 13 ∉ line) :
    rewriteGroups drops marks added (regroup group) =
      if marks (group.headD []) then group ++ added else group := by
  rw [held.regroup_of_not_mem free, rewriteGroups, List.flatMap_singleton, keptOf_of_kept kept]

/-- What a group that is kept is read as is kept too. -/
theorem length_keptOf_le (held : Group group) (looser : ∀ first, exact first = true →
    marks first = true) (free : drops (nameOf group) = false → ∀ line ∈ group, 13 ∉ line) :
    (keptOf drops exact added group).length ≤
      (rewriteGroups drops marks added (regroup group)).length := by
  cases dropped : drops (nameOf group) with
  | true =>
    rw [keptOf, if_pos dropped]
    exact Nat.zero_le _
  | false =>
    rw [rewriteGroups_regroup held dropped (free dropped), keptOf_of_kept dropped]
    split
    next here => rw [if_pos (looser _ here)]
    next =>
      split
      · rw [List.length_append]
        exact Nat.le_add_right _ _
      · exact le_refl _

theorem keptOf_eq_iff (held : Group group) (looser : ∀ first, exact first = true →
    marks first = true) (kept : drops (nameOf group) = false)
    (free : ∀ line ∈ group, 13 ∉ line) :
    keptOf drops exact added group = rewriteGroups drops marks added (regroup group) ↔
      (added ≠ [] → marks (group.headD []) = true → exact (group.headD []) = true) := by
  rw [rewriteGroups_regroup held kept free, keptOf_of_kept kept]
  by_cases here : exact (group.headD []) = true
  · rw [if_pos here, if_pos (looser _ here)]
    exact ⟨fun _ _ _ => here, fun _ => rfl⟩
  · by_cases there : marks (group.headD []) = true
    · rw [if_neg here, if_pos there, List.self_eq_append_right]
      exact ⟨fun empty some => absurd empty some, fun all => by_contra fun some =>
        here (all some there)⟩
    · rw [if_neg here, if_neg there]
      exact ⟨fun _ _ marked => absurd marked there, fun _ => rfl⟩

/-- Every part of what is dropped is dropped, where nothing is kept of them. -/
theorem dropped_of_rewriteGroups {parts : List (List Text)} (all : ∀ part ∈ parts, Group part)
    (none : rewriteGroups drops marks added parts = []) :
    ∀ part ∈ parts, drops (nameOf part) = true := by
  intro part mem
  have empty := List.flatMap_eq_nil_iff.mp none part mem
  unfold keptOf at empty
  split at empty
  next dropped => exact dropped
  next =>
    split at empty
    · exact absurd (List.append_eq_nil_iff.mp empty).1 (all part mem).nonempty
    · exact absurd empty (all part mem).nonempty

theorem rewriteGroups_of_dropped {parts : List (List Text)}
    (dropped : ∀ part ∈ parts, drops (nameOf part) = true) :
    rewriteGroups drops marks added parts = [] :=
  List.flatMap_eq_nil_iff.mpr fun part mem => if_pos (dropped part mem)

/-- What harms nothing is read as lines before a blank line again. -/
theorem CommitParts.Harmless.headerLines (harmless : parsed.Harmless drops)
    (begun : drops [] = false) (of : parsed.Of text) :
    HeaderLines (parsed.groups.flatten.flatMap pieces) := by
  have kept : ∀ group ∈ parsed.groups, drops (nameOf group) = false →
      group.flatMap pieces = group := fun group mem kept =>
    flatMap_pieces_of_not_mem (harmless.kept group mem kept)
  have dropped : ∀ group ∈ parsed.groups, drops (nameOf group) = true →
      ∀ line ∈ group.flatMap pieces, line ≠ [] := by
    rintro group mem gone line inside rfl
    obtain ⟨flat, all⟩ := groupLines_eq_some.mp (of.groups group mem).groupLines_pieces
    rw [← flat] at inside
    obtain ⟨part, here, within⟩ := List.mem_flatten.mp inside
    have named := harmless.dropped group mem gone part here
    obtain ⟨nonempty, -, continued⟩ := all part here
    cases part with
    | nil => exact nonempty rfl
    | cons first more =>
      rcases List.mem_cons.mp within with rfl | later
      · exact absurd named (by rw [show nameOf ([] :: more) = [] from rfl, begun]; decide)
      · exact absurd (continued [] later) (by decide)
  refine ⟨?_, ?_, ?_⟩
  · cases lines : parsed.groups.flatten with
    | nil => exact absurd lines of.lines.nonempty
    | cons line more =>
      rw [List.flatMap_cons]
      exact List.append_ne_nil_of_left_ne_nil (pieces_ne_nil line) _
  · intro line mem
    obtain ⟨old, here, inside⟩ := List.mem_flatMap.mp mem
    exact pieces_single (of.lines.single old here) line inside
  · have filled := of.lines.filled
    have all := of.groups
    cases groups : parsed.groups with
    | nil => exact fun line mem => nomatch mem
    | cons group others =>
      rw [groups] at kept dropped filled all
      have later : (∀ line ∈ others.flatten, line ≠ []) →
          ∀ line ∈ others.flatten.flatMap pieces, line ≠ [] := by
        intro nonempty line mem
        obtain ⟨old, here, inside⟩ := List.mem_flatMap.mp mem
        obtain ⟨other, there, within⟩ := List.mem_flatten.mp here
        have mem := List.mem_cons_of_mem group there
        cases gone : drops (nameOf other) with
        | true => exact dropped other mem gone line (List.mem_flatMap.mpr ⟨old, within, inside⟩)
        | false =>
          refine nonempty line (List.mem_flatten.mpr ⟨other, there, ?_⟩)
          rw [← kept other mem gone]
          exact List.mem_flatMap.mpr ⟨old, within, inside⟩
      have held := all group List.mem_cons_self
      rw [List.flatten_cons, List.flatMap_append]
      rw [List.flatten_cons] at filled
      intro line mem
      cases gone : drops (nameOf group) with
      | true =>
        rcases List.mem_append.mp (List.mem_of_mem_tail mem) with here | there
        · exact dropped group List.mem_cons_self gone line here
        · refine later (fun other inside => filled other ?_) line there
          rw [List.tail_append_of_ne_nil held.nonempty]
          exact List.mem_append_right _ inside
      | false =>
        rw [kept group List.mem_cons_self gone, List.tail_append_of_ne_nil held.nonempty] at mem
        rw [List.tail_append_of_ne_nil held.nonempty] at filled
        rcases List.mem_append.mp mem with here | there
        · exact filled line (List.mem_append_left _ here)
        · exact later (fun other inside => filled other (List.mem_append_right _ inside)) line there

/-- What harms nothing is read as what its groups are read as, with its own message. -/
theorem CommitParts.Harmless.read_eq (harmless : parsed.Harmless drops) (begun : drops [] = false)
    (of : parsed.Of text) (was : read.Of (CommitText.translate text)) :
    read.message = parsed.message ∧ read.groups = parsed.groups.flatMap regroup := by
  have lines := harmless.headerLines begun of
  have whole := was.whole
  rw [of.translate harmless.message] at whole
  have message := (compose_injective lines was.lines whole).2
  exact ⟨message.symm, of.read_groups harmless.message was message⟩

/-- The groups that are kept are those of what is read. -/
theorem CommitParts.Harmless.filter_kept (harmless : parsed.Harmless drops) (begun : drops [] = false)
    (of : parsed.Of text) (was : read.Of (CommitText.translate text)) :
    read.groups.filter (fun group => !drops (nameOf group)) =
      parsed.groups.filter (fun group => !drops (nameOf group)) := by
  have regrouped := (harmless.read_eq begun of was).2
  obtain ⟨-, kept, dropped⟩ := harmless
  rw [regrouped]
  have all := of.groups
  generalize parsed.groups = groups at kept dropped all ⊢
  induction groups with
  | nil => rfl
  | cons group groups ih =>
    obtain ⟨here, kept⟩ := List.forall_mem_cons.mp kept
    obtain ⟨gone, dropped⟩ := List.forall_mem_cons.mp dropped
    obtain ⟨held, all⟩ := List.forall_mem_cons.mp all
    rw [List.flatMap_cons, List.filter_append, ih kept dropped all]
    cases named : drops (nameOf group) with
    | true =>
      have none : (regroup group).filter (fun part => !drops (nameOf part)) = [] :=
        List.filter_eq_nil_iff.mpr fun part mem => by rw [gone named part mem]; decide
      rw [none, List.filter_cons_of_neg (by rw [named]; decide), List.nil_append]
    | false =>
      rw [held.regroup_of_not_mem (here named), List.filter_cons_of_pos (by rw [named]; decide),
        List.filter_cons_of_pos (by rw [named]; decide)]
      rfl

/-- **A text is rewritten as if it had been read as it is** exactly where reading its line ends
harms nothing that is kept, and nothing else is marked. -/
theorem translate_harmless_iff (begun : drops [] = false)
    (fine : ∀ line ∈ added, 10 ∉ line ∧ 13 ∉ line ∧ line ≠ [])
    (looser : ∀ first, exact first = true → marks first = true)
    (was : parse (translate text) = some read)
    (left : joinLines (rewriteGroups drops marks added read.groups) ≠ []) :
    (∃ parsed, parse text = some parsed ∧
      parsed.rewritten drops exact added = read.rewritten drops marks added) ↔
    ∃ parsed, parse text = some parsed ∧ parsed.Harmless drops ∧
      (added ≠ [] → ∀ group ∈ parsed.groups, drops (nameOf group) = false →
        marks (group.headD []) = true → exact (group.headD []) = true) := by
  have was := parse_eq_some.mp was
  obtain ⟨messageFree, linesFree⟩ := was.not_mem
  have apart : ∀ line ∈ added, 10 ∉ line ∧ line ≠ [] := fun line mem =>
    ⟨(fine line mem).1, (fine line mem).2.2⟩
  refine exists_congr fun parsed => and_congr_right fun made => ?_
  have of := parse_eq_some.mp made
  constructor
  · intro same
    have lines := headerLines_rewriteGroups was.lines was.groups apart fun empty => left (by
      rw [empty]; rfl)
    have nonempty : rewriteGroups drops exact added parsed.groups ≠ [] := by
      intro empty
      unfold CommitParts.rewritten at same
      have split := partitionBlank_compose lines read.message
      rw [← same, empty] at split
      exact left (Prod.ext_iff.mp (Option.some.inj split)).1.symm
    obtain ⟨kept, message⟩ := compose_injective
      (headerLines_rewriteGroups of.lines of.groups apart nonempty) lines same
    have regrouped := of.read_groups (message ▸ messageFree) was message
    have free : ∀ group ∈ parsed.groups, drops (nameOf group) = false →
        ∀ line ∈ group, 13 ∉ line := by
      intro group mem stays line inside
      have here : line ∈ rewriteGroups drops exact added parsed.groups := by
        refine List.mem_flatMap.mpr ⟨group, mem, ?_⟩
        rw [keptOf_of_kept stays]
        split
        · exact List.mem_append_left _ inside
        · exact inside
      rw [kept] at here
      exact (mem_rewriteGroups here).elim (linesFree line) fun new => (fine line new).2.1
    rw [regrouped, rewriteGroups, rewriteGroups, List.flatMap_assoc] at kept
    have each := eq_of_flatMap_eq
      (fun group mem => length_keptOf_le (of.groups group mem) looser (free group mem)) kept
    refine ⟨⟨message ▸ messageFree, free, fun group mem gone => ?_⟩,
      fun some group mem stays marked => ?_⟩
    · refine @dropped_of_rewriteGroups drops marks added _
        (groupLines_eq_some.mp (of.groups group mem).groupLines_pieces).2 ?_
      rw [← each group mem, keptOf, if_pos gone]
    · exact (keptOf_eq_iff (of.groups group mem) looser stays (free group mem stays)).mp
        (each group mem) some marked
  · rintro ⟨harmless, alike⟩
    obtain ⟨message, regrouped⟩ := harmless.read_eq begun of was
    unfold CommitParts.rewritten
    rw [message, regrouped, rewriteGroups, rewriteGroups, List.flatMap_assoc]
    refine congrArg (compose · _) (List.flatMap_congr fun group mem => ?_)
    cases gone : drops (nameOf group) with
    | true =>
      rw [keptOf, if_pos gone]
      exact (rewriteGroups_of_dropped (harmless.dropped group mem gone)).symm
    | false =>
      exact (keptOf_eq_iff (of.groups group mem) looser gone (harmless.kept group mem gone)).mpr
        fun some marked => alike some group mem gone marked

/-! ## Lines of groups -/

/-- A line that continues none is the first of its group. -/
theorem filter_flatten {p : Text → Bool}
    (first : ∀ line, isContinuation line = true → p line = false)
    (all : ∀ group ∈ groups, Group group) :
    groups.flatten.filter p = (groups.filter fun group => p (group.headD [])).map (·.headD []) := by
  induction groups with
  | nil => rfl
  | cons group groups ih =>
    obtain ⟨⟨nonempty, -, continued⟩, later⟩ := List.forall_mem_cons.mp all
    cases group with
    | nil => exact absurd rfl nonempty
    | cons line more =>
      have none : more.filter p = [] := List.filter_eq_nil_iff.mpr fun other mem => by
        rw [first other (continued other mem)]
        exact Bool.false_ne_true
      rw [List.flatten_cons, List.filter_append, ih later]
      cases here : p line with
      | true =>
        rw [List.filter_cons_of_pos here, none, List.filter_cons_of_pos (by exact here)]
        rfl
      | false =>
        rw [List.filter_cons_of_neg (by rw [here]; decide), none,
          List.filter_cons_of_neg (by rw [List.headD_cons, here]; decide)]
        rfl

/-- The lines of what is rewritten that continue none: those of the groups that are kept, and those
that were added. -/
theorem filter_rewriteGroups {p : Text → Bool}
    (first : ∀ line, isContinuation line = true → p line = false)
    (all : ∀ group ∈ groups, Group group) :
    (rewriteGroups drops marks added groups).filter p =
      (groups.filter fun group => !drops (nameOf group)).flatMap fun group =>
        (if p (group.headD []) then [group.headD []] else []) ++
          if marks (group.headD []) then added.filter p else [] := by
  induction groups with
  | nil => rfl
  | cons group groups ih =>
    obtain ⟨held, later⟩ := List.forall_mem_cons.mp all
    have one := @filter_flatten [group] p first fun _ here => List.mem_singleton.mp here ▸ held
    rw [List.flatten_singleton] at one
    have rest := ih later
    unfold rewriteGroups at rest ⊢
    rw [List.flatMap_cons, List.filter_append, rest, keptOf]
    cases gone : drops (nameOf group) with
    | true =>
      rw [if_pos rfl, List.filter_cons_of_neg (by rw [gone]; decide)]
      rfl
    | false =>
      rw [if_neg Bool.false_ne_true, List.filter_cons_of_pos (by rw [gone]; decide),
        List.flatMap_cons]
      congr 1
      have whole : group.filter p = if p (group.headD []) then [group.headD []] else [] := by
        rw [one]
        cases here : p (group.headD []) with
        | true =>
          rw [@List.filter_cons_of_pos _ (fun group => p (group.headD [])) group [] here]
          rfl
        | false =>
          rw [@List.filter_cons_of_neg _ (fun group => p (group.headD [])) group []
            (by rw [here]; decide)]
          rfl
      split
      next => rw [List.filter_append, whole]
      next => rw [whole, List.append_nil]

end

end CommitText

end Lib
