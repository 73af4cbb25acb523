import SyncApp.Retention.Commits

/-!
# Fidelity of a rewritten history

A replacement is faithful where it is the retained commits, each severed, in their order; where Git
finds no way from its head to a pruned commit; and where what is validated before a push is exactly
such a chain.

Git's output is read as text, and its line ends are not kept. So a replacement is faithful exactly
where reading them harms no retained commit, where no such commit but the oldest has a header that
is the bare word `tree`, where the oldest without its parent is not the root of the history itself,
and where no other chain of the repository differs from the rebuilt one in its line ends alone
(`replacement_faithful_iff`).
-/

set_option autoImplicit false

namespace SyncApp

open Lib

namespace Retention

open Raising (bind_eq_ok)
open CommitText
open Records (isObjectId)

/-- What Git guarantees of the ids in a repository: they tell its objects apart, and are of one
width. -/
structure Git.Identifies (git : Git) (store : Store) : Prop where
  injective : ∀ object ∈ store, ∀ other ∈ store, git.objectId object = git.objectId other →
    object = other
  hex : ∀ object ∈ store, isObjectId (git.objectId object) = true
  width : ∀ object ∈ store, ∀ other ∈ store,
    (git.objectId object).length = (git.objectId other).length

/-- The repository has the commits of the records, and Git reads the same parents of them. -/
def Git.Holds (git : Git) (store : Store) (records : List Record) : Prop :=
  ∀ record ∈ records, ∃ object, git.find store record.sha = some object ∧
    gitParents object = record.parents

/-- A way from commit to parent. -/
inductive Path (git : Git) (store : Store) : PyStr → PyStr → Prop where
  | refl (sha : PyStr) : Path git store sha sha
  | step {sha parent other : PyStr} {object : List UInt8}
      (found : git.find store sha = some object) (child : parent ∈ gitParents object)
      (way : Path git store parent other) : Path git store sha other

/-! ## Chains -/

/-- The text of a commit. -/
def originalOf (git : Git) (store : Store) (sha : PyStr) : Option PyStr :=
  (git.find store sha).bind Utf8.decode

def Spells (object : List UInt8) (value : PyStr) : Prop := Utf8.decode object = some value

/-- The object is read as the text. -/
def ReadAs (object : List UInt8) (value : PyStr) : Prop :=
  ∃ spelled, Spells object spelled ∧ translate spelled = value

/-- The object is read as the text, and has no CR. -/
def ReadPlainly (object : List UInt8) (value : PyStr) : Prop :=
  ∃ spelled, Spells object spelled ∧ translate spelled = value ∧ 13 ∉ spelled

section

variable (look : List UInt8 → PyStr → Prop) (git : Git) (store : Store)

/-- The commit `head` is the commit `sha`, severed. -/
def Link (head sha : PyStr) (parent : Option PyStr) : Prop :=
  ∃ object original value, git.find store head = some object ∧
    originalOf git store sha = some original ∧ severed parent original = some value ∧
    look object value

/-- From this head on, the commits are these, severed, each the parent of the one before. -/
def Chain : PyStr → List PyStr → Prop
  | _, [] => False
  | head, [sha] => Link look git store head sha none
  | head, sha :: next :: older =>
    ∃ parent, Link look git store head sha (some parent) ∧ Chain parent (next :: older)

end

/-- What is accepted before a push, of a replacement with this head. -/
def Accepts (branch : Branch) (git : Git) (store : Store) (authorization : Authorization)
    (head : PyStr) : Prop :=
  validateReplacement branch git store authorization
    ⟨authorization.expectedHead, authorization.retained, head⟩ = .ok ()

/-- A replacement is what it should be, and so is what is accepted. -/
structure Faithful (branch : Branch) (git : Git) (store : Store) (authorization : Authorization)
    (head : PyStr) : Prop where
  chain : Chain Spells git store head authorization.retained
  apart : ∀ sha ∈ authorization.pruned, ¬Path git store head sha
  exactly : ∀ other, Accepts branch git store authorization other ↔
    Chain Spells git store other authorization.retained

/-- The retained commits can be rebuilt through their texts. -/
structure Rebuildable (git : Git) (store : Store) (authorization : Authorization) : Prop where
  reads : ∀ sha ∈ authorization.retained, ∃ original,
    originalOf git store sha = some original ∧ ReadsWell original
  keys : ∀ sha ∈ authorization.retained.dropLast, ∀ original,
    originalOf git store sha = some original → OneTreeKey original
  root : ∀ oldest ∈ authorization.retained.getLast?, ∀ root ∈ authorization.pruned.getLast?,
    ¬Link Spells git store root oldest none
  alone : ∀ other, Chain ReadAs git store other authorization.retained →
    Chain ReadPlainly git store other authorization.retained

/-! ## Objects -/

section

variable {branch : Branch} {git : Git} {store more : Store} {head sha parent newest : PyStr}
  {object : List UInt8} {look look' : List UInt8 → PyStr → Prop} {retained : List PyStr}
  {added : Option PyStr} {original : PyStr}

theorem Git.find_append (found : git.find store sha = some object) (more : Store) :
    git.find (store ++ more) sha = some object := by
  unfold Git.find at found ⊢
  rw [List.find?_append, found]
  rfl

theorem Git.objectId_of_find (found : git.find store sha = some object) :
    git.objectId object = sha := by
  have here := List.find?_some (p := (git.objectId · = sha)) found
  exact of_decide_eq_true here

theorem Git.find_of_mem (identifies : git.Identifies store) (mem : object ∈ store) :
    git.find store (git.objectId object) = some object := by
  cases found : git.find store (git.objectId object) with
  | none => exact absurd (decide_eq_true rfl) (List.find?_eq_none.mp found object mem)
  | some other =>
    rw [identifies.injective other (List.mem_of_find?_eq_some found) object mem
      (Git.objectId_of_find found)]

theorem Git.hex_of_find (identifies : git.Identifies store)
    (found : git.find store sha = some object) : isObjectId sha = true :=
  Git.objectId_of_find found ▸ identifies.hex object (List.mem_of_find?_eq_some found)

theorem Git.Identifies.front (identifies : git.Identifies (store ++ more)) :
    git.Identifies store where
  injective object mem other mem' :=
    identifies.injective object (List.mem_append_left _ mem) other (List.mem_append_left _ mem')
  hex object mem := identifies.hex object (List.mem_append_left _ mem)
  width object mem other mem' :=
    identifies.width object (List.mem_append_left _ mem) other (List.mem_append_left _ mem')

theorem originalOf_append (held : originalOf git store sha = some original) (more : Store) :
    originalOf git (store ++ more) sha = some original := by
  obtain ⟨object, found, decoded⟩ := Option.bind_eq_some_iff.mp held
  exact Option.bind_eq_some_iff.mpr ⟨object, Git.find_append found more, decoded⟩

theorem readCommit_eq_ok {raw : PyStr} : readCommit branch git store sha = .ok raw ↔
    ∃ original, originalOf git store sha = some original ∧ raw = translate original := by
  unfold readCommit originalOf
  cases git.find store sha with
  | none =>
    constructor
    · intro wrong
      cases wrong
    · rintro ⟨_, wrong, _⟩
      cases wrong
  | some object =>
    dsimp only [Option.bind_some]
    cases Utf8.decode object with
    | none =>
      constructor
      · intro wrong
        cases wrong
      · rintro ⟨_, wrong, _⟩
        cases wrong
    | some original =>
      constructor
      · intro same
        exact ⟨original, rfl, (Except.ok.inj same).symm⟩
      · rintro ⟨_, same, rfl⟩
        cases same
        rfl

theorem Chain.found (chain : Chain look git store head retained) :
    ∃ object, git.find store head = some object := by
  match retained, chain with
  | [_], ⟨object, _, _, found, _⟩ => exact ⟨object, found⟩
  | _ :: _ :: _, ⟨_, ⟨object, _, _, found, _⟩, _⟩ => exact ⟨object, found⟩

theorem Chain.head_hex (identifies : git.Identifies store)
    (chain : Chain look git store head retained) : isObjectId head = true :=
  chain.found.elim fun _ found => Git.hex_of_find identifies found

/-- What holds of every severed commit that is met holds of the chain. -/
theorem Chain.imp (chain : Chain look git store head retained)
    (step : ∀ head, ∀ sha ∈ retained, ∀ added,
      (added ≠ none → sha ∈ retained.dropLast ∧ ∀ parent ∈ added, isObjectId parent = true) →
      Link look git store head sha added → Link look' git store head sha added)
    (identifies : git.Identifies store) :
    Chain look' git store head retained := by
  induction retained generalizing head with
  | nil => exact chain
  | cons sha older ih =>
    cases older with
    | nil => exact step head sha List.mem_cons_self none (fun some => absurd rfl some) chain
    | cons next older =>
      obtain ⟨parent, link, rest⟩ := chain
      have hex := rest.head_hex identifies
      refine ⟨parent, step head sha List.mem_cons_self (some parent) (fun _ => ⟨?_, ?_⟩) link,
        ih rest fun head sha mem added hexes => ?_⟩
      · rw [List.dropLast_cons_of_ne_nil (List.cons_ne_nil _ _)]
        exact List.mem_cons_self
      · exact fun sha same => Option.some.inj same ▸ hex
      · refine step head sha (List.mem_cons_of_mem _ mem) added fun some => ⟨?_, (hexes some).2⟩
        rw [List.dropLast_cons_of_ne_nil (List.cons_ne_nil _ _)]
        exact List.mem_cons_of_mem _ (hexes some).1

/-! ## One commit -/

/-- What there is to know of a commit that is read well. -/
theorem ReadsWell.facts {payload : PyStr} {expected : PyStr} (reads : ReadsWell original)
    (made : rewriteCommitParent branch (translate original) expected added = .ok payload) :
    ∃ tree, commitTreeAndParents branch (translate original) = .ok (tree, [expected]) ∧
      ∀ parent, (∀ sha ∈ parent, isObjectId sha = true) →
        (parent ≠ none → OneTreeKey original) → ∃ value,
          rewriteCommitParent branch (translate original) expected parent = .ok value ∧
          severed parent original = some value ∧
          commitTreeAndParents branch value = .ok (tree, parent.toList) ∧ 13 ∉ value := by
  obtain ⟨read, was, one, -⟩ := rewriteCommitParent_eq_ok.mp made
  have whole := reads
  obtain ⟨parsed, taken, harmless⟩ := whole
  obtain ⟨group, trees, treeHex⟩ := one.tree
  have here := filter_isTree harmless taken was
  rw [trees] at here
  refine ⟨(group.headD []).drop 5, (one.commitTreeAndParents was trees).2,
    fun parent hex keys => ?_⟩
  have again := (@rewriteCommitParent_eq_ok branch _ expected _ parent).mpr ⟨read, was, one, rfl⟩
  have same := (rewriteCommitParent_severed hex again).mpr ⟨reads, keys⟩
  refine ⟨_, again, same, ?_, ?_⟩
  · unfold severed at same
    rw [taken] at same
    rw [← Option.some.inj same]
    exact severed_commitTreeAndParents (parse_eq_some.mp taken) hex here treeHex
  · obtain ⟨messageFree, linesFree⟩ := (parse_eq_some.mp was).not_mem
    intro mem
    rcases List.mem_append.mp mem with front | back
    · rcases mem_of_mem_joinLines front with wrong | ⟨line, mem, inside⟩
      · exact absurd wrong (by decide)
      · exact (mem_rewriteGroups mem).elim (fun old => linesFree line old inside)
          fun new => (parentLines_fine hex line new).2.1 inside
    · rcases List.mem_cons.mp back with wrong | back
      · exact absurd wrong (by decide)
      · rcases List.mem_cons.mp back with wrong | back
        · exact absurd wrong (by decide)
        · exact messageFree back

/-- The parent that was added is read of what was written. -/
theorem parent_of_severed {payload other expected : PyStr} (hex : isObjectId parent = true)
    (hex' : isObjectId other = true)
    (made : rewriteCommitParent branch (translate original) expected (some parent) = .ok payload)
    (same : severed (some other) original = some payload) : other = parent := by
  obtain ⟨read, was, one, rfl⟩ := rewriteCommitParent_eq_ok.mp made
  obtain ⟨parsed, taken, whole⟩ := Option.map_eq_some_iff.mp same
  have of := parse_eq_some.mp taken
  have of' := parse_eq_some.mp was
  have fine : ∀ sha : PyStr, isObjectId sha = true → ∀ line ∈ parentLines (some sha),
      10 ∉ line ∧ line ≠ [] := by
    intro sha hex line mem
    obtain ⟨single, -, filled⟩ :=
      parentLines_fine (fun id same => Option.some.inj same ▸ hex) line mem
    exact ⟨single, filled⟩
  have left := @OneParent.rewriteGroups_ne_nil _ expected read one of' isTreeKey
    (parentLines (some parent))
  have lines := headerLines_rewriteGroups of'.lines of'.groups (fine parent hex) fun empty =>
    left (by rw [empty]; rfl)
  have nonempty : rewriteGroups isDropped isTree (parentLines (some other)) parsed.groups ≠ [] := by
    intro empty
    have split := partitionBlank_compose lines read.message
    rw [← show CommitParts.severed (some other) parsed = compose _ read.message from whole,
      CommitParts.severed, CommitParts.rewritten, empty] at split
    exact left (Prod.ext_iff.mp (Option.some.inj split)).1.symm
  have same_lines := (compose_injective
    (headerLines_rewriteGroups of.lines of.groups (fine other hex') nonempty) lines whole).1
  have mem := @OneParent.added_mem expected (some parent) read one (parentPrefix ++ parent)
    (List.mem_singleton_self _)
  rw [← same_lines] at mem
  have there := isParent_rewriteGroups of.groups mem (isParent_iff.mpr (List.prefix_append _ _))
  exact (List.append_cancel_left (List.mem_singleton.mp there)).symm

/-! ## What is built -/

/-- The commit `head` is what the code made of the commit `sha`. -/
def Rebuilt (branch : Branch) (git : Git) (store : Store) (head sha expected : PyStr)
    (parent : Option PyStr) : Prop :=
  ∃ original payload, originalOf git store sha = some original ∧
    rewriteCommitParent branch (translate original) expected parent = .ok payload ∧
    git.find store head = some (Utf8.encode payload)

/-- From this head on, the commits are what the code made of these. -/
def Built (branch : Branch) (git : Git) (store : Store) (newest : PyStr) :
    PyStr → List PyStr → Prop
  | _, [] => False
  | head, [sha] => Rebuilt branch git store head sha newest none
  | head, sha :: next :: older =>
    ∃ parent, Rebuilt branch git store head sha next (some parent) ∧
      Built branch git store newest parent (next :: older)

theorem Rebuilt.append {expected : PyStr}
    (rebuilt : Rebuilt branch git store head sha expected added) (more : Store) :
    Rebuilt branch git (store ++ more) head sha expected added := by
  obtain ⟨original, payload, held, made, found⟩ := rebuilt
  exact ⟨original, payload, originalOf_append held more, made, Git.find_append found more⟩

theorem Built.append (built : Built branch git store newest head retained) (more : Store) :
    Built branch git (store ++ more) newest head retained := by
  induction retained generalizing head with
  | nil => exact built
  | cons sha older ih =>
    cases older with
    | nil => exact Rebuilt.append built more
    | cons next older =>
      obtain ⟨parent, rebuilt, rest⟩ := built
      exact ⟨parent, rebuilt.append more, ih rest⟩

theorem Built.head_hex (identifies : git.Identifies store)
    (built : Built branch git store newest head retained) : isObjectId head = true := by
  match retained, built with
  | [_], ⟨_, _, _, _, found⟩ => exact Git.hex_of_find identifies found
  | _ :: _ :: _, ⟨_, ⟨_, _, _, _, found⟩, _⟩ => exact Git.hex_of_find identifies found

theorem rebuildOne_eq_ok {length : Nat} {expected : PyStr} {state : Store × PyStr × Option PyStr}
    (made : rebuildOne branch git length (store, expected, added) sha = .ok state) :
    ∃ more id, state = (store ++ more, sha, some id) ∧ (git.Identifies (store ++ more) →
      Rebuilt branch git (store ++ more) id sha expected added) := by
  obtain ⟨raw, read, rest⟩ := bind_eq_ok.mp made
  obtain ⟨original, held, rfl⟩ := readCommit_eq_ok.mp read
  obtain ⟨payload, rewritten, rest⟩ := bind_eq_ok.mp rest
  obtain ⟨⟨written, id⟩, wrote, last⟩ := bind_eq_ok.mp rest
  cases last
  unfold writeCommitObject at wrote
  dsimp only at wrote
  split at wrote
  next =>
    split at wrote
    next =>
      cases wrote
      refine ⟨[Utf8.encode payload], _, rfl, fun identifies => ⟨original, payload,
        originalOf_append held _, rewritten, ?_⟩⟩
      exact Git.find_of_mem identifies (List.mem_append_right _ (List.mem_singleton_self _))
    next => cases wrote
  next => cases wrote

/-- The loop has built a chain of the commits it has seen, whose next parent is the last of them. -/
theorem rebuild_eq_ok {length : Nat} {expected : PyStr} {rebuilt : Option PyStr} {written : Store}
    (identifies : git.Identifies written)
    (made : retained.reverse.foldlM (rebuildOne branch git length) (store, newest, none) =
      .ok (written, expected, rebuilt)) :
    ∃ more, written = store ++ more ∧
      (retained = [] ∧ expected = newest ∧ rebuilt = none ∨
        retained.head? = some expected ∧ ∃ id, rebuilt = some id ∧
          Built branch git written newest id retained) := by
  induction retained generalizing written expected rebuilt with
  | nil =>
    cases made
    exact ⟨[], (List.append_nil _).symm, .inl ⟨rfl, rfl, rfl⟩⟩
  | cons sha older ih =>
    rw [List.reverse_cons, List.foldlM_append] at made
    obtain ⟨⟨before, expected', rebuilt'⟩, first, step⟩ := bind_eq_ok.mp made
    obtain ⟨state, stepped, last⟩ := bind_eq_ok.mp step
    cases last
    obtain ⟨more', id, same, here⟩ := rebuildOne_eq_ok stepped
    cases same
    obtain ⟨more, rfl, seen⟩ := ih identifies.front first
    have here := here identifies
    refine ⟨more ++ more', (List.append_assoc _ _ _), .inr ⟨rfl, id, rfl, ?_⟩⟩
    cases older with
    | nil =>
      rcases seen with ⟨-, rfl, rfl⟩ | ⟨wrong, -⟩
      · exact here
      · cases wrong
    | cons next older =>
      rcases seen with ⟨wrong, -⟩ | ⟨same, parent, rfl, built⟩
      · cases wrong
      · cases same
        exact ⟨parent, here, built.append more'⟩

/-! ## Built as it should be -/

theorem none_hex : ∀ sha ∈ (none : Option PyStr), isObjectId sha = true :=
  fun _ wrong => nomatch wrong

theorem translate_scalars (scalars : ∀ c ∈ original, Utf8.Scalar c) :
    ∀ c ∈ translate original, Utf8.Scalar c := fun c mem =>
  (mem_of_mem_translate mem).elim (fun same => same ▸ Utf8.scalar_of_ascii (by decide)) (scalars c)

theorem originalOf_scalars (held : originalOf git store sha = some original) :
    ∀ c ∈ original, Utf8.Scalar c := by
  obtain ⟨object, -, decoded⟩ := Option.bind_eq_some_iff.mp held
  exact (Utf8.decode_eq_some decoded).1

/-- What was written spells the commit severed, or not. -/
theorem link_iff {payload expected : PyStr} (hex : ∀ sha ∈ added, isObjectId sha = true)
    (held : originalOf git store sha = some original)
    (made : rewriteCommitParent branch (translate original) expected added = .ok payload)
    (found : git.find store head = some (Utf8.encode payload)) (other : Option PyStr) :
    Link Spells git store head sha other ↔ severed other original = some payload := by
  obtain ⟨read, was, -, rfl⟩ := rewriteCommitParent_eq_ok.mp made
  have decoded := Utf8.decode_encode (@rewritten_scalars (translate original) added read
    (parse_eq_some.mp was) (translate_scalars (originalOf_scalars held)) hex isTreeKey)
  constructor
  · rintro ⟨object, original', value, found', held', same, spells⟩
    cases found.symm.trans found'
    cases held.symm.trans held'
    cases decoded.symm.trans spells
    exact same
  · intro same
    exact ⟨_, original, _, found, held, same, decoded⟩

/-- **What was built is the chain that it should be** exactly where the commits are read well. -/
theorem Built.chain_iff (identifies : git.Identifies store)
    (built : Built branch git store newest head retained) :
    Chain Spells git store head retained ↔
      (∀ sha ∈ retained, ∃ original, originalOf git store sha = some original ∧
        ReadsWell original) ∧
      ∀ sha ∈ retained.dropLast, ∀ original, originalOf git store sha = some original →
        OneTreeKey original := by
  induction retained generalizing head with
  | nil => exact absurd built id
  | cons sha older ih =>
    cases older with
    | nil =>
      obtain ⟨original, payload, held, made, found⟩ := built
      have link := link_iff none_hex held made found none
      have reads := rewriteCommitParent_severed none_hex made
      show Link Spells git store head sha none ↔ _
      rw [link, reads]
      constructor
      · rintro ⟨well, -⟩
        refine ⟨fun other mem => ?_, fun other mem => absurd mem List.not_mem_nil⟩
        exact List.mem_singleton.mp mem ▸ ⟨original, held, well⟩
      · rintro ⟨well, -⟩
        obtain ⟨original', held', reads⟩ := well sha List.mem_cons_self
        cases held.symm.trans held'
        exact ⟨reads, fun some => absurd rfl some⟩
    | cons next older =>
      obtain ⟨parent, ⟨original, payload, held, made, found⟩, rest⟩ := built
      have hex := rest.head_hex identifies
      have hexes : ∀ sha ∈ some parent, isObjectId sha = true := fun id same =>
        Option.some.inj same ▸ hex
      have link := link_iff hexes held made found
      have reads := rewriteCommitParent_severed hexes made
      have later := ih rest
      rw [List.dropLast_cons_of_ne_nil (List.cons_ne_nil _ _)]
      constructor
      · rintro ⟨other, linked, chain⟩
        have same := (link (some other)).mp linked
        cases parent_of_severed hex (chain.head_hex identifies) made same
        obtain ⟨well, keys⟩ := reads.mp same
        obtain ⟨wells, allKeys⟩ := later.mp chain
        refine ⟨List.forall_mem_cons.mpr ⟨⟨original, held, well⟩, wells⟩,
          List.forall_mem_cons.mpr ⟨fun original' held' => ?_, allKeys⟩⟩
        cases held.symm.trans held'
        exact keys (Option.some_ne_none _)
      · rintro ⟨wells, keys⟩
        obtain ⟨⟨original', held', well⟩, wells⟩ := List.forall_mem_cons.mp wells
        obtain ⟨key, keys⟩ := List.forall_mem_cons.mp keys
        cases held.symm.trans held'
        exact ⟨parent, (link (some parent)).mpr (reads.mpr ⟨well, fun _ => key original held⟩),
          later.mpr ⟨wells, keys⟩⟩

/-! ## Ways to pruned commits -/

/-- Git reads of a commit of the chain the parent that was added. -/
theorem Link.gitParents {parents : PyStr} (link : Link Spells git store head sha added)
    (hex : ∀ sha ∈ added, isObjectId sha = true)
    (linear : ∃ object, git.find store sha = some object ∧
      Retention.gitParents object = [parents]) :
    ∃ object, git.find store head = some object ∧ Retention.gitParents object = added.toList := by
  obtain ⟨object, original, value, found, held, same, spells⟩ := link
  obtain ⟨parsed, taken, rfl⟩ := Option.map_eq_some_iff.mp same
  obtain ⟨object', found', decoded⟩ := Option.bind_eq_some_iff.mp held
  obtain ⟨object'', found'', linear⟩ := linear
  cases found'.symm.trans found''
  obtain ⟨scalars, rfl⟩ := Utf8.decode_eq_some decoded
  obtain ⟨-, rfl⟩ := Utf8.decode_eq_some spells
  exact ⟨_, found, gitParents_severed (parse_eq_some.mp taken) scalars linear hex⟩

/-- The commits have one parent each. -/
def Git.OneParented (git : Git) (store : Store) (shas : List PyStr) : Prop :=
  ∀ sha ∈ shas, ∃ parent object, git.find store sha = some object ∧ gitParents object = [parent]

/-- A chain that begins at a commit of the history ends at its root. -/
theorem Chain.root_of_mem (identifies : git.Identifies store)
    (chain : Chain Spells git store head retained) (single : git.OneParented store retained)
    {record : Record} {records : List Record} (linked : Linked (record :: records))
    (holds : git.Holds store (record :: records)) (same : record.sha = head) :
    ∀ oldest ∈ retained.getLast?, ∀ root ∈ (record :: records).getLast?,
      Link Spells git store root.sha oldest none := by
  induction retained generalizing head record records with
  | nil => exact fun _ wrong => nomatch wrong
  | cons sha older ih =>
    obtain ⟨⟨parents, one⟩, others⟩ := List.forall_mem_cons.mp single
    obtain ⟨⟨object, found, recorded⟩, later⟩ := List.forall_mem_cons.mp holds
    cases older with
    | nil =>
      obtain ⟨object', found', read⟩ := Link.gitParents chain none_hex one
      rw [same, found', Option.some.injEq] at found
      rw [← found, read] at recorded
      cases records with
      | nil =>
        intro oldest last root first
        cases last
        cases first
        exact same ▸ chain
      | cons next records =>
        have := linked.1
        rw [← recorded] at this
        cases this
    | cons next older =>
      obtain ⟨parent, link, rest⟩ := chain
      obtain ⟨object', found', read⟩ := Link.gitParents link
        (fun id here => Option.some.inj here ▸ rest.head_hex identifies) one
      rw [same, found', Option.some.injEq] at found
      rw [← found, read] at recorded
      cases records with
      | nil =>
        rw [show record.parents = [] from linked] at recorded
        cases recorded
      | cons second records =>
        rw [linked.1] at recorded
        rw [List.getLast?_cons_cons, List.getLast?_cons_cons]
        exact ih rest others linked.2 later (List.cons.inj recorded).1.symm

/-- There is a way to the last commit of a chain. -/
theorem Chain.way_last (identifies : git.Identifies store)
    (chain : Chain Spells git store head retained) (single : git.OneParented store retained) :
    ∀ oldest ∈ retained.getLast?, ∃ last, Path git store head last ∧
      Link Spells git store last oldest none := by
  induction retained generalizing head with
  | nil => exact fun _ wrong => nomatch wrong
  | cons sha older ih =>
    obtain ⟨⟨parents, one⟩, others⟩ := List.forall_mem_cons.mp single
    cases older with
    | nil =>
      intro oldest same
      cases same
      exact ⟨head, .refl head, chain⟩
    | cons next older =>
      obtain ⟨parent, link, rest⟩ := chain
      obtain ⟨object, found, read⟩ := Link.gitParents link
        (fun id here => Option.some.inj here ▸ rest.head_hex identifies) one
      intro oldest same
      rw [List.getLast?_cons_cons] at same
      obtain ⟨last, way, linked⟩ := ih rest others oldest same
      refine ⟨last, .step found ?_ way, linked⟩
      rw [read]
      exact List.mem_singleton_self _

theorem Linked.suffix {front records : List Record} (linked : Linked (front ++ records)) :
    Linked records := by
  induction front with
  | nil => exact linked
  | cons record front ih =>
    refine ih ?_
    cases rest : front ++ records with
    | nil => trivial
    | cons next older =>
      rw [List.cons_append, rest] at linked
      exact linked.2

/-- A way from a chain leads to commits of the chain only. -/
theorem Chain.of_way (identifies : git.Identifies store)
    (chain : Chain Spells git store head retained) (single : git.OneParented store retained)
    {other : PyStr} (way : Path git store head other) :
    ∃ older, Chain Spells git store other older ∧ git.OneParented store older ∧
      older.getLast? = retained.getLast? := by
  induction retained generalizing head with
  | nil => exact absurd chain id
  | cons sha older ih =>
    obtain ⟨⟨parents, one⟩, others⟩ := List.forall_mem_cons.mp single
    cases way with
    | refl => exact ⟨sha :: older, chain, single, rfl⟩
    | step found child way =>
      cases older with
      | nil =>
        obtain ⟨object, found', read⟩ := Link.gitParents chain none_hex one
        cases found.symm.trans found'
        rw [read] at child
        cases child
      | cons next older =>
        obtain ⟨parent, link, rest⟩ := chain
        obtain ⟨object, found', read⟩ := Link.gitParents link
          (fun id here => Option.some.inj here ▸ rest.head_hex identifies) one
        cases found.symm.trans found'
        rw [read] at child
        cases List.mem_singleton.mp child
        rw [List.getLast?_cons_cons]
        exact ih rest others way

/-- **No way leads from a chain to the history** exactly where its last commit is not the root. -/
theorem Chain.apart_iff (identifies : git.Identifies store)
    (chain : Chain Spells git store head retained) (single : git.OneParented store retained)
    {records : List Record} (linked : Linked records) (holds : git.Holds store records) :
    (∀ record ∈ records, ¬Path git store head record.sha) ↔
      ∀ oldest ∈ retained.getLast?, ∀ root ∈ records.getLast?,
        ¬Link Spells git store root.sha oldest none := by
  constructor
  · intro apart oldest last root first link
    obtain ⟨end_, way, link'⟩ := chain.way_last identifies single oldest last
    obtain ⟨object, original, value, found, held, same, spells⟩ := link
    obtain ⟨object', original', value', found', held', same', spells'⟩ := link'
    cases held.symm.trans held'
    cases same.symm.trans same'
    obtain ⟨-, rfl⟩ := Utf8.decode_eq_some spells
    obtain ⟨-, rfl⟩ := Utf8.decode_eq_some spells'
    have here := (Git.objectId_of_find found).symm.trans (Git.objectId_of_find found')
    exact apart root (List.mem_of_getLast? first) (here ▸ way)
  · intro rootless record mem way
    obtain ⟨front, back, rfl⟩ := List.append_of_mem mem
    obtain ⟨older, chain', single', last⟩ := chain.of_way identifies single way
    have nonempty : older ≠ [] := by
      rintro rfl
      exact chain'
    have final := List.getLast?_eq_some_getLast nonempty
    have first : (record :: back).getLast? = some ((record :: back).getLast
        (List.cons_ne_nil _ _)) := List.getLast?_eq_some_getLast (List.cons_ne_nil _ _)
    refine rootless _ (last ▸ final) _ ?_ (chain'.root_of_mem identifies single' linked.suffix
      (fun other held => holds other (List.mem_append_right _ held)) rfl _ final _ first)
    rw [List.getLast?_append_of_ne_nil _ (List.cons_ne_nil _ _)]
    exact first

/-! ## What is accepted -/

theorem commitTreeAndParents_hex {raw tree : PyStr} {parents : List PyStr}
    (read : commitTreeAndParents branch raw = .ok (tree, parents)) :
    ∀ sha ∈ parents, isObjectId sha = true := by
  unfold commitTreeAndParents at read
  split at read
  next => cases read
  next =>
    dsimp only at read
    split at read
    next => cases read
    next =>
      split at read
      next =>
        split at read
        next fine =>
          rw [Bool.and_eq_true, Bool.and_eq_true] at fine
          cases read
          exact List.all_eq_true.mp fine.1.2
        next => cases read
      next => cases read

theorem readAs_iff {value : PyStr} : (∃ object, git.find store head = some object ∧
    ReadAs object value) ↔ readCommit branch git store head = .ok value := by
  rw [readCommit_eq_ok]
  constructor
  · rintro ⟨object, found, spelled, spells, rfl⟩
    exact ⟨spelled, Option.bind_eq_some_iff.mpr ⟨object, found, spells⟩, rfl⟩
  · rintro ⟨original, held, rfl⟩
    obtain ⟨object, found, decoded⟩ := Option.bind_eq_some_iff.mp held
    exact ⟨object, found, original, decoded, rfl⟩

/-- What is looked at of one commit: what it is read as is the original, severed. -/
theorem link_readAs_iff {parent : Option PyStr}
    (held : originalOf git store sha = some original) {value : PyStr}
    (same : severed parent original = some value) :
    Link ReadAs git store head sha parent ↔ readCommit branch git store head = .ok value := by
  rw [← readAs_iff]
  constructor
  · rintro ⟨object, original', value', found, held', same', reads⟩
    cases held.symm.trans held'
    cases same.symm.trans same'
    exact ⟨object, found, reads⟩
  · rintro ⟨object, found, reads⟩
    exact ⟨object, original, value, found, held, same, reads⟩

/-- One commit is accepted where it reads as the original, severed, with the parent it has. -/
theorem validateCommit_eq_ok {payload expected other : PyStr} {oldest : Bool}
    {parent : Option PyStr} (held : originalOf git store sha = some original)
    (well : ReadsWell original) (keys : oldest = false → OneTreeKey original)
    (made : rewriteCommitParent branch (translate original) expected added = .ok payload) :
    validateCommit branch git store expected oldest other sha = .ok parent ↔
      (oldest = true ↔ parent = none) ∧ (∀ sha ∈ parent, isObjectId sha = true) ∧
        Link ReadAs git store other sha parent := by
  obtain ⟨tree, first, facts⟩ := well.facts made
  constructor
  · intro accepted
    obtain ⟨raw, read, rest⟩ := bind_eq_ok.mp accepted
    obtain ⟨rebuilt, read', rest⟩ := bind_eq_ok.mp rest
    obtain ⟨⟨tree', parents'⟩, -, rest⟩ := bind_eq_ok.mp rest
    obtain ⟨⟨tree'', parents''⟩, taken, rest⟩ := bind_eq_ok.mp rest
    obtain ⟨original', held', rfl⟩ := readCommit_eq_ok.mp read
    cases held.symm.trans held'
    dsimp only at rest
    split at rest
    next => cases rest
    next shape =>
      obtain ⟨expectedRebuilt, made', rest⟩ := bind_eq_ok.mp rest
      split at rest
      next => cases rest
      next fine =>
        rw [not_or, not_or, not_not, not_not] at fine
        have same := Except.ok.inj rest
        have alone : oldest = true ↔ parent = none := by
          rw [← same]
          cases oldest with
          | true => exact ⟨fun _ => rfl, fun _ => rfl⟩
          | false =>
            refine ⟨fun wrong => (nomatch wrong), fun empty => absurd ?_ shape⟩
            rw [if_neg Bool.false_ne_true, List.head?_eq_none_iff] at empty
            exact .inr ⟨Bool.false_ne_true, by rw [empty]; decide⟩
        have hex : ∀ sha ∈ parent, isObjectId sha = true := by
          intro sha mem
          rw [← same] at mem
          split at mem
          next => cases mem
          next => exact commitTreeAndParents_hex taken sha (List.mem_of_mem_head? mem)
        rw [show (if oldest = true then none else parents''.head?) = parent from same] at made'
        obtain ⟨value, again, severs, -⟩ := facts parent hex fun some =>
          keys (Bool.eq_false_iff.mpr fun last => some (alone.mp last))
        cases made'.symm.trans again
        have reads : readCommit branch git store other = .ok expectedRebuilt := fine.2.2 ▸ read'
        exact ⟨alone, hex, (link_readAs_iff held severs).mpr reads⟩
  · rintro ⟨alone, hex, link⟩
    obtain ⟨value, again, severs, taken, -⟩ := facts parent hex fun some =>
      keys (Bool.eq_false_iff.mpr fun last => some (alone.mp last))
    have read := (@link_readAs_iff branch git store other sha original parent held value
      severs).mp link
    refine bind_eq_ok.mpr ⟨_, readCommit_eq_ok.mpr ⟨original, held, rfl⟩, bind_eq_ok.mpr
      ⟨value, read, bind_eq_ok.mpr ⟨_, first, bind_eq_ok.mpr ⟨_, taken, ?_⟩⟩⟩⟩
    have same : (if oldest = true then none else parent.toList.head?) = parent := by
      cases oldest with
      | true => exact (alone.mp rfl).symm
      | false => cases parent <;> rfl
    dsimp only
    rw [same, if_neg]
    · refine bind_eq_ok.mpr ⟨value, again, ?_⟩
      rw [if_neg]
      · rfl
      · rintro (wrong | ⟨-, wrong⟩ | wrong)
        · exact wrong rfl
        · exact wrong rfl
        · exact wrong rfl
    · rintro (⟨last, wrong⟩ | ⟨more, wrong⟩)
      · rw [alone.mp last] at wrong
        exact wrong rfl
      · cases parent with
        | none => exact more (alone.mpr rfl)
        | some sha => exact wrong rfl

/-- **What is accepted is what reads as the chain that it should be.** -/
theorem Built.validateFrom_iff (identifies : git.Identifies store)
    (built : Built branch git store newest head retained)
    (reads : ∀ sha ∈ retained, ∃ original, originalOf git store sha = some original ∧
      ReadsWell original)
    (keys : ∀ sha ∈ retained.dropLast, ∀ original, originalOf git store sha = some original →
      OneTreeKey original) (other : PyStr) :
    validateFrom branch git store newest other retained = .ok () ↔
      Chain ReadAs git store other retained := by
  induction retained generalizing head other with
  | nil => exact absurd built id
  | cons sha older ih =>
    obtain ⟨⟨original, held, well⟩, wells⟩ := List.forall_mem_cons.mp reads
    cases older with
    | nil =>
      obtain ⟨original', payload, held', made, found⟩ := built
      cases held.symm.trans held'
      have one := fun parent => @validateCommit_eq_ok branch git store sha none original payload
        newest other true parent held well (fun wrong => nomatch wrong) made
      constructor
      · intro accepted
        obtain ⟨parent, first, -⟩ := bind_eq_ok.mp accepted
        obtain ⟨alone, -, link⟩ := (one parent).mp first
        rw [alone.mp rfl] at link
        exact link
      · intro link
        exact bind_eq_ok.mpr ⟨none, (one none).mpr ⟨⟨fun _ => rfl, fun _ => rfl⟩, none_hex, link⟩,
          rfl⟩
    | cons next older =>
      obtain ⟨parent', ⟨original', payload, held', made, found⟩, rest⟩ := built
      cases held.symm.trans held'
      rw [List.dropLast_cons_of_ne_nil (List.cons_ne_nil _ _)] at keys
      obtain ⟨key, keys⟩ := List.forall_mem_cons.mp keys
      have one := fun parent => @validateCommit_eq_ok branch git store sha (some parent') original
        payload next other false parent held well (fun _ => key original held) made
      have later := ih rest wells keys
      constructor
      · intro accepted
        obtain ⟨parent, first, last⟩ := bind_eq_ok.mp accepted
        obtain ⟨alone, -, link⟩ := (one parent).mp first
        cases parent with
        | none => exact absurd (alone.mpr rfl) Bool.false_ne_true
        | some parent => exact ⟨parent, link, (later parent).mp last⟩
      · rintro ⟨parent, link, chain⟩
        refine bind_eq_ok.mpr ⟨some parent, (one (some parent)).mpr ⟨⟨(fun wrong => nomatch wrong),
          (fun wrong => nomatch wrong)⟩, ?_, link⟩, (later parent).mpr chain⟩
        exact fun id same => Option.some.inj same ▸ chain.head_hex identifies

/-- A commit that is read as itself, severed, has the parent that was added. -/
theorem Link.parent_of_self {payload expected : PyStr} {parent : Option PyStr}
    (link : Link ReadAs git store sha sha parent)
    (held : originalOf git store sha = some original) (well : ReadsWell original)
    (hex : ∀ sha ∈ parent, isObjectId sha = true) (keys : parent ≠ none → OneTreeKey original)
    (made : rewriteCommitParent branch (translate original) expected added = .ok payload) :
    parent = some expected := by
  obtain ⟨tree, first, facts⟩ := well.facts made
  obtain ⟨value, -, severs, taken, -⟩ := facts parent hex keys
  have read := (@link_readAs_iff branch git store sha sha original parent held value severs).mp link
  obtain ⟨original', held', rfl⟩ := readCommit_eq_ok.mp read
  cases held.symm.trans held'
  have same := congrArg Prod.snd (Except.ok.inj (first.symm.trans taken))
  cases parent with
  | none => cases same
  | some parent => exact congrArg some (List.cons.inj same).1.symm

/-- The head of a history is no replacement of it. -/
theorem Built.not_self (identifies : git.Identifies store)
    (built : Built branch git store newest head retained)
    (reads : ∀ sha ∈ retained, ∃ original, originalOf git store sha = some original ∧
      ReadsWell original)
    (keys : ∀ sha ∈ retained.dropLast, ∀ original, originalOf git store sha = some original →
      OneTreeKey original) :
    ∀ sha ∈ retained.head?, ¬Chain ReadAs git store sha retained := by
  induction retained generalizing head with
  | nil => exact fun _ wrong => nomatch wrong
  | cons sha older ih =>
    rintro _ same chain
    cases same
    obtain ⟨⟨original, held, well⟩, wells⟩ := List.forall_mem_cons.mp reads
    cases older with
    | nil =>
      obtain ⟨original', payload, held', made, found⟩ := built
      cases held.symm.trans held'
      have := Link.parent_of_self chain held well none_hex (fun some => absurd rfl some) made
      cases this
    | cons next older =>
      obtain ⟨parent', ⟨original', payload, held', made, found⟩, rest⟩ := built
      cases held.symm.trans held'
      rw [List.dropLast_cons_of_ne_nil (List.cons_ne_nil _ _)] at keys
      obtain ⟨key, keys⟩ := List.forall_mem_cons.mp keys
      obtain ⟨parent, link, chain⟩ := chain
      have := Link.parent_of_self link held well
        (fun id same => Option.some.inj same ▸ chain.head_hex identifies)
        (fun _ => key original held) made
      cases this
      exact ih rest wells keys next rfl chain

theorem accepts_iff {authorization : Authorization} {pruned : List PyStr}
    (identifies : git.Identifies store) (bounded : validateBoundary branch authorization = .ok ())
    (some : authorization.pruned = newest :: pruned)
    (first : authorization.retained.head? = .some authorization.expectedHead)
    (built : Built branch git store newest head authorization.retained)
    (reads : ∀ sha ∈ authorization.retained, ∃ original,
      originalOf git store sha = .some original ∧ ReadsWell original)
    (keys : ∀ sha ∈ authorization.retained.dropLast, ∀ original,
      originalOf git store sha = .some original → OneTreeKey original) (other : PyStr) :
    Accepts branch git store authorization other ↔
      Chain ReadAs git store other authorization.retained := by
  rw [← built.validateFrom_iff identifies reads keys]
  unfold Accepts validateReplacement
  constructor
  · intro accepted
    obtain ⟨⟨⟩, -, rest⟩ := bind_eq_ok.mp accepted
    rw [some] at rest
    obtain ⟨⟨⟩, -, last⟩ := bind_eq_ok.mp rest
    exact last
  · intro valid
    refine bind_eq_ok.mpr ⟨(), bounded, ?_⟩
    rw [some]
    refine bind_eq_ok.mpr ⟨(), ?_, valid⟩
    have chain := (built.validateFrom_iff identifies reads keys other).mp valid
    have present : ∃ object, git.find store authorization.expectedHead = .some object := by
      obtain ⟨original, held, -⟩ := reads _ (List.mem_of_mem_head? first)
      obtain ⟨object, found, -⟩ := Option.bind_eq_some_iff.mp held
      exact ⟨object, found⟩
    obtain ⟨object, found⟩ := chain.found
    obtain ⟨object', present⟩ := present
    refine if_pos ⟨rfl, rfl, chain.head_hex identifies, ?_, fun same => ?_⟩
    · rw [← Git.objectId_of_find found, ← Git.objectId_of_find present]
      exact identifies.width object (List.mem_of_find?_eq_some found) object'
        (List.mem_of_find?_eq_some present)
    · exact built.not_self identifies reads keys _ first (same ▸ chain)

theorem Built.made (built : Built branch git store newest head retained) :
    ∀ sha ∈ retained, ∃ original expected added payload, originalOf git store sha = some original ∧
      rewriteCommitParent branch (translate original) expected added = .ok payload := by
  induction retained generalizing head with
  | nil => exact fun _ wrong => nomatch wrong
  | cons sha older ih =>
    cases older with
    | nil =>
      obtain ⟨original, payload, held, made, -⟩ := built
      intro other mem
      rw [List.mem_singleton.mp mem]
      exact ⟨original, newest, none, payload, held, made⟩
    | cons next older =>
      obtain ⟨parent, ⟨original, payload, held, made, -⟩, rest⟩ := built
      exact List.forall_mem_cons.mpr ⟨⟨original, next, some parent, payload, held, made⟩, ih rest⟩

/-- A commit that is what it should be has no line end but LF. -/
theorem Chain.plainly (identifies : git.Identifies store)
    (built : Built branch git store newest head retained)
    (reads : ∀ sha ∈ retained, ∃ original, originalOf git store sha = some original ∧
      ReadsWell original)
    (keys : ∀ sha ∈ retained.dropLast, ∀ original, originalOf git store sha = some original →
      OneTreeKey original) {other : PyStr} (chain : Chain Spells git store other retained) :
    Chain ReadPlainly git store other retained := by
  refine chain.imp (fun head sha mem added hexes link => ?_) identifies
  obtain ⟨original, expected, added', payload, held, made⟩ := built.made sha mem
  obtain ⟨original', held', well⟩ := reads sha mem
  cases held.symm.trans held'
  obtain ⟨object, original', value, found, held', same, spells⟩ := link
  cases held.symm.trans held'
  have hex : ∀ sha ∈ added, isObjectId sha = true := by
    cases added with
    | none => exact none_hex
    | some parent => exact (hexes (Option.some_ne_none _)).2
  obtain ⟨tree, -, facts⟩ := well.facts made
  obtain ⟨value', -, same', -, free⟩ := facts added hex fun some =>
    keys sha (hexes some).1 original held
  cases same.symm.trans same'
  exact ⟨object, original, value, found, held, same, value, spells, translate_of_not_mem free, free⟩

theorem Link.imp {parent : Option PyStr}
    (imp : ∀ object value, look object value → look' object value)
    (link : Link look git store head sha parent) : Link look' git store head sha parent := by
  obtain ⟨object, original, value, found, held, same, looks⟩ := link
  exact ⟨object, original, value, found, held, same, imp object value looks⟩

/-- What reads as the chain is the chain exactly where it has no other line ends. -/
theorem Built.alone_iff (identifies : git.Identifies store)
    (built : Built branch git store newest head retained)
    (reads : ∀ sha ∈ retained, ∃ original, originalOf git store sha = some original ∧
      ReadsWell original)
    (keys : ∀ sha ∈ retained.dropLast, ∀ original, originalOf git store sha = some original →
      OneTreeKey original) :
    (∀ other, Chain ReadAs git store other retained ↔ Chain Spells git store other retained) ↔
      ∀ other, Chain ReadAs git store other retained →
        Chain ReadPlainly git store other retained := by
  constructor
  · intro same other chain
    exact ((same other).mp chain).plainly identifies built reads keys
  · intro alone other
    constructor
    · intro chain
      refine (alone other chain).imp (fun _ _ _ _ _ link => link.imp ?_) identifies
      rintro object value ⟨spelled, spells, rfl, free⟩
      rw [translate_of_not_mem free]
      exact spells
    · intro chain
      refine (chain.plainly identifies built reads keys).imp
        (fun _ _ _ _ _ link => link.imp ?_) identifies
      rintro object value ⟨spelled, spells, same, -⟩
      exact ⟨spelled, spells, same⟩

end

/-! ## A replacement -/

section

variable {branch : Branch} {git : Git} {store written : Store} {authorization : Authorization}
  {artifact : Artifact} {records : List Record}

theorem buildReplacement_eq_ok (identifies : git.Identifies written)
    (built : buildReplacement branch git store authorization = .ok (written, artifact)) :
    validateBoundary branch authorization = .ok () ∧
      ∃ newest pruned more, authorization.pruned = newest :: pruned ∧ written = store ++ more ∧
        Built branch git written newest artifact.replacementHead authorization.retained := by
  obtain ⟨⟨⟩, bounded, rest⟩ := bind_eq_ok.mp built
  refine ⟨bounded, ?_⟩
  split at rest
  next => cases rest
  next newest pruned same =>
    obtain ⟨⟨written', expected, rebuilt⟩, looped, rest⟩ := bind_eq_ok.mp rest
    dsimp only at rest
    split at rest
    next => cases rest
    next id =>
      split at rest
      next => cases rest
      next =>
        cases rest
        obtain ⟨more, made, seen⟩ := rebuild_eq_ok identifies looped
        refine ⟨newest, pruned, more, same, made, ?_⟩
        rcases seen with ⟨-, -, wrong⟩ | ⟨-, id, rebuilt, chain⟩
        · cases wrong
        · cases rebuilt
          exact chain

theorem Git.Holds.append {more : Store} (holds : git.Holds store records) :
    git.Holds (store ++ more) records := by
  intro record mem
  obtain ⟨object, found, recorded⟩ := holds record mem
  exact ⟨object, Git.find_append found more, recorded⟩

/-- The records of a linear history: what is retained has one parent each, and the rest is linear
itself. -/
theorem Linked.split {retained pruned : List PyStr} (linked : Linked records)
    (holds : git.Holds store records) (some : pruned ≠ [])
    (whole : retained ++ pruned = records.map Record.sha) :
    git.OneParented store retained ∧ ∃ older, older.map Record.sha = pruned ∧ Linked older ∧
      git.Holds store older := by
  induction retained generalizing records with
  | nil => exact ⟨fun _ wrong => (nomatch wrong), records, whole.symm, linked, holds⟩
  | cons sha retained ih =>
    cases records with
    | nil => cases whole
    | cons record records =>
      obtain ⟨rfl, rest⟩ := List.cons.inj whole
      obtain ⟨⟨object, found, recorded⟩, later⟩ := List.forall_mem_cons.mp holds
      cases records with
      | nil => exact absurd (List.append_eq_nil_iff.mp rest).2 some
      | cons next records =>
        obtain ⟨single, older⟩ := ih linked.2 later rest
        refine ⟨List.forall_mem_cons.mpr ⟨⟨next.sha, object, found, ?_⟩, single⟩, older⟩
        rw [recorded, linked.1]

/-- **A rewritten history is faithful exactly where its commits can be rebuilt through their
texts.** What is retained and what is pruned are the history in any case, with its head. -/
theorem replacement_faithful_iff (branch : Branch) (git : Git) (days : Int) (reference : Timestamp)
    (head prewrite : PyStr) (records : List Record) (evidence : Evidence)
    (authorization : Authorization) (store written : Store) (artifact : Artifact)
    (identifies : git.Identifies written) (holds : git.Holds store records)
    (validated : validateEvidence branch days head records reference = .ok evidence)
    (authorized : authorize branch evidence prewrite = .ok authorization)
    (built : buildReplacement branch git store authorization = .ok (written, artifact)) :
    authorization.retained ++ authorization.pruned = records.map Record.sha ∧
      authorization.retained.head? = some head ∧
      (Faithful branch git written authorization artifact.replacementHead ↔
        Rebuildable git written authorization) := by
  obtain ⟨same, expected, linked, -, -, -⟩ := validateEvidence_spec validated
  obtain ⟨expected', whole, first, -⟩ := authorize_spec authorized
  rw [same] at whole
  refine ⟨whole, by rw [first, expected', expected], ?_⟩
  obtain ⟨bounded, newest, pruned, more, some, rfl, chain⟩ :=
    buildReplacement_eq_ok identifies built
  have holds' : git.Holds (store ++ more) records := holds.append
  obtain ⟨single, older, shas, linked', holds'⟩ := linked.split holds'
    (by rw [some]; exact List.cons_ne_nil _ _) whole
  have last : ∀ root : PyStr, root ∈ authorization.pruned.getLast? ↔
      ∃ record ∈ older.getLast?, record.sha = root := by
    intro root
    rw [← shas, List.getLast?_map]
    exact Option.map_eq_some_iff
  have rebuilt := chain.chain_iff identifies
  constructor
  · rintro ⟨whole, apart, exactly⟩
    obtain ⟨reads, keys⟩ := rebuilt.mp whole
    have accepted := accepts_iff identifies bounded some first chain reads keys
    have rootless := (whole.apart_iff identifies single linked' holds').mp fun record mem =>
      apart record.sha (shas ▸ List.mem_map_of_mem mem)
    refine ⟨reads, keys, fun oldest final root there => ?_, ?_⟩
    · obtain ⟨record, held, rfl⟩ := (last root).mp there
      exact rootless oldest final record held
    · exact (chain.alone_iff identifies reads keys).mp fun other =>
        (accepted other).symm.trans (exactly other)
  · rintro ⟨reads, keys, rootless, alone⟩
    have chain' := rebuilt.mpr ⟨reads, keys⟩
    have accepted := accepts_iff identifies bounded some first chain reads keys
    refine ⟨chain', fun sha mem => ?_, fun other => ?_⟩
    · rw [← shas] at mem
      obtain ⟨record, held, rfl⟩ := List.mem_map.mp mem
      exact (chain'.apart_iff identifies single linked' holds').mpr
        (fun oldest final root there => rootless oldest final root.sha
          ((last root.sha).mpr ⟨root, there, rfl⟩)) record held
    · exact (accepted other).trans ((chain.alone_iff identifies reads keys).mpr alone other)

end

/-! ## A history of two commits -/

def shaOf (digit : Nat) : PyStr := List.replicate 40 digit

def rootCommit : PyStr := text "tree " ++ shaOf 97 ++ text "\nauthor a\n\nroot"

def headCommit (message : PyStr) : PyStr :=
  text "tree " ++ shaOf 97 ++ text "\nparent " ++ shaOf 49 ++ text "\nauthor a\n\n" ++ message

def rebuiltCommit (message : PyStr) : PyStr :=
  text "tree " ++ shaOf 97 ++ text "\nauthor a\n\n" ++ message

/-- Ids for the three commits, whatever the message is. -/
def threeIds (message : PyStr) : Git where
  objectId object :=
    if object = Utf8.encode rootCommit then shaOf 49
    else if object = Utf8.encode (headCommit message) then shaOf 50
    else shaOf 51
  accepts _ := true

def twoObjects (message : PyStr) : Store :=
  [Utf8.encode rootCommit, Utf8.encode (headCommit message)]

/-- The head is of the day, and the root is ninety days old. -/
def twoRecords : List Record :=
  [⟨shaOf 50, ⟨100 * 86400000000, some 0⟩, [shaOf 49]⟩,
    ⟨shaOf 49, ⟨10 * 86400000000, some 0⟩, []⟩]

def twoPlan : Plan :=
  ⟨shaOf 50, ⟨100 * 86400000000, some 0⟩, 30, 70 * 86400000000, [shaOf 50], [shaOf 49]⟩

def twoEvidence : Evidence := ⟨shaOf 50, twoRecords, twoPlan⟩

def twoAuthorization : Authorization := ⟨shaOf 50, [shaOf 50], [shaOf 49]⟩

def twoArtifact : Artifact := ⟨shaOf 50, [shaOf 50], shaOf 51⟩

theorem Link.value {git : Git} {store : Store} {head sha : PyStr} {parent : Option PyStr}
    (link : Link Spells git store head sha parent) :
    (git.find store head).bind Utf8.decode =
      (originalOf git store sha).bind (severed parent) := by
  obtain ⟨object, original, value, found, held, same, spells⟩ := link
  rw [found, held]
  exact spells.trans same.symm

def twoWritten (message rebuilt : PyStr) : Store :=
  twoObjects message ++ [Utf8.encode (rebuiltCommit rebuilt)]

/-- A message of one line is kept. -/
theorem one_line_faithful : Faithful .logs (threeIds (text "a"))
    (twoWritten (text "a") (text "a")) twoAuthorization (shaOf 51) := by
  have identifies : (threeIds (text "a")).Identifies (twoWritten (text "a") (text "a")) :=
    ⟨by decide +kernel, by decide +kernel, by decide +kernel⟩
  have holds : (threeIds (text "a")).Holds (twoObjects (text "a")) twoRecords := by
    refine List.forall_mem_cons.mpr ⟨?_, List.forall_mem_singleton.mpr ?_⟩
    · exact ⟨Utf8.encode (headCommit (text "a")), by decide +kernel, by decide +kernel⟩
    · exact ⟨Utf8.encode rootCommit, by decide +kernel, by decide +kernel⟩
  have iff := (replacement_faithful_iff .logs (threeIds (text "a")) 30
    ⟨100 * 86400000000, some 0⟩ (shaOf 50) (shaOf 50) twoRecords twoEvidence twoAuthorization
    (twoObjects (text "a")) (twoWritten (text "a") (text "a")) twoArtifact identifies holds
    (by decide +kernel) (by decide +kernel) (by decide +kernel)).2.2
  obtain ⟨parsed, taken⟩ : ∃ parsed, CommitText.parse (headCommit (text "a")) = some parsed :=
    Option.isSome_iff_exists.mp (by decide +kernel)
  refine iff.mpr ⟨fun sha mem => ?_, fun sha mem => absurd mem List.not_mem_nil, ?_, ?_⟩
  · refine ⟨headCommit (text "a"), ?_, readsWell_of_not_mem (by decide +kernel) taken⟩
    rw [List.mem_singleton.mp mem]
    decide +kernel
  · intro oldest last root first link
    cases last
    cases first
    exact absurd link.value (by decide +kernel)
  · rintro other ⟨object, original, value, found, held, same, spelled, spells, reads⟩
    have plain : ∀ object ∈ twoWritten (text "a") (text "a"), ∀ spelled ∈ Utf8.decode object,
        13 ∉ spelled := by decide +kernel
    exact ⟨object, original, value, found, held, same, spelled, spells, reads,
      plain object (List.mem_of_find?_eq_some found) spelled spells⟩

/-- A line end CR LF in the message is not. -/
theorem line_end_lost :
    (threeIds (text "a\r\nb")).Identifies (twoWritten (text "a\r\nb") (text "a\nb")) ∧
      (threeIds (text "a\r\nb")).Holds (twoObjects (text "a\r\nb")) twoRecords ∧
      validateEvidence .logs 30 (shaOf 50) twoRecords ⟨100 * 86400000000, some 0⟩ =
        .ok twoEvidence ∧
      authorize .logs twoEvidence (shaOf 50) = .ok twoAuthorization ∧
      buildReplacement .logs (threeIds (text "a\r\nb")) (twoObjects (text "a\r\nb"))
        twoAuthorization = .ok (twoWritten (text "a\r\nb") (text "a\nb"), twoArtifact) ∧
      ¬Faithful .logs (threeIds (text "a\r\nb")) (twoWritten (text "a\r\nb") (text "a\nb"))
        twoAuthorization (shaOf 51) := by
  refine ⟨⟨by decide +kernel, by decide +kernel, by decide +kernel⟩, ?_, by decide +kernel,
    by decide +kernel, by decide +kernel, fun faithful => ?_⟩
  · refine List.forall_mem_cons.mpr ⟨?_, List.forall_mem_singleton.mpr ?_⟩
    · exact ⟨Utf8.encode (headCommit (text "a\r\nb")), by decide +kernel, by decide +kernel⟩
    · exact ⟨Utf8.encode rootCommit, by decide +kernel, by decide +kernel⟩
  · have link : Link Spells _ _ (shaOf 51) (shaOf 50) none := faithful.chain
    exact absurd link.value (by decide +kernel)

end Retention

end SyncApp
