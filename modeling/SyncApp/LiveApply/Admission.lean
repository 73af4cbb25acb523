import SyncApp.LiveApply.Calls

/-!
# What the admission proof accepts

`proveLiveApplyPreconditions` only looks. While no call fails it accepts a plan exactly when the
plan's operations are well formed and each of them is *applicable* to the live file system: below
the directory its path resolves to, the baseline stands (`Stands`), or an added name is free; an
added path may also lead to no directory at all (`Applicable.unparented`).
-/

set_option autoImplicit false

namespace SyncApp

open Lib Raising Sys LiveApplyPreconditions

open Lib.Raising (bind_eq_ok)

/-- Raising what an inner program raised, under another class or text, accepts no more. -/
theorem eval_tryCatch_eq_ok {σ α : Type} {p : Raising PyError σ α} {h : PyError → Raising PyError σ α}
    (raises : ∀ error s a, ((h error).eval s).1 ≠ .ok a) {s t : σ} {a : α} :
    (tryCatch p h).eval s = (.ok a, t) ↔ p.eval s = (.ok a, t) := by
  rw [eval_tryCatch]
  cases ran : p.eval s with
  | mk result u =>
    cases result with
    | ok b => rfl
    | error error =>
      constructor
      · intro handled
        exact absurd (congrArg Prod.fst handled) (raises error u a)
      · intro wrong
        cases wrong

variable {hashing : Hashing} {host host' : Host} {dir fd root : Nat} {name : PyStr}

/-! ## The stage -/

theorem looks_readDisk (path : PyStr) (refused : PyError) :
    Looks (CandidateStages.readDisk path refused) :=
  looks_orRaise (looks_ask _) refused

theorem looks_verifyCandidateStage (stage : CandidateStage) :
    Looks (CandidateStages.verifyCandidateStage hashing stage) := by
  refine .bind (.ofResult _) fun _ => .bind (looks_readDisk _ _) fun disk => ?_
  refine .bind (looks_require _ _) fun _ => .bind (looks_readDisk _ _) fun disk => ?_
  refine .bind (looks_require _ _) fun _ => .bind (looks_require _ _) fun _ => ?_
  exact .bind (looks_readDisk _ _) fun disk => .ofResult _

/-! ## The walk to the parent -/

/-- Every name of a path is one the system takes. -/
def CleanParts (parts : List PyStr) : Prop := ∀ part ∈ parts, Clean part

theorem CleanParts.cons {part : PyStr} {parts : List PyStr} (clean : CleanParts (part :: parts)) :
    Clean part ∧ CleanParts parts := List.forall_mem_cons.mp clean

theorem resolve_cons_some {fs : FileSystem PyStr} {part : PyStr} {parts : List PyStr} :
    fs.resolve dir (part :: parts) = some fd ↔
      ∃ next, fs.openDirectory dir part = .ok next ∧ fs.resolve next parts = some fd := by
  rw [FileSystem.resolve_cons]
  cases fs.openDirectory dir part with
  | ok next => simp
  | error errno => simp

theorem openParentChain_ok (quiet : host.fault = none) {added : Bool} :
    ∀ {parts : List PyStr} {dir : Nat}, CleanParts parts → host.live.resolve dir parts = some fd →
      (openParentChain added dir parts).eval host = (.ok (some fd), host)
  | [], _, _, resolved => by
    cases resolved
    rfl
  | part :: parts, dir, clean, resolved => by
    obtain ⟨next, opened, rest⟩ := resolve_cons_some.mp resolved
    have first : (openDirectoryAt dir part).eval host = (.ok next, host) :=
      (openDirectoryAt_eq_ok quiet).mpr ⟨clean.cons.1, opened, rfl⟩
    unfold openParentChain
    refine (eval_bind_ok (eval_onOsError_ok (eval_bind_ok first))).trans ?_
    exact openParentChain_ok quiet clean.cons.2 rest

/-- One step of the walk: a directory opened, or none for an added path. -/
theorem openPart_eq_ok (quiet : host.fault = none) (added : Bool) {part : PyStr}
    {found : Option Nat} {handler : Errno → Sys (Option Nat)}
    (absent : handler .noent =
      if added then pure none else ofResult (reject "live path precondition mismatch"))
    (others : ∀ errno, errno ≠ .noent → ∀ host found, ((handler errno).eval host).1 ≠ .ok found) :
    (onOsError (do return some (← openDirectoryAt dir part)) handler).eval host =
      (.ok found, host') →
      host = host' ∧ Clean part ∧
        ((∃ next, host.live.openDirectory dir part = .ok next ∧ found = some next) ∨
          (host.live.openDirectory dir part = .error .noent ∧ added = true ∧ found = none)) := by
  intro ran
  rcases eval_onOsError_eq_ok.mp ran with opened | ⟨errno, message, host'', raised, handled⟩
  · obtain ⟨next, host'', at_part, returned⟩ := eval_bind_eq_ok.mp opened
    obtain ⟨clean, found_at, rfl⟩ := (openDirectoryAt_eq_ok quiet).mp at_part
    cases returned
    exact ⟨rfl, clean, .inl ⟨next, found_at, rfl⟩⟩
  · rcases eval_bind_eq_error.mp raised with failed | ⟨_, _, _, wrong⟩
    · obtain ⟨clean, failed_at, rfl⟩ := openDirectoryAt_eq_os quiet failed
      by_cases noent : errno = .noent
      · subst noent
        rw [absent] at handled
        cases added with
        | true =>
          cases handled
          exact ⟨rfl, clean, .inr ⟨failed_at, rfl, rfl⟩⟩
        | false => cases handled
      · exact absurd (congrArg Prod.fst handled) (others errno noent host found)
    · cases wrong

/-- **What the walk says**: the directory the path resolves to, or none for an added path that
resolves to none. -/
theorem openParentChain_eq_ok (quiet : host.fault = none) {added : Bool} {found : Option Nat} :
    ∀ {parts : List PyStr} {dir : Nat},
      (openParentChain added dir parts).eval host = (.ok found, host') →
      host = host' ∧ host.live.resolve dir parts = found ∧
        (found = none → added = true) ∧ (found ≠ none → CleanParts parts)
  | [], dir, ran => by
    cases ran
    exact ⟨rfl, rfl, nofun, fun _ _ mem => nomatch mem⟩
  | part :: parts, dir, ran => by
    unfold openParentChain at ran
    obtain ⟨next, host'', opened, rest⟩ := eval_bind_eq_ok.mp ran
    have first := openPart_eq_ok quiet added rfl (fun errno other host found => by
      cases errno <;> simp [reject] at other ⊢) opened
    obtain ⟨rfl, clean, ⟨next, found_at, rfl⟩ | ⟨absent, isAdded, rfl⟩⟩ := first
    · obtain ⟨rfl, resolved, missing, cleaned⟩ := openParentChain_eq_ok quiet rest
      refine ⟨rfl, ?_, missing, fun some => List.forall_mem_cons.mpr ⟨clean, cleaned some⟩⟩
      rw [FileSystem.resolve_cons, found_at]
      exact resolved
    · cases rest
      refine ⟨rfl, ?_, fun _ => isAdded, fun wrong => absurd rfl wrong⟩
      rw [FileSystem.resolve_cons, absent]

/-! ## The look at the leaf -/

/-- The baseline of the operation stands under the name: a regular file with its bytes and mode. -/
def Stands (hashing : Hashing) (fs : FileSystem PyStr) (dir : Nat) (name : PyStr)
    (operation : LiveApplyOperation) : Prop :=
  ∃ ino mode bytes baseline, fs.lookup dir name = some (ino, .file mode bytes) ∧
    operation.baselineObjectId = some baseline ∧
    gitBlobObjectId hashing bytes baseline = baseline ∧
    operation.baselineMode = some (gitMode mode)

/-- An added name is free, the baseline of any other operation stands. -/
def LeafApplicable (hashing : Hashing) (fs : FileSystem PyStr) (dir : Nat) (name : PyStr)
    (operation : LiveApplyOperation) : Prop :=
  (operation.status = .added ∧ fs.lookup dir name = none) ∨
    (operation.status ≠ .added ∧ Stands hashing fs dir name operation)

variable {operation : LiveApplyOperation}

theorem verifyLeaf_ok (quiet : host.fault = none) (clean : Clean name)
    (applicable : LeafApplicable hashing host.live dir name operation) :
    (verifyLeaf hashing dir name operation).eval host = (.ok (), host) := by
  unfold verifyLeaf
  rcases applicable with ⟨added, free⟩ | ⟨other, ino, mode, bytes, baseline, held, named, same, bits⟩
  · have absent := statAt_absent quiet clean free
    refine (eval_bind_ok (t := host) (a := none) ?_).trans rfl
    refine (eval_onOsError_os (eval_bind_error absent)).trans ?_
    simp only [added, if_true]
    rfl
  · have found := statAt_ok quiet clean held
    have at_ino := (FileSystem.lookup_eq_some.mp held).2
    refine (eval_bind_ok (eval_onOsError_ok (eval_bind_ok found))).trans ?_
    refine (eval_bind_ok (eval_require other)).trans ?_
    refine (eval_bind_ok (eval_require (by simp [Node.regularMode]))).trans ?_
    simp only [named]
    refine (eval_bind_ok (eval_onOsError_ok (openAt_file quiet clean held))).trans ?_
    refine (eval_bind_ok (fstat_ok quiet at_ino)).trans ?_
    refine (eval_bind_ok (eval_require (by simp [Node.regularMode]))).trans ?_
    refine (eval_bind_ok (readAll_ok quiet at_ino)).trans ?_
    refine (eval_bind_ok (eval_require same)).trans ?_
    exact eval_require (by simp [Node.regularMode, bits])

theorem verifyLeaf_of_ok (quiet : host.fault = none)
    (ran : (verifyLeaf hashing dir name operation).eval host = (.ok (), host')) :
    host = host' ∧ Clean name ∧ LeafApplicable hashing host.live dir name operation := by
  unfold verifyLeaf at ran
  obtain ⟨found, host'', looked, rest⟩ := eval_bind_eq_ok.mp ran
  by_cases clean : Clean name
  · cases held : host.live.lookup dir name with
    | none =>
      have absent := statAt_absent quiet clean held
      rw [eval_onOsError_os (eval_bind_error absent)] at looked
      by_cases added : operation.status = .added
      · simp only [added, if_true] at looked
        cases looked
        cases rest
        exact ⟨rfl, clean, .inl ⟨added, held⟩⟩
      · simp only [added, if_false] at looked
        cases looked
    | some stat =>
      obtain ⟨ino, node⟩ := stat
      have stated := statAt_ok quiet clean held
      rw [eval_onOsError_ok (eval_bind_ok stated)] at looked
      cases looked
      obtain ⟨_, _, changes, typed⟩ := eval_bind_eq_ok.mp rest
      obtain ⟨other, rfl⟩ := eval_require_eq_ok.mp changes
      obtain ⟨_, _, checked, opens⟩ := eval_bind_eq_ok.mp typed
      obtain ⟨regular, rfl⟩ := eval_require_eq_ok.mp checked
      cases node with
      | file mode bytes =>
        cases named : operation.baselineObjectId with
        | none =>
          simp only [named] at opens
          cases opens
        | some baseline =>
          have at_ino := (FileSystem.lookup_eq_some.mp held).2
          simp only [named] at opens
          rw [eval_bind_ok (eval_onOsError_ok (openAt_file quiet clean held)),
            eval_bind_ok (fstat_ok quiet at_ino), eval_bind_ok (eval_require (by simp [Node.regularMode])),
            eval_bind_ok (readAll_ok quiet at_ino)] at opens
          obtain ⟨_, _, hashed, moded⟩ := eval_bind_eq_ok.mp opens
          obtain ⟨same, rfl⟩ := eval_require_eq_ok.mp hashed
          obtain ⟨bits, rfl⟩ := eval_require_eq_ok.mp moded
          exact ⟨rfl, clean, .inr ⟨other, ino, mode, bytes, baseline, held, named, same, bits.symm⟩⟩
      | directory entries => exact absurd rfl regular
      | symlink => exact absurd rfl regular
      | special => exact absurd rfl regular
  · rcases eval_onOsError_eq_ok.mp looked with wrong | ⟨_, _, _, wrong, _⟩
    · rw [eval_bind_error (statAt_unclean clean)] at wrong
      cases wrong
    · rw [eval_bind_error (statAt_unclean clean)] at wrong
      cases wrong

/-! ## The form of a plan -/

/-- A path that has an encoding. -/
def Encodable (path : PyStr) : Prop := (path.any fun c => 0xD800 ≤ c && c ≤ 0xDFFF) = false

theorem encodeUtf8_eq_ok {path key : PyStr} :
    encodeUtf8 path = .ok key ↔ Encodable path ∧ path = key := by
  unfold encodeUtf8 Encodable
  split
  next lone => simp [lone]
  next whole => simp [whole]

theorem encodeAll_eq_ok : ∀ {operations : List LiveApplyOperation} {keys : List PyStr},
    (operations.mapM fun operation => encodeUtf8 operation.path) = .ok keys ↔
      (∀ operation ∈ operations, Encodable operation.path) ∧ operations.map (·.path) = keys
  | [], keys => by
    rw [List.mapM_nil]
    simp [pure, Except.pure, eq_comm]
  | operation :: operations, keys => by
    rw [List.mapM_cons, bind_eq_ok, List.forall_mem_cons, List.map_cons]
    constructor
    · rintro ⟨key, encoded, more⟩
      obtain ⟨rest, later, same⟩ := bind_eq_ok.mp more
      obtain ⟨whole, rfl⟩ := encodeUtf8_eq_ok.mp encoded
      obtain ⟨others, rfl⟩ := encodeAll_eq_ok.mp later
      exact ⟨⟨whole, others⟩, Except.ok.inj same⟩
    · rintro ⟨⟨whole, others⟩, rfl⟩
      exact ⟨_, encodeUtf8_eq_ok.mpr ⟨whole, rfl⟩,
        bind_eq_ok.mpr ⟨_, encodeAll_eq_ok.mpr ⟨others, rfl⟩, rfl⟩⟩

/-- An operation names a safe path, and its baseline exactly when it is not added. -/
structure WellFormed (operation : LiveApplyOperation) : Prop where
  safe : safePath operation.path = true
  added : operation.status = .added →
    operation.baselineMode = none ∧ operation.baselineObjectId = none
  others : operation.status ≠ .added →
    operation.baselineMode ≠ none ∧ operation.baselineObjectId ≠ none

theorem validateEach_cons {operation : LiveApplyOperation} {operations : List LiveApplyOperation}
    {seen : List PyStr} : validateEach seen (operation :: operations) = .ok () ↔
      WellFormed operation ∧ operation.path ∉ seen ∧
        validateEach (operation.path :: seen) operations = .ok () := by
  have formed : WellFormed operation ↔ safePath operation.path = true ∧
      (operation.status = .added →
        operation.baselineMode = none ∧ operation.baselineObjectId = none) ∧
      (operation.status ≠ .added →
        operation.baselineMode ≠ none ∧ operation.baselineObjectId ≠ none) :=
    ⟨fun h => ⟨h.safe, h.added, h.others⟩, fun h => ⟨h.1, h.2.1, h.2.2⟩⟩
  rw [formed, validateEach]
  split
  next unsafePath => simp_all [reject]
  next safe =>
    split
    next twice => simp_all [reject]
    next fresh =>
      split
      next added =>
        split
        next named => simp_all [reject]; tauto
        next bare => simp_all
      next other =>
        split
        next bare => simp_all [reject]; tauto
        next named => simp_all

theorem validateEach_eq_ok : ∀ {operations : List LiveApplyOperation} {seen : List PyStr},
    validateEach seen operations = .ok () ↔ (∀ operation ∈ operations, WellFormed operation) ∧
      (operations.map (·.path)).Nodup ∧ ∀ operation ∈ operations, operation.path ∉ seen
  | [], seen => by simp [validateEach]
  | operation :: operations, seen => by
    rw [validateEach_cons, validateEach_eq_ok, List.forall_mem_cons, List.forall_mem_cons,
      List.map_cons, List.nodup_cons]
    constructor
    · rintro ⟨formed, fresh, others, distinct, apart⟩
      refine ⟨⟨formed, others⟩, ⟨fun twice => ?_, distinct⟩, fresh, fun other mem seen => ?_⟩
      · obtain ⟨other, mem, same⟩ := List.mem_map.mp twice
        exact apart other mem (same ▸ List.mem_cons_self)
      · exact apart other mem (List.mem_cons_of_mem _ seen)
    · rintro ⟨⟨formed, others⟩, ⟨once, distinct⟩, fresh, apart⟩
      refine ⟨formed, fresh, others, distinct, fun other mem seen => ?_⟩
      rcases List.mem_cons.mp seen with same | before
      · exact once (same ▸ List.mem_map_of_mem mem)
      · exact apart other mem before

/-- **The form a plan has**: encodable paths in strictly increasing order, and well-formed
operations. -/
theorem validateOperations_eq_ok {operations : List LiveApplyOperation} :
    validateOperations operations = .ok () ↔
      (∀ operation ∈ operations, Encodable operation.path ∧ WellFormed operation) ∧
        operations.Pairwise fun first second => first.path < second.path := by
  unfold validateOperations
  rw [bind_eq_ok]
  constructor
  · rintro ⟨keys, encoded, checked⟩
    obtain ⟨whole, rfl⟩ := encodeAll_eq_ok.mp encoded
    split at checked
    · cases checked
    next sorted =>
      obtain ⟨formed, distinct, -⟩ := validateEach_eq_ok.mp checked
      refine ⟨fun operation mem => ⟨whole operation mem, formed operation mem⟩, ?_⟩
      have ordered := List.pairwise_insertionSort (· ≤ ·) (operations.map (·.path))
      rw [← not_not.mp sorted, List.pairwise_map] at ordered
      have apart := List.pairwise_map.mp distinct
      exact (List.Pairwise.and ordered apart).imp fun both => lt_of_le_of_ne both.1 both.2
  · rintro ⟨each, increasing⟩
    have ordered : (operations.map (·.path)).insertionSort (· ≤ ·) = operations.map (·.path) :=
      List.Pairwise.insertionSort_eq (List.pairwise_map.mpr (increasing.imp le_of_lt))
    refine ⟨_, encodeAll_eq_ok.mpr ⟨fun operation mem => (each operation mem).1, rfl⟩, ?_⟩
    rw [ordered, if_neg (not_not.mpr rfl)]
    refine validateEach_eq_ok.mpr ⟨fun operation mem => (each operation mem).2, ?_, ?_⟩
    · exact List.pairwise_map.mpr (increasing.imp fun less => ne_of_lt less)
    · exact fun _ _ => List.not_mem_nil

/-! ## The proof of a plan -/

/-- The parent directories of an operation's path. -/
def parentParts (operation : LiveApplyOperation) : List PyStr := (splitPath operation.path).dropLast

/-- The last name of an operation's path. -/
def leafName (operation : LiveApplyOperation) : PyStr := (splitPath operation.path).getLastD []

/-- The live file system is one that an operation applies to. -/
inductive Applicable (hashing : Hashing) (fs : FileSystem PyStr) (root : Nat)
    (operation : LiveApplyOperation) : Prop where
  | parented {dir : Nat} (clean : CleanParts (parentParts operation)) (named : Clean (leafName operation))
      (resolved : fs.resolve root (parentParts operation) = some dir)
      (leaf : LeafApplicable hashing fs dir (leafName operation) operation)
  | unparented (added : operation.status = .added)
      (unresolved : fs.resolve root (parentParts operation) = none)

theorem verifyOperation_ok (quiet : host.fault = none) (clean : CleanParts (parentParts operation))
    (named : Clean (leafName operation))
    (resolved : host.live.resolve root (parentParts operation) = some dir)
    (leaf : LeafApplicable hashing host.live dir (leafName operation) operation) :
    (verifyOperation hashing root operation).eval host = (.ok (), host) := by
  unfold verifyOperation
  exact (eval_bind_ok (openParentChain_ok quiet clean resolved)).trans (verifyLeaf_ok quiet named leaf)

theorem verifyOperation_of_ok (quiet : host.fault = none)
    (ran : (verifyOperation hashing root operation).eval host = (.ok (), host')) :
    host = host' ∧ Applicable hashing host.live root operation := by
  unfold verifyOperation at ran
  obtain ⟨found, host'', walked, rest⟩ := eval_bind_eq_ok.mp ran
  obtain ⟨rfl, resolved, added, clean⟩ := openParentChain_eq_ok quiet walked
  cases found with
  | none =>
    cases rest
    exact ⟨rfl, .unparented (of_decide_eq_true (added rfl)) resolved⟩
  | some dir =>
    obtain ⟨rfl, named, leaf⟩ := verifyLeaf_of_ok quiet rest
    exact ⟨rfl, .parented (clean (by simp)) named resolved leaf⟩

theorem verifyOperations_eq_ok : ∀ {operations : List LiveApplyOperation},
    (∀ operation ∈ operations, ∀ host', (verifyOperation hashing root operation).eval host =
      (.ok (), host') → host = host') →
    ((verifyOperations hashing root operations).eval host = (.ok (), host') ↔ host = host' ∧
      ∀ operation ∈ operations, (verifyOperation hashing root operation).eval host = (.ok (), host))
  | [], _ => by
    simp [verifyOperations]
  | operation :: operations, looks => by
    unfold verifyOperations
    rw [eval_bind_eq_ok, List.forall_mem_cons]
    have later := verifyOperations_eq_ok
      fun operation mem => looks operation (List.mem_cons_of_mem _ mem)
    constructor
    · rintro ⟨_, host'', first, rest⟩
      cases looks operation List.mem_cons_self host'' first
      obtain ⟨same, rest⟩ := later.mp rest
      exact ⟨same, first, rest⟩
    · rintro ⟨same, first, rest⟩
      exact ⟨(), host, first, later.mpr ⟨same, rest⟩⟩

/-- What the proof of a plan returns. -/
def preconditionEvidence (plan : LiveApplyPlan) (root : PyStr) : LiveApplyPreconditionEvidence :=
  ⟨plan.deploymentId, plan.target, plan.repositoryId, plan.baselineSha, plan.candidateSha,
    plan.stageManifestSha256, root, plan.operations.map (·.path)⟩

theorem openRoot_eq_ok (quiet : host.fault = none) {path : PyStr} :
    (LiveApplyPreconditions.openRoot path).eval host = (.ok fd, host') ↔
      Clean path ∧ host.openRoot path = .ok fd ∧ host = host' := by
  rw [← openPath_eq_ok quiet]
  unfold LiveApplyPreconditions.openRoot
  rw [eval_onOsError_eq_ok]
  exact or_iff_left fun ⟨_, _, _, _, wrong⟩ => nomatch wrong

/-- An inspection that failed is raised. -/
theorem inspection_raises (error : PyError) (host : Host) (u : Unit) : ((match error.kind with
    | .osError _ | .valueError => ofResult (reject "live path inspection failed")
    | _ => throw error : Sys Unit).eval host).1 ≠ .ok u := by
  obtain ⟨kind, message⟩ := error
  cases kind <;> simp [reject]

/-- **What the proof of a plan accepts**: a well-formed plan, each of whose operations the walk
accepts below the opened root. -/
theorem proveLiveApplyPreconditions_eq_ok (quiet : host.fault = none) {plan : LiveApplyPlan}
    {path : PyStr} {evidence : LiveApplyPreconditionEvidence} :
    (proveLiveApplyPreconditions hashing plan path).eval host = (.ok evidence, host') ↔
      path.head? = some slash ∧ validateOperations plan.operations = .ok () ∧
      (∃ root, Clean path ∧ host.openRoot path = .ok root ∧ ∀ operation ∈ plan.operations,
        (verifyOperation hashing root operation).eval host = (.ok (), host)) ∧
      evidence = preconditionEvidence plan path ∧ host = host' := by
  have looks : ∀ root, ∀ operation ∈ plan.operations, ∀ host',
      (verifyOperation hashing root operation).eval host = (.ok (), host') → host = host' :=
    fun root operation _ host' ran => (verifyOperation_of_ok quiet ran).1
  unfold proveLiveApplyPreconditions
  constructor
  · intro ran
    obtain ⟨_, _, rooted, checks⟩ := eval_bind_eq_ok.mp ran
    obtain ⟨absolute, rfl⟩ := eval_require_eq_ok.mp rooted
    obtain ⟨_, _, formed, opens⟩ := eval_bind_eq_ok.mp checks
    obtain ⟨valid, rfl⟩ := Prod.mk.inj formed
    obtain ⟨root, _, at_root, walks⟩ := eval_bind_eq_ok.mp opens
    obtain ⟨clean, opened, rfl⟩ := (openRoot_eq_ok quiet).mp at_root
    obtain ⟨_, _, verified, returned⟩ := eval_bind_eq_ok.mp walks
    obtain ⟨rfl, each⟩ := (verifyOperations_eq_ok (looks root)).mp
      ((eval_tryCatch_eq_ok inspection_raises).mp verified)
    obtain ⟨same, rfl⟩ := Prod.mk.inj returned
    exact ⟨absolute, valid, ⟨root, clean, opened, each⟩, (Except.ok.inj same).symm, rfl⟩
  · rintro ⟨absolute, valid, ⟨root, clean, opened, each⟩, rfl, rfl⟩
    refine (eval_bind_ok (eval_require absolute)).trans ?_
    refine (eval_bind_ok ((eval_ofResult _ _).trans (by rw [valid]))).trans ?_
    refine (eval_bind_ok ((openRoot_eq_ok quiet).mpr ⟨clean, opened, rfl⟩)).trans ?_
    refine (eval_bind_ok (eval_tryCatch_ok
      ((verifyOperations_eq_ok (looks root)).mpr ⟨rfl, each⟩))).trans ?_
    rfl

end SyncApp
