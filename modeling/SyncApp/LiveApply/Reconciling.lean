import SyncApp.LiveApply.Admission
import SyncApp.LiveApply.Entries

/-!
# What an operation shows

A reconciliation looks at the live path below the directories that the guard recorded. A look
returns what stands there (`Known`), and what an operation has come to is read from that alone
(`Shows`).
-/

set_option autoImplicit false

namespace SyncApp

open Lib Raising Sys App LiveApplyReconciliation LiveApplyJournal

/-! ## Looking -/

/-- Each part of a path leads to the directory that was recorded for it. -/
def Leads (fs : FileSystem PyStr) (parent : Nat) : Nat → List PyStr → List Nat → Prop
  | current, [], [] => current = parent
  | current, part :: parts, expected :: identities =>
    Clean part ∧ fs.openDirectory current part = .ok expected ∧
      Leads fs parent expected parts identities
  | _, _, _ => False

/-- What stands under a name of a directory, as an object and its mode; nothing else than a regular
file has them. -/
inductive StandsAs (hashing : Hashing) (fs : FileSystem PyStr) (parent : Nat) (name : PyStr)
    (operation : LiveApplyOperation) : Option (ObjectId × GitMode) → Prop
  | absent (free : fs.lookup parent name = none) : StandsAs hashing fs parent name operation none
  | file (ino mode : Nat) (bytes : List UInt8) (width : ObjectId)
    (held : fs.lookup parent name = some (ino, .file mode bytes))
    (sized : objectWidth operation = some width) :
    StandsAs hashing fs parent name operation (some (gitBlobObjectId hashing bytes width, gitMode mode))

/-- What is found of an operation below the directories of its guard. -/
structure Finds (hashing : Hashing) (host : Host) (root : PyStr) (operation : LiveApplyOperation)
    (guard : LiveApplyMutationGuard) (state : Option (ObjectId × GitMode)) : Prop where
  clean : Clean root
  rooted : host.openRoot root = .ok guard.rootIdentity
  stands : ∃ parent, Leads host.live parent guard.rootIdentity (parentParts operation)
    guard.parentIdentities ∧ Clean (leafName operation) ∧
      StandsAs hashing host.live parent (leafName operation) operation state

/-- The state that an operation ends in. -/
def isCandidate (operation : LiveApplyOperation) (state : Option (ObjectId × GitMode)) : Bool :=
  stateIs state (operation.status = .deleted) operation.candidateObjectId operation.candidateMode

/-- The state that an operation starts from. -/
def isBaseline (operation : LiveApplyOperation) (state : Option (ObjectId × GitMode)) : Bool :=
  stateIs state (operation.status = .added) operation.baselineObjectId operation.baselineMode

/-- The outcome of a state that was found. -/
def verdict (operation : LiveApplyOperation) (state : Option (ObjectId × GitMode)) :
    ReconciliationOutcome :=
  if isCandidate operation state then .applied
  else if isBaseline operation state then .notApplied
  else .ambiguous

section Looking

variable {hashing : Hashing} {host host' : Host} {operation : LiveApplyOperation}
  {state : Option (ObjectId × GitMode)} {fd parent : Nat} {name root : PyStr}

theorem openGuardedRoot_eq_ok (quiet : host.fault = none) {expected : Nat} :
    (LiveApplyReconciliation.openRoot root expected).eval host = (.ok fd, host') ↔
      (Clean root ∧ host.openRoot root = .ok expected) ∧ fd = expected ∧ host = host' := by
  unfold LiveApplyReconciliation.openRoot
  rw [eval_bind_eq_ok]
  constructor
  · rintro ⟨found, between, opened, checks⟩
    rw [eval_onOsError_eq_ok] at opened
    rcases opened with opened | ⟨_, _, _, _, wrong⟩
    · obtain ⟨clean, here, rfl⟩ := (openPath_eq_ok quiet).mp opened
      obtain ⟨_, _, held, returned⟩ := eval_bind_eq_ok.mp checks
      obtain ⟨rfl, rfl⟩ := eval_require_eq_ok.mp held
      cases returned
      exact ⟨⟨clean, here⟩, rfl, rfl⟩
    · cases wrong
  · rintro ⟨⟨clean, here⟩, rfl, rfl⟩
    exact ⟨fd, host, eval_onOsError_ok (openPath_ok quiet clean here),
      (eval_bind_ok (eval_require rfl)).trans rfl⟩

theorem openParents_eq_ok (quiet : host.fault = none) {parts : List PyStr}
    {identities : List Nat} {current : Nat} :
    (openParents current parts identities).eval host = (.ok fd, host') ↔
      Leads host.live fd current parts identities ∧ host = host' := by
  induction parts generalizing identities current with
  | nil =>
    cases identities with
    | nil => simp [openParents, Leads, eq_comm]
    | cons => exact ⟨fun wrong => (nomatch wrong), fun wrong => wrong.1.elim⟩
  | cons part parts ih =>
    cases identities with
    | nil => exact ⟨fun wrong => (nomatch wrong), fun wrong => wrong.1.elim⟩
    | cons expected identities =>
      unfold openParents Leads
      rw [eval_bind_eq_ok]
      constructor
      · rintro ⟨next, between, opened, checks⟩
        rw [eval_onOsError_eq_ok] at opened
        rcases opened with opened | ⟨_, _, _, _, wrong⟩
        · obtain ⟨clean, here, rfl⟩ := (openDirectoryAt_eq_ok quiet).mp opened
          obtain ⟨_, _, held, walks⟩ := eval_bind_eq_ok.mp checks
          obtain ⟨rfl, rfl⟩ := eval_require_eq_ok.mp held
          obtain ⟨leads, rfl⟩ := ih.mp walks
          exact ⟨⟨clean, here, leads⟩, rfl⟩
        · cases wrong
      · rintro ⟨⟨clean, here, leads⟩, rfl⟩
        refine ⟨expected, host, eval_onOsError_ok ((openDirectoryAt_eq_ok quiet).mpr
          ⟨clean, here, rfl⟩), ?_⟩
        exact (eval_bind_ok (eval_require rfl)).trans (ih.mpr ⟨leads, rfl⟩)

theorem leafState_eq_ok (quiet : host.fault = none) :
    (leafState hashing parent name operation).eval host = (.ok state, host') ↔
      (Clean name ∧ StandsAs hashing host.live parent name operation state) ∧ host = host' := by
  unfold leafState
  by_cases clean : Clean name
  · cases held : host.live.lookup parent name with
    | none =>
      have absent : (onOsError (do return some (← statAt parent name)) fun errno =>
          if errno = .noent then pure none else throw ⟨.osError errno, ""⟩).eval host =
          (.ok none, host) :=
        (eval_onOsError_os (eval_bind_error (statAt_absent quiet clean held))).trans rfl
      rw [eval_bind_ok absent]
      constructor
      · intro returned
        cases returned
        exact ⟨⟨clean, .absent held⟩, rfl⟩
      · rintro ⟨⟨_, stands⟩, rfl⟩
        cases stands with
        | absent => rfl
        | file _ _ _ _ wrong => cases held.symm.trans wrong
    | some found =>
      obtain ⟨ino, node⟩ := found
      have stat : (onOsError (do return some (← statAt parent name)) fun errno =>
          if errno = .noent then pure none else throw ⟨.osError errno, ""⟩).eval host =
          (.ok (some (ino, node)), host) :=
        eval_onOsError_ok (eval_bind_ok (statAt_ok quiet clean held))
      rw [eval_bind_ok stat]
      have at_ino := (FileSystem.lookup_eq_some.mp held).2
      cases node with
      | file mode bytes =>
        dsimp only
        rw [eval_bind_ok (eval_require (by simp [Node.regularMode])),
          eval_bind_ok (eval_onOsError_ok (openAt_file quiet clean held)),
          eval_bind_ok (fstat_ok quiet at_ino), eval_bind_ok (readAll_ok quiet at_ino)]
        cases sized : objectWidth operation with
        | none =>
          refine ⟨fun wrong => (by cases wrong), ?_⟩
          rintro ⟨⟨_, stands⟩, rfl⟩
          cases stands with
          | absent free => cases held.symm.trans free
          | file _ _ _ _ _ wrong => cases sized.symm.trans wrong
        | some width =>
          constructor
          · intro returned
            cases returned
            exact ⟨⟨clean, .file ino mode bytes width held sized⟩, rfl⟩
          · rintro ⟨⟨_, stands⟩, rfl⟩
            cases stands with
            | absent free => cases held.symm.trans free
            | file _ _ _ _ held' sized' =>
              cases held.symm.trans held'
              cases sized.symm.trans sized'
              rfl
      | directory entries =>
        refine ⟨fun wrong => (by cases wrong), ?_⟩
        rintro ⟨⟨_, stands⟩, rfl⟩
        cases stands with
        | absent free => cases held.symm.trans free
        | file _ _ _ _ wrong => cases held.symm.trans wrong
      | symlink =>
        refine ⟨fun wrong => (by cases wrong), ?_⟩
        rintro ⟨⟨_, stands⟩, rfl⟩
        cases stands with
        | absent free => cases held.symm.trans free
        | file _ _ _ _ wrong => cases held.symm.trans wrong
      | special =>
        refine ⟨fun wrong => (by cases wrong), ?_⟩
        rintro ⟨⟨_, stands⟩, rfl⟩
        cases stands with
        | absent free => cases held.symm.trans free
        | file _ _ _ _ wrong => cases held.symm.trans wrong
  · refine ⟨fun ran => ?_, fun stands => (clean stands.1.1).elim⟩
    obtain ⟨found, between, looked, _⟩ := eval_bind_eq_ok.mp ran
    rcases eval_onOsError_eq_ok.mp looked with wrong | ⟨_, _, _, wrong, _⟩
    · rw [eval_bind_error (statAt_unclean clean)] at wrong
      cases wrong
    · rw [eval_bind_error (statAt_unclean clean)] at wrong
      cases wrong

theorem looks_observing {parts : List PyStr} {identities : List Nat} :
    Looks (openParents fd parts identities) := by
  induction parts generalizing identities fd with
  | nil =>
    cases identities with
    | nil => exact .pure fd
    | cons => exact .throw _
  | cons part parts ih =>
    cases identities with
    | nil => exact .throw _
    | cons expected identities =>
      exact .bind (looks_onOsError (looks_openDirectoryAt _ _) fun _ => .throw _) fun _ =>
        .bind (looks_require _ _) fun _ => ih

theorem looks_leafState : Looks (leafState hashing parent name operation) := by
  refine .bind (looks_onOsError (.bind (looks_statAt _ _) fun _ => .pure _) fun errno => ?_)
    fun found => ?_
  · split
    · exact .pure none
    · exact .throw _
  · cases found with
    | none => exact .pure none
    | some found =>
      refine .bind (looks_require _ _) fun _ => .bind (looks_onOsError (looks_openAt _ _)
        fun errno => ?_) fun fd => .bind (looks_ask _) fun opened => .bind (looks_ask _)
        fun data => ?_
      · split
        · exact .throw _
        · exact .throw _
        · exact .throw _
      · split
        · exact .pure _
        · exact .throw _

end Looking

/-! ## What is raised -/

/-- The exceptions that a look turns into an ambiguous outcome. -/
def Unsettling : ErrorKind → Prop
  | .reconciliationError | .osError _ | .valueError => True
  | _ => False

/-- A program raises no exceptions but these. -/
def RaisesOnly {σ α : Type} (kinds : ErrorKind → Prop) (p : Raising PyError σ α) : Prop :=
  ∀ s error t, p.eval s = (.error error, t) → kinds error.kind

section RaisesOnly

variable {σ α β : Type} {kinds : ErrorKind → Prop} {p : Raising PyError σ α}

theorem RaisesOnly.pure (a : α) : RaisesOnly kinds (pure a : Raising PyError σ α) :=
  fun _ _ _ wrong => nomatch wrong

theorem RaisesOnly.throw {error : PyError} (known : kinds error.kind) :
    RaisesOnly kinds (throw error : Raising PyError σ α) := by
  intro s raised t same
  cases same
  exact known

theorem RaisesOnly.bind {k : α → Raising PyError σ β} (first : RaisesOnly kinds p)
    (rest : ∀ a, RaisesOnly kinds (k a)) : RaisesOnly kinds (p >>= k) := by
  intro s error t ran
  rcases eval_bind_eq_error.mp ran with raised | ⟨a, u, _, raised⟩
  · exact first s error t raised
  · exact rest a u error t raised

theorem RaisesOnly.onOsError {handler : Errno → Raising PyError σ α} (first : RaisesOnly kinds p)
    (handled : ∀ errno, RaisesOnly kinds (handler errno)) :
    RaisesOnly kinds (onOsError p handler) := by
  intro s error t ran
  cases tried : p.eval s with
  | mk result u =>
    cases result with
    | ok a =>
      rw [eval_onOsError_ok tried] at ran
      cases ran
    | error raised =>
      have known := first s raised u tried
      have caught := (eval_tryCatch_error tried).symm.trans ran
      obtain ⟨kind, message⟩ := raised
      cases kind with
      | osError errno => exact handled errno u error t caught
      | _ =>
        cases caught
        exact known

theorem RaisesOnly.require {condition : Prop} [Decidable condition] {error : PyError}
    (known : kinds error.kind) :
    RaisesOnly kinds (require condition error : Raising PyError σ Unit) := by
  unfold SyncApp.require
  split
  · exact .pure ()
  · exact .throw known

end RaisesOnly

section Raised

variable {hashing : Hashing} {α : Type}

theorem unsettling_ask (call : Host → Except Errno α) : RaisesOnly Unsettling (ask call) := by
  intro s error t ran
  unfold ask at ran
  rw [eval_action] at ran
  split at ran
  · cases ran
    trivial
  · split at ran
    · cases ran
      trivial
    · cases ran

theorem unsettling_named (name : PyStr) (call : Host → Except Errno α) :
    RaisesOnly Unsettling (do named name; ask call) :=
  .bind (.require trivial) fun _ => unsettling_ask call

theorem unsettling_openRoot (root : PyStr) (expected : Nat) :
    RaisesOnly Unsettling (LiveApplyReconciliation.openRoot root expected) :=
  .bind (.onOsError (unsettling_named _ _) fun _ => .throw trivial) fun _ =>
    .bind (.require trivial) fun _ => .pure _

theorem unsettling_openParents {parts : List PyStr} {identities : List Nat} {current : Nat} :
    RaisesOnly Unsettling (openParents current parts identities) := by
  induction parts generalizing identities current with
  | nil =>
    cases identities with
    | nil => exact .pure current
    | cons => exact .throw trivial
  | cons part parts ih =>
    cases identities with
    | nil => exact .throw trivial
    | cons expected identities =>
      exact .bind (.onOsError (unsettling_named _ _) fun _ => .throw trivial) fun _ =>
        .bind (.require trivial) fun _ => ih

theorem unsettling_leafState (parent : Nat) (name : PyStr) (operation : LiveApplyOperation) :
    RaisesOnly Unsettling (leafState hashing parent name operation) := by
  refine .bind (.onOsError (.bind (unsettling_named _ _) fun _ => .pure _) fun errno => ?_)
    fun found => ?_
  · split
    · exact .pure none
    · exact .throw trivial
  · cases found with
    | none => exact .pure none
    | some found =>
      refine .bind (.require trivial) fun _ => .bind (.onOsError (unsettling_named _ _)
        fun errno => ?_) fun fd => .bind (unsettling_ask _) fun opened =>
        .bind (unsettling_ask _) fun data => ?_
      · split
        · exact .throw trivial
        · exact .throw trivial
        · exact .throw trivial
      · split
        · exact .pure _
        · exact .throw trivial

end Raised

/-! ## The outcome of a look -/

/-- What is known of an operation: what is found of it, where its stage verifies and its guard is
there. -/
def Known (hashing : Hashing) (world : World) (stage : CandidateStage) (root : PyStr)
    (operation : LiveApplyOperation) (progress : LiveApplyProgress)
    (state : Option (ObjectId × GitMode)) : Prop :=
  (CandidateStages.verifyCandidateStage hashing stage).eval world.host = (.ok (), world.host) ∧
    ∃ guard, guardRow world.db progress.deploymentId progress.operationIndex = some guard ∧
      guardMatches guard progress = true ∧ Finds hashing world.host root operation guard state

/-- What an operation has come to, as far as is known. -/
def Shows (hashing : Hashing) (world : World) (stage : CandidateStage) (root : PyStr)
    (operation : LiveApplyOperation) (progress : LiveApplyProgress) :
    ReconciliationOutcome → Prop
  | .applied => ∃ state, Known hashing world stage root operation progress state ∧
      isCandidate operation state = true
  | .notApplied => ∃ state, Known hashing world stage root operation progress state ∧
      isCandidate operation state = false ∧ isBaseline operation state = true
  | .ambiguous => ∀ state, Known hashing world stage root operation progress state →
      isCandidate operation state = false ∧ isBaseline operation state = false

section Outcome

variable {hashing : Hashing} {host host' : Host} {operation : LiveApplyOperation}
  {root : PyStr} {guard : LiveApplyMutationGuard} {outcome : ReconciliationOutcome}

/-- What is found is one state. -/
theorem Finds.unique {state other : Option (ObjectId × GitMode)} (quiet : host.fault = none)
    (finds : Finds hashing host root operation guard state)
    (again : Finds hashing host root operation guard other) : state = other := by
  obtain ⟨parent, leads, clean, stands⟩ := finds.stands
  obtain ⟨parent', leads', -, stands'⟩ := again.stands
  have walk := (openParents_eq_ok quiet).mpr ⟨leads, rfl⟩
  cases walk.symm.trans ((openParents_eq_ok quiet).mpr ⟨leads', rfl⟩)
  have leaf := (leafState_eq_ok quiet).mpr ⟨⟨clean, stands⟩, rfl⟩
  cases leaf.symm.trans ((leafState_eq_ok quiet).mpr ⟨⟨clean, stands'⟩, rfl⟩)
  rfl

/-- The body of a look. -/
def looksAt (hashing : Hashing) (root : PyStr) (operation : LiveApplyOperation)
    (guard : LiveApplyMutationGuard) : Sys ReconciliationOutcome := do
  let parts := splitPath operation.path
  let rootFd ← LiveApplyReconciliation.openRoot root guard.rootIdentity
  let parent ← openParents rootFd parts.dropLast guard.parentIdentities
  let state ← leafState hashing parent (parts.getLastD []) operation
  if stateIs state (operation.status = .deleted) operation.candidateObjectId
      operation.candidateMode then return .applied
  else if stateIs state (operation.status = .added) operation.baselineObjectId
      operation.baselineMode then return .notApplied
  else return .ambiguous

theorem looksAt_eq_ok (quiet : host.fault = none) :
    (looksAt hashing root operation guard).eval host = (.ok outcome, host') ↔
      (∃ state, Finds hashing host root operation guard state ∧
        outcome = verdict operation state) ∧ host = host' := by
  have settles : ∀ (state : Option (ObjectId × GitMode)) (host : Host),
      (if stateIs state (operation.status = .deleted) operation.candidateObjectId
          operation.candidateMode then return .applied
        else if stateIs state (operation.status = .added) operation.baselineObjectId
          operation.baselineMode then return .notApplied
        else return .ambiguous : Sys ReconciliationOutcome).eval host =
      (.ok (verdict operation state), host) := by
    intro state host
    unfold verdict isCandidate isBaseline
    split
    · rfl
    · split
      · rfl
      · rfl
  unfold looksAt
  dsimp only
  rw [eval_bind_eq_ok]
  constructor
  · rintro ⟨fd, between, opened, walks⟩
    obtain ⟨⟨clean, rooted⟩, rfl, rfl⟩ := (openGuardedRoot_eq_ok quiet).mp opened
    obtain ⟨parent, _, walked, looks⟩ := eval_bind_eq_ok.mp walks
    obtain ⟨leads, rfl⟩ := (openParents_eq_ok quiet).mp walked
    obtain ⟨state, _, looked, returned⟩ := eval_bind_eq_ok.mp looks
    obtain ⟨⟨named, stands⟩, rfl⟩ := (leafState_eq_ok quiet).mp looked
    cases (settles state host).symm.trans returned
    exact ⟨⟨state, ⟨clean, rooted, parent, leads, named, stands⟩, rfl⟩, rfl⟩
  · rintro ⟨⟨state, finds, rfl⟩, rfl⟩
    obtain ⟨parent, leads, named, stands⟩ := finds.stands
    refine ⟨_, host, (openGuardedRoot_eq_ok quiet).mpr ⟨⟨finds.clean, finds.rooted⟩, rfl, rfl⟩, ?_⟩
    refine (eval_bind_ok ((openParents_eq_ok quiet).mpr ⟨leads, rfl⟩)).trans ?_
    exact (eval_bind_ok ((leafState_eq_ok quiet).mpr ⟨⟨named, stands⟩, rfl⟩)).trans
      (settles state host)

theorem looks_looksAt : Looks (looksAt hashing root operation guard) := by
  unfold looksAt
  refine .bind ?_ fun fd => .bind looks_observing fun parent => .bind looks_leafState
    fun state => ?_
  · exact .bind (looks_onOsError (looks_openPath _) fun _ => .throw _) fun _ =>
      .bind (looks_require _ _) fun _ => .pure _
  · split
    · exact .pure _
    · split
      · exact .pure _
      · exact .pure _

theorem unsettling_looksAt : RaisesOnly Unsettling (looksAt hashing root operation guard) := by
  refine .bind (unsettling_openRoot _ _) fun fd => .bind unsettling_openParents fun parent =>
    .bind (unsettling_leafState _ _ _) fun state => ?_
  split
  · exact .pure _
  · split
    · exact .pure _
    · exact .pure _

/-- A look has an outcome, and it is that of the state found, where one is. -/
theorem observeOutcome_eval (hashing : Hashing) (root : PyStr) (operation : LiveApplyOperation)
    (guard : LiveApplyMutationGuard) (quiet : host.fault = none) :
    ∃ outcome, (observeOutcome hashing root operation guard).eval host = (.ok outcome, host) ∧
      (∀ state, Finds hashing host root operation guard state → outcome = verdict operation state) ∧
      ((∀ state, ¬Finds hashing host root operation guard state) → outcome = .ambiguous) := by
  have body : observeOutcome hashing root operation guard =
      tryCatch (looksAt hashing root operation guard) fun error =>
        match error.kind with
        | .reconciliationError | .osError _ | .valueError => pure .ambiguous
        | _ => throw error := rfl
  rw [body]
  cases ran : (looksAt hashing root operation guard).eval host with
  | mk result after =>
    cases result with
    | ok outcome =>
      obtain ⟨⟨state, finds, rfl⟩, rfl⟩ := (looksAt_eq_ok quiet).mp ran
      exact ⟨_, eval_tryCatch_ok ran, fun other again => by rw [finds.unique quiet again],
        fun nothing => absurd finds (nothing state)⟩
    | error error =>
      have same : after = host := (congrArg Prod.snd ran).symm.trans (looks_looksAt host)
      have known := unsettling_looksAt host error after ran
      subst same
      refine ⟨.ambiguous, (eval_tryCatch_error ran).trans ?_, fun state finds => ?_, fun _ => rfl⟩
      · obtain ⟨kind, message⟩ := error
        cases kind <;> first | rfl | exact known.elim
      · have wrong := (looksAt_eq_ok quiet).mpr ⟨⟨state, finds, rfl⟩, rfl⟩
        cases ran.symm.trans wrong

variable {world : World} {stage : CandidateStage} {progress : LiveApplyProgress}

theorem eval_query_ok {α : Type} (quiet : world.host.fault = none) {refused : String}
    {read : Database → Except PyError α} :
    (query refused read).eval world = (read world.db, world) := by
  unfold query
  rw [eval_action, quiet]

theorem World.host_setHost (world : World) (host : Host) : (world.setHost host).host = host := rfl

theorem World.setHost_setHost (world : World) (host host' : Host) :
    (world.setHost host).setHost host' = world.setHost host' := rfl

theorem World.setHost_host (world : World) : world.setHost world.host = world := rfl

theorem eval_onHost {α : Type} (program : Sys α) (world : World) :
    (onHost program).eval world =
      ((program.eval world.host).1, world.setHost (program.eval world.host).2) :=
  eval_within World.host_setHost World.setHost_setHost World.setHost_host program world

theorem eval_onHost_looks {α : Type} {program : Sys α} {result : Except PyError α}
    (ran : program.eval world.host = (result, world.host)) :
    (onHost program).eval world = (result, world) := by
  rw [eval_onHost, ran]
  rfl

/-- An operation shows the verdict of the state that is known of it. -/
theorem verdict_shows {state : Option (ObjectId × GitMode)}
    (known : Known hashing world stage root operation progress state)
    (one : ∀ other, Known hashing world stage root operation progress other → other = state) :
    Shows hashing world stage root operation progress outcome ↔
      outcome = verdict operation state := by
  cases outcome with
  | applied =>
    constructor
    · rintro ⟨other, again, candidate⟩
      rw [one other again] at candidate
      exact (if_pos candidate).symm
    · intro same
      refine ⟨state, known, ?_⟩
      by_contra other
      unfold verdict at same
      rw [if_neg other] at same
      split at same
      · cases same
      · cases same
  | notApplied =>
    constructor
    · rintro ⟨other, again, candidate, baseline⟩
      rw [one other again] at candidate baseline
      unfold verdict
      rw [if_neg (by rw [candidate]; nofun), if_pos baseline]
    · intro same
      unfold verdict at same
      split at same
      · cases same
      next candidate =>
        split at same
        next baseline => exact ⟨state, known, eq_false_of_ne_true candidate, baseline⟩
        next => cases same
  | ambiguous =>
    constructor
    · intro neither
      obtain ⟨candidate, baseline⟩ := neither state known
      unfold verdict
      rw [if_neg (by rw [candidate]; nofun), if_neg (by rw [baseline]; nofun)]
    · intro same other again
      rw [one other again]
      unfold verdict at same
      split at same
      · cases same
      next candidate =>
        split at same
        next => cases same
        next baseline => exact ⟨eq_false_of_ne_true candidate, eq_false_of_ne_true baseline⟩

/-- An operation of which nothing is known shows that. -/
theorem unknown_shows
    (unknown : ∀ state, ¬Known hashing world stage root operation progress state) :
    Shows hashing world stage root operation progress outcome ↔ outcome = .ambiguous := by
  cases outcome with
  | applied => exact ⟨fun ⟨state, known, _⟩ => (unknown state known).elim, nofun⟩
  | notApplied => exact ⟨fun ⟨state, known, _⟩ => (unknown state known).elim, nofun⟩
  | ambiguous => exact ⟨fun _ => rfl, fun _ state known => (unknown state known).elim⟩

/-- **A call finds what the operation shows**, and one outcome. -/
theorem uncertainOutcome_eval (quiet : world.host.fault = none) :
    ∃ outcome, (uncertainOutcome hashing stage root operation progress).eval world =
        (.ok outcome, world) ∧
      ∀ other, Shows hashing world stage root operation progress other ↔ other = outcome := by
  unfold uncertainOutcome
  have unstaged (refused : ∀ state, ¬Known hashing world stage root operation progress state) :
      ∀ other, Shows hashing world stage root operation progress other ↔ other = .ambiguous :=
    fun other => unknown_shows refused
  cases verified : (CandidateStages.verifyCandidateStage hashing stage).eval world.host with
  | mk result after =>
    have same : after = world.host :=
      (congrArg Prod.snd verified).symm.trans (looks_verifyCandidateStage stage world.host)
    subst same
    cases result with
    | error error =>
      have refused : (tryCatch (do CandidateStages.verifyCandidateStage hashing stage; pure true)
          fun _ => pure false : Sys Bool).eval world.host = (.ok false, world.host) :=
        (eval_tryCatch_error (eval_bind_error verified)).trans rfl
      rw [eval_bind_ok (eval_onHost_looks refused)]
      refine ⟨.ambiguous, rfl, unstaged fun state known => ?_⟩
      exact nomatch known.1.symm.trans verified
    | ok _ =>
      have staged : (tryCatch (do CandidateStages.verifyCandidateStage hashing stage; pure true)
          fun _ => pure false : Sys Bool).eval world.host = (.ok true, world.host) :=
        eval_tryCatch_ok (eval_bind_ok verified)
      rw [eval_bind_ok (eval_onHost_looks staged)]
      have read : (tryCatch (query "Unable to read live Apply mutation guard" fun db =>
          .ok (guardRow db progress.deploymentId progress.operationIndex)) fun error =>
            if error.kind = .stateError then pure none else throw error).eval world =
          (.ok (guardRow world.db progress.deploymentId progress.operationIndex), world) :=
        eval_tryCatch_ok (eval_query_ok quiet)
      simp only [Bool.not_true, Bool.false_eq_true, if_false]
      rw [eval_bind_ok read]
      cases guarded : guardRow world.db progress.deploymentId progress.operationIndex with
      | none =>
        refine ⟨.ambiguous, rfl, unstaged fun state known => ?_⟩
        obtain ⟨_, found, _⟩ := known.2
        exact nomatch guarded.symm.trans found
      | some guard =>
        dsimp only
        by_cases agrees : guardMatches guard progress = true
        · rw [agrees]
          simp only [Bool.not_true, Bool.false_eq_true, if_false]
          obtain ⟨outcome, observed, found, nothing⟩ :=
            observeOutcome_eval hashing root operation guard quiet
          refine ⟨outcome, eval_onHost_looks observed, fun other => ?_⟩
          have finds {state} (known : Known hashing world stage root operation progress state) :
              Finds hashing world.host root operation guard state := by
            obtain ⟨guard', there, _, finds⟩ := known.2
            cases guarded.symm.trans there
            exact finds
          by_cases known : ∃ state, Known hashing world stage root operation progress state
          · obtain ⟨state, known⟩ := known
            rw [verdict_shows known fun other again => (finds again).unique quiet (finds known),
              found state (finds known)]
          · have unknown := not_exists.mp known
            rw [unknown_shows unknown, nothing fun state finds =>
              unknown state ⟨verified, guard, guarded, agrees, finds⟩]
        · rw [eq_false_of_ne_true agrees]
          refine ⟨.ambiguous, rfl, unstaged fun state known => ?_⟩
          obtain ⟨guard', there, same, _⟩ := known.2
          cases guarded.symm.trans there
          exact agrees same

end Outcome

end SyncApp
