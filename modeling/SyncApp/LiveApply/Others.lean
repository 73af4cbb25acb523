import SyncApp.LiveApply.Calls

/-!
# Others at the target

Other processes edit, replace, remove and create the file that an operation replaces or deletes,
between any two calls of the writer. `Watched` puts beside the host what they left under the
target's name last, and what the writer's calls took from it; `Meddles` is all that others may do,
`Spares` what they must not do for their content to survive: change or put back the file under the
writer's own name, and change the target while a file that is not the proved baseline waits there to
be exchanged back.
-/

set_option autoImplicit false

namespace SyncApp

open Lib Raising Sys LiveApplyWriter

namespace Interference

open FileSystem (View)

/-- A host, what others left under the target's name when they last changed it, and what the calls
of the writer last took from it. -/
structure Watched where
  host : Host
  left : Option (Nat × View)
  taken : Option (Nat × View)

namespace Watched

variable (dir : Nat) (leaf : PyStr)

/-- What stands under the target's name. -/
def found (watched : Watched) : Option (Nat × View) := watched.host.live.found dir leaf

/-- A call of the writer: where it binds the target's name anew, it takes what stood there. -/
def called (watched : Watched) (host : Host) : Watched where
  host := host
  left := watched.left
  taken := if host.live.entries dir leaf = watched.host.live.entries dir leaf then watched.taken
    else watched.found dir leaf

/-- Before the first call. -/
def start (host : Host) : Watched := ⟨host, host.live.found dir leaf, none⟩

end Watched

section Others

variable (dir : Nat) (leaf hidden : PyStr) (proved : View → Bool)

/-- Others act: on the target's name and on any file, not on the writer's own name. -/
structure Meddles (before after : Watched) : Prop where
  sane : before.host.live.Sane → after.host.live.Sane
  fault : after.host.fault = before.host.fault
  uuid : after.host.uuid = before.host.uuid
  drawn : after.host.drawn = before.host.drawn
  hidden : after.host.live.entries dir hidden = before.host.live.entries dir hidden
  taken : after.taken = before.taken
  left : after.left = if after.found dir leaf = before.found dir leaf then before.left
    else after.found dir leaf

/-- Others leave the file under the writer's own name alone unless it is the target too, and leave
the target alone while what they left there is under that name and is not the proved baseline. -/
structure Spares (before after : Watched) : Prop where
  meddles : Meddles dir leaf hidden before after
  apart : ∀ ino, before.host.live.entries dir hidden = some ino →
    before.host.live.entries dir leaf ≠ some ino →
    after.host.live.entries dir leaf ≠ some ino ∧
      after.host.live.standing ino = before.host.live.standing ino
  waits : ∀ ino view, before.left = some (ino, view) →
    before.host.live.entries dir hidden = some ino → before.host.live.entries dir leaf ≠ some ino →
    proved view = false → after.found dir leaf = before.found dir leaf

/-- What others left under the target's name is there, or it is the proved baseline. -/
def Stands (watched : Watched) : Prop :=
  ∀ ino view, watched.left = some (ino, view) →
    proved view = true ∨ watched.found dir leaf = some (ino, view)

/-- What others left under the target's name is there or under the writer's own name, or it is the
proved baseline. -/
def Survives (watched : Watched) : Prop :=
  ∀ ino view, watched.left = some (ino, view) → proved view = true ∨
    watched.host.live.standing ino = some view ∧
      (watched.host.live.entries dir leaf = some ino ∨
        watched.host.live.entries dir hidden = some ino)

/-- The target holds what others left there, or what the writer put there. -/
def Placed (put : Option (Nat × View)) (watched : Watched) : Prop :=
  watched.found dir leaf = watched.left ∨ watched.found dir leaf = put

end Others

section Phases

variable {dir : Nat} {leaf hidden : PyStr} {proved : View → Bool} {before after : Watched}
  {taken put : Option (Nat × View)}

/-- The target is as others left it. -/
structure Untouched (dir : Nat) (leaf : PyStr) (taken : Option (Nat × View)) (watched : Watched) :
    Prop where
  sane : watched.host.live.Sane
  left : watched.left = watched.found dir leaf
  taken : watched.taken = taken

/-- The writer's own file is under the writer's own name. -/
structure Prepared (dir : Nat) (leaf hidden : PyStr) (taken : Option (Nat × View)) (own : Nat)
    (content : View) (watched : Watched) : Prop where
  untouched : Untouched dir leaf taken watched
  hidden : watched.host.live.entries dir hidden = some own
  apart : watched.host.live.entries dir leaf ≠ some own
  stands : watched.host.live.standing own = some content

/-- The file that was the target is under the writer's own name. -/
structure Displaced (dir : Nat) (leaf hidden : PyStr) (proved : View → Bool)
    (put : Option (Nat × View)) (ino : Nat) (view : View) (watched : Watched) : Prop where
  sane : watched.host.live.Sane
  quiet : watched.host.fault = none
  hidden : watched.host.live.entries dir hidden = some ino
  apart : watched.host.live.entries dir leaf ≠ some ino
  stands : watched.host.live.standing ino = some view
  taken : watched.taken = some (ino, view)
  placed : Placed dir leaf put watched
  matched : proved view = true → Stands dir leaf proved watched
  waits : proved view = false → watched.left = some (ino, view) ∧ watched.found dir leaf = put

/-- Nothing that others left hangs on the writer's own name. -/
structure Settled (dir : Nat) (leaf : PyStr) (proved : View → Bool) (put taken : Option (Nat × View))
    (watched : Watched) : Prop where
  sane : watched.host.live.Sane
  stands : Stands dir leaf proved watched
  placed : Placed dir leaf put watched
  taken : watched.taken = taken

/-! ## What others leave as it is -/

theorem Meddles.left_eq (meddles : Meddles dir leaf hidden before after)
    (left : before.left = before.found dir leaf) : after.left = after.found dir leaf := by
  rw [meddles.left]
  split
  next same => rw [left, same]
  next => rfl

theorem Meddles.placed (meddles : Meddles dir leaf hidden before after)
    (placed : Placed dir leaf put before) : Placed dir leaf put after := by
  unfold Placed
  rw [meddles.left]
  split
  next same => rwa [same]
  next => exact .inl rfl

theorem Meddles.stands (meddles : Meddles dir leaf hidden before after)
    (stands : Stands dir leaf proved before) : Stands dir leaf proved after := by
  intro ino view left
  rw [meddles.left] at left
  split at left
  next same => rw [same]; exact stands ino view left
  next => exact .inr left

theorem Untouched.meddled (meddles : Meddles dir leaf hidden before after)
    (untouched : Untouched dir leaf taken before) : Untouched dir leaf taken after :=
  ⟨meddles.sane untouched.sane, meddles.left_eq untouched.left, meddles.taken.trans untouched.taken⟩

theorem Settled.meddled (meddles : Meddles dir leaf hidden before after)
    (settled : Settled dir leaf proved put taken before) :
    Settled dir leaf proved put taken after :=
  ⟨meddles.sane settled.sane, meddles.stands settled.stands, meddles.placed settled.placed,
    meddles.taken.trans settled.taken⟩

theorem Prepared.spared {own : Nat} {content : View}
    (spares : Spares dir leaf hidden proved before after)
    (prepared : Prepared dir leaf hidden taken own content before) :
    Prepared dir leaf hidden taken own content after := by
  obtain ⟨apart, same⟩ := spares.apart own prepared.hidden prepared.apart
  exact ⟨prepared.untouched.meddled spares.meddles, spares.meddles.hidden.trans prepared.hidden,
    apart, same.trans prepared.stands⟩

theorem Displaced.spared {ino : Nat} {view : View}
    (spares : Spares dir leaf hidden proved before after)
    (displaced : Displaced dir leaf hidden proved put ino view before) :
    Displaced dir leaf hidden proved put ino view after := by
  have meddles := spares.meddles
  obtain ⟨apart, same⟩ := spares.apart ino displaced.hidden displaced.apart
  refine ⟨meddles.sane displaced.sane, meddles.fault.trans displaced.quiet, meddles.hidden.trans displaced.hidden,
    apart, same.trans displaced.stands, meddles.taken.trans displaced.taken,
    meddles.placed displaced.placed, fun matched => meddles.stands (displaced.matched matched),
    fun mismatched => ?_⟩
  obtain ⟨left, shown⟩ := displaced.waits mismatched
  have alone := spares.waits ino view left displaced.hidden displaced.apart mismatched
  rw [meddles.left, if_pos alone, alone]
  exact ⟨left, shown⟩

/-! ## In every phase, what others left survives -/

theorem Untouched.survives (untouched : Untouched dir leaf taken before) :
    Survives dir leaf hidden proved before := by
  intro ino view left
  obtain ⟨bound, stands⟩ := FileSystem.found_eq_some.mp (untouched.left.symm.trans left)
  exact .inr ⟨stands, .inl bound⟩

theorem Stands.survives (stands : Stands dir leaf proved before) :
    Survives dir leaf hidden proved before := by
  intro ino view left
  refine (stands ino view left).imp id fun found => ?_
  obtain ⟨bound, standing⟩ := FileSystem.found_eq_some.mp found
  exact ⟨standing, .inl bound⟩

theorem Displaced.survives {ino : Nat} {view : View}
    (displaced : Displaced dir leaf hidden proved put ino view before) :
    Survives dir leaf hidden proved before := by
  cases matches_proved : proved view with
  | true => exact (displaced.matched matches_proved).survives
  | false =>
    intro other left there
    obtain ⟨same, -⟩ := displaced.waits matches_proved
    cases same.symm.trans there
    exact .inr ⟨displaced.stands, .inr displaced.hidden⟩

theorem Untouched.stands (untouched : Untouched dir leaf taken before) :
    Stands dir leaf proved before := fun _ _ left => .inr (untouched.left.symm.trans left)

theorem Untouched.settled (untouched : Untouched dir leaf taken before) :
    Settled dir leaf proved put taken before :=
  ⟨untouched.sane, untouched.stands, .inl untouched.left.symm, untouched.taken⟩

end Phases

/-! ## Calls of the writer -/

section Calls

variable (dir : Nat) (leaf hidden : PyStr) (proved : View → Bool)

/-- Programs on the host among sparing others: what others left survives every call, and the two ways
to end. -/
def Under {α : Type} (program : Sys α) (returns : α → Watched → Prop)
    (raises : PyError → Watched → Prop) (watched : Watched) : Prop :=
  Ensures (Relation.ReflTransGen (Spares dir leaf hidden proved))
    (fun _ after => Survives dir leaf hidden proved after)
    (program.within Watched.host (Watched.called dir leaf))
    (fun result after => match result with
      | .ok a => returns a after
      | .error error => raises error after) watched

/-- What others keep, and in which what they left survives. -/
structure Phase (holds : Watched → Prop) : Prop where
  spared : ∀ before after, Spares dir leaf hidden proved before after → holds before → holds after
  survives : ∀ watched, holds watched → Survives dir leaf hidden proved watched

variable {dir leaf hidden proved} {α β : Type} {watched : Watched} {holds : Watched → Prop}
  {returns : α → Watched → Prop} {raises : PyError → Watched → Prop}

theorem Phase.after {before after : Watched} (phase : Phase dir leaf hidden proved holds)
    (moved : Relation.ReflTransGen (Spares dir leaf hidden proved) before after)
    (here : holds before) : holds after := by
  induction moved with
  | refl => exact here
  | tail _ step ih => exact phase.spared _ _ step ih

@[simp] theorem Watched.called_self (watched : Watched) :
    watched.called dir leaf watched.host = watched := by
  unfold Watched.called
  rw [if_pos rfl]

theorem Under.pure {a : α} (here : returns a watched) :
    Under dir leaf hidden proved (pure a) returns raises watched := Ensures.pure here

theorem Under.throw {error : PyError} (here : raises error watched) :
    Under dir leaf hidden proved (throw error : Sys α) returns raises watched := Ensures.throw here

theorem Under.mono {p : Sys α} {returns' : α → Watched → Prop} {raises' : PyError → Watched → Prop}
    (under : Under dir leaf hidden proved p returns raises watched)
    (returned : ∀ a after, returns a after → returns' a after)
    (raised : ∀ error after, raises error after → raises' error after) :
    Under dir leaf hidden proved p returns' raises' watched := by
  refine Ensures.mono under fun result after ends => ?_
  cases result with
  | ok a => exact returned a after ends
  | error error => exact raised error after ends

theorem Under.bind {p : Sys α} {k : α → Sys β} {returns : β → Watched → Prop}
    (under : Under dir leaf hidden proved p
      (fun a after => Under dir leaf hidden proved (k a) returns raises after) raises watched) :
    Under dir leaf hidden proved (p >>= k) returns raises watched := by
  unfold Under
  rw [within_bind]
  refine Ensures.bind (Ensures.mono under fun result after ends => ?_)
  cases result with
  | ok a => exact ends
  | error error => exact ends

theorem Under.tryCatch {p : Sys α} {h : PyError → Sys α}
    (under : Under dir leaf hidden proved p returns
      (fun error after => Under dir leaf hidden proved (h error) returns raises after) watched) :
    Under dir leaf hidden proved (tryCatch p h) returns raises watched := by
  unfold Under
  rw [within_tryCatch]
  refine Ensures.tryCatch (Ensures.mono under fun result after ends => ?_)
  cases result with
  | ok a => exact ends
  | error error => exact ends

theorem Under.require {condition : Prop} [Decidable condition] {error : PyError}
    {returns : Unit → Watched → Prop} (passed : condition → returns () watched)
    (failed : ¬condition → raises error watched) :
    Under dir leaf hidden proved (require condition error) returns raises watched := by
  unfold SyncApp.require
  split
  next held => exact .pure (passed held)
  next missed => exact .throw (failed missed)

theorem Under.onOsError {p : Sys α} {handler : Errno → Sys α}
    (under : Under dir leaf hidden proved p returns
      (fun error after => (∀ errno, error.kind = .osError errno →
        Under dir leaf hidden proved (handler errno) returns raises after) ∧
        ((∀ errno, error.kind ≠ .osError errno) → raises error after)) watched) :
    Under dir leaf hidden proved (onOsError p handler) returns raises watched := by
  refine .tryCatch (under.mono (fun _ _ ends => ends) fun error after ends => ?_)
  split
  next errno kind => exact ends.1 errno kind
  next other => exact .throw (ends.2 other)

/-- One call. -/
theorem Under.action {f : Host → Except PyError α × Host}
    (phase : Phase dir leaf hidden proved holds) (here : holds watched)
    (acts : ∀ before, holds before →
      Survives dir leaf hidden proved (before.called dir leaf (f before.host).2) ∧
        match (f before.host).1 with
        | .ok a => returns a (before.called dir leaf (f before.host).2)
        | .error error => raises error (before.called dir leaf (f before.host).2)) :
    Under dir leaf hidden proved (action f) returns raises watched :=
  fun before moved => acts before (phase.after moved here)

/-- A call that only reads. -/
theorem Under.ask {call : Host → Except Errno α} (phase : Phase dir leaf hidden proved holds)
    (here : holds watched)
    (returned : ∀ after a, holds after → after.host.fault = none → call after.host = .ok a →
      returns a after)
    (raised : ∀ after errno, holds after →
      (after.host.fault = none → call after.host = .error errno) →
      raises ⟨.osError errno, ""⟩ after) :
    Under dir leaf hidden proved (ask call) returns raises watched := by
  refine .action phase here fun before held => ?_
  have alive := phase.survives before held
  cases fault : before.host.fault with
  | some errno =>
    simp only [Watched.called_self]
    exact ⟨alive, raised before errno held fun quiet => nomatch fault.symm.trans quiet⟩
  | none =>
    cases called : call before.host with
    | ok a =>
      simp only [Watched.called_self]
      exact ⟨alive, returned before a held fault called⟩
    | error errno =>
      simp only [Watched.called_self]
      exact ⟨alive, raised before errno held fun _ => called⟩

/-- A call that changes the file system. -/
theorem Under.change {call : FileSystem PyStr → Except Errno (α × FileSystem PyStr)}
    (phase : Phase dir leaf hidden proved holds) (here : holds watched)
    (returned : ∀ before a live, holds before → before.host.fault = none →
      call before.host.live = .ok (a, live) →
      Survives dir leaf hidden proved (before.called dir leaf { before.host with live := live }) ∧
        returns a (before.called dir leaf { before.host with live := live }))
    (raised : ∀ after errno, holds after →
      (after.host.fault = none → call after.host.live = .error errno) →
      raises ⟨.osError errno, ""⟩ after) :
    Under dir leaf hidden proved (change call) returns raises watched := by
  refine .action phase here fun before held => ?_
  have alive := phase.survives before held
  cases fault : before.host.fault with
  | some errno =>
    simp only [Watched.called_self]
    exact ⟨alive, raised before errno held fun quiet => nomatch fault.symm.trans quiet⟩
  | none =>
    cases called : call before.host.live with
    | ok result =>
      simpa only [fault] using returned before result.1 result.2 held fault called
    | error errno =>
      simp only [Watched.called_self]
      exact ⟨alive, raised before errno held fun _ => called⟩

end Calls

/-! ## The phases of an operation -/

section Phases

variable {dir : Nat} {leaf hidden : PyStr} {proved : View → Bool} {watched : Watched} {host : Host}
  {taken put : Option (Nat × View)}

/-- Nothing that others left hangs on the writer. -/
def Rests (dir : Nat) (leaf : PyStr) (proved : View → Bool) (watched : Watched) : Prop :=
  ∃ put taken, Settled dir leaf proved put taken watched

theorem phase_untouched : Phase dir leaf hidden proved (Untouched dir leaf taken) :=
  ⟨fun _ _ spares untouched => untouched.meddled spares.meddles, fun _ untouched =>
    untouched.survives⟩

theorem phase_prepared {own : Nat} {content : View} :
    Phase dir leaf hidden proved (Prepared dir leaf hidden taken own content) :=
  ⟨fun _ _ spares prepared => prepared.spared spares, fun _ prepared => prepared.untouched.survives⟩

theorem phase_displaced {ino : Nat} {view : View} :
    Phase dir leaf hidden proved (Displaced dir leaf hidden proved put ino view) :=
  ⟨fun _ _ spares displaced => displaced.spared spares, fun _ displaced => displaced.survives⟩

theorem phase_settled : Phase dir leaf hidden proved (Settled dir leaf proved put taken) :=
  ⟨fun _ _ spares settled => settled.meddled spares.meddles, fun _ settled =>
    settled.stands.survives⟩

theorem phase_rests : Phase dir leaf hidden proved (Rests dir leaf proved) :=
  ⟨fun _ _ spares ⟨put, taken, settled⟩ => ⟨put, taken, settled.meddled spares.meddles⟩,
    fun _ ⟨_, _, settled⟩ => settled.stands.survives⟩

theorem Prepared.rests {own : Nat} {content : View}
    (prepared : Prepared dir leaf hidden taken own content watched) :
    Rests dir leaf proved watched := ⟨none, taken, prepared.untouched.settled⟩

theorem Displaced.settled {ino : Nat} {view : View}
    (displaced : Displaced dir leaf hidden proved put ino view watched) (matched : proved view = true) :
    Settled dir leaf proved put (some (ino, view)) watched :=
  ⟨displaced.sane, displaced.matched matched, displaced.placed, displaced.taken⟩

/-! ### Calls beside the target -/

theorem found_aside (entries : host.live.entries dir leaf = watched.host.live.entries dir leaf)
    (stands : ∀ ino, watched.host.live.entries dir leaf = some ino →
      host.live.standing ino = watched.host.live.standing ino) :
    (watched.called dir leaf host).found dir leaf = watched.found dir leaf :=
  FileSystem.found_congr entries stands

theorem taken_aside (entries : host.live.entries dir leaf = watched.host.live.entries dir leaf) :
    (watched.called dir leaf host).taken = watched.taken := if_pos entries

theorem Settled.aside (settled : Settled dir leaf proved put taken watched)
    (sane : host.live.Sane)
    (entries : host.live.entries dir leaf = watched.host.live.entries dir leaf)
    (stands : ∀ ino, watched.host.live.entries dir leaf = some ino →
      host.live.standing ino = watched.host.live.standing ino) :
    Settled dir leaf proved put taken (watched.called dir leaf host) := by
  have found := found_aside entries stands
  refine ⟨sane, fun ino view left => ?_, ?_, (taken_aside entries).trans settled.taken⟩
  · rw [found]
    exact settled.stands ino view left
  · unfold Placed
    rw [found]
    exact settled.placed

theorem Untouched.aside (untouched : Untouched dir leaf taken watched) (sane : host.live.Sane)
    (entries : host.live.entries dir leaf = watched.host.live.entries dir leaf)
    (stands : ∀ ino, watched.host.live.entries dir leaf = some ino →
      host.live.standing ino = watched.host.live.standing ino) :
    Untouched dir leaf taken (watched.called dir leaf host) :=
  ⟨sane, untouched.left.trans (found_aside entries stands).symm,
    (taken_aside entries).trans untouched.taken⟩

end Phases

/-! ## The writer's functions -/

section Writer

variable {dir : Nat} {leaf hidden : PyStr} {proved : View → Bool} {watched : Watched}
  {taken put : Option (Nat × View)} {α : Type} {returns : α → Watched → Prop}
  {raises : PyError → Watched → Prop}

theorem Under.named {name : PyStr} {returns : Unit → Watched → Prop}
    (passed : name.contains 0 = false → returns () watched)
    (failed : name.contains 0 ≠ false → ∀ error, raises error watched) :
    Under dir leaf hidden proved (named name) returns raises watched :=
  .require passed fun missed => failed missed _

theorem Under.fsync {holds : Watched → Prop} (phase : Phase dir leaf hidden proved holds)
    (here : holds watched) {fd : Nat} :
    Under dir leaf hidden proved (fsync fd) (fun _ => holds) (fun _ => holds) watched := by
  unfold Sys.fsync Sys.look
  exact .ask phase here (fun _ _ held _ _ => held) fun _ _ held _ => held

theorem ok_of_map {call : Except Errno (FileSystem PyStr)} {u : Unit} {live : FileSystem PyStr}
    (called : call.map (fun fs => ((), fs)) = .ok (u, live)) : call = .ok live := by
  cases call with
  | ok fs =>
    cases called
    rfl
  | error errno => cases called

theorem under_unlinkAt (own : hidden ≠ leaf) (here : Settled dir leaf proved put taken watched) :
    Under dir leaf hidden proved (unlinkAt dir hidden)
      (fun _ => Settled dir leaf proved put taken) (fun _ => Settled dir leaf proved put taken)
      watched := by
  refine .bind (.named (fun _ => ?_) fun _ _ => here)
  refine .change phase_settled here (fun before _ live held _ called => ?_) fun _ _ held _ => held
  obtain ⟨sane, outcome⟩ := FileSystem.unlink_eq_ok held.sane (ok_of_map called)
  have aside : Settled dir leaf proved put taken
      (before.called dir leaf { before.host with live := live }) := by
    refine held.aside sane ?_ fun ino _ => outcome.standing ino
    rw [outcome.entries, FileSystem.rebind_name own.symm]
  exact ⟨aside.stands.survives, aside⟩

theorem under_cleaning (own : hidden ≠ leaf) {program : Sys α}
    (under : Under dir leaf hidden proved program returns (fun _ => Rests dir leaf proved) watched) :
    Under dir leaf hidden proved (cleaning dir hidden program) returns
      (fun _ => Rests dir leaf proved) watched := by
  refine .tryCatch (under.mono (fun _ _ ends => ends) fun error after rests => ?_)
  obtain ⟨put, taken, settled⟩ := rests
  refine .bind (.onOsError ((under_unlinkAt own settled).mono ?_ fun _ last held => ?_))
  · exact fun _ last held => .throw ⟨put, taken, held⟩
  · exact ⟨fun _ _ => .pure (.throw ⟨put, taken, held⟩), fun _ => ⟨put, taken, held⟩⟩

end Writer

end Interference

end SyncApp
