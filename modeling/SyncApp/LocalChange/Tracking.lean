import SyncApp.LocalChange.Service
import SyncApp.Pipeline.WorkRuns

/-!
# No lost local change

`Covered` is what carries the argument. Once there is an inventory, it was taken at some moment, and
since then the content was captured by a pass that succeeded, or a deadline or unsettled work will
bring a pass. The mailbox and the events do not enter: a difference that they would announce is one
between the inventory and the source.

Every action of the service keeps `Covered`, whatever it is in the middle of
(`Installation.Keeping`), and so does what happens around it outside the unguarded stretch. What is
known in the middle of a call is a fact that lasts among others (`Lasting`): the moment of an
observation (`Since`), the files read so far, and the content of a complete capture (`Captured`).

`no_local_change_lost` is the law for every run whose edits stay out of the unguarded stretch, and
`startup_loses_a_change` is the run with an edit in it.
-/

set_option autoImplicit false

namespace SyncApp.LocalChange

open Lib Raising

open Lib.FileTree (Distinct)

namespace Installation

variable (site : Installation)

/-! ## Around the service -/

/-- What becomes of a state while others act. -/
structure Around (before after : LocalChangeState) : Prop where
  moment : before.moment ≤ after.moment
  store : after.store = before.store
  clock : before.clock ≤ after.clock
  snapshot : after.snapshot = before.snapshot
  lastTime : after.lastTime = before.lastTime
  deadline : after.deadline = before.deadline
  captured : after.captured = before.captured
  synchronized : after.synchronized = before.synchronized
  content : site.Unguarded before → site.content after = site.content before

/-- Everything that may happen between two actions of the service. -/
abbrev Others : LocalChangeState → LocalChangeState → Prop :=
  Relation.ReflTransGen site.Disturbs

variable {site}

theorem Around.unguarded {before after : LocalChangeState} (around : site.Around before after)
    (open_ : site.Unguarded before) : site.Unguarded after := by
  unfold Unguarded at open_ ⊢
  rw [around.snapshot, around.captured, around.store]
  exact open_

theorem Around.refl (state : LocalChangeState) : site.Around state state :=
  ⟨le_rfl, rfl, le_rfl, rfl, rfl, rfl, rfl, rfl, fun _ => rfl⟩

theorem Around.trans {first second third : LocalChangeState} (one : site.Around first second)
    (two : site.Around second third) : site.Around first third where
  moment := one.moment.trans two.moment
  store := two.store.trans one.store
  clock := one.clock.trans two.clock
  snapshot := two.snapshot.trans one.snapshot
  lastTime := two.lastTime.trans one.lastTime
  deadline := two.deadline.trans one.deadline
  captured := two.captured.trans one.captured
  synchronized := two.synchronized.trans one.synchronized
  content open_ := (two.content (one.unguarded open_)).trans (one.content open_)

theorem Disturbs.around {before after : LocalChangeState} (step : site.Disturbs before after) :
    site.Around before after := by
  obtain ⟨happens, guarded⟩ := step
  have content : site.Unguarded before → site.content after = site.content before :=
    fun open_ => not_not.mp fun changes => guarded changes open_
  cases happens with
  | edit => exact ⟨Nat.le_succ _, rfl, le_rfl, rfl, rfl, rfl, rfl, rfl, content⟩
  | stir => exact ⟨le_rfl, rfl, le_rfl, rfl, rfl, rfl, rfl, rfl, content⟩
  | deliver => exact ⟨le_rfl, rfl, le_rfl, rfl, rfl, rfl, rfl, rfl, content⟩
  | wait seconds => exact ⟨le_rfl, rfl, Nat.le_add_right _ _, rfl, rfl, rfl, rfl, rfl, content⟩

theorem Others.around {before after : LocalChangeState} (others : site.Others before after) :
    site.Around before after := by
  induction others with
  | refl => exact .refl _
  | tail _ step ih => exact ih.trans step.around

/-! ## The invariant -/

variable (site)

/-- Nothing that was edited is out of sight. -/
structure Covered (state : LocalChangeState) : Prop where
  readable : Readable state.store
  timely : ∀ time, state.lastTime = some time → time ≤ state.clock
  /-- Before the first inventory. -/
  unseen : state.snapshot = none →
    site.Unsettled state.store ∨ state.synchronized = some (site.content state)
  /-- With an inventory. -/
  seen : ∀ snapshot, state.snapshot = some snapshot → ∃ moment ≤ state.moment,
    observeLocalChangeSource site.includePath (site.history moment) = .ok snapshot ∧
      (state.deadline.isSome ∨ site.Unsettled state.store ∨ ∃ later, moment ≤ later ∧
        later ≤ state.moment ∧
        state.synchronized = some (routedContent site.includePath (site.history later)))

variable {site}

theorem Covered.around {before after : LocalChangeState} (covered : site.Covered before)
    (around : site.Around before after) : site.Covered after where
  readable := around.store ▸ covered.readable
  timely time known := (covered.timely time (around.lastTime ▸ known)).trans around.clock
  unseen none := by
    rw [around.snapshot] at none
    rw [around.store, around.synchronized]
    by_cases settled : site.Unsettled before.store
    · exact .inl settled
    · rw [around.content ⟨none, .inr settled⟩]
      exact covered.unseen none
  seen snapshot taken := by
    rw [around.snapshot] at taken
    obtain ⟨moment, earlier, observed, why⟩ := covered.seen snapshot taken
    refine ⟨moment, earlier.trans around.moment, observed, ?_⟩
    rw [around.deadline, around.store, around.synchronized]
    obtain waits | unsettled | ⟨later, after, before, same⟩ := why
    · exact .inl waits
    · exact .inr (.inl unsettled)
    · exact .inr (.inr ⟨later, after, before.trans around.moment, same⟩)

/-- **What the invariant is for.** -/
theorem Covered.tracked (telling : site.Telling) {state : LocalChangeState}
    (covered : site.Covered state) : site.Tracked state := by
  intro differs
  unfold Signalled
  cases taken : state.snapshot with
  | none =>
    obtain unsettled | same := covered.unseen taken
    · exact .inr (.inr (.inr (.inr unsettled)))
    · exact absurd same differs
  | some snapshot =>
    obtain ⟨moment, earlier, observed, waits | unsettled | ⟨later, after, before, same⟩⟩ :=
      covered.seen snapshot taken
    · exact .inr (.inr (.inl waits))
    · exact .inr (.inr (.inr (.inr unsettled)))
    · refine .inr (.inr (.inr (.inl ⟨snapshot, rfl, fun still => differs ?_⟩)))
      -- the inventory is still the present one, so nothing has changed since it was taken
      have unchanged := fun between after before => telling moment between state.moment
        snapshot.entries after before (scan_of_observed observed) (scan_of_observed still)
      rw [same, unchanged later after before]
      exact congrArg some (unchanged state.moment earlier le_rfl).symm

/-! ## Work -/

theorem key_valid : validateWorkIdentity .localSync site.key = .ok () := by
  have kind : isWorkKind (WorkKind.name .localSync) = true := by decide
  have shape := site.workKey.shape
  have digits : "0123456789abcdef".toList.all
      (fun c => !(decide (c.toNat < 0x20) || c.toNat == 0x7F)) = true := by rfl
  have key : isWorkKey site.key = true := by
    unfold isWorkKey key text
    have long : (site.workKey.hex.toList.map Char.toNat).length = 64 := by
      rw [List.length_map]
      exact shape.1
    rw [long]
    have plain : (site.workKey.hex.toList.map Char.toNat).any
        (fun c => c < 0x20 || c == 0x7F) = false := by
      rw [List.any_eq_false]
      intro code there
      obtain ⟨c, member, rfl⟩ := List.mem_map.mp there
      have digit := List.all_eq_true.mp shape.2 c member
      rw [List.contains_iff_mem] at digit
      have printed := List.all_eq_true.mp digits c digit
      rw [Bool.not_eq_true'] at printed
      rw [printed]
      exact Bool.false_ne_true
    rw [plain]
    rfl
  unfold validateWorkIdentity validateWorkKind
  rw [if_pos kind]
  dsimp only
  rw [if_pos key]

/-- A call that does not complete the local synchronization. -/
def Spares (site : Installation) (call : WorkCall) : Prop :=
  match call with
  | .completeWork item _ => ¬(item.workKind = .localSync ∧ item.workKey = site.key)
  | _ => True

/-- Only a completion makes a row succeed. -/
theorem completed_of_step {call : WorkCall} {row next : WorkItem} (step : RowStep call row next)
    (succeeded : next.status = .succeeded) :
    ∃ item now, call = .completeWork item now ∧ item.Holds row := by
  cases step with
  | completed held => exact ⟨_, _, rfl, held⟩
  | failed =>
    unfold WorkItem.failedAt at succeeded
    split at succeeded <;> cases succeeded
  | _ => cases succeeded

theorem Unsettled.perform {store : Store} (readable : Readable store) (call : WorkCall)
    (spares : site.Spares call) (unsettled : site.Unsettled store) :
    site.Unsettled (call.perform store).2 := by
  obtain ⟨row, found, status⟩ := unsettled
  obtain ⟨next, kept, fate⟩ := (call.perform_effect readable).fate found
  refine ⟨next, kept, ?_⟩
  obtain ⟨-, kind, key⟩ := Store.findWork_some found
  cases fate with
  | kept => exact status
  | stepped next step =>
    intro succeeded
    obtain ⟨item, now, same, held⟩ := completed_of_step step succeeded
    rw [same] at spares
    exact spares ⟨held.workKind.symm.trans kind, held.workKey.symm.trans key⟩
  | recovered now =>
    unfold WorkItem.recoveredAt
    split
    · nofun
    · exact status

variable (site) in
/-- Scheduled work has not succeeded. -/
theorem unsettled_scheduled {store : Store} (readable : Readable store) (now : Int) :
    site.Unsettled ((WorkCall.scheduleRoutineWork .localSync site.key now).perform store).2 := by
  cases found : store.findWork .localSync site.key with
  | none =>
    unfold WorkCall.perform WorkCall.identified scheduleRoutineWork
    dsimp only
    rw [key_valid, found]
    exact ⟨_, Store.findWork_added found, nofun⟩
  | some row =>
    obtain ⟨-, kind, key⟩ := Store.findWork_some found
    by_cases succeeded : row.status = .succeeded
    · have here : store.findWork row.workKind row.workKey = some row := by
        rw [kind, key]
        exact found
      have rearms : (WorkCall.scheduleRoutineWork .localSync site.key now).Rearms row :=
        ⟨⟨kind, key⟩, succeeded⟩
      obtain ⟨next, step, performed⟩ := WorkCall.perform_rearms readable here rearms
      rw [performed]
      have replaced := Store.findWork_replaced step.same_key here
      rw [kind, key] at replaced
      refine ⟨next, replaced, fun again => ?_⟩
      obtain ⟨_, _, wrong, -⟩ := completed_of_step step again
      cases wrong
    · exact Unsettled.perform readable (.scheduleRoutineWork .localSync site.key now) trivial
        ⟨row, found, succeeded⟩

/-! ## What is known in the middle of a call -/

variable (site)

/-- A fact that no one else undoes. -/
def Lasting (fact : LocalChangeState → Prop) : Prop :=
  ∀ before after, fact before → site.Around before after → fact after

/-- The inventory, if there is one, is at most as late as a moment that is past. -/
structure Since (moment : Nat) (state : LocalChangeState) : Prop where
  past : moment ≤ state.moment
  inventory : ∀ snapshot, state.snapshot = some snapshot → ∃ earlier ≤ moment,
    observeLocalChangeSource site.includePath (site.history earlier) = .ok snapshot

/-- The source was observed like this. -/
def Observed (snapshot : LocalChangeSnapshot) (state : LocalChangeState) : Prop :=
  ∃ moment ≤ state.moment,
    observeLocalChangeSource site.includePath (site.history moment) = .ok snapshot

/-- The time that a call has read. -/
structure Timed (now : Nat) (state : LocalChangeState) : Prop where
  past : now ≤ state.clock
  last : ∀ time, state.lastTime = some time → time ≤ now

/-- A file was read at or after a moment. -/
def ReadSince (moment : Nat) (state : LocalChangeState) (entry : SourceFile) (file : RoutedFile) :
    Prop :=
  ∃ later, moment ≤ later ∧ later ≤ state.moment ∧ readRouted (site.history later) entry = .ok file

/-- A capture is complete. -/
structure Captured (disposition : LocalSyncDisposition) (files : List RoutedFile)
    (state : LocalChangeState) : Prop where
  taken : ∃ moment, site.Since moment state ∧
    files = routedContent site.includePath (site.history moment)
  alone : state.snapshot = none → disposition.succeeds = true →
    state.captured = some (.ok disposition) ∧ files = site.content state

variable {site}

theorem Lasting.true : site.Lasting fun _ => True := fun _ _ _ _ => trivial

theorem Lasting.and {one two : LocalChangeState → Prop} (first : site.Lasting one)
    (second : site.Lasting two) : site.Lasting fun state => one state ∧ two state :=
  fun before after both around =>
    ⟨first before after both.1 around, second before after both.2 around⟩

theorem Since.lasting (moment : Nat) : site.Lasting (site.Since moment) := by
  intro before after since around
  exact ⟨since.past.trans around.moment, around.snapshot ▸ since.inventory⟩

theorem Observed.lasting (snapshot : LocalChangeSnapshot) :
    site.Lasting (site.Observed snapshot) := by
  rintro before after ⟨moment, past, observed⟩ around
  exact ⟨moment, past.trans around.moment, observed⟩

theorem Timed.lasting (now : Nat) : site.Lasting (Timed now) := by
  intro before after timed around
  exact ⟨timed.past.trans around.clock, around.lastTime ▸ timed.last⟩

theorem ReadSince.lasting (moment : Nat) (entry : SourceFile) (file : RoutedFile) :
    site.Lasting fun state => site.ReadSince moment state entry file := by
  rintro before after ⟨later, since, past, read⟩ around
  exact ⟨later, since, past.trans around.moment, read⟩

theorem Captured.lasting (disposition : LocalSyncDisposition) (files : List RoutedFile) :
    site.Lasting (site.Captured disposition files) := by
  intro before after held around
  obtain ⟨moment, since, same⟩ := held.taken
  refine ⟨⟨moment, Since.lasting moment before after since around, same⟩, fun none succeeds => ?_⟩
  rw [around.snapshot] at none
  obtain ⟨pass, content⟩ := held.alone none succeeds
  rw [around.captured, around.content ⟨none, .inl ⟨disposition, pass, succeeds⟩⟩]
  exact ⟨pass, content⟩

/-- Where the inventory stands now. -/
theorem Covered.since {state : LocalChangeState} (covered : site.Covered state) :
    site.Since state.moment state := by
  refine ⟨le_rfl, fun snapshot taken => ?_⟩
  obtain ⟨moment, earlier, observed, -⟩ := covered.seen snapshot taken
  exact ⟨moment, earlier, observed⟩

/-! ## The rules for the service's programs -/

variable (site) in
/-- The program keeps the invariant, and carries a fact that holds when it starts to another. -/
abbrev Keeping {α : Type} (p : Watching α) (before : LocalChangeState → Prop)
    (after : α → LocalChangeState → Prop) : Prop :=
  Conveys site.Others site.Covered p before after

theorem Lasting.lasts {fact : LocalChangeState → Prop} (lasting : site.Lasting fact) :
    Lasts site.Others fact :=
  fun before after known others => lasting before after known (Others.around others)

theorem Covered.lasts : Lasts site.Others site.Covered :=
  fun _ _ covered others => covered.around (Others.around others)

section Rules

variable {α : Type} {before : LocalChangeState → Prop} {after : α → LocalChangeState → Prop}

theorem keeping_action {f : LocalChangeState → Except Failure α × LocalChangeState}
    (lasting : site.Lasting before)
    (here : ∀ state, site.Covered state → before state →
      site.Covered (f state).2 ∧ ∀ a, (f state).1 = .ok a → after a (f state).2) :
    site.Keeping (Raising.action f) before after :=
  .action Covered.lasts lasting.lasts here

/-- A look leaves what was known. -/
theorem keeping_look {read : LocalChangeState → Except Failure α} (lasting : site.Lasting before)
    (here : ∀ state a, site.Covered state → before state → read state = .ok a → after a state) :
    site.Keeping (look read) before after :=
  keeping_action lasting fun state covered known =>
    ⟨covered, fun a found => here state a covered known found⟩

end Rules

/-! ## Calls of the work table -/

theorem Covered.work {state : LocalChangeState} (covered : site.Covered state) {call : WorkCall}
    (spares : site.Spares call) : site.Covered (state.work call).2 where
  readable := (call.perform_effect covered.readable).readable covered.readable
  timely := covered.timely
  unseen none := by
    obtain unsettled | same := covered.unseen none
    · exact .inl (Unsettled.perform covered.readable call spares unsettled)
    · exact .inr same
  seen snapshot taken := by
    obtain ⟨moment, earlier, observed, waits | unsettled | later⟩ := covered.seen snapshot taken
    · exact ⟨moment, earlier, observed, .inl waits⟩
    · exact ⟨moment, earlier, observed,
        .inr (.inl (Unsettled.perform covered.readable call spares unsettled))⟩
    · exact ⟨moment, earlier, observed, .inr (.inr later)⟩

/-- The invariant does not depend on what a pass will come to. -/
theorem Covered.with_captured {state : LocalChangeState} (covered : site.Covered state)
    (captured : Option PassOutcome) : site.Covered { state with captured := captured } :=
  ⟨covered.readable, covered.timely, covered.unseen, covered.seen⟩

theorem Covered.giveUp {state : LocalChangeState} (covered : site.Covered state) (item : WorkItem)
    (transient : Bool) (now : Int) : site.Covered (state.giveUp item transient now).2 := by
  have spares : site.Spares (.failWork item transient now) := trivial
  exact (covered.work spares).with_captured none

theorem Covered.complete {state : LocalChangeState} (covered : site.Covered state)
    {disposition : LocalSyncDisposition} (succeeds : disposition.succeeds = true)
    {files : List RoutedFile} (captured : site.Captured disposition files state) (item : WorkItem)
    (now : Int) : site.Covered (state.complete item files now).2 := by
  have effect := WorkCall.perform_effect covered.readable (.completeWork item now)
  unfold LocalChangeState.complete LocalChangeState.work
  dsimp only
  split
  next failure raised =>
    -- the row was not there to complete, and nothing has changed
    have same := effect.raised raised
    rw [same]
    exact covered.with_captured none
  next =>
    obtain ⟨moment, since, same⟩ := captured.taken
    refine ⟨effect.readable covered.readable, covered.timely, fun none => ?_,
      fun snapshot taken => ?_⟩
    · exact .inr (congrArg some (captured.alone none succeeds).2)
    · obtain ⟨earlier, before, observed⟩ := since.inventory snapshot taken
      exact ⟨earlier, before.trans since.past, observed,
        .inr (.inr ⟨moment, before, since.past, congrArg some same⟩)⟩

theorem keeping_work {call : WorkCall} (spares : site.Spares call) :
    site.Keeping (workCall call) (fun _ => True) fun _ _ => True :=
  keeping_action .true fun _ covered _ => ⟨covered.work spares, fun _ _ => trivial⟩

/-! ## A pass -/

theorem keeping_readEntries {known : LocalChangeState → Prop} (lasting : site.Lasting known)
    {moment : Nat} (since : ∀ state, known state → moment ≤ state.moment)
    (entries : List SourceFile) :
    site.Keeping (site.readEntries entries) known fun files state =>
      known state ∧ List.Forall₂ (site.ReadSince moment state) entries files := by
  induction entries generalizing known with
  | nil => exact .pure fun state here => ⟨here, .nil⟩
  | cons entry entries ih =>
    unfold readEntries
    refine .bind (fun file state => known state ∧ site.ReadSince moment state entry file)
      (keeping_look lasting fun state file _ here read => ?_) fun file => ?_
    · rw [mapError_eq_ok] at read
      exact ⟨here, state.moment, since state here, le_rfl, read⟩
    · refine .bind _ (ih (lasting.and (ReadSince.lasting moment entry file))
        fun state here => since state here.1) fun files => .pure fun state here => ?_
      exact ⟨here.1.1, .cons here.1.2 here.2⟩

/-- **A complete capture has the content of a moment**, the one of its first scan. -/
theorem keeping_capture (telling : site.Telling) (outcome : PassOutcome) :
    site.Keeping (site.capture outcome) (fun _ => True) fun files state =>
      ∀ disposition, outcome = .ok disposition → site.Captured disposition files state := by
  unfold capture
  refine .bind (fun initial state => ∃ moment, site.Since moment state ∧
    scanRouted site.includePath (site.history moment) = .ok initial)
    (keeping_look .true fun state initial covered _ scanned => ?_) fun initial => ?_
  · rw [mapError_eq_ok] at scanned
    exact ⟨state.moment, covered.since, scanned⟩
  intro state covered known
  obtain ⟨moment, since, scanned⟩ := known
  have since_lasting : site.Lasting (site.Since moment) := Since.lasting moment
  have reads := keeping_readEntries since_lasting (fun state here => here.past) initial
  refine Conveys.bind _ reads (fun files => ?_) state covered since
  have read_lasting : site.Lasting fun state =>
      List.Forall₂ (site.ReadSince moment state) initial files := by
    intro before after reads around
    exact reads.imp fun entry file read =>
      ReadSince.lasting moment entry file before after read around
  refine keeping_action (since_lasting.and read_lasting) fun present covered here => ?_
  split
  next => exact ⟨covered, nofun⟩
  next final again =>
    split
    next => exact ⟨covered, nofun⟩
    next same =>
      rw [not_not] at same
      rw [← same] at again
      have unchanged := fun between after before =>
        telling moment between present.moment initial after before scanned again
      have all := readAll_content scanned (here.2.imp fun entry file read => by
        obtain ⟨later, after, before, read⟩ := read
        exact ⟨site.history later, unchanged later after before, read⟩)
      refine ⟨covered.with_captured _, fun _ returned disposition succeeded => ?_⟩
      cases returned
      refine ⟨⟨moment, ⟨here.1.past, here.1.inventory⟩, all⟩, fun _ _ => ?_⟩
      refine ⟨congrArg some succeeded, all.trans ?_⟩
      exact (unchanged present.moment here.1.past le_rfl).symm

theorem keeping_synchronize (telling : site.Telling) (outcome : PassOutcome) :
    site.Keeping (site.synchronizeLocalConfiguration outcome) (fun _ => True) fun result state =>
      site.Captured result.1 result.2 state := by
  unfold synchronizeLocalConfiguration
  refine .bind (fun _ _ => True) (keeping_look .true fun _ _ _ _ _ => trivial) fun bound => ?_
  refine .guard (.bind _ (keeping_capture telling outcome) fun files => ?_)
  refine .bind (fun disposition state => site.Captured disposition files state)
    (.ofResult fun disposition state same held => held disposition same) fun disposition => ?_
  exact .pure fun _ held => held

theorem keeping_giveUp (item : WorkItem) (transient : Bool) (now : Int) :
    site.Keeping (Raising.action fun state => state.giveUp item transient now) (fun _ => True)
      fun _ _ => True :=
  keeping_action .true fun _ covered _ => ⟨covered.giveUp item transient now, fun _ _ => trivial⟩

theorem keeping_execute (telling : site.Telling) (pass : LocalPass) (item : WorkItem) :
    site.Keeping (site.executeClaimedLocalSyncWork pass item) (fun _ => True) fun _ _ => True := by
  unfold executeClaimedLocalSyncWork
  dsimp only
  refine .guard (.guard ?_)
  refine .bind (fun result state => ∀ disposition files,
    result = .ok (disposition, files) → site.Captured disposition files state) ?_ fun result => ?_
  · refine .tryCatch (.bind _ (keeping_synchronize telling pass.outcome) fun result => .pure ?_)
      fun failure => .pure fun _ _ => nofun
    intro state captured disposition files same
    cases same
    exact captured
  · cases result with
    | error failure =>
      exact (keeping_giveUp item _ _).weaken (fun _ _ => trivial) fun _ _ _ => trivial
    | ok result =>
      obtain ⟨disposition, files⟩ := result
      dsimp only
      split
      next succeeds =>
        have completes : site.Keeping
            (Raising.action fun state => state.complete item files pass.settledAt)
            (site.Captured disposition files) fun _ _ => True :=
          keeping_action (Captured.lasting disposition files) fun _ covered captured =>
            ⟨covered.complete succeeds captured item _, fun _ _ => trivial⟩
        exact completes.weaken (fun _ known => known disposition files rfl) fun _ _ _ => trivial
      next => exact (keeping_giveUp item false _).weaken (fun _ _ => trivial) fun _ _ _ => trivial

theorem keeping_process (telling : site.Telling) (pass : LocalPass) :
    site.Keeping (site.runLocalSyncProcess pass) (fun _ => True) fun _ _ => True := by
  unfold runLocalSyncProcess
  refine .bind _ (keeping_work trivial) fun claimed => ?_
  cases claimed with
  | none => exact .pure fun _ _ => trivial
  | some item =>
    dsimp only
    split
    · exact keeping_giveUp item false _
    · exact keeping_execute telling pass item

theorem keeping_retrigger (telling : site.Telling) (pass : LocalPass) (recoveredAt : Int) :
    site.Keeping (site.runLocalSyncRetriggerPass pass recoveredAt) (fun _ => True)
      fun _ _ => True := by
  unfold runLocalSyncRetriggerPass
  refine .bind _ (keeping_work trivial) fun _ => .bind _ (keeping_work trivial) fun claimed => ?_
  cases claimed with
  | none => exact .pure fun _ _ => trivial
  | some item => exact keeping_execute telling pass item

/-! ## The bridge and the debouncer -/

theorem keeping_observe {known : LocalChangeState → Prop} (lasting : site.Lasting known) :
    site.Keeping site.observe known fun snapshot state =>
      known state ∧ site.Observed snapshot state := by
  refine keeping_look lasting fun state snapshot _ here observed => ?_
  rw [mapError_eq_ok] at observed
  exact ⟨here, state.moment, le_rfl, observed⟩

theorem Timed.advance {state : LocalChangeState} {now : Nat} (timed : Timed now state) :
    state.advanceTime now = .ok { state with lastTime := some now } := by
  unfold LocalChangeState.advanceTime
  rw [if_neg]
  rw [Option.any_eq_true]
  rintro ⟨time, known, before⟩
  have := timed.last time known
  simp only [decide_eq_true_eq] at before
  omega

/-- A new inventory comes with a deadline. -/
theorem Covered.notice {state : LocalChangeState} (covered : site.Covered state) {now : Nat}
    (timed : Timed now state) {observed : LocalChangeSnapshot}
    (seen : site.Observed observed state) :
    site.Covered (state.notice site.quietSeconds now observed).2 ∧
      Timed now (state.notice site.quietSeconds now observed).2 := by
  unfold LocalChangeState.notice
  split
  next => exact ⟨covered, timed⟩
  next =>
    have timed' : Timed now { state with snapshot := some observed } := ⟨timed.past, timed.last⟩
    unfold LocalChangeState.debounceNotify
    rw [timed'.advance]
    refine ⟨⟨covered.readable, fun time same => ?_, nofun, fun snapshot taken => ?_⟩,
      timed.past, fun time same => ?_⟩
    · cases same
      exact timed.past
    · cases taken
      obtain ⟨moment, past, shown⟩ := seen
      exact ⟨moment, past, shown, .inl rfl⟩
    · cases same
      exact le_rfl

/-- A deadline that is over leaves unsettled work. -/
theorem Covered.debounceTick {state : LocalChangeState} (covered : site.Covered state) {now : Nat}
    (timed : Timed now state) (scheduledAt : Int) :
    site.Covered (state.debounceTick site.key now scheduledAt).2 := by
  have advanced : site.Covered { state with lastTime := some now } := by
    refine ⟨covered.readable, fun time same => ?_, covered.unseen, covered.seen⟩
    cases same
    exact timed.past
  unfold LocalChangeState.debounceTick
  rw [timed.advance]
  dsimp only
  split
  · exact advanced
  · have unsettled := site.unsettled_scheduled covered.readable scheduledAt
    have readable := (WorkCall.perform_effect covered.readable
      (.scheduleRoutineWork .localSync site.key scheduledAt)).readable covered.readable
    refine ⟨readable, advanced.timely, fun _ => .inl unsettled, fun snapshot taken => ?_⟩
    obtain ⟨moment, earlier, observed, -⟩ := covered.seen snapshot taken
    exact ⟨moment, earlier, observed, .inr (.inl unsettled)⟩

theorem keeping_notify (now : Nat) :
    site.Keeping (site.notifySourceEvent now) (Timed now) fun _ => Timed now := by
  refine .bind _ (keeping_observe (Timed.lasting now)) fun observed => ?_
  refine keeping_action ((Timed.lasting now).and (Observed.lasting observed)) fun state covered known => ?_
  obtain ⟨left, timed⟩ := covered.notice known.1 known.2
  exact ⟨left, fun _ _ => timed⟩

/-- What a call reads of the clock is no later than the clock. -/
theorem keeping_clock :
    site.Keeping (look fun state => .ok state.clock) (fun _ => True) fun now => Timed now := by
  refine keeping_look .true fun state now covered _ same => ?_
  cases same
  exact ⟨le_rfl, covered.timely⟩

/-! ## Startup -/

/-- The first inventory: the content of its moment was captured, or work is unsettled. -/
def First (site : Installation) (observed : LocalChangeSnapshot)
    (state : LocalChangeState) : Prop :=
  ∃ moment ≤ state.moment,
    observeLocalChangeSource site.includePath (site.history moment) = .ok observed ∧
      (site.Unsettled state.store ∨
        state.synchronized = some (routedContent site.includePath (site.history moment)))

theorem First.lasting (observed : LocalChangeSnapshot) : site.Lasting (site.First observed) := by
  rintro before after ⟨moment, past, shown, why⟩ around
  refine ⟨moment, past.trans around.moment, shown, ?_⟩
  rw [around.store, around.synchronized]
  exact why

theorem bare_lasting : site.Lasting fun state => state.snapshot = none :=
  fun _ _ here around => around.snapshot.trans here

theorem keeping_build :
    site.Keeping site.buildService (fun state => state.snapshot = none) fun _ _ => True := by
  refine .bind site.First (keeping_look bare_lasting fun state observed covered none shown => ?_)
    fun observed => keeping_action (First.lasting observed) fun state covered known => ?_
  · rw [mapError_eq_ok] at shown
    exact ⟨state.moment, le_rfl, shown, covered.unseen none⟩
  · obtain ⟨moment, past, shown, why⟩ := known
    refine ⟨⟨covered.readable, nofun, nofun, fun snapshot taken => ?_⟩, fun _ _ => trivial⟩
    cases taken
    refine ⟨moment, past, shown, .inr ?_⟩
    obtain unsettled | same := why
    · exact .inl unsettled
    · exact .inr ⟨moment, le_rfl, past, same⟩

theorem keeping_start : site.Keeping site.start (fun _ => True) fun _ _ => True := by
  refine .bind _ keeping_clock fun now => ?_
  refine .bind (fun _ => Timed now) (keeping_action (Timed.lasting now) fun state covered timed => ?_)
    fun _ => ?_
  · exact ⟨⟨covered.readable, covered.timely, covered.unseen, covered.seen⟩,
      fun _ _ => ⟨timed.past, timed.last⟩⟩
  · exact .bind _ (keeping_notify now) fun _ => .pure fun _ _ => trivial

/-- The actions that leave the inventory alone. -/
abbrev LeavesInventory {α : Type} (p : Watching α) : Prop :=
  Every (fun state left : LocalChangeState => left.snapshot = state.snapshot) p

theorem leaves_readEntries (entries : List SourceFile) :
    LeavesInventory (site.readEntries entries) := by
  induction entries with
  | nil => exact .pure _
  | cons entry entries ih =>
    exact .bind (.action fun _ => rfl) fun _ => .bind ih fun _ => .pure _

theorem leaves_capture (outcome : PassOutcome) : LeavesInventory (site.capture outcome) := by
  refine .bind (.action fun _ => rfl) fun initial => .bind (leaves_readEntries initial) fun _ => ?_
  refine .action fun state => ?_
  split
  · rfl
  · split <;> rfl

theorem leaves_guard {α : Type} {condition : Prop} [Decidable condition] {failure : Failure}
    {rest : PUnit → Watching α} (passed : LeavesInventory (rest ⟨⟩)) :
    LeavesInventory (if condition then (throw failure : Watching PUnit) >>= rest else rest ⟨⟩) := by
  split
  · exact .bind (.throw _) fun _ => passed
  · exact passed

theorem leaves_synchronize (outcome : PassOutcome) :
    LeavesInventory (site.synchronizeLocalConfiguration outcome) := by
  refine .bind (.action fun _ => rfl) fun bound => leaves_guard ?_
  exact .bind (leaves_capture outcome) fun _ => .bind (.ofResult _) fun _ => .pure _

theorem leaves_giveUp (item : WorkItem) (transient : Bool) (now : Int) :
    LeavesInventory (Raising.action fun state => state.giveUp item transient now) :=
  .action fun _ => rfl

theorem leaves_complete (item : WorkItem) (files : List RoutedFile) (now : Int) :
    LeavesInventory (Raising.action fun state => state.complete item files now) := by
  refine .action fun state => ?_
  unfold LocalChangeState.complete
  dsimp only
  split <;> rfl

theorem leaves_execute (pass : LocalPass) (item : WorkItem) :
    LeavesInventory (site.executeClaimedLocalSyncWork pass item) := by
  unfold executeClaimedLocalSyncWork
  dsimp only
  refine leaves_guard (leaves_guard (.bind ?_ fun result => ?_))
  · exact .tryCatch (.bind (leaves_synchronize pass.outcome) fun _ => .pure _) fun _ => .pure _
  · cases result with
    | error failure => exact leaves_giveUp item _ _
    | ok result =>
      dsimp only
      split
      · exact leaves_complete item _ _
      · exact leaves_giveUp item _ _

theorem leaves_process (pass : LocalPass) : LeavesInventory (site.runLocalSyncProcess pass) := by
  refine .bind (.action fun _ => rfl) fun claimed => ?_
  cases claimed with
  | none => exact .pure _
  | some item =>
    dsimp only
    split
    · exact leaves_giveUp item _ _
    · exact leaves_execute pass item

/-! ## Runs -/

theorem keeping_scheduled (telling : site.Telling) (pass : LocalPass) (now : Nat)
    (scheduledAt : Int) :
    site.Keeping (do
      let scheduled ← Raising.action fun state => state.debounceTick site.key now scheduledAt
      match scheduled with
      | none => return ()
      | some _ =>
        let _ ← site.runLocalSyncProcess pass) (Timed now) fun _ _ => True := by
  refine .bind (fun _ _ => True) (keeping_action (Timed.lasting now) fun state covered timed =>
    ⟨covered.debounceTick timed scheduledAt, fun _ _ => trivial⟩) fun scheduled => ?_
  cases scheduled with
  | none => exact .pure fun _ _ => trivial
  | some _ => exact .bind _ (keeping_process telling pass) fun _ => .pure fun _ _ => trivial

theorem keeping_tick (telling : site.Telling) (pass : LocalPass) (scheduledAt : Int) :
    site.Keeping (site.tick pass scheduledAt) (fun _ => True) fun _ _ => True := by
  refine .bind _ keeping_clock fun now => ?_
  refine .bind (fun _ => Timed now) (keeping_action (Timed.lasting now) fun state covered timed => ?_)
    fun drained => ?_
  · exact ⟨⟨covered.readable, covered.timely, covered.unseen, covered.seen⟩,
      fun _ _ => ⟨timed.past, timed.last⟩⟩
  have rest := keeping_scheduled telling pass now scheduledAt
  dsimp only
  split
  · exact .bind _ (keeping_notify now) fun _ => rest
  · exact rest

variable (site) in
/-- The calls of the main loop. No other lane completes a local synchronization. -/
def Calls (p : Prog LocalChangeState (Except Failure Unit)) : Prop :=
  ∃ call : ServiceCall, (∀ work, call = .work work → site.Spares work) ∧
    p = (call.program site).run

theorem keeping_call (telling : site.Telling) (call : ServiceCall)
    (spares : ∀ work, call = .work work → site.Spares work) :
    site.Keeping (call.program site) (fun _ => True) fun _ _ => True := by
  cases call with
  | tick pass scheduledAt => exact keeping_tick telling pass scheduledAt
  | retrigger pass recoveredAt =>
    exact .bind _ (keeping_retrigger telling pass recoveredAt) fun _ => .pure fun _ _ => trivial
  | work call =>
    exact .bind _ (keeping_work (spares call rfl)) fun _ => .pure fun _ _ => trivial

theorem service_keeps (telling : site.Telling) :
    Prog.Keeps site.Others (fun _ left => site.Covered left) site.Covered site.Calls where
  refl _ := .refl
  trans _ _ _ := .trans
  others _ _ covered others := covered.around (Others.around others)
  actions _ _ _ covered := covered
  safe := by
    rintro p ⟨call, spares, rfl⟩ state covered
    exact (keeping_call telling call spares state covered trivial).mono fun _ _ _ => trivial

/-- A process that has just come up, with a work table that it can read. -/
structure Fresh (state : LocalChangeState) : Prop where
  readable : Readable state.store
  snapshot : state.snapshot = none
  lastTime : state.lastTime = none

/-- **The schedule of the startup is covered**, whatever was edited while nothing ran. -/
theorem keeping_boot (telling : site.Telling) (pass : LocalPass) (scheduledAt : Int)
    {boot : LocalChangeState} (fresh : Fresh boot) :
    Ensures site.Others (fun _ left => site.Covered left) (site.startup pass scheduledAt)
      (fun _ _ => True) boot := by
  refine Ensures.bind (Ensures.bind (Ensures.action fun reached others => ?_))
  have around := Others.around others
  have readable : Readable reached.store := around.store ▸ fresh.readable
  have bare : reached.snapshot = none := around.snapshot.trans fresh.snapshot
  have unsettled := site.unsettled_scheduled readable scheduledAt
  have covered : site.Covered
      (reached.work (.scheduleRoutineWork .localSync site.key scheduledAt)).2 := by
    refine ⟨(WorkCall.perform_effect readable (.scheduleRoutineWork .localSync site.key
      scheduledAt)).readable readable, fun time known => ?_, fun _ => .inl unsettled,
      fun snapshot taken => ?_⟩
    · cases (around.lastTime.trans fresh.lastTime).symm.trans known
    · cases bare.symm.trans taken
  refine ⟨covered, ?_⟩
  have first := (keeping_process telling pass).beside (fun state => state.snapshot = none)
    bare_lasting.lasts (fun _ _ same here => same.trans here) (leaves_process pass)
  have rest : site.Keeping (do
      site.buildService
      site.start) (fun state => state.snapshot = none) fun _ _ => True :=
    .bind _ keeping_build fun _ => keeping_start
  split
  next =>
    refine (first _ covered ⟨trivial, bare⟩).mono fun result left kept => ?_
    cases result with
    | ok item => exact (rest left kept.1 (kept.2 item rfl).2).mono fun _ _ _ => trivial
    | error failure => trivial
  next => trivial

end Installation

open Installation

/-- **No local change is lost**: from when the startup has scheduled its pass, over every run of the
startup and the main loop whose edits of routed content stay out of the unguarded stretch, a routed
content that no successful pass has captured is signalled. -/
theorem no_local_change_lost (site : Installation) (telling : site.Telling) (pass : LocalPass)
    (scheduledAt : Int) (boot : LocalChangeState) (fresh : Fresh boot)
    (point : Prog.Point LocalChangeState (Except Failure Unit))
    (reach : Prog.Reach site.Others site.Calls
      (.call ((site.startup pass scheduledAt).run.advance 1 boot).1
        ((site.startup pass scheduledAt).run.advance 1 boot).2) point) :
    site.Tracked point.state := by
  have begun := keeping_boot telling pass scheduledAt fresh boot .refl
  have kept : Prog.Kept site.Others (fun _ left => site.Covered left) site.Covered
      (.call ((site.startup pass scheduledAt).run.advance 1 boot).1
        ((site.startup pass scheduledAt).run.advance 1 boot).2) := by
    refine ⟨begun.1, fun p state same => ?_⟩
    cases same
    exact begun.2
  exact ((service_keeps telling).reach kept reach).inv.tracked telling

/-! ## An edit between the capture of the startup and the first inventory -/

/-- A directory of one file, which is longer and newer after each edit. -/
def automationsTree (edits : Nat) : SourceTree :=
  .node [(text "automations.yaml",
    .leaf (.file ⟨0o600, 1, List.replicate edits 35, ⟨1, 7, 0, edits⟩, true⟩))]

theorem walk_automationsTree (edits : Nat) : (automationsTree edits).walk =
    [([text "automations.yaml"],
      .file ⟨0o600, 1, List.replicate edits 35, ⟨1, 7, 0, edits⟩, true⟩)] := by
  unfold FileTree.walk automationsTree FileTree.visit FileTree.gather
  simp [FileTree.visitEntries, FileTree.visit]

theorem distinct_automationsTree (edits : Nat) : Distinct (automationsTree edits) := by
  refine .node (List.nodup_singleton _) fun name tree there => ?_
  cases List.mem_singleton.mp there
  exact .leaf _

def automationsAfter (edits : Nat) : Configuration where
  device := 1
  inode := 2
  tree := automationsTree edits
  distinct := distinct_automationsTree edits
  directory := ⟨_, rfl⟩
  legal path leaf held := by
    have met := (FileTree.mem_walk (distinct_automationsTree edits)).mpr held
    rw [walk_automationsTree] at met
    cases List.mem_singleton.mp met
    decide

/-- A configuration that is edited at each of its moments. -/
def editedSite : Installation where
  history := automationsAfter
  includePath := includeInMain none
  target := text "owner/repo"
  workKey := ⟨"2222222222222222222222222222222222222222222222222222222222222222", by decide⟩
  quietSeconds := 5

theorem scan_automationsAfter (edits : Nat) :
    scanRouted editedSite.includePath (automationsAfter edits) =
      .ok [⟨asPosix [text "automations.yaml"], 0o600, 1, edits, ⟨1, 7, 0, edits⟩⟩] := by
  have routed : includeInMain none (asPosix [text "automations.yaml"]) = true := by decide
  unfold scanRouted scanSource
  rw [show (automationsAfter edits).tree.walk = _ from walk_automationsTree edits]
  simp [scanLeaves, scanLeaf, editedSite, routed, bind, Except.bind, pure, Except.pure]

theorem telling_editedSite : editedSite.Telling := by
  intro first between last entries after before one two
  have here := (scan_automationsAfter first).symm.trans one
  have same := here.trans (two.symm.trans (scan_automationsAfter last))
  have file := (List.cons.inj (Except.ok.inj same)).1
  have alike : first = last := congrArg SourceFile.size file
  rw [show between = first by omega]

def bootState : LocalChangeState :=
  ⟨0, boundStore.withoutWork, 0, false, false, false, none, none, none, none, none⟩

theorem fresh_bootState : Fresh bootState :=
  ⟨⟨List.nodup_nil, fun _ wrong => absurd wrong List.not_mem_nil⟩, rfl, rfl⟩

def publishedPass : LocalPass := ⟨0, 0, .ok .published⟩

/-- The startup after some of its actions: the first schedules its pass, the seventh completes it,
and the ninth keeps the first inventory. -/
def startupAfter (actions : Nat) :
    Prog LocalChangeState (Except Failure Unit) × LocalChangeState :=
  (editedSite.startup publishedPass 0).run.advance actions bootState

def LocalChangeState.edited (state : LocalChangeState) : LocalChangeState :=
  { state with moment := state.moment + 1, undelivered := state.undelivered || state.watched }

theorem no_local_change_lost_edited :
    (startupAfter 13).2.edited.synchronized ≠
        some (editedSite.content (startupAfter 13).2.edited) ∧
      editedSite.Tracked (startupAfter 13).2.edited := by
  have inventory : (startupAfter 13).2.snapshot.isSome = true ∧
      (startupAfter 13).2.edited.synchronized ≠
        some (editedSite.content (startupAfter 13).2.edited) := by decide +kernel
  refine ⟨inventory.2, no_local_change_lost editedSite telling_editedSite publishedPass 0 bootState
    fresh_bootState (.call (startupAfter 13).1 (startupAfter 13).2.edited) ?_⟩
  refine (Prog.Reach.advance 12 _ _).tail (.others_call (.single ⟨.edit _, ?_⟩))
  rintro - ⟨missing, -⟩
  have taken := inventory.1
  rw [show (startupAfter 13).2.snapshot = none from missing] at taken
  cases taken

/-- What the startup leaves when the configuration is edited right after its pass. -/
def lostState : LocalChangeState := ((startupAfter 7).1.advance 6 (startupAfter 7).2.edited).2

theorem lostState_untracked : ¬editedSite.Tracked lostState := by
  have shown : lostState.synchronized ≠ some (editedSite.content lostState) ∧
      lostState.undelivered = false ∧ lostState.changed = false ∧
      lostState.deadline.isSome = false ∧
      (observeLocalChangeSource editedSite.includePath (editedSite.source lostState)).toOption =
        lostState.snapshot ∧
      (lostState.store.findWork .localSync editedSite.key).all (·.status = .succeeded) = true := by
    decide +kernel
  obtain ⟨differs, delivered, drained, quiet, same, settled⟩ := shown
  intro tracked
  obtain event | bit | waits | ⟨snapshot, taken, apart⟩ | ⟨row, found, going⟩ := tracked differs
  · cases event.symm.trans delivered
  · cases bit.symm.trans drained
  · cases waits.symm.trans quiet
  · rw [taken] at same
    cases observed :
      observeLocalChangeSource editedSite.includePath (editedSite.source lostState) with
    | error failure =>
      rw [observed] at same
      cases same
    | ok current =>
      rw [observed] at same
      cases same
      exact apart observed
  · rw [found] at settled
    exact going (by simpa using settled)

/-- **An edit right after the startup's pass is lost**: the inventory that is taken next already
shows it, so that no difference ever appears. -/
theorem startup_loses_a_change : ¬∀ (site : Installation), site.Telling →
    ∀ (pass : LocalPass) (scheduledAt : Int) (boot : LocalChangeState), Fresh boot →
      ∀ point, Prog.Reach (Relation.ReflTransGen Happens) site.Calls
        (.call ((site.startup pass scheduledAt).run.advance 1 boot).1
          ((site.startup pass scheduledAt).run.advance 1 boot).2) point →
        site.Tracked point.state := by
  intro law
  have edited : Prog.Reach (Relation.ReflTransGen Happens) editedSite.Calls
      (.call (startupAfter 1).1 (startupAfter 1).2)
      (.call (startupAfter 7).1 (startupAfter 7).2.edited) :=
    (Prog.Reach.advance 6 _ _).tail (.others_call (.single (.edit _)))
  exact lostState_untracked (law editedSite telling_editedSite publishedPass 0 bootState
    fresh_bootState _ (edited.trans (Prog.Reach.advance 6 _ _)))

end SyncApp.LocalChange
