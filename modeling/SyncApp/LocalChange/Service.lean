import SyncApp.LocalChange.Source
import SyncApp.Pipeline.WorkTable

/-!
# The local change service

At startup one local synchronization runs, and after it the change service is built and started:
the bridge takes its first inventory, the watch is set up, and the source is observed once more.
From then on each tick drains the mailbox, observes the source if an event came, and schedules and
processes a synchronization once the source has been quiet for a while.

The configuration goes through the moments of a history; every look at it reads the present one.
Editing it, delivering an event of the watch and the passing of time are what happens around the
service (`Happens`). What a pass comes to after its capture, with its publication and with what
it finds there, is given with the call (`LocalPass`).

`synchronized` is the content that the last successful pass captured, and `captured` is what the
pass will come to whose capture is complete; the code keeps neither. The worker's own failures and
the shutdown are left out. Times are natural numbers.
-/

set_option autoImplicit false

namespace SyncApp.LocalChange

open Lib Raising

/-- What the part of a pass that follows its capture comes to. -/
abbrev PassOutcome := Except Failure LocalSyncDisposition

structure LocalChangeState where
  moment : Nat
  store : Store
  /-- `time.monotonic()`. -/
  clock : Nat
  watched : Bool
  /-- The watch has an event that is not delivered. -/
  undelivered : Bool
  /-- The bit of the mailbox. -/
  changed : Bool
  /-- The inventory of the bridge, from when there is one. -/
  snapshot : Option LocalChangeSnapshot
  lastTime : Option Nat
  deadline : Option Nat
  captured : Option PassOutcome
  synchronized : Option (List RoutedFile)

/-- The moments that the configuration goes through, and what the service is made with. The work
key is the hash of the target and the branch. -/
structure Installation where
  history : Nat → Configuration
  includePath : PyStr → Bool
  target : PyStr
  workKey : Digest
  quietSeconds : Nat

/-- What one pass is given from outside: the times it reads, and what follows its capture. -/
structure LocalPass where
  claimedAt : Int
  settledAt : Int
  outcome : PassOutcome

abbrev Watching := Raising Failure LocalChangeState

namespace LocalChangeState

variable (state : LocalChangeState)

/-- `LocalChangeDebouncer._advance_time`. -/
def advanceTime (now : Nat) : Except Failure LocalChangeState :=
  if state.lastTime.any (now < ·) then
    .error (sourceFailure "local change monotonic time moved backwards")
  else .ok { state with lastTime := some now }

/-- `LocalChangeDebouncer.notify`. -/
def debounceNotify (quietSeconds now : Nat) : Except Failure Unit × LocalChangeState :=
  match state.advanceTime now with
  | .error failure => (.error failure, state)
  | .ok state => (.ok (), { state with deadline := some (now + quietSeconds) })

/-- What `notify_source_event` makes of an observation. -/
def notice (quietSeconds now : Nat) (observed : LocalChangeSnapshot) :
    Except Failure Bool × LocalChangeState :=
  if state.snapshot = some observed then (.ok false, state)
  else
    let notified := debounceNotify { state with snapshot := some observed } quietSeconds now
    (notified.1.map fun _ => true, notified.2)

/-- A call of the work table. -/
def work (call : WorkCall) : Except Failure (Option WorkItem) × LocalChangeState :=
  ((call.perform state.store).1, { state with store := (call.perform state.store).2 })

/-- `LocalChangeDebouncer.tick`. -/
def debounceTick (workKey : PyStr) (now : Nat) (scheduledAt : Int) :
    Except Failure (Option WorkItem) × LocalChangeState :=
  match state.advanceTime now with
  | .error failure => (.error failure, state)
  | .ok state =>
    if state.deadline.all (now < ·) then (.ok none, state)
    else
      let scheduled := work { state with deadline := none }
        (.scheduleRoutineWork .localSync workKey scheduledAt)
      (scheduled.1.mapError fun _ => sourceFailure "local change scheduling failed closed",
        scheduled.2)

/-- The claim of a pass is given up. -/
def giveUp (item : WorkItem) (transient : Bool) (now : Int) :
    Except Failure (Option WorkItem) × LocalChangeState :=
  let failed := state.work (.failWork item transient now)
  (failed.1, { failed.2 with captured := none })

/-- A pass has succeeded with what it captured. -/
def complete (item : WorkItem) (files : List RoutedFile) (now : Int) :
    Except Failure (Option WorkItem) × LocalChangeState :=
  let completed := state.work (.completeWork item now)
  match completed.1 with
  | .error failure => (.error failure, { completed.2 with captured := none })
  | .ok row => (.ok row, { completed.2 with captured := none, synchronized := some files })

end LocalChangeState

/-- One look at the state. -/
def look {α : Type} (read : LocalChangeState → Except Failure α) : Watching α :=
  Raising.action fun state => (read state, state)

def workCall (call : WorkCall) : Watching (Option WorkItem) :=
  Raising.action fun state => state.work call

/-- A failure of the snapshot, as the synchronization reports it. -/
def captureFailure (_ : SnapshotError) : Failure :=
  localSyncError "local synchronization failed closed"

namespace Installation

variable (site : Installation)

def key : PyStr := text site.workKey.hex

/-- The configuration as it is now. -/
def source (state : LocalChangeState) : Configuration := site.history state.moment

/-- `LocalChangeBridge._observe`. -/
def observe : Watching LocalChangeSnapshot :=
  look fun state =>
    (observeLocalChangeSource site.includePath (site.source state)).mapError fun _ =>
      sourceFailure "local change observation failed closed"

/-- `LocalChangeBridge.notify_source_event`. -/
def notifySourceEvent (now : Nat) : Watching Bool := do
  let observed ← site.observe
  Raising.action fun state => state.notice site.quietSeconds now observed

/-! ## One pass -/

/-- The copies of a capture, one file after another. -/
def readEntries : List SourceFile → Watching (List RoutedFile)
  | [] => pure []
  | entry :: entries => do
    let file ← look fun state => (readRouted (site.source state) entry).mapError captureFailure
    let files ← readEntries entries
    return file :: files

/-- `capture_snapshot`, of the moments at which it reads. -/
def capture (outcome : PassOutcome) : Watching (List RoutedFile) := do
  let initial ← look fun state =>
    (scanRouted site.includePath (site.source state)).mapError captureFailure
  let files ← site.readEntries initial
  Raising.action fun state =>
    match scanRouted site.includePath (site.source state) with
    | .error failure => (.error (captureFailure failure), state)
    | .ok final =>
      if initial ≠ final then
        (.error (captureFailure
          (.snapshot "source tree changed while snapshot was being captured")), state)
      else (.ok files, { state with captured := some outcome })

/-- `synchronize_local_configuration`, with what it captured. -/
def synchronizeLocalConfiguration (outcome : PassOutcome) :
    Watching (LocalSyncDisposition × List RoutedFile) := do
  let bound ← look fun state => .ok (state.store.repositoryId site.target)
  if bound.isNone then throw (localSyncError "local synchronization repository is not pinned")
  let files ← site.capture outcome
  let disposition ← ofResult outcome
  return (disposition, files)

/-- `execute_claimed_local_sync_work`. -/
def executeClaimedLocalSyncWork (pass : LocalPass) (item : WorkItem) :
    Watching (Option WorkItem) := do
  if item.workKind ≠ .localSync ∨ item.status ≠ .running ∨ item.attempts < 1 then
    throw ⟨"local synchronization work is not an eligible claimed item", false⟩
  if item.workKey ≠ site.key then
    throw ⟨"local synchronization work identity does not match the target", false⟩
  let synchronization ← tryCatch
    (do return .ok (← site.synchronizeLocalConfiguration pass.outcome))
    fun failure => pure (.error failure : Except Failure (LocalSyncDisposition × List RoutedFile))
  match synchronization with
  | .error failure =>
    Raising.action fun state => state.giveUp item failure.transient pass.settledAt
  | .ok (disposition, files) =>
    if disposition.succeeds then
      Raising.action fun state => state.complete item files pass.settledAt
    else Raising.action fun state => state.giveUp item false pass.settledAt

/-- `run_local_sync_process`. -/
def runLocalSyncProcess (pass : LocalPass) : Watching (Option WorkItem) := do
  let claimed ← workCall (.claimWorkKind .localSync pass.claimedAt)
  match claimed with
  | none => return none
  | some item =>
    if item.workKey ≠ site.key then
      Raising.action fun state => state.giveUp item false pass.settledAt
    else site.executeClaimedLocalSyncWork pass item

/-- `run_local_sync_retrigger_pass`. -/
def runLocalSyncRetriggerPass (pass : LocalPass) (recoveredAt : Int) :
    Watching (Option WorkItem) := do
  let _ ← workCall (.recoverInterruptedWork recoveredAt)
  let claimed ← workCall (.claimWorkKind .localSync pass.claimedAt)
  match claimed with
  | none => return none
  | some item => site.executeClaimedLocalSyncWork pass item

/-! ## Startup and ticks -/

/-- `run_startup_local_sync`. -/
def runStartupLocalSync (pass : LocalPass) (scheduledAt : Int) : Watching (Option WorkItem) := do
  let _ ← workCall (.scheduleRoutineWork .localSync site.key scheduledAt)
  site.runLocalSyncProcess pass

/-- `LocalChangeService.__init__`: a new mailbox, a new debouncer and the first inventory. -/
def buildService : Watching Unit := do
  let observed ← site.observe
  Raising.action fun state =>
    (.ok (), { state with
      changed := false, lastTime := none, deadline := none, snapshot := some observed })

/-- `LocalChangeService.start`: the worker returns when its watch is set up. -/
def start : Watching Unit := do
  let now ← look fun state => .ok state.clock
  Raising.action fun state => (.ok (), { state with watched := true })
  let _ ← site.notifySourceEvent now

/-- What the process does before its main loop. -/
def startup (pass : LocalPass) (scheduledAt : Int) : Watching Unit := do
  let _ ← site.runStartupLocalSync pass scheduledAt
  site.buildService
  site.start

/-- `LocalChangeService.tick`. -/
def tick (pass : LocalPass) (scheduledAt : Int) : Watching Unit := do
  let now ← look fun state => .ok state.clock
  let drained ← Raising.action fun state => (.ok state.changed, { state with changed := false })
  if drained then
    let _ ← site.notifySourceEvent now
  let scheduled ← Raising.action fun state => state.debounceTick site.key now scheduledAt
  match scheduled with
  | none => return ()
  | some _ =>
    let _ ← site.runLocalSyncProcess pass

/-- What the main loop calls: the service's tick, a retrigger pass, and the calls of all other lanes
on the work table. -/
inductive ServiceCall where
  | tick (pass : LocalPass) (scheduledAt : Int)
  | retrigger (pass : LocalPass) (recoveredAt : Int)
  | work (call : WorkCall)

def ServiceCall.program : ServiceCall → Watching Unit
  | tick pass scheduledAt => site.tick pass scheduledAt
  | retrigger pass recoveredAt => do let _ ← site.runLocalSyncRetriggerPass pass recoveredAt
  | work call => do let _ ← workCall call

/-! ## What happens around the service -/

inductive Happens : LocalChangeState → LocalChangeState → Prop where
  /-- The configuration is edited, and the watch notices it if there is one. -/
  | edit (state : LocalChangeState) : Happens state
    { state with moment := state.moment + 1, undelivered := state.undelivered || state.watched }
  /-- The watch has something to report that is no edit. -/
  | stir (state : LocalChangeState) (watched : state.watched = true) :
    Happens state { state with undelivered := true }
  | deliver (state : LocalChangeState) (pending : state.undelivered = true) :
    Happens state { state with undelivered := false, changed := true }
  | wait (state : LocalChangeState) (seconds : Nat) :
    Happens state { state with clock := state.clock + seconds }

/-- The content that is routed to `main` now. -/
def content (state : LocalChangeState) : List RoutedFile :=
  routedContent site.includePath (site.source state)

/-- The local synchronization work is there and has not succeeded. -/
def Unsettled (store : Store) : Prop :=
  ∃ row, store.findWork .localSync site.key = some row ∧ row.status ≠ .succeeded

/-- Something will make a later pass capture the source. -/
def Signalled (state : LocalChangeState) : Prop :=
  state.undelivered = true ∨ state.changed = true ∨ state.deadline.isSome ∨
    (∃ snapshot, state.snapshot = some snapshot ∧
      observeLocalChangeSource site.includePath (site.source state) ≠ .ok snapshot) ∨
    site.Unsettled state.store

/-- What was captured last is what is there, or something signals the difference. -/
def Tracked (state : LocalChangeState) : Prop :=
  state.synchronized ≠ some (site.content state) → site.Signalled state

/-- No inventory is taken yet, and the startup's pass has captured and will succeed, or is over. -/
def Unguarded (state : LocalChangeState) : Prop :=
  state.snapshot = none ∧
    ((∃ disposition, state.captured = some (.ok disposition) ∧ disposition.succeeds = true) ∨
      ¬site.Unsettled state.store)

/-- Something happens, and if it edits the routed content, then not in the unguarded stretch. -/
def Disturbs (before after : LocalChangeState) : Prop :=
  Happens before after ∧ (site.content after ≠ site.content before → ¬site.Unguarded before)

/-- Each edit changes the observed metadata: what a scan shows does not come back, unless the routed
content has been the same all along. -/
def Telling : Prop :=
  ∀ first between last entries, first ≤ between → between ≤ last →
    scanRouted site.includePath (site.history first) = .ok entries →
    scanRouted site.includePath (site.history last) = .ok entries →
    routedContent site.includePath (site.history between) =
      routedContent site.includePath (site.history first)

end Installation

end SyncApp.LocalChange
