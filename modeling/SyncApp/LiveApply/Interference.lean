import SyncApp.LiveApply.Others
import SyncApp.LiveApply.WriteAhead

/-!
# No update of others is lost

Each function of the replace path and of the delete path, among others that spare what the writer
has displaced: from which phase it starts and in which it ends. An operation then ends verified,
having taken its baseline alone, or fails with what others left at the target
(`no_external_update_lost`). Others that do not wait for the exchange to be reversed lose what they
save meanwhile (`external_update_lost`).
-/

set_option autoImplicit false

namespace SyncApp

open Lib Raising Sys AtomicLeaf LiveApplyWriter

namespace Interference

open FileSystem (View)

/-! ### The exchange -/

section Exchange

variable {dir : Nat} {leaf hidden : PyStr} {proved : View → Bool} {watched before : Watched}
  {taken put : Option (Nat × View)} {own ino : Nat} {content view : View}
  {live : FileSystem PyStr} {hashing : Hashing} {objectId : ObjectId} {mode : GitMode}

theorem Prepared.exchanged (apart : hidden ≠ leaf) (quiet : before.host.fault = none)
    (prepared : Prepared dir leaf hidden taken own content before)
    (called : before.host.live.exchange dir hidden leaf = .ok live) :
    ∃ ino view, Displaced dir leaf hidden proved (some (own, content)) ino view
      (before.called dir leaf { before.host with live := live }) := by
  have sane := prepared.untouched.sane
  obtain ⟨own', ino, bound, target, sane', outcome⟩ := FileSystem.exchange_eq_ok sane called
  cases prepared.hidden.symm.trans bound
  obtain ⟨view, stands⟩ := FileSystem.exists_standing sane target
  have moved : ino ≠ own := fun same => prepared.apart (same ▸ target)
  have found : before.found dir leaf = some (ino, view) :=
    FileSystem.found_eq_some.mpr ⟨target, stands⟩
  have hidden' : live.entries dir hidden = some ino := by
    rw [outcome.entries, FileSystem.rebind_name apart, FileSystem.rebind_self]
  have target' : live.entries dir leaf = some own := by
    rw [outcome.entries, FileSystem.rebind_self]
  have placed : live.found dir leaf = some (own, content) :=
    FileSystem.found_eq_some.mpr ⟨target', (outcome.standing own).trans prepared.stands⟩
  refine ⟨ino, view, sane', quiet, hidden', ?_, (outcome.standing ino).trans stands, ?_, .inr placed,
    fun matched other other_view left => ?_, fun _ => ⟨prepared.untouched.left.trans found, placed⟩⟩
  · exact fun same => moved (Option.some.inj (target'.symm.trans same)).symm
  · refine (if_neg fun same => moved ?_).trans found
    exact (Option.some.inj (target'.symm.trans (same.trans target))).symm
  · cases (prepared.untouched.left.trans found).symm.trans left
    exact .inl matched

theorem Displaced.exchanged_back
    (displaced : Displaced dir leaf hidden proved (some (own, content)) ino view before)
    (mismatched : proved view = false)
    (called : before.host.live.exchange dir hidden leaf = .ok live) :
    ∃ taken, Untouched dir leaf taken (before.called dir leaf { before.host with live := live }) := by
  obtain ⟨ino', other, bound, target, sane', outcome⟩ :=
    FileSystem.exchange_eq_ok displaced.sane called
  cases displaced.hidden.symm.trans bound
  refine ⟨_, sane', (displaced.waits mismatched).1.trans (Eq.symm ?_), rfl⟩
  refine FileSystem.found_eq_some.mpr ⟨?_, (outcome.standing ino).trans displaced.stands⟩
  show live.entries dir leaf = some ino
  rw [outcome.entries, FileSystem.rebind_self]

/-- The file that waits to be exchanged back can be. -/
theorem Displaced.exchanges
    (displaced : Displaced dir leaf hidden proved (some (own, content)) ino view before)
    (mismatched : proved view = false) (errno : Errno) :
    before.host.live.exchange dir hidden leaf ≠ .error errno := by
  intro failed
  obtain ⟨target, -⟩ := FileSystem.found_eq_some.mp (displaced.waits mismatched).2
  unfold FileSystem.exchange at failed
  rw [displaced.hidden, target] at failed
  cases failed

/-- The file is the baseline that was proved. -/
def provedBaseline (hashing : Hashing) (objectId : ObjectId) (mode : GitMode) : View → Bool
  | .file bits bytes => gitMode bits = mode ∧ gitBlobObjectId hashing bytes objectId = objectId
  | _ => false

theorem Displaced.node (displaced : Displaced dir leaf hidden proved put ino view before) :
    ∃ node, before.host.live.node ino = some node ∧ FileSystem.Node.view node = view :=
  Option.map_eq_some_iff.mp displaced.stands

/-- The displaced file is opened, unless it is a link. -/
theorem under_openDisplaced (clean : hidden.contains 0 = false)
    (displaced : Displaced dir leaf hidden proved put ino view watched) :
    Under dir leaf hidden proved (openAt dir hidden)
      (fun fd after => fd = ino ∧ Displaced dir leaf hidden proved put ino view after)
      (fun error after => (∃ errno, error.kind = .osError errno) ∧ view = .symlink ∧
        Displaced dir leaf hidden proved put ino view after) watched := by
  refine .bind (.named (fun _ => ?_) fun unclean => absurd clean unclean)
  have opens {after : Watched} (held : Displaced dir leaf hidden proved put ino view after) :
      after.host.live.openRead dir hidden = .ok ino ∨
        view = .symlink ∧ after.host.live.openRead dir hidden = .error .loop := by
    obtain ⟨node, at_node, rfl⟩ := held.node
    have at_name := FileSystem.lookup_eq_some.mpr ⟨held.hidden, at_node⟩
    unfold FileSystem.openRead
    rw [at_name]
    cases node with
    | symlink => exact .inr ⟨rfl, rfl⟩
    | file => exact .inl rfl
    | directory => exact .inl rfl
    | special => exact .inl rfl
  refine .ask phase_displaced displaced (fun after fd held _ opened => ⟨?_, held⟩)
    fun after errno held failed => ⟨⟨errno, rfl⟩, ?_, held⟩
  · rcases opens held with opened' | ⟨-, failed⟩
    · cases opened.symm.trans opened'
      rfl
    · cases opened.symm.trans failed
  · rcases opens held with opened | ⟨link, -⟩
    · cases (failed held.quiet).symm.trans opened
    · exact link

theorem under_fstatDisplaced
    (displaced : Displaced dir leaf hidden proved put ino view watched) :
    Under dir leaf hidden proved (fstat ino)
      (fun node after => FileSystem.Node.view node = view ∧
        Displaced dir leaf hidden proved put ino view after) (fun _ _ => False) watched := by
  refine .ask phase_displaced displaced (fun after node held _ stat => ⟨?_, held⟩)
    fun after errno held failed => ?_
  · obtain ⟨node', at_node, rfl⟩ := held.node
    simp only [at_node] at stat
    cases stat
    rfl
  · obtain ⟨node, at_node, -⟩ := held.node
    have stat := failed held.quiet
    simp only [at_node] at stat
    cases stat

theorem under_readDisplaced {bits : Nat} {bytes : List UInt8}
    (displaced : Displaced dir leaf hidden proved put ino (.file bits bytes) watched) :
    Under dir leaf hidden proved (readAll ino)
      (fun data after => data = bytes ∧
        Displaced dir leaf hidden proved put ino (.file bits bytes) after) (fun _ _ => False)
      watched := by
  refine .ask phase_displaced displaced (fun after data held _ read => ⟨?_, held⟩)
    fun after errno held failed => ?_
  · simp only [FileSystem.standing_eq_file.mp held.stands] at read
    cases read
    rfl
  · have read := failed held.quiet
    simp only [FileSystem.standing_eq_file.mp held.stands] at read
    cases read

theorem under_verifyDisplacedLeaf (safe : safeLeaf hidden = true)
    (reads : proved = provedBaseline hashing objectId mode)
    (displaced : Displaced dir leaf hidden proved put ino view watched) :
    Under dir leaf hidden proved (verifyDisplacedLeaf hashing dir hidden objectId mode)
      (fun matched after => matched = proved view ∧
        Displaced dir leaf hidden proved put ino view after) (fun _ _ => False) watched := by
  have clean : hidden.contains 0 = false := by
    unfold safeLeaf at safe
    simpa using (Bool.and_eq_true_iff.mp safe).2
  unfold verifyDisplacedLeaf
  rw [safe]
  refine .onOsError (.bind ((under_openDisplaced clean displaced).mono ?_ ?_))
  · rintro _ after ⟨rfl, held⟩
    refine .bind ((under_fstatDisplaced held).mono ?_ fun _ _ => False.elim)
    rintro node after ⟨shows, held⟩
    subst shows
    cases node with
    | file bits bytes =>
      refine .bind ((under_readDisplaced held).mono ?_ fun _ _ => False.elim)
      rintro _ after ⟨rfl, held⟩
      exact .pure ⟨by rw [reads]; rfl, held⟩
    | directory => exact .pure ⟨by rw [reads]; rfl, held⟩
    | symlink => exact .pure ⟨by rw [reads]; rfl, held⟩
    | special => exact .pure ⟨by rw [reads]; rfl, held⟩
  · -- what cannot be opened is no file
    rintro error after ⟨⟨errno, kind⟩, rfl, held⟩
    exact ⟨fun _ _ => .pure ⟨by rw [reads]; rfl, held⟩, fun other => absurd kind (other errno)⟩

end Exchange

/-! ### The replace path -/

section Replace

variable {dir : Nat} {leaf hidden : PyStr} {proved : View → Bool} {watched before : Watched}
  {taken put : Option (Nat × View)} {own ino : Nat} {content view : View}
  {live : FileSystem PyStr} {hashing : Hashing} {objectId : ObjectId} {mode : GitMode}

theorem under_exchangeLeaf (apart : hidden ≠ leaf)
    (prepared : Prepared dir leaf hidden taken own content watched) :
    Under dir leaf hidden proved (exchangeLeaf dir hidden leaf)
      (fun _ after => (safeLeaf hidden = true ∧ safeLeaf leaf = true ∧ hidden ≠ leaf) ∧
        ∃ ino view, Displaced dir leaf hidden proved (some (own, content)) ino view after)
      (fun _ => Rests dir leaf proved) watched := by
  refine .bind (.require (fun names => ?_) fun _ => prepared.rests)
  refine .onOsError (.change phase_prepared prepared (fun before _ live held quiet called => ?_)
    fun after errno held _ => ⟨fun errno _ => ?_, fun _ => held.rests⟩)
  · obtain ⟨ino, view, displaced⟩ := held.exchanged apart quiet (ok_of_map called)
    exact ⟨displaced.survives, names, ino, view, displaced⟩
  · split
    · exact .throw held.rests
    · exact .throw held.rests

theorem under_exchange_back
    (displaced : Displaced dir leaf hidden proved (some (own, content)) ino view watched)
    (mismatched : proved view = false) (safe : safeLeaf hidden = true ∧ safeLeaf leaf = true ∧
      hidden ≠ leaf) :
    Under dir leaf hidden proved (exchangeLeaf dir hidden leaf)
      (fun _ after => ∃ taken, Untouched dir leaf taken after) (fun _ _ => False) watched := by
  refine .bind (.require (fun _ => ?_) fun wrong => wrong safe)
  refine .onOsError (.change phase_displaced displaced (fun before _ live held quiet called => ?_)
    fun after errno held failed => absurd (failed held.quiet) ?_)
  · obtain ⟨taken, untouched⟩ := held.exchanged_back mismatched (ok_of_map called)
    exact ⟨untouched.survives, taken, untouched⟩
  · intro failed
    cases exchanged : after.host.live.exchange dir hidden leaf with
    | ok fs => rw [exchanged] at failed; cases failed
    | error errno' => exact held.exchanges mismatched errno' exchanged

theorem under_exchangeVerifiedBaseline (apart : hidden ≠ leaf)
    (reads : proved = provedBaseline hashing objectId mode)
    (prepared : Prepared dir leaf hidden taken own content watched) :
    Under dir leaf hidden proved (exchangeVerifiedBaseline hashing dir hidden leaf objectId mode)
      (fun _ after => ∃ ino view, proved view = true ∧
        Displaced dir leaf hidden proved (some (own, content)) ino view after)
      (fun _ => Rests dir leaf proved) watched := by
  refine .bind ((under_exchangeLeaf apart prepared).mono ?_ fun _ _ rests => rests)
  rintro _ after ⟨names, ino, view, displaced⟩
  refine .bind ((under_verifyDisplacedLeaf names.1 reads displaced).mono ?_ fun _ _ => False.elim)
  rintro matched after ⟨same, displaced⟩
  cases matched with
  | true => exact .pure ⟨ino, view, same.symm, displaced⟩
  | false =>
    refine .bind (.tryCatch ((under_exchange_back displaced same.symm names).mono ?_
      fun _ _ => False.elim))
    rintro _ after ⟨taken, untouched⟩
    exact .throw ⟨none, taken, untouched.settled⟩

theorem under_commitVerifiedModifiedLeaf (apart : hidden ≠ leaf)
    (reads : proved = provedBaseline hashing objectId mode)
    (prepared : Prepared dir leaf hidden taken own content watched) :
    Under dir leaf hidden proved (commitVerifiedModifiedLeaf hashing dir hidden leaf objectId mode)
      (fun _ after => ∃ ino view, proved view = true ∧
        Settled dir leaf proved (some (own, content)) (some (ino, view)) after)
      (fun _ => Rests dir leaf proved) watched := by
  refine .bind ((under_exchangeVerifiedBaseline apart reads prepared).mono ?_ fun _ _ rests => rests)
  rintro _ after ⟨ino, view, matched, displaced⟩
  refine .bind ((under_unlinkAt apart (displaced.settled matched)).mono
    (fun _ after settled => ?_) fun _ _ settled => ⟨_, _, settled⟩)
  exact (Under.fsync phase_settled settled).mono (fun _ _ settled => ⟨ino, view, matched, settled⟩)
    fun _ _ settled => ⟨_, _, settled⟩

/-! ### The prepared file -/

theorem Untouched.created (apart : hidden ≠ leaf) (untouched : Untouched dir leaf taken before)
    {bits : Nat} (called : before.host.live.createExclusive dir hidden bits = .ok (own, live)) :
    Prepared dir leaf hidden taken own (.file bits [])
      (before.called dir leaf { before.host with live := live }) := by
  have sane := untouched.sane
  obtain ⟨rfl, free, sane', outcome⟩ := FileSystem.createExclusive_eq_ok sane called
  have unused : before.host.live.entries dir leaf ≠ some before.host.live.next := by
    intro bound
    have used := sane.bound dir leaf _ bound
    rw [sane.fresh _ (Nat.le_refl _)] at used
    cases used
  have entries : live.entries dir leaf = before.host.live.entries dir leaf := by
    rw [outcome.entries, FileSystem.rebind_name apart.symm]
  refine ⟨untouched.aside sane' entries fun ino bound => ?_, ?_, ?_, ?_⟩
  · exact outcome.standing_of_ne fun same => unused (same ▸ bound)
  · show live.entries dir hidden = some before.host.live.next
    rw [outcome.entries, FileSystem.rebind_self]
  · exact fun bound => unused (entries.symm.trans bound)
  · exact FileSystem.standing_file
      ((congrFun outcome.leaf _).trans (Function.update_self _ _ _))

theorem Prepared.rewritten {bits : Nat} {bytes : List UInt8}
    (prepared : Prepared dir leaf hidden taken own content before)
    (sane : live.Sane)
    (outcome : before.host.live.Outcome live before.host.live.entries
      (Function.update before.host.live.leaf own (some (.file bits bytes))) before.host.live.next) :
    Prepared dir leaf hidden taken own (.file bits bytes)
      (before.called dir leaf { before.host with live := live }) := by
  have entries (name : PyStr) : live.entries dir name = before.host.live.entries dir name := by
    rw [outcome.entries]
  refine ⟨prepared.untouched.aside sane (entries leaf) fun ino bound => ?_,
    (entries hidden).trans prepared.hidden, fun bound => ?_, ?_⟩
  · exact outcome.standing_of_ne fun same => prepared.apart (same ▸ bound)
  · exact prepared.apart ((entries leaf).symm.trans bound)
  · exact FileSystem.standing_file
      ((congrFun outcome.leaf _).trans (Function.update_self _ _ _))

theorem under_writeAll {bits : Nat} {held bytes : List UInt8}
    (prepared : Prepared dir leaf hidden taken own (.file bits held) watched) :
    Under dir leaf hidden proved (writeAll own bytes)
      (fun _ => Prepared dir leaf hidden taken own (.file bits bytes))
      (fun _ => Rests dir leaf proved) watched := by
  refine .change phase_prepared prepared (fun before _ live here _ called => ?_)
    fun _ _ here _ => here.rests
  have file := FileSystem.standing_eq_file.mp here.stands
  obtain ⟨_, written, outcome⟩ := @FileSystem.writeBytes_ok _ _ _ _ bytes _ file
  cases (ok_of_map called).symm.trans written
  have rewritten := here.rewritten (FileSystem.sane_of_rewritten here.untouched.sane
    (by rw [file]; exact Option.some_ne_none _) outcome) outcome
  exact ⟨rewritten.untouched.survives, rewritten⟩

theorem under_fchmod {bits wanted : Nat} {bytes : List UInt8}
    (prepared : Prepared dir leaf hidden taken own (.file bits bytes) watched) :
    Under dir leaf hidden proved (fchmod own wanted)
      (fun _ => Prepared dir leaf hidden taken own (.file wanted bytes))
      (fun _ => Rests dir leaf proved) watched := by
  refine .change phase_prepared prepared (fun before _ live here _ called => ?_)
    fun _ _ here _ => here.rests
  have file := FileSystem.standing_eq_file.mp here.stands
  obtain ⟨_, changed, outcome⟩ := @FileSystem.chmod_ok _ _ _ wanted _ _ file
  cases (ok_of_map called).symm.trans changed
  have rewritten := here.rewritten (FileSystem.sane_of_rewritten here.untouched.sane
    (by rw [file]; exact Option.some_ne_none _) outcome) outcome
  exact ⟨rewritten.untouched.survives, rewritten⟩

theorem Prepared.linked
    (prepared : Prepared dir leaf hidden none own content before)
    (called : before.host.live.link dir hidden leaf = .ok live) :
    Settled dir leaf proved (some (own, content)) none
      (before.called dir leaf { before.host with live := live }) := by
  have sane := prepared.untouched.sane
  obtain ⟨own', bound, free, sane', outcome⟩ := FileSystem.link_eq_ok sane called
  cases prepared.hidden.symm.trans bound
  have absent : before.found dir leaf = none := by
    unfold Watched.found FileSystem.found
    rw [free]
    rfl
  have target : live.entries dir leaf = some own := by
    rw [outcome.entries, FileSystem.rebind_self]
  refine ⟨sane', fun ino view left => ?_, .inr ?_, (if_neg fun same => ?_).trans absent⟩
  · cases (prepared.untouched.left.trans absent).symm.trans left
  · exact FileSystem.found_eq_some.mpr ⟨target, (outcome.standing own).trans prepared.stands⟩
  · cases (target.symm.trans (same.trans free))

theorem under_linkAt
    (prepared : Prepared dir leaf hidden none own content watched) :
    Under dir leaf hidden proved (linkAt dir hidden leaf)
      (fun _ => Settled dir leaf proved (some (own, content)) none)
      (fun _ => Rests dir leaf proved) watched := by
  refine .bind (.named (fun _ => ?_) fun _ _ => prepared.rests)
  refine .bind (.named (fun _ => ?_) fun _ _ => prepared.rests)
  refine .change phase_prepared prepared (fun before _ live here _ called => ?_)
    fun _ _ here _ => here.rests
  have settled : Settled dir leaf proved (some (own, content)) none _ :=
    here.linked (ok_of_map called)
  exact ⟨settled.stands.survives, settled⟩

end Replace

/-! ### The delete path -/

section Delete

variable {dir : Nat} {leaf hidden : PyStr} {proved : View → Bool} {watched before : Watched}
  {taken put : Option (Nat × View)} {ino : Nat} {view : View} {live : FileSystem PyStr}
  {hashing : Hashing} {objectId : ObjectId} {mode : GitMode} {name : PyStr}

theorem Untouched.renamed (apart : hidden ≠ leaf) (quiet : before.host.fault = none)
    (untouched : Untouched dir leaf taken before)
    (called : before.host.live.renameNoReplace dir leaf hidden = .ok live) :
    ∃ ino view, Displaced dir leaf hidden proved none ino view
      (before.called dir leaf { before.host with live := live }) := by
  obtain ⟨ino, target, -, sane', outcome⟩ :=
    FileSystem.renameNoReplace_eq_ok untouched.sane called
  obtain ⟨view, stands⟩ := FileSystem.exists_standing untouched.sane target
  have found : before.found dir leaf = some (ino, view) :=
    FileSystem.found_eq_some.mpr ⟨target, stands⟩
  have hidden' : live.entries dir hidden = some ino := by
    rw [outcome.entries, FileSystem.rebind_name apart, FileSystem.rebind_self]
  have target' : live.entries dir leaf = none := by
    rw [outcome.entries, FileSystem.rebind_self]
  have absent : live.found dir leaf = none := by
    unfold FileSystem.found
    rw [target']
    rfl
  refine ⟨ino, view, sane', quiet, hidden', fun bound => ?_, (outcome.standing ino).trans stands,
    (if_neg fun same => ?_).trans found, .inr absent, fun matched other other_view left => ?_,
    fun _ => ⟨untouched.left.trans found, absent⟩⟩
  · cases target'.symm.trans bound
  · cases target'.symm.trans (same.trans target)
  · cases (untouched.left.trans found).symm.trans left
    exact .inl matched

theorem Displaced.renamed_back
    (displaced : Displaced dir leaf hidden proved none ino view before)
    (apart : hidden ≠ leaf) (mismatched : proved view = false)
    (called : before.host.live.renameNoReplace dir hidden leaf = .ok live) :
    ∃ taken, Untouched dir leaf taken (before.called dir leaf { before.host with live := live }) := by
  obtain ⟨ino', bound, -, sane', outcome⟩ :=
    FileSystem.renameNoReplace_eq_ok displaced.sane called
  cases displaced.hidden.symm.trans bound
  refine ⟨_, sane', (displaced.waits mismatched).1.trans (Eq.symm ?_), rfl⟩
  refine FileSystem.found_eq_some.mpr ⟨?_, (outcome.standing ino).trans displaced.stands⟩
  show live.entries dir leaf = some ino
  rw [outcome.entries, FileSystem.rebind_name apart.symm, FileSystem.rebind_self]

theorem under_renameAway (apart : hidden ≠ leaf) (untouched : Untouched dir leaf taken watched) :
    Under dir leaf hidden proved (renameNoReplace dir leaf hidden)
      (fun _ after => safeLeaf hidden = true ∧
        ∃ ino view, Displaced dir leaf hidden proved none ino view after)
      (fun _ => Rests dir leaf proved) watched := by
  have rests {after : Watched} (held : Untouched dir leaf taken after) :
      Rests dir leaf proved after := ⟨none, taken, held.settled⟩
  refine .bind (.require (fun names => ?_) fun _ => rests untouched)
  refine .onOsError (.change phase_untouched untouched (fun before _ live held quiet called => ?_)
    fun after errno held _ => ⟨fun errno _ => ?_, fun _ => rests held⟩)
  · obtain ⟨ino, view, displaced⟩ := held.renamed apart quiet (ok_of_map called)
    exact ⟨displaced.survives, names.2.1, ino, view, displaced⟩
  · split
    · exact .throw (rests held)
    · exact .throw (rests held)

/-- The file that waits to be named back can be. -/
theorem Displaced.renames (displaced : Displaced dir leaf hidden proved none ino view before)
    (mismatched : proved view = false) (errno : Errno) :
    before.host.live.renameNoReplace dir hidden leaf ≠ .error errno := by
  intro failed
  have free : before.host.live.entries dir leaf = none := by
    rw [← FileSystem.found_map displaced.sane]
    exact congrArg (Option.map Prod.fst) (displaced.waits mismatched).2
  unfold FileSystem.renameNoReplace at failed
  simp only [displaced.hidden, free, Option.isSome_none, Bool.false_eq_true, if_false] at failed
  cases failed

theorem under_renameBack (safe : safeLeaf hidden = true ∧ safeLeaf leaf = true ∧ hidden ≠ leaf)
    (displaced : Displaced dir leaf hidden proved none ino view watched)
    (mismatched : proved view = false) :
    Under dir leaf hidden proved (renameNoReplace dir hidden leaf)
      (fun _ after => ∃ taken, Untouched dir leaf taken after) (fun _ _ => False) watched := by
  refine .bind (.require (fun _ => ?_) fun wrong => wrong safe)
  refine .onOsError (.change phase_displaced displaced (fun before _ live held quiet called => ?_)
    fun after errno held failed => absurd (failed held.quiet) ?_)
  · obtain ⟨taken, untouched⟩ := held.renamed_back safe.2.2 mismatched (ok_of_map called)
    exact ⟨untouched.survives, taken, untouched⟩
  · intro failed
    cases renamed : after.host.live.renameNoReplace dir hidden leaf with
    | ok fs => rw [renamed] at failed; cases failed
    | error errno' => exact held.renames mismatched errno' renamed

/-! ### One operation -/

/-- The target is as others left it, and the next random name is known. -/
structure Fresh (dir : Nat) (leaf uuid : PyStr) (watched : Watched) : Prop where
  untouched : Untouched dir leaf none watched
  uuid : watched.host.uuid watched.host.drawn = uuid

theorem phase_fresh {uuid : PyStr} : Phase dir leaf hidden proved (Fresh dir leaf uuid) := by
  refine ⟨fun before after spares fresh => ⟨fresh.untouched.meddled spares.meddles, ?_⟩,
    fun _ fresh => fresh.untouched.survives⟩
  rw [spares.meddles.uuid, spares.meddles.drawn]
  exact fresh.uuid

theorem under_uuid4 {uuid : PyStr} (fresh : Fresh dir leaf uuid watched) :
    Under dir leaf hidden proved uuid4
      (fun drawn after => drawn = uuid ∧ Untouched dir leaf none after) (fun _ _ => False)
      watched := by
  refine .action phase_fresh fresh fun before held => ?_
  have aside : Untouched dir leaf none (before.called dir leaf
      { before.host with drawn := before.host.drawn + 1 }) :=
    held.untouched.aside held.untouched.sane rfl fun _ _ => rfl
  exact ⟨aside.survives, held.uuid, aside⟩

theorem under_commitVerifiedDeletedLeaf {uuid : PyStr} (own : hidden = tombstoneOf uuid)
    (apart : hidden ≠ leaf) (reads : proved = provedBaseline hashing objectId mode)
    (fresh : Fresh dir leaf uuid watched) :
    Under dir leaf hidden proved (commitVerifiedDeletedLeaf hashing dir leaf objectId mode)
      (fun _ after => ∃ ino view, proved view = true ∧
        Settled dir leaf proved none (some (ino, view)) after)
      (fun _ => Rests dir leaf proved) watched := by
  have rests {taken : Option (Nat × View)} {after : Watched} (held : Untouched dir leaf taken after) :
      Rests dir leaf proved after := ⟨none, taken, held.settled⟩
  refine .bind (.require (fun safe => ?_) fun _ => rests fresh.untouched)
  refine .bind ((under_uuid4 fresh).mono ?_ fun _ _ => False.elim)
  rintro _ after ⟨rfl, untouched⟩
  rw [← own]
  refine .bind (.onOsError ((under_renameAway apart untouched).mono ?_ fun error after held =>
    ⟨fun errno _ => ?_, fun _ => held⟩))
  · rintro _ after ⟨safe_hidden, ino, view, displaced⟩
    refine .bind ((under_verifyDisplacedLeaf safe_hidden reads displaced).mono ?_
      fun _ _ => False.elim)
    rintro matched after ⟨same, displaced⟩
    cases matched with
    | true =>
      have removed := under_unlinkAt apart (displaced.settled same.symm)
      refine .onOsError (.bind (removed.mono (fun _ after settled => ?_) fun _ _ settled =>
        ⟨fun _ _ => .throw ⟨_, _, settled⟩, fun _ => ⟨_, _, settled⟩⟩))
      exact (Under.fsync phase_settled settled).mono
        (fun _ _ settled => ⟨ino, view, same.symm, settled⟩)
        fun _ _ settled => ⟨fun _ _ => .throw ⟨_, _, settled⟩, fun _ => ⟨_, _, settled⟩⟩
    | false =>
      refine .bind (.onOsError (.bind ((under_renameBack ⟨safe_hidden, safe, apart⟩ displaced
        same.symm).mono ?_ fun _ _ => False.elim)))
      rintro _ after ⟨taken, untouched⟩
      exact (Under.fsync phase_untouched untouched).mono
        (fun _ _ held => .throw (rests held))
        fun _ _ held => ⟨fun _ _ => .throw (rests held), fun _ => rests held⟩
  · split
    · exact .throw held
    · exact .throw held

end Delete

/-! ## One operation among others -/

section Operation

variable {dir : Nat} {leaf hidden uuid : PyStr} {proved : View → Bool} {watched : Watched}
  {hashing : Hashing} {operation : LiveApplyOperation} {candidate : Option (List UInt8)}

/-- The file is the baseline of the operation. -/
def baselineOf (hashing : Hashing) (operation : LiveApplyOperation) : View → Bool :=
  match operation.baselineObjectId, operation.baselineMode with
  | some objectId, some mode => provedBaseline hashing objectId mode
  | _, _ => fun _ => false

theorem baselineOf_eq {objectId : ObjectId} {mode : GitMode}
    (identified : operation.baselineObjectId = some objectId)
    (moded : operation.baselineMode = some mode) :
    baselineOf hashing operation = provedBaseline hashing objectId mode := by
  unfold baselineOf
  rw [identified, moded]

/-- The name that a call makes for the file it prepares or takes away. -/
def ownName (operation : LiveApplyOperation) (uuid : PyStr) : PyStr :=
  if operation.status = .deleted then tombstoneOf uuid else temporaryOf uuid

/-- What an operation puts under its name. -/
def Puts (operation : LiveApplyOperation) (candidate : Option (List UInt8)) :
    Option (Nat × View) → Prop
  | none => operation.status = .deleted
  | some (_, view) => operation.status ≠ .deleted ∧ ∃ data mode, candidate = some data ∧
      operation.candidateMode = some mode ∧ view = .file (modeBits mode) data

/-- What an operation takes from its name: nothing where it adds, else its baseline. -/
def Takes (hashing : Hashing) (operation : LiveApplyOperation) : Option (Nat × View) → Prop
  | none => operation.status = .added
  | some (_, view) => operation.status ≠ .added ∧ baselineOf hashing operation view = true

/-- The operation is done: it took its baseline alone, and its result stands, or what others left
since. -/
def Applied (hashing : Hashing) (dir : Nat) (leaf : PyStr) (operation : LiveApplyOperation)
    (candidate : Option (List UInt8)) (watched : Watched) : Prop :=
  ∃ put taken, Settled dir leaf (baselineOf hashing operation) put taken watched ∧
    Puts operation candidate put ∧ Takes hashing operation taken

theorem phase_applied : Phase dir leaf hidden (baselineOf hashing operation)
    (Applied hashing dir leaf operation candidate) :=
  ⟨fun _ _ spares ⟨put, taken, settled, known⟩ =>
    ⟨put, taken, settled.meddled spares.meddles, known⟩,
    fun _ ⟨_, _, settled, _⟩ => settled.stands.survives⟩

theorem under_replaceBytes {data : List UInt8} {mode : GitMode}
    (kept : operation.status ≠ .deleted) (moded : operation.candidateMode = some mode)
    (own : hidden = temporaryOf uuid) (apart : hidden ≠ leaf) (fresh : Fresh dir leaf uuid watched) :
    Under dir leaf hidden (baselineOf hashing operation)
      (replaceBytes hashing dir leaf data mode operation)
      (fun _ => Applied hashing dir leaf operation (some data))
      (fun _ => Rests dir leaf (baselineOf hashing operation)) watched := by
  refine .bind ((under_uuid4 fresh).mono ?_ fun _ _ => False.elim)
  rintro _ after ⟨rfl, untouched⟩
  rw [← own]
  have rests {taken : Option (Nat × View)} {after : Watched} (held : Untouched dir leaf taken after) :
      Rests dir leaf (baselineOf hashing operation) after := ⟨none, taken, held.settled⟩
  refine .bind (.bind (.named (fun _ => ?_) fun _ _ => rests untouched))
  refine .change phase_untouched untouched (fun before fd live held _ called => ?_)
    fun _ _ held _ => rests held
  have prepared := held.created apart called
  refine ⟨prepared.untouched.survives, .bind (under_cleaning apart ?_)⟩
  refine .bind ((under_writeAll prepared).mono (fun _ after written => ?_) fun _ _ rests => rests)
  refine .bind ((under_fchmod written).mono (fun _ after changed => ?_) fun _ _ rests => rests)
  refine (Under.fsync phase_prepared changed).mono (fun _ after prepared => ?_)
    fun _ _ held => held.rests
  have puts : Puts operation (some data) (some (fd, .file (modeBits mode) data)) :=
    ⟨kept, data, mode, rfl, moded, rfl⟩
  split
  next added =>
    refine .bind (under_cleaning apart (.bind ((under_linkAt prepared).mono
      (fun _ after linked => ?_) fun _ _ rests => rests)))
    refine (under_unlinkAt apart linked).mono (fun _ after settled => ?_)
      fun _ _ settled => ⟨_, _, settled⟩
    exact (Under.fsync phase_settled settled).mono (fun _ _ settled => ⟨_, _, settled, puts, added⟩)
      fun _ _ settled => ⟨_, _, settled⟩
  next replaced =>
    split
    next objectId baselineMode identified baseline_mode =>
      have reads : baselineOf hashing operation = _ := baselineOf_eq identified baseline_mode
      refine .tryCatch ((under_commitVerifiedModifiedLeaf apart reads prepared).mono ?_
        fun error after rests => ?_)
      · rintro _ after ⟨ino, view, matched, settled⟩
        exact ⟨_, _, settled, puts, replaced, matched⟩
      · split
        · exact .throw rests
        · exact under_cleaning apart (.throw rests)
        · exact under_cleaning apart (.throw rests)
    next => exact under_cleaning apart (.throw prepared.rests)

/-! ### Looking -/

/-- A program that only looks: whatever phase it is called in lasts. -/
def Gazes {α : Type} (dir : Nat) (leaf hidden : PyStr) (proved : View → Bool) (program : Sys α) :
    Prop :=
  ∀ (holds : Watched → Prop) (watched : Watched), Phase dir leaf hidden proved holds →
    holds watched → Under dir leaf hidden proved program (fun _ => holds) (fun _ => holds) watched

section Gazes

variable {α β : Type} {program : Sys α}

theorem Gazes.pure (a : α) : Gazes dir leaf hidden proved (pure a) :=
  fun _ _ _ here => .pure here

theorem Gazes.throw (error : PyError) : Gazes dir leaf hidden proved (throw error : Sys α) :=
  fun _ _ _ here => .throw here

theorem Gazes.bind {k : α → Sys β} (first : Gazes dir leaf hidden proved program)
    (rest : ∀ a, Gazes dir leaf hidden proved (k a)) :
    Gazes dir leaf hidden proved (program >>= k) := fun holds watched phase here =>
  .bind ((first holds watched phase here).mono (fun a after held => rest a holds after phase held)
    fun _ _ held => held)

theorem Gazes.onOsError {handler : Errno → Sys α} (first : Gazes dir leaf hidden proved program)
    (handled : ∀ errno, Gazes dir leaf hidden proved (handler errno)) :
    Gazes dir leaf hidden proved (onOsError program handler) := fun holds watched phase here =>
  .onOsError ((first holds watched phase here).mono (fun _ _ held => held)
    fun _ after held => ⟨fun errno _ => handled errno holds after phase held, fun _ => held⟩)

theorem Gazes.require (condition : Prop) [Decidable condition] (error : PyError) :
    Gazes dir leaf hidden proved (require condition error) :=
  fun _ _ _ here => .require (fun _ => here) fun _ => here

theorem Gazes.ask (call : Host → Except Errno α) : Gazes dir leaf hidden proved (ask call) :=
  fun _ _ phase here => .ask phase here (fun _ _ held _ _ => held) fun _ _ held _ => held

theorem gazes_named (name : PyStr) (call : Host → Except Errno α) :
    Gazes dir leaf hidden proved (do named name; ask call) :=
  .bind (.require _ _) fun _ => .ask call

theorem gazes_openDirectory (root : PyStr) :
    Gazes dir leaf hidden proved (LiveApplyWriter.openDirectory root) :=
  .onOsError (gazes_named root _) fun _ => .throw _

theorem gazes_walkParent (parts : List PyStr) (current : Nat) :
    Gazes dir leaf hidden proved (walkParent current parts) := by
  induction parts generalizing current with
  | nil => exact .pure current
  | cons part parts ih =>
    refine .bind (.onOsError (gazes_named part _) fun errno => ?_) ih
    split
    · exact .throw _
    · exact .throw _
    · exact .throw _

theorem gazes_verifyPostcondition (root : PyStr) (operation : LiveApplyOperation) :
    Gazes dir leaf hidden proved (verifyPostcondition hashing root operation) := by
  refine .bind (gazes_openDirectory root) fun _ => .bind (gazes_walkParent _ _) fun parent => ?_
  refine .bind (.onOsError (.bind (gazes_named _ _) fun _ => .pure _) fun errno => ?_) fun found => ?_
  · split
    · exact .pure _
    · exact .throw _
  · split
    · exact .require _ _
    · split
      · exact .throw _
      · refine .bind (gazes_named _ _) fun fd => .bind (.ask _) fun _ => .bind (.ask _) fun _ => ?_
        split
        · exact .throw _
        · exact .require _ _

end Gazes

theorem under_walkParentVerified {holds : Watched → Prop}
    (phase : Phase dir leaf hidden proved holds) (parts : List PyStr) (identities : List Nat)
    (current : Nat) (here : holds watched) :
    Under dir leaf hidden proved (walkParentVerified current parts identities)
      (fun parent after => parent = identities.getLastD current ∧ holds after) (fun _ => holds)
      watched := by
  induction parts generalizing current identities watched with
  | nil =>
    cases identities with
    | nil => exact .pure ⟨rfl, here⟩
    | cons => exact .throw here
  | cons part parts ih =>
    cases identities with
    | nil => exact .throw here
    | cons expected identities =>
      have opens : Gazes dir leaf hidden proved
          (onOsError (openDirectoryAt current part) fun _ => preMutationMismatch) :=
        .onOsError (gazes_named part _) fun _ => .throw _
      refine .bind ((opens holds watched phase here).mono (fun next after held => ?_)
        fun _ _ held => held)
      refine .bind (.require (fun same => ?_) fun _ => held)
      subst same
      refine (ih identities next held).mono (fun parent last found => ?_) fun _ _ held => held
      rw [List.getLastD_cons]
      exact found

/-- The directory that the operation works in. -/
def parentOf (rootIdentity : Nat) (parentIdentities : List Nat) : Nat :=
  parentIdentities.getLastD rootIdentity

/-- An operation with candidate data replaces the leaf, and one without is refused. -/
theorem under_replaceCandidate (kept : operation.status ≠ .deleted)
    (own : hidden = ownName operation uuid) (apart : hidden ≠ leaf)
    (fresh : Fresh dir leaf uuid watched) :
    Under dir leaf hidden (baselineOf hashing operation)
      (match candidate, operation.candidateMode with
        | some data, some mode => replaceBytes hashing dir leaf data mode operation
        | _, _ => LiveApplyWriter.reject "candidate mutation data is invalid")
      (fun _ => Applied hashing dir leaf operation candidate)
      (fun _ => Rests dir leaf (baselineOf hashing operation)) watched := by
  split
  next data mode _ moded =>
    exact under_replaceBytes kept moded (own.trans (if_neg kept)) apart fresh
  next => exact .throw ⟨none, none, fresh.untouched.settled⟩

theorem under_mutateOperation {root : PyStr} {rootIdentity : Nat} {parentIdentities : List Nat}
    (parent : dir = parentOf rootIdentity parentIdentities)
    (name : leaf = (splitPath operation.path).getLastD [])
    (replaces : operation.status ≠ .modeChanged) (own : hidden = ownName operation uuid)
    (apart : hidden ≠ leaf) (fresh : Fresh dir leaf uuid watched) :
    Under dir leaf hidden (baselineOf hashing operation)
      (mutateOperation hashing root operation candidate rootIdentity parentIdentities)
      (fun _ => Applied hashing dir leaf operation candidate)
      (fun _ => Rests dir leaf (baselineOf hashing operation)) watched := by
  have rests (after : Watched) (held : Fresh dir leaf uuid after) :
      Rests dir leaf (baselineOf hashing operation) after := ⟨none, none, held.untouched.settled⟩
  refine .bind ((gazes_openDirectory root _ _ phase_fresh fresh).mono (fun fd after held => ?_)
    fun _ after held => rests after held)
  refine .bind (.require (fun same => ?_) fun _ => rests after held)
  refine .bind ((under_walkParentVerified phase_fresh _ _ fd held).mono ?_
    fun _ after held => rests after held)
  rintro _ after ⟨rfl, held⟩
  rw [show parentIdentities.getLastD fd = dir from (congrArg _ same).trans parent.symm, ← name]
  cases status : operation.status with
  | added => exact under_replaceCandidate (by rw [status]; decide) own apart held
  | modified => exact under_replaceCandidate (by rw [status]; decide) own apart held
  | modifiedAndModeChanged => exact under_replaceCandidate (by rw [status]; decide) own apart held
  | modeChanged => exact absurd status replaces
  | deleted =>
    dsimp only
    split
    next objectId mode identified moded =>
      have named : hidden = tombstoneOf uuid := own.trans (if_pos status)
      refine .tryCatch ((under_commitVerifiedDeletedLeaf named apart
        (baselineOf_eq identified moded) held).mono ?_ fun error after held => ?_)
      · rintro _ after ⟨ino, view, matched, settled⟩
        exact ⟨none, some (ino, view), settled, status, by rw [status]; decide, matched⟩
      · split
        · exact .throw held
        · exact .throw held
    next => exact .throw (rests after held)

end Operation

/-! ## No update of others is lost -/

section Law

variable (hashing : Hashing) (root : PyStr) (operation : LiveApplyOperation)
  (candidate : Option (List UInt8)) (rootIdentity : Nat) (parentIdentities : List Nat) (host : Host)

/-- The name that the operation changes. -/
def targetOf (operation : LiveApplyOperation) : PyStr := (splitPath operation.path).getLastD []

/-- Among others, at every point what they left at the target survives there or under the writer's
own name, unless it is the proved baseline. The operation ends verified, having taken its baseline
alone; or it fails, and what they left is at the target. -/
def LosesNothing (others : Watched → Watched → Prop) (dir : Nat) (hidden : PyStr) : Prop :=
  Ensures (Relation.ReflTransGen others)
    (fun _ after => Survives dir (targetOf operation) hidden (baselineOf hashing operation) after)
    (Raising.within Watched.host (Watched.called dir (targetOf operation)) do
      mutateOperation hashing root operation candidate rootIdentity parentIdentities
      verifyPostcondition hashing root operation)
    (fun result after => match result with
      | .ok _ => Applied hashing dir (targetOf operation) operation candidate after
      | .error _ => Stands dir (targetOf operation) (baselineOf hashing operation) after)
    (Watched.start dir (targetOf operation) host)

end Law

/-! ## An update that is lost -/

/-- New content for `a`, which is a regular file. -/
def renewal : LiveApplyOperation :=
  ⟨text "a", .modified, some .regular, some (.sha256 zeroDigest), some .regular,
    some (.sha256 zeroDigest), some 1, some zeroDigest⟩

/-- The file `a` in the configuration directory. -/
def loneFileHost : Host := { bareWorld.host with
  live := ⟨fun ino => match ino with
    | 0 => some (.directory fun name => if name = text "a" then some 1 else none)
    | 1 => some (.file 0o644 [1])
    | _ => none, 2⟩
  openRoot := fun path => if path = text "/h" then .ok 0 else .error .noent }

theorem loneFileHost_sane : loneFileHost.live.Sane where
  fresh ino above := by
    match ino, above with
    | 0, above => exact absurd above (by decide)
    | 1, above => exact absurd above (by decide)
    | ino + 2, _ => rfl
  bound dir name ino bound := by
    match dir, bound with
    | 0, bound =>
      have held : (if name = text "a" then some 1 else none) = some ino := bound
      split at held
      · cases held
        rfl
      · cases held
    | 1, bound => cases bound
    | dir + 2, bound => cases bound

/-- The file `a` is written anew, as an executable one. -/
def resave (bytes : List UInt8) (fs : FileSystem PyStr) : Except Errno (FileSystem PyStr) := do
  let fs ← fs.unlink 0 (text "a")
  let (ino, fs) ← fs.createExclusive 0 (text "a") 0o755
  fs.writeBytes ino bytes

theorem resave_eq_ok {bytes : List UInt8} {fs fs' : FileSystem PyStr} (sane : fs.Sane)
    (saved : resave bytes fs = .ok fs') : fs'.Sane ∧
      ∀ name, name ≠ text "a" → fs'.entries 0 name = fs.entries 0 name := by
  obtain ⟨cleared, unlinked, saved⟩ := bind_eq_ok.mp saved
  obtain ⟨⟨ino, made⟩, created, written⟩ := bind_eq_ok.mp saved
  obtain ⟨sane, first⟩ := FileSystem.unlink_eq_ok sane unlinked
  obtain ⟨rfl, -, sane, second⟩ := FileSystem.createExclusive_eq_ok sane created
  obtain ⟨mode, held, file⟩ := FileSystem.writeBytes_eq_ok written
  obtain ⟨_, again, third⟩ := @FileSystem.writeBytes_ok _ _ _ _ bytes _ file
  cases written.symm.trans again
  refine ⟨FileSystem.sane_of_rewritten sane (by rw [file]; exact Option.some_ne_none _) third,
    fun name other => ?_⟩
  rw [third.entries, second.entries, FileSystem.rebind_name other, first.entries,
    FileSystem.rebind_name other]

/-- Others write the file anew, where they can. -/
def Watched.resaved (bytes : List UInt8) (watched : Watched) : Watched :=
  match resave bytes watched.host.live with
  | .error _ => watched
  | .ok live =>
    { watched with
      host := { watched.host with live := live }
      left := if live.found 0 (text "a") = watched.found 0 (text "a") then watched.left
        else live.found 0 (text "a") }

theorem Watched.resaved_meddles {bytes : List UInt8} {hidden : PyStr} {watched : Watched}
    (aside : (watched.resaved bytes).host.live.entries 0 hidden =
      watched.host.live.entries 0 hidden) :
    Meddles 0 (text "a") hidden watched (watched.resaved bytes) := by
  unfold Watched.resaved at aside ⊢
  split
  next failed => exact ⟨id, rfl, rfl, rfl, rfl, rfl, (if_pos rfl).symm⟩
  next live saved =>
    rw [saved] at aside
    exact ⟨fun sane => (resave_eq_ok sane saved).1, rfl, rfl, rfl, aside, rfl, rfl⟩

/-- The renewal and its verification, call by call. -/
def renewing : Prog Watched (Except PyError Unit) :=
  ExceptT.run (Raising.within Watched.host (Watched.called 0 (text "a")) do
    mutateOperation zeroHashing (text "/h") renewal (some [2]) 0 []
    verifyPostcondition zeroHashing (text "/h") renewal)

/-- Others save the file when the new content is prepared. -/
def savedBefore : Prog Watched (Except PyError Unit) × Watched :=
  let (program, watched) := renewing.advance 6 (.start 0 (text "a") loneFileHost)
  (program, watched.resaved [3])

/-- They save it again when theirs is displaced. -/
def savedBetween : Prog Watched (Except PyError Unit) × Watched :=
  let (program, watched) := savedBefore.1.advance 4 savedBefore.2
  (program, watched.resaved [4])

end Interference

end SyncApp
