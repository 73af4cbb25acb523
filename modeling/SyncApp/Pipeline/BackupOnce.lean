import SyncApp.Lib.Rows
import SyncApp.Pipeline.CandidateBackup
import SyncApp.Pipeline.Rules

/-!
# One backup for a candidate

Whatever the Supervisor answers and wherever a call stops, the backup of a candidate is asked for at
most once, and only while its row says so. It is completed only with a slug that an answer gave for
the name of the request and that was verified, and a row that has ended stays as it is.
-/

set_option autoImplicit false

namespace SyncApp

open Lib Raising Lane Json

/-! ## What was asked and answered -/

/-- The answer is one that the client flags as transient. -/
def BackupAnswer.outage : BackupAnswer → Bool
  | .response given => given.status == 408 || given.status == 429 || given.status ≥ 500
  | .raised error => error.transient
  | .exception => true

/-- A request for a backup. -/
def BackupRequest.creates : BackupRequest → Bool
  | .create _ => true
  | .inventory | .info _ => false

/-- A request for a backup of the candidate. -/
def BackupExchange.posts (candidateSha : ShortDigest) (exchange : BackupExchange) : Bool :=
  exchange.candidateSha = candidateSha && exchange.request.creates

/-- How often the backup of a candidate was asked for. -/
def System.backupPosts (system : System) (candidateSha : ShortDigest) : Nat :=
  system.exchanges.countP (BackupExchange.posts candidateSha)

/-- The failures of a candidate's reconciliations, the latest first. -/
def System.backupFailures (system : System) (candidateSha : ShortDigest) : List Failure :=
  system.events.filterMap fun event =>
    match event with
    | .backupReconciliationFailed failed failure =>
      if failed = candidateSha then some failure else none
    | _ => none

/-- A reconciliation of the candidate met an outage. -/
def MetOutage (candidateSha : ShortDigest) (s : System) : Prop :=
  ∃ exchange ∈ s.exchanges, exchange.candidateSha = candidateSha ∧ exchange.reconciling = true ∧
    exchange.answer.outage = true

section

variable (fromisoformat : String → Option DateTime)

/-- The answer gives the slug of the backup with a name. -/
def BackupExchange.names (requestName : String) (startedAt : Int) (slug : String)
    (exchange : BackupExchange) : Prop :=
  ∃ payload, exchange.answer.payload defaultMaxBackupResponseBytes = .ok payload ∧
    match exchange.request with
    | .create name => name = requestName ∧ backupSlug payload = .ok slug
    | .inventory => reconciledBackupSlug fromisoformat payload requestName startedAt = .ok slug
    | .info _ => False

/-- An answer gave the slug for the name of the request. -/
def NamedBackup (candidateSha : ShortDigest) (requestName : String) (startedAt : Int)
    (slug : String) (s : System) : Prop :=
  ∃ exchange ∈ s.exchanges, exchange.candidateSha = candidateSha ∧
    exchange.names fromisoformat requestName startedAt slug

end

/-- An answer verified the backup behind the slug. -/
def VerifiedBackup (candidateSha : ShortDigest) (coreVersion slug : String) (s : System) : Prop :=
  ∃ exchange ∈ s.exchanges, exchange.candidateSha = candidateSha ∧ exchange.request = .info slug ∧
    ∃ payload, exchange.answer.payload defaultMaxBackupResponseBytes = .ok payload ∧
      verifyBackupInfo payload slug coreVersion = .ok ()

/-- The phases a backup ends in. -/
def BackupPhase.terminal : BackupPhase → Bool
  | .completed .. | .blocked .. => true
  | .planned | .mutationStarted _ | .uncertain _ => false

/-- The backup was asked for. -/
def BackupPhase.asked : BackupPhase → Bool
  | .planned => false
  | .mutationStarted _ | .uncertain _ | .completed .. | .blocked .. => true

/-! ## Single actions -/

/-- Backups are as they were, and nothing was asked for; there may be more answers. -/
structure LooksOn (s t : System) : Prop where
  checkpoints : t.store.backupCheckpoints = s.store.backupCheckpoints
  posts : ∀ candidateSha, t.backupPosts candidateSha = s.backupPosts candidateSha
  exchanges : s.exchanges ⊆ t.exchanges
  failures : ∀ candidateSha, t.backupFailures candidateSha = s.backupFailures candidateSha

/-- Others leave the backups and what was asked about them to the service. -/
structure BackupOthers (s t : System) : Prop where
  checkpoints : t.store.backupCheckpoints = s.store.backupCheckpoints
  exchanges : t.exchanges = s.exchanges
  failures : ∀ candidateSha, t.backupFailures candidateSha = s.backupFailures candidateSha

/-- A row goes to another phase, and nothing was asked for. -/
structure Rephases (row : CandidateBackupCheckpoint) (phase : BackupPhase) (s t : System) : Prop where
  found : s.store.backupCheckpoint row.candidateSha = some row
  checkpoints : t.store.backupCheckpoints =
    s.store.backupCheckpoints.map fun other => if other = row then { row with phase := phase } else other
  exchanges : t.exchanges = s.exchanges
  events : t.events = s.events

section

variable (fromisoformat : String → Option DateTime)

/-- The phase a row may go to. -/
inductive Rephased (row : CandidateBackupCheckpoint) (s : System) : BackupPhase → Prop where
  | starts (planned : row.phase = .planned) (startedAt : Int) :
      Rephased row s (.mutationStarted startedAt)
  | doubts (startedAt : Int) (started : row.phase = .mutationStarted startedAt) :
      Rephased row s (.uncertain startedAt)
  | completes (startedAt : Int) (requested : row.requestedAt = some startedAt) (slug : String)
      (completedAt : Int)
      (named : NamedBackup fromisoformat row.candidateSha row.requestName startedAt slug s)
      (verified : VerifiedBackup row.candidateSha row.coreVersion slug s) :
      Rephased row s (.completed startedAt slug completedAt)
  | blocks (startedAt : Int) (uncertain : row.phase = .uncertain startedAt) (blockedAt : Int)
      (failed : s.backupFailures row.candidateSha ≠ []) :
      Rephased row s (.blocked (some startedAt) blockedAt)

/-- What one action of the backup stage does. -/
inductive BacksUp (s t : System) : Prop where
  | looks (looks : LooksOn s t)
  | plans (row : CandidateBackupCheckpoint) (planned : row.phase = .planned)
      (absent : s.store.backupCheckpoint row.candidateSha = none)
      (checkpoints : t.store.backupCheckpoints = s.store.backupCheckpoints ++ [row])
      (exchanges : t.exchanges = s.exchanges) (events : t.events = s.events)
  | posts (row : CandidateBackupCheckpoint) (startedAt : Int)
      (found : s.store.backupCheckpoint row.candidateSha = some row)
      (started : row.phase = .mutationStarted startedAt)
      (unsent : s.backupPosts row.candidateSha = 0) (answer : BackupAnswer)
      (store : t.store = s.store) (events : t.events = s.events)
      (exchanges : t.exchanges =
        ⟨row.candidateSha, false, .create row.requestName, answer⟩ :: s.exchanges)
  | fails (candidateSha : ShortDigest) (failure : Failure)
      (reason : failure.transient = true → MetOutage candidateSha s)
      (store : t.store = s.store) (exchanges : t.exchanges = s.exchanges)
      (events : t.events = .backupReconciliationFailed candidateSha failure :: s.events)
  | rephases (row : CandidateBackupCheckpoint) (phase : BackupPhase)
      (rephased : Rephased fromisoformat row s phase) (replaces : Rephases row phase s t)

/-- What holds of the backup of a candidate. -/
structure BackupSound (candidateSha : ShortDigest) (s : System) : Prop where
  unasked : (∀ row, s.store.backupCheckpoint candidateSha = some row → row.phase.asked = false) →
    s.backupPosts candidateSha = 0
  once : s.backupPosts candidateSha ≤ 1
  completed : ∀ row startedAt slug completedAt,
    s.store.backupCheckpoint candidateSha = some row →
    row.phase = .completed startedAt slug completedAt →
      NamedBackup fromisoformat candidateSha row.requestName startedAt slug s ∧
      VerifiedBackup candidateSha row.coreVersion slug s
  blocked : ∀ row startedAt blockedAt, s.store.backupCheckpoint candidateSha = some row →
    row.phase = .blocked startedAt blockedAt → s.backupFailures candidateSha ≠ []
  outages : ∀ failure ∈ s.backupFailures candidateSha, failure.transient = true →
    MetOutage candidateSha s

/-- What holds of the backups. -/
def BackupsSound (s : System) : Prop := ∀ candidateSha, BackupSound fromisoformat candidateSha s

end

section Looks

variable {fromisoformat : String → Option DateTime} {r s t : System} {candidateSha : ShortDigest}

theorem backupPosts_congr (same : t.exchanges = s.exchanges) :
    t.backupPosts candidateSha = s.backupPosts candidateSha :=
  congrArg (List.countP _) same

theorem backupFailures_congr (same : t.events = s.events) :
    t.backupFailures candidateSha = s.backupFailures candidateSha :=
  congrArg (List.filterMap _) same

theorem backupCheckpoint_congr {first second : Store}
    (same : second.backupCheckpoints = first.backupCheckpoints) :
    second.backupCheckpoint candidateSha = first.backupCheckpoint candidateSha :=
  congrArg (List.find? _) same

theorem LooksOn.refl (s : System) : LooksOn s s :=
  ⟨rfl, fun _ => rfl, List.Subset.refl _, fun _ => rfl⟩

theorem LooksOn.of_store {store : Store}
    (same : store.backupCheckpoints = s.store.backupCheckpoints) :
    LooksOn s { s with store := store } := ⟨same, fun _ => rfl, List.Subset.refl _, fun _ => rfl⟩

theorem BackupOthers.looksOn (moved : BackupOthers s t) : LooksOn s t :=
  ⟨moved.checkpoints, fun _ => backupPosts_congr moved.exchanges,
    fun _ member => moved.exchanges ▸ member, moved.failures⟩

theorem BackupOthers.refl (s : System) : BackupOthers s s := ⟨rfl, rfl, fun _ => rfl⟩

theorem BackupOthers.trans (r s t : System) (first : BackupOthers r s)
    (second : BackupOthers s t) : BackupOthers r t :=
  ⟨second.checkpoints.trans first.checkpoints, second.exchanges.trans first.exchanges,
    fun candidateSha => (second.failures candidateSha).trans (first.failures candidateSha)⟩

/-- What answers that were given say is said still. -/
theorem NamedBackup.grows {requestName slug : String} {startedAt : Int}
    (named : NamedBackup fromisoformat candidateSha requestName startedAt slug s)
    (grows : s.exchanges ⊆ t.exchanges) :
    NamedBackup fromisoformat candidateSha requestName startedAt slug t := by
  obtain ⟨exchange, member, said⟩ := named
  exact ⟨exchange, grows member, said⟩

theorem VerifiedBackup.grows {coreVersion slug : String}
    (verified : VerifiedBackup candidateSha coreVersion slug s)
    (grows : s.exchanges ⊆ t.exchanges) : VerifiedBackup candidateSha coreVersion slug t := by
  obtain ⟨exchange, member, said⟩ := verified
  exact ⟨exchange, grows member, said⟩

theorem MetOutage.grows (met : MetOutage candidateSha s) (grows : s.exchanges ⊆ t.exchanges) :
    MetOutage candidateSha t := by
  obtain ⟨exchange, member, said⟩ := met
  exact ⟨exchange, grows member, said⟩

/-- A candidate whose row and count are as they were, where at most its failures are more. -/
theorem BackupSound.keeps (sound : BackupSound fromisoformat candidateSha s)
    (row : t.store.backupCheckpoint candidateSha = s.store.backupCheckpoint candidateSha)
    (posts : t.backupPosts candidateSha = s.backupPosts candidateSha)
    (grows : s.exchanges ⊆ t.exchanges)
    (failures : s.backupFailures candidateSha ⊆ t.backupFailures candidateSha)
    (outages : ∀ failure ∈ t.backupFailures candidateSha, failure.transient = true →
      MetOutage candidateSha t) : BackupSound fromisoformat candidateSha t where
  unasked := by rw [row, posts]; exact sound.unasked
  once := posts ▸ sound.once
  completed := by
    rw [row]
    intro other startedAt slug completedAt found phase
    have said := sound.completed other startedAt slug completedAt found phase
    exact ⟨said.1.grows grows, said.2.grows grows⟩
  blocked := by
    rw [row]
    intro other startedAt blockedAt found phase none
    refine sound.blocked other startedAt blockedAt found phase ?_
    exact List.eq_nil_of_subset_nil (none ▸ failures)
  outages := outages

theorem BackupSound.looks (sound : BackupSound fromisoformat candidateSha s) (looks : LooksOn s t) :
    BackupSound fromisoformat candidateSha t := by
  refine sound.keeps (backupCheckpoint_congr looks.checkpoints) (looks.posts _) looks.exchanges
    (fun _ member => looks.failures _ ▸ member) fun failure member transient => ?_
  exact (sound.outages failure (looks.failures _ ▸ member) transient).grows looks.exchanges

end Looks

/-! ## Each action keeps the backups sound -/

section Steps

variable {fromisoformat : String → Option DateTime} {s t : System} {candidateSha : ShortDigest}
  {row : CandidateBackupCheckpoint} {phase : BackupPhase}

theorem Rephases.here (replaces : Rephases row phase s t) :
    t.store.backupCheckpoint row.candidateSha = some { row with phase := phase } := by
  unfold Store.backupCheckpoint
  rw [replaces.checkpoints]
  exact Rows.find_replaced rfl replaces.found

theorem Rephases.apart (replaces : Rephases row phase s t) (apart : candidateSha ≠ row.candidateSha) :
    t.store.backupCheckpoint candidateSha = s.store.backupCheckpoint candidateSha := by
  unfold Store.backupCheckpoint
  rw [replaces.checkpoints]
  exact Rows.find_replace_apart rfl apart

theorem Rephases.posts (replaces : Rephases row phase s t) :
    t.backupPosts candidateSha = s.backupPosts candidateSha := backupPosts_congr replaces.exchanges

theorem Rephases.failures (replaces : Rephases row phase s t) :
    t.backupFailures candidateSha = s.backupFailures candidateSha :=
  backupFailures_congr replaces.events

/-- The row of another candidate is left alone. -/
theorem BackupSound.apart (sound : BackupSound fromisoformat candidateSha s)
    (row : t.store.backupCheckpoint candidateSha = s.store.backupCheckpoint candidateSha)
    (exchanges : t.exchanges = s.exchanges) (events : t.events = s.events) :
    BackupSound fromisoformat candidateSha t := by
  refine sound.keeps row (backupPosts_congr exchanges) (fun _ member => exchanges ▸ member)
    (fun _ member => backupFailures_congr events ▸ member) fun failure member transient => ?_
  have before : failure ∈ s.backupFailures candidateSha := backupFailures_congr events ▸ member
  exact (sound.outages failure before transient).grows fun _ member => exchanges ▸ member

theorem Rephased.asked (rephased : Rephased fromisoformat row s phase) : phase.asked = true := by
  cases rephased <;> rfl

/-- The row that goes to another phase had not ended. -/
theorem Rephased.going (rephased : Rephased fromisoformat row s phase) :
    row.phase.terminal = false := by
  cases rephased with
  | starts planned => rw [planned]; rfl
  | doubts _ started => rw [started]; rfl
  | completes startedAt requested =>
    unfold CandidateBackupCheckpoint.requestedAt at requested
    cases here : row.phase <;> rw [here] at requested <;> first | rfl | cases requested
  | blocks _ uncertain => rw [uncertain]; rfl

theorem Rephases.sound (replaces : Rephases row phase s t)
    (rephased : Rephased fromisoformat row s phase)
    (sound : BackupSound fromisoformat row.candidateSha s) :
    BackupSound fromisoformat row.candidateSha t where
  unasked := fun unasked => by
    have wrong := unasked _ replaces.here
    exact nomatch rephased.asked.symm.trans wrong
  once := replaces.posts ▸ sound.once
  completed := fun other startedAt slug completedAt found here => by
    obtain rfl := Option.some.inj (replaces.here.symm.trans found)
    cases rephased with
    | starts => cases here
    | doubts => cases here
    | blocks => cases here
    | completes _ _ _ _ named verified =>
      cases here
      exact ⟨named.grows fun _ member => replaces.exchanges ▸ member,
        verified.grows fun _ member => replaces.exchanges ▸ member⟩
  blocked := fun other startedAt blockedAt found here => by
    obtain rfl := Option.some.inj (replaces.here.symm.trans found)
    rw [replaces.failures]
    cases rephased with
    | starts => cases here
    | doubts => cases here
    | completes => cases here
    | blocks _ _ _ failed => exact failed
  outages := fun failure member transient => by
    rw [replaces.failures] at member
    exact (sound.outages failure member transient).grows fun _ member => replaces.exchanges ▸ member

theorem backupPosts_cons (exchange : BackupExchange) (same : t.exchanges = exchange :: s.exchanges) :
    t.backupPosts candidateSha =
      s.backupPosts candidateSha + if exchange.posts candidateSha then 1 else 0 := by
  unfold System.backupPosts
  rw [same, List.countP_cons]

/-- **Each action keeps the backups sound.** -/
theorem BacksUp.sound (backs : BacksUp fromisoformat s t) (sound : BackupsSound fromisoformat s) :
    BackupsSound fromisoformat t := by
  intro candidateSha
  have before := sound candidateSha
  cases backs with
  | looks looks => exact before.looks looks
  | plans row planned absent checkpoints exchanges events =>
    by_cases here : candidateSha = row.candidateSha
    · subst here
      have found : t.store.backupCheckpoint row.candidateSha = some row := by
        unfold Store.backupCheckpoint
        rw [checkpoints]
        exact Rows.find_added absent rfl
      have posts : t.backupPosts row.candidateSha = 0 :=
        (backupPosts_congr exchanges).trans
          (before.unasked fun other wrong => nomatch absent.symm.trans wrong)
      refine ⟨fun _ => posts, posts ▸ Nat.zero_le 1, ?_, ?_, ?_⟩
      · intro other _ _ _ there phase
        obtain rfl := Option.some.inj (found.symm.trans there)
        exact nomatch planned.symm.trans phase
      · intro other _ _ there phase
        obtain rfl := Option.some.inj (found.symm.trans there)
        exact nomatch planned.symm.trans phase
      · intro failure member transient
        have old : failure ∈ s.backupFailures row.candidateSha :=
          backupFailures_congr events ▸ member
        exact (before.outages failure old transient).grows fun _ member => exchanges ▸ member
    · refine before.apart ?_ exchanges events
      unfold Store.backupCheckpoint
      rw [checkpoints]
      exact Rows.find_added_apart fun same => here same.symm
  | posts row startedAt found started unsent answer store events exchanges =>
    have same : ∀ other, t.store.backupCheckpoint other = s.store.backupCheckpoint other :=
      fun _ => congrArg (Store.backupCheckpoint · _) store
    have grows : s.exchanges ⊆ t.exchanges := by
      rw [exchanges]
      exact List.subset_cons_self _ _
    have outages : ∀ failure ∈ t.backupFailures candidateSha, failure.transient = true →
        MetOutage candidateSha t := fun failure member transient =>
      (before.outages failure (backupFailures_congr events ▸ member) transient).grows grows
    by_cases here : candidateSha = row.candidateSha
    · subst here
      have posts : t.backupPosts row.candidateSha = 1 := by
        rw [backupPosts_cons _ exchanges, unsent]
        simp [BackupExchange.posts, BackupRequest.creates]
      refine ⟨fun unasked => ?_, posts ▸ Nat.le_refl 1, ?_, ?_, outages⟩
      · have wrong := unasked row ((same _).trans found)
        rw [started] at wrong
        cases wrong
      · intro other _ _ _ there phase
        obtain rfl := Option.some.inj (((same _).trans found).symm.trans there)
        exact nomatch started.symm.trans phase
      · intro other _ _ there phase
        obtain rfl := Option.some.inj (((same _).trans found).symm.trans there)
        exact nomatch started.symm.trans phase
    · refine before.keeps (same _) ?_ grows (fun _ member => backupFailures_congr events ▸ member)
        outages
      rw [backupPosts_cons _ exchanges]
      have other : BackupExchange.posts candidateSha
          ⟨row.candidateSha, false, .create row.requestName, answer⟩ = false := by
        simp [BackupExchange.posts, Ne.symm here]
      rw [other]
      rfl
  | fails failed failure reason store exchanges events =>
    have same : t.store.backupCheckpoint candidateSha = s.store.backupCheckpoint candidateSha :=
      congrArg (Store.backupCheckpoint · _) store
    have grows : s.exchanges ⊆ t.exchanges := fun _ member => exchanges ▸ member
    have failures : t.backupFailures candidateSha =
        if failed = candidateSha then failure :: s.backupFailures candidateSha
        else s.backupFailures candidateSha := by
      unfold System.backupFailures
      by_cases here : failed = candidateSha <;> simp [events, here]
    refine before.keeps same (backupPosts_congr exchanges) grows ?_ ?_
    · rw [failures]
      split
      · exact List.subset_cons_self _ _
      · exact List.Subset.refl _
    · intro other member transient
      rw [failures] at member
      split at member
      next here =>
        rcases List.mem_cons.mp member with rfl | old
        · exact (here ▸ reason transient).grows grows
        · exact (before.outages other old transient).grows grows
      · exact (before.outages other member transient).grows grows
  | rephases row phase rephased replaces =>
    by_cases here : candidateSha = row.candidateSha
    · subst here
      exact replaces.sound rephased before
    · exact before.apart (replaces.apart here) replaces.exchanges replaces.events

/-- A row that has ended stays as it is. -/
theorem BacksUp.ended (backs : BacksUp fromisoformat s t)
    (found : s.store.backupCheckpoint candidateSha = some row) (ended : row.phase.terminal = true) :
    t.store.backupCheckpoint candidateSha = some row := by
  cases backs with
  | looks looks => exact (backupCheckpoint_congr looks.checkpoints).trans found
  | plans planned _ absent checkpoints =>
    have apart : candidateSha ≠ planned.candidateSha := by
      rintro rfl
      exact nomatch absent.symm.trans found
    unfold Store.backupCheckpoint
    rw [checkpoints]
    exact (Rows.find_added_apart fun same => apart same.symm).trans found
  | posts _ _ _ _ _ _ store => exact (congrArg (Store.backupCheckpoint · _) store).trans found
  | fails _ _ _ store => exact (congrArg (Store.backupCheckpoint · _) store).trans found
  | rephases current phase rephased replaces =>
    refine (replaces.apart fun here => ?_).trans found
    subst here
    obtain rfl := Option.some.inj (replaces.found.symm.trans found)
    exact nomatch rephased.going.symm.trans ended

/-- A backup is asked for while its row says so. -/
theorem BacksUp.posted (backs : BacksUp fromisoformat s t)
    (sent : t.backupPosts candidateSha = s.backupPosts candidateSha + 1) :
    ∃ row startedAt, s.store.backupCheckpoint candidateSha = some row ∧
      row.phase = .mutationStarted startedAt := by
  have more : t.backupPosts candidateSha ≠ s.backupPosts candidateSha := by omega
  cases backs with
  | looks looks => exact absurd (looks.posts _) more
  | plans _ _ _ _ exchanges => exact absurd (backupPosts_congr exchanges) more
  | fails _ _ _ _ exchanges => exact absurd (backupPosts_congr exchanges) more
  | rephases _ _ _ replaces => exact absurd replaces.posts more
  | posts row startedAt found started unsent answer store events exchanges =>
    rw [backupPosts_cons _ exchanges] at sent
    have here : BackupExchange.posts candidateSha
        ⟨row.candidateSha, false, .create row.requestName, answer⟩ = true := by
      split at sent
      next posts => exact posts
      next => omega
    have same : row.candidateSha = candidateSha := by
      simpa [BackupExchange.posts, BackupRequest.creates] using here
    exact ⟨row, startedAt, same ▸ found, started⟩

end Steps

/-! ## The refusals of the readers -/

section Refusals

/-- No refusal is flagged as transient. -/
def Definite {α : Type} (result : Except CandidateBackupError α) : Prop :=
  ∀ error, result = .error error → error.transient = false

theorem Definite.ok {α : Type} (a : α) : Definite (.ok a : Except CandidateBackupError α) :=
  fun _ wrong => nomatch wrong

theorem Definite.permanent {α : Type} (message : String) :
    Definite (.error (.permanent message) : Except CandidateBackupError α) := by
  intro error raised
  cases raised
  rfl

theorem Definite.bind {α β : Type} {result : Except CandidateBackupError α}
    {rest : α → Except CandidateBackupError β} (first : Definite result)
    (then_ : ∀ a, Definite (rest a)) : Definite (result >>= rest) := by
  cases result with
  | ok a => exact then_ a
  | error error =>
    intro other raised
    cases raised
    exact first error rfl

theorem resolveToken_definite (access : BackupAccess) : Definite access.resolveToken := by
  unfold BackupAccess.resolveToken
  split
  · exact .permanent _
  split
  · exact .permanent _
  split
  · exact .permanent _
  · exact .ok _

theorem validateBackupLimits_definite (timeoutSeconds : Rat) (maxResponseBytes : Nat) :
    Definite (validateBackupLimits timeoutSeconds maxResponseBytes) := by
  unfold validateBackupLimits
  split
  · exact .permanent _
  split
  · exact .permanent _
  · exact .ok _

theorem validateBackupName_definite (name : String) : Definite (validateBackupName name) := by
  unfold validateBackupName
  split
  · exact .permanent _
  · exact .ok _

theorem backupSlug_definite (payload : List (String × Json)) : Definite (backupSlug payload) := by
  unfold backupSlug
  split
  · exact .permanent _
  split
  · split
    · exact .ok _
    · exact .permanent _
  · exact .permanent _

theorem verifyBackupInfo_definite (payload : List (String × Json)) (slug coreVersion : String) :
    Definite (verifyBackupInfo payload slug coreVersion) := by
  unfold verifyBackupInfo
  split
  · exact .permanent _
  split
  · exact .permanent _
  split
  · exact .permanent _
  split
  · exact .permanent _
  · exact .ok _

variable (fromisoformat : String → Option DateTime) (requestName : String) (startedAt : Int)

theorem inventoryMatch_definite (item : Json) :
    Definite (inventoryMatch fromisoformat requestName startedAt item) := by
  unfold inventoryMatch
  split
  · split
    · exact .ok _
    split
    · exact .permanent _
    split
    · split
      · exact .permanent _
      split
      · exact .permanent _
      · exact .permanent _
      · split
        · exact .permanent _
        · exact .ok _
    · exact .permanent _
  · exact .ok _

theorem inventoryMatches_definite (items : List Json) :
    Definite (inventoryMatches fromisoformat requestName startedAt items) := by
  induction items with
  | nil => exact .ok _
  | cons item items ih =>
    refine .bind (inventoryMatch_definite fromisoformat requestName startedAt item) fun found => ?_
    exact .bind ih fun rest => .ok _

theorem reconciledBackupSlug_definite (payload : List (String × Json)) :
    Definite (reconciledBackupSlug fromisoformat payload requestName startedAt) := by
  unfold reconciledBackupSlug
  split
  · exact .permanent _
  split
  · split
    · exact .permanent _
    · refine .bind (inventoryMatches_definite fromisoformat requestName startedAt _) fun slugs => ?_
      split
      · exact .ok _
      · exact .permanent _
  · exact .permanent _

end Refusals

/-! ## Looking -/

section Looking

variable {fromisoformat : String → Option DateTime} {s : System} {α : Type}
  {known : System → Prop} {candidateSha : ShortDigest}

/-- What stays true while the service looks, and while others act. -/
def Unshaken (known : System → Prop) : Prop := ∀ s t, LooksOn s t → known s → known t

theorem Unshaken.others (stands : Unshaken known) {t : System} (moved : BackupOthers s t)
    (here : known s) : known t := stands s t moved.looksOn here

theorem Unshaken.and {also : System → Prop} (first : Unshaken known) (second : Unshaken also) :
    Unshaken fun s => known s ∧ also s :=
  fun s t looks here => ⟨first s t looks here.1, second s t looks here.2⟩

theorem NamedBackup.stands {requestName slug : String} {startedAt : Int} :
    Unshaken (NamedBackup fromisoformat candidateSha requestName startedAt slug) :=
  fun _ _ looks named => named.grows looks.exchanges

theorem VerifiedBackup.stands {coreVersion slug : String} :
    Unshaken (VerifiedBackup candidateSha coreVersion slug) :=
  fun _ _ looks verified => verified.grows looks.exchanges

theorem stands_look (stands : Unshaken known) {read : System → Except Failure α} (here : known s) :
    Ensures BackupOthers (BacksUp fromisoformat) (action fun system => (read system, system))
      (settles (fun failure t => known t ∧ read t = .error failure) fun a t =>
        known t ∧ read t = .ok a) s := by
  refine Ensures.action fun t moved => ⟨.looks (.refl t), ?_⟩
  dsimp only
  cases found : read t with
  | ok a => exact ⟨stands.others moved here, found⟩
  | error failure => exact ⟨stands.others moved here, found⟩

/-- What only looks needs no invariant. -/
theorem ensures_looks {program : Lane α} (every : Every LooksOn program) :
    Ensures BackupOthers (BacksUp fromisoformat) program (fun _ _ => True) s :=
  Prog.Safe.guarantees (every.ensures s) fun _ _ looks => .looks looks

theorem BackupAnswer.payload_error {answer : BackupAnswer} {limit : Nat}
    {error : CandidateBackupError} (raised : answer.payload limit = .error error) :
    error.transient = answer.outage := by
  cases answer with
  | raised given =>
    cases raised
    rfl
  | exception =>
    cases raised
    rfl
  | response given =>
    unfold BackupAnswer.payload requestJson at raised
    unfold BackupAnswer.outage
    dsimp only at raised ⊢
    split at raised
    · cases raised
      rfl
    next answered =>
      have status : given.status = 200 := by simpa using answered
      have definite : error.transient = false := by
        split at raised
        · cases raised
          rfl
        split at raised
        · cases raised
          rfl
        split at raised
        · cases raised
          rfl
        · cases raised
        · cases raised
          rfl
      rw [definite, status]
      rfl

/-- An answer that was given. -/
def Answered (candidateSha : ShortDigest) (reconciling : Bool) (request : BackupRequest) (limit : Nat)
    (payload : List (String × Json)) (s : System) : Prop :=
  ∃ answer, (⟨candidateSha, reconciling, request, answer⟩ : BackupExchange) ∈ s.exchanges ∧
    answer.payload limit = .ok payload

/-- A failure of a reconciliation that is transient comes from an outage. -/
def FromOutage (candidateSha : ShortDigest) (reconciling : Bool) (failure : Failure) (s : System) :
    Prop := reconciling = true → failure.transient = true → MetOutage candidateSha s

theorem fromOutage_permanent {reconciling : Bool} {failure : Failure}
    (definite : failure.transient = false) : FromOutage candidateSha reconciling failure s :=
  fun _ wrong => nomatch definite.symm.trans wrong

/-- What is read from the Supervisor. -/
theorem stands_ask (stands : Unshaken known) {request : BackupRequest} {limit : Nat}
    (reading : request.creates = false) (reconciling : Bool) (here : known s) :
    Ensures BackupOthers (BacksUp fromisoformat)
      (askSupervisor candidateSha reconciling request limit)
      (settles (fun failure t => known t ∧ FromOutage candidateSha reconciling failure t)
        fun payload t => known t ∧ Answered candidateSha reconciling request limit payload t) s := by
  refine Ensures.action fun t moved => ?_
  have looks : LooksOn t { t with exchanges :=
      ⟨candidateSha, reconciling, request, t.backup.supervisor request⟩ :: t.exchanges } := by
    refine ⟨rfl, fun other => ?_, List.subset_cons_self _ _, fun _ => rfl⟩
    rw [backupPosts_cons _ rfl]
    have apart : BackupExchange.posts other
        ⟨candidateSha, reconciling, request, t.backup.supervisor request⟩ = false := by
      simp [BackupExchange.posts, reading]
    rw [apart]
    rfl
  refine ⟨.looks looks, ?_⟩
  have known_after := stands t _ looks (stands.others moved here)
  dsimp only
  cases payload : (t.backup.supervisor request).payload limit with
  | ok payload => exact ⟨known_after, _, List.mem_cons_self, payload⟩
  | error error =>
    refine ⟨known_after, fun reconciles transient => ?_⟩
    exact ⟨_, List.mem_cons_self, rfl, reconciles,
      (BackupAnswer.payload_error payload).symm.trans transient⟩

/-- No reader of a payload flags its refusal as transient. -/
theorem stands_ofBackup {β : Type} {result : Except CandidateBackupError β} {rest : β → Lane α}
    {reconciling : Bool} {post : α → System → Prop} (here : known s)
    (definite : Definite result)
    (continues : ∀ b, result = .ok b → Ensures BackupOthers (BacksUp fromisoformat) (rest b)
      (settles (fun failure t => known t ∧ FromOutage candidateSha reconciling failure t) post) s) :
    Ensures BackupOthers (BacksUp fromisoformat) (ofBackup result >>= rest)
      (settles (fun failure t => known t ∧ FromOutage candidateSha reconciling failure t) post) s := by
  refine ensures_settles_ofResult (fun failure raised => ⟨here, ?_⟩) fun b given =>
    continues b (mapError_eq_ok.mp given)
  cases refused : result with
  | ok b => rw [refused] at raised; cases raised
  | error error =>
    rw [refused] at raised
    cases raised
    exact fromOutage_permanent (definite error refused)

theorem stands_verifySemantic (stands : Unshaken known) {reconciling : Bool} (here : known s) :
    Ensures BackupOthers (BacksUp fromisoformat) (verifySemantic candidateSha)
      (settles (fun failure t => known t ∧ FromOutage candidateSha reconciling failure t)
        fun _ t => known t) s := by
  refine (stands_look stands here).mono fun result t held => ?_
  cases result with
  | ok _ => exact held.1
  | error failure =>
    refine ⟨held.1, fromOutage_permanent ?_⟩
    have raised := held.2
    split at raised
    · cases raised
    · cases raised
      rfl

end Looking

/-! ## The Supervisor -/

section Supervisor

variable {fromisoformat : String → Option DateTime} {s : System} {known : System → Prop}
  (access : BackupAccess) (semantic : CandidateSemanticValidation) {candidateSha : ShortDigest}

/-- A row that was read, with how often its backup was asked for. -/
structure HoldsBackup (fromisoformat : String → Option DateTime) (row : CandidateBackupCheckpoint)
    (s : System) : Prop where
  sound : BackupsSound fromisoformat s
  found : s.store.backupCheckpoint row.candidateSha = some row

theorem BackupsSound.stands : Unshaken (BackupsSound fromisoformat) :=
  fun _ _ looks sound candidateSha => (sound candidateSha).looks looks

theorem HoldsBackup.stands (row : CandidateBackupCheckpoint) :
    Unshaken (HoldsBackup fromisoformat row) := fun s t looks holds =>
  ⟨BackupsSound.stands s t looks holds.sound,
    (backupCheckpoint_congr looks.checkpoints).trans holds.found⟩

/-- The evidence of a backup goes by what was validated, and its slug was verified. -/
structure EvidenceOf (semantic : CandidateSemanticValidation) (candidateSha : ShortDigest)
    (evidence : CandidateBackupEvidence) (s : System) : Prop where
  same : evidence = semantic.evidence candidateSha evidence.backupSlug
  verified : VerifiedBackup candidateSha semantic.coreVersion evidence.backupSlug s

theorem ensures_verifiedEvidence (stands : Unshaken known) (reconciling : Bool) (slug : String)
    (here : known s) :
    Ensures BackupOthers (BacksUp fromisoformat)
      (verifiedEvidence semantic candidateSha reconciling slug defaultMaxBackupResponseBytes)
      (settles (fun failure t => known t ∧ FromOutage candidateSha reconciling failure t)
        fun evidence t => known t ∧ EvidenceOf semantic candidateSha evidence t ∧
          evidence.backupSlug = slug) s := by
  refine ensures_settles_bind (stands_ask stands rfl reconciling here) fun info t answered => ?_
  refine stands_ofBackup answered.1 (verifyBackupInfo_definite _ _ _) fun _ verifies => ?_
  obtain ⟨answer, member, payload⟩ := answered.2
  have verified : VerifiedBackup candidateSha semantic.coreVersion slug t :=
    ⟨_, member, rfl, rfl, info, payload, verifies⟩
  refine ensures_settles_bind (ensures_settles_mono (stands_verifySemantic
    (stands.and VerifiedBackup.stands) ⟨answered.1, verified⟩)
    (fun _ u held => ⟨held.1.1, held.2⟩) fun _ u held => held) fun _ u held => ?_
  exact ⟨held.1, ⟨rfl, held.2⟩, rfl⟩

variable {semantic} {requestName : String}

/-- A backup that is looked for comes from the inventory, under the name of its request. -/
theorem ensures_reconcileCandidateBackup (stands : Unshaken known) (startedAt : Int) (here : known s) :
    Ensures BackupOthers (BacksUp fromisoformat)
      (reconcileCandidateBackup fromisoformat access semantic candidateSha requestName startedAt
        defaultBackupTimeoutSeconds defaultMaxBackupResponseBytes)
      (settles (fun failure t => known t ∧ FromOutage candidateSha true failure t)
        fun evidence t => known t ∧ EvidenceOf semantic candidateSha evidence t ∧
          NamedBackup fromisoformat candidateSha requestName startedAt evidence.backupSlug t) s := by
  refine ensures_settles_bind (stands_verifySemantic stands here) fun _ t here => ?_
  refine stands_ofBackup here (validateBackupName_definite _) fun _ _ => ?_
  refine stands_ofBackup here (resolveToken_definite _) fun _ _ => ?_
  refine stands_ofBackup here (validateBackupLimits_definite _ _) fun _ _ => ?_
  refine ensures_settles_bind (stands_ask stands rfl true here) fun inventory t answered => ?_
  refine stands_ofBackup answered.1 (reconciledBackupSlug_definite _ _ _ _) fun slug names => ?_
  obtain ⟨answer, member, payload⟩ := answered.2
  have named : NamedBackup fromisoformat candidateSha requestName startedAt slug t :=
    ⟨_, member, rfl, inventory, payload, names⟩
  refine ensures_settles_mono (ensures_verifiedEvidence semantic (stands.and NamedBackup.stands)
    true slug ⟨answered.1, named⟩) (fun _ u held => ⟨held.1.1, held.2⟩) fun evidence u held => ?_
  obtain ⟨⟨known_after, named⟩, proved, rfl⟩ := held
  exact ⟨known_after, proved, named⟩

/-- The request is sent once, while its row is started. -/
theorem ensures_createCandidateBackup {started : CandidateBackupCheckpoint} {startedAt : Int}
    (phase : started.phase = .mutationStarted startedAt)
    (holds : HoldsBackup fromisoformat started s) (unsent : s.backupPosts started.candidateSha = 0) :
    Ensures BackupOthers (BacksUp fromisoformat)
      (createCandidateBackup access semantic started.candidateSha (some started.requestName)
        defaultBackupTimeoutSeconds defaultMaxBackupResponseBytes)
      (settles (fun _ t => HoldsBackup fromisoformat started t) fun evidence t =>
        HoldsBackup fromisoformat started t ∧ EvidenceOf semantic started.candidateSha evidence t ∧
          NamedBackup fromisoformat started.candidateSha started.requestName startedAt
            evidence.backupSlug t) s := by
  have unsent_stands : Unshaken fun s => s.backupPosts started.candidateSha = 0 :=
    fun s t looks none => (looks.posts _).trans none
  have holds_stands : Unshaken (HoldsBackup fromisoformat started) := HoldsBackup.stands started
  have stands := holds_stands.and unsent_stands
  have drops : ∀ (failure : Failure) (t : System),
      ((HoldsBackup fromisoformat started t ∧ t.backupPosts started.candidateSha = 0) ∧
        FromOutage started.candidateSha false failure t) → HoldsBackup fromisoformat started t :=
    fun _ _ held => held.1.1
  refine ensures_settles_bind (ensures_settles_mono (stands_verifySemantic stands ⟨holds, unsent⟩)
    drops fun _ _ held => held) fun _ t here => ?_
  refine ensures_settles_ofResult (fun _ _ => here.1) fun _ _ => ?_
  refine ensures_settles_ofResult (fun _ _ => here.1) fun _ _ => ?_
  refine ensures_settles_ofResult (fun _ _ => here.1) fun _ _ => ?_
  refine ensures_settles_bind (m := fun created t => HoldsBackup fromisoformat started t ∧
    Answered started.candidateSha false (.create started.requestName) defaultMaxBackupResponseBytes
      created t) (Ensures.action fun u moved => ?_) fun created t answered => ?_
  · have before := stands.others moved here
    have posts : BacksUp fromisoformat u { u with exchanges :=
        ⟨started.candidateSha, false, .create started.requestName,
          u.backup.supervisor (.create started.requestName)⟩ :: u.exchanges } :=
      .posts started startedAt before.1.found phase before.2 _ rfl rfl rfl
    have after : HoldsBackup fromisoformat started { u with exchanges :=
        ⟨started.candidateSha, false, .create started.requestName,
          u.backup.supervisor (.create started.requestName)⟩ :: u.exchanges } :=
      ⟨posts.sound before.1.sound, before.1.found⟩
    refine ⟨posts, ?_⟩
    dsimp only [Option.getD_some]
    cases payload : (u.backup.supervisor (.create started.requestName)).payload
        defaultMaxBackupResponseBytes with
    | ok payload => exact ⟨after, _, List.mem_cons_self, payload⟩
    | error error => exact after
  refine ensures_settles_ofResult (fun _ _ => answered.1) fun slug given => ?_
  obtain ⟨answer, member, payload⟩ := answered.2
  have named : NamedBackup fromisoformat started.candidateSha started.requestName startedAt slug t :=
    ⟨_, member, rfl, created, payload, rfl, mapError_eq_ok.mp given⟩
  refine ensures_settles_mono (ensures_verifiedEvidence semantic
    ((HoldsBackup.stands started).and NamedBackup.stands) false slug ⟨answered.1, named⟩)
    (fun _ u held => held.1.1) fun evidence u held => ?_
  obtain ⟨⟨holds, named⟩, proved, rfl⟩ := held
  exact ⟨holds, proved, named⟩

end Supervisor

/-! ## Transitions -/

section Transitions

variable {fromisoformat : String → Option DateTime} {s : System} {known : System → Prop}
  {row : CandidateBackupCheckpoint} {phase : BackupPhase}

theorem replaceCheckpoint_ok {previous replacement : CandidateBackupCheckpoint} {store changed : Store}
    (replaced : replaceCheckpoint previous replacement store = .ok changed) :
    store.backupCheckpoint previous.candidateSha = some previous ∧
      changed = { store with
        backupCheckpoints := store.backupCheckpoints.map fun row =>
          if row = previous then replacement else row } := by
  unfold replaceCheckpoint at replaced
  split at replaced
  next found =>
    cases replaced
    exact ⟨found, rfl⟩
  next => cases replaced

theorem Store.insertWork_checkpoints {item : WorkItem} {store changed : Store}
    (inserted : store.insertWork item = .ok changed) :
    changed.backupCheckpoints = store.backupCheckpoints := by
  unfold Store.insertWork at inserted
  split at inserted
  · cases inserted
  · cases inserted
    rfl

theorem insertPreparation_checkpoints {deploymentId : PyStr} {prepared : Option PreparedDeployment}
    {store changed : Store} (inserted : insertPreparation deploymentId prepared store = .ok changed) :
    changed.backupCheckpoints = store.backupCheckpoints := by
  cases prepared with
  | none =>
    cases inserted
    rfl
  | some prepared =>
    obtain ⟨middle, first, second⟩ := bind_eq_ok.mp inserted
    refine (Store.insertWork_checkpoints second).trans ?_
    unfold Store.insertPrepared at first
    split at first
    · cases first
    · cases first
      rfl

theorem replaceOrchestration_ok {current advanced : CandidateOrchestration} {store changed : Store}
    (replaced : replaceOrchestration current advanced store = .ok changed) :
    store.orchestration current.candidateSha = some current ∧
      changed = { store with
        orchestrations := store.orchestrations.map fun row =>
          if row = current then advanced else row } := by
  unfold replaceOrchestration at replaced
  split at replaced
  next found =>
    cases replaced
    exact ⟨found, rfl⟩
  next => cases replaced

theorem settleCandidateWork_onlyWork {candidateSha : ShortDigest} {status : WorkStatus}
    {finishedAt : Int} {store changed : Store}
    (settled : settleCandidateWork candidateSha status finishedAt store = .ok changed) :
    ∃ work, changed = { store with work := work } := by
  unfold settleCandidateWork at settled
  split at settled
  · cases settled
  split at settled
  · cases settled
  split at settled
  next updated =>
    cases settled
    exact Store.updateWork_onlyWork updated
  next => cases settled

/-- A backup that is finished has its row replaced, and nothing else of the backups changes. -/
theorem finishAtomically_checkpoints {previous finished : CandidateBackupCheckpoint}
    {current advanced : CandidateOrchestration} {status : WorkStatus} {finishedAt : Int}
    {prepared : Option PreparedDeployment} {store changed : Store}
    (finishes : finishAtomically previous finished current advanced status finishedAt prepared store =
      .ok ((), changed)) :
    store.backupCheckpoint previous.candidateSha = some previous ∧
      changed.backupCheckpoints = store.backupCheckpoints.map fun row =>
        if row = previous then finished else row := by
  obtain ⟨replaced, first, finishes⟩ := bind_eq_ok.mp finishes
  obtain ⟨found, rfl⟩ := replaceCheckpoint_ok first
  obtain ⟨added, second, finishes⟩ := bind_eq_ok.mp finishes
  obtain ⟨advancedStore, third, finishes⟩ := bind_eq_ok.mp finishes
  obtain ⟨settled, fourth, finishes⟩ := bind_eq_ok.mp finishes
  cases finishes
  obtain ⟨work, rfl⟩ := settleCandidateWork_onlyWork fourth
  obtain ⟨_, rfl⟩ := replaceOrchestration_ok third
  exact ⟨found, insertPreparation_checkpoints second⟩

theorem every_query_looks {α : Type} (read : Store → Except Failure α) :
    Every LooksOn (query read) := every_query LooksOn.refl read

theorem every_ensureCheckpoint (row : CandidateBackupCheckpoint) :
    Every LooksOn (ensureCheckpoint row) :=
  (every_query_looks _).bind fun _ => every_ensure _ _

theorem every_ensureFinished (finished : CandidateBackupCheckpoint)
    (advanced : CandidateOrchestration) : Every LooksOn (ensureFinished finished advanced) :=
  (every_ensureCheckpoint finished).bind fun _ =>
    (every_query_looks _).bind fun _ => every_ensure _ _

/-- A transition of a row that is held. -/
theorem ensures_transitionCheckpoint {known' : System → Prop} (stands : Unshaken known)
    (stands' : Unshaken known') (here : known s) (holds : HoldsBackup fromisoformat row s)
    (rephased : ∀ t, known t → HoldsBackup fromisoformat row t → Rephased fromisoformat row t phase)
    (goes : ∀ t u, known t → Rephases row phase t u → known' u) :
    Ensures BackupOthers (BacksUp fromisoformat)
      (transitionCheckpoint row { row with phase := phase })
      (returns fun _ t => known' t ∧ HoldsBackup fromisoformat { row with phase := phase } t) s := by
  refine ensures_ends_bind (m := fun _ t =>
      known' t ∧ HoldsBackup fromisoformat { row with phase := phase } t)
    (ensures_transaction (fun t _ store moved replaced => ?_)
      fun t failure _ _ => ⟨.looks (.refl t), trivial⟩) fun _ t held => ?_
  · have known_before := stands.others moved here
    have before := HoldsBackup.stands row _ _ moved.looksOn holds
    obtain ⟨changed, replaced, same⟩ := bind_eq_ok.mp replaced
    cases same
    obtain ⟨found, rfl⟩ := replaceCheckpoint_ok replaced
    have replaces : Rephases row phase t { t with store := { t.store with
        backupCheckpoints := t.store.backupCheckpoints.map fun other =>
          if other = row then { row with phase := phase } else other } } := ⟨found, rfl, rfl, rfl⟩
    have backs : BacksUp fromisoformat t _ :=
      .rephases row phase (rephased t known_before before) replaces
    exact ⟨backs, goes t _ known_before replaces, backs.sound before.sound, replaces.here⟩
  · refine ensures_ends_bind (m := fun _ t =>
        known' t ∧ HoldsBackup fromisoformat { row with phase := phase } t)
      ((stands_look (stands'.and (HoldsBackup.stands _)) held).mono fun result u known => ?_)
      fun loaded u held => ensures_returns_ensure fun _ => held
    cases result with
    | ok loaded => exact known.1
    | error failure => trivial

/-- A row that is finished, whatever is read after it. -/
theorem ensures_finish {α : Type} {rest : Unit → Lane α} {current advanced : CandidateOrchestration}
    {status : WorkStatus} {finishedAt : Int} {prepared : Option PreparedDeployment}
    (stands : Unshaken known) (here : known s)
    (rephased : ∀ t, known t → Rephased fromisoformat row t phase) (every : Every LooksOn (rest ())) :
    Ensures BackupOthers (BacksUp fromisoformat)
      (transaction (finishAtomically row { row with phase := phase } current advanced status
        finishedAt prepared) >>= rest) (returns fun _ _ => True) s := by
  refine ensures_ends_bind (m := fun _ _ => True)
    (ensures_transaction (fun t _ store moved finishes => ⟨?_, trivial⟩)
      fun t failure _ _ => ⟨.looks (.refl t), trivial⟩) fun _ t _ => ?_
  · obtain ⟨found, checkpoints⟩ := finishAtomically_checkpoints finishes
    exact .rephases row phase (rephased t (stands.others moved here)) ⟨found, checkpoints, rfl, rfl⟩
  · refine (ensures_looks every).mono fun result u _ => ?_
    cases result <;> trivial

end Transitions

/-! ## The stage -/

section Stage

variable {fromisoformat : String → Option DateTime} {s : System} {row : CandidateBackupCheckpoint}
  {current : CandidateOrchestration} {startedAt now : Int} (access : BackupAccess)

theorem complete_ok {evidence : CandidateBackupEvidence} {completed : CandidateBackupCheckpoint}
    (requested : row.requestedAt = some startedAt)
    (completes : row.complete evidence now = .ok completed) :
    evidence = row.evidence evidence.backupSlug ∧
      completed = { row with phase := .completed startedAt evidence.backupSlug now } := by
  unfold CandidateBackupCheckpoint.complete at completes
  rw [requested] at completes
  dsimp only at completes
  split at completes
  · cases completes
  next agrees =>
    cases completes
    exact ⟨not_not.mp fun wrong => agrees (.inl wrong), rfl⟩

theorem block_ok {blocked : CandidateBackupCheckpoint} (uncertain : row.phase = .uncertain startedAt)
    (blocks : row.block now = .ok blocked) :
    blocked = { row with phase := .blocked (some startedAt) now } := by
  unfold CandidateBackupCheckpoint.block at blocks
  rw [uncertain] at blocks
  dsimp only at blocks
  split at blocks
  · cases blocks
  · cases blocks
    rfl

/-- A requested backup is completed with the slug that was named and verified. -/
theorem ensures_complete {semantic : CandidateSemanticValidation} {evidence : CandidateBackupEvidence}
    (requested : row.requestedAt = some startedAt)
    (proved : EvidenceOf semantic row.candidateSha evidence s)
    (named : NamedBackup fromisoformat row.candidateSha row.requestName startedAt
      evidence.backupSlug s) :
    Ensures BackupOthers (BacksUp fromisoformat) (do
      let completed ← ofResult (row.complete evidence now)
      finishSuccess row completed current evidence now) (returns fun _ _ => True) s := by
  refine ensures_returns_checked fun completed completes => ?_
  obtain ⟨agrees, rfl⟩ := complete_ok requested completes
  have version : semantic.coreVersion = row.coreVersion :=
    (congrArg CandidateBackupEvidence.coreVersion proved.same).symm.trans
      (congrArg CandidateBackupEvidence.coreVersion agrees)
  refine ensures_returns_given fun _ => ?_
  refine ensures_returns_checked fun advanced _ => ?_
  have verified : VerifiedBackup row.candidateSha row.coreVersion evidence.backupSlug s :=
    version ▸ proved.verified
  refine ensures_finish (NamedBackup.stands.and VerifiedBackup.stands) ⟨named, verified⟩
    (fun t known => .completes startedAt requested _ _ known.1 known.2) ?_
  refine (every_ensureFinished _ _).bind fun _ => (every_query_looks _).bind fun _ => ?_
  exact (every_ensure _ _).bind fun _ => Every.pure _

/-- A request that is reconciled is completed or blocked. -/
theorem ensures_reconcileBackup {authority : CandidateBackupAuthority}
    (here : row.candidateSha = current.candidateSha) (uncertain : row.phase = .uncertain startedAt)
    (holds : HoldsBackup fromisoformat row s) :
    Ensures BackupOthers (BacksUp fromisoformat)
      (reconcileBackup fromisoformat access row startedAt current authority now)
      (returns fun _ _ => True) s := by
  have requested : row.requestedAt = some startedAt := by
    unfold CandidateBackupCheckpoint.requestedAt
    rw [uncertain]
  refine ensures_ends_bind (m := fun found t => HoldsBackup fromisoformat row t ∧ match found with
      | .ok evidence => EvidenceOf authority.semantic row.candidateSha evidence t ∧
        NamedBackup fromisoformat row.candidateSha row.requestName startedAt evidence.backupSlug t
      | .error failure => FromOutage row.candidateSha true failure t) ?_ fun found t held => ?_
  · rw [← here]
    refine Ensures.tryCatch (Ensures.bind ((ensures_reconcileCandidateBackup access
      (HoldsBackup.stands row) startedAt holds).mono fun result t held => ?_))
    cases result with
    | ok evidence => exact held
    | error failure => exact held
  · cases found with
    | ok evidence => exact ensures_complete requested held.2.1 held.2.2
    | error failure =>
      refine ensures_ends_bind (m := fun _ t => t.backupFailures row.candidateSha ≠ [])
        (ensures_note fun u moved => ⟨?_, ?_⟩) fun _ u failed => ?_
      · have met : FromOutage row.candidateSha true failure u := fun reconciles transient =>
          (held.2 reconciles transient).grows moved.looksOn.exchanges
        exact .fails current.candidateSha failure (fun transient => here ▸ met rfl transient) rfl rfl
          rfl
      · show List.filterMap _ _ ≠ []
        rw [List.filterMap_cons, ← here]
        simp
      · refine ensures_returns_checked fun blocked blocks => ?_
        obtain rfl := block_ok uncertain blocks
        refine ensures_returns_checked fun advanced _ => ?_
        have stands : Unshaken fun s => s.backupFailures row.candidateSha ≠ [] := by
          intro s t looks failed
          show t.backupFailures _ ≠ []
          rw [looks.failures]
          exact failed
        refine ensures_finish stands failed
          (fun t known => .blocks startedAt uncertain now known) ?_
        exact (every_ensureFinished _ _).bind fun _ => Every.pure _

/-- A planned request is sent, and is completed or left to be reconciled. -/
theorem ensures_requestBackup {authority : CandidateBackupAuthority}
    (here : row.candidateSha = current.candidateSha) (planned : row.phase = .planned)
    (holds : HoldsBackup fromisoformat row s) :
    Ensures BackupOthers (BacksUp fromisoformat) (requestBackup access row current authority now)
      (returns fun _ _ => True) s := by
  refine ensures_returns_checked fun started starts => ?_
  obtain rfl : started = { row with phase := .mutationStarted now } := by
    unfold CandidateBackupCheckpoint.start at starts
    split at starts
    · cases starts
    · cases starts
      rfl
  have unsent_stands : Unshaken fun s => s.backupPosts row.candidateSha = 0 :=
    fun s t looks none => (looks.posts _).trans none
  have unsent : s.backupPosts row.candidateSha = 0 :=
    (holds.sound row.candidateSha).unasked fun other found => by
      obtain rfl := Option.some.inj (holds.found.symm.trans found)
      rw [planned]
      rfl
  refine ensures_ends_bind (ensures_transitionCheckpoint unsent_stands unsent_stands unsent holds
    (fun _ _ _ => .starts planned now) fun _ _ unsent replaces => replaces.posts.trans unsent)
    fun _ t held => ?_
  obtain ⟨unsent, holds⟩ := held
  refine ensures_ends_bind (m := fun created t =>
      HoldsBackup fromisoformat { row with phase := .mutationStarted now } t ∧ match created with
      | .ok evidence => EvidenceOf authority.semantic row.candidateSha evidence t ∧
        NamedBackup fromisoformat row.candidateSha row.requestName now evidence.backupSlug t
      | .error _ => True) ?_ fun created t held => ?_
  · rw [← here]
    refine Ensures.tryCatch (Ensures.bind
      ((ensures_createCandidateBackup access rfl holds unsent).mono fun result t held => ?_))
    cases result with
    | ok evidence => exact held
    | error failure => exact ⟨held, trivial⟩
  · cases created with
    | ok evidence =>
      have requested : CandidateBackupCheckpoint.requestedAt
          { row with phase := .mutationStarted now } = some now := rfl
      exact ensures_complete requested held.2.1 held.2.2
    | error failure =>
      refine ensures_returns_checked fun uncertain doubts => ?_
      cases doubts
      have anything : Unshaken fun _ => True := fun _ _ _ _ => trivial
      exact ensures_ends_bind (ensures_transitionCheckpoint anything anything trivial held.1
        (fun _ _ _ => .doubts now rfl) fun _ _ _ _ => trivial) fun _ _ _ => trivial

theorem ensures_continueBackup {authority : CandidateBackupAuthority}
    (here : row.candidateSha = current.candidateSha) (holds : HoldsBackup fromisoformat row s) :
    Ensures BackupOthers (BacksUp fromisoformat)
      (continueBackup fromisoformat access row current authority now)
      (returns fun _ _ => True) s := by
  unfold continueBackup
  cases phase : row.phase with
  | planned => exact ensures_requestBackup access here phase holds
  | uncertain startedAt => exact ensures_reconcileBackup access here phase holds
  | completed => trivial
  | blocked => trivial
  | mutationStarted startedAt =>
    refine ensures_returns_checked fun uncertain doubts => ?_
    obtain rfl : uncertain = { row with phase := .uncertain startedAt } := by
      unfold CandidateBackupCheckpoint.markUncertain at doubts
      rw [phase] at doubts
      cases doubts
      rfl
    have anything : Unshaken fun _ => True := fun _ _ _ _ => trivial
    exact ensures_ends_bind (ensures_transitionCheckpoint anything anything trivial holds
      (fun _ _ _ => .doubts startedAt phase) fun _ _ _ _ => trivial) fun _ _ held =>
      ensures_reconcileBackup access here rfl held.2

/-- A row is planned where there is none. -/
theorem recordPlan_ok {plan : CandidateBackupCheckpoint} {store changed : Store}
    (planned : recordPlan current plan store = .ok ((), changed)) :
    store.backupCheckpoint plan.candidateSha = none ∧
      changed = { store with backupCheckpoints := store.backupCheckpoints ++ [plan] } := by
  obtain ⟨loaded, _, planned⟩ := bind_eq_ok.mp planned
  split at planned
  · cases planned
  next fresh =>
    cases planned
    refine ⟨List.find?_eq_none.mpr fun row member same => fresh (.inr ?_), rfl⟩
    exact List.any_eq_true.mpr ⟨row, member, decide_eq_true (.inl (of_decide_eq_true same))⟩

theorem planBackup_ok {uuid5 : PyStr → String} {authority : CandidateBackupAuthority}
    {plan : CandidateBackupCheckpoint}
    (plans : planBackup uuid5 current authority now = .ok plan) :
    plan.candidateSha = current.candidateSha ∧ plan.phase = .planned := by
  unfold planBackup at plans
  dsimp only at plans
  split at plans
  · cases plans
  · cases plans
    exact ⟨rfl, rfl⟩

theorem loadCandidateBackupCheckpoint_ok {store : Store} {candidateSha : ShortDigest}
    {loaded : Option CandidateBackupCheckpoint}
    (loads : loadCandidateBackupCheckpoint store candidateSha = .ok loaded) :
    store.backupCheckpoint candidateSha = loaded := by
  unfold loadCandidateBackupCheckpoint at loads
  cases found : store.backupCheckpoint candidateSha with
  | none =>
    rw [found] at loads
    cases loads
    rfl
  | some row =>
    rw [found] at loads
    obtain ⟨current, _, loads⟩ := bind_eq_ok.mp loads
    split at loads
    · split at loads
      · cases loads
      · cases loads
        rfl
    · cases loads

variable (fromisoformat) (uuid5 : PyStr → String)

theorem ensures_planAndRequestBackup (sound : BackupsSound fromisoformat s) :
    Ensures BackupOthers (BacksUp fromisoformat)
      (planAndRequestBackup fromisoformat uuid5 access current now) (returns fun _ _ => True) s := by
  refine ensures_ends_bind (m := fun _ t => BackupsSound fromisoformat t)
    ((stands_look BackupsSound.stands sound).mono fun result t held => ?_) fun authority t sound => ?_
  · cases result with
    | ok _ => exact held.1
    | error _ => trivial
  refine ensures_returns_given fun _ => ensures_returns_checked fun plan plans => ?_
  obtain ⟨here, planned⟩ := planBackup_ok plans
  refine ensures_ends_bind (m := fun _ t => HoldsBackup fromisoformat plan t)
    (ensures_transaction (fun u _ store moved recorded => ?_)
      fun u failure _ _ => ⟨.looks (.refl u), trivial⟩) fun _ u holds => ?_
  · have before := BackupsSound.stands _ _ moved.looksOn sound
    obtain ⟨absent, rfl⟩ := recordPlan_ok recorded
    have backs : BacksUp fromisoformat u { u with store := { u.store with
        backupCheckpoints := u.store.backupCheckpoints ++ [plan] } } :=
      .plans plan planned absent rfl rfl rfl
    exact ⟨backs, backs.sound before, Rows.find_added absent rfl⟩
  refine ensures_ends_bind (m := fun _ t => HoldsBackup fromisoformat plan t)
    (ensures_ends_bind (m := fun _ t => HoldsBackup fromisoformat plan t)
      ((stands_look (HoldsBackup.stands plan) holds).mono fun result v held => ?_)
      fun loaded v held => ensures_returns_ensure fun _ => held)
    fun _ v holds => ensures_continueBackup access here holds
  cases result with
  | ok _ => exact held.1
  | error _ => trivial

theorem ensures_resumeBackup (here : row.candidateSha = current.candidateSha)
    (holds : HoldsBackup fromisoformat row s) :
    Ensures BackupOthers (BacksUp fromisoformat)
      (resumeBackup fromisoformat access row current now) (returns fun _ _ => True) s := by
  have continues : Ensures BackupOthers (BacksUp fromisoformat) (do
      let authority ← loadAuthority current.candidateSha
      ensure (bindsAuthority row current authority = true) backupInvalid
      continueBackup fromisoformat access row current authority now)
      (returns fun _ _ => True) s := by
    refine ensures_ends_bind (m := fun _ t => HoldsBackup fromisoformat row t)
      ((stands_look (HoldsBackup.stands row) holds).mono fun result t held => ?_) fun authority t holds => ?_
    · cases result with
      | ok _ => exact held.1
      | error _ => trivial
    · exact ensures_returns_given fun _ => ensures_continueBackup access here holds
  unfold resumeBackup
  split
  · refine (ensures_looks ?_).mono fun result t _ => by cases result <;> trivial
    exact (every_query_looks _).bind fun _ => (every_ensure _ _).bind fun _ => Every.pure _
  · trivial
  · exact continues

theorem ensures_executeCandidateBackupOnce (referenceTime : Option Int)
    (sound : BackupsSound fromisoformat s) :
    Ensures BackupOthers (BacksUp fromisoformat)
      (executeCandidateBackupOnce fromisoformat uuid5 access current referenceTime)
      (returns fun _ _ => True) s := by
  have reads : ∀ {β : Type} (read : Store → Except Failure β) (t : System),
      BackupsSound fromisoformat t → Ensures BackupOthers (BacksUp fromisoformat) (query read)
        (returns fun a u => BackupsSound fromisoformat u ∧ read u.store = .ok a) t :=
    fun read t sound => (stands_look BackupsSound.stands sound).mono fun result u held => by
      cases result with
      | ok _ => exact held
      | error _ => trivial
  refine ensures_ends_bind (m := fun _ t => BackupsSound fromisoformat t) ?_ fun now t sound => ?_
  · cases referenceTime with
    | some time => exact sound
    | none =>
      exact ensures_clock fun t moved =>
        ⟨.looks (.refl t), BackupsSound.stands _ _ moved.looksOn sound⟩
  refine ensures_ends_bind (reads _ t sound) fun loaded t held => ensures_returns_given fun _ => ?_
  refine ensures_ends_bind (reads _ t held.1) fun checkpoint t held => ?_
  cases checkpoint with
  | none => exact ensures_planAndRequestBackup fromisoformat access uuid5 held.1
  | some row =>
    have found := loadCandidateBackupCheckpoint_ok held.2
    have here : row.candidateSha = current.candidateSha := by simpa using List.find?_some found
    exact ensures_resumeBackup fromisoformat access here ⟨held.1, here ▸ found⟩

theorem claimBackupWork_onlyWork (now : Int) : OnlyWork (claimBackupWork now) := by
  intro store item changed claimed
  unfold claimBackupWork at claimed
  dsimp only at claimed
  split at claimed
  · cases claimed
    exact ⟨_, rfl⟩
  · split at claimed
    · cases claimed
    next updated =>
      cases claimed
      obtain ⟨work, rfl⟩ := Store.updateWork_onlyWork updated
      exact ⟨work, rfl⟩

theorem every_onlyWork {α : Type} {change : Store → Except Failure (α × Store)}
    (only : OnlyWork change) : Every LooksOn (transaction change) := by
  refine every_transaction LooksOn.refl fun s a store changed => ?_
  obtain ⟨work, rfl⟩ := only s.store a store changed
  exact .of_store rfl

/-- A failure that is booked on the work is raised again. -/
theorem ensures_executeClaimedBackup (claimed : WorkItem) (sound : BackupsSound fromisoformat s) :
    Ensures BackupOthers (BacksUp fromisoformat)
      (executeClaimedBackup fromisoformat uuid5 access claimed now) (returns fun _ _ => True) s := by
  refine Ensures.tryCatch (Ensures.mono (m := returns fun _ _ => True) ?_ fun result t _ => ?_)
  · refine ensures_ends_bind (m := fun _ t => BackupsSound fromisoformat t)
      ((stands_look BackupsSound.stands sound).mono fun result t held => ?_) fun found t sound => ?_
    · cases result with
      | ok _ => exact held.1
      | error _ => trivial
    · exact ensures_ends_bind (ensures_executeCandidateBackupOnce fromisoformat access uuid5
        (some now) sound) fun _ _ _ => trivial
  · cases result with
    | ok phase => trivial
    | error failure =>
      refine (ensures_looks ?_).mono fun result u _ => by cases result <;> trivial
      refine Every.bind (Every.tryCatch ?_ fun _ => Every.pure _) fun _ => Every.throw _
      exact (every_onlyWork (failWork_onlyWork claimed failure.transient now)).bind fun _ =>
        Every.pure _

/-- A pass does what the execution of its item does, and looks on otherwise. -/
theorem ensures_runCandidateBackupRetriggerPass (referenceTime : Option Int)
    (sound : BackupsSound fromisoformat s) :
    Ensures BackupOthers (BacksUp fromisoformat)
      (runCandidateBackupRetriggerPass fromisoformat uuid5 access referenceTime)
      (returns fun _ _ => True) s := by
  refine ensures_ends_bind (m := fun _ t => BackupsSound fromisoformat t) ?_ fun now t sound => ?_
  · cases referenceTime with
    | some time => exact sound
    | none =>
      exact ensures_clock fun t moved =>
        ⟨.looks (.refl t), BackupsSound.stands _ _ moved.looksOn sound⟩
  refine ensures_ends_bind (m := fun _ t => BackupsSound fromisoformat t)
    (ensures_ends_rethrow (ensures_transaction (fun u item store moved claimed => ?_)
      fun u failure _ _ => ⟨.looks (.refl u), trivial⟩)) fun item t sound => ?_
  · obtain ⟨work, rfl⟩ := claimBackupWork_onlyWork now u.store item store claimed
    have looks : LooksOn u { u with store := { u.store with work := work } } := .of_store rfl
    exact ⟨.looks looks, BackupsSound.stands _ _ looks
      (BackupsSound.stands _ _ moved.looksOn sound)⟩
  cases item with
  | none => trivial
  | some item =>
    refine ensures_ends_bind (m := fun _ t => BackupsSound fromisoformat t) (ensures_ends_rethrow
      ((stands_look BackupsSound.stands sound).mono fun result t held => ?_)) fun claimed t sound => ?_
    · cases result with
      | ok _ => exact held.1
      | error _ => trivial
    · exact ensures_ends_bind (ensures_executeClaimedBackup fromisoformat access uuid5 claimed sound)
        fun _ _ _ => trivial

end Stage

/-! ## Runs -/

section Runs

variable (fromisoformat : String → Option DateTime) (uuid5 : PyStr → String)

/-- The calls of the backup stage: its passes, and executions of one candidate. -/
inductive BackupCall : Prog System Unit → Prop where
  | pass (access : BackupAccess) (referenceTime : Option Int) :
      BackupCall (runCandidateBackupRetriggerPass fromisoformat uuid5 access referenceTime).call
  | execute (access : BackupAccess) (orchestration : CandidateOrchestration)
      (referenceTime : Option Int) :
      BackupCall (executeCandidateBackupOnce fromisoformat uuid5 access orchestration
        referenceTime).call

theorem backupCalls_keep : Prog.Keeps BackupOthers (BacksUp fromisoformat)
    (BackupsSound fromisoformat) (BackupCall fromisoformat uuid5) where
  refl := .refl
  trans := .trans
  others := fun _ _ sound moved => BackupsSound.stands _ _ moved.looksOn sound
  actions := fun _ _ sound backs => backs.sound sound
  safe := by
    rintro call (⟨access, time⟩ | ⟨access, orchestration, time⟩) s sound
    · exact call_safe ((ensures_runCandidateBackupRetriggerPass fromisoformat access uuid5 time
        sound).mono fun _ _ _ => trivial)
    · exact call_safe ((ensures_executeCandidateBackupOnce fromisoformat access uuid5 time
        sound).mono fun _ _ _ => trivial)

end Runs

end SyncApp
