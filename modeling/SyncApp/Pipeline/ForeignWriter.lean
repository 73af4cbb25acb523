import SyncApp.Pipeline.Publishing

/-!
# Synchronization beside a foreign writer

Somebody else may move any ref of Repo B between any two steps of a cycle. What the cycle still knows
of the head is that it observed it last; the push is no compare-and-swap, so GitHub takes it wherever
it is a fast forward, also over a `main` that was deleted or moved back after it was observed.
-/

set_option autoImplicit false

namespace SyncApp

open Lib Raising Lane

/-- The last trusted read of a branch. -/
def lastObserved (events : List Event) : Option BranchHead :=
  events.findSome? fun event =>
    match event with
    | .observedBranch head => some head
    | _ => none

/-- A foreign writer: everything but the baselines and the binding may change, and an observed head is
worth that it was observed last. -/
def foreignWriter : Watch where
  rely := Others
  sees system head := lastObserved system.events = some head
  others := fun _ _ moved => moved
  stable := fun _ _ _ moved sees => (congrArg lastObserved moved.events).trans sees
  fresh := fun _ _ _ _ _ _ => rfl
  renamed := fun _ _ _ _ _ _ => rfl
  reproved := fun _ _ _ sees => sees

section

variable (git : Git) (capture : FileSystem PyStr → LocalSource) (target : PyStr)

/-- The cycles on one target, with either credential. -/
def synchronizations : Prog System (Except Failure LocalSyncResult) → Prop := fun call =>
  ∃ credential branch, call = (synchronizeLocalConfiguration git capture credential target branch).run

/-- What an action may do to Repo B and to the baselines: push a commit made on the head that is
stored, was observed last and is the one it replaces, and record a commit that was observed after it
was pushed, with the snapshot that was proved again. -/
structure OverwritesNothing (s t : System) : Prop where
  remote : t.remote = s.remote ∨ ∃ seen index time,
    lastObserved s.events = some seen ∧ seen.branch = mainBranch ∧
      s.stored target = seen.commitSha ∧ s.main = seen.commitSha ∧
      t.remote = s.remote.move mainBranch (git.commit index seen.commitSha time)
  baselines : t.store.baselines = s.store.baselines ∨ ∃ row,
    row.branch = mainBranch ∧ t.store = s.store.recordSynchronizationBaseline row ∧
      Confirmed row s.events

/-- `main` is behind the stored commit, or gone. -/
def Rewound (s : System) : Prop :=
  ∃ commitSha, s.stored target = some commitSha ∧
    (s.main = none ∨ ∃ earlier, s.main = some earlier ∧ earlier ≠ commitSha ∧
      git.isAncestor earlier commitSha = true)

end

section

variable {git : Git} {target : PyStr} {s t : System}

/-- A branch that is at a commit already is not moved. -/
theorem RemoteRepository.move_same {remote : RemoteRepository} {branch : PyStr}
    {commitSha : ObjectId} (there : remote.branches branch = some commitSha) :
    remote.move branch commitSha = remote := by
  have same : (fun name => if name = branch then some commitSha else remote.branches name) =
      remote.branches := by
    funext name
    split
    next at_branch => rw [at_branch, there]
    next => rfl
  unfold RemoteRepository.move
  rw [same]

/-- A push that lands on a branch which is not behind the agreed head replaces that head, or
nothing. -/
theorem replaces_agreed {index : GitTree} {seen : BranchHead} {time : Int}
    (stored : s.stored target = seen.commitSha)
    (forward : s.main.all (git.isAncestor · (git.commit index seen.commitSha time)) = true)
    (remote : t.remote = s.remote.move mainBranch (git.commit index seen.commitSha time))
    (upToDate : ¬Rewound git target s) :
    s.main = seen.commitSha ∨ t.remote = s.remote := by
  cases at_main : s.main with
  | none =>
    cases head : seen.commitSha with
    | none => exact .inl rfl
    | some commitSha => exact absurd ⟨commitSha, stored.trans head, .inl at_main⟩ upToDate
  | some replaced =>
    rw [at_main] at forward
    rcases git.commit_ancestor _ _ _ _ forward with same | ⟨parent, head, behind⟩
    · exact .inr (remote.trans (RemoteRepository.move_same (at_main.trans (congrArg some same))))
    · by_cases same : replaced = parent
      · exact .inl ((congrArg some same).trans head.symm)
      · exact absurd ⟨parent, stored.trans head, .inr ⟨replaced, at_main, same, behind⟩⟩ upToDate

/-- **An action of a cycle overwrites nothing, unless it pushes over a branch that was moved back.** -/
theorem Publishes.overwritesNothing_iff (publishes : Publishes git foreignWriter target s t) :
    OverwritesNothing git target s t ↔ (t.remote ≠ s.remote → ¬Rewound git target s) := by
  cases publishes with
  | looks idle => exact ⟨fun _ moved => absurd idle.remote moved,
      fun _ => ⟨.inl idle.remote, .inl idle.baselines⟩⟩
  | records row seen store remote branch confirmed =>
    exact ⟨fun _ moved => absurd remote moved,
      fun _ => ⟨.inl remote, .inr ⟨row, branch, store, confirmed⟩⟩⟩
  | pushes index seen time stored sees at_branch forward store remote =>
    have baselines : t.store.baselines = s.store.baselines := congrArg Store.baselines store
    constructor
    · intro nothing moved
      rcases nothing.remote with same | ⟨seen', _, _, sees', _, _, replaced, _⟩
      · exact absurd same moved
      obtain rfl : seen = seen' := Option.some.inj (sees.symm.trans sees')
      rintro ⟨commitSha, agreed, absent | ⟨earlier, behind, other, _⟩⟩
      · exact nomatch absent.symm.trans (replaced.trans (stored.symm.trans agreed))
      · exact other (Option.some.inj (behind.symm.trans (replaced.trans (stored.symm.trans agreed))))
    · intro upToDate
      by_cases same : t.remote = s.remote
      · exact ⟨.inl same, .inl baselines⟩
      rcases replaces_agreed stored forward remote (upToDate same) with replaced | unmoved
      · exact ⟨.inr ⟨seen, index, time, sees, at_branch, stored, replaced, remote⟩, .inl baselines⟩
      · exact absurd unmoved same

end

/-! ## Evidence -/

/-- What the preflight says, in the words of the refusal that comes before it. -/
def PublicationDisposition.refusal : PublicationDisposition → Option LocalSyncDisposition
  | .safeToPublish | .safeToInitialize | .noChange | .alreadyPublished => none
  | .diverged => some .diverged
  | .remoteMissing => some .remoteMissing
  | .baselineRequired => some .baselineRequired

/-- The evidence of a cycle: a head of the bound repository's branch, and the row stored for it. -/
structure CycleEvidence (target : PyStr) (repositoryId : Int) (branch : PyStr)
    (remote : BranchHead) (baseline : Option SynchronizationBaseline) : Prop where
  named : casefoldTarget remote.target = casefoldTarget target
  bound : remote.repositoryId = repositoryId
  at_branch : remote.branch = branch
  stored : ∀ row, baseline = some row → row.target = target ∧ row.branch = branch

/-- The refusal and the preflight come to the same verdict on one head and one row. -/
def Agree (target : PyStr) (repositoryId : Int) (branch : PyStr) (snapshotId : Digest)
    (localCommitSha : ObjectId) (remote : BranchHead) (baseline : Option SynchronizationBaseline) :
    Prop :=
  ∃ refusal preflight,
    classifyPreCommitRefusal target repositoryId branch snapshotId remote baseline = .ok refusal ∧
      assessPublicationPreflight localCommitSha remote baseline = .ok preflight ∧
      refusal.map (·.disposition) = preflight.disposition.refusal

/-- What the two say where a row is stored and the branch is there. -/
theorem classify_present {target : PyStr} {repositoryId : Int} {branch : PyStr}
    {remote : BranchHead} {row : SynchronizationBaseline} {commitSha : ObjectId}
    (snapshotId : Digest) (localCommitSha : ObjectId)
    (evidence : CycleEvidence target repositoryId branch remote (some row))
    (present : remote.commitSha = some commitSha) :
    classifyPreCommitRefusal target repositoryId branch snapshotId remote (some row) =
        .ok (if commitSha = row.commitSha then none else some ⟨.diverged, remote.target,
          remote.repositoryId, remote.branch, snapshotId, none, some row⟩) ∧
      assessPublicationPreflight localCommitSha remote (some row) =
        .ok ⟨if commitSha = row.commitSha then
            if localCommitSha = commitSha then .noChange else .safeToPublish
          else if commitSha = localCommitSha then .alreadyPublished else .diverged,
          remote.target, remote.repositoryId, remote.branch, localCommitSha, remote.commitSha,
          some row.commitSha⟩ := by
  obtain ⟨same_target, same_branch⟩ := evidence.stored row rfl
  constructor
  · by_cases same : commitSha = row.commitSha <;>
      simp [classifyPreCommitRefusal, present, same, same_target, same_branch, evidence.named,
        evidence.bound, evidence.at_branch]
  · by_cases same : commitSha = row.commitSha
    · by_cases unchanged : localCommitSha = row.commitSha <;>
        simp [assessPublicationPreflight, present, same, unchanged, same_target, same_branch,
          evidence.named, evidence.at_branch]
    · by_cases published : localCommitSha = commitSha
      · subst published
        simp [assessPublicationPreflight, present, same, same_target, same_branch, evidence.named,
          evidence.at_branch]
      · simp [assessPublicationPreflight, present, same, Ne.symm published, same_target,
          same_branch, evidence.named, evidence.at_branch]

/-- **The two agree unless the head already is the local commit** while another is stored. -/
theorem agree_iff {target : PyStr} {repositoryId : Int} {branch : PyStr} {snapshotId : Digest}
    {localCommitSha : ObjectId} {remote : BranchHead} {baseline : Option SynchronizationBaseline}
    (evidence : CycleEvidence target repositoryId branch remote baseline) :
    Agree target repositoryId branch snapshotId localCommitSha remote baseline ↔
      ¬∃ row, baseline = some row ∧ row.commitSha ≠ localCommitSha ∧
        remote.commitSha = some localCommitSha := by
  unfold Agree
  cases baseline with
  | none =>
    cases present : remote.commitSha <;>
      simp [classifyPreCommitRefusal, assessPublicationPreflight, present,
        PublicationDisposition.refusal]
  | some row =>
    obtain ⟨same_target, same_branch⟩ := evidence.stored row rfl
    cases present : remote.commitSha with
    | none =>
      simp [classifyPreCommitRefusal, assessPublicationPreflight, present, same_target, same_branch,
        evidence.named, evidence.at_branch, PublicationDisposition.refusal]
    | some commitSha =>
      obtain ⟨classified, assessed⟩ := classify_present snapshotId localCommitSha evidence present
      rw [classified, assessed]
      by_cases same : commitSha = row.commitSha
      · by_cases unchanged : localCommitSha = commitSha <;>
          simp [same, unchanged, PublicationDisposition.refusal]
        grind
      · by_cases published : commitSha = localCommitSha <;>
          simp [same, published, PublicationDisposition.refusal]
        grind

/-! ## Every run -/

section

variable {git : Git} {capture : FileSystem PyStr → LocalSource} {target : PyStr}

/-- Cycles beside a foreign writer, as a service. -/
theorem synchronizations_keep : Prog.Keeps Others (Publishes git foreignWriter target)
    (fun _ => True) (synchronizations git capture target) where
  refl := Others.refl
  trans := fun _ _ _ => Others.trans
  others := fun _ _ _ _ => trivial
  actions := fun _ _ _ _ => trivial
  safe := by
    rintro call ⟨credential, branch, rfl⟩ s _
    have ensured : Ensures foreignWriter.rely (Publishes git foreignWriter target)
        (synchronizeLocalConfiguration git capture credential target branch) _ s :=
      ensures_synchronize capture credential branch s
    exact Prog.Safe.mono ensured fun _ _ _ => trivial

end

/-! ## A deleted branch -/

/-- A configuration of one empty file. -/
def oneFile : LocalSource :=
  ⟨sha256Empty [], [([text "configuration.yaml"], .blob .regular [])]⟩

def homeTarget : PyStr := text "home/config"

/-- The first commit is stored, and Repo B's `main`. -/
def synchronizedHome : System :=
  { setUp homeTarget oneFile.snapshotId with
    store := (setUp homeTarget oneFile.snapshotId).store.recordSynchronizationBaseline
      ⟨homeTarget, mainBranch, oneFile.snapshotId, firstCommit, 0⟩
    remote := (setUp homeTarget oneFile.snapshotId).remote.move mainBranch firstCommit }

/-- Repo B without branches. -/
def withoutBranches (system : System) : System :=
  { system with remote := { system.remote with branches := fun _ => none } }

/-- A cycle of `synchronizedHome`. -/
def homeCycle : Prog System (Except Failure LocalSyncResult) :=
  (synchronizeLocalConfiguration threeCommits (fun _ => oneFile) .token homeTarget mainBranch).run

/-- The cycle right before it pushes, after somebody deleted `main`. -/
def beforePush : System := withoutBranches (homeCycle.advance 12 synchronizedHome).2

/-- The push is the next action then. -/
theorem beforePush_reached : ∃ update next,
    Prog.Reach Others (synchronizations threeCommits (fun _ => oneFile) homeTarget)
      (.rest synchronizedHome) (.call (.act update next) beforePush) ∧
    update beforePush = ((homeCycle.advance 12 synchronizedHome).1.advance 1 beforePush).2 := by
  obtain ⟨update, next, same, updated⟩ :=
    Prog.exists_act (show (homeCycle.advance 12 synchronizedHome).1.isDone = false by decide)
  refine ⟨update, next, ?_, (updated beforePush).symm⟩
  rw [← same]
  refine .tail (.head (.start ⟨.token, mainBranch, rfl⟩ synchronizedHome)
    (Prog.Reach.advance 12 homeCycle synchronizedHome)) (.others_call ⟨rfl, rfl, rfl⟩)

end SyncApp
