import SyncApp.Pipeline.Finalization
import SyncApp.Pipeline.LocalSync

/-!
# Promotion

A deployment that was finalized as a success makes its candidate Repo B's `main` and tags it as
known good. The plan is durable before any ref is written, and the refs are read again before the
row becomes terminal.

With a token, GitHub's API reads the refs one by one and writes them one by one; with a deploy key,
Git reads them at once and pushes the missing ones atomically. Neither forces a ref.
-/

set_option autoImplicit false

namespace SyncApp

open Lib Raising Lane

def promotionInvalid : Failure := ⟨"deployment promotion state is invalid", false⟩

def promotionBlocked : Failure := ⟨"deployment promotion is blocked", false⟩

def promotionUnavailable : Failure := ⟨"deployment promotion transport is unavailable", true⟩

/-- `syncapp-known-good-…`. -/
def knownGoodTag (deploymentId : PyStr) : PyStr := text "syncapp-known-good-" ++ deploymentId

/-! ## The record -/

/-- What is not a promotion error of its own is an invalid state. -/
def orPromotionInvalid {α : Type} (result : Except Failure α) : Except Failure α :=
  result.mapError fun _ => promotionInvalid

/-- `_successful_finalization`. -/
def successfulFinalization (store : Store) (plan : PostDeploymentAssertionPlan) :
    Except Failure DeploymentFinalization := do
  match ← orPromotionInvalid (loadDeploymentFinalization store plan) with
  | some finalization =>
    if finalization.outcome = .success then .ok finalization
    else .error ⟨"successful deployment finalization is required", false⟩
  | none => .error ⟨"successful deployment finalization is required", false⟩

/-- The promotion that a finalization and its prepared deployment ask for. -/
def plannedPromotion (finalization : DeploymentFinalization) (prepared : PreparedEvidence)
    (plannedAt : Int) : DeploymentPromotion :=
  ⟨finalization.deploymentId, prepared.target, prepared.repositoryId, finalization.candidateSha,
    prepared.baselineSha, finalization.backupSlug, finalization,
    knownGoodTag finalization.deploymentId, .planned, plannedAt⟩

/-- `load_deployment_promotion`. -/
def loadDeploymentPromotion (store : Store) (plan : PostDeploymentAssertionPlan) :
    Except Failure (Option DeploymentPromotion) := do
  match store.promotions.find? (·.deploymentId = plan.deploymentId) with
  | none => return none
  | some row =>
    let finalization ← successfulFinalization store plan
    match store.preparedDeployment plan.deploymentId with
    | none => .error promotionInvalid
    | some prepared =>
      if { row with phase := .planned } ≠ plannedPromotion finalization prepared row.plannedAt ∨
          row.plannedAt < finalization.finalizedAt then .error promotionInvalid
      else return some row

/-- The time of a terminal phase. -/
def PromotionPhase.terminalAt : PromotionPhase → Option Int
  | .planned => none
  | .completed terminalAt => some terminalAt
  | .blocked terminalAt => some terminalAt

/-- `DeploymentPromotion.validate` of a record about to be written: a promotion moves `main`, and
ends no earlier than it was planned. -/
def DeploymentPromotion.valid (promotion : DeploymentPromotion) : Bool :=
  promotion.candidateSha ≠ promotion.baselineSha ∧
    promotion.phase.terminalAt.all (promotion.plannedAt ≤ ·) = true

/-- The transaction of `_insert_plan`. -/
def insertPromotion (plan : PostDeploymentAssertionPlan) (requested : DeploymentPromotion)
    (store : Store) : Except Failure (DeploymentPromotion × Store) := do
  let _ ← successfulFinalization store plan
  match ← loadDeploymentPromotion store plan with
  | some existing => return (existing, store)
  | none =>
    if requested.valid then
      return (requested, { store with promotions := store.promotions ++ [requested] })
    else .error promotionInvalid

/-- Whether two phases are the same but for their time. -/
def PromotionPhase.same : PromotionPhase → PromotionPhase → Bool
  | .planned, .planned => true
  | .completed _, .completed _ => true
  | .blocked _, .blocked _ => true
  | _, _ => false

/-- The transaction of `_set_terminal`. -/
def setTerminalPromotion (plan : PostDeploymentAssertionPlan) (current : DeploymentPromotion)
    (phase : PromotionPhase) (store : Store) : Except Failure (DeploymentPromotion × Store) := do
  match ← loadDeploymentPromotion store plan with
  | none => .error promotionInvalid
  | some loaded =>
    if loaded.phase.same phase then return (loaded, store)
    else if loaded ≠ current ∨ loaded.phase ≠ .planned then .error promotionInvalid
    else
      let requested := { current with phase := phase }
      return (requested, { store with
        promotions := store.promotions.map fun row => if row = current then requested else row })

/-! ## The refs -/

inductive PromotionDisposition where
  | blocked
  | completed
  | publish
deriving DecidableEq

/-- `_disposition`. -/
def promotionDisposition (intent : DeploymentPromotion) (state : PromotionRemoteState) :
    PromotionDisposition :=
  if state.candidateSha ≠ intent.candidateSha then .blocked
  else if state.mainSha ≠ intent.baselineSha ∧ state.mainSha ≠ intent.candidateSha then .blocked
  else if state.tagSha ≠ none ∧ state.tagSha ≠ some intent.candidateSha then .blocked
  else if state.mainSha = intent.candidateSha ∧ state.tagSha = some intent.candidateSha then
    .completed
  else .publish

/-- `_validate_authorized_state` of the deploy-key transport. -/
def authorizedState (intent : DeploymentPromotion) (state : PromotionRemoteState) : Bool :=
  promotionDisposition intent state ≠ .blocked

def fetchTag (tag : PyStr) : Lane (Option ObjectId) :=
  outside fun system => .ok (system.remote.tags tag, system)

/-- `fetch_trusted_branch_head`, with the commit it insists on. -/
def fetchTrustedCommit (intent : DeploymentPromotion) (branch : PyStr) : Lane ObjectId := do
  let head ← fetchTrustedBranchHead intent.target intent.repositoryId branch
  match head.commitSha with
  | some commitSha => return commitSha
  | none => throw (repositoryFailure "Trusted repository branch does not exist")

/-- `read_promotion_remote_state`. -/
def readPromotionRemoteState (intent : DeploymentPromotion) : Lane PromotionRemoteState := do
  let candidate ← fetchTrustedCommit intent candidateBranch
  let main ← fetchTrustedCommit intent mainBranch
  let tag ← fetchTag intent.knownGoodTag
  return ⟨candidate, main, tag⟩

/-- `read_promotion_remote_state_with_deploy_key`. -/
def readPromotionRemoteStateWithDeployKey (intent : DeploymentPromotion) :
    Lane PromotionRemoteState :=
  outside fun system =>
    match system.remote.head intent.target intent.repositoryId candidateBranch, system.candidate,
        system.main with
    | .ok _, some candidate, some main =>
      .ok (⟨candidate, main, system.remote.tags intent.knownGoodTag⟩, system)
    | _, _, _ => .error ⟨"promotion reference evidence is invalid", false⟩

/-- `_read_remote`, and `authority.read` for a deploy key. -/
def readRemote (credential : PublicationCredential) (intent : DeploymentPromotion) :
    Lane PromotionRemoteState := do
  let state ← match credential with
    | .token => rethrow (readPromotionRemoteState intent) fun _ => promotionUnavailable
    | .deployKey => rethrow (readPromotionRemoteStateWithDeployKey intent) fun failure =>
        ⟨"deployment promotion authority failed", failure.transient⟩
  note (.observedRefs intent.deploymentId state)
  return state

section

variable (git : Git)

/-- A tag is created where there is none. -/
def createTag (tag : PyStr) (commitSha : ObjectId) : Lane Unit :=
  request fun system =>
    match system.remote.tags tag with
    | some _ => .error ⟨"promotion GitHub request failed with HTTP 422", false⟩
    | none => .ok ((), { system with remote := system.remote.addTag tag commitSha })

/-- `main` is moved forward where there is one. -/
def updateMain (commitSha : ObjectId) : Lane Unit :=
  request fun system =>
    if system.main.any (git.isAncestor · commitSha) then
      .ok ((), { system with remote := system.remote.move mainBranch commitSha })
    else .error ⟨"promotion GitHub request failed with HTTP 422", false⟩

/-- `fetch_and_verify_private_repository`. -/
def verifyRepository (intent : DeploymentPromotion) : Lane Unit :=
  outside fun system =>
    match system.remote.head intent.target intent.repositoryId mainBranch with
    | .ok _ => .ok ((), system)
    | .error failure => .error failure

/-- `main`, where it is missing the candidate. -/
def publishMain (intent : DeploymentPromotion) (state : PromotionRemoteState) : Lane Unit :=
  if state.mainSha = intent.baselineSha then updateMain git intent.candidateSha
  else ensure (state.mainSha = intent.candidateSha) ⟨"promotion GitHub state is invalid", false⟩

/-- The tag, where it is missing. -/
def publishTag (intent : DeploymentPromotion) (state : PromotionRemoteState) : Lane Unit :=
  match state.tagSha with
  | none => createTag intent.knownGoodTag intent.candidateSha
  | some tagSha => ensure (tagSha = intent.candidateSha) ⟨"promotion GitHub state is invalid", false⟩

/-- `publish_promotion_refs`: `main` first, and the tag after it. -/
def publishPromotionRefs (intent : DeploymentPromotion) (state : PromotionRemoteState) :
    Lane Unit := do
  verifyRepository intent
  ensure (state.candidateSha = intent.candidateSha) ⟨"promotion GitHub state is invalid", false⟩
  publishMain git intent state
  publishTag intent state

/-- `fetch_trusted_candidate_with_deploy_key`: what is fetched must be the candidate. -/
def fetchTrustedCandidate (intent : DeploymentPromotion) : Lane Unit :=
  outside fun system =>
    if system.candidate = some intent.candidateSha then .ok ((), system)
    else .error ⟨"promotion candidate fetch authority is invalid", false⟩

/-- `git push --atomic` of the missing refs. -/
def pushMissingRefs (intent : DeploymentPromotion) (state : PromotionRemoteState) : Lane Unit :=
  request fun system =>
    let moves := state.mainSha = intent.baselineSha
    let tags := state.tagSha = none
    if (moves → system.main.all (git.isAncestor · intent.candidateSha) = true) ∧
        (tags → (system.remote.tags intent.knownGoodTag).all (· = intent.candidateSha) = true) then
      let moved := if moves then system.remote.move mainBranch intent.candidateSha else system.remote
      let tagged := if tags then moved.addTag intent.knownGoodTag intent.candidateSha else moved
      .ok ((), { system with remote := tagged })
    else .error ⟨"deploy-key promotion authority is invalid", false⟩

/-- `publish_promotion_refs_with_deploy_key`. -/
def publishPromotionRefsWithDeployKey (intent : DeploymentPromotion)
    (state : PromotionRemoteState) : Lane Unit := do
  let fresh ← readPromotionRemoteStateWithDeployKey intent
  ensure (authorizedState intent fresh) ⟨"promotion remote refs diverged", false⟩
  ensure (fresh = state) ⟨"promotion remote state changed after authorization", false⟩
  if promotionDisposition intent fresh = .completed then return
  else
    fetchTrustedCandidate intent
    let immediate ← readPromotionRemoteStateWithDeployKey intent
    ensure (authorizedState intent immediate) ⟨"promotion remote refs diverged", false⟩
    if promotionDisposition intent immediate = .completed then return
    else
      ensure (immediate = fresh) ⟨"promotion remote state changed before publication", false⟩
      pushMissingRefs git intent immediate
      let after ← readPromotionRemoteStateWithDeployKey intent
      match promotionDisposition intent after with
      | .completed => return
      | .publish => throw ⟨"promotion publication could not be confirmed", true⟩
      | .blocked => throw ⟨"promotion remote refs diverged", false⟩

/-- The publisher of either credential. -/
def publishRefs (credential : PublicationCredential) (intent : DeploymentPromotion)
    (state : PromotionRemoteState) : Lane Unit := do
  note (.publisherCalled intent.deploymentId)
  match credential with
  | .token => rethrow (publishPromotionRefs git intent state) fun _ => promotionUnavailable
  | .deployKey => rethrow (publishPromotionRefsWithDeployKey git intent state) fun failure =>
      ⟨"deployment promotion authority failed", failure.transient⟩

/-! ## The promotion -/

/-- A row becomes terminal, as `_set_terminal` writes it. -/
def setTerminal (plan : PostDeploymentAssertionPlan) (current : DeploymentPromotion)
    (phase : PromotionPhase) : Lane DeploymentPromotion := do
  ensure ({ current with phase := phase : DeploymentPromotion }.valid) promotionInvalid
  transaction (setTerminalPromotion plan current phase)

/-- What a remote state leaves to do: the row becomes terminal, or `publish` goes on. -/
def settlePromotion (plan : PostDeploymentAssertionPlan) (intent : DeploymentPromotion)
    (state : PromotionRemoteState) (now : Int) (publish : Lane DeploymentPromotion) :
    Lane DeploymentPromotion :=
  match promotionDisposition intent state with
  | .blocked => do
    let _ ← setTerminal plan intent (.blocked now)
    throw promotionBlocked
  | .completed => setTerminal plan intent (.completed now)
  | .publish => publish

/-- The planned row of a deployment, inserted where there is none. -/
def planPromotion (plan : PostDeploymentAssertionPlan) (existing : Option DeploymentPromotion)
    (now : Int) : Lane DeploymentPromotion := do
  let finalization ← query (successfulFinalization · plan)
  let prepared ← query fun store =>
    match store.preparedDeployment finalization.deploymentId with
    | none => .error promotionInvalid
    | some prepared => .ok prepared
  ensure (finalization.finalizedAt ≤ now) promotionInvalid
  match existing with
  | some existing => return existing
  | none => transaction (insertPromotion plan (plannedPromotion finalization prepared now))

/-- A planned promotion, carried out. -/
def carryOutPromotion (credential : PublicationCredential) (plan : PostDeploymentAssertionPlan)
    (intent : DeploymentPromotion) (now : Int) : Lane DeploymentPromotion := do
  let before ← readRemote credential intent
  settlePromotion plan intent before now do
    publishRefs git credential intent before
    let after ← readRemote credential intent
    settlePromotion plan intent after now (throw promotionUnavailable)

/-- `promote_finalized_deployment_once`. -/
def promoteFinalizedDeploymentOnce (credential : PublicationCredential)
    (plan : PostDeploymentAssertionPlan) (now : Int) : Lane DeploymentPromotion := do
  let existing : Option DeploymentPromotion ← query (loadDeploymentPromotion · plan)
  match existing.map fun row => (row, row.phase) with
  | some (row, PromotionPhase.completed _) => return row
  | some (_, PromotionPhase.blocked _) => throw promotionBlocked
  | _ =>
    let intent ← planPromotion plan existing now
    carryOutPromotion git credential plan intent now

/-! ## The lane -/

def promotionFailedClosed (transient : Bool) : Failure :=
  ⟨"Candidate promotion failed closed", transient⟩

/-- The transaction of `_finish`. -/
def finishPromotion (item : WorkItem) (plan : PostDeploymentAssertionPlan) (now : Int)
    (store : Store) : Except Failure (WorkItem × Store) := do
  let current ← (loadPlan store item.workKey).mapError fun _ => promotionFailedClosed false
  let promotion : Option DeploymentPromotion ←
    (loadDeploymentPromotion store current).mapError fun failure =>
    promotionFailedClosed failure.transient
  match promotion.map (·.phase) with
  | some (PromotionPhase.completed _) =>
    if current ≠ plan then .error (promotionFailedClosed false)
    else (completeWork item now store).mapError fun _ => promotionFailedClosed false
  | _ => .error (promotionFailedClosed false)

/-- `execute_candidate_promotion_once`. -/
def executeCandidatePromotionOnce (credential : PublicationCredential) (item : WorkItem) (now : Int) :
    Lane WorkItem := do
  ensure (item.workKind = .candidatePromote ∧ item.status = .running ∧ 1 ≤ item.attempts)
    (promotionFailedClosed false)
  rethrow (do
    let plan : PostDeploymentAssertionPlan ← query (loadPlan · item.workKey)
    let promoted : DeploymentPromotion ← promoteFinalizedDeploymentOnce git credential plan now
    match promoted.phase with
    | PromotionPhase.completed _ => transaction (finishPromotion item plan now)
    | _ => throw (promotionFailedClosed false))
    fun failure => promotionFailedClosed failure.transient

end

end SyncApp
