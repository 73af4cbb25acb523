import SyncApp.Pipeline.Queue

/-!
# Finalization

The one outcome of a deployment: the first observation that failed decides it, and success needs all
five. A record counts only while the observations still decide the same.
-/

set_option autoImplicit false

namespace SyncApp

open Lib Raising Lane

def finalizationInvalid : Failure := ⟨"deployment finalization state is invalid", false⟩

def finalizationIncomplete : Failure := ⟨"deployment finalization evidence is incomplete", true⟩

def observationStages : List ObservationStage :=
  [.startupErrors, .resourceAvailability, .entityStates, .automationScriptLoad,
    .postDeploymentAssertions]

namespace Store

def observation (store : Store) (deploymentId : PyStr) (stage : ObservationStage) :
    Option StageObservation :=
  store.observations.find? fun row => row.deploymentId = deploymentId ∧ row.stage = stage

end Store

/-- `_load_plan`. -/
def loadPlan (store : Store) (deploymentId : PyStr) : Except Failure PostDeploymentAssertionPlan :=
  match store.plans deploymentId with
  | none => .error ⟨"Candidate assertion observation failed closed", false⟩
  | some plan => .ok plan

/-- The observations of the stages in order up to the first that failed, after which none may be
recorded. -/
def decideStages (store : Store) (deploymentId : PyStr) :
    List ObservationStage → Except Failure (DeploymentOutcome × List StageObservation)
  | [] => .ok (.success, [])
  | stage :: stages =>
    match store.observation deploymentId stage with
    | none => .error finalizationIncomplete
    | some row =>
      if row.failedCount ≠ 0 then
        if stages.any fun later => (store.observation deploymentId later).isSome then
          .error finalizationInvalid
        else .ok (.failure stage, [row])
      else do
        let (outcome, chain) ← decideStages store deploymentId stages
        return (outcome, row :: chain)

/-- `terminal_at`: when the last observation of the chain was made. -/
def terminalAt (chain : List StageObservation) : Int :=
  (chain.getLast?.map (·.observedAt)).getD 0

/-- `DeploymentFinalization.create` of `_decision`. -/
def decideFinalization (store : Store) (plan : PostDeploymentAssertionPlan) (finalizedAt : Int) :
    Except Failure DeploymentFinalization := do
  match store.preparedDeployment plan.deploymentId with
  | none => .error finalizationInvalid
  | some prepared =>
    if prepared.candidateSha ≠ plan.candidateSha then .error finalizationInvalid
    else
      let (outcome, chain) ← decideStages store plan.deploymentId observationStages
      if finalizedAt < terminalAt chain then .error finalizationInvalid
      else .ok ⟨plan.deploymentId, prepared.candidateSha, prepared.backupSlug, chain, outcome,
        finalizedAt⟩

/-- `load_deployment_finalization`. -/
def loadDeploymentFinalization (store : Store) (plan : PostDeploymentAssertionPlan) :
    Except Failure (Option DeploymentFinalization) := do
  match store.finalizations.find? (·.deploymentId = plan.deploymentId) with
  | none => return none
  | some row =>
    let expected ← decideFinalization store plan row.finalizedAt
    if row ≠ expected then .error finalizationInvalid
    else return some row

/-- The transaction of `finalize_deployment_once`. -/
def insertFinalization (plan : PostDeploymentAssertionPlan) (requested : DeploymentFinalization)
    (store : Store) : Except Failure (DeploymentFinalization × Store) := do
  let decided ← decideFinalization store plan requested.finalizedAt
  if requested ≠ decided then .error finalizationInvalid
  else
    match ← loadDeploymentFinalization store plan with
    | some existing => return (existing, store)
    | none => return (requested, { store with finalizations := store.finalizations ++ [requested] })

/-- `finalize_deployment_once`. -/
def finalizeDeploymentOnce (plan : PostDeploymentAssertionPlan) (now : Int) :
    Lane DeploymentFinalization := do
  let existing ← query (loadDeploymentFinalization · plan)
  match existing with
  | some existing => return existing
  | none =>
    let requested ← query (decideFinalization · plan now)
    transaction (insertFinalization plan requested)

/-- The row that is loaded is the table's, and what the observations decide still. -/
theorem loadDeploymentFinalization_some {store : Store} {plan : PostDeploymentAssertionPlan}
    {row : DeploymentFinalization} (loaded : loadDeploymentFinalization store plan = .ok (some row)) :
    store.finalizations.find? (·.deploymentId = plan.deploymentId) = some row ∧
      decideFinalization store plan row.finalizedAt = .ok row := by
  unfold loadDeploymentFinalization at loaded
  cases found : store.finalizations.find? (·.deploymentId = plan.deploymentId) with
  | none => rw [found] at loaded; cases loaded
  | some found_row =>
    rw [found] at loaded
    obtain ⟨expected, decided, loaded⟩ := bind_eq_ok.mp loaded
    split at loaded
    · cases loaded
    next same =>
      cases loaded
      exact ⟨rfl, decided.trans (congrArg Except.ok (not_not.mp same).symm)⟩

theorem loadDeploymentFinalization_none {store : Store} {plan : PostDeploymentAssertionPlan}
    (loaded : loadDeploymentFinalization store plan = .ok none) :
    store.finalizations.find? (·.deploymentId = plan.deploymentId) = none := by
  unfold loadDeploymentFinalization at loaded
  cases found : store.finalizations.find? (·.deploymentId = plan.deploymentId) with
  | none => rfl
  | some found_row =>
    rw [found] at loaded
    obtain ⟨expected, _, loaded⟩ := bind_eq_ok.mp loaded
    split at loaded
    · cases loaded
    · cases loaded

theorem decideStages_congr {first second : Store} (same : second.observations = first.observations)
    (deploymentId : PyStr) (stages : List ObservationStage) :
    decideStages second deploymentId stages = decideStages first deploymentId stages := by
  have observed : second.observation deploymentId = first.observation deploymentId := by
    unfold Store.observation
    rw [same]
  induction stages with
  | nil => rfl
  | cons stage stages ih =>
    unfold decideStages
    rw [observed, ih]

/-- What a finalization is decided on. -/
theorem decideFinalization_congr {first second : Store}
    (prepared : second.preparedDeployment = first.preparedDeployment)
    (observations : second.observations = first.observations) (plan : PostDeploymentAssertionPlan)
    (finalizedAt : Int) :
    decideFinalization second plan finalizedAt = decideFinalization first plan finalizedAt := by
  unfold decideFinalization
  rw [prepared, decideStages_congr observations]

theorem loadDeploymentFinalization_congr {first second : Store}
    (prepared : second.preparedDeployment = first.preparedDeployment)
    (observations : second.observations = first.observations)
    (finalizations : second.finalizations = first.finalizations)
    (plan : PostDeploymentAssertionPlan) :
    loadDeploymentFinalization second plan = loadDeploymentFinalization first plan := by
  unfold loadDeploymentFinalization
  simp only [finalizations, decideFinalization_congr prepared observations]

end SyncApp
