import SyncApp.DeployKey.Rotation

/-!
# Administrative requests for the deploy key

Each action is asked for by a request, and its outcome is kept under the request and the action: a
receipt that is completed or blocked is replayed, and one for a retry is due after a pause. A call
that is broken off leaves no receipt, so it is repeated from the start.
-/

set_option autoImplicit false

namespace SyncApp.DeployKey

open Lib Raising

structure KeyRequest where
  requestId : String
  action : KeyAction
deriving DecidableEq

/-- What the request is applied to. -/
structure KeySettings where
  target : String
  repositoryId : Int
  githubToken : String

structure KeyResult where
  outcome : String
  replayed : Bool
  publicKey : Option String
  fingerprint : Option String
  generationId : Option String
deriving DecidableEq

def maxAttempts : Nat := 8

/-- `_invalid`. -/
def administrationInvalid : KeyError :=
  .administration "deploy-key administrative request failed closed"

/-! ## Requests -/

/-- `[A-Za-z0-9](?:[A-Za-z0-9-]{0,37}[A-Za-z0-9])?`. -/
def isOwner (owner : List Char) : Bool :=
  1 ≤ owner.length && owner.length ≤ 39 && owner.all (fun c => isAlphanumeric c || c == '-') &&
    owner.head?.any isAlphanumeric && owner.getLast?.any isAlphanumeric

/-- `[A-Za-z0-9._-]{1,100}`, but not `.` or `..`. -/
def isRepositoryName (name : List Char) : Bool :=
  1 ≤ name.length && name.length ≤ 100 && name.all isNameCharacter &&
    !(name == ['.'] || name == ['.', '.'])

/-- `_TARGET` of a request. -/
def isTarget (target : String) : Bool :=
  isOwner (target.toList.takeWhile (· != '/')) &&
    match target.toList.dropWhile (· != '/') with
    | [] => false
    | _ :: name => isRepositoryName name

/-- `_validate_request`. -/
def KeyRequest.valid (request : KeyRequest) (settings : KeySettings) : Bool :=
  isUuid4 request.requestId && isTarget settings.target && decide (0 < settings.repositoryId) &&
    settings.githubToken != ""

/-! ## Actions -/

/-- An outcome with the public key, fingerprint and generation that go into the receipt. -/
structure ActionOutcome where
  outcome : String
  publicKey : Option String
  fingerprint : Option String
  generationId : Option String
deriving DecidableEq

/-- `_enrollment_result`. -/
def enrollmentResult (outcome : String) (enrollment : DeployKeyEnrollment) : ActionOutcome :=
  ⟨outcome, some enrollment.publicKey, some enrollment.fingerprint, some enrollment.generationId⟩

/-- `_proof_result`. -/
def proofResult (outcome : String) (proof : DeployKeyAccessProof) : ActionOutcome :=
  ⟨outcome, none, some proof.keyFingerprint, some proof.generationId⟩

/-- `_rotation_result`. -/
def rotationResult (outcome : String) (status : DeployKeyRotationStatus) : ActionOutcome :=
  ⟨outcome, if outcome = "prepared" then status.candidate.map (·.publicKey) else none,
    some ((status.candidate.map (·.fingerprint)).getD status.activeFingerprint),
    some ((status.candidate.map (·.generationId)).getD status.activeGenerationId)⟩

/-- `_perform`. -/
def performAction (request : KeyRequest) (settings : KeySettings) : KeyProgram ActionOutcome :=
  match request.action with
  | .generate => do
    let enrollment ← ensureRepoBDeployKey .active
    return enrollmentResult "generated" enrollment
  | .test => do
    let proof ← testRepoBDeployKeyAccess settings.target settings.repositoryId .active
    return proofResult "tested" proof
  | .rotatePrepare => do
    let status ← prepareRepoBDeployKeyRotation request.requestId settings.target
      settings.repositoryId
    return rotationResult "prepared" status
  | .rotateVerify => do
    let status ← verifyRepoBDeployKeyRotation request.requestId settings.target settings.repositoryId
    return rotationResult "verified" status
  | .rotateActivate => do
    let status ← activateRepoBDeployKeyRotation request.requestId
    return rotationResult "activated" status

/-! ## Receipts -/

/-- The receipt is one to replay: it is not for a retry, or its retry is not due. -/
def KeyReceipt.replays (receipt : KeyReceipt) (now : Int) : Bool :=
  receipt.status ≠ .retry || receipt.nextAttemptAt.any (now < ·)

def KeyReceipt.result (receipt : KeyReceipt) (replayed : Bool) : KeyResult :=
  ⟨receipt.outcome, replayed, receipt.publicKey, receipt.fingerprint, receipt.generationId⟩

/-- The receipt of an attempt. -/
def receiptOf (settings : KeySettings) (attempts : Nat) (now : Int) :
    Except KeyError ActionOutcome → KeyReceipt
  | .ok done => ⟨settings.target.toLower, settings.repositoryId,
      if done.outcome = "blocked" then .blocked else .completed, done.outcome, attempts, none, now,
      done.publicKey, done.fingerprint, done.generationId⟩
  | .error raised =>
    if raised.transient = true ∧ attempts < maxAttempts then
      ⟨settings.target.toLower, settings.repositoryId, .retry, "retry", attempts,
        some (now + (min (60 * 2 ^ (attempts - 1)) 3600 : Nat)), now, none, none, none⟩
    else
      ⟨settings.target.toLower, settings.repositoryId, .blocked, "blocked", attempts, none, now, none,
        none, none⟩

/-- `_load_receipt` of what was saved: only a generation of version 4 is one. -/
def KeyReceipt.loads (receipt : KeyReceipt) : Bool := receipt.generationId.all isUuid4

/-- The receipts with another one for a request. -/
def KeyState.withReceipt (state : KeyState) (request : KeyRequest) (receipt : KeyReceipt) : KeyState :=
  { state with receipts := fun requestId kind =>
      if requestId = request.requestId ∧ kind = request.action then some receipt
      else state.receipts requestId kind }

/-- `_save_receipt`. -/
def saveReceipt (request : KeyRequest) (receipt : KeyReceipt) : KeyProgram Unit :=
  action fun home =>
    if receipt.loads then
      (.ok (), { home with toKeyState := home.toKeyState.withReceipt request receipt })
    else (.error administrationInvalid, home)

/-- `_load_receipt`. -/
def loadReceipt (request : KeyRequest) : KeyProgram (Option KeyReceipt) :=
  action fun home => (.ok (home.receipts request.requestId request.action), home)

/-- An attempt, with its receipt. -/
def attemptAction (request : KeyRequest) (settings : KeySettings) (attempts : Nat) (now : Int) :
    KeyProgram KeyResult := do
  let performed : Except KeyError ActionOutcome ←
    tryCatch (do return .ok (← performAction request settings)) fun raised => pure (.error raised)
  let receipt := receiptOf settings attempts now performed
  saveReceipt request receipt
  return receipt.result false

/-- `apply_deploy_key_administrative_request`. -/
def applyDeployKeyAdministrativeRequest (request : KeyRequest) (settings : KeySettings) (now : Int) :
    KeyProgram KeyResult := do
  if request.valid settings = false then throw administrationInvalid
  else do
    let existing ← loadReceipt request
    match existing with
    | none => attemptAction request settings 1 now
    | some receipt =>
      if receipt.target ≠ settings.target.toLower ∨ receipt.repositoryId ≠ settings.repositoryId then
        throw administrationInvalid
      else if receipt.replays now then return receipt.result true
      else attemptAction request settings (receipt.attempts + 1) now

/-! ## Runs -/

/-- A call: a request as it is applied, what it finds, which of its steps fail, and after how many
actions it is broken off. -/
structure KeyCall where
  request : KeyRequest
  settings : KeySettings
  now : Int
  answers : KeyAnswers
  faults : List Bool
  brokenOff : Option Nat

namespace KeyCall

variable (call : KeyCall)

def program : KeyProgram KeyResult :=
  applyDeployKeyAdministrativeRequest call.request call.settings call.now

/-- The home that a call finds. -/
def home (state : KeyState) : KeyHome := ⟨state, call.faults, call.answers⟩

/-- What a call answers, where it ends, and what it leaves. -/
def perform (state : KeyState) : Option (Except KeyError KeyResult) × KeyState :=
  match call.brokenOff with
  | none =>
    let ended := call.program.eval (call.home state)
    (some ended.1, ended.2.toKeyState)
  | some actions => (none, (Prog.advance actions call.program.run (call.home state)).2.toKeyState)

end KeyCall

end SyncApp.DeployKey
