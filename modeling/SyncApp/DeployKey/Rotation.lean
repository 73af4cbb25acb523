import SyncApp.DeployKey.Generation

/-!
# Rotation of a key

A rotation is bound to one request and goes through its phases one action at a time: a candidate is
generated beside the key in use, its access is proved, and two renames put it in the place of the
other, which is retained. The record of the rotation says how far it is, and the renames are taken up
from where they were left.

Every exception of an activation is raised as one that is final.
-/

set_option autoImplicit false

namespace SyncApp.DeployKey

open Lib Raising

/-- A `DeployKeyRotationError` of which `transient` is not set. -/
def rotationError (message : String) : KeyError := .rotation message false

/-! ## The record -/

namespace RotationRecord

variable (record : RotationRecord)

/-- `_validate_record`: what the columns leave open. -/
def valid : Bool :=
  (record.candidate.isSome || record.phase == .preparing || record.phase == .blocked) &&
    (record.observationSha256.isSome ||
      !(record.phase == .verified || record.phase == .activating || record.phase == .activated)) &&
    record.blockedReason.isSome == (record.phase == .blocked)

/-- `_verify_original`. -/
def verifyOriginal (enrollment : DeployKeyEnrollment) : Except KeyError Unit :=
  if enrollment.generationId ≠ record.originalGenerationId ∨
      enrollment.fingerprint ≠ record.originalFingerprint then
    .error (rotationError "Deploy key rotation generation changed")
  else .ok ()

/-- `_verify_enrollment_fields`, of a candidate. -/
def verifyCandidate (enrollment : DeployKeyEnrollment) : Except KeyError Unit :=
  if record.candidate ≠ some enrollment then
    .error (rotationError "Deploy key rotation generation changed")
  else .ok ()

/-- The record of a rotation that is blocked. -/
def blockedFor (reason : BlockReason) : RotationRecord :=
  { record with phase := .blocked, blockedReason := some reason }

/-- The record with its candidate. -/
def preparedWith (candidate : DeployKeyEnrollment) : RotationRecord :=
  { record with candidate := some candidate, phase := .prepared }

end RotationRecord

def recordInvalid : KeyError := rotationError "Deploy key rotation record is invalid"

def filesystemInvalid : KeyError := rotationError "Deploy key rotation filesystem state is invalid"

def generationChanged : KeyError := rotationError "Deploy key rotation generation changed"

/-- `_read_record`. -/
def KeyFiles.readRecord (files : KeyFiles) : Except KeyError RotationRecord :=
  match files.record with
  | none => .error recordInvalid
  | some record => if record.valid then .ok record else .error recordInvalid

def readRecord : KeyProgram RotationRecord := look recordInvalid KeyFiles.readRecord

/-- `_write_record`: the temporary file is removed whether or not it was renamed. -/
def writeRecord (record : RotationRecord) : KeyProgram Unit := do
  let written : Except KeyError Unit ← tryCatch (do
      -- The temporary file is created, and then written.
      change id
      change id
      change (·.setRecord record)
      fsyncDirectory
      return .ok ())
    fun raised => pure (.error raised)
  change id
  ofResult written

/-- `_persist_or_fail`. -/
def persistOrFail (record : RotationRecord) : KeyProgram Unit :=
  failingAs (rotationError "Deploy key rotation record persistence failed") (writeRecord record)

/-- `_rotation_lock`, which no other call holds. -/
def rotationLock : KeyProgram Unit :=
  look (rotationError "Deploy key rotation lock is invalid") fun _ => .ok ()

/-! ## What is there -/

/-- `_inspect_key`. -/
def inspectKey (place : KeyPlace) (label : String) : KeyProgram DeployKeyEnrollment :=
  failingAs (rotationError ("Deploy key rotation " ++ label ++ " generation is invalid"))
    (inspectRepoBDeployKey place)

/-- `_lexists` of a directory. -/
def lexists (place : KeyPlace) : KeyProgram Bool :=
  look filesystemInvalid fun files => .ok (files.directory place).isSome

/-- `_lexists` of a journal. -/
def journalExists (place : KeyPlace) : KeyProgram Bool :=
  look filesystemInvalid fun files => .ok (files.journal place).isSome

/-- `_lexists` of the record. -/
def recordExists : KeyProgram Bool :=
  look filesystemInvalid fun files => .ok files.record.isSome

/-- `_inspect_optional`. -/
def inspectOptional (place : KeyPlace) : KeyProgram (Option DeployKeyEnrollment) := do
  let there ← lexists place
  if there then return some (← inspectKey place "stored") else return none

/-- `_generation_id`. -/
def generationIdOf (enrollment : Option DeployKeyEnrollment) : Option String :=
  enrollment.map (·.generationId)

/-- The generations at the three places, by their ids. -/
def inspectPlaces : KeyProgram (Option String × Option String × Option String) := do
  let active ← inspectOptional .active
  let candidate ← inspectOptional .candidate
  let retained ← inspectOptional .retained
  return (generationIdOf active, generationIdOf candidate, generationIdOf retained)

/-- What is there while the two renames are made. -/
def renameStates (originalId : String) (candidateId : Option String) :
    List (Option String × Option String × Option String) :=
  [(some originalId, candidateId, none), (none, candidateId, some originalId),
    (candidateId, none, some originalId)]

/-- `_validate_record_generations` of a rotation that is through. -/
def validateActivated (record : RotationRecord) : KeyProgram Unit := do
  let active ← inspectKey .active "active"
  let retained ← inspectKey .retained "retained"
  if some active.generationId ≠ generationIdOf record.candidate ∨
      retained.generationId ≠ record.originalGenerationId then throw generationChanged
  else do
    let there ← lexists .candidate
    if there then throw generationChanged
    else do
      ofResult (record.verifyCandidate active)
      ofResult (record.verifyOriginal retained)

/-- `_validate_record_generations` of a rotation that is not activated yet. -/
def validateStaged (record : RotationRecord) : KeyProgram Unit := do
  let active ← inspectKey .active "active"
  ofResult (record.verifyOriginal active)
  match record.candidate with
  | none => do
    if record.phase ≠ .preparing ∧ record.phase ≠ .blocked then throw generationChanged
    else do
      let there ← lexists .candidate
      if there then throw generationChanged else return ()
  | some _ => do
    let candidate ← inspectKey .candidate "candidate"
    ofResult (record.verifyCandidate candidate)
    let there ← lexists .retained
    if there then throw generationChanged else return ()

/-- `_validate_record_generations`. -/
def validateRecordGenerations (record : RotationRecord) : KeyProgram Unit := do
  let there ← journalExists .candidate
  if there then throw generationChanged
  else
    match record.phase with
    | .activating => do
      let states ← inspectPlaces
      if states ∉ renameStates record.originalGenerationId (generationIdOf record.candidate) then
        throw generationChanged
      else return ()
    | .activated => validateActivated record
    | _ => validateStaged record

/-! ## Status -/

structure DeployKeyRotationStatus where
  requestId : String
  rotationId : String
  phase : RotationPhase
  target : String
  repositoryId : Int
  activeGenerationId : String
  activeFingerprint : String
  candidate : Option DeployKeyEnrollment
  observationSha256 : Option String
  retained : Option (String × String)
  blockedReason : Option BlockReason
deriving DecidableEq

/-- `_status`. -/
def RotationRecord.status (record : RotationRecord) : Except KeyError DeployKeyRotationStatus :=
  let statusOf (generationId fingerprint : String) (retained : Option (String × String)) :
      DeployKeyRotationStatus :=
    ⟨record.requestId, record.rotationId, record.phase, record.target, record.repositoryId,
      generationId, fingerprint, record.candidate, record.observationSha256, retained,
      record.blockedReason⟩
  if record.phase = .activated then
    match record.candidate with
    | none => .error recordInvalid
    | some candidate => .ok (statusOf candidate.generationId candidate.fingerprint
        (some (record.originalGenerationId, record.originalFingerprint)))
  else .ok (statusOf record.originalGenerationId record.originalFingerprint none)

/-! ## Prepare -/

def isAlphanumeric (c : Char) : Bool :=
  ('A' ≤ c && c ≤ 'Z') || ('a' ≤ c && c ≤ 'z') || ('0' ≤ c && c ≤ '9')

def isNameCharacter (c : Char) : Bool := isAlphanumeric c || c == '.' || c == '_' || c == '-'

/-- `[A-Za-z0-9](?:[A-Za-z0-9._-]{0,99})`. -/
def isSafeName : List Char → Bool
  | [] => false
  | first :: rest => isAlphanumeric first && rest.length ≤ 99 && rest.all isNameCharacter

/-- `_TARGET` of a rotation. -/
def isRotationTarget (target : String) : Bool :=
  isSafeName (target.toList.takeWhile (· != '/')) &&
    match target.toList.dropWhile (· != '/') with
    | [] => false
    | _ :: name => isSafeName name

/-- `_validate_inputs`, where the request has been validated. -/
def validateInputs (target : String) (repositoryId : Int) : Except KeyError Unit :=
  if isRotationTarget target = false then .error (rotationError "Deploy key rotation target is invalid")
  else if repositoryId ≤ 0 then
    .error (rotationError "Deploy key rotation repository identity is invalid")
  else .ok ()

/-- `_verify_request_binding`. -/
def RotationRecord.verifyRequestBinding (record : RotationRecord) (requestId target : String)
    (repositoryId : Int) : Except KeyError Unit :=
  if record.requestId ≠ requestId then
    .error (rotationError "Deploy key rotation belongs to another request")
  else if record.target ≠ target ∨ record.repositoryId ≠ repositoryId then
    .error (rotationError "Deploy key rotation does not match repository identity")
  else .ok ()

/-- `_initial_record`. -/
def initialRecord (requestId rotationId target : String) (repositoryId : Int)
    (active : DeployKeyEnrollment) : RotationRecord :=
  ⟨requestId, rotationId, .preparing, target, repositoryId, active.generationId, active.fingerprint,
    none, none, none⟩

/-- `suppress(OSError)` around a write of the record. -/
def suppressedWrite (record : RotationRecord) : KeyProgram Unit :=
  tryCatch (writeRecord record) fun _ => pure ()

/-- A candidate that is generated or was, and the record of it; a failure blocks the rotation, with
the candidate where it is known. -/
def recordCandidate (record : RotationRecord) (candidate : KeyProgram DeployKeyEnrollment)
    (raised : KeyError) : KeyProgram RotationRecord := do
  let generated : Except KeyError DeployKeyEnrollment ← tryCatch (do return .ok (← candidate))
    fun raised => pure (.error raised)
  match generated with
  | .error _ => do
    suppressedWrite (record.blockedFor .generationFailed)
    throw raised
  | .ok enrollment => do
    let prepared := record.preparedWith enrollment
    tryCatch (do
        writeRecord prepared
        return prepared)
      fun _ => do
        suppressedWrite (prepared.blockedFor .generationFailed)
        throw raised

def incomplete : KeyError := rotationError "Deploy key rotation state is incomplete"

def rotationBlocked : KeyError := rotationError "Deploy key rotation is blocked"

/-- A candidate that is there, or a new one. -/
def existingCandidate : KeyProgram DeployKeyEnrollment := do
  let there ← lexists .candidate
  if there then inspectKey .candidate "candidate" else ensureRepoBDeployKey .candidate

/-- `_replay_prepare`. -/
def replayPrepare (record : RotationRecord) : KeyProgram DeployKeyRotationStatus := do
  match record.phase with
  | .activating | .activated => do
    validateRecordGenerations record
    ofResult record.status
  | .blocked => do
    let active ← inspectKey .active "active"
    ofResult (record.verifyOriginal active)
    if record.blockedReason = some .generationFailed then throw incomplete else throw rotationBlocked
  | .preparing => do
    let active ← inspectKey .active "active"
    ofResult (record.verifyOriginal active)
    let prepared ← recordCandidate record existingCandidate incomplete
    validateRecordGenerations prepared
    ofResult prepared.status
  | .prepared | .verified => do
    let active ← inspectKey .active "active"
    ofResult (record.verifyOriginal active)
    validateRecordGenerations record
    ofResult record.status

def preparationFailed : KeyError := rotationError "Deploy key rotation preparation failed"

/-- A rotation that begins. -/
def beginRotation (requestId target : String) (repositoryId : Int) :
    KeyProgram DeployKeyRotationStatus := do
  let active ← inspectKey .active "active"
  let candidateThere ← lexists .candidate
  let retainedThere ← lexists .retained
  if candidateThere ∨ retainedThere then
    if retainedThere then throw (rotationError "A retained deploy key prevents rotation")
    else throw incomplete
  else do
    let journalThere ← journalExists .candidate
    if journalThere then throw incomplete
    else do
      let answered ← answers
      let record := initialRecord requestId answered.rotationId.val target repositoryId active
      tryCatch (writeRecord record) fun _ => do
        suppressedWrite (record.blockedFor .generationFailed)
        throw preparationFailed
      let prepared ← recordCandidate record (ensureRepoBDeployKey .candidate) preparationFailed
      ofResult prepared.status

/-- `prepare_repo_b_deploy_key_rotation`. -/
def prepareRepoBDeployKeyRotation (requestId target : String) (repositoryId : Int) :
    KeyProgram DeployKeyRotationStatus := do
  ofResult (validateInputs target repositoryId)
  rotationLock
  let there ← recordExists
  if there then do
    let record ← readRecord
    ofResult (record.verifyRequestBinding requestId target repositoryId)
    replayPrepare record
  else beginRotation requestId target repositoryId

/-! ## Verify -/

structure DeployKeyAccessProof where
  target : String
  repositoryId : Int
  keyFingerprint : String
  generationId : String
  refCount : Nat
  observationSha256 : String
deriving DecidableEq

def identityFailed (transient : Bool) : KeyError :=
  .access "Deploy key repository identity verification failed" transient

/-- `test_repo_b_deploy_key_access`. -/
def testRepoBDeployKeyAccess (target : String) (repositoryId : Int) (place : KeyPlace) :
    KeyProgram DeployKeyAccessProof := do
  if repositoryId ≤ 0 then throw (.access "Expected repository identity is invalid" false)
  else do
    let answered ← answers
    let identity ← ofResult (answered.access.identity.mapError identityFailed)
    if identity.1.toLower ≠ target.toLower ∨ identity.2 ≠ repositoryId then
      throw (identityFailed false)
    else do
      let enrollment ← failingAs (.access "protected deploy key is invalid" false)
        (inspectRepoBDeployKey place)
      let observed ← ofResult (answered.access.observation.mapError fun raised =>
        .access raised.1 raised.2)
      return ⟨identity.1, identity.2, enrollment.fingerprint, enrollment.generationId, observed.1,
        observed.2⟩

/-- `_proof_matches`. -/
def RotationRecord.proofMatches (record : RotationRecord) (proof : DeployKeyAccessProof) : Bool :=
  proof.target.toLower = record.target.toLower ∧ proof.repositoryId = record.repositoryId ∧
    some proof.keyFingerprint = record.candidate.map (·.fingerprint) ∧
    some proof.generationId = record.candidate.map (·.generationId)

/-- The test of a candidate, with what is recorded of it. -/
def verifyCandidateAccess (record : RotationRecord) (target : String) (repositoryId : Int) :
    KeyProgram DeployKeyRotationStatus := do
  let tested : Except KeyError DeployKeyAccessProof ←
    tryCatch (do return .ok (← testRepoBDeployKeyAccess target repositoryId .candidate))
      fun raised => pure (.error raised)
  match tested with
  | .error raised =>
    if raised.transient then
      throw (.rotation "Deploy key rotation verification is temporarily unavailable" true)
    else do
      persistOrFail (record.blockedFor .accessFailed)
      throw rotationBlocked
  | .ok proof =>
    if record.proofMatches proof = false then do
      persistOrFail (record.blockedFor .proofMismatch)
      throw rotationBlocked
    else do
      let verified := { record with
        phase := .verified, observationSha256 := some proof.observationSha256 }
      persistOrFail verified
      ofResult verified.status

/-- `verify_repo_b_deploy_key_rotation`. -/
def verifyRepoBDeployKeyRotation (requestId target : String) (repositoryId : Int) :
    KeyProgram DeployKeyRotationStatus := do
  ofResult (validateInputs target repositoryId)
  rotationLock
  let record ← readRecord
  ofResult (record.verifyRequestBinding requestId target repositoryId)
  validateRecordGenerations record
  match record.phase with
  | .blocked => throw rotationBlocked
  | .preparing => throw (rotationError "Deploy key rotation is incomplete")
  | .verified | .activating | .activated => ofResult record.status
  | .prepared => verifyCandidateAccess record target repositoryId

/-! ## Activate -/

/-- `_rename_directory`. -/
def renameDirectory (source destination : KeyPlace) : KeyProgram Unit := do
  let there ← lexists destination
  if there then throw (rotationError "Deploy key rotation destination already exists")
  else do
    onFiles .osError fun files =>
      match files.directory source, files.directory destination with
      | some directory, none =>
        .ok ((), (files.setDirectory destination (some directory)).setDirectory source none)
      | _, _ => .error .osError
    fsyncDirectory

/-- `_reconcile_activation`, with the rounds that are left. -/
def reconcileActivation (originalId candidateId : String) : Nat → KeyProgram Unit
  | 0 => throw filesystemInvalid
  | rounds + 1 => do
    let states ← inspectPlaces
    if states = (some originalId, some candidateId, none) then do
      renameDirectory .active .retained
      reconcileActivation originalId candidateId rounds
    else if states = (none, some candidateId, some originalId) then do
      renameDirectory .candidate .active
      reconcileActivation originalId candidateId rounds
    else if states = (some candidateId, none, some originalId) then return ()
    else throw filesystemInvalid

def activationInterrupted : KeyError := rotationError "Deploy key rotation activation was interrupted"

/-- The renames of an activation and its record. -/
def finishActivation (record : RotationRecord) : KeyProgram DeployKeyRotationStatus := do
  let activated := { record with phase := .activated }
  failingAs activationInterrupted do
    match record.candidate with
    | none => throw recordInvalid
    | some candidate => reconcileActivation record.originalGenerationId candidate.generationId 3
    writeRecord activated
  validateRecordGenerations activated
  ofResult activated.status

/-- `activate_repo_b_deploy_key_rotation`. -/
def activateRepoBDeployKeyRotation (requestId : String) : KeyProgram DeployKeyRotationStatus := do
  rotationLock
  let record ← readRecord
  if record.requestId ≠ requestId then
    throw (rotationError "Deploy key rotation does not match this request")
  else
    match record.phase with
    | .blocked => throw rotationBlocked
    | .preparing | .prepared => throw (rotationError "Deploy key rotation is not verified")
    | .activated => do
      validateRecordGenerations record
      ofResult record.status
    | .verified => do
      validateRecordGenerations record
      let activating := { record with phase := .activating }
      persistOrFail activating
      finishActivation activating
    | .activating => finishActivation record

end SyncApp.DeployKey
