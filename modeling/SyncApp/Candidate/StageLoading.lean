import SyncApp.Candidate.Staging
import SyncApp.LiveApply.WriteAhead
import Mathlib.Algebra.GroupWithZero.Nat

/-!
# Which staged candidates can be loaded

A stage that was written is verified before staging returns, so verification accepts it again. The
loader makes the same evidence from the bytes of the manifest, but only within the limits of the
loader, which staging does not ask about: `staged_loads_iff`.
-/

set_option autoImplicit false

namespace SyncApp

open Lib CandidateStages
open Lib.Raising (bind_eq_ok)

variable {hashing : Hashing}

namespace CandidateStaging

/-! ## The manifest is read back -/

theorem objectIdText_scalar (objectId : ObjectId) : ∀ c ∈ objectIdText objectId, Utf8.Scalar c := by
  cases objectId with
  | sha1 digest => exact text_scalar (hex_ascii digest.shape.2)
  | sha256 digest => exact text_scalar (hex_ascii digest.shape.2)

theorem modeText_scalar (mode : GitMode) : ∀ c ∈ modeText mode, Utf8.Scalar c := by
  cases mode with
  | regular => exact text_scalar (by decide)
  | executable => exact text_scalar (by decide)

/-- The evidence can be written: its texts have an encoding. -/
structure Encodable (stage : CandidateStage) : Prop where
  target : ∀ c ∈ stage.target, Utf8.Scalar c
  branch : ∀ c ∈ stage.branch, Utf8.Scalar c
  paths : ∀ entry ∈ stage.entries, ∀ c ∈ entry.path, Utf8.Scalar c

theorem entryValue_plain {entry : CandidateStageEntry} (scalars : ∀ c ∈ entry.path, Utf8.Scalar c) :
    JsonText.Plain (entryValue entry) :=
  ⟨text_scalar (by decide), modeText_scalar _, text_scalar (by decide), objectIdText_scalar _,
    text_scalar (by decide), scalars, text_scalar (by decide),
    text_scalar (hex_ascii entry.sha256.shape.2), text_scalar (by decide), trivial, trivial⟩

theorem manifestValue_plain {stage : CandidateStage} (encodable : Encodable stage) :
    JsonText.Plain (manifestValue stage) := by
  refine ⟨text_scalar (by decide), encodable.branch, text_scalar (by decide),
    objectIdText_scalar _, text_scalar (by decide), JsonText.plainItems_iff.mpr ?_,
    text_scalar (by decide), trivial, text_scalar (by decide), encodable.target,
    text_scalar (by decide), trivial, trivial⟩
  intro value mem
  obtain ⟨entry, held, rfl⟩ := List.mem_map.mp mem
  exact entryValue_plain (encodable.paths entry held)

theorem entryValue_unique (entry : CandidateStageEntry) :
    JsonText.unique (entryValue entry) = true := by
  simp only [entryValue, JsonText.unique, JsonText.uniqueMembers, Bool.and_true, List.map_cons,
    List.map_nil]
  decide

theorem manifestValue_unique (stage : CandidateStage) :
    JsonText.unique (manifestValue stage) = true := by
  have entries : JsonText.uniqueItems (stage.entries.map entryValue) = true := by
    rw [JsonText.uniqueItems_iff]
    intro value mem
    obtain ⟨entry, -, rfl⟩ := List.mem_map.mp mem
    exact entryValue_unique entry
  simp only [manifestValue, JsonText.unique, JsonText.uniqueMembers, entries, Bool.and_true,
    List.map_cons, List.map_nil]
  decide

/-- The members of the manifest of a stage. -/
def manifestMembers (stage : CandidateStage) : List (PyStr × JsonText.Value) :=
  [(text "branch", .str stage.branch),
    (text "commit_sha", .str (objectIdText stage.commitSha)),
    (text "entries", .arr (stage.entries.map entryValue)),
    (text "repository_id", .int stage.repositoryId), (text "target", .str stage.target),
    (text "version", .int 1)]

def membersOf (entry : CandidateStageEntry) : List (PyStr × JsonText.Value) :=
  [(text "git_mode", .str (modeText entry.gitMode)),
    (text "object_id", .str (objectIdText entry.objectId)), (text "path", .str entry.path),
    (text "sha256", .str (text entry.sha256.hex)), (text "size", .int entry.size)]

theorem parseManifest_manifestBytes {stage : CandidateStage} (encodable : Encodable stage) :
    parseManifest (manifestBytes stage) = .ok (manifestMembers stage) := by
  have loaded : JsonText.load (manifestBytes stage) = some (manifestValue stage) :=
    JsonText.load_write (manifestValue_plain encodable) (by decide)
  unfold parseManifest
  rw [loaded]
  show (if _ then _ else _) = _
  rw [if_neg]
  · rfl
  · have keys : JsonText.hasKeys (manifestMembers stage)
        [text "version", text "target", text "repository_id", text "branch", text "commit_sha",
          text "entries"] = true := by rfl
    have one := manifestValue_unique stage
    unfold manifestValue at one
    unfold manifestMembers at keys
    rw [one, keys]
    decide

theorem manifestEntries_manifestMembers (stage : CandidateStage) :
    manifestEntries (manifestMembers stage) =
      if stage.entries.length > maxManifestEntries then invalidManifest
      else .ok (stage.entries.map membersOf) := by
  have found : JsonText.get? (manifestMembers stage) (text "entries") =
      some (.arr (stage.entries.map entryValue)) := by rfl
  unfold manifestEntries
  rw [found]
  dsimp only
  rw [List.length_map, JsonText.mapM_map (g := entryMembers) (h := membersOf) fun entry _ => by rfl]
  rfl

theorem digestOfText_hex (digest : Digest) : digestOfText (text digest.hex) = some digest := by
  unfold digestOfText
  rw [ofList_text, digestOf, dif_pos digest.shape]

theorem parseObjectId_objectIdText (objectId : ObjectId) :
    CandidateTrees.parseObjectId (objectIdText objectId) = some objectId := by
  unfold CandidateTrees.parseObjectId
  cases objectId with
  | sha1 digest =>
    simp only [objectIdText, ofList_text]
    rw [dif_pos digest.shape]
  | sha256 digest =>
    simp only [objectIdText, ofList_text]
    rw [dif_neg (by rw [digest.shape.1]; simp), dif_pos digest.shape]

theorem parseMode_modeText (mode : GitMode) : CandidateTrees.parseMode (modeText mode) = some mode := by
  cases mode <;> rfl

theorem natOf_cast (n : Nat) : natOf (some (.int n)) = some n := by
  simp [natOf, intOf]

theorem entryOf_membersOf (entry : CandidateStageEntry) : entryOf (membersOf entry) = some entry := by
  have path : JsonText.get? (membersOf entry) (text "path") = some (.str entry.path) := by rfl
  have mode : JsonText.get? (membersOf entry) (text "git_mode") =
    some (.str (modeText entry.gitMode)) := by rfl
  have objectId : JsonText.get? (membersOf entry) (text "object_id") =
    some (.str (objectIdText entry.objectId)) := by rfl
  have size : JsonText.get? (membersOf entry) (text "size") = some (.int entry.size) := by rfl
  have sha256 : JsonText.get? (membersOf entry) (text "sha256") =
    some (.str (text entry.sha256.hex)) := by rfl
  unfold entryOf
  rw [path, mode, objectId, size, sha256]
  simp [stringOf, natOf_cast, parseMode_modeText, parseObjectId_objectIdText, digestOfText_hex]

/-- **The evidence is read back** from the manifest. -/
theorem evidenceOf_manifestMembers (data : List UInt8) (root : PyStr) (stage : CandidateStage) :
    evidenceOf hashing data root (manifestMembers stage) (stage.entries.map membersOf) =
      some { stage with root := root, manifestSha256 := hashing.sha256 data } := by
  have target : JsonText.get? (manifestMembers stage) (text "target") =
    some (.str stage.target) := by rfl
  have repositoryId : JsonText.get? (manifestMembers stage) (text "repository_id") =
    some (.int stage.repositoryId) := by rfl
  have branch : JsonText.get? (manifestMembers stage) (text "branch") =
    some (.str stage.branch) := by rfl
  have commitSha : JsonText.get? (manifestMembers stage) (text "commit_sha") =
    some (.str (objectIdText stage.commitSha)) := by rfl
  have entries : (stage.entries.map membersOf).mapM entryOf = some stage.entries := by
    rw [JsonText.mapM_map (g := entryOf) (h := id) fun entry _ => entryOf_membersOf entry, List.map_id]
  unfold evidenceOf
  rw [target, repositoryId, branch, commitSha, entries]
  simp [stringOf, intOf, parseObjectId_objectIdText]

/-! ## How long a manifest is -/

/-- The bytes of one entry in the manifest: its fixed spelling, and what varies. -/
def entryLength (entry : CandidateStageEntry) : Nat :=
  128 + entry.objectId.width + (JsonText.writeString true entry.path).length +
    (JsonText.writeNat entry.size).length

/-- The bytes of a manifest; each entry is followed by a comma or a bracket. -/
def manifestLength (target : PyStr) (repositoryId : Int) (commitSha : ObjectId)
    (entries : List CandidateStageEntry) : Nat :=
  89 + commitSha.width + (JsonText.writeInt repositoryId).length +
    (JsonText.writeString true target).length +
    max 2 (1 + (entries.map fun entry => entryLength entry + 1).sum)

theorem length_writeString (value : String)
    (plain : value.toList.all (fun c => 32 ≤ c.toNat ∧ c.toNat < 127 ∧ c.toNat ≠ 34 ∧
      c.toNat ≠ 92) = true) :
    (JsonText.writeString true (text value)).length = value.length + 2 := by
  have each : ∀ c ∈ text value, JsonText.unitsOf true c = [⟨false, c⟩] ∧
      JsonText.writeUnit ⟨false, c⟩ = [c] := by
    intro c mem
    obtain ⟨char, held, rfl⟩ := List.mem_map.mp mem
    have shape := of_decide_eq_true (List.all_eq_true.mp plain char held)
    generalize char.toNat = c at shape
    constructor
    · unfold JsonText.unitsOf
      rw [if_neg (by omega), if_neg (by omega), if_pos (.inr shape.2.1)]
    · unfold JsonText.writeUnit JsonText.escapeLetter
      simp only [Bool.false_eq_true, if_false]
      rw [if_neg (by omega), if_neg (by omega), if_neg (by omega), if_neg (by omega),
        if_neg (by omega), if_neg (by omega), if_neg (by omega)]
  have spelled : ((text value).flatMap (JsonText.unitsOf true)).flatMap JsonText.writeUnit =
      text value := by
    generalize text value = codes at each
    induction codes with
    | nil => rfl
    | cons c codes ih =>
      obtain ⟨⟨units, written⟩, later⟩ := List.forall_mem_cons.mp each
      rw [List.flatMap_cons, units, List.flatMap_append, ih later, List.flatMap_cons, written]
      rfl
  rw [JsonText.writeString, spelled]
  simp [text, String.length_toList]

theorem length_objectIdText (objectId : ObjectId) :
    (JsonText.writeString true (objectIdText objectId)).length = objectId.width + 2 := by
  have visible {hex : String}
      (shape : hex.toList.all ("0123456789abcdef".toList.contains ·) = true) :
      hex.toList.all (fun c => 32 ≤ c.toNat ∧ c.toNat < 127 ∧ c.toNat ≠ 34 ∧
        c.toNat ≠ 92) = true := by
    rw [List.all_eq_true] at shape ⊢
    intro char held
    have each : "0123456789abcdef".toList.all (fun c => 32 ≤ c.toNat ∧ c.toNat < 127 ∧
      c.toNat ≠ 34 ∧ c.toNat ≠ 92) = true := by decide
    exact List.all_eq_true.mp each char (List.contains_iff_mem.mp (shape char held))
  cases objectId with
  | sha1 digest =>
    rw [objectIdText, length_writeString _ (visible digest.shape.2), digest.shape.1]
    rfl
  | sha256 digest =>
    rw [objectIdText, length_writeString _ (visible digest.shape.2), digest.shape.1]
    rfl

theorem length_entryValue (entry : CandidateStageEntry) :
    (JsonText.write true (entryValue entry)).length = entryLength entry := by
  have mode : (JsonText.writeString true (modeText entry.gitMode)).length = 8 := by
    cases entry.gitMode <;> rfl
  have digest : (JsonText.writeString true (text entry.sha256.hex)).length = 66 :=
    length_objectIdText (.sha256 entry.sha256)
  have size : JsonText.writeInt (entry.size : Int) = JsonText.writeNat entry.size := rfl
  simp only [entryValue, JsonText.write, JsonText.writeMembers, List.length_append,
    List.length_cons, List.length_nil, mode, digest, size, length_objectIdText,
    show (JsonText.writeString true (text "git_mode")).length = 10 by rfl,
    show (JsonText.writeString true (text "object_id")).length = 11 by rfl,
    show (JsonText.writeString true (text "path")).length = 6 by rfl,
    show (JsonText.writeString true (text "sha256")).length = 8 by rfl,
    show (JsonText.writeString true (text "size")).length = 6 by rfl]
  unfold entryLength
  omega

theorem length_writeItems (entries : List CandidateStageEntry) :
    (JsonText.writeItems true (entries.map entryValue)).length =
      1 + (entries.map fun entry => entryLength entry + 1).sum := by
  induction entries with
  | nil => rfl
  | cons entry entries ih =>
    simp only [List.map_cons, JsonText.writeItems, List.length_cons, List.length_append,
      List.cons_append, length_entryValue, ih, List.sum_cons]
    omega

/-- **The length of a manifest**, from what is staged. -/
theorem length_manifestBytes {stage : CandidateStage} (encodable : Encodable stage)
    (branch : stage.branch = text "candidate") : (manifestBytes stage).length =
      manifestLength stage.target stage.repositoryId stage.commitSha stage.entries := by
  have ascii : ∀ c ∈ JsonText.write true (manifestValue stage) ++ [10], c < 128 := by
    intro c mem
    rcases List.mem_append.mp mem with spelled | last
    · exact JsonText.write_ascii (manifestValue_plain encodable) c spelled
    · rw [List.mem_singleton.mp last]
      decide
  have items : (JsonText.write true (.arr (stage.entries.map entryValue))).length =
      max 2 (1 + (stage.entries.map fun entry => entryLength entry + 1).sum) := by
    cases stage.entries with
    | nil => rfl
    | cons entry entries =>
      simp only [List.map_cons, JsonText.write, List.length_append, List.length_cons,
        length_entryValue, length_writeItems, List.sum_cons]
      have : 2 ≤ entryLength entry := by
        unfold entryLength
        omega
      omega
  unfold manifestBytes
  rw [JsonText.length_encode_ascii ascii]
  simp only [manifestValue, branch, JsonText.write, JsonText.writeMembers, List.length_append,
    List.length_cons, List.length_nil, length_objectIdText,
    show (JsonText.writeString true (text "branch")).length = 8 by rfl,
    show (JsonText.writeString true (text "candidate")).length = 11 by rfl,
    show (JsonText.writeString true (text "commit_sha")).length = 12 by rfl,
    show (JsonText.writeString true (text "entries")).length = 9 by rfl,
    show (JsonText.writeString true (text "repository_id")).length = 15 by rfl,
    show (JsonText.writeString true (text "target")).length = 8 by rfl,
    show (JsonText.writeString true (text "version")).length = 9 by rfl,
    show (JsonText.writeInt 1).length = 1 by rfl]
  unfold manifestLength
  omega

/-! ## What staging has done -/

theorem validateTreeEntry_ok_iff {seen : List PyStr} {raw : CandidateTrees.RawEntry}
    {entry : CandidateTrees.TreeEntry} :
    validateTreeEntry seen raw = .ok entry ↔
      CandidateTrees.validateTreeEntry seen raw = .ok entry := by
  unfold validateTreeEntry CandidateTrees.validateTreeEntry
  by_cases safe : safePath raw.path = true
  · cases CandidateTrees.parseMode raw.mode with
    | none => simp [reject, CandidateTrees.reject, safe]
    | some mode =>
      cases CandidateTrees.parseObjectId raw.objectId with
      | none =>
        by_cases blob : raw.objectType = text "blob" <;>
          simp [reject, CandidateTrees.reject, safe, blob]
      | some objectId =>
        by_cases blob : raw.objectType = text "blob"
        · by_cases held : raw.path ∈ seen
          · simp [reject, CandidateTrees.reject, safe, blob, held]
          · simp [reject, CandidateTrees.reject, safe, blob, held, ite_eq_iff]
        · simp [reject, CandidateTrees.reject, safe, blob]
  · -- both refuse an unsafe path, whatever else the entry says
    cases CandidateTrees.parseMode raw.mode <;> cases CandidateTrees.parseObjectId raw.objectId <;>
      simp [reject, CandidateTrees.reject, safe]

theorem parseRecords_ok_iff {rs : List (List UInt8)} {seen : List PyStr}
    {entries : List CandidateTrees.TreeEntry} :
    parseRecords seen rs = .ok entries ↔ CandidateTrees.parseRecords seen rs = .ok entries := by
  induction rs generalizing seen entries with
  | nil =>
    constructor
    · intro read
      cases read
      rfl
    · intro read
      cases read
      rfl
  | cons record rs ih =>
    unfold parseRecords CandidateTrees.parseRecords
    cases CandidateTrees.splitRecord record with
    | none =>
      constructor
      · intro read
        cases read
      · intro read
        cases read
    | some raw =>
      constructor
      · intro read
        obtain ⟨entry, valid, read⟩ := bind_eq_ok.mp read
        obtain ⟨more, later, read⟩ := bind_eq_ok.mp read
        exact bind_eq_ok.mpr ⟨entry, validateTreeEntry_ok_iff.mp valid,
          bind_eq_ok.mpr ⟨more, ih.mp later, by cases read; rfl⟩⟩
      · intro read
        obtain ⟨entry, valid, read⟩ := bind_eq_ok.mp read
        obtain ⟨more, later, read⟩ := bind_eq_ok.mp read
        exact bind_eq_ok.mpr ⟨entry, validateTreeEntry_ok_iff.mpr valid,
          bind_eq_ok.mpr ⟨more, ih.mpr later, by cases read; rfl⟩⟩

/-- Staging reads the trees that the comparison of trees reads. -/
theorem parseTree_ok_iff {raw : List UInt8} {tree : List CandidateTrees.TreeEntry} :
    parseTree raw = .ok tree ↔ CandidateTrees.parseTree raw = .ok tree := by
  constructor
  · intro read
    obtain ⟨entries, parsed, read⟩ := bind_eq_ok.mp read
    exact bind_eq_ok.mpr ⟨entries, parseRecords_ok_iff.mp parsed, by cases read; rfl⟩
  · intro read
    obtain ⟨entries, parsed, read⟩ := bind_eq_ok.mp read
    exact bind_eq_ok.mpr ⟨entries, parseRecords_ok_iff.mpr parsed, by cases read; rfl⟩

/-- The bytes of a blob. -/
def blobOf (workspace : Workspace) (entry : CandidateTrees.TreeEntry) : List UInt8 :=
  (workspace.blob entry.objectId).getD []

/-- What a tree is recorded as, once its blobs are there. -/
def entriesOf (hashing : Hashing) (workspace : Workspace) (tree : List CandidateTrees.TreeEntry) :
    List CandidateStageEntry :=
  tree.map fun entry => stageEntryOf hashing entry (blobOf workspace entry)

theorem materializeEntry_entry {workspace : Workspace} {before after : List StagedDirectory}
    {entry : CandidateTrees.TreeEntry} {staged : CandidateStageEntry}
    (done : materializeEntry hashing workspace before entry = .ok (after, staged)) :
    staged = stageEntryOf hashing entry (blobOf workspace entry) := by
  unfold materializeEntry at done
  split at done
  · cases done
  next data held =>
    obtain ⟨_, -, done⟩ := bind_eq_ok.mp done
    obtain ⟨_, -, done⟩ := bind_eq_ok.mp done
    cases done
    rw [blobOf, held, Option.getD_some]

theorem materialize_entries {workspace : Workspace} {before after : List StagedDirectory}
    {tree : List CandidateTrees.TreeEntry} {entries : List CandidateStageEntry}
    (done : materialize hashing workspace before tree = .ok (after, entries)) :
    entries = entriesOf hashing workspace tree := by
  induction tree generalizing before entries with
  | nil =>
    cases done
    rfl
  | cons entry tree ih =>
    unfold materialize at done
    obtain ⟨⟨between, staged⟩, first, done⟩ := bind_eq_ok.mp done
    obtain ⟨⟨last, later⟩, rest, done⟩ := bind_eq_ok.mp done
    cases done
    rw [materializeEntry_entry first, ih rest]
    rfl

/-- A stage that was written: its tree, what stands in its directory, and its evidence. -/
structure Staged (hashing : Hashing) (workspace : Workspace) (fetched : CandidateFetch)
    (root : PyStr) (tree : List CandidateTrees.TreeEntry) (stage : CandidateStage)
    (written : StagedRoot) : Prop where
  listed : ∃ raw, workspace.listing = some raw ∧ parseTree raw = .ok tree
  evidence : stage = stageOf hashing fetched root (entriesOf hashing workspace tree)
  manifest : written.manifest = some ⟨true, true, 0o600, manifestBytes stage⟩
  branch : fetched.branch = text "candidate"
  verified : verifyCandidateStage hashing written stage = .ok ()

theorem staged_of_ok {workspace : Workspace} {fetched : CandidateFetch} {root : PyStr}
    {stage : CandidateStage} {written : StagedRoot}
    (staged : stageFetchedCandidate hashing workspace fetched root = .ok (stage, written)) :
    ∃ tree, Staged hashing workspace fetched root tree stage written := by
  unfold stageFetchedCandidate at staged
  obtain ⟨⟨⟩, valid, staged⟩ := bind_eq_ok.mp staged
  obtain ⟨-, -, staged⟩ := bind_eq_ok.mp staged
  obtain ⟨-, -, staged⟩ := bind_eq_ok.mp staged
  obtain ⟨raw, listing, staged⟩ := bind_eq_ok.mp staged
  obtain ⟨tree, parsed, staged⟩ := bind_eq_ok.mp staged
  obtain ⟨⟨directories, entries⟩, made, staged⟩ := bind_eq_ok.mp staged
  obtain ⟨⟨⟩, verified, staged⟩ := bind_eq_ok.mp staged
  obtain ⟨-, -, staged⟩ := bind_eq_ok.mp staged
  cases staged
  have listed : workspace.listing = some raw := by
    unfold listTree at listing
    split at listing
    · cases listing
    next raw' held =>
      cases listing
      exact held
  have branch : fetched.branch = text "candidate" := by
    unfold validateFetchEvidence at valid
    split at valid
    · cases valid
    next allowed =>
      simp only [not_or, not_not] at allowed
      exact allowed.2.2.1
  have same := materialize_entries made
  subst same
  exact ⟨tree, ⟨raw, listed, parsed⟩, rfl, rfl, branch, verified⟩

/-! ## Loading what was staged -/

/-- The candidate is within the limits of the loader: the entries of its tree, and the bytes of the
manifest they are written in. -/
def WithinLimits (hashing : Hashing) (workspace : Workspace) (fetched : CandidateFetch) : Prop :=
  ∀ raw tree, workspace.listing = some raw → parseTree raw = .ok tree →
    tree.length ≤ maxManifestEntries ∧
      manifestLength fetched.target fetched.repositoryId fetched.commitSha
        (entriesOf hashing workspace tree) ≤ maxManifestBytes

variable {workspace : Workspace} {fetched : CandidateFetch} {root : PyStr}
  {tree : List CandidateTrees.TreeEntry} {stage : CandidateStage} {written : StagedRoot}

theorem Staged.encodable (staged : Staged hashing workspace fetched root tree stage written) :
    Encodable stage := by
  obtain ⟨raw, -, parsed⟩ := staged.listed
  have form := CandidateTrees.parseTree_form (parseTree_ok_iff.mp parsed)
  have evidence := staged.evidence
  subst evidence
  refine ⟨fetched.encodable, ?_, fun entry mem => ?_⟩
  · show ∀ c ∈ fetched.branch, Utf8.Scalar c
    rw [staged.branch]
    exact text_scalar (by decide)
  · obtain ⟨blob, held, rfl⟩ := List.mem_map.mp mem
    exact form.scalar blob held

/-- A verified stage stays one where its directory is moved. -/
theorem verifyCandidateStage_move (written : StagedRoot) (stage : CandidateStage) (place : PyStr) :
    verifyCandidateStage hashing written { stage with root := place } =
      verifyCandidateStage hashing written stage := rfl

theorem Staged.digest (staged : Staged hashing workspace fetched root tree stage written) :
    stage.manifestSha256 = hashing.sha256 (manifestBytes stage) := by
  rw [staged.evidence]
  rfl

theorem Staged.length (staged : Staged hashing workspace fetched root tree stage written) :
    stage.entries.length = tree.length ∧ (manifestBytes stage).length =
      manifestLength fetched.target fetched.repositoryId fetched.commitSha
        (entriesOf hashing workspace tree) := by
  have encodable := staged.encodable
  have evidence := staged.evidence
  subst evidence
  exact ⟨List.length_map _, length_manifestBytes encodable staged.branch⟩

theorem Staged.limits (staged : Staged hashing workspace fetched root tree stage written) :
    WithinLimits hashing workspace fetched ↔
      stage.entries.length ≤ maxManifestEntries ∧
        (manifestBytes stage).length ≤ maxManifestBytes := by
  obtain ⟨raw, listing, parsed⟩ := staged.listed
  obtain ⟨entries, bytes⟩ := staged.length
  rw [entries, bytes]
  constructor
  · intro within
    exact within raw tree listing parsed
  · intro within raw' tree' listing' parsed'
    rw [listing] at listing'
    cases listing'
    rw [parsed] at parsed'
    cases parsed'
    exact within

theorem readPrivateManifest_eq {bytes : List UInt8}
    (manifest : written.manifest = some ⟨true, true, 0o600, bytes⟩) :
    readPrivateManifest written =
      if bytes.length > maxManifestBytes then reject "candidate staging manifest is unsafe"
      else .ok bytes := by
  have taken : (bytes.take (maxManifestBytes + 1)).length > maxManifestBytes ↔
      bytes.length > maxManifestBytes := by
    rw [List.length_take]
    omega
  unfold readPrivateManifest
  rw [manifest]
  simp only [taken, Bool.not_true, Bool.false_eq_true, ne_eq, not_true_eq_false, false_or]
  by_cases long : bytes.length > maxManifestBytes
  · rw [if_pos long, if_pos long]
  · rw [if_neg long, if_neg long, List.take_of_length_le (by omega)]

theorem ok_bind {α β : Type} (a : α) (f : α → Except PyError β) : (Except.ok a >>= f) = f a := rfl

theorem reject_bind {α β : Type} (message : String) (f : α → Except PyError β) :
    (reject message >>= f) = reject message := rfl

/-- What the loader makes of a stage that was written. -/
theorem Staged.load (staged : Staged hashing workspace fetched root tree stage written)
    (place : PyStr) : loadCandidateStage hashing written place =
      if (manifestBytes stage).length > maxManifestBytes then
        reject "candidate staging manifest is unsafe"
      else if stage.entries.length > maxManifestEntries then invalidManifest
      else .ok { stage with root := place } := by
  have evidence : evidenceOf hashing (manifestBytes stage) place (manifestMembers stage)
      (stage.entries.map membersOf) = some { stage with root := place } := by
    rw [evidenceOf_manifestMembers, ← staged.digest]
  unfold loadCandidateStage
  rw [readPrivateManifest_eq staged.manifest]
  by_cases long : (manifestBytes stage).length > maxManifestBytes
  · rw [if_pos long, if_pos long, reject_bind]
  rw [if_neg long, if_neg long, ok_bind, parseManifest_manifestBytes staged.encodable, ok_bind,
    manifestEntries_manifestMembers]
  by_cases many : stage.entries.length > maxManifestEntries
  · rw [if_pos many, if_pos many, invalidManifest, reject_bind, invalidManifest]
  rw [if_neg many, if_neg many, ok_bind, evidence, orReject, ok_bind, verifyCandidateStage_move,
    staged.verified, ok_bind]
  exact rfl

/-- **A staged candidate can be loaded, wherever its directory is moved, exactly within the limits
of the loader.** Verification has no limits, so it accepts every stage that was written. -/
theorem staged_loads_iff (staged : stageFetchedCandidate hashing workspace fetched root =
    .ok (stage, written)) (place : PyStr) :
    (verifyCandidateStage hashing written { stage with root := place } = .ok () ∧
      loadCandidateStage hashing written place = .ok { stage with root := place }) ↔
    WithinLimits hashing workspace fetched := by
  obtain ⟨tree, staged⟩ := staged_of_ok staged
  rw [staged.limits, staged.load, verifyCandidateStage_move, staged.verified]
  constructor
  · rintro ⟨-, loaded⟩
    split at loaded
    · cases loaded
    split at loaded
    · cases loaded
    · omega
  · rintro ⟨few, short⟩
    rw [if_neg (Nat.not_lt.mpr short), if_neg (Nat.not_lt.mpr few)]
    exact ⟨rfl, rfl⟩

/-! ## Candidates of empty files, each with a name of one character -/

theorem records_flatMap {rs : List (List UInt8)} (clean : ∀ record ∈ rs, 0 ∉ record) :
    CandidateTrees.records (rs.flatMap (· ++ [0])) = rs := by
  have split : (rs.flatMap (· ++ [0])).splitOn 0 = rs ++ [[]] := by
    induction rs with
    | nil => rfl
    | cons record rs ih =>
      obtain ⟨here, later⟩ := List.forall_mem_cons.mp clean
      rw [List.flatMap_cons, List.append_assoc, List.singleton_append,
        List.splitOn_append_cons_self_of_not_mem here, ih later, List.cons_append]
  unfold CandidateTrees.records
  rw [split]
  simp

/-- The name of the file with this number. -/
def nameOf (i : Nat) : PyStr := [0x4E00 + i]

theorem nameOf_scalar {i : Nat} (small : i < 0x8000) : ∀ c ∈ nameOf i, Utf8.Scalar c := by
  intro c mem
  rw [List.mem_singleton.mp mem]
  exact ⟨by omega, by omega⟩

theorem nameOf_injective {i j : Nat} (same : nameOf i = nameOf j) : i = j := by
  have := (List.cons.inj same).1
  omega

theorem splitPath_nameOf (i : Nat) : splitPath (nameOf i) = [nameOf i] := by
  unfold splitPath nameOf
  rw [List.splitOn_eq_singleton]
  intro mem
  have := List.mem_singleton.mp mem
  unfold slash at this
  omega

theorem safePath_nameOf (i : Nat) : safePath (nameOf i) = true := by
  have dot : nameOf i ≠ text "." := by
    intro same
    have := (List.cons.inj (same.trans (show text "." = [46] by decide))).1
    omega
  have dots : nameOf i ≠ text ".." := by
    intro same
    have longer : 1 = 2 := congrArg List.length (same.trans (show text ".." = [46, 46] by decide))
    omega
  have git : foldsToGit (nameOf i) = false := by
    unfold foldsToGit
    rw [decide_eq_false_iff_not]
    intro same
    have longer : 1 = 4 :=
      congrArg List.length (same.trans (show text ".git" = [46, 103, 105, 116] by decide))
    omega
  have front : ¬(nameOf i = [] ∨ (nameOf i).head? = some slash) := by
    rintro (wrong | same)
    · cases wrong
    · have := Option.some.inj same
      unfold slash at this
      omega
  have some : nameOf i ≠ [] := by
    intro wrong
    cases wrong
  unfold safePath
  rw [if_neg front, splitPath_nameOf]
  simp [some, dot, dots, git]

/-- No name of one character lies below another. -/
theorem startsBelow_nameOf (i j : Nat) : CandidateTrees.startsBelow (nameOf i) (nameOf j) = false := by
  simp [CandidateTrees.startsBelow, nameOf, List.isPrefixOf]

def zeroId : ObjectId := .sha1 (zeroHashing.sha1 [])

/-- The record of the file, as Git lists it. -/
def recordOfName (i : Nat) : List UInt8 :=
  (text "100644 blob 0000000000000000000000000000000000000000").map UInt8.ofNat ++
    9 :: Utf8.encode (nameOf i)

def treeEntryOfName (i : Nat) : CandidateTrees.TreeEntry := ⟨nameOf i, .regular, zeroId⟩

theorem splitRecord_recordOfName {i : Nat} (small : i < 0x8000) :
    CandidateTrees.splitRecord (recordOfName i) = some ⟨nameOf i, text "100644", text "blob",
      text "0000000000000000000000000000000000000000"⟩ := by
  have path : CandidateTrees.splitFirst 9 (recordOfName i) =
      some ((text "100644 blob 0000000000000000000000000000000000000000").map UInt8.ofNat,
        Utf8.encode (nameOf i)) := by rfl
  have mode : CandidateTrees.splitFirst 32
      ((text "100644 blob 0000000000000000000000000000000000000000").map UInt8.ofNat) =
        some ((text "100644").map UInt8.ofNat,
          (text "blob 0000000000000000000000000000000000000000").map UInt8.ofNat) := by decide
  have kind : CandidateTrees.splitFirst 32
      ((text "blob 0000000000000000000000000000000000000000").map UInt8.ofNat) =
        some ((text "blob").map UInt8.ofNat,
          (text "0000000000000000000000000000000000000000").map UInt8.ofNat) := by decide
  have decodedMode : CandidateTrees.decodeAscii ((text "100644").map UInt8.ofNat) =
    some (text "100644") := by decide
  have decodedKind : CandidateTrees.decodeAscii ((text "blob").map UInt8.ofNat) =
    some (text "blob") := by decide
  have decodedId : CandidateTrees.decodeAscii
    ((text "0000000000000000000000000000000000000000").map UInt8.ofNat) =
      some (text "0000000000000000000000000000000000000000") := by decide
  have decoded := Utf8.decode_encode (nameOf_scalar small)
  unfold CandidateTrees.splitRecord
  simp only [Option.bind_eq_bind, path, mode, kind, decodedMode, decodedKind, decodedId, decoded,
    Option.bind_some]
  exact rfl

theorem parseObjectId_zero : CandidateTrees.parseObjectId
    (text "0000000000000000000000000000000000000000") = some zeroId :=
  parseObjectId_objectIdText zeroId

theorem validateTreeEntry_nameOf {seen : List Nat} {i : Nat} (fresh : i ∉ seen) :
    validateTreeEntry (seen.map nameOf) ⟨nameOf i, text "100644", text "blob",
      text "0000000000000000000000000000000000000000"⟩ = .ok (treeEntryOfName i) := by
  have unseen : nameOf i ∉ seen.map nameOf := by
    intro mem
    obtain ⟨j, held, same⟩ := List.mem_map.mp mem
    exact fresh (nameOf_injective same ▸ held)
  have apart : ((seen.map nameOf).any fun existing =>
      CandidateTrees.startsBelow (nameOf i) existing ||
        CandidateTrees.startsBelow existing (nameOf i)) = false := by
    rw [List.any_eq_false]
    intro existing mem
    obtain ⟨j, -, rfl⟩ := List.mem_map.mp mem
    simp [startsBelow_nameOf]
  unfold validateTreeEntry
  dsimp only
  have mode : CandidateTrees.parseMode (text "100644") = some .regular := parseMode_modeText .regular
  rw [safePath_nameOf, mode, parseObjectId_zero]
  simp [unseen, apart, treeEntryOfName]

theorem parseRecords_names (seen : List Nat) {is : List Nat} (small : ∀ i ∈ is, i < 0x8000)
    (distinct : is.Nodup) (fresh : ∀ i ∈ is, i ∉ seen) :
    parseRecords (seen.map nameOf) (is.map recordOfName) = .ok (is.map treeEntryOfName) := by
  induction is generalizing seen with
  | nil => rfl
  | cons i is ih =>
    obtain ⟨here, later⟩ := List.forall_mem_cons.mp small
    obtain ⟨first, rest⟩ := List.nodup_cons.mp distinct
    have read := ih (i :: seen) later rest fun j mem held => by
      rcases List.mem_cons.mp held with rfl | held
      · exact first mem
      · exact fresh j (List.mem_cons_of_mem _ mem) held
    rw [List.map_cons, List.map_cons]
    unfold parseRecords
    rw [splitRecord_recordOfName here]
    show (validateTreeEntry (seen.map nameOf) _ >>= _) = _
    rw [validateTreeEntry_nameOf (fresh i List.mem_cons_self), ok_bind]
    show (parseRecords ((i :: seen).map nameOf) (is.map recordOfName) >>= _) = _
    rw [read, ok_bind]
    exact rfl

/-- The bytes of a name hold no NUL. -/
theorem zero_not_mem_nameOf {i : Nat} (small : i < 0x8000) : 0 ∉ Utf8.encode (nameOf i) := by
  have byte {n : Nat} (low : 0 < n) (high : n < 256) : (0 : UInt8) ≠ .ofNat n := by
    intro same
    have := congrArg UInt8.toNat same
    rw [UInt8.toNat_ofNat', Nat.mod_eq_of_lt high] at this
    exact absurd this (Nat.ne_of_lt low)
  intro mem
  obtain ⟨c, held, mem⟩ := List.mem_flatMap.mp mem
  rw [List.mem_singleton.mp held] at mem
  unfold Utf8.encodeChar at mem
  rw [if_neg (by omega), if_neg (by omega), if_pos (by omega)] at mem
  simp only [List.mem_cons, List.not_mem_nil, or_false] at mem
  rcases mem with same | same | same
  · exact byte (by omega) (by omega) same
  · exact byte (by omega) (by omega) same
  · exact byte (by omega) (by omega) same

/-- The listing of this many files. -/
def listingOf (n : Nat) : List UInt8 := ((List.range n).map recordOfName).flatMap (· ++ [0])

theorem parseTree_listingOf {n : Nat} (small : n ≤ 0x8000) :
    parseTree (listingOf n) = .ok ((List.range n).map treeEntryOfName) := by
  have each : ∀ i ∈ List.range n, i < 0x8000 := fun i mem =>
    Nat.lt_of_lt_of_le (List.mem_range.mp mem) small
  have clean : ∀ record ∈ (List.range n).map recordOfName, 0 ∉ record := by
    intro record mem held
    obtain ⟨i, listed, rfl⟩ := List.mem_map.mp mem
    rcases List.mem_append.mp held with fields | path
    · revert fields
      decide
    · rcases List.mem_cons.mp path with wrong | name
      · cases wrong
      · exact zero_not_mem_nameOf (each i listed) name
  have sorted : ((List.range n).map treeEntryOfName).Pairwise fun first second =>
      first.path ≤ second.path := by
    refine List.pairwise_map.mpr (List.pairwise_lt_range.imp fun {i j} less => le_of_lt ?_)
    exact List.cons_lt_cons_iff.mpr (.inl (by omega))
  have read := parseRecords_names [] each List.nodup_range fun _ _ => List.not_mem_nil
  unfold parseTree listingOf
  rw [records_flatMap clean]
  show (parseRecords (([] : List Nat).map nameOf) _ >>= _) = _
  rw [read, ok_bind]
  show Except.ok (List.insertionSort _ _) = _
  rw [sorted.insertionSort_eq]

/-- An empty file under its name. -/
def fileOfName (i : Nat) : PyStr × StagedFile := (nameOf i, ⟨true, true, 0o600, []⟩)

def workspaceOf (n : Nat) : Workspace where
  trusted := true
  reproof := fun _ => some (zeroId, text "commit")
  listing := some (listingOf n)
  blob := fun _ => some []
  fits := fun _ => true

def fetchOf (target : String) (ascii : target.toList.all (·.toNat < 128) = true) : CandidateFetch where
  target := text target
  repositoryId := 1
  branch := text "candidate"
  commitSha := zeroId
  gitRef := text "refs/syncapp/candidate-fetch"
  encodable := text_scalar ascii

def stageEntryOfName (hashing : Hashing) (i : Nat) : CandidateStageEntry :=
  stageEntryOf hashing (treeEntryOfName i) []

theorem parentsOf_nameOf (i : Nat) : parentsOf (nameOf i) = [] ∧
    asPosix (splitPath (nameOf i)).dropLast = [] := by
  unfold parentsOf
  rw [splitPath_nameOf]
  exact ⟨rfl, rfl⟩

theorem materialize_names (hashing : Hashing) (n : Nat) {is : List Nat} (done : List Nat) (distinct : is.Nodup)
    (fresh : ∀ i ∈ is, i ∉ done) :
    materialize hashing (workspaceOf n) [⟨[], true, done.map fileOfName⟩] (is.map treeEntryOfName) =
      .ok ([⟨[], true, (done ++ is).map fileOfName⟩], is.map (stageEntryOfName hashing)) := by
  induction is generalizing done with
  | nil => rw [List.append_nil]; rfl
  | cons i is ih =>
    obtain ⟨first, rest⟩ := List.nodup_cons.mp distinct
    have later := ih (done ++ [i]) rest fun j mem held => by
      rcases List.mem_append.mp held with before | last
      · exact fresh j (List.mem_cons_of_mem _ mem) before
      · exact first (List.mem_singleton.mp last ▸ mem)
    have free : i ∉ done := fresh i List.mem_cons_self
    have written : writePrivateFile (fun _ => true) [⟨[], true, done.map fileOfName⟩] (nameOf i) []
        false = .ok [⟨[], true, (done ++ [i]).map fileOfName⟩] := by
      unfold writePrivateFile
      rw [(parentsOf_nameOf i).2]
      simp [free, nameOf, fileOfName]
    have made : materializeEntry hashing (workspaceOf n) [⟨[], true, done.map fileOfName⟩]
        (treeEntryOfName i) =
          .ok ([⟨[], true, (done ++ [i]).map fileOfName⟩], stageEntryOfName hashing i) := by
      show (List.foldlM _ _ (parentsOf (nameOf i)) >>= _) = _
      rw [(parentsOf_nameOf i).1]
      show (writePrivateFile (fun _ => true) _ (nameOf i) [] false >>= _) = _
      rw [written, ok_bind]
      exact rfl
    rw [List.map_cons]
    unfold materialize
    rw [made, ok_bind]
    dsimp only
    rw [later, ok_bind, List.append_assoc, List.singleton_append]
    exact rfl

theorem validateEntries_names (hashing : Hashing) {is : List Nat} (previous : Option Nat)
    (small : ∀ i ∈ is, i < 0x8000)
    (sorted : is.Pairwise (· < ·)) (above : ∀ before ∈ previous, ∀ i ∈ is, before < i) :
    validateEntries (previous.map nameOf) (is.map (stageEntryOfName hashing)) = .ok () := by
  induction is generalizing previous with
  | nil => rfl
  | cons i is ih =>
    obtain ⟨here, later⟩ := List.forall_mem_cons.mp small
    obtain ⟨first, rest⟩ := List.pairwise_cons.mp sorted
    have next := ih (some i) later rest fun before same j mem => by
      cases same
      exact first j mem
    have key : encodeUtf8 (nameOf i) = .ok (nameOf i) := by
      unfold encodeUtf8 nameOf
      rw [if_neg]
      simp only [List.any_cons, List.any_nil, Bool.or_false, Bool.and_eq_true, decide_eq_true_eq]
      omega
    have ordered : ((previous.map nameOf).any fun before => nameOf i ≤ before) = false := by
      cases previous with
      | none => rfl
      | some before =>
        have less := above before rfl i List.mem_cons_self
        show decide (nameOf i ≤ nameOf before) = false
        rw [decide_eq_false_iff_not, not_le]
        exact List.cons_lt_cons_iff.mpr (.inl (by omega))
    rw [List.map_cons]
    unfold validateEntries
    show (if !safePath (nameOf i) then _ else encodeUtf8 (nameOf i) >>= _) = _
    rw [safePath_nameOf, key, ok_bind, ordered]
    exact next

theorem find_stageEntryOfName (hashing : Hashing) {all : List Nat} {i : Nat} (mem : i ∈ all) :
    (all.map (stageEntryOfName hashing)).find? (·.path = nameOf i) =
      some (stageEntryOfName hashing i) := by
  induction all with
  | nil => cases mem
  | cons j all ih =>
    rw [List.map_cons, List.find?_cons]
    by_cases same : nameOf j = nameOf i
    · have here : decide ((stageEntryOfName hashing j).path = nameOf i) = true :=
        decide_eq_true same
      rw [here, nameOf_injective same]
    · have other : decide ((stageEntryOfName hashing j).path = nameOf i) = false :=
        decide_eq_false same
      rw [other]
      refine ih ((List.mem_cons.mp mem).resolve_left fun wrong => ?_)
      rw [wrong] at same
      exact same rfl

theorem verifyStagedFiles_names {is all : List Nat} (within : ∀ i ∈ is, i ∈ all) :
    verifyStagedFiles hashing (all.map (stageEntryOfName hashing)) (is.map fileOfName) = .ok () := by
  induction is with
  | nil => rfl
  | cons i is ih =>
    obtain ⟨here, later⟩ := List.forall_mem_cons.mp within
    have found := find_stageEntryOfName hashing here
    rw [List.map_cons]
    show verifyStagedFiles hashing _ ((nameOf i, _) :: _) = _
    unfold verifyStagedFiles
    rw [found]
    show (verifyStagedFile hashing ⟨true, true, 0o600, []⟩ (stageEntryOfName hashing i) >>= _) = _
    have same : verifyStagedFile hashing ⟨true, true, 0o600, []⟩ (stageEntryOfName hashing i) =
        .ok () := by
      simp [verifyStagedFile, stageEntryOfName, stageEntryOf, treeEntryOfName]
    rw [same, ok_bind]
    exact ih later

theorem expectedDirectories_names (is : List Nat) :
    ∀ path ∈ expectedDirectories (is.map (stageEntryOfName hashing)), path = [] := by
  intro path mem
  rcases List.mem_cons.mp mem with rfl | below
  · rfl
  · obtain ⟨entry, held, mem⟩ := List.mem_flatMap.mp below
    obtain ⟨i, -, rfl⟩ := List.mem_map.mp held
    have none := (parentsOf_nameOf i).1
    unfold parentsOf at none
    rw [show (stageEntryOfName hashing i).path = nameOf i from rfl, none] at mem
    cases mem

theorem verifyStagedTree_names (is : List Nat) :
    verifyStagedTree hashing ⟨true, none, [⟨[], true, is.map fileOfName⟩]⟩
      (is.map (stageEntryOfName hashing)) = .ok () := by
  have root : (expectedDirectories (is.map (stageEntryOfName hashing))).contains [] = true :=
    List.contains_iff_mem.mpr List.mem_cons_self
  have walked : walkStagedTree hashing (is.map (stageEntryOfName hashing))
      [⟨[], true, is.map fileOfName⟩] = .ok () := by
    unfold walkStagedTree
    simp only [root, Bool.not_true, Bool.false_eq_true, or_self, if_false]
    rw [verifyStagedFiles_names fun _ mem => mem, ok_bind]
    rfl
  unfold verifyStagedTree
  rw [walked, ok_bind]
  dsimp only
  refine if_pos ⟨?_, ?_⟩
  · rw [List.all_eq_true]
    intro entry mem
    obtain ⟨i, held, rfl⟩ := List.mem_map.mp mem
    rw [List.contains_iff_mem, List.flatMap_singleton]
    exact List.mem_map.mpr ⟨fileOfName i, List.mem_map.mpr ⟨i, held, rfl⟩, rfl⟩
  · rw [List.all_eq_true]
    intro path mem
    rw [expectedDirectories_names is path mem]
    rfl

theorem verifyCandidateStage_names (hashing : Hashing) {n : Nat} (small : n ≤ 0x8000) {target : String}
    (ascii : target.toList.all (·.toNat < 128) = true) (some : text target ≠ []) (root : PyStr) :
    let stage := stageOf hashing (fetchOf target ascii) root
      ((List.range n).map (stageEntryOfName hashing))
    verifyCandidateStage hashing ⟨true, .some ⟨true, true, 0o600, manifestBytes stage⟩,
      [⟨[], true, (List.range n).map fileOfName⟩]⟩ stage = .ok () := by
  intro stage
  have valid : validateStageEvidence stage = .ok () := by
    have entries := validateEntries_names hashing none
      (fun i mem => Nat.lt_of_lt_of_le (List.mem_range.mp mem) small) List.pairwise_lt_range nofun
    unfold validateStageEvidence
    rw [if_neg]
    · exact entries
    · show ¬(text target = [] ∨ (1 : Int) ≤ 0 ∨ text "candidate" ≠ text "candidate")
      simp [some]
  have digest : hashing.sha256 (manifestBytes stage) = stage.manifestSha256 := rfl
  unfold verifyCandidateStage
  rw [valid, ok_bind]
  show (Except.ok () >>= _) = _
  rw [ok_bind]
  show (Except.ok (manifestBytes stage) >>= _) = _
  rw [ok_bind, if_neg (not_not.mpr rfl), if_neg (not_not.mpr digest)]
  exact verifyStagedTree_names (List.range n)

/-- **Any number of files is staged.** -/
theorem many_staged (hashing : Hashing) {n : Nat} (small : n ≤ 0x8000) (target : String)
    (ascii : target.toList.all (·.toNat < 128) = true) (some : text target ≠ []) (root : PyStr) :
    ∃ stage written, stageFetchedCandidate hashing (workspaceOf n) (fetchOf target ascii) root =
      .ok (stage, written) ∧ stage.entries.length = n := by
  let stage := stageOf hashing (fetchOf target ascii) root
    ((List.range n).map (stageEntryOfName hashing))
  refine ⟨stage, ⟨true, .some ⟨true, true, 0o600, manifestBytes stage⟩,
    [⟨[], true, (List.range n).map fileOfName⟩]⟩, ?_, ?_⟩
  · have valid : validateFetchEvidence (fetchOf target ascii) = .ok () := by
      unfold validateFetchEvidence
      rw [if_neg]
      show ¬(text target = [] ∨ (1 : Int) ≤ 0 ∨ _ ≠ _ ∨ _ ≠ _)
      simp [some, fetchOf]
    have proved : ∀ time, reproveFetch (workspaceOf n) (fetchOf target ascii) time = .ok () := by
      intro time
      unfold reproveFetch
      simp [workspaceOf, fetchOf]
    have made := materialize_names hashing n [] (List.nodup_range (n := n))
      fun _ _ => List.not_mem_nil
    have verified := verifyCandidateStage_names hashing small ascii some root
    unfold stageFetchedCandidate
    rw [valid, ok_bind]
    show (Except.ok () >>= _) = _
    rw [ok_bind, proved, ok_bind]
    show (Except.ok (listingOf n) >>= _) = _
    rw [ok_bind, parseTree_listingOf small, ok_bind]
    show (materialize hashing (workspaceOf n) [⟨[], true, ([] : List Nat).map fileOfName⟩] _ >>= _) = _
    rw [made, ok_bind]
    dsimp only at verified ⊢
    rw [List.nil_append, verified, ok_bind, proved, ok_bind]
    exact rfl
  · exact (List.length_map _).trans List.length_range

/-- One file is staged, and what becomes of it is as the limits say. -/
theorem one_staged : ∃ stage written, stageFetchedCandidate zeroHashing (workspaceOf 1)
    (fetchOf "o/r" (by decide)) (text "/s") = .ok (stage, written) ∧
    ((verifyCandidateStage zeroHashing written { stage with root := text "/t" } = .ok () ∧
      loadCandidateStage zeroHashing written (text "/t") =
        .ok { stage with root := text "/t" }) ↔
      WithinLimits zeroHashing (workspaceOf 1) (fetchOf "o/r" (by decide))) := by
  obtain ⟨stage, written, staged, -⟩ := many_staged zeroHashing (show 1 ≤ 0x8000 by decide) "o/r"
    (by decide) (by decide) (text "/s")
  exact ⟨stage, written, staged, staged_loads_iff staged (text "/t")⟩

/-- A candidate of 4097 files is staged and verified, and the loader refuses it everywhere. -/
theorem too_many_staged : ∃ stage written, stageFetchedCandidate zeroHashing (workspaceOf 4097)
    (fetchOf "o/r" (by decide)) (text "/s") = .ok (stage, written) ∧
    verifyCandidateStage zeroHashing written stage = .ok () ∧
    ∀ place, ∃ error, loadCandidateStage zeroHashing written place = .error error := by
  obtain ⟨stage, written, staged, many⟩ := many_staged zeroHashing (show 4097 ≤ 0x8000 by decide)
    "o/r" (by decide) (by decide) (text "/s")
  obtain ⟨tree, made⟩ := staged_of_ok staged
  refine ⟨stage, written, staged, made.verified, fun place => ?_⟩
  rw [made.load place, many]
  split
  · exact ⟨_, rfl⟩
  · rw [if_pos (by decide)]
    exact ⟨_, rfl⟩

end CandidateStaging

end SyncApp
