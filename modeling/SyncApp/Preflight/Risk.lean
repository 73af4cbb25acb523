import Mathlib.Data.List.Dedup
import Mathlib.Order.Lattice
import SyncApp.Pipeline.Candidates
import SyncApp.Preflight.Impact

/-!
# The risk of a candidate

Each changed path has a level of its own, and whatever the analysis could not resolve asks for a
high one: the level of a candidate is the highest of these.

`str.casefold` is a parameter.
-/

set_option autoImplicit false

namespace SyncApp

open Lib Raising

namespace RiskLevel

/-- `_LEVEL_INDEX`. -/
def index : RiskLevel → Nat
  | low => 0
  | medium => 1
  | high => 2
  | critical => 3

theorem index_injective : Function.Injective index := by
  intro first second same
  cases first <;> cases second <;> first | rfl | cases same

instance : LinearOrder RiskLevel := LinearOrder.lift' index index_injective

def name : RiskLevel → PyStr
  | low => text "low"
  | medium => text "medium"
  | high => text "high"
  | critical => text "critical"

end RiskLevel

/-- `_maximum_level`. -/
def maximumLevel (first second : RiskLevel) : RiskLevel :=
  if second.index ≤ first.index then first else second

theorem maximumLevel_le {first second bound : RiskLevel} :
    maximumLevel first second ≤ bound ↔ first ≤ bound ∧ second ≤ bound := by
  unfold maximumLevel
  split
  next below =>
    have ordered : second ≤ first := below
    exact ⟨fun within => ⟨within, ordered.trans within⟩, And.left⟩
  next above =>
    have ordered : first ≤ second := (not_le.mp above).le
    exact ⟨fun within => ⟨ordered.trans within, within⟩, And.right⟩

/-- `CandidateRiskError`. -/
abbrev RiskError := String

/-! ## Paths -/

/-- `PurePosixPath(…).suffix` of a last name: what the last dot begins, unless it is the first
character or the last. -/
def pathSuffix (name : PyStr) : PyStr :=
  let extension := (name.reverse.takeWhile (· ≠ 46)).reverse
  if 46 ∈ name ∧ extension ≠ [] ∧ extension.length + 1 < name.length then 46 :: extension else []

/-- `part in name`. -/
def includesText (part : PyStr) : PyStr → Bool
  | [] => part.isEmpty
  | c :: name => part.isPrefixOf (c :: name) || includesText part name

section

variable (casefold : PyStr → PyStr)

/-- The level of a path by its names, which are casefolded, and by its casefolded suffix. -/
def levelOfNames (root basename suffix : PyStr) : RiskLevel × String :=
  let endsIn (endings : List String) : Bool :=
    endings.any fun ending => (text ending).isSuffixOf basename
  let named (names : List String) (value : PyStr) : Bool := names.any fun name => text name = value
  if endsIn [".db", ".sqlite", ".sqlite3"] || endsIn [".db-wal", ".db-shm", ".db-journal"] then
    (.critical, "database manipulation")
  else if named ["host", "supervisor", "systemd"] root || suffix = text ".service" then
    (.critical, "system-level operation")
  else if root = text ".storage" then (.high, "Home Assistant internal storage")
  else if root = text "custom_components" then (.high, "custom component")
  else if basename = text "configuration.yaml" then (.high, "core Home Assistant configuration")
  else if basename = text "secrets.yaml" || includesText (text "secret") basename then
    (.high, "sensitive secret configuration")
  else if (text "auth").isPrefixOf basename || includesText (text "authentication") basename then
    (.high, "authentication-related configuration")
  else if root = text "integrations" || basename = text "integrations.yaml" then
    (.medium, "integration configuration")
  else if named ["dashboards", "packages"] root ||
      named ["ui-lovelace.yaml", "lovelace.yaml"] basename then
    (.medium, "multi-resource dashboard or package configuration")
  else if named ["automations.yaml", "scripts.yaml", "scenes.yaml"] basename then
    (.low, "automation, script, or scene configuration")
  else if named ["automations", "scripts", "scenes", "blueprints"] root then
    (.low, "automation, script, scene, or blueprint configuration")
  else if named [".yaml", ".yml"] suffix then (.low, "non-critical YAML by path")
  else (.high, "unrecognized candidate path requires conservative handling")

/-- `_classify_path`. -/
def classifyPath (path : PyStr) : Except RiskError (RiskLevel × String) :=
  let names := pathParts path
  let parts := names.map casefold
  let posix := if names = [] then text "." else asPosix names
  if path = [] ∨ path.head? = some slash ∨
      parts.any (fun part => part = [] || part = text "." || part = text "..") ∨ posix ≠ path then
    .error "candidate risk path is invalid"
  else
    match parts.head?, parts.getLast?, names.getLast? with
    | some root, some basename, some name =>
      .ok (levelOfNames root basename (casefold (pathSuffix name)))
    | _, _, _ => .error "tuple index out of range"

/-! ## Classification -/

structure CandidateRiskClassification where
  target : PyStr
  repositoryId : Int
  baselineSha : ObjectId
  candidateSha : ObjectId
  stageManifestSha256 : Digest
  runtimeSha256 : Digest
  level : RiskLevel
  reasons : List PyStr
  changedPaths : List PyStr
  affectedEntities : List PyStr
  unresolvedReferences : List PyStr
  dynamicPaths : List PyStr
  unanalyzedPaths : List PyStr
deriving DecidableEq

/-- The level and the reasons so far. -/
abbrev Assessment := RiskLevel × List PyStr

/-- The loop over the changed paths. -/
def assessPaths : List PyStr → Assessment → Except RiskError Assessment
  | [], assessed => .ok assessed
  | path :: paths, (level, reasons) => do
    let (pathLevel, basis) ← classifyPath casefold path
    assessPaths paths (maximumLevel level pathLevel, reasons.insert
      (pathLevel.name ++ text " path " ++ path ++ text ": " ++ text basis))

/-- A condition that asks for a high level. -/
def requireHigh (condition : Bool) (reason : String) (assessed : Assessment) : Assessment :=
  if condition then (maximumLevel assessed.1 .high, assessed.2.insert (text reason)) else assessed

/-- What could not be resolved: of the files' references, and of the runtime relations. -/
def unresolvedReferences (dependencies : CandidateDependencyAnalysis)
    (impact : CandidateImpactAnalysis) : List PyStr :=
  dependencies.unknownObjectReferences ++ impact.entities.flatMap (·.unresolved)

/-- `_validate_result`. -/
def CandidateRiskClassification.validate (result : CandidateRiskClassification) :
    Except RiskError Unit :=
  if result.target = [] ∨ result.repositoryId ≤ 0 ∨ result.reasons = [] ∨
      result.changedPaths = [] then
    .error "candidate risk result is invalid"
  else if [result.reasons, result.changedPaths, result.affectedEntities,
      result.unresolvedReferences, result.dynamicPaths, result.unanalyzedPaths].any fun values =>
        sortedSet values ≠ values || values.any (· = []) then
    .error "candidate risk result is invalid"
  else if ¬result.dynamicPaths.all (· ∈ result.changedPaths) ∨
      ¬result.unanalyzedPaths.all (· ∈ result.changedPaths) then
    .error "candidate risk result is invalid"
  else .ok ()

variable (fingerprintRuntime : RuntimeInventoryInput → Except String Digest)

/-- `classify_candidate_risk`. -/
def classifyCandidateRisk (dependencies : CandidateDependencyAnalysis)
    (impact : CandidateImpactAnalysis) (runtime : RuntimeInventoryInput) :
    Except RiskError CandidateRiskClassification := do
  (verifyCandidateImpactAnalysis fingerprintRuntime impact dependencies runtime).mapError fun _ =>
    "candidate impact evidence is not trusted"
  let changedPaths := dependencies.changedPaths
  if changedPaths = [] then .error "candidate risk requires at least one changed path"
  else do
    let assessed ← assessPaths casefold changedPaths (.low, [])
    let assessed := requireHigh (dependencies.dynamicPaths ≠ [])
      "dynamic candidate references require conservative handling" assessed
    let assessed := requireHigh (dependencies.unanalyzedPaths ≠ [])
      "unanalyzed candidate bytes require conservative handling" assessed
    let assessed := requireHigh (dependencies.unknownObjectReferences ≠ [])
      "unknown candidate object references require conservative handling" assessed
    let assessed := requireHigh (impact.entities.any (·.unresolved ≠ []))
      "unresolved runtime relationships require conservative handling" assessed
    let result : CandidateRiskClassification := {
      target := dependencies.target
      repositoryId := dependencies.repositoryId
      baselineSha := dependencies.baselineSha
      candidateSha := dependencies.candidateSha
      stageManifestSha256 := dependencies.stageManifestSha256
      runtimeSha256 := dependencies.runtimeSha256
      level := assessed.1
      reasons := sortIds assessed.2
      changedPaths
      affectedEntities := impact.entities.map (·.entityId)
      unresolvedReferences := sortedSet (unresolvedReferences dependencies impact)
      dynamicPaths := dependencies.dynamicPaths
      unanalyzedPaths := dependencies.unanalyzedPaths }
    result.validate
    return result

end

/-! ## The level is a least upper bound -/

section Level

variable {casefold : PyStr → PyStr}

/-- The levels of paths stay within a bound. -/
def PathsWithin (casefold : PyStr → PyStr) (bound : RiskLevel) (paths : List PyStr) : Prop :=
  ∀ path ∈ paths, ∀ level basis, classifyPath casefold path = .ok (level, basis) → level ≤ bound

theorem assessPaths_le {paths : List PyStr} {assessed result : Assessment}
    (ok : assessPaths casefold paths assessed = .ok result) (bound : RiskLevel) :
    result.1 ≤ bound ↔ assessed.1 ≤ bound ∧ PathsWithin casefold bound paths := by
  induction paths generalizing assessed with
  | nil =>
    cases ok
    exact (and_iff_left fun _ wrong => absurd wrong List.not_mem_nil).symm
  | cons path paths ih =>
    obtain ⟨⟨pathLevel, basis⟩, classified, rest⟩ := bind_eq_ok.mp ok
    rw [ih rest, maximumLevel_le, and_assoc]
    refine and_congr_right fun _ => ?_
    unfold PathsWithin
    rw [List.forall_mem_cons]
    refine and_congr_left fun _ => ⟨fun within level basis' again => ?_, fun within => ?_⟩
    · cases classified.symm.trans again
      exact within
    · exact within pathLevel basis classified

theorem requireHigh_le {condition : Bool} {reason : String} {assessed : Assessment}
    {bound : RiskLevel} : (requireHigh condition reason assessed).1 ≤ bound ↔
      assessed.1 ≤ bound ∧ (condition = true → .high ≤ bound) := by
  unfold requireHigh
  split
  next asked => exact maximumLevel_le.trans (and_congr_right fun _ => ⟨fun h _ => h, fun h => h asked⟩)
  next not => exact (and_iff_left fun asked => absurd asked not).symm

/-- Evidence that could not be resolved. -/
structure Uncertain (dependencies : CandidateDependencyAnalysis)
    (impact : CandidateImpactAnalysis) : Prop where
  some : dependencies.dynamicPaths ≠ [] ∨ dependencies.unanalyzedPaths ≠ [] ∨
    unresolvedReferences dependencies impact ≠ []

variable {fingerprintRuntime : RuntimeInventoryInput → Except String Digest}
  {dependencies : CandidateDependencyAnalysis} {impact : CandidateImpactAnalysis}
  {runtime : RuntimeInventoryInput} {result : CandidateRiskClassification}

/-- The fields of a classification that the level depends on. -/
structure Classified (casefold : PyStr → PyStr) (dependencies : CandidateDependencyAnalysis)
    (impact : CandidateImpactAnalysis) (result : CandidateRiskClassification) : Prop where
  changedPaths : result.changedPaths = dependencies.changedPaths
  unresolved : ∀ reference, reference ∈ result.unresolvedReferences ↔
    reference ∈ unresolvedReferences dependencies impact
  dynamicPaths : result.dynamicPaths = dependencies.dynamicPaths
  unanalyzedPaths : result.unanalyzedPaths = dependencies.unanalyzedPaths
  /-- The level is the least upper bound of the paths' and of `high` where something is uncertain. -/
  level : ∀ bound, result.level ≤ bound ↔
    PathsWithin casefold bound dependencies.changedPaths ∧
      (Uncertain dependencies impact → .high ≤ bound)

theorem uncertain_iff : Uncertain dependencies impact ↔
    decide (dependencies.dynamicPaths ≠ []) = true ∨
      decide (dependencies.unanalyzedPaths ≠ []) = true ∨
      decide (dependencies.unknownObjectReferences ≠ []) = true ∨
      impact.entities.any (·.unresolved ≠ []) = true := by
  have split : unresolvedReferences dependencies impact ≠ [] ↔
      dependencies.unknownObjectReferences ≠ [] ∨ impact.entities.any (·.unresolved ≠ []) = true := by
    unfold unresolvedReferences
    rw [Ne, List.append_eq_nil_iff, List.flatMap_eq_nil_iff, not_and_or]
    simp
  constructor
  · rintro ⟨uncertain⟩
    rw [split] at uncertain
    simpa using uncertain
  · intro asked
    refine ⟨?_⟩
    rw [split]
    simpa using asked

theorem low_le (bound : RiskLevel) : .low ≤ bound := by
  show RiskLevel.index .low ≤ bound.index
  exact Nat.zero_le _

theorem classified_of_ok
    (ok : classifyCandidateRisk casefold fingerprintRuntime dependencies impact runtime =
      .ok result) :
    verifyCandidateImpactAnalysis fingerprintRuntime impact dependencies runtime = .ok () ∧
      Classified casefold dependencies impact result := by
  obtain ⟨_, verified, rest⟩ := bind_eq_ok.mp ok
  refine ⟨mapError_eq_ok.mp verified, ?_⟩
  dsimp only at rest
  split at rest
  · cases rest
  obtain ⟨assessed, paths, rest⟩ := bind_eq_ok.mp rest
  obtain ⟨_, -, same⟩ := bind_eq_ok.mp rest
  cases same
  refine ⟨rfl, fun reference => ?_, rfl, rfl, fun bound => ?_⟩
  · show reference ∈ sortedSet _ ↔ _
    unfold sortedSet sortIds
    rw [List.mem_insertionSort, List.mem_dedup]
  · show (requireHigh _ _ (requireHigh _ _ (requireHigh _ _ (requireHigh _ _ assessed)))).1 ≤ bound ↔ _
    rw [requireHigh_le, requireHigh_le, requireHigh_le, requireHigh_le, assessPaths_le paths bound,
      uncertain_iff]
    have lowest : ((.low, []) : Assessment).1 ≤ bound := low_le bound
    tauto

/-- **The level grows with the changes and with what is unresolved.** -/
theorem Classified.mono {dependencies' : CandidateDependencyAnalysis}
    {impact' : CandidateImpactAnalysis} {result' : CandidateRiskClassification}
    (one : Classified casefold dependencies impact result)
    (other : Classified casefold dependencies' impact' result')
    (paths : result.changedPaths ⊆ result'.changedPaths)
    (unresolved : result.unresolvedReferences ⊆ result'.unresolvedReferences)
    (dynamic : result.dynamicPaths ⊆ result'.dynamicPaths)
    (unanalyzed : result.unanalyzedPaths ⊆ result'.unanalyzedPaths) :
    result.level ≤ result'.level := by
  obtain ⟨within, high⟩ := (other.level result'.level).mp le_rfl
  rw [one.changedPaths, other.changedPaths] at paths
  rw [one.dynamicPaths, other.dynamicPaths] at dynamic
  rw [one.unanalyzedPaths, other.unanalyzedPaths] at unanalyzed
  have grown {first second : List PyStr} (subset : first ⊆ second) (some : first ≠ []) :
      second ≠ [] := by
    rintro rfl
    exact some (List.subset_nil.mp subset)
  refine (one.level _).mpr ⟨fun path member => within path (paths member), fun uncertain => high ?_⟩
  obtain some | some | some := uncertain
  · exact ⟨.inl (grown dynamic some)⟩
  · exact ⟨.inr (.inl (grown unanalyzed some))⟩
  · refine ⟨.inr (.inr (grown (fun reference member => ?_) some))⟩
    exact (other.unresolved reference).mp (unresolved ((one.unresolved reference).mpr member))

/-! ### More files -/

theorem sortedSet_subset {first second : List PyStr} (subset : first ⊆ second) :
    sortedSet first ⊆ sortedSet second := by
  intro value member
  unfold sortedSet sortIds at member ⊢
  rw [List.mem_insertionSort, List.mem_dedup] at member ⊢
  exact subset member

/-- What the verification of dependency evidence says of its fields. -/
theorem gathered_of_verified
    (verified : dependencies.verify fingerprintRuntime runtime = .ok ()) :
    dependencies.knownEntityReferences = dependencies.gathered (·.knownEntityReferences) ∧
      dependencies.unknownObjectReferences = dependencies.gathered (·.unknownObjectReferences) ∧
      dependencies.dynamicPaths =
        (dependencies.files.filter (·.dynamicReference)).map (·.path) ∧
      dependencies.unanalyzedPaths = (dependencies.files.filter (·.unanalyzed)).map (·.path) := by
  obtain ⟨_, -, rest⟩ := bind_eq_ok.mp verified
  obtain ⟨_, -, rest⟩ := bind_eq_ok.mp rest
  obtain ⟨_, valid, -⟩ := bind_eq_ok.mp rest
  unfold CandidateDependencyAnalysis.validate at valid
  split at valid
  · cases valid
  split at valid
  · cases valid
  split at valid
  · cases valid
  next same =>
    simp only [not_or, not_not] at same
    obtain ⟨known, -, unknown, dynamic, unanalyzed⟩ := same
    exact ⟨known, unknown, dynamic, unanalyzed⟩

/-- An impact that was verified is the expansion. -/
theorem expanded_of_verified
    (verified : verifyCandidateImpactAnalysis fingerprintRuntime impact dependencies runtime =
      .ok ()) : ∃ topology, Expanded fingerprintRuntime dependencies runtime impact topology := by
  obtain ⟨_, -, rest⟩ := bind_eq_ok.mp verified
  obtain ⟨expected, ok, same⟩ := bind_eq_ok.mp rest
  split at same
  · cases same
  next equal =>
    cases not_not.mp equal
    exact expanded_of_ok ok

/-- More files of the same runtime resolve no less, and leave no less open. -/
theorem Classified.mono_files {dependencies' : CandidateDependencyAnalysis}
    {impact' : CandidateImpactAnalysis} {result' : CandidateRiskClassification}
    (ok : classifyCandidateRisk casefold fingerprintRuntime dependencies impact runtime =
      .ok result)
    (ok' : classifyCandidateRisk casefold fingerprintRuntime dependencies' impact' runtime =
      .ok result')
    (files : dependencies.files ⊆ dependencies'.files) : result.level ≤ result'.level := by
  obtain ⟨verified, one⟩ := classified_of_ok ok
  obtain ⟨verified', other⟩ := classified_of_ok ok'
  obtain ⟨topology, expanded⟩ := expanded_of_verified verified
  obtain ⟨topology', expanded'⟩ := expanded_of_verified verified'
  cases expanded.built.symm.trans expanded'.built
  obtain ⟨known, unknown, dynamic, unanalyzed⟩ := gathered_of_verified expanded.verified
  obtain ⟨known', unknown', dynamic', unanalyzed'⟩ := gathered_of_verified expanded'.verified
  have gathered (references : CandidateDependencyFile → List PyStr) :
      dependencies.gathered references ⊆ dependencies'.gathered references := by
    refine sortedSet_subset fun reference member => ?_
    obtain ⟨file, there, within⟩ := List.mem_flatMap.mp member
    exact List.mem_flatMap.mpr ⟨file, files there, within⟩
  have entities : impact.entities ⊆ impact'.entities := by
    intro entity member
    obtain ⟨entityId, among, found⟩ := (mem_of_mapM_eq_ok expanded.entities entity).mp member
    refine (mem_of_mapM_eq_ok expanded'.entities entity).mpr ⟨entityId, ?_, found⟩
    rw [known] at among
    rw [known']
    exact gathered _ among
  refine one.mono other ?_ ?_ ?_ ?_
  · rw [one.changedPaths, other.changedPaths]
    exact List.map_subset _ files
  · intro reference member
    rw [one.unresolved] at member
    rw [other.unresolved]
    unfold unresolvedReferences at member ⊢
    rw [List.mem_append, List.mem_flatMap] at member ⊢
    obtain here | ⟨entity, there, within⟩ := member
    · rw [unknown] at here
      rw [unknown']
      exact .inl (gathered _ here)
    · exact .inr ⟨entity, entities there, within⟩
  · rw [one.dynamicPaths, other.dynamicPaths, dynamic, dynamic']
    exact List.map_subset _ (List.filter_subset _ files)
  · rw [one.unanalyzedPaths, other.unanalyzedPaths, unanalyzed, unanalyzed']
    exact List.map_subset _ (List.filter_subset _ files)

end Level

/-! ## Impact and risk -/

/-- **Impact is reachability, and risk is monotone.** An impact names, for each known reference,
exactly the entries that can be reached from it in the topology of the runtime, and the unresolved
relations of these; no reference of the runtime is dropped, and the order of its entries does not
matter. An unknown reference, or a relation that is unresolved anywhere in reach, asks for a high
level at least. The level is no lower for more changed paths, more unresolved references, more
dynamic or unanalyzed paths, nor for more files. -/
theorem impact_reaches_and_risk_grows (casefold : PyStr → PyStr)
    (fingerprintRuntime : RuntimeInventoryInput → Except String Digest) :
    (∀ dependencies runtime impact,
      expandCandidateImpact fingerprintRuntime dependencies runtime = .ok impact →
        ∃ topology, buildRuntimeTopology runtime = .ok topology ∧
          (∃ inventory found, indexInventory runtime.homeassistant = .ok inventory ∧
            inventoryReferences inventory = .ok found ∧ topology.Splits inventory found.1) ∧
          (∀ entityId, entityId ∈ dependencies.knownEntityReferences ↔
            ∃ entity ∈ impact.entities, entity.entityId = entityId) ∧
          ∀ entity ∈ impact.entities, entity.Reached topology) ∧
    (∀ dependencies runtime impact dependencies' runtime' impact',
      expandCandidateImpact fingerprintRuntime dependencies runtime = .ok impact →
      expandCandidateImpact fingerprintRuntime dependencies' runtime' = .ok impact' →
      SameEntries runtime.homeassistant runtime'.homeassistant →
      dependencies'.knownEntityReferences = dependencies.knownEntityReferences →
        impact'.entities = impact.entities) ∧
    (∀ dependencies impact runtime result topology,
      classifyCandidateRisk casefold fingerprintRuntime dependencies impact runtime = .ok result →
      buildRuntimeTopology runtime = .ok topology →
      (dependencies.unknownObjectReferences ≠ [] ∨
        ∃ entityId ∈ dependencies.knownEntityReferences, ∃ record ∈ topology.unresolved,
          Reaches topology.edges (.entity, entityId) record.source) → .high ≤ result.level) ∧
    (∀ dependencies impact runtime result dependencies' impact' runtime' result',
      classifyCandidateRisk casefold fingerprintRuntime dependencies impact runtime = .ok result →
      classifyCandidateRisk casefold fingerprintRuntime dependencies' impact' runtime' =
        .ok result' →
      result.changedPaths ⊆ result'.changedPaths →
      result.unresolvedReferences ⊆ result'.unresolvedReferences →
      result.dynamicPaths ⊆ result'.dynamicPaths →
      result.unanalyzedPaths ⊆ result'.unanalyzedPaths → result.level ≤ result'.level) ∧
    (∀ dependencies impact runtime result dependencies' impact' result',
      classifyCandidateRisk casefold fingerprintRuntime dependencies impact runtime = .ok result →
      classifyCandidateRisk casefold fingerprintRuntime dependencies' impact' runtime =
        .ok result' →
      dependencies.files ⊆ dependencies'.files → result.level ≤ result'.level) := by
  refine ⟨fun dependencies runtime impact ok => ?_, ?_, ?_, ?_, ?_⟩
  · obtain ⟨topology, expanded⟩ := expanded_of_ok ok
    exact ⟨topology, expanded.built, buildRuntimeTopology_splits expanded.built, expanded.reached⟩
  · intro dependencies runtime impact dependencies' runtime' impact' ok ok' same references
    exact expanded_entities_perm same references ok ok'
  · intro dependencies impact runtime result topology ok built unresolved
    obtain ⟨verified, classified⟩ := classified_of_ok ok
    refine ((classified.level result.level).mp le_rfl).2 ⟨.inr (.inr fun none => ?_)⟩
    obtain ⟨unknown, missing⟩ := List.append_eq_nil_iff.mp none
    obtain some | ⟨entityId, known, record, member, reaches⟩ := unresolved
    · exact some unknown
    obtain ⟨topology', expanded⟩ := expanded_of_verified verified
    cases built.symm.trans expanded.built
    obtain ⟨references, reached⟩ := expanded.reached
    obtain ⟨entity, there, rfl⟩ := (references entityId).mp known
    have misses := ((reached entity there).misses record.missing).mpr ⟨record, member, reaches, rfl⟩
    rw [List.flatMap_eq_nil_iff.mp missing entity there] at misses
    cases misses
  · intro _ _ _ _ _ _ _ _ ok ok' paths unresolved dynamic unanalyzed
    exact (classified_of_ok ok).2.mono (classified_of_ok ok').2 paths unresolved dynamic unanalyzed
  · intro _ _ _ _ _ _ _ ok ok' files
    exact Classified.mono_files ok ok' files

/-! ## A lamp in an area that is gone -/

def lampDigest : Digest :=
  ⟨"1111111111111111111111111111111111111111111111111111111111111111", by decide⟩

def lampCommit : ObjectId := .sha1 ⟨"1111111111111111111111111111111111111111", by decide⟩

def lampRuntime : RuntimeInventoryInput where
  manifest := []
  homeassistant :=
    [("entities", .arr [.obj [("entity_id", .str "light.lamp"), ("device_id", .str "lamp")]]),
      ("devices", .arr [.obj [("id", .str "lamp"), ("area_id", .str "attic")]])]
  supervisor := []
  hardware := []
  analysis := []
  deployments := []

/-- A candidate that changes the automations, and names the lamp there. -/
def lampDependencies : CandidateDependencyAnalysis where
  target := text "home/config"
  repositoryId := 1
  baselineSha := lampCommit
  candidateSha := lampCommit
  stageManifestSha256 := lampDigest
  runtimeSha256 := lampDigest
  analysisMethod := text "best_effort_lexical"
  files := [⟨text "automations.yaml", .analyzedText, [text "light.lamp"], [], false, []⟩]
  knownEntityReferences := [text "light.lamp"]
  unknownObjectReferences := []
  dynamicPaths := []
  unanalyzedPaths := []
  knownServiceReferences := []

def lampImpact : CandidateImpactAnalysis :=
  ⟨text "home/config", 1, lampCommit, lampCommit, lampDigest, lampDigest,
    [⟨text "light.lamp", text "light", .entity, [text "lamp"], [], [], [], [], [],
      [text "area:attic"]⟩]⟩

/-- The path asks for a low level, and the missing area for a high one. -/
theorem impact_reaches_and_risk_grows_lamp :
    ∃ result, classifyCandidateRisk id (fun _ => .ok lampDigest) lampDependencies lampImpact
      lampRuntime = .ok result ∧ .high ≤ result.level := by
  obtain ⟨impacts, -, unresolved, -⟩ := impact_reaches_and_risk_grows id fun _ => .ok lampDigest
  obtain ⟨topology, built, -, -, reached⟩ := impacts lampDependencies lampRuntime lampImpact
    (by decide)
  obtain ⟨record, member, reaches, -⟩ :=
    ((reached _ List.mem_cons_self).misses (text "area:attic")).mp (by decide)
  cases classified : classifyCandidateRisk id (fun _ => .ok lampDigest) lampDependencies lampImpact
      lampRuntime with
  | error failure =>
    have succeeds : (classifyCandidateRisk id (fun _ => .ok lampDigest) lampDependencies lampImpact
      lampRuntime).toBool = true := by decide
    rw [classified] at succeeds
    cases succeeds
  | ok result =>
    refine ⟨result, rfl, unresolved _ _ _ _ _ classified built (.inr ?_)⟩
    exact ⟨text "light.lamp", List.mem_cons_self, record, member, reaches⟩

end SyncApp
