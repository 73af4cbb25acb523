import SyncApp.LiveApply.Evidence
import SyncApp.Preflight.Topology

/-!
# The impact of a candidate

What a candidate's files refer to is known by its dependency analysis. Each entity they name is
expanded through the topology: to its device, to what configures the two and where they are, to the
floors of those areas, and to the labels on the way; a relation whose target is missing is kept by
its name.

The fingerprint of the runtime evidence is a hash of its canonical JSON, and fails where there is
none. An exception is known by its message.
-/

set_option autoImplicit false

namespace SyncApp

open Lib Raising

/-! ## Dependency evidence -/

inductive DependencyDisposition where
  | analyzedText
  | deleted
  | nonUtf8OrBinary
  | oversize
deriving DecidableEq

structure CandidateDependencyFile where
  path : PyStr
  disposition : DependencyDisposition
  knownEntityReferences : List PyStr
  unknownObjectReferences : List PyStr
  dynamicReference : Bool
  knownServiceReferences : List PyStr
deriving DecidableEq

structure CandidateDependencyAnalysis where
  target : PyStr
  repositoryId : Int
  baselineSha : ObjectId
  candidateSha : ObjectId
  stageManifestSha256 : Digest
  runtimeSha256 : Digest
  analysisMethod : PyStr
  files : List CandidateDependencyFile
  knownEntityReferences : List PyStr
  unknownObjectReferences : List PyStr
  dynamicPaths : List PyStr
  unanalyzedPaths : List PyStr
  knownServiceReferences : List PyStr

/-- `sorted(set(…))`. -/
def sortedSet (values : List PyStr) : List PyStr := sortIds values.dedup

/-- `_SERVICE_COMPONENT`. -/
def isServiceComponent (value : PyStr) : Bool :=
  value ≠ [] && value.all fun c => (97 ≤ c && c ≤ 122) || (48 ≤ c && c ≤ 57) || c == 95

/-- `_runtime_entities`, whose loop is that of `_index` with one message. -/
def runtimeEntities (runtime : RuntimeInventoryInput) : Except String (List PyStr) :=
  match (Json.get? runtime.homeassistant "entities").getD (.arr []) with
  | .arr items =>
    ((indexItems "entity_id" items []).map Indexed.ids).mapError fun _ =>
      "runtime entity evidence is invalid"
  | _ => .error "runtime entity evidence is invalid"

/-- The services of a domain, behind those before it. -/
def domainServices (domain : PyStr) : List String → List PyStr → Except String (List PyStr)
  | [], serviceIds => .ok serviceIds
  | name :: names, serviceIds =>
    let serviceId := domain ++ text "." ++ text name
    if serviceId ∈ serviceIds then .error "runtime service evidence is invalid"
    else domainServices domain names (serviceIds ++ [serviceId])

/-- The loop of `_runtime_services`, with the domains and the services so far. -/
def servicesOf : List Json → List PyStr → List PyStr → Except String (List PyStr)
  | [], _, serviceIds => .ok serviceIds
  | .obj members :: items, domains, serviceIds =>
    match Json.get? members "domain", Json.get? members "services" with
    | some (.str domain), services =>
      if ¬isServiceComponent (text domain) ∨ text domain ∈ domains then
        .error "runtime service evidence is invalid"
      else
        match services.getD .null with
        | .null => servicesOf items (domains ++ [text domain]) serviceIds
        | .obj named =>
          if (Json.keys named).all fun name => isServiceComponent (text name) then do
            let serviceIds ← domainServices (text domain) (Json.keys named) serviceIds
            servicesOf items (domains ++ [text domain]) serviceIds
          else .error "runtime service evidence is invalid"
        | _ => .error "runtime service evidence is invalid"
    | _, _ => .error "runtime service evidence is invalid"
  | _ :: _, _, _ => .error "runtime service evidence is invalid"

/-- `_runtime_services`. -/
def runtimeServices (runtime : RuntimeInventoryInput) : Except String (List PyStr) :=
  match (Json.get? runtime.homeassistant "services").getD (.arr []) with
  | .arr items => servicesOf items [] []
  | _ => .error "runtime service evidence is invalid"

/-- What `_validate_files` asks of one file. -/
def CandidateDependencyFile.valid (file : CandidateDependencyFile) : Bool :=
  file.path ≠ [] &&
    sortedSet file.knownEntityReferences = file.knownEntityReferences &&
    sortedSet file.knownServiceReferences = file.knownServiceReferences &&
    sortedSet file.unknownObjectReferences = file.unknownObjectReferences &&
    file.knownEntityReferences.all (· ∉ file.knownServiceReferences) &&
    file.knownEntityReferences.all (· ∉ file.unknownObjectReferences) &&
    file.knownServiceReferences.all (· ∉ file.unknownObjectReferences) &&
    (file.disposition = .analyzedText ||
      file.knownEntityReferences = [] && file.knownServiceReferences = [] &&
        file.unknownObjectReferences = [] && !file.dynamicReference)

/-- The file was not analyzed. -/
def CandidateDependencyFile.unanalyzed (file : CandidateDependencyFile) : Bool :=
  file.disposition = .nonUtf8OrBinary || file.disposition = .oversize

namespace CandidateDependencyAnalysis

variable (result : CandidateDependencyAnalysis)

def changedPaths : List PyStr := result.files.map (·.path)

/-- What a field gathers of the files' references. -/
def gathered (references : CandidateDependencyFile → List PyStr) : List PyStr :=
  sortedSet (result.files.flatMap references)

/-- `_validate_result`. -/
def validate : Except String Unit :=
  if result.target = [] ∨ result.repositoryId ≤ 0 ∨
      result.analysisMethod ≠ text "best_effort_lexical" then
    .error "candidate dependency result is invalid"
  else if sortedSet result.changedPaths ≠ result.changedPaths ∨ ¬result.files.all (·.valid) then
    .error "candidate dependency file evidence is invalid"
  else if result.knownEntityReferences ≠ result.gathered (·.knownEntityReferences) ∨
      result.knownServiceReferences ≠ result.gathered (·.knownServiceReferences) ∨
      result.unknownObjectReferences ≠ result.gathered (·.unknownObjectReferences) ∨
      result.dynamicPaths ≠ (result.files.filter (·.dynamicReference)).map (·.path) ∨
      result.unanalyzedPaths ≠ (result.files.filter (·.unanalyzed)).map (·.path) then
    .error "candidate dependency result is invalid"
  else .ok ()

/-- `verify_candidate_dependency_analysis`. -/
def verify (fingerprintRuntime : RuntimeInventoryInput → Except String Digest)
    (runtime : RuntimeInventoryInput) : Except String Unit := do
  let _ ← runtimeEntities runtime
  let _ ← runtimeServices runtime
  result.validate
  let runtimeSha256 ← (fingerprintRuntime runtime).mapError fun _ =>
    "candidate dependency runtime evidence is invalid"
  if runtimeSha256 ≠ result.runtimeSha256 then
    .error "candidate dependency runtime binding does not match"
  else .ok ()

end CandidateDependencyAnalysis

/-! ## Impact -/

inductive ObjectKind where
  | entity
  | automation
  | script
  | scene
deriving DecidableEq

/-- `_SPECIAL_ENTITY_KINDS`, and `entity` for any other domain. -/
def ObjectKind.of (domain : PyStr) : ObjectKind :=
  if domain = text "automation" then .automation
  else if domain = text "script" then .script
  else if domain = text "scene" then .scene
  else .entity

structure CandidateEntityImpact where
  entityId : PyStr
  domain : PyStr
  objectKind : ObjectKind
  deviceIds : List PyStr
  integrationIds : List PyStr
  areaIds : List PyStr
  floorIds : List PyStr
  labelIds : List PyStr
  derivedRelations : List PyStr
  unresolved : List PyStr
deriving DecidableEq

structure CandidateImpactAnalysis where
  target : PyStr
  repositoryId : Int
  baselineSha : ObjectId
  candidateSha : ObjectId
  stageManifestSha256 : Digest
  runtimeSha256 : Digest
  entities : List CandidateEntityImpact
deriving DecidableEq

/-- `CandidateImpactError`. -/
abbrev ImpactError := String

/-- The entries of a type that an impact names. -/
def CandidateEntityImpact.ids (impact : CandidateEntityImpact) : NodeType → List PyStr
  | .entity => []
  | .device => impact.deviceIds
  | .integration => impact.integrationIds
  | .area => impact.areaIds
  | .floor => impact.floorIds
  | .label => impact.labelIds

def topologyInvalid : ImpactError := "candidate impact runtime topology is invalid"

/-- `_validated_edges`, for what the types leave open. -/
def validatedRecords (records : List RelationRecord) : Except ImpactError Unit :=
  if records.any (fun record => record.sourceId = [] || record.targetId = []) ∨
      records ≠ sortRecords records ∨ ¬(records.map (·.edgeKey)).Nodup then
    .error topologyInvalid
  else .ok ()

/-- The group that `_group_edges` makes for a node. -/
def edgesFrom (edges : List TopologyEdge) (node : TopologyNode) : List TopologyEdge :=
  edges.filter fun edge => edge.source = node

def recordsFrom (records : List RelationRecord) (node : TopologyNode) : List RelationRecord :=
  records.filter fun record => record.source = node

/-- The sets that `_expand_entity` fills. -/
structure Collected where
  devices : List PyStr
  integrations : List PyStr
  areas : List PyStr
  floors : List PyStr
  labels : List PyStr
  derivedRelations : List PyStr
  unresolved : List PyStr

def Collected.empty : Collected := ⟨[], [], [], [], [], [], []⟩

def Collected.ids (collected : Collected) : NodeType → List PyStr
  | .entity => []
  | .device => collected.devices
  | .integration => collected.integrations
  | .area => collected.areas
  | .floor => collected.floors
  | .label => collected.labels

/-- What `_collect` makes of an edge. -/
def Collected.edge (collected : Collected) (edge : TopologyEdge) : Collected :=
  match edge.relation, edge.targetType with
  | .belongsToDevice, .device =>
    { collected with devices := collected.devices.insert edge.targetId }
  | .configuredBy, .integration =>
    { collected with integrations := collected.integrations.insert edge.targetId }
  | .locatedIn, .area =>
    { collected with
      areas := collected.areas.insert edge.targetId
      derivedRelations :=
        if edge.authority = .derived then collected.derivedRelations.insert edge.targetId
        else collected.derivedRelations }
  | .hasLabel, .label => { collected with labels := collected.labels.insert edge.targetId }
  | _, _ => collected

/-- What is made of an edge of an area. -/
def Collected.areaEdge (collected : Collected) (edge : TopologyEdge) : Collected :=
  match edge.relation, edge.targetType with
  | .onFloor, .floor => { collected with floors := collected.floors.insert edge.targetId }
  | .hasLabel, .label => { collected with labels := collected.labels.insert edge.targetId }
  | _, _ => collected

/-- How an unresolved relation is named. -/
def RelationRecord.missing (record : RelationRecord) : PyStr :=
  record.targetType.name ++ text ":" ++ record.targetId

/-- `_collect_unresolved`. -/
def Collected.missing (collected : Collected) (records : List RelationRecord) : Collected :=
  { collected with
    unresolved := records.foldl (fun output record => output.insert record.missing)
      collected.unresolved }

section

variable (edges : List TopologyEdge) (unresolved : List RelationRecord)

/-- One node: its edges are collected, and its unresolved relations. -/
def Collected.visit (collect : Collected → TopologyEdge → Collected) (type : NodeType)
    (collected : Collected) (id : PyStr) : Collected :=
  ((edgesFrom edges (type, id)).foldl collect collected).missing (recordsFrom unresolved (type, id))

/-- The sets after the entity itself. -/
def entityRound (entityId : PyStr) : Collected :=
  Collected.empty.visit edges unresolved Collected.edge .entity entityId

/-- The sets after its devices. -/
def deviceRound (entityId : PyStr) : Collected :=
  (sortIds (entityRound edges unresolved entityId).devices).foldl
    (Collected.visit edges unresolved Collected.edge .device) (entityRound edges unresolved entityId)

/-- The sets after the areas. -/
def areaRound (entityId : PyStr) : Collected :=
  (sortIds (deviceRound edges unresolved entityId).areas).foldl
    (Collected.visit edges unresolved Collected.areaEdge .area)
    (deviceRound edges unresolved entityId)

/-- `_expand_entity`. -/
def expandEntity (entityId : PyStr) : Except ImpactError CandidateEntityImpact :=
  let domain := entityId.takeWhile (· ≠ 46)
  let objectId := (entityId.dropWhile (· ≠ 46)).tail
  if 46 ∉ entityId ∨ domain = [] ∨ objectId = [] then
    .error "candidate dependency entity identifier is invalid"
  else
    let collected := areaRound edges unresolved entityId
    .ok {
      entityId, domain
      objectKind := .of domain
      deviceIds := sortIds collected.devices
      integrationIds := sortIds collected.integrations
      areaIds := sortIds collected.areas
      floorIds := sortIds collected.floors
      labelIds := sortIds collected.labels
      derivedRelations := sortIds collected.derivedRelations
      unresolved := sortIds collected.unresolved }

end

/-- What `_validate_result` asks of an entity. -/
def CandidateEntityImpact.valid (impact : CandidateEntityImpact) : Bool :=
  46 ∈ impact.entityId && impact.domain ≠ [] &&
    [impact.deviceIds, impact.integrationIds, impact.areaIds, impact.floorIds, impact.labelIds,
      impact.derivedRelations, impact.unresolved].all (fun values => sortedSet values = values) &&
    (impact.entityId.dropWhile (· ≠ 46)).tail ≠ [] &&
    impact.domain = impact.entityId.takeWhile (· ≠ 46) && impact.objectKind = .of impact.domain

/-- `_validate_result`. -/
def CandidateImpactAnalysis.validate (result : CandidateImpactAnalysis) : Except ImpactError Unit :=
  let entityIds := result.entities.map (·.entityId)
  if result.target = [] ∨ result.repositoryId ≤ 0 ∨ sortIds entityIds ≠ entityIds ∨
      ¬entityIds.Nodup then
    .error "candidate impact result is invalid"
  else if ¬result.entities.all (·.valid) then
    .error "candidate impact entity evidence is invalid"
  else .ok ()

section

variable (fingerprintRuntime : RuntimeInventoryInput → Except String Digest)

/-- How `expand_candidate_impact` raises a failed dependency verification. -/
def dependencyRefused (message : String) : ImpactError :=
  if message = "candidate dependency runtime binding does not match" then
    "candidate dependency runtime binding does not match"
  else "candidate dependency evidence is invalid"

/-- `expand_candidate_impact`. -/
def expandCandidateImpact (dependencies : CandidateDependencyAnalysis)
    (runtime : RuntimeInventoryInput) : Except ImpactError CandidateImpactAnalysis := do
  (dependencies.verify fingerprintRuntime runtime).mapError dependencyRefused
  let topology ← (buildRuntimeTopology runtime).mapError fun _ => topologyInvalid
  validatedRecords (topology.edges.map (·.toRelationRecord))
  validatedRecords topology.unresolved
  let entities ← dependencies.knownEntityReferences.mapM fun entityId =>
    expandEntity topology.edges topology.unresolved entityId
  let result : CandidateImpactAnalysis := {
    target := dependencies.target
    repositoryId := dependencies.repositoryId
    baselineSha := dependencies.baselineSha
    candidateSha := dependencies.candidateSha
    stageManifestSha256 := dependencies.stageManifestSha256
    runtimeSha256 := dependencies.runtimeSha256
    entities }
  result.validate
  return result

/-- `verify_candidate_impact_analysis`. -/
def verifyCandidateImpactAnalysis (result : CandidateImpactAnalysis)
    (dependencies : CandidateDependencyAnalysis) (runtime : RuntimeInventoryInput) :
    Except ImpactError Unit := do
  result.validate
  let expected ← expandCandidateImpact fingerprintRuntime dependencies runtime
  if result ≠ expected then .error "candidate impact evidence does not match verified inputs"
  else .ok ()

end

/-! ## What is collected -/

/-- An edge leads from one node to another. -/
def Points (edges : List TopologyEdge) (source target : TopologyNode) : Prop :=
  ∃ edge ∈ edges, edge.source = source ∧ edge.target = target

/-- A node can be reached along the edges. -/
abbrev Reaches (edges : List TopologyEdge) : TopologyNode → TopologyNode → Prop :=
  Relation.ReflTransGen (Points edges)

/-- A relation of a node is unresolved, and named so. -/
def Misses (unresolved : List RelationRecord) (source : TopologyNode) (name : PyStr) : Prop :=
  ∃ record ∈ unresolved, record.source = source ∧ record.missing = name

/-- The way edges are collected takes every edge of a type of node. -/
structure TakesAll (type : NodeType) (collect : Collected → TopologyEdge → Collected) : Prop where
  ids : ∀ collected (edge : TopologyEdge), edge.Linked → edge.sourceType = type → ∀ kind id,
    id ∈ (collect collected edge).ids kind ↔ id ∈ collected.ids kind ∨ edge.target = (kind, id)
  unresolved : ∀ collected edge, (collect collected edge).unresolved = collected.unresolved

theorem edge_unresolved (collected : Collected) (edge : TopologyEdge) :
    (collected.edge edge).unresolved = collected.unresolved := by
  unfold Collected.edge
  split <;> rfl

theorem edge_ids (collected : Collected) {edge : TopologyEdge} (linked : edge.Linked)
    (apart : edge.sourceType ≠ .area) (kind : NodeType) (id : PyStr) :
    id ∈ (collected.edge edge).ids kind ↔ id ∈ collected.ids kind ∨ edge.target = (kind, id) := by
  obtain ⟨⟨sourceType, sourceId, relation, targetType, targetId⟩, authority⟩ := edge
  cases linked with
  | areaFloor => exact absurd rfl apart
  | areaLabel => exact absurd rfl apart
  | _ =>
    cases kind <;>
      simp [Collected.edge, Collected.ids, RelationRecord.target, List.mem_insert_iff, or_comm,
        eq_comm]

theorem entity_takesAll : TakesAll .entity Collected.edge :=
  ⟨fun collected _ linked source => edge_ids collected linked (by rw [source]; nofun),
    edge_unresolved⟩

theorem device_takesAll : TakesAll .device Collected.edge :=
  ⟨fun collected _ linked source => edge_ids collected linked (by rw [source]; nofun),
    edge_unresolved⟩

theorem area_takesAll : TakesAll .area Collected.areaEdge := by
  refine ⟨fun collected edge linked source kind id => ?_, fun collected edge => ?_⟩
  · obtain ⟨⟨sourceType, sourceId, relation, targetType, targetId⟩, authority⟩ := edge
    cases linked with
    | areaFloor | areaLabel =>
      cases kind <;>
        simp [Collected.areaEdge, Collected.ids, RelationRecord.target, List.mem_insert_iff,
          or_comm, eq_comm]
    | _ => cases source
  · unfold Collected.areaEdge
    split <;> rfl

theorem missing_ids (collected : Collected) (records : List RelationRecord) (kind : NodeType) :
    (collected.missing records).ids kind = collected.ids kind := by
  cases kind <;> rfl

theorem mem_missing {collected : Collected} {records : List RelationRecord} {name : PyStr} :
    name ∈ (collected.missing records).unresolved ↔
      name ∈ collected.unresolved ∨ ∃ record ∈ records, record.missing = name := by
  unfold Collected.missing
  dsimp only
  generalize collected.unresolved = output
  induction records generalizing output with
  | nil => simp
  | cons record records ih =>
    rw [List.foldl_cons, ih, List.mem_insert_iff, List.exists_mem_cons_iff, ← or_assoc,
      @or_comm (name = record.missing), @eq_comm _ name]

section Visit

variable {edges : List TopologyEdge} {unresolved : List RelationRecord}
  {collect : Collected → TopologyEdge → Collected} {type : NodeType}

theorem foldl_unresolved (takes : TakesAll type collect) (group : List TopologyEdge)
    (collected : Collected) : (group.foldl collect collected).unresolved = collected.unresolved := by
  induction group generalizing collected with
  | nil => rfl
  | cons edge group ih => exact (ih _).trans (takes.unresolved collected edge)

theorem foldl_ids (takes : TakesAll type collect) {group : List TopologyEdge}
    (all : ∀ edge ∈ group, edge.Linked ∧ edge.sourceType = type) (collected : Collected)
    (kind : NodeType) (id : PyStr) : id ∈ (group.foldl collect collected).ids kind ↔
      id ∈ collected.ids kind ∨ ∃ edge ∈ group, edge.target = (kind, id) := by
  induction group generalizing collected with
  | nil => simp
  | cons edge group ih =>
    obtain ⟨⟨linked, source⟩, rest⟩ := List.forall_mem_cons.mp all
    rw [List.foldl_cons, ih rest, takes.ids collected edge linked source, or_assoc]
    simp only [List.mem_cons, exists_eq_or_imp]

variable (linked : ∀ edge ∈ edges, edge.Linked) (takes : TakesAll type collect)

include linked takes

/-- A visited node gives what its edges lead to. -/
theorem visit_ids (collected : Collected) (node : PyStr) (kind : NodeType) (id : PyStr) :
    id ∈ (Collected.visit edges unresolved collect type collected node).ids kind ↔
      id ∈ collected.ids kind ∨ Points edges (type, node) (kind, id) := by
  have all : ∀ edge ∈ edgesFrom edges (type, node), edge.Linked ∧ edge.sourceType = type := by
    intro edge member
    obtain ⟨there, source⟩ := List.mem_filter.mp member
    exact ⟨linked edge there, congrArg Prod.fst (of_decide_eq_true source)⟩
  unfold Collected.visit
  rw [missing_ids, foldl_ids takes all]
  refine or_congr_right ?_
  unfold Points edgesFrom
  simp only [List.mem_filter, decide_eq_true_eq, and_assoc]

omit linked in
theorem visit_unresolved (collected : Collected) (node name : PyStr) :
    name ∈ (Collected.visit edges unresolved collect type collected node).unresolved ↔
      name ∈ collected.unresolved ∨ Misses unresolved (type, node) name := by
  unfold Collected.visit
  rw [mem_missing, foldl_unresolved takes]
  refine or_congr_right ?_
  unfold Misses recordsFrom
  simp only [List.mem_filter, decide_eq_true_eq, and_assoc]

/-- All the nodes of a list. -/
theorem visits_ids (nodes : List PyStr) (collected : Collected) (kind : NodeType) (id : PyStr) :
    id ∈ (nodes.foldl (Collected.visit edges unresolved collect type) collected).ids kind ↔
      id ∈ collected.ids kind ∨ ∃ node ∈ nodes, Points edges (type, node) (kind, id) := by
  induction nodes generalizing collected with
  | nil => simp
  | cons node nodes ih =>
    rw [List.foldl_cons, ih, visit_ids linked takes, or_assoc]
    simp only [List.mem_cons, exists_eq_or_imp]

omit linked in
theorem visits_unresolved (nodes : List PyStr) (collected : Collected) (name : PyStr) :
    name ∈ (nodes.foldl (Collected.visit edges unresolved collect type) collected).unresolved ↔
      name ∈ collected.unresolved ∨ ∃ node ∈ nodes, Misses unresolved (type, node) name := by
  induction nodes generalizing collected with
  | nil => simp
  | cons node nodes ih =>
    rw [List.foldl_cons, ih, visit_unresolved takes, or_assoc]
    simp only [List.mem_cons, exists_eq_or_imp]

end Visit

/-! ## The impact is what can be reached -/

section Reach

variable {edges : List TopologyEdge} (linked : ∀ edge ∈ edges, edge.Linked)

include linked

/-- An edge leads where its relation does. -/
theorem Points.links {source target : TopologyNode} (points : Points edges source target) :
    ∃ relation, RelationKind.Links source.1 relation target.1 := by
  obtain ⟨edge, member, rfl, rfl⟩ := points
  exact ⟨edge.relation, linked edge member⟩

variable (unresolved : List RelationRecord) (entityId : PyStr)

theorem entityRound_ids (kind : NodeType) (id : PyStr) :
    id ∈ (entityRound edges unresolved entityId).ids kind ↔
      Points edges (.entity, entityId) (kind, id) := by
  unfold entityRound
  rw [visit_ids linked entity_takesAll]
  refine or_iff_right ?_
  cases kind <;> exact List.not_mem_nil

theorem deviceRound_ids (kind : NodeType) (id : PyStr) :
    id ∈ (deviceRound edges unresolved entityId).ids kind ↔
      Points edges (.entity, entityId) (kind, id) ∨
        ∃ device, Points edges (.entity, entityId) (.device, device) ∧
          Points edges (.device, device) (kind, id) := by
  unfold deviceRound
  rw [visits_ids linked device_takesAll, entityRound_ids linked]
  refine or_congr_right (exists_congr fun device => and_congr_left fun _ => ?_)
  unfold sortIds
  rw [List.mem_insertionSort]
  exact entityRound_ids linked unresolved entityId .device device

theorem areaRound_ids (kind : NodeType) (id : PyStr) :
    id ∈ (areaRound edges unresolved entityId).ids kind ↔
      id ∈ (deviceRound edges unresolved entityId).ids kind ∨
        ∃ area ∈ (deviceRound edges unresolved entityId).areas,
          Points edges (.area, area) (kind, id) := by
  unfold areaRound
  rw [visits_ids linked area_takesAll]
  refine or_congr_right (exists_congr fun area => and_congr_left fun _ => ?_)
  unfold sortIds
  rw [List.mem_insertionSort]

/-- What the rounds give can be reached. -/
theorem reaches_of_deviceRound {kind : NodeType} {id : PyStr}
    (collected : id ∈ (deviceRound edges unresolved entityId).ids kind) :
    Reaches edges (.entity, entityId) (kind, id) := by
  obtain points | ⟨device, first, second⟩ :=
    (deviceRound_ids linked unresolved entityId kind id).mp collected
  · exact .single points
  · exact .tail (.single first) second

/-- Only an edge of the entity leads to a device. -/
theorem areaRound_device {id : PyStr}
    (collected : id ∈ (areaRound edges unresolved entityId).ids .device) :
    Points edges (.entity, entityId) (.device, id) := by
  obtain early | ⟨area, -, late⟩ := (areaRound_ids linked unresolved entityId _ _).mp collected
  · obtain direct | ⟨device, -, late⟩ := (deviceRound_ids linked unresolved entityId _ _).mp early
    · exact direct
    · obtain ⟨_, wrong⟩ := late.links linked
      cases wrong
  · obtain ⟨_, wrong⟩ := late.links linked
    cases wrong

/-- No edge of an area leads to an area. -/
theorem areaRound_area {id : PyStr}
    (collected : id ∈ (areaRound edges unresolved entityId).ids .area) :
    id ∈ (deviceRound edges unresolved entityId).areas := by
  obtain early | ⟨area, -, late⟩ := (areaRound_ids linked unresolved entityId _ _).mp collected
  · exact early
  · obtain ⟨_, wrong⟩ := late.links linked
    cases wrong

/-- The rounds give whatever an edge leads to from what they gave. -/
theorem areaRound_closed {source target : TopologyNode}
    (known : source = (.entity, entityId) ∨
      source.2 ∈ (areaRound edges unresolved entityId).ids source.1)
    (points : Points edges source target) :
    target.2 ∈ (areaRound edges unresolved entityId).ids target.1 := by
  have given (kind : NodeType) (id : PyStr) := areaRound_ids linked unresolved entityId kind id
  have before (kind : NodeType) (id : PyStr) := deviceRound_ids linked unresolved entityId kind id
  obtain ⟨sourceType, sourceId⟩ := source
  obtain ⟨targetType, targetId⟩ := target
  obtain same | known := known
  · cases same
    exact (given _ _).mpr (.inl ((before _ _).mpr (.inl points)))
  obtain ⟨relation, links⟩ := points.links linked
  cases links with
  | entityDevice | entityIntegration | entityArea | entityLabel => exact nomatch known
  | deviceIntegration | deviceArea | deviceLabel =>
    have direct := areaRound_device linked unresolved entityId known
    exact (given _ _).mpr (.inl ((before _ _).mpr (.inr ⟨sourceId, direct, points⟩)))
  | areaFloor | areaLabel =>
    have early := areaRound_area linked unresolved entityId known
    exact (given _ _).mpr (.inr ⟨sourceId, early, points⟩)

/-- **The rounds give exactly what can be reached.** -/
theorem areaRound_reaches (node : TopologyNode) :
    Reaches edges (.entity, entityId) node ↔
      node = (.entity, entityId) ∨ node.2 ∈ (areaRound edges unresolved entityId).ids node.1 := by
  constructor
  · intro reaches
    induction reaches with
    | refl => exact .inl rfl
    | tail _ points ih => exact .inr (areaRound_closed linked unresolved entityId ih points)
  · rintro (rfl | collected)
    · exact .refl
    · obtain ⟨kind, id⟩ := node
      obtain early | ⟨area, there, points⟩ :=
        (areaRound_ids linked unresolved entityId kind id).mp collected
      · exact reaches_of_deviceRound linked unresolved entityId early
      · exact (reaches_of_deviceRound linked unresolved entityId there).tail points

/-- **The unresolved relations are exactly those of what can be reached.** -/
theorem areaRound_misses (allowed : ∀ record ∈ unresolved, record.Linked) (name : PyStr) :
    name ∈ (areaRound edges unresolved entityId).unresolved ↔
      ∃ record ∈ unresolved, Reaches edges (.entity, entityId) record.source ∧
        record.missing = name := by
  have sorted {ids : List PyStr} {id : PyStr} : id ∈ sortIds ids ↔ id ∈ ids :=
    List.mem_insertionSort _
  have collected : name ∈ (areaRound edges unresolved entityId).unresolved ↔
      (Misses unresolved (.entity, entityId) name ∨
        ∃ device ∈ (entityRound edges unresolved entityId).devices,
          Misses unresolved (.device, device) name) ∨
      ∃ area ∈ (deviceRound edges unresolved entityId).areas,
        Misses unresolved (.area, area) name := by
    unfold areaRound
    rw [visits_unresolved area_takesAll]
    simp only [sorted]
    refine or_congr_left ?_
    unfold deviceRound
    rw [visits_unresolved device_takesAll]
    simp only [sorted]
    refine or_congr_left ?_
    unfold entityRound
    rw [visit_unresolved entity_takesAll]
    exact or_iff_right List.not_mem_nil
  rw [collected]
  constructor
  · rintro ((⟨record, member, source, same⟩ | ⟨device, there, record, member, source, same⟩) |
      ⟨area, there, record, member, source, same⟩)
    · exact ⟨record, member, source ▸ .refl, same⟩
    · refine ⟨record, member, source ▸ .single ?_, same⟩
      exact (entityRound_ids linked unresolved entityId .device device).mp there
    · exact ⟨record, member, source ▸ reaches_of_deviceRound linked unresolved entityId there, same⟩
  · rintro ⟨record, member, reaches, same⟩
    have links := allowed record member
    have among : Misses unresolved record.source name := ⟨record, member, rfl, same⟩
    have known := (areaRound_reaches linked unresolved entityId _).mp reaches
    obtain ⟨sourceType, sourceId, relation, targetType, targetId⟩ := record
    cases links with
    | entityDevice | entityIntegration | entityArea | entityLabel =>
      obtain same | wrong := known
      · cases same
        exact .inl (.inl among)
      · cases wrong
    | deviceIntegration | deviceArea | deviceLabel =>
      obtain wrong | known := known
      · cases wrong
      · have direct := areaRound_device linked unresolved entityId known
        refine .inl (.inr ⟨sourceId, ?_, among⟩)
        exact (entityRound_ids linked unresolved entityId .device sourceId).mpr direct
    | areaFloor | areaLabel =>
      obtain wrong | known := known
      · cases wrong
      · exact .inr ⟨sourceId, areaRound_area linked unresolved entityId known, among⟩

end Reach

/-- What an expanded entity says of the topology. -/
structure CandidateEntityImpact.Reached (impact : CandidateEntityImpact)
    (topology : RuntimeTopology) : Prop where
  /-- The entries it names are those that can be reached. -/
  reaches : ∀ node, Reaches topology.edges (.entity, impact.entityId) node ↔
    node = (.entity, impact.entityId) ∨ node.2 ∈ impact.ids node.1
  /-- The relations it misses are the unresolved ones of what can be reached. -/
  misses : ∀ name, name ∈ impact.unresolved ↔ ∃ record ∈ topology.unresolved,
    Reaches topology.edges (.entity, impact.entityId) record.source ∧ record.missing = name

theorem expandEntity_reached {topology : RuntimeTopology} {entityId : PyStr}
    {impact : CandidateEntityImpact} (edges : ∀ edge ∈ topology.edges, edge.Linked)
    (records : ∀ record ∈ topology.unresolved, record.Linked)
    (expanded : expandEntity topology.edges topology.unresolved entityId = .ok impact) :
    impact.entityId = entityId ∧ impact.Reached topology := by
  unfold expandEntity at expanded
  dsimp only at expanded
  split at expanded
  · cases expanded
  cases expanded
  refine ⟨rfl, fun node => ?_, fun name => ?_⟩
  · rw [areaRound_reaches edges topology.unresolved entityId node]
    refine or_congr_right ?_
    obtain ⟨kind, id⟩ := node
    cases kind with
    | entity => exact iff_of_false List.not_mem_nil List.not_mem_nil
    | _ => exact (List.mem_insertionSort _).symm
  · exact (List.mem_insertionSort _).trans
      (areaRound_misses edges topology.unresolved entityId records name)

theorem RuntimeTopology.Splits.records_linked {topology : RuntimeTopology}
    {inventory : IndexedInventory} {references : List TopologyEdge}
    (splits : topology.Splits inventory references) :
    ∀ record ∈ topology.unresolved, record.Linked := by
  intro record member
  obtain ⟨reference, there, rfl, -⟩ := (splits.unresolved record).mp member
  exact splits.linked reference there

section Expand

variable {fingerprintRuntime : RuntimeInventoryInput → Except String Digest}
  {dependencies : CandidateDependencyAnalysis} {runtime : RuntimeInventoryInput}
  {impact : CandidateImpactAnalysis}

/-- What an expansion that succeeds has done. -/
structure Expanded (fingerprintRuntime : RuntimeInventoryInput → Except String Digest)
    (dependencies : CandidateDependencyAnalysis) (runtime : RuntimeInventoryInput)
    (impact : CandidateImpactAnalysis) (topology : RuntimeTopology) : Prop where
  verified : dependencies.verify fingerprintRuntime runtime = .ok ()
  built : buildRuntimeTopology runtime = .ok topology
  entities : (dependencies.knownEntityReferences.mapM fun entityId =>
    expandEntity topology.edges topology.unresolved entityId) = .ok impact.entities

theorem expanded_of_ok
    (ok : expandCandidateImpact fingerprintRuntime dependencies runtime = .ok impact) :
    ∃ topology, Expanded fingerprintRuntime dependencies runtime impact topology := by
  obtain ⟨_, verified, rest⟩ := bind_eq_ok.mp ok
  obtain ⟨topology, built, rest⟩ := bind_eq_ok.mp rest
  obtain ⟨_, -, rest⟩ := bind_eq_ok.mp rest
  obtain ⟨_, -, rest⟩ := bind_eq_ok.mp rest
  obtain ⟨entities, expanded, rest⟩ := bind_eq_ok.mp rest
  obtain ⟨_, -, same⟩ := bind_eq_ok.mp rest
  cases same
  exact ⟨topology, mapError_eq_ok.mp verified, mapError_eq_ok.mp built, expanded⟩

/-- **The impact is reachability**: an expansion has an entity for each known reference, and each
names what can be reached from it. -/
theorem Expanded.reached {topology : RuntimeTopology}
    (expanded : Expanded fingerprintRuntime dependencies runtime impact topology) :
    (∀ entityId, entityId ∈ dependencies.knownEntityReferences ↔
      ∃ entity ∈ impact.entities, entity.entityId = entityId) ∧
    ∀ entity ∈ impact.entities, entity.Reached topology := by
  obtain ⟨inventory, found, -, -, splits⟩ := buildRuntimeTopology_splits expanded.built
  have edges : ∀ edge ∈ topology.edges, edge.Linked := fun edge member =>
    splits.linked edge ((splits.edges edge).mp member).1
  have entities := mem_of_mapM_eq_ok expanded.entities
  have reached {entityId : PyStr} {entity : CandidateEntityImpact}
      (ok : expandEntity topology.edges topology.unresolved entityId = .ok entity) :=
    expandEntity_reached edges splits.records_linked ok
  refine ⟨fun entityId => ⟨fun known => ?_, ?_⟩, fun entity member => ?_⟩
  · obtain ⟨entity, ok⟩ := ok_of_mapM_eq_ok expanded.entities entityId known
    exact ⟨entity, (entities entity).mpr ⟨entityId, known, ok⟩, (reached ok).1⟩
  · rintro ⟨entity, member, rfl⟩
    obtain ⟨entityId, known, ok⟩ := (entities entity).mp member
    exact (reached ok).1 ▸ known
  · obtain ⟨entityId, -, ok⟩ := (entities entity).mp member
    exact (reached ok).2

/-- The entities of an impact depend on the known references and on the entries of the runtime, not
on their order. -/
theorem expanded_entities_perm {dependencies' : CandidateDependencyAnalysis}
    {runtime' : RuntimeInventoryInput} {impact' : CandidateImpactAnalysis}
    (same : SameEntries runtime.homeassistant runtime'.homeassistant)
    (references : dependencies'.knownEntityReferences = dependencies.knownEntityReferences)
    (ok : expandCandidateImpact fingerprintRuntime dependencies runtime = .ok impact)
    (ok' : expandCandidateImpact fingerprintRuntime dependencies' runtime' = .ok impact') :
    impact'.entities = impact.entities := by
  obtain ⟨topology, expanded⟩ := expanded_of_ok ok
  obtain ⟨topology', expanded'⟩ := expanded_of_ok ok'
  cases (buildRuntimeTopology_perm same expanded.built).symm.trans expanded'.built
  have one := expanded.entities
  have other := expanded'.entities
  rw [references] at other
  exact Except.ok.inj (other.symm.trans one)

end Expand

end SyncApp
