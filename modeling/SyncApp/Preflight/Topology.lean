import Mathlib.Data.List.Sort
import Mathlib.Logic.Relation
import SyncApp.Lib.Json
import SyncApp.Lib.Raising
import SyncApp.Snapshot.Capture

/-!
# The runtime topology

What Home Assistant's registries say about each other: every entity, device and area refers to the
devices, integrations, areas, floors and labels it belongs to. A reference to a registry entry that
is there becomes an edge, and one to an entry that is missing is kept as unresolved.

A collected dataset is JSON. An exception is known by its message.
-/

set_option autoImplicit false

namespace SyncApp

open Lib Raising

/-- `RuntimeInventoryInput`. -/
structure RuntimeInventoryInput where
  manifest : List (String × Json)
  homeassistant : List (String × Json)
  supervisor : List (String × Json)
  hardware : List (String × Json)
  analysis : List (String × Json)
  deployments : List Json

/-! ## Nodes and edges -/

inductive NodeType where
  | entity
  | device
  | integration
  | area
  | floor
  | label
deriving DecidableEq

def NodeType.name : NodeType → PyStr
  | entity => text "entity"
  | device => text "device"
  | integration => text "integration"
  | area => text "area"
  | floor => text "floor"
  | label => text "label"

inductive RelationKind where
  | belongsToDevice
  | configuredBy
  | locatedIn
  | hasLabel
  | onFloor
deriving DecidableEq

def RelationKind.name : RelationKind → PyStr
  | belongsToDevice => text "belongs_to_device"
  | configuredBy => text "configured_by"
  | locatedIn => text "located_in"
  | hasLabel => text "has_label"
  | onFloor => text "on_floor"

inductive EdgeAuthority where
  | registry
  | derived
deriving DecidableEq

/-- A node of the topology: the type and the identity of a registry entry. -/
abbrev TopologyNode := NodeType × PyStr

/-- The record of a relation. -/
structure RelationRecord where
  sourceType : NodeType
  sourceId : PyStr
  relation : RelationKind
  targetType : NodeType
  targetId : PyStr
deriving DecidableEq

def RelationRecord.source (record : RelationRecord) : TopologyNode :=
  (record.sourceType, record.sourceId)

def RelationRecord.target (record : RelationRecord) : TopologyNode :=
  (record.targetType, record.targetId)

/-- `_edge_key`, as a list, which is compared as a tuple is. -/
def RelationRecord.edgeKey (record : RelationRecord) : List PyStr :=
  [record.sourceType.name, record.sourceId, record.relation.name, record.targetType.name,
    record.targetId]

structure TopologyEdge extends RelationRecord where
  authority : EdgeAuthority
deriving DecidableEq

/-! ## Datasets -/

/-- `RuntimeTopologyError`. -/
abbrev TopologyError := String

/-- The entries of a dataset by their identities. -/
abbrev Indexed := List (PyStr × List (String × Json))

def Indexed.ids (indexed : Indexed) : List PyStr := indexed.map Prod.fst

/-- An entry of a dataset with its identity. -/
def datasetEntry (identityKey : String) :
    Json → Except TopologyError (PyStr × List (String × Json))
  | .obj members =>
    match Json.get? members identityKey with
    | some (.str value) =>
      if text value = [] then .error "runtime topology dataset identity is invalid"
      else .ok (text value, members)
    | _ => .error "runtime topology dataset identity is invalid"
  | _ => .error "runtime topology dataset is invalid"

/-- The loop of `_index`, with what was indexed so far. -/
def indexItems (identityKey : String) : List Json → Indexed → Except TopologyError Indexed
  | [], indexed => .ok indexed
  | item :: items, indexed =>
    match datasetEntry identityKey item with
    | .error failure => .error failure
    | .ok entry =>
      if entry.1 ∈ indexed.ids then .error "runtime topology dataset identity is invalid"
      else indexItems identityKey items (indexed ++ [entry])

/-- `dict(sorted(….items()))` by identities that differ. -/
def sortIndexed (indexed : Indexed) : Indexed :=
  indexed.insertionSort fun first second => first.1 ≤ second.1

/-- `_index`. -/
def indexDataset (homeassistant : List (String × Json)) (dataset identityKey : String) :
    Except TopologyError Indexed :=
  match (Json.get? homeassistant dataset).getD (.arr []) with
  | .arr items => do return sortIndexed (← indexItems identityKey items [])
  | _ => .error "runtime topology dataset is invalid"

def relationshipInvalid : TopologyError := "runtime topology relationship is invalid"

/-- `_optional_id`. -/
def optionalId (item : List (String × Json)) (key : String) : Except TopologyError (Option PyStr) :=
  match Json.get? item key with
  | none | some .null => .ok none
  | some (.str value) =>
    if text value = [] then .error relationshipInvalid else .ok (some (text value))
  | some _ => .error relationshipInvalid

/-- The loop of `_id_list`, with the identities so far. -/
def listedIds : List Json → List PyStr → Except TopologyError (List PyStr)
  | [], identities => .ok identities
  | .str value :: entries, identities =>
    let identity := text value
    if identity = [] ∨ identity ∈ identities then .error relationshipInvalid
    else listedIds entries (identities ++ [identity])
  | _ :: _, _ => .error relationshipInvalid

/-- `sorted` on identities. -/
def sortIds (identities : List PyStr) : List PyStr := identities.insertionSort (· ≤ ·)

/-- `_id_list`. -/
def idList (item : List (String × Json)) (key : String) : Except TopologyError (List PyStr) :=
  match (Json.get? item key).getD (.arr []) with
  | .null => .ok []
  | .arr entries => do return sortIds (← listedIds entries [])
  | _ => .error relationshipInvalid

/-- The datasets of an inventory, indexed. -/
structure IndexedInventory where
  entities : Indexed
  devices : Indexed
  integrations : Indexed
  areas : Indexed
  floors : Indexed
  labels : Indexed
  states : Indexed
  services : Indexed

/-- The registry entries of a type. -/
def IndexedInventory.nodes (inventory : IndexedInventory) : NodeType → List PyStr
  | .entity => inventory.entities.ids
  | .device => inventory.devices.ids
  | .integration => inventory.integrations.ids
  | .area => inventory.areas.ids
  | .floor => inventory.floors.ids
  | .label => inventory.labels.ids

def indexInventory (homeassistant : List (String × Json)) :
    Except TopologyError IndexedInventory := do
  return {
    entities := ← indexDataset homeassistant "entities" "entity_id"
    devices := ← indexDataset homeassistant "devices" "id"
    integrations := ← indexDataset homeassistant "integrations" "entry_id"
    areas := ← indexDataset homeassistant "areas" "id"
    floors := ← indexDataset homeassistant "floors" "id"
    labels := ← indexDataset homeassistant "labels" "id"
    states := ← indexDataset homeassistant "states" "entity_id"
    services := ← indexDataset homeassistant "services" "domain" }

/-! ## References -/

/-- What an entry refers to with one relation. -/
def refersTo (source : TopologyNode) (relation : RelationKind) (targetType : NodeType)
    (authority : EdgeAuthority) (targetIds : List PyStr) : List TopologyEdge :=
  targetIds.map fun targetId =>
    ⟨⟨source.1, source.2, relation, targetType, targetId⟩, authority⟩

/-- An element of `entity_dependencies`. -/
structure EntityDependency where
  areaId : Option PyStr
  areaSource : Option EdgeAuthority
  available : Bool
  configEntryId : Option PyStr
  deviceId : Option PyStr
  entityId : PyStr
  labels : List PyStr
  state : Option PyStr
deriving DecidableEq

/-- The area an entity has through its device, which counts where it has none of its own. -/
def inheritedArea (devices : Indexed) (directAreaId deviceId : Option PyStr) :
    Except TopologyError (Option PyStr) :=
  match directAreaId, deviceId.bind fun deviceId => devices.lookup deviceId with
  | none, some device => optionalId device "area_id"
  | _, _ => .ok none

/-- The state of an entity. -/
def entityState (states : Indexed) (entityId : PyStr) : Except TopologyError (Option PyStr) :=
  match (states.lookup entityId).bind fun record => Json.get? record "state" with
  | none | some .null => .ok none
  | some (.str value) => .ok (some (text value))
  | some _ => .error "runtime topology state evidence is invalid"

/-- What the first loop makes of an entity: its references, and its dependencies. -/
def entityFindings (inventory : IndexedInventory) (entityId : PyStr)
    (entity : List (String × Json)) : Except TopologyError (List TopologyEdge × EntityDependency) := do
  let deviceId ← optionalId entity "device_id"
  let configEntryId ← optionalId entity "config_entry_id"
  let directAreaId ← optionalId entity "area_id"
  let labels ← idList entity "labels"
  let inheritedAreaId ← inheritedArea inventory.devices directAreaId deviceId
  let state ← entityState inventory.states entityId
  let source : TopologyNode := (.entity, entityId)
  let references :=
    refersTo source .belongsToDevice .device .registry deviceId.toList ++
      refersTo source .configuredBy .integration .registry configEntryId.toList ++
      refersTo source .locatedIn .area .registry directAreaId.toList ++
      refersTo source .locatedIn .area .derived inheritedAreaId.toList ++
      refersTo source .hasLabel .label .registry labels
  return (references, {
    areaId := directAreaId <|> inheritedAreaId
    areaSource :=
      if directAreaId.isSome then some .registry
      else if inheritedAreaId.isSome then some .derived else none
    available := !(state = none ∨ state = some (text "unavailable") ∨ state = some (text "unknown"))
    configEntryId, deviceId, entityId, labels, state })

/-- What the second loop makes of a device. -/
def deviceReferences (deviceId : PyStr) (device : List (String × Json)) :
    Except TopologyError (List TopologyEdge) := do
  let configEntries ← idList device "config_entries"
  let areaId ← optionalId device "area_id"
  let labels ← idList device "labels"
  let source : TopologyNode := (.device, deviceId)
  return refersTo source .configuredBy .integration .registry configEntries ++
    refersTo source .locatedIn .area .registry areaId.toList ++
    refersTo source .hasLabel .label .registry labels

/-- What the third loop makes of an area. -/
def areaReferences (areaId : PyStr) (area : List (String × Json)) :
    Except TopologyError (List TopologyEdge) := do
  let floorId ← optionalId area "floor_id"
  let labels ← idList area "labels"
  let source : TopologyNode := (.area, areaId)
  return refersTo source .onFloor .floor .registry floorId.toList ++
    refersTo source .hasLabel .label .registry labels

/-! ## The topology -/

/-- What `build_runtime_topology` returns: the topology, and the dependencies of the entities. -/
structure RuntimeTopology where
  edges : List TopologyEdge
  nodes : NodeType → List PyStr
  unresolved : List RelationRecord
  entityDependencies : List EntityDependency
  serviceDomains : List PyStr

def RuntimeTopology.entityCount (topology : RuntimeTopology) : Nat :=
  (topology.nodes .entity).length

def RuntimeTopology.deviceCount (topology : RuntimeTopology) : Nat :=
  (topology.nodes .device).length

def RuntimeTopology.unresolvedCount (topology : RuntimeTopology) : Nat :=
  topology.unresolved.length

/-- The registry has the target of a reference. -/
def IndexedInventory.resolves (inventory : IndexedInventory) (reference : TopologyEdge) : Bool :=
  (inventory.nodes reference.targetType).contains reference.targetId

def sortEdges (edges : List TopologyEdge) : List TopologyEdge :=
  edges.insertionSort fun first second => first.edgeKey ≤ second.edgeKey

def sortRecords (records : List RelationRecord) : List RelationRecord :=
  records.insertionSort fun first second => first.edgeKey ≤ second.edgeKey

/-- All the references of an inventory, in the order they are met. -/
def inventoryReferences (inventory : IndexedInventory) :
    Except TopologyError (List TopologyEdge × List EntityDependency) := do
  let entities ← inventory.entities.mapM fun entry => entityFindings inventory entry.1 entry.2
  let devices ← inventory.devices.mapM fun entry => deviceReferences entry.1 entry.2
  let areas ← inventory.areas.mapM fun entry => areaReferences entry.1 entry.2
  return ((entities.map Prod.fst).flatten ++ devices.flatten ++ areas.flatten, entities.map Prod.snd)

/-- `build_runtime_topology`. -/
def buildRuntimeTopology (runtime : RuntimeInventoryInput) : Except TopologyError RuntimeTopology := do
  let inventory ← indexInventory runtime.homeassistant
  let (references, dependencies) ← inventoryReferences inventory
  return {
    edges := sortEdges (references.filter inventory.resolves)
    nodes := fun type => sortIds (inventory.nodes type)
    unresolved := sortRecords
      ((references.filter fun reference => !inventory.resolves reference).map (·.toRelationRecord))
    entityDependencies := dependencies.insertionSort fun first second =>
      first.entityId ≤ second.entityId
    serviceDomains := sortIds inventory.services.ids }

/-! ## The order of entries -/

/-- The entries of a dataset that have an identity. -/
def datasetEntries (identityKey : String) (items : List Json) : Indexed :=
  items.filterMap fun item => (datasetEntry identityKey item).toOption

/-- A dataset is indexed when each entry has an identity of its own. -/
theorem indexItems_eq_ok {identityKey : String} {items : List Json} {indexed result : Indexed}
    (unique : indexed.ids.Nodup) : indexItems identityKey items indexed = .ok result ↔
      (∀ item ∈ items, ∃ entry, datasetEntry identityKey item = .ok entry) ∧
        (indexed ++ datasetEntries identityKey items).ids.Nodup ∧
        result = indexed ++ datasetEntries identityKey items := by
  induction items generalizing indexed with
  | nil =>
    rw [show datasetEntries identityKey [] = [] from rfl, List.append_nil]
    constructor
    · intro ended
      cases ended
      exact ⟨nofun, unique, rfl⟩
    · rintro ⟨-, -, rfl⟩
      rfl
  | cons item items ih =>
    cases found : datasetEntry identityKey item with
    | error failure =>
      have refused : indexItems identityKey (item :: items) indexed = .error failure := by
        unfold indexItems
        rw [found]
      rw [refused]
      refine iff_of_false (fun wrong => nomatch wrong) ?_
      rintro ⟨all, -⟩
      obtain ⟨entry, here⟩ := all item List.mem_cons_self
      cases found.symm.trans here
    | ok entry =>
      have entries : indexed ++ datasetEntries identityKey (item :: items) =
          indexed ++ [entry] ++ datasetEntries identityKey items := by
        unfold datasetEntries
        rw [List.filterMap_cons, found, List.append_assoc]
        rfl
      rw [entries, List.forall_mem_cons]
      unfold indexItems
      rw [found]
      dsimp only
      split
      next again =>
        refine iff_of_false (fun wrong => nomatch wrong) ?_
        rintro ⟨-, nodup, -⟩
        unfold Indexed.ids at nodup again
        rw [List.append_assoc, List.map_append, List.map_append] at nodup
        exact (List.nodup_append.mp nodup).2.2 _ again _ List.mem_cons_self rfl
      next fresh =>
        have fresher : (indexed ++ [entry]).ids.Nodup := by
          unfold Indexed.ids at unique fresh ⊢
          rw [List.map_append, List.map_singleton, ← List.concat_eq_append]
          exact unique.concat fresh
        rw [ih fresher]
        simp

/-- Under identities that differ, sorting forgets the order. -/
theorem sortIndexed_perm {first second : Indexed} (unique : first.ids.Nodup)
    (permuted : first.Perm second) : sortIndexed first = sortIndexed second := by
  have sorted (indexed : Indexed) : (sortIndexed indexed).Pairwise fun a b => a.1 ≤ b.1 :=
    haveI : Std.Total fun (a b : PyStr × List (String × Json)) => a.1 ≤ b.1 :=
      ⟨fun a b => le_total a.1 b.1⟩
    haveI : IsTrans _ fun (a b : PyStr × List (String × Json)) => a.1 ≤ b.1 :=
      ⟨fun a b c => le_trans⟩
    List.pairwise_insertionSort _ indexed
  refine List.Perm.eq_of_pairwise ?_ (sorted first) (sorted second) ?_
  · intro a b here there below above
    refine List.inj_on_of_nodup_map unique ?_ ?_ (le_antisymm below above)
    · exact (List.mem_insertionSort _).mp here
    · exact permuted.mem_iff.mpr ((List.mem_insertionSort _).mp there)
  · exact ((List.perm_insertionSort _ first).trans permuted).trans
      (List.perm_insertionSort _ second).symm

/-- Two datasets with the same entries, each in its order. -/
inductive SameDataset : Option Json → Option Json → Prop where
  | same (dataset : Option Json) : SameDataset dataset dataset
  | permuted {items items' : List Json} (permuted : items.Perm items') :
    SameDataset (some (.arr items)) (some (.arr items'))

/-- Two inventories with the same entries in every dataset. -/
def SameEntries (first second : List (String × Json)) : Prop :=
  ∀ dataset, SameDataset (Json.get? first dataset) (Json.get? second dataset)

theorem indexDataset_perm {first second : List (String × Json)} (same : SameEntries first second)
    {dataset identityKey : String} {indexed : Indexed}
    (built : indexDataset first dataset identityKey = .ok indexed) :
    indexDataset second dataset identityKey = .ok indexed := by
  have entries := same dataset
  unfold indexDataset at built ⊢
  generalize Json.get? first dataset = one at entries built
  generalize Json.get? second dataset = other at entries
  cases entries with
  | same => exact built
  | @permuted items items' permuted =>
    obtain ⟨result, indexes, sorted⟩ := bind_eq_ok.mp built
    cases sorted
    have empty : (Indexed.ids []).Nodup := List.nodup_nil
    obtain ⟨all, unique, is⟩ := (indexItems_eq_ok empty).mp indexes
    have moved : (datasetEntries identityKey items).Perm (datasetEntries identityKey items') :=
      permuted.filterMap _
    have indexes' : indexItems identityKey items' [] =
        .ok (datasetEntries identityKey items') := by
      refine (indexItems_eq_ok empty).mpr ⟨fun item member => ?_, ?_, rfl⟩
      · exact all item (permuted.mem_iff.mpr member)
      · exact (moved.map Prod.fst).nodup_iff.mp unique
    refine bind_eq_ok.mpr ⟨_, indexes', ?_⟩
    rw [is]
    exact congrArg Except.ok (sortIndexed_perm unique moved).symm

theorem indexInventory_perm {first second : List (String × Json)}
    (same : SameEntries first second) {inventory : IndexedInventory}
    (built : indexInventory first = .ok inventory) : indexInventory second = .ok inventory := by
  unfold indexInventory at built ⊢
  simp only [bind_eq_ok] at built ⊢
  obtain ⟨entities, h1, devices, h2, integrations, h3, areas, h4, floors, h5, labels, h6, states, h7,
    services, h8, rest⟩ := built
  exact ⟨entities, indexDataset_perm same h1, devices, indexDataset_perm same h2, integrations,
    indexDataset_perm same h3, areas, indexDataset_perm same h4, floors, indexDataset_perm same h5,
    labels, indexDataset_perm same h6, states, indexDataset_perm same h7, services,
    indexDataset_perm same h8, rest⟩

/-- **The order of entries does not matter** for the topology. -/
theorem buildRuntimeTopology_perm {first second : RuntimeInventoryInput}
    (same : SameEntries first.homeassistant second.homeassistant) {topology : RuntimeTopology}
    (built : buildRuntimeTopology first = .ok topology) :
    buildRuntimeTopology second = .ok topology := by
  obtain ⟨inventory, indexes, rest⟩ := bind_eq_ok.mp built
  exact bind_eq_ok.mpr ⟨inventory, indexInventory_perm same indexes, rest⟩

/-! ## What refers to what -/

/-- The relations there are: what an entry of each type may refer to. -/
inductive RelationKind.Links : NodeType → RelationKind → NodeType → Prop where
  | entityDevice : Links .entity .belongsToDevice .device
  | entityIntegration : Links .entity .configuredBy .integration
  | entityArea : Links .entity .locatedIn .area
  | entityLabel : Links .entity .hasLabel .label
  | deviceIntegration : Links .device .configuredBy .integration
  | deviceArea : Links .device .locatedIn .area
  | deviceLabel : Links .device .hasLabel .label
  | areaFloor : Links .area .onFloor .floor
  | areaLabel : Links .area .hasLabel .label

/-- The reference is one of these. -/
def RelationRecord.Linked (record : RelationRecord) : Prop :=
  RelationKind.Links record.sourceType record.relation record.targetType

theorem refersTo_linked {source : TopologyNode} {relation : RelationKind} {targetType : NodeType}
    (links : RelationKind.Links source.1 relation targetType) (authority : EdgeAuthority)
    (targetIds : List PyStr) :
    ∀ reference ∈ refersTo source relation targetType authority targetIds, reference.Linked := by
  intro reference member
  obtain ⟨targetId, -, rfl⟩ := List.mem_map.mp member
  exact links

theorem linked_append {first second : List TopologyEdge} (one : ∀ edge ∈ first, edge.Linked)
    (other : ∀ edge ∈ second, edge.Linked) : ∀ edge ∈ first ++ second, edge.Linked :=
  fun edge member => (List.mem_append.mp member).elim (one edge) (other edge)

theorem entityFindings_linked {inventory : IndexedInventory} {entityId : PyStr}
    {entity : List (String × Json)} {findings : List TopologyEdge × EntityDependency}
    (found : entityFindings inventory entityId entity = .ok findings) :
    ∀ reference ∈ findings.1, reference.Linked := by
  unfold entityFindings at found
  simp only [bind_eq_ok] at found
  obtain ⟨_, -, _, -, _, -, _, -, _, -, _, -, same⟩ := found
  cases same
  refine linked_append (linked_append (linked_append (linked_append ?_ ?_) ?_) ?_) ?_
  · exact refersTo_linked .entityDevice _ _
  · exact refersTo_linked .entityIntegration _ _
  · exact refersTo_linked .entityArea _ _
  · exact refersTo_linked .entityArea _ _
  · exact refersTo_linked .entityLabel _ _

theorem deviceReferences_linked {deviceId : PyStr} {device : List (String × Json)}
    {references : List TopologyEdge} (found : deviceReferences deviceId device = .ok references) :
    ∀ reference ∈ references, reference.Linked := by
  unfold deviceReferences at found
  simp only [bind_eq_ok] at found
  obtain ⟨_, -, _, -, _, -, same⟩ := found
  cases same
  refine linked_append (linked_append ?_ ?_) ?_
  · exact refersTo_linked .deviceIntegration _ _
  · exact refersTo_linked .deviceArea _ _
  · exact refersTo_linked .deviceLabel _ _

theorem areaReferences_linked {areaId : PyStr} {area : List (String × Json)}
    {references : List TopologyEdge} (found : areaReferences areaId area = .ok references) :
    ∀ reference ∈ references, reference.Linked := by
  unfold areaReferences at found
  simp only [bind_eq_ok] at found
  obtain ⟨_, -, _, -, same⟩ := found
  cases same
  refine linked_append ?_ ?_
  · exact refersTo_linked .areaFloor _ _
  · exact refersTo_linked .areaLabel _ _

theorem inventoryReferences_linked {inventory : IndexedInventory}
    {found : List TopologyEdge × List EntityDependency}
    (refers : inventoryReferences inventory = .ok found) :
    ∀ reference ∈ found.1, reference.Linked := by
  unfold inventoryReferences at refers
  simp only [bind_eq_ok] at refers
  obtain ⟨entities, one, devices, two, areas, three, same⟩ := refers
  cases same
  refine linked_append (linked_append ?_ ?_) ?_
  · intro reference member
    obtain ⟨references, among, within⟩ := List.mem_flatten.mp member
    obtain ⟨findings, there, rfl⟩ := List.mem_map.mp among
    obtain ⟨_, -, here⟩ := (mem_of_mapM_eq_ok one findings).mp there
    exact entityFindings_linked here reference within
  · intro reference member
    obtain ⟨references, among, within⟩ := List.mem_flatten.mp member
    obtain ⟨_, -, here⟩ := (mem_of_mapM_eq_ok two references).mp among
    exact deviceReferences_linked here reference within
  · intro reference member
    obtain ⟨references, among, within⟩ := List.mem_flatten.mp member
    obtain ⟨_, -, here⟩ := (mem_of_mapM_eq_ok three references).mp among
    exact areaReferences_linked here reference within

/-- **No reference is dropped**: the edges are the references whose target the registries have, and
the unresolved relations are all the others. -/
structure RuntimeTopology.Splits (topology : RuntimeTopology) (inventory : IndexedInventory)
    (references : List TopologyEdge) : Prop where
  linked : ∀ reference ∈ references, reference.Linked
  edges : ∀ edge, edge ∈ topology.edges ↔
    edge ∈ references ∧ edge.targetId ∈ inventory.nodes edge.targetType
  unresolved : ∀ record, record ∈ topology.unresolved ↔ ∃ reference ∈ references,
    reference.toRelationRecord = record ∧
      reference.targetId ∉ inventory.nodes reference.targetType

theorem buildRuntimeTopology_splits {runtime : RuntimeInventoryInput} {topology : RuntimeTopology}
    (built : buildRuntimeTopology runtime = .ok topology) :
    ∃ inventory found, indexInventory runtime.homeassistant = .ok inventory ∧
      inventoryReferences inventory = .ok found ∧ topology.Splits inventory found.1 := by
  obtain ⟨inventory, indexes, built⟩ := bind_eq_ok.mp built
  obtain ⟨found, refers, same⟩ := bind_eq_ok.mp built
  cases same
  refine ⟨inventory, found, indexes, refers, inventoryReferences_linked refers, ?_, ?_⟩
  · intro edge
    show edge ∈ sortEdges _ ↔ _
    unfold sortEdges
    rw [List.mem_insertionSort, List.mem_filter]
    refine and_congr_right fun _ => ?_
    unfold IndexedInventory.resolves
    rw [List.contains_iff_mem]
  · intro record
    show record ∈ sortRecords _ ↔ _
    unfold sortRecords
    rw [List.mem_insertionSort, List.mem_map]
    constructor
    · rintro ⟨reference, member, rfl⟩
      obtain ⟨there, absent⟩ := List.mem_filter.mp member
      refine ⟨reference, there, rfl, fun present => ?_⟩
      unfold IndexedInventory.resolves at absent
      rw [List.contains_iff_mem.mpr present] at absent
      cases absent
    · rintro ⟨reference, there, rfl, absent⟩
      refine ⟨reference, List.mem_filter.mpr ⟨there, ?_⟩, rfl⟩
      unfold IndexedInventory.resolves
      rw [Bool.not_eq_true', ← Bool.not_eq_true, List.contains_iff_mem]
      exact absent

end SyncApp
