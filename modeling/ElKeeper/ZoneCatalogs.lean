import ElKeeper.ClusterExclusion
import Mathlib.Data.List.Dedup

/-!
# Host zones and the zone catalogues of clusters

A host has one zone, and each cluster lists the zones that its hosts may have.
A catalogue is checked against the zones that its hosts have when it is stored,
and a new zone of a host against the catalogues of all its clusters.  A host
with workloads changes its zone under a run, and a run that fails writes the
previous zone back.
-/

namespace ElKeeper

open Program

/-- The arguments of a started `run_host_zone_change`. -/
structure ZoneTask where
  runId : Nat
  nodeId : Nat
  previousZone : String
  zoneId : String
deriving DecidableEq

/-- The controller with the zoning that each cluster stores, the zone of each host row,
empty when it has none, and the tasks that have not ended. -/
structure ZoningWorld where
  database : Database
  zoning : Nat → Zoning
  zone : Nat → String
  tasks : List ZoneTask

namespace ZoningWorld

/-- The zone of a host; one that does not exist has none. -/
def hostZone (world : ZoningWorld) (nodeId : Nat) : String :=
  if world.database.nodes.any (·.id = nodeId) then world.zone nodeId else ""

/-- `set_zone_in_connection` and `restore_zone_in_connection`. -/
def setZone (nodeId : Nat) (zoneId : String) (world : ZoningWorld) : ZoningWorld :=
  { world with zone := fun other => if other = nodeId then zoneId else world.zone other }

/-- `update_zoning_in_connection`. -/
def setZoning (clusterId : Nat) (zoning : Zoning) (world : ZoningWorld) : ZoningWorld :=
  { world with zoning := fun other => if other = clusterId then zoning else world.zoning other }

/-- `asyncio.create_task`. -/
def startTask (task : ZoneTask) (world : ZoningWorld) : ZoningWorld :=
  { world with tasks := world.tasks ++ [task] }

/-- An operation on the database of the controller. -/
def onDatabase {α : Type} (operation : Operation α) : Program ZoningWorld Fault α where
  run world :=
    match operation.run world.database with
    | (outcome, after) => (outcome, { world with database := after })

/-- Commit what a program returned; a raised exception loses its writes. -/
def committed {α : Type} (program : Program ZoningWorld Fault α) (world : ZoningWorld) :
    ZoningWorld :=
  match program.run world with
  | (.returned _, after) => after
  | _ => world

end ZoningWorld

/-! ### The checks -/

namespace ClusterPolicyService

open WorkloadChangeValidator (demand)

/-- The zones in which a cluster has hosts. -/
def usedZones (world : ZoningWorld) (clusterId : Nat) : List String :=
  let members := world.database.memberships.filter (·.1 = clusterId)
  let zones := (members.map fun row => world.hostZone row.2).filter (· ≠ "")
  zones.dedup.insertionSort (· ≤ ·)

/-- `validate_zoning_catalog_update`. -/
def validateZoningCatalogUpdate (world : ZoningWorld) (clusterId : Nat) (zoning : Zoning) :
    Except Fault Unit :=
  if zoning.mode = .disabled then .ok ()
  else
    let missing := (usedZones world clusterId).filter (· ∉ zoning.zones)
    demand (missing = []) 409
      ("Reassign hosts before removing in-use zones: " ++ ", ".intercalate missing)

/-- The clusters of a host. -/
def memberClusters (world : ZoningWorld) (nodeId : Nat) : List ClusterRow :=
  (world.database.memberships.filter (·.2 = nodeId)).filterMap fun row =>
    world.database.cluster? row.1

/-- The zones that a role of a cluster would have after the host moved to a zone. -/
def coveredZones (world : ZoningWorld) (nodeId : Nat) (zoneId : String)
    (rows : List AssignmentRow) : List String :=
  rows.map fun row => if row.nodeId = nodeId then zoneId else world.hostZone row.nodeId

/-- The zones that a role has to cover when awareness is forced. -/
def requireForcedZones (world : ZoningWorld) (nodeId : Nat) (zoneId : String) (cluster : ClusterRow)
    (role : Role) (label : String) : Except Fault Unit :=
  let rows := world.database.assignments.filter fun row =>
    row.clusterId = cluster.id && row.state = .active && row.role = role
  if rows = [] then .ok ()
  else
    let missing := (world.zoning cluster.id).zones.filter fun zone =>
      zone ∉ (coveredZones world nodeId zoneId rows).filter (· ≠ "")
    demand (missing = []) 422
      ("Changing this host would leave " ++ label ++ " without forced zones: " ++
        ", ".intercalate missing)

/-- The last loop of `validate_host_zone_change`. -/
def requireIdleCluster (world : ZoningWorld) (nodeId : Nat) (zoneId : String)
    (cluster : ClusterRow) : Except Fault Unit := do
  demand (!ClusterOperation.activeClusterOperation world.database cluster.name) 409
    ("Wait for the active " ++ cluster.name ++ " operation to finish")
  if (world.zoning cluster.id).mode = .forcedAwareness then do
    requireForcedZones world nodeId zoneId cluster .hot "Hot data"
    requireForcedZones world nodeId zoneId cluster .warm "Warm data"

/-- The cluster through which the zone was selected. -/
def requireSelectedZone (world : ZoningWorld) (clusterId : Nat) (zoneId : String) :
    Except Fault Unit :=
  match world.database.cluster? clusterId with
  | none => .error ⟨.http 404, "Cluster not found"⟩
  | some _ =>
      demand (zoneId ∈ (world.zoning clusterId).zones) 422
        ("Zone " ++ zoneId ++ " is not defined by the selected cluster")

/-- `validate_host_zone_change`. -/
def validateHostZoneChange (world : ZoningWorld) (nodeId clusterId : Nat) (zoneId : String) :
    Except Fault Unit := do
  requireSelectedZone world clusterId zoneId
  let incompatible := (memberClusters world nodeId).filter fun cluster =>
    (world.zoning cluster.id).mode ≠ .disabled && zoneId ∉ (world.zoning cluster.id).zones
  demand (incompatible = []) 409
    ("The selected zone is not defined by associated clusters: " ++
      ", ".intercalate (incompatible.map (·.name)))
  (memberClusters world nodeId).forM (requireIdleCluster world nodeId zoneId)

end ClusterPolicyService

/-! ### The operations -/

namespace ZoningWorld

open ClusterPolicyService

/-- `update_cluster_zoning`. -/
def updateClusterZoning (policy : ClusterPolicy) (clusterId : Nat) (zoning : Zoning) :
    Program ZoningWorld Fault Unit := do
  let _ ← onDatabase (ClusterOperation.clusterRecord clusterId)
  let idle ← read fun world => policy.requireNoMaintenanceConflict world.database clusterId
  ofExcept idle
  let capable ← read fun world => policy.requireClusterCapability world.database clusterId
  ofExcept capable
  let zoned ← read fun world => validateZoningCatalogUpdate world clusterId zoning
  ofExcept zoned
  update (setZoning clusterId zoning)

/-- `ClusterLifecycleService.update`, with the catalogue that it stores. -/
def updateCluster (policy : ClusterPolicy) (clusterId : Nat) (name : String) (zoning : Zoning) :
    Program ZoningWorld Fault Unit := do
  let catalog ← read fun world identifier => validateZoningCatalogUpdate world identifier zoning
  onDatabase (ClusterService.update
    { policy with validateZoningCatalogUpdate := fun _ => catalog } clusterId name)
  update (setZoning clusterId zoning)

/-- `active_elasticsearch_ids_for_node_in_connection`. -/
def activeElasticsearchIds (database : Database) (nodeId : Nat) : List Nat :=
  (database.assignments.filter fun row =>
    row.nodeId = nodeId && row.state = .active && row.role.elasticsearch).map (·.id)

/-- `update_node_zone`. -/
def updateNodeZone (requireNoConflict : Database → Nat → Except Fault Unit)
    (nodeId clusterId : Nat) (zoneId : String) : Program ZoningWorld Fault Nat := do
  match ← read fun world => world.database.nodes.find? (·.id = nodeId) with
  | none => raise ⟨.http 404, "Node not found"⟩
  | some node => do
      let free ← read fun world => requireNoConflict world.database nodeId
      ofExcept free
      let valid ← read fun world => validateHostZoneChange world nodeId clusterId zoneId
      ofExcept valid
      let previous ← read fun world => world.hostZone nodeId
      if previous = zoneId then
        onDatabase (ZoningWorker.completedRun "host-zone-change" (node.name ++ ":zone"))
      else do
        let assignmentIds ← read fun world => activeElasticsearchIds world.database nodeId
        update (setZone nodeId zoneId)
        if assignmentIds = [] then
          onDatabase (ZoningWorker.completedRun "host-zone-change" (node.name ++ ":zone"))
        else do
          let runId ← onDatabase (Runs.startRun "host-zone-change" (node.name ++ ":zone")
            [("node_id", .num (nodeId : Int)), ("previous_zone", .str previous),
              ("zone_id", .str zoneId),
              ("assignment_ids",
                .arr (assignmentIds.map fun identifier => .num (identifier : Int)))])
          let claimed ← onDatabase (WorkloadStore.claimOperations assignmentIds runId)
          require claimed
            ⟨.http 409, "A workload on this host is already part of an active operation"⟩
          update (startTask ⟨runId, nodeId, previous, zoneId⟩)
          pure runId

/-- The `finally` block of `run_host_zone_change`. -/
def endTask (task : ZoneTask) (succeeded : Bool) (world : ZoningWorld) : ZoningWorld :=
  let restored := if succeeded then world else world.setZone task.nodeId task.previousZone
  let cleared := WorkloadStore.clearOperationForNode task.nodeId task.runId restored.database
  { restored with
    database := cleared.setRunStatus task.runId (if succeeded then .succeeded else .failed)
    tasks := restored.tasks.filter (·.runId ≠ task.runId) }

end ZoningWorld

inductive ZoningAction where
  | updateZoning (policy : ClusterPolicy) (clusterId : Nat) (zoning : Zoning)
  | updateCluster (policy : ClusterPolicy) (clusterId : Nat) (name : String) (zoning : Zoning)
  | changeZone (requireNoConflict : Database → Nat → Except Fault Unit) (nodeId clusterId : Nat)
      (zoneId : String)
  /-- The task of a run ends. -/
  | complete (runId : Nat) (succeeded : Bool)

namespace ZoningWorld

def perform (world : ZoningWorld) : ZoningAction → ZoningWorld
  | .updateZoning policy clusterId zoning =>
      world.committed (updateClusterZoning policy clusterId zoning)
  | .updateCluster policy clusterId name zoning =>
      world.committed (updateCluster policy clusterId name zoning)
  | .changeZone requireNoConflict nodeId clusterId zoneId =>
      world.committed (updateNodeZone requireNoConflict nodeId clusterId zoneId)
  | .complete runId succeeded =>
      match world.tasks.find? (·.runId = runId) with
      | none => world
      | some task => world.endTask task succeeded

/-- Actions one after the other. -/
def performAll (world : ZoningWorld) (actions : List ZoningAction) : ZoningWorld :=
  actions.foldl perform world

/-- Every cluster of the host lists the zone, unless its zoning is disabled. -/
def Listed (world : ZoningWorld) (nodeId : Nat) (zoneId : String) : Prop :=
  ∀ clusterId, (clusterId, nodeId) ∈ world.database.memberships →
    clusterId ∈ world.database.clusters.map (·.id) →
      (world.zoning clusterId).mode ≠ .disabled → zoneId ∈ (world.zoning clusterId).zones

/-- The zone of every host is listed by its clusters. -/
def Closed (world : ZoningWorld) : Prop :=
  ∀ nodeId, world.hostZone nodeId ≠ "" → world.Listed nodeId (world.hostZone nodeId)

/-- The zone that a failing task writes back is listed by the clusters of its host. -/
def Restorable (world : ZoningWorld) : ZoningAction → Prop
  | .complete runId false => ∀ task, world.tasks.find? (·.runId = runId) = some task →
      world.database.nodes.any (·.id = task.nodeId) → task.previousZone ≠ "" →
        world.Listed task.nodeId task.previousZone
  | _ => True

/-- Every action of a run meets the condition where it is performed. -/
def EachRestorable : ZoningWorld → List ZoningAction → Prop
  | _, [] => True
  | world, action :: actions =>
      world.Restorable action ∧ EachRestorable (world.perform action) actions

end ZoningWorld

/-! ### What a passed check says -/

/-- A demand that passed holds. -/
theorem demand_eq_ok {condition : Bool} {status : Nat} {message : String}
    (passed : WorkloadChangeValidator.demand condition status message = .ok ()) :
    condition = true := by
  cases condition with
  | true => rfl
  | false => cases passed

/-- The second part of a check passed as well. -/
theorem checks_eq_ok {first : Except Fault Unit} {second : Except Fault Unit}
    (passed : (first >>= fun _ => second) = .ok ()) : first = .ok () ∧ second = .ok () := by
  cases first with
  | error error => cases passed
  | ok value => exact ⟨rfl, passed⟩

/-! ### What an operation leaves -/

/-- The same hosts in the same clusters. -/
structure SameTopology (before after : Database) : Prop where
  nodes : after.nodes = before.nodes
  memberships : after.memberships = before.memberships
  clusters : after.clusters.map (·.id) = before.clusters.map (·.id)

/-- The same workloads, up to the runs that claim them. -/
def UnclaimedSame (before after : Database) : Prop :=
  after.assignments.map (fun row => { row with operationRunId := none }) =
    before.assignments.map fun row => { row with operationRunId := none }

theorem SameTopology.refl (database : Database) : SameTopology database database :=
  ⟨rfl, rfl, rfl⟩

theorem SameTopology.trans {first second third : Database} (earlier : SameTopology first second)
    (later : SameTopology second third) : SameTopology first third :=
  ⟨later.nodes.trans earlier.nodes, later.memberships.trans earlier.memberships,
    later.clusters.trans earlier.clusters⟩

namespace ZoningWorld

variable {world after : ZoningWorld}

theorem hostZone_of_same (same : SameTopology world.database after.database) (nodeId : Nat) :
    after.hostZone nodeId =
      if world.database.nodes.any (·.id = nodeId) then after.zone nodeId else "" := by
  rw [hostZone, same.nodes]

theorem Listed.of_same (same : SameTopology world.database after.database)
    (zoning : after.zoning = world.zoning) {nodeId : Nat} {zoneId : String}
    (listed : world.Listed nodeId zoneId) : after.Listed nodeId zoneId := by
  intro clusterId member isCluster isEnabled
  rw [same.memberships] at member
  rw [same.clusters] at isCluster
  rw [zoning] at isEnabled ⊢
  exact listed clusterId member isCluster isEnabled

/-- A host may get a zone that its clusters list. -/
theorem Closed.setZone (closed : world.Closed) {nodeId : Nat} {zoneId : String}
    (same : SameTopology world.database after.database) (zoning : after.zoning = world.zoning)
    (zone : after.zone = (world.setZone nodeId zoneId).zone)
    (listed : world.database.nodes.any (·.id = nodeId) → zoneId ≠ "" →
      world.Listed nodeId zoneId) :
    after.Closed := by
  intro other hasZone
  rw [hostZone_of_same same, zone] at hasZone ⊢
  split at hasZone
  · rename_i isHost
    rw [if_pos isHost]
    simp only [ZoningWorld.setZone] at hasZone ⊢
    by_cases isNode : other = nodeId
    · rw [if_pos isNode] at hasZone ⊢
      rw [isNode] at isHost ⊢
      exact (listed isHost hasZone).of_same same zoning
    · rw [if_neg isNode] at hasZone ⊢
      have isZone : world.hostZone other = world.zone other := by
        rw [hostZone, if_pos isHost]
      rw [← isZone] at hasZone ⊢
      exact (closed other hasZone).of_same same zoning
  · exact absurd rfl hasZone

theorem mem_usedZones {clusterId nodeId : Nat}
    (member : (clusterId, nodeId) ∈ world.database.memberships)
    (hasZone : world.hostZone nodeId ≠ "") :
    world.hostZone nodeId ∈ ClusterPolicyService.usedZones world clusterId := by
  rw [ClusterPolicyService.usedZones, List.mem_insertionSort, List.mem_dedup, List.mem_filter]
  refine ⟨List.mem_map.mpr ⟨(clusterId, nodeId), ?_, rfl⟩, by simpa using hasZone⟩
  exact List.mem_filter.mpr ⟨member, by simp⟩

/-- A stored catalogue lists the zones of the hosts of its cluster. -/
theorem Closed.setZoning (closed : world.Closed) {clusterId : Nat} {zoning : Zoning}
    (same : SameTopology world.database after.database) (zone : after.zone = world.zone)
    (isZoning : after.zoning = (world.setZoning clusterId zoning).zoning)
    (valid : ClusterPolicyService.validateZoningCatalogUpdate world clusterId zoning = .ok ()) :
    after.Closed := by
  intro nodeId hasZone
  have sameZone : after.hostZone nodeId = world.hostZone nodeId := by
    rw [hostZone_of_same same, zone, hostZone]
  rw [sameZone] at hasZone ⊢
  intro other member isCluster isEnabled
  rw [same.memberships] at member
  rw [same.clusters] at isCluster
  rw [isZoning] at isEnabled ⊢
  simp only [ZoningWorld.setZoning] at isEnabled ⊢
  by_cases isUpdated : other = clusterId
  · rw [if_pos isUpdated] at isEnabled ⊢
    rw [ClusterPolicyService.validateZoningCatalogUpdate, if_neg isEnabled] at valid
    have noneMissing := of_decide_eq_true (demand_eq_ok valid)
    have isUsed := mem_usedZones (isUpdated ▸ member) hasZone
    simpa using List.filter_eq_nil_iff.mp noneMissing _ isUsed
  · rw [if_neg isUpdated] at isEnabled ⊢
    exact closed nodeId hasZone other member isCluster isEnabled

/-- A zone that passed the check is listed. -/
theorem listed_of_valid {nodeId clusterId : Nat} {zoneId : String}
    (valid : ClusterPolicyService.validateHostZoneChange world nodeId clusterId zoneId = .ok ()) :
    world.Listed nodeId zoneId := by
  obtain ⟨_, afterSelected⟩ := checks_eq_ok valid
  obtain ⟨compatible, _⟩ := checks_eq_ok afterSelected
  have noneIncompatible := of_decide_eq_true (demand_eq_ok compatible)
  intro identifier member isCluster isEnabled
  obtain ⟨row, rowMember, isRow⟩ := List.mem_map.mp isCluster
  have isFound : (world.database.cluster? identifier).isSome := by
    rw [Database.cluster?, List.find?_isSome]
    exact ⟨row, rowMember, by simpa using isRow⟩
  obtain ⟨cluster, found⟩ := Option.isSome_iff_exists.mp isFound
  have isId : cluster.id = identifier := by simpa using List.find?_some found
  have isMember : cluster ∈ ClusterPolicyService.memberClusters world nodeId := by
    refine List.mem_filterMap.mpr ⟨(identifier, nodeId), ?_, found⟩
    exact List.mem_filter.mpr ⟨member, by simp⟩
  have notIncompatible := List.filter_eq_nil_iff.mp noneIncompatible cluster isMember
  rw [isId] at notIncompatible
  by_contra isMissing
  exact notIncompatible (by simp [isEnabled, isMissing])

/-! ### One lemma for each operation -/

theorem onDatabase_returned {α : Type} {operation : Operation α} {value : α}
    (ran : (onDatabase operation).run world = (.returned value, after)) :
    ∃ database, operation.run world.database = (.returned value, database) ∧
      after = { world with database := database } := by
  rcases operationRan : operation.run world.database with ⟨outcome, database⟩
  have onRan : (onDatabase operation).run world =
      (outcome, { world with database := database }) := by
    simp only [onDatabase, operationRan]
  rw [onRan] at ran
  cases ran
  exact ⟨database, rfl, rfl⟩

theorem updateClusterZoning_returned {policy : ClusterPolicy} {clusterId : Nat} {zoning : Zoning}
    (ran : (updateClusterZoning policy clusterId zoning).run world = (.returned (), after)) :
    ClusterPolicyService.validateZoningCatalogUpdate world clusterId zoning = .ok () ∧
      after = world.setZoning clusterId zoning := by
  obtain ⟨_, _, foundRan, afterFound⟩ := bind_eq_returned ran
  obtain ⟨_, recordRan, rfl⟩ := onDatabase_returned foundRan
  obtain ⟨_, rfl⟩ := ClusterOperation.clusterRecord_returned recordRan
  obtain ⟨_, _, wasRead, afterRead⟩ := bind_eq_returned afterFound
  cases wasRead
  obtain ⟨_, _, isIdle, afterIdle⟩ := bind_eq_returned afterRead
  obtain ⟨_, rfl⟩ := ofExcept_eq_returned isIdle
  obtain ⟨_, _, wasRead, afterRead⟩ := bind_eq_returned afterIdle
  cases wasRead
  obtain ⟨_, _, isCapable, afterCapable⟩ := bind_eq_returned afterRead
  obtain ⟨_, rfl⟩ := ofExcept_eq_returned isCapable
  obtain ⟨_, _, wasRead, afterRead⟩ := bind_eq_returned afterCapable
  cases wasRead
  obtain ⟨_, _, isValid, written⟩ := bind_eq_returned afterRead
  obtain ⟨valid, rfl⟩ := ofExcept_eq_returned isValid
  cases written
  exact ⟨valid, rfl⟩

theorem updateRecord_topology (clusterId : Nat) (name : String) (database : Database) :
    SameTopology database (ClusterService.updateRecord clusterId name database) := by
  refine ⟨rfl, rfl, ?_⟩
  simp only [ClusterService.updateRecord, List.map_map]
  apply List.map_congr_left
  intro cluster _
  simp only [Function.comp]
  split <;> rfl

theorem updateCluster_returned {policy : ClusterPolicy} {clusterId : Nat} {name : String}
    {zoning : Zoning}
    (ran : (updateCluster policy clusterId name zoning).run world = (.returned (), after)) :
    ClusterPolicyService.validateZoningCatalogUpdate world clusterId zoning = .ok () ∧
      after = { world.setZoning clusterId zoning with
        database := ClusterService.updateRecord clusterId name world.database } := by
  obtain ⟨_, _, wasRead, afterRead⟩ := bind_eq_returned ran
  cases wasRead
  obtain ⟨_, _, updatedRan, written⟩ := bind_eq_returned afterRead
  obtain ⟨_, serviceRan, rfl⟩ := onDatabase_returned updatedRan
  obtain ⟨_, valid, rfl⟩ := ClusterController.update_returned serviceRan
  cases written
  exact ⟨valid, rfl⟩

theorem unclaimedSame_of_map {database : Database} {change : AssignmentRow → AssignmentRow}
    (keeps : ∀ row, { change row with operationRunId := none } =
      { row with operationRunId := none }) :
    UnclaimedSame database (database.mapAssignments change) := by
  rw [UnclaimedSame, Database.mapAssignments, List.map_map]
  exact List.map_congr_left fun row _ => keeps row

/-- A claim touches the claims of the assignments only. -/
theorem claimOperations_frame {assignmentIds : List Nat} {runId : Nat} {claimed : Bool}
    {database after : Database}
    (ran : (WorkloadStore.claimOperations assignmentIds runId).run database =
      (.returned claimed, after)) : SameTopology database after ∧ UnclaimedSame database after := by
  simp only [WorkloadStore.claimOperations] at ran
  split at ran
  · cases ran
    exact ⟨.refl _, rfl⟩
  · cases ran
    refine ⟨⟨rfl, rfl, rfl⟩, unclaimedSame_of_map fun row => ?_⟩
    split <;> rfl

/-- What a zone change that returns has done. -/
structure ZoneChanged (nodeId : Nat) (zoneId : String) (world after : ZoningWorld) : Prop where
  listed : world.Listed nodeId zoneId
  isHost : world.database.nodes.any (·.id = nodeId)
  topology : SameTopology world.database after.database
  workloads : UnclaimedSame world.database after.database
  zoning : after.zoning = world.zoning
  zone : after.zone = (world.setZone nodeId zoneId).zone
  tasks : after.tasks = world.tasks ∨
    ∃ runId, after.tasks = world.tasks ++ [⟨runId, nodeId, world.hostZone nodeId, zoneId⟩]

/-- A zone change that returns gave the host a zone that its clusters list. -/
theorem updateNodeZone_returned {requireNoConflict : Database → Nat → Except Fault Unit}
    {nodeId clusterId runId : Nat} {zoneId : String}
    (ran : (updateNodeZone requireNoConflict nodeId clusterId zoneId).run world =
      (.returned runId, after)) : ZoneChanged nodeId zoneId world after := by
  obtain ⟨found, _, wasRead, matched⟩ := bind_eq_returned ran
  cases wasRead
  dsimp only at matched
  split at matched
  · cases matched
  · rename_i node isFound
    obtain ⟨_, _, wasRead, afterRead⟩ := bind_eq_returned matched
    cases wasRead
    obtain ⟨_, _, isFree, afterFree⟩ := bind_eq_returned afterRead
    obtain ⟨_, rfl⟩ := ofExcept_eq_returned isFree
    obtain ⟨_, _, wasRead, afterRead⟩ := bind_eq_returned afterFree
    cases wasRead
    obtain ⟨_, checked, isValid, afterValid⟩ := bind_eq_returned afterRead
    obtain ⟨valid, rfl⟩ := ofExcept_eq_returned isValid
    obtain ⟨previous, _, wasRead, branches⟩ := bind_eq_returned afterValid
    cases wasRead
    have isNode : node.id = nodeId := by simpa using List.find?_some isFound
    have isHost : checked.database.nodes.any (·.id = nodeId) :=
      List.any_eq_true.mpr ⟨node, List.mem_of_find?_eq_some isFound, by simpa using isNode⟩
    dsimp only at branches
    split at branches
    · rename_i unchanged
      obtain ⟨_, completedRan, rfl⟩ := onDatabase_returned branches
      cases completedRan
      refine ⟨listed_of_valid valid, isHost, ⟨rfl, rfl, rfl⟩, rfl, rfl, ?_, .inl rfl⟩
      rw [hostZone, if_pos isHost] at unchanged
      funext other
      simp only [setZone]
      split
      · rename_i isOther
        rw [isOther, unchanged]
      · rfl
    · obtain ⟨assignmentIds, _, wasRead, afterRead⟩ := bind_eq_returned branches
      cases wasRead
      obtain ⟨_, _, wasSet, launched⟩ := bind_eq_returned afterRead
      cases wasSet
      dsimp only at launched
      split at launched
      · obtain ⟨_, completedRan, rfl⟩ := onDatabase_returned launched
        cases completedRan
        exact ⟨listed_of_valid valid, isHost, ⟨rfl, rfl, rfl⟩, rfl, rfl, rfl, .inl rfl⟩
      · obtain ⟨_, _, startRan, afterStart⟩ := bind_eq_returned launched
        obtain ⟨_, startedRan, rfl⟩ := onDatabase_returned startRan
        obtain ⟨_, _, started⟩ := startRun_returned startedRan
        obtain ⟨_, _, claimRan, afterClaim⟩ := bind_eq_returned afterStart
        obtain ⟨_, claimedRan, rfl⟩ := onDatabase_returned claimRan
        obtain ⟨topology, workloads⟩ := claimOperations_frame claimedRan
        obtain ⟨_, _, isClaimed, afterClaimed⟩ := bind_eq_returned afterClaim
        obtain ⟨_, rfl⟩ := require_eq_returned isClaimed
        cases afterClaimed
        rw [started] at topology workloads
        exact ⟨listed_of_valid valid, isHost,
          ⟨topology.nodes, topology.memberships, topology.clusters⟩, workloads, rfl, rfl,
          .inr ⟨_, rfl⟩⟩

/-- The end of a task touches the runs and the claims, and writes the previous zone back
when it failed. -/
theorem endTask_topology (task : ZoneTask) (succeeded : Bool) :
    SameTopology world.database (world.endTask task succeeded).database := by
  cases succeeded <;> exact ⟨rfl, rfl, rfl⟩

/-! ### The invariant -/

theorem committed_cases {α : Type} (world : ZoningWorld) (program : Program ZoningWorld Fault α) :
    world.committed program = world ∨
      ∃ value, program.run world = (.returned value, world.committed program) := by
  rcases ran : program.run world with ⟨outcome, after⟩
  rw [committed, ran]
  cases outcome with
  | returned value => exact .inr ⟨value, rfl⟩
  | raised error => exact .inl rfl
  | stopped => exact .inl rfl

/-- A zone change leaves the catalogues and the clusters of the hosts. -/
theorem changeZone_frame (world : ZoningWorld)
    (requireNoConflict : Database → Nat → Except Fault Unit)
    (nodeId clusterId : Nat) (zoneId : String) :
    let after := world.perform (.changeZone requireNoConflict nodeId clusterId zoneId)
    SameTopology world.database after.database ∧ after.zoning = world.zoning := by
  rcases committed_cases world
    (updateNodeZone requireNoConflict nodeId clusterId zoneId) with same | ⟨_, ran⟩
  · simp only [ZoningWorld.perform, same]
    exact ⟨.refl _, trivial⟩
  · have changed := updateNodeZone_returned ran
    exact ⟨changed.topology, changed.zoning⟩

theorem Closed.performed (closed : world.Closed) {action : ZoningAction}
    (restorable : world.Restorable action) : (world.perform action).Closed := by
  cases action with
  | updateZoning policy clusterId zoning =>
      rcases committed_cases world (updateClusterZoning policy clusterId zoning) with
        same | ⟨_, ran⟩
      · rw [perform, same]
        exact closed
      · obtain ⟨valid, written⟩ := updateClusterZoning_returned ran
        rw [perform, written]
        exact closed.setZoning (.refl _) rfl rfl valid
  | updateCluster policy clusterId name zoning =>
      rcases committed_cases world (updateCluster policy clusterId name zoning) with
        same | ⟨_, ran⟩
      · rw [perform, same]
        exact closed
      · obtain ⟨valid, written⟩ := updateCluster_returned ran
        rw [perform, written]
        exact closed.setZoning (updateRecord_topology _ _ _) rfl rfl valid
  | changeZone requireNoConflict nodeId clusterId zoneId =>
      rcases committed_cases world
        (updateNodeZone requireNoConflict nodeId clusterId zoneId) with same | ⟨_, ran⟩
      · rw [perform, same]
        exact closed
      · have changed := updateNodeZone_returned ran
        exact closed.setZone changed.topology changed.zoning changed.zone fun _ _ =>
          changed.listed
  | complete runId succeeded =>
      simp only [ZoningWorld.perform]
      split
      · exact closed
      · rename_i task found
        cases succeeded with
        | true =>
            intro nodeId hasZone
            exact (closed nodeId hasZone).of_same (endTask_topology task true) rfl
        | false =>
            exact closed.setZone (endTask_topology task false) rfl rfl (restorable task found)

/-- A failing task leaves a closed state only when it may write the zone back. -/
theorem Closed.restorable {action : ZoningAction} (closed : (world.perform action).Closed) :
    world.Restorable action := by
  cases action with
  | updateZoning policy clusterId zoning => trivial
  | updateCluster policy clusterId name zoning => trivial
  | changeZone requireNoConflict nodeId clusterId zoneId => trivial
  | complete runId succeeded =>
      cases succeeded with
      | true => trivial
      | false =>
          intro task found isHost hasZone
          simp only [ZoningWorld.perform, found] at closed
          have restored : (world.endTask task false).hostZone task.nodeId = task.previousZone := by
            rw [hostZone_of_same (endTask_topology task false), if_pos isHost]
            exact if_pos rfl
          have listed := closed task.nodeId (by rwa [restored])
          rw [restored] at listed
          exact listed.of_same ⟨rfl, rfl, rfl⟩ rfl

theorem closed_performAll_iff (closed : world.Closed) (actions : List ZoningAction) :
    (∀ earlier, earlier <+: actions → (world.performAll earlier).Closed) ↔
      world.EachRestorable actions := by
  induction actions generalizing world with
  | nil =>
      refine ⟨fun _ => trivial, fun _ earlier isPrefix => ?_⟩
      rw [List.prefix_nil.mp isPrefix]
      exact closed
  | cons action actions ih =>
      constructor
      · intro reached
        have restorable : world.Restorable action :=
          Closed.restorable (reached [action] (by simp))
        refine ⟨restorable, (ih (closed.performed restorable)).mp fun earlier isPrefix => ?_⟩
        exact reached (action :: earlier) (by simpa using isPrefix)
      · rintro ⟨restorable, others⟩ earlier isPrefix
        cases earlier with
        | nil => exact closed
        | cons first earlier =>
            obtain ⟨rfl, isRest⟩ := List.cons_prefix_cons.mp isPrefix
            exact (ih (closed.performed restorable)).mpr others earlier isRest

end ZoningWorld

/-- From a state in which every host has a listed zone, this stays so in every state of a run
exactly when each failing zone change writes back a zone that is still listed. -/
theorem zones_listed_iff (start : ZoningWorld) (actions : List ZoningAction)
    (closed : start.Closed) :
    (∀ earlier, earlier <+: actions → (start.performAll earlier).Closed) ↔
      start.EachRestorable actions :=
  ZoningWorld.closed_performAll_iff closed actions

namespace ZoneSample

def assignment : AssignmentRow where
  id := 1
  clusterId := 1
  nodeId := 1
  role := .master
  config := .encrypted []
  imageVersion := none
  state := .active
  revision := 1
  operationRunId := none

/-- A host in the first zone of its only cluster. -/
def world : ZoningWorld where
  database := { Database.empty with
    nodes := [⟨1, "first", true⟩]
    clusters := [⟨1, "logs", "logs", true⟩]
    memberships := [(1, 1)]
    assignments := [assignment] }
  zoning _ := ⟨.awareness, ["zone-a", "zone-b"]⟩
  zone _ := "zone-a"
  tasks := []

def noConflict (_ : Database) (_ : Nat) : Except Fault Unit :=
  .ok ()

/-- The change fails and the host gets its zone back. -/
def restored : List ZoningAction :=
  [.changeZone noConflict 1 1 "zone-b", .complete 1 false]

/-- The zone that the host left is removed from the catalogue before the change fails. -/
def removed : List ZoningAction :=
  [.changeZone noConflict 1 1 "zone-b",
    .updateZoning ExclusionSample.policy 1 ⟨.awareness, ["zone-b", "zone-c"]⟩,
    .complete 1 false]

theorem world_listed (nodeId : Nat) : world.Listed nodeId "zone-a" := by
  intro clusterId _ _ _
  exact List.mem_cons_self

theorem world_closed : world.Closed := by
  intro nodeId hasZone
  have isZone : world.hostZone nodeId = "zone-a" := by
    rw [ZoningWorld.hostZone] at hasZone ⊢
    split at hasZone
    · rename_i isHost
      rw [if_pos isHost]
      rfl
    · exact absurd rfl hasZone
  rw [isZone]
  exact world_listed nodeId

end ZoneSample

theorem zones_listed_restored : (ZoneSample.world.performAll ZoneSample.restored).Closed := by
  refine (zones_listed_iff _ ZoneSample.restored ZoneSample.world_closed).mpr ⟨trivial, ?_, trivial⟩ _
    (List.prefix_refl _)
  intro task found _ _
  have isTask : (ZoneSample.world.performAll (ZoneSample.restored.take 1)).tasks =
      [⟨1, 1, "zone-a", "zone-b"⟩] := by
    decide +kernel
  have isFirst : some task = some ⟨1, 1, "zone-a", "zone-b"⟩ := by
    rw [← found]
    exact congrArg (List.find? _) isTask
  cases isFirst
  obtain ⟨topology, zoning⟩ := ZoningWorld.changeZone_frame ZoneSample.world
    ZoneSample.noConflict 1 1 "zone-b"
  exact (ZoneSample.world_listed 1).of_same topology zoning

/-- A removed zone comes back with the failure of the change that left it. -/
theorem zone_restored_unlisted :
    ¬ ∀ (start : ZoningWorld) (actions : List ZoningAction), start.Closed →
      ∀ earlier, earlier <+: actions → (start.performAll earlier).Closed := by
  intro always
  have closed := always _ ZoneSample.removed ZoneSample.world_closed _ (List.prefix_refl _)
  have listed := closed 1 (by decide +kernel) 1 (by decide +kernel) (by decide +kernel)
    (by decide +kernel)
  exact absurd listed (by decide +kernel)

end ElKeeper
