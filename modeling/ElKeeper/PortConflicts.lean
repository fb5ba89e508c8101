import ElKeeper.AssignmentRevisions
import ElKeeper.FinalizerOwnership
import ElKeeper.PortProfiles
import ElKeeper.Results
import ElKeeper.ZoneCatalogs

/-!
# Ports on shared hosts

A host may run workloads of several clusters.  Three checks keep their ports
apart: an update of a profile compares the workloads of all clusters in pairs,
a single assignment and a creation in a change set are compared with the other
clusters on the host, and within a cluster the profile and the uniqueness of
assignments suffice.
-/

namespace ElKeeper

open Program

/-- `RolePortProfile`, as its validator admits it. -/
structure RolePortProfile where
  ports : RolePorts
  valid : PortProfiles.validRolePorts ports = .ok ()

/-- What the columns `ports_json` and `role_ports_json` of a cluster hold. -/
structure StoredPorts where
  parsed : Option (Role → Option (List (String × Int)))
  legacy : PortProfile

/-- The part of `ClusterInput` that matters here. -/
structure ClusterInput where
  name : String
  ports : PortProfile
  rolePorts : RolePortProfile

/-- The columns that an input is written to. -/
def ClusterInput.stored (input : ClusterInput) : StoredPorts where
  parsed := some fun role => some (input.rolePorts.ports role)
  legacy := input.ports

/-- The controller with the stored ports of each cluster. -/
structure PortWorld where
  database : Database
  stored : Nat → StoredPorts

namespace PortWorld

/-- `stored_role_ports` of a cluster row. -/
def rolePorts (world : PortWorld) (clusterId : Nat) : RolePorts :=
  PortProfiles.storedRolePorts (world.stored clusterId).parsed (world.stored clusterId).legacy

def setPorts (clusterId : Nat) (ports : StoredPorts) (world : PortWorld) : PortWorld :=
  { world with stored := fun other => if other = clusterId then ports else world.stored other }

/-- An operation on the database of the controller. -/
def onDatabase {α : Type} (operation : Operation α) : Program PortWorld Fault α where
  run world :=
    match operation.run world.database with
    | (outcome, after) => (outcome, { world with database := after })

/-- Commit what a program returned; a raised exception loses its writes. -/
def committed {α : Type} (program : Program PortWorld Fault α) (world : PortWorld) : PortWorld :=
  match program.run world with
  | (.returned _, after) => after
  | _ => world

end PortWorld

/-! ### The checks -/

namespace PortConflicts

open PortProfiles

/-- The rows in the states `active` and `applying`. -/
def activeOrApplying (database : Database) : List AssignmentRow :=
  database.assignments.filter fun row => row.state = .active || row.state = .applying

/-- `set(left).intersection(right)` is not empty. -/
def intersects (left right : List Int) : Bool :=
  left.any (· ∈ right)

/-- `conflict_message`; its callers have found the cluster. -/
def conflictMessage (rolePorts : Nat → RolePorts) (database : Database) (clusterId nodeId : Nat)
    (role : Role) : Option String :=
  if role.portFields = [] then none
  else
    let rows := (activeOrApplying database).filter fun row =>
      row.nodeId = nodeId && row.clusterId ≠ clusterId
    let used := rolePortValues (rolePorts clusterId) role
    rows.findSome? fun row =>
      match database.cluster? row.clusterId with
      | none => none
      | some other =>
          if intersects used (rolePortValues (rolePorts row.clusterId) row.role) then
            some ("Port profile conflicts with " ++ other.name ++ " on this host")
          else none

/-- The ports of a workload when a cluster is given new ports. -/
def portsWith (rolePorts : Nat → RolePorts) (clusterId : Nat) (given : RolePorts)
    (row : AssignmentRow) : List Int :=
  rolePortValues (if row.clusterId = clusterId then given else rolePorts row.clusterId) row.role

/-- `profile_conflict`. -/
def profileConflict (rolePorts : Nat → RolePorts) (database : Database) (clusterId : Nat)
    (given : RolePorts) : Option String :=
  let rows := activeOrApplying database
  rows.findSome? fun left =>
    match database.cluster? left.clusterId with
    | none => none
    | some _ =>
        rows.findSome? fun right =>
          if left.nodeId ≠ right.nodeId ∨ right.clusterId = left.clusterId then none
          else
            match database.cluster? right.clusterId with
            | none => none
            | some other =>
                if intersects (portsWith rolePorts clusterId given left)
                    (portsWith rolePorts clusterId given right) then
                  some ("Port profile conflicts with " ++ other.name ++ " on a shared host")
                else none

end PortConflicts

/-! ### The operations -/

namespace PortWorld

open PortConflicts

/-- `ClusterLifecycleService.create`. -/
def createCluster (slugify : String → String) (input : ClusterInput) :
    Program PortWorld Fault Nat := do
  let slug := slugify input.name
  let taken ← read fun world =>
    world.database.clusters.any fun cluster => cluster.name = input.name || cluster.slug = slug
  require (!taken) ⟨.http 409, "Cluster name already exists"⟩
  let identifier ← read fun world => Database.nextId (world.database.clusters.map (·.id))
  update fun world =>
    { world with
      database :=
        { world.database with
          clusters := world.database.clusters ++
            [{ id := identifier
               name := input.name
               slug := slug
               filebeatEnabled := true }] } }
  update (setPorts identifier input.stored)
  pure identifier

/-- `ClusterLifecycleService.update`, with the ports that it checks and stores. -/
def updateCluster (policy : ClusterPolicy) (clusterId : Nat) (input : ClusterInput) :
    Program PortWorld Fault Unit := do
  let conflict ← read fun world database identifier =>
    profileConflict world.rolePorts database identifier input.rolePorts.ports
  onDatabase (ClusterService.update { policy with profileConflict := conflict } clusterId
    input.name)
  update (setPorts clusterId input.stored)

/-- `add_assignment`. -/
def addAssignment (guards : RouteGuards) (clusterId nodeId : Nat) (role : Role) (config : Dict) :
    Program PortWorld Fault Nat := do
  let message ← read fun world => conflictMessage world.rolePorts
  onDatabase (InventoryRoutes.addAssignment { guards with conflictMessage := message } clusterId
    nodeId role config)

/-- `launch_batch`. -/
def launchBatch (validator : WorkloadChangeValidator) (clusterId : Nat)
    (changeSet : WorkloadChangeSet) : Program PortWorld Fault Nat := do
  let message ← read fun world => conflictMessage world.rolePorts
  onDatabase (WorkloadChangeValidator.launchBatch { validator with conflictMessage := message }
    clusterId changeSet)

end PortWorld

inductive PortAction where
  | createCluster (slugify : String → String) (input : ClusterInput)
  | updateCluster (policy : ClusterPolicy) (clusterId : Nat) (input : ClusterInput)
  | addMember (guards : RouteGuards) (clusterId nodeId : Nat)
  | addAssignment (guards : RouteGuards) (clusterId nodeId : Nat) (role : Role) (config : Dict)
  /-- The statement that a detachment or a purge ends with. -/
  | deleteAssignment (assignmentId : Nat)
  | launchBatch (validator : WorkloadChangeValidator) (clusterId : Nat)
      (changeSet : WorkloadChangeSet)
  /-- The worker of a batch finalizes it, or takes it back. -/
  | settleBatch (runId : Nat) (finalized : Bool)

namespace PortWorld

def perform (world : PortWorld) : PortAction → PortWorld
  | .createCluster slugify input => world.committed (createCluster slugify input)
  | .updateCluster policy clusterId input =>
      world.committed (updateCluster policy clusterId input)
  | .addMember guards clusterId nodeId =>
      world.committed (onDatabase (InventoryRoutes.addMember guards clusterId nodeId))
  | .addAssignment guards clusterId nodeId role config =>
      world.committed (addAssignment guards clusterId nodeId role config)
  | .deleteAssignment assignmentId =>
      { world with database := WorkloadStore.deleteAssignment assignmentId world.database }
  | .launchBatch validator clusterId changeSet =>
      world.committed (launchBatch validator clusterId changeSet)
  | .settleBatch runId finalized =>
      { world with database := ClusterController.settleBatch runId finalized world.database }

/-- Actions one after the other. -/
def performAll (world : PortWorld) (actions : List PortAction) : PortWorld :=
  actions.foldl perform world

/-- The ports of a workload under the stored ports of its cluster. -/
def portsOf (world : PortWorld) (row : AssignmentRow) : List Int :=
  PortProfiles.rolePortValues (world.rolePorts row.clusterId) row.role

/-- No two workloads on one host have a port in common. -/
def PortsDisjoint (world : PortWorld) : Prop :=
  (PortConflicts.activeOrApplying world.database).Pairwise fun left right =>
    left.nodeId = right.nodeId → (world.portsOf left).Disjoint (world.portsOf right)

end PortWorld

/-! ### Where workloads are -/

/-- What the uniqueness constraint of the assignments is about. -/
structure Placement where
  clusterId : Nat
  nodeId : Nat
  role : Role
deriving DecidableEq

def AssignmentRow.placement (row : AssignmentRow) : Placement :=
  ⟨row.clusterId, row.nodeId, row.role⟩

def Database.placements (database : Database) : List Placement :=
  database.assignments.map (·.placement)

/-- A placement has no port in common with those of other clusters on its host. -/
def Clear (rolePorts : Nat → RolePorts) (placements : List Placement) (new : Placement) : Prop :=
  ∀ old ∈ placements, old.nodeId = new.nodeId → old.clusterId ≠ new.clusterId →
    (PortProfiles.rolePortValues (rolePorts old.clusterId) old.role).Disjoint
      (PortProfiles.rolePortValues (rolePorts new.clusterId) new.role)

/-- The clusters of workloads exist, no role is twice on one host for one cluster, and the
workloads of different clusters on one host have different ports. -/
structure Ported (rolePorts : Nat → RolePorts) (clusters : List Nat)
    (placements : List Placement) : Prop where
  clustered : ∀ placement ∈ placements, placement.clusterId ∈ clusters
  unique : placements.Nodup
  apart : ∀ placement ∈ placements, Clear rolePorts placements placement

namespace Ported

variable {rolePorts : Nat → RolePorts} {clusters : List Nat} {placements after : List Placement}

theorem nil (rolePorts : Nat → RolePorts) (clusters : List Nat) : Ported rolePorts clusters [] :=
  ⟨by simp, .nil, by simp⟩

theorem sublist (holds : Ported rolePorts clusters placements)
    (fewer : after.Sublist placements) : Ported rolePorts clusters after where
  clustered placement member := holds.clustered placement (fewer.subset member)
  unique := holds.unique.sublist fewer
  apart placement member old oldMember :=
    holds.apart placement (fewer.subset member) old (fewer.subset oldMember)

/-- A new placement that is clear of the others. -/
theorem add (holds : Ported rolePorts clusters placements) {new : Placement}
    (isClustered : new.clusterId ∈ clusters) (isNew : new ∉ placements)
    (clear : Clear rolePorts placements new) :
    Ported rolePorts clusters (placements ++ [new]) where
  clustered placement member := by
    rcases List.mem_append.mp member with earlier | last
    · exact holds.clustered placement earlier
    · rw [List.mem_singleton.mp last]
      exact isClustered
  unique := by
    rw [List.nodup_append]
    refine ⟨holds.unique, List.nodup_singleton _, fun old oldMember other last => ?_⟩
    rw [List.mem_singleton.mp last]
    exact fun same => isNew (same ▸ oldMember)
  apart placement member old oldMember sameNode otherCluster := by
    rcases List.mem_append.mp member with earlier | last <;>
      rcases List.mem_append.mp oldMember with oldEarlier | oldLast
    · exact holds.apart placement earlier old oldEarlier sameNode otherCluster
    · rw [List.mem_singleton.mp oldLast] at sameNode otherCluster ⊢
      exact (clear placement earlier sameNode.symm otherCluster.symm).symm
    · rw [List.mem_singleton.mp last] at sameNode otherCluster ⊢
      exact clear old oldEarlier sameNode otherCluster
    · rw [List.mem_singleton.mp last, List.mem_singleton.mp oldLast] at otherCluster
      exact absurd rfl otherCluster

/-- The ports of clusters without workloads do not matter. -/
theorem congr (holds : Ported rolePorts clusters placements) {others : Nat → RolePorts}
    {more : List Nat} (kept : clusters ⊆ more)
    (same : ∀ clusterId ∈ clusters, others clusterId = rolePorts clusterId) :
    Ported others more placements where
  clustered placement member := kept (holds.clustered placement member)
  unique := holds.unique
  apart placement member old oldMember sameNode otherCluster := by
    rw [same _ (holds.clustered placement member), same _ (holds.clustered old oldMember)]
    exact holds.apart placement member old oldMember sameNode otherCluster

/-- Workloads on one host have no port in common, also those of one cluster. -/
theorem disjoint (holds : Ported rolePorts clusters placements)
    (distinct : ∀ clusterId, PortProfiles.Distinct (rolePorts clusterId)) {left right : Placement}
    (leftMember : left ∈ placements) (rightMember : right ∈ placements) (different : left ≠ right)
    (sameNode : left.nodeId = right.nodeId) :
    (PortProfiles.rolePortValues (rolePorts left.clusterId) left.role).Disjoint
      (PortProfiles.rolePortValues (rolePorts right.clusterId) right.role) := by
  by_cases sameCluster : left.clusterId = right.clusterId
  · intro port isLeft isRight
    rw [sameCluster] at isLeft
    have sameRole := distinct right.clusterId left.role right.role port isLeft isRight
    apply different
    cases left
    cases right
    simp_all
  · exact holds.apart right rightMember left leftMember sameNode sameCluster

end Ported

namespace PortWorld

/-- The invariant of the controller. -/
def Sound (world : PortWorld) : Prop :=
  Ported world.rolePorts (world.database.clusters.map (·.id)) world.database.placements

theorem rolePorts_distinct (world : PortWorld) (clusterId : Nat) :
    PortProfiles.Distinct (world.rolePorts clusterId) :=
  PortProfiles.storedRolePorts_distinct _ _

theorem Sound.portsDisjoint {world : PortWorld} (sound : world.Sound) : world.PortsDisjoint := by
  have placed : world.database.assignments.Pairwise fun left right =>
      left.placement ≠ right.placement := List.pairwise_map.mp sound.unique
  refine (placed.sublist List.filter_sublist).imp_of_mem ?_
  intro left right leftMember rightMember different sameNode
  have isLeft : left.placement ∈ world.database.placements :=
    List.mem_map_of_mem (List.mem_of_mem_filter leftMember)
  have isRight : right.placement ∈ world.database.placements :=
    List.mem_map_of_mem (List.mem_of_mem_filter rightMember)
  exact Ported.disjoint sound world.rolePorts_distinct isLeft isRight different sameNode

end PortWorld

/-! ### What a passed check says -/

namespace PortConflicts

open PortProfiles

theorem mem_activeOrApplying {database : Database} {row : AssignmentRow} :
    row ∈ activeOrApplying database ↔ row ∈ database.assignments := by
  rw [activeOrApplying, List.mem_filter]
  cases row.state <;> simp

theorem disjoint_of_not_intersects {left right : List Int}
    (apart : ¬ intersects left right = true) : left.Disjoint right := by
  intro port isLeft isRight
  apply apart
  rw [intersects, List.any_eq_true]
  exact ⟨port, isLeft, by simpa using isRight⟩

/-- The cluster of a workload is found. -/
theorem cluster_found {database : Database} {clusterId : Nat}
    (isCluster : clusterId ∈ database.clusters.map (·.id)) :
    ∃ cluster, database.cluster? clusterId = some cluster := by
  obtain ⟨cluster, member, isId⟩ := List.mem_map.mp isCluster
  rw [← Option.isSome_iff_exists, Database.cluster?, List.find?_isSome]
  exact ⟨cluster, member, by simpa using isId⟩

theorem conflictMessage_none {rolePorts : Nat → RolePorts} {database : Database}
    {clusterId nodeId : Nat} {role : Role}
    (clustered : ∀ placement ∈ database.placements,
      placement.clusterId ∈ database.clusters.map (·.id))
    (unconflicted : conflictMessage rolePorts database clusterId nodeId role = none) :
    Clear rolePorts database.placements ⟨clusterId, nodeId, role⟩ := by
  intro old member sameNode otherCluster
  obtain ⟨row, rowMember, rfl⟩ := List.mem_map.mp member
  rw [conflictMessage] at unconflicted
  split at unconflicted
  · rename_i portless
    intro port _ isPort
    simp [rolePortValues, portless] at isPort
  · have isRow : row ∈ (activeOrApplying database).filter fun row =>
        row.nodeId = nodeId && row.clusterId ≠ clusterId := by
      rw [List.mem_filter]
      exact ⟨mem_activeOrApplying.mpr rowMember, by simpa using ⟨sameNode, otherCluster⟩⟩
    have passed := List.findSome?_eq_none_iff.mp unconflicted row isRow
    obtain ⟨cluster, found⟩ := cluster_found (clustered _ member)
    change database.cluster? row.clusterId = some cluster at found
    rw [found] at passed
    dsimp only at passed
    split at passed
    · cases passed
    · rename_i apart
      exact (disjoint_of_not_intersects apart).symm

theorem profileConflict_none {rolePorts : Nat → RolePorts} {database : Database} {clusterId : Nat}
    {given : RolePorts}
    (clustered : ∀ placement ∈ database.placements,
      placement.clusterId ∈ database.clusters.map (·.id))
    (unconflicted : profileConflict rolePorts database clusterId given = none)
    {left right : AssignmentRow} (leftMember : left ∈ database.assignments)
    (rightMember : right ∈ database.assignments) (sameNode : left.nodeId = right.nodeId)
    (otherCluster : left.clusterId ≠ right.clusterId) :
    (portsWith rolePorts clusterId given left).Disjoint
      (portsWith rolePorts clusterId given right) := by
  rw [profileConflict] at unconflicted
  have leftPassed := List.findSome?_eq_none_iff.mp unconflicted left
    (mem_activeOrApplying.mpr leftMember)
  obtain ⟨leftCluster, leftFound⟩ := cluster_found (clustered _ (List.mem_map_of_mem leftMember))
  change database.cluster? left.clusterId = some leftCluster at leftFound
  rw [leftFound] at leftPassed
  have rightPassed := List.findSome?_eq_none_iff.mp leftPassed right
    (mem_activeOrApplying.mpr rightMember)
  obtain ⟨rightCluster, rightFound⟩ :=
    cluster_found (clustered _ (List.mem_map_of_mem rightMember))
  change database.cluster? right.clusterId = some rightCluster at rightFound
  have shared : ¬ (left.nodeId ≠ right.nodeId ∨ right.clusterId = left.clusterId) := by
    rintro (otherNode | sameCluster)
    · exact otherNode sameNode
    · exact otherCluster sameCluster.symm
  rw [if_neg shared, rightFound] at rightPassed
  dsimp only at rightPassed
  split at rightPassed
  · cases rightPassed
  · rename_i apart
    exact disjoint_of_not_intersects apart

end PortConflicts

/-! ### One lemma for each operation -/

namespace PortWorld

open PortConflicts

variable {world after : PortWorld}

/-- A committed program is what it returned with, or nothing. -/
theorem Sound.committed {α : Type} {program : Program PortWorld Fault α} (sound : world.Sound)
    (returned : ∀ value after, program.run world = (.returned value, after) → after.Sound) :
    (world.committed program).Sound := by
  rcases ran : program.run world with ⟨outcome, after⟩
  rw [PortWorld.committed, ran]
  cases outcome with
  | returned value => exact returned value after ran
  | raised error => exact sound
  | stopped => exact sound

theorem onDatabase_returned {α : Type} {operation : Operation α} {value : α}
    (ran : (onDatabase operation).run world = (.returned value, after)) :
    ∃ database, operation.run world.database = (.returned value, database) ∧
      after = { world with database := database } := by
  rcases operationRan : operation.run world.database with ⟨outcome, database⟩
  have onRan : (onDatabase operation).run world =
      (outcome, { world with database := database }) := by
    simp only [onDatabase, operationRan]
  rw [onRan] at ran
  cases ran
  exact ⟨database, rfl, rfl⟩

/-- Workloads go, and nothing else changes. -/
theorem Sound.fewer (sound : world.Sound) {database : Database}
    (clusters : database.clusters = world.database.clusters)
    (fewer : database.placements.Sublist world.database.placements) :
    Sound { world with database := database } := by
  rw [Sound] at sound ⊢
  rw [clusters]
  exact sound.sublist fewer

theorem createCluster_returned {slugify : String → String} {input : ClusterInput}
    {identifier : Nat}
    (ran : (createCluster slugify input).run world = (.returned identifier, after)) :
    identifier = Database.nextId (world.database.clusters.map (·.id)) ∧
      after.stored = (world.setPorts identifier input.stored).stored ∧
      after.database.assignments = world.database.assignments ∧
      after.database.clusters.map (·.id) = world.database.clusters.map (·.id) ++ [identifier] := by
  obtain ⟨_, _, wasRead, checking⟩ := bind_eq_returned ran
  cases wasRead
  obtain ⟨_, _, required, writing⟩ := bind_eq_returned checking
  obtain ⟨_, rfl⟩ := require_eq_returned required
  cases writing
  exact ⟨rfl, rfl, rfl, by simp [setPorts]⟩

theorem Sound.createCluster (sound : world.Sound) (slugify : String → String)
    (input : ClusterInput) : (world.committed (createCluster slugify input)).Sound := by
  refine sound.committed fun identifier after ran => ?_
  obtain ⟨isNext, stored, assignments, clusters⟩ := createCluster_returned ran
  have placements : after.database.placements = world.database.placements := by
    rw [Database.placements, assignments, Database.placements]
  rw [Sound, clusters, placements]
  refine Ported.congr sound (List.subset_append_left _ _) fun clusterId isCluster => ?_
  have other : clusterId ≠ identifier := by
    rw [isNext]
    exact Nat.ne_of_lt (WorkloadStore.lt_nextId isCluster)
  simp [rolePorts, stored, setPorts, other]

/-- The stored ports of an input are those that were checked. -/
theorem rolePorts_setPorts (world : PortWorld) (clusterId other : Nat) (input : ClusterInput) :
    (world.setPorts clusterId input.stored).rolePorts other =
      if other = clusterId then input.rolePorts.ports else world.rolePorts other := by
  have checked : PortProfiles.storedRolePorts input.stored.parsed input.stored.legacy =
      input.rolePorts.ports := by
    have filled : (PortProfiles.fillRolePorts fun role => some (input.rolePorts.ports role)) =
        input.rolePorts.ports := rfl
    simp only [ClusterInput.stored, PortProfiles.storedRolePorts, filled, input.rolePorts.valid]
  by_cases same : other = clusterId
  · simp only [rolePorts, setPorts, same, if_true]
    exact checked
  · simp [rolePorts, setPorts, same]

theorem Sound.updateCluster (sound : world.Sound) (policy : ClusterPolicy) (clusterId : Nat)
    (input : ClusterInput) : (world.committed (updateCluster policy clusterId input)).Sound := by
  refine sound.committed fun _ after ran => ?_
  obtain ⟨_, _, wasRead, updating⟩ := bind_eq_returned ran
  cases wasRead
  obtain ⟨_, _, updated, written⟩ := bind_eq_returned updating
  obtain ⟨_, serviceRan, rfl⟩ := onDatabase_returned updated
  obtain ⟨unconflicted, _, rfl⟩ := ClusterController.update_returned serviceRan
  cases written
  let renamed := ClusterService.updateRecord clusterId input.name world.database
  have clusters : renamed.clusters.map (·.id) = world.database.clusters.map (·.id) :=
    (ZoningWorld.updateRecord_topology clusterId input.name world.database).clusters
  have ports : ∀ row : AssignmentRow, PortProfiles.rolePortValues
      ((world.setPorts clusterId input.stored).rolePorts row.clusterId) row.role =
        portsWith world.rolePorts clusterId input.rolePorts.ports row := by
    intro row
    rw [rolePorts_setPorts]
    rfl
  refine ⟨fun placement member => ?_, sound.unique, ?_⟩
  · exact clusters ▸ sound.clustered placement member
  · intro placement member old oldMember sameNode otherCluster
    obtain ⟨row, rowMember, rfl⟩ := List.mem_map.mp member
    obtain ⟨oldRow, oldRowMember, rfl⟩ := List.mem_map.mp oldMember
    have apart := profileConflict_none sound.clustered unconflicted oldRowMember rowMember
      sameNode otherCluster
    rw [← ports, ← ports] at apart
    exact apart

/-- A workload is added after the checks of its cluster. -/
theorem Sound.add (sound : world.Sound) {database : Database} {new : Placement}
    (clusters : database.clusters = world.database.clusters)
    (added : database.placements = world.database.placements ++ [new])
    (isCluster : (world.database.cluster? new.clusterId).isSome)
    (isNew : new ∉ world.database.placements)
    (clear : Clear world.rolePorts world.database.placements new) :
    Sound { world with database := database } := by
  have isClustered : new.clusterId ∈ world.database.clusters.map (·.id) := by
    obtain ⟨cluster, found⟩ := Option.isSome_iff_exists.mp isCluster
    have isId : cluster.id = new.clusterId := by simpa using List.find?_some found
    rw [← isId]
    exact List.mem_map_of_mem (List.mem_of_find?_eq_some found)
  rw [Sound]
  dsimp only
  rw [clusters, added]
  exact Ported.add sound isClustered isNew clear

/-- A statement that changes rows in place keeps the placements. -/
theorem placements_map {change : AssignmentRow → AssignmentRow}
    (same : ∀ row, (change row).placement = row.placement) (database : Database) :
    (database.mapAssignments change).placements = database.placements := by
  simp [Database.placements, Database.mapAssignments, Function.comp_def, same]

theorem Sound.addAssignment (sound : world.Sound) (guards : RouteGuards) (clusterId nodeId : Nat)
    (role : Role) (config : Dict) :
    (world.committed (addAssignment guards clusterId nodeId role config)).Sound := by
  refine sound.committed fun identifier after ran => ?_
  obtain ⟨_, _, wasRead, adding⟩ := bind_eq_returned ran
  cases wasRead
  obtain ⟨_, routeRan, rfl⟩ := onDatabase_returned adding
  obtain ⟨isCluster, unconflicted, _, ⟨_, _, _, rfl⟩ | ⟨missing, _, rfl⟩⟩ :=
    InventoryRoutes.addAssignment_returned routeRan
  · refine sound.fewer rfl ?_
    rw [placements_map fun row => by split <;> rfl]
  · have isNew : (⟨clusterId, nodeId, role⟩ : Placement) ∉ world.database.placements := by
      intro member
      obtain ⟨row, rowMember, isPlace⟩ := List.mem_map.mp member
      have missed := List.find?_eq_none.mp missing row rowMember
      injection isPlace with sameCluster sameNode sameRole
      exact missed (by simp [WorkloadStore.sitsAt, sameCluster, sameNode, sameRole])
    refine sound.add rfl ?_ isCluster isNew (conflictMessage_none sound.clustered unconflicted)
    simp [Database.placements, Database.addAssignment, WorkloadStore.addedRow,
      AssignmentRow.placement]

/-- The creations of a validated change set are without conflict. -/
theorem validateChanges_unconflicted {validator : WorkloadChangeValidator} {database : Database}
    {cluster : ClusterRow} {active : List (AssignmentRow × NodeRow)} {changed : List Nat}
    {changes : List WorkloadChange} {planned : List PlannedChange}
    (accepted : WorkloadChangeValidator.validateChanges validator database cluster active changed
      changes = .ok planned) :
    ∀ change ∈ planned, WorkloadChangeValidator.PlannedChange.creates change →
      validator.conflictMessage database cluster.id change.nodeId change.role = none := by
  induction changes generalizing changed planned with
  | nil =>
      cases accepted
      simp
  | cons change changes ih =>
      obtain ⟨first, isFirst, accepted⟩ := Results.bind_ok accepted
      obtain ⟨others, areOthers, accepted⟩ := Results.bind_ok accepted
      cases accepted
      intro other member creates
      rcases List.mem_cons.mp member with rfl | later
      · cases change with
        | create clientId nodeId role imageVersion config =>
            simp only [WorkloadChangeValidator.validateChange,
              WorkloadChangeValidator.validateCreate] at isFirst
            obtain ⟨_, _, isFirst⟩ := Results.bind_ok isFirst
            split at isFirst
            · cases isFirst
            · obtain ⟨_, _, isFirst⟩ := Results.bind_ok isFirst
              split at isFirst
              · cases isFirst
              · rename_i unconflicted
                obtain ⟨_, _, isFirst⟩ := Results.bind_ok isFirst
                cases isFirst
                exact unconflicted
        | resources clientId assignmentId revision config =>
            obtain ⟨_, _, isFirst⟩ := Results.bind_ok isFirst
            obtain ⟨_, _, isFirst⟩ := Results.bind_ok isFirst
            obtain ⟨_, _, isFirst⟩ := Results.bind_ok isFirst
            cases isFirst
            cases creates
        | detach clientId assignmentId revision =>
            obtain ⟨_, _, isFirst⟩ := Results.bind_ok isFirst
            cases isFirst
            cases creates
      · exact ih areOthers other later creates

/-- One statement of a staging keeps the placements or adds the one that was asked for. -/
theorem stageChange_placements {clusterId runId : Nat} {change : PlannedChange}
    {database staged : Database} {result : StagedChange}
    (ran : (WorkloadStore.stageChange clusterId runId change).run database =
      (.returned result, staged)) :
    staged.clusters = database.clusters ∧
      (staged.placements = database.placements ∨
        (WorkloadChangeValidator.PlannedChange.creates change ∧
          (database.cluster? clusterId).isSome ∧
          (⟨clusterId, change.nodeId, change.role⟩ : Placement) ∉ database.placements ∧
          staged.placements =
            database.placements ++ [⟨clusterId, change.nodeId, change.role⟩])) := by
  have claimed : ∀ {assignmentId revision : Nat}
      (_ : (WorkloadStore.claimAssignment runId assignmentId revision >>= fun _ =>
          pure { change with assignmentId := assignmentId }).run database =
        (.returned result, staged)),
      staged.clusters = database.clusters ∧ staged.placements = database.placements := by
    intro assignmentId revision claiming
    obtain ⟨_, _, claimRan, ended⟩ := bind_eq_returned claiming
    cases ended
    obtain ⟨_, rfl⟩ := WorkloadStore.claimAssignment_returned claimRan
    refine ⟨rfl, placements_map (fun row => ?_) database⟩
    simp only [WorkloadStore.claimFor]
    split <;> rfl
  cases detail : change.detail with
  | create config version =>
      simp only [WorkloadStore.stageChange, detail] at ran
      obtain ⟨allowed, _, wasRead, checking⟩ := bind_eq_returned ran
      cases wasRead
      obtain ⟨_, _, required, inserting⟩ := bind_eq_returned checking
      obtain ⟨isInsertable, rfl⟩ := require_eq_returned required
      cases inserting
      simp only [WorkloadStore.insertable, Bool.and_eq_true] at isInsertable
      obtain ⟨⟨isCluster, _⟩, isFree⟩ := isInsertable
      refine ⟨rfl, .inr ⟨by simp [WorkloadChangeValidator.PlannedChange.creates, detail],
        isCluster, fun member => ?_, ?_⟩⟩
      · obtain ⟨row, rowMember, isPlace⟩ := List.mem_map.mp member
        injection isPlace with sameCluster sameNode sameRole
        simp only [Bool.not_eq_true', List.any_eq_false] at isFree
        exact isFree row rowMember (by simp [sameCluster, sameNode, sameRole])
      · simp [Database.placements, Database.addAssignment, WorkloadStore.createdRow,
          AssignmentRow.placement]
  | resources assignmentId revision config previous =>
      simp only [WorkloadStore.stageChange, detail] at ran
      obtain ⟨clusters, placements⟩ := claimed ran
      exact ⟨clusters, .inl placements⟩
  | detach assignmentId revision =>
      simp only [WorkloadStore.stageChange, detail] at ran
      obtain ⟨clusters, placements⟩ := claimed ran
      exact ⟨clusters, .inl placements⟩

/-- A new workload of a cluster leaves the others of the cluster clear. -/
theorem clear_append {rolePorts : Nat → RolePorts} {placements : List Placement}
    {added new : Placement} (clear : Clear rolePorts placements new)
    (sameCluster : added.clusterId = new.clusterId) :
    Clear rolePorts (placements ++ [added]) new := by
  intro old member sameNode otherCluster
  rcases List.mem_append.mp member with earlier | last
  · exact clear old earlier sameNode otherCluster
  · rw [List.mem_singleton.mp last] at otherCluster
    exact absurd sameCluster otherCluster

theorem Sound.stageBatchChanges {clusterId runId : Nat} {planned : List PlannedChange}
    {database : Database} {result : List StagedChange} (sound : world.Sound)
    (clear : ∀ change ∈ planned, WorkloadChangeValidator.PlannedChange.creates change →
      Clear world.rolePorts world.database.placements ⟨clusterId, change.nodeId, change.role⟩)
    (ran : (WorkloadStore.stageBatchChanges clusterId runId planned).run world.database =
      (.returned result, database)) :
    Sound { world with database := database } := by
  induction planned generalizing world result with
  | nil =>
      cases ran
      exact sound
  | cons change changes ih =>
      obtain ⟨first, between, firstRan, continued⟩ := bind_eq_returned ran
      obtain ⟨others, _, othersRan, ended⟩ := bind_eq_returned continued
      cases ended
      obtain ⟨clusters, placements | ⟨creates, isCluster, isNew, placements⟩⟩ :=
        stageChange_placements firstRan
      · have soundBetween : Sound { world with database := between } :=
          sound.fewer clusters (placements ▸ List.Sublist.refl _)
        have clearBetween : ∀ other ∈ changes,
            WorkloadChangeValidator.PlannedChange.creates other →
              Clear world.rolePorts between.placements
                ⟨clusterId, other.nodeId, other.role⟩ := by
          intro other member otherCreates
          rw [placements]
          exact clear other (List.mem_cons_of_mem _ member) otherCreates
        have staged := ih soundBetween clearBetween othersRan
        exact staged
      · have soundBetween : Sound { world with database := between } :=
          sound.add clusters placements isCluster isNew
            (clear change List.mem_cons_self creates)
        have clearBetween : ∀ other ∈ changes,
            WorkloadChangeValidator.PlannedChange.creates other →
              Clear world.rolePorts between.placements
                ⟨clusterId, other.nodeId, other.role⟩ := by
          intro other member otherCreates
          rw [placements]
          exact clear_append (clear other (List.mem_cons_of_mem _ member) otherCreates) rfl
        have staged := ih soundBetween clearBetween othersRan
        exact staged

theorem Sound.launchBatch (sound : world.Sound) (validator : WorkloadChangeValidator)
    (clusterId : Nat) (changeSet : WorkloadChangeSet) :
    (world.committed (launchBatch validator clusterId changeSet)).Sound := by
  refine sound.committed fun runId after ran => ?_
  obtain ⟨_, _, wasRead, launching⟩ := bind_eq_returned ran
  cases wasRead
  obtain ⟨_, launchRan, rfl⟩ := onDatabase_returned launching
  obtain ⟨⟨cluster, planned⟩, _, validateRan, afterValidate⟩ := bind_eq_returned launchRan
  obtain ⟨rfl, found, _, isPlan⟩ := WorkloadChangeValidator.validate_checked validateRan
  obtain ⟨identifier, started, startRan, afterStart⟩ := bind_eq_returned afterValidate
  obtain ⟨_, _, onlyRuns⟩ := startRun_returned startRan
  obtain ⟨outcome, between, stageRan, ended⟩ := bind_eq_returned afterStart
  cases outcome with
  | error error => cases ended
  | ok changes =>
      obtain ⟨_, _, createRan, finished⟩ := bind_eq_returned ended
      cases finished
      obtain ⟨added, _⟩ := createBatch_returned createRan
      have isId : cluster.id = clusterId := by simpa using List.find?_some found
      have placements : started.placements = world.database.placements := by
        rw [onlyRuns]
        rfl
      have soundStarted : Sound { world with database := started } := by
        refine sound.fewer ?_ (placements ▸ List.Sublist.refl _)
        rw [onlyRuns]
      have clear : ∀ change ∈ planned, WorkloadChangeValidator.PlannedChange.creates change →
          Clear world.rolePorts started.placements
            ⟨clusterId, change.nodeId, change.role⟩ := by
        intro change member creates
        rw [placements, ← isId]
        exact conflictMessage_none sound.clustered
          (validateChanges_unconflicted isPlan change member creates)
      have soundBetween : Sound { world with database := between } :=
        soundStarted.stageBatchChanges clear (attempt_eq_returned stageRan)
      rw [added]
      exact soundBetween

/-- Rows that are changed in place or dropped leave fewer placements. -/
theorem placements_sublist {settle : AssignmentRow → Option AssignmentRow}
    (same : ∀ row result, settle row = some result → result.placement = row.placement)
    (rows : List AssignmentRow) :
    ((rows.filterMap settle).map (·.placement)).Sublist (rows.map (·.placement)) := by
  induction rows with
  | nil => exact .slnil
  | cons row rows ih =>
      rw [List.filterMap_cons, List.map_cons]
      cases settles : settle row with
      | none => exact ih.cons _
      | some result =>
          simp only [List.map_cons, same row result settles]
          exact ih.cons_cons _

theorem Sound.settleBatch (sound : world.Sound) (runId : Nat) (finalized : Bool) :
    Sound { world with
      database := ClusterController.settleBatch runId finalized world.database } := by
  rw [ClusterController.settleBatch]
  split
  · exact sound
  · rename_i batch _
    split
    · rw [WorkloadStore.finalizeBatch_eq]
      refine sound.fewer rfl (placements_sublist (fun row result settles => ?_) _)
      rcases settleRow_cases settles with rfl | ⟨change, _, _, isFinal⟩
      · rfl
      · cases detail : change.detail <;>
          simp only [StagedChange.finalizedRow, detail, Option.some.injEq, reduceCtorEq] at isFinal <;>
          simp [← isFinal, AssignmentRow.placement]
    · rw [WorkloadStore.releaseBatch_eq]
      refine sound.fewer rfl (placements_sublist (fun row result settles => ?_) _)
      rcases settleRow_cases settles with rfl | ⟨change, _, _, isReleased⟩
      · rfl
      · rw [releasedRow_cases isReleased]
        rfl

/-! ### Every run -/

theorem Sound.perform (sound : world.Sound) (action : PortAction) :
    (world.perform action).Sound := by
  cases action with
  | createCluster slugify input => exact sound.createCluster slugify input
  | updateCluster policy clusterId input => exact sound.updateCluster policy clusterId input
  | addMember guards clusterId nodeId =>
      refine sound.committed fun _ after ran => ?_
      obtain ⟨_, routeRan, rfl⟩ := onDatabase_returned ran
      rw [InventoryRoutes.addMember_returned routeRan]
      exact sound
  | addAssignment guards clusterId nodeId role config =>
      exact sound.addAssignment guards clusterId nodeId role config
  | deleteAssignment assignmentId =>
      exact sound.fewer rfl (List.filter_sublist.map _)
  | launchBatch validator clusterId changeSet =>
      exact sound.launchBatch validator clusterId changeSet
  | settleBatch runId finalized => exact sound.settleBatch runId finalized

theorem Sound.performAll (sound : world.Sound) (actions : List PortAction) :
    (world.performAll actions).Sound := by
  induction actions generalizing world with
  | nil => exact sound
  | cons action actions ih => exact ih (sound.perform action)

/-- From a controller without workloads, no two workloads on one host ever have a port in
common. -/
theorem ports_disjoint (start : PortWorld) (idle : start.database.assignments = [])
    (actions : List PortAction) : (start.performAll actions).PortsDisjoint := by
  have sound : start.Sound := by
    rw [Sound, Database.placements, idle]
    exact .nil _ _
  exact (sound.performAll actions).portsDisjoint

end PortWorld

namespace PortSample

/-- The default ports of a cluster, moved up. -/
def profile (shift : Nat) (small : shift ≤ 10000) : PortProfile where
  port field := field.default + shift
  bounded field := by
    cases field <;> simp only [PortField.default] <;> omega
  unique := by
    simp [PortField.all, PortField.default]

/-- The Elasticsearch roles have ports next to each other. -/
def rolePorts (shift : Nat) : RolePorts := fun role =>
  let offset := (shift + role.deployOrder : Nat)
  role.portFields.map fun field =>
    (field.name, if role.elasticsearch then field.default + offset else field.default + shift)

def logs : ClusterInput where
  name := "logs"
  ports := profile 0 (by decide)
  rolePorts := ⟨rolePorts 0, by decide +kernel⟩

def metrics : ClusterInput where
  name := "metrics"
  ports := profile 1000 (by decide)
  rolePorts := ⟨rolePorts 1000, by decide +kernel⟩

/-- One host, and no cluster yet. -/
def start : PortWorld where
  database := { Database.empty with nodes := [⟨1, "alpha", true⟩] }
  stored _ := logs.stored

/-- Two clusters share the host; the second one may not take the ports of the first. -/
def actions : List PortAction :=
  [.createCluster id logs, .createCluster id metrics,
    .addMember FinalizerSample.guards 1 1, .addMember FinalizerSample.guards 2 1,
    .addAssignment FinalizerSample.guards 1 1 .master [],
    .addAssignment FinalizerSample.guards 2 1 .master [],
    .updateCluster ExclusionSample.policy 2 { logs with name := "metrics" }]

end PortSample

/-- Two masters on one host keep their ports apart. -/
theorem ports_disjoint_shared :
    (PortSample.start.performAll PortSample.actions).database.placements =
      [⟨1, 1, .master⟩, ⟨2, 1, .master⟩] ∧
    (PortSample.start.performAll PortSample.actions).database.assignments.map
      (PortSample.start.performAll PortSample.actions).portsOf = [[9200, 9300], [10200, 10300]] ∧
    (PortSample.start.performAll PortSample.actions).PortsDisjoint :=
  ⟨by decide +kernel, by decide +kernel,
    PortWorld.ports_disjoint PortSample.start rfl PortSample.actions⟩

end ElKeeper
