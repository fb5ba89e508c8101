import ElKeeper.ResourceUpdates

/-!
# What the end of a run does to the inventory

`RunLifecycleService.finalize` acts on the identifiers in the context of the run:
a purge deletes its assignment, a failed resource update restores a configuration,
and a revoked controller key takes its host with it.  The checks were made when
the run was launched, and identifiers without `AUTOINCREMENT` come back.
-/

namespace ElKeeper

open Program

/-- The callbacks of the routes that change assignments, members and hosts. -/
structure RouteGuards where
  requireNoMaintenanceConflict : Database → Except Fault Unit
  requireClusterCapability : Database → (clusterId : Nat) → Except Fault Unit
  validateConfig : Role → Dict → Except Fault Unit
  conflictMessage : Database → (clusterId nodeId : Nat) → Role → Option String
  requireClusterHostZone : Database → (clusterId nodeId : Nat) → Except Fault Unit
  policy : PayloadPolicy

inductive RemovalMode where
  | detach
  | purge
deriving DecidableEq, Repr

inductive NodeDeletion where
  | revokeControllerKey
  | recordsOnly
  | plain
deriving DecidableEq, Repr

namespace Database

/-- The first master of a cluster by identifier. -/
def initialMaster? (database : Database) (clusterId : Nat) : Option Nat :=
  ((database.assignments.filter fun row =>
    row.clusterId = clusterId && row.role = .master).map (·.id)).min?

/-- `initial_master_has_dependents_in_connection`. -/
def initialMasterHasDependents (database : Database) (clusterId assignmentId : Nat) : Bool :=
  database.initialMaster? clusterId = some assignmentId &&
    database.assignments.any fun row => row.clusterId = clusterId && row.id ≠ assignmentId

/-- `has_membership`. -/
def hasMembership (database : Database) (nodeId : Nat) : Bool :=
  database.memberships.any (·.2 = nodeId)

/-- `delete_in_connection` of a host; memberships, assignments and states go with it. -/
def deleteNode (nodeId : Nat) (database : Database) : Database :=
  { database.dropAssignments (·.nodeId = nodeId) with
    nodes := database.nodes.filter (·.id ≠ nodeId)
    memberships := database.memberships.filter (·.2 ≠ nodeId)
    hostStates := database.hostStates.filter (·.nodeId ≠ nodeId) }

end Database

namespace InventoryRoutes

open WorkloadPayload

variable (guards : RouteGuards)

/-- The checks that every route on a cluster starts with. -/
def requireMutable (clusterId : Nat) : Operation Unit := do
  let idle ← read guards.requireNoMaintenanceConflict
  ofExcept idle
  let capable ← read fun database => guards.requireClusterCapability database clusterId
  ofExcept capable

/-- `add_assignment`. -/
def addAssignment (clusterId nodeId : Nat) (role : Role) (config : Dict) : Operation Nat := do
  ofExcept (guards.validateConfig role config)
  let _ ← ClusterOperation.clusterRecord clusterId
  requireMutable guards clusterId
  let member ← read fun database => database.memberships.any (· = (clusterId, nodeId))
  require member ⟨.http 422, "Add the host to this cluster first"⟩
  match ← read fun database => guards.conflictMessage database clusterId nodeId role with
  | some message => raise ⟨.http 409, message⟩
  | none => do
      match ← attempt (WorkloadStore.upsertAssignment clusterId nodeId role config) with
      | .ok assignmentId => pure assignmentId
      | .error _ => raise ⟨.http 409, "Assignment could not be created"⟩

/-- What `remove_assignment` passes to `launch` for a purge. -/
structure PurgeLaunch where
  target : String
  clusterId : Nat

/-- `remove_assignment`, up to its launch. -/
def removeAssignment (assignmentId : Nat) (mode : RemovalMode) :
    Operation (Option PurgeLaunch) := do
  let found ← read fun database => assignmentRecord database assignmentId
  let row ← ofExcept found
  requireMutable guards row.clusterId
  require row.operationRunId.isNone
    ⟨.http 409, "This workload is already part of an active change set"⟩
  let dependents ← read fun database =>
    row.role = .master && database.initialMasterHasDependents row.clusterId assignmentId
  require (!dependents)
    ⟨.http 409, "Detach or purge dependent cluster roles before removing the initial master"⟩
  match mode with
  | .detach => do
      update (WorkloadStore.deleteAssignment assignmentId)
      pure none
  | .purge => do
      let payload ← read fun database =>
        build guards.policy database row .purge [] fun _ => none
      let _ ← ofExcept payload
      let target ← read fun database =>
        ((database.cluster? row.clusterId).map (·.name)).getD "" ++ ":" ++
          ((database.nodes.find? (·.id = row.nodeId)).map (·.name)).getD "" ++ ":" ++
          row.role.text ++ ":purge"
      pure (some ⟨target, row.clusterId⟩)

/-- `add_member`. -/
def addMember (clusterId nodeId : Nat) : Operation Unit := do
  let _ ← ClusterOperation.clusterRecord clusterId
  requireMutable guards clusterId
  match ← read fun database => database.nodes.find? (·.id = nodeId) with
  | none => raise ⟨.http 404, "Node not found"⟩
  | some node => do
      require node.enabled ⟨.http 422, "Enable the node before adding it to a cluster"⟩
      let zoned ← read fun database => guards.requireClusterHostZone database clusterId nodeId
      ofExcept zoned
      let present ← read fun database => database.memberships.any (· = (clusterId, nodeId))
      require (!present) ⟨.http 409, "Host is already in this cluster"⟩
      update fun database =>
        { database with memberships := database.memberships ++ [(clusterId, nodeId)] }

/-- `remove_member`. -/
def removeMember (clusterId nodeId : Nat) : Operation Unit := do
  requireMutable guards clusterId
  let occupied ← read fun database =>
    database.assignments.any fun row => row.clusterId = clusterId && row.nodeId = nodeId
  require (!occupied) ⟨.http 409, "Detach or purge the host roles first"⟩
  update fun database =>
    { database with memberships := database.memberships.filter (· ≠ (clusterId, nodeId)) }

/-- `delete_node`, up to its launch; it answers with the host whose key is revoked. -/
def deleteNode (nodeId : Nat) (keyInstalled : Bool) (deletion : NodeDeletion) :
    Operation (Option NodeRow) := do
  match ← read fun database => database.nodes.find? (·.id = nodeId) with
  | none => raise ⟨.http 404, "Node not found"⟩
  | some node => do
      let idle ← read guards.requireNoMaintenanceConflict
      ofExcept idle
      let member ← read fun database => database.hasMembership nodeId
      require (!member)
        ⟨.http 409, "Remove this host from clusters before deleting its inventory record"⟩
      match deletion with
      | .revokeControllerKey => do
          require keyInstalled ⟨.http 409,
            "This host has no controller-owned SSH key available for revocation"⟩
          pure (some node)
      | .recordsOnly => do
          update (Database.deleteNode nodeId)
          pure none
      | .plain => do
          require (!keyInstalled) ⟨.http 409,
            "Choose controller key revocation or explicitly confirm records-only deletion"⟩
          update (Database.deleteNode nodeId)
          pure none

end InventoryRoutes

namespace RunLifecycle

/-- A truthy identifier of a context. -/
def contextId (context : Dict) (key : String) : Option Nat :=
  match context.get key with
  | some (.num value) => if value = 0 then none else some value.num.toNat
  | _ => none

/-- The controller-side effects of a successful run. -/
def applyResult (context : Dict) : Operation Unit := do
  forEach (contextId context "purge_assignment_id").toList fun assignmentId =>
    update (WorkloadStore.deleteAssignment assignmentId)
  forEach (contextId context "delete_node_after_revoke").toList fun nodeId =>
    update (Database.deleteNode nodeId)

/-- The transaction of `finalize`, apart from enrollment. -/
def finalize (runId : Nat) (succeeded : Bool) : Operation Unit := do
  let context ← ResourceUpdates.contextOf runId
  if succeeded then do
    applyResult context
    Runs.finishRun runId .succeeded
  else do
    ResourceUpdates.restorePrevious context
    Runs.finishRun runId .failed

end RunLifecycle

/-! ### The controller -/

/-- What a run was launched for: an assignment, with the number of rows that its identifier
had named by then, or a host. -/
inductive RunSubject where
  | purge (assignmentId incarnation : Nat)
  | resources (assignmentId incarnation : Nat)
  | revocation (nodeId : Nat)
deriving DecidableEq, Repr

/-- The assignment of a subject. -/
def RunSubject.assignment? : RunSubject → Option (Nat × Nat)
  | purge assignmentId incarnation | resources assignmentId incarnation =>
      some (assignmentId, incarnation)
  | revocation _ => none

structure RunLaunch where
  runId : Nat
  subject : RunSubject
deriving DecidableEq, Repr

/-- The durable database, the runs whose tasks are alive, what they were launched for, and how
many rows each identifier has named. -/
structure InventoryController where
  database : Database
  live : List Nat
  launches : List RunLaunch
  incarnations : Nat → Nat

inductive InventoryAction where
  | addAssignment (guards : RouteGuards) (clusterId nodeId : Nat) (role : Role) (config : Dict)
  | removeAssignment (guards : RouteGuards) (assignmentId : Nat) (mode : RemovalMode)
  | updateResources (guards : ResourceGuards) (assignmentId : Nat) (input : ResourceInput)
  | addMember (guards : RouteGuards) (clusterId nodeId : Nat)
  | removeMember (guards : RouteGuards) (clusterId nodeId : Nat)
  | deleteNode (guards : RouteGuards) (nodeId : Nat) (keyInstalled : Bool)
      (deletion : NodeDeletion)
  | complete (runId : Nat) (succeeded : Bool)

namespace InventoryController

/-- `launch`: the run is created, and its task starts. -/
def launch (kind target : String) (context : Dict) (subject : RunSubject)
    (controller : InventoryController) : InventoryController :=
  match (Runs.startRun kind target context).run controller.database with
  | (.returned runId, database) =>
      { controller with
        database := database
        live := runId :: controller.live
        launches := controller.launches ++ [⟨runId, subject⟩] }
  | _ => controller

/-- A request without a launch. -/
def request {α : Type} (operation : Operation α) (controller : InventoryController) :
    InventoryController :=
  { controller with database := ResourceController.committed operation controller.database }

/-- `add_assignment`; a row that is inserted is a new one under its identifier. -/
def addAssignment (guards : RouteGuards) (clusterId nodeId : Nat) (role : Role) (config : Dict)
    (controller : InventoryController) : InventoryController :=
  match (InventoryRoutes.addAssignment guards clusterId nodeId role config).run
      controller.database with
  | (.returned assignmentId, database) =>
      { controller with
        database := database
        incarnations := fun identifier =>
          if identifier = assignmentId ∧ controller.database.assignment? assignmentId = none then
            controller.incarnations identifier + 1
          else controller.incarnations identifier }
  | _ => controller

/-- `remove_assignment`. -/
def removeAssignment (guards : RouteGuards) (assignmentId : Nat) (mode : RemovalMode)
    (controller : InventoryController) : InventoryController :=
  match (InventoryRoutes.removeAssignment guards assignmentId mode).run controller.database with
  | (.returned none, database) => { controller with database := database }
  | (.returned (some purge), _) =>
      controller.launch "purge" purge.target
        [("purge_assignment_id", .num (assignmentId : Int)),
          ("filebeat_reconcile_cluster_id", .num (purge.clusterId : Int))]
        (.purge assignmentId (controller.incarnations assignmentId))
  | _ => controller

/-- `update_resources`. -/
def updateResources (guards : ResourceGuards) (assignmentId : Nat) (input : ResourceInput)
    (controller : InventoryController) : InventoryController :=
  match (ResourceUpdates.updateResources guards assignmentId input).run controller.database with
  | (.returned update, stored) =>
      { controller with database := stored }.launch "resource-update" update.target
        (ResourceUpdates.resourceContext assignmentId update)
        (.resources assignmentId (controller.incarnations assignmentId))
  | _ => controller

/-- `delete_node`. -/
def deleteNode (guards : RouteGuards) (nodeId : Nat) (keyInstalled : Bool)
    (deletion : NodeDeletion) (controller : InventoryController) : InventoryController :=
  match (InventoryRoutes.deleteNode guards nodeId keyInstalled deletion).run
      controller.database with
  | (.returned none, database) => { controller with database := database }
  | (.returned (some node), _) =>
      controller.launch "host-key-revoke" node.name
        [("delete_node_after_revoke", .num (nodeId : Int))] (.revocation nodeId)
  | _ => controller

/-- The durable database after the transaction of `finalize`. -/
def finalized (controller : InventoryController) (runId : Nat) (succeeded : Bool) : Database :=
  ResourceController.committed (RunLifecycle.finalize runId succeeded) controller.database

/-- The companion launch of a successful run. -/
def reconcileCompanions (runId : Nat) (succeeded : Bool) (database : Database) : Database :=
  if succeeded then
    match (database.run? runId).bind fun run =>
        RunLifecycle.contextId run.context "filebeat_reconcile_cluster_id" with
    | some clusterId =>
        ResourceController.committed (ClusterOperation.launchFilebeat clusterId none) database
    | none => database
  else database

/-- The end of a task. -/
def complete (runId : Nat) (succeeded : Bool) (controller : InventoryController) :
    InventoryController :=
  if runId ∈ controller.live then
    { controller with
      database := reconcileCompanions runId succeeded (controller.finalized runId succeeded)
      live := controller.live.filter (· ≠ runId) }
  else controller

def perform (controller : InventoryController) : InventoryAction → InventoryController
  | .addAssignment guards clusterId nodeId role config =>
      controller.addAssignment guards clusterId nodeId role config
  | .removeAssignment guards assignmentId mode =>
      controller.removeAssignment guards assignmentId mode
  | .updateResources guards assignmentId input =>
      controller.updateResources guards assignmentId input
  | .addMember guards clusterId nodeId =>
      controller.request (InventoryRoutes.addMember guards clusterId nodeId)
  | .removeMember guards clusterId nodeId =>
      controller.request (InventoryRoutes.removeMember guards clusterId nodeId)
  | .deleteNode guards nodeId keyInstalled deletion =>
      controller.deleteNode guards nodeId keyInstalled deletion
  | .complete runId succeeded => controller.complete runId succeeded

def performAll (controller : InventoryController) (actions : List InventoryAction) :
    InventoryController :=
  actions.foldl perform controller

/-- A launch whose run has not ended. -/
def Unfinished (controller : InventoryController) (launch : RunLaunch) : Prop :=
  launch ∈ controller.launches ∧ launch.runId ∈ controller.live

/-- The end of a run touched only what the run was launched for: a row that is gone or changed
is the one of the launch, an initial master went only when it was alone in its cluster, and a
host only when it had neither memberships nor assignments. -/
structure TouchesOwn (controller : InventoryController) (runId : Nat) (after : Database) :
    Prop where
  assignments : ∀ row ∈ controller.database.assignments, row ∉ after.assignments →
    ∃ launch ∈ controller.launches, launch.runId = runId ∧
      launch.subject.assignment? = some (row.id, controller.incarnations row.id)
  masters : ∀ row ∈ controller.database.assignments, row.id ∉ after.assignments.map (·.id) →
    controller.database.initialMaster? row.clusterId = some row.id →
    ∀ other ∈ controller.database.assignments, other.clusterId = row.clusterId →
      other.id = row.id
  hosts : ∀ node ∈ controller.database.nodes, node ∉ after.nodes →
    controller.database.hasMembership node.id = false ∧
      ∀ row ∈ controller.database.assignments, row.nodeId ≠ node.id

/-- A new assignment disturbs no unfinished run: none names its identifier, and none purges the
initial master of its cluster. -/
def Unnoticed (controller : InventoryController) (clusterId : Nat) : Prop :=
  ∀ launch, controller.Unfinished launch →
    (∀ incarnation, launch.subject.assignment? ≠
      some (Database.nextId (controller.database.assignments.map (·.id)), incarnation)) ∧
    ∀ assignmentId incarnation, launch.subject = .purge assignmentId incarnation →
      controller.database.initialMaster? clusterId ≠ some assignmentId

/-- No action disturbs an unfinished run: a row is inserted only unnoticed, and a host whose
key is being revoked does not join a cluster. -/
def Undisturbing (controller : InventoryController) : InventoryAction → Prop
  | .addAssignment _ clusterId nodeId role _ =>
      controller.database.assignments.find? (WorkloadStore.sitsAt clusterId nodeId role) = none →
        controller.Unnoticed clusterId
  | .addMember _ _ nodeId =>
      ∀ launch, controller.Unfinished launch → launch.subject ≠ .revocation nodeId
  | _ => True

/-- Every action meets its condition where it is performed. -/
def EachUndisturbing : InventoryController → List InventoryAction → Prop
  | _, [] => True
  | controller, action :: actions =>
      controller.Undisturbing action ∧ EachUndisturbing (controller.perform action) actions

end InventoryController

/-- Primary keys, and every assignment is on a member of its cluster. -/
structure Database.InventorySound (database : Database) : Prop where
  assignment_ids : (database.assignments.map (·.id)).Nodup
  housed : ∀ row ∈ database.assignments, (row.clusterId, row.nodeId) ∈ database.memberships

/-! ### Initial masters -/

namespace Database

theorem initialMaster?_eq_some {database : Database} {clusterId assignmentId : Nat} :
    database.initialMaster? clusterId = some assignmentId ↔
      (∃ row ∈ database.assignments, row.clusterId = clusterId ∧ row.role = .master ∧
        row.id = assignmentId) ∧
      ∀ row ∈ database.assignments, row.clusterId = clusterId → row.role = .master →
        assignmentId ≤ row.id := by
  rw [initialMaster?, List.min?_eq_some_iff]
  simp only [List.mem_map, List.mem_filter, Bool.and_eq_true, decide_eq_true_eq]
  constructor
  · rintro ⟨⟨row, ⟨member, inCluster, isMaster⟩, isRow⟩, least⟩
    refine ⟨⟨row, member, inCluster, isMaster, isRow⟩, fun other otherMember otherCluster otherMaster => ?_⟩
    exact least _ ⟨other, ⟨otherMember, otherCluster, otherMaster⟩, rfl⟩
  · rintro ⟨⟨row, member, inCluster, isMaster, isRow⟩, least⟩
    refine ⟨⟨row, ⟨member, inCluster, isMaster⟩, isRow⟩, ?_⟩
    rintro _ ⟨other, ⟨otherMember, otherCluster, otherMaster⟩, rfl⟩
    exact least other otherMember otherCluster otherMaster

/-- An assignment that is the initial master of its cluster is alone there. -/
def Removable (database : Database) (assignmentId : Nat) : Prop :=
  ∀ row ∈ database.assignments, row.id = assignmentId →
    database.initialMaster? row.clusterId = some assignmentId →
    ∀ other ∈ database.assignments, other.clusterId = row.clusterId → other.id = assignmentId

/-- A master of a cluster is the initial one, or another one comes before it. -/
theorem initialMaster?_of_master {database : Database} {row : AssignmentRow}
    (member : row ∈ database.assignments) (isMaster : row.role = .master) :
    ∃ first, database.initialMaster? row.clusterId = some first ∧ first ≤ row.id := by
  cases found : database.initialMaster? row.clusterId with
  | none =>
      simp only [initialMaster?, List.min?_eq_none_iff, List.map_eq_nil_iff,
        List.filter_eq_nil_iff] at found
      exact absurd (found row member) (by simp [isMaster])
  | some first =>
      exact ⟨first, rfl, (initialMaster?_eq_some.mp found).2 row member rfl isMaster⟩

/-- The rows are the same apart from what does not matter for masters. -/
theorem Removable.of_map {before after : Database} {assignmentId : Nat}
    (removable : before.Removable assignmentId) {change : AssignmentRow → AssignmentRow}
    (changed : after.assignments = before.assignments.map change)
    (same : ∀ row, (change row).id = row.id ∧ (change row).clusterId = row.clusterId ∧
      (change row).role = row.role) : after.Removable assignmentId := by
  have sameMaster : ∀ clusterId, after.initialMaster? clusterId = before.initialMaster? clusterId := by
    intro clusterId
    simp only [initialMaster?, changed, List.filter_map, List.map_map, Function.comp_def,
      fun row => (same row).1, fun row => (same row).2.1, fun row => (same row).2.2]
  intro row member isRow initial other otherMember sameCluster
  rw [changed] at member otherMember
  obtain ⟨source, sourceMember, rfl⟩ := List.mem_map.mp member
  obtain ⟨otherSource, otherSourceMember, rfl⟩ := List.mem_map.mp otherMember
  rw [(same _).1] at isRow ⊢
  rw [(same _).2.1, (same _).2.1] at sameCluster
  rw [(same _).2.1, sameMaster] at initial
  exact removable source sourceMember isRow initial otherSource otherSourceMember sameCluster

/-- Removing an assignment that may be removed keeps the others removable. -/
theorem Removable.delete {database : Database} {removed assignmentId : Nat}
    (removable : database.Removable assignmentId) (allowed : database.Removable removed) :
    (WorkloadStore.deleteAssignment removed database).Removable assignmentId := by
  have kept : ∀ row, row ∈ (WorkloadStore.deleteAssignment removed database).assignments ↔
      row ∈ database.assignments ∧ row.id ≠ removed := by
    intro row
    simp [WorkloadStore.deleteAssignment, dropAssignments]
  intro row member isRow initial other otherMember sameCluster
  obtain ⟨rowBefore, rowStays⟩ := (kept row).mp member
  obtain ⟨otherBefore, _⟩ := (kept other).mp otherMember
  obtain ⟨⟨master, masterMember, masterCluster, isMaster, isId⟩, least⟩ :=
    initialMaster?_eq_some.mp initial
  obtain ⟨masterBefore, _⟩ := (kept master).mp masterMember
  obtain ⟨first, isFirst, firstLe⟩ := initialMaster?_of_master masterBefore isMaster
  rw [masterCluster] at isFirst
  by_cases unchanged : first = assignmentId
  · rw [unchanged] at isFirst
    exact removable row rowBefore isRow isFirst other otherBefore sameCluster
  · -- The initial master was the removed one, which was not alone.
    obtain ⟨⟨firstRow, firstMember, firstCluster, firstMaster, isFirstRow⟩, _⟩ :=
      initialMaster?_eq_some.mp isFirst
    have isRemoved : first = removed := by
      by_contra stays
      have after := least firstRow ((kept firstRow).mpr ⟨firstMember, by rw [isFirstRow]; exact stays⟩)
        firstCluster firstMaster
      omega
    have alone := allowed firstRow firstMember (isFirstRow.trans isRemoved)
      (by rw [firstCluster, isFirst, isRemoved]) row rowBefore firstCluster.symm
    exact absurd alone rowStays

/-- A new row keeps the others removable unless it joins the initial master. -/
theorem Removable.add {database : Database} {added : AssignmentRow} {assignmentId : Nat}
    (removable : database.Removable assignmentId)
    (fresh : ∀ row ∈ database.assignments, row.id < added.id)
    (apart : database.initialMaster? added.clusterId ≠ some assignmentId)
    (other : added.id ≠ assignmentId) :
    (database.addAssignment added).Removable assignmentId := by
  intro row member isRow initial sibling siblingMember sameCluster
  simp only [addAssignment, List.mem_append, List.mem_singleton] at member siblingMember
  rcases member with rowBefore | rfl
  · have before : database.initialMaster? row.clusterId = some assignmentId := by
      obtain ⟨⟨master, masterMember, masterCluster, isMaster, isId⟩, least⟩ :=
        initialMaster?_eq_some.mp initial
      simp only [addAssignment, List.mem_append, List.mem_singleton] at masterMember least
      rcases masterMember with masterBefore | rfl
      · exact initialMaster?_eq_some.mpr ⟨⟨master, masterBefore, masterCluster, isMaster, isId⟩,
          fun other otherMember => least other (.inl otherMember)⟩
      · exact absurd isId other
    rcases siblingMember with siblingBefore | rfl
    · exact removable row rowBefore isRow before sibling siblingBefore sameCluster
    · rw [← sameCluster] at before
      exact absurd before apart
  · exact absurd isRow other

end Database

end ElKeeper
