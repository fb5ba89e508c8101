import ElKeeper.StartupRecovery
import ElKeeper.WorkloadPayload

/-!
# Resource updates

`PUT /api/assignments/{id}/resources` stores the merged configuration at once and
launches a run.  When the run fails, the configuration that its context holds is
written back; a restart fails the run without that.
-/

namespace ElKeeper

/-- `ResourceInput`. -/
structure ResourceInput where
  cpu : String
  memory : String
  storagePath : String
  jvmHeap : Option String
  nodeHeap : Option String
  cpu_bounds : 1 ≤ cpu.length ∧ cpu.length ≤ 32
  memory_bounds : 2 ≤ memory.length ∧ memory.length ≤ 32
  storagePath_bounds : 2 ≤ storagePath.length ∧ storagePath.length ≤ 512
  jvmHeap_bound : ∀ heap, jvmHeap = some heap → heap.length ≤ 32
  nodeHeap_bound : ∀ heap, nodeHeap = some heap → heap.length ≤ 32

/-- `model_dump(exclude_none=True)`. -/
def ResourceInput.update (input : ResourceInput) : Dict :=
  [("cpu", .str input.cpu), ("memory", .str input.memory),
      ("storage_path", .str input.storagePath)] ++
    (input.jvmHeap.map fun heap => ("jvm_heap", Json.str heap)).toList ++
    (input.nodeHeap.map fun heap => ("node_heap", Json.str heap)).toList

/-- The checks of the route and the callbacks of the payload that it builds. -/
structure ResourceGuards where
  requireNoMaintenanceConflict : Database → (assignmentId : Nat) → Except Fault Unit
  requireClusterCapability : Database → (clusterId : Nat) → Except Fault Unit
  requireReadyMembership : AssignmentRow → Except Fault Unit
  validateConfig : Role → Dict → Except Fault Unit
  policy : PayloadPolicy

/-- What the route passes to `launch`. -/
structure ResourceLaunch where
  target : String
  clusterId : Nat
  previous : Dict

namespace ResourceUpdates

open Program WorkloadPayload

/-- Store a configuration on one row. -/
def writeConfig (assignmentId : Nat) (config : Dict) (database : Database) : Database :=
  database.mapAssignments fun row =>
    if row.id = assignmentId then { row with config := sealConfig config } else row

/-- The target of a run for an assignment. -/
def resourceTarget (database : Database) (row : AssignmentRow) : String :=
  let clusterName := ((database.cluster? row.clusterId).map (·.name)).getD ""
  let nodeName := ((database.nodes.find? (·.id = row.nodeId)).map (·.name)).getD ""
  clusterName ++ ":" ++ nodeName ++ ":" ++ row.role.text ++ ":resources"

/-- The transaction of `update_resources`. -/
def updateResources (guards : ResourceGuards) (assignmentId : Nat) (input : ResourceInput) :
    Operation ResourceLaunch := do
  let found ← read fun database => assignmentRecord database assignmentId
  let row ← ofExcept found
  let idle ← read fun database => guards.requireNoMaintenanceConflict database assignmentId
  ofExcept idle
  let capable ← read fun database => guards.requireClusterCapability database row.clusterId
  ofExcept capable
  require row.operationRunId.isNone
    ⟨.http 409, "This workload is already part of an active change set"⟩
  ofExcept (guards.requireReadyMembership row)
  let previous := openConfig row.config
  let config := previous.merge input.update
  ofExcept (guards.validateConfig row.role config)
  update (writeConfig assignmentId config)
  let refound ← read fun database => assignmentRecord database assignmentId
  let stored ← ofExcept refound
  let payload ← read fun database =>
    build guards.policy database stored .present [] fun _ => none
  let _ ← ofExcept payload
  read fun database =>
    { target := resourceTarget database stored
      clusterId := stored.clusterId
      previous := previous }

/-- The context with which the run is launched. -/
def resourceContext (assignmentId : Nat) (launch : ResourceLaunch) : Dict :=
  [("rollback_assignment_id", .num (assignmentId : Int)),
    ("previous_config", .obj launch.previous),
    ("filebeat_reconcile_cluster_id", .num (launch.clusterId : Int))]

/-- The first transaction of `launch`. -/
def createResourceRun (assignmentId : Nat) (launch : ResourceLaunch) : Operation Nat :=
  Runs.createRun "resource-update" launch.target (resourceContext assignmentId launch)

/-- `context.get("rollback_assignment_id")` when it is truthy. -/
def rollbackAssignment (context : Dict) : Option Nat :=
  match context.get "rollback_assignment_id" with
  | some (.num value) => if value = 0 then none else some value.num.toNat
  | _ => none

/-- `context["previous_config"]`. -/
def previousConfig (context : Dict) : Except Fault Dict :=
  match context.get "previous_config" with
  | some (.obj config) => .ok config
  | _ => .error ⟨.keyError, "previous_config"⟩

/-- `context_and_log_in_connection`. -/
def contextOf (runId : Nat) : Operation Dict := do
  match ← read fun database => database.run? runId with
  | some run => pure run.context
  | none => raise ⟨.keyError, toString runId⟩

/-- The restoring part of `finalize`. -/
def restorePrevious (context : Dict) : Operation Unit :=
  match rollbackAssignment context with
  | none => pure ()
  | some assignmentId => do
      let previous ← ofExcept (previousConfig context)
      update (writeConfig assignmentId previous)

/-- The transaction of `finalize` for the run of a resource update. -/
def finalizeRun (runId : Nat) (succeeded : Bool) : Operation Unit := do
  let context ← contextOf runId
  if succeeded then
    Runs.finishRun runId .succeeded
  else do
    restorePrevious context
    Runs.finishRun runId .failed

end ResourceUpdates

/-! ### The controller -/

/-- An accepted request whose run was created, with the configuration that it found. -/
structure ResourceRequest where
  runId : Nat
  update : Dict
  previous : Dict
deriving DecidableEq

/-- The durable database, the runs whose tasks are alive, and the history of requests. -/
structure ResourceController where
  database : Database
  scheduled : List Nat
  requests : List ResourceRequest

/-- How far a request gets.  A request may be cut off after its own transaction or after
the run was created, by an exception or because the process stops. -/
inductive RequestStage where
  | configurationStored
  | runCreated
  | scheduled
deriving DecidableEq

inductive ResourceAction where
  | put (guards : ResourceGuards) (input : ResourceInput) (stage : RequestStage)
  | complete (runId : Nat) (succeeded : Bool)
  | restart (projections : StartupRecovery.Projections)

namespace ResourceController

open Program

/-- Commit what an operation returned; a raised exception loses its writes. -/
def committed {α : Type} (operation : Operation α) (database : Database) : Database :=
  match operation.run database with
  | (.returned _, after) => after
  | _ => database

/-- `launch`, after the configuration was stored. -/
def launchRun (assignmentId : Nat) (input : ResourceInput) (launch : ResourceLaunch)
    (stage : RequestStage) (controller : ResourceController) : ResourceController :=
  match (ResourceUpdates.createResourceRun assignmentId launch).run controller.database with
  | (.returned runId, created) =>
      let requests := controller.requests ++ [⟨runId, input.update, launch.previous⟩]
      if stage = .scheduled then
        { database := created.setRunStatus runId .running
          scheduled := runId :: controller.scheduled
          requests := requests }
      else
        { controller with database := created, requests := requests }
  | _ => controller

/-- `PUT /api/assignments/{assignment_id}/resources`. -/
def put (assignmentId : Nat) (guards : ResourceGuards) (input : ResourceInput)
    (stage : RequestStage) (controller : ResourceController) : ResourceController :=
  match (ResourceUpdates.updateResources guards assignmentId input).run controller.database with
  | (.returned launch, stored) =>
      let changed := { controller with database := stored }
      if stage = .configurationStored then changed
      else launchRun assignmentId input launch stage changed
  | _ => controller

/-- The end of a task, followed by the companion launch of a successful run. -/
def complete (runId : Nat) (succeeded : Bool) (controller : ResourceController) :
    ResourceController :=
  if runId ∈ controller.scheduled then
    let finalized := committed (ResourceUpdates.finalizeRun runId succeeded) controller.database
    let companion := if succeeded then
        match (finalized.run? runId).bind (·.context.get "filebeat_reconcile_cluster_id") with
        | some (.num clusterId) =>
            committed (ClusterOperation.launchFilebeat clusterId.num.toNat none) finalized
        | _ => finalized
      else finalized
    { controller with
      database := companion
      scheduled := controller.scheduled.filter (· ≠ runId) }
  else controller

/-- A new process: the tasks are gone. -/
def restart (projections : StartupRecovery.Projections) (controller : ResourceController) :
    ResourceController :=
  { controller with
    database := committed (StartupRecovery.completeControllerBootstrap projections)
      controller.database
    scheduled := [] }

/-- One action on an assignment. -/
def perform (assignmentId : Nat) (controller : ResourceController) :
    ResourceAction → ResourceController
  | .put guards input stage => controller.put assignmentId guards input stage
  | .complete runId succeeded => controller.complete runId succeeded
  | .restart projections => controller.restart projections

/-- Actions one after the other. -/
def performAll (assignmentId : Nat) (controller : ResourceController)
    (actions : List ResourceAction) : ResourceController :=
  actions.foldl (fun reached action => reached.perform assignmentId action) controller

end ResourceController

end ElKeeper
