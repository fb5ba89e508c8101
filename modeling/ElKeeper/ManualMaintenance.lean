import ElKeeper.MaintenanceExecution

/-!
# Manual maintenance mode

`ManualMaintenanceService`: an operator takes a host into maintenance under a
plan, a run and a host lock of its own, and out of it again after a healthy
observation.
-/

namespace ElKeeper

namespace Database

def addPlan (row : PlanRecord) (database : Database) : Database :=
  { database with plans := database.plans ++ [row] }

end Database

namespace MaintenanceStore

open Program

/-- The content that the hash of a plan covers is the same. -/
def sameRequest (first second : PlanRecord) : Bool :=
  first.planHash = second.planHash && first.operationKind = second.operationKind &&
    first.targetNodeId = second.targetNodeId && first.targetClusterId = second.targetClusterId &&
    first.targetAssignmentId = second.targetAssignmentId &&
    first.observation = second.observation && first.targetManifest = second.targetManifest

/-- `create_plan` for a new active plan; `existing` is the plan with the same idempotency key. -/
def createPlan (existing : Option String) (record : PlanRecord) : Operation PlanRecord := do
  match existing with
  | some planId => do
      let plan ← getPlan planId
      require (sameRequest plan record)
        ⟨.idempotencyConflict,
          "Idempotency key was already used for a different maintenance plan"⟩
      pure plan
  | none => do
      let free ← read fun database =>
        (database.plan? record.id).isNone && !overlaps database record
      require free
        ⟨.overlappingPlan, "A conflicting active maintenance plan already exists"⟩
      update (Database.addPlan record)
      getPlan record.id

end MaintenanceStore

/-- The request of an operator, and the identifiers that are drawn for it. -/
structure ManualEntry where
  nodeId : Nat
  reason : String
  durationSeconds : Nat
  existing : Option String
  planId : String
  planHash : String
  ownerToken : String

/-- What an operator is told. -/
structure ManualResponse where
  nodeId : Nat
  state : HostMaintenanceState
  stateRevision : Option Nat := none
  planId : Option String := none
  runId : Option Nat := none
  expiresAt : Option Nat := none
  lifecycleState : Option MaintenanceState := none
  recoveryReason : Option String := none
deriving DecidableEq

namespace ManualMaintenanceService

open Program MaintenanceStore MaintenanceExecutionService

/-- The plan of a manual maintenance. -/
def manualPlan (entry : ManualEntry) (clusterIds : List Nat) (now : Nat) : PlanRecord where
  id := entry.planId
  runId := none
  operationKind := .manualMaintenance
  targetNodeId := some entry.nodeId
  targetClusterId := none
  targetAssignmentId := none
  observationMaxAgeSeconds := 120
  observation :=
    { capabilityRevision := none
      capturedAt := some now
      sources := [] }
  planHash := entry.planHash
  targetManifest :=
    { publicOperation := none
      assignmentRevisions := []
      policyRevisions := []
      affectedClusterIds := clusterIds
      postReturnExpectations := none }
  lifecycleState := .ready
  stateRevision := 1
  expiresAt := secondsAfter now entry.durationSeconds

/-- `_response`. -/
def response (host : HostStateRecord) (plan : PlanRecord) : ManualResponse where
  nodeId := host.nodeId
  state := host.state
  stateRevision := some host.stateRevision
  planId := some plan.id
  runId := plan.runId
  expiresAt := some plan.expiresAt
  lifecycleState := some plan.lifecycleState

/-- The writes of `enter`, inside its savepoint. -/
def enterHost (entry : ManualEntry) (node : NodeRow) (clusterIds : List Nat)
    (hostRevision now : Nat) : Operation ManualResponse := do
  let created ← createPlan entry.existing (manualPlan entry clusterIds now)
  let plan ← transitionPlan created.id created.stateRevision .executing
  let runId ← Runs.startRun "manual-maintenance" node.name
    [("maintenance_plan_id", .str plan.id), ("operation_kind", .str plan.operationKind.value),
      ("node_id", .num (entry.nodeId : Int))]
  attachRunId plan.id runId
  let _ ← acquireLocks [(.host, toString entry.nodeId)] plan.id (some runId)
    entry.durationSeconds none entry.ownerToken now
  let planning ← transitionHostState entry.nodeId hostRevision .planning (some plan.id)
  let active ← transitionHostState entry.nodeId planning.stateRevision .maintenance (some plan.id)
  let entered ← getPlan plan.id
  pure (response active entered)

/-- `enter`. -/
def enter (entry : ManualEntry) (now : Nat) : Operation ManualResponse := do
  require (!blank entry.reason) ⟨.valueError, "reason must not be blank"⟩
  require (60 ≤ entry.durationSeconds && entry.durationSeconds ≤ 604800)
    ⟨.valueError, "duration_seconds must be between 60 and 604800"⟩
  match ← read fun database => database.nodes.find? (·.id = entry.nodeId) with
  | none =>
      raise ⟨.recordNotFound, "Host " ++ toString entry.nodeId ++ " was not found"⟩
  | some node => do
      let state ← getHostState entry.nodeId
      match state.state, state.activePlanId with
      | .maintenance, some planId => do
          let plan ← getPlan planId
          pure (response state plan)
      | _, _ => do
          require (state.state = .available)
            ⟨.manualMaintenanceConflict, "Host is already in " ++ state.state.value ++ " state"⟩
          let observed ← read fun database =>
            MaintenanceConflicts.observeConflicts database entry.nodeId none none
          let conflicts ← ofExcept observed
          require (!conflicts)
            ⟨.manualMaintenanceConflict, "Host has conflicting maintenance operations"⟩
          let clusterIds ← read fun database =>
            (MaintenanceConflicts.hostScope database node).clusterIds
          atomically (enterHost entry node clusterIds state.stateRevision now)

/-- The run of a plan takes the state of its plan. -/
def settleRun (plan : PlanRecord) (status : RunStatus) : Operation Unit :=
  match plan.runId with
  | some runId => update (Database.setRunStatus runId status)
  | none => pure ()

/-- `_record_recovery`. -/
def recordRecovery (host : HostStateRecord) (plan : PlanRecord) (reason : String) :
    Operation ManualResponse := do
  let recovery ← transitionHostState host.nodeId host.stateRevision .recoveryRequired
    (some plan.id)
  let recovering ← transitionPlan plan.id plan.stateRevision .recoveryRequired
  settleRun plan .recoveryRequired
  pure { response recovery recovering with recoveryReason := some reason }

/-- The writes of `exit` after a healthy observation. -/
def leaveHost (host : HostStateRecord) (plan : PlanRecord) (ownerToken : String) (now : Nat) :
    Operation ManualResponse := do
  let _ ← releaseLocks ownerToken now
  let available ← transitionHostState host.nodeId host.stateRevision .available none
  let completed ← transitionPlan plan.id plan.stateRevision .succeeded
  settleRun plan .succeeded
  pure (response available completed)

/-- The part of `exit` for a host under its active plan. -/
def exitPlan (host : HostStateRecord) (plan : PlanRecord) (healthy : Bool) (now : Nat) :
    Operation ManualResponse :=
  if !healthy then
    recordRecovery host plan
      "Fresh healthy host observation is required before leaving manual maintenance mode"
  else do
    let locks ← read fun database => database.listActiveLocks plan.id
    if locks = [] then
      recordRecovery host plan "Manual maintenance lock is missing; rediscovery is required"
    else do
      match ← attempt (leaveHost host plan (firstToken locks) now) with
      | .ok left => pure left
      | .error error =>
          if error.kind = .revisionConflict ∨ error.kind = .staleLockRequiresRecovery then
            recordRecovery host plan error.message
          else raise error

/-- `exit`, given whether the host was observed healthy. -/
def exit (nodeId : Nat) (healthy : Bool) (now : Nat) : Operation ManualResponse := do
  let host ← getHostState nodeId
  if host.state = .available then
    pure { nodeId := nodeId, state := host.state }
  else
    match host.state, host.activePlanId with
    | .maintenance, some planId => do
        let plan ← getPlan planId
        exitPlan host plan healthy now
    | _, _ =>
        raise ⟨.manualMaintenanceRecoveryRequired,
          "Host is in " ++ host.state.value ++ "; rediscovery is required before exit"⟩

end ManualMaintenanceService

/-- The calls of the manual mode. -/
inductive ManualCall where
  | enter (entry : ManualEntry) (now : Nat)
  | exit (nodeId : Nat) (healthy : Bool) (now : Nat)

namespace ManualCall

def operation : ManualCall → Operation ManualResponse
  | enter entry now => ManualMaintenanceService.enter entry now
  | exit nodeId healthy now => ManualMaintenanceService.exit nodeId healthy now

/-- The host that a call is about. -/
def nodeId : ManualCall → Nat
  | enter entry _ => entry.nodeId
  | exit nodeId _ _ => nodeId

/-- A call on a connection of its own, which an exception rolls back. -/
def perform (call : ManualCall) (database : Database) : Option ManualResponse × Database :=
  match call.operation.run database with
  | (.returned response, after) => (some response, after)
  | (.raised _, _) | (.stopped, _) => (none, database)

end ManualCall

end ElKeeper
