import ElKeeper.HostMaintenance

/-!
# The container-maintenance workflow

`ContainerMaintenanceService`: one selected workload is prepared, stopped and
returned to service under its own plan.  The connection and the durable
boundaries are those of the host workflow.
-/

namespace ElKeeper

/-- The adapters, clocks and drawn tokens of one container-maintenance action. -/
structure ContainerMaintenanceService where
  execution : MaintenanceExecutionService
  clock : History → Nat
  drawnToken : String
  stop : ManagedContainerTarget → History → Except Fault Bool
  start : ManagedContainerTarget → History → Except Fault Bool
  ready : ManagedContainerTarget → History → Except Fault Bool
  guards : Option AllocationGuardGateway

namespace ContainerMaintenanceService

open Program MaintenanceStore
open HostMaintenanceService (tolerated)

/-- `raise ContainerMaintenanceError`. -/
def blocked (message : String) : Fault :=
  ⟨.containerMaintenanceBlocked, message⟩

/-- `_plan_and_target`. -/
def planAndTarget (planId : String) : Operation (PlanRecord × ManagedContainerTarget) := do
  let plan ← getPlan planId
  require (plan.operationKind = .workloadRestart)
    (blocked "Maintenance plan is not a container-maintenance plan")
  require (plan.targetManifest.publicOperation = some "container_maintenance")
    (blocked "Maintenance plan was not previewed for container maintenance")
  match plan.targetAssignmentId with
  | none => raise (blocked "Maintenance plan has no selected workload assignment")
  | some assignmentId => do
      let resolved ← read fun database => resolveManagedContainerTarget database assignmentId
      let target ← ofExcept resolved
      require (target.assignmentId = assignmentId &&
          plan.targetClusterId = some target.clusterId && plan.targetNodeId = some target.nodeId)
        (blocked "Selected workload identity no longer matches the maintenance plan")
      pure (plan, target)

/-- `_claim_target`. -/
def claimTarget (plan : PlanRecord) (target : ManagedContainerTarget) (runId : Nat) :
    Operation Unit := do
  match plan.targetManifest.assignmentRevisions.lookup target.assignmentId with
  | none => raise (blocked "Maintenance plan has no valid selected workload revision")
  | some expected => do
      require (1 ≤ expected)
        (blocked "Maintenance plan has no valid selected workload revision")
      let claimed ← WorkloadStore.claimAssignmentOperation target.assignmentId expected runId
      require claimed
        (blocked "Selected workload changed or is already claimed by another operation")

/-- `_require_assignment_state`. -/
def requireAssignmentState (plan : PlanRecord) (target : ManagedContainerTarget)
    (expected : MaintenanceWorkflowState) : Operation AssignmentStateRecord := do
  let state ← getAssignmentState target.assignmentId
  require (state.workflowState = expected && state.activePlanId = some plan.id)
    (blocked ("Container maintenance action is not available while the workload is " ++
      state.workflowState.value))
  pure state

/-- `_transition_assignment` of the selected workload. -/
def transitionAssignment (plan : PlanRecord) (target : ManagedContainerTarget)
    (state : MaintenanceWorkflowState) : Operation AssignmentStateRecord := do
  let current ← getAssignmentState target.assignmentId
  transitionAssignmentState target.assignmentId current.stateRevision state (some plan.id)

/-- `_ticket`. -/
def ticketFor (plan : PlanRecord) : Operation MaintenanceActionTicket := do
  match plan.runId with
  | none => raise (blocked "Maintenance plan has no active run")
  | some runId => do
      let locks ← read fun database => database.listActiveLocks plan.id
      require (locks ≠ []) (blocked "Maintenance plan no longer owns its locks")
      pure
        { planId := plan.id
          runId := runId
          action := .execute
          operationKind := plan.operationKind
          planHash := plan.planHash }

/-! ### The journal -/

/-- The step of `_step`. -/
def stepContent (target : ManagedContainerTarget) (step : ContainerStep) : StepContent where
  key := .container step
  sequence := step.sequence
  affectedClusterId := some target.clusterId
  affectedAssignmentId := some target.assignmentId
  affectedNodeId := some target.nodeId

/-- A step that was just created is taken into execution. -/
def beginStep (plan : PlanRecord) (target : ManagedContainerTarget) (step : ContainerStep) :
    Operation StepRecord := do
  let created ← createStep plan.id (stepContent target step)
  if created.state = .pending then
    transitionStep created.id created.stateRevision .executing
  else pure created

/-- `_record_started_step`. -/
def recordStartedStep (plan : PlanRecord) (target : ManagedContainerTarget)
    (step : ContainerStep) : Operation Unit := do
  let begun ← beginStep plan target step
  let _ ← recordCheckpoint plan.id
    { key := .containerIntent step
      sequence := step.sequence
      sideEffectState := .mayHaveStarted
      payload := .containerStep target.assignmentId target.unit
      stepId := some begun.id }
  pure ()

/-- `_record_verified_step`. -/
def recordVerifiedStep (plan : PlanRecord) (target : ManagedContainerTarget)
    (step : ContainerStep) (observation : Dict) : Operation Unit := do
  let begun ← beginStep plan target step
  if begun.state = .executing then
    let _ ← transitionStep begun.id begun.stateRevision .verified
  let _ ← recordCheckpoint plan.id
    { key := .containerVerified step
      sequence := step.sequence + 1
      sideEffectState := .verified
      payload := .containerStep target.assignmentId target.unit
      stepId := some begun.id
      observation := .obj observation }
  pure ()

/-! ### Actions -/

section Actions

variable (service : ContainerMaintenanceService)

/-- `_recover`. -/
def recover (plan : PlanRecord) (target : ManagedContainerTarget)
    (ticket : MaintenanceActionTicket) : Action Unit := do
  let state ← store (getAssignmentState target.assignmentId)
  if state.activePlanId = some plan.id ∧ state.workflowState ≠ .recoveryRequired then
    tolerated (transitionAssignmentState target.assignmentId state.stateRevision
      .recoveryRequired (some plan.id))
  let current ← store (getPlan plan.id)
  if current.lifecycleState = .executing ∨ current.lifecycleState = .ready then
    tolerated (service.execution.fail ticket)
  else pure ()

/-- `_require_confirmation` of an adapter call. -/
def confirmed (call : Action Bool) (action : String) : Action Unit := do
  let answer ← call
  require answer (blocked ("Container " ++ action ++ " was not confirmed"))

/-- The clock reading of the execution service. -/
def now : Action Nat :=
  Program.read fun world => service.clock world.trace

/-- The guard of the service, for a target that holds data. -/
def withGuard (target : ManagedContainerTarget) (use : AllocationGuardGateway → Action Unit) :
    Action Unit :=
  if target.dataBearing then
    match service.guards with
    | some gateway => use gateway
    | none => raise ⟨.runtimeError, "assertion failed"⟩
  else pure ()

/-- The body of `prepare` under its ticket. -/
def prepareContainer (plan : PlanRecord) (target : ManagedContainerTarget)
    (ticket : MaintenanceActionTicket) : Action AssignmentStateRecord := do
  let preparing ← store (transitionAssignment plan target .preparing)
  store (claimTarget plan target ticket.runId)
  store (recordVerifiedStep plan target .prepare [("run_id", .num (ticket.runId : Int))])
  withGuard service target fun gateway => do
    commit
    AllocationGuardService.capture gateway plan.id target.clusterId
    commit
    AllocationGuardService.activate gateway plan.id target.clusterId
  store (transitionAssignmentState target.assignmentId preparing.stateRevision .readyToStop
    (some plan.id))

/-- `prepare`. -/
def prepare (planId : String) : Action AssignmentStateRecord := do
  let (plan, target) ← store (planAndTarget planId)
  require (!target.dataBearing || service.guards.isSome)
    (blocked "Data-bearing container maintenance requires an allocation guard")
  let now ← now service
  let ticket ← store (service.execution.prepare plan.id .execute now service.drawnToken)
  onRaise (prepareContainer service plan target ticket)
    fun _ => recover service plan target ticket

/-- The body of `stop` under its ticket. -/
def stopContainer (plan : PlanRecord) (target : ManagedContainerTarget)
    (found : AssignmentStateRecord) : Action AssignmentStateRecord := do
  let stopping ← store (transitionAssignmentState target.assignmentId found.stateRevision
    .stopping (some plan.id))
  store (recordStartedStep plan target .stop)
  commit
  confirmed (ask (fun _ => .runtimeStop target.assignmentId) (service.stop target)) "stop"
  store (recordVerifiedStep plan target .stop [("unit", .str target.unit)])
  store (transitionAssignmentState target.assignmentId stopping.stateRevision .maintenance
    (some plan.id))

/-- `stop`. -/
def stopWorkload (planId : String) : Action AssignmentStateRecord := do
  let (plan, target) ← store (planAndTarget planId)
  let found ← store (requireAssignmentState plan target .readyToStop)
  let ticket ← store (ticketFor plan)
  onRaise (stopContainer service plan target found) fun _ => recover service plan target ticket

/-- The body of `return_to_service` up to the release of the claim. -/
def returnWorkload (plan : PlanRecord) (target : ManagedContainerTarget)
    (found : AssignmentStateRecord) : Action AssignmentStateRecord := do
  let returning ← store (transitionAssignmentState target.assignmentId found.stateRevision
    .returning (some plan.id))
  store (recordStartedStep plan target .returning)
  commit
  confirmed (ask (fun _ => .runtimeStart target.assignmentId) (service.start target)) "start"
  store (recordVerifiedStep plan target .returning [("unit", .str target.unit)])
  let verifying ← store (transitionAssignmentState target.assignmentId returning.stateRevision
    .verifying (some plan.id))
  store (recordStartedStep plan target .verify)
  commit
  confirmed (ask (fun _ => .runtimeReady target.assignmentId) (service.ready target)) "readiness"
  store (recordVerifiedStep plan target .verify [("unit", .str target.unit)])
  store (recordStartedStep plan target .companions)
  commit
  confirmed (CompanionReconciler.reconcile target.assignmentId) "companion reconciliation"
  store (recordVerifiedStep plan target .companions
    [("assignment_id", .num (target.assignmentId : Int))])
  withGuard service target fun gateway => do
    commit
    AllocationGuardService.restore gateway plan.id target.clusterId
  pure verifying

/-- The body of `return_to_service` under its ticket. -/
def returnContainer (plan : PlanRecord) (target : ManagedContainerTarget)
    (ticket : MaintenanceActionTicket) (found : AssignmentStateRecord) :
    Action AssignmentStateRecord := do
  let verifying ← returnWorkload service plan target found
  let released ← store (WorkloadStore.releaseAssignmentOperation target.assignmentId ticket.runId)
  require released (blocked "Selected workload operation claim could not be released")
  let available ← store (transitionAssignmentState target.assignmentId verifying.stateRevision
    .available none)
  let now ← now service
  let _ ← store (service.execution.finalize ticket ⟨some .succeeded, []⟩ now service.drawnToken)
  pure available

/-- `return_to_service`. -/
def returnToService (planId : String) : Action AssignmentStateRecord := do
  let (plan, target) ← store (planAndTarget planId)
  let found ← store (requireAssignmentState plan target .maintenance)
  let ticket ← store (ticketFor plan)
  onRaise (returnContainer service plan target ticket found)
    fun _ => recover service plan target ticket

end Actions

end ContainerMaintenanceService

/-! ### The action service -/

inductive ContainerWorkflowAction where
  | prepare
  | stop
  | returnToService
deriving DecidableEq, Repr

namespace ContainerMaintenanceService

open Program MaintenanceStore

/-- `_dispatch`. -/
def dispatch (service : ContainerMaintenanceService) (planId : String) :
    ContainerWorkflowAction → Action AssignmentStateRecord
  | .prepare => prepare service planId
  | .stop => stopWorkload service planId
  | .returnToService => returnToService service planId

/-- `ContainerMaintenanceActionService.perform` of an enabled release. -/
def perform (service : ContainerMaintenanceService) (planId : String)
    (action : ContainerWorkflowAction) : Action AssignmentStateRecord :=
  connect do
    let state ← dispatch service planId action
    let plan ← store (getPlan planId)
    require (plan.runId.any (1 ≤ ·))
      ⟨.runtimeError, "Container maintenance workflow has no attached run"⟩
    pure state

end ContainerMaintenanceService

/-! ### A sample -/

namespace ContainerSample

/-- A plan for the maintenance of the one Kibana workload of a host. -/
def plan : PlanRecord :=
  { HostSample.plan with
    operationKind := .workloadRestart
    targetClusterId := some 1
    targetAssignmentId := some 1
    targetManifest :=
      { HostSample.plan.targetManifest with publicOperation := some "container_maintenance" } }

def database : Database :=
  { HostSample.database with plans := [plan] }

/-- A service whose adapters confirm everything. -/
def service : ContainerMaintenanceService where
  execution := HostSample.service.execution
  clock _ := 0
  drawnToken := "token"
  stop _ _ := .ok true
  start _ _ := .ok true
  ready _ _ := .ok true
  guards := none

/-- The world after an action of a new process with a budget. -/
def perform (budget : Option Nat) (action : ContainerWorkflowAction) (world : MaintenanceWorld) :
    MaintenanceWorld :=
  ((service.perform "plan" action).run (world.restart budget)).2

/-- The workload is stopped. -/
def stopped : MaintenanceWorld :=
  perform none .stop (perform none .prepare (World.start database none))

end ContainerSample

end ElKeeper
