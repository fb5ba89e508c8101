import ElKeeper.HostReboot
import ElKeeper.WorkloadStore

/-!
# The host-maintenance workflow

`HostMaintenanceService`: a host is prepared, its managed workloads are stopped,
it may be rebooted, and it returns to service.  Every action runs on one
connection.  `commit` stands for the durable boundary before a remote effect;
what an action writes after its last boundary is kept only when it returns.
-/

namespace ElKeeper

/-- The answer of the post-return verification. -/
structure PostReturnVerification where
  complete : Bool
  observation : Json

/-- The adapters, clocks and drawn tokens of one host-maintenance action. -/
structure HostMaintenanceService where
  execution : MaintenanceExecutionService
  clock : History → Nat
  drawnToken : String
  stop : ManagedContainerTarget → History → Except Fault Bool
  start : ManagedContainerTarget → History → Except Fault Bool
  ready : ManagedContainerTarget → History → Except Fault Bool
  hostReady : Nat → History → Except Fault Bool
  guards : Option AllocationGuardGateway
  postReturn : Option (Nat → History → Except Fault PostReturnVerification)
  reboots : Option HostRebootGateways

namespace HostMaintenanceService

open Program MaintenanceStore

/-- `raise HostMaintenanceError`. -/
def blocked (message : String) : Fault :=
  ⟨.hostMaintenanceBlocked, message⟩

/-! ### Plans and targets -/

/-- `_manifest_assignment_ids`. -/
def manifestAssignmentIds (plan : PlanRecord) : Except Fault (List Nat) :=
  let identifiers := plan.targetManifest.assignmentRevisions.map (·.1)
  if identifiers ≠ [] ∧ identifiers.Nodup ∧ ∀ identifier ∈ identifiers, 1 ≤ identifier then
    .ok (identifiers.insertionSort (· ≤ ·))
  else .error (blocked "Host maintenance plan has no valid target manifest")

def resolveEach (database : Database) : List Nat → Except Fault (List ManagedContainerTarget)
  | [] => .ok []
  | assignmentId :: rest => do
      let target ← resolveManagedContainerTarget database assignmentId
      let targets ← resolveEach database rest
      pure (target :: targets)

/-- `resolve_managed_container_targets_for_host`. -/
def resolveTargets (database : Database) (plan : PlanRecord) (nodeId : Nat) :
    Except Fault (List ManagedContainerTarget) := do
  let expected ← manifestAssignmentIds plan
  let active := (database.assignments.filter fun row =>
    row.nodeId = nodeId && row.state = .active).map (·.id)
  if (∀ identifier ∈ active, identifier ∈ expected) ∧ ∀ identifier ∈ expected, identifier ∈ active
  then do
    let targets ← resolveEach database expected
    if targets.all (·.nodeId = nodeId) then pure targets
    else .error (blocked "Host maintenance target is not assigned to the selected host")
  else .error (blocked "Host maintenance target set changed; create a new preview")

/-- `_plan_and_targets`, with the host of the plan. -/
def planAndTargets (planId : String) :
    Operation (PlanRecord × Nat × List ManagedContainerTarget) := do
  let plan ← getPlan planId
  match plan.targetNodeId with
  | none => raise (blocked "Maintenance plan is not a host-maintenance plan")
  | some nodeId => do
      require (plan.operationKind = .reboot)
        (blocked "Maintenance plan is not a host-maintenance plan")
      require (plan.targetManifest.publicOperation = some "host_maintenance")
        (blocked "Maintenance plan was not previewed for host maintenance")
      let resolved ← read fun database => resolveTargets database plan nodeId
      let targets ← ofExcept resolved
      let expected ← ofExcept (manifestAssignmentIds plan)
      require ((targets.map (·.assignmentId)).insertionSort (· ≤ ·) = expected)
        (blocked "Host maintenance target set does not match the approved preview")
      require (targets.all (·.nodeId = nodeId))
        (blocked "Host maintenance target set includes another host")
      pure (plan, nodeId, targets)

/-- `_post_return_expectations`. -/
def postReturnExpectations (plan : PlanRecord) (targets : List ManagedContainerTarget) :
    Except Fault Unit :=
  match plan.targetManifest.postReturnExpectations with
  | none =>
      .error (blocked "Host maintenance plan has no immutable post-return expectations")
  | some clusters =>
      let identifiers : List Nat := clusters.map (·.clusterId)
      let nodes : List Nat := clusters.flatMap (·.nodeAssignmentIds)
      let affected : List Nat := targets.map (·.clusterId)
      let elasticsearch : List Nat := (targets.filter (·.role.elasticsearch)).map (·.assignmentId)
      if ¬ (identifiers ≠ [] ∧ identifiers.Pairwise (· < ·)) then
        .error (blocked "Host maintenance plan has invalid post-return expectations")
      else if ¬ ((∀ identifier ∈ identifiers, identifier ∈ affected) ∧
          ∀ identifier ∈ affected, identifier ∈ identifiers) then
        .error (blocked
          "Host maintenance post-return expectations do not cover every affected cluster")
      else if ¬ ((∀ identifier ∈ nodes, identifier ∈ elasticsearch) ∧
          ∀ identifier ∈ elasticsearch, identifier ∈ nodes) then
        .error (blocked
          "Host maintenance post-return expectations do not cover every affected Elasticsearch node")
      else .ok ()

/-- The priorities of `_stop_priority`. -/
def stopPriority : Role → Nat
  | .elasticAgent => 10
  | .kibana | .fleetServer | .logstash => 20
  | .coordinating | .ingest | .ml => 30
  | .hot | .warm => 40
  | .master => 50

/-- The priorities of `_start_priority`. -/
def startPriority : Role → Nat
  | .master => 10
  | .hot | .warm => 20
  | .coordinating | .ingest | .ml => 30
  | .kibana | .fleetServer | .logstash => 40
  | .elasticAgent => 50

/-- `sorted` by a priority of the role and the assignment. -/
def sortTargets (priority : Role → Nat) (targets : List ManagedContainerTarget) :
    List ManagedContainerTarget :=
  targets.insertionSort fun first second =>
    priority first.role < priority second.role ∨
      priority first.role = priority second.role ∧ first.assignmentId ≤ second.assignmentId

/-- The clusters with data-bearing targets, in order. -/
def guardedClusters (targets : List ManagedContainerTarget) : List Nat :=
  ((targets.filter (·.dataBearing)).map (·.clusterId)).dedup.insertionSort (· ≤ ·)

/-! ### The journal -/

/-- The step of `_record_step`. -/
def stepContent (plan : PlanRecord) (step : HostStep) (target : Option ManagedContainerTarget)
    (index : Nat) : StepContent where
  key := .host step (target.map (·.assignmentId))
  sequence := step.base + index
  affectedClusterId := target.map (·.clusterId)
  affectedAssignmentId := target.map (·.assignmentId)
  affectedNodeId := plan.targetNodeId

/-- The checkpoint of `_record_step`. -/
def stepCheckpoint (plan : PlanRecord) (step : HostStep)
    (target : Option ManagedContainerTarget) (sideEffectState : SideEffectState)
    (observation : Dict) (index stepId : Nat) : CheckpointContent where
  key := .hostStep step (target.map (·.assignmentId))
  sequence := step.base + index
  sideEffectState := sideEffectState
  payload := .hostStep plan.targetNodeId (target.map (·.unit))
  stepId := some stepId
  observation := .obj observation

/-- `_record_step`. -/
def recordStep (plan : PlanRecord) (step : HostStep) (target : Option ManagedContainerTarget)
    (sideEffectState : SideEffectState) (observation : Dict) (index : Nat) :
    Operation Unit := do
  let created ← createStep plan.id (stepContent plan step target index)
  let begun ← if created.state = .pending then
      transitionStep created.id created.stateRevision .executing
    else pure created
  let ended ← if sideEffectState = .verified ∧ begun.state = .executing then
      transitionStep begun.id begun.stateRevision .verified
    else pure begun
  let _ ← recordCheckpoint plan.id
    (stepCheckpoint plan step target sideEffectState observation index ended.id)
  pure ()

/-! ### Host and assignment states -/

/-- `_require_host_state`. -/
def requireHostState (plan : PlanRecord) (nodeId : Nat) (expected : MaintenanceWorkflowState) :
    Operation HostStateRecord := do
  let host ← getHostState nodeId
  require (host.activePlanId = some plan.id && host.workflowState = expected)
    (blocked ("Host maintenance action is not available while the host is " ++
      host.workflowState.value))
  pure host

/-- `_require_assignment_state`. -/
def requireAssignmentState (plan : PlanRecord) (target : ManagedContainerTarget)
    (expected : MaintenanceWorkflowState) : Operation AssignmentStateRecord := do
  let state ← getAssignmentState target.assignmentId
  require (state.activePlanId = some plan.id && state.workflowState = expected)
    (blocked ("Host maintenance action is not available while a workload is " ++
      state.workflowState.value))
  pure state

/-- Every target is available; their revisions are returned in order. -/
def availableStates :
    List ManagedContainerTarget → Operation (List (ManagedContainerTarget × Nat))
  | [] => pure []
  | target :: rest => do
      let state ← getAssignmentState target.assignmentId
      require (state.workflowState = .available)
        (blocked "Host maintenance target is already in maintenance")
      let states ← availableStates rest
      pure ((target, state.stateRevision) :: states)

/-- `_prepare_assignments`. -/
def prepareAssignments (plan : PlanRecord) (targets : List ManagedContainerTarget)
    (runId : Nat) : Operation Unit := do
  let states ← availableStates targets
  forEach states fun entry => do
    let _ ← transitionAssignmentState entry.1.assignmentId entry.2 .preparing (some plan.id)
    pure ()
  forEach targets fun target => do
    let revision :=
      (plan.targetManifest.assignmentRevisions.lookup target.assignmentId).getD 0
    let claimed ← WorkloadStore.claimAssignmentOperation target.assignmentId revision runId
    require claimed
      (blocked "Host maintenance target changed or is claimed by another operation")
  forEach targets fun target => do
    let state ← getAssignmentState target.assignmentId
    let _ ← transitionAssignmentState target.assignmentId state.stateRevision .readyToStop
      (some plan.id)
    pure ()

/-- `_complete_assignments`. -/
def completeAssignments (plan : PlanRecord) (targets : List ManagedContainerTarget)
    (runId : Nat) : Operation Unit :=
  forEach targets fun target => do
    let state ← requireAssignmentState plan target .verifying
    let _ ← transitionAssignmentState target.assignmentId state.stateRevision .available none
    let released ← WorkloadStore.releaseAssignmentOperation target.assignmentId runId
    require released (blocked "Host maintenance workload claim could not be released")

/-- `_ticket`. -/
def ticketFor (plan : PlanRecord) : Operation MaintenanceActionTicket := do
  match plan.runId with
  | none => raise (blocked "Host maintenance plan has no active run")
  | some runId => do
      let locks ← read fun database => database.listActiveLocks plan.id
      require (locks ≠ []) (blocked "Host maintenance plan no longer owns its locks")
      pure
        { planId := plan.id
          runId := runId
          action := .execute
          operationKind := plan.operationKind
          planHash := plan.planHash }

/-! ### Recovery -/

/-- A write whose exception is dropped. -/
def tolerated {α : Type} (operation : Operation α) : Action Unit :=
  ignoring (store (do
    let _ ← operation
    pure ()))

/-- The part of `_recover` for one target. -/
def recoverTarget (plan : PlanRecord) (target : ManagedContainerTarget) : Action Unit := do
  let state ← store (getAssignmentState target.assignmentId)
  if state.activePlanId = some plan.id ∧ state.workflowState ≠ .recoveryRequired then
    tolerated (transitionAssignmentState target.assignmentId state.stateRevision
      .recoveryRequired (some plan.id))
  else pure ()

section Actions

variable (service : HostMaintenanceService)

/-- `_recover`. -/
def recover (plan : PlanRecord) (nodeId : Nat) (targets : List ManagedContainerTarget)
    (ticket : MaintenanceActionTicket) : Action Unit := do
  let host ← store (getHostState nodeId)
  if host.activePlanId = some plan.id ∧ host.state ≠ .recoveryRequired then
    tolerated (transitionHostState nodeId host.stateRevision .recoveryRequired (some plan.id))
  forEach targets (recoverTarget plan)
  let current ← store (getPlan plan.id)
  if current.lifecycleState = .executing ∨ current.lifecycleState = .ready then
    tolerated (service.execution.fail ticket)
  else pure ()

/-- `_confirmed` of an adapter call. -/
def confirmed (call : Action Bool) (action : String) : Action Unit := do
  let answer ← call
  require answer (blocked ("Host maintenance " ++ action ++ " was not confirmed"))

/-- The clock reading of the execution service. -/
def now : Action Nat :=
  Program.read fun world => service.clock world.trace

/-! ### Prepare -/

/-- Capture and activate the guards of each cluster. -/
def guardClusters (gateway : AllocationGuardGateway) (planId : String) (clusterIds : List Nat) :
    Action Unit :=
  forEach clusterIds fun clusterId => do
    commit
    AllocationGuardService.capture gateway planId clusterId
    commit
    AllocationGuardService.activate gateway planId clusterId

/-- The guard of the service; it is there whenever a target holds data. -/
def withGuard (use : AllocationGuardGateway → Action Unit) (clusterIds : List Nat) :
    Action Unit :=
  match service.guards with
  | some gateway => use gateway
  | none =>
      if clusterIds = [] then pure ()
      else raise ⟨.runtimeError, "assertion failed"⟩

/-- The body of `prepare` under its ticket. -/
def prepareHost (plan : PlanRecord) (nodeId : Nat) (targets : List ManagedContainerTarget)
    (ticket : MaintenanceActionTicket) : Action HostStateRecord := do
  let found ← store (getHostState nodeId)
  let host ← store (transitionHostState nodeId found.stateRevision .planning (some plan.id))
  store (prepareAssignments plan targets ticket.runId)
  store (recordStep plan .prepare none .verified
    [("run_id", .num (ticket.runId : Int))] 0)
  withGuard service (fun gateway => guardClusters gateway plan.id (guardedClusters targets))
    (guardedClusters targets)
  store (transitionHostWorkflowState nodeId host.workflowStateRevision .readyToStop)

/-- `prepare`. -/
def prepare (planId : String) : Action HostStateRecord := do
  let (plan, nodeId, targets) ← store (planAndTargets planId)
  ofExcept (postReturnExpectations plan targets)
  require service.postReturn.isSome
    (blocked "Host maintenance post-return verification is not configured")
  require (!targets.any (·.dataBearing) || service.guards.isSome)
    (blocked "Data-bearing host maintenance requires an allocation guard")
  let now ← now service
  let ticket ← store (service.execution.prepare plan.id .execute now service.drawnToken)
  onRaise (prepareHost service plan nodeId targets ticket)
    fun _ => recover service plan nodeId targets ticket

/-! ### Stop -/

/-- The loop of `stop_workloads`. -/
def stopEach (plan : PlanRecord) : Nat → List ManagedContainerTarget → Action Unit
  | _, [] => pure ()
  | index, target :: rest => do
      let found ← store (requireAssignmentState plan target .readyToStop)
      let state ← store (transitionAssignmentState target.assignmentId found.stateRevision
        .stopping (some plan.id))
      store (recordStep plan .stop (some target) .mayHaveStarted [] index)
      commit
      confirmed (ask (fun _ => .runtimeStop target.assignmentId) (service.stop target)) "stop"
      store (recordStep plan .stopComplete (some target) .verified
        [("unit", .str target.unit)] index)
      let _ ← store (transitionAssignmentState target.assignmentId state.stateRevision
        .maintenance (some plan.id))
      stopEach plan (index + 1) rest

/-- The body of `stop_workloads` under its ticket. -/
def stopHost (plan : PlanRecord) (nodeId : Nat) (targets : List ManagedContainerTarget)
    (host : HostStateRecord) : Action HostStateRecord := do
  let stopping ← store (transitionHostWorkflowState nodeId host.workflowStateRevision .stopping)
  stopEach service plan 1 (sortTargets stopPriority targets)
  let stopped ← store (transitionHostWorkflowState nodeId stopping.workflowStateRevision
    .maintenance)
  store (transitionHostState nodeId stopped.stateRevision .maintenance (some plan.id))

/-- `stop_workloads`. -/
def stopWorkloads (planId : String) : Action HostStateRecord := do
  let (plan, nodeId, targets) ← store (planAndTargets planId)
  let host ← store (requireHostState plan nodeId .readyToStop)
  let ticket ← store (ticketFor plan)
  onRaise (stopHost service plan nodeId targets host)
    fun _ => recover service plan nodeId targets ticket

/-- `record_operator_handoff`. -/
def recordOperatorHandoff (planId : String) : Action HostStateRecord := do
  let (plan, nodeId, _) ← store (planAndTargets planId)
  let host ← store (requireHostState plan nodeId .maintenance)
  let _ ← store (ticketFor plan)
  store (recordStep plan .operatorHandoff none .verified [("operator_handoff", .bool true)] 0)
  pure host

/-! ### Reboot -/

/-- `_reboot_executor_for`. -/
def rebootsFor : Except Fault HostRebootGateways :=
  match service.reboots with
  | some gateways => .ok gateways
  | none => .error (blocked "Host maintenance reboot execution is not configured")

/-- `reboot_host`. -/
def rebootHost (planId : String) : Action HostStateRecord := do
  let (plan, nodeId, targets) ← store (planAndTargets planId)
  let host ← store (requireHostState plan nodeId .maintenance)
  let gateways ← ofExcept (rebootsFor service)
  let ticket ← store (ticketFor plan)
  onRaise (do
      store (recordStep plan .reboot none .mayHaveStarted [] 0)
      commit
      HostReboot.reboot gateways plan targets
      store (recordStep plan .rebootComplete none .verified [] 0)
      pure host)
    fun _ => recover service plan nodeId targets ticket

/-! ### Return -/

/-- The return of one target, up to its verification. -/
def returnTarget (plan : PlanRecord) (index : Nat) (target : ManagedContainerTarget) :
    Action Unit := do
  let found ← store (requireAssignmentState plan target .maintenance)
  let returning ← store (transitionAssignmentState target.assignmentId found.stateRevision
    .returning (some plan.id))
  store (recordStep plan .returning (some target) .mayHaveStarted [] index)
  commit
  confirmed (ask (fun _ => .runtimeStart target.assignmentId) (service.start target)) "start"
  store (recordStep plan .returnComplete (some target) .verified
    [("unit", .str target.unit)] index)
  let _ ← store (transitionAssignmentState target.assignmentId returning.stateRevision
    .verifying (some plan.id))
  commit
  confirmed (ask (fun _ => .runtimeReady target.assignmentId) (service.ready target)) "readiness"
  commit
  confirmed (CompanionReconciler.reconcile target.assignmentId) "companion reconciliation"
  store (recordStep plan .verification (some target) .verified
    [("unit", .str target.unit)] index)

/-- The loop of `return_to_service`. -/
def returnEach (plan : PlanRecord) : Nat → List ManagedContainerTarget → Action Unit
  | _, [] => pure ()
  | index, target :: rest => do
      returnTarget service plan index target
      returnEach plan (index + 1) rest

/-- Restore the guards of each cluster. -/
def restoreClusters (gateway : AllocationGuardGateway) (planId : String)
    (clusterIds : List Nat) : Action Unit :=
  forEach clusterIds fun clusterId => do
    commit
    AllocationGuardService.restore gateway planId clusterId

/-- The verification of the returned host. -/
def verifyReturn (plan : PlanRecord) (nodeId : Nat) (targets : List ManagedContainerTarget) :
    Action Unit := do
  ofExcept (postReturnExpectations plan targets)
  store (recordStep plan .postReturnVerificationStarted none .mayHaveStarted [] 0)
  commit
  match service.postReturn with
  | none => raise ⟨.adapter, "post-return verification is not configured"⟩
  | some verify => do
      let verification ← ask (fun _ => .postReturnVerification nodeId) (verify nodeId)
      store (recordStep plan .postReturnVerification none
        (if verification.complete then .verified else .mayHaveStarted)
        [("verification", verification.observation)] 0)
      require verification.complete
        (blocked "Host maintenance post-return verification requires recovery")

/-- The clean-up of the executor after a reboot. -/
def cleanUp (plan : PlanRecord) : Action Unit := do
  let rebooted ← view fun database => database.journal plan.id (.hostStep .rebootComplete none)
  if rebooted.isSome then do
    let gateways ← ofExcept (rebootsFor service)
    store (recordStep plan .executorCleanup none .mayHaveStarted [] 0)
    commit
    HostReboot.cleanup gateways plan
    store (recordStep plan .executorCleanupComplete none .verified [] 0)
  else pure ()

/-- The body of `return_to_service` under its ticket. -/
def returnHost (plan : PlanRecord) (nodeId : Nat) (targets : List ManagedContainerTarget)
    (ticket : MaintenanceActionTicket) (host : HostStateRecord) : Action HostStateRecord := do
  let returning ← store (transitionHostWorkflowState nodeId host.workflowStateRevision
    .returning)
  store (recordStep plan .hostRediscovery none .mayHaveStarted [] 0)
  commit
  confirmed (ask (fun _ => .hostReady nodeId) (service.hostReady nodeId)) "host rediscovery"
  store (recordStep plan .hostRediscoveryComplete none .verified
    [("node_id", .num (nodeId : Int))] 0)
  returnEach service plan 1 (sortTargets startPriority targets)
  withGuard service (fun gateway => restoreClusters gateway plan.id (guardedClusters targets))
    (guardedClusters targets)
  verifyReturn service plan nodeId targets
  cleanUp service plan
  let now ← now service
  let _ ← store (service.execution.finalize ticket ⟨some .succeeded, []⟩ now service.drawnToken)
  store (completeAssignments plan targets ticket.runId)
  store (transitionHostState nodeId returning.stateRevision .available none)

/-- `return_to_service`. -/
def returnToService (planId : String) : Action HostStateRecord := do
  let (plan, nodeId, targets) ← store (planAndTargets planId)
  let host ← store (requireHostState plan nodeId .maintenance)
  let ticket ← store (ticketFor plan)
  onRaise (returnHost service plan nodeId targets ticket host)
    fun _ => recover service plan nodeId targets ticket

end Actions

end HostMaintenanceService

/-! ### The action service -/

inductive HostWorkflowAction where
  | prepare
  | stop
  | reboot
  | handoff
  | returnToService
deriving DecidableEq, Repr

namespace HostMaintenanceService

open Program MaintenanceStore

/-- `_dispatch`. -/
def dispatch (service : HostMaintenanceService) (planId : String) :
    HostWorkflowAction → Action HostStateRecord
  | .prepare => prepare service planId
  | .stop => stopWorkloads service planId
  | .reboot => rebootHost service planId
  | .handoff => recordOperatorHandoff planId
  | .returnToService => returnToService service planId

/-- `HostMaintenanceActionService.perform` of an enabled release. -/
def perform (service : HostMaintenanceService) (planId : String) (action : HostWorkflowAction) :
    Action HostStateRecord :=
  connect do
    let state ← dispatch service planId action
    let plan ← store (getPlan planId)
    require (plan.runId.any (1 ≤ ·))
      ⟨.runtimeError, "Host maintenance workflow has no attached run"⟩
    pure state

end HostMaintenanceService

/-! ### A sample -/

namespace HostSample

/-- A plan for the maintenance of one host with one Kibana workload. -/
def plan : PlanRecord where
  id := "plan"
  runId := none
  operationKind := .reboot
  targetNodeId := some 1
  targetClusterId := none
  targetAssignmentId := none
  observationMaxAgeSeconds := 120
  observation := ⟨some "capabilities", some 0, []⟩
  planHash := "hash"
  targetManifest :=
    { publicOperation := some "host_maintenance"
      assignmentRevisions := [(1, 1)]
      policyRevisions := []
      affectedClusterIds := [1]
      postReturnExpectations := some [⟨1, []⟩] }
  lifecycleState := .ready
  stateRevision := 1
  expiresAt := 3600000000

def database : Database :=
  { Database.empty with
    plans := [plan]
    nodes := [⟨1, "node", true⟩]
    clusters := [⟨1, "logs", "logs", true⟩]
    memberships := [(1, 1)]
    assignments := [⟨1, 1, 1, .kibana, .encrypted [], none, .active, 1, none⟩] }

/-- The executor of the sample: everything is confirmed. -/
def gateways : HostRebootGateways where
  readBootId _ _ := .ok (some "boot")
  stage envelope _ :=
    .ok ⟨envelope.manifest.operationId, envelope.signature.payloadSha256, true, 0⟩
  discover operationId _ := .ok
    { operationId := operationId
      state := .complete
      observedAt := 0
      result := some ⟨operationId⟩
      complete_has_result := fun _ => rfl
      result_matches := by simp }
  invokeReboot _ operationId _ :=
    if present : blank operationId = false then
      .ok ⟨operationId, "invocation", true, 0, present, by decide⟩
    else .error ⟨.adapter, "no operation"⟩
  waitForDisconnect _ _ _ := .ok ⟨true, 0⟩
  waitForReconnect _ _ := .ok ⟨true, some "other", 0, fun _ => ⟨"other", rfl, by decide⟩⟩
  cleanupExecutor _ _ := .ok true
  sign _ := ⟨"key", "digest", "value"⟩
  validateManifest _ := .ok ()
  clock _ := 0

/-- A service whose adapters confirm everything. -/
def service : HostMaintenanceService where
  execution := ⟨"capabilities", 300, fun _ => true⟩
  clock _ := 0
  drawnToken := "token"
  stop _ _ := .ok true
  start _ _ := .ok true
  ready _ _ := .ok true
  hostReady _ _ := .ok true
  guards := none
  postReturn := some fun _ _ => .ok ⟨true, .obj []⟩
  reboots := some gateways

/-- The world after an action of a new process with a budget. -/
def perform (budget : Option Nat) (action : HostWorkflowAction) (world : MaintenanceWorld) :
    MaintenanceWorld :=
  ((service.perform "plan" action).run (world.restart budget)).2

/-- The host is prepared and its workload is stopped. -/
def stopped : MaintenanceWorld :=
  perform none .stop (perform none .prepare (World.start database none))

end HostSample

end ElKeeper
