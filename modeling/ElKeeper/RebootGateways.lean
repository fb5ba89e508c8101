import ElKeeper.DurableWorld
import ElKeeper.MaintenanceStore

/-!
# Remote effects of maintenance and the reboot gateways

Everything that leaves the controller is an `Effect`.  A gateway answers with a
value or an exception, and its answer may depend on all effects dispatched so
far; nothing else is assumed about it.
-/

namespace ElKeeper

inductive Effect where
  | predicateEvaluation (stage : PredicateStage)
  | guardCapture (clusterId : Nat)
  /-- Logged with whether the guard answered that it is active. -/
  | guardActivation (clusterId : Nat) (activated : Bool)
  | guardRestoration (clusterId : Nat)
  | executorStage (operationId : String)
  | executorDiscovery (operationId : String)
  | executorCleanup (operationId : String)
  | invokeReboot (nodeId : Nat) (operationId : String)
  | waitForDisconnect (nodeId : Nat)
  | waitForReconnect (nodeId : Nat)
  | readBootId (nodeId : Nat)
  | runtimeStop (assignmentId : Nat)
  | runtimeStart (assignmentId : Nat)
  | runtimeReady (assignmentId : Nat)
  | hostReady (nodeId : Nat)
  | allocationSettings (clusterId : Nat)
  | postReturnVerification (nodeId : Nat)
deriving DecidableEq, Repr

abbrev History :=
  List (Entry Database Effect)

abbrev MaintenanceWorld :=
  World Database Effect

/-- Controller code that uses the open connection and dispatches effects. -/
abbrev Action (α : Type) :=
  Program MaintenanceWorld Fault α

/-- `_field` of an answer that is a mapping. -/
def field (answer : Dict) (name : String) : Except Fault Json :=
  match answer.get name with
  | some value => .ok value
  | none => .error ⟨.keyError, name⟩

/-- An activation succeeded when it answered with the status `active`. -/
def activated : Except Fault Dict → Bool
  | .ok answer => answer.get "status" = some (.str "active")
  | .error _ => false

/-- `ClusterGuardProtocol` for one cluster.  `hydrate` validates a stored
checkpoint for an `AllocationGuardController` and is the identity for others. -/
structure ClusterGuard where
  capture : History → Except Fault Json
  activate : Json → History → Except Fault Dict
  restore : Json → History → Except Fault Dict
  hydrate : Json → Except Fault Json

structure ClusterGuardSpec where
  clusterId : Nat
  guard : Option ClusterGuard
  clusterId_positive : 1 ≤ clusterId

/-- A reboot request as its constructor leaves it: the manifest belongs to it
and its clusters are sorted, distinct and fewer than one hundred. -/
structure RebootRequest where
  planId : String
  nodeId : Nat
  preRebootBootId : String
  executorManifest : SignedHostExecutorManifest
  clusters : List ClusterGuardSpec
  nodeId_positive : 1 ≤ nodeId
  preRebootBootId_present : blank preRebootBootId = false
  manifest_planId : executorManifest.manifest.planId = planId
  manifest_nodeId : executorManifest.manifest.nodeId = nodeId
  manifest_bootId : executorManifest.manifest.preRebootBootId = preRebootBootId
  clusters_sorted : clusters.Pairwise fun first second => first.clusterId < second.clusterId
  clusters_bounded : clusters.length ≤ 99

/-- The operation that the request's manifest names. -/
def RebootRequest.operationId (request : RebootRequest) : String :=
  request.executorManifest.manifest.operationId

/-- The predicate evaluators that an orchestrator is given: an injected one, or
the recheck of the host workflow. -/
inductive PredicateEvaluator where
  | injected (answer : PredicateStage → History → Except Fault PredicateEvaluation)
  | hostMaintenance (expectedAssignmentIds : List Nat) (clock : History → Nat)

/-- The host and executor gateways and the settings of one orchestrator. -/
structure RebootOrchestrator where
  predicates : PredicateEvaluator
  stage : SignedHostExecutorManifest → History → Except Fault ExecutorStageReceipt
  discover : String → History → Except Fault ExecutorDiscovery
  invokeReboot : Nat → String → History → Except Fault RebootInvocationReceipt
  waitForDisconnect : Nat → String → History → Except Fault SshDisconnectObservation
  waitForReconnect : Nat → History → Except Fault ReconnectObservation
  /-- `control.action_at("clusters-prepared")`, the only safe checkpoint. -/
  control : History → ControlAction
  executionEnabled : Bool
  sequenceBase : Nat
  sequenceBase_bounded : sequenceBase ≤ 1000000

namespace PredicateEvaluator

open Program

/-- The generator of `assignments_ready`: it ends at the first other state. -/
def assignmentsReady (planId : String) : List Nat → Operation Bool
  | [] => pure true
  | assignmentId :: rest => do
      let state ← MaintenanceStore.getAssignmentState assignmentId
      if state.activePlanId = some planId ∧ state.workflowState = .maintenance then
        assignmentsReady planId rest
      else
        pure false

def stageText : PredicateStage → String
  | .prepare => "prepare"
  | .reboot => "reboot"

/-- The two decisions of the host workflow's recheck. -/
def hostDecisions (stage : PredicateStage) (evaluatedAt : Nat)
    (hostReady assignmentsReady : Bool) : PredicateEvaluation where
  evaluatedAt := evaluatedAt
  decisions :=
    [{ identifier := "host-workflow-maintenance:" ++ stageText stage
       passed := hostReady
       evidence := "host workflow is in the verified maintenance state"
       identifier_present := by cases stage <;> decide +kernel
       evidence_present := by decide +kernel },
      { identifier := "host-workloads-stopped:" ++ stageText stage
        passed := assignmentsReady
        evidence := "every selected managed workload remains stopped by this plan"
        identifier_present := by cases stage <;> decide +kernel
        evidence_present := by decide +kernel }]
  nonempty := by simp
  unique := by
    simp only [List.map_cons, List.map_nil]
    cases stage <;> decide +kernel

/-- `HostMaintenanceRebootPredicates.evaluate`, up to the clock reading. -/
def recheckHost (planId : String) (nodeId : Nat) (expectedAssignmentIds : List Nat) :
    Operation (Bool × Bool) := do
  let plan ← MaintenanceStore.getPlan planId
  let host ← MaintenanceStore.getHostState nodeId
  let hostReady : Bool := plan.targetNodeId = some nodeId && host.activePlanId = some planId &&
    host.workflowState = .maintenance
  let ready ← assignmentsReady planId expectedAssignmentIds
  pure (hostReady, ready)

/-- `predicates.evaluate`. -/
def evaluate (evaluator : PredicateEvaluator) (planId : String) (nodeId : Nat)
    (stage : PredicateStage) : Action PredicateEvaluation :=
  match evaluator with
  | .injected answer => ask (fun _ => .predicateEvaluation stage) (answer stage)
  | .hostMaintenance expectedAssignmentIds clock => do
      let (hostReady, ready) ← store (recheckHost planId nodeId expectedAssignmentIds)
      let now ← Program.read fun world => clock world.trace
      pure (hostDecisions stage now hostReady ready)

end PredicateEvaluator

end ElKeeper
