import ElKeeper.DurableWorld
import ElKeeper.PostReturnContracts

/-!
# The post-return coordinator

`verify_host_maintenance` and `verify_and_cleanup` with their helpers.  The
adapters are coroutines: they answer with a value of their type or raise when
they are awaited, and an answer may depend on all calls made so far.  A call is
logged together with the report as it stood.
-/

namespace ElKeeper.PostReturn

open Program

/-- A call of an adapter.  The two cleanups are logged with whether they were proven. -/
inductive PostReturnCall where
  | waitForSsh (nodeId timeoutSeconds : Nat)
  | readBootId (nodeId : Nat)
  | podmanSocketReady (nodeId : Nat)
  | quadletGeneratorReady (nodeId : Nat)
  | generatedUnits (nodeId : Nat)
  | unitStates (nodeId : Nat)
  | endpointReady (nodeId : Nat) (endpointRef : String)
  | nodeIdentity (assignmentId : Nat)
  | shardRecovery (clusterId : Nat)
  | clusterHealth (clusterId : Nat)
  | serviceBudget (clusterId : Nat) (role : String)
  | importResult (operationId : String)
  | restoreAllocation (clusterId : Nat)
  | clearShutdown (clusterId : Nat)
  | cleanupExecutor (operationId : String) (proven : Bool)
  | releaseLocks (planId : String) (nodeId : Nat) (clusterIds : List Nat) (proven : Bool)
deriving DecidableEq

abbrev ReturnHistory :=
  List (Entry Report PostReturnCall)

abbrev ReturnWorld :=
  World Report PostReturnCall

abbrev Verification (α : Type) :=
  Program ReturnWorld Fault α

/-- The cleanup results that their own model accepts. -/
abbrev GuardCleanup :=
  { cleanup : AllocationGuardCleanupResult //
    ∀ category ∈ cleanup.errorCategory, isCleanupCategory category }

/-- The dependencies of the cleanup stages. -/
structure CleanupDependencies where
  restore : AllocationGuardCheckpoint → AllocationCleanupTrigger → ReturnHistory →
    Except Fault GuardCleanup
  clearShutdown : ShutdownCleanupExpectation → ReturnHistory → Except Fault CleanupStatus
  importResult : String → ReturnHistory → Except Fault HostExecutorResult
  cleanupExecutor : ExecutorCleanupTarget → ReturnHistory → Except Fault CleanupStatus
  release : String → Nat → List Nat → ReturnHistory → Except Fault CleanupStatus

structure PostReturnCoordinator where
  waitForSsh : Nat → Nat → ReturnHistory → Except Fault Bool
  readBootId : Nat → ReturnHistory → Except Fault (Option String)
  podmanSocketReady : Nat → ReturnHistory → Except Fault Bool
  quadletGeneratorReady : Nat → ReturnHistory → Except Fault Bool
  generatedUnits : Nat → List String → ReturnHistory → Except Fault (List String)
  unitStates : Nat → List String → ReturnHistory → Except Fault (List (String × Bool))
  endpointReady : Nat → String → ReturnHistory → Except Fault Bool
  nodeIdentity : NodeIdentityExpectation → ReturnHistory →
    Except Fault (Option NodeIdentityObservation)
  shardRecovery : Nat → ReturnHistory → Except Fault ShardRecoveryObservation
  serviceBudget : ServiceBudgetExpectation → ReturnHistory → Except Fault ServiceBudgetObservation
  clusterHealth : Nat → ReturnHistory → Except Fault String
  clock : ReturnHistory → Nat
  /-- There when all five optional dependencies are. -/
  dependencies : Option CleanupDependencies

/-! ### Check identifiers -/

def endpointCheckId (endpoint : EndpointExpectation) : String :=
  "endpoint:" ++ endpoint.endpointRef

def nodeIdentityCheckId (node : NodeIdentityExpectation) : String :=
  "node-identity:" ++ toString node.assignmentId

def shardRecoveryCheckId (cluster : ClusterExpectation) : String :=
  "shard-recovery:" ++ toString cluster.clusterId

def clusterHealthCheckId (cluster : ClusterExpectation) : String :=
  "cluster-health:" ++ toString cluster.clusterId

def serviceBudgetCheckId (budget : ServiceBudgetExpectation) : String :=
  "service-budget:" ++ toString budget.clusterId ++ ":" ++ budget.role

def allocationCheckId (checkpoint : AllocationGuardCheckpoint) : String :=
  "allocation-cleanup:" ++ toString checkpoint.clusterId

def shutdownCheckId (record : ShutdownCleanupExpectation) : String :=
  "shutdown-cleanup:" ++ toString record.clusterId

/-! ### Recording checks -/

def note (change : Report → Report) : Verification Unit :=
  update fun world => { world with working := change world.working }

def addCheck (checkId : String) (status : CheckStatus)
    (errorCategory : Option PostReturnErrorCategory) : Verification Unit := do
  let check ← ofExcept (PostReturnCheck.validate checkId status errorCategory)
  note fun report => { report with checks := report.checks ++ [check] }

/-- `pass_check`. -/
def passCheck (checkId : String) : Verification Unit :=
  addCheck checkId .passed none

/-- `fail_check`. -/
def failCheck (checkId : String) (category : PostReturnErrorCategory) : Verification Unit := do
  addCheck checkId .failed (some category)
  note fun report =>
    if category ∈ report.errors then report
    else { report with errors := report.errors ++ [category] }

/-- `skip_check`. -/
def skipCheck (checkId : String) : Verification Unit :=
  addCheck checkId .skipped none

/-- Pass the check or fail it with its category. -/
def checkThat (holds : Bool) (checkId : String) (category : PostReturnErrorCategory) :
    Verification Unit :=
  if holds then passCheck checkId else failCheck checkId category

/-- Fail the check with the category that was found, if one was. -/
def checkVerdict (failure : Option PostReturnErrorCategory) (checkId : String) :
    Verification Unit :=
  match failure with
  | some category => failCheck checkId category
  | none => passCheck checkId

/-- An answer, or what stands for one when the adapter raised. -/
def answerOr {α : Type} (fallback : α) (call : Except Fault α → PostReturnCall)
    (answer : ReturnHistory → Except Fault α) : Verification α := do
  match ← attempt (ask call answer) with
  | .ok value => pure value
  | .error _ => pure fallback

/-- `_boolean_call`. -/
def booleanCall (call : PostReturnCall) (answer : ReturnHistory → Except Fault Bool) :
    Verification Bool :=
  answerOr false (fun _ => call) answer

/-- The answer, or nothing when the adapter raised. -/
def optionalCall {α : Type} (call : PostReturnCall) (answer : ReturnHistory → Except Fault α) :
    Verification (Option α) :=
  answerOr none (fun _ => call) fun history => (answer history).map some

/-- `not errors`. -/
def unfailed : Verification Bool :=
  view fun report => report.errors.isEmpty

/-- The status of the proof that a cleanup answers with. -/
def cleanupStatus (answer : Except Fault CleanupStatus) : CleanupStatus :=
  match answer with
  | .ok status => status
  | .error _ => .failed

namespace PostReturnCoordinator

variable (coordinator : PostReturnCoordinator)

/-! ### The checks -/

/-- `_verify_workloads`. -/
def verifyWorkloads (nodeId : Nat) (workloads : List WorkloadExpectation) (quadletReady : Bool) :
    Verification Unit := do
  let required := workloads.map (·.unit)
  if quadletReady = false then
    skipCheck "required-quadlets"
    skipCheck "required-workloads"
  else
    let generated ← answerOr [] (fun _ => .generatedUnits nodeId)
      (coordinator.generatedUnits nodeId required)
    checkThat (required.all (· ∈ generated)) "required-quadlets" .requiredQuadletMissing
    let states ← answerOr [] (fun _ => .unitStates nodeId)
      (coordinator.unitStates nodeId required)
    checkThat (required.all (states.lookup · = some true) && states.all (·.1 ∈ required))
      "required-workloads" .requiredWorkloadNotRunning

/-- `_verify_endpoints`. -/
def verifyEndpoints (nodeId : Nat) (endpoints : List EndpointExpectation) : Verification Unit :=
  forEach endpoints fun endpoint => do
    let ready ← booleanCall (.endpointReady nodeId endpoint.endpointRef)
      (coordinator.endpointReady nodeId endpoint.endpointRef)
    checkThat ready (endpointCheckId endpoint) .endpointUnavailable

/-- The checks on the host that follow its return, or their omission without one. -/
def verifyServices (nodeId : Nat) (workloads : List WorkloadExpectation)
    (endpoints : List EndpointExpectation) (sshReady : Bool) : Verification Unit := do
  if sshReady then
    let socketReady ← booleanCall (.podmanSocketReady nodeId) (coordinator.podmanSocketReady nodeId)
    checkThat socketReady "podman-socket" .podmanSocketUnavailable
    let quadletReady ← booleanCall (.quadletGeneratorReady nodeId)
      (coordinator.quadletGeneratorReady nodeId)
    checkThat quadletReady "quadlet-generator" .quadletGeneratorUnavailable
    coordinator.verifyWorkloads nodeId workloads quadletReady
    coordinator.verifyEndpoints nodeId endpoints
  else
    forEach ["podman-socket", "quadlet-generator", "required-quadlets", "required-workloads"]
      skipCheck
    forEach endpoints fun endpoint => skipCheck (endpointCheckId endpoint)

/-- The verdict on the observed identity of a node. -/
def identityFailure (node : NodeIdentityExpectation) :
    Option NodeIdentityObservation → Option PostReturnErrorCategory
  | none => some .nodeIdentityUnavailable
  | some observed =>
      if observed.persistentNodeId ≠ node.persistentNodeId ∨ observed.nodeName ≠ node.nodeName then
        some .nodeIdentityMismatch
      else if observed.version ≠ node.version then
        some .nodeVersionMismatch
      else if observed.clusterUuid ≠ node.clusterUuid then
        some .clusterUuidMismatch
      else
        none

def verifyNode (node : NodeIdentityExpectation) : Verification Unit := do
  let observed ← answerOr none (fun _ => .nodeIdentity node.assignmentId)
    (coordinator.nodeIdentity node)
  checkVerdict (identityFailure node observed) (nodeIdentityCheckId node)

/-- The health has a rank, and at least the required one. -/
def healthAcceptable (health : String) : RequiredHealth → Bool
  | .green => health = "green"
  | .yellow => health = "yellow" || health = "green"

/-- `_verify_cluster`. -/
def verifyCluster (cluster : ClusterExpectation) : Verification Unit := do
  forEach cluster.nodes coordinator.verifyNode
  let recovery ← optionalCall (.shardRecovery cluster.clusterId)
    (coordinator.shardRecovery cluster.clusterId)
  checkThat (recovery.any (·.complete)) (shardRecoveryCheckId cluster) .shardRecoveryIncomplete
  let health ← answerOr "unknown" (fun _ => .clusterHealth cluster.clusterId)
    (coordinator.clusterHealth cluster.clusterId)
  checkThat (healthAcceptable health cluster.requiredHealth) (clusterHealthCheckId cluster)
    .clusterHealthUnacceptable

/-- `_verify_budget`. -/
def verifyBudget (budget : ServiceBudgetExpectation) : Verification Unit := do
  let observation ← optionalCall (.serviceBudget budget.clusterId budget.role)
    (coordinator.serviceBudget budget)
  checkThat (observation.any (budget.minimumAvailable ≤ ·.available)) (serviceBudgetCheckId budget)
    .serviceBudgetViolation

/-! ### `verify_host_maintenance` -/

def verifyHostMaintenance (request : HostMaintenancePostReturnRequest) :
    Verification HostMaintenancePostReturnResult := do
  let sshReady ← booleanCall (.waitForSsh request.nodeId request.hostReturnTimeoutSeconds)
    (coordinator.waitForSsh request.nodeId request.hostReturnTimeoutSeconds)
  checkThat sshReady "ssh-return" .sshUnavailable
  coordinator.verifyServices request.nodeId request.workloads request.endpoints sshReady
  forEach request.clusters coordinator.verifyCluster
  forEach request.serviceBudgets coordinator.verifyBudget
  let report ← view id
  let completedAt ← read fun world => coordinator.clock world.trace
  ofExcept (HostMaintenancePostReturnResult.validate
    (if report.errors = [] then .complete else .recoveryRequired) report.checks report.errors
    completedAt)

/-! ### `verify_and_cleanup` -/

/-- The verdict on the boot id of a returned host. -/
def bootIdFailure (request : PostReturnRequest) : Option String → Option PostReturnErrorCategory
  | none => some .bootIdUnavailable
  | some bootId => if bootId = request.preRebootBootId then some .bootIdUnchanged else none

/-- The boot id of a returned host. -/
def verifyBootId (request : PostReturnRequest) (sshReady : Bool) :
    Verification (Option String) := do
  if sshReady then
    let observed ← answerOr none (fun _ => .readBootId request.nodeId)
      (coordinator.readBootId request.nodeId)
    checkVerdict (bootIdFailure request observed) "boot-id"
    pure observed
  else
    skipCheck "boot-id"
    pure none

/-- Why a result of the executor does not count. -/
def executorFailure (request : PostReturnRequest) (observedBootId : Option String)
    (result : HostExecutorResult) : Option PostReturnErrorCategory :=
  if result.operationId ≠ request.operationId ∨ result.planId ≠ some request.planId ∨
      result.manifestHash ≠ request.expectedManifestHash ∨
      result.preRebootBootId ≠ some request.preRebootBootId then
    some .executorResultIdentityMismatch
  else if result.observedBootId ≠ observedBootId then
    some .bootIdMismatch
  else if result.state = .recoveryRequired then
    some .executorResultRecoveryRequired
  else
    let expected := request.workloads.map (·.unit)
    let observed := (result.units.filter (·.active)).map (·.unit)
    if observed.all (· ∈ expected) && expected.all (· ∈ observed) then none
    else some .executorResultIncomplete

/-- `_verify_executor_result`: whether the result was imported and is complete. -/
def verifyExecutorResult (dependencies : CleanupDependencies) (request : PostReturnRequest)
    (observedBootId : Option String) : Verification (Bool × Bool) := do
  match ← optionalCall (.importResult request.operationId)
      (dependencies.importResult request.operationId) with
  | none =>
      failCheck "executor-result" .executorResultUnavailable
      pure (false, false)
  | some result =>
      let failure := executorFailure request observedBootId result
      checkVerdict failure "executor-result"
      pure (true, failure.isNone)

/-- The executor's result, which is left out for a host that did not return. -/
def importExecutorResult (dependencies : CleanupDependencies) (request : PostReturnRequest)
    (observedBootId : Option String) (sshReady : Bool) : Verification (Bool × Bool) := do
  if sshReady then
    verifyExecutorResult dependencies request observedBootId
  else
    skipCheck "executor-result"
    pure (false, false)

/-- The restoration of one allocation guard. -/
def restoreAllocation (dependencies : CleanupDependencies)
    (checkpoint : AllocationGuardCheckpoint) : Verification Unit := do
  match ← optionalCall (.restoreAllocation checkpoint.clusterId)
      (dependencies.restore checkpoint .recovery) with
  | none => failCheck (allocationCheckId checkpoint) .allocationRestorationFailed
  | some cleanup =>
      let evidence ← ofExcept
        (AllocationCleanupEvidence.validate checkpoint.clusterId cleanup.val)
      note fun report =>
        { report with allocationCleanup := report.allocationCleanup ++ [evidence] }
      checkThat (cleanup.val.status = .restored && cleanup.val.verified)
        (allocationCheckId checkpoint) .allocationRestorationFailed

/-- The removal of one shutdown record. -/
def clearShutdown (dependencies : CleanupDependencies) (record : ShutdownCleanupExpectation) :
    Verification Unit := do
  let status ← answerOr .failed (fun _ => .clearShutdown record.clusterId)
    (dependencies.clearShutdown record)
  note fun report =>
    { report with
      shutdownCleanup :=
        report.shutdownCleanup ++ [⟨record.clusterId, record.persistentNodeId, status⟩] }
  checkThat status.proven (shutdownCheckId record) .shutdownCleanupFailed

/-- The verdict on the proof that the artifacts are cleaned up. -/
def artifactFailure (status : CleanupStatus) : Option PostReturnErrorCategory :=
  if status.proven then none
  else if status = .ownershipRejected then some .ownershipBoundaryRejected
  else some .executorArtifactCleanupFailed

/-- Remove the executor's artifacts once everything before is proven. -/
def cleanupArtifacts (dependencies : CleanupDependencies) (request : PostReturnRequest)
    (executorComplete : Bool) : Verification Bool := do
  let proven ← unfailed
  if proven && executorComplete then
    let status ← answerOr .failed
      (fun answer => .cleanupExecutor request.operationId (cleanupStatus answer).proven)
      (dependencies.cleanupExecutor request.executorCleanup)
    checkVerdict (artifactFailure status) "executor-artifact-cleanup"
    pure status.proven
  else
    skipCheck "executor-artifact-cleanup"
    pure false

/-- Release the locks once the artifacts are removed. -/
def releaseLocks (dependencies : CleanupDependencies) (request : PostReturnRequest)
    (executorCleaned : Bool) : Verification Bool := do
  let proven ← unfailed
  if executorCleaned && proven then
    let clusterIds := request.clusters.map (·.clusterId)
    let status ← answerOr .failed
      (fun answer =>
        .releaseLocks request.planId request.nodeId clusterIds (cleanupStatus answer).proven)
      (dependencies.release request.planId request.nodeId clusterIds)
    checkThat status.proven "lock-release" .lockReleaseFailed
    pure status.proven
  else
    skipCheck "lock-release"
    pure false

/-- `verify_and_cleanup` with its dependencies. -/
def verifyConfigured (dependencies : CleanupDependencies) (request : PostReturnRequest) :
    Verification PostReturnResult := do
  let sshReady ← booleanCall (.waitForSsh request.nodeId request.hostReturnTimeoutSeconds)
    (coordinator.waitForSsh request.nodeId request.hostReturnTimeoutSeconds)
  checkThat sshReady "ssh-return" .sshUnavailable
  let observedBootId ← coordinator.verifyBootId request sshReady
  coordinator.verifyServices request.nodeId request.workloads request.endpoints sshReady
  forEach request.clusters coordinator.verifyCluster
  forEach request.serviceBudgets coordinator.verifyBudget
  let (imported, complete) ← importExecutorResult dependencies request observedBootId sshReady
  forEach request.allocationGuards (restoreAllocation dependencies)
  forEach request.shutdownRecords (clearShutdown dependencies)
  let cleaned ← cleanupArtifacts dependencies request complete
  let released ← releaseLocks dependencies request cleaned
  let report ← view id
  let completedAt ← read fun world => coordinator.clock world.trace
  ofExcept (PostReturnResult.validate
    (if report.errors = [] ∧ released then .complete else .recoveryRequired) report
    ⟨imported, complete, cleaned, released⟩ completedAt)

/-- `verify_and_cleanup`. -/
def verifyAndCleanup (request : PostReturnRequest) : Verification PostReturnResult :=
  match coordinator.dependencies with
  | some dependencies => coordinator.verifyConfigured dependencies request
  | none =>
      raise ⟨.runtimeError, "full post-return cleanup dependencies are not configured"⟩

end PostReturnCoordinator

end ElKeeper.PostReturn
