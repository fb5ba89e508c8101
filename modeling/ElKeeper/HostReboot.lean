import ElKeeper.MaintenanceWorkflow

/-!
# The reboot of a maintained host

`HostMaintenanceRebootCoordinator`: a signed request is persisted once and the
reboot orchestrator runs it at its production sequence base.
-/

namespace ElKeeper

/-- The runtime of the host behind one coordinator, with its signing key. -/
structure HostRebootGateways where
  readBootId : Nat → History → Except Fault (Option String)
  stage : SignedHostExecutorManifest → History → Except Fault ExecutorStageReceipt
  discover : String → History → Except Fault ExecutorDiscovery
  invokeReboot : Nat → String → History → Except Fault RebootInvocationReceipt
  waitForDisconnect : Nat → String → History → Except Fault SshDisconnectObservation
  waitForReconnect : Nat → History → Except Fault ReconnectObservation
  /-- Whether the clean-up of the executor was proven. -/
  cleanupExecutor : String → History → Except Fault Bool
  sign : HostExecutorManifest → ExecutorSignature
  validateManifest : HostExecutorManifest → Except Fault Unit
  clock : History → Nat

namespace HostReboot

open Program MaintenanceStore

/-- `sequence_base` of the orchestrator as the application builds it. -/
def productionSequenceBase : Nat :=
  5000

/-- The orchestrator that the application builds for the targets of a plan. -/
def orchestrator (gateways : HostRebootGateways) (targets : List ManagedContainerTarget) :
    RebootOrchestrator where
  predicates := .hostMaintenance
    ((targets.map (·.assignmentId)).insertionSort (· ≤ ·)) gateways.clock
  stage := gateways.stage
  discover := gateways.discover
  invokeReboot := gateways.invokeReboot
  waitForDisconnect := gateways.waitForDisconnect
  waitForReconnect := gateways.waitForReconnect
  control := fun _ => .none
  executionEnabled := true
  sequenceBase := productionSequenceBase
  sequenceBase_bounded := by decide

/-- The constructor of `RebootRequest` with the checks on its own fields. -/
def rebootRequest (planId : String) (nodeId : Nat) (bootId : String)
    (envelope : SignedHostExecutorManifest) : Except Fault RebootRequest :=
  if positive : 1 ≤ nodeId then
    if present : blank bootId = false then
      if identity : envelope.manifest.planId = planId ∧ envelope.manifest.nodeId = nodeId then
        if sameBoot : envelope.manifest.preRebootBootId = bootId then
          .ok
            { planId := planId
              nodeId := nodeId
              preRebootBootId := bootId
              executorManifest := envelope
              clusters := []
              nodeId_positive := positive
              preRebootBootId_present := present
              manifest_planId := identity.1
              manifest_nodeId := identity.2
              manifest_bootId := sameBoot
              clusters_sorted := .nil
              clusters_bounded := by simp }
        else
          .error ⟨.valueError, "executor manifest boot ID must match the reboot request"⟩
      else
        .error ⟨.valueError, "executor manifest identity must match the reboot request"⟩
    else .error ⟨.valueError, "pre_reboot_boot_id must not be blank"⟩
  else .error ⟨.valueError, "node_id must be positive"⟩

/-- `_request_from_payload`. -/
def requestFromPayload (plan : PlanRecord) :
    CheckpointPayload → Except Fault RebootRequest
  | .request planId nodeId bootId envelope =>
      match rebootRequest planId nodeId bootId envelope with
      | .error _ => .error ⟨.runtimeError, "persisted host reboot request is invalid"⟩
      | .ok request =>
          if request.planId = plan.id ∧ plan.targetNodeId = some request.nodeId then .ok request
          else .error ⟨.runtimeError, "persisted host reboot request targets another plan"⟩
  | _ => .error ⟨.runtimeError, "persisted host reboot request is invalid"⟩

/-- The manifest of a new request. -/
def newManifest (plan : PlanRecord) (nodeId : Nat) (bootId : String)
    (targets : List ManagedContainerTarget) (now : Nat) : HostExecutorManifest where
  operationId := plan.id
  planId := plan.id
  nodeId := nodeId
  createdAt := now
  expiresAt := min plan.expiresAt (secondsAfter now 3600)
  preRebootBootId := bootId
  requiredUnits := (targets.map (·.unit)).insertionSort (· ≤ ·)

/-- The sequence number of the persisted request. -/
def requestSequence : Nat :=
  4900

/-- The persisted request. -/
def requestContent (request : RebootRequest) : CheckpointContent where
  key := .hostRebootRequest
  sequence := requestSequence
  sideEffectState := .prepared
  payload := .request request.planId request.nodeId request.preRebootBootId
    request.executorManifest

section

variable (gateways : HostRebootGateways) (plan : PlanRecord)
  (targets : List ManagedContainerTarget)

/-- A request for a host whose boot identity is known. -/
def newRequest (nodeId : Nat) (bootId : String) (now : Nat) : Except Fault RebootRequest :=
  if min plan.expiresAt (secondsAfter now 3600) ≤ now then
    .error ⟨.runtimeError, "host maintenance plan expired before reboot"⟩
  else
    let manifest := newManifest plan nodeId bootId targets now
    match gateways.validateManifest manifest with
    | .error error => .error error
    | .ok _ => rebootRequest plan.id nodeId bootId ⟨manifest, gateways.sign manifest⟩

/-- `_request`. -/
def request : Action RebootRequest := do
  match ← view fun database => database.journal plan.id .hostRebootRequest with
  | some existing => ofExcept (requestFromPayload plan existing.payload)
  | none =>
      match plan.targetNodeId with
      | none => raise ⟨.runtimeError, "host maintenance plan has no target node"⟩
      | some nodeId => do
          match ← ask (fun _ => .readBootId nodeId) (gateways.readBootId nodeId) with
          | none => raise ⟨.runtimeError, "host boot identity is unavailable before reboot"⟩
          | some bootId => do
              let now ← Program.read fun world => gateways.clock world.trace
              let request ← ofExcept (newRequest gateways plan targets nodeId bootId now)
              let _ ← store (recordCheckpoint plan.id (requestContent request))
              pure request

/-- `reboot`: it returns only after a verified return of the host. -/
def reboot : Action Unit := do
  let request ← request gateways plan targets
  let result ← (orchestrator gateways targets).run request false
  if result.status = .readyForPostReturn then pure ()
  else
    raise ⟨.runtimeError, "host reboot requires recovery (" ++ result.reasonCode ++ ")"⟩

/-- `cleanup`. -/
def cleanup : Action Unit := do
  match ← view fun database => database.journal plan.id .hostRebootRequest with
  | none => raise ⟨.runtimeError, "host reboot executor was never staged"⟩
  | some existing => do
      let request ← ofExcept (requestFromPayload plan existing.payload)
      let returned ← view fun database => database.journal plan.id .returnDiscovered
      require returned.isSome ⟨.runtimeError, "host reboot return was not verified"⟩
      let proven ← ask (fun _ => .executorCleanup request.operationId)
        (gateways.cleanupExecutor request.operationId)
      require proven ⟨.runtimeError, "host reboot executor cleanup was not confirmed"⟩

end

end HostReboot

end ElKeeper
