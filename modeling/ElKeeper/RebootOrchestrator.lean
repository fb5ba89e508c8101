import ElKeeper.RebootGateways

/-!
# The reboot orchestrator

`RebootOrchestrator.run` with its private helpers, cut at the phases of a
reboot: cluster preparation, guard activation, executor staging, the invocation
itself, and the observation of the host's return.  A phase either ends the run
with a result or continues with a value.
-/

namespace ElKeeper

/-- A phase that ended the run, or the value with which the run goes on. -/
inductive Progress (α : Type) where
  | ended (result : RebootOrchestrationResult)
  | continues (value : α)

/-- `ClusterGuardActivation`: the active checkpoints, and why it stopped. -/
structure ClusterGuardActivation where
  active : List (Nat × Json)
  failure : Option (RebootOrchestrationStatus × String)

structure RecoveryHandoff where
  latestCheckpoint : Option CheckpointKey
  sideEffectState : Option SideEffectState
  resumeAllowed : Bool
  observationRequired : Bool
  reasonCode : String

/-- `recovery_handoff`, from the latest checkpoint of the plan. -/
def recoveryHandoff : Option CheckpointRecord → RecoveryHandoff
  | none => ⟨none, none, true, false, "no-side-effect-checkpoint"⟩
  | some latest =>
      if latest.key = .returnDiscovered then
        ⟨some latest.key, some latest.sideEffectState, false, false,
          "continue-post-return-verification"⟩
      else
        let ambiguous : Bool := latest.key = .rebootIntent ||
          latest.sideEffectState = .mayHaveStarted || latest.sideEffectState = .verified
        ⟨some latest.key, some latest.sideEffectState, !ambiguous, ambiguous,
          if ambiguous then "observe-host-and-executor-before-resume"
          else "safe-pre-side-effect-checkpoint"⟩

namespace RebootRequest

/-- `_result`. -/
def result (request : RebootRequest) (status : RebootOrchestrationStatus)
    (reasonCode : String) (bootId : Option String := none)
    (executorState : Option ExecutorDiscoveryState := none) : RebootOrchestrationResult where
  status := status
  planId := request.planId
  operationId := request.operationId
  reasonCode := reasonCode
  bootId := bootId
  executorState := executorState

end RebootRequest

namespace RebootOrchestrator

open Program MaintenanceStore

/-- `str` of an optional text. -/
def pyText (text : Option String) : String :=
  text.getD "None"

/-! ### Plan states -/

/-- `_mark_failed`. -/
def markFailed (planId : String) : Operation Unit := do
  let plan ← getPlan planId
  if plan.lifecycleState = .executing then
    let _ ← transitionPlan planId plan.stateRevision .failed
    pure ()
  else
    pure ()

/-- `_mark_recovery_required`. -/
def markRecoveryRequired (planId : String) : Operation Unit := do
  let plan ← getPlan planId
  if plan.lifecycleState = .executing ∨ plan.lifecycleState = .paused then
    let _ ← transitionPlan planId plan.stateRevision .recoveryRequired
    pure ()
  else
    pure ()

/-- `_enter_execution`. -/
def enterExecution (plan : PlanRecord) (resume : Bool) : Operation PlanRecord :=
  if plan.lifecycleState = .ready then
    transitionPlan plan.id plan.stateRevision .executing
  else if plan.lifecycleState = .paused ∧ resume then
    transitionPlan plan.id plan.stateRevision .executing
  else if plan.lifecycleState = .executing ∨ plan.lifecycleState = .paused then
    pure plan
  else
    raise ⟨.runtimeError,
      "maintenance plan cannot execute from " ++ plan.lifecycleState.value⟩

/-- `_validate_plan`. -/
def validatePlan (plan : PlanRecord) (request : RebootRequest) : Except Fault Unit :=
  if plan.operationKind ≠ .reboot ∨ plan.targetNodeId ≠ some request.nodeId then
    .error ⟨.valueError, "maintenance plan identity does not match the reboot request"⟩
  else
    .ok ()

/-- Leave the plan in recovery and end the run. -/
def endInRecovery (request : RebootRequest) (reasonCode : String)
    (bootId : Option String := none) (executorState : Option ExecutorDiscoveryState := none) :
    Action RebootOrchestrationResult := do
  store (markRecoveryRequired request.planId)
  pure (request.result .recoveryRequired reasonCode bootId executorState)

/-- Fail the plan and end the run. -/
def endBlocked (request : RebootRequest) (reasonCode : String) :
    Action RebootOrchestrationResult := do
  store (markFailed request.planId)
  pure (request.result .blocked reasonCode)

section Phases

variable (orchestrator : RebootOrchestrator) (request : RebootRequest)

/-- `journal.record` at the orchestrator's sequence base. -/
def record (key : CheckpointKey) (sequence : Nat) (sideEffectState : SideEffectState)
    (payload : CheckpointPayload) (observation : Json := .obj []) : Action CheckpointRecord :=
  store (recordCheckpoint request.planId
    { key := key
      sequence := orchestrator.sequenceBase + sequence
      sideEffectState := sideEffectState
      payload := payload
      observation := observation })

/-! ### Cluster preparation -/

/-- One capture; a cluster without a guard has a fixed one. -/
def captureCluster (spec : ClusterGuardSpec) : Action Json :=
  match spec.guard with
  | none => pure (.obj [("cluster_id", .num spec.clusterId), ("guard_required", .bool false)])
  | some guard => ask (fun _ => .guardCapture spec.clusterId) guard.capture

def captureClusters : List ClusterGuardSpec → Action (List (Nat × Json))
  | [] => pure []
  | spec :: rest => do
      let capture ← captureCluster spec
      let captures ← captureClusters rest
      pure ((spec.clusterId, capture) :: captures)

def recordCaptures : Nat → List (Nat × Json) → Action Unit
  | _, [] => pure ()
  | offset, (clusterId, capture) :: rest => do
      let _ ← record orchestrator request (.clusterCaptured clusterId) (100 + offset) .notStarted
        (.clusterCapture clusterId capture)
      recordCaptures (offset + 1) rest

/-- `record_cluster_preparation`. -/
def recordClusterPreparation (captures : List (Nat × Json)) : Action CheckpointRecord :=
  savepoint do
    recordCaptures orchestrator request 0 captures
    record orchestrator request .clustersPrepared 200 .prepared
      (.clusterIds (captures.map (·.1)))

/-- `_hydrate_checkpoint`. -/
def hydrateCheckpoint (guard : Option ClusterGuard) (payload : Json) : Except Fault Json :=
  match guard with
  | none => .ok payload
  | some guard => guard.hydrate payload

/-- `_load_capture`. -/
def loadCapture (spec : ClusterGuardSpec) : Action Json := do
  match ← view fun database => database.journal request.planId (.clusterCaptured spec.clusterId) with
  | none =>
      raise ⟨.runtimeError, "aggregate cluster preparation checkpoint is incomplete"⟩
  | some row =>
      match row.payload with
      | .clusterCapture _ capture => ofExcept (hydrateCheckpoint spec.guard capture)
      | _ => raise ⟨.keyError, "capture"⟩

def loadCaptures : List ClusterGuardSpec → Action (List (Nat × Json))
  | [] => pure []
  | spec :: rest => do
      let capture ← loadCapture request spec
      let captures ← loadCaptures rest
      pure ((spec.clusterId, capture) :: captures)

/-- `_prepare_clusters`. -/
def prepareClusters : Action (List (Nat × Json)) := do
  match ← view fun database => database.journal request.planId .clustersPrepared with
  | some _ => loadCaptures request request.clusters
  | none => do
      let captures ← captureClusters request.clusters
      let _ ← recordClusterPreparation orchestrator request captures
      pure captures

/-- `_apply_safe_control` at the checkpoint `clusters-prepared`. -/
def applySafeControl : Action (Option RebootOrchestrationResult) := do
  let action ← Program.read fun world => orchestrator.control world.trace
  if action = .none then
    pure none
  else
    let plan ← store (getPlan request.planId)
    let attempt ← view fun database =>
      1 + (database.checkpoints.filter fun row =>
        row.planId = request.planId && row.key.isControl action).length
    let _ ← record orchestrator request (.control action attempt) (250 + attempt) .notStarted
      (.safeCheckpoint "clusters-prepared")
    let paused ← store (transitionPlan request.planId plan.stateRevision .paused)
    if action = .pause then
      pure (some (request.result .paused "pause-requested"))
    else
      let _ ← store (transitionPlan request.planId paused.stateRevision .cancelled)
      pure (some (request.result .cancelled "cancel-requested"))

/-- `_evaluate`. -/
def evaluate (stage : PredicateStage) : Action PredicateEvaluation := do
  let evaluation ← orchestrator.predicates.evaluate request.planId request.nodeId stage
  let attempt ← view fun database =>
    1 + (database.checkpoints.filter fun row =>
      row.planId = request.planId && row.key.isPredicates stage).length
  require (attempt ≤ 99)
    ⟨.runtimeError, "predicate re-evaluation attempt limit exceeded"⟩
  let _ ← record orchestrator request (.predicates stage attempt)
    ((match stage with | .prepare => 300 | .reboot => 600) + attempt)
    (match stage with | .prepare => .notStarted | .reboot => .prepared)
    (.evaluation evaluation)
  pure evaluation

/-! ### Allocation guards -/

/-- Restore one active guard: whether it is verified, and what is recorded. -/
def restoreGuard (spec : ClusterGuardSpec) (guard : ClusterGuard) (checkpoint : Json)
    (verified : Bool) : Action (Bool × Json) := do
  let outcome ← attempt do
    let answer ← ask (fun _ => .guardRestoration spec.clusterId) (guard.restore checkpoint)
    if verified then
      let status ← ofExcept (field answer "status")
      pure (decide (status = .str "restored"), Json.obj answer)
    else
      pure (false, Json.obj answer)
  match outcome with
  | .ok restored => pure restored
  | .error _ =>
      pure (false, .obj [("status", .str "recovery_required"),
        ("error_category", .str "allocation-restoration-failed")])

def restoreEach (active : List (Nat × Json)) :
    List ClusterGuardSpec → Bool → List (Nat × Json) → Action (Bool × List (Nat × Json))
  | [], verified, results => pure (verified, results)
  | spec :: rest, verified, results =>
      match spec.guard, active.lookup spec.clusterId with
      | some guard, some checkpoint => do
          let (restored, answer) ← restoreGuard spec guard checkpoint verified
          restoreEach active rest restored (results ++ [(spec.clusterId, answer)])
      | _, _ => restoreEach active rest verified results

/-- `_restore_guards` with the trigger `failure`. -/
def restoreGuards (active : List (Nat × Json)) : Action Bool := do
  let (verified, results) ← restoreEach active request.clusters.reverse true []
  let _ ← record orchestrator request .clusterGuardsRestored 650
    (if verified then .verified else .mayHaveStarted) (.restoration verified results)
  pure verified

/-- The checkpoints that an earlier activation recorded. -/
def hydrateActive (guards : List (Nat × Json)) :
    List ClusterGuardSpec → Except Fault (List (Nat × Json))
  | [] => .ok []
  | spec :: rest =>
      match spec.guard with
      | none => hydrateActive guards rest
      | some guard =>
          match guards.lookup spec.clusterId with
          | none => .error ⟨.keyError, toString spec.clusterId⟩
          | some payload => do
              let checkpoint ← guard.hydrate payload
              let others ← hydrateActive guards rest
              pure ((spec.clusterId, checkpoint) :: others)

/-- Activate one guard; a missing capture counts as a failed activation. -/
def activateGuard (captures : List (Nat × Json)) (spec : ClusterGuardSpec)
    (guard : ClusterGuard) : Action Dict :=
  match captures.lookup spec.clusterId with
  | none => raise ⟨.keyError, toString spec.clusterId⟩
  | some capture =>
      ask (fun reply => .guardActivation spec.clusterId (activated reply))
        (guard.activate capture)

/-- The loop of `_activate_cluster_guards`. -/
def activateEach (captures : List (Nat × Json)) :
    List ClusterGuardSpec → List (Nat × Json) → Action ClusterGuardActivation
  | [], active => do
      let _ ← record orchestrator request .clusterGuardsActive 400 .verified (.guards active)
      pure ⟨active, none⟩
  | spec :: rest, active =>
      match spec.guard with
      | none => activateEach captures rest active
      | some guard => do
          match ← attempt (activateGuard captures spec guard) with
          | .error _ => do
              let _ ← restoreGuards orchestrator request active
              pure ⟨active,
                some (.recoveryRequired, "cluster-preparation-activation-ambiguous")⟩
          | .ok answer => do
              let status ← ofExcept (field answer "status")
              let checkpoint ← ofExcept (field answer "checkpoint")
              if status = .str "active" then
                activateEach captures rest (active ++ [(spec.clusterId, checkpoint)])
              else
                let restored ← restoreGuards orchestrator request active
                if status = .str "recovery_required" ∨ restored = false then
                  pure ⟨active,
                    some (.recoveryRequired, "cluster-preparation-recovery-required")⟩
                else
                  pure ⟨active, some (.blocked, "cluster-preparation-failed")⟩

/-- `_activate_cluster_guards`. -/
def activateClusterGuards (captures : List (Nat × Json)) : Action ClusterGuardActivation := do
  match ← view fun database => database.journal request.planId .clusterGuardsActive with
  | some existing =>
      match existing.payload with
      | .guards guards => do
          let active ← ofExcept (hydrateActive guards request.clusters)
          pure ⟨active, none⟩
      | _ => raise ⟨.keyError, "guards"⟩
  | none => activateEach orchestrator request captures request.clusters []

/-- Restore the guards, leave the plan in recovery and end the run. -/
def withdraw (active : List (Nat × Json)) (reasonCode : String) :
    Action RebootOrchestrationResult := do
  let restored ← restoreGuards orchestrator request active
  endInRecovery request (if restored then reasonCode else "allocation-restoration-unverified")

/-! ### The phases of a run -/

/-- From cluster preparation to active guards. -/
def prepareForReboot : Action (Progress (List (Nat × Json))) := do
  match ← attempt (prepareClusters orchestrator request) with
  | .error _ => do
      let result ← endBlocked request "cluster-preparation-capture-failed"
      pure (.ended result)
  | .ok captures => do
      match ← applySafeControl orchestrator request with
      | some controlled => pure (.ended controlled)
      | none => do
          match ← attempt (evaluate orchestrator request .prepare) with
          | .error _ => do
              let result ← endBlocked request "preparation-predicate-evaluation-failed"
              pure (.ended result)
          | .ok evaluation => do
              if evaluation.blockingIds ≠ [] then
                let result ← endBlocked request "preparation-predicate-blocked"
                pure (.ended result)
              else
                let activation ← activateClusterGuards orchestrator request captures
                match activation.failure with
                | none => pure (.continues activation.active)
                | some (.recoveryRequired, reasonCode) => do
                    let result ← endInRecovery request reasonCode
                    pure (.ended result)
                | some (status, reasonCode) => do
                    store (markFailed request.planId)
                    pure (.ended (request.result status reasonCode))

/-- `_stage_executor`. -/
def stageExecutor : Action ExecutorStageReceipt := do
  match ← view fun database => database.journal request.planId .executorStaged with
  | some existing =>
      match existing.payload with
      | .stageReceipt receipt => pure receipt
      | _ => raise ⟨.keyError, "operation_id"⟩
  | none => do
      let receipt ← ask (fun _ => .executorStage request.operationId)
        (orchestrator.stage request.executorManifest)
      require (receipt.operationId = request.operationId)
        ⟨.runtimeError, "executor stage receipt operation identity does not match"⟩
      require (receipt.manifestHash = request.executorManifest.signature.payloadSha256)
        ⟨.runtimeError, "executor stage receipt manifest digest does not match"⟩
      let _ ← record orchestrator request .executorStaged 500
        (if receipt.acknowledged then .verified else .mayHaveStarted) (.stageReceipt receipt)
      pure receipt

/-- From active guards to passed reboot predicates. -/
def stageForReboot (active : List (Nat × Json)) : Action (Progress Unit) := do
  match ← attempt (stageExecutor orchestrator request) with
  | .error _ => do
      let result ← withdraw orchestrator request active "executor-stage-failed"
      pure (.ended result)
  | .ok staged => do
      if staged.acknowledged = false then
        let result ← withdraw orchestrator request active "executor-stage-unacknowledged"
        pure (.ended result)
      else
        match ← attempt (evaluate orchestrator request .reboot) with
        | .error _ => do
            let result ← withdraw orchestrator request active
              "reboot-predicate-evaluation-failed"
            pure (.ended result)
        | .ok evaluation => do
            if evaluation.blockingIds ≠ [] then
              let restored ← restoreGuards orchestrator request active
              if restored then
                let result ← endBlocked request "reboot-predicate-blocked"
                pure (.ended result)
              else
                let result ← endInRecovery request "allocation-restoration-unverified"
                pure (.ended result)
            else
              pure (.continues ())

/-- Record the intent, invoke the reboot and record its acknowledgement. -/
def invoke : Action (Progress CheckpointRecord) := do
  let _ ← record orchestrator request .rebootIntent 700 .prepared
    (.intent request.operationId request.nodeId)
    (.obj [("pre_reboot_boot_id", .str request.preRebootBootId)])
  match ← attempt (ask (fun _ => .invokeReboot request.nodeId request.operationId)
      (orchestrator.invokeReboot request.nodeId request.operationId)) with
  | .error _ => do
      let result ← endInRecovery request "reboot-invocation-ambiguous"
      pure (.ended result)
  | .ok invocation => do
      if invocation.acknowledged = false then
        let result ← endInRecovery request "reboot-invocation-unacknowledged"
        pure (.ended result)
      else if invocation.operationId ≠ request.operationId then
        let result ← endInRecovery request "reboot-invocation-identity-mismatch"
        pure (.ended result)
      else
        let row ← record orchestrator request .invocationAcknowledged 800 .mayHaveStarted
          (.invocation invocation)
        pure (.continues row)

/-- `_completed_result`. -/
def completedResult (checkpoint : CheckpointRecord) :
    Except Fault RebootOrchestrationResult :=
  match checkpoint.payload with
  | .returned _ bootId discovery =>
      .ok (request.result .readyForPostReturn "return-discovered" (some (pyText bootId))
        (some discovery.state))
  | _ => .error ⟨.keyError, "boot_id"⟩

/-- Wait until the host is seen to go, unless that was recorded before. -/
def observeDisconnect (acknowledged : CheckpointRecord) : Action (Progress Unit) := do
  match ← view fun database => database.journal request.planId .sshDisconnected with
  | some _ => pure (.continues ())
  | none =>
      match acknowledged.payload with
      | .invocation receipt => do
          match ← attempt (ask (fun _ => .waitForDisconnect request.nodeId)
              (orchestrator.waitForDisconnect request.nodeId receipt.invocationId)) with
          | .error _ => do
              let result ← endInRecovery request "ssh-disconnect-observation-failed"
              pure (.ended result)
          | .ok disconnect => do
              let _ ← record orchestrator request .sshDisconnected 900 .mayHaveStarted
                (.disconnect disconnect)
              if disconnect.disconnected = false then
                let result ← endInRecovery request "ssh-disconnect-not-observed"
                pure (.ended result)
              else
                pure (.continues ())
      | _ => raise ⟨.keyError, "invocation_id"⟩

/-- Wait until the host is back, unless that was recorded before. -/
def observeReconnect : Action (Progress CheckpointRecord) := do
  match ← view fun database => database.journal request.planId .hostReconnected with
  | some row => pure (.continues row)
  | none => do
      match ← attempt (ask (fun _ => .waitForReconnect request.nodeId)
          (orchestrator.waitForReconnect request.nodeId)) with
      | .error _ => do
          let result ← endInRecovery request "host-return-observation-failed"
          pure (.ended result)
      | .ok reconnect => do
          let row ← record orchestrator request .hostReconnected 1000 .mayHaveStarted
            (.reconnect reconnect)
          pure (.continues row)

/-- Discover the executor's result on the returned host. -/
def discoverReturn (bootId : Option String) : Action RebootOrchestrationResult := do
  match ← attempt (ask (fun _ => .executorDiscovery request.operationId)
      (orchestrator.discover request.operationId)) with
  | .error _ =>
      endInRecovery request "executor-discovery-failed" (some (pyText bootId))
  | .ok discovery => do
      if discovery.state ≠ .complete then
        endInRecovery request "executor-state-unverified" (some (pyText bootId))
          (some discovery.state)
      else
        let completed ← record orchestrator request .returnDiscovered 1100 .verified
          (.returned request.operationId bootId discovery)
        ofExcept (completedResult request completed)

/-- Everything after the acknowledged invocation. -/
def observeReturn (acknowledged : CheckpointRecord) : Action RebootOrchestrationResult := do
  match ← observeDisconnect orchestrator request acknowledged with
  | .ended result => pure result
  | .continues _ => do
      match ← observeReconnect orchestrator request with
      | .ended result => pure result
      | .continues reconnected =>
          match reconnected.payload with
          | .reconnect observation =>
              if observation.connected = false then
                endInRecovery request "host-not-returned"
              else if observation.bootId = some request.preRebootBootId then
                endInRecovery request "boot-id-unchanged" (some (pyText observation.bootId))
              else
                discoverReturn orchestrator request observation.bootId
          -- Neither key is in another payload: `get("connected")` is falsy.
          | _ => endInRecovery request "host-not-returned"

/-- A run whose journal has neither an intent nor an acknowledgement. -/
def runFresh : Action RebootOrchestrationResult := do
  match ← prepareForReboot orchestrator request with
  | .ended result => pure result
  | .continues active => do
      match ← stageForReboot orchestrator request active with
      | .ended result => pure result
      | .continues _ => do
          match ← invoke orchestrator request with
          | .ended result => pure result
          | .continues acknowledged => observeReturn orchestrator request acknowledged

/-- `RebootOrchestrator.run` once the plan executes. -/
def runExecuting : Action RebootOrchestrationResult := do
  let intent ← view fun database => database.journal request.planId .rebootIntent
  let acknowledged ← view fun database =>
    database.journal request.planId .invocationAcknowledged
  match intent, acknowledged with
  | _, some row => observeReturn orchestrator request row
  | some _, none => endInRecovery request "reboot-invocation-ambiguous"
  | none, none => runFresh orchestrator request

/-- `RebootOrchestrator.run`. -/
def run (resume : Bool) : Action RebootOrchestrationResult := do
  require orchestrator.executionEnabled
    ⟨.runtimeError, "maintenance reboot execution is disabled"⟩
  let plan ← store (getPlan request.planId)
  ofExcept (validatePlan plan request)
  match ← view fun database => database.journal request.planId .returnDiscovered with
  | some completed => ofExcept (completedResult request completed)
  | none => do
      if plan.lifecycleState = .recoveryRequired then
        let latest ← view fun database => database.latestCheckpoint request.planId
        pure (request.result .recoveryRequired (recoveryHandoff latest).reasonCode)
      else
        let entered ← store (enterExecution plan resume)
        if entered.lifecycleState = .paused then
          pure (request.result .paused "pause-requested")
        else
          runExecuting orchestrator request

end Phases

end RebootOrchestrator

end ElKeeper
