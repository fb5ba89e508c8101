import ElKeeper.WorkloadStore

/-!
# Startup of the controller

The classification of interrupted maintenance plans, the reconciliation of their
workflows, and the tail of `complete_controller_bootstrap` that closes the runs
of the previous process.  Everything happens on one connection.
-/

namespace ElKeeper

inductive RecoveryClassification where
  | complete
  | incomplete
  | ambiguous
  | safeToResume
deriving DecidableEq, Repr

structure RecoveryDecision where
  classification : RecoveryClassification
  reasonCode : String
  resumable : Bool
deriving DecidableEq, Repr

namespace CheckpointKey

/-- `_HOST_REBOOT_PRE_INTENT_CHECKPOINTS`. -/
def preIntent : CheckpointKey → Bool
  | hostStep .reboot none | hostRebootRequest | clustersPrepared | executorStaged
  | clusterGuardsActive => true
  | _ => false

/-- `_HOST_REBOOT_AMBIGUOUS_CHECKPOINTS`. -/
def rebootAmbiguous : CheckpointKey → Bool
  | rebootIntent | invocationAcknowledged | sshDisconnected | hostReconnected => true
  | _ => false

/-- `_HOST_REBOOT_POST_RETURN_CHECKPOINTS`. -/
def postReturn : CheckpointKey → Bool
  | returnDiscovered | hostStep .rebootComplete none => true
  | _ => false

end CheckpointKey

/-- `classify_host_reboot_checkpoint`. -/
def classifyHostRebootCheckpoint (plan : PlanRecord) (checkpoint : CheckpointRecord) :
    Option RecoveryDecision :=
  if plan.targetManifest.publicOperation ≠ some "host_maintenance" then none
  else if checkpoint.key.preIntent then
    some ⟨.safeToResume, "reboot-not-invoked", true⟩
  else if checkpoint.key.rebootAmbiguous then
    some ⟨.ambiguous, "reboot-outcome-requires-rediscovery", false⟩
  else if checkpoint.key.postReturn then
    some ⟨.safeToResume, "reboot-return-verified-continue-post-return", true⟩
  else none

namespace StartupRecovery

open Program MaintenanceStore

/-- The verdict of the four projections on a checkpoint. -/
abbrev Projections :=
  PlanRecord → CheckpointRecord → RecoveryDecision

/-! ### The persisted projections -/

structure RecoveryEvidence where
  sideEffectState : SideEffectState
  observedFingerprint : Option String
  beforeFingerprint : Option String
  afterFingerprint : Option String
  resumeIsIdempotent : Bool

/-- `classify_recovery` of a complete observation with a matching identity. -/
def classifyRecovery (evidence : RecoveryEvidence) : RecoveryDecision :=
  match evidence.observedFingerprint with
  | none => ⟨.ambiguous, "observation_fingerprint_missing", false⟩
  | some observed =>
      if evidence.afterFingerprint = some observed then
        ⟨.complete, "after_state_observed", false⟩
      else if evidence.beforeFingerprint = some observed then
        match evidence.sideEffectState with
        | .notStarted | .prepared => ⟨.safeToResume, "side_effect_not_started", true⟩
        | .mayHaveStarted =>
            if evidence.resumeIsIdempotent then
              ⟨.safeToResume, "idempotent_side_effect_not_observed", true⟩
            else ⟨.incomplete, "side_effect_not_observed", false⟩
        | .verified => ⟨.ambiguous, "verified_checkpoint_disagrees_with_observation", false⟩
      else ⟨.ambiguous, "observation_matches_neither_checkpoint_state", false⟩

structure RecoveryProjectionResult where
  complete : Bool
  observedFingerprint : Option String
  beforeFingerprint : Option String
  afterFingerprint : Option String
  identityMatches : Bool
  resumeIsIdempotent : Bool

/-- A section without any value. -/
def emptySection : EvidenceSection :=
  ⟨none, none, none, none, none, none, none, none⟩

/-- The section that a source reads: its own, or the one at the root. -/
def sectionFor (evidence : CheckpointEvidence) (source : String) : EvidenceSection :=
  ((evidence.sections.lookup source).or evidence.root).getD emptySection

/-- The fingerprint of a source in an observation; only texts are stored there. -/
def observedIn (observation : Json) (source : String) : Option String :=
  match observation with
  | .obj entries =>
      match Dict.get entries (source ++ "_fingerprint") with
      | some (.str text) => some text
      | _ => none
  | _ => none

/-- An empty text counts as none. -/
def present (text : Option String) : Option String :=
  text.filter (· ≠ "")

/-- `PersistedCheckpointProjection.observe`. -/
def observePersisted (source : String) (checkpoint : CheckpointRecord) :
    RecoveryProjectionResult :=
  let part := sectionFor checkpoint.recoveryEvidence source
  let stored := part.observedFingerprint.getD part.fingerprint
  let observed := stored.or (observedIn checkpoint.observation source)
  { complete := (part.observationComplete.or part.complete).getD (present observed).isSome
    observedFingerprint := present observed
    beforeFingerprint := present part.beforeFingerprint
    afterFingerprint := present part.afterFingerprint
    identityMatches := part.identityMatches.getD true
    resumeIsIdempotent := part.resumeIsIdempotent.getD false }

/-- `_aggregate_fingerprint`: the one value, if there is exactly one. -/
def aggregateFingerprint (results : List RecoveryProjectionResult)
    (field : RecoveryProjectionResult → Option String) : Option String :=
  match (results.filterMap field).dedup with
  | [value] => some value
  | _ => none

/-- The sources of the default projections. -/
def projectionSources : List String :=
  ["host", "workload", "observability", "elasticsearch"]

/-- The decision on the results of the four projections. -/
def projectionDecision (sideEffectState : SideEffectState) (results : List RecoveryProjectionResult) :
    RecoveryDecision :=
  if results.any (!·.identityMatches) then ⟨.ambiguous, "projection_identity_mismatch", false⟩
  else if results.any (!·.complete) then ⟨.ambiguous, "projection_incomplete", false⟩
  else
    let observed := results.filter (·.observedFingerprint.isSome)
    classifyRecovery
      { sideEffectState := sideEffectState
        observedFingerprint := aggregateFingerprint observed (·.observedFingerprint)
        beforeFingerprint := aggregateFingerprint observed (·.beforeFingerprint)
        afterFingerprint := aggregateFingerprint observed (·.afterFingerprint)
        resumeIsIdempotent := results.all (·.resumeIsIdempotent) }

/-- `default_recovery_projections`. -/
def defaultProjections : Projections := fun _ checkpoint =>
  projectionDecision checkpoint.sideEffectState
    (projectionSources.map fun source => observePersisted source checkpoint)

/-! ### Classification -/

/-- The decision of `classify_checkpoint`. -/
def classifyCheckpoint (projections : Projections) (plan : PlanRecord)
    (checkpoint : CheckpointRecord) : RecoveryDecision :=
  (classifyHostRebootCheckpoint plan checkpoint).getD (projections plan checkpoint)

/-- `_startup_classification`, with whether the checkpoint is resumable. -/
def startupClassification (decision : RecoveryDecision) : StoredClassification × Bool :=
  match decision.classification with
  | .complete => (.complete, false)
  | .safeToResume => (.incomplete, true)
  | .incomplete => (.recoveryRequired, false)
  | .ambiguous => (.ambiguous, false)

/-- What a startup records about a decision. -/
def startupEvidence (plan : PlanRecord) (checkpoint : CheckpointRecord)
    (decision : RecoveryDecision) : StartupEvidence where
  sources :=
    if (classifyHostRebootCheckpoint plan checkpoint).isSome then ["host-reboot-checkpoint"]
    else projectionSources
  classification := (startupClassification decision).1
  reasonCode := decision.reasonCode
  resumable := (startupClassification decision).2

/-- A checkpoint with the classification of a startup. -/
def classified (evidence : StartupEvidence) (checkpoint : CheckpointRecord) :
    CheckpointRecord :=
  { checkpoint with
    recoveryEvidence :=
      { checkpoint.recoveryEvidence with
        startupReasonCode := some evidence.reasonCode
        startup := some evidence }
    recoveryClassification := some evidence.classification
    recoveryReasonCode := some evidence.reasonCode
    resumable := some evidence.resumable
    classificationRevision := checkpoint.classificationRevision + 1 }

/-- `persist_startup_classification`. -/
def persistStartupClassification (checkpointId expectedRevision : Nat)
    (evidence : StartupEvidence) : Operation Unit := do
  match ← read fun database => database.checkpoints.find? (·.id = checkpointId) with
  | none =>
      raise ⟨.recordNotFound,
        "Maintenance checkpoint " ++ toString checkpointId ++ " was not found"⟩
  | some checkpoint => do
      require (checkpoint.classificationRevision = expectedRevision)
        ⟨.revisionConflict, "Maintenance checkpoint classification revision changed"⟩
      update (Database.mapCheckpoints fun row =>
        if row.id = checkpointId then classified evidence row else row)

/-- The decision of `classify_plan`. -/
def classifyPlan (projections : Projections) (database : Database) (plan : PlanRecord) :
    RecoveryDecision :=
  match database.latestCheckpoint plan.id with
  | none => ⟨.ambiguous, "checkpoint_missing", false⟩
  | some checkpoint => classifyCheckpoint projections plan checkpoint

/-- A decision with a new reason is persisted with the latest checkpoint. -/
def persistDecision (plan : PlanRecord) (decision : RecoveryDecision) : Operation Unit := do
  match ← read fun database => database.latestCheckpoint plan.id with
  | none => pure ()
  | some checkpoint =>
      if checkpoint.recoveryEvidence.startupReasonCode = some decision.reasonCode then pure ()
      else
        persistStartupClassification checkpoint.id checkpoint.classificationRevision
          (startupEvidence plan checkpoint decision)

/-- `classify_plans`. -/
def classifyPlans (projections : Projections) :
    List PlanRecord → Operation (List (PlanRecord × RecoveryDecision))
  | [] => pure []
  | plan :: rest => do
      let decision ← read fun database => classifyPlan projections database plan
      persistDecision plan decision
      let others ← classifyPlans projections rest
      pure ((plan, decision) :: others)

/-- The lifecycle states of an interrupted plan. -/
def interrupted : MaintenanceState → Bool
  | .executing | .paused | .recoveryRequired => true
  | _ => false

/-- The plans that `prepare_startup_recovery` looks at. -/
def candidates (database : Database) : List PlanRecord :=
  database.plans.filter fun plan =>
    interrupted plan.lifecycleState ||
      plan.runId.any fun runId => (database.runStatus? runId).any (·.active)

/-- A paused plan executes again before it is closed. -/
def resumePaused (plan : PlanRecord) : Operation PlanRecord :=
  if plan.lifecycleState = .paused then
    transitionPlan plan.id plan.stateRevision .executing
  else
    pure plan

/-- A plan that executes or needs recovery succeeds. -/
def markSucceeded (plan : PlanRecord) : Operation Unit :=
  if plan.lifecycleState = .executing ∨ plan.lifecycleState = .recoveryRequired then do
    let _ ← transitionPlan plan.id plan.stateRevision .succeeded
    pure ()
  else
    pure ()

/-- A plan whose checkpoint proves it complete is closed. -/
def closePlan (plan : PlanRecord) : Operation Unit := do
  let current ← resumePaused plan
  markSucceeded current
  forEach plan.runId.toList fun runId => Runs.finishRun runId .succeeded

/-- The transition of one classified plan. -/
def recoverPlan (classified : PlanRecord × RecoveryDecision) : Operation Unit :=
  let (plan, decision) := classified
  if decision.classification = .complete then
    closePlan plan
  else if plan.lifecycleState = .executing ∨ plan.lifecycleState = .paused then do
    let _ ← transitionPlan plan.id plan.stateRevision .recoveryRequired
    pure ()
  else
    pure ()

/-- `prepare_startup_recovery`. -/
def prepareStartupRecovery (projections : Projections) : Operation Unit := do
  let plans ← read candidates
  let classified ← classifyPlans projections plans
  let protectedIds := (classified.filter fun entry =>
    entry.2.classification ≠ .complete).filterMap fun entry => entry.1.runId
  forEach classified recoverPlan
  Runs.markRecoveryRequired protectedIds

/-- `_is_planned_workflow`. -/
def isPlannedWorkflow (plan : PlanRecord) : Bool :=
  plan.targetManifest.publicOperation = some "host_maintenance" ||
    plan.targetManifest.publicOperation = some "container_maintenance"

/-- `_assignment_ids`, before they are sorted. -/
def assignmentIds (plan : PlanRecord) : List Nat :=
  let listed := (plan.targetManifest.assignmentRevisions.map (·.1)).filter (0 < ·)
  if listed = [] then plan.targetAssignmentId.toList else listed

/-- Move the plan's host to recovery. -/
def reconcileHost (plan : PlanRecord) (nodeId : Nat) : Operation Unit := do
  match ← read fun database => database.hostState? nodeId with
  | none => pure ()
  | some host =>
      if host.activePlanId = some plan.id ∧ host.state ≠ .recoveryRequired then do
        let _ ← transitionHostState nodeId host.stateRevision .recoveryRequired (some plan.id)
        pure ()
      else
        pure ()

/-- Move one assignment of the plan to recovery. -/
def reconcileAssignment (plan : PlanRecord) (assignmentId : Nat) : Operation Unit := do
  match ← read fun database => database.assignmentState? assignmentId with
  | none => pure ()
  | some state =>
      if state.activePlanId = some plan.id ∧ state.workflowState ≠ .recoveryRequired then do
        let _ ← transitionAssignmentState assignmentId state.stateRevision .recoveryRequired
          (some plan.id)
        pure ()
      else
        pure ()

/-- An interrupted plan is moved to recovery, others must be there. -/
def requireRecovery (plan : PlanRecord) : Operation Unit :=
  if plan.lifecycleState = .executing ∨ plan.lifecycleState = .paused then do
    let _ ← transitionPlan plan.id plan.stateRevision .recoveryRequired
    pure ()
  else
    require (plan.lifecycleState = .recoveryRequired)
      ⟨.valueError, "Maintenance workflow recovery is not available while the plan is " ++
        plan.lifecycleState.value⟩

/-- The host that a host maintenance plan holds. -/
def heldHost (plan : PlanRecord) : List Nat :=
  if plan.targetManifest.publicOperation = some "host_maintenance" then
    plan.targetNodeId.toList
  else []

/-- `reconcile_plan`. -/
def reconcilePlan (planId : String) : Operation Unit := do
  let plan ← getPlan planId
  require (isPlannedWorkflow plan)
    ⟨.valueError, "Maintenance plan is not a planned host or container workflow"⟩
  requireRecovery plan
  Runs.markRecoveryRequired plan.runId.toList
  forEach (heldHost plan) (reconcileHost plan)
  forEach (assignmentIds plan) (reconcileAssignment plan)

/-- `reconcile_startup_workflows`. -/
def reconcileStartupWorkflows : Operation Unit := do
  let plans ← read fun database =>
    database.plans.filter fun plan => interrupted plan.lifecycleState && isPlannedWorkflow plan
  forEach plans fun plan => reconcilePlan plan.id

/-! ### The tail of the bootstrap -/

/-- A run of the previous process that no maintenance plan owns. -/
def abandoned (database : Database) (run : RunRow) : Bool :=
  (run.status = .queued || run.status = .running) &&
    !database.plans.any fun plan => plan.runId = some run.id

/-- The cluster or the node is gone. -/
def orphaned (database : Database) (clusterId nodeId : Nat) : Bool :=
  !((database.cluster? clusterId).isSome && database.nodes.any (·.id = nodeId))

/-- Delete the assignments and the memberships whose cluster or node is gone. -/
def dropOrphans (database : Database) : Database :=
  { database.dropAssignments fun row => orphaned database row.clusterId row.nodeId with
    memberships := database.memberships.filter fun place =>
      !orphaned database place.1 place.2 }

/-- The abandoned runs that still have a batch. -/
def interruptedBatches (database : Database) : List Nat :=
  (database.batches.map (·.runId)).filter fun runId =>
    (database.run? runId).any (abandoned database)

/-- Interrupted batches are marked for recovery, other abandoned runs fail. -/
def closeAbandonedRuns : Operation Unit := do
  update dropOrphans
  let batchRunIds ← read interruptedBatches
  update fun database => database.mapBatches fun row =>
    if row.runId ∈ batchRunIds then { row with phase := .rollingBack } else row
  Runs.markRecoveryRequired batchRunIds
  let abandonedIds ← read fun database =>
    (database.runs.filter (abandoned database)).map (·.id)
  forEach abandonedIds fun runId => Runs.finishRun runId .failed

/-- `complete_controller_bootstrap` after its migrations. -/
def completeControllerBootstrap (projections : Projections) : Operation Unit := do
  prepareStartupRecovery projections
  reconcileStartupWorkflows
  closeAbandonedRuns

end StartupRecovery

end ElKeeper
