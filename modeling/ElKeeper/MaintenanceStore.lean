import ElKeeper.Database

/-!
# The maintenance repository

Plans, steps, checkpoints and the states of hosts and assignments, as operations
on the database of one connection.  Each operation comes with the elementary
changes it is composed of: an operation moves along every relation that admits
them, whatever its control flow.
-/

namespace ElKeeper

namespace Database

/-- The plan row that `maintenance_plans.id` selects. -/
def plan? (database : Database) (planId : String) : Option PlanRecord :=
  database.plans.find? (·.id = planId)

/-- `MaintenanceRepositoryRebootJournal.get`; a plan has one checkpoint a key. -/
def journal (database : Database) (planId : String) (key : CheckpointKey) :
    Option CheckpointRecord :=
  database.checkpoints.find? fun row => row.planId = planId && row.key = key

/-- `latest_checkpoint`: the row with the greatest sequence number. -/
def latestCheckpoint (database : Database) (planId : String) : Option CheckpointRecord :=
  (database.checkpoints.filter (·.planId = planId)).foldl
    (fun latest row =>
      match latest with
      | none => some row
      | some other => if other.sequence < row.sequence then some row else some other)
    none

def hostState? (database : Database) (nodeId : Nat) : Option HostStateRecord :=
  database.hostStates.find? (·.nodeId = nodeId)

def assignmentState? (database : Database) (assignmentId : Nat) :
    Option AssignmentStateRecord :=
  database.assignmentStates.find? (·.assignmentId = assignmentId)

def assignment? (database : Database) (assignmentId : Nat) : Option AssignmentRow :=
  database.assignments.find? (·.id = assignmentId)

def cluster? (database : Database) (clusterId : Nat) : Option ClusterRow :=
  database.clusters.find? (·.id = clusterId)

def run? (database : Database) (runId : Nat) : Option RunRow :=
  database.runs.find? (·.id = runId)

/-! ### Elementary changes -/

def setLifecycleState (planId : String) (target : MaintenanceState) (database : Database) :
    Database :=
  { database with
    plans := database.plans.map fun plan =>
      if plan.id = planId then
        { plan with lifecycleState := target, stateRevision := plan.stateRevision + 1 }
      else plan }

def addCheckpoint (row : CheckpointRecord) (database : Database) : Database :=
  { database with
    checkpoints := database.checkpoints ++ [row]
    checkpointCounter := database.checkpointCounter + 1 }

def mapCheckpoints (change : CheckpointRecord → CheckpointRecord) (database : Database) :
    Database :=
  { database with checkpoints := database.checkpoints.map change }

def addStep (row : StepRecord) (database : Database) : Database :=
  { database with
    steps := database.steps ++ [row]
    stepCounter := database.stepCounter + 1 }

def setStepState (stepId : Nat) (target : MaintenanceStepState) (database : Database) :
    Database :=
  { database with
    steps := database.steps.map fun step =>
      if step.id = stepId then
        { step with state := target, stateRevision := step.stateRevision + 1 }
      else step }

def addHostState (row : HostStateRecord) (database : Database) : Database :=
  { database with hostStates := database.hostStates ++ [row] }

def setHostState (nodeId : Nat) (change : HostStateRecord → HostStateRecord)
    (database : Database) : Database :=
  { database with
    hostStates := database.hostStates.map fun host =>
      if host.nodeId = nodeId then change host else host }

def addAssignmentState (row : AssignmentStateRecord) (database : Database) : Database :=
  { database with assignmentStates := database.assignmentStates ++ [row] }

def setAssignmentState (assignmentId : Nat)
    (change : AssignmentStateRecord → AssignmentStateRecord) (database : Database) :
    Database :=
  { database with
    assignmentStates := database.assignmentStates.map fun state =>
      if state.assignmentId = assignmentId then change state else state }

end Database

namespace MaintenanceStore

open Program

/-! ### Plans -/

def getPlan (planId : String) : Operation PlanRecord := do
  match ← read fun database => database.plan? planId with
  | some plan => pure plan
  | none => raise ⟨.recordNotFound, "Maintenance plan " ++ planId ++ " was not found"⟩

/-- The partial unique indexes over active plans: two of them share no target. -/
def overlaps (database : Database) (current : PlanRecord) : Bool :=
  database.plans.any fun other =>
    other.id ≠ current.id && other.lifecycleState.active &&
      ((current.targetNodeId.isSome && other.targetNodeId = current.targetNodeId) ||
        (current.targetClusterId.isSome && other.targetClusterId = current.targetClusterId) ||
        (current.targetAssignmentId.isSome &&
          other.targetAssignmentId = current.targetAssignmentId))

def transitionPlan (planId : String) (expectedRevision : Nat) (target : MaintenanceState) :
    Operation PlanRecord := do
  let current ← getPlan planId
  require (current.stateRevision = expectedRevision)
    ⟨.revisionConflict, "Maintenance plan revision changed"⟩
  ofExcept (validatePlanTransition current.lifecycleState target)
  let overlapping ← read fun database => target.active && overlaps database current
  require (!overlapping)
    ⟨.overlappingPlan, "The target is already covered by another active maintenance plan"⟩
  update (Database.setLifecycleState planId target)
  getPlan planId

/-! ### Checkpoints and steps -/

/-- The content of a checkpoint before it is stored. -/
structure CheckpointContent where
  key : CheckpointKey
  sequence : Nat
  sideEffectState : SideEffectState
  payload : CheckpointPayload
  stepId : Option Nat := none
  observation : Json := .obj []

/-- A stored row repeats the content of a new request. -/
def CheckpointContent.agrees (content : CheckpointContent) (row : CheckpointRecord) : Bool :=
  row.stepId = content.stepId && row.sequence = content.sequence &&
    row.sideEffectState = content.sideEffectState &&
    row.payload = content.payload.persisted && row.observation = content.observation.persisted

def CheckpointContent.row (content : CheckpointContent) (planId : String) (identifier : Nat) :
    CheckpointRecord where
  id := identifier
  planId := planId
  stepId := content.stepId
  key := content.key
  sequence := content.sequence
  sideEffectState := content.sideEffectState
  payload := content.payload.persisted
  observation := content.observation.persisted

/-- The uniqueness of sequences and the foreign keys of a new checkpoint. -/
def CheckpointContent.insertable (content : CheckpointContent) (planId : String)
    (database : Database) : Bool :=
  (database.plan? planId).isSome &&
    content.stepId.all (fun stepId => database.steps.any (·.id = stepId)) &&
    !database.checkpoints.any fun row =>
      row.planId = planId && row.sequence = content.sequence

def recordCheckpoint (planId : String) (content : CheckpointContent) :
    Operation CheckpointRecord := do
  match ← read fun database => database.journal planId content.key with
  | some existing => do
      require (content.agrees existing)
        ⟨.idempotencyConflict,
          "Checkpoint key was already used for different checkpoint content"⟩
      pure existing
  | none => do
      let insertable ← read (content.insertable planId)
      require insertable ⟨.idempotencyConflict, "Checkpoint sequence or key already exists"⟩
      let identifier ← read fun database => database.checkpointCounter + 1
      let row := content.row planId identifier
      update (Database.addCheckpoint row)
      pure row

/-- The content of a step before it is stored. -/
structure StepContent where
  key : StepKey
  sequence : Nat
  affectedClusterId : Option Nat
  affectedAssignmentId : Option Nat
  affectedNodeId : Option Nat

def StepContent.agrees (content : StepContent) (row : StepRecord) : Bool :=
  row.sequence = content.sequence && row.affectedClusterId = content.affectedClusterId &&
    row.affectedAssignmentId = content.affectedAssignmentId &&
    row.affectedNodeId = content.affectedNodeId

def StepContent.insertable (content : StepContent) (planId : String) (database : Database) :
    Bool :=
  (database.plan? planId).isSome &&
    content.affectedClusterId.all (fun clusterId => (database.cluster? clusterId).isSome) &&
    content.affectedAssignmentId.all
      (fun assignmentId => (database.assignment? assignmentId).isSome) &&
    content.affectedNodeId.all (fun nodeId => database.nodes.any (·.id = nodeId)) &&
    !database.steps.any fun row => row.planId = planId && row.sequence = content.sequence

def createStep (planId : String) (content : StepContent) : Operation StepRecord := do
  match ← read fun database =>
      database.steps.find? fun row => row.planId = planId && row.key = content.key with
  | some existing => do
      require (content.agrees existing)
        ⟨.idempotencyConflict, "Step key was already used for different step content"⟩
      pure existing
  | none => do
      let insertable ← read (content.insertable planId)
      require insertable ⟨.idempotencyConflict, "Step sequence or key already exists"⟩
      let identifier ← read fun database => database.stepCounter + 1
      let row : StepRecord :=
        { id := identifier
          planId := planId
          key := content.key
          sequence := content.sequence
          affectedClusterId := content.affectedClusterId
          affectedAssignmentId := content.affectedAssignmentId
          affectedNodeId := content.affectedNodeId
          state := .pending
          stateRevision := 1 }
      update (Database.addStep row)
      pure row

def getStep (stepId : Nat) : Operation StepRecord := do
  match ← read fun database => database.steps.find? (·.id = stepId) with
  | some step => pure step
  | none => raise ⟨.recordNotFound, "Maintenance step " ++ toString stepId ++ " was not found"⟩

def transitionStep (stepId : Nat) (expectedRevision : Nat) (target : MaintenanceStepState) :
    Operation StepRecord := do
  let current ← getStep stepId
  require (current.stateRevision = expectedRevision)
    ⟨.revisionConflict, "Maintenance step revision changed"⟩
  ofExcept (validateStepTransition current.state target)
  update (Database.setStepState stepId target)
  getStep stepId

/-! ### Host and assignment states -/

def newHostState (nodeId : Nat) : HostStateRecord where
  nodeId := nodeId
  state := .available
  activePlanId := none
  stateRevision := 1
  workflowState := .available
  workflowStateRevision := 1

/-- A host without a row gets an available one. -/
def getHostState (nodeId : Nat) : Operation HostStateRecord := do
  match ← read fun database => database.hostState? nodeId with
  | some host => pure host
  | none => do
      let known ← read fun database => database.nodes.any (·.id = nodeId)
      require known ⟨.integrityError, "FOREIGN KEY constraint failed"⟩
      update (Database.addHostState (newHostState nodeId))
      pure (newHostState nodeId)

/-- A plan must be named outside the available state. -/
def ownerFor (available : Bool) (activePlanId : Option String) (message : String) :
    Except Fault (Option String) :=
  if available then .ok none
  else if activePlanId.any (· ≠ "") then .ok activePlanId
  else .error ⟨.valueError, message⟩

/-- The foreign key of `active_plan_id`. -/
def requireOwner (owner : Option String) : Operation Unit := do
  let known ← read fun database => owner.all fun planId => (database.plan? planId).isSome
  require known ⟨.integrityError, "FOREIGN KEY constraint failed"⟩

theorem ownerFor_ok {available : Bool} {activePlanId owner : Option String} {message : String}
    (known : ownerFor available activePlanId message = .ok owner) :
    owner = if available then none else activePlanId := by
  simp only [ownerFor] at known
  split at known
  · cases known
    simp_all
  · split at known
    · cases known
      simp_all
    · cases known

def transitionHostState (nodeId : Nat) (expectedRevision : Nat)
    (target : HostMaintenanceState) (activePlanId : Option String) :
    Operation HostStateRecord := do
  let current ← getHostState nodeId
  require (current.stateRevision = expectedRevision)
    ⟨.revisionConflict, "Host maintenance state revision changed"⟩
  ofExcept (validateHostTransition current.state target)
  let owner ← ofExcept (ownerFor (target = .available) activePlanId
    "An active plan is required outside the available host state")
  -- The trigger over `workflow_state` admits a repetition.
  require (current.workflowState = target.workflowState ||
      target.workflowState ∈ current.workflowState.transitions)
    ⟨.integrityError, "illegal maintenance workflow transition"⟩
  requireOwner owner
  update (Database.setHostState nodeId fun host =>
    { host with
      state := target
      activePlanId := owner
      stateRevision := host.stateRevision + 1
      workflowState := target.workflowState
      workflowStateRevision := host.workflowStateRevision + 1 })
  getHostState nodeId

def transitionHostWorkflowState (nodeId : Nat) (expectedRevision : Nat)
    (target : MaintenanceWorkflowState) : Operation HostStateRecord := do
  let current ← getHostState nodeId
  require (current.workflowStateRevision = expectedRevision)
    ⟨.revisionConflict, "Host maintenance workflow revision changed"⟩
  ofExcept (validateWorkflowTransition current.workflowState target)
  update (Database.setHostState nodeId fun host =>
    { host with
      workflowState := target
      workflowStateRevision := host.workflowStateRevision + 1 })
  getHostState nodeId

def newAssignmentState (assignmentId : Nat) : AssignmentStateRecord where
  assignmentId := assignmentId
  workflowState := .available
  activePlanId := none
  stateRevision := 1

/-- An assignment without a row gets an available one. -/
def getAssignmentState (assignmentId : Nat) : Operation AssignmentStateRecord := do
  match ← read fun database => database.assignmentState? assignmentId with
  | some state => pure state
  | none => do
      let known ← read fun database => (database.assignment? assignmentId).isSome
      require known
        ⟨.recordNotFound, "Workload assignment " ++ toString assignmentId ++ " was not found"⟩
      update (Database.addAssignmentState (newAssignmentState assignmentId))
      pure (newAssignmentState assignmentId)

def transitionAssignmentState (assignmentId : Nat) (expectedRevision : Nat)
    (target : MaintenanceWorkflowState) (activePlanId : Option String) :
    Operation AssignmentStateRecord := do
  let current ← getAssignmentState assignmentId
  require (current.stateRevision = expectedRevision)
    ⟨.revisionConflict, "Assignment maintenance workflow revision changed"⟩
  ofExcept (validateWorkflowTransition current.workflowState target)
  let owner ← ofExcept (ownerFor (target = .available) activePlanId
    "An active plan is required outside the available assignment state")
  requireOwner owner
  update (Database.setAssignmentState assignmentId fun state =>
    { state with
      workflowState := target
      activePlanId := owner
      stateRevision := state.stateRevision + 1 })
  getAssignmentState assignmentId

/-! ### The changes an operation is composed of -/

section Moves

variable {writes : Database → Database → Prop}

theorem getPlan_moves (planId : String) : Moves writes (getPlan planId) := by
  refine .bind (.read _) fun found => ?_
  cases found with
  | none => exact .raise _
  | some plan => exact .pure plan

theorem transitionPlan_moves {planId : String} {expectedRevision : Nat}
    {target : MaintenanceState}
    (allowed : ∀ database, writes database (database.setLifecycleState planId target)) :
    Moves writes (transitionPlan planId expectedRevision target) := by
  refine .bind (getPlan_moves planId) fun current => ?_
  refine .bind (.require _ _) fun _ => ?_
  refine .bind (.ofExcept _) fun _ => ?_
  refine .bind (.read _) fun overlapping => ?_
  refine .bind (.require _ _) fun _ => ?_
  exact .bind (.update allowed) fun _ => getPlan_moves planId

theorem recordCheckpoint_moves {planId : String} {content : CheckpointContent}
    (allowed : ∀ database identifier,
      writes database (database.addCheckpoint (content.row planId identifier))) :
    Moves writes (recordCheckpoint planId content) := by
  refine .bind (.read _) fun existing => ?_
  cases existing with
  | some row => exact .bind (.require _ _) fun _ => .pure row
  | none =>
      refine .bind (.read _) fun insertable => ?_
      refine .bind (.require _ _) fun _ => ?_
      refine .bind (.read _) fun identifier => ?_
      exact .bind (.update fun database => allowed database identifier) fun _ => .pure _

theorem createStep_moves {planId : String} {content : StepContent}
    (allowed : ∀ database row, writes database (database.addStep row)) :
    Moves writes (createStep planId content) := by
  refine .bind (.read _) fun existing => ?_
  cases existing with
  | some row => exact .bind (.require _ _) fun _ => .pure row
  | none =>
      refine .bind (.read _) fun insertable => ?_
      refine .bind (.require _ _) fun _ => ?_
      refine .bind (.read _) fun identifier => ?_
      exact .bind (.update fun database => allowed database _) fun _ => .pure _

theorem getStep_moves (stepId : Nat) : Moves writes (getStep stepId) := by
  refine .bind (.read _) fun found => ?_
  cases found with
  | none => exact .raise _
  | some step => exact .pure step

theorem transitionStep_moves {stepId expectedRevision : Nat} {target : MaintenanceStepState}
    (allowed : ∀ database, writes database (database.setStepState stepId target)) :
    Moves writes (transitionStep stepId expectedRevision target) := by
  refine .bind (getStep_moves stepId) fun current => ?_
  refine .bind (.require _ _) fun _ => ?_
  refine .bind (.ofExcept _) fun _ => ?_
  exact .bind (.update allowed) fun _ => getStep_moves stepId

theorem requireOwner_moves (owner : Option String) : Moves writes (requireOwner owner) :=
  .bind (.read _) fun _ => .require _ _

theorem getHostState_moves {nodeId : Nat}
    (inserts : ∀ database, database.hostState? nodeId = none →
      writes database (database.addHostState (newHostState nodeId))) :
    Moves writes (getHostState nodeId) := by
  intro database
  simp only [getHostState, run_bind, run_read]
  cases found : database.hostState? nodeId with
  | some host => exact .refl
  | none =>
      simp only [run_bind, run_read, run_require]
      by_cases known : database.nodes.any (·.id = nodeId)
      · rw [if_pos known]
        exact .single (inserts database found)
      · rw [if_neg known]

theorem transitionHostState_moves {nodeId expectedRevision : Nat}
    {target : HostMaintenanceState} {activePlanId : Option String}
    (inserts : ∀ database, database.hostState? nodeId = none →
      writes database (database.addHostState (newHostState nodeId)))
    (allowed : ∀ database change,
      (∀ host : HostStateRecord, (change host).nodeId = host.nodeId ∧
        (change host).workflowState = target.workflowState) →
      writes database (database.setHostState nodeId change)) :
    Moves writes (transitionHostState nodeId expectedRevision target activePlanId) := by
  refine .bind (getHostState_moves inserts) fun current => ?_
  refine .bind (.require _ _) fun _ => ?_
  refine .bind (.ofExcept _) fun _ => ?_
  refine .bind (.ofExcept _) fun owner => ?_
  refine .bind (.require _ _) fun _ => ?_
  refine .bind (requireOwner_moves owner) fun _ => ?_
  exact .bind (.update fun database => allowed database _ fun _ => ⟨rfl, rfl⟩)
    fun _ => getHostState_moves inserts

theorem transitionHostWorkflowState_moves {nodeId expectedRevision : Nat}
    {target : MaintenanceWorkflowState}
    (inserts : ∀ database, database.hostState? nodeId = none →
      writes database (database.addHostState (newHostState nodeId)))
    (allowed : ∀ database change,
      (∀ host : HostStateRecord, (change host).nodeId = host.nodeId ∧
        (change host).workflowState = target) →
      writes database (database.setHostState nodeId change)) :
    Moves writes (transitionHostWorkflowState nodeId expectedRevision target) := by
  refine .bind (getHostState_moves inserts) fun current => ?_
  refine .bind (.require _ _) fun _ => ?_
  refine .bind (.ofExcept _) fun _ => ?_
  exact .bind (.update fun database => allowed database _ fun _ => ⟨rfl, rfl⟩)
    fun _ => getHostState_moves inserts

theorem getAssignmentState_moves {assignmentId : Nat}
    (inserts : ∀ database, database.assignmentState? assignmentId = none →
      writes database (database.addAssignmentState (newAssignmentState assignmentId))) :
    Moves writes (getAssignmentState assignmentId) := by
  intro database
  simp only [getAssignmentState, run_bind, run_read]
  cases found : database.assignmentState? assignmentId with
  | some state => exact .refl
  | none =>
      simp only [run_bind, run_read, run_require]
      by_cases known : (database.assignment? assignmentId).isSome
      · rw [if_pos known]
        exact .single (inserts database found)
      · rw [if_neg known]

theorem transitionAssignmentState_moves {assignmentId expectedRevision : Nat}
    {target : MaintenanceWorkflowState} {activePlanId : Option String}
    (inserts : ∀ database, database.assignmentState? assignmentId = none →
      writes database (database.addAssignmentState (newAssignmentState assignmentId)))
    (allowed : ∀ database change,
      (∀ state : AssignmentStateRecord, (change state).assignmentId = state.assignmentId ∧
        (change state).workflowState = target ∧
        (change state).activePlanId = if target = .available then none else activePlanId) →
      writes database (database.setAssignmentState assignmentId change)) :
    Moves writes
      (transitionAssignmentState assignmentId expectedRevision target activePlanId) := by
  refine .bind (getAssignmentState_moves inserts) fun current => ?_
  refine .bind (.require _ _) fun _ => ?_
  refine .bind (.ofExcept _) fun _ => ?_
  cases isOwner : ownerFor (target = .available) activePlanId
      "An active plan is required outside the available assignment state" with
  | error error => exact .raise _
  | ok owner =>
      have named := ownerFor_ok isOwner
      simp only [decide_eq_true_eq] at named
      have written : Moves writes (do
          requireOwner owner
          update (Database.setAssignmentState assignmentId fun state =>
            { state with
              workflowState := target
              activePlanId := owner
              stateRevision := state.stateRevision + 1 })
          getAssignmentState assignmentId) :=
        .bind (requireOwner_moves owner) fun _ =>
          .bind (.update fun database => allowed database _ fun _ => ⟨rfl, rfl, named⟩)
            fun _ => getAssignmentState_moves inserts
      exact written

end Moves

/-! ### What plan operations leave behind -/

theorem getPlan_returned {planId : String} {plan : PlanRecord} {database after : Database}
    (ran : (getPlan planId).run database = (.returned plan, after)) :
    database.plan? planId = some plan ∧ after = database := by
  obtain ⟨found, _, wasRead, matched⟩ := bind_eq_returned ran
  cases wasRead
  dsimp only at matched
  split at matched
  · rename_i other isFound
    cases matched
    exact ⟨isFound, rfl⟩
  · cases matched

/-- A column that a change of the plans leaves alone reads as before. -/
theorem plan?_map_column {β : Type} {before after : Database} {change : PlanRecord → PlanRecord}
    {column : PlanRecord → β} (mapped : after.plans = before.plans.map change)
    (kept : ∀ plan, (change plan).id = plan.id ∧ column (change plan) = column plan)
    (planId : String) :
    (after.plan? planId).map column = (before.plan? planId).map column := by
  have sameId : (fun plan : PlanRecord => decide (plan.id = planId)) ∘ change =
      fun plan => decide (plan.id = planId) := by
    funext plan
    simp only [Function.comp, (kept plan).1]
  simp only [Database.plan?, mapped, List.find?_map, sameId, Option.map_map]
  congr 1
  funext plan
  exact (kept plan).2

theorem getPlan_id {planId : String} {plan : PlanRecord} {database after : Database}
    (ran : (getPlan planId).run database = (.returned plan, after)) : plan.id = planId := by
  have found := (getPlan_returned ran).1
  simpa using List.find?_some found

theorem getPlan_readOnly (planId : String) : ReadOnly (getPlan planId) := by
  refine .bind (.read _) fun found => ?_
  cases found with
  | none => exact .raise _
  | some plan => exact .pure plan

theorem plan?_setLifecycleState (database : Database) (planId : String)
    (target : MaintenanceState) :
    (database.setLifecycleState planId target).plan? planId =
      (database.plan? planId).map fun plan =>
        { plan with lifecycleState := target, stateRevision := plan.stateRevision + 1 } := by
  simp only [Database.plan?, Database.setLifecycleState, List.find?_map]
  have sameId : (fun plan : PlanRecord => decide (plan.id = planId)) ∘ (fun plan =>
      if plan.id = planId then
        { plan with lifecycleState := target, stateRevision := plan.stateRevision + 1 }
      else plan) = fun plan => decide (plan.id = planId) := by
    funext plan
    simp only [Function.comp]
    split <;> rfl
  rw [sameId]
  cases found : database.plans.find? fun plan => decide (plan.id = planId) with
  | none => rfl
  | some plan =>
      have onPlan : plan.id = planId := by simpa using List.find?_some found
      simp [onPlan]

/-- A transition that returns was legal and leaves the plan in its target. -/
theorem transitionPlan_returned {planId : String} {revision : Nat} {target : MaintenanceState}
    {plan : PlanRecord} {database after : Database}
    (ran : (transitionPlan planId revision target).run database = (.returned plan, after)) :
    after = database.setLifecycleState planId target ∧
      ∃ current, database.plan? planId = some current ∧
        validatePlanTransition current.lifecycleState target = .ok () ∧
        after.plan? planId = some plan ∧
        plan = { current with
          lifecycleState := target
          stateRevision := current.stateRevision + 1 } := by
  obtain ⟨current, _, planRan, afterPlan⟩ := bind_eq_returned ran
  obtain ⟨isCurrent, rfl⟩ := getPlan_returned planRan
  obtain ⟨_, _, sameRan, afterSame⟩ := bind_eq_returned afterPlan
  obtain ⟨_, rfl⟩ := require_eq_returned sameRan
  obtain ⟨_, _, validRan, afterValid⟩ := bind_eq_returned afterSame
  obtain ⟨isValid, rfl⟩ := ofExcept_eq_returned validRan
  obtain ⟨overlapping, _, wasRead, afterRead⟩ := bind_eq_returned afterValid
  cases wasRead
  obtain ⟨_, _, freeRan, afterFree⟩ := bind_eq_returned afterRead
  obtain ⟨_, rfl⟩ := require_eq_returned freeRan
  obtain ⟨_, _, updated, ended⟩ := bind_eq_returned afterFree
  cases updated
  obtain ⟨isPlan, rfl⟩ := getPlan_returned ended
  refine ⟨rfl, current, isCurrent, isValid, isPlan, ?_⟩
  rw [plan?_setLifecycleState, isCurrent] at isPlan
  exact (Option.some.inj isPlan).symm

/-! ### What a recorded checkpoint leaves behind -/

theorem journal_addCheckpoint_of_ne {database : Database} {row : CheckpointRecord}
    {planId : String} {key : CheckpointKey} (other : row.key ≠ key) :
    (database.addCheckpoint row).journal planId key = database.journal planId key := by
  have unmatched : (row.planId = planId && row.key = key : Bool) = false := by
    simp [other]
  simp only [Database.journal, Database.addCheckpoint, List.find?_append,
    List.find?_cons, unmatched, List.find?_nil, Option.or_none]

theorem journal_addCheckpoint_of_some {database : Database} {row found : CheckpointRecord}
    {planId : String} {key : CheckpointKey}
    (present : database.journal planId key = some found) :
    (database.addCheckpoint row).journal planId key = some found := by
  simp only [Database.journal] at present
  simp only [Database.journal, Database.addCheckpoint, List.find?_append, present,
    Option.some_or]

/-- A recorded checkpoint is in the journal, as it was there or as it is stored. -/
theorem recordCheckpoint_returned {planId : String} {content : CheckpointContent}
    {database : Database} {row : CheckpointRecord}
    (returned : ((recordCheckpoint planId content).run database).1 = .returned row) :
    ((recordCheckpoint planId content).run database).2.journal planId content.key = some row ∧
      row.payload = content.payload.persisted := by
  simp only [recordCheckpoint, run_bind, run_read] at returned ⊢
  cases found : database.journal planId content.key with
  | some existing =>
      simp only [found, run_bind, run_require] at returned ⊢
      by_cases agrees : content.agrees existing
      · rw [if_pos agrees] at returned ⊢
        cases returned
        simp only [CheckpointContent.agrees, Bool.and_eq_true, decide_eq_true_eq] at agrees
        exact ⟨found, agrees.1.2⟩
      · rw [if_neg agrees] at returned
        cases returned
  | none =>
      simp only [found, run_bind, run_read, run_require] at returned ⊢
      by_cases insertable : content.insertable planId database
      · rw [if_pos insertable] at returned ⊢
        cases returned
        refine ⟨?_, rfl⟩
        simp only [Database.journal] at found
        simp [Database.journal, Database.addCheckpoint, List.find?_append, found,
          CheckpointContent.row]
      · rw [if_neg insertable] at returned
        cases returned

/-- Recording a checkpoint leaves its key as it was or stores the content. -/
theorem recordCheckpoint_journal (planId : String) (content : CheckpointContent)
    (database : Database) :
    ((recordCheckpoint planId content).run database).2.journal planId content.key =
        database.journal planId content.key ∨
      ∃ identifier, ((recordCheckpoint planId content).run database).2.journal planId
        content.key = some (content.row planId identifier) := by
  simp only [recordCheckpoint, run_bind, run_read]
  cases found : database.journal planId content.key with
  | some existing =>
      left
      simp only [run_bind, run_require]
      cases content.agrees existing <;> exact found
  | none =>
      simp only [run_bind, run_read, run_require]
      by_cases insertable : content.insertable planId database
      · right
        refine ⟨database.checkpointCounter + 1, ?_⟩
        rw [if_pos insertable]
        simp only [Database.journal] at found
        simp [Database.journal, Database.addCheckpoint, List.find?_append, found,
          CheckpointContent.row]
      · left
        rw [if_neg insertable]
        exact found

end MaintenanceStore

end ElKeeper
