import ElKeeper.MaintenanceLocks
import ElKeeper.Runs

/-!
# Execution of maintenance plans

`MaintenanceExecutionService`: the actions on a plan are prepared under its
locks and its run, and finalized with the result of an adapter.  The conflicts
of a host are observed as the maintenance read projection observes them.
-/

namespace ElKeeper

/-! ### Conflicts -/

namespace MaintenanceConflicts

/-- The identifiers that a run context gives under a singular and a plural key. -/
def contextIds (context : Dict) (singular plural : String) : List Nat :=
  let identifier : Json → Option Nat
    | .num value => if value.den = 1 ∧ 0 ≤ value then some value.num.toNat else none
    | .str text => if text ≠ "" ∧ text.all Char.isDigit then text.toNat? else none
    | _ => none
  let several := match context.get plural with
    | some (.arr items) => items.filterMap identifier
    | _ => []
  ((context.get singular).bind identifier).toList ++ several

/-- What the projection collects about the clusters of a host. -/
structure HostScope where
  nodeName : String
  clusterIds : List Nat
  clusterNames : List String
  assignments : List AssignmentRow

def hostScope (database : Database) (node : NodeRow) : HostScope :=
  let hosted := (database.assignments.filter (·.nodeId = node.id)).map (·.clusterId)
  let joined := (database.memberships.filter (·.2 = node.id)).map (·.1)
  let clusterIds := (joined ++ hosted).dedup
  { nodeName := node.name
    clusterIds := clusterIds
    clusterNames := (database.clusters.filter fun cluster => cluster.id ∈ clusterIds).map (·.name)
    assignments := database.assignments.filter fun row => row.clusterId ∈ clusterIds }

/-- An active plan whose target is the host or something in its clusters. -/
def coversPlan (scope : HostScope) (nodeId : Nat) (plan : PlanRecord) : Bool :=
  plan.lifecycleState.active &&
    (plan.targetNodeId = some nodeId ||
      plan.targetClusterId.any (· ∈ scope.clusterIds) ||
      plan.targetAssignmentId.any (· ∈ scope.assignments.map (·.id)))

/-- A lock on the host, on one of its clusters or on a workload in them. -/
def coversLock (scope : HostScope) (nodeId : Nat) (lock : LockRecord) : Bool :=
  match lock.scope with
  | .host => lock.identifier = toString nodeId
  | .cluster => lock.identifier ∈ scope.clusterIds.map toString
  | .assignment => lock.identifier ∈ (scope.assignments.map (·.id)).map toString
  | .recovery => false

/-- The plans whose locks cover the scope, with those found before. -/
def plansByLocks (scope : HostScope) (nodeId : Nat) (excluded : Option String)
    (relevant : List String) (locks : List LockRecord) : List String :=
  (locks.filter (·.active)).foldl
    (fun found lock =>
      if some lock.ownerPlanId = excluded then found
      else if coversLock scope nodeId lock || lock.ownerPlanId ∈ found then
        found ++ [lock.ownerPlanId]
      else found)
    relevant

/-- An active run that is linked, or whose target or context names the scope. -/
def coversRun (scope : HostScope) (nodeId : Nat) (linked : List Nat) (run : RunRow) : Bool :=
  decide (run.id ∈ linked) ||
    (scope.nodeName :: scope.clusterNames).any (fun name => targetsWithin name run) ||
    decide (nodeId ∈ contextIds run.context "node_id" "node_ids") ||
    (contextIds run.context "cluster_id" "cluster_ids").any (· ∈ scope.clusterIds) ||
    (contextIds run.context "assignment_id" "assignment_ids").any
      (· ∈ scope.assignments.map (·.id))

/-- `observe_conflicts_in_connection`, reduced to whether it finds a conflict. -/
def observeConflicts (database : Database) (nodeId : Nat) (excludePlanId : Option String)
    (excludeRunId : Option Nat) : Except Fault Bool :=
  match database.nodes.find? (·.id = nodeId) with
  | none => .error ⟨.keyError, toString nodeId⟩
  | some node =>
      let scope := hostScope database node
      let planned := database.plans.filter fun plan =>
        some plan.id ≠ excludePlanId && coversPlan scope nodeId plan
      let relevant := plansByLocks scope nodeId excludePlanId (planned.map (·.id)) database.locks
      let excludedRuns := excludeRunId.toList ++
        (database.plans.filter fun plan =>
          some plan.id = excludePlanId && plan.lifecycleState.active).filterMap (·.runId)
      let planRuns := (database.plans.filter fun plan =>
        decide (plan.id ∈ relevant) && plan.lifecycleState.active).filterMap (·.runId)
      let activeRuns := database.runs.filter fun run =>
        run.status.active && decide (run.id ∉ excludedRuns)
      let claiming := (scope.assignments.filterMap (·.operationRunId)).filter fun runId =>
        runId ∈ activeRuns.map (·.id)
      let batches := (database.batches.filter fun batch =>
        decide (batch.clusterId ∈ scope.clusterIds) && decide (batch.runId ∉ excludedRuns)).map
          (·.runId)
      let linked := planRuns ++ claiming ++ batches
      .ok (!relevant.isEmpty || !claiming.isEmpty || !batches.isEmpty ||
        activeRuns.any (coversRun scope nodeId linked))

end MaintenanceConflicts

/-! ### Actions -/

inductive MaintenanceAction where
  | execute
  | pause
  | resume
  | cancel
  | recover
deriving DecidableEq, Repr

namespace MaintenanceAction

def value : MaintenanceAction → String
  | execute => "execute"
  | pause => "pause"
  | resume => "resume"
  | cancel => "cancel"
  | recover => "recover"

/-- `_ACTION_STATES`. -/
def states : MaintenanceAction → List MaintenanceState
  | execute => [.ready]
  | pause => [.executing]
  | resume => [.paused]
  | cancel => [.draft, .ready, .blocked, .executing, .paused, .recoveryRequired]
  | recover => [.recoveryRequired]

/-- The actions that start or continue the execution of a plan. -/
def executes : MaintenanceAction → Bool
  | execute | resume => true
  | pause | cancel | recover => false

/-- The state that an action leads to when the adapter names none. -/
def defaultState : MaintenanceAction → Option MaintenanceState
  | execute | resume => none
  | pause => some .paused
  | cancel => some .cancelled
  | recover => some .executing

/-- The states that an adapter may name. -/
def resultStates : MaintenanceAction → List (Option MaintenanceState)
  | execute | resume =>
      [none, some .executing, some .succeeded, some .failed, some .recoveryRequired]
  | pause => [some .paused, some .recoveryRequired]
  | cancel => [some .cancelled, some .recoveryRequired]
  | recover =>
      [some .executing, some .succeeded, some .failed, some .cancelled, some .recoveryRequired]

end MaintenanceAction

structure AdapterResult where
  lifecycleState : Option MaintenanceState
  /-- The rediscovery evidence of each expired lock. -/
  staleLockEvidence : List (Nat × Dict)

structure MaintenanceActionTicket where
  planId : String
  runId : Nat
  action : MaintenanceAction
  operationKind : OperationKind
  planHash : String
deriving DecidableEq

structure MaintenanceExecutionService where
  capabilityRevision : String
  lockTtlSeconds : Nat
  /-- `verify_plan_hash` of a stored plan against its own hash. -/
  verifyPlanHash : PlanRecord → Bool

namespace Database

/-- `list_active_locks` of one plan. -/
def listActiveLocks (database : Database) (planId : String) : List LockRecord :=
  (database.activeLocks planId).insertionSort fun first second =>
    LockRequest.le (first.scope, first.identifier) (second.scope, second.identifier)

/-- `attach_run_id` when the plan has none. -/
def attachRunId (planId : String) (runId : Nat) (database : Database) : Database :=
  { database with
    plans := database.plans.map fun plan =>
      if plan.id = planId ∧ plan.runId = none then { plan with runId := some runId } else plan }

end Database

namespace MaintenanceExecutionService

open Program MaintenanceStore

/-- `raise MaintenanceValidationError`. -/
def validation (message : String) : Fault :=
  ⟨.executionBlocked, message⟩

def check (condition : Bool) (message : String) : Except Fault Unit :=
  if condition then .ok () else .error (validation message)

/-- `_validate_lifecycle`. -/
def validateLifecycle (plan : PlanRecord) (action : MaintenanceAction) : Except Fault Unit :=
  check (plan.lifecycleState ∈ action.states)
    ("Maintenance " ++ action.value ++ " is not valid while the plan is " ++
      plan.lifecycleState.value)

/-- `_validate_hash`. -/
def validateHash (service : MaintenanceExecutionService) (plan : PlanRecord) :
    Except Fault Unit :=
  check (service.verifyPlanHash plan) "Maintenance plan hash verification failed"

/-- `_validate_execution_snapshot`. -/
def validateExecutionSnapshot (service : MaintenanceExecutionService) (plan : PlanRecord)
    (now : Nat) : Except Fault Unit := do
  check (now < plan.expiresAt) "Maintenance plan expired and must be planned again"
  check (plan.observation.capabilityRevision = some service.capabilityRevision)
    "Maintenance capability revision changed; plan again"
  match plan.observation.capturedAt with
  | none => .error (validation "Maintenance plan has no fresh observation timestamp")
  | some captured => do
      check (now ≤ secondsAfter captured plan.observationMaxAgeSeconds)
        "Maintenance observations are stale; plan again"
      check (plan.observation.sources.all fun source => !source.1 || source.2)
        "Required maintenance observations are not healthy"

/-- The assignments of the manifest have the revisions that it was computed from. -/
def checkAssignmentRevisions (database : Database) : List (Nat × Nat) → Except Fault Unit
  | [] => .ok ()
  | (assignmentId, expected) :: rest => do
      check ((database.assignment? assignmentId).any (·.revision = expected))
        ("Assignment revision changed for assignment " ++ toString assignmentId ++ "; plan again")
      checkAssignmentRevisions database rest

/-- The policies of the manifest have the revisions that it was computed from. -/
def checkPolicyRevisions (database : Database) : List (Nat × Nat) → Except Fault Unit
  | [] => .ok ()
  | (clusterId, expected) :: rest => do
      check ((database.policies.lookup clusterId).getD 0 = expected)
        ("Maintenance policy revision changed for cluster " ++ toString clusterId ++
          "; plan again")
      checkPolicyRevisions database rest

/-- `_validate_current_revisions`. -/
def validateCurrentRevisions (database : Database) (plan : PlanRecord) : Except Fault Unit := do
  checkAssignmentRevisions database plan.targetManifest.assignmentRevisions
  checkPolicyRevisions database plan.targetManifest.policyRevisions
  match plan.targetNodeId with
  | none => .ok ()
  | some nodeId =>
      check (database.nodes.any fun node => node.id = nodeId && node.enabled)
        "Target host is no longer enabled"

/-- `_validate_no_conflicts`. -/
def validateNoConflicts (database : Database) (plan : PlanRecord) : Except Fault Unit :=
  match plan.targetNodeId with
  | none => .ok ()
  | some nodeId => do
      let conflicts ← MaintenanceConflicts.observeConflicts database nodeId (some plan.id)
        plan.runId
      check (!conflicts) "A conflicting operation now covers this maintenance target"

/-- `_validate_safe_checkpoint`. -/
def validateSafeCheckpoint (database : Database) (plan : PlanRecord)
    (action : MaintenanceAction) : Except Fault Unit :=
  let latest := (database.latestCheckpoint plan.id).map (·.key)
  let message := "Maintenance " ++ action.value ++ " is available only at a safe checkpoint"
  match action with
  | .pause | .resume =>
      check (latest.all fun key => key = .clustersPrepared || key = .returnDiscovered) message
  | .cancel => check (latest.all (· = .clustersPrepared)) message
  | .execute | .recover => .ok ()

/-- The checks of `prepare` before it writes. -/
def validate (service : MaintenanceExecutionService) (database : Database) (plan : PlanRecord)
    (action : MaintenanceAction) (now : Nat) : Except Fault Unit := do
  validateLifecycle plan action
  validateHash service plan
  validateSafeCheckpoint database plan action
  if action.executes then do
    validateExecutionSnapshot service plan now
    validateCurrentRevisions database plan
    validateNoConflicts database plan

/-- The target of a new run: the host of the plan, or the plan itself. -/
def runTarget (database : Database) (plan : PlanRecord) : String :=
  match plan.targetNodeId.bind fun nodeId => database.nodes.find? (·.id = nodeId) with
  | some node => node.name
  | none => "plan:" ++ plan.id

/-- `attach_run_id`. -/
def attachRunId (planId : String) (runId : Nat) : Operation Unit := do
  let attachable ← read fun database =>
    database.plans.any fun plan => plan.id = planId && plan.runId = none
  require attachable ⟨.revisionConflict, "Maintenance run was attached concurrently"⟩
  update (Database.attachRunId planId runId)

/-- `_attach_run`. -/
def attachRun (plan : PlanRecord) (action : MaintenanceAction) : Operation Nat := do
  match plan.runId with
  | some runId => do
      match ← read fun database => database.run? runId with
      | none => raise (validation "Maintenance plan references a missing run")
      | some run => do
          require run.status.active (validation "Maintenance run is already complete")
          update (Database.setRunStatus runId .running)
          pure runId
  | none => do
      let target ← read fun database => runTarget database plan
      let runId ← Runs.startRun ("maintenance-" ++ plan.operationKind.value) target
        [("maintenance_plan_id", .str plan.id),
          ("operation_kind", .str plan.operationKind.value),
          ("action", .str action.value)]
      attachRunId plan.id runId
      pure runId

/-- `_lock_requests`. -/
def lockRequests (plan : PlanRecord) (includeRecovery : Bool) :
    Except Fault (List LockRequest) :=
  let requests : List LockRequest :=
    plan.targetNodeId.toList.map (fun nodeId => (.host, toString nodeId)) ++
      plan.targetManifest.affectedClusterIds.map (fun clusterId => (.cluster, toString clusterId)) ++
      plan.targetManifest.assignmentRevisions.map
        (fun item => (.assignment, toString item.1)) ++
      (if includeRecovery then [(.recovery, plan.id)] else [])
  if requests = [] then .error (validation "Maintenance plan has no lockable target")
  else .ok requests

/-- The first owner token of a list of locks. -/
def firstToken (locks : List LockRecord) : String :=
  (locks.head?.map (·.ownerToken)).getD ""

/-- The lock part of `prepare`; `generated` is the token that is drawn for new locks. -/
def prepareLocks (service : MaintenanceExecutionService) (plan : PlanRecord)
    (action : MaintenanceAction) (runId now : Nat) (generated : String)
    (active stale : List LockRecord) : Operation Unit :=
  if action = .execute ∨ action = .recover then
    if stale = [] then do
      let requests ← ofExcept (lockRequests plan (action = .recover))
      let _ ← acquireLocks requests plan.id (some runId) service.lockTtlSeconds
        (some (firstToken active)) generated now
      pure ()
    else pure ()
  else
    require (!(active.isEmpty && (plan.lifecycleState = .executing ||
        plan.lifecycleState = .paused || plan.lifecycleState = .recoveryRequired)))
      (validation "Active maintenance execution has no ownership locks")

/-- `prepare`. -/
def prepare (service : MaintenanceExecutionService) (planId : String)
    (action : MaintenanceAction) (now : Nat) (generated : String) :
    Operation MaintenanceActionTicket := do
  let plan ← getPlan planId
  let checked ← read fun database => service.validate database plan action now
  ofExcept checked
  let active ← read fun database => database.listActiveLocks plan.id
  let stale := active.filter (·.expired now)
  require (stale.isEmpty || action = .recover)
    (validation "Expired maintenance locks require recovery and rediscovery before this action")
  let runId ← attachRun plan action
  prepareLocks service plan action runId now generated active stale
  let current ← getPlan plan.id
  let entered ← if action.executes then
      transitionPlan current.id current.stateRevision .executing
    else pure current
  pure
    { planId := entered.id
      runId := runId
      action := action
      operationKind := entered.operationKind
      planHash := entered.planHash }

/-- `_validate_ticket`; `fail` does not compare the kind of operation. -/
def validateTicket (service : MaintenanceExecutionService) (plan : PlanRecord)
    (ticket : MaintenanceActionTicket) (allowHashOnly : Bool) : Except Fault Unit := do
  check (plan.runId = some ticket.runId && plan.planHash = ticket.planHash)
    "Maintenance action ticket no longer matches the stored plan"
  validateHash service plan
  check (allowHashOnly || plan.operationKind = ticket.operationKind)
    "Maintenance operation kind changed"

/-- The evidence for a lock, unless it is missing or empty. -/
def AdapterResult.evidenceFor (result : AdapterResult) (lock : LockRecord) : Option Dict :=
  (result.staleLockEvidence.lookup lock.id).filter (· ≠ [])

/-- The recoveries of `_recover_stale_locks`. -/
def recoverEach (result : AdapterResult) (now : Nat) : List LockRecord → Operation Unit
  | [] => pure ()
  | lock :: locks => do
      let _ ← recoverStaleLock lock.id ((AdapterResult.evidenceFor result lock).getD []) now
      recoverEach result now locks

/-- `_recover_stale_locks`. -/
def recoverStaleLocks (service : MaintenanceExecutionService) (plan : PlanRecord)
    (ticket : MaintenanceActionTicket) (result : AdapterResult) (now : Nat)
    (generated : String) : Operation Unit := do
  let stale ← read fun database => (database.listActiveLocks plan.id).filter (·.expired now)
  require (stale.all fun lock => (AdapterResult.evidenceFor result lock).isSome)
    (validation "Stale lock recovery requires rediscovery evidence for every expired lock")
  recoverEach result now stale
  if stale = [] then pure ()
  else do
    let remaining ← read fun database => database.listActiveLocks plan.id
    let requests ← ofExcept (lockRequests plan true)
    let _ ← acquireLocks requests plan.id (some ticket.runId) service.lockTtlSeconds
      (some (firstToken remaining)) generated now
    pure ()

/-- `_result_state`. -/
def resultState (action : MaintenanceAction) (result : AdapterResult) :
    Except Fault (Option MaintenanceState) :=
  let target := result.lifecycleState.or action.defaultState
  if target ∈ action.resultStates then .ok target
  else .error (validation "Maintenance adapter returned an invalid lifecycle state")

/-- `_transition_for_result`. -/
def transitionForResult (plan : PlanRecord) (target : MaintenanceState) :
    Operation PlanRecord :=
  if target = .cancelled ∧ plan.lifecycleState = .executing then do
    let paused ← transitionPlan plan.id plan.stateRevision .paused
    transitionPlan paused.id paused.stateRevision target
  else
    transitionPlan plan.id plan.stateRevision target

/-- `TERMINAL_PLAN_STATES`. -/
def terminal : MaintenanceState → Bool
  | .succeeded | .failed | .cancelled => true
  | _ => false

/-- `_release_active_locks`. -/
def releaseActiveLocks (planId : String) (now : Nat) : Operation Unit := do
  let active ← read fun database => database.listActiveLocks planId
  if active = [] then pure ()
  else do
    require (!active.any (·.expired now))
      (validation "Expired maintenance locks require rediscovery evidence before release")
    let _ ← releaseLocks (firstToken active) now
    pure ()

/-- The run status of `_update_run`. -/
def runStatus : MaintenanceState → RunStatus
  | .succeeded => .succeeded
  | .failed => .failed
  | .cancelled => .cancelled
  | .recoveryRequired => .recoveryRequired
  | _ => .running

/-- The transition of `finalize`: none when there is nothing to change. -/
def applyResult (plan : PlanRecord) : Option MaintenanceState → Operation PlanRecord
  | none => pure plan
  | some target =>
      if target = plan.lifecycleState then pure plan else transitionForResult plan target

/-- `finalize`. -/
def finalize (service : MaintenanceExecutionService) (ticket : MaintenanceActionTicket)
    (result : AdapterResult) (now : Nat) (generated : String) : Operation PlanRecord := do
  let found ← getPlan ticket.planId
  ofExcept (service.validateTicket found ticket false)
  if ticket.action = .recover then
    recoverStaleLocks service found ticket result now generated
  let plan ← getPlan ticket.planId
  let target ← ofExcept (resultState ticket.action result)
  let reached ← applyResult plan target
  if terminal reached.lifecycleState then
    releaseActiveLocks reached.id now
  update (Database.setRunStatus ticket.runId (runStatus reached.lifecycleState))
  getPlan reached.id

/-- The state in which `fail` leaves a plan. -/
def failedState : MaintenanceState → Option MaintenanceState
  | .executing | .paused => some .recoveryRequired
  | .ready => some .blocked
  | _ => none

/-- `fail`. -/
def fail (service : MaintenanceExecutionService) (ticket : MaintenanceActionTicket) :
    Operation PlanRecord := do
  let plan ← getPlan ticket.planId
  ofExcept (service.validateTicket plan ticket true)
  match failedState plan.lifecycleState with
  | none => pure ()
  | some target => do
      let _ ← transitionPlan plan.id plan.stateRevision target
      pure ()
  update (Database.setRunStatus ticket.runId .recoveryRequired)
  getPlan plan.id

end MaintenanceExecutionService

end ElKeeper
