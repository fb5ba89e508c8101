import ElKeeper.Program

/-!
# Lifecycle states and their transition tables

The states of maintenance plans, steps, hosts and workflows, and the tables of
legal transitions that both the repository and the database triggers enforce.
A failing operation carries the exception class and the message of the source.
-/

namespace ElKeeper

/-- The categories of `ElasticsearchRequestError`. -/
inductive RequestErrorCategory where
  | timeout
  | transportError
  | httpStatus (statusCode : Nat)
  | invalidJson
  | invalidResponseShape
deriving DecidableEq, Repr

def RequestErrorCategory.value : RequestErrorCategory → String
  | timeout => "timeout"
  | transportError => "transport-error"
  | httpStatus _ => "http-status"
  | invalidJson => "invalid-json"
  | invalidResponseShape => "invalid-response-shape"

/-- The status code that a message ends with. -/
def RequestErrorCategory.suffix : RequestErrorCategory → String
  | httpStatus statusCode => " (" ++ toString statusCode ++ ")"
  | _ => ""

/-- The exception classes that the modelled code raises or tells apart. -/
inductive FaultKind where
  | valueError
  | runtimeError
  | keyError
  | transitionError
  | recordNotFound
  | revisionConflict
  | idempotencyConflict
  | overlappingPlan
  | lockConflict
  | staleLockRequiresRecovery
  | lockOwnership
  | allocationGuardConflict
  | allocationGuardOwnership
  | integrityError
  | executionBlocked
  | hostMaintenanceBlocked
  | containerMaintenanceBlocked
  | manualMaintenanceConflict
  | manualMaintenanceRecoveryRequired
  | http (status : Nat)
  | elasticsearchRequest (category : RequestErrorCategory)
  | transientAllocationPrecedence
  | adapter
deriving DecidableEq, Repr

/-- A raised exception. -/
structure Fault where
  kind : FaultKind
  message : String
deriving DecidableEq, Repr

inductive MaintenanceState where
  | draft
  | ready
  | blocked
  | executing
  | paused
  | recoveryRequired
  | succeeded
  | failed
  | cancelled
deriving DecidableEq, Repr

inductive MaintenanceStepState where
  | pending
  | executing
  | verified
  | skipped
  | failed
  | recoveryRequired
deriving DecidableEq, Repr

inductive HostMaintenanceState where
  | available
  | planning
  | maintenance
  | draining
  | recoveryRequired
deriving DecidableEq, Repr

inductive MaintenanceWorkflowState where
  | available
  | preparing
  | readyToStop
  | stopping
  | maintenance
  | returning
  | verifying
  | blocked
  | recoveryRequired
deriving DecidableEq, Repr

inductive LockScope where
  | host
  | cluster
  | assignment
  | recovery
deriving DecidableEq, Repr

inductive SideEffectState where
  | notStarted
  | prepared
  | mayHaveStarted
  | verified
deriving DecidableEq, Repr

namespace MaintenanceState

def value : MaintenanceState → String
  | draft => "draft"
  | ready => "ready"
  | blocked => "blocked"
  | executing => "executing"
  | paused => "paused"
  | recoveryRequired => "recovery_required"
  | succeeded => "succeeded"
  | failed => "failed"
  | cancelled => "cancelled"

/-- `PLAN_TRANSITIONS`. -/
def transitions : MaintenanceState → List MaintenanceState
  | draft => [ready, blocked, cancelled]
  | ready => [executing, blocked, cancelled]
  | blocked => [draft, ready, failed, cancelled]
  | executing => [paused, recoveryRequired, succeeded, failed]
  | paused => [executing, recoveryRequired, failed, cancelled]
  | recoveryRequired => [executing, succeeded, failed, cancelled]
  | succeeded => []
  | failed => []
  | cancelled => []

/-- The states in which a plan occupies its target, as in the partial unique
indexes over plans. -/
def active : MaintenanceState → Bool
  | ready | executing | paused | recoveryRequired => true
  | _ => false

end MaintenanceState

namespace MaintenanceStepState

def value : MaintenanceStepState → String
  | pending => "pending"
  | executing => "executing"
  | verified => "verified"
  | skipped => "skipped"
  | failed => "failed"
  | recoveryRequired => "recovery_required"

/-- `STEP_TRANSITIONS`. -/
def transitions : MaintenanceStepState → List MaintenanceStepState
  | pending => [executing, skipped, failed]
  | executing => [verified, failed, recoveryRequired]
  | recoveryRequired => [executing, verified, failed, skipped]
  | verified => []
  | skipped => []
  | failed => []

end MaintenanceStepState

namespace MaintenanceWorkflowState

def value : MaintenanceWorkflowState → String
  | available => "available"
  | preparing => "preparing"
  | readyToStop => "ready_to_stop"
  | stopping => "stopping"
  | maintenance => "maintenance"
  | returning => "returning"
  | verifying => "verifying"
  | blocked => "blocked"
  | recoveryRequired => "recovery_required"

/-- `WORKFLOW_TRANSITIONS`. -/
def transitions : MaintenanceWorkflowState → List MaintenanceWorkflowState
  | available => [preparing]
  | preparing => [available, readyToStop, maintenance, blocked, recoveryRequired]
  | readyToStop => [available, stopping, blocked, recoveryRequired]
  | stopping => [maintenance, blocked, recoveryRequired]
  | maintenance => [available, returning, blocked, recoveryRequired]
  | returning => [available, verifying, blocked, recoveryRequired]
  | verifying => [available, blocked, recoveryRequired]
  | blocked => [available, preparing, recoveryRequired]
  | recoveryRequired => [available, preparing, maintenance, returning]

end MaintenanceWorkflowState

namespace HostMaintenanceState

def value : HostMaintenanceState → String
  | available => "available"
  | planning => "planning"
  | maintenance => "maintenance"
  | draining => "draining"
  | recoveryRequired => "recovery_required"

/-- `HOST_TRANSITIONS`. -/
def transitions : HostMaintenanceState → List HostMaintenanceState
  | available => [planning]
  | planning => [available, maintenance, recoveryRequired]
  | maintenance => [available, draining, recoveryRequired]
  | draining => [available, maintenance, recoveryRequired]
  | recoveryRequired => [available, planning, maintenance]

/-- `LEGACY_HOST_WORKFLOW_STATE`. -/
def workflowState : HostMaintenanceState → MaintenanceWorkflowState
  | available => .available
  | planning => .preparing
  | maintenance => .maintenance
  | draining => .returning
  | recoveryRequired => .recoveryRequired

end HostMaintenanceState

/-- `validate_transition`: a transition is listed and not a repetition. -/
def validateTransition {α : Type} [DecidableEq α] (value : α → String)
    (transitions : α → List α) (current target : α) : Except Fault Unit :=
  if current = target then
    .error ⟨.transitionError,
      "Repeated transition to " ++ value target ++ " is not allowed"⟩
  else if target ∉ transitions current then
    .error ⟨.transitionError,
      "Transition from " ++ value current ++ " to " ++ value target ++ " is not allowed"⟩
  else
    .ok ()

def validatePlanTransition : MaintenanceState → MaintenanceState → Except Fault Unit :=
  validateTransition MaintenanceState.value MaintenanceState.transitions

def validateStepTransition :
    MaintenanceStepState → MaintenanceStepState → Except Fault Unit :=
  validateTransition MaintenanceStepState.value MaintenanceStepState.transitions

def validateHostTransition :
    HostMaintenanceState → HostMaintenanceState → Except Fault Unit :=
  validateTransition HostMaintenanceState.value HostMaintenanceState.transitions

def validateWorkflowTransition :
    MaintenanceWorkflowState → MaintenanceWorkflowState → Except Fault Unit :=
  validateTransition MaintenanceWorkflowState.value MaintenanceWorkflowState.transitions

theorem validateTransition_ok {α : Type} [DecidableEq α] {value : α → String}
    {transitions : α → List α} {current target : α}
    (valid : validateTransition value transitions current target = .ok ()) :
    current ≠ target ∧ target ∈ transitions current := by
  simp only [validateTransition] at valid
  split at valid
  · cases valid
  · split at valid
    · cases valid
    · exact ⟨by assumption, by simpa using ‹¬ target ∉ transitions current›⟩

end ElKeeper
