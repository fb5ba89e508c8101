import ElKeeper.MaintenanceExecution
import ElKeeper.RebootOrchestrator

/-!
# What the host and the container workflow share

Managed targets, the durable allocation guards around remote settings, and the
companion reconciliation of a returned workload.
-/

namespace ElKeeper

structure ManagedContainerTarget where
  assignmentId : Nat
  clusterId : Nat
  nodeId : Nat
  role : Role
  unit : String
  dataBearing : Bool
deriving DecidableEq

/-- The roles whose workloads hold data. -/
def Role.dataBearing : Role → Bool
  | hot | warm => true
  | _ => false

/-- `resolve_managed_container_target`. -/
def resolveManagedContainerTarget (database : Database) (assignmentId : Nat) :
    Except Fault ManagedContainerTarget :=
  match database.assignment? assignmentId with
  | none =>
      .error ⟨.containerMaintenanceBlocked,
        "Selected workload is not an active managed assignment"⟩
  | some row =>
      if row.state ≠ .active then
        .error ⟨.containerMaintenanceBlocked,
          "Selected workload is not an active managed assignment"⟩
      else
        match database.cluster? row.clusterId with
        | none =>
            .error ⟨.containerMaintenanceBlocked,
              "Selected workload cluster identity is incomplete"⟩
        | some cluster =>
            if cluster.slug = "" then
              .error ⟨.containerMaintenanceBlocked,
                "Selected workload cluster identity is incomplete"⟩
            else
              .ok
                { assignmentId := row.id
                  clusterId := row.clusterId
                  nodeId := row.nodeId
                  role := row.role
                  unit := "ecp-" ++ cluster.slug ++ "-" ++ row.role.text ++ "-" ++
                    toString row.nodeId ++ ".service"
                  dataBearing := row.role.dataBearing }

/-! ### Allocation guards -/

namespace AllocationGuardPhase

/-- The trigger over the phase of a guard. -/
def transitions : AllocationGuardPhase → List AllocationGuardPhase
  | captured => [active, restored, recoveryRequired]
  | active => [restored, recoveryRequired]
  | recoveryRequired => [restored]
  | restored => []

end AllocationGuardPhase

namespace Database

/-- `find_allocation_guard`. -/
def findAllocationGuard (database : Database) (clusterId : Nat) (planId : String) :
    Option AllocationGuardRecord :=
  (database.allocationGuards.filter fun guard =>
    guard.clusterId = clusterId && guard.ownerPlanId = planId).getLast?

/-- `find_active_allocation_guard`. -/
def findActiveAllocationGuard (database : Database) (clusterId : Nat) :
    Option AllocationGuardRecord :=
  (database.allocationGuards.filter fun guard =>
    guard.clusterId = clusterId && guard.phase ≠ .restored).getLast?

def addAllocationGuard (row : AllocationGuardRecord) (database : Database) : Database :=
  { database with
    allocationGuards := database.allocationGuards ++ [row]
    allocationGuardCounter := database.allocationGuardCounter + 1 }

def setAllocationGuard (guardId : Nat) (phase : AllocationGuardPhase) (checkpoint : Json)
    (database : Database) : Database :=
  { database with
    allocationGuards := database.allocationGuards.map fun guard =>
      if guard.id = guardId then
        { guard with
          phase := phase
          checkpoint := checkpoint
          stateRevision := guard.stateRevision + 1 }
      else guard }

end Database

namespace MaintenanceStore

open Program

/-- `create_allocation_guard`. -/
def createAllocationGuard (clusterId : Nat) (planId : String) (checkpoint : Json) :
    Operation Unit := do
  match ← read fun database => database.findAllocationGuard clusterId planId with
  | some existing =>
      require (existing.phase = .captured &&
          existing.checkpoint.persisted = checkpoint.persisted)
        ⟨.allocationGuardConflict, "Allocation guard already exists for this plan and cluster"⟩
  | none => do
      let active ← read fun database => database.findActiveAllocationGuard clusterId
      require active.isNone ⟨.allocationGuardConflict,
        "Cluster allocation guard is owned by another maintenance plan"⟩
      let known ← read fun database =>
        (database.plan? planId).isSome && (database.cluster? clusterId).isSome
      require known
        ⟨.allocationGuardConflict, "Cluster allocation guard was acquired concurrently"⟩
      let identifier ← read fun database => database.allocationGuardCounter + 1
      update (Database.addAllocationGuard
        { id := identifier
          clusterId := clusterId
          ownerPlanId := planId
          phase := .captured
          checkpoint := checkpoint.persisted
          stateRevision := 1 })

/-- `transition_allocation_guard` of a guard that was just read. -/
def transitionAllocationGuard (record : AllocationGuardRecord) (phase : AllocationGuardPhase)
    (checkpoint : Json) : Operation Unit := do
  match ← read fun database => database.allocationGuards.find? (·.id = record.id) with
  | none =>
      raise ⟨.recordNotFound,
        "Maintenance allocation guard " ++ toString record.id ++ " was not found"⟩
  | some current => do
      require (current.ownerPlanId = record.ownerPlanId)
        ⟨.allocationGuardOwnership, "Maintenance plan does not own this allocation guard"⟩
      require (current.stateRevision = record.stateRevision)
        ⟨.revisionConflict, "Allocation guard revision changed"⟩
      require (current.phase = phase || phase ∈ current.phase.transitions)
        ⟨.allocationGuardConflict, "Illegal allocation guard transition"⟩
      update (Database.setAllocationGuard record.id phase checkpoint.persisted)

end MaintenanceStore

/-- `AllocationGuardController` for the clusters of one action.  Its checkpoints belong to the
plan and the cluster that they were asked for; `validate` reads a stored one. -/
structure AllocationGuardGateway where
  capture : (clusterId : Nat) → History → Except Fault (AllocationGuardPhase × Json)
  activate : (clusterId : Nat) → Json → History → Except Fault (AllocationGuardPhase × Json)
  restore : (clusterId : Nat) → Json → History → Except Fault (AllocationGuardPhase × Json)
  validate : Json → Except Fault Unit

namespace AllocationGuardService

open Program MaintenanceStore

variable (gateway : AllocationGuardGateway) (planId : String) (clusterId : Nat)

/-- `capture`. -/
def capture : Action Unit := do
  match ← view fun database => database.findAllocationGuard clusterId planId with
  | some current =>
      if current.phase = .restored then
        raise ⟨.allocationGuardConflict,
          "Allocation guard has already been restored for this plan"⟩
      else ofExcept (gateway.validate current.checkpoint)
  | none => do
      let active ← view fun database => database.findActiveAllocationGuard clusterId
      require active.isNone ⟨.allocationGuardConflict,
        "Cluster allocation guard is owned by another maintenance plan"⟩
      let (phase, checkpoint) ← ask (fun _ => .guardCapture clusterId) (gateway.capture clusterId)
      require (phase = .captured)
        ⟨.valueError, "Allocation guard capture did not return a captured checkpoint"⟩
      store (createAllocationGuard clusterId planId checkpoint)

/-- `_owned_record`. -/
def ownedRecord : Action AllocationGuardRecord := do
  match ← view fun database => database.findAllocationGuard clusterId planId with
  | some record => pure record
  | none => do
      let active ← view fun database => database.findActiveAllocationGuard clusterId
      if active.isSome then
        raise ⟨.allocationGuardOwnership,
          "Cluster allocation guard is owned by another maintenance plan"⟩
      else
        raise ⟨.recordNotFound, "Maintenance allocation guard was not found"⟩

/-- Whether a controller answered that the guard is active. -/
def answeredActive : Except Fault (AllocationGuardPhase × Json) → Bool
  | .ok (phase, _) => phase = .active
  | .error _ => false

/-- `activate`. -/
def activate : Action Unit := do
  let record ← ownedRecord planId clusterId
  require (record.phase ≠ .restored)
    ⟨.allocationGuardOwnership, "Allocation guard has already been restored"⟩
  ofExcept (gateway.validate record.checkpoint)
  if record.phase = .active then pure ()
  else do
    require (record.phase = .captured) ⟨.allocationGuardOwnership,
      "Allocation guard cannot be activated in its current phase"⟩
    match ← attempt (ask (fun reply => .guardActivation clusterId (answeredActive reply))
        (gateway.activate clusterId record.checkpoint)) with
    | .error error => do
        store (transitionAllocationGuard record .recoveryRequired record.checkpoint)
        raise error
    | .ok (phase, checkpoint) => store (transitionAllocationGuard record phase checkpoint)

/-- `restore`. -/
def restore : Action Unit := do
  let record ← ownedRecord planId clusterId
  ofExcept (gateway.validate record.checkpoint)
  if record.phase = .restored then pure ()
  else do
    let (phase, checkpoint) ← ask (fun _ => .guardRestoration clusterId)
      (gateway.restore clusterId record.checkpoint)
    store (transitionAllocationGuard record phase checkpoint)

end AllocationGuardService

/-! ### Companions -/

namespace CompanionReconciler

open Program

/-- `cluster_for_assignment`. -/
def clusterForAssignment (database : Database) (assignmentId : Nat) : Except Fault Nat :=
  match database.assignment? assignmentId with
  | some row =>
      if row.state = .active then .ok row.clusterId
      else .error ⟨.runtimeError, "Selected maintenance workload is no longer active"⟩
  | none => .error ⟨.runtimeError, "Selected maintenance workload is no longer active"⟩

/-- `reconcile`: the launch opens a connection of its own, and the caller has no open writes. -/
def reconcile (assignmentId : Nat) : Action Bool := do
  let found ← view fun database => clusterForAssignment database assignmentId
  let clusterId ← ofExcept found
  let runId ← transaction (ClusterOperation.launchFilebeat clusterId (some [assignmentId]))
  pure (0 < runId)

end CompanionReconciler

end ElKeeper
