import ElKeeper.Database
import Mathlib.Data.List.Dedup
import Mathlib.Data.List.Sort

/-!
# Replayed previews

A preview is looked up by its idempotency key before it is planned.  A plan that is
found is compared with the request and returned, and each entry point compares what
it deems sufficient.  The content of a stored plan does not change; a trigger of
the table sees to that.
-/

namespace ElKeeper

open Program

/-! ### Requests -/

inductive AvailabilityMode where
  | zeroImpact
  | auditedOutage
deriving DecidableEq, Repr

def AvailabilityMode.value : AvailabilityMode → String
  | zeroImpact => "zero-impact"
  | auditedOutage => "audited-outage"

inductive PreviewOperation where
  | reboot
  | manualMaintenance
  | hostMaintenance
  | containerMaintenance
  | resourceChange
  | clusterSettings
  | zoning
  | apply
  | detach
  | purge
  | download
  | upgrade
deriving DecidableEq, Repr

namespace PreviewOperation

def value : PreviewOperation → String
  | reboot => "reboot"
  | manualMaintenance => "manual_maintenance"
  | hostMaintenance => "host_maintenance"
  | containerMaintenance => "container_maintenance"
  | resourceChange => "resource_change"
  | clusterSettings => "cluster_settings"
  | zoning => "zoning"
  | apply => "apply"
  | detach => "detach"
  | purge => "purge"
  | download => "download"
  | upgrade => "upgrade"

/-- The table of `_internal_operation`. -/
def internal : PreviewOperation → OperationKind
  | reboot => .reboot
  | manualMaintenance => .manualMaintenance
  | hostMaintenance => .reboot
  | containerMaintenance => .workloadRestart
  | resourceChange => .resourceChange
  | clusterSettings => .settingsChange
  | zoning => .zoningChange
  | apply => .apply
  | detach => .detach
  | purge => .purge
  | download => .download
  | upgrade => .upgrade

def onHost : PreviewOperation → Bool
  | reboot | manualMaintenance | hostMaintenance => true
  | _ => false

def onAssignments : PreviewOperation → Bool
  | resourceChange | apply | detach | purge => true
  | _ => false

def onCluster : PreviewOperation → Bool
  | clusterSettings | zoning | download => true
  | _ => false

end PreviewOperation

/-- `assignment_ids`, as the validator of a request leaves them. -/
structure AssignmentIds where
  ids : List Nat
  nonempty : ids ≠ []
  ordered : ids.Pairwise (· < ·)
deriving DecidableEq

/-- The targets of the request models, with the operations that each of them admits. -/
inductive PreviewTarget where
  | host (operation : { operation : PreviewOperation // operation.onHost }) (nodeId : Nat)
  | container (assignmentId : Nat)
  | assignments (operation : { operation : PreviewOperation // operation.onAssignments })
      (assignmentIds : AssignmentIds)
  | cluster (operation : { operation : PreviewOperation // operation.onCluster })
      (clusterId : Nat)
  | upgrade (clusterId : Nat) (currentVersion targetVersion : String)
deriving DecidableEq

namespace PreviewTarget

def operation : PreviewTarget → PreviewOperation
  | host operation _ => operation
  | container _ => .containerMaintenance
  | assignments operation _ => operation
  | cluster operation _ => operation
  | upgrade _ _ _ => .upgrade

def nodeId? : PreviewTarget → Option Nat
  | host _ nodeId => some nodeId
  | _ => none

def clusterId? : PreviewTarget → Option Nat
  | cluster _ clusterId | upgrade clusterId _ _ => some clusterId
  | _ => none

/-- `_preview_assignment_ids`. -/
def assignmentIds : PreviewTarget → List Nat
  | container assignmentId => [assignmentId]
  | assignments _ assignmentIds => assignmentIds.ids
  | _ => []

def currentVersion? : PreviewTarget → Option String
  | upgrade _ currentVersion _ => some currentVersion
  | _ => none

def targetVersion? : PreviewTarget → Option String
  | upgrade _ _ targetVersion => some targetVersion
  | _ => none

end PreviewTarget

/-- `MaintenancePlanPreviewInput`. -/
structure PreviewInput where
  target : PreviewTarget
  reason : String
  availabilityMode : AvailabilityMode
  idempotencyKey : Option String
deriving DecidableEq

structure HostRebootPlanRequest where
  reason : String
  availabilityMode : AvailabilityMode
  idempotencyKey : String
deriving DecidableEq

inductive WorkloadOperation where
  | restart
  | resourceChange
  | certificateRotation
  | configurationChange
deriving DecidableEq, Repr

namespace WorkloadOperation

def value : WorkloadOperation → String
  | restart => "restart"
  | resourceChange => "resource_change"
  | certificateRotation => "certificate_rotation"
  | configurationChange => "configuration_change"

/-- `_operation_kind`. -/
def kind : WorkloadOperation → String
  | restart => "workload_restart"
  | resourceChange => "resource_change"
  | certificateRotation => "workload_certificate_rotation"
  | configurationChange => "workload_configuration_change"

end WorkloadOperation

/-- `WorkloadMaintenanceTarget`, without its role, its names and its budget. -/
structure WorkloadMaintenanceTarget where
  assignmentId : Nat
  clusterId : Nat
  nodeId : Nat
  operation : WorkloadOperation
deriving DecidableEq

structure WorkloadMaintenancePlanInput where
  target : WorkloadMaintenanceTarget
  reason : String
  idempotencyKey : String
deriving DecidableEq

/-- A request to one of the entry points; a host preview comes with the data of its host. -/
inductive PlanRequest where
  | hostReboot (nodeId : Nat) (request : HostRebootPlanRequest)
  | generic (request : PreviewInput) (requestedBy : String)
  | workload (request : WorkloadMaintenancePlanInput)
deriving DecidableEq

/-! ### Stored plans -/

structure PlanningTarget where
  operation : OperationKind
  nodeId : Option Nat
  clusterId : Option Nat
  assignmentIds : List Nat
  reason : String
  availabilityMode : AvailabilityMode
  currentVersion : Option String
  targetVersion : Option String
deriving DecidableEq

/-- `normalize_assignments`. -/
def normalizeAssignments (assignmentIds : List Nat) : List Nat :=
  assignmentIds.dedup.insertionSort (· ≤ ·)

/-- The shapes of `plan["target"]`; none of its keys is redacted. -/
inductive StoredTarget where
  | planning (target : PlanningTarget)
  | workload (target : WorkloadMaintenanceTarget)
deriving DecidableEq

namespace StoredTarget

/-! `target.get` of the keys that a replay compares; a workload target has only some of them. -/

def operation : StoredTarget → String
  | planning target => target.operation.value
  | workload target => target.operation.value

def reason? : StoredTarget → Option String
  | planning target => some target.reason
  | workload _ => none

def availabilityMode? : StoredTarget → Option AvailabilityMode
  | planning target => some target.availabilityMode
  | workload _ => none

def clusterId? : StoredTarget → Option Nat
  | planning target => target.clusterId
  | workload target => some target.clusterId

def assignmentIds : StoredTarget → List Nat
  | planning target => target.assignmentIds
  | workload _ => []

def currentVersion? : StoredTarget → Option String
  | planning target => target.currentVersion
  | workload _ => none

def targetVersion? : StoredTarget → Option String
  | planning target => target.targetVersion
  | workload _ => none

end StoredTarget

/-- What a replay reads of a stored plan. -/
structure PreviewRecord where
  id : String
  idempotencyKey : String
  operationKind : String
  targetNodeId : Nat
  target : StoredTarget
deriving DecidableEq

/-- `get_plan_by_idempotency_key`. -/
def planByKey (plans : List PreviewRecord) (key : String) : Option PreviewRecord :=
  plans.find? (·.idempotencyKey = key)

/-- What planning depends on besides the request: the host at which an assignment or a cluster
is observed, and whether the plan can be compiled and stored, with its new identifier. -/
structure Planner where
  canonicalHash : Json → String
  anchor : PreviewInput → Nat
  persist : List PreviewRecord → PlanRequest → Except Fault String

/-! ### The entry points -/

namespace PlanRequest

/-- `generic_preview_idempotency_key`. -/
def genericKey (planner : Planner) (request : PreviewInput) (requestedBy : String) : String :=
  let number (value : Option Nat) : Json := (value.map fun id => Json.num (id : Int)).getD .null
  let text (value : Option String) : Json := (value.map Json.str).getD .null
  request.idempotencyKey.getD <| planner.canonicalHash <| .obj
    [("operation", .str request.target.operation.value),
      ("node_id", number request.target.nodeId?),
      ("cluster_id", number request.target.clusterId?),
      ("assignment_ids",
        .arr (request.target.assignmentIds.map fun identifier => .num (identifier : Int))),
      ("current_version", text request.target.currentVersion?),
      ("target_version", text request.target.targetVersion?),
      ("reason", .str request.reason),
      ("availability_mode", .str request.availabilityMode.value),
      ("requested_by", .str requestedBy)]

def key (planner : Planner) : PlanRequest → String
  | hostReboot _ request => request.idempotencyKey
  | generic request requestedBy => genericKey planner request requestedBy
  | workload request => request.idempotencyKey

/-- The operation kind, the host and the target that a new plan is stored with. -/
def stored (planner : Planner) : PlanRequest → String × Nat × StoredTarget
  | hostReboot nodeId request =>
      (OperationKind.value .reboot, nodeId, .planning
        { operation := .reboot
          nodeId := some nodeId
          clusterId := none
          assignmentIds := []
          reason := request.reason
          availabilityMode := request.availabilityMode
          currentVersion := none
          targetVersion := none })
  | generic request _ =>
      let nodeId := request.target.nodeId?.getD (planner.anchor request)
      (request.target.operation.internal.value, nodeId, .planning
        { operation := request.target.operation.internal
          nodeId := some nodeId
          clusterId := request.target.clusterId?
          assignmentIds := normalizeAssignments request.target.assignmentIds
          reason := request.reason
          availabilityMode := request.availabilityMode
          currentVersion := request.target.currentVersion?
          targetVersion := request.target.targetVersion? })
  | workload request =>
      (request.target.operation.kind, request.target.nodeId, .workload request.target)

end PlanRequest

/-- `_same_request`. -/
def sameRequest (record : PreviewRecord) (nodeId : Nat) (request : HostRebootPlanRequest) : Bool :=
  record.operationKind = OperationKind.value .reboot && record.targetNodeId = nodeId &&
    record.target.reason? = some request.reason &&
    record.target.availabilityMode? = some request.availabilityMode

/-- `same_generic_preview_request`. -/
def sameGenericPreviewRequest (record : PreviewRecord) (request : PreviewInput) : Bool :=
  record.target.operation = request.target.operation.internal.value &&
    record.target.reason? = some request.reason &&
    record.target.availabilityMode? = some request.availabilityMode &&
    record.target.clusterId? = request.target.clusterId? &&
    record.target.assignmentIds = request.target.assignmentIds &&
    record.target.currentVersion? = request.target.currentVersion? &&
    record.target.targetVersion? = request.target.targetVersion?

namespace PreviewService

def keyConflict : Fault :=
  ⟨.idempotencyConflict, "Idempotency key was already used for a different maintenance preview"⟩

/-- Compile and store a new plan. -/
def create (planner : Planner) (request : PlanRequest) :
    Program (List PreviewRecord) Fault String := do
  let persisted ← read fun plans => planner.persist plans request
  let planId ← ofExcept persisted
  let (operationKind, targetNodeId, target) := request.stored planner
  update fun plans => plans ++ [⟨planId, request.key planner, operationKind, targetNodeId, target⟩]
  pure planId

/-- `progress`, which reads the target of the plan as a workload target. -/
def progress (record : PreviewRecord) : Except Fault String :=
  match record.target with
  | .workload _ => .ok record.id
  | .planning _ => .error ⟨.valueError, "WorkloadMaintenanceTarget: extra fields not permitted"⟩

/-- `create_host_reboot_preview`. -/
def createHostRebootPreview (planner : Planner) (nodeId : Nat) (request : HostRebootPlanRequest) :
    Program (List PreviewRecord) Fault String := do
  match ← read (planByKey · request.idempotencyKey) with
  | some existing => do
      require (sameRequest existing nodeId request) keyConflict
      pure existing.id
  | none => create planner (.hostReboot nodeId request)

/-- `create_generic_preview`. -/
def createGenericPreview (planner : Planner) (request : PreviewInput) (requestedBy : String) :
    Program (List PreviewRecord) Fault String := do
  match ← read (planByKey · (PlanRequest.genericKey planner request requestedBy)) with
  | some existing => do
      require (sameGenericPreviewRequest existing request) keyConflict
      pure existing.id
  | none => create planner (.generic request requestedBy)

/-- `WorkloadMaintenancePlanService.create_preview`. -/
def createWorkloadPreview (planner : Planner) (request : WorkloadMaintenancePlanInput) :
    Program (List PreviewRecord) Fault String := do
  match ← read (planByKey · request.idempotencyKey) with
  | some existing => ofExcept (progress existing)
  | none => create planner (.workload request)

def perform (planner : Planner) : PlanRequest → Program (List PreviewRecord) Fault String
  | .hostReboot nodeId request => createHostRebootPreview planner nodeId request
  | .generic request requestedBy => createGenericPreview planner request requestedBy
  | .workload request => createWorkloadPreview planner request

/-- The plans after a request; one that raises is rolled back. -/
def committed (plans : List PreviewRecord) (planner : Planner) (request : PlanRequest) :
    List PreviewRecord :=
  match (perform planner request).run plans with
  | (.returned _, after) => after
  | _ => plans

/-- The plans after requests that were answered one after the other. -/
def performAll (plans : List PreviewRecord) (requests : List (Planner × PlanRequest)) :
    List PreviewRecord :=
  requests.foldl (fun reached request => committed reached request.1 request.2) plans

end PreviewService

/-! ### What a sound replay is -/

/-- What makes two requests the same. -/
structure RequestIdentity where
  operation : String
  nodeId : Option Nat
  clusterId : Option Nat
  assignmentIds : List Nat
  currentVersion : Option String
  targetVersion : Option String
  reason : String
  availabilityMode : Option AvailabilityMode
deriving DecidableEq

namespace PlanRequest

def identity : PlanRequest → RequestIdentity
  | hostReboot nodeId request =>
      { operation := PreviewOperation.value .reboot
        nodeId := some nodeId
        clusterId := none
        assignmentIds := []
        currentVersion := none
        targetVersion := none
        reason := request.reason
        availabilityMode := some request.availabilityMode }
  | generic request _ =>
      { operation := request.target.operation.value
        nodeId := request.target.nodeId?
        clusterId := request.target.clusterId?
        assignmentIds := request.target.assignmentIds
        currentVersion := request.target.currentVersion?
        targetVersion := request.target.targetVersion?
        reason := request.reason
        availabilityMode := some request.availabilityMode }
  | workload request =>
      { operation := request.target.operation.kind
        nodeId := some request.target.nodeId
        clusterId := some request.target.clusterId
        assignmentIds := [request.target.assignmentId]
        currentVersion := none
        targetVersion := none
        reason := request.reason
        availabilityMode := none }

/-- What a generic request for a host is compared by: its host is not part of it, and neither is
the difference between a reboot and a host maintenance. -/
def hostView : PlanRequest → Option (OperationKind × String × AvailabilityMode)
  | hostReboot _ request => some (.reboot, request.reason, request.availabilityMode)
  | generic request _ => request.target.nodeId?.map fun _ =>
      (request.target.operation.internal, request.reason, request.availabilityMode)
  | workload _ => none

/-- A host maintenance of this host with the reason and the mode of a reboot. -/
def IsHostMaintenance (nodeId : Nat) (request : HostRebootPlanRequest) : PlanRequest → Prop
  | generic input _ => input.target = .host ⟨.hostMaintenance, rfl⟩ nodeId ∧
      input.reason = request.reason ∧ input.availabilityMode = request.availabilityMode
  | _ => False

/-- The entry point of the second request tells it from the first one if they differ. -/
def Distinguished (first : PlanRequest) : PlanRequest → Prop
  | hostReboot nodeId request => ¬ first.IsHostMaintenance nodeId request
  | generic input requestedBy =>
      (generic input requestedBy).hostView = first.hostView → input.target.nodeId? = none
  | workload _ => False

end PlanRequest

/-- The errors that the routes answer with 409. -/
def Fault.isConflict (fault : Fault) : Bool :=
  fault.kind = .idempotencyConflict || fault.kind = .overlappingPlan

/-- A second request gets the plan of the first one only when both are the same, and is refused
without a trace otherwise. -/
structure ReplaySound (planner : Planner) (first second : PlanRequest) (planId : String)
    (plans : List PreviewRecord) : Prop where
  returned : ∀ after, (PreviewService.perform planner second).run plans =
    (.returned planId, after) → second.identity = first.identity
  refused : second.identity ≠ first.identity →
    ∃ error, error.isConflict ∧
      (PreviewService.perform planner second).run plans = (.raised error, plans)

/-! ### A stored plan is found again -/

namespace PreviewService

variable {planner : Planner} {plans after : List PreviewRecord}

/-- A new plan is stored with what its request asked for. -/
theorem create_returned {request : PlanRequest} {planId : String}
    (ran : (create planner request).run plans = (.returned planId, after)) :
    after = plans ++ [⟨planId, request.key planner, (request.stored planner).1,
      (request.stored planner).2.1, (request.stored planner).2.2⟩] := by
  obtain ⟨_, _, wasRead, persisting⟩ := bind_eq_returned ran
  cases wasRead
  obtain ⟨_, _, persisted, writing⟩ := bind_eq_returned persisting
  obtain ⟨_, rfl⟩ := ofExcept_eq_returned persisted
  cases writing
  rfl

/-- A request whose key is not there creates a plan. -/
theorem perform_missing {request : PlanRequest}
    (missing : planByKey plans (request.key planner) = none) :
    (perform planner request).run plans = (create planner request).run plans := by
  cases request with
  | hostReboot nodeId request =>
      simp only [PlanRequest.key] at missing
      simp [perform, createHostRebootPreview, run_bind, missing]
  | generic request requestedBy =>
      simp only [PlanRequest.key] at missing
      simp [perform, createGenericPreview, run_bind, missing]
  | workload request =>
      simp only [PlanRequest.key] at missing
      simp [perform, createWorkloadPreview, run_bind, missing]

/-- Whether an entry point takes a stored plan for the one of its request. -/
def accepts (record : PreviewRecord) : PlanRequest → Bool
  | .hostReboot nodeId request => sameRequest record nodeId request
  | .generic request _ => sameGenericPreviewRequest record request
  | .workload _ => (progress record).isOk

/-- A request whose key is there gets the plan or is refused. -/
theorem perform_found {request : PlanRequest} {record : PreviewRecord}
    (found : planByKey plans (request.key planner) = some record) :
    (accepts record request ∧
        (perform planner request).run plans = (.returned record.id, plans)) ∨
      (¬ accepts record request ∧ ∃ error,
        (perform planner request).run plans = (.raised error, plans) ∧
          (error.isConflict ↔ ∀ input, request ≠ .workload input)) := by
  cases request with
  | hostReboot nodeId request =>
      simp only [PlanRequest.key] at found
      cases same : sameRequest record nodeId request
      · refine .inr ⟨by simp [accepts, same], keyConflict, ?_, ?_⟩
        · simp [perform, createHostRebootPreview, run_bind, found, same, run_require]
        · simp [keyConflict, Fault.isConflict]
      · refine .inl ⟨same, ?_⟩
        simp [perform, createHostRebootPreview, run_bind, found, same, run_require]
  | generic request requestedBy =>
      simp only [PlanRequest.key] at found
      cases same : sameGenericPreviewRequest record request
      · refine .inr ⟨by simp [accepts, same], keyConflict, ?_, ?_⟩
        · simp [perform, createGenericPreview, run_bind, found, same, run_require]
        · simp [keyConflict, Fault.isConflict]
      · refine .inl ⟨same, ?_⟩
        simp [perform, createGenericPreview, run_bind, found, same, run_require]
  | workload request =>
      simp only [PlanRequest.key] at found
      cases shape : record.target with
      | workload target =>
          left
          simp [accepts, perform, createWorkloadPreview, run_bind, found, progress, shape,
            Program.ofExcept, Except.isOk, Except.toBool]
      | planning target =>
          right
          refine ⟨by simp [accepts, progress, shape, Except.isOk, Except.toBool],
            ⟨.valueError, "WorkloadMaintenanceTarget: extra fields not permitted"⟩, ?_, ?_⟩
          · simp [perform, createWorkloadPreview, run_bind, found, progress, shape,
              Program.ofExcept]
          · simp [Fault.isConflict]

/-- The plan of a key stays the plan of that key. -/
theorem committed_keeps {key : String} {record : PreviewRecord} (request : PlanRequest)
    (found : planByKey plans key = some record) :
    planByKey (committed plans planner request) key = some record := by
  unfold committed
  split
  next planId after ran =>
    cases stored : planByKey plans (request.key planner) with
    | none =>
        rw [perform_missing stored] at ran
        rw [create_returned ran]
        simp only [planByKey, List.find?_append] at found ⊢
        simp [found]
    | some other =>
        obtain ⟨-, kept⟩ | ⟨-, _, kept, -⟩ := perform_found stored
        · rw [kept] at ran
          cases ran
          exact found
        · rw [kept] at ran
          cases ran
  next => exact found

theorem performAll_keeps {key : String} {record : PreviewRecord}
    (requests : List (Planner × PlanRequest)) (found : planByKey plans key = some record) :
    planByKey (performAll plans requests) key = some record := by
  induction requests generalizing plans with
  | nil => exact found
  | cons request requests ih => exact ih (committed_keeps request.2 found)

/-- With the plan of its key there, a second request is sound if it is the same or if it is
told from the first one by a comparison. -/
theorem replaySound_iff {first second : PlanRequest} {record : PreviewRecord}
    (found : planByKey plans (second.key planner) = some record) :
    ReplaySound planner first second record.id plans ↔
      second.identity = first.identity ∨
        (¬ accepts record second ∧ ∀ input, second ≠ .workload input) := by
  constructor
  · intro sound
    by_cases same : second.identity = first.identity
    · exact .inl same
    · right
      obtain ⟨error, isConflict, refused⟩ := sound.refused same
      obtain ⟨-, returned⟩ | ⟨notAccepted, _, raised, workload⟩ := perform_found found
      · rw [returned] at refused
        cases refused
      · rw [raised] at refused
        cases refused
        exact ⟨notAccepted, workload.mp isConflict⟩
  · rintro (same | ⟨notAccepted, notWorkload⟩)
    · exact ⟨fun _ _ => same, fun differs => absurd same differs⟩
    · obtain ⟨accepted, -⟩ | ⟨-, error, raised, workload⟩ := perform_found found
      · exact absurd accepted notAccepted
      · refine ⟨fun after ran => ?_, fun _ => ⟨error, workload.mpr notWorkload, raised⟩⟩
        rw [raised] at ran
        cases ran

end PreviewService

/-! ### What the comparisons leave out -/

theorem OperationKind.value_injective : Function.Injective OperationKind.value := by
  intro a b same
  cases a <;> cases b <;> first | rfl | (simp [OperationKind.value] at same)

namespace PreviewOperation

theorem value_injective : Function.Injective value := by
  intro a b same
  cases a <;> cases b <;> first | rfl | (simp [value] at same)

/-- Only operations on hosts share an internal operation. -/
theorem internal_injective_off_host {a b : PreviewOperation} (same : a.internal = b.internal)
    (offHost : ¬ b.onHost) : a = b := by
  cases a <;> cases b <;> simp_all [internal, onHost]

theorem onHost_congr {a b : PreviewOperation} (same : a.internal = b.internal) :
    a.onHost = b.onHost := by
  cases a <;> cases b <;> simp_all [internal, onHost]

end PreviewOperation

namespace PreviewTarget

theorem onHost_eq_isSome (target : PreviewTarget) :
    target.operation.onHost = target.nodeId?.isSome := by
  cases target with
  | host operation nodeId => exact operation.2
  | container assignmentId => rfl
  | assignments operation assignmentIds =>
      obtain ⟨operation, admitted⟩ := operation
      cases operation <;> first | rfl | exact absurd admitted (by decide)
  | cluster operation clusterId =>
      obtain ⟨operation, admitted⟩ := operation
      cases operation <;> first | rfl | exact absurd admitted (by decide)
  | upgrade clusterId currentVersion targetVersion => rfl

/-- A target with a host has nothing else. -/
theorem host_only {target : PreviewTarget} {nodeId : Nat} (onHost : target.nodeId? = some nodeId) :
    target.clusterId? = none ∧ target.assignmentIds = [] ∧ target.currentVersion? = none ∧
      target.targetVersion? = none := by
  cases target with
  | host operation nodeId => exact ⟨rfl, rfl, rfl, rfl⟩
  | container | assignments | cluster | upgrade => cases onHost

/-- The identifiers of a request are in order already. -/
theorem normalize_assignmentIds (target : PreviewTarget) :
    normalizeAssignments target.assignmentIds = target.assignmentIds := by
  have ordered : target.assignmentIds.Pairwise (· < ·) := by
    cases target with
    | assignments operation assignmentIds => exact assignmentIds.ordered
    | host | container | cluster | upgrade => simp [assignmentIds]
  have distinct : target.assignmentIds.Nodup := ordered.imp fun less => Nat.ne_of_lt less
  rw [normalizeAssignments, distinct.dedup]
  exact (ordered.imp fun less => Nat.le_of_lt less).insertionSort_eq

end PreviewTarget

namespace PreviewService

/-- The record that a request creates. -/
def recorded (planner : Planner) (request : PlanRequest) (planId : String) : PreviewRecord :=
  ⟨planId, request.key planner, (request.stored planner).1, (request.stored planner).2.1,
    (request.stored planner).2.2⟩

/-- A host reboot is compared in full, up to the kind of operation that is public. -/
theorem accepts_hostReboot (planner : Planner) (first : PlanRequest) (planId : String)
    (nodeId : Nat) (request : HostRebootPlanRequest) :
    accepts (recorded planner first planId) (.hostReboot nodeId request) ↔
      (PlanRequest.hostReboot nodeId request).identity = first.identity ∨
        first.IsHostMaintenance nodeId request := by
  cases first with
  | hostReboot otherNode other =>
      simp only [accepts, sameRequest, recorded, PlanRequest.stored, StoredTarget.reason?,
        StoredTarget.availabilityMode?, PlanRequest.identity, PlanRequest.IsHostMaintenance,
        RequestIdentity.mk.injEq, Bool.and_eq_true, decide_eq_true_eq, Option.some.injEq]
      grind
  | generic input requestedBy =>
      have onHost := PreviewTarget.onHost_eq_isSome input.target
      obtain ⟨target, reason, availabilityMode, idempotencyKey⟩ := input
      cases target with
      | host operation otherNode =>
          obtain ⟨operation, admitted⟩ := operation
          cases operation <;> first
            | exact absurd admitted (by decide)
            | simp [accepts, sameRequest, recorded, PlanRequest.stored, StoredTarget.reason?,
                StoredTarget.availabilityMode?, PlanRequest.identity,
                PlanRequest.IsHostMaintenance, PreviewTarget.nodeId?, PreviewTarget.operation,
                PreviewOperation.internal, OperationKind.value, PreviewOperation.value,
                PreviewTarget.clusterId?, PreviewTarget.assignmentIds,
                PreviewTarget.currentVersion?, PreviewTarget.targetVersion?]
              try grind
      | container | assignments | cluster | upgrade =>
          have notReboot : ¬ OperationKind.value (PreviewOperation.internal
              (PreviewTarget.operation _)) = OperationKind.value .reboot := fun same => by
            have sameKind := PreviewOperation.onHost_congr (b := .reboot)
              (OperationKind.value_injective same)
            rw [onHost] at sameKind
            cases sameKind
          simp [accepts, sameRequest, recorded, PlanRequest.stored, PlanRequest.identity,
            PlanRequest.IsHostMaintenance, notReboot, PreviewTarget.nodeId?]
  | workload input =>
      simp [accepts, sameRequest, recorded, PlanRequest.stored, PlanRequest.identity,
        PlanRequest.IsHostMaintenance, StoredTarget.reason?]

/-- A generic request for a host is compared by its host view, any other one in full. -/
theorem accepts_generic (planner : Planner) (first : PlanRequest) (planId : String)
    (input : PreviewInput) (requestedBy : String) :
    accepts (recorded planner first planId) (.generic input requestedBy) ↔
      (PlanRequest.generic input requestedBy).identity = first.identity ∨
        ((PlanRequest.generic input requestedBy).hostView = first.hostView ∧
          input.target.nodeId? ≠ none) := by
  have onHost := input.target.onHost_eq_isSome
  cases first with
  | hostReboot otherNode other =>
      obtain ⟨target, reason, availabilityMode, idempotencyKey⟩ := input
      cases target with
      | host operation nodeId =>
          obtain ⟨operation, admitted⟩ := operation
          cases operation <;> first
            | exact absurd admitted (by decide)
            | simp [accepts, sameGenericPreviewRequest, recorded, PlanRequest.stored,
                StoredTarget.operation, StoredTarget.reason?, StoredTarget.availabilityMode?,
                StoredTarget.clusterId?, StoredTarget.assignmentIds, StoredTarget.currentVersion?,
                StoredTarget.targetVersion?, PlanRequest.identity, PlanRequest.hostView,
                PreviewTarget.nodeId?, PreviewTarget.operation, PreviewOperation.internal,
                OperationKind.value, PreviewOperation.value, PreviewTarget.clusterId?,
                PreviewTarget.assignmentIds, PreviewTarget.currentVersion?,
                PreviewTarget.targetVersion?]
              try grind
      | container | assignments | cluster | upgrade =>
          have notReboot : ¬ OperationKind.value .reboot = OperationKind.value
              (PreviewOperation.internal (PreviewTarget.operation _)) := fun same => by
            have sameKind := PreviewOperation.onHost_congr (a := .reboot)
              (OperationKind.value_injective same)
            rw [onHost] at sameKind
            cases sameKind
          simp [accepts, sameGenericPreviewRequest, recorded, PlanRequest.stored,
            StoredTarget.operation, PlanRequest.identity, notReboot, PreviewTarget.nodeId?]
  | generic other otherUser =>
      have otherHost := other.target.onHost_eq_isSome
      simp only [accepts, sameGenericPreviewRequest, recorded, PlanRequest.stored,
        StoredTarget.operation, StoredTarget.reason?, StoredTarget.availabilityMode?,
        StoredTarget.clusterId?, StoredTarget.assignmentIds, StoredTarget.currentVersion?,
        StoredTarget.targetVersion?, PreviewTarget.normalize_assignmentIds, PlanRequest.identity,
        PlanRequest.hostView, RequestIdentity.mk.injEq, Bool.and_eq_true, decide_eq_true_eq,
        Option.some.injEq, OperationKind.value_injective.eq_iff,
        PreviewOperation.value_injective.eq_iff]
      constructor
      · rintro ⟨⟨⟨⟨⟨⟨sameKind, reason⟩, mode⟩, cluster⟩, assignments⟩, current⟩, target⟩
        have sameSide := PreviewOperation.onHost_congr sameKind
        cases hosts : input.target.nodeId? with
        | none =>
            left
            rw [onHost, hosts] at sameSide
            have sameOperation := PreviewOperation.internal_injective_off_host sameKind
              (by rw [onHost, hosts]; exact Bool.false_ne_true)
            have noHost : other.target.nodeId? = none := by
              rw [otherHost] at sameSide
              exact Option.not_isSome_iff_eq_none.mp (by simp [sameSide])
            exact ⟨sameOperation.symm, noHost.symm, cluster.symm, assignments.symm, current.symm,
              target.symm, reason.symm, mode.symm⟩
        | some nodeId =>
            right
            rw [onHost, hosts, otherHost] at sameSide
            obtain ⟨otherNode, otherHosts⟩ := Option.isSome_iff_exists.mp sameSide
            simp [otherHosts, sameKind, reason, mode]
      · rintro (⟨sameOperation, -, cluster, assignments, current, target, reason, mode⟩ |
          ⟨sameView, hosts⟩)
        · simp [sameOperation, cluster, assignments, current, target, reason, mode]
        · obtain ⟨nodeId, hosts⟩ := Option.ne_none_iff_exists'.mp hosts
          rw [hosts, Option.map_some] at sameView
          obtain ⟨otherNode, otherHosts, sameView⟩ := Option.map_eq_some_iff.mp sameView.symm
          obtain ⟨sameKind, reason, mode⟩ : _ ∧ _ ∧ _ := by simpa using sameView
          obtain ⟨cluster, assignments, current, target⟩ := PreviewTarget.host_only hosts
          obtain ⟨cluster', assignments', current', target'⟩ := PreviewTarget.host_only otherHosts
          simp [sameKind, reason, mode, cluster, assignments, current, target, cluster',
            assignments', current', target']
  | workload other =>
      simp [accepts, sameGenericPreviewRequest, recorded, PlanRequest.stored, PlanRequest.identity,
        PlanRequest.hostView, StoredTarget.reason?]

/-- A request that finds no plan of its key leaves the one that it creates. -/
theorem created_found {planner : Planner} {plans after : List PreviewRecord}
    {request : PlanRequest} {planId : String}
    (missing : planByKey plans (request.key planner) = none)
    (ran : (perform planner request).run plans = (.returned planId, after)) :
    planByKey after (request.key planner) = some (recorded planner request planId) := by
  rw [perform_missing missing] at ran
  rw [create_returned ran]
  simp only [planByKey, List.find?_append] at missing ⊢
  simp [missing, recorded]

/-- After any requests in between, the replay of a key is sound for the requests that are the
same as the first one, and for those that their entry point tells from it. -/
theorem replay_sound_iff {planner planner' : Planner} {earlier created : List PreviewRecord}
    {first second : PlanRequest} {planId : String} {between : List (Planner × PlanRequest)}
    (missing : planByKey earlier (first.key planner) = none)
    (ran : (perform planner first).run earlier = (.returned planId, created))
    (sameKey : second.key planner' = first.key planner) :
    ReplaySound planner' first second planId (performAll created between) ↔
      second.identity = first.identity ∨ first.Distinguished second := by
  have found : planByKey (performAll created between) (second.key planner') =
      some (recorded planner first planId) := by
    rw [sameKey]
    exact performAll_keeps between (created_found missing ran)
  have sound : ReplaySound planner' first second planId (performAll created between) ↔
      second.identity = first.identity ∨
        (¬ accepts (recorded planner first planId) second ∧
          ∀ input, second ≠ .workload input) :=
    replaySound_iff found
  rw [sound]
  cases second with
  | hostReboot nodeId request =>
      rw [accepts_hostReboot]
      simp only [PlanRequest.Distinguished]
      grind
  | generic input requestedBy =>
      rw [accepts_generic]
      simp only [PlanRequest.Distinguished]
      grind
  | workload input => simp [PlanRequest.Distinguished]

end PreviewService

/-! ### Sample previews -/

namespace PreviewSample

/-- Plans are numbered in the order in which they are stored. -/
def planner : Planner where
  canonicalHash := fun _ => "0f"
  anchor := fun _ => 1
  persist := fun plans _ => .ok s!"plan-{plans.length + 1}"

def onHost (operation : { operation : PreviewOperation // operation.onHost }) (nodeId : Nat)
    (reason : String) : PlanRequest :=
  .generic
    { target := .host operation nodeId
      reason := reason
      availabilityMode := .zeroImpact
      idempotencyKey := some "june" }
    "operator"

def maintenance (nodeId : Nat) (reason : String) : PlanRequest :=
  onHost ⟨.hostMaintenance, rfl⟩ nodeId reason

def first : PlanRequest := maintenance 1 "kernel update"

def created : List PreviewRecord := [PreviewService.recorded planner first "plan-1"]

end PreviewSample

open PreviewSample in
/-- Another reason is told from the first one. -/
theorem replay_sound_other_reason :
    ReplaySound planner first (maintenance 2 "disk") "plan-1"
      (PreviewService.performAll created [(planner, maintenance 1 "memory")]) := by
  have ran : (PreviewService.perform planner first).run [] = (.returned "plan-1", created) := by
    decide +kernel
  have sameKey : (maintenance 2 "disk").key planner = first.key planner := rfl
  have distinguished : first.Distinguished (maintenance 2 "disk") := fun sameView =>
    absurd sameView (by decide)
  exact (PreviewService.replay_sound_iff rfl ran sameKey).mpr (.inr distinguished)

open PreviewSample in
/-- The maintenance of a second host gets the plan of the first one. -/
theorem other_host_replayed :
    (PreviewService.perform planner first).run [] = (.returned "plan-1", created) ∧
      (maintenance 2 "kernel update").key planner = first.key planner ∧
      (maintenance 2 "kernel update").identity ≠ first.identity ∧
      (PreviewService.perform planner (maintenance 2 "kernel update")).run created =
        (.returned "plan-1", created) ∧
      ¬ ReplaySound planner first (maintenance 2 "kernel update") "plan-1" created := by
  have replayed : (PreviewService.perform planner (maintenance 2 "kernel update")).run created =
      (.returned "plan-1", created) := by
    decide +kernel
  have differs : (maintenance 2 "kernel update").identity ≠ first.identity := by decide
  exact ⟨by decide +kernel, rfl, differs, replayed,
    fun sound => differs (sound.returned _ replayed)⟩

end ElKeeper
