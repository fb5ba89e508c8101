import ElKeeper.CanonicalContent
import ElKeeper.PlanValidation
import ElKeeper.PreviewReplay

/-!
# The models of a compiled plan

The pydantic models that a plan is compiled from, with all their fields.  A dump of a
model is a tree of its fields; it still has timestamps, members of enumerations and
tuples in it, which the two canonical forms of a plan treat in their own ways.
-/

namespace ElKeeper

namespace Planning

/-- A dump of a model. -/
inductive ModelValue where
  | none
  | bool (value : Bool)
  | int (value : Int)
  | str (value : String)
  | enum (value : String)
  | timestamp (value : AwareTimestamp)
  | tuple (items : List ModelValue)
  | model (fields : List (String × ModelValue))

namespace ModelValue

/-- Field names differ from each other, and none of them looks sensitive. -/
def PlainNames (names : List String) : Prop :=
  names.Nodup ∧ ∀ name ∈ names, Json.sensitiveKey name = false

instance (names : List String) : Decidable (PlainNames names) :=
  inferInstanceAs (Decidable (_ ∧ _))

mutual

def Plain : ModelValue → Prop
  | .tuple items => ArePlain items
  | .model fields => PlainNames (fields.map Prod.fst) ∧ HavePlain fields
  | _ => True

def ArePlain : List ModelValue → Prop
  | [] => True
  | item :: items => Plain item ∧ ArePlain items

def HavePlain : List (String × ModelValue) → Prop
  | [] => True
  | (_, value) :: fields => Plain value ∧ HavePlain fields

end

mutual

/-- The timestamps of a dump. -/
def timestamps : ModelValue → List AwareTimestamp
  | .timestamp value => [value]
  | .tuple items => timestampsOfItems items
  | .model fields => timestampsOfFields fields
  | _ => []

def timestampsOfItems : List ModelValue → List AwareTimestamp
  | [] => []
  | item :: items => timestamps item ++ timestampsOfItems items

def timestampsOfFields : List (String × ModelValue) → List AwareTimestamp
  | [] => []
  | (_, value) :: fields => timestamps value ++ timestampsOfFields fields

end

end ModelValue

/-- A type of fields or models, with its dump. -/
class Dumped (α : Type) where
  dump : α → ModelValue
  plain : ∀ value, (dump value).Plain

open Dumped (dump plain)

section Fields

variable {α : Type} [Dumped α]

instance : Dumped Bool := ⟨.bool, fun _ => trivial⟩

instance : Dumped Nat := ⟨fun value => .int value, fun _ => trivial⟩

instance : Dumped String := ⟨.str, fun _ => trivial⟩

instance : Dumped AwareTimestamp := ⟨.timestamp, fun _ => trivial⟩

instance : Dumped (Option α) where
  dump
    | some value => dump value
    | none => .none
  plain
    | some value => plain value
    | none => trivial

instance : Dumped (List α) where
  dump items := .tuple (items.map dump)
  plain items := by
    induction items with
    | nil => trivial
    | cons item items ih => exact ⟨plain item, ih⟩

end Fields

/-! ### Enumerations and literals -/

instance : Dumped OperationKind := ⟨fun member => .enum member.value, fun _ => trivial⟩

instance : Dumped AvailabilityMode := ⟨fun member => .enum member.value, fun _ => trivial⟩

inductive ProviderType where
  | nativePodman
  | adoptedPodman
  | externalApi
  | eckEndpoint

def ProviderType.value : ProviderType → String
  | nativePodman => "native_podman"
  | adoptedPodman => "adopted_podman"
  | externalApi => "external_api"
  | eckEndpoint => "eck_endpoint"

instance : Dumped ProviderType := ⟨fun member => .enum member.value, fun _ => trivial⟩

inductive MaintenanceBackend where
  | documentedRolling
  | nodeShutdownApi
  | none

def MaintenanceBackend.value : MaintenanceBackend → String
  | documentedRolling => "documented_rolling"
  | nodeShutdownApi => "node_shutdown_api"
  | none => "none"

instance : Dumped MaintenanceBackend := ⟨fun member => .enum member.value, fun _ => trivial⟩

def sourceStatusValue : SourceStatus → String
  | .ok => "ok"
  | .stale => "stale"
  | .missing => "missing"
  | .error => "error"

instance : Dumped SourceStatus := ⟨fun member => .enum (sourceStatusValue member), fun _ => trivial⟩

inductive PredicateId where
  | hostEnabled
  | hostReachable
  | noConflictingOperation
  | membershipReady
  | freshRuntimeObservation
  | expectedClusterIdentity
  | supportedNodeLifecycleMode
  | clusterHealth
  | noShardMovement
  | noLastShardCopy
  | primaryPromotionSafety
  | allocationSettingCaptured
  | masterQuorum
  | roleAvailabilityBudget
  | diskWatermarksSafe
  | targetArtifactReady
  | versionTransitionSupported
  | snapshotRecoveryReady
  | noStaleShutdownRecord
deriving DecidableEq

def PredicateId.value : PredicateId → String
  | hostEnabled => "HostEnabled"
  | hostReachable => "HostReachable"
  | noConflictingOperation => "NoConflictingOperation"
  | membershipReady => "MembershipReady"
  | freshRuntimeObservation => "FreshRuntimeObservation"
  | expectedClusterIdentity => "ExpectedClusterIdentity"
  | supportedNodeLifecycleMode => "SupportedNodeLifecycleMode"
  | clusterHealth => "ClusterHealth"
  | noShardMovement => "NoShardMovement"
  | noLastShardCopy => "NoLastShardCopy"
  | primaryPromotionSafety => "PrimaryPromotionSafety"
  | allocationSettingCaptured => "AllocationSettingCaptured"
  | masterQuorum => "MasterQuorum"
  | roleAvailabilityBudget => "RoleAvailabilityBudget"
  | diskWatermarksSafe => "DiskWatermarksSafe"
  | targetArtifactReady => "TargetArtifactReady"
  | versionTransitionSupported => "VersionTransitionSupported"
  | snapshotRecoveryReady => "SnapshotRecoveryReady"
  | noStaleShutdownRecord => "NoStaleShutdownRecord"

instance : Dumped PredicateId := ⟨fun member => .enum member.value, fun _ => trivial⟩

inductive PredicateSeverity where
  | info
  | warning
  | critical

def PredicateSeverity.value : PredicateSeverity → String
  | info => "info"
  | warning => "warning"
  | critical => "critical"

instance : Dumped PredicateSeverity := ⟨fun member => .enum member.value, fun _ => trivial⟩

def predicateOutcomeValue : PredicateOutcome → String
  | .passed => "passed"
  | .warning => "warning"
  | .blocked => "blocked"

instance : Dumped PredicateOutcome :=
  ⟨fun member => .enum (predicateOutcomeValue member), fun _ => trivial⟩

/-- `int | Literal["quorum"]`. -/
inductive MinimumMasterEligible where
  | quorum
  | count (minimum : Nat)

instance : Dumped MinimumMasterEligible where
  dump
    | .quorum => .str "quorum"
    | .count minimum => .int minimum
  plain value := by cases value <;> trivial

/-! ### Models -/

/-- The dump of a model, where each name is on record as plain. -/
theorem plain_model {fields : List (String × ModelValue)} {names : List String}
    (sameNames : fields.map Prod.fst = names) (plainNames : ModelValue.PlainNames names)
    (values : ∀ field ∈ fields, field.2.Plain) : (ModelValue.model fields).Plain := by
  refine ⟨sameNames ▸ plainNames, ?_⟩
  clear sameNames
  induction fields with
  | nil => trivial
  | cons field fields ih =>
      obtain ⟨first, rest⟩ := List.forall_mem_cons.mp values
      exact ⟨first, ih rest⟩

structure MaintenancePolicy where
  maxUnavailable : Nat
  minimumMasterEligible : MinimumMasterEligible
  minimumDataPerTier : Nat
  minimumKibana : Nat
  minimumFleetServer : Nat
  minimumLogstash : Nat
  minimumCoordinating : Nat
  allowAgentInterruption : String
  requiredClusterHealth : String
  allocationGuard : String
  observationMaxAgeSeconds : Nat
  restartAllocationDelaySeconds : Option Nat
  hostReturnTimeoutSeconds : Nat
  workloadReadyTimeoutSeconds : Nat
  planValiditySeconds : Nat

def MaintenancePolicy.fields (policy : MaintenancePolicy) : List (String × ModelValue) :=
  [("max_unavailable", dump policy.maxUnavailable),
    ("max_surge", .int 0),
    ("minimum_master_eligible", dump policy.minimumMasterEligible),
    ("minimum_data_per_tier", dump policy.minimumDataPerTier),
    ("minimum_kibana", dump policy.minimumKibana),
    ("minimum_fleet_server", dump policy.minimumFleetServer),
    ("minimum_logstash", dump policy.minimumLogstash),
    ("minimum_coordinating", dump policy.minimumCoordinating),
    ("allow_agent_interruption", dump policy.allowAgentInterruption),
    ("required_cluster_health", dump policy.requiredClusterHealth),
    ("allocation_guard", dump policy.allocationGuard),
    ("observation_max_age_seconds", dump policy.observationMaxAgeSeconds),
    ("restart_allocation_delay_seconds", dump policy.restartAllocationDelaySeconds),
    ("host_return_timeout_seconds", dump policy.hostReturnTimeoutSeconds),
    ("workload_ready_timeout_seconds", dump policy.workloadReadyTimeoutSeconds),
    ("plan_validity_seconds", dump policy.planValiditySeconds)]

instance : Dumped MaintenancePolicy where
  dump policy := .model policy.fields
  plain policy := by
    refine plain_model (List.map_cons ..) ?_ ?_
    · simp only [List.map_cons, List.map_nil]
      decide +kernel
    · simp [MaintenancePolicy.fields, plain, ModelValue.Plain]

structure SourceObservation where
  source : String
  status : SourceStatus
  observedAt : AwareTimestamp
  required : Bool
  contentHash : Option String
  errorCategory : Option String

def SourceObservation.fields (source : SourceObservation) : List (String × ModelValue) :=
  [("source", dump source.source),
    ("status", dump source.status),
    ("observed_at", dump source.observedAt),
    ("required", dump source.required),
    ("content_hash", dump source.contentHash),
    ("error_category", dump source.errorCategory)]

instance : Dumped SourceObservation where
  dump source := .model source.fields
  plain source := by
    refine plain_model (List.map_cons ..) ?_ ?_
    · simp only [List.map_cons, List.map_nil]
      decide +kernel
    · simp [SourceObservation.fields, plain]

structure HostObservation where
  nodeId : Nat
  name : Option String
  enabled : Bool
  initialized : Bool
  reachable : Bool
  membershipReady : Bool
  observedAt : AwareTimestamp
  bootIdHash : Option String

def HostObservation.fields (host : HostObservation) : List (String × ModelValue) :=
  [("node_id", dump host.nodeId),
    ("name", dump host.name),
    ("enabled", dump host.enabled),
    ("initialized", dump host.initialized),
    ("reachable", dump host.reachable),
    ("membership_ready", dump host.membershipReady),
    ("observed_at", dump host.observedAt),
    ("boot_id_hash", dump host.bootIdHash)]

instance : Dumped HostObservation where
  dump host := .model host.fields
  plain host := by
    refine plain_model (List.map_cons ..) ?_ ?_
    · simp only [List.map_cons, List.map_nil]
      decide +kernel
    · simp [HostObservation.fields, plain]

structure WorkloadObservation where
  assignmentId : Nat
  clusterId : Nat
  nodeId : Nat
  name : Option String
  role : String
  expectedRunning : Bool
  running : Bool
  ready : Bool
  masterEligible : Bool
  dataTiers : List String
  endpointRequired : Bool
  observedAt : AwareTimestamp

def WorkloadObservation.fields (workload : WorkloadObservation) : List (String × ModelValue) :=
  [("assignment_id", dump workload.assignmentId),
    ("cluster_id", dump workload.clusterId),
    ("node_id", dump workload.nodeId),
    ("name", dump workload.name),
    ("role", dump workload.role),
    ("expected_running", dump workload.expectedRunning),
    ("running", dump workload.running),
    ("ready", dump workload.ready),
    ("master_eligible", dump workload.masterEligible),
    ("data_tiers", dump workload.dataTiers),
    ("endpoint_required", dump workload.endpointRequired),
    ("observed_at", dump workload.observedAt)]

instance : Dumped WorkloadObservation where
  dump workload := .model workload.fields
  plain workload := by
    refine plain_model (List.map_cons ..) ?_ ?_
    · simp only [List.map_cons, List.map_nil]
      decide +kernel
    · simp [WorkloadObservation.fields, plain]

structure ClusterObservation where
  clusterId : Nat
  providerType : ProviderType
  backend : MaintenanceBackend
  lifecycleSupported : Bool
  configuredName : String
  configuredUuid : Option String
  observedName : Option String
  observedUuid : Option String
  health : String
  masterEligibleTotal : Nat
  masterEligibleAvailable : Nat
  initializingShards : Nat
  relocatingShards : Nat
  noLastShardCopy : Bool
  primaryPromotionSafe : Bool
  allocationSettingCaptured : Bool
  diskWatermarksSafe : Bool
  targetArtifactReady : Bool
  versionTransitionSupported : Bool
  snapshotRecoveryReady : Bool
  staleShutdownRecord : Bool
  observedAt : AwareTimestamp

def ClusterObservation.fields (cluster : ClusterObservation) : List (String × ModelValue) :=
  [("cluster_id", dump cluster.clusterId),
    ("provider_type", dump cluster.providerType),
    ("backend", dump cluster.backend),
    ("lifecycle_supported", dump cluster.lifecycleSupported),
    ("configured_name", dump cluster.configuredName),
    ("configured_uuid", dump cluster.configuredUuid),
    ("observed_name", dump cluster.observedName),
    ("observed_uuid", dump cluster.observedUuid),
    ("health", dump cluster.health),
    ("master_eligible_total", dump cluster.masterEligibleTotal),
    ("master_eligible_available", dump cluster.masterEligibleAvailable),
    ("initializing_shards", dump cluster.initializingShards),
    ("relocating_shards", dump cluster.relocatingShards),
    ("no_last_shard_copy", dump cluster.noLastShardCopy),
    ("primary_promotion_safe", dump cluster.primaryPromotionSafe),
    ("allocation_setting_captured", dump cluster.allocationSettingCaptured),
    ("disk_watermarks_safe", dump cluster.diskWatermarksSafe),
    ("target_artifact_ready", dump cluster.targetArtifactReady),
    ("version_transition_supported", dump cluster.versionTransitionSupported),
    ("snapshot_recovery_ready", dump cluster.snapshotRecoveryReady),
    ("stale_shutdown_record", dump cluster.staleShutdownRecord),
    ("observed_at", dump cluster.observedAt)]

instance : Dumped ClusterObservation where
  dump cluster := .model cluster.fields
  plain cluster := by
    refine plain_model (List.map_cons ..) ?_ ?_
    · simp only [List.map_cons, List.map_nil]
      decide +kernel
    · simp [ClusterObservation.fields, plain]

structure RevisionObservation where
  assignmentId : Nat
  revision : Nat

def RevisionObservation.fields (revision : RevisionObservation) : List (String × ModelValue) :=
  [("assignment_id", dump revision.assignmentId),
    ("revision", dump revision.revision)]

instance : Dumped RevisionObservation where
  dump revision := .model revision.fields
  plain revision := by
    refine plain_model (List.map_cons ..) ?_ ?_
    · simp only [List.map_cons, List.map_nil]
      decide +kernel
    · simp [RevisionObservation.fields, plain]

structure PolicyObservation where
  clusterId : Nat
  revision : Nat
  policy : MaintenancePolicy

def PolicyObservation.fields (policy : PolicyObservation) : List (String × ModelValue) :=
  [("cluster_id", dump policy.clusterId),
    ("revision", dump policy.revision),
    ("policy", dump policy.policy)]

instance : Dumped PolicyObservation where
  dump policy := .model policy.fields
  plain policy := by
    refine plain_model (List.map_cons ..) ?_ ?_
    · simp only [List.map_cons, List.map_nil]
      decide +kernel
    · simp [PolicyObservation.fields, plain]

structure ObservationSnapshot where
  capturedAt : AwareTimestamp
  capabilityRevision : String
  sources : List SourceObservation
  hosts : List HostObservation
  clusters : List ClusterObservation
  workloads : List WorkloadObservation
  assignmentRevisions : List RevisionObservation
  policies : List PolicyObservation
  conflictingOperations : List String

def ObservationSnapshot.fields (snapshot : ObservationSnapshot) : List (String × ModelValue) :=
  [("captured_at", dump snapshot.capturedAt),
    ("capability_revision", dump snapshot.capabilityRevision),
    ("sources", dump snapshot.sources),
    ("hosts", dump snapshot.hosts),
    ("clusters", dump snapshot.clusters),
    ("workloads", dump snapshot.workloads),
    ("assignment_revisions", dump snapshot.assignmentRevisions),
    ("policies", dump snapshot.policies),
    ("conflicting_operations", dump snapshot.conflictingOperations)]

instance : Dumped ObservationSnapshot where
  dump snapshot := .model snapshot.fields
  plain snapshot := by
    refine plain_model (List.map_cons ..) ?_ ?_
    · simp only [List.map_cons, List.map_nil]
      decide +kernel
    · simp [ObservationSnapshot.fields, plain]

def planningTargetFields (target : PlanningTarget) : List (String × ModelValue) :=
  [("operation", dump target.operation),
    ("node_id", dump target.nodeId),
    ("cluster_id", dump target.clusterId),
    ("assignment_ids", dump target.assignmentIds),
    ("reason", dump target.reason),
    ("availability_mode", dump target.availabilityMode),
    ("current_version", dump target.currentVersion),
    ("target_version", dump target.targetVersion)]

instance : Dumped PlanningTarget where
  dump target := .model (planningTargetFields target)
  plain target := by
    refine plain_model (List.map_cons ..) ?_ ?_
    · simp only [List.map_cons, List.map_nil]
      decide +kernel
    · simp [planningTargetFields, plain]

structure TierAvailability where
  tier : String
  availableBefore : Nat
  availableAfter : Nat
  required : Nat

def TierAvailability.fields (tier : TierAvailability) : List (String × ModelValue) :=
  [("tier", dump tier.tier),
    ("available_before", dump tier.availableBefore),
    ("available_after", dump tier.availableAfter),
    ("required", dump tier.required)]

instance : Dumped TierAvailability where
  dump tier := .model tier.fields
  plain tier := by
    refine plain_model (List.map_cons ..) ?_ ?_
    · simp only [List.map_cons, List.map_nil]
      decide +kernel
    · simp [TierAvailability.fields, plain]

structure RoleAvailability where
  role : String
  availableBefore : Nat
  availableAfter : Nat
  required : Nat

def RoleAvailability.fields (service : RoleAvailability) : List (String × ModelValue) :=
  [("role", dump service.role),
    ("available_before", dump service.availableBefore),
    ("available_after", dump service.availableAfter),
    ("required", dump service.required)]

instance : Dumped RoleAvailability where
  dump service := .model service.fields
  plain service := by
    refine plain_model (List.map_cons ..) ?_ ?_
    · simp only [List.map_cons, List.map_nil]
      decide +kernel
    · simp [RoleAvailability.fields, plain]

structure BudgetViolation where
  identifier : String
  summary : String
  remediation : String

def BudgetViolation.fields (violation : BudgetViolation) : List (String × ModelValue) :=
  [("identifier", dump violation.identifier),
    ("summary", dump violation.summary),
    ("remediation", dump violation.remediation)]

instance : Dumped BudgetViolation where
  dump violation := .model violation.fields
  plain violation := by
    refine plain_model (List.map_cons ..) ?_ ?_
    · simp only [List.map_cons, List.map_nil]
      decide +kernel
    · simp [BudgetViolation.fields, plain]

structure ClusterImpact where
  clusterId : Nat
  affectedAssignmentIds : List Nat
  affectedRoles : List String
  existingUnavailable : Nat
  plannedUnavailable : Nat
  totalUnavailableAfter : Nat
  maxUnavailable : Nat
  masterTotal : Nat
  masterAvailableBefore : Nat
  masterAvailableAfter : Nat
  masterRequired : Nat
  dataTiers : List TierAvailability
  services : List RoleAvailability
  endpointsLost : List String
  agentInterruptions : Nat
  violations : List BudgetViolation

def ClusterImpact.fields (impact : ClusterImpact) : List (String × ModelValue) :=
  [("cluster_id", dump impact.clusterId),
    ("affected_assignment_ids", dump impact.affectedAssignmentIds),
    ("affected_roles", dump impact.affectedRoles),
    ("existing_unavailable", dump impact.existingUnavailable),
    ("planned_unavailable", dump impact.plannedUnavailable),
    ("total_unavailable_after", dump impact.totalUnavailableAfter),
    ("max_unavailable", dump impact.maxUnavailable),
    ("master_total", dump impact.masterTotal),
    ("master_available_before", dump impact.masterAvailableBefore),
    ("master_available_after", dump impact.masterAvailableAfter),
    ("master_required", dump impact.masterRequired),
    ("data_tiers", dump impact.dataTiers),
    ("services", dump impact.services),
    ("endpoints_lost", dump impact.endpointsLost),
    ("agent_interruptions", dump impact.agentInterruptions),
    ("violations", dump impact.violations)]

instance : Dumped ClusterImpact where
  dump impact := .model impact.fields
  plain impact := by
    refine plain_model (List.map_cons ..) ?_ ?_
    · simp only [List.map_cons, List.map_nil]
      decide +kernel
    · simp [ClusterImpact.fields, plain]

structure ImpactManifest where
  targetNodeId : Option Nat
  affectedClusterIds : List Nat
  affectedAssignmentIds : List Nat
  clusters : List ClusterImpact

def ImpactManifest.fields (manifest : ImpactManifest) : List (String × ModelValue) :=
  [("target_node_id", dump manifest.targetNodeId),
    ("affected_cluster_ids", dump manifest.affectedClusterIds),
    ("affected_assignment_ids", dump manifest.affectedAssignmentIds),
    ("clusters", dump manifest.clusters)]

instance : Dumped ImpactManifest where
  dump manifest := .model manifest.fields
  plain manifest := by
    refine plain_model (List.map_cons ..) ?_ ?_
    · simp only [List.map_cons, List.map_nil]
      decide +kernel
    · simp [ImpactManifest.fields, plain]

structure PredicateResult where
  identifier : PredicateId
  severity : PredicateSeverity
  outcome : PredicateOutcome
  applicable : Bool
  forceable : Bool
  overrideApplied : Bool
  evidenceSummary : String
  remediation : String
  observedAt : AwareTimestamp

def PredicateResult.fields (result : PredicateResult) : List (String × ModelValue) :=
  [("identifier", dump result.identifier),
    ("severity", dump result.severity),
    ("outcome", dump result.outcome),
    ("applicable", dump result.applicable),
    ("forceable", dump result.forceable),
    ("override_applied", dump result.overrideApplied),
    ("evidence_summary", dump result.evidenceSummary),
    ("remediation", dump result.remediation),
    ("observed_at", dump result.observedAt)]

instance : Dumped PredicateResult where
  dump result := .model result.fields
  plain result := by
    refine plain_model (List.map_cons ..) ?_ ?_
    · simp only [List.map_cons, List.map_nil]
      decide +kernel
    · simp [PredicateResult.fields, plain]

structure PlanStep where
  sequence : Nat
  kind : String
  summary : String
  clusterId : Option Nat
  assignmentId : Option Nat
  nodeId : Option Nat

def PlanStep.fields (step : PlanStep) : List (String × ModelValue) :=
  [("sequence", dump step.sequence),
    ("kind", dump step.kind),
    ("summary", dump step.summary),
    ("cluster_id", dump step.clusterId),
    ("assignment_id", dump step.assignmentId),
    ("node_id", dump step.nodeId)]

instance : Dumped PlanStep where
  dump step := .model step.fields
  plain step := by
    refine plain_model (List.map_cons ..) ?_ ?_
    · simp only [List.map_cons, List.map_nil]
      decide +kernel
    · simp [PlanStep.fields, plain]

structure RollbackBoundary where
  beforeStep : Nat
  behavior : String

def RollbackBoundary.fields (boundary : RollbackBoundary) : List (String × ModelValue) :=
  [("before_step", dump boundary.beforeStep),
    ("behavior", dump boundary.behavior)]

instance : Dumped RollbackBoundary where
  dump boundary := .model boundary.fields
  plain boundary := by
    refine plain_model (List.map_cons ..) ?_ ?_
    · simp only [List.map_cons, List.map_nil]
      decide +kernel
    · simp [RollbackBoundary.fields, plain]

end Planning

end ElKeeper
