import ElKeeper.PlanningModels
import ElKeeper.Results
import Mathlib.Data.List.Sort
import Mathlib.Data.String.Basic

/-!
# The impact of an operation

What a planned operation takes away from the clusters that it touches, counted over the
workloads of a snapshot, and the budgets of a policy that this violates.
-/

namespace ElKeeper

namespace Planning

/-! ### Snapshots -/

def ObservationSnapshot.cluster (snapshot : ObservationSnapshot) (clusterId : Nat) :
    Option ClusterObservation :=
  snapshot.clusters.find? (·.clusterId = clusterId)

section Validation

variable {α : Type} [DecidableEq α]

def requireUnique (label : String) (identifiers : List α) : Except Fault Unit :=
  if identifiers.Nodup then .ok ()
  else .error ⟨.valueError,
    "Observation snapshot contains duplicate " ++ label ++ " identifiers"⟩

omit [DecidableEq α] in
theorem requireUnique_ok [DecidableEq α] {label : String} {identifiers : List α} {value : Unit}
    (passed : requireUnique label identifiers = .ok value) : identifiers.Nodup := by
  unfold requireUnique at passed
  split at passed
  · assumption
  · cases passed

end Validation

/-- `normalize_and_validate`. -/
def normalizeAndValidate (snapshot : ObservationSnapshot) : Except Fault ObservationSnapshot := do
  let sources := snapshot.sources.insertionSort fun item other => item.source ≤ other.source
  let hosts := snapshot.hosts.insertionSort fun item other => item.nodeId ≤ other.nodeId
  let clusters :=
    snapshot.clusters.insertionSort fun item other => item.clusterId ≤ other.clusterId
  let workloads :=
    snapshot.workloads.insertionSort fun item other => item.assignmentId ≤ other.assignmentId
  let revisions := snapshot.assignmentRevisions.insertionSort fun item other =>
    item.assignmentId ≤ other.assignmentId
  let policies :=
    snapshot.policies.insertionSort fun item other => item.clusterId ≤ other.clusterId
  let conflicts := snapshot.conflictingOperations.dedup.insertionSort (· ≤ ·)
  requireUnique "source" (sources.map (·.source))
  requireUnique "host" (hosts.map (·.nodeId))
  requireUnique "cluster" (clusters.map (·.clusterId))
  requireUnique "assignment" (workloads.map (·.assignmentId))
  requireUnique "assignment revision" (revisions.map (·.assignmentId))
  requireUnique "cluster policy" (policies.map (·.clusterId))
  .ok { snapshot with
    sources := sources
    hosts := hosts
    clusters := clusters
    workloads := workloads
    assignmentRevisions := revisions
    policies := policies
    conflictingOperations := conflicts }

/-- A snapshot as its model builds it. -/
def ObservationSnapshot.Built (snapshot : ObservationSnapshot) : Prop :=
  ∃ given, normalizeAndValidate given = .ok snapshot

namespace ObservationSnapshot.Built

variable {snapshot : ObservationSnapshot}

theorem unique (built : snapshot.Built) :
    (snapshot.clusters.map (·.clusterId)).Nodup ∧
      (snapshot.workloads.map (·.assignmentId)).Nodup := by
  obtain ⟨given, built⟩ := built
  simp only [normalizeAndValidate] at built
  obtain ⟨_, -, built⟩ := Results.bind_ok built
  obtain ⟨_, -, built⟩ := Results.bind_ok built
  obtain ⟨_, clusters, built⟩ := Results.bind_ok built
  obtain ⟨_, workloads, built⟩ := Results.bind_ok built
  obtain ⟨_, -, built⟩ := Results.bind_ok built
  obtain ⟨_, -, built⟩ := Results.bind_ok built
  cases built
  exact ⟨requireUnique_ok clusters, requireUnique_ok workloads⟩

theorem cluster_eq_some (built : snapshot.Built) {cluster : ClusterObservation}
    (member : cluster ∈ snapshot.clusters) :
    snapshot.cluster cluster.clusterId = some cluster :=
  find?_of_nodup_key built.unique.1 member

end ObservationSnapshot.Built

/-! ### The selection of a target -/

/-- Whether a target is about a workload. -/
def selects (target : PlanningTarget) (item : WorkloadObservation) : Bool :=
  if target.assignmentIds ≠ [] then item.assignmentId ∈ target.assignmentIds
  else if target.operation = .reboot ∧ target.nodeId ≠ none then
    some item.nodeId = target.nodeId
  else if target.operation = .upgrade ∧ target.clusterId ≠ none then
    some item.clusterId = target.clusterId
  else false

/-- `_selected_workloads`. -/
def selectedWorkloads (snapshot : ObservationSnapshot) (target : PlanningTarget) :
    List WorkloadObservation :=
  (snapshot.workloads.filter (selects target)).insertionSort fun item other =>
    item.assignmentId ≤ other.assignmentId

/-- `MaintenancePolicy()`. -/
def defaultPolicy : MaintenancePolicy where
  maxUnavailable := 1
  minimumMasterEligible := .quorum
  minimumDataPerTier := 1
  minimumKibana := 1
  minimumFleetServer := 1
  minimumLogstash := 1
  minimumCoordinating := 1
  allowAgentInterruption := "true-with-warning"
  requiredClusterHealth := "green"
  allocationGuard := "primaries-for-data"
  observationMaxAgeSeconds := 120
  restartAllocationDelaySeconds := none
  hostReturnTimeoutSeconds := 900
  workloadReadyTimeoutSeconds := 900
  planValiditySeconds := 300

/-- `_minimum_masters`. -/
def minimumMasters (policy : MaintenancePolicy) (total : Nat) : Nat :=
  if total = 0 then 0
  else
    match policy.minimumMasterEligible with
    | .quorum => total / 2 + 1
    | .count minimum => minimum

/-- `SERVICE_POLICY_FIELDS`, sorted. -/
def servicePolicyFields : List (String × (MaintenancePolicy → Nat)) :=
  [("coordinating", MaintenancePolicy.minimumCoordinating),
    ("fleet-server", MaintenancePolicy.minimumFleetServer),
    ("kibana", MaintenancePolicy.minimumKibana),
    ("logstash", MaintenancePolicy.minimumLogstash)]

def TierAvailability.safe (item : TierAvailability) : Bool :=
  item.required ≤ item.availableAfter

def RoleAvailability.safe (item : RoleAvailability) : Bool :=
  item.required ≤ item.availableAfter

/-- The limits of the model for its texts. -/
def BudgetViolation.Fits (violation : BudgetViolation) : Prop :=
  (1 ≤ violation.identifier.length ∧ violation.identifier.length ≤ 128) ∧
    (1 ≤ violation.summary.length ∧ violation.summary.length ≤ 512) ∧
    1 ≤ violation.remediation.length ∧ violation.remediation.length ≤ 512

instance (violation : BudgetViolation) : Decidable violation.Fits :=
  inferInstanceAs (Decidable (_ ∧ _))

namespace ClusterImpact

def masterQuorumSafe (impact : ClusterImpact) : Bool :=
  impact.masterRequired ≤ impact.masterAvailableAfter

def violationIds (impact : ClusterImpact) : List String :=
  impact.violations.map (·.identifier)

end ClusterImpact

namespace ImpactManifest

def withinBudget (manifest : ImpactManifest) : Bool :=
  manifest.clusters.all fun impact => impact.violations.isEmpty

/-- `ImpactManifest.cluster`. -/
def cluster (manifest : ImpactManifest) (clusterId : Nat) : Except Fault ClusterImpact :=
  match manifest.clusters.find? (·.clusterId = clusterId) with
  | some impact => .ok impact
  | none => .error ⟨.keyError, toString clusterId⟩

end ImpactManifest

/-! ### One cluster -/

/-- What one round of the loop over the affected clusters starts from. -/
structure ClusterScope where
  clusterId : Nat
  simultaneous : Bool
  /-- `cluster_workloads`. -/
  workloads : List WorkloadObservation
  selectedIds : List Nat
  observation : Option ClusterObservation

namespace ClusterScope

variable (scope : ClusterScope) (policy : MaintenancePolicy)

def targeted : List WorkloadObservation :=
  scope.workloads.filter (·.assignmentId ∈ scope.selectedIds)

/-- How many of some targeted workloads are counted as gone. -/
def disrupted (count : Nat) : Nat :=
  if scope.simultaneous then count else min 1 count

def existingUnavailable : Nat :=
  scope.workloads.countP (!·.ready)

def plannedUnavailable : Nat :=
  scope.disrupted (scope.targeted.countP (·.ready))

def totalUnavailableAfter : Nat :=
  scope.existingUnavailable + scope.plannedUnavailable

def observedMasterTotal : Nat :=
  (scope.observation.map (·.masterEligibleTotal)).getD 0

def observedMasterAvailable : Nat :=
  (scope.observation.map (·.masterEligibleAvailable)).getD 0

def targetedAvailableMasters : Nat :=
  scope.disrupted (scope.targeted.countP fun item => item.masterEligible && item.ready)

def masterAvailableAfter : Nat :=
  scope.observedMasterAvailable - scope.targetedAvailableMasters

def masterRequired : Nat :=
  minimumMasters policy scope.observedMasterTotal

def activeTiers : List String :=
  (scope.workloads.flatMap (·.dataTiers)).dedup.insertionSort (· ≤ ·)

def tierAvailability (tier : String) : TierAvailability :=
  let before := scope.workloads.countP fun item => item.ready && item.dataTiers.contains tier
  let reduction := scope.targeted.countP fun item => item.ready && item.dataTiers.contains tier
  { tier := tier
    availableBefore := before
    availableAfter := before - scope.disrupted reduction
    required := policy.minimumDataPerTier }

def roleWorkloads (role : String) : List WorkloadObservation :=
  scope.workloads.filter (·.role = role)

def roleAvailability (role : String) (required : MaintenancePolicy → Nat) : RoleAvailability :=
  let before := (scope.roleWorkloads role).countP (·.ready)
  let reduction := (scope.roleWorkloads role).countP fun item =>
    item.ready && item.assignmentId ∈ scope.selectedIds
  { role := role
    availableBefore := before
    availableAfter := before - scope.disrupted reduction
    required := required policy }

/-- The budgeted roles of a cluster. -/
def services : List (String × (MaintenancePolicy → Nat)) :=
  servicePolicyFields.filter fun field => scope.roleWorkloads field.1 ≠ []

def impactedAgents : Nat :=
  scope.targeted.countP fun item => item.role = "elastic-agent" && item.ready

def endpointsLost : List String :=
  let endpointRoles := (scope.workloads.filter (·.endpointRequired)).map (·.role)
  (endpointRoles.dedup.insertionSort (· ≤ ·)).filter fun role =>
    let before := scope.workloads.countP fun item => item.role = role && item.ready
    let impacted := scope.targeted.countP fun item => item.role = role && item.ready
    before - scope.disrupted impacted = 0 && impacted ≠ 0

/-! The budgets, in the order in which they are checked. -/

def exceedsUnavailable : Prop :=
  policy.maxUnavailable < scope.totalUnavailableAfter

def breaksQuorum : Prop :=
  scope.targetedAvailableMasters ≠ 0 ∧ scope.masterAvailableAfter < scope.masterRequired policy

def breaksTier (tier : String) : Prop :=
  (∃ workload ∈ scope.targeted, tier ∈ workload.dataTiers) ∧
    (scope.tierAvailability policy tier).safe = false

def breaksRole (role : String) (required : MaintenancePolicy → Nat) : Prop :=
  (∃ workload ∈ scope.roleWorkloads role, workload.assignmentId ∈ scope.selectedIds) ∧
    (scope.roleAvailability policy role required).safe = false

def interruptsAgents : Prop :=
  scope.impactedAgents ≠ 0 ∧ policy.allowAgentInterruption = "block"

instance : Decidable (scope.exceedsUnavailable policy) :=
  inferInstanceAs (Decidable (_ < _))

instance : Decidable (scope.breaksQuorum policy) :=
  inferInstanceAs (Decidable (_ ∧ _))

instance (tier : String) : Decidable (scope.breaksTier policy tier) :=
  inferInstanceAs (Decidable (_ ∧ _))

instance (role : String) (required : MaintenancePolicy → Nat) :
    Decidable (scope.breaksRole policy role required) :=
  inferInstanceAs (Decidable (_ ∧ _))

instance : Decidable (scope.interruptsAgents policy) :=
  inferInstanceAs (Decidable (_ ∧ _))

def unavailableViolation : BudgetViolation where
  identifier := "max_unavailable"
  summary :=
    s!"Cluster {scope.clusterId} would have {scope.totalUnavailableAfter} unavailable " ++
      s!"workloads; policy allows {policy.maxUnavailable}."
  remediation :=
    "Restore unavailable workloads or increase redundancy before planning this disruption."

def quorumViolation : BudgetViolation where
  identifier := "master_quorum"
  summary :=
    s!"Cluster {scope.clusterId} would retain {scope.masterAvailableAfter} of " ++
      s!"{scope.masterRequired policy} required master-eligible nodes."
  remediation := "Add or restore master-eligible capacity before disrupting this host."

def tierViolation (tier : String) : BudgetViolation where
  identifier := "data_tier:" ++ tier
  summary :=
    let item := scope.tierAvailability policy tier
    s!"Cluster {scope.clusterId} would retain {item.availableAfter} ready {tier} data nodes; " ++
      s!"policy requires {item.required}."
  remediation := s!"Add or restore a ready {tier} data node before disruption."

def roleViolation (role : String) (required : MaintenancePolicy → Nat) : BudgetViolation where
  identifier := "service:" ++ role
  summary :=
    let item := scope.roleAvailability policy role required
    s!"Cluster {scope.clusterId} would retain {item.availableAfter} ready {role} workloads; " ++
      s!"policy requires {item.required}."
  remediation :=
    s!"Add or restore a ready {role} workload before disruption, or use the separately audited " ++
      "outage workflow when supported."

def agentViolation : BudgetViolation where
  identifier := "agent_interruption"
  summary :=
    s!"Cluster {scope.clusterId} would interrupt {scope.impactedAgents} Elastic Agent workload(s)."
  remediation := "Move or stop the affected Agent workload deliberately before maintenance."

def violations : List BudgetViolation :=
  (if scope.exceedsUnavailable policy then [scope.unavailableViolation policy] else []) ++
    (if scope.breaksQuorum policy then [scope.quorumViolation policy] else []) ++
    (scope.activeTiers.filter fun tier => scope.breaksTier policy tier).map
      (scope.tierViolation policy) ++
    (scope.services.filter fun field => scope.breaksRole policy field.1 field.2).map
      (fun field => scope.roleViolation policy field.1 field.2) ++
    (if scope.interruptsAgents policy then [scope.agentViolation] else [])

def impact : ClusterImpact where
  clusterId := scope.clusterId
  affectedAssignmentIds := scope.targeted.map (·.assignmentId)
  affectedRoles := (scope.targeted.map (·.role)).dedup.insertionSort (· ≤ ·)
  existingUnavailable := scope.existingUnavailable
  plannedUnavailable := scope.plannedUnavailable
  totalUnavailableAfter := scope.totalUnavailableAfter
  maxUnavailable := policy.maxUnavailable
  masterTotal := scope.observedMasterTotal
  masterAvailableBefore := scope.observedMasterAvailable
  masterAvailableAfter := scope.masterAvailableAfter
  masterRequired := scope.masterRequired policy
  dataTiers := scope.activeTiers.map (scope.tierAvailability policy)
  services := scope.services.map fun field => scope.roleAvailability policy field.1 field.2
  endpointsLost := scope.endpointsLost
  agentInterruptions := scope.impactedAgents
  violations := scope.violations policy

/-- Which violations are calculated. -/
theorem mem_violationIds {identifier : String} :
    identifier ∈ (scope.impact policy).violationIds ↔
      (identifier = "max_unavailable" ∧ scope.exceedsUnavailable policy) ∨
      (identifier = "master_quorum" ∧ scope.breaksQuorum policy) ∨
      (∃ tier ∈ scope.activeTiers, identifier = "data_tier:" ++ tier ∧
        scope.breaksTier policy tier) ∨
      (∃ field ∈ scope.services, identifier = "service:" ++ field.1 ∧
        scope.breaksRole policy field.1 field.2) ∨
      (identifier = "agent_interruption" ∧ scope.interruptsAgents policy) := by
  have single {condition : Prop} [Decidable condition] (violation : BudgetViolation) :
      identifier ∈ (if condition then [violation] else []).map (·.identifier) ↔
        identifier = violation.identifier ∧ condition := by
    split <;> simp_all
  have several {α : Type} (items : List α) (breaks : α → Prop) [DecidablePred breaks]
      (violation : α → BudgetViolation) :
      identifier ∈ ((items.filter fun item => breaks item).map violation).map (·.identifier) ↔
        ∃ item ∈ items, identifier = (violation item).identifier ∧ breaks item := by
    simp only [List.mem_map, List.mem_filter, decide_eq_true_eq]
    grind
  simp only [ClusterImpact.violationIds, impact, violations, List.map_append, List.mem_append,
    single, several, unavailableViolation, quorumViolation, tierViolation, roleViolation,
    agentViolation, or_assoc]

/-- One round of the loop; a violation with a text out of its limits is refused. -/
def calculate : Except Fault ClusterImpact :=
  if ∀ violation ∈ scope.violations policy, violation.Fits then .ok (scope.impact policy)
  else .error ⟨.valueError, "1 validation error for BudgetViolation"⟩

end ClusterScope

theorem ClusterScope.calculate_eq_ok_iff {scope : ClusterScope} {policy : MaintenancePolicy}
    {impact : ClusterImpact} :
    scope.calculate policy = .ok impact ↔
      (∀ violation ∈ scope.violations policy, violation.Fits) ∧ impact = scope.impact policy := by
  unfold calculate
  split <;> simp_all [eq_comm]

/-! ### All affected clusters -/

def affectedClusterIds (snapshot : ObservationSnapshot) (target : PlanningTarget) : List Nat :=
  ((selectedWorkloads snapshot target).map (·.clusterId) ++ target.clusterId.toList).dedup
    |>.insertionSort (· ≤ ·)

def clusterScope (snapshot : ObservationSnapshot) (target : PlanningTarget) (clusterId : Nat) :
    ClusterScope where
  clusterId := clusterId
  simultaneous := target.operation = .reboot
  workloads := snapshot.workloads.filter fun item =>
    item.clusterId = clusterId && item.expectedRunning
  selectedIds := (selectedWorkloads snapshot target).map (·.assignmentId)
  observation := snapshot.cluster clusterId

/-- `calculate_impact`. -/
def calculateImpact (snapshot : ObservationSnapshot) (target : PlanningTarget)
    (policy : MaintenancePolicy) : Except Fault ImpactManifest := do
  let clusters ← (affectedClusterIds snapshot target).mapM fun clusterId =>
    (clusterScope snapshot target clusterId).calculate policy
  .ok {
    targetNodeId := target.nodeId
    affectedClusterIds := affectedClusterIds snapshot target
    affectedAssignmentIds := (selectedWorkloads snapshot target).map (·.assignmentId)
    clusters := clusters }

section Manifest

variable {snapshot : ObservationSnapshot} {target : PlanningTarget} {policy : MaintenancePolicy}
  {manifest : ImpactManifest}

theorem calculateImpact_eq_ok_iff :
    calculateImpact snapshot target policy = .ok manifest ↔
      (∀ clusterId ∈ affectedClusterIds snapshot target,
        ∀ violation ∈ (clusterScope snapshot target clusterId).violations policy,
          violation.Fits) ∧
      manifest = {
        targetNodeId := target.nodeId
        affectedClusterIds := affectedClusterIds snapshot target
        affectedAssignmentIds := (selectedWorkloads snapshot target).map (·.assignmentId)
        clusters := (affectedClusterIds snapshot target).map fun clusterId =>
          (clusterScope snapshot target clusterId).impact policy } := by
  have each (clusterId : Nat) (impact : ClusterImpact) :
      (clusterScope snapshot target clusterId).calculate policy = .ok impact ↔ _ :=
    ClusterScope.calculate_eq_ok_iff
  constructor
  · intro calculated
    obtain ⟨clusters, made, calculated⟩ := Results.bind_ok calculated
    obtain ⟨fits, rfl⟩ := (Results.mapM_eq_ok_iff each).mp made
    cases calculated
    exact ⟨fits, rfl⟩
  · rintro ⟨fits, rfl⟩
    rw [calculateImpact, (Results.mapM_eq_ok_iff each).mpr ⟨fits, rfl⟩]
    rfl

/-- The impacts of a manifest are those of the affected clusters. -/
theorem mem_clusters (calculated : calculateImpact snapshot target policy = .ok manifest)
    {impact : ClusterImpact} :
    impact ∈ manifest.clusters ↔
      ∃ clusterId ∈ affectedClusterIds snapshot target,
        impact = (clusterScope snapshot target clusterId).impact policy := by
  obtain ⟨-, rfl⟩ := calculateImpact_eq_ok_iff.mp calculated
  simp [eq_comm]

/-- The impact on a cluster is looked up in a manifest. -/
theorem cluster_of_calculated (calculated : calculateImpact snapshot target policy = .ok manifest)
    {clusterId : Nat} {impact : ClusterImpact} (found : manifest.cluster clusterId = .ok impact) :
    impact = (clusterScope snapshot target clusterId).impact policy := by
  unfold ImpactManifest.cluster at found
  split at found
  · rename_i first isFirst
    cases found
    have sameId := List.find?_some isFirst
    obtain ⟨other, -, rfl⟩ := (mem_clusters calculated).mp (List.mem_of_find?_eq_some isFirst)
    obtain rfl : other = clusterId := of_decide_eq_true sameId
    rfl
  · cases found

end Manifest

end Planning

end ElKeeper
