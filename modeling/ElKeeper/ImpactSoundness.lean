import ElKeeper.ImpactCalculation

/-!
# Budgets after a disruption

When no violation is calculated for a cluster, its budgets are also kept after the
disruption itself: after all targeted workloads stopped together in a reboot, and after
any one of them stopped in other operations.  A removal takes all of its targets for good
but is counted like the other operations.
-/

namespace ElKeeper

namespace Planning

/-- Rows with a key in a list are at most as many as the list has entries. -/
theorem countP_key_le_length {α κ : Type} [DecidableEq κ] {key : α → κ} {rows : List α}
    (unique : (rows.map key).Nodup) (keys : List κ) (kept : α → Bool) :
    rows.countP (fun row => kept row && keys.contains (key row)) ≤ keys.length := by
  rw [List.countP_eq_length_filter, ← List.length_map (f := key)]
  apply List.Subperm.length_le
  apply List.subperm_of_subset
  · exact unique.sublist (List.filter_sublist.map key)
  · intro identifier isKey
    obtain ⟨row, isKept, rfl⟩ := List.mem_map.mp isKey
    have both := (List.mem_filter.mp isKept).2
    simp only [Bool.and_eq_true, List.contains_iff_mem] at both
    exact both.2

namespace ClusterScope

variable (scope : ClusterScope) (policy : MaintenancePolicy)

/-- The ready workloads of some kind that are not among those which stopped. -/
def remaining (gone : List Nat) (kind : WorkloadObservation → Bool) : Nat :=
  scope.workloads.countP fun item =>
    item.ready && kind item && !gone.contains item.assignmentId

/-- The ready workloads of some kind among those which stopped. -/
def lost (gone : List Nat) (kind : WorkloadObservation → Bool) : Nat :=
  scope.workloads.countP fun item => item.ready && kind item && gone.contains item.assignmentId

def inTier (tier : String) (item : WorkloadObservation) : Bool :=
  item.dataTiers.contains tier

def inRole (role : String) (item : WorkloadObservation) : Bool :=
  item.role = role

/-- The budgets of a cluster, as they stand when the workloads in `gone` are down as well. -/
structure Withstands (gone : List Nat) : Prop where
  unavailable : (scope.workloads.countP fun item =>
    !item.ready || gone.contains item.assignmentId) ≤ policy.maxUnavailable
  tiers : ∀ tier, (∃ item ∈ scope.targeted, tier ∈ item.dataTiers) →
    policy.minimumDataPerTier ≤ scope.remaining gone (inTier tier)
  services : ∀ field ∈ servicePolicyFields, (∃ item ∈ scope.targeted, item.role = field.1) →
    field.2 policy ≤ scope.remaining gone (inRole field.1)
  masters : ∀ observed, scope.observation = some observed →
    (∃ item ∈ scope.targeted, item.masterEligible = true ∧ item.ready = true) →
      minimumMasters policy observed.masterEligibleTotal ≤
        observed.masterEligibleAvailable - scope.lost gone (·.masterEligible)

/-- Workloads that an operation may stop at one time. -/
structure Disruption (gone : List Nat) : Prop where
  targeted : ∀ identifier ∈ gone, identifier ∈ scope.selectedIds
  single : scope.simultaneous = false → gone.length ≤ 1

variable {scope policy} {gone : List Nat} {kind : WorkloadObservation → Bool}

theorem mem_targeted {item : WorkloadObservation} :
    item ∈ scope.targeted ↔ item ∈ scope.workloads ∧ item.assignmentId ∈ scope.selectedIds := by
  simp [targeted]

theorem remaining_add_lost :
    scope.remaining gone kind + scope.lost gone kind =
      scope.workloads.countP fun item => item.ready && kind item := by
  rw [List.countP_eq_countP_filter_add scope.workloads _ fun item =>
    !gone.contains item.assignmentId, List.countP_filter, List.countP_filter, remaining, lost]
  simp

theorem targeted_countP (kept : WorkloadObservation → Bool) :
    scope.targeted.countP kept =
      scope.workloads.countP fun item =>
        kept item && scope.selectedIds.contains item.assignmentId := by
  rw [targeted, List.countP_filter]
  simp

/-- What a disruption takes is at most what is counted as gone. -/
theorem Disruption.lost_le (disruption : scope.Disruption gone)
    (unique : (scope.workloads.map (·.assignmentId)).Nodup) :
    scope.lost gone kind ≤
      scope.disrupted (scope.targeted.countP fun item => item.ready && kind item) := by
  have selected : scope.lost gone kind ≤
      scope.targeted.countP fun item => item.ready && kind item := by
    rw [targeted_countP, lost]
    apply List.countP_mono_left
    intro item _ isLost
    simp only [Bool.and_eq_true, List.contains_iff_mem] at isLost ⊢
    exact ⟨isLost.1, disruption.targeted _ isLost.2⟩
  cases together : scope.simultaneous with
  | true => simpa [disrupted, together] using selected
  | false =>
      have few : scope.lost gone kind ≤ gone.length :=
        countP_key_le_length unique gone fun item => item.ready && kind item
      have one := disruption.single together
      simp only [disrupted, together, Bool.false_eq_true, if_false]
      omega

/-- A budget that holds after what is counted as gone also holds after the disruption. -/
theorem Disruption.required_le (disruption : scope.Disruption gone)
    (unique : (scope.workloads.map (·.assignmentId)).Nodup) {required : Nat}
    (safe : required ≤ (scope.workloads.countP fun item => item.ready && kind item) -
      scope.disrupted (scope.targeted.countP fun item => item.ready && kind item)) :
    required ≤ scope.remaining gone kind := by
  have taken : scope.lost gone kind ≤ _ := disruption.lost_le unique
  have total : scope.remaining gone kind + _ = _ := remaining_add_lost
  omega

/-! ### What the absence of violations says -/

section NoViolation

variable (none : scope.violations policy = [])

include none

theorem not_exceedsUnavailable : ¬ scope.exceedsUnavailable policy := by
  intro exceeds
  simp [violations, exceeds] at none

theorem not_breaksQuorum : ¬ scope.breaksQuorum policy := by
  intro breaks
  simp [violations, breaks] at none

theorem not_breaksTier {tier : String} (active : tier ∈ scope.activeTiers) :
    ¬ scope.breaksTier policy tier := by
  intro breaks
  simp only [violations, List.append_eq_nil_iff, List.map_eq_nil_iff,
    List.filter_eq_nil_iff] at none
  exact none.1.1.2 tier active (decide_eq_true breaks)

theorem not_breaksRole {field : String × (MaintenancePolicy → Nat)}
    (budgeted : field ∈ scope.services) : ¬ scope.breaksRole policy field.1 field.2 := by
  intro breaks
  simp only [violations, List.append_eq_nil_iff, List.map_eq_nil_iff,
    List.filter_eq_nil_iff] at none
  exact none.1.2 field budgeted (decide_eq_true breaks)

/-- A tier with a targeted workload keeps its minimum after what is counted as gone. -/
theorem tier_kept {tier : String} (isTargeted : ∃ item ∈ scope.targeted, tier ∈ item.dataTiers) :
    policy.minimumDataPerTier ≤
      (scope.workloads.countP fun item => item.ready && inTier tier item) -
        scope.disrupted (scope.targeted.countP fun item => item.ready && inTier tier item) := by
  obtain ⟨item, member, inTier⟩ := isTargeted
  have active : tier ∈ scope.activeTiers := by
    rw [activeTiers, List.mem_insertionSort, List.mem_dedup, List.mem_flatMap]
    exact ⟨item, (mem_targeted.mp member).1, inTier⟩
  have kept := not_breaksTier none active
  simp only [breaksTier, not_and, Bool.not_eq_false] at kept
  exact of_decide_eq_true (kept ⟨item, member, inTier⟩)

/-- So does a budgeted role. -/
theorem role_kept {field : String × (MaintenancePolicy → Nat)}
    (budgeted : field ∈ servicePolicyFields)
    (isTargeted : ∃ item ∈ scope.targeted, item.role = field.1) :
    field.2 policy ≤
      (scope.workloads.countP fun item => item.ready && inRole field.1 item) -
        scope.disrupted (scope.targeted.countP fun item =>
          item.ready && inRole field.1 item) := by
  obtain ⟨item, member, isRole⟩ := isTargeted
  obtain ⟨isWorkload, isSelected⟩ := mem_targeted.mp member
  have inRole : item ∈ scope.roleWorkloads field.1 := by
    simp [roleWorkloads, isWorkload, isRole]
  have service : field ∈ scope.services := by
    simp only [services, List.mem_filter, decide_eq_true_eq]
    exact ⟨budgeted, List.ne_nil_of_mem inRole⟩
  have kept := not_breaksRole none service
  simp only [breaksRole, not_and, Bool.not_eq_false] at kept
  have safe := of_decide_eq_true (kept ⟨item, inRole, isSelected⟩)
  have before : (scope.roleWorkloads field.1).countP (·.ready) =
      scope.workloads.countP fun item => item.ready && ClusterScope.inRole field.1 item := by
    rw [roleWorkloads, List.countP_filter]
    rfl
  have reduction : ((scope.roleWorkloads field.1).countP fun item =>
      item.ready && item.assignmentId ∈ scope.selectedIds) =
      scope.targeted.countP fun item => item.ready && ClusterScope.inRole field.1 item := by
    rw [roleWorkloads, targeted, List.countP_filter, List.countP_filter]
    apply List.countP_congr
    intro other _
    simp only [ClusterScope.inRole, Bool.and_eq_true, decide_eq_true_eq]
    tauto
  rw [← before, ← reduction]
  exact safe

/-- The masters that are left keep the quorum. -/
theorem masters_kept {observed : ClusterObservation}
    (isObserved : scope.observation = some observed)
    (isTargeted : ∃ item ∈ scope.targeted, item.masterEligible = true ∧ item.ready = true) :
    minimumMasters policy observed.masterEligibleTotal ≤
      observed.masterEligibleAvailable -
        scope.disrupted (scope.targeted.countP fun item => item.ready && item.masterEligible) := by
  obtain ⟨item, member, eligible, ready⟩ := isTargeted
  have positive : 0 < scope.targeted.countP fun item => item.masterEligible && item.ready :=
    List.countP_pos_iff.mpr ⟨item, member, by simp [eligible, ready]⟩
  have counted : scope.targetedAvailableMasters ≠ 0 := by
    rw [targetedAvailableMasters, disrupted]
    split <;> omega
  have kept := not_breaksQuorum none
  simp only [breaksQuorum, not_and, not_lt] at kept
  have enough := kept counted
  simp only [masterRequired, masterAvailableAfter, observedMasterTotal, observedMasterAvailable,
    isObserved, Option.map_some, Option.getD_some, targetedAvailableMasters] at enough
  simpa only [Bool.and_comm] using enough

/-- Without a violation a cluster withstands each disruption. -/
theorem withstands (disruption : scope.Disruption gone)
    (unique : (scope.workloads.map (·.assignmentId)).Nodup) : scope.Withstands policy gone where
  unavailable := by
    have split : (scope.workloads.countP fun item =>
        !item.ready || gone.contains item.assignmentId) =
        scope.existingUnavailable + scope.lost gone fun _ => true := by
      rw [List.countP_eq_countP_filter_add scope.workloads _ fun item => !item.ready,
        List.countP_filter, List.countP_filter, existingUnavailable, lost]
      congr 1 <;>
      · apply List.countP_congr
        intro item _
        cases item.ready <;> simp
    have taken : (scope.lost gone fun _ => true) ≤ _ := disruption.lost_le unique
    have within := not_exceedsUnavailable none
    simp only [exceedsUnavailable, totalUnavailableAfter, plannedUnavailable, not_lt] at within
    simp only [Bool.and_true] at taken
    omega
  tiers tier isTargeted := disruption.required_le unique (tier_kept none isTargeted)
  services field budgeted isTargeted :=
    disruption.required_le unique (role_kept none budgeted isTargeted)
  masters observed isObserved isTargeted := by
    have taken : scope.lost gone (·.masterEligible) ≤ _ := disruption.lost_le unique
    have enough := masters_kept none isObserved isTargeted
    omega

end NoViolation

end ClusterScope

/-! ### Reported impacts -/

section Reported

variable {snapshot : ObservationSnapshot} {target : PlanningTarget} {policy : MaintenancePolicy}
  {manifest : ImpactManifest} {impact : ClusterImpact}

theorem clusterScope_unique (built : snapshot.Built) (target : PlanningTarget) (clusterId : Nat) :
    ((clusterScope snapshot target clusterId).workloads.map (·.assignmentId)).Nodup :=
  built.unique.2.sublist (List.filter_sublist.map _)

/-- The violations of a reported impact are those of its cluster. -/
theorem violations_of_reported (calculated : calculateImpact snapshot target policy = .ok manifest)
    (reported : impact ∈ manifest.clusters) :
    impact.violations =
      (clusterScope snapshot target impact.clusterId).violations policy := by
  obtain ⟨clusterId, -, rfl⟩ := (mem_clusters calculated).mp reported
  rfl

/-- Without violations a cluster keeps its budgets when all targeted workloads stop for a reboot,
and when any one of them stops for another operation. -/
theorem disruption_withstood (built : snapshot.Built)
    (calculated : calculateImpact snapshot target policy = .ok manifest)
    (reported : impact ∈ manifest.clusters) (none : impact.violations = []) :
    let scope := clusterScope snapshot target impact.clusterId
    (target.operation = .reboot →
      scope.Withstands policy ((scope.targeted.filter (·.ready)).map (·.assignmentId))) ∧
    (target.operation ≠ .reboot →
      ∀ item ∈ scope.targeted, scope.Withstands policy [item.assignmentId]) := by
  intro scope
  rw [violations_of_reported calculated reported] at none
  have unique := clusterScope_unique built target impact.clusterId
  constructor
  · intro isReboot
    apply ClusterScope.withstands none _ unique
    constructor
    · intro identifier isGone
      obtain ⟨item, isReady, rfl⟩ := List.mem_map.mp isGone
      exact (ClusterScope.mem_targeted.mp (List.mem_filter.mp isReady).1).2
    · intro oneByOne
      simp [clusterScope, isReboot] at oneByOne
  · intro _ item isTargeted
    apply ClusterScope.withstands none _ unique
    constructor
    · intro identifier isGone
      rw [List.mem_singleton.mp isGone]
      exact (ClusterScope.mem_targeted.mp isTargeted).2
    · intro _
      exact le_rfl

end Reported

namespace ImpactSample

/-- Ten o'clock on the first of June. -/
def ten : AwareTimestamp :=
  ⟨⟨2026, 6, 1, 10, 0, 0, 0, by decide⟩, 0⟩

/-- A data node of the cluster 5. -/
def hot (assignmentId nodeId : Nat) : WorkloadObservation where
  assignmentId := assignmentId
  clusterId := 5
  nodeId := nodeId
  name := none
  role := "hot"
  expectedRunning := true
  running := true
  ready := true
  masterEligible := false
  dataTiers := ["hot"]
  endpointRequired := false
  observedAt := ten

/-- The data nodes 11 and 12 on the hosts 1 and 2. -/
def snapshot : ObservationSnapshot where
  capturedAt := ten
  capabilityRevision := "1"
  sources := []
  hosts := []
  clusters := []
  workloads := [hot 11 1, hot 12 2]
  assignmentRevisions := []
  policies := []
  conflictingOperations := []

theorem built : snapshot.Built :=
  ⟨snapshot, by rfl⟩

def target (operation : OperationKind) (assignmentIds : List Nat) : PlanningTarget where
  operation := operation
  nodeId := some 1
  clusterId := none
  assignmentIds := assignmentIds
  reason := "disk replacement"
  availabilityMode := .zeroImpact
  currentVersion := none
  targetVersion := none

/-- The impact of some target on the cluster. -/
def impact (observed : ObservationSnapshot) (chosen : PlanningTarget) : ClusterImpact :=
  (clusterScope observed chosen 5).impact defaultPolicy

/-- The manifest of a target that affects the cluster alone. -/
def manifest (observed : ObservationSnapshot) (chosen : PlanningTarget) : ImpactManifest where
  targetNodeId := chosen.nodeId
  affectedClusterIds := [5]
  affectedAssignmentIds := (selectedWorkloads observed chosen).map (·.assignmentId)
  clusters := [impact observed chosen]

theorem calculated {observed : ObservationSnapshot} {chosen : PlanningTarget}
    (alone : affectedClusterIds observed chosen = [5])
    (within : (impact observed chosen).violations = []) :
    calculateImpact observed chosen defaultPolicy = .ok (manifest observed chosen) := by
  refine calculateImpact_eq_ok_iff.mpr ⟨?_, by rw [alone]; rfl⟩
  rw [alone]
  intro clusterId isAffected violation isViolation
  rw [List.mem_singleton.mp isAffected] at isViolation
  change violation ∈ (impact observed chosen).violations at isViolation
  rw [within] at isViolation
  cases isViolation

end ImpactSample

open ImpactSample in
/-- The cluster keeps a data node while the other host reboots. -/
theorem disruption_withstood_reboot :
    let scope := clusterScope snapshot (target .reboot []) 5
    scope.Withstands defaultPolicy ((scope.targeted.filter (·.ready)).map (·.assignmentId)) := by
  have within : (impact snapshot (target .reboot [])).violations = [] := by decide +kernel
  exact (disruption_withstood built (calculated (by decide +kernel) within)
    List.mem_cons_self within).1 rfl

/-! ### Removals -/

namespace ClusterScope

variable (scope : ClusterScope) (policy : MaintenancePolicy)

variable {scope policy} {kind : WorkloadObservation → Bool}

end ClusterScope

section Removed

variable {snapshot : ObservationSnapshot} {target : PlanningTarget} {policy : MaintenancePolicy}
  {manifest : ImpactManifest} {impact : ClusterImpact}

end Removed

end Planning

end ElKeeper
