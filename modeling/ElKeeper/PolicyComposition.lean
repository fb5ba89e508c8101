import ElKeeper.Results
import ElKeeper.SafetyPredicates

/-!
# Policies of several clusters

A stricter policy reports the violations of a laxer one.  A preview that affects several
clusters is judged by one merged policy, with the budgets of each cluster calculated under
its own; what blocks one of the clusters blocks the preview.
-/

namespace ElKeeper

namespace Planning

/-! ### Stricter policies -/

/-- A policy asks for at least as much as another one, where the minimums of masters are compared
by what they require of `total` masters. -/
structure Stricter (strict lax : MaintenancePolicy) (total : Nat) : Prop where
  maxUnavailable : strict.maxUnavailable ≤ lax.maxUnavailable
  masters : minimumMasters lax total ≤ minimumMasters strict total
  dataPerTier : lax.minimumDataPerTier ≤ strict.minimumDataPerTier
  kibana : lax.minimumKibana ≤ strict.minimumKibana
  fleetServer : lax.minimumFleetServer ≤ strict.minimumFleetServer
  logstash : lax.minimumLogstash ≤ strict.minimumLogstash
  coordinating : lax.minimumCoordinating ≤ strict.minimumCoordinating
  agents : lax.allowAgentInterruption = "block" → strict.allowAgentInterruption = "block"

namespace Stricter

variable {strict lax : MaintenancePolicy} {scope : ClusterScope}

theorem services {total : Nat} (stricter : Stricter strict lax total)
    {field : String × (MaintenancePolicy → Nat)} (budgeted : field ∈ servicePolicyFields) :
    field.2 lax ≤ field.2 strict := by
  simp only [servicePolicyFields, List.mem_cons, List.not_mem_nil, or_false] at budgeted
  rcases budgeted with rfl | rfl | rfl | rfl
  · exact stricter.coordinating
  · exact stricter.fleetServer
  · exact stricter.kibana
  · exact stricter.logstash

theorem exceedsUnavailable (stricter : Stricter strict lax scope.observedMasterTotal)
    (exceeds : scope.exceedsUnavailable lax) : scope.exceedsUnavailable strict :=
  lt_of_le_of_lt stricter.maxUnavailable exceeds

theorem breaksQuorum (stricter : Stricter strict lax scope.observedMasterTotal)
    (breaks : scope.breaksQuorum lax) : scope.breaksQuorum strict :=
  ⟨breaks.1, lt_of_lt_of_le breaks.2 stricter.masters⟩

theorem breaksTier (stricter : Stricter strict lax scope.observedMasterTotal) {tier : String}
    (breaks : scope.breaksTier lax tier) : scope.breaksTier strict tier := by
  have missed := of_decide_eq_false breaks.2
  refine ⟨breaks.1, decide_eq_false fun safe => ?_⟩
  exact missed (le_trans stricter.dataPerTier safe)

theorem breaksRole (stricter : Stricter strict lax scope.observedMasterTotal)
    {field : String × (MaintenancePolicy → Nat)} (budgeted : field ∈ servicePolicyFields)
    (breaks : scope.breaksRole lax field.1 field.2) :
    scope.breaksRole strict field.1 field.2 := by
  have missed := of_decide_eq_false breaks.2
  refine ⟨breaks.1, decide_eq_false fun safe => ?_⟩
  exact missed (le_trans (stricter.services budgeted) safe)

/-- The violations of the laxer policy are violations of the stricter one. -/
theorem violationIds (stricter : Stricter strict lax scope.observedMasterTotal)
    {identifier : String} (reported : identifier ∈ (scope.impact lax).violationIds) :
    identifier ∈ (scope.impact strict).violationIds := by
  apply (scope.mem_violationIds strict).mpr
  rcases (scope.mem_violationIds lax).mp reported with
    ⟨same, exceeds⟩ | ⟨same, breaks⟩ | ⟨tier, active, same, breaks⟩ |
      ⟨field, service, same, breaks⟩ | ⟨same, interrupts⟩
  · exact .inl ⟨same, stricter.exceedsUnavailable exceeds⟩
  · exact .inr (.inl ⟨same, stricter.breaksQuorum breaks⟩)
  · exact .inr (.inr (.inl ⟨tier, active, same, stricter.breaksTier breaks⟩))
  · have budgeted := (List.mem_filter.mp service).1
    exact .inr (.inr (.inr (.inl ⟨field, service, same, stricter.breaksRole budgeted breaks⟩)))
  · exact .inr (.inr (.inr (.inr ⟨same, interrupts.1, stricter.agents interrupts.2⟩)))

end Stricter

/-- A violation is reported for a cluster. -/
def Reports (manifest : ImpactManifest) (clusterId : Nat) (identifier : String) : Prop :=
  ∃ impact ∈ manifest.clusters, impact.clusterId = clusterId ∧ identifier ∈ impact.violationIds

/-! ### Merged policies -/

/-- `_effective_policy`. -/
def effectivePolicy (policies : List PolicyObservation) : MaintenancePolicy :=
  if policies = [] then defaultPolicy
  else
    let values := policies.map (·.policy)
    let least (field : MaintenancePolicy → Nat) := (values.map field).min?.getD 0
    let greatest (field : MaintenancePolicy → Nat) := (values.map field).max?.getD 0
    { maxUnavailable := least (·.maxUnavailable)
      minimumMasterEligible := .quorum
      minimumDataPerTier := greatest (·.minimumDataPerTier)
      minimumKibana := greatest (·.minimumKibana)
      minimumFleetServer := greatest (·.minimumFleetServer)
      minimumLogstash := greatest (·.minimumLogstash)
      minimumCoordinating := greatest (·.minimumCoordinating)
      allowAgentInterruption :=
        if values.any (·.allowAgentInterruption = "block") then "block" else "true-with-warning"
      requiredClusterHealth :=
        if values.any (·.requiredClusterHealth = "green") then "green" else "yellow"
      allocationGuard :=
        if values.any (·.allocationGuard = "primaries-for-data") then "primaries-for-data"
        else "none"
      observationMaxAgeSeconds := least (·.observationMaxAgeSeconds)
      restartAllocationDelaySeconds :=
        (values.filterMap (·.restartAllocationDelaySeconds)).max?
      hostReturnTimeoutSeconds := greatest (·.hostReturnTimeoutSeconds)
      workloadReadyTimeoutSeconds := greatest (·.workloadReadyTimeoutSeconds)
      planValiditySeconds := least (·.planValiditySeconds) }

/-- `policy_by_cluster.get`; the last policy of a cluster counts. -/
def policyOf (policies : List PolicyObservation) (clusterId : Nat) : MaintenancePolicy :=
  ((policies.reverse.find? (·.clusterId = clusterId)).map (·.policy)).getD defaultPolicy

/-- `_impact_for_policies`. -/
def impactForPolicies (snapshot : ObservationSnapshot) (target : PlanningTarget)
    (policies : List PolicyObservation) (effective : MaintenancePolicy) :
    Except Fault ImpactManifest := do
  let manifest ← calculateImpact snapshot target effective
  if policies = [] then .ok manifest
  else
    let clusters ← manifest.affectedClusterIds.mapM fun clusterId => do
      let own ← calculateImpact snapshot target (policyOf policies clusterId)
      own.cluster clusterId
    .ok { manifest with clusters := clusters }

/-- The part of a manifest that is about one cluster. -/
def ImpactManifest.only (manifest : ImpactManifest) (clusterId : Nat) : ImpactManifest :=
  { manifest with
    affectedClusterIds := manifest.affectedClusterIds.filter (· = clusterId)
    clusters := manifest.clusters.filter (·.clusterId = clusterId) }

section Combined

variable {snapshot : ObservationSnapshot} {target : PlanningTarget}
  {policies : List PolicyObservation} {observation : PolicyObservation}

/-- Each cluster has its own policy. -/
theorem policyOf_eq (unique : (policies.map (·.clusterId)).Nodup)
    (member : observation ∈ policies) : policyOf policies observation.clusterId =
      observation.policy := by
  have reversed : (policies.reverse.map (·.clusterId)).Nodup := by
    rw [List.map_reverse]
    exact List.nodup_reverse.mpr unique
  rw [policyOf, find?_of_nodup_key reversed (List.mem_reverse.mpr member)]
  rfl

/-- The merged policy asks for at least the health of each cluster. -/
theorem healthRank_effectivePolicy_le (member : observation ∈ policies) :
    healthRank observation.policy.requiredClusterHealth ≤
      healthRank (effectivePolicy policies).requiredClusterHealth := by
  have some : policies ≠ [] := List.ne_nil_of_mem member
  simp only [effectivePolicy, some, if_false]
  split
  · unfold healthRank
    split <;> decide
  · rename_i noneGreen
    have other : observation.policy.requiredClusterHealth ≠ "green" := by
      intro green
      exact noneGreen (List.any_eq_true.mpr
        ⟨_, List.mem_map_of_mem member, decide_eq_true green⟩)
    unfold healthRank
    split <;> simp_all

/-- The merged policy lets no observation be older than the policy of a cluster does. -/
theorem effectivePolicy_maxAge_le (member : observation ∈ policies) :
    (effectivePolicy policies).observationMaxAgeSeconds ≤
      observation.policy.observationMaxAgeSeconds := by
  have some : policies ≠ [] := List.ne_nil_of_mem member
  simp only [effectivePolicy, some, if_false, List.map_map]
  have isOne : observation.policy.observationMaxAgeSeconds ∈
      policies.map ((·.observationMaxAgeSeconds) ∘ (·.policy)) := List.mem_map_of_mem member
  cases least : (policies.map ((·.observationMaxAgeSeconds) ∘ (·.policy))).min? with
  | none => simp [some] at least
  | some age => exact (List.min?_eq_some_iff.mp least).2 _ isOne

/-- The combined manifest has the impact on each cluster under its own policy. -/
theorem impactForPolicies_ok {effective : MaintenancePolicy} {combined : ImpactManifest}
    (some : policies ≠ [])
    (calculated : impactForPolicies snapshot target policies effective = .ok combined) :
    combined = {
      targetNodeId := target.nodeId
      affectedClusterIds := affectedClusterIds snapshot target
      affectedAssignmentIds := (selectedWorkloads snapshot target).map (·.assignmentId)
      clusters := (affectedClusterIds snapshot target).map fun clusterId =>
        (clusterScope snapshot target clusterId).impact (policyOf policies clusterId) } := by
  obtain ⟨manifest, merged, calculated⟩ := Results.bind_ok calculated
  rw [if_neg some] at calculated
  obtain ⟨clusters, each, calculated⟩ := Results.bind_ok calculated
  cases calculated
  obtain ⟨-, rfl⟩ := calculateImpact_eq_ok_iff.mp merged
  have own (clusterId : Nat) (impact : ClusterImpact) (found : (do
      let own ← calculateImpact snapshot target (policyOf policies clusterId)
      own.cluster clusterId) = .ok impact) :
      impact = (clusterScope snapshot target clusterId).impact (policyOf policies clusterId) := by
    obtain ⟨manifest, calculated, found⟩ := Results.bind_ok found
    exact cluster_of_calculated calculated found
  have clusters := ((Results.mapM_eq_ok_iff fun clusterId impact =>
    ⟨fun found => ⟨own clusterId impact found ▸ found, own clusterId impact found⟩,
      fun found => found.2 ▸ found.1⟩).mp each).2
  rw [clusters]

end Combined

/-! ### Wider evaluations -/

/-- An evaluation of the same target that looks at no less and asks for no less. -/
structure Evaluation.Covers (together alone : Evaluation) : Prop where
  snapshot : together.snapshot = alone.snapshot
  target : together.target = alone.target
  now : together.now = alone.now
  clusters : ∀ clusterId ∈ alone.impact.affectedClusterIds,
    clusterId ∈ together.impact.affectedClusterIds
  impacts : ∀ impact ∈ alone.impact.clusters, impact ∈ together.impact.clusters
  health : healthRank alone.policy.requiredClusterHealth ≤
    healthRank together.policy.requiredClusterHealth
  maxAge : together.policy.observationMaxAgeSeconds ≤ alone.policy.observationMaxAgeSeconds

namespace Evaluation.Covers

variable {together alone : Evaluation}

theorem roleViolations (covers : together.Covers alone) {violation : BudgetViolation}
    (isOwn : violation ∈ alone.roleViolations) : violation ∈ together.roleViolations := by
  obtain ⟨isOwn, notQuorum⟩ := List.mem_filter.mp isOwn
  obtain ⟨impact, reported, isOwn⟩ := List.mem_flatMap.mp isOwn
  apply List.mem_filter.mpr
  exact ⟨List.mem_flatMap.mpr ⟨impact, covers.impacts impact reported, isOwn⟩, notQuorum⟩

theorem quorumImpacts (covers : together.Covers alone) {impact : ClusterImpact}
    (isOwn : impact ∈ alone.quorumImpacts) : impact ∈ together.quorumImpacts := by
  obtain ⟨isOwn, hasMaster⟩ := List.mem_filter.mp isOwn
  apply List.mem_filter.mpr
  refine ⟨covers.impacts impact isOwn, ?_⟩
  rw [Evaluation.selected, covers.snapshot, covers.target]
  exact hasMaster

/-- What depends on the snapshot and the target alone is the same in both. -/
theorem same (covers : together.Covers alone) {α : Type} (read : Evaluation → α)
    (only : ∀ evaluation : Evaluation, read evaluation =
      read { alone with snapshot := evaluation.snapshot, target := evaluation.target }) :
    read together = read alone := by
  rw [only together, only alone, covers.snapshot, covers.target]

theorem esClusterIds (covers : together.Covers alone) :
    together.esClusterIds = alone.esClusterIds :=
  covers.same _ fun _ => rfl

theorem allEsClusters (covers : together.Covers alone) (required : ClusterObservation → Bool) :
    together.allEsClusters required = alone.allEsClusters required :=
  covers.same (·.allEsClusters required) fun _ => rfl

theorem requiredSources (covers : together.Covers alone) :
    together.requiredSources = alone.requiredSources :=
  covers.same _ fun _ => rfl

theorem targetHosts (covers : together.Covers alone) :
    together.targetHosts = alone.targetHosts :=
  covers.same _ fun _ => rfl

theorem freshItems (covers : together.Covers alone) {observedAt : AwareTimestamp}
    (isOwn : observedAt ∈ alone.freshItems) : observedAt ∈ together.freshItems := by
  simp only [Evaluation.freshItems, List.mem_append, covers.requiredSources,
    covers.targetHosts] at isOwn ⊢
  rcases isOwn with (sourceOrHost | workload) | cluster
  · exact .inl (.inl sourceOrHost)
  · obtain ⟨item, isOwn, rfl⟩ := List.mem_map.mp workload
    obtain ⟨observed, affected⟩ := List.mem_filter.mp isOwn
    have stays := covers.clusters _ (of_decide_eq_true affected)
    rw [← covers.snapshot] at observed
    exact .inl (.inr (List.mem_map_of_mem
      (List.mem_filter.mpr ⟨observed, decide_eq_true stays⟩)))
  · obtain ⟨item, isOwn, rfl⟩ := List.mem_map.mp cluster
    obtain ⟨observed, affected⟩ := List.mem_filter.mp isOwn
    have stays := covers.clusters _ (of_decide_eq_true affected)
    rw [← covers.snapshot] at observed
    exact .inr (List.mem_map_of_mem
      (List.mem_filter.mpr ⟨observed, decide_eq_true stays⟩))

/-- Observations that are fresh for the wider evaluation are fresh for the other one. -/
theorem fresh (covers : together.Covers alone) (isFresh : together.fresh = true) :
    alone.fresh = true := by
  simp only [Evaluation.fresh, Bool.and_eq_true] at isFresh ⊢
  obtain ⟨⟨sourcesOk, -⟩, ages⟩ := isFresh
  have ok : alone.sourceStatusOk = true := by
    rw [Evaluation.sourceStatusOk, ← covers.requiredSources]
    exact sourcesOk
  refine ⟨⟨ok, ?_⟩, ?_⟩
  · simp only [Evaluation.sourceStatusOk, Bool.and_eq_true] at ok
    cases sources : alone.requiredSources with
    | nil => simp [sources] at ok
    | cons source sources => simp [Evaluation.freshItems, *]
  · apply List.all_eq_true.mpr
    intro observedAt isOwn
    have inTime := List.all_eq_true.mp ages observedAt (covers.freshItems isOwn)
    have bound := covers.maxAge
    rw [covers.now] at inTime
    simp only [Bool.and_eq_true, decide_eq_true_eq] at inTime ⊢
    omega

/-- Clusters that are healthy enough for the wider evaluation are so for the other one. -/
theorem healthy (covers : together.Covers alone)
    (all : together.allEsClusters together.meetsHealth = true) :
    alone.allEsClusters alone.meetsHealth = true := by
  rw [covers.allEsClusters] at all
  simp only [Evaluation.allEsClusters, Bool.and_eq_true] at all ⊢
  refine ⟨all.1, List.all_eq_true.mpr fun cluster isEs => ?_⟩
  have meets := List.all_eq_true.mp all.2 cluster isEs
  simp only [Evaluation.meetsHealth, healthMeets, decide_eq_true_eq] at meets ⊢
  exact le_trans covers.health meets

end Evaluation.Covers

/-- The predicates that the budgets, the health and the age of observations decide. -/
def policyPredicates : List PredicateId :=
  [.roleAvailabilityBudget, .masterQuorum, .clusterHealth, .freshRuntimeObservation]

/-- What applies and fails in an evaluation also does in a wider one. -/
theorem Evaluation.Covers.fails {together alone : Evaluation} (covers : together.Covers alone)
    {identifier : PredicateId} (decided : identifier ∈ policyPredicates)
    (applicable : (alone.definition identifier).applicable = true)
    (failed : (alone.definition identifier).passed = false) :
    (together.definition identifier).applicable = true ∧
      (together.definition identifier).passed = false := by
  simp only [policyPredicates, List.mem_cons, List.not_mem_nil, or_false] at decided
  rcases decided with rfl | rfl | rfl | rfl
  · have some := of_decide_eq_false failed
    obtain ⟨violation, isOwn⟩ := List.exists_mem_of_ne_nil _ some
    obtain ⟨impact, reported, -⟩ := List.mem_flatMap.mp (List.mem_filter.mp isOwn).1
    exact ⟨decide_eq_true (List.ne_nil_of_mem (covers.impacts impact reported)),
      decide_eq_false (List.ne_nil_of_mem (covers.roleViolations isOwn))⟩
  · obtain ⟨impact, isOwn, missed⟩ := List.all_eq_false.mp failed
    exact ⟨decide_eq_true (List.ne_nil_of_mem (covers.quorumImpacts isOwn)),
      List.all_eq_false.mpr ⟨impact, covers.quorumImpacts isOwn, missed⟩⟩
  · have some := of_decide_eq_true applicable
    rw [← covers.esClusterIds] at some
    refine ⟨decide_eq_true some, Bool.eq_false_iff.mpr fun all => ?_⟩
    exact Bool.false_ne_true (failed.symm.trans (covers.healthy all))
  · refine ⟨rfl, Bool.eq_false_iff.mpr fun isFresh => ?_⟩
    exact Bool.false_ne_true (failed.symm.trans (covers.fresh isFresh))

/-! ### Both together -/

section Composition

variable {snapshot : ObservationSnapshot} {target : PlanningTarget}

/-- The violations under a laxer policy are reported under a stricter one, unless one of those to
be reported has a text that is out of its limits. -/
theorem reports_of_stricter {lax strict : MaintenancePolicy} {laxManifest : ImpactManifest}
    (stricter : ∀ clusterId ∈ affectedClusterIds snapshot target,
      Stricter strict lax (clusterScope snapshot target clusterId).observedMasterTotal)
    (calculated : calculateImpact snapshot target lax = .ok laxManifest) :
    (∃ strictManifest, calculateImpact snapshot target strict = .ok strictManifest ∧
      ∀ clusterId identifier, Reports laxManifest clusterId identifier →
        Reports strictManifest clusterId identifier) ∨
    (∃ clusterId ∈ affectedClusterIds snapshot target,
      ∃ violation ∈ (clusterScope snapshot target clusterId).violations strict,
        ¬ violation.Fits) := by
  by_cases fits : ∀ clusterId ∈ affectedClusterIds snapshot target,
      ∀ violation ∈ (clusterScope snapshot target clusterId).violations strict, violation.Fits
  · have strictly := calculateImpact_eq_ok_iff.mpr ⟨fits, rfl⟩
    refine .inl ⟨_, strictly, ?_⟩
    rintro clusterId identifier ⟨impact, reported, rfl, violated⟩
    obtain ⟨clusterId, affected, rfl⟩ := (mem_clusters calculated).mp reported
    refine ⟨(clusterScope snapshot target clusterId).impact strict, ?_, rfl, ?_⟩
    · exact (mem_clusters strictly).mpr ⟨clusterId, affected, rfl⟩
    · exact (stricter clusterId affected).violationIds violated
  · push Not at fits
    exact .inr fits

/-- What blocks an affected cluster under its own policy blocks the combined preview. -/
theorem combined_blocks {policies : List PolicyObservation} {observation : PolicyObservation}
    {manifest combined : ImpactManifest} {now : AwareTimestamp} {stage : EvaluationStage}
    {overrideIds : List PredicateId} {alone together : List PredicateResult}
    (unique : (policies.map (·.clusterId)).Nodup) (member : observation ∈ policies)
    (calculated : calculateImpact snapshot target observation.policy = .ok manifest)
    (isCombined : impactForPolicies snapshot target policies (effectivePolicy policies) =
      .ok combined)
    (evaluatedAlone : evaluatePredicates
      ⟨snapshot, target, observation.policy, manifest.only observation.clusterId, now, stage⟩
      overrideIds = .ok alone)
    (evaluatedTogether : evaluatePredicates
      ⟨snapshot, target, effectivePolicy policies, combined, now, stage⟩ overrideIds =
        .ok together)
    {identifier : PredicateId} (decided : identifier ∈ policyPredicates)
    (blocks : Blocks alone identifier) : Blocks together identifier := by
  have whole := impactForPolicies_ok (List.ne_nil_of_mem member) isCombined
  have covers : Evaluation.Covers
      ⟨snapshot, target, effectivePolicy policies, combined, now, stage⟩
      ⟨snapshot, target, observation.policy, manifest.only observation.clusterId, now, stage⟩ :=
    { snapshot := rfl
      target := rfl
      now := rfl
      clusters := by
        intro clusterId isAffected
        obtain ⟨-, rfl⟩ := calculateImpact_eq_ok_iff.mp calculated
        rw [whole]
        exact (List.mem_filter.mp isAffected).1
      impacts := by
        intro impact isOwn
        obtain ⟨isOwn, sameCluster⟩ := List.mem_filter.mp isOwn
        obtain ⟨clusterId, affected, rfl⟩ := (mem_clusters calculated).mp isOwn
        obtain rfl : clusterId = observation.clusterId := of_decide_eq_true sameCluster
        rw [whole, ← policyOf_eq unique member]
        exact List.mem_map_of_mem affected
      health := healthRank_effectivePolicy_le member
      maxAge := effectivePolicy_maxAge_le member }
  obtain ⟨applicable, failed, binding⟩ := (blocks_iff evaluatedAlone).mp blocks
  obtain ⟨applicable, failed⟩ := covers.fails decided applicable failed
  exact (blocks_iff evaluatedTogether).mpr ⟨applicable, failed, binding⟩

/-- Policies compose: a stricter policy reports what a laxer one does, and what blocks a cluster
under its own policy blocks the preview of all clusters. -/
theorem policies_compose (snapshot : ObservationSnapshot) (target : PlanningTarget) :
    (∀ (lax strict : MaintenancePolicy) (laxManifest : ImpactManifest),
      (∀ clusterId ∈ affectedClusterIds snapshot target,
        Stricter strict lax (clusterScope snapshot target clusterId).observedMasterTotal) →
      calculateImpact snapshot target lax = .ok laxManifest →
      (∃ strictManifest, calculateImpact snapshot target strict = .ok strictManifest ∧
        ∀ clusterId identifier, Reports laxManifest clusterId identifier →
          Reports strictManifest clusterId identifier) ∨
      (∃ clusterId ∈ affectedClusterIds snapshot target,
        ∃ violation ∈ (clusterScope snapshot target clusterId).violations strict,
          ¬ violation.Fits)) ∧
    (∀ (policies : List PolicyObservation) (observation : PolicyObservation)
      (manifest combined : ImpactManifest) (now : AwareTimestamp) (stage : EvaluationStage)
      (overrideIds : List PredicateId) (alone together : List PredicateResult),
      (policies.map (·.clusterId)).Nodup → observation ∈ policies →
      calculateImpact snapshot target observation.policy = .ok manifest →
      impactForPolicies snapshot target policies (effectivePolicy policies) = .ok combined →
      evaluatePredicates
        ⟨snapshot, target, observation.policy, manifest.only observation.clusterId, now, stage⟩
        overrideIds = .ok alone →
      evaluatePredicates ⟨snapshot, target, effectivePolicy policies, combined, now, stage⟩
        overrideIds = .ok together →
      ∀ identifier ∈ policyPredicates, Blocks alone identifier → Blocks together identifier) := by
  constructor
  · intro lax strict laxManifest stricter calculated
    exact reports_of_stricter stricter calculated
  · intro policies observation manifest combined now stage overrideIds alone together unique
      member calculated isCombined evaluatedAlone evaluatedTogether identifier decided blocks
    exact combined_blocks unique member calculated isCombined evaluatedAlone evaluatedTogether
      decided blocks

end Composition

namespace ImpactSample

/-- The name of a tier that is too long for the record of a violation. -/
def longTier : String :=
  String.ofList (List.replicate 119 'a')

def inLongTier (assignmentId nodeId : Nat) : WorkloadObservation :=
  { hot assignmentId nodeId with dataTiers := [longTier] }

/-- Two data nodes of the tier on the host 1, and a third one elsewhere. -/
def longNamed : ObservationSnapshot :=
  { snapshot with workloads := [inLongTier 11 1, inLongTier 12 1, inLongTier 13 2] }

def twoPerTier : MaintenancePolicy :=
  { defaultPolicy with minimumDataPerTier := 2 }

theorem twoPerTier_stricter (total : Nat) : Stricter twoPerTier defaultPolicy total :=
  ⟨le_rfl, le_rfl, by decide, le_rfl, le_rfl, le_rfl, le_rfl, id⟩

end ImpactSample

open ImpactSample in
/-- A reboot of one of two hosts, under a policy that asks for both of the data nodes. -/
theorem policies_compose_reboot :
    (∃ strictManifest, calculateImpact snapshot (target .reboot []) twoPerTier =
      .ok strictManifest ∧ ∀ clusterId identifier,
        Reports (manifest snapshot (target .reboot [])) clusterId identifier →
          Reports strictManifest clusterId identifier) ∨
    (∃ clusterId ∈ affectedClusterIds snapshot (target .reboot []),
      ∃ violation ∈ (clusterScope snapshot (target .reboot []) clusterId).violations twoPerTier,
        ¬ violation.Fits) := by
  exact (policies_compose snapshot (target .reboot [])).1 defaultPolicy twoPerTier _
    (fun _ _ => twoPerTier_stricter _) (calculated (by decide +kernel) (by decide +kernel))

open ImpactSample in
/-- A violation of the laxer policy is not reported when the stricter one has another violation
whose identifier is too long. -/
theorem stricter_refused :
    (∀ total, Stricter twoPerTier defaultPolicy total) ∧
      (∃ laxManifest, calculateImpact longNamed (target .reboot []) defaultPolicy =
        .ok laxManifest ∧ Reports laxManifest 5 "max_unavailable") ∧
      ∃ fault, calculateImpact longNamed (target .reboot []) twoPerTier = .error fault := by
  have alone : affectedClusterIds longNamed (target .reboot []) = [5] := by decide +kernel
  refine ⟨twoPerTier_stricter, ?_, ?_⟩
  · refine ⟨_, calculateImpact_eq_ok_iff.mpr ⟨?_, rfl⟩, ?_⟩
    · rw [alone]
      decide +kernel
    · refine ⟨(clusterScope longNamed (target .reboot []) 5).impact defaultPolicy, ?_, rfl, ?_⟩
      · rw [alone]
        exact List.mem_cons_self
      · decide +kernel
  · cases calculated : calculateImpact longNamed (target .reboot []) twoPerTier with
    | error fault => exact ⟨fault, rfl⟩
    | ok manifest =>
        have fits := (calculateImpact_eq_ok_iff.mp calculated).1
        rw [alone] at fits
        exact absurd fits (by decide +kernel)

end Planning

end ElKeeper
