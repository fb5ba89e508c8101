import ElKeeper.ImpactSoundness
import ElKeeper.Results
import Mathlib.Algebra.Ring.Nat

/-!
# Safety predicates

The predicates that an operation has to pass before it is executed.  Each has its own
scope and its own evidence; some can be overridden by an administrator, the hard ones
cannot.
-/

namespace ElKeeper

/-- The moment of a timestamp, in microseconds. -/
def AwareTimestamp.moment (timestamp : AwareTimestamp) : Int :=
  timestamp.wall.instant - timestamp.offset * 1000000

namespace Planning

inductive EvaluationStage where
  | planning
  | preflight
deriving DecidableEq

/-- `ELASTICSEARCH_ROLES`. -/
def elasticsearchRoles : List String :=
  ["master", "hot", "warm", "ml", "ingest", "coordinating"]

/-- `PREDICATE_ORDER`. -/
def predicateOrder : List PredicateId :=
  [.hostEnabled, .hostReachable, .noConflictingOperation, .membershipReady,
    .freshRuntimeObservation, .expectedClusterIdentity, .supportedNodeLifecycleMode,
    .clusterHealth, .noShardMovement, .noLastShardCopy, .primaryPromotionSafety,
    .allocationSettingCaptured, .masterQuorum, .roleAvailabilityBudget, .diskWatermarksSafe,
    .targetArtifactReady, .versionTransitionSupported, .snapshotRecoveryReady,
    .noStaleShutdownRecord]

theorem mem_predicateOrder (identifier : PredicateId) : identifier ∈ predicateOrder := by
  cases identifier <;> decide

/-- `HARD_PREDICATES`. -/
def hardPredicates : List PredicateId :=
  [.noLastShardCopy, .masterQuorum, .expectedClusterIdentity, .primaryPromotionSafety,
    .allocationSettingCaptured, .versionTransitionSupported]

/-- `identity_matches`. -/
def ClusterObservation.identityMatches (cluster : ClusterObservation) : Bool :=
  cluster.observedName ≠ none && cluster.observedName ≠ some "" &&
    cluster.observedName = some cluster.configuredName &&
    (cluster.configuredUuid = none || cluster.observedUuid = cluster.configuredUuid)

/-- `version.split(".", 1)[0]`. -/
def majorVersion (version : String) : String :=
  String.ofList (version.toList.takeWhile (· ≠ '.'))

/-- `is_major_upgrade`. -/
def isMajorUpgrade (target : PlanningTarget) : Bool :=
  match target.currentVersion, target.targetVersion with
  | some current, some next =>
      target.operation = .upgrade && current ≠ "" && next ≠ "" &&
        majorVersion current ≠ majorVersion next
  | _, _ => false

/-- The rank of a health; a cluster observation has one of these four. -/
def healthRank : String → Nat
  | "red" => 1
  | "yellow" => 2
  | "green" => 3
  | _ => 0

/-- `_health_meets`. -/
def healthMeets (observed required : String) : Bool :=
  healthRank required ≤ healthRank observed

/-- `_ages_are_fresh`. -/
def agesAreFresh (observedAt : List AwareTimestamp) (now : AwareTimestamp)
    (maxAgeSeconds : Nat) : Bool :=
  observedAt.all fun timestamp =>
    0 ≤ now.moment - timestamp.moment &&
      now.moment - timestamp.moment ≤ (maxAgeSeconds : Int) * 1000000

/-- The limits of the model for its texts. -/
def PredicateResult.Fits (result : PredicateResult) : Prop :=
  (1 ≤ result.evidenceSummary.length ∧ result.evidenceSummary.length ≤ 1024) ∧
    result.remediation.length ≤ 1024

instance (result : PredicateResult) : Decidable result.Fits :=
  inferInstanceAs (Decidable (_ ∧ _))

/-- An entry of `definitions`. -/
structure PredicateDefinition where
  applicable : Bool
  passed : Bool
  evidence : String
  remediation : String

/-- The arguments of `evaluate_predicates` besides the overrides. -/
structure Evaluation where
  snapshot : ObservationSnapshot
  target : PlanningTarget
  policy : MaintenancePolicy
  impact : ImpactManifest
  now : AwareTimestamp
  stage : EvaluationStage

namespace Evaluation

variable (evaluation : Evaluation)

def selected : List WorkloadObservation :=
  selectedWorkloads evaluation.snapshot evaluation.target

/-! ### Hosts -/

def targetHostIds : List Nat :=
  (evaluation.selected.map (·.nodeId) ++ evaluation.target.nodeId.toList).dedup

def targetHosts : List HostObservation :=
  evaluation.snapshot.hosts.filter (·.nodeId ∈ evaluation.targetHostIds)

def missingHostIds : List Nat :=
  evaluation.targetHostIds.filter (· ∉ evaluation.targetHosts.map (·.nodeId))

/-- Every targeted host was observed, and as required. -/
def allHosts (required : HostObservation → Bool) : Bool :=
  !evaluation.targetHosts.isEmpty && evaluation.missingHostIds.isEmpty &&
    evaluation.targetHosts.all required

/-! ### Clusters -/

def esClusterIds : List Nat :=
  ((evaluation.selected.filter (·.role ∈ elasticsearchRoles)).map (·.clusterId) ++
    if evaluation.target.operation ∈ [.settingsChange, .zoningChange, .upgrade] then
      evaluation.target.clusterId.toList
    else []).dedup

def esClusters : List ClusterObservation :=
  evaluation.snapshot.clusters.filter (·.clusterId ∈ evaluation.esClusterIds)

def missingEsClusters : List Nat :=
  evaluation.esClusterIds.filter (· ∉ evaluation.esClusters.map (·.clusterId))

def dataClusterIds : List Nat :=
  ((evaluation.selected.filter (·.dataTiers ≠ [])).map (·.clusterId)).dedup

def dataClusters : List ClusterObservation :=
  evaluation.esClusters.filter (·.clusterId ∈ evaluation.dataClusterIds)

/-- Every affected Elasticsearch cluster was observed, and as required. -/
def allEsClusters (required : ClusterObservation → Bool) : Bool :=
  evaluation.missingEsClusters.isEmpty && !evaluation.esClusters.isEmpty &&
    evaluation.esClusters.all required

def someDataClusters (required : ClusterObservation → Bool) : Bool :=
  !evaluation.dataClusters.isEmpty && evaluation.dataClusters.all required

def someEsClusters (required : ClusterObservation → Bool) : Bool :=
  !evaluation.esClusters.isEmpty && evaluation.esClusters.all required

/-! ### Observations -/

def requiredSources : List SourceObservation :=
  evaluation.snapshot.sources.filter (·.required)

def sourceStatusOk : Bool :=
  !evaluation.requiredSources.isEmpty &&
    evaluation.requiredSources.all fun source => source.status = .ok

def relevantWorkloads : List WorkloadObservation :=
  evaluation.snapshot.workloads.filter (·.clusterId ∈ evaluation.impact.affectedClusterIds)

def relevantClusters : List ClusterObservation :=
  evaluation.snapshot.clusters.filter (·.clusterId ∈ evaluation.impact.affectedClusterIds)

/-- When the `fresh_items` were observed. -/
def freshItems : List AwareTimestamp :=
  evaluation.requiredSources.map (·.observedAt) ++ evaluation.targetHosts.map (·.observedAt) ++
    evaluation.relevantWorkloads.map (·.observedAt) ++
    evaluation.relevantClusters.map (·.observedAt)

def fresh : Bool :=
  evaluation.sourceStatusOk && !evaluation.freshItems.isEmpty &&
    agesAreFresh evaluation.freshItems evaluation.now evaluation.policy.observationMaxAgeSeconds

/-! ### Budgets -/

def roleViolations : List BudgetViolation :=
  (evaluation.impact.clusters.flatMap (·.violations)).filter (·.identifier ≠ "master_quorum")

def quorumImpacts : List ClusterImpact :=
  evaluation.impact.clusters.filter fun impact =>
    evaluation.selected.any fun workload =>
      workload.clusterId = impact.clusterId && workload.masterEligible

def quorumSafe : Bool :=
  evaluation.quorumImpacts.all (·.masterQuorumSafe)

/-! ### The definitions -/

def hosts : Nat :=
  evaluation.targetHostIds.length

def esCount (required : ClusterObservation → Bool) : Nat :=
  evaluation.esClusters.countP required

def dataCount (required : ClusterObservation → Bool) : Nat :=
  evaluation.dataClusters.countP required

def movingShards : Nat :=
  (evaluation.dataClusters.map fun item => item.initializingShards + item.relocatingShards).sum

def meetsHealth (cluster : ClusterObservation) : Bool :=
  healthMeets cluster.health evaluation.policy.requiredClusterHealth

/-- `definitions`. -/
def definition : PredicateId → PredicateDefinition
  | .hostEnabled =>
      { applicable := evaluation.targetHostIds ≠ []
        passed := evaluation.allHosts fun item => item.enabled && item.initialized
        evidence := s!"{evaluation.targetHosts.length} of {evaluation.hosts} targeted hosts are " ++
          "enabled and initialized."
        remediation := "Enable and initialize every targeted inventory host." }
  | .hostReachable =>
      { applicable := evaluation.targetHostIds ≠ []
        passed := evaluation.allHosts (·.reachable)
        evidence := s!"{evaluation.targetHosts.countP (·.reachable)} of {evaluation.hosts} " ++
          "targeted hosts passed an authenticated reachability observation."
        remediation := "Restore authenticated controller SSH access and refresh the plan." }
  | .noConflictingOperation =>
      { applicable := true
        passed := evaluation.snapshot.conflictingOperations = []
        evidence := s!"{evaluation.snapshot.conflictingOperations.length} overlapping " ++
          "operations were observed."
        remediation := "Wait for or recover the overlapping operation before creating a new " ++
          "executable plan." }
  | .membershipReady =>
      { applicable := evaluation.targetHostIds ≠ []
        passed := evaluation.allHosts (·.membershipReady)
        evidence := s!"{evaluation.targetHosts.countP (·.membershipReady)} of " ++
          s!"{evaluation.hosts} targeted hosts have ready membership bindings."
        remediation := "Verify configured interfaces and addresses on every targeted host." }
  | .freshRuntimeObservation =>
      { applicable := true
        passed := evaluation.fresh
        evidence := s!"{evaluation.requiredSources.length} required observation sources and " ++
          s!"{evaluation.freshItems.length - evaluation.requiredSources.length} affected " ++
          "objects are fresh and available."
        remediation := "Refresh every required observation source before execution." }
  | .expectedClusterIdentity =>
      { applicable := evaluation.esClusterIds ≠ []
        passed := evaluation.allEsClusters (·.identityMatches)
        evidence := s!"{evaluation.esCount (·.identityMatches)} of " ++
          s!"{evaluation.esClusterIds.length} affected Elasticsearch clusters match configured " ++
          "identity."
        remediation := "Restore CA-verified access to the configured cluster name and UUID." }
  | .supportedNodeLifecycleMode =>
      { applicable := evaluation.esClusterIds ≠ []
        passed := evaluation.allEsClusters (·.lifecycleSupported)
        evidence := s!"{evaluation.esCount (·.lifecycleSupported)} of " ++
          s!"{evaluation.esClusterIds.length} affected clusters support their selected " ++
          "maintenance backend."
        remediation := "Select a verified provider capability and maintenance backend." }
  | .clusterHealth =>
      { applicable := evaluation.esClusterIds ≠ []
        passed := evaluation.allEsClusters evaluation.meetsHealth
        evidence := s!"{evaluation.esCount evaluation.meetsHealth} of " ++
          s!"{evaluation.esClusterIds.length} affected clusters meet required " ++
          s!"{evaluation.policy.requiredClusterHealth} health."
        remediation :=
          "Restore policy-compliant Elasticsearch health and refresh observations." }
  | .noShardMovement =>
      { applicable := evaluation.dataClusterIds ≠ []
        passed := evaluation.someDataClusters fun item =>
          item.initializingShards = 0 && item.relocatingShards = 0
        evidence := s!"{evaluation.movingShards} initializing or relocating shards were " ++
          "observed on affected data clusters."
        remediation := "Wait for shard movement to finish before disrupting a data node." }
  | .noLastShardCopy =>
      { applicable := evaluation.dataClusterIds ≠ []
        passed := evaluation.someDataClusters (·.noLastShardCopy)
        evidence := s!"{evaluation.dataCount (·.noLastShardCopy)} of " ++
          s!"{evaluation.dataClusterIds.length} affected data clusters have no target-held " ++
          "last usable shard copy."
        remediation :=
          "Restore another usable shard copy before disrupting the target data node." }
  | .primaryPromotionSafety =>
      { applicable := evaluation.dataClusterIds ≠ []
        passed := evaluation.someDataClusters (·.primaryPromotionSafe)
        evidence := s!"{evaluation.dataCount (·.primaryPromotionSafe)} of " ++
          s!"{evaluation.dataClusterIds.length} affected data clusters can safely promote " ++
          "required primaries."
        remediation := "Restore an available in-sync copy for every affected primary shard." }
  | .allocationSettingCaptured =>
      { applicable := evaluation.dataClusterIds ≠ [] && evaluation.stage = .preflight
        passed := evaluation.someDataClusters (·.allocationSettingCaptured)
        evidence :=
          if evaluation.stage = .preflight then
            s!"{evaluation.dataCount (·.allocationSettingCaptured)} of " ++
              s!"{evaluation.dataClusterIds.length} affected data clusters have captured " ++
              "persistent and transient allocation layers."
          else "Allocation-layer capture is evaluated at the execution preflight before any " ++
            "allocation mutation."
        remediation := "Capture both persistent and transient allocation values before " ++
          "applying a guard." }
  | .masterQuorum =>
      { applicable := evaluation.quorumImpacts ≠ []
        passed := evaluation.quorumSafe
        evidence := s!"{evaluation.quorumImpacts.countP (·.masterQuorumSafe)} of " ++
          s!"{evaluation.quorumImpacts.length} affected master quorums remain available."
        remediation := "Add or restore master-eligible capacity before disruption." }
  | .roleAvailabilityBudget =>
      { applicable := evaluation.impact.clusters ≠ []
        passed := evaluation.roleViolations = []
        evidence := s!"{evaluation.roleViolations.length} cluster or role availability budget " ++
          "violations were calculated."
        remediation := "Restore unavailable workloads, add redundant capacity, or create an " ++
          "explicitly audited outage plan where supported." }
  | .diskWatermarksSafe =>
      { applicable := evaluation.dataClusterIds ≠ []
        passed := evaluation.someDataClusters (·.diskWatermarksSafe)
        evidence := s!"{evaluation.dataCount (·.diskWatermarksSafe)} of " ++
          s!"{evaluation.dataClusterIds.length} affected data clusters have safe remaining " ++
          "disk capacity."
        remediation :=
          "Free disk capacity or add eligible data capacity before disruption." }
  | .targetArtifactReady =>
      { applicable := evaluation.target.operation = .upgrade
        passed := evaluation.someEsClusters (·.targetArtifactReady)
        evidence := s!"{evaluation.esCount (·.targetArtifactReady)} of " ++
          s!"{evaluation.esClusterIds.length} affected clusters have the pinned target " ++
          "artifact ready."
        remediation :=
          "Download and verify every selected image digest before upgrade execution." }
  | .versionTransitionSupported =>
      { applicable := evaluation.target.operation = .upgrade
        passed := evaluation.someEsClusters (·.versionTransitionSupported)
        evidence := s!"{evaluation.esCount (·.versionTransitionSupported)} of " ++
          s!"{evaluation.esClusterIds.length} affected clusters support the requested version " ++
          "transition."
        remediation := "Choose a non-downgrade target on a supported upgrade path." }
  | .snapshotRecoveryReady =>
      { applicable := evaluation.target.operation = .upgrade && isMajorUpgrade evaluation.target
        passed := evaluation.someEsClusters (·.snapshotRecoveryReady)
        evidence := s!"{evaluation.esCount (·.snapshotRecoveryReady)} of " ++
          s!"{evaluation.esClusterIds.length} affected clusters have verified snapshot " ++
          "recovery evidence."
        remediation :=
          "Create and verify a recent registered snapshot before the major upgrade." }
  | .noStaleShutdownRecord =>
      { applicable := evaluation.esClusterIds ≠ []
        passed := evaluation.allEsClusters (!·.staleShutdownRecord)
        evidence := s!"{evaluation.esCount (·.staleShutdownRecord)} stale shutdown records " ++
          "were observed across affected clusters."
        remediation := "Resolve or remove the unrelated shutdown record through an audited " ++
          "recovery action." }

end Evaluation

/-! ### Results -/

def forceable (identifier : PredicateId) : Bool :=
  identifier ∉ hardPredicates

/-- `_result`. -/
def predicateResult (identifier : PredicateId) (entry : PredicateDefinition)
    (observedAt : AwareTimestamp) (overrideIds : List PredicateId) : PredicateResult :=
  let overrideApplied :=
    entry.applicable && !entry.passed && forceable identifier && identifier ∈ overrideIds
  let verdict : PredicateSeverity × PredicateOutcome :=
    if !entry.applicable || entry.passed then (.info, .passed)
    else if overrideApplied then (.warning, .warning)
    else (.critical, .blocked)
  { identifier := identifier
    severity := verdict.1
    outcome := verdict.2
    applicable := entry.applicable
    forceable := entry.applicable && forceable identifier
    overrideApplied := overrideApplied
    evidenceSummary := entry.evidence
    remediation := if entry.passed || !entry.applicable then "" else entry.remediation
    observedAt := observedAt }

def PredicateResult.validated (result : PredicateResult) : Except Fault PredicateResult :=
  if result.Fits then .ok result
  else .error ⟨.valueError, "1 validation error for PredicateResult"⟩

def Evaluation.result (evaluation : Evaluation) (overrideIds : List PredicateId)
    (identifier : PredicateId) : PredicateResult :=
  predicateResult identifier (evaluation.definition identifier) evaluation.snapshot.capturedAt
    overrideIds

/-- `evaluate_predicates`. -/
def evaluatePredicates (evaluation : Evaluation) (overrideIds : List PredicateId) :
    Except Fault (List PredicateResult) :=
  predicateOrder.mapM fun identifier => (evaluation.result overrideIds identifier).validated

section Results

variable {evaluation : Evaluation} {overrideIds : List PredicateId}
  {results : List PredicateResult}

theorem evaluatePredicates_eq_ok_iff :
    evaluatePredicates evaluation overrideIds = .ok results ↔
      (∀ identifier, (evaluation.result overrideIds identifier).Fits) ∧
      results = predicateOrder.map (evaluation.result overrideIds) := by
  have each (identifier : PredicateId) (result : PredicateResult) :
      (evaluation.result overrideIds identifier).validated = .ok result ↔
        (evaluation.result overrideIds identifier).Fits ∧
          result = evaluation.result overrideIds identifier := by
    unfold PredicateResult.validated
    split <;> simp_all [eq_comm]
  rw [evaluatePredicates, Results.mapM_eq_ok_iff each]
  simp [mem_predicateOrder]

/-- The predicates that block an operation. -/
def Blocks (results : List PredicateResult) (identifier : PredicateId) : Prop :=
  ∃ result ∈ results, result.identifier = identifier ∧ result.outcome = .blocked

theorem outcome_blocked_iff {identifier : PredicateId} :
    (evaluation.result overrideIds identifier).outcome = .blocked ↔
      (evaluation.definition identifier).applicable = true ∧
        (evaluation.definition identifier).passed = false ∧
          (identifier ∈ hardPredicates ∨ identifier ∉ overrideIds) := by
  simp only [Evaluation.result, predicateResult, forceable]
  cases (evaluation.definition identifier).applicable <;>
    cases (evaluation.definition identifier).passed <;> simp
  split <;> simp_all
  tauto

theorem blocks_iff (evaluated : evaluatePredicates evaluation overrideIds = .ok results)
    {identifier : PredicateId} :
    Blocks results identifier ↔
      (evaluation.definition identifier).applicable = true ∧
        (evaluation.definition identifier).passed = false ∧
          (identifier ∈ hardPredicates ∨ identifier ∉ overrideIds) := by
  obtain ⟨-, rfl⟩ := evaluatePredicates_eq_ok_iff.mp evaluated
  rw [← outcome_blocked_iff]
  constructor
  · rintro ⟨result, member, rfl, blocked⟩
    obtain ⟨identifier, -, rfl⟩ := List.mem_map.mp member
    exact blocked
  · intro blocked
    exact ⟨_, List.mem_map_of_mem (mem_predicateOrder identifier), rfl, blocked⟩

end Results

/-! ### What the scopes cover -/

namespace Evaluation

variable {evaluation : Evaluation} {workload : WorkloadObservation}

end Evaluation

section Bypass

variable {evaluation : Evaluation} {overrideIds : List PredicateId}
  {results : List PredicateResult}

end Bypass

namespace ImpactSample

/-- The cluster 5 with a green health. -/
def cluster : ClusterObservation where
  clusterId := 5
  providerType := .nativePodman
  backend := .documentedRolling
  lifecycleSupported := true
  configuredName := "logs"
  configuredUuid := none
  observedName := some "logs"
  observedUuid := none
  health := "green"
  masterEligibleTotal := 3
  masterEligibleAvailable := 3
  initializingShards := 0
  relocatingShards := 0
  noLastShardCopy := true
  primaryPromotionSafe := true
  allocationSettingCaptured := true
  diskWatermarksSafe := true
  targetArtifactReady := true
  versionTransitionSupported := true
  snapshotRecoveryReady := true
  staleShutdownRecord := false
  observedAt := ten

/-- Everything that a purge of the data node 11 needs was observed. -/
def complete : ObservationSnapshot where
  capturedAt := ten
  capabilityRevision := "1"
  sources := [⟨"runtime", .ok, ten, true, none, none⟩]
  hosts := [⟨1, none, true, true, true, true, ten, none⟩]
  clusters := [cluster]
  workloads := [hot 11 1, hot 12 2]
  assignmentRevisions := []
  policies := []
  conflictingOperations := []

def purge : Evaluation where
  snapshot := complete
  target := target .purge [11]
  policy := defaultPolicy
  impact := manifest complete (target .purge [11])
  now := ten
  stage := .preflight

end ImpactSample

end Planning

end ElKeeper
