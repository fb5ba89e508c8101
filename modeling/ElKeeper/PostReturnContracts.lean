import ElKeeper.AllocationSettings

/-!
# Contracts of the post-return verification

Requests, observations, checks and results of the verification of a returned
host.  Checks that the source performs on construction are fields; where the
coordinator constructs a value from what it is given, `validate` is that
construction.  Identities and versions are texts that are only compared, so their
patterns are left out.
-/

namespace ElKeeper.PostReturn

/-! ### Patterns -/

/-- `REFERENCE_PATTERN`. -/
def matchesReference (text : String) : Bool :=
  match text.toList with
  | [] => false
  | first :: rest => first.isAlphanum && rest.length ≤ 127 &&
      rest.all fun character => character.isAlphanum || character ∈ ['.', '_', ':', '-']

def isCategoryCharacter (character : Char) : Bool :=
  character.isDigit || character.isLower

/-- `ERROR_PATTERN`. -/
def matchesError (text : String) : Bool :=
  match text.toList with
  | [] => false
  | first :: rest => isCategoryCharacter first && rest.length ≤ 127 &&
      rest.all fun character => isCategoryCharacter character || character = '-'

/-- The pattern and the length of the category of a guard cleanup. -/
def isCleanupCategory (text : String) : Bool :=
  text.toList ≠ [] && text.length ≤ 128 &&
    text.toList.all fun character => isCategoryCharacter character || character = '-'

/-- `validate_managed_unit`. -/
def isManagedUnit (unit : String) : Bool :=
  let characters := unit.toList
  let body := (characters.drop 4).take (characters.length - 12)
  characters.take 4 = "ecp-".toList &&
    characters.drop (characters.length - 8) = ".service".toList &&
    1 ≤ body.length && body.length ≤ 127 &&
    body.head?.all (fun character => character.isDigit || character.isLower) &&
    body.tail.all (fun character =>
      character.isDigit || character.isLower || character ∈ ['_', '.', '@', '-']) &&
    !"ecp-maintenance-".toList.isPrefixOf characters

/-! ### Checks -/

inductive PostReturnErrorCategory where
  | sshUnavailable
  | bootIdUnavailable
  | bootIdUnchanged
  | bootIdMismatch
  | podmanSocketUnavailable
  | quadletGeneratorUnavailable
  | requiredQuadletMissing
  | requiredWorkloadNotRunning
  | endpointUnavailable
  | executorResultUnavailable
  | executorResultIdentityMismatch
  | executorResultRecoveryRequired
  | executorResultIncomplete
  | nodeIdentityUnavailable
  | nodeIdentityMismatch
  | nodeVersionMismatch
  | clusterUuidMismatch
  | shardRecoveryIncomplete
  | serviceBudgetViolation
  | clusterHealthUnacceptable
  | allocationRestorationFailed
  | shutdownCleanupFailed
  | executorArtifactCleanupFailed
  | ownershipBoundaryRejected
  | lockReleaseFailed
deriving DecidableEq

inductive CheckStatus where
  | passed
  | failed
  | skipped
deriving DecidableEq

inductive CleanupStatus where
  | verified
  | alreadyClean
  | failed
  | ownershipRejected
deriving DecidableEq

/-- `CleanupProof.proven`. -/
def CleanupStatus.proven : CleanupStatus → Bool
  | verified | alreadyClean => true
  | _ => false

structure PostReturnCheck where
  checkId : String
  status : CheckStatus
  errorCategory : Option PostReturnErrorCategory
  checkId_matches : matchesReference checkId
  status_matches_error : status = .failed ↔ errorCategory.isSome
deriving DecidableEq

/-- `PostReturnCheck`. -/
def PostReturnCheck.validate (checkId : String) (status : CheckStatus)
    (errorCategory : Option PostReturnErrorCategory) : Except Fault PostReturnCheck :=
  if isReference : matchesReference checkId then
    if unexplained : status = .failed ∧ errorCategory = none then
      .error ⟨.valueError, "failed checks require an error category"⟩
    else if overexplained : status ≠ .failed ∧ errorCategory ≠ none then
      .error ⟨.valueError, "only failed checks may include an error category"⟩
    else
      .ok
        { checkId := checkId
          status := status
          errorCategory := errorCategory
          checkId_matches := isReference
          status_matches_error := by
            cases errorCategory with
            | none => simpa using unexplained
            | some category => simpa using overexplained }
  else
    .error ⟨.valueError,
      "String should match pattern '^[A-Za-z0-9][A-Za-z0-9._:-]\x7b0,127\x7d$'"⟩

/-! ### Expectations -/

structure WorkloadExpectation where
  assignmentId : Nat
  unit : String
  assignmentId_positive : 1 ≤ assignmentId
  unit_managed : isManagedUnit unit

structure EndpointExpectation where
  endpointRef : String
  endpointRef_matches : matchesReference endpointRef

structure NodeIdentityExpectation where
  clusterId : Nat
  assignmentId : Nat
  persistentNodeId : String
  nodeName : String
  version : String
  clusterUuid : String
  clusterId_positive : 1 ≤ clusterId
  assignmentId_positive : 1 ≤ assignmentId

structure NodeIdentityObservation where
  persistentNodeId : String
  nodeName : String
  version : String
  clusterUuid : String

structure ShardRecoveryObservation where
  activeRecoveries : Nat
  initializingShards : Nat
  relocatingShards : Nat
  unassignedPrimaries : Nat

/-- `complete`. -/
def ShardRecoveryObservation.complete (observation : ShardRecoveryObservation) : Bool :=
  observation.activeRecoveries = 0 && observation.initializingShards = 0 &&
    observation.relocatingShards = 0 && observation.unassignedPrimaries = 0

structure ServiceBudgetExpectation where
  clusterId : Nat
  role : String
  minimumAvailable : Nat
  clusterId_positive : 1 ≤ clusterId
  role_matches : matchesReference role
  minimumAvailable_bounded : minimumAvailable ≤ 1000

structure ServiceBudgetObservation where
  available : Nat
  available_bounded : available ≤ 1000

/-- The healths that an expectation can require. -/
inductive RequiredHealth where
  | green
  | yellow
deriving DecidableEq

structure ClusterExpectation where
  clusterId : Nat
  requiredHealth : RequiredHealth
  nodes : List NodeIdentityExpectation
  clusterId_positive : 1 ≤ clusterId
  nodes_belong : ∀ node ∈ nodes, node.clusterId = clusterId
  nodes_unique : (nodes.map (·.assignmentId)).Nodup

/-- The order of `(cluster_id, role)` pairs. -/
def ServiceBudgetExpectation.precedes (first second : ServiceBudgetExpectation) : Prop :=
  first.clusterId < second.clusterId ∨
    (first.clusterId = second.clusterId ∧ first.role < second.role)

structure HostMaintenancePostReturnRequest where
  planId : String
  nodeId : Nat
  hostReturnTimeoutSeconds : Nat
  workloads : List WorkloadExpectation
  endpoints : List EndpointExpectation
  clusters : List ClusterExpectation
  serviceBudgets : List ServiceBudgetExpectation
  nodeId_positive : 1 ≤ nodeId
  timeout_bounded : 30 ≤ hostReturnTimeoutSeconds ∧ hostReturnTimeoutSeconds ≤ 86400
  workloads_present : workloads ≠ []
  workloads_ordered : (workloads.map (·.unit)).Pairwise (· < ·)
  workloads_unique : (workloads.map (·.assignmentId)).Nodup
  clusters_present : clusters ≠ []
  clusters_ordered : (clusters.map (·.clusterId)).Pairwise (· < ·)
  endpoints_ordered : (endpoints.map (·.endpointRef)).Pairwise (· < ·)
  budgets_ordered : serviceBudgets.Pairwise ServiceBudgetExpectation.precedes
  budgets_covered : ∀ budget ∈ serviceBudgets, budget.clusterId ∈ clusters.map (·.clusterId)

structure ShutdownCleanupExpectation where
  clusterId : Nat
  persistentNodeId : String
  nodeVersion : String
  clusterId_positive : 1 ≤ clusterId

/-- The target of the artifact cleanup; its paths are only handed on. -/
structure ExecutorCleanupTarget where
  operationId : String
  unit : String
  paths : List String
  unit_owned : unit = "ecp-maintenance-resume@" ++ operationId ++ ".service"

structure PostReturnRequest where
  operationId : String
  planId : String
  nodeId : Nat
  preRebootBootId : String
  expectedManifestHash : String
  hostReturnTimeoutSeconds : Nat
  workloads : List WorkloadExpectation
  endpoints : List EndpointExpectation
  clusters : List ClusterExpectation
  serviceBudgets : List ServiceBudgetExpectation
  allocationGuards : List AllocationGuardCheckpoint
  shutdownRecords : List ShutdownCleanupExpectation
  executorCleanup : ExecutorCleanupTarget
  nodeId_positive : 1 ≤ nodeId
  timeout_bounded : 1 ≤ hostReturnTimeoutSeconds ∧ hostReturnTimeoutSeconds ≤ 86400
  cleanup_owned : executorCleanup.operationId = operationId
  workloads_ordered : (workloads.map (·.unit)).Pairwise (· < ·)
  workloads_unique : (workloads.map (·.assignmentId)).Nodup
  endpoints_unique : (endpoints.map (·.endpointRef)).Nodup
  clusters_unique : (clusters.map (·.clusterId)).Nodup
  budgets_covered : ∀ budget ∈ serviceBudgets, budget.clusterId ∈ clusters.map (·.clusterId)
  guards_covered : ∀ guard ∈ allocationGuards, guard.clusterId ∈ clusters.map (·.clusterId)
  records_covered : ∀ record ∈ shutdownRecords, record.clusterId ∈ clusters.map (·.clusterId)

/-! ### What the executor reports -/

inductive ExecutorResultState where
  | complete
  | recoveryRequired
deriving DecidableEq

structure ExecutorUnitResult where
  unit : String
  active : Bool

structure HostExecutorResult where
  operationId : String
  planId : Option String
  manifestHash : String
  state : ExecutorResultState
  preRebootBootId : Option String
  observedBootId : Option String
  units : List ExecutorUnitResult
  units_unique : (units.map (·.unit)).Nodup
  complete_active : state = .complete → ∀ unit ∈ units, unit.active

/-! ### Results -/

structure AllocationCleanupEvidence where
  clusterId : Nat
  status : ElKeeper.CleanupStatus
  verified : Bool
  errorCategory : Option String
  category_matches : ∀ category ∈ errorCategory, matchesError category
deriving DecidableEq

/-- `AllocationCleanupEvidence` of a cluster; a request names clusters from one on. -/
def AllocationCleanupEvidence.validate (clusterId : Nat)
    (cleanup : AllocationGuardCleanupResult) : Except Fault AllocationCleanupEvidence :=
  if isError : ∀ category ∈ cleanup.errorCategory, matchesError category then
    .ok ⟨clusterId, cleanup.status, cleanup.verified, cleanup.errorCategory, isError⟩
  else
    .error ⟨.valueError, "String should match pattern '^[a-z0-9][a-z0-9-]\x7b0,127\x7d$'"⟩

structure ShutdownCleanupEvidence where
  clusterId : Nat
  persistentNodeId : String
  status : CleanupStatus
deriving DecidableEq

inductive ReturnState where
  | complete
  | recoveryRequired
deriving DecidableEq

/-- Every check passed. -/
def AllPassed (checks : List PostReturnCheck) : Prop :=
  ∀ check ∈ checks, check.status = .passed

instance (checks : List PostReturnCheck) : Decidable (AllPassed checks) :=
  inferInstanceAs (Decidable (∀ check ∈ checks, check.status = .passed))

structure HostMaintenancePostReturnResult where
  state : ReturnState
  checks : List PostReturnCheck
  errorCategories : List PostReturnErrorCategory
  completedAt : Nat
  completion_proven : state = .complete → errorCategories = [] ∧ AllPassed checks
  recovery_explained : state = .recoveryRequired → errorCategories ≠ []
deriving DecidableEq

/-- `HostMaintenancePostReturnResult`. -/
def HostMaintenancePostReturnResult.validate (state : ReturnState)
    (checks : List PostReturnCheck) (errorCategories : List PostReturnErrorCategory)
    (completedAt : Nat) : Except Fault HostMaintenancePostReturnResult :=
  if proven : state = .complete → errorCategories = [] ∧ AllPassed checks then
    if explained : state = .recoveryRequired → errorCategories ≠ [] then
      .ok ⟨state, checks, errorCategories, completedAt, proven, explained⟩
    else
      .error ⟨.valueError,
        "recovery-required host-maintenance returns require verification errors"⟩
  else
    .error ⟨.valueError, "complete host-maintenance returns require fully verified checks"⟩

/-- What a verification has collected so far. -/
structure Report where
  checks : List PostReturnCheck
  errors : List PostReturnErrorCategory
  allocationCleanup : List AllocationCleanupEvidence
  shutdownCleanup : List ShutdownCleanupEvidence
deriving DecidableEq

namespace Report

def empty : Report :=
  ⟨[], [], [], []⟩

/-- All restorations are verified and all shutdown records are cleared. -/
def CleanupsProven (report : Report) : Prop :=
  (∀ item ∈ report.allocationCleanup, item.verified ∧ item.status = .restored) ∧
    ∀ item ∈ report.shutdownCleanup, item.status.proven

instance (report : Report) : Decidable report.CleanupsProven :=
  inferInstanceAs (Decidable ((∀ item ∈ report.allocationCleanup,
    item.verified ∧ item.status = .restored) ∧
      ∀ item ∈ report.shutdownCleanup, item.status.proven))

end Report

/-- The outcomes of the stages that follow the checks. -/
structure Stages where
  executorResultImported : Bool
  executorResultComplete : Bool
  executorArtifactsCleaned : Bool
  locksReleased : Bool
deriving DecidableEq

/-- Every stage was passed. -/
def Stages.all (stages : Stages) : Bool :=
  stages.executorResultImported && stages.executorResultComplete &&
    stages.executorArtifactsCleaned && stages.locksReleased

/-- `PostReturnResult`: its lists and its flags. -/
structure PostReturnResult where
  state : ReturnState
  report : Report
  stages : Stages
  completedAt : Nat
  completion_proven : state = .complete →
    report.errors = [] ∧ AllPassed report.checks ∧ stages.all ∧ report.CleanupsProven
deriving DecidableEq

/-- `PostReturnResult`. -/
def PostReturnResult.validate (state : ReturnState) (report : Report) (stages : Stages)
    (completedAt : Nat) : Except Fault PostReturnResult :=
  if proven : state = .complete →
      report.errors = [] ∧ AllPassed report.checks ∧ stages.all ∧ report.CleanupsProven then
    .ok ⟨state, report, stages, completedAt, proven⟩
  else
    .error ⟨.valueError, "complete post-return results require fully verified cleanup"⟩

end ElKeeper.PostReturn
