import ElKeeper.Json
import ElKeeper.RebootContracts
import Mathlib.Data.List.Nodup

/-!
# The controller database

The tables of the controller database with the columns that the modelled code
reads.  Checkpoint keys and payloads are typed by their shapes; `text` gives the
stored key.  Tables declared with `AUTOINCREMENT` keep their counter, the other
tables number a new row after the greatest existing one.
-/

namespace ElKeeper

/-- A row is found under its own key. -/
theorem find?_of_nodup_key {α κ : Type} [DecidableEq κ] {key : α → κ} {rows : List α}
    (unique : (rows.map key).Nodup) {row : α} (member : row ∈ rows) :
    rows.find? (fun other => key other = key row) = some row := by
  cases found : rows.find? fun other => key other = key row with
  | none =>
      have missed := List.find?_eq_none.mp found row member
      simp at missed
  | some other =>
      have same : key other = key row := by simpa using List.find?_some found
      rw [List.inj_on_of_nodup_map unique (List.mem_of_find?_eq_some found) member same]

/-- `RunState`, and `cancelled`, which maintenance may store as well. -/
inductive RunStatus where
  | queued
  | running
  | succeeded
  | failed
  | recoveryRequired
  | cancelled
deriving DecidableEq, Repr

/-- The statuses in which a run still occupies its target. -/
def RunStatus.active : RunStatus → Bool
  | queued | running | recoveryRequired => true
  | succeeded | failed | cancelled => false

inductive OperationKind where
  | reboot
  | manualMaintenance
  | workloadRestart
  | resourceChange
  | settingsChange
  | zoningChange
  | apply
  | detach
  | purge
  | download
  | upgrade
deriving DecidableEq, Repr

def OperationKind.value : OperationKind → String
  | reboot => "reboot"
  | manualMaintenance => "manual_maintenance"
  | workloadRestart => "workload_restart"
  | resourceChange => "resource_change"
  | settingsChange => "settings_change"
  | zoningChange => "zoning_change"
  | apply => "apply"
  | detach => "detach"
  | purge => "purge"
  | download => "download"
  | upgrade => "upgrade"

/-! ### Checkpoints -/

/-- The step names of `HostMaintenanceService._record_step`. -/
inductive HostStep where
  | prepare
  | stop
  | stopComplete
  | operatorHandoff
  | reboot
  | rebootComplete
  | hostRediscovery
  | hostRediscoveryComplete
  | returning
  | returnComplete
  | verification
  | postReturnVerificationStarted
  | postReturnVerification
  | executorCleanup
  | executorCleanupComplete
deriving DecidableEq, Repr

namespace HostStep

def name : HostStep → String
  | prepare => "prepare"
  | stop => "stop"
  | stopComplete => "stop-complete"
  | operatorHandoff => "operator-handoff"
  | reboot => "reboot"
  | rebootComplete => "reboot-complete"
  | hostRediscovery => "host-rediscovery"
  | hostRediscoveryComplete => "host-rediscovery-complete"
  | returning => "return"
  | returnComplete => "return-complete"
  | verification => "verification"
  | postReturnVerificationStarted => "post-return-verification-started"
  | postReturnVerification => "post-return-verification"
  | executorCleanup => "executor-cleanup"
  | executorCleanupComplete => "executor-cleanup-complete"

/-- The first sequence number of the step. -/
def base : HostStep → Nat
  | prepare => 100
  | stop => 200
  | stopComplete => 300
  | operatorHandoff => 400
  | reboot => 450
  | rebootComplete => 460
  | hostRediscovery => 7000
  | hostRediscoveryComplete => 7010
  | returning => 7100
  | returnComplete => 7200
  | verification => 7300
  | postReturnVerificationStarted => 7400
  | postReturnVerification => 7410
  | executorCleanup => 7500
  | executorCleanupComplete => 7510

end HostStep

/-- The step names of `ContainerMaintenanceService`. -/
inductive ContainerStep where
  | prepare
  | stop
  | returning
  | verify
  | companions
deriving DecidableEq, Repr

namespace ContainerStep

def name : ContainerStep → String
  | prepare => "prepare"
  | stop => "stop"
  | returning => "return"
  | verify => "verify"
  | companions => "companions"

/-- `_STEP_SEQUENCE`. -/
def sequence : ContainerStep → Nat
  | prepare => 100
  | stop => 200
  | returning => 300
  | verify => 400
  | companions => 500

end ContainerStep

/-- The keys under which the modelled code records checkpoints. -/
inductive CheckpointKey where
  | clusterCaptured (clusterId : Nat)
  | clustersPrepared
  | control (action : ControlAction) (attempt : Nat)
  | predicates (stage : PredicateStage) (attempt : Nat)
  | clusterGuardsActive
  | clusterGuardsRestored
  | executorStaged
  | rebootIntent
  | invocationAcknowledged
  | sshDisconnected
  | hostReconnected
  | returnDiscovered
  | hostRebootRequest
  | hostStep (step : HostStep) (assignment : Option Nat)
  | containerIntent (step : ContainerStep)
  | containerVerified (step : ContainerStep)
deriving DecidableEq, Repr

namespace CheckpointKey

/-- The stored text of a key. -/
def text : CheckpointKey → String
  | clusterCaptured clusterId => "reboot.cluster." ++ toString clusterId ++ ".captured"
  | clustersPrepared => "reboot.clusters-prepared"
  | control .none attempt => "reboot.control.none." ++ toString attempt
  | control .pause attempt => "reboot.control.pause." ++ toString attempt
  | control .cancel attempt => "reboot.control.cancel." ++ toString attempt
  | predicates .prepare attempt => "reboot.prepare-predicates." ++ toString attempt
  | predicates .reboot attempt => "reboot.reboot-predicates." ++ toString attempt
  | clusterGuardsActive => "reboot.cluster-guards-active"
  | clusterGuardsRestored => "reboot.cluster-guards-restored-failure"
  | executorStaged => "reboot.executor-staged"
  | rebootIntent => "reboot.intent"
  | invocationAcknowledged => "reboot.invocation-acknowledged"
  | sshDisconnected => "reboot.ssh-disconnected"
  | hostReconnected => "reboot.host-reconnected"
  | returnDiscovered => "reboot.return-discovered"
  | hostRebootRequest => "host-reboot-request"
  | hostStep step (some assignment) => "host:" ++ step.name ++ ":" ++ toString assignment
  | hostStep step none => "host:" ++ step.name ++ ":host"
  | containerIntent step => "container:" ++ step.name ++ ":intent"
  | containerVerified step => "container:" ++ step.name ++ ":verified"

/-- `checkpoint_key.startswith("reboot.<stage>-predicates.")`. -/
def isPredicates (stage : PredicateStage) : CheckpointKey → Bool
  | predicates other _ => other = stage
  | _ => false

/-- `checkpoint_key.startswith("reboot.control.<action>.")`. -/
def isControl (action : ControlAction) : CheckpointKey → Bool
  | control other _ => other = action
  | _ => false

end CheckpointKey

/-- The shapes of checkpoint payloads. -/
inductive CheckpointPayload where
  | clusterCapture (clusterId : Nat) (capture : Json)
  | clusterIds (identifiers : List Nat)
  | safeCheckpoint (checkpoint : String)
  | evaluation (evaluation : PredicateEvaluation)
  | guards (guards : List (Nat × Json))
  | restoration (verified : Bool) (results : List (Nat × Json))
  | stageReceipt (receipt : ExecutorStageReceipt)
  | intent (operationId : String) (nodeId : Nat)
  | invocation (receipt : RebootInvocationReceipt)
  | disconnect (observation : SshDisconnectObservation)
  | reconnect (observation : ReconnectObservation)
  | returned (operationId : String) (bootId : Option String) (discovery : ExecutorDiscovery)
  | request (planId : String) (nodeId : Nat) (preRebootBootId : String)
      (executorManifest : SignedHostExecutorManifest)
  | hostStep (nodeId : Option Nat) (unit : Option String)
  | containerStep (assignmentId : Nat) (unit : String)
deriving DecidableEq

/-- What the store keeps of a payload: the values taken from guards are
redacted, no other shape has a sensitive key. -/
def CheckpointPayload.persisted : CheckpointPayload → CheckpointPayload
  | clusterCapture clusterId capture => clusterCapture clusterId capture.persisted
  | guards entries => guards (entries.map fun entry => (entry.1, entry.2.persisted))
  | restoration verified results =>
      restoration verified (results.map fun entry => (entry.1, entry.2.persisted))
  | payload => payload

/-- The values that a checkpoint's classification column takes. -/
inductive StoredClassification where
  | complete
  | incomplete
  | ambiguous
  | safeToResume
  | recoveryRequired
deriving DecidableEq, Repr

/-- One section of the recovery evidence; a value that is not there is `none`. -/
structure EvidenceSection where
  /-- The observed fingerprint may be stored as `null`. -/
  observedFingerprint : Option (Option String)
  fingerprint : Option String
  beforeFingerprint : Option String
  afterFingerprint : Option String
  identityMatches : Option Bool
  observationComplete : Option Bool
  complete : Option Bool
  resumeIsIdempotent : Option Bool
deriving DecidableEq

/-- What a startup records about its classification. -/
structure StartupEvidence where
  sources : List String
  classification : StoredClassification
  reasonCode : String
  resumable : Bool
deriving DecidableEq

/-- The recovery evidence of a checkpoint: the sections of the named sources, a
section at the root, and what the last startup recorded. -/
structure CheckpointEvidence where
  sections : List (String × EvidenceSection) := []
  root : Option EvidenceSection := none
  startupReasonCode : Option String := none
  startup : Option StartupEvidence := none
deriving DecidableEq

structure CheckpointRecord where
  id : Nat
  planId : String
  stepId : Option Nat
  key : CheckpointKey
  sequence : Nat
  sideEffectState : SideEffectState
  payload : CheckpointPayload
  observation : Json
  recoveryEvidence : CheckpointEvidence := {}
  recoveryClassification : Option StoredClassification := none
  recoveryReasonCode : Option String := none
  resumable : Option Bool := none
  classificationRevision : Nat := 1
deriving DecidableEq

/-! ### Maintenance tables -/

/-- The post-return expectations of one affected cluster. -/
structure ClusterExpectation where
  clusterId : Nat
  nodeAssignmentIds : List Nat
deriving DecidableEq

/-- The part of a stored target manifest that execution reads. -/
structure TargetManifest where
  publicOperation : Option String
  assignmentRevisions : List (Nat × Nat)
  policyRevisions : List (Nat × Nat)
  affectedClusterIds : List Nat
  postReturnExpectations : Option (List ClusterExpectation)
deriving DecidableEq

/-- The part of a stored observation that execution reads. -/
structure PlanObservation where
  capabilityRevision : Option String
  capturedAt : Option Nat
  /-- For each source, whether it is required and whether its status is `ok`. -/
  sources : List (Bool × Bool)
deriving DecidableEq

structure PlanRecord where
  id : String
  runId : Option Nat
  operationKind : OperationKind
  targetNodeId : Option Nat
  targetClusterId : Option Nat
  targetAssignmentId : Option Nat
  observationMaxAgeSeconds : Nat
  observation : PlanObservation
  planHash : String
  targetManifest : TargetManifest
  lifecycleState : MaintenanceState
  stateRevision : Nat
  expiresAt : Nat
deriving DecidableEq

/-- The two families of step keys and step kinds. -/
inductive StepKey where
  | host (step : HostStep) (assignment : Option Nat)
  | container (step : ContainerStep)
deriving DecidableEq, Repr

structure StepRecord where
  id : Nat
  planId : String
  key : StepKey
  sequence : Nat
  affectedClusterId : Option Nat
  affectedAssignmentId : Option Nat
  affectedNodeId : Option Nat
  state : MaintenanceStepState
  stateRevision : Nat
deriving DecidableEq

structure HostStateRecord where
  nodeId : Nat
  state : HostMaintenanceState
  activePlanId : Option String
  stateRevision : Nat
  workflowState : MaintenanceWorkflowState
  workflowStateRevision : Nat
deriving DecidableEq

structure AssignmentStateRecord where
  assignmentId : Nat
  workflowState : MaintenanceWorkflowState
  activePlanId : Option String
  stateRevision : Nat
deriving DecidableEq

structure LockRecord where
  id : Nat
  scope : LockScope
  identifier : String
  ownerPlanId : String
  runId : Option Nat
  ownerToken : String
  expiresAt : Nat
  releasedAt : Option Nat
deriving DecidableEq

/-- `LockRecord.expired`. -/
def LockRecord.expired (lock : LockRecord) (now : Nat) : Bool :=
  lock.expiresAt ≤ now

inductive AllocationGuardPhase where
  | captured
  | active
  | restored
  | recoveryRequired
deriving DecidableEq, Repr

structure AllocationGuardRecord where
  id : Nat
  clusterId : Nat
  ownerPlanId : String
  phase : AllocationGuardPhase
  checkpoint : Json
  stateRevision : Nat
deriving DecidableEq

/-! ### Platform and workload tables -/

structure RunRow where
  id : Nat
  kind : String
  target : String
  status : RunStatus
  context : Dict
deriving DecidableEq

structure NodeRow where
  id : Nat
  name : String
  enabled : Bool
deriving DecidableEq

structure ClusterRow where
  id : Nat
  name : String
  slug : String
  filebeatEnabled : Bool
deriving DecidableEq

/-- A stored configuration: encrypted, or plain as early releases wrote it. -/
inductive StoredConfig where
  | encrypted (config : Dict)
  | plain (config : Dict)
deriving DecidableEq

/-- `seal_config(json.dumps(config))`. -/
def sealConfig (config : Dict) : StoredConfig :=
  .encrypted config

/-- `open_config`. -/
def openConfig : StoredConfig → Dict
  | .encrypted config => config
  | .plain config => config

@[simp]
theorem openConfig_sealConfig (config : Dict) : openConfig (sealConfig config) = config :=
  rfl

/-- The keys of `ROLE_SPECS`. -/
inductive Role where
  | master
  | hot
  | warm
  | ml
  | ingest
  | coordinating
  | kibana
  | fleetServer
  | logstash
  | elasticAgent
deriving DecidableEq, Repr

namespace Role

/-- The position in `WORKLOAD_DEPLOY_ORDER`. -/
def deployOrder : Role → Nat
  | master => 0
  | hot => 1
  | warm => 2
  | ml => 3
  | ingest => 4
  | coordinating => 5
  | kibana => 6
  | fleetServer => 7
  | logstash => 8
  | elasticAgent => 9

/-- `ELASTICSEARCH_ROLES`. -/
def elasticsearch : Role → Bool
  | master | hot | warm | ml | ingest | coordinating => true
  | kibana | fleetServer | logstash | elasticAgent => false

/-- The text of a role. -/
def text : Role → String
  | master => "master"
  | hot => "hot"
  | warm => "warm"
  | ml => "ml"
  | ingest => "ingest"
  | coordinating => "coordinating"
  | kibana => "kibana"
  | logstash => "logstash"
  | fleetServer => "fleet-server"
  | elasticAgent => "elastic-agent"

end Role

inductive AssignmentState where
  | active
  | applying
deriving DecidableEq, Repr

structure AssignmentRow where
  id : Nat
  clusterId : Nat
  nodeId : Nat
  role : Role
  config : StoredConfig
  imageVersion : Option String
  state : AssignmentState
  revision : Nat
  operationRunId : Option Nat
deriving DecidableEq

/-- What a validated workload change does.  An existing assignment is named with
the revision that the request expects. -/
inductive ChangeDetail where
  | create (config : Dict) (imageVersion : String)
  | resources (assignmentId expectedRevision : Nat) (config previousConfig : Dict)
  | detach (assignmentId expectedRevision : Nat)
deriving DecidableEq

/-- The existing assignment that a change is about. -/
def ChangeDetail.assignmentId? : ChangeDetail → Option Nat
  | create _ _ => none
  | resources assignmentId _ _ _ | detach assignmentId _ => some assignmentId

/-- A validated change of a workload batch. -/
structure PlannedChange where
  clientId : String
  nodeId : Nat
  nodeName : String
  role : Role
  detail : ChangeDetail
deriving DecidableEq

/-- A change of a stored batch: staging gives each change its assignment. -/
structure StagedChange extends PlannedChange where
  assignmentId : Nat
deriving DecidableEq

inductive BatchPhase where
  | applying
  | rollingBack
deriving DecidableEq, Repr

structure BatchRow where
  runId : Nat
  clusterId : Nat
  changes : List StagedChange
  completed : List String
  phase : BatchPhase
deriving DecidableEq

structure Database where
  plans : List PlanRecord
  steps : List StepRecord
  checkpoints : List CheckpointRecord
  hostStates : List HostStateRecord
  assignmentStates : List AssignmentStateRecord
  locks : List LockRecord
  allocationGuards : List AllocationGuardRecord
  policies : List (Nat × Nat)
  runs : List RunRow
  nodes : List NodeRow
  clusters : List ClusterRow
  /-- The cluster and the node of each membership. -/
  memberships : List (Nat × Nat)
  assignments : List AssignmentRow
  batches : List BatchRow
  /-- The greatest identifiers issued by the `AUTOINCREMENT` tables. -/
  stepCounter : Nat
  checkpointCounter : Nat
  lockCounter : Nat
  allocationGuardCounter : Nat
deriving DecidableEq

namespace Database

def empty : Database where
  plans := []
  steps := []
  checkpoints := []
  hostStates := []
  assignmentStates := []
  locks := []
  allocationGuards := []
  policies := []
  runs := []
  nodes := []
  clusters := []
  memberships := []
  assignments := []
  batches := []
  stepCounter := 0
  checkpointCounter := 0
  lockCounter := 0
  allocationGuardCounter := 0

/-- The identifier of a new row in a table without `AUTOINCREMENT`. -/
def nextId (identifiers : List Nat) : Nat :=
  identifiers.foldr max 0 + 1

end Database

/-- Operations on the database of one connection. -/
abbrev Operation (α : Type) :=
  Program Database Fault α

end ElKeeper
