import ElKeeper.WorkloadStore

/-!
# Staging a workload change set

A change set is validated as a whole against the active assignments of its
cluster, and is then staged under a new run in the same transaction.  A role
outside `ROLE_SPECS` is refused by the first check of a creation; here requests
carry roles, and stored assignments have them.
-/

namespace ElKeeper

/-- `WorkloadChange`, in the three shapes that its validator admits. -/
inductive WorkloadChange where
  | create (clientId : String) (nodeId : Nat) (role : Role) (imageVersion : Option String)
      (config : Dict)
  | resources (clientId : String) (assignmentId expectedRevision : Nat) (config : Dict)
  | detach (clientId : String) (assignmentId expectedRevision : Nat)
deriving DecidableEq

namespace WorkloadChange

def clientId : WorkloadChange → String
  | create clientId _ _ _ _ | resources clientId _ _ _ | detach clientId _ _ => clientId

def assignmentId? : WorkloadChange → Option Nat
  | create _ _ _ _ _ => none
  | resources _ assignmentId _ _ | detach _ assignmentId _ => some assignmentId

def creation? : WorkloadChange → Option (Nat × Role)
  | create _ nodeId role _ _ => some (nodeId, role)
  | _ => none

end WorkloadChange

structure WorkloadChangeSet where
  changes : List WorkloadChange
  nonempty : changes ≠ []
  bounded : changes.length ≤ 100
  unique_clientIds : (changes.map (·.clientId)).Nodup
  unique_assignmentIds : (changes.filterMap (·.assignmentId?)).Nodup
  unique_creations : (changes.filterMap (·.creation?)).Nodup

/-- The callbacks of the validator. -/
structure WorkloadChangeValidator where
  validateConfig : Role → Dict → Except Fault Unit
  /-- The recommended, desired or default version for a new assignment. -/
  imageVersion : Database → ClusterRow → String
  requireReady : (clusterId nodeId : Nat) → Except Fault Unit
  requireZone : (clusterId nodeId : Nat) → Except Fault Unit
  conflictMessage : Database → (clusterId nodeId : Nat) → Role → Option String
  validateFinalPorts : ClusterRow → List (Nat × Role) → Except Fault Unit

namespace WorkloadChangeValidator

open Program

/-- `active_change_set_records`: assignments without a host or a membership are
left out. -/
def activeRecords (database : Database) (clusterId : Nat) : List (AssignmentRow × NodeRow) :=
  (database.assignments.filter fun row => row.clusterId = clusterId && row.state = .active).filterMap
    fun row =>
      if database.memberships.any (· = (clusterId, row.nodeId)) then
        (database.nodes.find? (·.id = row.nodeId)).map fun node => (row, node)
      else none

/-- `member_record`. -/
def memberRecord (database : Database) (clusterId nodeId : Nat) : Option NodeRow :=
  if database.memberships.any (· = (clusterId, nodeId)) then
    database.nodes.find? (·.id = nodeId)
  else none

/-- `raise HTTPException` unless the condition holds. -/
def demand (condition : Bool) (status : Nat) (message : String) : Except Fault Unit :=
  if condition then .ok () else .error ⟨.http status, message⟩

section

variable (validator : WorkloadChangeValidator) (database : Database) (cluster : ClusterRow)
  (active : List (AssignmentRow × NodeRow))

/-- The checks on a host that is to run a role. -/
def requireHost (node : NodeRow) (role : Role) : Except Fault Unit := do
  demand node.enabled 422 "Enable the host before applying a role"
  validator.requireReady cluster.id node.id
  if role.elasticsearch then validator.requireZone cluster.id node.id else .ok ()

def validateCreate (clientId : String) (nodeId : Nat) (role : Role)
    (imageVersion : Option String) (config : Dict) : Except Fault PlannedChange := do
  validator.validateConfig role config
  let version := imageVersion.getD (validator.imageVersion database cluster)
  match memberRecord database cluster.id nodeId with
  | none => .error ⟨.http 422, "Add the host to this cluster first"⟩
  | some member => do
      requireHost validator cluster member role
      match validator.conflictMessage database cluster.id nodeId role with
      | some conflict => .error ⟨.http 409, conflict⟩
      | none => do
          demand (!active.any fun record => record.1.nodeId = nodeId && record.1.role = role)
            409 "This role is already managed on the selected host"
          pure
            { clientId := clientId
              nodeId := nodeId
              nodeName := member.name
              role := role
              detail := .create config version }

/-- The active record that a change of an existing workload refers to. -/
def existingRecord (changed : List Nat) (assignmentId expectedRevision : Nat) :
    Except Fault (AssignmentRow × NodeRow) := do
  match active.find? (·.1.id = assignmentId) with
  | none => .error ⟨.http 404, "Managed workload not found"⟩
  | some record => do
      demand record.1.operationRunId.isNone 409
        "This workload is already part of an active change set"
      demand (record.1.revision = expectedRevision) 409
        "This workload changed since it was staged; refresh and stage it again"
      demand (record.1.id ∉ changed) 422
        "A workload can only appear once in a pending change set"
      pure record

/-- One change, given the workloads that earlier changes are about. -/
def validateChange (changed : List Nat) : WorkloadChange → Except Fault PlannedChange
  | .create clientId nodeId role imageVersion config =>
      validateCreate validator database cluster active clientId nodeId role imageVersion config
  | .resources clientId assignmentId expectedRevision config => do
      let (row, node) ← existingRecord active changed assignmentId expectedRevision
      let previousConfig := openConfig row.config
      let nextConfig := previousConfig.merge config
      validator.validateConfig row.role nextConfig
      requireHost validator cluster node row.role
      pure
        { clientId := clientId
          nodeId := row.nodeId
          nodeName := node.name
          role := row.role
          detail := .resources assignmentId expectedRevision nextConfig previousConfig }
  | .detach clientId assignmentId expectedRevision => do
      let (row, node) ← existingRecord active changed assignmentId expectedRevision
      pure
        { clientId := clientId
          nodeId := row.nodeId
          nodeName := node.name
          role := row.role
          detail := .detach assignmentId expectedRevision }

/-- The changes in order. -/
def validateChanges : List Nat → List WorkloadChange → Except Fault (List PlannedChange)
  | _, [] => .ok []
  | changed, change :: changes => do
      let planned ← validateChange validator database cluster active changed change
      let others ← validateChanges (changed ++ change.assignmentId?.toList) changes
      pure (planned :: others)

end

/-- `item["kind"]`. -/
def PlannedChange.kind (change : PlannedChange) : String :=
  match change.detail with
  | .create _ _ => "create"
  | .resources _ _ _ _ => "resources"
  | .detach _ _ => "detach"

def PlannedChange.detached? (change : PlannedChange) : Option Nat :=
  match change.detail with
  | .detach assignmentId _ => some assignmentId
  | _ => none

def PlannedChange.creates (change : PlannedChange) : Bool :=
  match change.detail with
  | .create _ _ => true
  | _ => false

/-- The checks on the cluster as the change set leaves it. -/
def validateFinal (validator : WorkloadChangeValidator) (cluster : ClusterRow)
    (active : List (AssignmentRow × NodeRow)) (planned : List PlannedChange) :
    Except Fault Unit := do
  let detached := planned.filterMap PlannedChange.detached?
  let kept := (active.filter fun record => record.1.id ∉ detached).map
    fun record => (record.1.nodeId, record.1.role)
  let created := (planned.filter PlannedChange.creates).map
    fun change => (change.nodeId, change.role)
  let final := kept ++ created
  validator.validateFinalPorts cluster final
  let initialMaster := active.find? (·.1.role = .master)
  demand (!(initialMaster.any (fun record => record.1.id ∈ detached) && !final.isEmpty)) 409
    "Detach the dependent cluster roles before removing the initial master"
  let has (role : Role) : Bool := final.any (·.2 = role)
  demand (!(initialMaster.isNone && created.any (·.2 = .master) && !created.any (·.2 = .hot))) 422
    "The first master must be applied in a staged change set with a Hot data-content workload"
  demand (!(created.any (·.2 ≠ .master) && !has .master)) 422
    "Deploy a master before this workload"
  demand (!(has .fleetServer && !has .kibana)) 422 "Deploy Kibana before Fleet Server"
  demand (!(has .elasticAgent && !has .fleetServer)) 422
    "Deploy Fleet Server before Elastic Agent"

/-- `WorkloadChangeValidator.validate`. -/
def validate (validator : WorkloadChangeValidator) (clusterId : Nat)
    (changeSet : WorkloadChangeSet) : Operation (ClusterRow × List PlannedChange) := do
  let cluster ← ClusterOperation.clusterRecord clusterId
  let busy ← read fun database =>
    ClusterOperation.activeClusterOperation database cluster.name
  require (!busy) ⟨.http 409, "Wait for the active cluster operation to finish"⟩
  let active ← read fun database => activeRecords database clusterId
  let checked ← read fun database =>
    validateChanges validator database cluster active [] changeSet.changes
  let planned ← ofExcept checked
  ofExcept (validateFinal validator cluster active planned)
  pure (cluster, planned)

/-- The answer to a request whose staging failed. -/
def stagingFault (error : Fault) : Fault :=
  if error = ⟨.runtimeError, "workload_revision_conflict"⟩ then
    ⟨.http 409, "This workload changed since it was staged; refresh and stage it again"⟩
  else error

/-- The transaction of `launch_batch`. -/
def launchBatch (validator : WorkloadChangeValidator) (clusterId : Nat)
    (changeSet : WorkloadChangeSet) : Operation Nat := do
  let (cluster, planned) ← validate validator clusterId changeSet
  let runId ← Runs.startRun "workload-apply" (cluster.name ++ ":workload-apply")
    [("change_count", .num (planned.length : Int)),
      ("kinds", .arr (planned.map fun change => .str (PlannedChange.kind change)))]
  match ← attempt (WorkloadStore.stageBatchChanges clusterId runId planned) with
  | .error error => raise (stagingFault error)
  | .ok staged => do
      WorkloadStore.createBatch runId clusterId staged
      pure runId

end WorkloadChangeValidator

end ElKeeper
