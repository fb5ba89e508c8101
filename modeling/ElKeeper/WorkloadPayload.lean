import ElKeeper.WorkloadStore

/-!
# Reconcile payloads

`WorkloadPayloadService.build` and the overrides that a batch puts on top of the
stored configurations.  Readiness, zones and the conversion of memory sizes are
the callbacks that the source injects.
-/

namespace ElKeeper

inductive DesiredState where
  | present
  | purge
deriving DecidableEq, Repr

/-- The callbacks of the payload service.  `memoryMebibytes` is given the value
whose text the source converts. -/
structure PayloadPolicy where
  requireReady : (clusterId nodeId : Nat) → Except Fault Unit
  requireZone : (clusterId nodeId : Nat) → Except Fault Unit
  memoryMebibytes : Json → Except Fault Nat
  defaultVersion : String

/-- The part of a payload that identifies what is reconciled, and how. -/
structure Payload where
  clusterId : Nat
  assignmentId : Nat
  nodeId : Nat
  role : Role
  config : Dict
  imageVersion : String
  /-- The bootstrap master and its storage path. -/
  bootstrap : Option (Nat × Json)
  masters : List Nat
  services : List (Role × Nat)
  desiredState : DesiredState
deriving DecidableEq

/-- `not str(value).strip()`: only a text can be blank. -/
def blankValue : Json → Bool
  | .str text => blank text
  | _ => false

namespace WorkloadPayload

/-- `str(config.get(key, "")).strip()` is empty. -/
def unset (config : Dict) (key : String) : Bool :=
  match config.get key with
  | none => true
  | some value => blankValue value

def requireKey (config : Dict) (key : String) : Except Fault Json :=
  match config.get key with
  | some value => .ok value
  | none => .error ⟨.keyError, key⟩

/-- The configuration that is sent: heap sizes are derived where they are unset. -/
def effectiveConfig (policy : PayloadPolicy) (role : Role) (config : Dict) :
    Except Fault Dict :=
  if role.elasticsearch && unset config "jvm_heap" then do
    let memory ← requireKey config "memory"
    let mebibytes ← policy.memoryMebibytes memory
    pure (config.set "jvm_heap" (.str (toString (max 1024 (mebibytes / 2)) ++ "m")))
  else if role = .kibana && !unset config "node_heap" then do
    let heap ← requireKey config "node_heap"
    let mebibytes ← policy.memoryMebibytes heap
    pure (config.set "node_heap_mib" (.num (mebibytes : Int)))
  else
    pure config

/-- `payload_assignments_in_connection`. -/
def payloadAssignments (database : Database) (clusterId : Nat) (included : List Nat) :
    List AssignmentRow :=
  database.assignments.filter fun row =>
    row.clusterId = clusterId && (row.state = .active || decide (row.id ∈ included))

/-- `assignment_record`. -/
def assignmentRecord (database : Database) (assignmentId : Nat) :
    Except Fault AssignmentRow :=
  match database.assignment? assignmentId with
  | none => .error ⟨.http 404, "Assignment not found"⟩
  | some row =>
      if (database.cluster? row.clusterId).isSome && database.nodes.any (·.id = row.nodeId) &&
          database.memberships.any (· = (row.clusterId, row.nodeId)) then
        .ok row
      else
        .error ⟨.http 409,
          "Assignment inventory is incomplete and must be repaired before reconciliation"⟩

/-- Checks that are made unless the workload is purged. -/
def unlessPurged (desiredState : DesiredState) (check : Except Fault Unit) :
    Except Fault Unit :=
  match desiredState with
  | .present => check
  | .purge => .ok ()

/-- A workload needs another role in its cluster. -/
def requireRole (condition : Bool) (message : String) : Except Fault Unit :=
  if condition then .ok () else .error ⟨.http 422, message⟩

/-- The first assignment of a service role, which must be ready. -/
def serviceOf (policy : PayloadPolicy) (desiredState : DesiredState)
    (assignments : List AssignmentRow) (role : Role) : Except Fault (List (Role × Nat)) :=
  match assignments.find? (·.role = role) with
  | none => .ok []
  | some service => do
      unlessPurged desiredState (policy.requireReady service.clusterId service.nodeId)
      pure [(role, service.id)]

/-- The bootstrap master with the storage path of its overridden configuration. -/
def bootstrapOf (policy : PayloadPolicy) (desiredState : DesiredState)
    (overrides : Nat → Option Dict) (masters : List AssignmentRow) :
    Except Fault (Option (Nat × Json)) :=
  match masters with
  | [] => .ok none
  | master :: _ => do
      unlessPurged desiredState (policy.requireReady master.clusterId master.nodeId)
      let storagePath ← requireKey ((overrides master.id).getD (openConfig master.config))
        "storage_path"
      pure (some (master.id, storagePath))

/-- `WorkloadPayloadService.build`. -/
def build (policy : PayloadPolicy) (database : Database) (row : AssignmentRow)
    (desiredState : DesiredState) (included : List Nat) (overrides : Nat → Option Dict) :
    Except Fault Payload := do
  unlessPurged desiredState (policy.requireReady row.clusterId row.nodeId)
  unlessPurged desiredState
    (if row.role.elasticsearch then policy.requireZone row.clusterId row.nodeId else .ok ())
  let config ← effectiveConfig policy row.role ((overrides row.id).getD (openConfig row.config))
  let assignments := payloadAssignments database row.clusterId included
  let masters := assignments.filter (·.role = .master)
  unlessPurged desiredState (requireRole (row.role = .master || masters ≠ [])
    "Deploy a master before this workload")
  let bootstrap ← bootstrapOf policy desiredState overrides masters
  let kibana ← serviceOf policy desiredState assignments .kibana
  let fleetServer ← serviceOf policy desiredState assignments .fleetServer
  unlessPurged desiredState (requireRole (row.role ≠ .fleetServer || kibana ≠ [])
    "Deploy Kibana before Fleet Server")
  unlessPurged desiredState (requireRole (row.role ≠ .elasticAgent || fleetServer ≠ [])
    "Deploy Fleet Server before Elastic Agent")
  pure
    { clusterId := row.clusterId
      assignmentId := row.id
      nodeId := row.nodeId
      role := row.role
      config := config
      imageVersion := (row.imageVersion.filter (· ≠ "")).getD policy.defaultVersion
      bootstrap := bootstrap
      masters := masters.map (·.id)
      services := kibana ++ fleetServer
      desiredState := desiredState }

/-- Set the override of one assignment. -/
def override (overrides : Nat → Option Dict) (assignmentId : Nat) (config : Dict) :
    Nat → Option Dict :=
  fun other => if other = assignmentId then some config else overrides other

/-- The new configurations of all resource changes of a batch. -/
def batchOverrides (changes : List StagedChange) : Nat → Option Dict :=
  changes.foldl
    (fun overrides change =>
      match change.detail with
      | .resources _ _ config _ => override overrides change.assignmentId config
      | _ => overrides)
    fun _ => none

/-- The overrides with which `workload_payload` reconciles one change: a
non-empty previous configuration is set last. -/
def itemOverrides (changes : List StagedChange) (item : StagedChange)
    (desiredState : DesiredState) : Nat → Option Dict :=
  match item.detail, desiredState with
  | .resources _ _ config previousConfig, .present =>
      let renewed := override (batchOverrides changes) item.assignmentId config
      if previousConfig = [] then renewed
      else override renewed item.assignmentId previousConfig
  | _, _ => batchOverrides changes

/-- The assignments that the creations of a batch are about. -/
def createdIds (changes : List StagedChange) : List Nat :=
  changes.filterMap fun change =>
    match change.detail with
    | .create _ _ => some change.assignmentId
    | _ => none

/-- `workload_payload`. -/
def workloadPayload (policy : PayloadPolicy) (changes : List StagedChange)
    (item : StagedChange) (desiredState : DesiredState) (database : Database) :
    Except Fault Payload := do
  let row ← assignmentRecord database item.assignmentId
  build policy database row desiredState (createdIds changes)
    (itemOverrides changes item desiredState)

/-- The payload with which `rollback` takes back one change. -/
def rollbackPayload (policy : PayloadPolicy) (changes : List StagedChange)
    (item : StagedChange) (database : Database) : Except Fault Payload :=
  match item.detail with
  | .create _ _ => workloadPayload policy changes item .purge database
  | .resources _ _ _ _ => workloadPayload policy changes item .present database
  | .detach _ _ => .error ⟨.keyError, "previous_config"⟩

end WorkloadPayload

end ElKeeper
