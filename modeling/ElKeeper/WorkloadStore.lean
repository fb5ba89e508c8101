import ElKeeper.Runs

/-!
# The workload repository

Assignments and change batches.  Staging claims existing assignments for a run
and creates new ones in the state `applying`; a batch is then either finalized
or released.  The statements of the source that cannot fail are plain functions
on the database.
-/

namespace ElKeeper

namespace Database

/-- The batch row of a run. -/
def batch? (database : Database) (runId : Nat) : Option BatchRow :=
  database.batches.find? (·.runId = runId)

def mapAssignments (change : AssignmentRow → AssignmentRow) (database : Database) :
    Database :=
  { database with assignments := database.assignments.map change }

def dropAssignments (dropped : AssignmentRow → Bool) (database : Database) : Database :=
  { database with assignments := database.assignments.filter fun row => !dropped row }

def addAssignment (row : AssignmentRow) (database : Database) : Database :=
  { database with assignments := database.assignments ++ [row] }

def mapBatches (change : BatchRow → BatchRow) (database : Database) : Database :=
  { database with batches := database.batches.map change }

end Database

/-- `WHERE id=? AND operation_run_id=?`. -/
def AssignmentRow.claimedBy (row : AssignmentRow) (assignmentId runId : Nat) : Bool :=
  row.id = assignmentId && row.operationRunId = some runId

namespace StagedChange

/-- One statement of `finalize_batch_in_connection`. -/
def finalize (runId : Nat) (change : StagedChange) (database : Database) : Database :=
  match change.detail with
  | .create _ _ =>
      database.mapAssignments fun row =>
        if row.claimedBy change.assignmentId runId then
          { row with state := .active, operationRunId := none }
        else row
  | .resources _ _ config _ =>
      database.mapAssignments fun row =>
        if row.claimedBy change.assignmentId runId then
          { row with
            config := sealConfig config
            revision := row.revision + 1
            operationRunId := none }
        else row
  | .detach _ _ => database.dropAssignments (·.claimedBy change.assignmentId runId)

/-- One statement of `release_batch_in_connection`. -/
def release (runId : Nat) (change : StagedChange) (database : Database) : Database :=
  match change.detail with
  | .create _ _ => database.dropAssignments (·.claimedBy change.assignmentId runId)
  | _ =>
      database.mapAssignments fun row =>
        if row.claimedBy change.assignmentId runId then
          { row with operationRunId := none }
        else row

end StagedChange

namespace WorkloadStore

open Program

/-- `finalize_batch_in_connection`. -/
def finalizeBatch (runId : Nat) (changes : List StagedChange) (database : Database) :
    Database :=
  changes.foldl (fun reached change => change.finalize runId reached) database

/-- `delete_batch`. -/
def deleteBatch (runId : Nat) (database : Database) : Database :=
  { database with batches := database.batches.filter (·.runId ≠ runId) }

/-- `release_batch_in_connection`. -/
def releaseBatch (runId : Nat) (changes : List StagedChange) (database : Database) : Database :=
  deleteBatch runId (changes.foldl (fun reached change => change.release runId reached) database)

/-- `set_batch_phase`. -/
def setBatchPhase (runId : Nat) (phase : BatchPhase) (database : Database) : Database :=
  database.mapBatches fun row => if row.runId = runId then { row with phase := phase } else row

/-- `record_batch_progress`. -/
def recordBatchProgress (runId : Nat) (completed : List String) (database : Database) :
    Database :=
  database.mapBatches fun row =>
    if row.runId = runId then { row with completed := completed } else row

/-- `completed_batch_client_ids_in_connection`. -/
def completedBatchClientIds (database : Database) (runId : Nat) : List String :=
  match database.batch? runId with
  | some row => row.completed
  | none => []

/-- `recovery_batch_run_ids_in_connection`. -/
def recoveryBatchRunIds (database : Database) : List Nat :=
  database.batches.map (·.runId)

/-- The uniqueness and the foreign keys of a new assignment. -/
def insertable (clusterId nodeId : Nat) (role : Role) (database : Database) : Bool :=
  (database.cluster? clusterId).isSome && database.nodes.any (·.id = nodeId) &&
    !database.assignments.any fun row =>
      row.clusterId = clusterId && row.nodeId = nodeId && row.role = role

/-- The row that staging inserts for a creation. -/
def createdRow (clusterId runId identifier : Nat) (change : PlannedChange) (config : Dict)
    (imageVersion : String) : AssignmentRow where
  id := identifier
  clusterId := clusterId
  nodeId := change.nodeId
  role := change.role
  config := sealConfig config
  imageVersion := some imageVersion
  state := .applying
  revision := 1
  operationRunId := some runId

/-- The conditions under which an existing assignment is claimed. -/
def claimable (assignmentId expectedRevision : Nat) (row : AssignmentRow) : Bool :=
  row.id = assignmentId && row.state = .active && row.revision = expectedRevision &&
    row.operationRunId = none

/-- A row after the statement that claims an existing assignment. -/
def claimFor (runId assignmentId expectedRevision : Nat) (row : AssignmentRow) : AssignmentRow :=
  if claimable assignmentId expectedRevision row then
    { row with operationRunId := some runId }
  else row

/-- Claim an existing assignment, or fail when no row was changed. -/
def claimAssignment (runId assignmentId expectedRevision : Nat) : Operation Unit := do
  let found ← read fun database =>
    database.assignments.any (claimable assignmentId expectedRevision)
  require found ⟨.runtimeError, "workload_revision_conflict"⟩
  update (Database.mapAssignments (claimFor runId assignmentId expectedRevision))

/-- The statement of `stage_batch_changes_in_connection` for one change. -/
def stageChange (clusterId runId : Nat) (change : PlannedChange) : Operation StagedChange :=
  match change.detail with
  | .create config imageVersion => do
      let allowed ← read (insertable clusterId change.nodeId change.role)
      require allowed ⟨.integrityError, "UNIQUE or FOREIGN KEY constraint failed"⟩
      let identifier ← read fun database => Database.nextId (database.assignments.map (·.id))
      update (Database.addAssignment
        (createdRow clusterId runId identifier change config imageVersion))
      pure { change with assignmentId := identifier }
  | .resources assignmentId expectedRevision _ _ => do
      claimAssignment runId assignmentId expectedRevision
      pure { change with assignmentId := assignmentId }
  | .detach assignmentId expectedRevision => do
      claimAssignment runId assignmentId expectedRevision
      pure { change with assignmentId := assignmentId }

/-- `stage_batch_changes_in_connection`. -/
def stageBatchChanges (clusterId runId : Nat) :
    List PlannedChange → Operation (List StagedChange)
  | [] => pure []
  | change :: changes => do
      let staged ← stageChange clusterId runId change
      let others ← stageBatchChanges clusterId runId changes
      pure (staged :: others)

/-- `create_batch_in_connection`; `run_id` is the primary key. -/
def createBatch (runId clusterId : Nat) (changes : List StagedChange) : Operation Unit := do
  let present ← read fun database => (database.batch? runId).isSome
  require (!present) ⟨.integrityError, "UNIQUE constraint failed"⟩
  update fun database =>
    { database with
      batches := database.batches ++
        [{ runId := runId
           clusterId := clusterId
           changes := changes
           completed := []
           phase := .applying }] }

/-! ### Single assignments -/

/-- `UNIQUE(cluster_id, node_id, role)`. -/
def sitsAt (clusterId nodeId : Nat) (role : Role) (row : AssignmentRow) : Bool :=
  row.clusterId = clusterId && row.nodeId = nodeId && row.role = role

/-- The row that `upsert_assignment_in_connection` inserts. -/
def addedRow (clusterId nodeId identifier : Nat) (role : Role) (config : Dict) :
    AssignmentRow where
  id := identifier
  clusterId := clusterId
  nodeId := nodeId
  role := role
  config := sealConfig config
  imageVersion := none
  state := .active
  revision := 1
  operationRunId := none

/-- `upsert_assignment_in_connection`. -/
def upsertAssignment (clusterId nodeId : Nat) (role : Role) (config : Dict) :
    Operation Nat := do
  match ← read fun database => database.assignments.find? (sitsAt clusterId nodeId role) with
  | some existing => do
      update (Database.mapAssignments fun row =>
        if sitsAt clusterId nodeId role row then
          { row with config := sealConfig config, state := .active }
        else row)
      pure existing.id
  | none => do
      let allowed ← read (insertable clusterId nodeId role)
      require allowed ⟨.integrityError, "FOREIGN KEY constraint failed"⟩
      let identifier ← read fun database => Database.nextId (database.assignments.map (·.id))
      update (Database.addAssignment (addedRow clusterId nodeId identifier role config))
      pure identifier

/-- `set_image_version_in_connection`. -/
def setImageVersion (assignmentId : Nat) (version : String) (database : Database) : Database :=
  database.mapAssignments fun row =>
    if row.id = assignmentId then { row with imageVersion := some version } else row

/-- `delete_assignment_in_connection`. -/
def deleteAssignment (assignmentId : Nat) (database : Database) : Database :=
  database.dropAssignments (·.id = assignmentId)

/-- The rows that `claim_operations_in_connection` claims. -/
def idle (assignmentIds : List Nat) (row : AssignmentRow) : Bool :=
  decide (row.id ∈ assignmentIds) && row.operationRunId = none

/-- `claim_operations_in_connection`. -/
def claimOperations (assignmentIds : List Nat) (runId : Nat) : Operation Bool :=
  if assignmentIds = [] then pure true
  else do
    let claimed ← read fun database => (database.assignments.filter (idle assignmentIds)).length
    update (Database.mapAssignments fun row =>
      if idle assignmentIds row then { row with operationRunId := some runId } else row)
    pure (claimed = assignmentIds.length)

/-- `clear_operation_for_node_in_connection`. -/
def clearOperationForNode (nodeId runId : Nat) (database : Database) : Database :=
  database.mapAssignments fun row =>
    if row.nodeId = nodeId ∧ row.operationRunId = some runId then
      { row with operationRunId := none }
    else row

/-- `claim_assignment_operation_in_connection`. -/
def claimAssignmentOperation (assignmentId expectedRevision runId : Nat) : Operation Bool := do
  let claimed ← read fun database =>
    (database.assignments.filter (claimable assignmentId expectedRevision)).length
  update (Database.mapAssignments (claimFor runId assignmentId expectedRevision))
  pure (claimed = 1)

/-- `release_assignment_operation_in_connection`. -/
def releaseAssignmentOperation (assignmentId runId : Nat) : Operation Bool := do
  let released ← read fun database =>
    (database.assignments.filter (·.claimedBy assignmentId runId)).length
  update (Database.mapAssignments fun row =>
    if row.claimedBy assignmentId runId then { row with operationRunId := none } else row)
  pure (released = 1)

end WorkloadStore

end ElKeeper
