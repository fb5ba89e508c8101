import ElKeeper.MaintenanceStore

/-!
# Runs and the exclusion of cluster operations

The run table as the platform module writes it, the check that refuses a second
operation on a cluster, and the launch of a Filebeat reconciliation, which is
the one launch that other workflows perform on their own.
-/

namespace ElKeeper

namespace Json

/-- The names that `redact` masks. -/
def secretNames : List String :=
  ["password", "token", "secret", "private_key", "credential", "passphrase"]

/-- `key.lower() in secret_names`. -/
def secretName (key : String) : Bool :=
  secretNames.any fun name => key.toList.map lowerCharacter = name.toList

mutual

/-- `redact` of the platform security module. -/
def redact : Json → Json
  | .arr items => .arr (redactEach items)
  | .obj entries => .obj (redactDict entries)
  | value => value

def redactEach : List Json → List Json
  | [] => []
  | item :: items => redact item :: redactEach items

def redactDict : Dict → Dict
  | [] => []
  | (key, value) :: entries =>
      (key, if secretName key then .str "[REDACTED]" else redact value) :: redactDict entries

end

end Json

namespace Database

def addRun (row : RunRow) (database : Database) : Database :=
  { database with runs := database.runs ++ [row] }

def setRunStatus (runId : Nat) (status : RunStatus) (database : Database) : Database :=
  { database with
    runs := database.runs.map fun run =>
      if run.id = runId then { run with status := status } else run }

/-- `status_in_connection`. -/
def runStatus? (database : Database) (runId : Nat) : Option RunStatus :=
  (database.run? runId).map (·.status)

end Database

/-- The text of a run target is in the namespace of a target. -/
def targetsWithin (target : String) (run : RunRow) : Bool :=
  run.target = target || (target ++ ":").toList.isPrefixOf run.target.toList

namespace Runs

open Program

/-- `create_run_in_connection`: a queued run with a redacted context. -/
def createRun (kind target : String) (context : Dict) : Operation Nat := do
  let identifier ← read fun database => Database.nextId (database.runs.map (·.id))
  update (Database.addRun
    { id := identifier
      kind := kind
      target := target
      status := .queued
      context := Json.redactDict context })
  pure identifier

/-- `start_run_in_connection`. -/
def startRun (kind target : String) (context : Dict) : Operation Nat := do
  let identifier ← createRun kind target context
  update (Database.setRunStatus identifier .running)
  pure identifier

/-- `finish_run_in_connection`. -/
def finishRun (runId : Nat) (status : RunStatus) : Operation Unit :=
  update (Database.setRunStatus runId status)

/-- `mark_recovery_required_in_connection` leaves closed runs alone. -/
def markRecoveryRequired (runIds : List Nat) : Operation Unit :=
  update fun database =>
    { database with
      runs := database.runs.map fun run =>
        if run.id ∈ runIds ∧ (run.status = .queued ∨ run.status = .running) then
          { run with status := .recoveryRequired }
        else run }

/-- `has_active_target_in_connection`. -/
def hasActiveTarget (database : Database) (target : String) : Bool :=
  database.runs.any fun run => run.status.active && targetsWithin target run

/-- `any_active_ids_in_connection`. -/
def anyActiveIds (database : Database) (runIds : List Nat) : Bool :=
  database.runs.any fun run => run.status.active && decide (run.id ∈ runIds)

/-- `recovery_required_ids_in_connection`. -/
def recoveryRequiredIds (database : Database) (runIds : List Nat) : List Nat :=
  (database.runs.filter fun run => run.status = .recoveryRequired && decide (run.id ∈ runIds)).map
    (·.id)

end Runs

/-! ### Cluster operations -/

namespace ClusterOperation

open Program

/-- `operation_run_ids_for_cluster_in_connection`. -/
def operationRunIds (database : Database) (clusterId : Nat) : List Nat :=
  (database.assignments.filter (·.clusterId = clusterId)).filterMap (·.operationRunId)

/-- `active_cluster_operation`. -/
def activeClusterOperation (database : Database) (name : String) : Bool :=
  Runs.hasActiveTarget database name ||
    match database.clusters.find? (·.name = name) with
    | none => false
    | some cluster => Runs.anyActiveIds database (operationRunIds database cluster.id)

/-- `cluster_record`. -/
def clusterRecord (clusterId : Nat) : Operation ClusterRow := do
  match ← read fun database => database.cluster? clusterId with
  | some cluster => pure cluster
  | none => raise ⟨.http 404, "Cluster not found"⟩

/-- `FilebeatReconcileWorker._launch`, up to the start of its own task. -/
def launchFilebeat (clusterId : Nat) (assignmentIds : Option (List Nat)) : Operation Nat := do
  let cluster ← clusterRecord clusterId
  let active ← read fun database => activeClusterOperation database cluster.name
  require (!active) ⟨.http 409, "Wait for the active cluster operation to finish"⟩
  Runs.startRun "filebeat-reconcile" (cluster.name ++ ":filebeat-reconcile")
    [("filebeat_enabled", .bool cluster.filebeatEnabled),
      ("assignment_ids",
        .arr ((assignmentIds.getD []).map fun identifier => .num (identifier : Int)))]

theorem clusterRecord_returned {clusterId : Nat} {database after : Database}
    {cluster : ClusterRow}
    (ran : (clusterRecord clusterId).run database = (.returned cluster, after)) :
    database.cluster? clusterId = some cluster ∧ after = database := by
  obtain ⟨found, _, wasRead, matched⟩ := bind_eq_returned ran
  cases wasRead
  split at matched
  · rename_i other isFound
    cases matched
    exact ⟨isFound, rfl⟩
  · cases matched

end ClusterOperation

end ElKeeper
