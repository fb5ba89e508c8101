import ElKeeper.BatchLife
import ElKeeper.Results

/-!
# Launching a batch

What an accepted request leaves behind: the validated changes, each with its
assignment, staged under a new run.
-/

namespace ElKeeper

open Program WorkloadStore WorkloadPayload

namespace WorkloadChangeValidator

section

variable {validator : WorkloadChangeValidator} {database : Database} {cluster : ClusterRow}
  {active : List (AssignmentRow × NodeRow)}

/-! ### Validated changes -/

/-- Validation reads; what it returns passed the checks. -/
theorem validate_checked {clusterId : Nat} {changeSet : WorkloadChangeSet}
    {planned : List PlannedChange} {after : Database}
    (validated : (validate validator clusterId changeSet).run database =
      (.returned (cluster, planned), after)) :
    after = database ∧ database.cluster? clusterId = some cluster ∧
      ClusterOperation.activeClusterOperation database cluster.name = false ∧
      validateChanges validator database cluster (activeRecords database clusterId) []
        changeSet.changes = .ok planned := by
  obtain ⟨_, _, foundRan, afterFound⟩ := bind_eq_returned validated
  obtain ⟨found, rfl⟩ := ClusterOperation.clusterRecord_returned foundRan
  obtain ⟨busy, _, wasRead, afterBusy⟩ := bind_eq_returned afterFound
  cases wasRead
  obtain ⟨_, _, required, afterCheck⟩ := bind_eq_returned afterBusy
  obtain ⟨isIdle, rfl⟩ := require_eq_returned required
  obtain ⟨records, _, wasRead, afterRecords⟩ := bind_eq_returned afterCheck
  cases wasRead
  obtain ⟨checked, _, wasRead, afterChanges⟩ := bind_eq_returned afterRecords
  cases wasRead
  obtain ⟨_, _, checkedRan, afterPlan⟩ := bind_eq_returned afterChanges
  obtain ⟨isPlan, rfl⟩ := ofExcept_eq_returned checkedRan
  obtain ⟨_, _, finalRan, ended⟩ := bind_eq_returned afterPlan
  obtain ⟨_, rfl⟩ := ofExcept_eq_returned finalRan
  cases ended
  exact ⟨rfl, found, by simpa using isIdle, isPlan⟩

end

end WorkloadChangeValidator

/-! ### Staged rows -/

/-- A started run is new and running, and nothing else changed. -/
theorem startRun_returned {kind target : String} {context : Dict} {runId : Nat}
    {database after : Database}
    (ran : (Runs.startRun kind target context).run database = (.returned runId, after)) :
    (∀ run ∈ database.runs, run.id ≠ runId) ∧ after.RunIs runId .running ∧
      after = { database with runs := after.runs } := by
  cases ran
  have fresh : ∀ run ∈ database.runs,
      run.id ≠ Database.nextId (database.runs.map (·.id)) := by
    intro run member
    have listed : run.id ∈ database.runs.map (·.id) := List.mem_map_of_mem member
    exact Nat.ne_of_lt (lt_nextId listed)
  have queued : (database.addRun
      { id := Database.nextId (database.runs.map (·.id))
        kind := kind
        target := target
        status := .queued
        context := Json.redactDict context }).RunIs
      (Database.nextId (database.runs.map (·.id))) .queued := by
    refine ⟨⟨_, List.mem_append_right _ List.mem_cons_self, rfl⟩, fun run member isRun => ?_⟩
    rcases List.mem_append.mp member with old | new
    · exact absurd isRun (fresh run old)
    · rw [List.mem_singleton.mp new]
  exact ⟨fresh, queued.finish .running, rfl⟩

/-- A created batch is the one that is found for its run. -/
theorem createBatch_returned {runId clusterId : Nat} {changes : List StagedChange}
    {database after : Database}
    (ran : (createBatch runId clusterId changes).run database = (.returned (), after)) :
    after = { database with
      batches := database.batches ++ [⟨runId, clusterId, changes, [], .applying⟩] } ∧
      after.batch? runId = some ⟨runId, clusterId, changes, [], .applying⟩ := by
  obtain ⟨present, _, wasRead, checking⟩ := bind_eq_returned ran
  cases wasRead
  obtain ⟨_, _, required, updating⟩ := bind_eq_returned checking
  obtain ⟨isAbsent, rfl⟩ := require_eq_returned required
  cases updating
  refine ⟨rfl, ?_⟩
  simp only [Bool.not_eq_true', Option.isSome_eq_false_iff, Option.isNone_iff_eq_none] at isAbsent
  simp only [Database.batch?] at isAbsent ⊢
  rw [List.find?_append, isAbsent]
  simp

/-- The stored batch of a run. -/
def batchChanges (database : Database) (runId : Nat) : List StagedChange :=
  match database.batch? runId with
  | some row => row.changes
  | none => []

namespace BatchSample

def config : Dict :=
  [("storage_path", .str "/data"), ("memory", .str "4g"), ("jvm_heap", .str "2g")]

def database : Database :=
  { Database.empty with
    nodes := [⟨1, "node-1", true⟩]
    clusters := [⟨1, "logs", "logs", true⟩]
    memberships := [(1, 1)]
    assignments := [⟨1, 1, 1, .master, sealConfig config, some "8.15.0", .active, 1, none⟩] }

theorem database_sound : database.Sound where
  assignment_ids := by decide
  places := ⟨by decide, by decide⟩
  claim_runs := by simp [database]
  batch_runs := by simp [database, Database.empty]
  plan_runs := by simp [database, Database.empty]

/-- The master gets a larger heap. -/
def changeSet : WorkloadChangeSet where
  changes := [.resources "grow" 1 1 [("jvm_heap", .str "3g")]]
  nonempty := by decide
  bounded := by decide
  unique_clientIds := by decide
  unique_assignmentIds := by decide
  unique_creations := by decide

def validator : WorkloadChangeValidator where
  validateConfig _ _ := .ok ()
  imageVersion _ _ := "8.15.0"
  requireReady _ _ := .ok ()
  requireZone _ _ := .ok ()
  conflictMessage _ _ _ _ := none
  validateFinalPorts _ _ := .ok ()

def policy : PayloadPolicy where
  requireReady _ _ := .ok ()
  requireZone _ _ := .ok ()
  memoryMebibytes _ := .ok 4096
  defaultVersion := "8.15.0"

/-- Every reconciliation succeeds. -/
def worker : WorkloadChangeWorker where
  policy _ := policy
  reconcile _ _ := .ok true

def staged : Database :=
  ((validator.launchBatch 1 changeSet).run database).2

theorem launched : (validator.launchBatch 1 changeSet).run database = (.returned 1, staged) :=
  Prod.ext (by decide +kernel) rfl

end BatchSample

end ElKeeper
