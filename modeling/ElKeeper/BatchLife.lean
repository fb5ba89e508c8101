import ElKeeper.Results
import ElKeeper.StartupFrame
import ElKeeper.WorkloadValidation

/-!
# The life of a workload batch

A batch is staged in one transaction, worked on by the process that staged it,
and, when that process stopped, taken up by every later start of the controller
until it is settled.  In every durable state on the way the batch is pending,
finalized or rolled back, and the trace of reconciliations fits that state.
-/

namespace ElKeeper

open Program WorkloadStore

/-! ### Payloads depend on the inventory alone -/

/-- The tables that a payload is built from. -/
structure SameInventory (first second : Database) : Prop where
  assignments : second.assignments = first.assignments
  clusters : second.clusters = first.clusters
  nodes : second.nodes = first.nodes
  memberships : second.memberships = first.memberships

namespace WorkloadPayload

theorem workloadPayload_congr {first second : Database} (same : SameInventory first second)
    (policy : PayloadPolicy) (changes : List StagedChange) (item : StagedChange)
    (desiredState : DesiredState) :
    workloadPayload policy changes item desiredState second =
      workloadPayload policy changes item desiredState first := by
  rcases first with ⟨⟩
  rcases second with ⟨⟩
  obtain ⟨rfl, rfl, rfl, rfl⟩ := same
  rfl

theorem rollbackPayload_congr {first second : Database} (same : SameInventory first second)
    (policy : PayloadPolicy) (changes : List StagedChange) (item : StagedChange) :
    rollbackPayload policy changes item second = rollbackPayload policy changes item first := by
  simp only [rollbackPayload, workloadPayload_congr same]

/-- What a payload says about the row that it was built for. -/
theorem build_ok {policy : PayloadPolicy} {database : Database} {row : AssignmentRow}
    {desiredState : DesiredState} {included : List Nat} {overrides : Nat → Option Dict}
    {payload : Payload}
    (built : build policy database row desiredState included overrides = .ok payload) :
    payload.assignmentId = row.id ∧ payload.desiredState = desiredState ∧
      payload.role = row.role ∧
      effectiveConfig policy row.role ((overrides row.id).getD (openConfig row.config)) =
        .ok payload.config := by
  simp only [build] at built
  obtain ⟨_, _, built⟩ := Results.bind_ok built
  obtain ⟨_, _, built⟩ := Results.bind_ok built
  obtain ⟨config, isConfig, built⟩ := Results.bind_ok built
  obtain ⟨_, _, built⟩ := Results.bind_ok built
  obtain ⟨_, _, built⟩ := Results.bind_ok built
  obtain ⟨_, _, built⟩ := Results.bind_ok built
  obtain ⟨_, _, built⟩ := Results.bind_ok built
  obtain ⟨_, _, built⟩ := Results.bind_ok built
  obtain ⟨_, _, built⟩ := Results.bind_ok built
  cases built
  exact ⟨rfl, rfl, rfl, isConfig⟩

/-- The row that an assignment record names. -/
theorem assignmentRecord_ok {database : Database} {assignmentId : Nat} {row : AssignmentRow}
    (found : assignmentRecord database assignmentId = .ok row) :
    row.id = assignmentId ∧ database.assignment? assignmentId = some row := by
  simp only [assignmentRecord] at found
  cases isRow : database.assignment? assignmentId with
  | none =>
      rw [isRow] at found
      cases found
  | some other =>
      rw [isRow] at found
      dsimp only at found
      split at found
      · cases found
        exact ⟨by simpa using List.find?_some isRow, rfl⟩
      · cases found

theorem workloadPayload_ok {policy : PayloadPolicy} {changes : List StagedChange}
    {item : StagedChange} {desiredState : DesiredState} {database : Database}
    {payload : Payload}
    (built : workloadPayload policy changes item desiredState database = .ok payload) :
    payload.assignmentId = item.assignmentId ∧ payload.desiredState = desiredState := by
  obtain ⟨row, isRow, built⟩ := Results.bind_ok built
  obtain ⟨sameId, sameState, _, _⟩ := build_ok built
  exact ⟨sameId.trans (assignmentRecord_ok isRow).1, sameState⟩

/-- How a change is taken back. -/
def takenBackBy (change : StagedChange) : DesiredState :=
  if change.isCreate then .purge else .present

theorem rollbackPayload_ok {policy : PayloadPolicy} {changes : List StagedChange}
    {item : StagedChange} {database : Database} {payload : Payload}
    (built : rollbackPayload policy changes item database = .ok payload) :
    payload.assignmentId = item.assignmentId ∧ payload.desiredState = takenBackBy item := by
  cases detail : item.detail with
  | create config version =>
      simp only [rollbackPayload, detail] at built
      simpa [takenBackBy, StagedChange.isCreate, detail] using workloadPayload_ok built
  | resources assignmentId revision config previous =>
      simp only [rollbackPayload, detail] at built
      simpa [takenBackBy, StagedChange.isCreate, detail] using workloadPayload_ok built
  | detach assignmentId revision =>
      simp only [rollbackPayload, detail] at built
      cases built

end WorkloadPayload

/-! ### Staging a batch -/

/-- Primary and foreign keys of the tables that a batch is staged in. -/
structure Database.Sound (database : Database) : Prop where
  assignment_ids : (database.assignments.map (·.id)).Nodup
  places : StartupRecovery.Placed database
  claim_runs : ∀ row ∈ database.assignments, ∀ runId, row.operationRunId = some runId →
    ∃ run ∈ database.runs, run.id = runId
  batch_runs : ∀ row ∈ database.batches, ∃ run ∈ database.runs, run.id = row.runId
  plan_runs : ∀ plan ∈ database.plans, ∀ runId, plan.runId = some runId →
    ∃ run ∈ database.runs, run.id = runId

/-- A batch as its launch leaves it. -/
structure StagedBatch (pre : Database) (clusterId runId : Nat) (changes : List StagedChange)
    (staged : Database) : Prop where
  sound : pre.Sound
  fresh : ∀ run ∈ pre.runs, run.id ≠ runId
  staging : Staging clusterId runId pre.assignments changes staged.assignments
  placed : StartupRecovery.Placed staged
  batches : staged.batches = pre.batches ++ [⟨runId, clusterId, changes, [], .applying⟩]
  run : staged.RunIs runId .running
  plans : staged.plans = pre.plans
  clientIds : (changes.map (·.clientId)).Nodup

namespace StagedBatch

variable {pre staged : Database} {clusterId runId : Nat} {changes : List StagedChange}

theorem free (batch : StagedBatch pre clusterId runId changes staged) :
    ∀ row ∈ pre.assignments, row.operationRunId ≠ some runId := by
  intro row member claimed
  obtain ⟨run, runMember, isRun⟩ := batch.sound.claim_runs row member runId claimed
  exact batch.fresh run runMember isRun

theorem others (batch : StagedBatch pre clusterId runId changes staged) :
    ∀ row ∈ pre.batches, row.runId ≠ runId := by
  intro row member isRun
  obtain ⟨run, runMember, same⟩ := batch.sound.batch_runs row member
  exact batch.fresh run runMember (same.trans isRun)

theorem unowned (batch : StagedBatch pre clusterId runId changes staged) :
    pre.Unowned runId := by
  intro plan member owned
  obtain ⟨run, runMember, same⟩ := batch.sound.plan_runs plan member runId owned
  exact batch.fresh run runMember same

end StagedBatch

/-! ### Processes -/

/-- One start of the controller, as far as one batch is concerned: the bootstrap,
and the recovery of the batch when it is due. -/
def startController (worker : WorkloadChangeWorker) (projections : StartupRecovery.Projections)
    (runId : Nat) : Task Unit := do
  transaction (StartupRecovery.completeControllerBootstrap projections)
  let due ← transaction do
    let candidates ← read recoveryBatchRunIds
    read fun database => decide (runId ∈ Runs.recoveryRequiredIds database candidates)
  if due then WorkloadChangeWorker.recover worker runId else pure ()

structure Startup where
  worker : WorkloadChangeWorker
  projections : StartupRecovery.Projections
  budget : Option Nat

namespace Startup

def perform (startup : Startup) (runId : Nat) (world : WorkloadWorld) :
    Outcome Fault Unit × WorkloadWorld :=
  (startController startup.worker startup.projections runId).run (world.restart startup.budget)

end Startup

/-- A stored batch apart from its phase, which every startup may set. -/
def BatchRow.content (row : BatchRow) : Nat × Nat × List StagedChange × List String :=
  (row.runId, row.clusterId, row.changes, row.completed)

namespace Reconcile

/-- The reconciliation takes a change back. -/
def takesBack (change : StagedChange) (reconcile : Reconcile) : Bool :=
  !reconcile.applies && reconcile.payload.assignmentId = change.assignmentId &&
    reconcile.payload.desiredState = WorkloadPayload.takenBackBy change

end Reconcile

/-- Every applying reconciliation is about one of the changes. -/
def Began (begun : List StagedChange) (trace : List (Entry Database Reconcile)) : Prop :=
  ∀ entry ∈ trace, entry.event.applies →
    ∃ change ∈ begun, change.assignmentId = entry.event.payload.assignmentId

/-- Every applying reconciliation is followed by one that takes its change back. -/
def TakenBack (changes : List StagedChange) (trace : List (Entry Database Reconcile)) : Prop :=
  ∀ later entry earlier, trace = later ++ entry :: earlier → entry.event.applies →
    ∃ change ∈ changes, change.assignmentId = entry.event.payload.assignmentId ∧
      ∃ answer ∈ later, answer.event.takesBack change

/-- Every reconciliation was dispatched by one of the workers for an executable change
of the batch, with the payload built from the staged inventory. -/
def Dispatched (workers : WorkloadChangeWorker → Prop) (staged : Database)
    (changes : List StagedChange) (trace : List (Entry Database Reconcile)) : Prop :=
  ∀ later entry earlier, trace = later ++ entry :: earlier →
    ∃ worker, workers worker ∧ ∃ item ∈ changes, item.executable ∧
      (if entry.event.applies then
        WorkloadPayload.workloadPayload (worker.policy earlier) changes item .present staged
      else
        WorkloadPayload.rollbackPayload (worker.policy earlier) changes item staged) =
        .ok entry.event.payload

section States

variable (pre staged : Database) (clusterId runId : Nat) (changes : List StagedChange)

/-- What no step of a batch changes. -/
structure Kept (database : Database) : Prop where
  clusters : database.clusters = staged.clusters
  nodes : database.nodes = staged.nodes
  memberships : database.memberships = staged.memberships
  owners : database.plans.map (·.runId) = staged.plans.map (·.runId)
  others : (database.batches.filter (·.runId ≠ runId)).map (·.content) =
    pre.batches.map (·.content)

/-- The batch is staged; the changes that were begun are recorded. -/
structure Pending (begun : List StagedChange) (status : RunStatus) (database : Database)
    (trace : List (Entry Database Reconcile)) : Prop where
  kept : Kept pre staged runId database
  assignments : database.assignments = staged.assignments
  batch : ∃ phase, database.batch? runId =
    some ⟨runId, clusterId, changes, begun.map (·.clientId), phase⟩
  executable : ∀ change ∈ begun, change ∈ changes ∧ change.executable
  began : Began begun trace
  run : database.RunIs runId status

/-- All changes of the batch were applied and stored. -/
structure Finalized (status : RunStatus) (database : Database) : Prop where
  kept : Kept pre staged runId database
  assignments : database.assignments =
    staged.assignments.filterMap (settleRow StagedChange.finalizedRow runId changes)
  batch : database.batch? runId = none
  run : database.RunIs runId status

/-- The assignments are as before the batch was staged. -/
structure RolledBack (status : RunStatus) (database : Database)
    (trace : List (Entry Database Reconcile)) : Prop where
  kept : Kept pre staged runId database
  assignments : database.assignments = pre.assignments
  batch : database.batch? runId = none
  takenBack : TakenBack changes trace
  run : database.RunIs runId status

/-- The batch is not settled yet. -/
def Open (database : Database) (trace : List (Entry Database Reconcile)) : Prop :=
  ∃ begun status, (status = .running ∨ status = .recoveryRequired) ∧
    Pending pre staged clusterId runId changes begun status database trace

/-- The batch is settled, with one of the allowed statuses when it was finalized. -/
def Settled (allowed : RunStatus → Prop) (database : Database)
    (trace : List (Entry Database Reconcile)) : Prop :=
  (∃ status, allowed status ∧ Finalized pre staged runId changes status database) ∨
    ∃ status, (status = .running ∨ status = .failed) ∧
      RolledBack pre staged runId changes status database trace

def BatchState (allowed : RunStatus → Prop) (database : Database)
    (trace : List (Entry Database Reconcile)) : Prop :=
  Open pre staged clusterId runId changes database trace ∨
    Settled pre staged runId changes allowed database trace

/-- What holds in every durable state: the batch is in one of its states, and its
reconciliations were dispatched as the workers build them. -/
structure BatchInvariant (workers : WorkloadChangeWorker → Prop) (allowed : RunStatus → Prop)
    (database : Database) (trace : List (Entry Database Reconcile)) : Prop where
  dispatched : Dispatched workers staged changes trace
  state : BatchState pre staged clusterId runId changes allowed database trace

end States

/-! ### Single steps -/

theorem batch?_mapBatches {change : BatchRow → BatchRow}
    (sameRun : ∀ row, (change row).runId = row.runId) (database : Database) (runId : Nat) :
    (database.mapBatches change).batch? runId = (database.batch? runId).map change := by
  have sameTest : (fun row : BatchRow => decide (row.runId = runId)) ∘ change =
      fun row => decide (row.runId = runId) := by
    funext row
    simp [sameRun]
  simp only [Database.batch?, Database.mapBatches, List.find?_map, sameTest]

theorem batch?_deleteBatch (database : Database) (runId : Nat) :
    (deleteBatch runId database).batch? runId = none := by
  refine List.find?_eq_none.mpr fun row member => ?_
  have other := (List.mem_filter.mp member).2
  simpa using other

theorem others_mapBatches {change : BatchRow → BatchRow} {runId : Nat}
    (sameRun : ∀ row, (change row).runId = row.runId)
    (unchanged : ∀ row, row.runId ≠ runId → (change row).content = row.content)
    (database : Database) :
    ((database.mapBatches change).batches.filter (·.runId ≠ runId)).map (·.content) =
      (database.batches.filter (·.runId ≠ runId)).map (·.content) := by
  have sameTest : (fun row : BatchRow => decide (row.runId ≠ runId)) ∘ change =
      fun row => decide (row.runId ≠ runId) := by
    funext row
    simp [sameRun]
  simp only [Database.mapBatches, List.filter_map, sameTest, List.map_map]
  refine List.map_congr_left fun row member => ?_
  exact unchanged row (by simpa using (List.mem_filter.mp member).2)

theorem Database.RunIs.finish {runId : Nat} {status : RunStatus} {database : Database}
    (known : database.RunIs runId status) (next : RunStatus) :
    (database.setRunStatus runId next).RunIs runId next := by
  constructor
  · obtain ⟨run, member, isRun⟩ := known.present
    refine ⟨_, List.mem_map_of_mem member, ?_⟩
    split <;> exact isRun
  · intro changed member isRun
    obtain ⟨run, _, rfl⟩ := List.mem_map.mp member
    split
    · rfl
    · rename_i other
      rw [if_neg other] at isRun
      exact absurd isRun other

theorem Database.RunIs.runStatus? {runId : Nat} {status : RunStatus} {database : Database}
    (known : database.RunIs runId status) : database.runStatus? runId = some status := by
  obtain ⟨run, member, isRun, found⟩ := known.found
  rw [Database.runStatus?, found, Option.map_some, known.all run member isRun]

/-- A run has one status. -/
theorem Database.RunIs.unique {runId : Nat} {first second : RunStatus} {database : Database}
    (one : database.RunIs runId first) (two : database.RunIs runId second) : first = second := by
  obtain ⟨run, member, isRun⟩ := one.present
  exact (one.all run member isRun).symm.trans (two.all run member isRun)

section Steps

variable {pre staged : Database} {clusterId runId : Nat} {changes begun : List StagedChange}
  {status : RunStatus} {database : Database} {trace : List (Entry Database Reconcile)}

theorem Kept.mapBatches (kept : Kept pre staged runId database) {change : BatchRow → BatchRow}
    (sameRun : ∀ row, (change row).runId = row.runId)
    (unchanged : ∀ row, row.runId ≠ runId → (change row).content = row.content) :
    Kept pre staged runId (database.mapBatches change) where
  clusters := kept.clusters
  nodes := kept.nodes
  memberships := kept.memberships
  owners := kept.owners
  others := (others_mapBatches sameRun unchanged database).trans kept.others

theorem Kept.deleteBatch (kept : Kept pre staged runId database) :
    Kept pre staged runId (deleteBatch runId database) where
  clusters := kept.clusters
  nodes := kept.nodes
  memberships := kept.memberships
  owners := kept.owners
  others := by
    simp only [WorkloadStore.deleteBatch, List.filter_filter, Bool.and_self]
    exact kept.others

/-- Runs and assignments may change. -/
theorem Kept.of_same_inventory (kept : Kept pre staged runId database) {after : Database}
    (clusters : after.clusters = database.clusters) (nodes : after.nodes = database.nodes)
    (memberships : after.memberships = database.memberships)
    (plans : after.plans = database.plans) (batches : after.batches = database.batches) :
    Kept pre staged runId after where
  clusters := clusters.trans kept.clusters
  nodes := nodes.trans kept.nodes
  memberships := memberships.trans kept.memberships
  owners := by rw [plans, kept.owners]
  others := by rw [batches, kept.others]

theorem Kept.unowned (kept : Kept pre staged runId database)
    (batch : StagedBatch pre clusterId runId changes staged) : database.Unowned runId := by
  intro plan member owned
  have listed : some runId ∈ database.plans.map (·.runId) :=
    List.mem_map.mpr ⟨plan, member, owned⟩
  rw [kept.owners, batch.plans] at listed
  obtain ⟨other, otherMember, isOwned⟩ := List.mem_map.mp listed
  exact batch.unowned other otherMember isOwned

theorem Began.mono {more : List StagedChange} (began : Began begun trace)
    (within : ∀ change ∈ begun, change ∈ more) : Began more trace := by
  intro entry member applied
  obtain ⟨change, isBegun, about⟩ := began entry member applied
  exact ⟨change, within change isBegun, about⟩

theorem Began.cons (began : Began begun trace) {entry : Entry Database Reconcile}
    (fits : entry.event.applies →
      ∃ change ∈ begun, change.assignmentId = entry.event.payload.assignmentId) :
    Began begun (entry :: trace) := by
  intro other member applied
  rcases List.mem_cons.mp member with rfl | earlier
  · exact fits applied
  · exact began other earlier applied

theorem Dispatched.nil (workers : WorkloadChangeWorker → Prop) (staged : Database)
    (changes : List StagedChange) : Dispatched workers staged changes [] := by
  intro later entry earlier split
  simp at split

theorem Dispatched.cons {workers : WorkloadChangeWorker → Prop} {entry : Entry Database Reconcile}
    (dispatched : Dispatched workers staged changes trace) {worker : WorkloadChangeWorker}
    (isWorker : workers worker) {item : StagedChange} (isChange : item ∈ changes)
    (isExecutable : item.executable)
    (built : (if entry.event.applies then
        WorkloadPayload.workloadPayload (worker.policy trace) changes item .present staged
      else
        WorkloadPayload.rollbackPayload (worker.policy trace) changes item staged) =
        .ok entry.event.payload) :
    Dispatched workers staged changes (entry :: trace) := by
  intro later other earlier split
  cases later with
  | nil =>
      cases split
      exact ⟨worker, isWorker, item, isChange, isExecutable, built⟩
  | cons first rest =>
      simp only [List.cons_append, List.cons.injEq] at split
      exact dispatched rest other earlier split.2

namespace Pending

theorem finishRun (pending : Pending pre staged clusterId runId changes begun status
    database trace) (next : RunStatus) :
    Pending pre staged clusterId runId changes begun next
      (database.setRunStatus runId next) trace where
  kept := pending.kept.of_same_inventory rfl rfl rfl rfl rfl
  assignments := pending.assignments
  batch := pending.batch
  executable := pending.executable
  began := pending.began
  run := pending.run.finish next

/-- A dispatched reconciliation of a begun change, or one that takes back. -/
theorem dispatch (pending : Pending pre staged clusterId runId changes begun status
    database trace) {entry : Entry Database Reconcile}
    (fits : entry.event.applies →
      ∃ change ∈ begun, change.assignmentId = entry.event.payload.assignmentId) :
    Pending pre staged clusterId runId changes begun status database (entry :: trace) :=
  { pending with began := pending.began.cons fits }

theorem inventory (pending : Pending pre staged clusterId runId changes begun status
    database trace) : SameInventory staged database :=
  ⟨pending.assignments, pending.kept.clusters, pending.kept.nodes, pending.kept.memberships⟩

theorem finalize (pending : Pending pre staged clusterId runId changes begun status
    database trace) :
    Finalized pre staged runId changes status
      (deleteBatch runId (finalizeBatch runId changes database)) := by
  rw [finalizeBatch_eq]
  refine ⟨?_, ?_, batch?_deleteBatch _ _, ⟨pending.run.present, pending.run.all⟩⟩
  · refine Kept.deleteBatch ?_
    exact pending.kept.of_same_inventory rfl rfl rfl rfl rfl
  · simp only [deleteBatch, pending.assignments]

theorem release (pending : Pending pre staged clusterId runId changes begun status
    database trace) (batch : StagedBatch pre clusterId runId changes staged)
    (takenBack : TakenBack changes trace) :
    RolledBack pre staged runId changes status (releaseBatch runId changes database)
      trace := by
  rw [releaseBatch_eq]
  refine ⟨?_, ?_, ?_, takenBack, ⟨pending.run.present, pending.run.all⟩⟩
  · have kept : Kept pre staged runId
        { database with
          assignments := database.assignments.filterMap
            (settleRow StagedChange.releasedRow runId changes) } :=
      pending.kept.of_same_inventory rfl rfl rfl rfl rfl
    exact kept.deleteBatch
  · simp only [pending.assignments]
    exact batch.staging.released batch.sound.assignment_ids batch.free
  · exact batch?_deleteBatch database runId

end Pending

theorem Finalized.finishRun (finalized : Finalized pre staged runId changes status database)
    (next : RunStatus) :
    Finalized pre staged runId changes next (database.setRunStatus runId next) where
  kept := finalized.kept.of_same_inventory rfl rfl rfl rfl rfl
  assignments := finalized.assignments
  batch := finalized.batch
  run := finalized.run.finish next

theorem RolledBack.finishRun
    (rolledBack : RolledBack pre staged runId changes status database trace)
    (next : RunStatus) :
    RolledBack pre staged runId changes next (database.setRunStatus runId next) trace where
  kept := rolledBack.kept.of_same_inventory rfl rfl rfl rfl rfl
  assignments := rolledBack.assignments
  batch := rolledBack.batch
  takenBack := rolledBack.takenBack
  run := rolledBack.run.finish next

end Steps

end ElKeeper
