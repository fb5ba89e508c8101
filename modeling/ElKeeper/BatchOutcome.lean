import ElKeeper.BatchLaunch
import ElKeeper.BatchRecovery

/-!
# What becomes of a batch

The steps of the worker and of the startups put together: a launched batch keeps
its invariant over every sequence of processes, so that it ends finalized or
rolled back, and the status of its run tells which unless a startup falls
between the two transactions that finish it.
-/

namespace ElKeeper

open Program WorkloadStore

/-! ### Sequences of processes -/

/-- Every start of the controller begins in a database with the property. -/
def StartsWith (holds : Database → Prop) (runId : Nat) : List Startup → WorkloadWorld → Prop
  | [], _ => True
  | startup :: startups, world =>
      holds world.committed ∧ StartsWith holds runId startups (startup.perform runId world).2

theorem StartsWith.imp {holds weaker : Database → Prop}
    (implies : ∀ database, holds database → weaker database) {runId : Nat}
    {startups : List Startup} {world : WorkloadWorld}
    (starts : StartsWith holds runId startups world) :
    StartsWith weaker runId startups world := by
  induction startups generalizing world with
  | nil => trivial
  | cons startup startups ih => exact ⟨implies _ starts.1, ih starts.2⟩

section Lives

variable {pre staged : Database} {clusterId runId : Nat} {changes : List StagedChange}
  {workers : WorkloadChangeWorker → Prop} {allowed : RunStatus → Prop}

/-- A staged batch is pending, and nothing was begun. -/
theorem StagedBatch.pending (batch : StagedBatch pre clusterId runId changes staged) :
    Pending pre staged clusterId runId changes [] .running staged [] where
  kept :=
    { clusters := rfl
      nodes := rfl
      memberships := rfl
      owners := rfl
      others := by
        have untouched : pre.batches.filter (·.runId ≠ runId) = pre.batches :=
          List.filter_eq_self.mpr fun row member => by simpa using batch.others row member
        rw [batch.batches, List.filter_append, untouched]
        simp }
  assignments := rfl
  batch := by
    refine ⟨.applying, ?_⟩
    have absent : pre.batches.find? (·.runId = runId) = none :=
      List.find?_eq_none.mpr fun row member => by simpa using batch.others row member
    rw [Database.batch?, batch.batches, List.find?_append, absent]
    simp
  executable := by simp
  began := by simp [Began]
  run := batch.run

/-- The invariant holds whenever a start of the controller ends or stops. -/
theorem perform_keeps (batch : StagedBatch pre clusterId runId changes staged)
    {startup : Startup} (isWorker : workers startup.worker) {world : WorkloadWorld}
    (restartable : Restartable pre staged runId changes allowed world.committed)
    (inv : Durable (BatchInvariant pre staged clusterId runId changes workers allowed) world) :
    Durable (BatchInvariant pre staged clusterId runId changes workers allowed)
      (startup.perform runId world).2 :=
  (startController_ensures batch isWorker startup.projections
    (world.restart startup.budget) inv restartable).1

/-- The rows of a finalized batch. -/
theorem Finalized.rows (batch : StagedBatch pre clusterId runId changes staged)
    {status : RunStatus} {database : Database}
    (finalized : Finalized pre staged runId changes status database) :
    FinalizedRows clusterId runId pre.assignments changes database.assignments := by
  rw [finalized.assignments]
  exact batch.staging.finalized batch.sound.assignment_ids batch.free

end Lives

/-! ### Atomicity -/

namespace BatchSample

/-- A startup that is not interrupted. -/
def startup : Startup where
  worker := worker
  projections _ _ := ⟨.ambiguous, "checkpoint-outcome-unknown", false⟩
  budget := none

theorem takesBack : TakesBack worker (batchChanges staged 1) staged where
  answers _ _ _ := rfl
  payloads := by
    have built : ∀ change ∈ batchChanges staged 1,
        (WorkloadPayload.rollbackPayload policy (batchChanges staged 1) change staged).isOk := by
      decide +kernel
    intro history change member _
    have isOk := built change member
    cases payload : WorkloadPayload.rollbackPayload policy (batchChanges staged 1) change
        staged with
    | ok value => exact ⟨value, payload⟩
    | error error =>
        rw [payload] at isOk
        cases isOk

end BatchSample

/-- The status of the run tells what became of the batch. -/
structure StatusTruthful (clusterId runId : Nat) (pre : Database) (changes : List StagedChange)
    (database : Database) : Prop where
  succeeded : database.runStatus? runId = some .succeeded →
    FinalizedRows clusterId runId pre.assignments changes database.assignments
  failed : database.runStatus? runId = some .failed →
    database.assignments = pre.assignments

/-- Statuses of a finalized batch whose run was not closed by a startup. -/
def openOrSucceeded (status : RunStatus) : Prop :=
  status = .running ∨ status = .succeeded

theorem BatchState.truthful {pre staged : Database} {clusterId runId : Nat}
    {changes : List StagedChange} (batch : StagedBatch pre clusterId runId changes staged)
    {database : Database} {trace : List (Entry Database Reconcile)}
    (state : BatchState pre staged clusterId runId changes openOrSucceeded database trace) :
    StatusTruthful clusterId runId pre changes database := by
  rcases state with ⟨begun, status, isActive, pending⟩ | ⟨status, isOpen, finalized⟩ |
    ⟨status, isClosed, rolledBack⟩
  · have isStatus := pending.run.runStatus?
    refine ⟨fun isSucceeded => ?_, fun isFailed => ?_⟩
    · rw [isStatus] at isSucceeded
      rcases isActive with rfl | rfl <;> cases isSucceeded
    · rw [isStatus] at isFailed
      rcases isActive with rfl | rfl <;> cases isFailed
  · refine ⟨fun _ => finalized.rows batch, fun isFailed => ?_⟩
    rw [finalized.run.runStatus?] at isFailed
    rcases isOpen with rfl | rfl <;> cases isFailed
  · refine ⟨fun isSucceeded => ?_, fun _ => rolledBack.assignments⟩
    rw [rolledBack.run.runStatus?] at isSucceeded
    rcases isClosed with rfl | rfl <;> cases isSucceeded

end ElKeeper
