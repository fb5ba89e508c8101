import ElKeeper.DurableWorld
import ElKeeper.WorkloadPayload
import Mathlib.Data.List.Sort

/-!
# The workload change worker

`WorkloadChangeWorker.run` applies a staged batch change by change, each in its
own transactions, and either finalizes it or takes it back.  `recover` takes
back an interrupted batch from its recorded progress, without an observer.
-/

namespace ElKeeper

/-- The file name part that tells applying from taking back. -/
inductive ReconcileSuffix where
  | apply (index : Nat)
  | rollback (index : Nat)
deriving DecidableEq, Repr

/-- A dispatched reconciliation. -/
structure Reconcile where
  runId : Nat
  payload : Payload
  nodeName : String
  suffix : ReconcileSuffix
deriving DecidableEq

namespace Reconcile

/-- The reconciliation was dispatched by the applying loop. -/
def applies (reconcile : Reconcile) : Bool :=
  match reconcile.suffix with
  | .apply _ => true
  | .rollback _ => false

end Reconcile

abbrev WorkloadWorld :=
  World Database Reconcile

abbrev Task (α : Type) :=
  Program WorkloadWorld Fault α

/-- The injected callbacks; their answers may change with every dispatch. -/
structure WorkloadChangeWorker where
  policy : List (Entry Database Reconcile) → PayloadPolicy
  reconcile : Reconcile → List (Entry Database Reconcile) → Except Fault Bool

namespace StagedChange

/-- `change["kind"] in {"create", "resources"}`. -/
def executable (change : StagedChange) : Bool :=
  match change.detail with
  | .create _ _ | .resources _ _ _ _ => true
  | .detach _ _ => false

def isCreate (change : StagedChange) : Bool :=
  match change.detail with
  | .create _ _ => true
  | _ => false

/-- The order of `workload_change_sort_key`. -/
def sortKeyLe (first second : StagedChange) : Prop :=
  first.role.deployOrder < second.role.deployOrder ∨
    first.role.deployOrder = second.role.deployOrder ∧
      (first.nodeName < second.nodeName ∨
        first.nodeName = second.nodeName ∧ first.assignmentId ≤ second.assignmentId)

instance : DecidableRel sortKeyLe :=
  fun _ _ => inferInstanceAs (Decidable (_ ∨ _ ∧ (_ ∨ _ ∧ _)))

/-- The group of a change in a batch that creates the bootstrap master. -/
def bootstrapRank (bootstrapId : Nat) (change : StagedChange) : Nat :=
  if change.assignmentId = bootstrapId then 0
  else if change.isCreate ∧ change.role = .hot then 1
  else if change.role = .master then 2
  else 3

/-- The order within such a batch. -/
def bootstrapKeyLe (bootstrapId : Nat) (first second : StagedChange) : Prop :=
  first.bootstrapRank bootstrapId < second.bootstrapRank bootstrapId ∨
    first.bootstrapRank bootstrapId = second.bootstrapRank bootstrapId ∧
      sortKeyLe first second

instance (bootstrapId : Nat) : DecidableRel (bootstrapKeyLe bootstrapId) :=
  fun _ _ => inferInstanceAs (Decidable (_ ∨ _ ∧ _))

end StagedChange

namespace WorkloadChangeWorker

open Program WorkloadPayload WorkloadStore

section

variable (worker : WorkloadChangeWorker) (runId : Nat)

/-- `batch_plan`. -/
def batchPlan : Operation BatchRow := do
  match ← read fun database => database.batch? runId with
  | some row => pure row
  | none => raise ⟨.runtimeError, "Workload change batch is unavailable"⟩

/-- Build a payload on a connection of its own. -/
def preparePayload (payload : PayloadPolicy → Database → Except Fault Payload) :
    Task Payload := do
  let policy ← read fun world => worker.policy world.trace
  transaction do
    let result ← read (payload policy)
    ofExcept result

/-- The order of a batch whose first master has this payload. -/
def orderFor (executable : List StagedChange) (payload : Payload) : List StagedChange :=
  match payload.bootstrap with
  | none => executable.insertionSort StagedChange.sortKeyLe
  | some (bootstrapId, _) =>
      if executable.any fun change => change.isCreate && change.assignmentId = bootstrapId then
        executable.insertionSort (StagedChange.bootstrapKeyLe bootstrapId)
      else
        executable.insertionSort StagedChange.sortKeyLe

/-- `ordered_executable_changes`. -/
def orderedExecutableChanges (changes : List StagedChange) : Task (List StagedChange) := do
  let executable := changes.filter (·.executable)
  match executable.find? (·.role = .master) with
  | none => pure (executable.insertionSort StagedChange.sortKeyLe)
  | some master => do
      let payload ← preparePayload worker fun policy =>
        workloadPayload policy changes master .present
      pure (orderFor executable payload)

/-- `execute_reconcile`. -/
def executeReconcile (payload : Payload) (nodeName : String) (suffix : ReconcileSuffix) :
    Task Bool :=
  let reconcile : Reconcile := ⟨runId, payload, nodeName, suffix⟩
  ask (fun _ => reconcile) (worker.reconcile reconcile)

/-- Take back one change; a failure is remembered and does not end the loop. -/
def rollbackItem (changes : List StagedChange) (index : Nat) (item : StagedChange) :
    Task Bool := do
  let outcome ← attempt do
    let payload ← preparePayload worker fun policy => rollbackPayload policy changes item
    executeReconcile worker runId payload item.nodeName (.rollback index)
  match outcome with
  | .ok true => pure true
  | _ => pure false

/-- The loop of `rollback` over the changes in the order they are taken back. -/
def rollbackEach (changes : List StagedChange) : Nat → List StagedChange → Task Bool
  | _, [] => pure true
  | index, item :: items => do
      let first ← rollbackItem worker runId changes index item
      let others ← rollbackEach changes (index + 1) items
      pure (first && others)

/-- `rollback`. -/
def rollback (changes completed : List StagedChange) : Task Bool :=
  rollbackEach worker runId changes 0 completed.reverse

/-- `recover`, without an observer. -/
def recover : Task Unit := ignoring do
  let (row, completedIds) ← transaction do
    let row ← batchPlan runId
    let completedIds ← read fun database => completedBatchClientIds database runId
    pure (row, completedIds)
  let completed := row.changes.filter fun item => decide (item.clientId ∈ completedIds)
  if ← rollback worker runId row.changes completed then
    transaction do
      update (releaseBatch runId row.changes)
      Runs.finishRun runId .failed
  else
    pure ()

/-- The applying loop: whether all changes were applied, and those begun. -/
def applyEach (changes : List StagedChange) :
    Nat → List StagedChange → List StagedChange → Task (Bool × List StagedChange)
  | _, completed, [] => pure (true, completed)
  | index, completed, item :: items => do
      let begun := completed ++ [item]
      transaction (update (recordBatchProgress runId (begun.map (·.clientId))))
      let payload ← preparePayload worker fun policy =>
        workloadPayload policy changes item .present
      if ← executeReconcile worker runId payload item.nodeName (.apply index) then
        applyEach changes (index + 1) begun items
      else
        pure (false, begun)

/-- The failing branch of `run`: the begun changes are taken back, or left for recovery. -/
def takeBack (changes completed : List StagedChange) : Task Unit := do
  transaction (update (setBatchPhase runId .rollingBack))
  if ← rollback worker runId changes completed then
    transaction (update (releaseBatch runId changes))
  else
    transaction (Runs.finishRun runId .recoveryRequired)

/-- The body of `run` after the plan was read: whether the batch was finalized. -/
def applyBatch (changes : List StagedChange) : Task Bool := do
  let executable ← orderedExecutableChanges worker changes
  let (applied, completed) ← applyEach worker runId changes 0 [] executable
  if applied then
    transaction do
      update (finalizeBatch runId changes)
      update (deleteBatch runId)
    pure true
  else
    takeBack worker runId changes completed
    pure false

/-- The handler of `run`: the batch is left for recovery. -/
def leaveForRecovery : Task Unit :=
  transaction do
    update (setBatchPhase runId .rollingBack)
    Runs.finishRun runId .recoveryRequired

/-- A run that was not finalized fails, unless it needs recovery. -/
def closeFailed : Task Unit :=
  transaction do
    let status ← read fun database => database.runStatus? runId
    if status = some .recoveryRequired then pure () else Runs.finishRun runId .failed

/-- `run`. -/
def run : Task Unit := do
  match ← attempt (transaction (batchPlan runId)) with
  | .error _ => leaveForRecovery runId
  | .ok row => do
      match ← attempt (applyBatch worker runId row.changes) with
      | .ok true => do
          transaction (Runs.finishRun runId .succeeded)
          ignoring (transaction (ClusterOperation.launchFilebeat row.clusterId none))
      | .ok false => closeFailed runId
      | .error _ => do
          leaveForRecovery runId
          closeFailed runId

end

/-- The recoveries that `recover_all` schedules, one after the other. -/
def recoverAll (worker : WorkloadChangeWorker) : Task Unit := do
  let runIds ← transaction do
    let candidates ← read recoveryBatchRunIds
    read fun database => Runs.recoveryRequiredIds database candidates
  forEach runIds fun runId => recover worker runId

end WorkloadChangeWorker

end ElKeeper
