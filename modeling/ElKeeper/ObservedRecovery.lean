import ElKeeper.BatchRecoveryOrder
import ElKeeper.Results
import Mathlib.Data.List.Dedup

/-!
# Recovery from observations

An interrupted batch may also be taken back on the evidence of its processes.  The
decision is made from one observation per assignment, in the vocabulary of roles of the
maintenance engine; the worker then takes back whatever the decision lists.
-/

namespace ElKeeper

open Program WorkloadStore WorkloadPayload WorkloadChangeWorker

inductive WorkloadRole where
  | elasticsearch
  | kibana
  | fleetServer
  | logstash
  | elasticAgent
  | filebeat
  | metricbeat
deriving DecidableEq, Repr

namespace WorkloadRole

def value : WorkloadRole → String
  | elasticsearch => "elasticsearch"
  | kibana => "kibana"
  | fleetServer => "fleet_server"
  | logstash => "logstash"
  | elasticAgent => "elastic_agent"
  | filebeat => "filebeat"
  | metricbeat => "metricbeat"

def all : List WorkloadRole :=
  [elasticsearch, kibana, fleetServer, logstash, elasticAgent, filebeat, metricbeat]

end WorkloadRole

structure LegacyWorkloadObservation where
  assignmentId : Nat
  positive : 1 ≤ assignmentId
  role : WorkloadRole
  processStarted : Bool
  identityMatches : Bool
  ready : Bool
deriving DecidableEq

/-- `LegacyBatchRecoveryDecision`: only a rollback lists assignments. -/
inductive LegacyBatchRecoveryDecision where
  | rollback (reason : String) (assignmentIds : List Nat)
  | recoveryRequired (reason : String)
  | noObservation (reason : String)
deriving DecidableEq

namespace WorkloadChangeWorker

variable (worker : WorkloadChangeWorker) (runId : Nat)

/-- The changes that `recover` takes back. -/
def recoverable (row : BatchRow) (completedIds : List String) :
    Option LegacyBatchRecoveryDecision → List StagedChange
  | some (.rollback _ assignmentIds) =>
      row.changes.filter fun item => decide (item.assignmentId ∈ assignmentIds)
  | _ => row.changes.filter fun item => decide (item.clientId ∈ completedIds)

/-- `recover` with the decision of its observer. -/
def recoverObserved (decision : Option LegacyBatchRecoveryDecision) : Task Unit := ignoring do
  let (row, completedIds) ← transaction do
    let row ← batchPlan runId
    let completedIds ← read fun database => completedBatchClientIds database runId
    pure (row, completedIds)
  match decision with
  | some (.recoveryRequired _) => transaction (Runs.finishRun runId .recoveryRequired)
  | _ =>
      if ← rollback worker runId row.changes (recoverable row completedIds decision) then
        transaction do
          update (releaseBatch runId row.changes)
          Runs.finishRun runId .failed
      else
        pure ()

/-- Without an observer this is `recover`. -/
theorem recoverObserved_none : worker.recoverObserved runId none = worker.recover runId :=
  rfl

end WorkloadChangeWorker

/-! ### The decision -/

section Decision

variable {changes : List StagedChange} {observations : List LegacyWorkloadObservation}

end Decision

/-! ### The recovery -/

section Recovered

variable {worker : WorkloadChangeWorker} {runId clusterId : Nat} {changes : List StagedChange}
  {pre : Database} {failed : Fault → Database → List (Entry Database Reconcile) → Prop}

/-- The database once a batch is released and its run has failed. -/
def released (runId : Nat) (changes : List StagedChange) (database : Database) : Database :=
  Database.setRunStatus runId .failed (releaseBatch runId changes database)

end Recovered

/-! ### Total and safe -/

section Safety

variable {worker : WorkloadChangeWorker} {runId clusterId : Nat} {changes : List StagedChange}
  {observations : List LegacyWorkloadObservation} {completed : List String} {phase : BatchPhase}

end Safety

namespace BatchSample

/-- A container of Elasticsearch under its own name. -/
def seen (assignmentId : Nat) (positive : 1 ≤ assignmentId) (processStarted : Bool) :
    LegacyWorkloadObservation :=
  ⟨assignmentId, positive, .elasticsearch, processStarted, true, !processStarted⟩

theorem isFirst : 1 ≤ 1 :=
  le_refl 1

theorem isSecond : 1 ≤ 2 :=
  Nat.le_succ 1

end BatchSample

end ElKeeper
