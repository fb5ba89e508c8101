import ElKeeper.BatchRollbackOrder

/-!
# Recovered batches and the order of their rollback

What an interrupted process leaves behind tells which changes were dispatched,
and the recovery takes back the recorded ones in the order of the plan.  It
follows exactly when this is the order in which the process itself would have
taken them back.
-/

namespace ElKeeper

open Program WorkloadStore WorkloadPayload WorkloadChangeWorker

/-! ### What an interrupted process leaves behind -/

section Applying

variable (staged : Database) (clusterId runId : Nat) (changes : List StagedChange)

/-- A process that applies: the changes it began, which are recorded, and those it
dispatched. -/
structure Applying (begun sent : List StagedChange) (database : Database)
    (trace : List (Entry Database Reconcile)) : Prop where
  inventory : SameInventory staged database
  batch : ∃ phase, database.batch? runId =
    some ⟨runId, clusterId, changes, begun.map (·.clientId), phase⟩
  dispatched : dispatches trace = inDirection true sent.reverse
  ahead : sent = begun ∨ ∃ next, begun = sent ++ [next]
  ordered : begun = [] ∨ ∃ order, ExecutionOrder changes staged order ∧ begun <+: order

/-- The changes that were dispatched, from the first in the order of execution. -/
structure Applied (sent : List StagedChange) (trace : List (Entry Database Reconcile)) :
    Prop where
  dispatched : dispatches trace = inDirection true sent.reverse
  ordered : sent = [] ∨ ∃ order, ExecutionOrder changes staged order ∧ sent <+: order

/-- A process that did not dispatch a rollback yet has settled its batch or is applying. -/
def Interrupted (database : Database) (trace : List (Entry Database Reconcile)) : Prop :=
  (∃ dispatch ∈ dispatches trace, dispatch.1 = false) ∨
    (∃ sent, Applied staged changes sent trace ∧ database.batch? runId = none) ∨
    ∃ begun sent, Applying staged clusterId runId changes begun sent database trace

end Applying

section Interrupted

variable {pre staged : Database} {clusterId runId : Nat} {changes : List StagedChange}

/-- The inventory and the batch stay, apart from the phase. -/
structure SamePlan (runId : Nat) (database after : Database) : Prop where
  inventory : SameInventory database after
  batch : ∃ change : BatchRow → BatchRow, (∀ row, ∃ phase, change row = { row with phase := phase }) ∧
    after.batch? runId = (database.batch? runId).map change

theorem SamePlan.trans {first second third : Database} (one : SamePlan runId first second)
    (two : SamePlan runId second third) : SamePlan runId first third where
  inventory :=
    ⟨two.inventory.assignments.trans one.inventory.assignments,
      two.inventory.clusters.trans one.inventory.clusters,
      two.inventory.nodes.trans one.inventory.nodes,
      two.inventory.memberships.trans one.inventory.memberships⟩
  batch := by
    obtain ⟨change, phases, changed⟩ := one.batch
    obtain ⟨other, otherPhases, otherChanged⟩ := two.batch
    refine ⟨other ∘ change, fun row => ?_, ?_⟩
    · obtain ⟨phase, isRow⟩ := phases row
      obtain ⟨last, isLast⟩ := otherPhases (change row)
      exact ⟨last, by rw [Function.comp, isLast, isRow]⟩
    · rw [otherChanged, changed, Option.map_map]

theorem Applying.same {begun sent : List StagedChange} {database after : Database}
    {trace : List (Entry Database Reconcile)}
    (progress : Applying staged clusterId runId changes begun sent database trace)
    (same : SamePlan runId database after) :
    Applying staged clusterId runId changes begun sent after trace where
  inventory :=
    ⟨same.inventory.assignments.trans progress.inventory.assignments,
      same.inventory.clusters.trans progress.inventory.clusters,
      same.inventory.nodes.trans progress.inventory.nodes,
      same.inventory.memberships.trans progress.inventory.memberships⟩
  batch := by
    obtain ⟨phase, stored⟩ := progress.batch
    obtain ⟨change, phases, changed⟩ := same.batch
    rw [changed, stored]
    obtain ⟨next, isNext⟩ := phases ⟨runId, clusterId, changes, begun.map (·.clientId), phase⟩
    exact ⟨next, by rw [Option.map_some, isNext]⟩
  dispatched := progress.dispatched
  ahead := progress.ahead
  ordered := progress.ordered

theorem Interrupted.same {database after : Database} {trace : List (Entry Database Reconcile)}
    (interrupted : Interrupted staged clusterId runId changes database trace)
    (same : SamePlan runId database after) :
    Interrupted staged clusterId runId changes after trace := by
  rcases interrupted with rolledBack | ⟨sent, applied, missing⟩ | ⟨begun, sent, progress⟩
  · exact .inl rolledBack
  · obtain ⟨change, _, changed⟩ := same.batch
    exact .inr (.inl ⟨sent, applied, by rw [changed, missing]; rfl⟩)
  · exact .inr (.inr ⟨begun, sent, progress.same same⟩)

theorem Applying.applied {begun sent : List StagedChange} {database : Database}
    {trace : List (Entry Database Reconcile)}
    (progress : Applying staged clusterId runId changes begun sent database trace) :
    Applied staged changes sent trace := by
  refine ⟨progress.dispatched, ?_⟩
  have started : sent <+: begun := by
    rcases progress.ahead with rfl | ⟨next, rfl⟩
    · exact List.prefix_refl sent
    · exact List.prefix_append sent [next]
  rcases progress.ordered with rfl | ⟨order, isOrder, isStart⟩
  · exact .inl (List.prefix_nil.mp started)
  · exact .inr ⟨order, isOrder, started.trans isStart⟩

theorem Interrupted.settled {database after : Database} {trace : List (Entry Database Reconcile)}
    (interrupted : Interrupted staged clusterId runId changes database trace)
    (missing : after.batch? runId = none) :
    Interrupted staged clusterId runId changes after trace := by
  rcases interrupted with rolledBack | ⟨sent, applied, _⟩ | ⟨begun, sent, progress⟩
  · exact .inl rolledBack
  · exact .inr (.inl ⟨sent, applied, missing⟩)
  · exact .inr (.inl ⟨sent, progress.applied, missing⟩)

/-! ### The interrupted process -/

end Interrupted

/-! ### Processes that run to their end -/

section Ends

variable (worker : WorkloadChangeWorker) (runId : Nat) (changes : List StagedChange)

end Ends

/-! ### The recovery -/

section Recovered

variable {staged : Database} {clusterId runId : Nat} {changes : List StagedChange}
  {worker : WorkloadChangeWorker}

end Recovered

/-! ### Recorded progress and the order of the plan -/

section Lists

variable {α : Type} [DecidableEq α] {plan recorded sent : List α}

end Lists

/-! ### Recovery and the running process compared -/

section Compared

variable {pre staged : Database} {clusterId runId : Nat} {changes : List StagedChange}
  {worker : WorkloadChangeWorker}

theorem Applied.length_eq {sent : List StagedChange} {trace : List (Entry Database Reconcile)}
    (applied : Applied staged changes sent trace) : sent.length = trace.length := by
  have lengths := congrArg List.length applied.dispatched
  simpa [dispatches, inDirection] using lengths.symm

end Compared

namespace BatchSample

end BatchSample

end ElKeeper
