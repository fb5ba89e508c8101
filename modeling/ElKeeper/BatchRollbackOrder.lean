import ElKeeper.BatchOutcome
import ElKeeper.Results

/-!
# The order in which changes are taken back

The running process takes changes back in the reverse of the order in which it
applied them.  The recovery rebuilds the list from the recorded progress in the
order of the plan.
-/

namespace ElKeeper

open Program WorkloadStore WorkloadPayload WorkloadChangeWorker

/-! ### The order of execution -/

/-- The lists that `ordered_executable_changes` may return for a batch. -/
def ExecutionOrder (changes : List StagedChange) (staged : Database)
    (order : List StagedChange) : Prop :=
  match (changes.filter (·.executable)).find? (·.role = .master) with
  | none => order = (changes.filter (·.executable)).insertionSort StagedChange.sortKeyLe
  | some master => ∃ policy payload,
      workloadPayload policy changes master .present staged = .ok payload ∧
        order = orderFor (changes.filter (·.executable)) payload

theorem bootstrapOf_ok {policy : PayloadPolicy} {desiredState : DesiredState}
    {overrides : Nat → Option Dict} {masters : List AssignmentRow}
    {bootstrap : Option (Nat × Json)}
    (found : bootstrapOf policy desiredState overrides masters = .ok bootstrap) :
    bootstrap.map (·.1) = masters.head?.map (·.id) := by
  cases masters with
  | nil =>
      cases found
      rfl
  | cons master others =>
      obtain ⟨_, _, found⟩ := Results.bind_ok found
      obtain ⟨_, _, found⟩ := Results.bind_ok found
      cases found
      rfl

/-- The bootstrap master of a payload does not depend on the callbacks. -/
theorem build_bootstrap {policy : PayloadPolicy} {database : Database} {row : AssignmentRow}
    {desiredState : DesiredState} {included : List Nat} {overrides : Nat → Option Dict}
    {payload : Payload}
    (built : build policy database row desiredState included overrides = .ok payload) :
    payload.bootstrap.map (·.1) =
      ((payloadAssignments database row.clusterId included).filter
        (·.role = .master)).head?.map (·.id) := by
  simp only [build] at built
  obtain ⟨_, _, built⟩ := Results.bind_ok built
  obtain ⟨_, _, built⟩ := Results.bind_ok built
  obtain ⟨_, _, built⟩ := Results.bind_ok built
  obtain ⟨_, _, built⟩ := Results.bind_ok built
  obtain ⟨bootstrap, isBootstrap, built⟩ := Results.bind_ok built
  obtain ⟨_, _, built⟩ := Results.bind_ok built
  obtain ⟨_, _, built⟩ := Results.bind_ok built
  obtain ⟨_, _, built⟩ := Results.bind_ok built
  obtain ⟨_, _, built⟩ := Results.bind_ok built
  cases built
  exact bootstrapOf_ok isBootstrap

theorem orderFor_congr {executable : List StagedChange} {first second : Payload}
    (same : first.bootstrap.map (·.1) = second.bootstrap.map (·.1)) :
    orderFor executable first = orderFor executable second := by
  simp only [orderFor]
  cases isFirst : first.bootstrap <;> cases isSecond : second.bootstrap <;>
    simp_all

/-- A batch has one order of execution. -/
theorem ExecutionOrder.unique {changes first second : List StagedChange} {staged : Database}
    (one : ExecutionOrder changes staged first) (two : ExecutionOrder changes staged second) :
    first = second := by
  cases master : (changes.filter (·.executable)).find? (·.role = .master) with
  | none =>
      simp only [ExecutionOrder, master] at one two
      exact one.trans two.symm
  | some item =>
      simp only [ExecutionOrder, master] at one two
      obtain ⟨policy, payload, built, rfl⟩ := one
      obtain ⟨other, otherPayload, otherBuilt, rfl⟩ := two
      obtain ⟨row, isRow, rowBuilt⟩ := Results.bind_ok built
      obtain ⟨otherRow, isOtherRow, otherRowBuilt⟩ := Results.bind_ok otherBuilt
      have sameRow : row = otherRow := by
        rw [isRow] at isOtherRow
        cases isOtherRow
        rfl
      subst sameRow
      exact orderFor_congr
        ((build_bootstrap rowBuilt).trans (build_bootstrap otherRowBuilt).symm)

theorem ExecutionOrder.perm {changes order : List StagedChange} {staged : Database}
    (isOrder : ExecutionOrder changes staged order) :
    order.Perm (changes.filter (·.executable)) := by
  simp only [ExecutionOrder] at isOrder
  split at isOrder
  · rw [isOrder]
    exact List.perm_insertionSort _ _
  · obtain ⟨_, payload, _, rfl⟩ := isOrder
    simp only [orderFor]
    split
    · exact List.perm_insertionSort _ _
    · split <;> exact List.perm_insertionSort _ _

/-- The reconciliations of a trace, the latest first: whether each applies a change, and
the assignment that it is about. -/
def dispatches (trace : List (Entry Database Reconcile)) : List (Bool × Nat) :=
  trace.map fun entry => (entry.event.applies, entry.event.payload.assignmentId)

/-- The dispatches of a list of changes, in one direction. -/
def inDirection (applies : Bool) (changes : List StagedChange) : List (Bool × Nat) :=
  changes.map fun change => (applies, change.assignmentId)

/-- All reconciliations are answered with success. -/
def WorkloadChangeWorker.Succeeds (worker : WorkloadChangeWorker) : Prop :=
  ∀ reconcile history, worker.reconcile reconcile history = .ok true

section Exact

variable {staged : Database} {runId : Nat} {changes : List StagedChange}
  {worker : WorkloadChangeWorker}
  {invariant : Database → List (Entry Database Reconcile) → Prop}
  {failed : Fault → Database → List (Entry Database Reconcile) → Prop}

/-- The state in which the first process starts. -/
def AtStart (staged : Database) (database : Database)
    (trace : List (Entry Database Reconcile)) : Prop :=
  database = staged ∧ trace = []

theorem AtStart.inventory {database : Database} {trace : List (Entry Database Reconcile)}
    (start : AtStart staged database trace) : SameInventory staged database := by
  rw [start.1]
  exact ⟨rfl, rfl, rfl, rfl⟩

end Exact

end ElKeeper
