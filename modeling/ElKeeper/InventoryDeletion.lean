import ElKeeper.RunFinalizers

/-!
# Deletions and the plans that name what is deleted

A plan refers to its host, its cluster and its assignment with foreign keys that
are set to null when the row goes.  The trigger over the content of plans runs
for these updates as well, and refuses them.
-/

namespace ElKeeper

open Program

namespace PlanRecord

/-- `maintenance_plan_immutable_content` lets the update pass. -/
def sameContent (old new : PlanRecord) : Bool :=
  old.operationKind = new.operationKind && old.targetNodeId = new.targetNodeId &&
    old.targetClusterId = new.targetClusterId &&
    old.targetAssignmentId = new.targetAssignmentId &&
    old.observationMaxAgeSeconds = new.observationMaxAgeSeconds &&
    old.observation = new.observation && old.planHash = new.planHash &&
    old.targetManifest = new.targetManifest

end PlanRecord

/-- The target columns of a plan. -/
inductive TargetColumn where
  | node
  | cluster
  | assignment
deriving DecidableEq, Repr

namespace TargetColumn

def value (plan : PlanRecord) : TargetColumn → Option Nat
  | node => plan.targetNodeId
  | cluster => plan.targetClusterId
  | assignment => plan.targetAssignmentId

def clear (plan : PlanRecord) : TargetColumn → PlanRecord
  | node => { plan with targetNodeId := none }
  | cluster => { plan with targetClusterId := none }
  | assignment => { plan with targetAssignmentId := none }

/-- The plan names a deleted row in this column. -/
def names (column : TargetColumn) (gone : List Nat) (plan : PlanRecord) : Bool :=
  (column.value plan).any fun identifier => decide (identifier ∈ gone)

/-- The plan after its reference to a deleted row was set to null. -/
def cleared (column : TargetColumn) (gone : List Nat) (plan : PlanRecord) : PlanRecord :=
  if column.names gone plan then column.clear plan else plan

end TargetColumn

namespace InventoryStore

/-- What the trigger raises. -/
def immutableContent : Fault :=
  ⟨.integrityError, "maintenance plan content is immutable"⟩

/-- `ON DELETE SET NULL` for a target column of the plans. -/
def setTargetNull (column : TargetColumn) (gone : List Nat) : Operation Unit := do
  let allowed ← read fun database =>
    database.plans.all fun plan => plan.sameContent (column.cleared gone plan)
  require allowed immutableContent
  update fun database => { database with plans := database.plans.map (column.cleared gone) }

/-- `ON DELETE SET NULL` for a column of the steps. -/
def nullIfGone (gone : List Nat) (value : Option Nat) : Option Nat :=
  value.filter fun identifier => decide (identifier ∉ gone)

/-- `DELETE FROM cluster_assignments` with its foreign keys. -/
def deleteAssignments (removed : AssignmentRow → Bool) : Operation Unit := do
  let gone ← read fun database => (database.assignments.filter removed).map (·.id)
  setTargetNull .assignment gone
  update fun database =>
    { database.dropAssignments removed with
      steps := database.steps.map fun step =>
        { step with affectedAssignmentId := nullIfGone gone step.affectedAssignmentId }
      assignmentStates := database.assignmentStates.filter fun state =>
        decide (state.assignmentId ∉ gone) }

/-- Delete a row of a table that assignments belong to. -/
def deleteOwner (column : TargetColumn) (identifier : Nat) (present : Database → Bool)
    (removed : AssignmentRow → Bool) (change : Database → Database) : Operation Bool :=
  atomically do
    let found ← read present
    if found then do
      setTargetNull column [identifier]
      deleteAssignments removed
      update change
      pure true
    else pure false

/-- What else goes with a host. -/
def dropNode (nodeId : Nat) (database : Database) : Database :=
  { database with
    nodes := database.nodes.filter (·.id ≠ nodeId)
    memberships := database.memberships.filter (·.2 ≠ nodeId)
    hostStates := database.hostStates.filter (·.nodeId ≠ nodeId)
    steps := database.steps.map fun step =>
      { step with affectedNodeId := nullIfGone [nodeId] step.affectedNodeId } }

/-- What else goes with a cluster. -/
def dropCluster (clusterId : Nat) (database : Database) : Database :=
  { database with
    clusters := database.clusters.filter (·.id ≠ clusterId)
    memberships := database.memberships.filter (·.1 ≠ clusterId)
    batches := database.batches.filter (·.clusterId ≠ clusterId)
    policies := database.policies.filter (·.1 ≠ clusterId)
    allocationGuards := database.allocationGuards.filter (·.clusterId ≠ clusterId)
    steps := database.steps.map fun step =>
      { step with affectedClusterId := nullIfGone [clusterId] step.affectedClusterId } }

/-- `HostRepository.delete_in_connection`. -/
def deleteNode (nodeId : Nat) : Operation Bool :=
  deleteOwner .node nodeId (fun database => database.nodes.any (·.id = nodeId))
    (·.nodeId = nodeId) (dropNode nodeId)

/-- `ClusterRepository.delete_in_connection`. -/
def deleteCluster (clusterId : Nat) : Operation Bool :=
  deleteOwner .cluster clusterId (fun database => database.clusters.any (·.id = clusterId))
    (·.clusterId = clusterId) (dropCluster clusterId)

/-- `delete_assignment_in_connection`. -/
def deleteAssignment (assignmentId : Nat) : Operation Unit :=
  atomically (deleteAssignments (·.id = assignmentId))

/-- One statement of `finalize_batch_in_connection`. -/
def finalizeChange (runId : Nat) (change : StagedChange) : Operation Unit :=
  match change.detail with
  | .detach _ _ => deleteAssignments (·.claimedBy change.assignmentId runId)
  | _ => update (change.finalize runId)

/-- `finalize_batch_in_connection`; an exception leaves the whole transaction undone. -/
def finalizeBatch (runId : Nat) (changes : List StagedChange) : Operation Unit :=
  atomically (forEach changes (finalizeChange runId))

end InventoryStore

/-- A way to delete rows that plans may name. -/
inductive Deletion where
  | node (nodeId : Nat)
  | cluster (clusterId : Nat)
  | detach (assignmentId : Nat)
  | batch (runId : Nat) (changes : List StagedChange)

namespace Deletion

/-- Carry the deletion out. -/
def perform : Deletion → Operation Unit
  | node nodeId => do
      let _ ← InventoryStore.deleteNode nodeId
      pure ()
  | cluster clusterId => do
      let _ ← InventoryStore.deleteCluster clusterId
      pure ()
  | detach assignmentId => InventoryStore.deleteAssignment assignmentId
  | batch runId changes => InventoryStore.finalizeBatch runId changes

/-- The change of a batch detaches its assignment. -/
def detaches (change : StagedChange) : Bool :=
  match change.detail with
  | .detach _ _ => true
  | _ => false

/-- The assignments that go: those of the host or of the cluster, the detached one, or those that
the batch has claimed and whose first change detaches them. -/
def removes (database : Database) : Deletion → AssignmentRow → Bool
  | node nodeId, row => database.nodes.any (·.id = nodeId) && row.nodeId = nodeId
  | cluster clusterId, row =>
      database.clusters.any (·.id = clusterId) && row.clusterId = clusterId
  | detach assignmentId, row => row.id = assignmentId
  | batch runId changes, row =>
      row.operationRunId = some runId &&
        (changes.find? (·.assignmentId = row.id)).any detaches

/-- The rows that a deletion removes, by the column that may name them. -/
def gone (database : Database) (deletion : Deletion) : TargetColumn → List Nat
  | .node =>
      match deletion with
      | node nodeId => if database.nodes.any (·.id = nodeId) then [nodeId] else []
      | _ => []
  | .cluster =>
      match deletion with
      | cluster clusterId => if database.clusters.any (·.id = clusterId) then [clusterId] else []
      | _ => []
  | .assignment => (database.assignments.filter (deletion.removes database)).map (·.id)

/-- No plan, whatever its state, names a row that goes. -/
def Untargeted (deletion : Deletion) (database : Database) : Prop :=
  ∀ plan ∈ database.plans, ∀ column : TargetColumn,
    column.names (deletion.gone database column) plan = false

/-- The plans with their references to deleted rows set to null. -/
def clearedPlans (deletion : Deletion) (database : Database) : List PlanRecord :=
  database.plans.map fun plan =>
    TargetColumn.node.cleared (deletion.gone database .node)
      (TargetColumn.cluster.cleared (deletion.gone database .cluster)
        (TargetColumn.assignment.cleared (deletion.gone database .assignment) plan))

/-- The deletion succeeds, and of the plans only the references to deleted rows change. -/
def Succeeds (deletion : Deletion) (database : Database) : Prop :=
  ∃ after, deletion.perform.run database = (.returned (), after) ∧
    after.plans = deletion.clearedPlans database

end Deletion

/-! ### Single statements -/

namespace TargetColumn

theorem cleared_of_unnamed {column : TargetColumn} {gone : List Nat} {plan : PlanRecord}
    (unnamed : column.names gone plan = false) : column.cleared gone plan = plan := by
  simp [cleared, unnamed]

/-- The trigger refuses exactly the updates that clear a column. -/
theorem sameContent_cleared (column : TargetColumn) (gone : List Nat) (plan : PlanRecord) :
    plan.sameContent (column.cleared gone plan) = !column.names gone plan := by
  cases isNamed : column.names gone plan with
  | false =>
      rw [cleared_of_unnamed isNamed]
      simp [PlanRecord.sameContent]
  | true =>
      have present : (column.value plan).isSome := by
        cases isValue : column.value plan with
        | none => simp [names, isValue] at isNamed
        | some identifier => rfl
      simp only [cleared, isNamed, if_true]
      cases column with
      | node =>
          have different : ¬ plan.targetNodeId = none := by
            intro missing
            simp [value, missing] at present
          simp [clear, PlanRecord.sameContent, different]
      | cluster =>
          have different : ¬ plan.targetClusterId = none := by
            intro missing
            simp [value, missing] at present
          simp [clear, PlanRecord.sameContent, different]
      | assignment =>
          have different : ¬ plan.targetAssignmentId = none := by
            intro missing
            simp [value, missing] at present
          simp [clear, PlanRecord.sameContent, different]

end TargetColumn

namespace InventoryStore

/-- No plan names one of the rows in the column. -/
def Unnamed (column : TargetColumn) (gone : List Nat) (database : Database) : Prop :=
  ∀ plan ∈ database.plans, column.names gone plan = false

theorem setTargetNull_unnamed {column : TargetColumn} {gone : List Nat} {database : Database}
    (unnamed : Unnamed column gone database) :
    (setTargetNull column gone).run database = (.returned (), database) := by
  have allowed : (database.plans.all fun plan =>
      plan.sameContent (column.cleared gone plan)) = true := by
    simp only [List.all_eq_true, TargetColumn.sameContent_cleared, Bool.not_eq_true']
    exact unnamed
  have same : database.plans.map (column.cleared gone) = database.plans := by
    refine (List.map_congr_left fun plan member => ?_).trans (List.map_id _)
    exact TargetColumn.cleared_of_unnamed (unnamed plan member)
  rw [setTargetNull, run_bind, run_read]
  dsimp only
  rw [run_bind, run_require, if_pos allowed]
  dsimp only
  rw [run_update, same]

theorem setTargetNull_named {column : TargetColumn} {gone : List Nat} {database : Database}
    (named : ¬ Unnamed column gone database) :
    (setTargetNull column gone).run database =
      (.raised immutableContent, database) := by
  have refused : ¬ (database.plans.all fun plan =>
      plan.sameContent (column.cleared gone plan)) = true := by
    simp only [List.all_eq_true, TargetColumn.sameContent_cleared, Bool.not_eq_true']
    exact named
  rw [setTargetNull, run_bind, run_read]
  dsimp only
  rw [run_bind, run_require, if_neg refused]

/-- The identifiers of the rows that a deletion of assignments removes. -/
def removedIds (removed : AssignmentRow → Bool) (database : Database) : List Nat :=
  (database.assignments.filter removed).map (·.id)

theorem deleteAssignments_unnamed {removed : AssignmentRow → Bool} {database : Database}
    (unnamed : Unnamed .assignment (removedIds removed database) database) :
    ∃ after, (deleteAssignments removed).run database = (.returned (), after) ∧
      after.plans = database.plans ∧
      after.assignments = (database.dropAssignments removed).assignments := by
  have kept := setTargetNull_unnamed unnamed
  rw [removedIds] at kept
  rw [deleteAssignments, run_bind, run_read]
  dsimp only
  rw [run_bind, kept]
  exact ⟨_, rfl, rfl, rfl⟩

theorem deleteAssignments_named {removed : AssignmentRow → Bool} {database : Database}
    (named : ¬ Unnamed .assignment (removedIds removed database) database) :
    (deleteAssignments removed).run database =
      (.raised immutableContent, database) := by
  have refused := setTargetNull_named named
  rw [removedIds] at refused
  rw [deleteAssignments, run_bind, run_read]
  dsimp only
  rw [run_bind, refused]

end InventoryStore

/-! ### Batches -/

namespace Deletion

open InventoryStore

theorem finalize_plans (runId : Nat) (change : StagedChange) (database : Database) :
    (change.finalize runId database).plans = database.plans := by
  rw [StagedChange.finalize]
  split <;> rfl

/-- A row that is still claimed after the statement for another change is as it was. -/
theorem claimed_of_finalized {runId : Nat} {change : StagedChange} {database : Database}
    {row : AssignmentRow} (member : row ∈ (change.finalize runId database).assignments)
    (claimed : row.operationRunId = some runId) :
    row ∈ database.assignments ∧ row.id ≠ change.assignmentId := by
  rw [StagedChange.finalize] at member
  split at member
  · simp only [Database.mapAssignments, List.mem_map] at member
    obtain ⟨old, isOld, rfl⟩ := member
    split at claimed
    · cases claimed
    next unclaimed =>
      rw [if_neg unclaimed]
      refine ⟨isOld, fun same => unclaimed ?_⟩
      simp [AssignmentRow.claimedBy, same, claimed]
  · simp only [Database.mapAssignments, List.mem_map] at member
    obtain ⟨old, isOld, rfl⟩ := member
    split at claimed
    · cases claimed
    next unclaimed =>
      rw [if_neg unclaimed]
      refine ⟨isOld, fun same => unclaimed ?_⟩
      simp [AssignmentRow.claimedBy, same, claimed]
  · simp only [Database.dropAssignments, List.mem_filter] at member
    refine ⟨member.1, fun same => ?_⟩
    simp [AssignmentRow.claimedBy, same, claimed] at member

/-- The statement for one change keeps the rows of the other changes. -/
theorem mem_finalize_of_ne {runId : Nat} {change : StagedChange} {database : Database}
    {row : AssignmentRow} (member : row ∈ database.assignments)
    (other : row.id ≠ change.assignmentId) :
    row ∈ (change.finalize runId database).assignments := by
  have unclaimed : row.claimedBy change.assignmentId runId = false := by
    simp [AssignmentRow.claimedBy, other]
  rw [StagedChange.finalize]
  split
  · exact List.mem_map.mpr ⟨row, member, by simp [unclaimed]⟩
  · exact List.mem_map.mpr ⟨row, member, by simp [unclaimed]⟩
  · exact List.mem_filter.mpr ⟨member, by simp [unclaimed]⟩

/-- The rows that the statement for a change removes. -/
def goneWith (runId : Nat) (change : StagedChange) (database : Database) : List Nat :=
  if detaches change then removedIds (·.claimedBy change.assignmentId runId) database else []

/-- What a batch removes goes with its first change or with the others. -/
theorem mem_gone_cons (runId : Nat) (change : StagedChange) (changes : List StagedChange)
    (database : Database) (identifier : Nat) :
    identifier ∈ (batch runId (change :: changes)).gone database .assignment ↔
      identifier ∈ goneWith runId change database ∨
        identifier ∈ (batch runId changes).gone (change.finalize runId database) .assignment := by
  have first : identifier ∈ goneWith runId change database ↔ detaches change ∧
      identifier ∈ removedIds (·.claimedBy change.assignmentId runId) database := by
    rw [goneWith]
    split <;> simp [*]
  rw [first]
  simp only [gone, removedIds, removes, List.mem_map, List.mem_filter, Bool.and_eq_true,
    decide_eq_true_eq]
  constructor
  · rintro ⟨row, ⟨member, claimed, detached⟩, rfl⟩
    by_cases isFirst : row.id = change.assignmentId
    · left
      have found : (change :: changes).find? (·.assignmentId = row.id) = some change := by
        simp [isFirst]
      rw [found] at detached
      exact ⟨detached, row, ⟨member, by simp [AssignmentRow.claimedBy, isFirst, claimed]⟩, rfl⟩
    · right
      have skipped : (change :: changes).find? (·.assignmentId = row.id) =
          changes.find? (·.assignmentId = row.id) := by
        simp [Ne.symm isFirst]
      rw [skipped] at detached
      exact ⟨row, ⟨mem_finalize_of_ne member isFirst, claimed, detached⟩, rfl⟩
  · rintro (⟨detached, row, ⟨member, claimed⟩, rfl⟩ | ⟨row, ⟨member, claimed, detached⟩, rfl⟩)
    · simp only [AssignmentRow.claimedBy, Bool.and_eq_true, decide_eq_true_eq] at claimed
      have found : (change :: changes).find? (·.assignmentId = row.id) = some change := by
        simp [claimed.1]
      exact ⟨row, ⟨member, claimed.2, by rw [found]; exact detached⟩, rfl⟩
    · obtain ⟨wasMember, other⟩ := claimed_of_finalized member claimed
      have skipped : (change :: changes).find? (·.assignmentId = row.id) =
          changes.find? (·.assignmentId = row.id) := by
        simp [other.symm]
      exact ⟨row, ⟨wasMember, claimed, by rw [skipped]; exact detached⟩, rfl⟩

/-- A plan names no row of a union exactly when it names none of either part. -/
theorem unnamed_union (column : TargetColumn) {whole first second : List Nat}
    (split : ∀ identifier, identifier ∈ whole ↔ identifier ∈ first ∨ identifier ∈ second)
    (database : Database) :
    Unnamed column whole database ↔
      Unnamed column first database ∧ Unnamed column second database := by
  have each : ∀ plan, column.names whole plan = false ↔
      column.names first plan = false ∧ column.names second plan = false := by
    intro plan
    simp only [TargetColumn.names]
    cases column.value plan with
    | none => simp
    | some identifier => simp [split]
  constructor
  · intro unnamed
    exact ⟨fun plan member => ((each plan).mp (unnamed plan member)).1,
      fun plan member => ((each plan).mp (unnamed plan member)).2⟩
  · rintro ⟨inFirst, inSecond⟩ plan member
    exact (each plan).mpr ⟨inFirst plan member, inSecond plan member⟩

/-- What a batch removes depends on the assignments alone. -/
theorem gone_batch_congr {first second : Database}
    (same : first.assignments = second.assignments) (runId : Nat) (changes : List StagedChange) :
    (batch runId changes).gone first .assignment =
      (batch runId changes).gone second .assignment := by
  simp only [gone, same]
  rfl

/-- One statement of a finalization goes through exactly when no plan names what it deletes. -/
theorem finalizeChange_cases (runId : Nat) (change : StagedChange) (database : Database) :
    (Unnamed .assignment (goneWith runId change database) database ∧
      ∃ after, (finalizeChange runId change).run database = (.returned (), after) ∧
        after.plans = database.plans ∧
        after.assignments = (change.finalize runId database).assignments) ∨
    (¬ Unnamed .assignment (goneWith runId change database) database ∧
      ∃ fault, (finalizeChange runId change).run database = (.raised fault, database)) := by
  rcases change with ⟨⟨clientId, nodeId, nodeName, role, detail⟩, assignmentId⟩
  cases detail with
  | create _ _ =>
      refine .inl ⟨fun plan _ => ?_, _, rfl, rfl, rfl⟩
      simp [TargetColumn.names, goneWith, detaches]
  | resources _ _ _ _ =>
      refine .inl ⟨fun plan _ => ?_, _, rfl, rfl, rfl⟩
      simp [TargetColumn.names, goneWith, detaches]
  | detach _ _ =>
      by_cases unnamed : Unnamed .assignment
          (removedIds (·.claimedBy assignmentId runId) database) database
      · obtain ⟨after, ran, plans, assignments⟩ := deleteAssignments_unnamed unnamed
        exact .inl ⟨unnamed, after, ran, plans, assignments⟩
      · exact .inr ⟨unnamed, _, deleteAssignments_named unnamed⟩

/-- A finalization goes through exactly when no plan names a row that it deletes. -/
theorem forEach_finalizes (runId : Nat) (changes : List StagedChange) (database : Database) :
    (Unnamed .assignment ((batch runId changes).gone database .assignment) database ∧
      ∃ after, (forEach changes (finalizeChange runId)).run database = (.returned (), after) ∧
        after.plans = database.plans) ∨
    (¬ Unnamed .assignment ((batch runId changes).gone database .assignment) database ∧
      ∃ fault after, (forEach changes (finalizeChange runId)).run database =
        (.raised fault, after)) := by
  induction changes generalizing database with
  | nil =>
      refine .inl ⟨fun plan _ => ?_, database, rfl, rfl⟩
      simp [TargetColumn.names, gone, removes]
  | cons change changes ih =>
      have parts := unnamed_union .assignment (mem_gone_cons runId change changes database) database
      rcases finalizeChange_cases runId change database with
        ⟨unnamed, middle, ran, plans, assignments⟩ | ⟨named, fault, ran⟩
      · have sameGone := gone_batch_congr assignments runId changes
        have rest := ih middle
        have sequence : (forEach (change :: changes) (finalizeChange runId)).run database =
            (forEach changes (finalizeChange runId)).run middle := by
          rw [forEach, run_bind, ran]
        rw [sameGone, Unnamed, plans] at rest
        rw [sequence]
        rcases rest with ⟨restUnnamed, after, restRan, restPlans⟩ | ⟨restNamed, ends⟩
        · exact .inl ⟨parts.mpr ⟨unnamed, restUnnamed⟩, after, restRan, restPlans⟩
        · exact .inr ⟨fun whole => restNamed (parts.mp whole).2, ends⟩
      · refine .inr ⟨fun whole => named (parts.mp whole).1, fault, database, ?_⟩
        rw [forEach, run_bind, ran]

/-! ### Hosts, clusters and assignments -/

/-- The deletion of a row that exists, with its assignments. -/
theorem deleteOwner_cases {column : TargetColumn} {identifier : Nat} {present : Database → Bool}
    {removed : AssignmentRow → Bool} {change : Database → Database} {database : Database}
    (isPresent : present database = true) (keeps : ∀ before, (change before).plans = before.plans) :
    (Unnamed column [identifier] database ∧
        Unnamed .assignment (removedIds removed database) database ∧
      ∃ after, (deleteOwner column identifier present removed change).run database =
          (.returned true, after) ∧ after.plans = database.plans) ∨
    ((¬ Unnamed column [identifier] database ∨
        ¬ Unnamed .assignment (removedIds removed database) database) ∧
      ∃ fault, (deleteOwner column identifier present removed change).run database =
        (.raised fault, database)) := by
  by_cases ownerUnnamed : Unnamed column [identifier] database
  · by_cases unnamed : Unnamed .assignment (removedIds removed database) database
    · left
      obtain ⟨middle, ran, plans, _⟩ := deleteAssignments_unnamed unnamed
      refine ⟨ownerUnnamed, unnamed, change middle, ?_, (keeps middle).trans plans⟩
      simp [deleteOwner, atomically, run_bind, isPresent, setTargetNull_unnamed ownerUnnamed, ran]
    · right
      refine ⟨.inr unnamed, immutableContent, ?_⟩
      simp only [deleteOwner, atomically, run_bind, run_read, isPresent, if_true,
        setTargetNull_unnamed ownerUnnamed, deleteAssignments_named unnamed]
  · right
    refine ⟨.inl ownerUnnamed, immutableContent, ?_⟩
    simp only [deleteOwner, atomically, run_bind, run_read, isPresent, if_true,
      setTargetNull_named ownerUnnamed]

theorem deleteOwner_missing {column : TargetColumn} {identifier : Nat}
    {present : Database → Bool} {removed : AssignmentRow → Bool} {change : Database → Database}
    {database : Database} (isMissing : present database = false) :
    (deleteOwner column identifier present removed change).run database =
      (.returned false, database) := by
  simp [deleteOwner, atomically, run_bind, isMissing]

theorem untargeted_iff (deletion : Deletion) (database : Database) :
    deletion.Untargeted database ↔
      Unnamed .node (deletion.gone database .node) database ∧
        Unnamed .cluster (deletion.gone database .cluster) database ∧
        Unnamed .assignment (deletion.gone database .assignment) database := by
  constructor
  · intro untargeted
    exact ⟨fun plan member => untargeted plan member .node,
      fun plan member => untargeted plan member .cluster,
      fun plan member => untargeted plan member .assignment⟩
  · rintro ⟨node, cluster, assignment⟩ plan member column
    cases column with
    | node => exact node plan member
    | cluster => exact cluster plan member
    | assignment => exact assignment plan member

theorem unnamed_nil (column : TargetColumn) (database : Database) :
    Unnamed column [] database := by
  intro plan _
  simp [TargetColumn.names]

/-- How a deletion can end: it goes through and leaves the plans, or it raises because a plan
names what goes. -/
def Ends (deletion : Deletion) (database : Database) : Prop :=
  (deletion.Untargeted database ∧
    ∃ after, deletion.perform.run database = (.returned (), after) ∧
      after.plans = database.plans) ∨
  (¬ deletion.Untargeted database ∧
    ∃ fault, deletion.perform.run database = (.raised fault, database))

/-- The deletion of a host or a cluster. -/
theorem owner_ends {deletion : Deletion} {column : TargetColumn} {identifier : Nat}
    {present : Database → Bool} {removed : AssignmentRow → Bool} {change : Database → Database}
    {database : Database} (keeps : ∀ before, (change before).plans = before.plans)
    (performs : deletion.perform = do
      let _ ← deleteOwner column identifier present removed change
      pure ())
    (free : present database = false → deletion.Untargeted database)
    (targets : present database = true → (deletion.Untargeted database ↔
      Unnamed column [identifier] database ∧
        Unnamed .assignment (removedIds removed database) database)) :
    deletion.Ends database := by
  rw [Ends, performs]
  cases isPresent : present database with
  | false =>
      refine .inl ⟨free isPresent, database, ?_, rfl⟩
      rw [run_bind, deleteOwner_missing isPresent]
      rfl
  | true =>
      rw [targets isPresent]
      rcases deleteOwner_cases isPresent keeps with
        ⟨ownerUnnamed, unnamed, after, ran, plans⟩ | ⟨named, fault, ran⟩
      · refine .inl ⟨⟨ownerUnnamed, unnamed⟩, after, ?_, plans⟩
        rw [run_bind, ran]
        rfl
      · refine .inr ⟨fun both => ?_, fault, ?_⟩
        · rcases named with ownerNamed | assignmentNamed
          · exact ownerNamed both.1
          · exact assignmentNamed both.2
        · rw [run_bind, ran]

theorem node_ends (nodeId : Nat) (database : Database) : (node nodeId).Ends database := by
  have keeps : ∀ before : Database, (dropNode nodeId before).plans = before.plans := fun _ => rfl
  refine owner_ends keeps rfl ?_ ?_
  · intro isMissing
    have none : removes database (node nodeId) = fun _ => false := by
      funext row
      simp [removes, isMissing]
    rw [untargeted_iff]
    refine ⟨?_, unnamed_nil _ _, ?_⟩
    · simpa [gone, isMissing] using unnamed_nil .node database
    · simpa [gone, none] using unnamed_nil .assignment database
  · intro isPresent
    have owned : removes database (node nodeId) = fun row => decide (row.nodeId = nodeId) := by
      funext row
      simp [removes, isPresent]
    rw [untargeted_iff]
    simp only [gone, isPresent, if_true, owned]
    exact ⟨fun all => ⟨all.1, all.2.2⟩, fun both => ⟨both.1, unnamed_nil _ _, both.2⟩⟩

theorem cluster_ends (clusterId : Nat) (database : Database) :
    (cluster clusterId).Ends database := by
  have keeps : ∀ before : Database, (dropCluster clusterId before).plans = before.plans :=
    fun _ => rfl
  refine owner_ends keeps rfl ?_ ?_
  · intro isMissing
    have none : removes database (cluster clusterId) = fun _ => false := by
      funext row
      simp [removes, isMissing]
    rw [untargeted_iff]
    refine ⟨unnamed_nil _ _, ?_, ?_⟩
    · simpa [gone, isMissing] using unnamed_nil .cluster database
    · simpa [gone, none] using unnamed_nil .assignment database
  · intro isPresent
    have owned : removes database (cluster clusterId) =
        fun row => decide (row.clusterId = clusterId) := by
      funext row
      simp [removes, isPresent]
    rw [untargeted_iff]
    simp only [gone, isPresent, if_true, owned]
    exact ⟨fun all => ⟨all.2.1, all.2.2⟩, fun both => ⟨unnamed_nil _ _, both.1, both.2⟩⟩

theorem detach_ends (assignmentId : Nat) (database : Database) :
    (detach assignmentId).Ends database := by
  have targets : (detach assignmentId).Untargeted database ↔
      Unnamed .assignment (removedIds (·.id = assignmentId) database) database := by
    rw [untargeted_iff]
    exact ⟨fun all => all.2.2, fun unnamed => ⟨unnamed_nil _ _, unnamed_nil _ _, unnamed⟩⟩
  rw [Ends, targets, perform, deleteAssignment]
  by_cases unnamed : Unnamed .assignment (removedIds (·.id = assignmentId) database) database
  · obtain ⟨after, ran, plans, _⟩ := deleteAssignments_unnamed unnamed
    exact .inl ⟨unnamed, after, by simp only [atomically, ran], plans⟩
  · refine .inr ⟨unnamed, immutableContent, ?_⟩
    simp only [atomically, deleteAssignments_named unnamed]

theorem batch_ends (runId : Nat) (changes : List StagedChange) (database : Database) :
    (batch runId changes).Ends database := by
  have targets : (batch runId changes).Untargeted database ↔
      Unnamed .assignment ((batch runId changes).gone database .assignment) database := by
    rw [untargeted_iff]
    exact ⟨fun all => all.2.2, fun unnamed => ⟨unnamed_nil _ _, unnamed_nil _ _, unnamed⟩⟩
  rw [Ends, targets, perform, finalizeBatch]
  rcases forEach_finalizes runId changes database with
    ⟨unnamed, after, ran, plans⟩ | ⟨named, fault, after, ran⟩
  · exact .inl ⟨unnamed, after, by simp only [atomically, ran], plans⟩
  · exact .inr ⟨named, fault, by simp only [atomically, ran]⟩

theorem ends (deletion : Deletion) (database : Database) : deletion.Ends database := by
  cases deletion with
  | node nodeId => exact node_ends nodeId database
  | cluster clusterId => exact cluster_ends clusterId database
  | detach assignmentId => exact detach_ends assignmentId database
  | batch runId changes => exact batch_ends runId changes database

theorem clearedPlans_of_untargeted {deletion : Deletion} {database : Database}
    (untargeted : deletion.Untargeted database) :
    deletion.clearedPlans database = database.plans := by
  refine (List.map_congr_left fun plan member => ?_).trans (List.map_id _)
  rw [TargetColumn.cleared_of_unnamed (untargeted plan member .assignment),
    TargetColumn.cleared_of_unnamed (untargeted plan member .cluster),
    TargetColumn.cleared_of_unnamed (untargeted plan member .node)]
  rfl

/-- A deletion does what its foreign keys ask for exactly when no plan, whatever its state, names
a row that goes; otherwise it raises and nothing is deleted. -/
theorem succeeds_iff_untargeted (deletion : Deletion) (database : Database) :
    (deletion.Succeeds database ↔ deletion.Untargeted database) ∧
      (¬ deletion.Untargeted database →
        ∃ fault, deletion.perform.run database = (.raised fault, database)) := by
  rcases deletion.ends database with ⟨untargeted, after, ran, plans⟩ | ⟨targeted, fault, ran⟩
  · refine ⟨⟨fun _ => untargeted, fun _ => ⟨after, ran, ?_⟩⟩, fun named => absurd untargeted named⟩
    rw [plans, clearedPlans_of_untargeted untargeted]
  · refine ⟨⟨?_, fun untargeted => absurd untargeted targeted⟩, fun _ => ⟨fault, ran⟩⟩
    rintro ⟨after, returned, _⟩
    rw [ran] at returned
    cases returned

end Deletion

namespace DeletionSample

/-- A plan for the host 1 that has succeeded. -/
def plan : PlanRecord where
  id := "plan"
  runId := none
  operationKind := .reboot
  targetNodeId := some 1
  targetClusterId := none
  targetAssignmentId := none
  observationMaxAgeSeconds := 120
  observation := ⟨none, none, []⟩
  planHash := "hash"
  targetManifest := ⟨none, [], [], [], none⟩
  lifecycleState := .succeeded
  stateRevision := 4
  expiresAt := 0

def database : Database :=
  { Database.empty with
    plans := [plan]
    nodes := [⟨1, "node", true⟩] }

end DeletionSample

/-- A host whose only plan has succeeded cannot be deleted. -/
theorem succeeds_fails_for_history :
    ¬ ∀ (deletion : Deletion) (database : Database),
      (∀ plan ∈ database.plans, (∃ column : TargetColumn,
        column.names (deletion.gone database column) plan) →
          plan.lifecycleState ∈ [.succeeded, .failed, .cancelled]) →
      deletion.Succeeds database := by
  intro succeeds
  obtain ⟨after, ran, _⟩ := succeeds (.node 1) DeletionSample.database (by
    intro plan member _
    obtain rfl := List.mem_singleton.mp member
    decide)
  have raised : ((Deletion.node 1).perform.run DeletionSample.database).1 =
      .raised InventoryStore.immutableContent := by
    decide +kernel
  rw [ran] at raised
  cases raised

end ElKeeper
