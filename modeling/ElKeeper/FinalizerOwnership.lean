import ElKeeper.AssignmentRevisions
import ElKeeper.ClusterExclusion
import ElKeeper.RunFinalizers

/-!
# Finalizers touch what their runs were launched for

Along every sequence of requests that disturbs no unfinished run, a row that an
unfinished run names is the one it was launched for, an initial master that is
being purged stays alone in its cluster, and a host whose key is being revoked
stays out of every cluster.
-/

namespace ElKeeper

open Program

/-! ### Runs and their contexts -/

/-- Every run stays, with its context. -/
def RunsKept (before after : Database) : Prop :=
  ∀ runId run, before.run? runId = some run →
    ∃ kept, after.run? runId = some kept ∧ kept.context = run.context

namespace RunsKept

variable {first second third : Database}

theorem of_eq (same : second.runs = first.runs) : RunsKept first second := by
  intro runId run found
  refine ⟨run, ?_, rfl⟩
  rwa [Database.run?, same]

theorem trans (one : RunsKept first second) (two : RunsKept second third) :
    RunsKept first third := by
  intro runId run found
  obtain ⟨middle, isMiddle, sameMiddle⟩ := one runId run found
  obtain ⟨last, isLast, sameLast⟩ := two runId middle isMiddle
  exact ⟨last, isLast, sameLast.trans sameMiddle⟩

theorem of_append {row : RunRow} (added : second.runs = first.runs ++ [row]) :
    RunsKept first second := by
  intro runId run found
  refine ⟨run, ?_, rfl⟩
  simp only [Database.run?] at found ⊢
  rw [added, List.find?_append, found, Option.some_or]

theorem setRunStatus (runId : Nat) (status : RunStatus) (database : Database) :
    RunsKept database (database.setRunStatus runId status) := by
  intro other run found
  simp only [Database.run?] at found
  refine ⟨if run.id = runId then { run with status := status } else run, ?_, ?_⟩
  · simp only [Database.run?, Database.setRunStatus, List.find?_map]
    have sameTest : ((fun row : RunRow => decide (row.id = other)) ∘ fun row =>
        if row.id = runId then { row with status := status } else row) =
        fun row => decide (row.id = other) := by
      funext row
      simp only [Function.comp]
      split <;> rfl
    rw [sameTest, found, Option.map_some]
  · split <;> rfl

end RunsKept

/-- The identifiers that a context names are those of the subject. -/
structure Names (context : Dict) (subject : RunSubject) : Prop where
  purge : ∀ assignmentId,
    RunLifecycle.contextId context "purge_assignment_id" = some assignmentId →
      ∃ incarnation, subject = .purge assignmentId incarnation
  revocation : ∀ nodeId, RunLifecycle.contextId context "delete_node_after_revoke" = some nodeId →
    subject = .revocation nodeId
  rollback : ∀ assignmentId, ResourceUpdates.rollbackAssignment context = some assignmentId →
    ∃ incarnation, subject = .resources assignmentId incarnation

theorem contextId_num {context : Dict} {key : String} {identifier found : Nat}
    (known : context.get key = some (.num (identifier : Int)))
    (named : RunLifecycle.contextId context key = some found) : found = identifier := by
  simp only [RunLifecycle.contextId, known] at named
  split at named
  · cases named
  · cases named
    simp

theorem rollbackAssignment_eq (context : Dict) :
    ResourceUpdates.rollbackAssignment context =
      RunLifecycle.contextId context "rollback_assignment_id" :=
  rfl

/-! ### What the end of a run does -/

/-- The tables of the inventory are the same. -/
structure SameTables (before after : Database) : Prop where
  assignments : after.assignments = before.assignments
  nodes : after.nodes = before.nodes
  memberships : after.memberships = before.memberships

/-- What the transaction of `finalize` may do, by the subject of the run. -/
inductive Finalizes (before after : Database) : RunSubject → Prop where
  | nothing {subject : RunSubject} (same : SameTables before after) :
      Finalizes before after subject
  | purge {assignmentId incarnation : Nat}
      (same : SameTables (WorkloadStore.deleteAssignment assignmentId before) after) :
      Finalizes before after (.purge assignmentId incarnation)
  | restore {assignmentId incarnation : Nat} {config : Dict}
      (same : SameTables (ResourceUpdates.writeConfig assignmentId config before) after) :
      Finalizes before after (.resources assignmentId incarnation)
  | revoke {nodeId : Nat} (same : SameTables (before.deleteNode nodeId) after) :
      Finalizes before after (.revocation nodeId)

theorem applyResult_run (context : Dict) (database : Database) :
    ∃ after, (RunLifecycle.applyResult context).run database = (.returned (), after) ∧
      after.runs = database.runs ∧
      ∀ subject, Names context subject → Finalizes database after subject := by
  simp only [RunLifecycle.applyResult, run_bind]
  cases purged : RunLifecycle.contextId context "purge_assignment_id" with
  | some assignmentId =>
      cases revoked : RunLifecycle.contextId context "delete_node_after_revoke" with
      | some nodeId =>
          refine ⟨_, rfl, rfl, fun subject names => ?_⟩
          obtain ⟨_, isPurge⟩ := names.purge _ purged
          rw [names.revocation _ revoked] at isPurge
          cases isPurge
      | none =>
          refine ⟨_, rfl, rfl, fun subject names => ?_⟩
          obtain ⟨_, rfl⟩ := names.purge _ purged
          exact .purge ⟨rfl, rfl, rfl⟩
  | none =>
      cases revoked : RunLifecycle.contextId context "delete_node_after_revoke" with
      | some nodeId =>
          refine ⟨_, rfl, rfl, fun subject names => ?_⟩
          rw [names.revocation _ revoked]
          exact .revoke ⟨rfl, rfl, rfl⟩
      | none => exact ⟨_, rfl, rfl, fun subject _ => .nothing ⟨rfl, rfl, rfl⟩⟩

/-- The restoring part writes one configuration, if it writes at all. -/
theorem restorePrevious_returned {context : Dict} {database after : Database}
    (ran : (ResourceUpdates.restorePrevious context).run database = (.returned (), after)) :
    after.runs = database.runs ∧
      ∀ subject, Names context subject → Finalizes database after subject := by
  simp only [ResourceUpdates.restorePrevious] at ran
  cases named : ResourceUpdates.rollbackAssignment context with
  | none =>
      rw [named] at ran
      cases ran
      exact ⟨rfl, fun subject _ => .nothing ⟨rfl, rfl, rfl⟩⟩
  | some assignmentId =>
      rw [named] at ran
      obtain ⟨previous, between, isPrevious, written⟩ := bind_eq_returned ran
      obtain ⟨_, rfl⟩ := ofExcept_eq_returned isPrevious
      cases written
      refine ⟨rfl, fun subject names => ?_⟩
      obtain ⟨_, rfl⟩ := names.rollback _ named
      exact .restore ⟨rfl, rfl, rfl⟩

/-- What follows a finalization without touching the inventory adds nothing to it. -/
theorem Finalizes.same {before middle after : Database} {subject : RunSubject}
    (finalizes : Finalizes before middle subject) (same : SameTables middle after) :
    Finalizes before after subject := by
  have trans : ∀ {first}, SameTables first middle → SameTables first after := fun one =>
    ⟨same.assignments.trans one.assignments, same.nodes.trans one.nodes,
      same.memberships.trans one.memberships⟩
  cases finalizes with
  | nothing one => exact .nothing (trans one)
  | purge one => exact .purge (trans one)
  | restore one => exact .restore (trans one)
  | revoke one => exact .revoke (trans one)

/-- The committed end of a run, by the subject that its context names. -/
theorem finalized_cases {controller : InventoryController} {runId : Nat} {run : RunRow}
    (found : controller.database.run? runId = some run) (succeeded : Bool) :
    RunsKept controller.database (controller.finalized runId succeeded) ∧
      ∀ subject, Names run.context subject →
        Finalizes controller.database (controller.finalized runId succeeded) subject := by
  have context : (ResourceUpdates.contextOf runId).run controller.database =
      (.returned run.context, controller.database) := by
    simp only [ResourceUpdates.contextOf, run_bind, run_read, found, run_pure]
  have unchanged : RunsKept controller.database controller.database ∧
      ∀ subject, Names run.context subject →
        Finalizes controller.database controller.database subject :=
    ⟨.of_eq rfl, fun _ _ => .nothing ⟨rfl, rfl, rfl⟩⟩
  simp only [InventoryController.finalized, ResourceController.committed, RunLifecycle.finalize,
    run_bind, context]
  cases succeeded with
  | true =>
      obtain ⟨after, ran, sameRuns, finalizes⟩ := applyResult_run run.context controller.database
      simp only [if_true, run_bind, ran, Runs.finishRun, run_update]
      refine ⟨(RunsKept.of_eq sameRuns).trans (.setRunStatus runId _ after), fun subject names => ?_⟩
      exact (finalizes subject names).same ⟨rfl, rfl, rfl⟩
  | false =>
      simp only [Bool.false_eq_true, if_false, run_bind]
      rcases ran : (ResourceUpdates.restorePrevious run.context).run controller.database
        with ⟨outcome, after⟩
      cases outcome with
      | raised error => exact unchanged
      | stopped => exact unchanged
      | returned _ =>
          obtain ⟨sameRuns, finalizes⟩ := restorePrevious_returned ran
          simp only [Runs.finishRun, run_update]
          refine ⟨(RunsKept.of_eq sameRuns).trans (.setRunStatus runId _ after),
            fun subject names => ?_⟩
          exact (finalizes subject names).same ⟨rfl, rfl, rfl⟩

/-! ### What the routes do -/

namespace InventoryRoutes

open WorkloadStore

variable {guards : RouteGuards} {database after : Database}

theorem requireMutable_readOnly (guards : RouteGuards) (clusterId : Nat) :
    ReadOnly (requireMutable guards clusterId) :=
  .bind (.read _) fun _ => .bind (.ofExcept _) fun _ => .bind (.read _) fun _ => .ofExcept _

/-- An added assignment is without conflict and on a member of a cluster; it replaces the row of
its place or is a new one. -/
theorem addAssignment_returned {clusterId nodeId : Nat} {role : Role} {config : Dict}
    {assignmentId : Nat}
    (ran : (addAssignment guards clusterId nodeId role config).run database =
      (.returned assignmentId, after)) :
    (database.cluster? clusterId).isSome ∧
      guards.conflictMessage database clusterId nodeId role = none ∧
      (clusterId, nodeId) ∈ database.memberships ∧
      ((∃ existing, database.assignments.find? (sitsAt clusterId nodeId role) = some existing ∧
          assignmentId = existing.id ∧
          after = database.mapAssignments fun row =>
            if sitsAt clusterId nodeId role row then
              { row with config := sealConfig config, state := .active }
            else row) ∨
        (database.assignments.find? (sitsAt clusterId nodeId role) = none ∧
          assignmentId = Database.nextId (database.assignments.map (·.id)) ∧
          after = database.addAssignment (addedRow clusterId nodeId assignmentId role config))) := by
  obtain ⟨_, _, valid, checked⟩ := bind_eq_returned ran
  obtain ⟨_, rfl⟩ := ofExcept_eq_returned valid
  obtain ⟨cluster, _, found, next⟩ := bind_eq_returned checked
  obtain ⟨isFound, rfl⟩ := ClusterOperation.clusterRecord_returned found
  obtain ⟨_, _, mutable, rest⟩ := bind_eq_returned next
  obtain rfl := (requireMutable_readOnly guards clusterId).returned mutable
  obtain ⟨member, _, wasRead, tail⟩ := bind_eq_returned rest
  cases wasRead
  obtain ⟨_, _, required, later⟩ := bind_eq_returned tail
  obtain ⟨isMember, rfl⟩ := require_eq_returned required
  refine ⟨by simp [isFound], ?_⟩
  obtain ⟨conflict, _, wasRead, onward⟩ := bind_eq_returned later
  cases wasRead
  split at onward
  · cases onward
  · rename_i unconflicted
    refine ⟨unconflicted, by simpa using isMember, ?_⟩
    obtain ⟨result, between, attempted, further⟩ := bind_eq_returned onward
    cases result with
    | error error => cases further
    | ok identifier =>
        cases further
        have upserted := attempt_eq_returned attempted
        obtain ⟨existing, _, wasRead, upserted⟩ := bind_eq_returned upserted
        cases wasRead
        dsimp only at upserted
        split at upserted
        · rename_i row isFound
          cases upserted
          exact .inl ⟨row, isFound, rfl, rfl⟩
        · rename_i missing
          obtain ⟨allowed, _, wasRead, permitted⟩ := bind_eq_returned upserted
          cases wasRead
          obtain ⟨_, _, required, inserted⟩ := bind_eq_returned permitted
          obtain ⟨_, rfl⟩ := require_eq_returned required
          cases inserted
          exact .inr ⟨missing, rfl, rfl⟩

/-- A removed assignment exists and may be removed; a purge changes nothing yet. -/
theorem removeAssignment_returned {assignmentId : Nat} {mode : RemovalMode}
    {launch : Option PurgeLaunch} (unique : (database.assignments.map (·.id)).Nodup)
    (ran : (removeAssignment guards assignmentId mode).run database = (.returned launch, after)) :
    database.Removable assignmentId ∧
      ((launch = none ∧ after = deleteAssignment assignmentId database) ∨
        (launch.isSome ∧ after = database)) := by
  obtain ⟨found, _, wasRead, checked⟩ := bind_eq_returned ran
  cases wasRead
  obtain ⟨row, _, isRow, next⟩ := bind_eq_returned checked
  obtain ⟨isFound, rfl⟩ := ofExcept_eq_returned isRow
  obtain ⟨_, _, mutable, rest⟩ := bind_eq_returned next
  obtain rfl := (requireMutable_readOnly guards row.clusterId).returned mutable
  obtain ⟨_, _, required, tail⟩ := bind_eq_returned rest
  obtain ⟨_, rfl⟩ := require_eq_returned required
  obtain ⟨dependents, _, wasRead, later⟩ := bind_eq_returned tail
  cases wasRead
  obtain ⟨_, _, required, onward⟩ := bind_eq_returned later
  obtain ⟨alone, rfl⟩ := require_eq_returned required
  obtain ⟨isId, isRecord⟩ := WorkloadPayload.assignmentRecord_ok isFound
  have rowMember : row ∈ _ := List.mem_of_find?_eq_some isRecord
  constructor
  · intro other member isOther initial sibling siblingMember sameCluster
    have same : other = row :=
      List.inj_on_of_nodup_map unique member rowMember (isOther.trans isId.symm)
    subst same
    obtain ⟨⟨master, masterMember, _, isMaster, masterId⟩, _⟩ :=
      Database.initialMaster?_eq_some.mp initial
    have same : master = other :=
      List.inj_on_of_nodup_map unique masterMember member (masterId.trans isOther.symm)
    subst same
    by_contra different
    refine absurd alone ?_
    simp only [Bool.not_eq_true', Bool.and_eq_false_iff, not_or]
    refine ⟨by simp [isMaster], ?_⟩
    simp only [Database.initialMasterHasDependents, initial, Bool.not_eq_false, Bool.and_eq_true,
      decide_true, true_and]
    exact List.any_eq_true.mpr ⟨sibling, siblingMember, by simp [sameCluster, different]⟩
  · cases mode with
    | detach =>
        cases onward
        exact .inl ⟨rfl, rfl⟩
    | purge =>
        obtain ⟨payload, _, wasRead, further⟩ := bind_eq_returned onward
        cases wasRead
        obtain ⟨_, _, built, beyond⟩ := bind_eq_returned further
        obtain ⟨_, rfl⟩ := ofExcept_eq_returned built
        obtain ⟨target, _, wasRead, remaining⟩ := bind_eq_returned beyond
        cases wasRead
        cases remaining
        exact .inr ⟨rfl, rfl⟩

theorem addMember_returned {clusterId nodeId : Nat} {value : Unit}
    (ran : (addMember guards clusterId nodeId).run database = (.returned value, after)) :
    after = { database with memberships := database.memberships ++ [(clusterId, nodeId)] } := by
  obtain ⟨cluster, _, found, checked⟩ := bind_eq_returned ran
  obtain ⟨_, rfl⟩ := ClusterOperation.clusterRecord_returned found
  obtain ⟨_, _, mutable, next⟩ := bind_eq_returned checked
  obtain rfl := (requireMutable_readOnly guards clusterId).returned mutable
  obtain ⟨node, _, wasRead, rest⟩ := bind_eq_returned next
  cases wasRead
  split at rest
  · cases rest
  · obtain ⟨_, _, required, tail⟩ := bind_eq_returned rest
    obtain ⟨_, rfl⟩ := require_eq_returned required
    obtain ⟨zoned, _, wasRead, later⟩ := bind_eq_returned tail
    cases wasRead
    obtain ⟨_, _, isZoned, onward⟩ := bind_eq_returned later
    obtain ⟨_, rfl⟩ := ofExcept_eq_returned isZoned
    obtain ⟨present, _, wasRead, further⟩ := bind_eq_returned onward
    cases wasRead
    obtain ⟨_, _, required, beyond⟩ := bind_eq_returned further
    obtain ⟨_, rfl⟩ := require_eq_returned required
    cases beyond
    rfl

theorem removeMember_returned {clusterId nodeId : Nat} {value : Unit}
    (ran : (removeMember guards clusterId nodeId).run database = (.returned value, after)) :
    (∀ row ∈ database.assignments, ¬ (row.clusterId = clusterId ∧ row.nodeId = nodeId)) ∧
      after = { database with
        memberships := database.memberships.filter (· ≠ (clusterId, nodeId)) } := by
  obtain ⟨_, _, mutable, checked⟩ := bind_eq_returned ran
  obtain rfl := (requireMutable_readOnly guards clusterId).returned mutable
  obtain ⟨occupied, _, wasRead, next⟩ := bind_eq_returned checked
  cases wasRead
  obtain ⟨_, _, required, rest⟩ := bind_eq_returned next
  obtain ⟨free, rfl⟩ := require_eq_returned required
  cases rest
  refine ⟨?_, rfl⟩
  simpa using free

/-- A host is deleted, or its key is revoked, only outside every cluster. -/
theorem deleteNode_returned {nodeId : Nat} {keyInstalled : Bool} {deletion : NodeDeletion}
    {node : Option NodeRow}
    (ran : (deleteNode guards nodeId keyInstalled deletion).run database =
      (.returned node, after)) :
    database.hasMembership nodeId = false ∧
      ((node = none ∧ after = database.deleteNode nodeId) ∨ (node.isSome ∧ after = database)) := by
  obtain ⟨found, _, wasRead, checked⟩ := bind_eq_returned ran
  cases wasRead
  split at checked
  · cases checked
  · obtain ⟨idle, _, wasRead, next⟩ := bind_eq_returned checked
    cases wasRead
    obtain ⟨_, _, isIdle, rest⟩ := bind_eq_returned next
    obtain ⟨_, rfl⟩ := ofExcept_eq_returned isIdle
    obtain ⟨member, _, wasRead, tail⟩ := bind_eq_returned rest
    cases wasRead
    obtain ⟨_, _, required, later⟩ := bind_eq_returned tail
    obtain ⟨outside, rfl⟩ := require_eq_returned required
    refine ⟨by simpa using outside, ?_⟩
    cases deletion with
    | revokeControllerKey =>
        obtain ⟨_, _, required, onward⟩ := bind_eq_returned later
        obtain ⟨_, rfl⟩ := require_eq_returned required
        cases onward
        exact .inr ⟨rfl, rfl⟩
    | recordsOnly =>
        cases later
        exact .inl ⟨rfl, rfl⟩
    | plain =>
        obtain ⟨_, _, required, further⟩ := bind_eq_returned later
        obtain ⟨_, rfl⟩ := require_eq_returned required
        cases further
        exact .inl ⟨rfl, rfl⟩

end InventoryRoutes

/-! ### The invariant -/

namespace InventoryController

structure Invariant (controller : InventoryController) : Prop where
  sound : controller.database.InventorySound
  known : ∀ launch ∈ controller.launches, (controller.database.run? launch.runId).isSome
  named : ∀ runId ∈ controller.live, ∃ launch ∈ controller.launches, launch.runId = runId ∧
    ∃ run, controller.database.run? runId = some run ∧ Names run.context launch.subject
  current : ∀ launch, controller.Unfinished launch → ∀ assignmentId incarnation,
    launch.subject.assignment? = some (assignmentId, incarnation) →
    assignmentId ∈ controller.database.assignments.map (·.id) →
    controller.incarnations assignmentId = incarnation
  removable : ∀ launch, controller.Unfinished launch → ∀ assignmentId incarnation,
    launch.subject = .purge assignmentId incarnation →
    controller.database.Removable assignmentId
  vacant : ∀ launch, controller.Unfinished launch → ∀ nodeId,
    launch.subject = .revocation nodeId → controller.database.hasMembership nodeId = false

variable {controller : InventoryController}

/-- A change of the database that keeps what unfinished runs rely on. -/
theorem Invariant.step (holds : controller.Invariant) {after : Database}
    {incarnations : Nat → Nat} (sound : after.InventorySound)
    (runs : RunsKept controller.database after)
    (current : ∀ launch, controller.Unfinished launch → ∀ assignmentId incarnation,
      launch.subject.assignment? = some (assignmentId, incarnation) →
      assignmentId ∈ after.assignments.map (·.id) →
      assignmentId ∈ controller.database.assignments.map (·.id) ∧
        incarnations assignmentId = controller.incarnations assignmentId)
    (removable : ∀ launch, controller.Unfinished launch → ∀ assignmentId incarnation,
      launch.subject = .purge assignmentId incarnation →
      controller.database.Removable assignmentId → after.Removable assignmentId)
    (vacant : ∀ launch, controller.Unfinished launch → ∀ nodeId,
      launch.subject = .revocation nodeId →
      controller.database.hasMembership nodeId = false → after.hasMembership nodeId = false) :
    Invariant { controller with database := after, incarnations := incarnations } where
  sound := sound
  known launch member := by
    obtain ⟨run, found⟩ := Option.isSome_iff_exists.mp (holds.known launch member)
    obtain ⟨kept, isKept, _⟩ := runs launch.runId run found
    exact Option.isSome_iff_exists.mpr ⟨kept, isKept⟩
  named runId isLive := by
    obtain ⟨launch, member, isRun, run, found, names⟩ := holds.named runId isLive
    obtain ⟨kept, isKept, sameContext⟩ := runs runId run found
    exact ⟨launch, member, isRun, kept, isKept, sameContext ▸ names⟩
  current launch unfinished assignmentId incarnation isSubject present := by
    obtain ⟨was, same⟩ := current launch unfinished assignmentId incarnation isSubject present
    exact same.trans (holds.current launch unfinished assignmentId incarnation isSubject was)
  removable launch unfinished assignmentId incarnation isSubject :=
    removable launch unfinished assignmentId incarnation isSubject
      (holds.removable launch unfinished assignmentId incarnation isSubject)
  vacant launch unfinished nodeId isSubject :=
    vacant launch unfinished nodeId isSubject (holds.vacant launch unfinished nodeId isSubject)

/-- As `Invariant.step`, for a change that adds no assignment. -/
theorem Invariant.shrink (holds : controller.Invariant) {after : Database}
    (sound : after.InventorySound) (runs : RunsKept controller.database after)
    (ids : after.assignments.map (·.id) ⊆ controller.database.assignments.map (·.id))
    (removable : ∀ assignmentId, controller.database.Removable assignmentId →
      after.Removable assignmentId)
    (memberships : after.memberships ⊆ controller.database.memberships) :
    Invariant { controller with database := after } := by
  refine holds.step sound runs (fun _ _ _ _ _ present => ⟨ids present, rfl⟩)
    (fun _ _ assignmentId _ _ => removable assignmentId) fun _ _ nodeId _ empty => ?_
  simp only [Database.hasMembership, List.any_eq_false] at empty ⊢
  exact fun place member => empty place (memberships member)

/-- A new run for a subject that is as its finalizer expects it. -/
theorem Invariant.launch (holds : controller.Invariant) {kind target : String} {context : Dict}
    {subject : RunSubject} (names : Names (Json.redactDict context) subject)
    (current : ∀ assignmentId incarnation,
      subject.assignment? = some (assignmentId, incarnation) →
      controller.incarnations assignmentId = incarnation)
    (removable : ∀ assignmentId incarnation, subject = .purge assignmentId incarnation →
      controller.database.Removable assignmentId)
    (vacant : ∀ nodeId, subject = .revocation nodeId →
      controller.database.hasMembership nodeId = false) :
    (controller.launch kind target context subject).Invariant := by
  let runId := Database.nextId (controller.database.runs.map (·.id))
  let row : RunRow := ⟨runId, kind, target, .running, Json.redactDict context⟩
  let after : Database := { controller.database with runs := controller.database.runs ++ [row] }
  have unlisted : controller.database.run? runId = none := by
    refine List.find?_eq_none.mpr fun run member isRun => ?_
    have smaller := WorkloadStore.lt_nextId (List.mem_map_of_mem (f := (·.id)) member)
    simp only [decide_eq_true_eq] at isRun
    exact Nat.ne_of_lt smaller isRun
  have kept : RunsKept controller.database after := .of_append rfl
  have added : after.run? runId = some row := by
    simp only [Database.run?] at unlisted
    simp [after, row, Database.run?, List.find?_append, unlisted]
  have launched : controller.launch kind target context subject =
      { controller with
        database := after
        live := runId :: controller.live
        launches := controller.launches ++ [⟨runId, subject⟩] } := by
    simp only [InventoryController.launch, startRun_run]
    rfl
  rw [launched]
  have older : ∀ launch ∈ controller.launches, launch.runId ≠ runId := by
    intro launch member isRun
    have known := holds.known launch member
    rw [isRun, unlisted] at known
    cases known
  -- An unfinished launch is the new one or was unfinished before.
  have unfinished : ∀ launch, Unfinished { controller with
        database := after
        live := runId :: controller.live
        launches := controller.launches ++ [⟨runId, subject⟩] } launch →
      launch.subject = subject ∨ controller.Unfinished launch := by
    rintro launch ⟨member, isLive⟩
    rcases List.mem_append.mp member with earlier | last
    · rcases List.mem_cons.mp isLive with isNew | wasLive
      · exact absurd isNew (older launch earlier)
      · exact .inr ⟨earlier, wasLive⟩
    · rw [List.mem_singleton.mp last]
      exact .inl rfl
  refine ⟨⟨holds.sound.assignment_ids, holds.sound.housed⟩, ?_, ?_, ?_, ?_, ?_⟩
  · intro launch member
    rcases List.mem_append.mp member with earlier | last
    · obtain ⟨run, found⟩ := Option.isSome_iff_exists.mp (holds.known launch earlier)
      obtain ⟨same, isSame, _⟩ := kept launch.runId run found
      exact Option.isSome_iff_exists.mpr ⟨same, isSame⟩
    · rw [List.mem_singleton.mp last]
      exact Option.isSome_iff_exists.mpr ⟨row, added⟩
  · intro other isLive
    rcases List.mem_cons.mp isLive with rfl | wasLive
    · exact ⟨⟨runId, subject⟩, by simp, rfl, row, added, names⟩
    · obtain ⟨launch, member, isRun, run, found, named⟩ := holds.named other wasLive
      obtain ⟨same, isSame, sameContext⟩ := kept other run found
      exact ⟨launch, by simp [member], isRun, same, isSame, sameContext ▸ named⟩
  · intro launch isUnfinished assignmentId incarnation isSubject present
    rcases unfinished launch isUnfinished with isNew | before
    · exact current assignmentId incarnation (isNew ▸ isSubject)
    · exact holds.current launch before assignmentId incarnation isSubject present
  · intro launch isUnfinished assignmentId incarnation isSubject
    rcases unfinished launch isUnfinished with isNew | before
    · exact removable assignmentId incarnation (isNew ▸ isSubject)
    · exact holds.removable launch before assignmentId incarnation isSubject
  · intro launch isUnfinished nodeId isSubject
    rcases unfinished launch isUnfinished with isNew | before
    · exact vacant nodeId (isNew ▸ isSubject)
    · exact holds.vacant launch before nodeId isSubject

/-! ### One action -/

/-- Rows that stay where they are keep the inventory sound. -/
theorem inventorySound_map {before after : Database} (sound : before.InventorySound)
    {change : AssignmentRow → AssignmentRow}
    (changed : after.assignments = before.assignments.map change)
    (memberships : after.memberships = before.memberships)
    (same : ∀ row, (change row).id = row.id ∧ (change row).clusterId = row.clusterId ∧
      (change row).nodeId = row.nodeId) : after.InventorySound := by
  constructor
  · rw [changed, List.map_map]
    have ids : ((·.id) ∘ change) = fun row : AssignmentRow => row.id := funext fun row => (same row).1
    rw [ids]
    exact sound.assignment_ids
  · intro row member
    rw [changed] at member
    obtain ⟨source, sourceMember, rfl⟩ := List.mem_map.mp member
    rw [memberships, (same source).2.1, (same source).2.2]
    exact sound.housed source sourceMember

theorem map_ids_subset {before after : Database} {change : AssignmentRow → AssignmentRow}
    (changed : after.assignments = before.assignments.map change)
    (same : ∀ row, (change row).id = row.id) :
    after.assignments.map (·.id) ⊆ before.assignments.map (·.id) := by
  rw [changed, List.map_map]
  have ids : ((·.id) ∘ change) = fun row : AssignmentRow => row.id := funext same
  rw [ids]
  exact List.Subset.refl _

/-- Rewriting rows in place keeps the invariant. -/
theorem Invariant.rewrite (holds : controller.Invariant) {after : Database}
    {change : AssignmentRow → AssignmentRow}
    (changed : after.assignments = controller.database.assignments.map change)
    (memberships : after.memberships = controller.database.memberships)
    (runs : RunsKept controller.database after)
    (same : ∀ row, (change row).id = row.id ∧ (change row).clusterId = row.clusterId ∧
      (change row).nodeId = row.nodeId ∧ (change row).role = row.role) :
    Invariant { controller with database := after } := by
  refine holds.shrink (inventorySound_map holds.sound changed memberships
      fun row => ⟨(same row).1, (same row).2.1, (same row).2.2.1⟩) runs
    (map_ids_subset changed fun row => (same row).1) (fun assignmentId removable => ?_) ?_
  · exact removable.of_map changed fun row => ⟨(same row).1, (same row).2.1, (same row).2.2.2⟩
  · rw [memberships]
    exact List.Subset.refl _

/-- Deleting an assignment that may be removed keeps the invariant. -/
theorem Invariant.delete (holds : controller.Invariant) {after : Database} {assignmentId : Nat}
    (allowed : controller.database.Removable assignmentId)
    (same : SameTables (WorkloadStore.deleteAssignment assignmentId controller.database) after)
    (runs : RunsKept controller.database after) :
    Invariant { controller with database := after } := by
  have kept : after.assignments.Sublist controller.database.assignments := by
    rw [same.assignments]
    exact List.filter_sublist
  refine holds.shrink ⟨holds.sound.assignment_ids.sublist (kept.map _), fun row member => ?_⟩ runs
    (kept.map _).subset (fun other removable => ?_) ?_
  · rw [same.memberships]
    exact holds.sound.housed row (kept.subset member)
  · have removed := removable.delete allowed
    simp only [Database.Removable, Database.initialMaster?, same.assignments] at removed ⊢
    exact removed
  · rw [same.memberships]
    exact List.Subset.refl _

/-- A host outside every cluster has no assignments. -/
theorem Invariant.no_assignments (holds : controller.Invariant) {nodeId : Nat}
    (outside : controller.database.hasMembership nodeId = false) :
    ∀ row ∈ controller.database.assignments, row.nodeId ≠ nodeId := by
  intro row member here
  simp only [Database.hasMembership, List.any_eq_false] at outside
  exact outside _ (holds.sound.housed row member) (by simp [here])

/-- Deleting a host outside every cluster deletes nothing else. -/
theorem Invariant.deleteHost (holds : controller.Invariant) {after : Database} {nodeId : Nat}
    (outside : controller.database.hasMembership nodeId = false)
    (same : SameTables (controller.database.deleteNode nodeId) after)
    (runs : RunsKept controller.database after) :
    Invariant { controller with database := after } := by
  have rows : after.assignments = controller.database.assignments := by
    rw [same.assignments]
    exact List.filter_eq_self.mpr fun row member => by
      simp [holds.no_assignments outside row member]
  have places : after.memberships = controller.database.memberships := by
    rw [same.memberships]
    simp only [Database.hasMembership, List.any_eq_false] at outside
    exact List.filter_eq_self.mpr fun place member => by simpa using outside place member
  exact holds.rewrite (by rw [rows, List.map_id']) places runs fun _ => ⟨rfl, rfl, rfl, rfl⟩

theorem Invariant.addAssignment (holds : controller.Invariant) {guards : RouteGuards}
    {clusterId nodeId : Nat} {role : Role} {config : Dict}
    (undisturbing : controller.Undisturbing
      (.addAssignment guards clusterId nodeId role config)) :
    (controller.addAssignment guards clusterId nodeId role config).Invariant := by
  rcases ran : (InventoryRoutes.addAssignment guards clusterId nodeId role config).run
    controller.database with ⟨outcome, after⟩
  simp only [InventoryController.addAssignment, ran]
  cases outcome with
  | raised error => exact holds
  | stopped => exact holds
  | returned assignmentId =>
      obtain ⟨_, _, isMember, ⟨existing, found, rfl, rfl⟩ | ⟨missing, isNext, rfl⟩⟩ :=
        InventoryRoutes.addAssignment_returned ran
      · have isRow : existing ∈ controller.database.assignments := List.mem_of_find?_eq_some found
        have present : controller.database.assignment? existing.id ≠ none := by
          intro missing
          have missed := List.find?_eq_none.mp missing existing isRow
          simp at missed
        simp only [present, and_false, if_false]
        refine holds.rewrite rfl rfl (.of_eq rfl) fun row => ?_
        split <;> exact ⟨rfl, rfl, rfl, rfl⟩
      · have fresh : ∀ row ∈ controller.database.assignments, row.id < assignmentId := by
          intro row member
          rw [isNext]
          exact WorkloadStore.lt_nextId (List.mem_map_of_mem member)
        have unnoticed := undisturbing missing
        have rows : ∀ row ∈ (controller.database.addAssignment
            (WorkloadStore.addedRow clusterId nodeId assignmentId role config)).assignments,
            row ∈ controller.database.assignments ∨
              row = WorkloadStore.addedRow clusterId nodeId assignmentId role config := by
          simp [Database.addAssignment]
        refine holds.step ⟨?_, ?_⟩ (.of_eq rfl) ?_ ?_ fun _ _ _ _ empty => empty
        · refine WorkloadStore.nodup_append_fresh _ holds.sound.assignment_ids fun row member => ?_
          exact Nat.ne_of_lt (fresh row member)
        · intro row member
          rcases rows row member with before | rfl
          · exact holds.sound.housed row before
          · exact isMember
        · intro launch isUnfinished named incarnation isSubject present
          have isOther : named ≠ assignmentId := by
            rintro rfl
            exact (unnoticed launch isUnfinished).1 incarnation (isNext ▸ isSubject)
          refine ⟨?_, by simp [isOther]⟩
          obtain ⟨row, member, rfl⟩ := List.mem_map.mp present
          rcases rows row member with before | rfl
          · exact List.mem_map_of_mem before
          · exact absurd rfl isOther
        · intro launch isUnfinished named incarnation isSubject removable
          obtain ⟨unnamed, apart⟩ := unnoticed launch isUnfinished
          refine removable.add fresh (apart named incarnation isSubject) ?_
          rintro rfl
          refine unnamed incarnation ?_
          rw [isSubject, ← isNext]
          rfl

/-- The keys of the contexts are not secret. -/
theorem context_keys_public : Json.secretName "purge_assignment_id" = false ∧
    Json.secretName "filebeat_reconcile_cluster_id" = false ∧
    Json.secretName "delete_node_after_revoke" = false ∧
    Json.secretName "rollback_assignment_id" = false ∧
    Json.secretName "previous_config" = false := by
  decide +kernel

/-- The context of a purge names its assignment. -/
theorem names_purge (assignmentId incarnation clusterId : Nat) :
    Names (Json.redactDict [("purge_assignment_id", .num (assignmentId : Int)),
      ("filebeat_reconcile_cluster_id", .num (clusterId : Int))])
      (.purge assignmentId incarnation) := by
  have redacted : Json.redactDict [("purge_assignment_id", .num (assignmentId : Int)),
      ("filebeat_reconcile_cluster_id", .num (clusterId : Int))] =
      [("purge_assignment_id", .num (assignmentId : Int)),
        ("filebeat_reconcile_cluster_id", .num (clusterId : Int))] := by
    simp [Json.redactDict, Json.redact, context_keys_public]
  rw [redacted]
  constructor
  · intro found named
    exact ⟨incarnation, by rw [contextId_num rfl named]⟩
  · intro nodeId named
    simp [RunLifecycle.contextId, Dict.get, List.lookup_cons] at named
  · intro found named
    simp [ResourceUpdates.rollbackAssignment, Dict.get, List.lookup_cons] at named

theorem names_revocation (nodeId : Nat) :
    Names (Json.redactDict [("delete_node_after_revoke", .num (nodeId : Int))])
      (.revocation nodeId) := by
  have redacted : Json.redactDict [("delete_node_after_revoke", .num (nodeId : Int))] =
      [("delete_node_after_revoke", .num (nodeId : Int))] := by
    simp [Json.redactDict, Json.redact, context_keys_public]
  rw [redacted]
  constructor
  · intro found named
    simp [RunLifecycle.contextId, Dict.get, List.lookup_cons] at named
  · intro found named
    rw [contextId_num rfl named]
  · intro found named
    simp [ResourceUpdates.rollbackAssignment, Dict.get, List.lookup_cons] at named

theorem names_resources (assignmentId incarnation : Nat) (launch : ResourceLaunch) :
    Names (Json.redactDict (ResourceUpdates.resourceContext assignmentId launch))
      (.resources assignmentId incarnation) := by
  have redacted : Json.redactDict (ResourceUpdates.resourceContext assignmentId launch) =
      [("rollback_assignment_id", .num (assignmentId : Int)),
        ("previous_config", .obj (Json.redactDict launch.previous)),
        ("filebeat_reconcile_cluster_id", .num (launch.clusterId : Int))] := by
    simp [ResourceUpdates.resourceContext, Json.redactDict, Json.redact, context_keys_public]
  rw [redacted]
  constructor
  · intro found named
    simp [RunLifecycle.contextId, Dict.get, List.lookup_cons] at named
  · intro nodeId named
    simp [RunLifecycle.contextId, Dict.get, List.lookup_cons] at named
  · intro found named
    rw [rollbackAssignment_eq] at named
    exact ⟨incarnation, by rw [contextId_num rfl named]⟩

theorem Invariant.removeAssignment (holds : controller.Invariant) (guards : RouteGuards)
    (assignmentId : Nat) (mode : RemovalMode) :
    (controller.removeAssignment guards assignmentId mode).Invariant := by
  rcases ran : (InventoryRoutes.removeAssignment guards assignmentId mode).run
    controller.database with ⟨outcome, after⟩
  simp only [InventoryController.removeAssignment, ran]
  cases outcome with
  | raised error => exact holds
  | stopped => exact holds
  | returned launch =>
      obtain ⟨removable, ⟨rfl, rfl⟩ | ⟨launches, _⟩⟩ :=
        InventoryRoutes.removeAssignment_returned holds.sound.assignment_ids ran
      · exact holds.delete removable ⟨rfl, rfl, rfl⟩ (.of_eq rfl)
      · obtain ⟨purge, rfl⟩ := Option.isSome_iff_exists.mp launches
        refine holds.launch (names_purge _ _ _) ?_ ?_ nofun
        · rintro _ _ isSubject
          cases isSubject
          rfl
        · rintro _ _ isSubject
          cases isSubject
          exact removable

theorem Invariant.updateResources (holds : controller.Invariant) (guards : ResourceGuards)
    (assignmentId : Nat) (input : ResourceInput) :
    (controller.updateResources guards assignmentId input).Invariant := by
  rcases ran : (ResourceUpdates.updateResources guards assignmentId input).run
    controller.database with ⟨outcome, after⟩
  simp only [InventoryController.updateResources, ran]
  cases outcome with
  | raised error => exact holds
  | stopped => exact holds
  | returned launch =>
      obtain ⟨_, rfl⟩ := updateResources_returned ran
      have written : Invariant { controller with
          database := ResourceUpdates.writeConfig assignmentId
            (launch.previous.merge input.update) controller.database } := by
        refine holds.rewrite rfl rfl (.of_eq rfl) fun row => ?_
        split <;> exact ⟨rfl, rfl, rfl, rfl⟩
      refine written.launch (names_resources _ _ _) ?_ nofun nofun
      rintro _ _ isSubject
      cases isSubject
      rfl

theorem Invariant.addMember (holds : controller.Invariant) {guards : RouteGuards}
    {clusterId nodeId : Nat}
    (undisturbing : controller.Undisturbing (.addMember guards clusterId nodeId)) :
    (controller.request (InventoryRoutes.addMember guards clusterId nodeId)).Invariant := by
  refine @committed_cases _ _ _ (fun after => Invariant { controller with database := after })
    holds fun value after ran => ?_
  obtain rfl := InventoryRoutes.addMember_returned ran
  refine holds.step ⟨holds.sound.assignment_ids, fun row member => ?_⟩ (.of_eq rfl)
    (fun _ _ _ _ _ present => ⟨present, rfl⟩) (fun _ _ _ _ _ removable => removable) ?_
  · exact List.mem_append_left _ (holds.sound.housed row member)
  · intro launch isUnfinished other isSubject empty
    have isOther : nodeId ≠ other := by
      rintro rfl
      exact undisturbing launch isUnfinished isSubject
    simp only [Database.hasMembership] at empty ⊢
    simp [empty, isOther]

theorem Invariant.removeMember (holds : controller.Invariant) (guards : RouteGuards)
    (clusterId nodeId : Nat) :
    (controller.request (InventoryRoutes.removeMember guards clusterId nodeId)).Invariant := by
  refine @committed_cases _ _ _ (fun after => Invariant { controller with database := after })
    holds fun value after ran => ?_
  obtain ⟨free, rfl⟩ := InventoryRoutes.removeMember_returned ran
  refine holds.shrink ⟨holds.sound.assignment_ids, fun row member => ?_⟩ (.of_eq rfl)
    (List.Subset.refl _) (fun _ removable => removable) List.filter_sublist.subset
  refine List.mem_filter.mpr ⟨holds.sound.housed row member, ?_⟩
  have elsewhere := free row member
  simp only [ne_eq, Prod.mk.injEq, decide_eq_true_eq]
  exact elsewhere

theorem Invariant.deleteNode (holds : controller.Invariant) (guards : RouteGuards)
    (nodeId : Nat) (keyInstalled : Bool) (deletion : NodeDeletion) :
    (controller.deleteNode guards nodeId keyInstalled deletion).Invariant := by
  rcases ran : (InventoryRoutes.deleteNode guards nodeId keyInstalled deletion).run
    controller.database with ⟨outcome, after⟩
  simp only [InventoryController.deleteNode, ran]
  cases outcome with
  | raised error => exact holds
  | stopped => exact holds
  | returned launch =>
      obtain ⟨outside, ⟨rfl, rfl⟩ | ⟨launches, _⟩⟩ := InventoryRoutes.deleteNode_returned ran
      · exact holds.deleteHost outside ⟨rfl, rfl, rfl⟩ (.of_eq rfl)
      · obtain ⟨node, rfl⟩ := Option.isSome_iff_exists.mp launches
        refine holds.launch (names_revocation _) nofun nofun ?_
        rintro _ isSubject
        cases isSubject
        exact outside

/-! ### The end of a run -/

/-- The companion launch changes no table of the inventory. -/
theorem reconcileCompanions_same (runId : Nat) (succeeded : Bool) (database : Database) :
    SameTables database (reconcileCompanions runId succeeded database) ∧
      RunsKept database (reconcileCompanions runId succeeded database) := by
  have same : SameTables database database ∧ RunsKept database database :=
    ⟨⟨rfl, rfl, rfl⟩, .of_eq rfl⟩
  simp only [reconcileCompanions]
  split
  · split
    · refine @committed_cases database _ _
        (fun after => SameTables database after ∧ RunsKept database after) same
        fun companionId after ran => ?_
      obtain ⟨cluster, _, found, checked⟩ := bind_eq_returned ran
      obtain ⟨_, rfl⟩ := ClusterOperation.clusterRecord_returned found
      obtain ⟨active, _, wasRead, required⟩ := bind_eq_returned checked
      cases wasRead
      obtain ⟨_, _, idle, started⟩ := bind_eq_returned required
      obtain ⟨_, rfl⟩ := require_eq_returned idle
      rw [startRun_run] at started
      cases started
      exact ⟨⟨rfl, rfl, rfl⟩, .of_append rfl⟩
    · exact same
  · exact same

/-- An unfinished run touches its own. -/
theorem Invariant.touchesOwn (holds : controller.Invariant) {launch : RunLaunch}
    (unfinished : controller.Unfinished launch) {after : Database}
    (finalizes : Finalizes controller.database after launch.subject) :
    controller.TouchesOwn launch.runId after := by
  have current := holds.current launch unfinished
  have removable := holds.removable launch unfinished
  have vacant := holds.vacant launch unfinished
  have named : ∀ {assignmentId incarnation : Nat} {row : AssignmentRow},
      launch.subject.assignment? = some (assignmentId, incarnation) →
      row ∈ controller.database.assignments → row.id = assignmentId →
      ∃ other ∈ controller.launches, other.runId = launch.runId ∧
        other.subject.assignment? = some (row.id, controller.incarnations row.id) := by
    intro assignmentId incarnation row isSubject member isRow
    have listed : assignmentId ∈ controller.database.assignments.map (·.id) :=
      List.mem_map.mpr ⟨row, member, isRow⟩
    have same := current assignmentId incarnation isSubject listed
    exact ⟨launch, unfinished.1, rfl, by rw [isRow, same, isSubject]⟩
  generalize isSubject : launch.subject = subject at finalizes
  cases finalizes with
  | nothing same =>
      refine ⟨fun row member gone => ?_, fun row member gone => ?_, fun node member gone => ?_⟩
      · exact absurd (same.assignments ▸ member) gone
      · exact absurd (same.assignments ▸ List.mem_map_of_mem member) gone
      · exact absurd (same.nodes ▸ member) gone
  | @purge assignmentId incarnation same =>
      have isGone : ∀ row ∈ controller.database.assignments, row ∉ after.assignments →
          row.id = assignmentId := by
        intro row member gone
        by_contra stays
        refine gone ?_
        rw [same.assignments]
        exact List.mem_filter.mpr ⟨member, by simpa using stays⟩
      refine ⟨fun row member gone => ?_, fun row member gone initial => ?_,
        fun node member gone => ?_⟩
      · exact named (by rw [isSubject]; rfl) member (isGone row member gone)
      · have isRow := isGone row member fun stays => gone (List.mem_map_of_mem stays)
        subst isRow
        exact removable _ _ isSubject row member rfl initial
      · exact absurd (same.nodes ▸ member) gone
  | @restore assignmentId incarnation config same =>
      have rewritten : after.assignments = controller.database.assignments.map fun row =>
          if row.id = assignmentId then { row with config := sealConfig config } else row :=
        same.assignments
      refine ⟨fun row member gone => ?_, fun row member gone => ?_, fun node member gone => ?_⟩
      · refine named (by rw [isSubject]; rfl) member ?_
        by_contra stays
        refine gone ?_
        rw [rewritten]
        exact List.mem_map.mpr ⟨row, member, if_neg stays⟩
      · refine absurd ?_ gone
        rw [rewritten, List.map_map]
        refine List.mem_map.mpr ⟨row, member, ?_⟩
        simp only [Function.comp]
        split <;> rfl
      · exact absurd (same.nodes ▸ member) gone
  | @revoke nodeId same =>
      have outside := vacant nodeId isSubject
      have empty := holds.no_assignments outside
      have rows : after.assignments = controller.database.assignments := by
        rw [same.assignments]
        exact List.filter_eq_self.mpr fun row member => by simp [empty row member]
      refine ⟨fun row member gone => ?_, fun row member gone => ?_, fun node member gone => ?_⟩
      · exact absurd (rows ▸ member) gone
      · exact absurd (rows ▸ List.mem_map_of_mem member) gone
      · have isNode : node.id = nodeId := by
          by_contra stays
          refine gone ?_
          rw [same.nodes]
          exact List.mem_filter.mpr ⟨member, by simpa using stays⟩
        subst isNode
        exact ⟨outside, empty⟩

/-- The end of an unfinished run keeps the invariant. -/
theorem Invariant.finalizes (holds : controller.Invariant) {launch : RunLaunch}
    (unfinished : controller.Unfinished launch) {after : Database}
    (finalizes : Finalizes controller.database after launch.subject)
    (runs : RunsKept controller.database after) :
    Invariant { controller with database := after } := by
  have removable := holds.removable launch unfinished
  have vacant := holds.vacant launch unfinished
  generalize isSubject : launch.subject = subject at finalizes
  cases finalizes with
  | nothing same =>
      exact holds.rewrite (by rw [same.assignments, List.map_id']) same.memberships runs
        fun _ => ⟨rfl, rfl, rfl, rfl⟩
  | purge same => exact holds.delete (removable _ _ isSubject) same runs
  | restore same =>
      refine holds.rewrite same.assignments same.memberships runs fun row => ?_
      split <;> exact ⟨rfl, rfl, rfl, rfl⟩
  | revoke same => exact holds.deleteHost (vacant _ isSubject) same runs

/-- A run that leaves the live ones takes nothing from the invariant. -/
theorem Invariant.retire (holds : controller.Invariant) (runId : Nat) :
    Invariant { controller with live := controller.live.filter (· ≠ runId) } := by
  have earlier : ∀ launch, Unfinished { controller with
      live := controller.live.filter (· ≠ runId) } launch → controller.Unfinished launch :=
    fun launch unfinished => ⟨unfinished.1, List.mem_of_mem_filter unfinished.2⟩
  exact ⟨holds.sound, holds.known,
    fun other isLive => holds.named other (List.mem_of_mem_filter isLive),
    fun launch unfinished => holds.current launch (earlier launch unfinished),
    fun launch unfinished => holds.removable launch (earlier launch unfinished),
    fun launch unfinished => holds.vacant launch (earlier launch unfinished)⟩

theorem Invariant.complete (holds : controller.Invariant) (runId : Nat) (succeeded : Bool) :
    (controller.complete runId succeeded).Invariant ∧
      (runId ∈ controller.live →
        controller.TouchesOwn runId (controller.complete runId succeeded).database) := by
  simp only [InventoryController.complete]
  split
  · rename_i isLive
    obtain ⟨launch, member, rfl, run, found, names⟩ := holds.named runId isLive
    have unfinished : controller.Unfinished launch := ⟨member, isLive⟩
    obtain ⟨kept, finalizes⟩ := finalized_cases found succeeded
    obtain ⟨same, companions⟩ := reconcileCompanions_same launch.runId succeeded
      (controller.finalized launch.runId succeeded)
    have ended := (finalizes launch.subject names).same same
    exact ⟨(holds.finalizes unfinished ended (kept.trans companions)).retire launch.runId,
      fun _ => holds.touchesOwn unfinished ended⟩
  · rename_i notLive
    exact ⟨holds, fun isLive => absurd isLive notLive⟩

theorem Invariant.perform (holds : controller.Invariant) {action : InventoryAction}
    (undisturbing : controller.Undisturbing action) : (controller.perform action).Invariant := by
  cases action with
  | addAssignment => exact holds.addAssignment undisturbing
  | removeAssignment => exact holds.removeAssignment _ _ _
  | updateResources => exact holds.updateResources _ _ _
  | addMember => exact holds.addMember undisturbing
  | removeMember => exact holds.removeMember _ _ _
  | deleteNode => exact holds.deleteNode _ _ _ _
  | complete => exact (holds.complete _ _).1

theorem EachUndisturbing.append {controller : InventoryController}
    {earlier later : List InventoryAction}
    (each : controller.EachUndisturbing (earlier ++ later)) :
    controller.EachUndisturbing earlier := by
  induction earlier generalizing controller with
  | nil => trivial
  | cons action rest ih => exact ⟨each.1, ih each.2⟩

theorem Invariant.performAll (holds : controller.Invariant) {actions : List InventoryAction}
    (each : controller.EachUndisturbing actions) : (controller.performAll actions).Invariant := by
  induction actions generalizing controller with
  | nil => exact holds
  | cons action rest ih => exact ih (holds.perform each.1) each.2

/-- A controller without unfinished runs. -/
def start (database : Database) (incarnations : Nat → Nat) : InventoryController :=
  ⟨database, [], [], incarnations⟩

theorem Invariant.start {database : Database} (sound : database.InventorySound)
    (incarnations : Nat → Nat) : (start database incarnations).Invariant where
  sound := sound
  known _ member := by cases member
  named _ member := by cases member
  current _ unfinished := by cases unfinished.1
  removable _ unfinished := by cases unfinished.1
  vacant _ unfinished := by cases unfinished.1

end InventoryController

/-- In every sequence of requests and run ends none of which disturbs an unfinished run, the
end of each run touches only what the run was launched for. -/
theorem finalizers_touch_their_own {database : Database} (sound : database.InventorySound)
    (incarnations : Nat → Nat) {actions : List InventoryAction}
    (each : (InventoryController.start database incarnations).EachUndisturbing actions)
    {earlier later : List InventoryAction} {runId : Nat} {succeeded : Bool}
    (split : actions = earlier ++ .complete runId succeeded :: later)
    (isLive : runId ∈
      ((InventoryController.start database incarnations).performAll earlier).live) :
    ((InventoryController.start database incarnations).performAll earlier).TouchesOwn runId
      (((InventoryController.start database incarnations).performAll earlier).complete runId
        succeeded).database := by
  have before : ((InventoryController.start database incarnations).performAll earlier).Invariant :=
    (InventoryController.Invariant.start sound incarnations).performAll
      (InventoryController.EachUndisturbing.append (split ▸ each))
  exact (before.complete runId succeeded).2 isLive

namespace FinalizerSample

def guards : RouteGuards where
  requireNoMaintenanceConflict _ := .ok ()
  requireClusterCapability _ _ := .ok ()
  validateConfig _ _ := .ok ()
  conflictMessage _ _ _ _ := none
  requireClusterHostZone _ _ _ := .ok ()
  policy := ResourceSample.guards.policy

/-- The sample cluster with its one master. -/
def controller : InventoryController :=
  .start ResourceSample.database fun _ => 1

theorem database_sound : ResourceSample.database.InventorySound :=
  ⟨by decide, by decide⟩

/-- The master is purged, and the purge ends. -/
def purge : List InventoryAction :=
  [.removeAssignment guards 1 .purge, .complete 1 true]

/-- While the purge is under way, the master is detached and another role takes its identifier. -/
def reuse : List InventoryAction :=
  [.removeAssignment guards 1 .purge, .removeAssignment guards 1 .detach,
    .addAssignment guards 1 1 .hot ResourceSample.config]

end FinalizerSample

/-- The purge of the sample touches its own. -/
theorem purge_touches_its_own :
    (FinalizerSample.controller.performAll
        [.removeAssignment FinalizerSample.guards 1 .purge]).TouchesOwn 1
      (FinalizerSample.controller.performAll FinalizerSample.purge).database ∧
      (FinalizerSample.controller.performAll FinalizerSample.purge).database.assignments = [] := by
  have each : FinalizerSample.controller.EachUndisturbing FinalizerSample.purge :=
    ⟨trivial, trivial, trivial⟩
  have split : FinalizerSample.purge =
      [.removeAssignment FinalizerSample.guards 1 .purge] ++ .complete 1 true :: [] := rfl
  refine ⟨?_, by decide +kernel⟩
  exact finalizers_touch_their_own FinalizerSample.database_sound (fun _ => 1) each split
    (by decide +kernel)

/-- The end of the purge deletes the assignment that took the identifier. -/
theorem purge_deletes_later_assignment :
    ¬ ∀ (database : Database), database.InventorySound → ∀ (incarnations : Nat → Nat)
      (actions : List InventoryAction) (runId : Nat) (succeeded : Bool)
      (reached : InventoryController),
      reached = (InventoryController.start database incarnations).performAll actions →
      runId ∈ reached.live → reached.TouchesOwn runId (reached.complete runId succeeded).database := by
  intro touches
  have own := (touches ResourceSample.database FinalizerSample.database_sound (fun _ => 1)
    FinalizerSample.reuse 1 true _ rfl (by decide +kernel)).assignments
  revert own
  decide +kernel

end ElKeeper
