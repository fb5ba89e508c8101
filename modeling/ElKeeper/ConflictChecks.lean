import ElKeeper.MaintenanceExecution

/-!
# The two conflict checks of a host

Ordinary mutations of a host are refused by `has_scope_conflict`, and maintenance
of a host by what `observe_conflicts` collects.  Both start from the clusters of
the host and the workloads in them; only the first one goes on to the other hosts
of these clusters.
-/

namespace ElKeeper

/-! ### The check of ordinary mutations -/

/-- The scope of `has_scope_conflict_in_connection`. -/
structure ExpandedScope where
  clusterIds : List Nat
  nodeIds : List Nat
  assignmentIds : List Nat

namespace ScopeConflicts

/-- The expansion that `has_scope_conflict_in_connection` starts with. -/
def expand (database : Database) (clusterId nodeId assignmentId : Option Nat) : ExpandedScope :=
  let named := database.assignments.filter fun row => assignmentId = some row.id
  let hosts := nodeId.toList ++ named.map (·.nodeId)
  let clusters := clusterId.toList ++ named.map (·.clusterId) ++
    (database.memberships.filter fun row => row.2 ∈ hosts).map (·.1) ++
    (database.assignments.filter fun row => row.nodeId ∈ hosts).map (·.clusterId)
  let rows := database.assignments.filter fun row => row.clusterId ∈ clusters
  { clusterIds := clusters
    nodeIds := hosts ++ rows.map (·.nodeId) ++
      (database.memberships.filter fun row => row.1 ∈ clusters).map (·.2)
    assignmentIds := assignmentId.toList ++ rows.map (·.id) }

/-- An active plan with a target in the scope. -/
def blocksPlan (scope : ExpandedScope) (plan : PlanRecord) : Bool :=
  plan.lifecycleState.active &&
    (plan.targetNodeId.any (· ∈ scope.nodeIds) ||
      plan.targetClusterId.any (· ∈ scope.clusterIds) ||
      plan.targetAssignmentId.any (· ∈ scope.assignmentIds))

/-- An unreleased lock in the scope. -/
def blocksLock (scope : ExpandedScope) (lock : LockRecord) : Bool :=
  lock.active &&
    match lock.scope with
    | .host => lock.identifier ∈ scope.nodeIds.map toString
    | .cluster => lock.identifier ∈ scope.clusterIds.map toString
    | .assignment => lock.identifier ∈ scope.assignmentIds.map toString
    | .recovery => false

/-- `has_scope_conflict_in_connection`. -/
def hasScopeConflict (database : Database) (clusterId nodeId assignmentId : Option Nat) : Bool :=
  let scope := expand database clusterId nodeId assignmentId
  database.plans.any (blocksPlan scope) || database.locks.any (blocksLock scope)

/-- The scope of a host. -/
def ofHost (database : Database) (nodeId : Nat) : ExpandedScope :=
  expand database none (some nodeId) none

end ScopeConflicts

/-! ### The check of maintenance -/

/-- The shapes of conflict identifiers. -/
inductive ConflictIdentifier where
  | plan (planId : String)
  | lock (scope : LockScope) (identifier : String) (lockId : Nat)
  | assignmentOperation (assignmentId runId : Nat)
  | workloadBatch (runId : Nat)
  | run (runId : Nat)
deriving DecidableEq

/-- The text of an identifier. -/
def ConflictIdentifier.text : ConflictIdentifier → String
  | plan planId => "maintenance-plan:" ++ planId
  | lock scope identifier lockId =>
      "maintenance-lock:" ++ scope.value ++ ":" ++ identifier ++ ":" ++ toString lockId
  | assignmentOperation assignmentId runId =>
      "assignment-operation:" ++ toString assignmentId ++ ":" ++ toString runId
  | workloadBatch runId => "workload-batch:" ++ toString runId
  | run runId => "run:" ++ toString runId

/-- The source sorts the identifiers by their texts. -/
structure ConflictObservation where
  nodeId : Nat
  clusterIds : List Nat
  hostAssignmentIds : List Nat
  conflictIdentifiers : List ConflictIdentifier

/-- `has_conflicts`. -/
def ConflictObservation.hasConflicts (observation : ConflictObservation) : Bool :=
  !observation.conflictIdentifiers.isEmpty

namespace MaintenanceConflicts

/-- The plans that are relevant after the loop over the locks, and the identifiers that it adds.
A lock makes its owner relevant, and the other locks of relevant plans are reported as well. -/
def collectLocks (scope : HostScope) (nodeId : Nat) (excluded : Option String) :
    List String → List LockRecord → List String × List ConflictIdentifier
  | relevant, [] => (relevant, [])
  | relevant, lock :: locks =>
      if some lock.ownerPlanId = excluded then collectLocks scope nodeId excluded relevant locks
      else if coversLock scope nodeId lock || lock.ownerPlanId ∈ relevant then
        let (found, identifiers) :=
          collectLocks scope nodeId excluded (relevant ++ [lock.ownerPlanId]) locks
        (found, .plan lock.ownerPlanId :: .lock lock.scope lock.identifier lock.id :: identifiers)
      else collectLocks scope nodeId excluded relevant locks

/-- The active plans with a target in the scope. -/
def plannedIds (scope : HostScope) (nodeId : Nat) (excluded : Option String)
    (database : Database) : List String :=
  (database.plans.filter fun plan =>
    some plan.id ≠ excluded && coversPlan scope nodeId plan).map (·.id)

/-- `observe_conflicts_in_connection`, with the unreleased locks as the query returns them. -/
def observe (database : Database) (locks : List LockRecord) (nodeId : Nat)
    (excludePlanId : Option String) (excludeRunId : Option Nat) :
    Except Fault ConflictObservation :=
  match database.nodes.find? (·.id = nodeId) with
  | none => .error ⟨.keyError, toString nodeId⟩
  | some node =>
      let scope := hostScope database node
      let planned := plannedIds scope nodeId excludePlanId database
      let (relevant, lockIdentifiers) := collectLocks scope nodeId excludePlanId planned locks
      let excludedRuns := excludeRunId.toList ++
        (database.plans.filter fun plan =>
          some plan.id = excludePlanId && plan.lifecycleState.active).filterMap (·.runId)
      let planRuns := (database.plans.filter fun plan =>
        decide (plan.id ∈ relevant) && plan.lifecycleState.active).filterMap (·.runId)
      let activeRuns := database.runs.filter fun run =>
        run.status.active && decide (run.id ∉ excludedRuns)
      let operations := scope.assignments.filterMap fun row =>
        row.operationRunId.bind fun runId =>
          if runId ∈ activeRuns.map (·.id) then some (row.id, runId) else none
      let batches := (database.batches.filter fun batch =>
        decide (batch.clusterId ∈ scope.clusterIds) && decide (batch.runId ∉ excludedRuns)).map
          (·.runId)
      let linked := planRuns ++ operations.map (·.2) ++ batches
      .ok
        { nodeId := nodeId
          clusterIds := scope.clusterIds.insertionSort (· ≤ ·)
          hostAssignmentIds := ((database.assignments.filter (·.nodeId = nodeId)).map
            (·.id)).insertionSort (· ≤ ·)
          conflictIdentifiers := planned.map .plan ++ lockIdentifiers ++
            operations.map (fun entry => .assignmentOperation entry.1 entry.2) ++
            batches.map .workloadBatch ++
            (activeRuns.filter (coversRun scope nodeId linked)).map fun run => .run run.id }

/-! ### The two models of the observation -/

theorem collectLocks_relevant (scope : HostScope) (nodeId : Nat) (excluded : Option String)
    (relevant : List String) (locks : List LockRecord) :
    (collectLocks scope nodeId excluded relevant (locks.filter (·.active))).1 =
      plansByLocks scope nodeId excluded relevant locks := by
  rw [plansByLocks]
  induction locks.filter (·.active) generalizing relevant with
  | nil => rfl
  | cons lock locks ih =>
      rw [collectLocks, List.foldl_cons]
      split
      · exact ih relevant
      · split
        · exact ih _
        · exact ih relevant

/-- A loop that starts without plans and reports nothing found none. -/
theorem collectLocks_isEmpty (scope : HostScope) (nodeId : Nat) (excluded : Option String)
    (relevant : List String) (locks : List LockRecord) :
    (collectLocks scope nodeId excluded relevant locks).1.isEmpty =
      (relevant.isEmpty && (collectLocks scope nodeId excluded relevant locks).2.isEmpty) := by
  induction locks generalizing relevant with
  | nil => simp [collectLocks]
  | cons lock locks ih =>
      rw [collectLocks]
      split
      · exact ih relevant
      · split
        · dsimp only
          rw [ih]
          simp
        · exact ih relevant

/-- The reduced observation says whether the full one has conflicts. -/
theorem observeConflicts_eq (database : Database) (nodeId : Nat) (excludePlanId : Option String)
    (excludeRunId : Option Nat) :
    observeConflicts database nodeId excludePlanId excludeRunId =
      (observe database (database.locks.filter (·.active)) nodeId excludePlanId
        excludeRunId).map (·.hasConflicts) := by
  rw [observeConflicts, observe]
  cases database.nodes.find? (·.id = nodeId) with
  | none => rfl
  | some node =>
      have anyOf : ∀ (runs : List RunRow) (covers : RunRow → Bool),
          runs.any covers = !(runs.filter covers).isEmpty := by
        intro runs covers
        rw [Bool.eq_iff_iff]
        simp
      have operations : ∀ active : List Nat, ∀ rows : List AssignmentRow,
          (rows.filterMap (·.operationRunId)).filter (· ∈ active) =
            (rows.filterMap fun row => row.operationRunId.bind fun runId =>
              if runId ∈ active then some (row.id, runId) else none).map (·.2) := by
        intro active rows
        rw [List.filter_filterMap, List.map_filterMap]
        congr 1
        funext row
        cases row.operationRunId with
        | none => rfl
        | some runId => by_cases isActive : runId ∈ active <;> simp [isActive]
      have relevant := collectLocks_relevant (hostScope database node) nodeId excludePlanId
        (plannedIds (hostScope database node) nodeId excludePlanId database) database.locks
      have found := collectLocks_isEmpty (hostScope database node) nodeId excludePlanId
        (plannedIds (hostScope database node) nodeId excludePlanId database)
        (database.locks.filter (·.active))
      simp only [plannedIds] at relevant found ⊢
      simp only [Except.map, ConflictObservation.hasConflicts, operations, ← relevant, found]
      have both : ∀ first second : List ConflictIdentifier,
          (first ++ second).isEmpty = (first.isEmpty && second.isEmpty) := by
        intro first second
        cases first <;> rfl
      simp only [both, List.isEmpty_map, Bool.not_and, anyOf]
      rfl

/-! ### What the loop over the locks reports -/

variable {scope : HostScope} {nodeId : Nat} {excluded : Option String}

/-- A lock that makes its owner relevant, or whose owner is relevant. -/
def Reports (scope : HostScope) (nodeId : Nat) (relevant : List String) (lock : LockRecord) :
    Prop :=
  coversLock scope nodeId lock ∨ lock.ownerPlanId ∈ relevant

theorem collectLocks_excluded {relevant : List String} {lock : LockRecord}
    {locks : List LockRecord} (isExcluded : some lock.ownerPlanId = excluded) :
    collectLocks scope nodeId excluded relevant (lock :: locks) =
      collectLocks scope nodeId excluded relevant locks := by
  rw [collectLocks, if_pos isExcluded]

theorem collectLocks_reported {relevant : List String} {lock : LockRecord}
    {locks : List LockRecord} (isOther : some lock.ownerPlanId ≠ excluded)
    (reports : Reports scope nodeId relevant lock) :
    (collectLocks scope nodeId excluded relevant (lock :: locks)).2 =
      .plan lock.ownerPlanId :: .lock lock.scope lock.identifier lock.id ::
        (collectLocks scope nodeId excluded (relevant ++ [lock.ownerPlanId]) locks).2 := by
  rw [Reports, ← decide_eq_true_eq (p := lock.ownerPlanId ∈ relevant), ← Bool.or_eq_true] at reports
  rw [collectLocks, if_neg isOther, if_pos reports]

theorem collectLocks_unreported {relevant : List String} {lock : LockRecord}
    {locks : List LockRecord} (unreported : ¬ Reports scope nodeId relevant lock) :
    collectLocks scope nodeId excluded relevant (lock :: locks) =
      collectLocks scope nodeId excluded relevant locks := by
  rw [Reports, ← decide_eq_true_eq (p := lock.ownerPlanId ∈ relevant), ← Bool.or_eq_true]
    at unreported
  rw [collectLocks, if_neg unreported]
  split <;> rfl

/-- The plan of a report was relevant before or owns a covering lock. -/
theorem collectLocks_plan {relevant : List String} {locks : List LockRecord} {planId : String}
    (reported : .plan planId ∈ (collectLocks scope nodeId excluded relevant locks).2) :
    planId ∈ relevant ∨ ∃ lock ∈ locks, coversLock scope nodeId lock ∧
      lock.ownerPlanId = planId := by
  induction locks generalizing relevant with
  | nil => cases reported
  | cons lock locks ih =>
      have later : planId ∈ relevant ∨ (∃ other ∈ locks, coversLock scope nodeId other ∧
          other.ownerPlanId = planId) → planId ∈ relevant ∨ ∃ other ∈ lock :: locks,
            coversLock scope nodeId other ∧ other.ownerPlanId = planId := by
        rintro (known | ⟨other, member, covers⟩)
        · exact .inl known
        · exact .inr ⟨other, List.mem_cons_of_mem _ member, covers⟩
      by_cases isExcluded : some lock.ownerPlanId = excluded
      · rw [collectLocks_excluded isExcluded] at reported
        exact later (ih reported)
      · by_cases reports : Reports scope nodeId relevant lock
        · rw [collectLocks_reported isExcluded reports] at reported
          have ownerFound : planId = lock.ownerPlanId → planId ∈ relevant ∨
              ∃ other ∈ lock :: locks, coversLock scope nodeId other ∧
                other.ownerPlanId = planId := by
            intro isOwner
            rcases reports with covers | known
            · exact .inr ⟨lock, List.mem_cons_self, covers, isOwner.symm⟩
            · exact .inl (isOwner ▸ known)
          simp only [List.mem_cons, ConflictIdentifier.plan.injEq, reduceCtorEq, false_or]
            at reported
          rcases reported with isOwner | reported
          · exact ownerFound isOwner
          · rcases ih reported with known | found
            · rcases List.mem_append.mp known with earlier | last
              · exact .inl earlier
              · exact ownerFound (List.mem_singleton.mp last)
            · exact later (.inr found)
        · rw [collectLocks_unreported reports] at reported
          exact later (ih reported)

/-- The owner of a covering lock is reported. -/
theorem mem_collectLocks_plan {relevant : List String} {locks : List LockRecord}
    {lock : LockRecord} (member : lock ∈ locks) (isOther : some lock.ownerPlanId ≠ excluded)
    (covers : coversLock scope nodeId lock) :
    .plan lock.ownerPlanId ∈ (collectLocks scope nodeId excluded relevant locks).2 := by
  induction locks generalizing relevant with
  | nil => cases member
  | cons other locks ih =>
      rcases List.mem_cons.mp member with rfl | later
      · rw [collectLocks_reported isOther (.inl covers)]
        exact List.mem_cons_self
      · by_cases isExcluded : some other.ownerPlanId = excluded
        · rw [collectLocks_excluded isExcluded]
          exact ih later
        · by_cases reports : Reports scope nodeId relevant other
          · rw [collectLocks_reported isExcluded reports]
            exact List.mem_cons_of_mem _ (List.mem_cons_of_mem _ (ih later))
          · rw [collectLocks_unreported reports]
            exact ih later

/-- A lock that is reported in a loop that goes through these locks before it. -/
def ReportedAfter (scope : HostScope) (nodeId : Nat)
    (relevant : List String) (before : List LockRecord) (lock : LockRecord) : Prop :=
  Reports scope nodeId relevant lock ∨ ∃ earlier ∈ before, coversLock scope nodeId earlier ∧
    earlier.ownerPlanId = lock.ownerPlanId

/-- Locks before do not take a report away. -/
theorem ReportedAfter.cons {relevant : List String} {before : List LockRecord}
    {first lock : LockRecord}
    (reported : ReportedAfter scope nodeId relevant before lock) :
    ReportedAfter scope nodeId relevant (first :: before) lock := by
  rcases reported with reports | ⟨earlier, member, covers⟩
  · exact .inl reports
  · exact .inr ⟨earlier, List.mem_cons_of_mem _ member, covers⟩

/-- The owner of a reporting lock is relevant for the locks after it. -/
theorem reportedAfter_cons_iff {relevant : List String} {before : List LockRecord}
    {first lock : LockRecord} (reports : Reports scope nodeId relevant first) :
    ReportedAfter scope nodeId (relevant ++ [first.ownerPlanId]) before lock ↔
      ReportedAfter scope nodeId relevant (first :: before) lock := by
  constructor
  · rintro ((covers | known) | ⟨earlier, member, covers⟩)
    · exact .inl (.inl covers)
    · rcases List.mem_append.mp known with before | last
      · exact .inl (.inr before)
      · have isOwner := List.mem_singleton.mp last
        rcases reports with covers | known
        · exact .inr ⟨first, List.mem_cons_self, covers, isOwner.symm⟩
        · exact .inl (.inr (isOwner ▸ known))
    · exact .inr ⟨earlier, List.mem_cons_of_mem _ member, covers⟩
  · rintro ((covers | known) | ⟨earlier, member, covers, isOwner⟩)
    · exact .inl (.inl covers)
    · exact .inl (.inr (List.mem_append_left _ known))
    · rcases List.mem_cons.mp member with rfl | later
      · exact .inl (.inr (List.mem_append_right _ (by simp [isOwner])))
      · exact .inr ⟨earlier, later, covers, isOwner⟩

/-- A reported lock covers the scope, or its owner was relevant when the loop reached it. -/
theorem collectLocks_lock {relevant : List String} {locks : List LockRecord}
    {kind : LockScope} {identifier : String} {lockId : Nat}
    (reported : .lock kind identifier lockId ∈
      (collectLocks scope nodeId excluded relevant locks).2) :
    ∃ before lock after, locks = before ++ lock :: after ∧ lock.id = lockId ∧
      ReportedAfter scope nodeId relevant before lock := by
  induction locks generalizing relevant with
  | nil => cases reported
  | cons first locks ih =>
      by_cases isExcluded : some first.ownerPlanId = excluded
      · rw [collectLocks_excluded isExcluded] at reported
        obtain ⟨before, lock, after, rfl, isLock, found⟩ := ih reported
        exact ⟨first :: before, lock, after, rfl, isLock, found.cons⟩
      · by_cases reports : Reports scope nodeId relevant first
        · rw [collectLocks_reported isExcluded reports] at reported
          simp only [List.mem_cons, ConflictIdentifier.lock.injEq, reduceCtorEq, false_or]
            at reported
          rcases reported with ⟨_, _, isFirst⟩ | reported
          · exact ⟨[], first, locks, rfl, isFirst.symm, .inl reports⟩
          · obtain ⟨before, lock, after, rfl, isLock, found⟩ := ih reported
            exact ⟨first :: before, lock, after, rfl, isLock,
              (reportedAfter_cons_iff reports).mp found⟩
        · rw [collectLocks_unreported reports] at reported
          obtain ⟨before, lock, after, rfl, isLock, found⟩ := ih reported
          exact ⟨first :: before, lock, after, rfl, isLock, found.cons⟩

/-- Such a lock is reported. -/
theorem mem_collectLocks_lock {relevant : List String} {before after : List LockRecord}
    {lock : LockRecord} (isOther : some lock.ownerPlanId ≠ excluded)
    (reported : ReportedAfter scope nodeId relevant before lock) :
    .lock lock.scope lock.identifier lock.id ∈
      (collectLocks scope nodeId excluded relevant (before ++ lock :: after)).2 := by
  induction before generalizing relevant with
  | nil =>
      have reports : Reports scope nodeId relevant lock := by
        rcases reported with reports | ⟨_, member, _⟩
        · exact reports
        · cases member
      rw [List.nil_append, collectLocks_reported isOther reports]
      exact List.mem_cons_of_mem _ List.mem_cons_self
  | cons first before ih =>
      rw [List.cons_append]
      by_cases reports : Reports scope nodeId relevant first
      · by_cases isExcluded : some first.ownerPlanId = excluded
        · rw [collectLocks_excluded isExcluded]
          apply ih
          rcases reported with reports | ⟨earlier, member, covers, isOwner⟩
          · exact .inl reports
          · rcases List.mem_cons.mp member with rfl | later
            · exact absurd (isOwner ▸ isExcluded) isOther
            · exact .inr ⟨earlier, later, covers, isOwner⟩
        · rw [collectLocks_reported isExcluded reports]
          have found := ih ((reportedAfter_cons_iff reports).mpr reported)
          exact List.mem_cons_of_mem _ (List.mem_cons_of_mem _ found)
      · rw [collectLocks_unreported reports]
        apply ih
        rcases reported with reportsLock | ⟨earlier, member, covers, isOwner⟩
        · exact .inl reportsLock
        · rcases List.mem_cons.mp member with rfl | later
          · exact absurd (.inl covers) reports
          · exact .inr ⟨earlier, later, covers, isOwner⟩

end MaintenanceConflicts

/-! ### Where the checks agree -/

namespace ConflictChecks

open ScopeConflicts MaintenanceConflicts

/-- A host has a membership or a workload in a cluster. -/
def InCluster (database : Database) (clusterId nodeId : Nat) : Prop :=
  (clusterId, nodeId) ∈ database.memberships ∨
    ∃ row ∈ database.assignments, row.clusterId = clusterId ∧ row.nodeId = nodeId

/-- Another host in one of the clusters of a host. -/
def Peer (database : Database) (nodeId peer : Nat) : Prop :=
  peer ≠ nodeId ∧ ∃ clusterId, InCluster database clusterId nodeId ∧
    InCluster database clusterId peer

/-- What makes ordinary mutations of a host fail is reported to its maintenance, apart from an
excluded plan. -/
structure ChecksAgree (database : Database) (nodeId : Nat) (excluded : Option String)
    (observation : ConflictObservation) : Prop where
  plans : ∀ plan ∈ database.plans, some plan.id ≠ excluded →
    blocksPlan (ofHost database nodeId) plan →
      .plan plan.id ∈ observation.conflictIdentifiers
  locks : ∀ lock ∈ database.locks, some lock.ownerPlanId ≠ excluded →
    blocksLock (ofHost database nodeId) lock →
      .lock lock.scope lock.identifier lock.id ∈ observation.conflictIdentifiers
  /-- Maintenance that finds no conflict leaves no other reason to refuse a mutation. -/
  permits : observation.hasConflicts = false →
    (∀ plan ∈ database.plans, blocksPlan (ofHost database nodeId) plan →
      some plan.id = excluded) ∧
    ∀ lock ∈ database.locks, blocksLock (ofHost database nodeId) lock →
      some lock.ownerPlanId = excluded
  /-- An active plan on a host is a conflict for the others in its clusters. -/
  peers : ∀ peer, Peer database nodeId peer → ∀ plan ∈ database.plans,
    some plan.id ≠ excluded → plan.lifecycleState.active → plan.targetNodeId = some peer →
      .plan plan.id ∈ observation.conflictIdentifiers

/-- Plans and locks on other hosts come with something on the host, on its clusters or on the
workloads in them: the plan has another target there or owns an unreleased lock there, and so
does the owner of the lock, with a lock that the query returns before. -/
structure NoStray (database : Database) (locks : List LockRecord) (node : NodeRow)
    (excluded : Option String) : Prop where
  plans : ∀ plan ∈ database.plans, some plan.id ≠ excluded → plan.lifecycleState.active →
    ∀ peer, Peer database node.id peer → plan.targetNodeId = some peer →
      plan.id ∈ plannedIds (hostScope database node) node.id excluded database ∨
        ∃ lock ∈ locks, coversLock (hostScope database node) node.id lock ∧
          lock.ownerPlanId = plan.id
  locks : ∀ before lock after, locks = before ++ lock :: after →
    some lock.ownerPlanId ≠ excluded → lock.scope = .host →
    ∀ peer, Peer database node.id peer → lock.identifier = toString peer →
      lock.ownerPlanId ∈ plannedIds (hostScope database node) node.id excluded database ∨
        ∃ earlier ∈ before, coversLock (hostScope database node) node.id earlier ∧
          earlier.ownerPlanId = lock.ownerPlanId

variable {database : Database} {node : NodeRow}

theorem mem_clustersOf {nodeId clusterId : Nat} :
    clusterId ∈ (database.memberships.filter (·.2 = nodeId)).map (·.1) ++
        (database.assignments.filter (·.nodeId = nodeId)).map (·.clusterId) ↔
      InCluster database clusterId nodeId := by
  simp only [List.mem_append, List.mem_map, List.mem_filter, decide_eq_true_eq, InCluster]
  constructor
  · rintro (⟨⟨cluster, host⟩, ⟨member, isHost⟩, isCluster⟩ | ⟨row, ⟨member, isHost⟩, isCluster⟩)
    · dsimp only at isHost isCluster
      rw [← isHost, ← isCluster]
      exact .inl member
    · exact .inr ⟨row, member, isCluster, isHost⟩
  · rintro (member | ⟨row, member, isCluster, isHost⟩)
    · exact .inl ⟨(clusterId, nodeId), ⟨member, rfl⟩, rfl⟩
    · exact .inr ⟨row, ⟨member, isHost⟩, isCluster⟩

theorem mem_hostScope_clusterIds {clusterId : Nat} :
    clusterId ∈ (hostScope database node).clusterIds ↔ InCluster database clusterId node.id := by
  rw [hostScope, List.mem_dedup]
  exact mem_clustersOf

theorem mem_ofHost_clusterIds {nodeId clusterId : Nat} :
    clusterId ∈ (ofHost database nodeId).clusterIds ↔ InCluster database clusterId nodeId := by
  rw [← mem_clustersOf]
  simp [ofHost, expand]

/-- The hosts of the clusters of a host, with the host itself. -/
theorem mem_ofHost_nodeIds {nodeId other : Nat} :
    other ∈ (ofHost database nodeId).nodeIds ↔ other = nodeId ∨ Peer database nodeId other := by
  have reached : other ∈ (ofHost database nodeId).nodeIds ↔ other = nodeId ∨
      (∃ row ∈ database.assignments, row.clusterId ∈ (ofHost database nodeId).clusterIds ∧
        row.nodeId = other) ∨
      ∃ row ∈ database.memberships, row.1 ∈ (ofHost database nodeId).clusterIds ∧
        row.2 = other := by
    simp [ofHost, expand, and_assoc]
  rw [reached]
  simp only [mem_ofHost_clusterIds]
  constructor
  · rintro (isHost | ⟨row, member, inCluster, isOther⟩ | ⟨⟨cluster, host⟩, member, inCluster, rfl⟩)
    · exact .inl isHost
    · by_cases isHost : other = nodeId
      · exact .inl isHost
      · exact .inr ⟨isHost, row.clusterId, inCluster, .inr ⟨row, member, rfl, isOther⟩⟩
    · by_cases isHost : host = nodeId
      · exact .inl isHost
      · exact .inr ⟨isHost, cluster, inCluster, .inl member⟩
  · rintro (isHost | ⟨_, clusterId, inCluster, member | ⟨row, member, isCluster, isOther⟩⟩)
    · exact .inl isHost
    · exact .inr (.inr ⟨(clusterId, other), member, inCluster, rfl⟩)
    · exact .inr (.inl ⟨row, member, isCluster ▸ inCluster, isOther⟩)

/-- Both checks see the same workloads. -/
theorem mem_ofHost_assignmentIds {assignmentId : Nat} :
    assignmentId ∈ (ofHost database node.id).assignmentIds ↔
      assignmentId ∈ (hostScope database node).assignments.map (·.id) := by
  have left : assignmentId ∈ (ofHost database node.id).assignmentIds ↔
      ∃ row ∈ database.assignments, row.clusterId ∈ (ofHost database node.id).clusterIds ∧
        row.id = assignmentId := by
    simp [ofHost, expand, and_assoc]
  have right : assignmentId ∈ (hostScope database node).assignments.map (·.id) ↔
      ∃ row ∈ database.assignments, row.clusterId ∈ (hostScope database node).clusterIds ∧
        row.id = assignmentId := by
    simp [hostScope, and_assoc]
  rw [left, right]
  simp only [mem_ofHost_clusterIds, mem_hostScope_clusterIds]

/-- A plan blocks mutations when it covers the scope of maintenance or targets a peer. -/
theorem blocksPlan_iff {plan : PlanRecord} :
    blocksPlan (ofHost database node.id) plan ↔
      coversPlan (hostScope database node) node.id plan ∨
        plan.lifecycleState.active ∧ ∃ peer, Peer database node.id peer ∧
          plan.targetNodeId = some peer := by
  simp only [blocksPlan, coversPlan, Bool.and_eq_true, Bool.or_eq_true, Option.any_eq_true,
    decide_eq_true_eq, mem_ofHost_nodeIds, mem_ofHost_clusterIds, mem_ofHost_assignmentIds,
    mem_hostScope_clusterIds]
  constructor
  · rintro ⟨active, (⟨peer, isTarget, rfl | isPeer⟩ | onCluster) | onAssignment⟩
    · exact .inl ⟨active, .inl (.inl isTarget)⟩
    · exact .inr ⟨active, peer, isPeer, isTarget⟩
    · exact .inl ⟨active, .inl (.inr onCluster)⟩
    · exact .inl ⟨active, .inr onAssignment⟩
  · rintro (⟨active, (isTarget | onCluster) | onAssignment⟩ | ⟨active, peer, isPeer, isTarget⟩)
    · exact ⟨active, .inl (.inl ⟨node.id, isTarget, .inl rfl⟩)⟩
    · exact ⟨active, .inl (.inr onCluster)⟩
    · exact ⟨active, .inr onAssignment⟩
    · exact ⟨active, .inl (.inl ⟨peer, isTarget, .inr isPeer⟩)⟩

/-- A lock blocks mutations when it covers the scope of maintenance or is on a peer. -/
theorem blocksLock_iff {lock : LockRecord} :
    blocksLock (ofHost database node.id) lock ↔
      lock.active ∧ (coversLock (hostScope database node) node.id lock ∨
        lock.scope = .host ∧ ∃ peer, Peer database node.id peer ∧
          lock.identifier = toString peer) := by
  rw [blocksLock, Bool.and_eq_true]
  apply and_congr_right
  intro _
  cases kind : lock.scope with
  | host =>
      simp only [coversLock, kind, decide_eq_true_eq, List.mem_map, mem_ofHost_nodeIds, true_and]
      constructor
      · rintro ⟨peer, rfl | isPeer, isIdentifier⟩
        · exact .inl isIdentifier.symm
        · exact .inr ⟨peer, isPeer, isIdentifier.symm⟩
      · rintro (isHost | ⟨peer, isPeer, isIdentifier⟩)
        · exact ⟨node.id, .inl rfl, isHost.symm⟩
        · exact ⟨peer, .inr isPeer, isIdentifier.symm⟩
  | cluster =>
      simp [coversLock, kind, mem_ofHost_clusterIds, mem_hostScope_clusterIds]
  | assignment =>
      simp only [coversLock, kind, decide_eq_true_eq, List.mem_map (f := toString),
        mem_ofHost_assignmentIds, reduceCtorEq, false_and, or_false]
  | recovery => simp [coversLock, kind]

section Observed

variable {locks : List LockRecord} {excluded : Option String} {runId : Option Nat}
  {observation : ConflictObservation}

/-- The reported plans are those that cover the scope and the owners of covering locks. -/
theorem plan_reported_iff (found : database.nodes.find? (·.id = node.id) = some node)
    (observed : observe database locks node.id excluded runId = .ok observation)
    {planId : String} (isOther : some planId ≠ excluded) :
    .plan planId ∈ observation.conflictIdentifiers ↔
      planId ∈ plannedIds (hostScope database node) node.id excluded database ∨
        ∃ lock ∈ locks, coversLock (hostScope database node) node.id lock ∧
          lock.ownerPlanId = planId := by
  rw [observe, found] at observed
  cases observed
  simp only [List.mem_append, List.mem_map, ConflictIdentifier.plan.injEq, exists_eq_right,
    reduceCtorEq, and_false, exists_false, or_false]
  constructor
  · rintro (planned | reported)
    · exact .inl planned
    · exact collectLocks_plan reported
  · rintro (planned | ⟨lock, member, covers, rfl⟩)
    · exact .inl planned
    · exact .inr (mem_collectLocks_plan member isOther covers)

theorem lock_reported_iff (found : database.nodes.find? (·.id = node.id) = some node)
    (observed : observe database locks node.id excluded runId = .ok observation)
    {kind : LockScope} {identifier : String} {lockId : Nat} :
    .lock kind identifier lockId ∈ observation.conflictIdentifiers ↔
      .lock kind identifier lockId ∈ (collectLocks (hostScope database node) node.id excluded
        (plannedIds (hostScope database node) node.id excluded database) locks).2 := by
  rw [observe, found] at observed
  cases observed
  simp

theorem mem_plannedIds {plan : PlanRecord} (member : plan ∈ database.plans)
    (isOther : some plan.id ≠ excluded)
    (covers : coversPlan (hostScope database node) node.id plan) :
    plan.id ∈ plannedIds (hostScope database node) node.id excluded database :=
  List.mem_map_of_mem (List.mem_filter.mpr ⟨member, by simp [isOther, covers]⟩)

/-- Identifiers are told apart by their texts. -/
theorem toString_injective {first second : Nat} (same : toString first = toString second) :
    first = second := by
  have digits : Nat.toDigits 10 first = Nat.toDigits 10 second := by
    simpa using congrArg String.toList same
  rw [← Nat.ofDigitChars_ten_toDigits (n := first), digits, Nat.ofDigitChars_ten_toDigits]

/-- A lock stands at one place. -/
theorem split_unique {before after otherBefore otherAfter : List LockRecord}
    {lock other : LockRecord} (unique : (locks.map (·.id)).Nodup)
    (first : locks = before ++ lock :: after) (second : locks = otherBefore ++ other :: otherAfter)
    (sameId : other.id = lock.id) : otherBefore = before ∧ other = lock := by
  have isLock : other = lock := by
    refine List.inj_on_of_nodup_map unique ?_ ?_ sameId
    · rw [second]
      simp
    · rw [first]
      simp
  have distinct : locks.Nodup := unique.of_map
  rw [isLock] at second
  rw [second] at distinct
  obtain ⟨_, tail, apart⟩ := List.nodup_append.mp distinct
  have notBefore : lock ∉ otherBefore := fun member =>
    apart lock member lock List.mem_cons_self rfl
  have notAfter : lock ∉ otherAfter := (List.nodup_cons.mp tail).1
  have same := second.symm.trans first
  exact ⟨((List.append_cons_inj_of_notMem notBefore notAfter).mp same).1, isLock⟩

/-- The checks agree on a host exactly when its peers have nothing that is theirs alone. -/
theorem checks_agree_iff (unique : (database.locks.map (·.id)).Nodup)
    (found : database.nodes.find? (·.id = node.id) = some node)
    (rows : locks.Perm (database.locks.filter (·.active)))
    (observed : observe database locks node.id excluded runId = .ok observation) :
    ChecksAgree database node.id excluded observation ↔
      NoStray database locks node excluded := by
  have isRow : ∀ lock, lock ∈ locks ↔ lock ∈ database.locks ∧ lock.active := by
    intro lock
    rw [rows.mem_iff, List.mem_filter]
  have rowIds : (locks.map (·.id)).Nodup :=
    (rows.map _).nodup_iff.mpr (unique.sublist (List.filter_sublist.map _))
  constructor
  · intro agree
    constructor
    · intro plan member isOther active peer isPeer isTarget
      have blocks := blocksPlan_iff.mpr (.inr ⟨active, peer, isPeer, isTarget⟩)
      exact (plan_reported_iff found observed isOther).mp (agree.plans plan member isOther blocks)
    · intro before lock after split isOther isHost peer isPeer isIdentifier
      have isActive := (isRow lock).mp (by rw [split]; simp)
      have blocks := blocksLock_iff.mpr
        ⟨isActive.2, .inr ⟨isHost, peer, isPeer, isIdentifier⟩⟩
      have reported := agree.locks lock isActive.1 isOther blocks
      rw [lock_reported_iff found observed] at reported
      obtain ⟨otherBefore, other, otherAfter, otherSplit, sameId, after⟩ :=
        collectLocks_lock reported
      obtain ⟨rfl, rfl⟩ := split_unique rowIds split otherSplit sameId
      rcases after with (covers | planned) | earlier
      · -- A lock on a peer is not one on the host.
        rw [coversLock, isHost, decide_eq_true_eq, isIdentifier] at covers
        exact absurd (toString_injective covers) isPeer.1
      · exact .inl planned
      · exact .inr earlier
  · intro noStray
    have plans : ∀ plan ∈ database.plans, some plan.id ≠ excluded →
        blocksPlan (ofHost database node.id) plan →
          .plan plan.id ∈ observation.conflictIdentifiers := by
      intro plan member isOther blocks
      rw [plan_reported_iff found observed isOther]
      rcases blocksPlan_iff.mp blocks with covers | ⟨active, peer, isPeer, isTarget⟩
      · exact .inl (mem_plannedIds member isOther covers)
      · exact noStray.plans plan member isOther active peer isPeer isTarget
    have reportedLocks : ∀ lock ∈ database.locks, some lock.ownerPlanId ≠ excluded →
        blocksLock (ofHost database node.id) lock →
          .lock lock.scope lock.identifier lock.id ∈ observation.conflictIdentifiers := by
      intro lock member isOther blocks
      obtain ⟨isActive, reason⟩ := blocksLock_iff.mp blocks
      obtain ⟨before, after, split⟩ := List.append_of_mem ((isRow lock).mpr ⟨member, isActive⟩)
      rw [lock_reported_iff found observed]
      have reported : ReportedAfter (hostScope database node) node.id
          (plannedIds (hostScope database node) node.id excluded database) before lock := by
        rcases reason with covers | ⟨isHost, peer, isPeer, isIdentifier⟩
        · exact .inl (.inl covers)
        · rcases noStray.locks before lock after split isOther isHost peer isPeer isIdentifier with
            planned | earlier
          · exact .inl (.inr planned)
          · exact .inr earlier
      rw [split]
      exact mem_collectLocks_lock isOther reported
    refine ⟨plans, reportedLocks, fun permitted => ⟨?_, ?_⟩, ?_⟩
    · intro plan member blocks
      by_contra isOther
      have reported := plans plan member isOther blocks
      simp only [ConflictObservation.hasConflicts, Bool.not_eq_false', List.isEmpty_iff]
        at permitted
      rw [permitted] at reported
      cases reported
    · intro lock member blocks
      by_contra isOther
      have reported := reportedLocks lock member isOther blocks
      simp only [ConflictObservation.hasConflicts, Bool.not_eq_false', List.isEmpty_iff]
        at permitted
      rw [permitted] at reported
      cases reported
    · intro peer isPeer plan member isOther active isTarget
      exact plans plan member isOther
        (blocksPlan_iff.mpr (.inr ⟨active, peer, isPeer, isTarget⟩))

end Observed

end ConflictChecks

namespace ConflictSample

/-- A plan for the second of two hosts in one cluster. -/
def plan : PlanRecord where
  id := "peer"
  runId := none
  operationKind := .reboot
  targetNodeId := some 2
  targetClusterId := none
  targetAssignmentId := none
  observationMaxAgeSeconds := 900
  observation := ⟨none, none, []⟩
  planHash := ""
  targetManifest := ⟨none, [], [], [1], none⟩
  lifecycleState := .ready
  stateRevision := 1
  expiresAt := 0

/-- The lock that an execution of the plan holds on the cluster. -/
def lock : LockRecord where
  id := 1
  scope := .cluster
  identifier := "1"
  ownerPlanId := "peer"
  runId := none
  ownerToken := "token"
  expiresAt := 0
  releasedAt := none

def node : NodeRow := ⟨1, "alpha", true⟩

def database : Database :=
  { Database.empty with
    nodes := [node, ⟨2, "beta", true⟩]
    clusters := [⟨1, "logs", "logs", false⟩]
    memberships := [(1, 1), (1, 2)]
    plans := [plan] }

/-- The plan is executed. -/
def executing : Database :=
  { database with
    plans := [{ plan with lifecycleState := .executing }]
    locks := [lock] }

/-- What is observed while the plan is executed. -/
def reported : ConflictObservation where
  nodeId := 1
  clusterIds := [1]
  hostAssignmentIds := []
  conflictIdentifiers := [.plan "peer", .lock .cluster "1" 1]

end ConflictSample

open ConflictSample in
/-- A plan that holds its locks is reported for the other host. -/
theorem checks_agree_executing :
    MaintenanceConflicts.observe executing [lock] 1 none none = .ok reported ∧
      ConflictChecks.ChecksAgree executing 1 none reported := by
  have observed : MaintenanceConflicts.observe executing [lock] 1 none none = .ok reported := by
    rfl
  have found : executing.nodes.find? (·.id = node.id) = some node := rfl
  have rows : [lock].Perm (executing.locks.filter (·.active)) := .refl _
  refine ⟨observed, (ConflictChecks.checks_agree_iff (by decide) found rows observed).mpr
    ⟨?_, ?_⟩⟩
  · intro plan member _ _ _ _ _
    rw [List.mem_singleton.mp member]
    exact .inr ⟨lock, List.mem_singleton_self _, by decide +kernel, rfl⟩
  · intro before other after split _ isHost
    have isLock : other ∈ [lock] := by
      rw [split]
      simp
    rw [List.mem_singleton.mp isLock] at isHost
    cases isHost

open ConflictSample in
/-- A plan that is ready makes mutations of the other host fail, and is not reported for it. -/
theorem ready_peer_unreported :
    ScopeConflicts.hasScopeConflict database none (some 1) none = true ∧
      ∃ observation, MaintenanceConflicts.observe database [] 1 none none = .ok observation ∧
        observation.hasConflicts = false ∧
        ¬ ConflictChecks.ChecksAgree database 1 none observation := by
  refine ⟨by decide +kernel, ⟨1, [1], [], []⟩, rfl, rfl, fun agree => ?_⟩
  have reported := agree.plans plan (List.mem_singleton_self _) (by simp) (by decide +kernel)
  cases reported

end ElKeeper
