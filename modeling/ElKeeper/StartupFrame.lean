import ElKeeper.StartupRecovery
import ElKeeper.WorkloadSettlement

/-!
# What a startup leaves alone

The maintenance part of the bootstrap moves plans, host states and assignment
states, and closes runs that a plan owns.  A run that no plan owns, the workload
tables and the inventory stay as they are.
-/

namespace ElKeeper

namespace Database

/-- The run exists and every row with its identifier has this status. -/
structure RunIs (runId : Nat) (status : RunStatus) (database : Database) : Prop where
  present : ∃ run ∈ database.runs, run.id = runId
  all : ∀ run ∈ database.runs, run.id = runId → run.status = status

/-- No maintenance plan owns the run. -/
def Unowned (runId : Nat) (database : Database) : Prop :=
  ∀ plan ∈ database.plans, plan.runId ≠ some runId

theorem Unowned.of_owners {runId : Nat} {before after : Database} (unowned : before.Unowned runId)
    (owners : after.plans.map (·.runId) = before.plans.map (·.runId)) :
    after.Unowned runId := by
  intro plan member owned
  have listed : some runId ∈ after.plans.map (·.runId) :=
    List.mem_map.mpr ⟨plan, member, owned⟩
  rw [owners] at listed
  obtain ⟨other, otherMember, otherOwned⟩ := List.mem_map.mp listed
  exact unowned other otherMember otherOwned

end Database

/-- The workload tables, the inventory and one run are the same. -/
structure SameWorkloads (runId : Nat) (before after : Database) : Prop where
  assignments : after.assignments = before.assignments
  batches : after.batches = before.batches
  clusters : after.clusters = before.clusters
  nodes : after.nodes = before.nodes
  memberships : after.memberships = before.memberships
  owners : after.plans.map (·.runId) = before.plans.map (·.runId)
  run : ∀ status, before.RunIs runId status → after.RunIs runId status
  runIds : before.runs.map (·.id) ⊆ after.runs.map (·.id)

namespace SameWorkloads

variable {runId : Nat} {first second third : Database}

theorem refl (runId : Nat) (database : Database) : SameWorkloads runId database database :=
  ⟨rfl, rfl, rfl, rfl, rfl, rfl, fun _ known => known, List.Subset.refl _⟩

theorem trans (one : SameWorkloads runId first second) (two : SameWorkloads runId second third) :
    SameWorkloads runId first third where
  assignments := two.assignments.trans one.assignments
  batches := two.batches.trans one.batches
  clusters := two.clusters.trans one.clusters
  nodes := two.nodes.trans one.nodes
  memberships := two.memberships.trans one.memberships
  owners := two.owners.trans one.owners
  run status known := two.run status (one.run status known)
  runIds := List.Subset.trans one.runIds two.runIds

theorem unowned (same : SameWorkloads runId first second) (known : first.Unowned runId) :
    second.Unowned runId :=
  known.of_owners same.owners

end SameWorkloads

/-- Changing runs one by one keeps their identifiers. -/
theorem map_runs_ids {runs : List RunRow} {change : RunRow → RunRow}
    (sameId : ∀ run, (change run).id = run.id) :
    runs.map (·.id) ⊆ (runs.map change).map (·.id) := by
  intro identifier member
  obtain ⟨run, runMember, rfl⟩ := List.mem_map.mp member
  exact List.mem_map.mpr ⟨change run, List.mem_map_of_mem runMember, sameId run⟩

/-- A known run is found. -/
theorem Database.RunIs.found {runId : Nat} {status : RunStatus} {database : Database}
    (known : database.RunIs runId status) :
    ∃ run ∈ database.runs, run.id = runId ∧ database.run? runId = some run := by
  cases found : database.run? runId with
  | none =>
      obtain ⟨run, member, isRun⟩ := known.present
      have missed := List.find?_eq_none.mp found run member
      simp [isRun] at missed
  | some run =>
      have isRun : run.id = runId := by simpa using List.find?_some found
      exact ⟨run, List.mem_of_find?_eq_some found, isRun, rfl⟩

/-- Changing the statuses of other runs leaves a run as it is. -/
theorem Database.RunIs.of_map {runId : Nat} {status : RunStatus} {database : Database}
    (known : database.RunIs runId status) {change : RunRow → RunRow}
    (sameId : ∀ run, (change run).id = run.id)
    (sameStatus : ∀ run ∈ database.runs, run.id = runId → (change run).status = run.status) :
    Database.RunIs runId status { database with runs := database.runs.map change } := by
  constructor
  · obtain ⟨run, member, isRun⟩ := known.present
    exact ⟨change run, List.mem_map_of_mem member, (sameId run).trans isRun⟩
  · intro changed member isRun
    obtain ⟨run, runMember, rfl⟩ := List.mem_map.mp member
    rw [sameId] at isRun
    rw [sameStatus run runMember isRun]
    exact known.all run runMember isRun

namespace StartupRecovery

open Program MaintenanceStore

variable {runId : Nat}

theorem sameWorkloads_lifecycle (owner : String) (target : MaintenanceState)
    (database : Database) :
    SameWorkloads runId database (database.setLifecycleState owner target) := by
  refine ⟨rfl, rfl, rfl, rfl, rfl, ?_, fun _ known => ⟨known.present, known.all⟩,
    List.Subset.refl _⟩
  simp only [Database.setLifecycleState, List.map_map]
  refine List.map_congr_left fun plan _ => ?_
  simp only [Function.comp]
  split <;> rfl

theorem transitionPlan_same (planId : String) (revision : Nat) (target : MaintenanceState) :
    Moves (SameWorkloads runId) (transitionPlan planId revision target) :=
  transitionPlan_moves fun database => sameWorkloads_lifecycle planId target database

theorem finishRun_same {other : Nat} (isOther : other ≠ runId) (status : RunStatus) :
    Moves (SameWorkloads runId) (Runs.finishRun other status) := by
  refine .update fun database => ⟨rfl, rfl, rfl, rfl, rfl, rfl, fun _ known => ?_,
    map_runs_ids fun run => by split <;> rfl⟩
  refine known.of_map (fun run => ?_) fun run _ isRun => ?_
  · split <;> rfl
  · rw [if_neg (by omega)]

theorem markRecoveryRequired_same {runIds : List Nat} (others : runId ∉ runIds) :
    Moves (SameWorkloads runId) (Runs.markRecoveryRequired runIds) := by
  refine .update fun database => ⟨rfl, rfl, rfl, rfl, rfl, rfl, fun _ known => ?_,
    map_runs_ids fun run => by split <;> rfl⟩
  refine known.of_map (fun run => ?_) fun run _ isRun => ?_
  · split <;> rfl
  · rw [if_neg (by rw [isRun]; exact fun marked => others marked.1)]

theorem resumePaused_same (plan : PlanRecord) :
    Moves (SameWorkloads runId) (resumePaused plan) := by
  simp only [resumePaused]
  split
  · exact transitionPlan_same _ _ _
  · exact .pure _

theorem markSucceeded_same (plan : PlanRecord) :
    Moves (SameWorkloads runId) (markSucceeded plan) := by
  simp only [markSucceeded]
  split
  · exact .bind (transitionPlan_same _ _ _) fun _ => .pure _
  · exact .pure _

theorem closePlan_same {plan : PlanRecord} (unowned : plan.runId ≠ some runId) :
    Moves (SameWorkloads runId) (closePlan plan) := by
  refine .bind (resumePaused_same plan) fun current => ?_
  refine .bind (markSucceeded_same current) fun _ => .forEach fun other member => ?_
  refine finishRun_same ?_ _
  rintro rfl
  exact unowned (by simpa using member)

theorem recoverPlan_same {classified : PlanRecord × RecoveryDecision}
    (unowned : classified.1.runId ≠ some runId) :
    Moves (SameWorkloads runId) (recoverPlan classified) := by
  simp only [recoverPlan]
  split
  · exact closePlan_same unowned
  · split
    · exact .bind (transitionPlan_same _ _ _) fun _ => .pure _
    · exact .pure _

/-- Steps that keep the workloads lead to the same workloads. -/
theorem sameWorkloads_of_moves {α : Type} {operation : Operation α}
    (moves : Moves (SameWorkloads runId) operation) (database : Database) :
    SameWorkloads runId database (operation.run database).2 :=
  moves.keeps (fun _ _ step known => known.trans step) (.refl runId database)

/-- A program that keeps the workloads of the state it is started in. -/
theorem sameWorkloads_bind {α β : Type} {first : Operation α} {next : α → Operation β}
    {database : Database} (firstSame : SameWorkloads runId database (first.run database).2)
    (nextSame : ∀ value, (first.run database).1 = .returned value →
      SameWorkloads runId (first.run database).2 ((next value).run (first.run database).2).2) :
    SameWorkloads runId database ((first >>= next).run database).2 := by
  rw [run_bind]
  rcases ran : first.run database with ⟨outcome, after⟩
  rw [ran] at firstSame nextSame
  cases outcome with
  | returned value => exact firstSame.trans (nextSame value rfl)
  | raised error => exact firstSame
  | stopped => exact firstSame

/-! ### Classification -/

theorem persistDecision_moves {writes : Database → Database → Prop} (plan : PlanRecord)
    (decision : RecoveryDecision)
    (allowed : ∀ database checkpointId evidence, writes database
      (database.mapCheckpoints fun row =>
        if row.id = checkpointId then classified evidence row else row)) :
    Moves writes (persistDecision plan decision) := by
  refine .bind (.read _) fun latest => ?_
  cases latest with
  | none => exact .pure ()
  | some checkpoint =>
      dsimp only
      split
      · exact .pure ()
      · refine .bind (.read _) fun found => ?_
        cases found with
        | none => exact .raise _
        | some row =>
            refine .bind (.require _ _) fun _ => ?_
            exact .update fun database => allowed database _ _

theorem classifyPlans_moves {writes : Database → Database → Prop} (projections : Projections)
    (plans : List PlanRecord)
    (allowed : ∀ database checkpointId evidence, writes database
      (database.mapCheckpoints fun row =>
        if row.id = checkpointId then classified evidence row else row)) :
    Moves writes (classifyPlans projections plans) := by
  induction plans with
  | nil => exact .pure _
  | cons plan rest ih =>
      refine .bind (.read _) fun decision => ?_
      refine .bind (persistDecision_moves plan decision allowed) fun _ => ?_
      exact .bind ih fun others => .pure _

/-- Every plan is classified, in order. -/
theorem classifyPlans_plans {projections : Projections} {plans : List PlanRecord}
    {database after : Database} {decided : List (PlanRecord × RecoveryDecision)}
    (ran : (classifyPlans projections plans).run database = (.returned decided, after)) :
    decided.map (·.1) = plans := by
  induction plans generalizing database decided with
  | nil =>
      cases ran
      rfl
  | cons plan rest ih =>
      obtain ⟨decision, read, wasRead, ran⟩ := bind_eq_returned ran
      obtain ⟨_, persisted, _, ran⟩ := bind_eq_returned ran
      obtain ⟨others, between, restRan, ended⟩ := bind_eq_returned ran
      cases ended
      simp only [List.map_cons, ih restRan]

theorem prepareStartupRecovery_same (projections : Projections) {database : Database}
    (unowned : database.Unowned runId) :
    SameWorkloads runId database ((prepareStartupRecovery projections).run database).2 := by
  refine sameWorkloads_bind (.refl _ _) fun plans returned => ?_
  cases returned
  refine sameWorkloads_bind (sameWorkloads_of_moves (classifyPlans_moves _ _ ?_) _)
    fun decided returned => ?_
  · exact fun _ _ _ => ⟨rfl, rfl, rfl, rfl, rfl, rfl, fun _ known => ⟨known.present, known.all⟩,
      List.Subset.refl _⟩
  have listed : ∀ entry ∈ decided, entry.1.runId ≠ some runId := by
    intro entry member
    have planned := classifyPlans_plans (Prod.ext returned rfl)
    have inPlans : entry.1 ∈ candidates database := planned ▸ List.mem_map_of_mem member
    exact unowned entry.1 (List.mem_filter.mp inPlans).1
  refine sameWorkloads_of_moves ?_ _
  refine .bind (.forEach fun entry member => recoverPlan_same (listed entry member)) fun _ => ?_
  refine markRecoveryRequired_same fun marked => ?_
  obtain ⟨entry, entryMember, owned⟩ := List.mem_filterMap.mp marked
  exact listed entry (List.mem_filter.mp entryMember).1 owned

theorem sameWorkloads_hostState (nodeId : Nat) (database : Database) :
    SameWorkloads runId database (database.addHostState (newHostState nodeId)) :=
  ⟨rfl, rfl, rfl, rfl, rfl, rfl, fun _ known => ⟨known.present, known.all⟩,
    List.Subset.refl _⟩

theorem reconcileHost_same (plan : PlanRecord) (nodeId : Nat) :
    Moves (SameWorkloads runId) (reconcileHost plan nodeId) := by
  refine .bind (.read _) fun found => ?_
  cases found with
  | none => exact .pure _
  | some host =>
      dsimp only
      split
      · refine .bind (transitionHostState_moves ?_ ?_) fun _ => .pure _
        · exact fun database _ => sameWorkloads_hostState nodeId database
        · exact fun _ _ _ =>
            ⟨rfl, rfl, rfl, rfl, rfl, rfl, fun _ known => ⟨known.present, known.all⟩,
    List.Subset.refl _⟩
      · exact .pure _

theorem reconcileAssignment_same (plan : PlanRecord) (assignmentId : Nat) :
    Moves (SameWorkloads runId) (reconcileAssignment plan assignmentId) := by
  refine .bind (.read _) fun found => ?_
  cases found with
  | none => exact .pure _
  | some state =>
      dsimp only
      split
      · refine .bind (transitionAssignmentState_moves ?_ ?_) fun _ => .pure _
        · exact fun _ _ =>
            ⟨rfl, rfl, rfl, rfl, rfl, rfl, fun _ known => ⟨known.present, known.all⟩,
    List.Subset.refl _⟩
        · exact fun _ _ _ =>
            ⟨rfl, rfl, rfl, rfl, rfl, rfl, fun _ known => ⟨known.present, known.all⟩,
    List.Subset.refl _⟩
      · exact .pure _

theorem requireRecovery_same (plan : PlanRecord) :
    Moves (SameWorkloads runId) (requireRecovery plan) := by
  simp only [requireRecovery]
  split
  · exact .bind (transitionPlan_same _ _ _) fun _ => .pure _
  · exact .require _ _

theorem reconcilePlan_same (planId : String) {database : Database}
    (unowned : database.Unowned runId) :
    SameWorkloads runId database ((reconcilePlan planId).run database).2 := by
  refine sameWorkloads_bind (sameWorkloads_of_moves (getPlan_moves planId) database)
    fun plan returned => ?_
  have member : plan ∈ database.plans := by
    simp only [getPlan, run_bind, run_read] at returned
    cases found : database.plan? planId with
    | none =>
        rw [found] at returned
        cases returned
    | some other =>
        rw [found] at returned
        cases returned
        exact List.mem_of_find?_eq_some found
  refine sameWorkloads_of_moves ?_ _
  refine .bind (.require _ _) fun _ => ?_
  refine .bind (requireRecovery_same plan) fun _ => ?_
  refine .bind (markRecoveryRequired_same fun marked => ?_) fun _ => ?_
  · exact unowned plan member (by simpa using marked)
  · refine .bind (.forEach fun nodeId _ => reconcileHost_same plan nodeId) fun _ => ?_
    exact .forEach fun assignmentId _ => reconcileAssignment_same plan assignmentId

/-- A loop keeps the workloads when its body does wherever the run is unowned. -/
theorem forEach_same {α : Type} {items : List α} {body : α → Operation Unit}
    (bodySame : ∀ item database, Database.Unowned runId database →
      SameWorkloads runId database ((body item).run database).2)
    {database : Database} (unowned : database.Unowned runId) :
    SameWorkloads runId database ((forEach items body).run database).2 := by
  induction items generalizing database with
  | nil => exact .refl _ _
  | cons item items ih =>
      have first := bodySame item database unowned
      exact sameWorkloads_bind first fun _ _ => ih (first.unowned unowned)

theorem reconcileStartupWorkflows_same {database : Database}
    (unowned : database.Unowned runId) :
    SameWorkloads runId database (reconcileStartupWorkflows.run database).2 := by
  refine sameWorkloads_bind (.refl _ _) fun plans _ => ?_
  exact forEach_same (fun plan _ known => reconcilePlan_same plan.id known) unowned

/-! ### New runs -/

/-- The status that a startup leaves an unowned run with. -/
def restarted (hasBatch : Bool) : RunStatus → RunStatus
  | .queued | .running => if hasBatch then .recoveryRequired else .failed
  | status => status

/-- What a completed bootstrap does to the workloads and to an unowned run. -/
structure Bootstrapped (runId : Nat) (before after : Database) : Prop where
  assignments : after.assignments = before.assignments
  batches : ∃ phases : BatchRow → BatchPhase,
    after.batches = before.batches.map fun row => { row with phase := phases row }
  clusters : after.clusters = before.clusters
  nodes : after.nodes = before.nodes
  memberships : after.memberships = before.memberships
  owners : after.plans.map (·.runId) = before.plans.map (·.runId)
  run : ∀ status, before.RunIs runId status →
    after.RunIs runId (restarted (before.batch? runId).isSome status)
  runIds : before.runs.map (·.id) ⊆ after.runs.map (·.id)

/-- Every assignment and every membership has its cluster and its node. -/
structure Placed (database : Database) : Prop where
  assignments : ∀ row ∈ database.assignments, orphaned database row.clusterId row.nodeId = false
  memberships : ∀ place ∈ database.memberships, orphaned database place.1 place.2 = false

/-- The clusters and nodes are the same, and rows are where there was one before. -/
theorem Placed.same {database after : Database} (placed : Placed database)
    (clusters : after.clusters = database.clusters) (nodes : after.nodes = database.nodes)
    (memberships : after.memberships = database.memberships)
    (stems : ∀ row ∈ after.assignments, ∃ source ∈ database.assignments,
      row.clusterId = source.clusterId ∧ row.nodeId = source.nodeId) : Placed after := by
  constructor
  · intro row member
    obtain ⟨source, sourceMember, sameCluster, sameNode⟩ := stems row member
    have there := placed.assignments source sourceMember
    simp only [orphaned, Database.cluster?, clusters, nodes, sameCluster, sameNode] at there ⊢
    exact there
  · intro place member
    rw [memberships] at member
    have there := placed.memberships place member
    simp only [orphaned, Database.cluster?, clusters, nodes] at there ⊢
    exact there

theorem dropOrphans_of_placed {database : Database} (placed : Placed database) :
    dropOrphans database = database := by
  have kept : database.assignments.filter
      (fun row => !orphaned database row.clusterId row.nodeId) = database.assignments :=
    List.filter_eq_self.mpr fun row member => by simp [placed.assignments row member]
  have members : database.memberships.filter
      (fun place => !orphaned database place.1 place.2) = database.memberships :=
    List.filter_eq_self.mpr fun place member => by simp [placed.memberships place member]
  simp only [dropOrphans, Database.dropAssignments, kept, members]

/-- The loop that closes runs, in one step. -/
theorem finishEach_run (runIds : List Nat) (status : RunStatus) (database : Database) :
    (forEach runIds fun runId => Runs.finishRun runId status).run database =
      (.returned (), { database with
        runs := database.runs.map fun run =>
          if run.id ∈ runIds then { run with status := status } else run }) := by
  induction runIds generalizing database with
  | nil => simp [forEach]
  | cons first rest ih =>
      simp only [forEach, Runs.finishRun, run_bind, run_update] at ih ⊢
      rw [ih]
      simp only [Database.setRunStatus, List.map_map]
      congr 2
      refine List.map_congr_left fun run _ => ?_
      by_cases isFirst : run.id = first
      · by_cases inRest : first ∈ rest <;> simp [isFirst, inRest]
      · simp [isFirst]

theorem abandoned_iff {runId : Nat} {status : RunStatus} {database : Database}
    (known : database.RunIs runId status) (unowned : database.Unowned runId) {run : RunRow}
    (member : run ∈ database.runs) (isRun : run.id = runId) :
    abandoned database run = (status = .queued || status = .running) := by
  have noOwner : database.plans.any (fun plan => plan.runId = some run.id) = false := by
    rw [List.any_eq_false]
    intro plan planMember owned
    exact unowned plan planMember (by simpa [isRun] using owned)
  simp [abandoned, noOwner, known.all run member isRun]

theorem batch?_isSome_iff {runId : Nat} {database : Database} :
    (database.batch? runId).isSome ↔ runId ∈ database.batches.map (·.runId) := by
  simp [Database.batch?, List.find?_isSome]

/-- The runs of interrupted batches, for one unowned run. -/
theorem mem_interruptedBatches {runId : Nat} {status : RunStatus} {database : Database}
    (known : database.RunIs runId status) (unowned : database.Unowned runId) :
    runId ∈ interruptedBatches database ↔
      (database.batch? runId).isSome ∧ (status = .queued ∨ status = .running) := by
  obtain ⟨run, member, isRun, isFound⟩ := known.found
  rw [batch?_isSome_iff]
  simp only [interruptedBatches, List.mem_filter, isFound, Option.any_some,
    abandoned_iff known unowned member isRun]
  simp

/-- An unowned run after the interrupted batches were marked. -/
theorem marked_run {runId : Nat} {status : RunStatus} {database : Database}
    (known : database.RunIs runId status) (unowned : database.Unowned runId) :
    ((Runs.markRecoveryRequired (interruptedBatches database)).run database).2.RunIs runId
      (if (database.batch? runId).isSome ∧ (status = .queued ∨ status = .running) then
        .recoveryRequired else status) := by
  have listed := mem_interruptedBatches known unowned
  constructor
  · obtain ⟨run, member, isRun⟩ := known.present
    refine ⟨_, List.mem_map_of_mem member, ?_⟩
    split <;> exact isRun
  · intro changed member isRun
    obtain ⟨run, runMember, rfl⟩ := List.mem_map.mp member
    have sameId : run.id = runId := by
      rw [← isRun]
      split <;> rfl
    have sameStatus := known.all run runMember sameId
    by_cases marked : (database.batch? runId).isSome ∧ (status = .queued ∨ status = .running)
    · rw [if_pos marked, if_pos ⟨sameId ▸ listed.mpr marked, sameStatus ▸ marked.2⟩]
    · have unmarked : ¬ (run.id ∈ interruptedBatches database ∧
          (run.status = .queued ∨ run.status = .running)) :=
        fun isMarked => marked (listed.mp (sameId ▸ isMarked.1))
      rw [if_neg marked, if_neg unmarked]
      exact sameStatus

/-- An unowned run after the abandoned runs were closed. -/
theorem closed_run {runId : Nat} {status : RunStatus} {database : Database}
    (known : database.RunIs runId status) (unowned : database.Unowned runId) :
    Database.RunIs runId (if status = .queued ∨ status = .running then .failed else status)
      { database with
        runs := database.runs.map fun run =>
          if run.id ∈ (database.runs.filter (abandoned database)).map (·.id) then
            { run with status := .failed }
          else run } := by
  have listed : runId ∈ (database.runs.filter (abandoned database)).map (·.id) ↔
      (status = .queued ∨ status = .running) := by
    constructor
    · intro member
      obtain ⟨run, runMember, isRun⟩ := List.mem_map.mp member
      obtain ⟨inRuns, isAbandoned⟩ := List.mem_filter.mp runMember
      rw [abandoned_iff known unowned inRuns isRun] at isAbandoned
      simpa using isAbandoned
    · intro active
      obtain ⟨run, member, isRun⟩ := known.present
      refine List.mem_map.mpr ⟨run, List.mem_filter.mpr ⟨member, ?_⟩, isRun⟩
      rw [abandoned_iff known unowned member isRun]
      simpa using active
  constructor
  · obtain ⟨run, member, isRun⟩ := known.present
    refine ⟨_, List.mem_map_of_mem member, ?_⟩
    split <;> exact isRun
  · intro changed member isRun
    obtain ⟨run, runMember, rfl⟩ := List.mem_map.mp member
    have sameId : run.id = runId := by
      rw [← isRun]
      split <;> rfl
    by_cases active : status = .queued ∨ status = .running
    · rw [if_pos active, if_pos (sameId ▸ listed.mpr active)]
    · rw [if_neg active, if_neg (fun member => active (listed.mp (sameId ▸ member)))]
      exact known.all run runMember sameId

theorem closeAbandonedRuns_bootstrapped {runId : Nat} {database : Database}
    (unowned : database.Unowned runId) (placed : Placed database) :
    Bootstrapped runId database (closeAbandonedRuns.run database).2 := by
  simp only [closeAbandonedRuns, run_bind, run_update, run_read, dropOrphans_of_placed placed,
    Runs.markRecoveryRequired, finishEach_run]
  refine ⟨rfl, ⟨fun row => if row.runId ∈ interruptedBatches database then .rollingBack
    else row.phase, ?_⟩, rfl, rfl, rfl, rfl, fun status known => ?_, ?_⟩
  · refine List.map_congr_left fun row _ => ?_
    by_cases listed : row.runId ∈ interruptedBatches database <;> simp [listed]
  · have marked := marked_run known unowned
    have closed := closed_run marked unowned
    have sameStatus : restarted (database.batch? runId).isSome status =
        if (if (database.batch? runId).isSome ∧ (status = .queued ∨ status = .running) then
            .recoveryRequired else status) = .queued ∨
          (if (database.batch? runId).isSome ∧ (status = .queued ∨ status = .running) then
            .recoveryRequired else status) = .running then .failed
        else
          if (database.batch? runId).isSome ∧ (status = .queued ∨ status = .running) then
            .recoveryRequired else status := by
      cases (database.batch? runId).isSome <;> cases status <;> simp [restarted]
    rw [sameStatus]
    exact ⟨closed.present, closed.all⟩
  · refine List.Subset.trans (map_runs_ids fun run => ?_) (map_runs_ids fun run => ?_) <;>
      (split <;> rfl)

theorem completeControllerBootstrap_returned (projections : Projections) {runId : Nat}
    {database after : Database} (unowned : database.Unowned runId) (placed : Placed database)
    (ran : (completeControllerBootstrap projections).run database = (.returned (), after)) :
    Bootstrapped runId database after := by
  obtain ⟨_, prepared, prepareRan, continued⟩ := bind_eq_returned ran
  obtain ⟨_, reconciled, reconcileRan, closed⟩ := bind_eq_returned continued
  have prepareSame : SameWorkloads runId database prepared := by
    have same : SameWorkloads runId database _ :=
      prepareStartupRecovery_same projections unowned
    rwa [prepareRan] at same
  have reconcileSame : SameWorkloads runId prepared reconciled := by
    have same := reconcileStartupWorkflows_same (prepareSame.unowned unowned)
    rwa [reconcileRan] at same
  have same := prepareSame.trans reconcileSame
  have placedHere : Placed reconciled := by
    refine placed.same same.clusters same.nodes same.memberships fun row member => ?_
    rw [same.assignments] at member
    exact ⟨row, member, rfl, rfl⟩
  have booted := closeAbandonedRuns_bootstrapped (same.unowned unowned) placedHere
  rw [closed] at booted
  exact
    { assignments := booted.assignments.trans same.assignments
      batches := by
        obtain ⟨phases, changed⟩ := booted.batches
        exact ⟨phases, by rw [changed, same.batches]⟩
      clusters := booted.clusters.trans same.clusters
      nodes := booted.nodes.trans same.nodes
      memberships := booted.memberships.trans same.memberships
      owners := booted.owners.trans same.owners
      run := by
        intro status known
        have here := booted.run status (same.run status known)
        rwa [Database.batch?, same.batches] at here
      runIds := List.Subset.trans same.runIds booted.runIds }

end StartupRecovery

end ElKeeper
