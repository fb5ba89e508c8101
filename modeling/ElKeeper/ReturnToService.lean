import ElKeeper.WorkflowActions

/-!
# The return to service

A return reconciles the companions of each target by the launch of an operation
on the target's cluster.  The launch is refused while a run is active that holds
a claim in the cluster, and the plan's own run does: it claimed the targets when
the plan was prepared and ends with the return.
-/

namespace ElKeeper

open Program MaintenanceStore

/-- The run is active and claims an assignment of the cluster. -/
def Occupied (runId clusterId : Nat) (database : Database) : Prop :=
  database.activeRun runId = true ∧
    ∃ row ∈ database.assignments, row.clusterId = clusterId ∧ row.operationRunId = some runId

/-- The assignments that a plan takes out of service. -/
def PlanRecord.Targets (plan : PlanRecord) (assignmentId : Nat) : Prop :=
  match plan.operationKind with
  | .reboot => assignmentId ∈ plan.targetManifest.assignmentRevisions.map (·.1)
  | _ => plan.targetAssignmentId = some assignmentId

/-- The plan has not succeeded, and its own run occupies the cluster of one of its targets.  The
names of clusters are unique by the schema. -/
structure HoldsCluster (planId : String) (runId assignmentId clusterId : Nat)
    (database : Database) : Prop where
  plan : ∀ plan, database.plan? planId = some plan →
    plan.lifecycleState ≠ .succeeded ∧ plan.runId = some runId ∧ plan.Targets assignmentId
  names : (database.clusters.map (·.name)).Nodup
  inCluster : ∀ row, database.assignment? assignmentId = some row → row.clusterId = clusterId
  occupied : Occupied runId clusterId database

section Refusal

variable {planId : String} {runId assignmentId clusterId : Nat} {before after : Database}
  {history : History}

/-- The one cluster of a name. -/
theorem find?_name {clusters : List ClusterRow} {cluster : ClusterRow}
    (names : (clusters.map (·.name)).Nodup) (member : cluster ∈ clusters) :
    clusters.find? (·.name = cluster.name) = some cluster := by
  induction clusters with
  | nil => cases member
  | cons first rest ih =>
      rw [List.map_cons, List.nodup_cons] at names
      rcases List.mem_cons.mp member with rfl | later
      · simp
      · have different : first.name ≠ cluster.name := by
          intro same
          exact names.1 (same ▸ List.mem_map_of_mem later)
        rw [List.find?_cons_of_neg (by simpa using different)]
        exact ih names.2 later

/-- A cluster with an active claim has an active operation. -/
theorem Occupied.active {cluster : ClusterRow}
    (occupied : Occupied runId clusterId before)
    (names : (before.clusters.map (·.name)).Nodup)
    (found : before.cluster? clusterId = some cluster) :
    ClusterOperation.activeClusterOperation before cluster.name = true := by
  obtain ⟨active, row, member, inCluster, claimed⟩ := occupied
  have isCluster : cluster.id = clusterId := by simpa using List.find?_some found
  have isFound := find?_name names (List.mem_of_find?_eq_some found)
  have listed : runId ∈ ClusterOperation.operationRunIds before cluster.id := by
    refine List.mem_filterMap.mpr ⟨row, List.mem_filter.mpr ⟨member, ?_⟩, claimed⟩
    simp [inCluster, isCluster]
  obtain ⟨run, runMember, isRun⟩ := List.any_eq_true.mp active
  simp only [Bool.and_eq_true, decide_eq_true_eq] at isRun
  have busy : Runs.anyActiveIds before (ClusterOperation.operationRunIds before cluster.id) := by
    refine List.any_eq_true.mpr ⟨run, runMember, ?_⟩
    rw [isRun.1]
    simp [isRun.2, listed]
  simp only [ClusterOperation.activeClusterOperation, isFound, busy, Bool.or_true]

theorem launchFilebeat_refused {assignmentIds : Option (List Nat)}
    (occupied : Occupied runId clusterId before)
    (names : (before.clusters.map (·.name)).Nodup) (launched : Nat) :
    (ClusterOperation.launchFilebeat clusterId assignmentIds).run before ≠
      (.returned launched, after) := by
  intro ran
  obtain ⟨cluster, _, foundRan, afterFound⟩ := bind_eq_returned ran
  obtain ⟨found, rfl⟩ := ClusterOperation.clusterRecord_returned foundRan
  obtain ⟨active, _, wasRead, afterRead⟩ := bind_eq_returned afterFound
  cases wasRead
  obtain ⟨_, _, isFree, _⟩ := bind_eq_returned afterRead
  have free := (require_eq_returned isFree).1
  beta_reduce at free
  rw [occupied.active names found] at free
  cases free

/-- The workflows leave claims, clusters, plans and the activity of runs alone. -/
theorem HoldsCluster.workflow {owner : String} (write : WorkflowWrite owner before after)
    (holds : HoldsCluster planId runId assignmentId clusterId before) :
    HoldsCluster planId runId assignmentId clusterId after := by
  cases write with
  | launch started =>
      rw [startRun_run] at started
      cases started
      obtain ⟨active, claim⟩ := holds.occupied
      refine ⟨holds.plan, holds.names, holds.inCluster, ?_, claim⟩
      simp only [Database.activeRun, List.any_append, Bool.or_eq_true]
      exact .inl active
  | _ => exact ⟨holds.plan, holds.names, holds.inCluster, holds.occupied⟩

theorem cluster_held {α : Type} (owner : String) {program : Action α}
    (moves : Moves (WorkflowStep owner) program) :
    Maintains (Durably (HoldsCluster planId runId assignmentId clusterId) history)
      (fun world => HoldsCluster planId runId assignmentId clusterId world.working) program
      fun _ world => HoldsCluster planId runId assignmentId clusterId world.working :=
  durably_maintains (moves.mono (WorldStep.widen
    (fun _ _ write holds => holds.workflow write) (fun _ _ _ => trivial)
    fun _ allowed => allowed))

/-- A call that may be announced or not. -/
theorem cluster_held_call {α : Type} {event : Except Fault α → Effect}
    {answer : History → Except Fault α} :
    Maintains (Durably (HoldsCluster planId runId assignmentId clusterId) history)
      (fun world => HoldsCluster planId runId assignmentId clusterId world.working)
      (ask event answer)
      fun _ world => HoldsCluster planId runId assignmentId clusterId world.working :=
  durably_maintains (.ask fun _ _ => trivial)

/-- A transaction whose operation is refused on the durable database. -/
theorem transaction_refused {α : Type} {holds : Database → Prop} {operation : Operation α}
    {world : MaintenanceWorld} (durable : Durably holds history world)
    (refuses : ∀ value database, operation.run world.committed ≠ (.returned value, database)) :
    Durably holds history ((transaction operation).run world).2 ∧
      ∀ value, ((transaction operation).run world).1 ≠ .returned value := by
  rcases transaction_cases operation world with
    ⟨value, _, returned, _, _⟩ | ⟨working, budget, reached, ended⟩
  · exact (refuses value _ (Prod.ext returned rfl)).elim
  · refine ⟨?_, fun value returned => ?_⟩
    · rw [reached]
      exact durable.view world working budget
    · rcases ended with ⟨error, _, raised⟩ | stopped
      · rw [raised] at returned
        cases returned
      · rw [stopped] at returned
        cases returned

/-- The reconciliation of the companions of a claimed target is refused. -/
theorem reconcile_refused :
    Maintains (Durably (HoldsCluster planId runId assignmentId clusterId) history)
      (fun world => HoldsCluster planId runId assignmentId clusterId world.working)
      (CompanionReconciler.reconcile assignmentId) fun _ _ => False := by
  refine .bind Maintains.read fun found => .bind Maintains.ofExcept fun selected => ?_
  refine .bind_never ?_
  intro world durable known
  obtain ⟨isSelected, isFound, holds⟩ := known
  have isCluster : selected = clusterId := by
    rw [isFound] at isSelected
    simp only [CompanionReconciler.clusterForAssignment] at isSelected
    split at isSelected
    · rename_i row isRow
      split at isSelected
      · cases isSelected
        exact holds.inCluster row isRow
      · cases isSelected
    · cases isSelected
  subst isCluster
  exact transaction_refused durable fun launched _ =>
    launchFilebeat_refused durable.committed.occupied durable.committed.names launched

/-- A body that never returns makes nothing durable but what it commits itself. -/
theorem connect_never {α : Type} {body : Action α} {invariant opened : MaintenanceWorld → Prop}
    (opens : ∀ world, invariant world → invariant { world with working := world.committed } ∧
      opened { world with working := world.committed })
    (never : Maintains invariant opened body fun _ _ => False) :
    Maintains invariant (fun _ => True) (connect body) fun _ _ => False := by
  have reopens : Maintains invariant (fun _ => True)
      (Program.update fun world : MaintenanceWorld => { world with working := world.committed } :
        Action Unit) fun _ => opened :=
    .update fun world inv _ => opens world inv
  refine .bind reopens fun _ => .bind never.attempt fun result => ?_
  cases result with
  | ok value => exact fun _ _ returned => (returned value rfl).elim
  | error error =>
      exact .bind (reopens.weaken (fun _ _ _ => trivial) fun _ _ _ known => known)
        fun _ => .raise _ _

end Refusal

namespace HostMaintenanceService

variable {service : HostMaintenanceService} {planId : String}
  {runId assignmentId clusterId : Nat} {history : History}

/-- The return of the claimed target. -/
theorem returnTarget_refused {plan : PlanRecord} {target : ManagedContainerTarget} (index : Nat) :
    Maintains (Durably (HoldsCluster planId runId target.assignmentId clusterId) history)
      (fun world => HoldsCluster planId runId target.assignmentId clusterId world.working)
      (returnTarget service plan index target) fun _ _ => False := by
  refine .bind (cluster_held plan.id (stored_moves (requireAssignmentState_writes plan target _)))
    fun found => ?_
  refine .bind (cluster_held plan.id (stored_moves (transitionAssignmentState_writes _ _ rfl)))
    fun returning => ?_
  refine .bind (cluster_held plan.id (record_moves (by decide) _ (.inl rfl) _ _)) fun _ => ?_
  refine .bind (cluster_held plan.id commit_moves) fun _ => ?_
  refine .bind (.bind cluster_held_call fun _ => cluster_held plan.id (.require _ _)) fun _ => ?_
  refine .bind (cluster_held plan.id (record_moves (by decide) _ (.inr rfl) _ _)) fun _ => ?_
  refine .bind (cluster_held plan.id (stored_moves (transitionAssignmentState_writes _ _ rfl))) fun _ => ?_
  refine .bind (cluster_held plan.id commit_moves) fun _ => ?_
  refine .bind (.bind cluster_held_call fun _ => cluster_held plan.id (.require _ _)) fun _ => ?_
  refine .bind (cluster_held plan.id commit_moves) fun _ => ?_
  exact .bind_never (.bind_never reconcile_refused)

/-- A loop over targets among which is the claimed one. -/
theorem returnEach_refused {plan : PlanRecord} {targets : List ManagedContainerTarget}
    {target : ManagedContainerTarget} (member : target ∈ targets) (index : Nat) :
    Maintains (Durably (HoldsCluster planId runId target.assignmentId clusterId) history)
      (fun world => HoldsCluster planId runId target.assignmentId clusterId world.working)
      (returnEach service plan index targets) fun _ _ => False := by
  induction targets generalizing index with
  | nil => cases member
  | cons first rest ih =>
      rcases List.mem_cons.mp member with rfl | later
      · exact .bind_never (returnTarget_refused index)
      · exact .bind (cluster_held plan.id (returnTarget_moves service index first))
          fun _ => ih later (index + 1)

/-- A target of the manifest is one of the targets that an action finds. -/
theorem Found.targeted {plan : PlanRecord} {nodeId : Nat}
    {targets : List ManagedContainerTarget} {database : Database}
    (found : Found planId plan nodeId targets database) (isTarget : plan.Targets assignmentId) :
    ∃ target ∈ targets, target.assignmentId = assignmentId := by
  have expected := found.expected
  rw [PlanRecord.Targets, found.kind] at isTarget
  simp only [manifestAssignmentIds] at expected
  split at expected
  · rw [Except.ok.injEq] at expected
    have listed : assignmentId ∈ (plan.targetManifest.assignmentRevisions.map (·.1)).insertionSort
        (· ≤ ·) := (List.mem_insertionSort _).mpr isTarget
    rw [expected, List.mem_insertionSort] at listed
    exact List.mem_map.mp listed
  · cases expected

theorem returnHost_never {plan : PlanRecord} {nodeId : Nat}
    {targets : List ManagedContainerTarget} {target : ManagedContainerTarget}
    (member : target ∈ targets) (ticket : MaintenanceActionTicket) (host : HostStateRecord) :
    Maintains (Durably (HoldsCluster planId runId target.assignmentId clusterId) history)
      (fun world => HoldsCluster planId runId target.assignmentId clusterId world.working)
      (returnHost service plan nodeId targets ticket host) fun _ _ => False := by
  refine .bind (cluster_held plan.id (stored_moves (transitionHostWorkflowState_writes _ _ (by decide))))
    fun returning => ?_
  refine .bind (cluster_held plan.id (record_moves (by decide) _ (.inl rfl) _ _)) fun _ => ?_
  refine .bind (cluster_held plan.id commit_moves) fun _ => ?_
  refine .bind (.bind cluster_held_call fun _ => cluster_held plan.id (.require _ _)) fun _ => ?_
  refine .bind (cluster_held plan.id (record_moves (by decide) _ (.inr rfl) _ _)) fun _ => ?_
  exact .bind_never (returnEach_refused ((List.mem_insertionSort _).mpr member) 1)

/-- A return of a host whose plan holds a cluster of a target never ends. -/
theorem returnToService_never :
    Maintains (Durably (HoldsCluster planId runId assignmentId clusterId) history)
      (fun world => HoldsCluster planId runId assignmentId clusterId world.working)
      (returnToService service planId) fun _ _ => False := by
  have finds : Maintains (Durably (HoldsCluster planId runId assignmentId clusterId) history)
      (fun world => HoldsCluster planId runId assignmentId clusterId world.working)
      (store (planAndTargets planId)) fun found world =>
        (∃ target ∈ found.2.2, target.assignmentId = assignmentId) ∧
          HoldsCluster planId runId assignmentId clusterId world.working := by
    have leads : ∀ database (found : PlanRecord × Nat × List ManagedContainerTarget) written,
        (planAndTargets planId).run database = (.returned found, written) →
        HoldsCluster planId runId assignmentId clusterId database →
          (∃ target ∈ found.2.2, target.assignmentId = assignmentId) ∧
            HoldsCluster planId runId assignmentId clusterId written := by
      intro database found written ran holds
      obtain ⟨plan, nodeId, targets⟩ := found
      obtain ⟨isFound, rfl⟩ := planAndTargets_returned ran
      exact ⟨isFound.targeted (holds.plan plan isFound.stored).2.2, holds⟩
    exact Maintains.store Durably.view leads
  refine .bind finds fun found => ?_
  obtain ⟨plan, nodeId, targets⟩ := found
  refine .given ?_
  rintro ⟨target, member, rfl⟩
  refine .bind (cluster_held plan.id (stored_moves (requireHostState_writes _ _ _))) fun host => ?_
  refine .bind (cluster_held plan.id (stored_moves (ticketFor_moves _))) fun ticket => ?_
  exact .onRaise (returnHost_never member ticket host)
    fun _ => Durably.ofQuiet (recover_moves (anyWrite_admitsRecovery _) _ _ _ _)

theorem perform_never :
    Maintains (Durably (HoldsCluster planId runId assignmentId clusterId) history)
      (fun _ => True) (perform service planId .returnToService) fun _ _ => False :=
  connect_never (fun _ known => ⟨⟨known.committed, known.seen⟩, known.committed⟩)
    (.bind_never returnToService_never)

end HostMaintenanceService

namespace ContainerMaintenanceService

variable {service : ContainerMaintenanceService} {planId : String}
  {runId clusterId : Nat} {history : History}

theorem returnWorkload_never {plan : PlanRecord} {target : ManagedContainerTarget}
    (found : AssignmentStateRecord) :
    Maintains (Durably (HoldsCluster planId runId target.assignmentId clusterId) history)
      (fun world => HoldsCluster planId runId target.assignmentId clusterId world.working)
      (returnWorkload service plan target found) fun _ _ => False := by
  refine .bind (cluster_held plan.id (stored_moves (transitionAssignmentState_writes _ _ rfl)))
    fun returning => ?_
  refine .bind (cluster_held plan.id (stored_moves (recordStartedStep_writes _ _))) fun _ => ?_
  refine .bind (cluster_held plan.id commit_moves) fun _ => ?_
  refine .bind (.bind cluster_held_call fun _ => cluster_held plan.id (.require _ _)) fun _ => ?_
  refine .bind (cluster_held plan.id (stored_moves (recordVerifiedStep_writes _ _ _))) fun _ => ?_
  refine .bind (cluster_held plan.id (stored_moves (transitionAssignmentState_writes _ _ rfl)))
    fun verifying => ?_
  refine .bind (cluster_held plan.id (stored_moves (recordStartedStep_writes _ _))) fun _ => ?_
  refine .bind (cluster_held plan.id commit_moves) fun _ => ?_
  refine .bind (.bind cluster_held_call fun _ => cluster_held plan.id (.require _ _)) fun _ => ?_
  refine .bind (cluster_held plan.id (stored_moves (recordVerifiedStep_writes _ _ _))) fun _ => ?_
  refine .bind (cluster_held plan.id (stored_moves (recordStartedStep_writes _ _))) fun _ => ?_
  refine .bind (cluster_held plan.id commit_moves) fun _ => ?_
  exact .bind_never (.bind_never reconcile_refused)

/-- A return of a workload whose plan holds its cluster never ends. -/
theorem returnToService_never {assignmentId : Nat} :
    Maintains (Durably (HoldsCluster planId runId assignmentId clusterId) history)
      (fun world => HoldsCluster planId runId assignmentId clusterId world.working)
      (returnToService service planId) fun _ _ => False := by
  have finds : Maintains (Durably (HoldsCluster planId runId assignmentId clusterId) history)
      (fun world => HoldsCluster planId runId assignmentId clusterId world.working)
      (store (planAndTarget planId)) fun found world =>
        found.2.assignmentId = assignmentId ∧
          HoldsCluster planId runId assignmentId clusterId world.working := by
    have leads : ∀ database (found : PlanRecord × ManagedContainerTarget) written,
        (planAndTarget planId).run database = (.returned found, written) →
        HoldsCluster planId runId assignmentId clusterId database →
          found.2.assignmentId = assignmentId ∧
            HoldsCluster planId runId assignmentId clusterId written := by
      intro database found written ran holds
      obtain ⟨plan, target⟩ := found
      obtain ⟨isFound, rfl⟩ := planAndTarget_returned ran
      have isTarget := (holds.plan plan isFound.stored).2.2
      rw [PlanRecord.Targets, isFound.kind, isFound.selected] at isTarget
      exact ⟨Option.some.inj isTarget, holds⟩
    exact Maintains.store Durably.view leads
  refine .bind finds fun found => ?_
  obtain ⟨plan, target⟩ := found
  refine .given ?_
  rintro rfl
  refine .bind (cluster_held plan.id (stored_moves (requireAssignmentState_writes _ _ _))) fun state => ?_
  refine .bind (cluster_held plan.id (stored_moves (ticketFor_moves _))) fun ticket => ?_
  exact .onRaise (.bind_never (returnWorkload_never state))
    fun _ => Durably.ofQuiet (recover_moves service target (anyWrite_admitsRecovery _) ticket)

theorem perform_never {assignmentId : Nat} :
    Maintains (Durably (HoldsCluster planId runId assignmentId clusterId) history)
      (fun _ => True) (perform service planId .returnToService) fun _ _ => False :=
  connect_never (fun _ known => ⟨⟨known.committed, known.seen⟩, known.committed⟩)
    (.bind_never returnToService_never)

end ContainerMaintenanceService

/-- While the run of a plan is active and claims an assignment in the cluster of one of its targets,
as it does from the preparation on, no return to service ends: neither action returns, and the
plan has not succeeded. -/
theorem return_never_completes {planId : String} {runId assignmentId clusterId : Nat}
    {world : MaintenanceWorld}
    (holds : HoldsCluster planId runId assignmentId clusterId world.committed) :
    (∀ service : HostMaintenanceService,
      (∀ state, ((service.perform planId .returnToService).run world).1 ≠ .returned state) ∧
      ∀ plan, ((service.perform planId .returnToService).run world).2.committed.plan? planId =
        some plan → plan.lifecycleState ≠ .succeeded) ∧
    ∀ service : ContainerMaintenanceService,
      (∀ state, ((service.perform planId .returnToService).run world).1 ≠ .returned state) ∧
      ∀ plan, ((service.perform planId .returnToService).run world).2.committed.plan? planId =
        some plan → plan.lifecycleState ≠ .succeeded := by
  have durable : Durably (HoldsCluster planId runId assignmentId clusterId) world.trace world :=
    ⟨holds, [], rfl, by simp⟩
  constructor
  · intro service
    have never := service.perform_never world durable trivial
    exact ⟨fun state returned => never.2 state returned,
      fun plan isPlan => (never.1.committed.plan plan isPlan).1⟩
  · intro service
    have never := service.perform_never world durable trivial
    exact ⟨fun state returned => never.2 state returned,
      fun plan isPlan => (never.1.committed.plan plan isPlan).1⟩

namespace HostSample

/-- The run of the sample plan holds the cluster of its workload. -/
theorem stopped_holdsCluster : HoldsCluster "plan" 1 1 1 stopped.committed where
  plan plan isPlan := by
    have columns : (stopped.committed.plan? "plan").map (fun plan =>
        (plan.lifecycleState, plan.runId, plan.operationKind,
          plan.targetManifest.assignmentRevisions)) =
        some (.executing, some 1, .reboot, [(1, 1)]) := by decide +kernel
    rw [isPlan, Option.map_some, Option.some.injEq] at columns
    simp only [Prod.mk.injEq] at columns
    obtain ⟨isState, isRun, isKind, isManifest⟩ := columns
    refine ⟨by rw [isState]; decide, isRun, ?_⟩
    rw [PlanRecord.Targets, isKind, isManifest]
    exact List.mem_singleton.mpr rfl
  names := by decide +kernel
  inCluster row found := by
    have isCluster : (stopped.committed.assignment? 1).map (·.clusterId) = some 1 := by
      decide +kernel
    rw [found] at isCluster
    exact Option.some.inj isCluster
  occupied := ⟨by decide +kernel, by decide +kernel⟩

theorem stopped_return_never_completes :
    HoldsCluster "plan" 1 1 1 stopped.committed ∧
      ∀ state, ((service.perform "plan" .returnToService).run stopped).1 ≠ .returned state :=
  ⟨stopped_holdsCluster, ((return_never_completes stopped_holdsCluster).1 service).1⟩

/-- The host is under maintenance, its locks are unexpired, its run is the only active one and
every call is confirmed; the return is refused all the same. -/
theorem return_refused_by_own_run :
    stopped.committed.hostStates.map (·.workflowState) = [.maintenance] ∧
    stopped.committed.assignmentStates.map (·.workflowState) = [.maintenance] ∧
    (∀ lock ∈ stopped.committed.locks, lock.expired 0 = false) ∧
    stopped.committed.runs.map (fun run => (run.id, run.status)) = [(1, .running)] ∧
    ((service.perform "plan" .returnToService).run stopped).1 =
      .raised ⟨.http 409, "Wait for the active cluster operation to finish"⟩ ∧
    (((service.perform "plan" .returnToService).run stopped).2.committed.plan? "plan").map
      (·.lifecycleState) = some .executing := by
  decide +kernel

end HostSample

end ElKeeper
