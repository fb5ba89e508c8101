import ElKeeper.ExecutionSteps
import ElKeeper.HostMaintenance
import ElKeeper.RebootSteps

/-!
# The steps of the host workflow

The actions of the host workflow are composed of few kinds of writes.  Between
the ticket of `prepare` and the finalization of a return none of them touches
plans, locks, batches or the claims of assignments: those belong to the
execution service, to the claims of `prepare` and to the reboot, which are
treated apart.
-/

namespace ElKeeper

open Program MaintenanceStore

/-- The keys of the workflow's own checkpoints; the end of a reboot is treated apart. -/
def CheckpointKey.ofWorkflow : CheckpointKey → Bool
  | hostStep .rebootComplete _ => false
  | hostStep _ _ | containerIntent _ | containerVerified _ => true
  | _ => false

theorem CheckpointKey.ofWorkflow_cases {key : CheckpointKey} (isKey : key.ofWorkflow) :
    (∃ step assignment, key = .hostStep step assignment ∧ step ≠ .rebootComplete) ∨
      (∃ step, key = .containerIntent step) ∨ ∃ step, key = .containerVerified step := by
  cases key with
  | hostStep step assignment =>
      refine .inl ⟨step, assignment, rfl, ?_⟩
      rintro rfl
      cases isKey
  | containerIntent step => exact .inr (.inl ⟨step, rfl⟩)
  | containerVerified step => exact .inr (.inr ⟨step, rfl⟩)
  | _ => cases isKey

/-- A content as a workflow records it around its effects. -/
structure MaintenanceStore.CheckpointContent.OfWorkflow (content : CheckpointContent) :
    Prop where
  key : content.key.ofWorkflow
  state : content.sideEffectState = .mayHaveStarted ∨ content.sideEffectState = .verified

/-- The writes of a workflow on one plan outside of its ticket, its claims and its reboot. -/
inductive WorkflowWrite (planId : String) : Database → Database → Prop where
  | addHost {database : Database} {nodeId : Nat} (missing : database.hostState? nodeId = none) :
      WorkflowWrite planId database (database.addHostState (newHostState nodeId))
  | setHost (database : Database) (nodeId : Nat) {change : HostStateRecord → HostStateRecord}
      (changed : ∀ host, (change host).nodeId = host.nodeId ∧
        (change host).workflowState ≠ .recoveryRequired) :
      WorkflowWrite planId database (database.setHostState nodeId change)
  | addAssignment {database : Database} {assignmentId : Nat}
      (missing : database.assignmentState? assignmentId = none) :
      WorkflowWrite planId database
        (database.addAssignmentState (newAssignmentState assignmentId))
  | setAssignment (database : Database) (assignmentId : Nat)
      {change : AssignmentStateRecord → AssignmentStateRecord}
      (changed : ∀ state, (change state).assignmentId = state.assignmentId ∧
        (change state).workflowState ≠ .recoveryRequired ∧
        (change state).activePlanId = some planId) :
      WorkflowWrite planId database (database.setAssignmentState assignmentId change)
  | addStep (database : Database) (row : StepRecord) :
      WorkflowWrite planId database (database.addStep row)
  | setStep (database : Database) (stepId : Nat) (target : MaintenanceStepState) :
      WorkflowWrite planId database (database.setStepState stepId target)
  | checkpoint (database : Database) (identifier : Nat) {content : CheckpointContent}
      (announces : content.OfWorkflow) :
      WorkflowWrite planId database (database.addCheckpoint (content.row planId identifier))
  | addGuard (database : Database) (row : AllocationGuardRecord) :
      WorkflowWrite planId database (database.addAllocationGuard row)
  | setGuard (database : Database) (guardId : Nat) (phase : AllocationGuardPhase)
      (checkpoint : Json) :
      WorkflowWrite planId database (database.setAllocationGuard guardId phase checkpoint)
  | launch {database after : Database} {kind target : String} {context : Dict} {runId : Nat}
      (started : (Runs.startRun kind target context).run database = (.returned runId, after)) :
      WorkflowWrite planId database after

/-- Effects that are dispatched without a checkpoint of their own. -/
def Effect.unannounced : Effect → Bool
  | .runtimeStop _ | .runtimeStart _ | .executorStage _ | .invokeReboot _ _ => false
  | _ => true

/-- The checkpoint that announces an effect is in the journal of the plan. -/
def HasAnnouncement (planId : String) (database : Database) : Effect → Prop
  | .runtimeStop assignmentId =>
      (database.journal planId (.hostStep .stop (some assignmentId))).isSome ∨
        (database.journal planId (.containerIntent .stop)).isSome
  | .runtimeStart assignmentId =>
      (database.journal planId (.hostStep .returning (some assignmentId))).isSome ∨
        (database.journal planId (.containerIntent .returning)).isSome
  | .executorStage _ => (database.journal planId (.hostStep .reboot none)).isSome
  | .invokeReboot _ _ => (database.journal planId .rebootIntent).isSome
  | _ => True

theorem announced_of_unannounced {effect : Effect} (unannounced : effect.unannounced)
    (planId : String) (database : Database) : HasAnnouncement planId database effect := by
  cases effect <;> trivial

/-- A workflow itself dispatches what is durably announced, and no reboot. -/
def Announces (planId : String) (world : MaintenanceWorld) (effect : Effect) : Prop :=
  effect.isInvocation = false ∧ HasAnnouncement planId world.committed effect

/-- The steps of a workflow on one plan. -/
abbrev WorkflowStep (planId : String) : MaintenanceWorld → MaintenanceWorld → Prop :=
  WorldStep (WorkflowWrite planId) (Announces planId) fun _ => True

section Steps

variable {planId : String}

theorem stored_moves {α : Type} {operation : Operation α}
    (moves : Moves (WorkflowWrite planId) operation) :
    Moves (WorkflowStep planId) (store operation) :=
  .store moves

theorem commit_moves : Moves (WorkflowStep planId) (commit : Action Unit) :=
  .commit fun _ => trivial

theorem announces_of_unannounced {effect : Effect} (unannounced : effect.unannounced)
    (world : MaintenanceWorld) : Announces planId world effect := by
  refine ⟨?_, announced_of_unannounced unannounced _ _⟩
  cases effect <;> first | rfl | cases unannounced

theorem ask_moves {α : Type} {event : Except Fault α → Effect}
    {answer : History → Except Fault α} (unannounced : ∀ reply, (event reply).unannounced) :
    Moves (WorkflowStep planId) (ask event answer) :=
  .ask fun world reply => announces_of_unannounced (unannounced reply) world

/-- A checkpoint that is recorded and committed announces what follows. -/
theorem announced_moves {α : Type} {operation : Operation Unit} {program : Action α}
    {key : CheckpointKey} (moves : Moves (WorkflowWrite planId) operation)
    (records : ∀ database after, operation.run database = (.returned (), after) →
      (after.journal planId key).isSome)
    (reaches : ∀ world, (world.committed.journal planId key).isSome →
      Relation.ReflTransGen (WorkflowStep planId) world (program.run world).2) :
    Moves (WorkflowStep planId) (do
      store operation
      commit
      program) := by
  intro world
  have before := stored_moves moves world
  rw [run_bind]
  rcases ran : (store operation).run world with ⟨outcome, after⟩
  rw [ran] at before
  cases outcome with
  | returned value =>
      refine before.trans (commit_bind_reaches trivial fun closed _ isCommitted => reaches closed ?_)
      have returned : ((store operation).run world).1 = .returned value := by rw [ran]
      obtain ⟨budget, reached⟩ := store_run operation world
      rw [ran] at reached
      have isWorking : after.working = (operation.run world.working).2 :=
        congrArg World.working reached
      rw [isCommitted, isWorking]
      exact records world.working _ (Prod.ext (store_returned returned) rfl)
  | raised error => exact before
  | stopped => exact before

theorem view_moves {α : Type} (project : Database → α) :
    Moves (WorkflowStep planId) (view project : Action α) :=
  .read _

/-! ### Host and assignment states -/

theorem getHostState_writes (nodeId : Nat) : Moves (WorkflowWrite planId) (getHostState nodeId) :=
  getHostState_moves fun _ missing => .addHost missing

theorem getAssignmentState_writes (assignmentId : Nat) :
    Moves (WorkflowWrite planId) (getAssignmentState assignmentId) :=
  getAssignmentState_moves fun _ missing => .addAssignment missing

theorem transitionHostState_writes (nodeId revision : Nat) {target : HostMaintenanceState}
    (owner : Option String) (live : target.workflowState ≠ .recoveryRequired) :
    Moves (WorkflowWrite planId) (transitionHostState nodeId revision target owner) :=
  transitionHostState_moves (fun _ missing => .addHost missing)
    fun database _ changed => .setHost database nodeId fun host =>
      ⟨(changed host).1, by rw [(changed host).2]; exact live⟩

theorem transitionHostWorkflowState_writes (nodeId revision : Nat)
    {target : MaintenanceWorkflowState} (live : target ≠ .recoveryRequired) :
    Moves (WorkflowWrite planId) (transitionHostWorkflowState nodeId revision target) :=
  transitionHostWorkflowState_moves (fun _ missing => .addHost missing)
    fun database _ changed => .setHost database nodeId fun host =>
      ⟨(changed host).1, by rw [(changed host).2]; exact live⟩

/-- The states in which an assignment is under maintenance and not in recovery. -/
def MaintenanceWorkflowState.held : MaintenanceWorkflowState → Bool
  | available | recoveryRequired => false
  | _ => true

theorem transitionAssignmentState_writes (assignmentId revision : Nat)
    {target : MaintenanceWorkflowState} (held : target.held) :
    Moves (WorkflowWrite planId)
      (transitionAssignmentState assignmentId revision target (some planId)) := by
  refine transitionAssignmentState_moves (fun _ missing => .addAssignment missing)
    fun database _ changed => .setAssignment database assignmentId fun state => ?_
  obtain ⟨sameId, isTarget, isOwner⟩ := changed state
  refine ⟨sameId, ?_, ?_⟩
  · rw [isTarget]
    rintro rfl
    cases held
  · rw [isOwner, if_neg]
    rintro rfl
    cases held

/-! ### Allocation guards -/

theorem createAllocationGuard_writes (clusterId : Nat) (owner : String) (checkpoint : Json) :
    Moves (WorkflowWrite planId) (createAllocationGuard clusterId owner checkpoint) := by
  refine .bind (.read _) fun existing => ?_
  cases existing with
  | some row => exact .require _ _
  | none =>
      refine .bind (.read _) fun active => .bind (.require _ _) fun _ => ?_
      refine .bind (.read _) fun known => .bind (.require _ _) fun _ => ?_
      exact .bind (.read _) fun identifier => .update fun database => .addGuard database _

theorem transitionAllocationGuard_writes (record : AllocationGuardRecord)
    (phase : AllocationGuardPhase) (checkpoint : Json) :
    Moves (WorkflowWrite planId) (transitionAllocationGuard record phase checkpoint) := by
  refine .bind (.read _) fun found => ?_
  cases found with
  | none => exact .raise _
  | some current =>
      refine .bind (.require _ _) fun _ => .bind (.require _ _) fun _ => ?_
      exact .bind (.require _ _) fun _ => .update fun database => .setGuard database _ _ _

namespace AllocationGuardService

variable (gateway : AllocationGuardGateway) (owner : String) (clusterId : Nat)

theorem capture_moves : Moves (WorkflowStep planId) (capture gateway owner clusterId) := by
  refine .bind (view_moves _) fun found => ?_
  cases found with
  | some current =>
      dsimp only
      split
      · exact .raise _
      · exact .ofExcept _
  | none =>
      refine .bind (view_moves _) fun active => .bind (.require _ _) fun _ => ?_
      refine .bind (ask_moves fun _ => rfl) fun answer => .bind (.require _ _) fun _ => ?_
      exact stored_moves (createAllocationGuard_writes _ _ _)

theorem ownedRecord_moves : Moves (WorkflowStep planId) (ownedRecord owner clusterId) := by
  refine .bind (view_moves _) fun found => ?_
  cases found with
  | some record => exact .pure record
  | none =>
      refine .bind (view_moves _) fun active => ?_
      split
      · exact .raise _
      · exact .raise _

theorem activate_moves : Moves (WorkflowStep planId) (activate gateway owner clusterId) := by
  refine .bind (ownedRecord_moves owner clusterId) fun record => .bind (.require _ _) fun _ => ?_
  refine .bind (.ofExcept _) fun _ => ?_
  split
  · exact .pure ()
  · refine .bind (.require _ _) fun _ => .bind (.attempt (ask_moves fun _ => rfl)) fun answer => ?_
    cases answer with
    | error error =>
        exact .bind (stored_moves (transitionAllocationGuard_writes _ _ _)) fun _ => .raise _
    | ok activated => exact stored_moves (transitionAllocationGuard_writes _ _ _)

theorem restore_moves : Moves (WorkflowStep planId) (restore gateway owner clusterId) := by
  refine .bind (ownedRecord_moves owner clusterId) fun record => .bind (.ofExcept _) fun _ => ?_
  split
  · exact .pure ()
  · refine .bind (ask_moves fun _ => rfl) fun answer => ?_
    exact stored_moves (transitionAllocationGuard_writes _ _ _)

end AllocationGuardService

/-! ### Companions -/

theorem startRun_writes (kind target : String) (context : Dict) :
    Moves (WorkflowWrite planId) (Runs.startRun kind target context) := by
  intro database
  have started := startRun_run kind target context database
  rw [started]
  exact .single (.launch started)

theorem launchFilebeat_writes (clusterId : Nat) (assignmentIds : Option (List Nat)) :
    Moves (WorkflowWrite planId) (ClusterOperation.launchFilebeat clusterId assignmentIds) := by
  refine .bind (.bind (.read _) fun found => ?_) fun cluster => ?_
  · cases found with
    | some cluster => exact .pure cluster
    | none => exact .raise _
  · refine .bind (.read _) fun active => .bind (.require _ _) fun _ => ?_
    exact startRun_writes _ _ _

/-- A launch that is refused has not written. -/
theorem launchFilebeat_raised {clusterId : Nat} {assignmentIds : Option (List Nat)}
    {database after : Database} {error : Fault}
    (ran : (ClusterOperation.launchFilebeat clusterId assignmentIds).run database =
      (.raised error, after)) : after = database := by
  rcases bind_eq_raised ran with refused | ⟨cluster, _, foundRan, afterFound⟩
  · refine ReadOnly.returned (.bind (.read _) fun found => ?_) refused
    cases found with
    | some cluster => exact .pure cluster
    | none => exact .raise _
  · obtain ⟨_, rfl⟩ := ClusterOperation.clusterRecord_returned foundRan
    rcases bind_eq_raised afterFound with refused | ⟨active, _, wasRead, afterActive⟩
    · cases refused
    · cases wasRead
      rcases bind_eq_raised afterActive with refused | ⟨_, _, isFree, started⟩
      · exact (ReadOnly.require _ _).returned refused
      · rw [startRun_run] at started
        cases started

/-- The reconciliation runs on a connection of its own, after a commit of the caller. -/
theorem reconcile_reaches (assignmentId : Nat) {world : MaintenanceWorld}
    (closed : world.working = world.committed) :
    Relation.ReflTransGen (WorkflowStep planId) world
      ((CompanionReconciler.reconcile assignmentId).run world).2 := by
  simp only [CompanionReconciler.reconcile, view, run_bind, run_read]
  cases CompanionReconciler.clusterForAssignment world.working assignmentId with
  | error error => exact .refl
  | ok clusterId =>
      have launched : Relation.ReflTransGen (WorkflowStep planId) world
          ((transaction (ClusterOperation.launchFilebeat clusterId (some [assignmentId]))).run
            world).2 :=
        transaction_reaches (launchFilebeat_writes _ _) (fun _ => trivial)
          (fun _ _ _ raised => launchFilebeat_raised raised) closed
      simp only [Program.ofExcept, run_pure]
      exact Moves.bind_from launched fun _ => .pure _

end Steps

namespace HostMaintenanceService

/-! ### Reads and the journal -/

section

variable {planId : String}

theorem planAndTargets_moves {writes : Database → Database → Prop} (owner : String) :
    Moves writes (planAndTargets owner) := by
  refine .bind (getPlan_moves owner) fun plan => ?_
  split
  · exact .raise _
  · refine .bind (.require _ _) fun _ => .bind (.require _ _) fun _ => ?_
    refine .bind (.read _) fun resolved => .bind (.ofExcept _) fun targets => ?_
    refine .bind (.ofExcept _) fun expected => .bind (.require _ _) fun _ => ?_
    exact .bind (.require _ _) fun _ => .pure _

theorem requireHostState_writes (plan : PlanRecord) (nodeId : Nat)
    (expected : MaintenanceWorkflowState) :
    Moves (WorkflowWrite planId) (requireHostState plan nodeId expected) :=
  .bind (getHostState_writes nodeId) fun _ => .bind (.require _ _) fun _ => .pure _

theorem requireAssignmentState_writes (plan : PlanRecord) (target : ManagedContainerTarget)
    (expected : MaintenanceWorkflowState) :
    Moves (WorkflowWrite planId) (requireAssignmentState plan target expected) :=
  .bind (getAssignmentState_writes _) fun _ => .bind (.require _ _) fun _ => .pure _

theorem ticketFor_moves {writes : Database → Database → Prop} (plan : PlanRecord) :
    Moves writes (ticketFor plan) := by
  simp only [ticketFor]
  split
  · exact .raise _
  · exact .bind (.read _) fun locks => .bind (.require _ _) fun _ => .pure _

/-- A recorded step adds a step row, moves it and adds its checkpoint. -/
theorem recordStep_moves {writes : Database → Database → Prop} {plan : PlanRecord}
    {step : HostStep} {target : Option ManagedContainerTarget} {state : SideEffectState}
    {observation : Dict} {index : Nat}
    (adds : ∀ database row, writes database (database.addStep row))
    (sets : ∀ database stepId state, writes database (database.setStepState stepId state))
    (records : ∀ stepId database identifier, writes database (database.addCheckpoint
      ((stepCheckpoint plan step target state observation index stepId).row plan.id identifier))) :
    Moves writes (recordStep plan step target state observation index) := by
  have recorded : ∀ ended : StepRecord, Moves writes (do
      let _ ← recordCheckpoint plan.id
        (stepCheckpoint plan step target state observation index ended.id)
      pure ()) :=
    fun ended => .bind (recordCheckpoint_moves fun database identifier =>
      records _ database identifier) fun _ => .pure ()
  refine .bind (createStep_moves adds) fun created => ?_
  dsimp only
  split
  · refine .bind (transitionStep_moves fun database => sets database _ _) fun begun => ?_
    split
    · exact .bind (transitionStep_moves fun database => sets database _ _) recorded
    · exact .bind (.pure _) recorded
  · refine .bind (.pure created) fun begun => ?_
    split
    · exact .bind (transitionStep_moves fun database => sets database _ _) recorded
    · exact .bind (.pure _) recorded

/-- A recorded step is in the journal. -/
theorem recordStep_recorded {plan : PlanRecord} {step : HostStep}
    {target : Option ManagedContainerTarget} {state : SideEffectState} {observation : Dict}
    {index : Nat} {database after : Database}
    (ran : (recordStep plan step target state observation index).run database =
      (.returned (), after)) :
    (after.journal plan.id (.hostStep step (target.map (·.assignmentId)))).isSome := by
  have recorded : ∀ (ended : StepRecord) (written : Database), (do
      let _ ← recordCheckpoint plan.id
        (stepCheckpoint plan step target state observation index ended.id)
      pure ()).run written = (.returned (), after) →
      (after.journal plan.id (.hostStep step (target.map (·.assignmentId)))).isSome := by
    intro ended written ending
    obtain ⟨row, _, recordRan, isEnd⟩ := bind_eq_returned ending
    cases isEnd
    have returned := recordCheckpoint_returned (congrArg Prod.fst recordRan)
    rw [recordRan] at returned
    exact Option.isSome_iff_exists.mpr ⟨row, returned.1⟩
  have finished : ∀ (begun : StepRecord) (written : Database), (do
      let ended ← if state = SideEffectState.verified ∧ begun.state = MaintenanceStepState.executing then
          transitionStep begun.id begun.stateRevision .verified
        else pure begun
      let _ ← recordCheckpoint plan.id
        (stepCheckpoint plan step target state observation index ended.id)
      pure ()).run written = (.returned (), after) →
      (after.journal plan.id (.hostStep step (target.map (·.assignmentId)))).isSome := by
    intro begun written ending
    dsimp only at ending
    split at ending
    · obtain ⟨ended, _, _, afterEnded⟩ := bind_eq_returned ending
      exact recorded ended _ afterEnded
    · obtain ⟨ended, _, _, afterEnded⟩ := bind_eq_returned ending
      exact recorded ended _ afterEnded
  obtain ⟨created, _, _, afterCreated⟩ := bind_eq_returned ran
  dsimp only at afterCreated
  split at afterCreated
  · obtain ⟨begun, _, _, afterBegun⟩ := bind_eq_returned afterCreated
    exact finished begun _ afterBegun
  · obtain ⟨begun, _, _, afterBegun⟩ := bind_eq_returned afterCreated
    exact finished begun _ afterBegun

theorem recordStep_writes {plan : PlanRecord} (onPlan : plan.id = planId) {step : HostStep}
    (inner : step ≠ .rebootComplete) (target : Option ManagedContainerTarget)
    {state : SideEffectState} (announces : state = .mayHaveStarted ∨ state = .verified)
    (observation : Dict) (index : Nat) :
    Moves (WorkflowWrite planId) (recordStep plan step target state observation index) := by
  subst onPlan
  refine recordStep_moves (fun database row => .addStep database row)
    (fun database stepId target => .setStep database stepId target)
    fun stepId database identifier => .checkpoint database identifier ⟨?_, announces⟩
  cases step <;> first | rfl | exact absurd rfl inner

end

/-! ### The actions under their tickets -/

section Actions

variable (service : HostMaintenanceService) {plan : PlanRecord}

/-- A recorded step of the plan that does not end its reboot. -/
theorem record_moves {step : HostStep} (inner : step ≠ .rebootComplete)
    (target : Option ManagedContainerTarget) {state : SideEffectState}
    (announces : state = .mayHaveStarted ∨ state = .verified) (observation : Dict)
    (index : Nat) :
    Moves (WorkflowStep plan.id) (store (recordStep plan step target state observation index)) :=
  stored_moves (recordStep_writes rfl inner target announces observation index)

theorem confirmed_moves {call : Action Bool} (moves : Moves (WorkflowStep plan.id) call)
    (action : String) : Moves (WorkflowStep plan.id) (confirmed call action) :=
  .bind moves fun _ => .require _ _

theorem withGuard_moves {use : AllocationGuardGateway → Action Unit}
    (moves : ∀ gateway, Moves (WorkflowStep plan.id) (use gateway)) (clusterIds : List Nat) :
    Moves (WorkflowStep plan.id) (withGuard service use clusterIds) := by
  simp only [withGuard]
  split
  · exact moves _
  · split
    · exact .pure ()
    · exact .raise _

theorem guardClusters_moves (gateway : AllocationGuardGateway) (clusterIds : List Nat) :
    Moves (WorkflowStep plan.id) (guardClusters gateway plan.id clusterIds) := by
  refine .forEach fun clusterId _ => .bind commit_moves fun _ => ?_
  refine .bind (AllocationGuardService.capture_moves gateway plan.id clusterId) fun _ => ?_
  exact .bind commit_moves fun _ =>
    AllocationGuardService.activate_moves gateway plan.id clusterId

theorem restoreClusters_moves (gateway : AllocationGuardGateway) (clusterIds : List Nat) :
    Moves (WorkflowStep plan.id) (restoreClusters gateway plan.id clusterIds) :=
  .forEach fun clusterId _ => .bind commit_moves fun _ =>
    AllocationGuardService.restore_moves gateway plan.id clusterId

theorem stopEach_moves (targets : List ManagedContainerTarget) (index : Nat) :
    Moves (WorkflowStep plan.id) (stopEach service plan index targets) := by
  induction targets generalizing index with
  | nil => exact .pure ()
  | cons target rest ih =>
      refine .bind (stored_moves (requireAssignmentState_writes plan target _)) fun found => ?_
      refine .bind (stored_moves (transitionAssignmentState_writes _ _ rfl))
        fun state => ?_
      refine announced_moves (recordStep_writes rfl (by decide) _ (.inl rfl) _ _)
        (fun _ _ ran => recordStep_recorded ran) fun world announced => ?_
      refine Moves.bind_from (Moves.bind_from (ask_reaches fun _ => ⟨rfl, .inl announced⟩)
        fun _ => .require _ _) fun _ => ?_
      refine .bind (record_moves (by decide) _ (.inr rfl) _ _) fun _ => ?_
      exact .bind (stored_moves (transitionAssignmentState_writes _ _ rfl))
        fun _ => ih (index + 1)

theorem stopHost_moves (nodeId : Nat) (targets : List ManagedContainerTarget)
    (host : HostStateRecord) :
    Moves (WorkflowStep plan.id) (stopHost service plan nodeId targets host) := by
  refine .bind (stored_moves (transitionHostWorkflowState_writes _ _ (by decide)))
    fun stopping => .bind (stopEach_moves service _ _) fun _ => ?_
  refine .bind (stored_moves (transitionHostWorkflowState_writes _ _ (by decide)))
    fun stopped => ?_
  exact stored_moves (transitionHostState_writes _ _ _ (by decide))

theorem returnTarget_moves (index : Nat) (target : ManagedContainerTarget) :
    Moves (WorkflowStep plan.id) (returnTarget service plan index target) := by
  refine .bind (stored_moves (requireAssignmentState_writes plan target _)) fun found => ?_
  refine .bind (stored_moves (transitionAssignmentState_writes _ _ rfl))
    fun returning => ?_
  refine announced_moves (recordStep_writes rfl (by decide) _ (.inl rfl) _ _)
    (fun _ _ ran => recordStep_recorded ran) fun world announced => ?_
  refine Moves.bind_from (Moves.bind_from (ask_reaches fun _ => ⟨rfl, .inl announced⟩)
    fun _ => .require _ _) fun _ => ?_
  refine .bind (record_moves (by decide) _ (.inr rfl) _ _) fun _ => ?_
  refine .bind (stored_moves (transitionAssignmentState_writes _ _ rfl)) fun _ => ?_
  refine .bind commit_moves fun _ => .bind (confirmed_moves (ask_moves fun _ => rfl) _) fun _ => ?_
  refine .commit_bind (fun _ => trivial) fun world closed => ?_
  refine Moves.bind_from (Moves.bind_from (reconcile_reaches _ closed) fun _ => .require _ _)
    fun _ => ?_
  exact record_moves (by decide) _ (.inr rfl) _ _

theorem returnEach_moves (targets : List ManagedContainerTarget) (index : Nat) :
    Moves (WorkflowStep plan.id) (returnEach service plan index targets) := by
  induction targets generalizing index with
  | nil => exact .pure ()
  | cons target rest ih =>
      exact .bind (returnTarget_moves service index target) fun _ => ih (index + 1)

theorem verifyReturn_moves (nodeId : Nat) (targets : List ManagedContainerTarget) :
    Moves (WorkflowStep plan.id) (verifyReturn service plan nodeId targets) := by
  refine .bind (.ofExcept _) fun _ => .bind (record_moves (by decide) _ (.inl rfl) _ _) fun _ => ?_
  refine .bind commit_moves fun _ => ?_
  split
  · exact .raise _
  · refine .bind (ask_moves fun _ => rfl) fun verification => .bind ?_ fun _ => .require _ _
    refine record_moves (by decide) _ ?_ _ _
    cases verification.complete
    · exact .inl rfl
    · exact .inr rfl

theorem cleanup_moves (gateways : HostRebootGateways) :
    Moves (WorkflowStep plan.id) (HostReboot.cleanup gateways plan) := by
  refine .bind (view_moves _) fun found => ?_
  cases found with
  | none => exact .raise _
  | some existing =>
      refine .bind (.ofExcept _) fun request => .bind (view_moves _) fun returned => ?_
      refine .bind (.require _ _) fun _ => .bind (ask_moves fun _ => rfl) fun proven => ?_
      exact .require _ _

theorem cleanUp_moves : Moves (WorkflowStep plan.id) (cleanUp service plan) := by
  refine .bind (view_moves _) fun rebooted => ?_
  split
  · refine .bind (.ofExcept _) fun gateways => ?_
    refine .bind (record_moves (by decide) _ (.inl rfl) _ _) fun _ => .bind commit_moves fun _ => ?_
    refine .bind (cleanup_moves gateways) fun _ => ?_
    exact record_moves (by decide) _ (.inr rfl) _ _
  · exact .pure ()

end Actions

end HostMaintenanceService

/-! ### Claims and recovery -/

/-- A change of assignments that sets or clears claims only. -/
def ClaimsOnly (change : AssignmentRow → AssignmentRow) : Prop :=
  ∀ row, ∃ claim, change row = { row with operationRunId := claim }

/-- A relation admits the writes of a workflow and those on claims. -/
structure AdmitsClaims (planId : String) (writes : Database → Database → Prop) : Prop where
  workflow : ∀ before after, WorkflowWrite planId before after → writes before after
  claims : ∀ database change, ClaimsOnly change →
    writes database (database.mapAssignments change)

/-- It also admits the release of an assignment from its maintenance. -/
structure AdmitsRelease (planId : String) (writes : Database → Database → Prop) : Prop
    extends AdmitsClaims planId writes where
  release : ∀ database assignmentId change,
    (∀ state, (change state).assignmentId = state.assignmentId ∧
      (change state).workflowState = .available ∧ (change state).activePlanId = none) →
    writes database (database.setAssignmentState assignmentId change)

section Claims

variable {planId : String} {writes : Database → Database → Prop}

theorem claimAssignmentOperation_moves (admits : AdmitsClaims planId writes)
    (assignmentId revision runId : Nat) :
    Moves writes (WorkloadStore.claimAssignmentOperation assignmentId revision runId) := by
  refine .bind (.read _) fun claimed => .bind (.update fun database => ?_) fun _ => .pure _
  refine admits.claims database _ fun row => ?_
  simp only [WorkloadStore.claimFor]
  split
  · exact ⟨_, rfl⟩
  · exact ⟨row.operationRunId, rfl⟩

theorem releaseAssignmentOperation_moves (admits : AdmitsClaims planId writes)
    (assignmentId runId : Nat) :
    Moves writes (WorkloadStore.releaseAssignmentOperation assignmentId runId) := by
  refine .bind (.read _) fun released => .bind (.update fun database => ?_) fun _ => .pure _
  refine admits.claims database _ fun row => ?_
  split
  · exact ⟨_, rfl⟩
  · exact ⟨row.operationRunId, rfl⟩

theorem releaseAssignmentState_moves (admits : AdmitsRelease planId writes)
    (assignmentId revision : Nat) :
    Moves writes (transitionAssignmentState assignmentId revision .available none) :=
  transitionAssignmentState_moves
    (fun _ missing => admits.workflow _ _ (.addAssignment missing))
    fun database _ changed => admits.release database assignmentId _ fun state => by
      simpa using changed state

/-- The writes of a workflow among the admitted ones. -/
theorem AdmitsClaims.within (admits : AdmitsClaims planId writes) {α : Type}
    {operation : Operation α} (moves : Moves (WorkflowWrite planId) operation) :
    Moves writes operation :=
  moves.mono admits.workflow

end Claims

namespace HostMaintenanceService

section

variable {plan : PlanRecord} {writes : Database → Database → Prop}
  {sends : MaintenanceWorld → Effect → Prop} {commits : MaintenanceWorld → Prop}

theorem availableStates_writes {planId : String} (targets : List ManagedContainerTarget) :
    Moves (WorkflowWrite planId) (availableStates targets) := by
  induction targets with
  | nil => exact .pure _
  | cons target rest ih =>
      exact .bind (getAssignmentState_writes _) fun _ => .bind (.require _ _) fun _ =>
        .bind ih fun _ => .pure _

theorem prepareAssignments_moves (admits : AdmitsClaims plan.id writes)
    (targets : List ManagedContainerTarget) (runId : Nat) :
    Moves writes (prepareAssignments plan targets runId) := by
  refine .bind (admits.within (availableStates_writes targets)) fun states => ?_
  refine .bind (.forEach fun entry _ => .bind (admits.within
    (transitionAssignmentState_writes _ _ rfl)) fun _ => .pure ()) fun _ => ?_
  refine .bind (.forEach fun target _ => .bind (claimAssignmentOperation_moves admits _ _ _)
    fun _ => .require _ _) fun _ => ?_
  refine .forEach fun target _ => .bind (admits.within (getAssignmentState_writes _))
    fun state => ?_
  exact .bind (admits.within (transitionAssignmentState_writes _ _ rfl))
    fun _ => .pure ()

theorem completeAssignments_moves (admits : AdmitsRelease plan.id writes)
    (targets : List ManagedContainerTarget) (runId : Nat) :
    Moves writes (completeAssignments plan targets runId) := by
  refine .forEach fun target _ => .bind (admits.toAdmitsClaims.within
    (requireAssignmentState_writes _ _ _))
    fun state => ?_
  refine .bind (releaseAssignmentState_moves admits _ _) fun _ => ?_
  exact .bind (releaseAssignmentOperation_moves admits.toAdmitsClaims _ _) fun _ => .require _ _

theorem tolerated_moves {α : Type} {operation : Operation α} (moves : Moves writes operation) :
    Moves (WorldStep writes sends commits) (tolerated operation) :=
  .ignoring (.store (.bind moves fun _ => .pure ()))

/-- A relation admits the writes of a recovery. -/
structure AdmitsRecovery (planId : String) (writes : Database → Database → Prop) : Prop where
  addHost : ∀ database nodeId, database.hostState? nodeId = none →
    writes database (database.addHostState (newHostState nodeId))
  setHost : ∀ database nodeId change, writes database (database.setHostState nodeId change)
  addAssignment : ∀ database assignmentId, database.assignmentState? assignmentId = none →
    writes database (database.addAssignmentState (newAssignmentState assignmentId))
  setAssignment : ∀ database assignmentId change,
    (∀ state : AssignmentStateRecord, (change state).assignmentId = state.assignmentId ∧
      (change state).workflowState = .recoveryRequired ∧
      (change state).activePlanId = some planId) →
    writes database (database.setAssignmentState assignmentId change)
  lifecycle : ∀ database owner target, writes database (database.setLifecycleState owner target)
  runStatus : ∀ database runId, writes database (database.setRunStatus runId .recoveryRequired)

/-- The transition of one assignment into its recovery. -/
theorem AdmitsRecovery.assignment {planId : String} (admits : AdmitsRecovery planId writes)
    (assignmentId revision : Nat) :
    Moves writes (transitionAssignmentState assignmentId revision .recoveryRequired
      (some planId)) := by
  refine transitionAssignmentState_moves
    (fun database missing => admits.addAssignment database _ missing)
    fun database change changed => admits.setAssignment database _ change fun state => ?_
  obtain ⟨sameId, isTarget, isOwner⟩ := changed state
  exact ⟨sameId, isTarget, by simpa using isOwner⟩

theorem recover_moves (admits : AdmitsRecovery plan.id writes) (service : HostMaintenanceService)
    (nodeId : Nat) (targets : List ManagedContainerTarget) (ticket : MaintenanceActionTicket) :
    Moves (WorldStep writes sends commits) (recover service plan nodeId targets ticket) := by
  have ends : Moves (WorldStep writes sends commits) (do
      forEach targets (recoverTarget plan)
      let current ← store (getPlan plan.id)
      if current.lifecycleState = .executing ∨ current.lifecycleState = .ready then
        tolerated (service.execution.fail ticket)
      else pure ()) := by
    refine .bind (.forEach fun target _ => ?_) fun _ => ?_
    · refine .bind (.store (getAssignmentState_moves fun database missing =>
        admits.addAssignment database _ missing)) fun state => ?_
      split
      · exact tolerated_moves (admits.assignment _ _)
      · exact .pure ()
    · refine .bind (.store (getPlan_moves _)) fun current => ?_
      split
      · exact tolerated_moves
          (service.execution.fail_moves (fun database owner target _ =>
            admits.lifecycle database owner target) admits.runStatus ticket)
      · exact .pure ()
  refine .bind (.store (getHostState_moves fun database missing =>
    admits.addHost database _ missing)) fun host => ?_
  dsimp only
  split
  · exact .bind (tolerated_moves (transitionHostState_moves
      (fun database missing => admits.addHost database _ missing)
      fun database change _ => admits.setHost database _ change)) fun _ => ends
  · exact ends

end

end HostMaintenanceService

/-! ### Whole actions -/

/-- A connection of its own: what holds durably holds when it is opened, and a body that returns
where the steady assertion holds may be committed. -/
theorem connect_maintains {α : Type} {body : Action α}
    {invariant opened steady : MaintenanceWorld → Prop}
    (opens : ∀ world, invariant world → invariant { world with working := world.committed } ∧
      opened { world with working := world.committed })
    (commits : Maintains invariant steady (commit : Action Unit) fun _ => steady)
    (holds : Maintains invariant opened body fun _ => steady) :
    Maintains invariant (fun _ => True) (connect body) fun _ _ => True := by
  have reopens : Maintains invariant (fun _ => True)
      (Program.update fun world : MaintenanceWorld => { world with working := world.committed } :
        Action Unit) fun _ => opened :=
    .update fun world inv _ => opens world inv
  refine .bind reopens fun _ => .bind holds.attempt fun result => ?_
  cases result with
  | ok value =>
      refine .bind (commits.weaken (fun _ _ known => known value rfl) fun _ _ _ known => known)
        fun _ => .pure fun _ _ _ => trivial
  | error error =>
      refine .bind (reopens.weaken (fun _ _ _ => trivial) fun _ _ _ known => known) fun _ => ?_
      exact .raise _ _

namespace HostMaintenanceService

/-- What an action finds out about its plan before it writes. -/
structure Found (planId : String) (plan : PlanRecord) (nodeId : Nat)
    (targets : List ManagedContainerTarget) (database : Database) : Prop where
  stored : database.plan? planId = some plan
  node : plan.targetNodeId = some nodeId
  kind : plan.operationKind = .reboot
  operation : plan.targetManifest.publicOperation = some "host_maintenance"
  resolved : resolveTargets database plan nodeId = .ok targets
  expected : manifestAssignmentIds plan =
    .ok ((targets.map (·.assignmentId)).insertionSort (· ≤ ·))

theorem Found.onPlan {planId : String} {plan : PlanRecord} {nodeId : Nat}
    {targets : List ManagedContainerTarget} {database : Database}
    (found : Found planId plan nodeId targets database) : plan.id = planId := by
  simpa using List.find?_some found.stored

theorem planAndTargets_returned {planId : String} {plan : PlanRecord} {nodeId : Nat}
    {targets : List ManagedContainerTarget} {database after : Database}
    (ran : (planAndTargets planId).run database = (.returned (plan, nodeId, targets), after)) :
    Found planId plan nodeId targets database ∧ after = database := by
  obtain ⟨stored, _, planRan, afterPlan⟩ := bind_eq_returned ran
  obtain ⟨isStored, rfl⟩ := getPlan_returned planRan
  split at afterPlan
  · cases afterPlan
  · rename_i node isNode
    obtain ⟨_, _, kindRan, afterKind⟩ := bind_eq_returned afterPlan
    obtain ⟨isKind, rfl⟩ := require_eq_returned kindRan
    obtain ⟨_, _, operationRan, afterOperation⟩ := bind_eq_returned afterKind
    obtain ⟨isOperation, rfl⟩ := require_eq_returned operationRan
    obtain ⟨resolved, _, wasRead, afterRead⟩ := bind_eq_returned afterOperation
    cases wasRead
    obtain ⟨found, _, resolvedRan, afterResolved⟩ := bind_eq_returned afterRead
    obtain ⟨isResolved, rfl⟩ := ofExcept_eq_returned resolvedRan
    obtain ⟨expected, _, expectedRan, afterExpected⟩ := bind_eq_returned afterResolved
    obtain ⟨isExpected, rfl⟩ := ofExcept_eq_returned expectedRan
    obtain ⟨_, _, sameRan, afterSame⟩ := bind_eq_returned afterExpected
    obtain ⟨isSame, rfl⟩ := require_eq_returned sameRan
    obtain ⟨_, _, nodesRan, ended⟩ := bind_eq_returned afterSame
    obtain ⟨_, rfl⟩ := require_eq_returned nodesRan
    cases ended
    simp only [decide_eq_true_eq] at isSame isOperation isKind
    refine ⟨⟨isStored, isNode, isKind, isOperation, isResolved, ?_⟩, rfl⟩
    rw [isSame]
    exact isExpected

/-- The ticket that `_ticket` makes for a plan with a run. -/
def planTicket (plan : PlanRecord) (runId : Nat) : MaintenanceActionTicket where
  planId := plan.id
  runId := runId
  action := .execute
  operationKind := plan.operationKind
  planHash := plan.planHash

theorem ticketFor_returned {plan : PlanRecord} {ticket : MaintenanceActionTicket}
    {database after : Database}
    (ran : (ticketFor plan).run database = (.returned ticket, after)) :
    ∃ runId, plan.runId = some runId ∧ ticket = planTicket plan runId ∧ after = database := by
  simp only [ticketFor] at ran
  split at ran
  · cases ran
  · rename_i runId isRun
    obtain ⟨locks, _, wasRead, afterRead⟩ := bind_eq_returned ran
    cases wasRead
    obtain ⟨_, _, held, ended⟩ := bind_eq_returned afterRead
    obtain ⟨_, rfl⟩ := require_eq_returned held
    cases ended
    exact ⟨runId, isRun, rfl, rfl⟩

/-- A reboot is entered on a connection without open writes, with its announcement durable. -/
structure RebootAnnounced (planId : String) (world : MaintenanceWorld) : Prop where
  closed : world.working = world.committed
  announced : (world.committed.journal planId (.hostStep .reboot none)).isSome

/-- The assertions along the actions of one plan: what the action knows about its plan, about
the ticket of its preparation, and after its reboot. -/
structure Assertions where
  invariant : MaintenanceWorld → Prop
  steady : MaintenanceWorld → Prop
  known : PlanRecord → Nat → List ManagedContainerTarget → MaintenanceWorld → Prop
  issued : PlanRecord → List ManagedContainerTarget → MaintenanceActionTicket →
    MaintenanceWorld → Prop
  rebooted : PlanRecord → MaintenanceWorld → Prop

/-- The invariant and the steady assertion pass through every action when they pass through
its parts.  A handler of exceptions keeps the invariant alone. -/
structure Carries (service : HostMaintenanceService) (planId : String)
    (carried : Assertions) : Prop where
  step : ∀ before after, WorkflowStep planId before after →
    carried.invariant before ∧ carried.steady before →
      carried.invariant after ∧ carried.steady after
  found : ∀ plan nodeId targets world, carried.invariant world → carried.steady world →
    Found planId plan nodeId targets world.working → carried.known plan nodeId targets world
  knownStep : ∀ plan nodeId targets before after, WorkflowStep planId before after →
    carried.known plan nodeId targets before → carried.known plan nodeId targets after
  issuedStep : ∀ plan targets ticket before after, WorkflowStep planId before after →
    carried.issued plan targets ticket before → carried.issued plan targets ticket after
  claims : ∀ plan targets ticket, plan.id = planId → Maintains carried.invariant
    (fun world => carried.steady world ∧ carried.issued plan targets ticket world)
    (store (prepareAssignments plan targets ticket.runId)) fun _ => carried.steady
  reboots : ∀ plan nodeId targets gateways, plan.id = planId → Maintains carried.invariant
    (fun world => (carried.steady world ∧ carried.known plan nodeId targets world) ∧
      RebootAnnounced planId world)
    (HostReboot.reboot gateways plan targets)
    fun _ world => carried.steady world ∧ carried.rebooted plan world
  completes : ∀ plan, plan.id = planId → Maintains carried.invariant
    (fun world => carried.steady world ∧ carried.rebooted plan world)
    (store (recordStep plan .rebootComplete none .verified [] 0)) fun _ => carried.steady
  settles : ∀ plan nodeId targets runId now revision, plan.id = planId →
    plan.runId = some runId → Maintains carried.invariant
      (fun world => carried.steady world ∧ carried.known plan nodeId targets world)
      (do
        let _ ← store (service.execution.finalize (planTicket plan runId) ⟨some .succeeded, []⟩
          now service.drawnToken)
        store (completeAssignments plan targets runId)
        store (transitionHostState nodeId revision .available none))
      fun _ => carried.steady
  recovers : ∀ plan nodeId targets ticket, plan.id = planId →
    Maintains carried.invariant (fun _ => True) (recover service plan nodeId targets ticket)
      fun _ _ => True

/-- The ticket of a preparation is issued at a reading of the clock. -/
def Issues (service : HostMaintenanceService) (carried : Assertions) : Prop :=
  ∀ plan nodeId targets now, Maintains carried.invariant
    (fun world => now = service.clock world.trace ∧ carried.steady world ∧
      carried.known plan nodeId targets world)
    (store (service.execution.prepare plan.id .execute now service.drawnToken))
    fun ticket world => carried.steady world ∧ carried.issued plan targets ticket world

section Carries

variable {service : HostMaintenanceService} {plan : PlanRecord} {nodeId : Nat}
  {targets : List ManagedContainerTarget} {carried : Assertions}

/-- A part of an action that is composed of workflow steps. -/
theorem Carries.within (rules : Carries service plan.id carried) {α : Type}
    {program : Action α} (moves : Moves (WorkflowStep plan.id) program) :
    Maintains carried.invariant
      (fun world => carried.steady world ∧ carried.known plan nodeId targets world) program
      fun _ world => carried.steady world ∧ carried.known plan nodeId targets world := by
  refine .ofMovesTogether moves fun before after step known => ?_
  have kept := rules.step before after step ⟨known.1, known.2.1⟩
  exact ⟨kept.1, kept.2, rules.knownStep plan nodeId targets before after step known.2.2⟩

/-- The same under the ticket of a preparation. -/
theorem Carries.ticketed (rules : Carries service plan.id carried)
    {ticket : MaintenanceActionTicket} {α : Type} {program : Action α}
    (moves : Moves (WorkflowStep plan.id) program) :
    Maintains carried.invariant
      (fun world => carried.steady world ∧ carried.issued plan targets ticket world) program
      fun _ world => carried.steady world ∧ carried.issued plan targets ticket world := by
  refine .ofMovesTogether moves fun before after step known => ?_
  have kept := rules.step before after step ⟨known.1, known.2.1⟩
  exact ⟨kept.1, kept.2, rules.issuedStep plan targets ticket before after step known.2.2⟩

theorem Carries.steadily (rules : Carries service plan.id carried) {α : Type}
    {program : Action α} (moves : Moves (WorkflowStep plan.id) program) :
    Maintains carried.invariant carried.steady program fun _ => carried.steady :=
  .ofMovesTogether moves rules.step

theorem prepareHost_carries (rules : Carries service plan.id carried)
    (ticket : MaintenanceActionTicket) :
    Maintains carried.invariant
      (fun world => carried.steady world ∧ carried.issued plan targets ticket world)
      (prepareHost service plan nodeId targets ticket) fun _ => carried.steady := by
  refine .bind (rules.ticketed (stored_moves (getHostState_writes _))) fun found => ?_
  refine .bind (rules.ticketed (stored_moves (transitionHostState_writes _ _ _ (by decide))))
    fun host => ?_
  refine .bind (rules.claims plan targets ticket rfl) fun _ => ?_
  refine .bind (rules.steadily (record_moves (by decide) _ (.inr rfl) _ _)) fun _ => ?_
  refine .bind (rules.steadily (withGuard_moves service
    (fun gateway => guardClusters_moves gateway _) _)) fun _ => ?_
  exact rules.steadily (stored_moves (transitionHostWorkflowState_writes _ _ (by decide)))

theorem returnHost_carries (rules : Carries service plan.id carried) {runId : Nat}
    (isRun : plan.runId = some runId) (host : HostStateRecord) :
    Maintains carried.invariant
      (fun world => carried.steady world ∧ carried.known plan nodeId targets world)
      (returnHost service plan nodeId targets (planTicket plan runId) host)
      fun _ => carried.steady := by
  refine .bind (rules.within (stored_moves (transitionHostWorkflowState_writes _ _ (by decide))))
    fun returning => ?_
  refine .bind (rules.within (record_moves (by decide) _ (.inl rfl) _ _)) fun _ => ?_
  refine .bind (rules.within commit_moves) fun _ => ?_
  refine .bind (rules.within (confirmed_moves (ask_moves fun _ => rfl) _)) fun _ => ?_
  refine .bind (rules.within (record_moves (by decide) _ (.inr rfl) _ _)) fun _ => ?_
  refine .bind (rules.within (returnEach_moves service _ _)) fun _ => ?_
  refine .bind (rules.within (withGuard_moves service
    (fun gateway => restoreClusters_moves gateway _) _)) fun _ => ?_
  refine .bind (rules.within (verifyReturn_moves service _ _)) fun _ => ?_
  refine .bind (rules.within (cleanUp_moves service)) fun _ => ?_
  refine .bind (rules.within (.read _)) fun now => ?_
  exact rules.settles plan nodeId targets runId now _ rfl isRun

end Carries

section Actions

variable {service : HostMaintenanceService} {planId : String} {carried : Assertions}

/-- Every action starts from what it finds out about its plan. -/
theorem found_carries (rules : Carries service planId carried) {α : Type}
    {next : PlanRecord × Nat × List ManagedContainerTarget → Action α}
    (continues : ∀ plan nodeId targets, plan.id = planId →
      Maintains carried.invariant
        (fun world => carried.steady world ∧ carried.known plan nodeId targets world)
        (next (plan, nodeId, targets)) fun _ => carried.steady) :
    Maintains carried.invariant carried.steady (store (planAndTargets planId) >>= next)
      fun _ => carried.steady := by
  have finds : Maintains carried.invariant carried.steady (store (planAndTargets planId))
      fun found world => found.1.id = planId ∧ carried.steady world ∧
        carried.known found.1 found.2.1 found.2.2 world := by
    intro world inv steady
    have kept := Maintains.ofMovesTogether (stored_moves (planAndTargets_moves planId))
      rules.step world inv steady
    refine ⟨kept.1, fun found returned => ?_⟩
    have ran := store_returned returned
    rcases operationRan : (planAndTargets planId).run world.working with ⟨outcome, after⟩
    rw [operationRan] at ran
    cases ran
    obtain ⟨isFound, rfl⟩ := planAndTargets_returned operationRan
    obtain ⟨budget, reached⟩ := store_run (planAndTargets planId) world
    rw [operationRan] at reached
    refine ⟨isFound.onPlan, kept.2 found returned,
      rules.found _ _ _ _ kept.1 (kept.2 found returned) ?_⟩
    rw [reached]
    exact isFound
  refine .bind finds fun found => ?_
  obtain ⟨plan, nodeId, targets⟩ := found
  intro world inv holds
  exact continues plan nodeId targets holds.1 world inv holds.2

theorem ticketFor_carries {plan : PlanRecord} {nodeId : Nat}
    {targets : List ManagedContainerTarget} (rules : Carries service plan.id carried) :
    Maintains carried.invariant
      (fun world => carried.steady world ∧ carried.known plan nodeId targets world)
      (store (ticketFor plan))
      fun ticket world => (∃ runId, plan.runId = some runId ∧ ticket = planTicket plan runId) ∧
        carried.steady world ∧ carried.known plan nodeId targets world := by
  intro world inv holds
  have kept := rules.within (stored_moves (ticketFor_moves plan)) world inv holds
  refine ⟨kept.1, fun ticket returned => ⟨?_, kept.2 ticket returned⟩⟩
  have ran := store_returned returned
  rcases operationRan : (ticketFor plan).run world.working with ⟨outcome, after⟩
  rw [operationRan] at ran
  cases ran
  obtain ⟨runId, isRun, isTicket, _⟩ := ticketFor_returned operationRan
  exact ⟨runId, isRun, isTicket⟩

theorem announceReboot_carries {plan : PlanRecord} {nodeId : Nat}
    {targets : List ManagedContainerTarget} (rules : Carries service plan.id carried) :
    Maintains carried.invariant
      (fun world => carried.steady world ∧ carried.known plan nodeId targets world)
      (store (recordStep plan .reboot none .mayHaveStarted [] 0))
      fun _ world => (carried.steady world ∧ carried.known plan nodeId targets world) ∧
        (world.working.journal plan.id (.hostStep .reboot none)).isSome := by
  intro world inv holds
  have inner : HostStep.reboot ≠ .rebootComplete := by decide
  have kept := rules.within (record_moves inner none (.inl rfl) [] 0) world inv holds
  refine ⟨kept.1, fun value returned => ⟨kept.2 value returned, ?_⟩⟩
  obtain ⟨budget, reached⟩ :=
    store_run (recordStep plan .reboot none .mayHaveStarted [] 0) world
  rw [reached]
  exact recordStep_recorded (Prod.ext (store_returned returned) rfl)

theorem commitReboot_carries {plan : PlanRecord} {nodeId : Nat}
    {targets : List ManagedContainerTarget} (rules : Carries service plan.id carried) :
    Maintains carried.invariant
      (fun world => (carried.steady world ∧ carried.known plan nodeId targets world) ∧
        (world.working.journal plan.id (.hostStep .reboot none)).isSome)
      (commit : Action Unit)
      fun _ world => (carried.steady world ∧ carried.known plan nodeId targets world) ∧
        RebootAnnounced plan.id world := by
  intro world inv holds
  have kept := rules.within commit_moves world inv holds.1
  refine ⟨kept.1, fun value returned => ⟨kept.2 value returned, ?_⟩⟩
  obtain ⟨budget, reached⟩ := commit_run world
  rw [reached]
  exact ⟨rfl, holds.2⟩

/-- An action carries the invariant in every outcome, and the steady assertion where it
returns. -/
theorem dispatch_carries (rules : Carries service planId carried)
    (action : HostWorkflowAction) (issues : action = .prepare → Issues service carried) :
    Maintains carried.invariant carried.steady (dispatch service planId action)
      fun _ => carried.steady := by
  cases action with
  | prepare =>
      refine found_carries rules fun plan nodeId targets onPlan => ?_
      subst onPlan
      refine .bind (rules.within (.ofExcept _)) fun _ => ?_
      refine .bind (rules.within (.require _ _)) fun _ => ?_
      refine .bind (rules.within (.require _ _)) fun _ => ?_
      refine .bind Maintains.read fun now => ?_
      refine .bind (issues rfl plan nodeId targets now) fun ticket => ?_
      exact .onRaise (prepareHost_carries rules ticket)
        fun _ => rules.recovers plan nodeId targets ticket rfl
  | stop =>
      refine found_carries rules fun plan nodeId targets onPlan => ?_
      subst onPlan
      refine .bind (rules.within (stored_moves (requireHostState_writes _ _ _))) fun host => ?_
      refine .bind (rules.within (stored_moves (ticketFor_moves _))) fun ticket => ?_
      exact .onRaise ((rules.within (stopHost_moves service nodeId targets host)).weaken
        (fun _ _ known => known) fun _ _ _ known => known.1)
        fun _ => rules.recovers plan nodeId targets ticket rfl
  | handoff =>
      refine found_carries rules fun plan nodeId targets onPlan => ?_
      subst onPlan
      refine .bind (rules.within (stored_moves (requireHostState_writes _ _ _))) fun host => ?_
      refine .bind (rules.within (stored_moves (ticketFor_moves _))) fun ticket => ?_
      refine .bind (rules.within (record_moves (by decide) _ (.inr rfl) _ _)) fun _ => ?_
      exact .pure fun _ _ known => known.1
  | reboot =>
      refine found_carries rules fun plan nodeId targets onPlan => ?_
      subst onPlan
      refine .bind (rules.within (stored_moves (requireHostState_writes _ _ _))) fun host => ?_
      refine .bind (rules.within (.ofExcept _)) fun gateways => ?_
      refine .bind (rules.within (stored_moves (ticketFor_moves _))) fun ticket => ?_
      refine .onRaise ?_ fun _ => rules.recovers plan nodeId targets ticket rfl
      refine .bind (announceReboot_carries rules) fun _ => ?_
      refine .bind (commitReboot_carries rules) fun _ => ?_
      refine .bind (rules.reboots plan nodeId targets gateways rfl) fun _ => ?_
      refine .bind (rules.completes plan rfl) fun _ => ?_
      exact .pure fun _ _ known => known
  | returnToService =>
      refine found_carries rules fun plan nodeId targets onPlan => ?_
      subst onPlan
      refine .bind (rules.within (stored_moves (requireHostState_writes _ _ _))) fun host => ?_
      refine .bind (ticketFor_carries rules) fun ticket => ?_
      intro world inv holds
      obtain ⟨⟨runId, isRun, rfl⟩, known⟩ := holds
      exact Maintains.onRaise (returnHost_carries rules isRun host)
        (fun _ => rules.recovers plan nodeId targets _ rfl) world inv known

/-- An action on a connection of its own carries the invariant. -/
theorem perform_carries (rules : Carries service planId carried)
    (opens : ∀ world, carried.invariant world →
      carried.invariant { world with working := world.committed } ∧
        carried.steady { world with working := world.committed })
    (action : HostWorkflowAction) (issues : action = .prepare → Issues service carried) :
    Maintains carried.invariant (fun _ => True) (perform service planId action)
      fun _ _ => True := by
  have steadily : ∀ {α : Type} {program : Action α}, Moves (WorkflowStep planId) program →
      Maintains carried.invariant carried.steady program fun _ => carried.steady :=
    fun moves => .ofMovesTogether moves rules.step
  refine connect_maintains opens (steadily commit_moves) ?_
  refine .bind (dispatch_carries rules action issues) fun state => ?_
  refine .bind (steadily (stored_moves (getPlan_moves _))) fun plan => ?_
  exact .bind (steadily (.require _ _)) fun _ => .pure fun _ _ known => known

end Actions

end HostMaintenanceService

end ElKeeper
