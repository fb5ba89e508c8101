import ElKeeper.ContainerMaintenance
import ElKeeper.WorkflowSteps

/-!
# The steps of the container workflow

The writes of the container workflow are those of the host workflow, for the one
workload of its plan.
-/

namespace ElKeeper

open Program MaintenanceStore

namespace ContainerMaintenanceService

/-! ### Reads and the journal -/

section

variable {planId : String}

theorem planAndTarget_moves {writes : Database → Database → Prop} (owner : String) :
    Moves writes (planAndTarget owner) := by
  refine .bind (getPlan_moves owner) fun plan => .bind (.require _ _) fun _ => ?_
  refine .bind (.require _ _) fun _ => ?_
  split
  · exact .raise _
  · refine .bind (.read _) fun resolved => .bind (.ofExcept _) fun target => ?_
    exact .bind (.require _ _) fun _ => .pure _

theorem requireAssignmentState_writes (plan : PlanRecord) (target : ManagedContainerTarget)
    (expected : MaintenanceWorkflowState) :
    Moves (WorkflowWrite planId) (requireAssignmentState plan target expected) :=
  .bind (getAssignmentState_writes _) fun _ => .bind (.require _ _) fun _ => .pure _

theorem ticketFor_moves {writes : Database → Database → Prop} (plan : PlanRecord) :
    Moves writes (ticketFor plan) := by
  simp only [ticketFor]
  split
  · exact .raise _
  · exact .bind (.read _) fun locks => .bind (.require _ _) fun _ => .pure _

end

section

variable {plan : PlanRecord} (target : ManagedContainerTarget)

theorem transitionAssignment_writes {state : MaintenanceWorkflowState} (held : state.held) :
    Moves (WorkflowWrite plan.id) (transitionAssignment plan target state) :=
  .bind (getAssignmentState_writes _) fun _ => transitionAssignmentState_writes _ _ held

theorem beginStep_writes (step : ContainerStep) :
    Moves (WorkflowWrite plan.id) (beginStep plan target step) := by
  refine .bind (createStep_moves fun database row => .addStep database row) fun created => ?_
  split
  · exact transitionStep_moves fun database => .setStep database _ _
  · exact .pure _

/-- The announcement of an effect. -/
theorem recordStartedStep_writes (step : ContainerStep) :
    Moves (WorkflowWrite plan.id) (recordStartedStep plan target step) := by
  refine .bind (beginStep_writes target step) fun begun => .bind ?_ fun _ => .pure ()
  exact recordCheckpoint_moves fun database identifier =>
    .checkpoint database identifier ⟨rfl, .inl rfl⟩

theorem recordStartedStep_recorded {target : ManagedContainerTarget} {step : ContainerStep}
    {database after : Database}
    (ran : (recordStartedStep plan target step).run database = (.returned (), after)) :
    (after.journal plan.id (.containerIntent step)).isSome := by
  obtain ⟨begun, _, _, afterBegun⟩ := bind_eq_returned ran
  obtain ⟨row, _, recordRan, isEnd⟩ := bind_eq_returned afterBegun
  cases isEnd
  have returned := recordCheckpoint_returned (congrArg Prod.fst recordRan)
  rw [recordRan] at returned
  exact Option.isSome_iff_exists.mpr ⟨row, returned.1⟩

theorem recordVerifiedStep_writes (step : ContainerStep) (observation : Dict) :
    Moves (WorkflowWrite plan.id) (recordVerifiedStep plan target step observation) := by
  refine .bind (beginStep_writes target step) fun begun => ?_
  have recorded : Moves (WorkflowWrite plan.id) (do
      let _ ← recordCheckpoint plan.id
        { key := .containerVerified step
          sequence := step.sequence + 1
          sideEffectState := .verified
          payload := .containerStep target.assignmentId target.unit
          stepId := some begun.id
          observation := .obj observation }
      pure ()) :=
    .bind (recordCheckpoint_moves fun database identifier =>
      .checkpoint database identifier ⟨rfl, .inr rfl⟩) fun _ => .pure ()
  dsimp only
  split
  · exact .bind (transitionStep_moves fun database => .setStep database _ _) fun _ => recorded
  · exact recorded

theorem claimTarget_moves {writes : Database → Database → Prop}
    (admits : AdmitsClaims plan.id writes) (runId : Nat) :
    Moves writes (claimTarget plan target runId) := by
  simp only [claimTarget]
  split
  · exact .raise _
  · refine .bind (.require _ _) fun _ => ?_
    exact .bind (claimAssignmentOperation_moves admits _ _ _) fun _ => .require _ _

end

/-! ### The actions under their tickets -/

section Actions

variable (service : ContainerMaintenanceService) {plan : PlanRecord}
  (target : ManagedContainerTarget)

theorem confirmed_moves {call : Action Bool} (moves : Moves (WorkflowStep plan.id) call)
    (action : String) : Moves (WorkflowStep plan.id) (confirmed call action) :=
  .bind moves fun _ => .require _ _

theorem withGuard_moves {use : AllocationGuardGateway → Action Unit}
    (moves : ∀ gateway, Moves (WorkflowStep plan.id) (use gateway)) :
    Moves (WorkflowStep plan.id) (withGuard service target use) := by
  simp only [withGuard]
  split
  · split
    · exact moves _
    · exact .raise _
  · exact .pure ()

/-- The rest of `prepare` after its claim. -/
theorem guardContainer_moves (gateway : AllocationGuardGateway) :
    Moves (WorkflowStep plan.id) (do
      commit
      AllocationGuardService.capture gateway plan.id target.clusterId
      commit
      AllocationGuardService.activate gateway plan.id target.clusterId) := by
  refine .bind commit_moves fun _ => ?_
  refine .bind (AllocationGuardService.capture_moves gateway plan.id _) fun _ => ?_
  exact .bind commit_moves fun _ => AllocationGuardService.activate_moves gateway plan.id _

theorem stopContainer_moves (found : AssignmentStateRecord) :
    Moves (WorkflowStep plan.id) (stopContainer service plan target found) := by
  refine .bind (stored_moves (transitionAssignmentState_writes _ _ rfl)) fun stopping => ?_
  refine announced_moves (recordStartedStep_writes _ _)
    (fun _ _ ran => recordStartedStep_recorded ran) fun world announced => ?_
  refine Moves.bind_from (Moves.bind_from (ask_reaches fun _ => ⟨rfl, .inr announced⟩)
    fun _ => .require _ _) fun _ => ?_
  refine .bind (stored_moves (recordVerifiedStep_writes _ _ _)) fun _ => ?_
  exact stored_moves (transitionAssignmentState_writes _ _ rfl)

theorem returnWorkload_moves (found : AssignmentStateRecord) :
    Moves (WorkflowStep plan.id) (returnWorkload service plan target found) := by
  refine .bind (stored_moves (transitionAssignmentState_writes _ _ rfl)) fun returning => ?_
  refine announced_moves (recordStartedStep_writes _ _)
    (fun _ _ ran => recordStartedStep_recorded ran) fun world announced => ?_
  refine Moves.bind_from (Moves.bind_from (ask_reaches fun _ => ⟨rfl, .inr announced⟩)
    fun _ => .require _ _) fun _ => ?_
  refine .bind (stored_moves (recordVerifiedStep_writes _ _ _)) fun _ => ?_
  refine .bind (stored_moves (transitionAssignmentState_writes _ _ rfl)) fun verifying => ?_
  refine .bind (stored_moves (recordStartedStep_writes _ _)) fun _ => ?_
  refine .bind commit_moves fun _ => .bind (confirmed_moves (ask_moves fun _ => rfl) _) fun _ => ?_
  refine .bind (stored_moves (recordVerifiedStep_writes _ _ _)) fun _ => ?_
  refine .bind (stored_moves (recordStartedStep_writes _ _)) fun _ => ?_
  refine .commit_bind (fun _ => trivial) fun world closed => ?_
  refine Moves.bind_from (Moves.bind_from (reconcile_reaches _ closed) fun _ => .require _ _)
    fun _ => ?_
  refine .bind (stored_moves (recordVerifiedStep_writes _ _ _)) fun _ => ?_
  refine .bind (withGuard_moves service target fun gateway => ?_) fun _ => .pure _
  exact .bind commit_moves fun _ => AllocationGuardService.restore_moves gateway plan.id _

theorem recover_moves {writes : Database → Database → Prop}
    {sends : MaintenanceWorld → Effect → Prop} {commits : MaintenanceWorld → Prop}
    (admits : HostMaintenanceService.AdmitsRecovery plan.id writes) (ticket : MaintenanceActionTicket) :
    Moves (WorldStep writes sends commits) (recover service plan target ticket) := by
  have ends : Moves (WorldStep writes sends commits) (do
      let current ← store (getPlan plan.id)
      if current.lifecycleState = .executing ∨ current.lifecycleState = .ready then
        HostMaintenanceService.tolerated (service.execution.fail ticket)
      else pure ()) := by
    refine .bind (.store (getPlan_moves _)) fun current => ?_
    split
    · exact HostMaintenanceService.tolerated_moves
        (service.execution.fail_moves (fun database owner target _ =>
          admits.lifecycle database owner target) admits.runStatus ticket)
    · exact .pure ()
  refine .bind (.store (getAssignmentState_moves fun database missing =>
    admits.addAssignment database _ missing)) fun state => ?_
  dsimp only
  split
  · exact .bind (HostMaintenanceService.tolerated_moves (admits.assignment _ _)) fun _ => ends
  · exact ends

end Actions

end ContainerMaintenanceService

end ElKeeper
