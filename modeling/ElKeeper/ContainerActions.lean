import ElKeeper.ContainerSteps

/-!
# Whole actions of the container workflow

What passes through every action of the container workflow when it passes
through its parts, as for the host workflow.
-/

namespace ElKeeper

open Program MaintenanceStore

namespace ContainerMaintenanceService

/-- What an action finds out about its plan before it writes. -/
structure Found (planId : String) (plan : PlanRecord) (target : ManagedContainerTarget)
    (database : Database) : Prop where
  stored : database.plan? planId = some plan
  kind : plan.operationKind = .workloadRestart
  operation : plan.targetManifest.publicOperation = some "container_maintenance"
  selected : plan.targetAssignmentId = some target.assignmentId
  resolved : resolveManagedContainerTarget database target.assignmentId = .ok target

theorem Found.onPlan {planId : String} {plan : PlanRecord} {target : ManagedContainerTarget}
    {database : Database} (found : Found planId plan target database) : plan.id = planId := by
  simpa using List.find?_some found.stored

theorem planAndTarget_returned {planId : String} {plan : PlanRecord}
    {target : ManagedContainerTarget} {database after : Database}
    (ran : (planAndTarget planId).run database = (.returned (plan, target), after)) :
    Found planId plan target database ∧ after = database := by
  obtain ⟨found, _, planRan, afterPlan⟩ := bind_eq_returned ran
  obtain ⟨isPlan, rfl⟩ := getPlan_returned planRan
  obtain ⟨_, _, kindRan, afterKind⟩ := bind_eq_returned afterPlan
  obtain ⟨isKind, rfl⟩ := require_eq_returned kindRan
  obtain ⟨_, _, publicRan, afterPublic⟩ := bind_eq_returned afterKind
  obtain ⟨isPublic, rfl⟩ := require_eq_returned publicRan
  split at afterPublic
  · cases afterPublic
  · rename_i assignmentId isAssignment
    obtain ⟨resolved, _, wasRead, afterRead⟩ := bind_eq_returned afterPublic
    cases wasRead
    obtain ⟨_, _, targetRan, afterTarget⟩ := bind_eq_returned afterRead
    obtain ⟨isTarget, rfl⟩ := ofExcept_eq_returned targetRan
    obtain ⟨_, _, matchRan, ended⟩ := bind_eq_returned afterTarget
    obtain ⟨matched, rfl⟩ := require_eq_returned matchRan
    cases ended
    simp only [Bool.and_eq_true, decide_eq_true_eq] at isKind isPublic matched
    obtain rfl := matched.1.1
    exact ⟨⟨isPlan, isKind, isPublic, isAssignment, isTarget⟩, rfl⟩

theorem ticketFor_returned {plan : PlanRecord} {ticket : MaintenanceActionTicket}
    {database after : Database}
    (ran : (ticketFor plan).run database = (.returned ticket, after)) :
    ∃ runId, plan.runId = some runId ∧
      ticket = HostMaintenanceService.planTicket plan runId ∧ after = database := by
  simp only [ticketFor] at ran
  split at ran
  · cases ran
  · rename_i runId isRun
    obtain ⟨locks, _, wasRead, afterRead⟩ := bind_eq_returned ran
    cases wasRead
    obtain ⟨_, _, held, ended⟩ := bind_eq_returned afterRead
    obtain ⟨_, rfl⟩ := require_eq_returned held
    cases ended
    exact ⟨runId, isRun, rfl, rfl⟩

/-- The assertions along the actions of one plan. -/
structure Assertions where
  invariant : MaintenanceWorld → Prop
  steady : MaintenanceWorld → Prop
  known : PlanRecord → ManagedContainerTarget → MaintenanceWorld → Prop
  issued : PlanRecord → ManagedContainerTarget → MaintenanceActionTicket →
    MaintenanceWorld → Prop

/-- As for the host workflow: the invariant and the steady assertion pass through every action
when they pass through its parts. -/
structure Carries (service : ContainerMaintenanceService) (planId : String)
    (carried : Assertions) : Prop where
  step : ∀ before after, WorkflowStep planId before after →
    carried.invariant before ∧ carried.steady before →
      carried.invariant after ∧ carried.steady after
  found : ∀ plan target world, carried.invariant world → carried.steady world →
    Found planId plan target world.working → carried.known plan target world
  knownStep : ∀ plan target before after, WorkflowStep planId before after →
    carried.known plan target before → carried.known plan target after
  issuedStep : ∀ plan target ticket before after, WorkflowStep planId before after →
    carried.issued plan target ticket before → carried.issued plan target ticket after
  claims : ∀ plan target ticket, plan.id = planId → Maintains carried.invariant
    (fun world => carried.steady world ∧ carried.issued plan target ticket world)
    (store (claimTarget plan target ticket.runId)) fun _ => carried.steady
  settles : ∀ plan target runId revision, plan.id = planId → plan.runId = some runId →
    Maintains carried.invariant
      (fun world => carried.steady world ∧ carried.known plan target world)
      (do
        let released ← store (WorkloadStore.releaseAssignmentOperation target.assignmentId runId)
        require released (blocked "Selected workload operation claim could not be released")
        let available ← store (transitionAssignmentState target.assignmentId revision
          .available none)
        let now ← now service
        let _ ← store (service.execution.finalize (HostMaintenanceService.planTicket plan runId)
          ⟨some .succeeded, []⟩ now service.drawnToken)
        pure available)
      fun _ => carried.steady
  recovers : ∀ plan target ticket, plan.id = planId →
    Maintains carried.invariant (fun _ => True) (recover service plan target ticket)
      fun _ _ => True

/-- The ticket of a preparation is issued at a reading of the clock. -/
def Issues (service : ContainerMaintenanceService) (carried : Assertions) : Prop :=
  ∀ plan target now, Maintains carried.invariant
    (fun world => now = service.clock world.trace ∧ carried.steady world ∧
      carried.known plan target world)
    (store (service.execution.prepare plan.id .execute now service.drawnToken))
    fun ticket world => carried.steady world ∧ carried.issued plan target ticket world

section Carries

variable {service : ContainerMaintenanceService} {plan : PlanRecord}
  {target : ManagedContainerTarget} {carried : Assertions}

/-- A part of an action that is composed of workflow steps. -/
theorem Carries.within (rules : Carries service plan.id carried) {α : Type}
    {program : Action α} (moves : Moves (WorkflowStep plan.id) program) :
    Maintains carried.invariant
      (fun world => carried.steady world ∧ carried.known plan target world) program
      fun _ world => carried.steady world ∧ carried.known plan target world := by
  refine .ofMovesTogether moves fun before after step known => ?_
  have kept := rules.step before after step ⟨known.1, known.2.1⟩
  exact ⟨kept.1, kept.2, rules.knownStep plan target before after step known.2.2⟩

/-- The same under the ticket of a preparation. -/
theorem Carries.ticketed (rules : Carries service plan.id carried)
    {ticket : MaintenanceActionTicket} {α : Type} {program : Action α}
    (moves : Moves (WorkflowStep plan.id) program) :
    Maintains carried.invariant
      (fun world => carried.steady world ∧ carried.issued plan target ticket world) program
      fun _ world => carried.steady world ∧ carried.issued plan target ticket world := by
  refine .ofMovesTogether moves fun before after step known => ?_
  have kept := rules.step before after step ⟨known.1, known.2.1⟩
  exact ⟨kept.1, kept.2, rules.issuedStep plan target ticket before after step known.2.2⟩

theorem Carries.steadily (rules : Carries service plan.id carried) {α : Type}
    {program : Action α} (moves : Moves (WorkflowStep plan.id) program) :
    Maintains carried.invariant carried.steady program fun _ => carried.steady :=
  .ofMovesTogether moves rules.step

theorem prepareContainer_carries (rules : Carries service plan.id carried)
    (ticket : MaintenanceActionTicket) :
    Maintains carried.invariant
      (fun world => carried.steady world ∧ carried.issued plan target ticket world)
      (prepareContainer service plan target ticket) fun _ => carried.steady := by
  refine .bind (rules.ticketed (stored_moves (transitionAssignment_writes target rfl)))
    fun preparing => ?_
  refine .bind (rules.claims plan target ticket rfl) fun _ => ?_
  refine .bind (rules.steadily (stored_moves (recordVerifiedStep_writes target _ _))) fun _ => ?_
  refine .bind (rules.steadily (withGuard_moves service target
    fun gateway => guardContainer_moves target gateway)) fun _ => ?_
  exact rules.steadily (stored_moves (transitionAssignmentState_writes _ _ rfl))

/-- What an action finds out stays known. -/
theorem found_carries {planId : String} (rules : Carries service planId carried) {α : Type}
    {next : PlanRecord × ManagedContainerTarget → Action α}
    (continues : ∀ plan target, plan.id = planId →
      Maintains carried.invariant
        (fun world => carried.steady world ∧ carried.known plan target world)
        (next (plan, target)) fun _ => carried.steady) :
    Maintains carried.invariant carried.steady (store (planAndTarget planId) >>= next)
      fun _ => carried.steady := by
  have finds : Maintains carried.invariant carried.steady (store (planAndTarget planId))
      fun found world => found.1.id = planId ∧ carried.steady world ∧
        carried.known found.1 found.2 world := by
    intro world inv steady
    have kept := Maintains.ofMovesTogether (stored_moves (planAndTarget_moves planId))
      rules.step world inv steady
    refine ⟨kept.1, fun found returned => ?_⟩
    have ran := store_returned returned
    rcases operationRan : (planAndTarget planId).run world.working with ⟨outcome, after⟩
    rw [operationRan] at ran
    cases ran
    obtain ⟨isFound, rfl⟩ := planAndTarget_returned operationRan
    obtain ⟨budget, reached⟩ := store_run (planAndTarget planId) world
    rw [operationRan] at reached
    refine ⟨isFound.onPlan, kept.2 found returned,
      rules.found _ _ _ kept.1 (kept.2 found returned) ?_⟩
    rw [reached]
    exact isFound
  refine .bind finds fun found => ?_
  obtain ⟨plan, target⟩ := found
  exact .given fun onPlan => continues plan target onPlan

theorem ticketFor_carries (rules : Carries service plan.id carried) :
    Maintains carried.invariant
      (fun world => carried.steady world ∧ carried.known plan target world)
      (store (ticketFor plan))
      fun ticket world =>
        (∃ runId, plan.runId = some runId ∧
          ticket = HostMaintenanceService.planTicket plan runId) ∧
        carried.steady world ∧ carried.known plan target world := by
  intro world inv holds
  have kept := rules.within (stored_moves (ticketFor_moves plan)) world inv holds
  refine ⟨kept.1, fun ticket returned => ⟨?_, kept.2 ticket returned⟩⟩
  have ran := store_returned returned
  rcases operationRan : (ticketFor plan).run world.working with ⟨outcome, after⟩
  rw [operationRan] at ran
  cases ran
  obtain ⟨runId, isRun, isTicket, _⟩ := ticketFor_returned operationRan
  exact ⟨runId, isRun, isTicket⟩

end Carries

section Actions

variable {service : ContainerMaintenanceService} {planId : String} {carried : Assertions}

/-- An action carries the invariant in every outcome, and the steady assertion where it
returns. -/
theorem dispatch_carries (rules : Carries service planId carried)
    (action : ContainerWorkflowAction) (issues : action = .prepare → Issues service carried) :
    Maintains carried.invariant carried.steady (dispatch service planId action)
      fun _ => carried.steady := by
  cases action with
  | prepare =>
      refine found_carries rules fun plan target onPlan => ?_
      subst onPlan
      refine .bind (rules.within (.require _ _)) fun _ => ?_
      refine .bind Maintains.read fun now => ?_
      refine .bind (issues rfl plan target now) fun ticket => ?_
      exact .onRaise (prepareContainer_carries rules ticket)
        fun _ => rules.recovers plan target ticket rfl
  | stop =>
      refine found_carries rules fun plan target onPlan => ?_
      subst onPlan
      refine .bind (rules.within (stored_moves (requireAssignmentState_writes _ _ _)))
        fun found => ?_
      refine .bind (rules.within (stored_moves (ticketFor_moves _))) fun ticket => ?_
      exact .onRaise ((rules.within (stopContainer_moves service target found)).weaken
        (fun _ _ known => known) fun _ _ _ known => known.1)
        fun _ => rules.recovers plan target ticket rfl
  | returnToService =>
      refine found_carries rules fun plan target onPlan => ?_
      subst onPlan
      refine .bind (rules.within (stored_moves (requireAssignmentState_writes _ _ _)))
        fun found => ?_
      refine .bind (ticketFor_carries rules) fun ticket => .given ?_
      rintro ⟨runId, isRun, rfl⟩
      refine .onRaise ?_ fun _ => rules.recovers plan target _ rfl
      refine .bind (rules.within (returnWorkload_moves service target found)) fun verifying => ?_
      exact rules.settles plan target runId _ rfl isRun

/-- An action on a connection of its own carries the invariant. -/
theorem perform_carries (rules : Carries service planId carried)
    (opens : ∀ world, carried.invariant world →
      carried.invariant { world with working := world.committed } ∧
        carried.steady { world with working := world.committed })
    (action : ContainerWorkflowAction) (issues : action = .prepare → Issues service carried) :
    Maintains carried.invariant (fun _ => True) (perform service planId action)
      fun _ _ => True := by
  have steadily : ∀ {α : Type} {program : Action α}, Moves (WorkflowStep planId) program →
      Maintains carried.invariant carried.steady program fun _ => carried.steady :=
    fun moves => .ofMovesTogether moves rules.step
  refine connect_maintains opens (steadily commit_moves) ?_
  refine .bind (dispatch_carries rules action issues) fun state => ?_
  refine .bind (steadily (stored_moves (getPlan_moves _))) fun plan => ?_
  exact .bind (steadily (.require _ _)) fun _ => .pure fun _ _ known => known

end Actions

end ContainerMaintenanceService

end ElKeeper
