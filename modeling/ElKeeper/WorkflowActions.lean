import ElKeeper.ContainerActions
import ElKeeper.RebootVerdicts

/-!
# What whole actions keep

An assertion about the database that the writes of the two workflows keep holds
after every one of their actions, however the action ends, and at every effect
that the action dispatches.  The writes of a recovery need not keep it: they are
made on a connection that is rolled back.
-/

namespace ElKeeper

open Program MaintenanceStore

/-- The assertion survives a write. -/
def Survives (holds : Database → Prop) (before after : Database) : Prop :=
  holds before → holds after

/-- The assertion holds of what is durable, and held at every effect since a history. -/
structure Durably (holds : Database → Prop) (history : History) (world : MaintenanceWorld) :
    Prop where
  committed : holds world.committed
  seen : ∃ recent, world.trace = recent ++ history ∧
    ∀ entry ∈ recent, holds entry.working ∧ holds entry.committed

/-- The assertion survives the writes of the actions on one plan: those of the workflows and of
a reboot, and the end of an execution. -/
structure KeptByActions (execution : MaintenanceExecutionService) (drawnToken planId : String)
    (holds : Database → Prop) : Prop extends AdmitsRelease planId (Survives holds) where
  lifecycle : ∀ database owner target, target ≠ .ready → holds database →
    holds (database.setLifecycleState owner target)
  checkpoint : ∀ database row, holds database → holds (database.addCheckpoint row)
  undo : ∀ database row, holds (database.addCheckpoint row) → holds database
  finish : ∀ ticket result now database plan after, ticket.action = .execute →
    (execution.finalize ticket result now drawnToken).run database = (.returned plan, after) →
    holds database → holds after

/-- It also survives the ticket of an execution that is issued at a reading of the clock. -/
def KeptByTickets (execution : MaintenanceExecutionService) (clock : History → Nat)
    (drawnToken planId : String) (holds : Database → Prop) : Prop :=
  ∀ history database ticket after,
    (execution.prepare planId .execute (clock history) drawnToken).run database =
      (.returned ticket, after) → holds database → holds after

section

variable {holds : Database → Prop} {history : History}

theorem Durably.step {sends : MaintenanceWorld → Effect → Prop}
    {commits : MaintenanceWorld → Prop} (before after : MaintenanceWorld)
    (step : WorldStep (Survives holds) sends commits before after)
    (known : Durably holds history before ∧ holds before.working) :
    Durably holds history after ∧ holds after.working := by
  obtain ⟨⟨committed, recent, isTrace, seen⟩, working⟩ := known
  cases step with
  | write allowed => exact ⟨⟨committed, recent, isTrace, seen⟩, allowed working⟩
  | spend budget => exact ⟨⟨committed, recent, isTrace, seen⟩, working⟩
  | commit allowed => exact ⟨⟨working, recent, isTrace, seen⟩, working⟩
  | @send event allowed =>
      refine ⟨⟨committed, ⟨event, before.working, before.committed⟩ :: recent, ?_, ?_⟩, working⟩
      · simp [World.log, isTrace]
      · intro entry member
        rcases List.mem_cons.mp member with rfl | old
        · exact ⟨working, committed⟩
        · exact seen entry old

/-- A program of writes that the assertion survives. -/
theorem durably_maintains {α : Type} {program : Action α}
    (moves : Moves (WorldStep (Survives holds) (fun _ _ => True) fun _ => True) program) :
    Maintains (Durably holds history) (fun world => holds world.working) program
      fun _ world => holds world.working :=
  .ofMovesTogether moves Durably.step

theorem Durably.view (world : MaintenanceWorld) (database : Database) (budget : Option Nat)
    (known : Durably holds history world) :
    Durably holds history { world with working := database, budget := budget } :=
  ⟨known.committed, known.seen⟩

/-- An operation that keeps the assertion where it returns. -/
theorem stored_durably {α : Type} {operation : Operation α}
    (keeps : ∀ database value after, operation.run database = (.returned value, after) →
      holds database → holds after) :
    Maintains (Durably holds history) (fun world => holds world.working) (store operation)
      fun _ world => holds world.working :=
  Maintains.store Durably.view keeps

/-- What is neither committed nor dispatched has no effect on what is durable. -/
theorem Durably.ofQuiet {α : Type} {program : Action α} {before : MaintenanceWorld → Prop}
    (moves : Moves (WorldStep (fun _ _ => True) (fun _ _ => False) fun _ => False) program) :
    Maintains (Durably holds history) before program fun _ _ => True := by
  intro world durable _
  refine ⟨moves.keeps (fun first second step known => ?_) durable, fun _ _ => trivial⟩
  cases step with
  | write allowed => exact ⟨known.committed, known.seen⟩
  | spend budget => exact ⟨known.committed, known.seen⟩
  | send allowed => exact allowed.elim
  | commit allowed => exact allowed.elim

theorem anyWrite_admitsRecovery (planId : String) :
    HostMaintenanceService.AdmitsRecovery planId (fun _ _ => True) := by
  constructor <;> (intros; trivial)

/-- The program neither returns nor makes anything durable. -/
def Refused {α : Type} (program : Action α) (world : MaintenanceWorld) : Prop :=
  (∀ value, (program.run world).1 ≠ .returned value) ∧
    (program.run world).2.committed = world.committed

theorem Refused.bind {α β : Type} {first : Action α} {next : α → Action β}
    {world : MaintenanceWorld} (refused : Refused first world) : Refused (first >>= next) world := by
  simp only [Refused, run_bind] at refused ⊢
  rcases ran : first.run world with ⟨outcome, after⟩
  rw [ran] at refused
  cases outcome with
  | returned value => exact absurd rfl (refused.1 value)
  | raised error => exact ⟨fun _ same => (by cases same), refused.2⟩
  | stopped => exact ⟨fun _ same => (by cases same), refused.2⟩

/-- An operation that does not return on what the connection sees. -/
theorem Refused.store {α : Type} {operation : Operation α} {world : MaintenanceWorld}
    (refuses : ∀ value after, operation.run world.working ≠ (.returned value, after)) :
    Refused (Program.store operation) world := by
  refine ⟨fun value returned => ?_, ?_⟩
  · have ran := store_returned returned
    exact refuses value _ (Prod.ext ran rfl)
  · obtain ⟨budget, reached⟩ := store_run operation world
    rw [reached]

/-- A refused action leaves the durable database as it is. -/
theorem connect_refused {α : Type} {body : Action α} {world : MaintenanceWorld}
    (refused : Refused body { world with working := world.committed }) :
    ((connect body).run world).2.committed = world.committed := by
  simp only [connect, run_bind, run_update, attempt]
  simp only [Refused] at refused
  rcases ran : body.run { world with working := world.committed } with ⟨outcome, after⟩
  rw [ran] at refused
  cases outcome with
  | returned value => exact absurd rfl (refused.1 value)
  | raised error => exact refused.2
  | stopped => exact refused.2

end

section Actions

variable {execution : MaintenanceExecutionService} {drawnToken planId : String}
  {holds : Database → Prop} {history : History}

/-- A step of the workflow. -/
theorem KeptByActions.step (kept : KeptByActions execution drawnToken planId holds)
    (before after : MaintenanceWorld) (step : WorkflowStep planId before after)
    (known : Durably holds history before ∧ holds before.working) :
    Durably holds history after ∧ holds after.working :=
  Durably.step before after
    (step.widen kept.workflow (fun _ _ _ => trivial) fun _ allowed => allowed) known

theorem KeptByActions.admitsRun (kept : KeptByActions execution drawnToken planId holds)
    (sequenceBase : Nat) :
    AdmitsRun planId sequenceBase (fun _ => True) (Survives holds) where
  checkpoint _ _ _ _ _ := kept.checkpoint _ _
  hostState nodeId database missing := kept.workflow _ _ (.addHost missing)
  assignmentState assignmentId database missing := kept.workflow _ _ (.addAssignment missing)
  undo before after reached := by
    induction reached with
    | refl => exact id
    | tail _ step ih =>
        obtain ⟨content, identifier, _, _, rfl⟩ := step
        exact fun holdsAfter => ih (kept.undo _ _ holdsAfter)
  lifecycle owner target database unready _ := kept.lifecycle database owner target unready

end Actions

namespace HostMaintenanceService

variable {service : HostMaintenanceService} {planId : String} {holds : Database → Prop}
  {history : History}

/-- The assertion is carried along the actions of the host workflow. -/
def keptAssertions (planId : String) (holds : Database → Prop) (history : History) :
    Assertions where
  invariant := Durably holds history
  steady world := holds world.working
  known plan _ _ _ := plan.id = planId
  issued _ _ _ _ := True
  rebooted _ _ := True

theorem reboot_keeps {plan : PlanRecord}
    (kept : KeptByActions service.execution service.drawnToken plan.id holds)
    (gateways : HostRebootGateways) (targets : List ManagedContainerTarget) :
    Maintains (Durably holds history) (fun world => holds world.working)
      (HostReboot.reboot gateways plan targets) fun _ world => holds world.working := by
  have runs : ∀ request : RebootRequest, request.planId = plan.id →
      Maintains (Durably holds history) (fun world => holds world.working)
        ((HostReboot.orchestrator gateways targets).run request false)
        fun _ world => holds world.working := by
    intro request isPlan
    have admits := kept.admitsRun HostReboot.productionSequenceBase
    rw [← isPlan] at admits
    exact durably_maintains (RebootOrchestrator.run_moves _ admits (fun _ _ => trivial) false)
  refine .bind (HostReboot.request_maintains gateways plan targets Durably.step
    fun request isPlan database identifier => kept.checkpoint _ _) fun made => ?_
  refine .given fun isPlan => .bind (runs made isPlan) fun result => ?_
  split
  · exact .pure fun _ _ known => known
  · exact .raise _ _

theorem kept_issues
    (kept : KeptByTickets service.execution service.clock service.drawnToken planId holds) :
    Issues service (keptAssertions planId holds history) := by
  intro plan _ _ now world durable known
  obtain ⟨rfl, working, onPlan⟩ := known
  obtain rfl : plan.id = planId := onPlan
  have issued := stored_durably (kept world.trace) world durable working
  exact ⟨issued.1, fun ticket returned => ⟨issued.2 ticket returned, trivial⟩⟩

theorem kept_carries (kept : KeptByActions service.execution service.drawnToken planId holds) :
    Carries service planId (keptAssertions planId holds history) where
  step := kept.step
  found _ _ _ _ _ _ isFound := isFound.onPlan
  knownStep _ _ _ _ _ _ known := known
  issuedStep _ _ _ _ _ _ _ := trivial
  claims plan targets ticket onPlan := by
    subst onPlan
    exact (durably_maintains (.store (prepareAssignments_moves kept.toAdmitsClaims _ _))).weaken
      (fun _ _ known => known.1) fun _ _ _ known => known
  reboots plan _ targets gateways onPlan := by
    subst onPlan
    exact (reboot_keeps kept gateways targets).weaken (fun _ _ known => known.1.1)
      fun _ _ _ known => ⟨known, trivial⟩
  completes plan onPlan := by
    subst onPlan
    refine (durably_maintains (.store (recordStep_moves ?_ ?_ ?_))).weaken
      (fun _ _ known => known.1) fun _ _ _ known => known
    · exact fun database row => kept.workflow _ _ (.addStep database row)
    · exact fun database stepId target => kept.workflow _ _ (.setStep database stepId target)
    · exact fun stepId database identifier => kept.checkpoint _ _
  settles plan nodeId targets runId now revision onPlan isRun := by
    subst onPlan
    refine .bind ((stored_durably fun database plan after => kept.finish _ _ _ database plan after
      rfl).weaken (fun _ _ known => known.1) fun _ _ _ known => known) fun _ => ?_
    refine durably_maintains (.bind (.store
      (completeAssignments_moves kept.toAdmitsRelease _ _)) fun _ => .store ?_)
    exact kept.toAdmitsClaims.within (transitionHostState_writes _ _ _ (by decide))
  recovers plan nodeId targets ticket onPlan :=
    Durably.ofQuiet (recover_moves (anyWrite_admitsRecovery _) _ _ _ _)

/-- An action on a connection of its own keeps the assertion durably and at its effects. -/
theorem perform_keeps (kept : KeptByActions service.execution service.drawnToken planId holds)
    (action : HostWorkflowAction) (tickets : action = .prepare →
      KeptByTickets service.execution service.clock service.drawnToken planId holds)
    {world : MaintenanceWorld} (before : holds world.committed) :
    Durably holds world.trace ((perform service planId action).run world).2 :=
  (perform_carries (kept_carries kept)
    (fun _ durable => ⟨⟨durable.committed, durable.seen⟩, durable.committed⟩) action
    (fun isPrepare => kept_issues (tickets isPrepare)) world
    ⟨before, [], rfl, by simp⟩ trivial).1

/-- An action is refused whose plan is none of a host maintenance. -/
theorem perform_refused {action : HostWorkflowAction} {world : MaintenanceWorld}
    (other : ∀ plan, world.committed.plan? planId = some plan → plan.operationKind ≠ .reboot) :
    ((perform service planId action).run world).2.committed = world.committed := by
  refine connect_refused (.bind ?_)
  have refused : Refused (store (planAndTargets planId))
      { world with working := world.committed } := by
    refine .store fun found after ran => ?_
    obtain ⟨plan, nodeId, targets⟩ := found
    have isFound := (planAndTargets_returned ran).1
    exact other plan isFound.stored isFound.kind
  cases action <;> exact refused.bind

end HostMaintenanceService

namespace ContainerMaintenanceService

variable {service : ContainerMaintenanceService} {planId : String} {holds : Database → Prop}
  {history : History}

/-- The assertion is carried along the actions of the container workflow. -/
def keptAssertions (planId : String) (holds : Database → Prop) (history : History) :
    Assertions where
  invariant := Durably holds history
  steady world := holds world.working
  known plan _ _ := plan.id = planId
  issued _ _ _ _ := True

theorem kept_issues
    (kept : KeptByTickets service.execution service.clock service.drawnToken planId holds) :
    Issues service (keptAssertions planId holds history) := by
  intro plan _ now world durable known
  obtain ⟨rfl, working, onPlan⟩ := known
  obtain rfl : plan.id = planId := onPlan
  have issued := stored_durably (kept world.trace) world durable working
  exact ⟨issued.1, fun ticket returned => ⟨issued.2 ticket returned, trivial⟩⟩

theorem kept_carries (kept : KeptByActions service.execution service.drawnToken planId holds) :
    Carries service planId (keptAssertions planId holds history) where
  step := kept.step
  found _ _ _ _ _ isFound := isFound.onPlan
  knownStep _ _ _ _ _ known := known
  issuedStep _ _ _ _ _ _ _ := trivial
  claims plan target ticket onPlan := by
    subst onPlan
    exact (durably_maintains (.store (claimTarget_moves target kept.toAdmitsClaims _))).weaken
      (fun _ _ known => known.1) fun _ _ _ known => known
  settles plan target runId revision onPlan isRun := by
    subst onPlan
    refine .bind ((durably_maintains (.store (releaseAssignmentOperation_moves
      kept.toAdmitsClaims _ _))).weaken (fun _ _ known => known.1) fun _ _ _ known => known)
      fun released => ?_
    refine .bind (durably_maintains (.require _ _)) fun _ => ?_
    refine .bind (durably_maintains (.store (releaseAssignmentState_moves
      kept.toAdmitsRelease _ _))) fun available => ?_
    refine .bind (durably_maintains (.read _)) fun now => ?_
    exact .bind (stored_durably fun database plan after => kept.finish _ _ _ database plan after rfl)
      fun _ => .pure fun _ _ known => known
  recovers plan target ticket onPlan :=
    Durably.ofQuiet (recover_moves service target (anyWrite_admitsRecovery _) ticket)

/-- An action on a connection of its own keeps the assertion durably and at its effects. -/
theorem perform_keeps (kept : KeptByActions service.execution service.drawnToken planId holds)
    (action : ContainerWorkflowAction) (tickets : action = .prepare →
      KeptByTickets service.execution service.clock service.drawnToken planId holds)
    {world : MaintenanceWorld} (before : holds world.committed) :
    Durably holds world.trace ((perform service planId action).run world).2 :=
  (perform_carries (kept_carries kept)
    (fun _ durable => ⟨⟨durable.committed, durable.seen⟩, durable.committed⟩) action
    (fun isPrepare => kept_issues (tickets isPrepare)) world
    ⟨before, [], rfl, by simp⟩ trivial).1

/-- An action is refused whose plan is none of a container maintenance. -/
theorem perform_refused {action : ContainerWorkflowAction} {world : MaintenanceWorld}
    (other : ∀ plan, world.committed.plan? planId = some plan →
      plan.operationKind ≠ .workloadRestart) :
    ((perform service planId action).run world).2.committed = world.committed := by
  refine connect_refused (.bind ?_)
  have refused : Refused (store (planAndTarget planId))
      { world with working := world.committed } := by
    refine .store fun found after ran => ?_
    obtain ⟨plan, target⟩ := found
    have isFound := (planAndTarget_returned ran).1
    exact other plan isFound.stored isFound.kind
  cases action <;> exact refused.bind

end ContainerMaintenanceService

end ElKeeper
