import ElKeeper.WorkflowActions

/-!
# What actions make durable

An action commits at its boundaries and where it returns, and nothing else of it
becomes durable.  An assertion about the durable database therefore passes
through an action when it survives the writes between two commits taken
together.  A reboot that does not lead to a return is never committed, so the
states in which it leaves its plan then need not keep the assertion.
-/

namespace ElKeeper

open Program MaintenanceStore

/-- Nothing was committed, or the assertion holds of what is durable. -/
def CommittedWith (start : Database) (holds : Database → Prop) (world : MaintenanceWorld) :
    Prop :=
  world.committed = start ∨ holds world.committed

section CommittedWith

variable {start : Database} {holds : Database → Prop}

theorem CommittedWith.view (world : MaintenanceWorld) (database : Database) (budget : Option Nat)
    (known : CommittedWith start holds world) :
    CommittedWith start holds { world with working := database, budget := budget } :=
  known

/-- A program of writes that the assertion survives. -/
theorem CommittedWith.ofMoves {α : Type} {program : Action α}
    (moves : Moves (WorldStep (Survives holds) (fun _ _ => True) fun _ => True) program) :
    Maintains (CommittedWith start holds) (fun world => holds world.working) program
      fun _ world => holds world.working := by
  refine .ofMovesTogether moves fun before after step known => ?_
  cases step with
  | write allowed => exact ⟨known.1, allowed known.2⟩
  | spend budget => exact known
  | send allowed => exact known
  | commit allowed => exact ⟨.inr known.2, known.2⟩

/-- What is not committed. -/
theorem CommittedWith.ofQuiet {α : Type} {program : Action α} {before : MaintenanceWorld → Prop}
    (moves : Moves (WorldStep (fun _ _ => True) (fun _ _ => True) fun _ => False) program) :
    Maintains (CommittedWith start holds) before program fun _ _ => True := by
  intro world known _
  refine ⟨moves.keeps (fun first second step known => ?_) known, fun _ _ => trivial⟩
  cases step with
  | write allowed => exact known
  | spend budget => exact known
  | send allowed => exact known
  | commit allowed => exact allowed.elim

end CommittedWith

/-- A program keeps the assertion where it returns, and commits only where it holds. -/
theorem CommittedWith.of_holds {start : Database} {holds : Database → Prop}
    {world : MaintenanceWorld} (known : CommittedWith start holds world) (before : holds start) :
    holds world.committed := by
  rcases known with same | holdsNow
  · rwa [same]
  · exact holdsNow

/-- The assertion survives what the actions on one plan write before they end it. -/
structure KeptUntilEnd (planId : String) (holds : Database → Prop) : Prop
    extends AdmitsRelease planId (Survives holds) where
  executes : ∀ database owner, holds database →
    holds (database.setLifecycleState owner .executing)
  checkpoint : ∀ database row, holds database → holds (database.addCheckpoint row)
  undo : ∀ database row, holds (database.addCheckpoint row) → holds database

section

variable {planId : String} {start : Database} {holds : Database → Prop}

theorem KeptUntilEnd.step (kept : KeptUntilEnd planId holds) (before after : MaintenanceWorld)
    (step : WorkflowStep planId before after)
    (known : CommittedWith start holds before ∧ holds before.working) :
    CommittedWith start holds after ∧ holds after.working := by
  cases step with
  | write allowed => exact ⟨known.1, kept.workflow _ _ allowed known.2⟩
  | spend budget => exact known
  | send allowed => exact known
  | commit allowed => exact ⟨.inr known.2, known.2⟩

theorem KeptUntilEnd.admitsJournal (kept : KeptUntilEnd planId holds) (sequenceBase : Nat) :
    AdmitsJournal planId sequenceBase (fun _ => True) (Survives holds) where
  checkpoint _ _ _ _ _ := kept.checkpoint _ _
  hostState _ _ missing := kept.workflow _ _ (.addHost missing)
  assignmentState _ _ missing := kept.workflow _ _ (.addAssignment missing)
  undo before after reached := by
    induction reached with
    | refl => exact id
    | tail _ step ih =>
        obtain ⟨content, identifier, _, _, rfl⟩ := step
        exact fun holdsAfter => ih (kept.undo _ _ holdsAfter)

theorem anyWrite_admitsRun (planId : String) (sequenceBase : Nat) :
    AdmitsRun planId sequenceBase (fun _ => True) (fun _ _ => True) := by
  constructor
  · constructor <;> (intros; trivial)
  · intros
    trivial

/-- A reboot commits nothing, and keeps the assertion where the host has returned. -/
theorem KeptUntilEnd.reboot {plan : PlanRecord} (kept : KeptUntilEnd plan.id holds)
    (gateways : HostRebootGateways) (targets : List ManagedContainerTarget) :
    Maintains (CommittedWith start holds) (fun world => holds world.working)
      (HostReboot.reboot gateways plan targets) fun _ world => holds world.working := by
  have calm : ∀ {sends : MaintenanceWorld → Effect → Prop} (before after : MaintenanceWorld),
      WorldStep (Survives holds) sends (fun _ => False) before after →
      CommittedWith start holds before ∧ holds before.working →
      CommittedWith start holds after ∧ holds after.working := by
    intro sends before after step known
    cases step with
    | write allowed => exact ⟨known.1, allowed known.2⟩
    | spend budget => exact known
    | send allowed => exact known
    | commit allowed => exact allowed.elim
  have runs : ∀ request : RebootRequest, request.planId = plan.id →
      Maintains (CommittedWith start holds) (fun world => holds world.working)
        ((HostReboot.orchestrator gateways targets).run request false)
        (RebootOrchestrator.Ready request fun world => holds world.working) := by
    intro request isPlan
    have quiet : Maintains (CommittedWith start holds) (fun world => holds world.working)
        ((HostReboot.orchestrator gateways targets).run request false) fun _ _ => True :=
      CommittedWith.ofQuiet (RebootOrchestrator.run_moves _ (anyWrite_admitsRun _ _)
        (fun _ _ => trivial) false)
    have admits := kept.admitsJournal (HostReboot.orchestrator gateways targets).sequenceBase
    rw [← isPlan] at admits
    have ready : Maintains (fun _ => True) (fun world => holds world.working)
        ((HostReboot.orchestrator gateways targets).run request false)
        (RebootOrchestrator.Ready request fun world => holds world.working) := by
      refine RebootOrchestrator.run_ready _ admits (fun before after step known => ?_)
        (fun owner database => kept.executes database owner) false
      cases step with
      | write allowed => exact allowed known
      | spend budget => exact known
      | send allowed => exact known
      | commit allowed => exact known
    intro world committed working
    exact ⟨(quiet world committed working).1, (ready world trivial working).2⟩
  exact (HostReboot.reboot_maintains gateways plan targets calm
    (fun request isPlan database identifier => kept.checkpoint _ _) runs).weaken
    (fun _ _ known => known) fun _ _ _ known => known.1

end

namespace HostMaintenanceService

variable {service : HostMaintenanceService} {planId : String} {holds : Database → Prop}
  {start : Database}

/-- What an action knows about its plan is found by `planAndTargets`, and stays. -/
structure KnownOf (planId : String)
    (known : PlanRecord → Nat → List ManagedContainerTarget → Database → Prop) : Prop where
  found : ∀ plan nodeId targets database, Found planId plan nodeId targets database →
    known plan nodeId targets database
  stays : ∀ plan nodeId targets before after, WorkflowWrite planId before after →
    known plan nodeId targets before → known plan nodeId targets after

/-- The assertion passes through the end of a return. -/
def KeptAtEnd (service : HostMaintenanceService) (planId : String)
    (known : PlanRecord → Nat → List ManagedContainerTarget → Database → Prop)
    (holds : Database → Prop) : Prop :=
  ∀ plan nodeId targets runId now revision start, plan.id = planId → plan.runId = some runId →
    Maintains (CommittedWith start holds)
      (fun world => holds world.working ∧ known plan nodeId targets world.working)
      (do
        let _ ← store (service.execution.finalize (planTicket plan runId) ⟨some .succeeded, []⟩
          now service.drawnToken)
        store (completeAssignments plan targets runId)
        store (transitionHostState nodeId revision .available none))
      fun _ world => holds world.working

/-- The assertion is carried along the actions, as one about what is durable. -/
def committedAssertions (planId : String)
    (known : PlanRecord → Nat → List ManagedContainerTarget → Database → Prop)
    (holds : Database → Prop) (start : Database) : Assertions where
  invariant := CommittedWith start holds
  steady world := holds world.working
  known plan nodeId targets world := plan.id = planId ∧ known plan nodeId targets world.working
  issued _ _ _ _ := True
  rebooted _ _ := True

variable {known : PlanRecord → Nat → List ManagedContainerTarget → Database → Prop}

theorem committed_issues
    (kept : KeptByTickets service.execution service.clock service.drawnToken planId holds) :
    Issues service (committedAssertions planId known holds start) := by
  intro plan nodeId targets now world committed pre
  obtain ⟨rfl, working, onPlan, _⟩ := pre
  obtain rfl : plan.id = planId := onPlan
  have leads : ∀ database (ticket : MaintenanceActionTicket) written,
      (service.execution.prepare plan.id .execute (service.clock world.trace)
        service.drawnToken).run database = (.returned ticket, written) →
      holds database → holds written :=
    fun database ticket written ran => kept world.trace database ticket written ran
  have issued := Maintains.store CommittedWith.view leads world committed working
  exact ⟨issued.1, fun ticket returned => ⟨issued.2 ticket returned, trivial⟩⟩

theorem committed_carries (kept : KeptUntilEnd planId holds) (knows : KnownOf planId known)
    (ends : KeptAtEnd service planId known holds) :
    Carries service planId (committedAssertions planId known holds start) where
  step := kept.step
  found plan nodeId targets world _ _ isFound :=
    ⟨isFound.onPlan, knows.found plan nodeId targets _ isFound⟩
  knownStep plan nodeId targets before after step known := by
    cases step with
    | write allowed => exact ⟨known.1, knows.stays _ _ _ _ _ allowed known.2⟩
    | spend budget => exact known
    | send allowed => exact known
    | commit allowed => exact known
  issuedStep _ _ _ _ _ _ _ := trivial
  claims plan targets ticket onPlan := by
    subst onPlan
    exact (CommittedWith.ofMoves (.store (prepareAssignments_moves kept.toAdmitsClaims _ _))).weaken
      (fun _ _ known => known.1) fun _ _ _ known => known
  reboots plan _ targets gateways onPlan := by
    subst onPlan
    exact (kept.reboot gateways targets).weaken (fun _ _ known => known.1.1)
      fun _ _ _ known => ⟨known, trivial⟩
  completes plan onPlan := by
    subst onPlan
    refine (CommittedWith.ofMoves (.store (recordStep_moves ?_ ?_ ?_))).weaken
      (fun _ _ known => known.1) fun _ _ _ known => known
    · exact fun database row => kept.workflow _ _ (.addStep database row)
    · exact fun database stepId target => kept.workflow _ _ (.setStep database stepId target)
    · exact fun stepId database identifier => kept.checkpoint _ _
  settles plan nodeId targets runId now revision onPlan isRun :=
    (ends plan nodeId targets runId now revision start onPlan isRun).weaken
      (fun _ _ known => ⟨known.1, known.2.2⟩) fun _ _ _ known => known
  recovers plan nodeId targets ticket onPlan :=
    CommittedWith.ofQuiet (recover_moves (anyWrite_admitsRecovery _) _ _ _ _)

/-- An action on a connection of its own keeps the assertion of what is durable. -/
theorem perform_committed (kept : KeptUntilEnd planId holds) (knows : KnownOf planId known)
    (ends : KeptAtEnd service planId known holds) (action : HostWorkflowAction)
    (tickets : action = .prepare →
      KeptByTickets service.execution service.clock service.drawnToken planId holds)
    {world : MaintenanceWorld} (before : holds world.committed) :
    holds ((perform service planId action).run world).2.committed := by
  have opens : ∀ opened : MaintenanceWorld, CommittedWith world.committed holds opened →
      CommittedWith world.committed holds { opened with working := opened.committed } ∧
        holds opened.committed :=
    fun _ committed => ⟨committed, committed.of_holds before⟩
  exact ((perform_carries (committed_carries kept knows ends) opens action
    (fun isPrepare => committed_issues (tickets isPrepare)) world (.inl rfl) trivial).1).of_holds
    before

end HostMaintenanceService

namespace ContainerMaintenanceService

variable {service : ContainerMaintenanceService} {planId : String} {holds : Database → Prop}
  {start : Database}

/-- As for the host workflow. -/
structure KnownOf (planId : String)
    (known : PlanRecord → ManagedContainerTarget → Database → Prop) : Prop where
  found : ∀ plan target database, Found planId plan target database →
    known plan target database
  stays : ∀ plan target before after, WorkflowWrite planId before after →
    known plan target before → known plan target after

/-- The assertion passes through the end of a return. -/
def KeptAtEnd (service : ContainerMaintenanceService) (planId : String)
    (known : PlanRecord → ManagedContainerTarget → Database → Prop)
    (holds : Database → Prop) : Prop :=
  ∀ plan target runId revision start, plan.id = planId → plan.runId = some runId →
    Maintains (CommittedWith start holds)
      (fun world => holds world.working ∧ known plan target world.working)
      (do
        let released ← store (WorkloadStore.releaseAssignmentOperation target.assignmentId runId)
        require released (blocked "Selected workload operation claim could not be released")
        let available ← store (transitionAssignmentState target.assignmentId revision
          .available none)
        let now ← now service
        let _ ← store (service.execution.finalize (HostMaintenanceService.planTicket plan runId)
          ⟨some .succeeded, []⟩ now service.drawnToken)
        pure available)
      fun _ world => holds world.working

/-- The assertion is carried along the actions, as one about what is durable. -/
def committedAssertions (planId : String)
    (known : PlanRecord → ManagedContainerTarget → Database → Prop)
    (holds : Database → Prop) (start : Database) : Assertions where
  invariant := CommittedWith start holds
  steady world := holds world.working
  known plan target world := plan.id = planId ∧ known plan target world.working
  issued _ _ _ _ := True

variable {known : PlanRecord → ManagedContainerTarget → Database → Prop}

theorem committed_issues
    (kept : KeptByTickets service.execution service.clock service.drawnToken planId holds) :
    Issues service (committedAssertions planId known holds start) := by
  intro plan target now world committed pre
  obtain ⟨rfl, working, onPlan, _⟩ := pre
  obtain rfl : plan.id = planId := onPlan
  have leads : ∀ database (ticket : MaintenanceActionTicket) written,
      (service.execution.prepare plan.id .execute (service.clock world.trace)
        service.drawnToken).run database = (.returned ticket, written) →
      holds database → holds written :=
    fun database ticket written ran => kept world.trace database ticket written ran
  have issued := Maintains.store CommittedWith.view leads world committed working
  exact ⟨issued.1, fun ticket returned => ⟨issued.2 ticket returned, trivial⟩⟩

theorem committed_carries (kept : KeptUntilEnd planId holds) (knows : KnownOf planId known)
    (ends : KeptAtEnd service planId known holds) :
    Carries service planId (committedAssertions planId known holds start) where
  step := kept.step
  found plan target world _ _ isFound :=
    ⟨isFound.onPlan, knows.found plan target _ isFound⟩
  knownStep plan target before after step known := by
    cases step with
    | write allowed => exact ⟨known.1, knows.stays _ _ _ _ allowed known.2⟩
    | spend budget => exact known
    | send allowed => exact known
    | commit allowed => exact known
  issuedStep _ _ _ _ _ _ _ := trivial
  claims plan target ticket onPlan := by
    subst onPlan
    exact (CommittedWith.ofMoves (.store (claimTarget_moves target kept.toAdmitsClaims _))).weaken
      (fun _ _ known => known.1) fun _ _ _ known => known
  settles plan target runId revision onPlan isRun :=
    (ends plan target runId revision start onPlan isRun).weaken
      (fun _ _ known => ⟨known.1, known.2.2⟩) fun _ _ _ known => known
  recovers plan target ticket onPlan :=
    CommittedWith.ofQuiet (recover_moves service target (anyWrite_admitsRecovery _) ticket)

/-- An action on a connection of its own keeps the assertion of what is durable. -/
theorem perform_committed (kept : KeptUntilEnd planId holds) (knows : KnownOf planId known)
    (ends : KeptAtEnd service planId known holds) (action : ContainerWorkflowAction)
    (tickets : action = .prepare →
      KeptByTickets service.execution service.clock service.drawnToken planId holds)
    {world : MaintenanceWorld} (before : holds world.committed) :
    holds ((perform service planId action).run world).2.committed := by
  have opens : ∀ opened : MaintenanceWorld, CommittedWith world.committed holds opened →
      CommittedWith world.committed holds { opened with working := opened.committed } ∧
        holds opened.committed :=
    fun _ committed => ⟨committed, committed.of_holds before⟩
  exact ((perform_carries (committed_carries kept knows ends) opens action
    (fun isPrepare => committed_issues (tickets isPrepare)) world (.inl rfl) trivial).1).of_holds
    before

end ContainerMaintenanceService

end ElKeeper
