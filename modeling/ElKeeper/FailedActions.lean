import ElKeeper.DurableActions
import ElKeeper.StateTransitions

/-!
# Actions that fail

The handler of a failed action puts the plan, its host, its assignments and its
run into recovery, and raises again.  The connection is then closed without a
commit, so none of these writes becomes durable: a plan is in recovery after a
failed action only if it was in recovery before.
-/

namespace ElKeeper

open Program MaintenanceStore

/-- The plan, its run, the host of a host plan and every assignment that the plan owns are in
recovery. -/
structure InRecovery (planId : String) (database : Database) : Prop where
  plan : ∃ plan runId, database.plan? planId = some plan ∧
    plan.lifecycleState = .recoveryRequired ∧ plan.runId = some runId ∧
    (database.runs.find? (·.id = runId)).map (·.status) = some .recoveryRequired
  host : ∀ plan, database.plan? planId = some plan → plan.operationKind = .reboot →
    ∃ nodeId, plan.targetNodeId = some nodeId ∧
      (database.hostRow nodeId).state = .recoveryRequired ∧
      (database.hostRow nodeId).workflowState = .recoveryRequired
  assignments : ∀ state ∈ database.assignmentStates, state.activePlanId = some planId →
    state.workflowState = .recoveryRequired

/-! ### Refused actions -/

/-- A program that commits nothing, before one that is refused. -/
theorem Refused.after {α β : Type} {first : Action α} {next : α → Action β}
    {world : MaintenanceWorld} (quiet : (first.run world).2.committed = world.committed)
    (refused : ∀ value after, first.run world = (.returned value, after) →
      Refused (next value) after) : Refused (first >>= next) world := by
  simp only [Refused, run_bind]
  rcases ran : first.run world with ⟨outcome, after⟩
  rw [ran] at quiet
  cases outcome with
  | returned value =>
      obtain ⟨unreturned, same⟩ := refused value after ran
      exact ⟨unreturned, same.trans quiet⟩
  | raised error => exact ⟨fun _ same => (by cases same), quiet⟩
  | stopped => exact ⟨fun _ same => (by cases same), quiet⟩

/-- A check before a program that is refused. -/
theorem Refused.afterReadOnly {α β : Type} {first : Action α} {next : α → Action β}
    {world : MaintenanceWorld} (readOnly : ReadOnly first)
    (refused : ∀ value, Refused (next value) world) : Refused (first >>= next) world := by
  refine .after (by rw [readOnly world]) fun value after ran => ?_
  rw [readOnly.returned ran]
  exact refused value

theorem store_committed {α : Type} (operation : Operation α) (world : MaintenanceWorld) :
    ((store operation).run world).2.committed = world.committed := by
  obtain ⟨budget, reached⟩ := store_run operation world
  rw [reached]

/-- An operation whose answer leads to a refusal. -/
theorem Refused.afterStore {α β : Type} {operation : Operation α} {next : α → Action β}
    {world : MaintenanceWorld}
    (refused : ∀ value database after, operation.run world.working = (.returned value, database) →
      after.working = database → Refused (next value) after) :
    Refused (Program.store operation >>= next) world := by
  refine .after (store_committed operation world) fun value after ran => ?_
  have returned : ((Program.store operation).run world).1 = .returned value := by rw [ran]
  refine refused value _ after (Prod.ext (store_returned returned) rfl) ?_
  obtain ⟨budget, reached⟩ := store_run operation world
  rw [ran] at reached
  exact congrArg World.working reached

/-- What holds before an action that keeps it and refuses without it says nothing new about a
stronger assertion. -/
theorem iff_of_kept_or_refused {holds recovers : Database → Prop} {before after : Database}
    (excludes : ∀ database, holds database → ¬ recovers database)
    (kept : holds before → holds after) (refused : ¬ holds before → after = before) :
    recovers after ↔ recovers before := by
  by_cases known : holds before
  · have isLost := excludes after (kept known)
    have wasLost := excludes before known
    exact ⟨fun claimed => absurd claimed isLost, fun claimed => absurd claimed wasLost⟩
  · rw [refused known]

/-! ### Hosts out of recovery -/

/-- The plan is one of a host maintenance on the node. -/
def HostPlanOn (planId : String) (nodeId : Nat) (database : Database) : Prop :=
  (database.plan? planId).map (fun plan => (plan.operationKind, plan.targetNodeId)) =
    some (.reboot, some nodeId)

/-- The host of the plan is not in recovery. -/
def LiveHost (planId : String) (database : Database) : Prop :=
  ∃ nodeId, HostPlanOn planId nodeId database ∧
    (database.hostRow nodeId).workflowState ≠ .recoveryRequired

section LiveHost

variable {planId : String} {before after : Database}

theorem HostPlanOn.plan {nodeId : Nat} (onNode : HostPlanOn planId nodeId before) :
    ∃ plan, before.plan? planId = some plan ∧ plan.operationKind = .reboot ∧
      plan.targetNodeId = some nodeId := by
  obtain ⟨plan, isPlan, columns⟩ := Option.map_eq_some_iff.mp onNode
  rw [Prod.mk.injEq] at columns
  exact ⟨plan, isPlan, columns.1, columns.2⟩

theorem LiveHost.excludes (live : LiveHost planId before) : ¬ InRecovery planId before := by
  rintro ⟨_, host, _⟩
  obtain ⟨nodeId, onNode, notRecovering⟩ := live
  obtain ⟨plan, isPlan, isKind, isNode⟩ := onNode.plan
  obtain ⟨other, isOther, _, recovering⟩ := host plan isPlan isKind
  rw [isNode] at isOther
  cases isOther
  exact notRecovering recovering

/-- Columns of plans that no action writes. -/
theorem LiveHost.of_plans (live : LiveHost planId before)
    (plans : (after.plan? planId).map (fun plan => (plan.operationKind, plan.targetNodeId)) =
      (before.plan? planId).map (fun plan => (plan.operationKind, plan.targetNodeId)))
    (hosts : after.hostStates = before.hostStates) : LiveHost planId after := by
  obtain ⟨nodeId, onNode, notRecovering⟩ := live
  refine ⟨nodeId, plans.trans onNode, ?_⟩
  rwa [Database.hostRow, Database.hostState?, hosts]

theorem LiveHost.of_same (live : LiveHost planId before) (plans : after.plans = before.plans)
    (hosts : after.hostStates = before.hostStates) : LiveHost planId after :=
  live.of_plans (by rw [Database.plan?, plans, Database.plan?]) hosts

theorem LiveHost.lifecycle (live : LiveHost planId before) (owner : String)
    (target : MaintenanceState) : LiveHost planId (before.setLifecycleState owner target) := by
  refine live.of_plans (plan?_map_column rfl (fun plan => ?_) planId) rfl
  split <;> exact ⟨rfl, rfl⟩

theorem LiveHost.workflow {owner : String} (live : LiveHost planId before)
    (write : WorkflowWrite owner before after) : LiveHost planId after := by
  cases write with
  | @addHost added missing =>
      obtain ⟨nodeId, onNode, notRecovering⟩ := live
      refine ⟨nodeId, onNode, ?_⟩
      by_cases same : nodeId = added
      · subst same
        simp only [Database.hostState?] at missing
        simp [Database.hostRow, Database.hostState?, Database.addHostState, List.find?_append,
          missing, newHostState]
      · have kept : (before.addHostState (newHostState added)).hostRow nodeId =
            before.hostRow nodeId := by
          simp [Database.hostRow, Database.hostState?, Database.addHostState, List.find?_append,
            newHostState, Ne.symm same]
        rwa [kept]
  | setHost changedId changed =>
      obtain ⟨nodeId, onNode, notRecovering⟩ := live
      refine ⟨nodeId, onNode, ?_⟩
      rw [Database.hostRow, hostState?_setHostState _ _ _ fun host => (changed host).1]
      split
      · rename_i same
        subst same
        cases found : before.hostState? nodeId with
        | none => simp [newHostState]
        | some host => simpa using (changed host).2
      · exact notRecovering
  | launch started =>
      rw [startRun_run] at started
      cases started
      exact live.of_same rfl rfl
  | _ => exact live.of_same rfl rfl

theorem LiveHost.admitsRelease (planId owner : String) :
    AdmitsRelease owner (Survives (LiveHost planId)) where
  workflow _ _ write live := live.workflow write
  claims _ _ _ live := live.of_same rfl rfl
  release _ _ _ _ live := live.of_same rfl rfl

theorem LiveHost.admitsFinish (planId : String) :
    MaintenanceExecutionService.AdmitsFinish (Survives (LiveHost planId)) where
  lifecycle _ owner target _ live := live.lifecycle owner target
  runStatus _ _ _ live := live.of_same rfl rfl
  release _ _ _ live := live.of_same rfl rfl

theorem LiveHost.keptByActions (execution : MaintenanceExecutionService)
    (drawnToken planId : String) :
    KeptByActions execution drawnToken planId (LiveHost planId) where
  toAdmitsRelease := LiveHost.admitsRelease planId planId
  lifecycle _ owner target _ live := live.lifecycle owner target
  checkpoint _ _ live := live.of_same rfl rfl
  undo _ _ live := live.of_same rfl rfl
  finish ticket result now database plan after executes ran live := by
    have moves := execution.finalize_execute_moves (LiveHost.admitsFinish planId) executes result
      now drawnToken
    have kept := moves.keeps (fun _ _ step known => step known) live
    rwa [ran] at kept

/-- A preparation leaves the plan one on its node. -/
theorem HostPlanOn.prepare {execution : MaintenanceExecutionService} {owner drawnToken : String}
    {now nodeId : Nat} {ticket : MaintenanceActionTicket}
    (ran : (execution.prepare owner .execute now drawnToken).run before = (.returned ticket, after))
    (onNode : HostPlanOn planId nodeId before) : HostPlanOn planId nodeId after := by
  have reached := execution.prepare_reaches owner .execute now drawnToken before
  rw [ran] at reached
  generalize hreached : (Outcome.returned ticket, after).2 = written at reached
  obtain rfl : after = written := hreached
  clear ran
  induction reached with
  | refl => exact onNode
  | tail _ write ih =>
      cases write with
      | runStatus runId status => exact ih
      | start started =>
          rw [startRun_run] at started
          cases started
          exact ih
      | attach runId =>
          refine (plan?_map_column rfl (fun plan => ?_) planId).trans ih
          split <;> exact ⟨rfl, rfl⟩
      | lock _ _ _ added =>
          obtain ⟨row, _, _, rfl⟩ := added
          exact ih
      | execute =>
          refine (plan?_map_column rfl (fun plan => ?_) planId).trans ih
          split <;> exact ⟨rfl, rfl⟩

end LiveHost

/-! ### Preparations -/

namespace HostMaintenanceService

variable {service : HostMaintenanceService} {planId : String} {start : Database}

/-- The host is out of recovery before a preparation first commits. -/
theorem prepareHost_live {plan : PlanRecord} {nodeId : Nat}
    (targets : List ManagedContainerTarget) (ticket : MaintenanceActionTicket) :
    Maintains (CommittedWith start (LiveHost plan.id))
      (fun world => HostPlanOn plan.id nodeId world.working)
      (prepareHost service plan nodeId targets ticket)
      fun _ world => LiveHost plan.id world.working := by
  have admits := LiveHost.admitsRelease plan.id plan.id
  have within : ∀ {α : Type} {program : Action α}, Moves (WorkflowStep plan.id) program →
      Maintains (CommittedWith start (LiveHost plan.id))
        (fun world => LiveHost plan.id world.working) program
        fun _ world => LiveHost plan.id world.working :=
    fun moves => CommittedWith.ofMoves (moves.mono (WorldStep.widen admits.workflow
      (fun _ _ _ => trivial) fun _ _ => trivial))
  have opens : Maintains (CommittedWith start (LiveHost plan.id))
      (fun world => HostPlanOn plan.id nodeId world.working) (store (getHostState nodeId))
      fun _ world => HostPlanOn plan.id nodeId world.working := by
    refine Maintains.store CommittedWith.view fun database found written ran onNode => ?_
    obtain ⟨_, opened⟩ := getHostState_opens ran
    rwa [HostPlanOn, Database.plan?, opened.kept.plans]
  have enters : ∀ revision, Maintains (CommittedWith start (LiveHost plan.id))
      (fun world => HostPlanOn plan.id nodeId world.working)
      (store (transitionHostState nodeId revision .planning (some plan.id)))
      fun _ world => LiveHost plan.id world.working := by
    refine fun revision => Maintains.store CommittedWith.view fun database host written ran onNode => ?_
    obtain ⟨_, _, _, isRow, _, plans, _⟩ := (transitionHostState_returned ran).1
    refine ⟨nodeId, ?_, ?_⟩
    · rwa [HostPlanOn, Database.plan?, plans]
    · rw [Database.hostRow, isRow]
      simp [HostMaintenanceState.workflowState]
  refine .bind opens fun found => .bind (enters _) fun host => ?_
  refine .bind (CommittedWith.ofMoves (.store
    (prepareAssignments_moves admits.toAdmitsClaims _ _))) fun _ => ?_
  refine .bind (within (record_moves (by decide) _ (.inr rfl) _ _)) fun _ => ?_
  refine .bind (within (withGuard_moves service
    (fun gateway => guardClusters_moves gateway _) _)) fun _ => ?_
  exact within (stored_moves (transitionHostWorkflowState_writes _ _ (by decide)))

/-- A preparation commits nothing, or leaves the host out of recovery. -/
theorem prepare_live : Maintains (CommittedWith start (LiveHost planId)) (fun _ => True)
    (prepare service planId) fun _ world => LiveHost planId world.working := by
  have finds : Maintains (CommittedWith start (LiveHost planId)) (fun _ => True)
      (store (planAndTargets planId)) fun found world =>
        found.1.id = planId ∧ HostPlanOn planId found.2.1 world.working := by
    have leads : ∀ database (found : PlanRecord × Nat × List ManagedContainerTarget) written,
        (planAndTargets planId).run database = (.returned found, written) → True →
          found.1.id = planId ∧ HostPlanOn planId found.2.1 written := by
      intro database found written ran _
      obtain ⟨plan, nodeId, targets⟩ := found
      obtain ⟨isFound, rfl⟩ := planAndTargets_returned ran
      refine ⟨isFound.onPlan, ?_⟩
      simp [HostPlanOn, isFound.stored, isFound.kind, isFound.node]
    exact Maintains.store CommittedWith.view leads
  refine .bind finds fun found => ?_
  obtain ⟨plan, nodeId, targets⟩ := found
  refine .given fun onPlan => ?_
  obtain rfl : plan.id = planId := onPlan
  have checks : ∀ {α : Type} {program : Action α}, Moves (fun _ _ => False) program →
      Maintains (CommittedWith start (LiveHost plan.id))
        (fun world => HostPlanOn plan.id nodeId world.working) program
        fun _ world => HostPlanOn plan.id nodeId world.working :=
    fun moves => .ofMoves moves (fun _ _ never => never.elim) fun _ _ never => never.elim
  refine .bind (checks (.ofExcept _)) fun _ => ?_
  refine .bind (checks (.require _ _)) fun _ => ?_
  refine .bind (checks (.require _ _)) fun _ => ?_
  refine .bind Maintains.read fun now => ?_
  have issues : Maintains (CommittedWith start (LiveHost plan.id))
      (fun world => now = service.clock world.trace ∧ HostPlanOn plan.id nodeId world.working)
      (store (service.execution.prepare plan.id .execute now service.drawnToken))
      fun _ world => HostPlanOn plan.id nodeId world.working :=
    (Maintains.store CommittedWith.view fun database ticket written ran onNode => HostPlanOn.prepare ran onNode).weaken
      (fun _ _ known => known.2) fun _ _ _ known => known
  refine .bind issues fun ticket => ?_
  exact .onRaise (prepareHost_live targets ticket)
    fun _ => CommittedWith.ofQuiet (recover_moves (anyWrite_admitsRecovery _) _ _ _ _)

theorem prepare_committed (service : HostMaintenanceService) (planId : String)
    (world : MaintenanceWorld) :
    CommittedWith world.committed (LiveHost planId)
      ((perform service planId .prepare).run world).2 := by
  have steadily : ∀ {α : Type} {program : Action α}, Moves (WorkflowStep planId) program →
      Maintains (CommittedWith world.committed (LiveHost planId))
        (fun world => LiveHost planId world.working) program
        fun _ world => LiveHost planId world.working :=
    fun moves => CommittedWith.ofMoves (moves.mono (WorldStep.widen
      (LiveHost.admitsRelease planId planId).workflow (fun _ _ _ => trivial) fun _ _ => trivial))
  have body : Maintains (CommittedWith world.committed (LiveHost planId)) (fun _ => True) (do
      let state ← dispatch service planId .prepare
      let plan ← store (getPlan planId)
      require (plan.runId.any (1 ≤ ·))
        ⟨.runtimeError, "Host maintenance workflow has no attached run"⟩
      pure state) fun _ world => LiveHost planId world.working := by
    refine .bind prepare_live fun state => ?_
    refine .bind (steadily (stored_moves (getPlan_moves _))) fun plan => ?_
    exact .bind (steadily (.require _ _)) fun _ => .pure fun _ _ live => live
  exact (connect_maintains (fun _ known => ⟨known, trivial⟩) (steadily commit_moves) body world
    (.inl rfl) trivial).1

/-- A preparation is refused whose plan is not ready. -/
theorem prepare_refused {world : MaintenanceWorld}
    (unready : ∀ plan, world.committed.plan? planId = some plan →
      plan.lifecycleState ≠ .ready) :
    ((perform service planId .prepare).run world).2.committed = world.committed := by
  refine connect_refused (.bind (.afterStore fun found database after ran isWorking => ?_))
  obtain ⟨plan, nodeId, targets⟩ := found
  obtain ⟨isFound, isSame⟩ := planAndTargets_returned ran
  obtain rfl := isFound.onPlan
  refine .afterReadOnly (.ofExcept _) fun _ => .afterReadOnly (.require _ _) fun _ => ?_
  refine .afterReadOnly (.require _ _) fun _ => .afterReadOnly (.read _) fun now => ?_
  refine .bind (.store fun ticket written issued => ?_)
  rw [isWorking, isSame] at issued
  obtain ⟨⟨stored, isStored, isReady⟩, _⟩ :=
    MaintenanceExecutionService.prepare_execute_returned issued
  exact unready stored isStored isReady

theorem requireHostState_live {plan : PlanRecord} {nodeId : Nat}
    {expected : MaintenanceWorkflowState} {host : HostStateRecord} {database after : Database}
    (ran : (requireHostState plan nodeId expected).run database = (.returned host, after)) :
    (database.hostRow nodeId).workflowState = expected := by
  obtain ⟨found, _, foundRan, afterFound⟩ := bind_eq_returned ran
  obtain ⟨rfl, _⟩ := getHostState_opens foundRan
  obtain ⟨_, _, required, _⟩ := bind_eq_returned afterFound
  have isState := (require_eq_returned required).1
  simp only [Bool.and_eq_true, decide_eq_true_eq] at isState
  exact isState.2

/-- The other actions are refused for a plan whose host is in recovery. -/
theorem perform_refused_in_recovery {action : HostWorkflowAction} (later : action ≠ .prepare)
    {world : MaintenanceWorld} (lost : ¬ LiveHost planId world.committed) :
    ((perform service planId action).run world).2.committed = world.committed := by
  refine connect_refused (.bind ?_)
  have refuses : ∀ {plan nodeId targets database} {after : MaintenanceWorld}
      {expected : MaintenanceWorkflowState},
      (planAndTargets planId).run world.committed =
        (.returned (plan, nodeId, targets), database) →
      after.working = database → expected ≠ .recoveryRequired →
      Refused (store (requireHostState plan nodeId expected)) after := by
    intro plan nodeId targets database after expected ran isWorking live
    obtain ⟨isFound, isSame⟩ := planAndTargets_returned ran
    refine .store fun host written checked => ?_
    have isState := requireHostState_live checked
    rw [isWorking, isSame] at isState
    refine lost ⟨nodeId, ?_, ?_⟩
    · simp [HostPlanOn, isFound.stored, isFound.kind, isFound.node]
    · rw [isState]
      exact live
  cases action with
  | prepare => exact absurd rfl later
  | stop =>
      refine .afterStore fun found _ _ ran isWorking => ?_
      obtain ⟨plan, nodeId, targets⟩ := found
      exact .bind (refuses ran isWorking (by decide))
  | reboot =>
      refine .afterStore fun found _ _ ran isWorking => ?_
      obtain ⟨plan, nodeId, targets⟩ := found
      exact .bind (refuses ran isWorking (by decide))
  | handoff =>
      refine .afterStore fun found _ _ ran isWorking => ?_
      obtain ⟨plan, nodeId, targets⟩ := found
      exact .bind (refuses ran isWorking (by decide))
  | returnToService =>
      refine .afterStore fun found _ _ ran isWorking => ?_
      obtain ⟨plan, nodeId, targets⟩ := found
      exact .bind (refuses ran isWorking (by decide))

/-- An action puts no plan durably into recovery, and takes none out of it. -/
theorem perform_recovery_iff (service : HostMaintenanceService) (planId : String)
    (action : HostWorkflowAction) (world : MaintenanceWorld) :
    InRecovery planId ((perform service planId action).run world).2.committed ↔
      InRecovery planId world.committed := by
  by_cases isPrepare : action = .prepare
  · subst isPrepare
    constructor
    · intro recovering
      rcases prepare_committed service planId world with same | live
      · rwa [same] at recovering
      · exact absurd recovering live.excludes
    · intro recovering
      rw [prepare_refused]
      · exact recovering
      · intro plan isPlan isReady
        obtain ⟨stored, _, isStored, isRecovering, _⟩ := recovering.plan
        rw [isPlan] at isStored
        cases isStored
        rw [isReady] at isRecovering
        cases isRecovering
  · refine iff_of_kept_or_refused (fun database live => LiveHost.excludes live) (fun live => ?_)
      (perform_refused_in_recovery isPrepare)
    exact (perform_keeps (LiveHost.keptByActions _ _ _) action
      (fun same => absurd same isPrepare) live).committed

end HostMaintenanceService

/-! ### Workloads out of recovery -/

/-- The plan is not in recovery, or owns an assignment that is not. -/
def LivePlan (planId : String) (database : Database) : Prop :=
  (∀ plan, database.plan? planId = some plan → plan.lifecycleState ≠ .recoveryRequired) ∨
    ∃ state ∈ database.assignmentStates, state.activePlanId = some planId ∧
      state.workflowState ≠ .recoveryRequired

section LivePlan

variable {planId : String} {before after : Database}

theorem LivePlan.excludes (live : LivePlan planId before) : ¬ InRecovery planId before := by
  rintro ⟨⟨plan, _, isPlan, recovering, _⟩, _, assignments⟩
  rcases live with notRecovering | ⟨state, member, isOwner, notRecovering⟩
  · exact notRecovering plan isPlan recovering
  · exact notRecovering (assignments state member isOwner)

theorem LivePlan.of_same (live : LivePlan planId before) (plans : after.plans = before.plans)
    (assignments : after.assignmentStates = before.assignmentStates) : LivePlan planId after := by
  rwa [LivePlan, Database.plan?, plans, assignments]

theorem LivePlan.workflow (live : LivePlan planId before)
    (write : WorkflowWrite planId before after) : LivePlan planId after := by
  cases write with
  | addAssignment missing =>
      rcases live with notRecovering | ⟨state, member, isLive⟩
      · exact .inl notRecovering
      · exact .inr ⟨state, List.mem_append_left _ member, isLive⟩
  | setAssignment assignmentId changed =>
      rcases live with notRecovering | ⟨state, member, isLive⟩
      · exact .inl notRecovering
      · refine .inr ⟨_, List.mem_map_of_mem member, ?_⟩
        split
        · exact ⟨(changed state).2.2, (changed state).2.1⟩
        · exact isLive
  | launch started =>
      rw [startRun_run] at started
      cases started
      exact live.of_same rfl rfl
  | _ => exact live.of_same rfl rfl

theorem LivePlan.admitsClaims (planId : String) :
    AdmitsClaims planId (Survives (LivePlan planId)) where
  workflow _ _ write live := live.workflow write
  claims _ _ _ live := live.of_same rfl rfl

/-- A plan that was found in a state other than recovery. -/
theorem LivePlan.of_state {state : MaintenanceState} (live : state ≠ .recoveryRequired)
    (found : ∃ plan, before.plan? planId = some plan ∧ plan.lifecycleState = state) :
    LivePlan planId before := by
  obtain ⟨plan, isPlan, rfl⟩ := found
  refine .inl fun other isOther => ?_
  rw [isPlan] at isOther
  cases isOther
  exact live

end LivePlan

namespace ContainerMaintenanceService

variable {service : ContainerMaintenanceService} {planId : String} {history : History}

theorem live_issues : Issues service (keptAssertions planId (LivePlan planId) history) := by
  refine kept_issues fun moment database ticket after ran _ => ?_
  exact .of_state (by decide) (MaintenanceExecutionService.prepare_execute_returned ran).2

theorem live_carries :
    Carries service planId (keptAssertions planId (LivePlan planId) history) where
  step before after step known := Durably.step before after
    (step.widen (LivePlan.admitsClaims planId).workflow (fun _ _ allowed => allowed)
      fun _ allowed => allowed) known
  found _ _ _ _ _ isFound := isFound.onPlan
  knownStep _ _ _ _ _ known := known
  issuedStep _ _ _ _ _ _ _ := trivial
  claims plan target ticket onPlan := by
    subst onPlan
    exact (durably_maintains (.store (claimTarget_moves target (LivePlan.admitsClaims _) _))).weaken
      (fun _ _ known => known.1) fun _ _ _ known => known
  settles plan target runId revision onPlan isRun := by
    subst onPlan
    -- The release of the target may leave the plan without a live assignment; the plan itself has
    -- succeeded before anything of it becomes durable.
    have quiet : ∀ {α : Type} {operation : Operation α} {before : MaintenanceWorld → Prop},
        Maintains (Durably (LivePlan plan.id) history) before (store operation) fun _ _ => True :=
      Durably.ofQuiet (.store fun _ => .single trivial)
    refine .bind quiet fun released => .bind (Durably.ofQuiet (.require _ _)) fun _ => ?_
    refine .bind quiet fun available => .bind Maintains.read fun now => ?_
    have finishes : Maintains (Durably (LivePlan plan.id) history) (fun _ => True)
        (store (service.execution.finalize (HostMaintenanceService.planTicket plan runId)
          ⟨some .succeeded, []⟩ now service.drawnToken))
        fun _ world => LivePlan plan.id world.working := by
      have leads : ∀ database ended written, (service.execution.finalize
          (HostMaintenanceService.planTicket plan runId) ⟨some .succeeded, []⟩ now
          service.drawnToken).run database = (.returned ended, written) → True →
          LivePlan plan.id written :=
        fun _ _ _ ran _ => .of_state (by decide)
          (MaintenanceExecutionService.finalize_succeeded rfl ran)
      exact Maintains.store Durably.view leads
    exact .bind (finishes.weaken (fun _ _ _ => trivial) fun _ _ _ known => known)
      fun _ => .pure fun _ _ known => known
  recovers plan target ticket onPlan :=
    Durably.ofQuiet (recover_moves service target (anyWrite_admitsRecovery _) ticket)

/-- A preparation is refused whose plan is not ready. -/
theorem prepare_refused {world : MaintenanceWorld}
    (unready : ∀ plan, world.committed.plan? planId = some plan →
      plan.lifecycleState ≠ .ready) :
    ((perform service planId .prepare).run world).2.committed = world.committed := by
  refine connect_refused (.bind (.afterStore fun found database after ran isWorking => ?_))
  obtain ⟨plan, target⟩ := found
  obtain ⟨isFound, isSame⟩ := planAndTarget_returned ran
  obtain rfl := isFound.onPlan
  refine .afterReadOnly (.require _ _) fun _ => .afterReadOnly (.read _) fun now => ?_
  refine .bind (.store fun ticket written issued => ?_)
  rw [isWorking, isSame] at issued
  obtain ⟨⟨stored, isStored, isReady⟩, _⟩ :=
    MaintenanceExecutionService.prepare_execute_returned issued
  exact unready stored isStored isReady

/-- An assignment that was found in its state is one of the plan. -/
theorem requireAssignmentState_live {plan : PlanRecord} {target : ManagedContainerTarget}
    {expected : MaintenanceWorkflowState} {state : AssignmentStateRecord}
    {database after : Database} (live : expected ≠ .recoveryRequired)
    (ran : (requireAssignmentState plan target expected).run database =
      (.returned state, after)) : LivePlan plan.id database := by
  obtain ⟨found, _, foundRan, afterFound⟩ := bind_eq_returned ran
  obtain ⟨rfl, _⟩ := getAssignmentState_opens foundRan
  obtain ⟨_, _, required, _⟩ := bind_eq_returned afterFound
  have isState := (require_eq_returned required).1
  simp only [Bool.and_eq_true, decide_eq_true_eq] at isState
  rw [Database.assignmentRow] at isState
  cases stored : database.assignmentState? target.assignmentId with
  | none =>
      rw [stored] at isState
      simp [newAssignmentState] at isState
  | some row =>
      rw [stored] at isState
      refine .inr ⟨row, List.mem_of_find?_eq_some stored, isState.2, ?_⟩
      rw [Option.getD_some] at isState
      rw [isState.1]
      exact live

theorem perform_refused_in_recovery {action : ContainerWorkflowAction}
    {world : MaintenanceWorld} (lost : ¬ LivePlan planId world.committed) :
    ((perform service planId action).run world).2.committed = world.committed := by
  have refuses : ∀ {plan target database} {after : MaintenanceWorld}
      {expected : MaintenanceWorkflowState},
      (planAndTarget planId).run world.committed = (.returned (plan, target), database) →
      after.working = database → expected ≠ .recoveryRequired →
      Refused (store (requireAssignmentState plan target expected)) after := by
    intro plan target database after expected ran isWorking live
    obtain ⟨isFound, isSame⟩ := planAndTarget_returned ran
    refine .store fun state written checked => ?_
    have isLive := requireAssignmentState_live live checked
    rw [isWorking, isSame, isFound.onPlan] at isLive
    exact lost isLive
  cases action with
  | prepare =>
      refine prepare_refused fun plan isPlan isReady => lost ?_
      exact .of_state (by decide) ⟨plan, isPlan, isReady⟩
  | stop =>
      refine connect_refused (.bind (.afterStore fun found _ _ ran isWorking => ?_))
      obtain ⟨plan, target⟩ := found
      exact .bind (refuses ran isWorking (by decide))
  | returnToService =>
      refine connect_refused (.bind (.afterStore fun found _ _ ran isWorking => ?_))
      obtain ⟨plan, target⟩ := found
      exact .bind (refuses ran isWorking (by decide))

/-- An action puts no plan durably into recovery, and takes none out of it. -/
theorem perform_recovery_iff (service : ContainerMaintenanceService) (planId : String)
    (action : ContainerWorkflowAction) (world : MaintenanceWorld) :
    InRecovery planId ((perform service planId action).run world).2.committed ↔
      InRecovery planId world.committed := by
  refine iff_of_kept_or_refused (fun database live => LivePlan.excludes live) (fun live => ?_)
    perform_refused_in_recovery
  exact (perform_carries live_carries
    (fun _ durable => ⟨⟨durable.committed, durable.seen⟩, durable.committed⟩) action
    (fun _ => live_issues) world ⟨live, [], rfl, by simp⟩ trivial).1.committed

end ContainerMaintenanceService

/-- After an action that raised, the plan, its run, its host and its assignments are durably in
recovery exactly if they were before: the writes of the handler are lost with the connection. -/
theorem failed_action_recovers_iff (planId : String) (world : MaintenanceWorld) (error : Fault) :
    (∀ (service : HostMaintenanceService) (action : HostWorkflowAction),
      ((service.perform planId action).run world).1 = .raised error →
        (InRecovery planId ((service.perform planId action).run world).2.committed ↔
          InRecovery planId world.committed)) ∧
    ∀ (service : ContainerMaintenanceService) (action : ContainerWorkflowAction),
      ((service.perform planId action).run world).1 = .raised error →
        (InRecovery planId ((service.perform planId action).run world).2.committed ↔
          InRecovery planId world.committed) :=
  ⟨fun service action _ => service.perform_recovery_iff planId action world,
    fun service action _ => service.perform_recovery_iff planId action world⟩

namespace HostSample

/-- The sample service when its runtime does not confirm a stop. -/
def unconfirmedService : HostMaintenanceService :=
  { service with stop := fun _ _ => .ok false }

/-- The sample host is prepared. -/
def prepared : MaintenanceWorld :=
  perform none .prepare (World.start database none)

theorem unconfirmed_stop_raises :
    ((unconfirmedService.perform "plan" .stop).run prepared).1 =
      .raised (HostMaintenanceService.blocked "Host maintenance stop was not confirmed") := by
  decide +kernel

theorem unconfirmed_stop_recovery :
    ((unconfirmedService.perform "plan" .stop).run prepared).1 =
      .raised (HostMaintenanceService.blocked "Host maintenance stop was not confirmed") ∧
    (InRecovery "plan" ((unconfirmedService.perform "plan" .stop).run prepared).2.committed ↔
      InRecovery "plan" prepared.committed) :=
  ⟨unconfirmed_stop_raises,
    (failed_action_recovers_iff "plan" prepared _).1 _ _ unconfirmed_stop_raises⟩

/-- A stop that is not confirmed raises, and the plan stays in execution. -/
theorem unconfirmed_stop_leaves_execution :
    ¬ ∀ (service : HostMaintenanceService) (action : HostWorkflowAction) (planId : String)
      (world : MaintenanceWorld) (error : Fault),
      ((service.perform planId action).run world).1 = .raised error →
        InRecovery planId ((service.perform planId action).run world).2.committed := by
  intro always
  obtain ⟨⟨plan, _, isPlan, recovering, _⟩, _, _⟩ :=
    always _ _ _ _ _ unconfirmed_stop_raises
  have executing : (((unconfirmedService.perform "plan" .stop).run prepared).2.committed.plan?
      "plan").map (·.lifecycleState) = some .executing := by decide +kernel
  rw [isPlan, Option.map_some, recovering] at executing
  cases executing

end HostSample

end ElKeeper
