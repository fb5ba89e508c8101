import ElKeeper.ManualMaintenance
import ElKeeper.StateTransitions
import ElKeeper.WorkflowScope

/-!
# The scope of the manual mode

The manual mode finds its plan through the host row alone.  Its calls touch
manual plans only, provided that the plan which holds the host in maintenance is
one; a host under a planned maintenance is left and released all the same.
-/

namespace ElKeeper

open Program MaintenanceStore

/-! ### The writes of the manual mode -/

/-- What a manual call on one host and one plan leaves alone.  The token is the one under which
it releases or takes locks, if any. -/
structure ManualFrame (nodeId : Nat) (planId : String) (token : Option String)
    (before after : Database) : Prop where
  plans : ∀ other, other ≠ planId → after.plan? other = before.plan? other
  kinds : KindsKept before after
  locks : ∀ lock ∈ before.locks, some lock.ownerToken ≠ token → lock ∈ after.locks
  within : LocksWithin planId token before after
  hosts : ∀ other, other ≠ nodeId → after.hostState? other = before.hostState? other
  assignments : after.assignmentStates = before.assignmentStates

section Frame

variable {nodeId : Nat} {planId : String} {token : Option String}

theorem ManualFrame.of_host {before after : Database} (plans : after.plans = before.plans)
    (locks : after.locks = before.locks)
    (hosts : ∀ other, other ≠ nodeId → after.hostState? other = before.hostState? other)
    (assignments : after.assignmentStates = before.assignmentStates) :
    ManualFrame nodeId planId token before after where
  plans other _ := by simp only [Database.plan?, plans]
  kinds := .of_same plans
  locks lock member _ := by rwa [locks]
  within := .of_same locks
  hosts := hosts
  assignments := assignments

theorem ManualFrame.refl (database : Database) :
    ManualFrame nodeId planId token database database :=
  .of_host rfl rfl (fun _ _ => rfl) rfl

theorem ManualFrame.trans {first second third : Database}
    (one : ManualFrame nodeId planId token first second)
    (two : ManualFrame nodeId planId token second third) :
    ManualFrame nodeId planId token first third where
  plans other different := (two.plans other different).trans (one.plans other different)
  kinds := one.kinds.trans two.kinds
  locks lock member other := two.locks lock (one.locks lock member other) other
  within := one.within.trans two.within
  hosts other different := (two.hosts other different).trans (one.hosts other different)
  assignments := two.assignments.trans one.assignments

theorem ManualFrame.ofMoves {α : Type} {operation : Operation α}
    (moves : Moves (ManualFrame nodeId planId token) operation) (database : Database) :
    ManualFrame nodeId planId token database (operation.run database).2 :=
  moves.keeps (fun _ _ step frame => frame.trans step) (.refl database)

theorem ManualFrame.of_ran {α : Type} {operation : Operation α} {database after : Database}
    {outcome : Outcome Fault α} (ran : operation.run database = (outcome, after))
    (moves : Moves (ManualFrame nodeId planId token) operation) :
    ManualFrame nodeId planId token database after := by
  have frame := ManualFrame.ofMoves moves database
  rwa [ran] at frame

theorem ManualFrame.addHost (database : Database) :
    ManualFrame nodeId planId token database
      (database.addHostState (newHostState nodeId)) := by
  refine .of_host rfl rfl (fun other different => ?_) rfl
  simp [Database.hostState?, Database.addHostState, List.find?_append, newHostState,
    different.symm]

theorem ManualFrame.setHost (database : Database)
    {change : HostStateRecord → HostStateRecord}
    (changed : ∀ host, (change host).nodeId = host.nodeId) :
    ManualFrame nodeId planId token database (database.setHostState nodeId change) := by
  refine .of_host rfl rfl (fun other different => ?_) rfl
  rw [hostState?_setHostState database nodeId other changed, if_neg different]

theorem ManualFrame.lifecycle (database : Database) (target : MaintenanceState) :
    ManualFrame nodeId planId token database (database.setLifecycleState planId target) where
  plans _ different := plan?_setLifecycleState_other database target different
  kinds := .lifecycle database planId target
  locks _ member _ := member
  within := .of_same rfl
  hosts _ _ := rfl
  assignments := rfl

theorem ManualFrame.attach (database : Database) (runId : Nat) :
    ManualFrame nodeId planId token database (database.attachRunId planId runId) where
  plans _ different := plan?_attachRunId_other database runId different
  kinds := .attach database planId runId
  locks _ member _ := member
  within := .of_same rfl
  hosts _ _ := rfl
  assignments := rfl

theorem ManualFrame.addLock (database : Database) {row : LockRecord}
    (isPlan : row.ownerPlanId = planId) (isToken : some row.ownerToken = token) :
    ManualFrame nodeId planId token database (database.addLock row) where
  plans _ _ := rfl
  kinds := .of_same rfl
  locks _ member _ := List.mem_append_left _ member
  within := .of_add isPlan isToken rfl
  hosts _ _ := rfl
  assignments := rfl

theorem ManualFrame.release (database : Database) (ownerToken : String) (now : Nat) :
    ManualFrame nodeId planId (some ownerToken) database (database.mapLocks fun lock =>
      if lock.heldWith ownerToken then { lock with releasedAt := some now } else lock) where
  plans _ _ := rfl
  kinds := .of_same rfl
  locks lock member other := by
    have different : lock.ownerToken ≠ ownerToken := fun same => other (by rw [same])
    refine List.mem_map.mpr ⟨lock, member, if_neg ?_⟩
    simp [LockRecord.heldWith, different]
  within := .of_map rfl fun lock => by split <;> exact ⟨rfl, rfl⟩
  hosts _ _ := rfl
  assignments := rfl

theorem getHostState_frame : Moves (ManualFrame nodeId planId token) (getHostState nodeId) :=
  getHostState_moves fun database _ => .addHost database

theorem transitionHostState_frame (revision : Nat) (target : HostMaintenanceState)
    (owner : Option String) :
    Moves (ManualFrame nodeId planId token)
      (transitionHostState nodeId revision target owner) :=
  transitionHostState_moves (fun database _ => .addHost database)
    fun database _ changed => .setHost database fun host => (changed host).1

theorem transitionPlan_frame (revision : Nat) (target : MaintenanceState) :
    Moves (ManualFrame nodeId planId token) (transitionPlan planId revision target) :=
  transitionPlan_moves fun database => .lifecycle database target

end Frame

namespace ManualMaintenanceService

open MaintenanceExecutionService (firstToken)

variable {host : HostStateRecord} {plan : PlanRecord} {token : Option String}

theorem settleRun_frame (status : RunStatus) :
    Moves (ManualFrame host.nodeId plan.id token) (settleRun plan status) := by
  simp only [settleRun]
  split
  · exact .update fun database => .of_host rfl rfl (fun _ _ => rfl) rfl
  · exact .pure ()

theorem recordRecovery_frame (reason : String) :
    Moves (ManualFrame host.nodeId plan.id token) (recordRecovery host plan reason) := by
  refine .bind (transitionHostState_frame _ _ _) fun recovery => ?_
  refine .bind (transitionPlan_frame _ _) fun recovering => ?_
  exact .bind (settleRun_frame _) fun _ => .pure _

theorem leaveHost_frame (ownerToken : String) (now : Nat) :
    Moves (ManualFrame host.nodeId plan.id (some ownerToken))
      (leaveHost host plan ownerToken now) := by
  have releases : Moves (ManualFrame host.nodeId plan.id (some ownerToken))
      (releaseLocks ownerToken now) := by
    refine .bind (.bind (.read _) fun held => .bind (.require _ _) fun _ => .require _ _)
      fun _ => .bind (.read _) fun released => ?_
    exact .bind (.update fun database => .release database ownerToken now) fun _ => .pure _
  refine .bind releases fun _ => .bind (transitionHostState_frame _ _ _) fun available => ?_
  refine .bind (transitionPlan_frame _ _) fun completed => ?_
  exact .bind (settleRun_frame _) fun _ => .pure _

/-- The exit of a host works on its plan, under a token of the plan if it releases locks. -/
theorem exitPlan_frame (host : HostStateRecord) (plan : PlanRecord) (healthy : Bool) (now : Nat)
    {database : Database} (tokens : TokensOwned database) :
    ∃ token, TokenOf plan.id token database ∧
      ManualFrame host.nodeId plan.id token database
        ((exitPlan host plan healthy now).run database).2 := by
  have recovers (reason : String) : ∃ token, TokenOf plan.id token database ∧
      ManualFrame host.nodeId plan.id token database
        ((recordRecovery host plan reason).run database).2 := by
    refine ⟨none, ?_, .ofMoves (recordRecovery_frame reason) _⟩
    intro lock _ isToken
    cases isToken
  simp only [exitPlan]
  split
  · exact recovers _
  · rw [run_bind, run_read]
    dsimp only
    split
    · exact recovers _
    · rename_i nonempty
      refine ⟨_, tokens.first nonempty, .ofMoves (.bind (.attempt (leaveHost_frame _ now))
        fun left => ?_) database⟩
      cases left with
      | ok left => exact .pure left
      | error error =>
          dsimp only
          split
          · exact recordRecovery_frame _
          · exact .raise error

/-- The plan of an entry is a manual one: a new one, or the one of the same request. -/
theorem createPlan_manual {entry : ManualEntry} {clusterIds : List Nat} {now : Nat}
    {created : PlanRecord} {database after : Database}
    (ran : (MaintenanceStore.createPlan entry.existing
        (manualPlan entry clusterIds now)).run database =
      (.returned created, after)) :
    created.operationKind = .manualMaintenance ∧ after.plan? created.id = some created ∧
      (after = database ∨ database.plan? created.id = none ∧
        after = database.addPlan (manualPlan entry clusterIds now)) ∧
      ∀ other, other ≠ created.id → after.plan? other = database.plan? other := by
  simp only [MaintenanceStore.createPlan] at ran
  split at ran
  · obtain ⟨plan, _, planRan, afterPlan⟩ := bind_eq_returned ran
    obtain ⟨isPlan, rfl⟩ := getPlan_returned planRan
    have onPlan := getPlan_id planRan
    obtain ⟨_, _, sameRan, ended⟩ := bind_eq_returned afterPlan
    obtain ⟨isSame, rfl⟩ := require_eq_returned sameRan
    cases ended
    simp only [MaintenanceStore.sameRequest, Bool.and_eq_true, decide_eq_true_eq] at isSame
    refine ⟨isSame.1.1.1.1.1.2, by rwa [onPlan], .inl rfl, fun _ _ => rfl⟩
  · obtain ⟨free, _, wasRead, afterRead⟩ := bind_eq_returned ran
    cases wasRead
    obtain ⟨_, _, freeRan, afterFree⟩ := bind_eq_returned afterRead
    obtain ⟨isFree, isSame⟩ := require_eq_returned freeRan
    rw [isSame] at afterFree
    obtain ⟨_, _, added, planRan⟩ := bind_eq_returned afterFree
    cases added
    obtain ⟨isPlan, rfl⟩ := getPlan_returned planRan
    have onPlan := getPlan_id planRan
    rw [Bool.and_eq_true, Option.isNone_iff_eq_none] at isFree
    have missing := isFree.1
    have isCreated : created = manualPlan entry clusterIds now := by
      simp only [Database.plan?] at missing
      simp only [Database.plan?, Database.addPlan, List.find?_append, missing] at isPlan
      simpa [eq_comm] using isPlan
    refine ⟨by rw [isCreated]; rfl, by rwa [onPlan], .inr ⟨by rwa [onPlan], rfl⟩, ?_⟩
    intro other different
    rw [onPlan] at different
    simp [Database.plan?, Database.addPlan, List.find?_append, different.symm]

/-- What follows works on the created plan, under the token that is drawn for it. -/
theorem enterHost_returned {entry : ManualEntry} {node : NodeRow} {clusterIds : List Nat}
    {hostRevision now : Nat} {answer : ManualResponse} {database after : Database}
    (ran : (enterHost entry node clusterIds hostRevision now).run database =
      (.returned answer, after)) :
    ∃ created between,
      (MaintenanceStore.createPlan entry.existing (manualPlan entry clusterIds now)).run database =
        (.returned created, between) ∧
      ManualFrame entry.nodeId created.id (some entry.ownerToken) between after ∧
      answer.planId = some created.id := by
  obtain ⟨created, between, createdRan, afterCreated⟩ := bind_eq_returned ran
  obtain ⟨plan, entered, planRan, afterPlan⟩ := bind_eq_returned afterCreated
  have onPlan : plan.id = created.id := by
    obtain ⟨_, current, isCurrent, _, _, rfl⟩ := transitionPlan_returned planRan
    simpa using List.find?_some isCurrent
  refine ⟨created, between, createdRan, ?_, ?_⟩
  · refine (ManualFrame.of_ran planRan (transitionPlan_frame _ _)).trans ?_
    rw [← onPlan]
    refine ManualFrame.of_ran afterPlan (.bind ?_ fun runId => ?_)
    · intro database
      rw [startRun_run]
      exact .single (.of_host rfl rfl (fun _ _ => rfl) rfl)
    refine .bind (.bind (.read _) fun attachable => .bind (.require _ _) fun _ =>
      .update fun database => .attach database runId) fun _ => ?_
    refine .bind ((acquireLocks_adds _ _ _ _ _ _ _).mono fun first second added => ?_) fun _ => ?_
    · obtain ⟨row, _, owns, rfl⟩ := added
      exact .addLock first owns.planId (by rw [owns.token]; rfl)
    refine .bind (transitionHostState_frame _ _ _) fun planning => ?_
    refine .bind (transitionHostState_frame _ _ _) fun active => ?_
    exact .bind (getPlan_moves _) fun _ => .pure _
  · obtain ⟨_, _, _, afterStart⟩ := bind_eq_returned afterPlan
    obtain ⟨_, _, _, afterAttach⟩ := bind_eq_returned afterStart
    obtain ⟨_, _, _, afterLocks⟩ := bind_eq_returned afterAttach
    obtain ⟨_, _, _, afterPlanning⟩ := bind_eq_returned afterLocks
    obtain ⟨_, _, _, afterActive⟩ := bind_eq_returned afterPlanning
    obtain ⟨found, _, foundRan, ended⟩ := bind_eq_returned afterActive
    cases ended
    rw [response, getPlan_id foundRan, onPlan]

/-! ### What a call answers -/

theorem recordRecovery_reports {reason : String} {answer : ManualResponse}
    {database after : Database}
    (ran : (recordRecovery host plan reason).run database = (.returned answer, after)) :
    answer.planId = some plan.id := by
  obtain ⟨recovery, _, _, afterHost⟩ := bind_eq_returned ran
  obtain ⟨recovering, _, planRan, afterPlan⟩ := bind_eq_returned afterHost
  obtain ⟨_, _, _, ended⟩ := bind_eq_returned afterPlan
  cases ended
  obtain ⟨_, current, isCurrent, _, _, rfl⟩ := transitionPlan_returned planRan
  have onPlan : current.id = plan.id := by simpa using List.find?_some isCurrent
  simp [response, onPlan]

theorem leaveHost_reports {token : String} {now : Nat} {answer : ManualResponse} {database after : Database}
    (ran : (leaveHost host plan token now).run database = (.returned answer, after)) :
    answer.planId = some plan.id := by
  obtain ⟨_, _, _, afterRelease⟩ := bind_eq_returned ran
  obtain ⟨available, _, _, afterHost⟩ := bind_eq_returned afterRelease
  obtain ⟨completed, _, planRan, afterPlan⟩ := bind_eq_returned afterHost
  obtain ⟨_, _, _, ended⟩ := bind_eq_returned afterPlan
  cases ended
  obtain ⟨_, current, isCurrent, _, _, rfl⟩ := transitionPlan_returned planRan
  have onPlan : current.id = plan.id := by simpa using List.find?_some isCurrent
  simp [response, onPlan]

theorem exitPlan_reports {healthy : Bool} {now : Nat} {answer : ManualResponse}
    {database after : Database}
    (ran : (exitPlan host plan healthy now).run database = (.returned answer, after)) :
    answer.planId = some plan.id := by
  simp only [exitPlan] at ran
  split at ran
  · exact recordRecovery_reports ran
  · obtain ⟨locks, _, wasRead, afterRead⟩ := bind_eq_returned ran
    cases wasRead
    split at afterRead
    · exact recordRecovery_reports afterRead
    · obtain ⟨left, _, leftRan, afterLeft⟩ := bind_eq_returned afterRead
      cases left with
      | ok left =>
          cases afterLeft
          exact leaveHost_reports (attempt_eq_returned leftRan)
      | error error =>
          dsimp only at afterLeft
          split at afterLeft
          · exact recordRecovery_reports afterLeft
          · cases afterLeft

end ManualMaintenanceService

/-! ### Calls -/

/-- No assignment of the plan is in its workflow. -/
def Database.NoneHeld (database : Database) (planId : String) : Prop :=
  ∀ row ∈ database.assignmentStates, row.activePlanId = some planId →
    row.workflowState = .available

namespace ManualCall

/-- The call changes, releases and reports manual plans only, and ends no plan and frees no host
whose assignments are in their workflow. -/
structure TouchesManualOnly (call : ManualCall) (database : Database) : Prop where
  changed : ∀ planId plan, database.plan? planId = some plan →
    (call.perform database).2.plan? planId ≠ some plan →
      plan.operationKind = .manualMaintenance
  created : ∀ planId plan, database.plan? planId = none →
    (call.perform database).2.plan? planId = some plan →
      plan.operationKind = .manualMaintenance
  released : ∀ lock ∈ database.locks, lock ∉ (call.perform database).2.locks →
    ∀ plan, database.plan? lock.ownerPlanId = some plan →
      plan.operationKind = .manualMaintenance
  reported : ∀ response planId plan, (call.perform database).1 = some response →
    response.planId = some planId → (call.perform database).2.plan? planId = some plan →
      plan.operationKind = .manualMaintenance
  succeeded : ∀ planId plan, (call.perform database).2.plan? planId = some plan →
    plan.lifecycleState = .succeeded → database.plan? planId ≠ some plan →
      (call.perform database).2.NoneHeld planId
  available : ∀ nodeId host planId, database.hostState? nodeId = some host →
    host.state ≠ .available → host.activePlanId = some planId →
    ((call.perform database).2.hostState? nodeId).any (·.state = .available) →
      (call.perform database).2.NoneHeld planId

/-- A host that the call finds in maintenance is there by a manual plan. -/
def HeldManually (call : ManualCall) (database : Database) : Prop :=
  ∀ planId plan, (database.hostRow call.nodeId).state = .maintenance →
    (database.hostRow call.nodeId).activePlanId = some planId →
    database.plan? planId = some plan → plan.operationKind = .manualMaintenance

/-! ### What a call works on -/

/-- The call reads only: it may open the row of its host. -/
structure Untouched (call : ManualCall) (database : Database) (answer : Option ManualResponse)
    (after : Database) : Prop where
  plans : after.plans = database.plans
  locks : after.locks = database.locks
  hosts : ∀ nodeId host, database.hostState? nodeId = some host →
    after.hostState? nodeId = some host
  assignments : after.assignmentStates = database.assignmentStates
  reported : ∀ response planId, answer = some response → response.planId = some planId →
    (database.hostRow call.nodeId).state = .maintenance ∧
      (database.hostRow call.nodeId).activePlanId = some planId

/-- The call works on one plan, which it may have created, from `between` on. -/
structure WorksOn (call : ManualCall) (database : Database) (answer : Option ManualResponse)
    (after : Database) (planId : String) (token : Option String) (between : Database) :
    Prop where
  plans : ∀ other, other ≠ planId → between.plan? other = database.plan? other
  kept : ∀ plan, database.plan? planId = some plan → between.plan? planId = some plan
  found : ∀ plan, between.plan? planId = some plan →
    plan.operationKind = .manualMaintenance ∨
      database.plan? planId = some plan ∧
        (database.hostRow call.nodeId).state = .maintenance ∧
        (database.hostRow call.nodeId).activePlanId = some planId
  locks : between.locks = database.locks
  hosts : ∀ other, other ≠ call.nodeId → between.hostState? other = database.hostState? other
  assignments : between.assignmentStates = database.assignmentStates
  holder : ∀ host other, database.hostState? call.nodeId = some host →
    host.state ≠ .available → host.activePlanId = some other → other = planId
  owned : TokenOf planId token database
  frame : ManualFrame call.nodeId planId token between after
  reported : ∀ response other, answer = some response → response.planId = some other →
    other = planId

section Calls

variable {call : ManualCall} {database after : Database} {answer : Option ManualResponse}

theorem Untouched.touches (performed : call.perform database = (answer, after))
    (untouched : call.Untouched database answer after) (manually : call.HeldManually database) :
    call.TouchesManualOnly database := by
  have samePlan : ∀ planId, after.plan? planId = database.plan? planId := by
    intro planId
    simp only [Database.plan?, untouched.plans]
  constructor <;> rw [performed] <;> dsimp only
  · intro planId plan isPlan other
    exact absurd ((samePlan planId).trans isPlan) other
  · intro planId plan missing isPlan
    rw [samePlan, missing] at isPlan
    cases isPlan
  · intro lock member gone
    rw [untouched.locks] at gone
    exact absurd member gone
  · intro response planId plan isAnswer names isPlan
    rw [samePlan] at isPlan
    obtain ⟨isState, isActive⟩ := untouched.reported response planId isAnswer names
    exact manually planId plan isState isActive isPlan
  · intro planId plan isPlan _ other
    exact absurd ((samePlan planId).symm.trans isPlan) other
  · intro nodeId host planId isHost busy _ freed
    rw [untouched.hosts nodeId host isHost] at freed
    simp [busy] at freed

theorem WorksOn.touches {planId : String} {token : Option String} {between : Database}
    (performed : call.perform database = (answer, after))
    (works : call.WorksOn database answer after planId token between)
    (held : HeldByWorkflows database) (manually : call.HeldManually database) :
    call.TouchesManualOnly database := by
  have samePlan : ∀ other, other ≠ planId → after.plan? other = database.plan? other :=
    fun other different => (works.frame.plans other different).trans (works.plans other different)
  have manual : ∀ plan, between.plan? planId = some plan →
      plan.operationKind = .manualMaintenance := by
    intro plan isPlan
    rcases works.found plan isPlan with isManual | ⟨isStored, isState, isActive⟩
    · exact isManual
    · exact manually planId plan isState isActive isStored
  have manualBefore : ∀ plan, database.plan? planId = some plan →
      plan.operationKind = .manualMaintenance :=
    fun plan isPlan => manual plan (works.kept plan isPlan)
  have manualAfter : ∀ plan, after.plan? planId = some plan →
      plan.operationKind = .manualMaintenance := by
    intro plan isPlan
    have same := works.frame.kinds planId
    rw [isPlan, Option.map_some, eq_comm, Option.map_eq_some_iff] at same
    obtain ⟨old, isOld, sameKind⟩ := same
    exact sameKind ▸ manual old isOld
  -- A manual plan holds no assignments, so ending it leaves none in a workflow.
  have noneHeld : after.NoneHeld planId := by
    intro row member isOwner
    rw [works.frame.assignments, works.assignments] at member
    obtain ⟨plan, isPlan, planned⟩ := held row member planId isOwner
    exact absurd (manualBefore plan isPlan) planned
  constructor <;> rw [performed] <;> dsimp only
  · intro other plan isPlan differs
    by_cases same : other = planId
    · subst same
      exact manualBefore plan isPlan
    · exact absurd ((samePlan other same).trans isPlan) differs
  · intro other plan missing isPlan
    by_cases same : other = planId
    · subst same
      exact manualAfter plan isPlan
    · rw [samePlan other same, missing] at isPlan
      cases isPlan
  · intro lock member gone plan isPlan
    have isToken : some lock.ownerToken = token := by
      by_contra other
      rw [← works.locks] at member
      exact gone (works.frame.locks lock member other)
    rw [works.owned lock member isToken] at isPlan
    exact manualBefore plan isPlan
  · intro response other plan isAnswer names isPlan
    obtain rfl := works.reported response other isAnswer names
    exact manualAfter plan isPlan
  · intro other plan isPlan _ differs
    by_cases same : other = planId
    · subst same
      exact noneHeld
    · exact absurd ((samePlan other same).symm.trans isPlan) differs
  · intro nodeId host other isHost busy isOwner freed
    by_cases same : nodeId = call.nodeId
    · subst same
      obtain rfl := works.holder host other isHost busy isOwner
      exact noneHeld
    · rw [works.frame.hosts nodeId same, works.hosts nodeId same, isHost] at freed
      simp [busy] at freed

theorem Untouched.refused (call : ManualCall) (database : Database) :
    call.Untouched database none database where
  plans := rfl
  locks := rfl
  hosts _ _ isHost := isHost
  assignments := rfl
  reported _ _ isAnswer := by cases isAnswer

theorem hostRow_nodeId (database : Database) (nodeId : Nat) :
    (database.hostRow nodeId).nodeId = nodeId := by
  simp only [Database.hostRow]
  cases found : database.hostState? nodeId with
  | none => rfl
  | some host => simpa using List.find?_some found

theorem hostRow_of_some {nodeId : Nat} {host : HostStateRecord}
    (found : database.hostState? nodeId = some host) : database.hostRow nodeId = host := by
  simp [Database.hostRow, found]

/-- Opening a host row keeps the rows that are there. -/
theorem opened_hosts {nodeId : Nat} (opened : HostOpened nodeId database after) :
    ∀ other host, database.hostState? other = some host → after.hostState? other = some host := by
  intro other host isHost
  by_cases same : other = nodeId
  · subst same
    rw [opened.row, hostRow_of_some isHost]
  · rw [opened.others other same, isHost]

theorem getHostState_locks {nodeId : Nat} {host : HostStateRecord}
    (ran : (getHostState nodeId).run database = (.returned host, after)) :
    after.locks = database.locks := by
  have moves : Moves (fun first second : Database => second.locks = first.locks)
      (getHostState nodeId) := getHostState_moves fun _ _ => rfl
  have kept := moves.keeps (fun _ _ step (same : _ = database.locks) => step.trans same)
    (rfl : database.locks = database.locks)
  rwa [ran] at kept

/-- A call whose only effect is the opened row. -/
theorem Untouched.of_opened {host : HostStateRecord}
    (ran : (getHostState call.nodeId).run database = (.returned host, after))
    (reported : ∀ response planId, answer = some response → response.planId = some planId →
      host.state = .maintenance ∧ host.activePlanId = some planId) :
    call.Untouched database answer after := by
  obtain ⟨isHost, opens⟩ := getHostState_opens ran
  refine ⟨opens.kept.plans, getHostState_locks ran, opened_hosts opens, opens.assignments, ?_⟩
  rw [← isHost]
  exact reported

/-- A call is refused or untouched, or it works on one plan. -/
def Settled (call : ManualCall) (database : Database) : Prop :=
  call.Untouched database (call.perform database).1 (call.perform database).2 ∨
    ∃ planId token between,
      call.WorksOn database (call.perform database).1 (call.perform database).2 planId token between

theorem perform_of_returned {response : ManualResponse}
    (ran : call.operation.run database = (.returned response, after)) :
    call.perform database = (some response, after) := by
  simp only [perform, ran]

theorem settled_of_returned
    (settled : ∀ response after, call.operation.run database = (.returned response, after) →
      call.Untouched database (some response) after ∨
        ∃ planId token between, call.WorksOn database (some response) after planId token between) :
    call.Settled database := by
  rcases ran : call.operation.run database with ⟨outcome, after⟩
  cases outcome with
  | returned response =>
      rw [Settled, perform_of_returned ran]
      exact settled response after ran
  | raised error =>
      simp only [Settled, perform, ran]
      exact .inl (.refused call database)
  | stopped =>
      simp only [Settled, perform, ran]
      exact .inl (.refused call database)

theorem exit_settled (nodeId : Nat) (healthy : Bool) (now : Nat) (tokens : TokensOwned database) :
    (exit nodeId healthy now).Settled database := by
  refine settled_of_returned fun response after ran => ?_
  obtain ⟨host, opened, hostRan, afterHost⟩ := bind_eq_returned ran
  split at afterHost
  · cases afterHost
    refine .inl (.of_opened hostRan fun _ _ isAnswer names => ?_)
    cases isAnswer
    cases names
  · split at afterHost
    · rename_i planId isState isActive
      obtain ⟨isHost, opens⟩ := getHostState_opens hostRan
      have locksSame := getHostState_locks hostRan
      obtain ⟨plan, _, planRan, exitRan⟩ := bind_eq_returned afterHost
      obtain ⟨isPlan, isOpened⟩ := getPlan_returned planRan
      rw [isOpened] at exitRan
      obtain rfl := getPlan_id planRan
      have onNode : host.nodeId = nodeId := by rw [isHost, hostRow_nodeId]
      have tokensOpened : TokensOwned opened := by rwa [TokensOwned, locksSame]
      obtain ⟨token, owned, frame⟩ :=
        ManualMaintenanceService.exitPlan_frame host plan healthy now tokensOpened
      rw [exitRan, onNode] at frame
      rw [TokenOf, locksSame] at owned
      refine .inr ⟨plan.id, token, opened,
        { plans := fun other _ => opens.kept.plan? other
          kept := fun found isFound => (opens.kept.plan? _).trans isFound
          found := fun found isFound => .inr ⟨(opens.kept.plan? _).symm.trans isFound,
            isHost ▸ isState, isHost ▸ isActive⟩
          locks := locksSame
          hosts := opens.others
          assignments := opens.assignments
          holder := ?_
          owned := owned
          frame := frame
          reported := ?_ }⟩
      · intro row other isRow _ isOwner
        have same : row = host := (hostRow_of_some isRow).symm.trans isHost.symm
        rw [same, isActive] at isOwner
        exact (Option.some.inj isOwner).symm
      · intro answered other isAnswer names
        cases isAnswer
        rw [ManualMaintenanceService.exitPlan_reports exitRan] at names
        exact (Option.some.inj names).symm
    · cases afterHost

theorem enter_settled {entry : ManualEntry} (now : Nat)
    (fresh : ∀ lock ∈ database.locks, lock.ownerToken ≠ entry.ownerToken) :
    (enter entry now).Settled database := by
  refine settled_of_returned fun response after ran => ?_
  obtain ⟨_, _, reasonRan, afterReason⟩ := bind_eq_returned ran
  rw [(require_eq_returned reasonRan).2] at afterReason
  obtain ⟨_, _, durationRan, afterDuration⟩ := bind_eq_returned afterReason
  rw [(require_eq_returned durationRan).2] at afterDuration
  obtain ⟨found, _, wasRead, afterNode⟩ := bind_eq_returned afterDuration
  cases wasRead
  split at afterNode
  · cases afterNode
  rename_i node _
  obtain ⟨host, opened, hostRan, afterHost⟩ := bind_eq_returned afterNode
  split at afterHost
  · rename_i planId isState isActive
    obtain ⟨plan, _, planRan, ended⟩ := bind_eq_returned afterHost
    obtain ⟨isPlan, isOpened⟩ := getPlan_returned planRan
    cases ended
    rw [isOpened]
    refine .inl (.of_opened hostRan fun answered other isAnswer names => ?_)
    cases isAnswer
    rw [ManualMaintenanceService.response, getPlan_id planRan] at names
    exact ⟨isState, isActive.trans names⟩
  · obtain ⟨isHost, opens⟩ := getHostState_opens hostRan
    obtain ⟨_, _, availableRan, afterAvailable⟩ := bind_eq_returned afterHost
    obtain ⟨isAvailable, isSame⟩ := require_eq_returned availableRan
    rw [isSame] at afterAvailable
    obtain ⟨observed, _, observedRan, afterObserved⟩ := bind_eq_returned afterAvailable
    cases observedRan
    obtain ⟨conflicts, _, conflictsRan, afterConflicts⟩ := bind_eq_returned afterObserved
    rw [(ofExcept_eq_returned conflictsRan).2] at afterConflicts
    obtain ⟨_, _, freeRan, afterFree⟩ := bind_eq_returned afterConflicts
    rw [(require_eq_returned freeRan).2] at afterFree
    obtain ⟨clusterIds, _, clustersRan, atomicRan⟩ := bind_eq_returned afterFree
    cases clustersRan
    obtain ⟨created, between, createdRan, frame, names⟩ :=
      ManualMaintenanceService.enterHost_returned (atomically_eq_returned atomicRan)
    obtain ⟨isManual, isCreated, isBetween, others⟩ :=
      ManualMaintenanceService.createPlan_manual createdRan
    have rows : between.locks = opened.locks ∧ between.hostStates = opened.hostStates ∧
        between.assignmentStates = opened.assignmentStates := by
      rcases isBetween with rfl | ⟨_, rfl⟩ <;> exact ⟨rfl, rfl, rfl⟩
    refine .inr ⟨created.id, some entry.ownerToken, between,
      { plans := fun other different => (others other different).trans (opens.kept.plan? other)
        kept := ?_
        found := ?_
        locks := rows.1.trans (getHostState_locks hostRan)
        hosts := ?_
        assignments := rows.2.2.trans opens.assignments
        holder := ?_
        owned := fun lock member isToken => absurd (Option.some.inj isToken) (fresh lock member)
        frame := frame
        reported := ?_ }⟩
    · intro plan isPlan
      rw [← opens.kept.plan?] at isPlan
      rcases isBetween with rfl | ⟨missing, _⟩
      · exact isPlan
      · rw [missing] at isPlan
        cases isPlan
    · intro plan isPlan
      rw [isCreated] at isPlan
      cases isPlan
      exact .inl isManual
    · intro other different
      rw [Database.hostState?, rows.2.1]
      exact opens.others other different
    · intro row other isRow busy _
      have same : row = host := (hostRow_of_some isRow).symm.trans isHost.symm
      rw [decide_eq_true_eq, ← same] at isAvailable
      exact absurd isAvailable busy
    · intro answered other isAnswer isOther
      cases isAnswer
      rw [names] at isOther
      exact (Option.some.inj isOther).symm

/-- The token that an entry draws is not in use. -/
def Drawn (call : ManualCall) (database : Database) : Prop :=
  match call with
  | enter entry _ => ∀ lock ∈ database.locks, lock.ownerToken ≠ entry.ownerToken
  | exit _ _ _ => True

theorem settled (call : ManualCall) (tokens : TokensOwned database)
    (drawn : call.Drawn database) : call.Settled database := by
  cases call with
  | enter entry now => exact enter_settled now drawn
  | exit nodeId healthy now => exact exit_settled nodeId healthy now tokens

end Calls

end ManualCall

/-! ### Runs -/

/-- Assignments are held by planned maintenance, and tokens by one plan each. -/
structure Apart (database : Database) : Prop where
  held : HeldByWorkflows database
  tokens : TokensOwned database

section Runs

variable {database after : Database}

theorem HeldByWorkflows.carry (held : HeldByWorkflows database)
    (assignments : after.assignmentStates = database.assignmentStates)
    (planned : ∀ planId, database.planned planId → after.planned planId) :
    HeldByWorkflows after := by
  intro row member planId isOwner
  rw [assignments] at member
  exact planned planId (held row member planId isOwner)

theorem Apart.manual {call : ManualCall} (apart : Apart database)
    (drawn : call.Drawn database) : Apart (call.perform database).2 := by
  rcases call.settled apart.tokens drawn with untouched | ⟨planId, token, between, works⟩
  · refine ⟨apart.held.carry untouched.assignments fun planId => ?_, ?_⟩
    · simp only [Database.planned, Database.plan?, untouched.plans]
      exact id
    · rw [TokensOwned, untouched.locks]
      exact apart.tokens
  · have tokens : TokensOwned between := by
      rw [TokensOwned, works.locks]
      exact apart.tokens
    have owned : TokenOf planId token between := by
      rw [TokenOf, works.locks]
      exact works.owned
    refine ⟨apart.held.carry (works.frame.assignments.trans works.assignments) ?_,
      works.frame.within.tokensOwned owned tokens⟩
    rintro other ⟨plan, isPlan, isKind⟩
    refine works.frame.kinds.planned ⟨plan, ?_, isKind⟩
    by_cases same : other = planId
    · subst same
      exact works.kept plan isPlan
    · rw [works.plans other same]
      exact isPlan

/-- A new plan leaves the plans that are there. -/
theorem Apart.createPlan (apart : Apart database) (existing : Option String)
    (record : PlanRecord) :
    Apart ((MaintenanceStore.createPlan existing record).run database).2 := by
  have moves : Moves (fun before after : Database => Apart before → Apart after)
      (MaintenanceStore.createPlan existing record) := by
    simp only [MaintenanceStore.createPlan]
    split
    · exact .bind (getPlan_moves _) fun plan => .bind (.require _ _) fun _ => .pure plan
    · refine .bind (.read _) fun free => .bind (.require _ _) fun _ => ?_
      refine .bind (.update fun before known => ?_) fun _ => getPlan_moves _
      refine ⟨known.held.carry rfl ?_, known.tokens⟩
      rintro planId ⟨plan, isPlan, isKind⟩
      refine ⟨plan, ?_, isKind⟩
      simp only [Database.plan?] at isPlan
      simp [Database.plan?, Database.addPlan, List.find?_append, isPlan]
  exact moves.keeps (fun _ _ step known => step known) apart

theorem Apart.host {service : HostMaintenanceService} {planId : String}
    {action : HostWorkflowAction} {world : MaintenanceWorld} (apart : Apart world.committed)
    (drawn : TokenOf planId (some service.drawnToken) world.committed) :
    Apart ((service.perform planId action).run world).2.committed := by
  by_cases planned : world.committed.planned planId
  · have kept := HostMaintenanceService.perform_keeps
      (WorkflowScope.kept service.execution planId service.drawnToken) action
      (fun _ => WorkflowScope.keptByTickets _ _ _ _) ⟨planned, apart.held, apart.tokens, drawn⟩
    exact ⟨kept.committed.held, kept.committed.tokens⟩
  · rw [HostMaintenanceService.perform_refused]
    · exact apart
    · intro plan isPlan isKind
      exact planned ⟨plan, isPlan, by rw [isKind]; decide⟩

theorem Apart.container {service : ContainerMaintenanceService} {planId : String}
    {action : ContainerWorkflowAction} {world : MaintenanceWorld} (apart : Apart world.committed)
    (drawn : TokenOf planId (some service.drawnToken) world.committed) :
    Apart ((service.perform planId action).run world).2.committed := by
  by_cases planned : world.committed.planned planId
  · have kept := ContainerMaintenanceService.perform_keeps
      (WorkflowScope.kept service.execution planId service.drawnToken) action
      (fun _ => WorkflowScope.keptByTickets _ _ _ _) ⟨planned, apart.held, apart.tokens, drawn⟩
    exact ⟨kept.committed.held, kept.committed.tokens⟩
  · rw [ContainerMaintenanceService.perform_refused]
    · exact apart
    · intro plan isPlan isKind
      exact planned ⟨plan, isPlan, by rw [isKind]; decide⟩

end Runs

/-- The worlds that planning, the two workflows and the manual mode reach from a controller
without maintenance.  Processes may be killed at any point, and a drawn token is not one under
which another plan holds locks. -/
inductive ControllerReached : MaintenanceWorld → Prop where
  | start {database : Database} (locks : database.locks = [])
      (assignments : database.assignmentStates = []) (budget : Option Nat) :
      ControllerReached (World.start database budget)
  | plan {world : MaintenanceWorld} (existing : Option String) (record : PlanRecord)
      (budget : Option Nat) (reached : ControllerReached world) :
      ControllerReached (World.restart
        { world with
          committed := ((MaintenanceStore.createPlan existing record).run world.committed).2 }
        budget)
  | host {world : MaintenanceWorld} (service : HostMaintenanceService) (planId : String)
      (action : HostWorkflowAction) (budget : Option Nat) (reached : ControllerReached world)
      (drawn : TokenOf planId (some service.drawnToken) world.committed) :
      ControllerReached ((service.perform planId action).run (world.restart budget)).2
  | container {world : MaintenanceWorld} (service : ContainerMaintenanceService)
      (planId : String) (action : ContainerWorkflowAction) (budget : Option Nat)
      (reached : ControllerReached world)
      (drawn : TokenOf planId (some service.drawnToken) world.committed) :
      ControllerReached ((service.perform planId action).run (world.restart budget)).2
  | manual {world : MaintenanceWorld} (call : ManualCall) (budget : Option Nat)
      (reached : ControllerReached world) (drawn : call.Drawn world.committed) :
      ControllerReached
        (World.restart { world with committed := (call.perform world.committed).2 } budget)

theorem ControllerReached.apart {world : MaintenanceWorld} (reached : ControllerReached world) :
    Apart world.committed := by
  induction reached with
  | start locks assignments budget =>
      constructor
      · intro row member
        simp [World.start, assignments] at member
      · intro first member
        simp [World.start, locks] at member
  | plan existing record budget _ ih => exact ih.createPlan existing record
  | host service planId action budget _ drawn ih => exact Apart.host ih drawn
  | container service planId action budget _ drawn ih => exact Apart.container ih drawn
  | manual call budget _ drawn ih => exact ih.manual drawn

/-- In every state that the controller reaches, a manual call touches manual plans only when the
host is not in maintenance, or is held there by a manual plan. -/
theorem manual_calls_touch_manual_plans {world : MaintenanceWorld}
    (reached : ControllerReached world) (call : ManualCall) (drawn : call.Drawn world.committed)
    (manually : call.HeldManually world.committed) :
    call.TouchesManualOnly world.committed := by
  have apart := reached.apart
  rcases call.settled apart.tokens drawn with untouched | ⟨planId, token, between, works⟩
  · exact untouched.touches rfl manually
  · exact works.touches rfl apart.held manually

namespace ManualSample

/-- The host of the sample without a plan. -/
def idle : MaintenanceWorld :=
  World.start { HostSample.database with plans := [] } none

def entry : ManualEntry where
  nodeId := 1
  reason := "Replace a disk"
  durationSeconds := 3600
  existing := none
  planId := "manual"
  planHash := "hash"
  ownerToken := "drawn"

/-- The host is in manual maintenance. -/
def entered : MaintenanceWorld :=
  World.restart { idle with committed := ((ManualCall.enter entry 0).perform idle.committed).2 } none

/-- The manual plan of a host is left. -/
theorem manual_calls_touch_manual_plans_left :
    (ManualCall.exit 1 true 1).HeldManually entered.committed ∧
      (entered.committed.hostRow 1).state = .maintenance ∧
      (((ManualCall.exit 1 true 1).perform entered.committed).2.hostRow 1).state = .available ∧
      (ManualCall.exit 1 true 1).TouchesManualOnly entered.committed := by
  have reached : ControllerReached entered :=
    .manual (.enter entry 0) none (.start rfl rfl none) (by simp [ManualCall.Drawn, idle,
      World.start, HostSample.database, Database.empty])
  have manually : (ManualCall.exit 1 true 1).HeldManually entered.committed := by
    have isPlan : (entered.committed.hostRow 1).activePlanId = some "manual" := by decide +kernel
    have isManual : (entered.committed.plan? "manual").map (·.operationKind) =
        some .manualMaintenance := by decide +kernel
    intro planId plan _ isActive found
    obtain rfl : "manual" = planId := Option.some.inj (isPlan.symm.trans isActive)
    rw [found] at isManual
    exact Option.some.inj isManual
  exact ⟨manually, by decide +kernel, by decide +kernel,
    manual_calls_touch_manual_plans reached _ trivial manually⟩

/-- A host under a planned maintenance whose workload is stopped is left by the manual mode: the
plan of the maintenance succeeds and its locks are released. -/
theorem exit_ends_planned_maintenance :
    ControllerReached HostSample.stopped ∧
      (HostSample.stopped.committed.plan? "plan").map (·.operationKind) = some .reboot ∧
      (((ManualCall.exit 1 true 1).perform HostSample.stopped.committed).2.plan? "plan").map
        (·.lifecycleState) = some .succeeded ∧
      (((ManualCall.exit 1 true 1).perform HostSample.stopped.committed).2.assignmentState? 1).map
        (fun row => (row.activePlanId, row.workflowState)) =
          some (some "plan", .maintenance) ∧
      ¬(ManualCall.exit 1 true 1).TouchesManualOnly HostSample.stopped.committed := by
  have prepared : ControllerReached
      (HostSample.perform none .prepare (World.start HostSample.database none)) :=
    .host HostSample.service "plan" .prepare none (.start rfl rfl none)
      (by simp [TokenOf, World.start, HostSample.database, Database.empty])
  have reached : ControllerReached HostSample.stopped :=
    .host HostSample.service "plan" .stop none prepared (by unfold TokenOf; decide +kernel)
  have isKind : (HostSample.stopped.committed.plan? "plan").map (·.operationKind) =
      some .reboot := by decide +kernel
  have ended : (((ManualCall.exit 1 true 1).perform HostSample.stopped.committed).2.plan?
      "plan").map (·.lifecycleState) = some .succeeded := by decide +kernel
  have executing : (HostSample.stopped.committed.plan? "plan").map (·.lifecycleState) =
      some .executing := by decide +kernel
  refine ⟨reached, isKind, ended, by decide +kernel, fun touches => ?_⟩
  cases found : HostSample.stopped.committed.plan? "plan" with
  | none =>
      rw [found] at isKind
      cases isKind
  | some plan =>
      rw [found] at isKind executing
      have isManual := touches.changed "plan" plan found fun same => by
        rw [same] at ended
        rw [ended] at executing
        cases executing
      rw [Option.map_some, isManual] at isKind
      cases isKind

end ManualSample

end ElKeeper
