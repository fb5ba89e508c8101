import ElKeeper.MaintenanceExecution
import ElKeeper.ClusterExclusion

/-!
# The steps of the execution service

`prepare`, `finalize` and `fail` change plans, runs and locks, and nothing else.
-/

namespace ElKeeper

open Program MaintenanceStore

/-- The writes of the execution service. -/
inductive ExecutionWrite : Database → Database → Prop where
  | lifecycle (database : Database) (planId : String) (target : MaintenanceState) :
      ExecutionWrite database (database.setLifecycleState planId target)
  | attach (database : Database) (planId : String) (runId : Nat) :
      ExecutionWrite database (database.attachRunId planId runId)
  | runStatus (database : Database) (runId : Nat) (status : RunStatus) :
      ExecutionWrite database (database.setRunStatus runId status)
  | start {database after : Database} {kind target : String} {context : Dict} {runId : Nat}
      (started : (Runs.startRun kind target context).run database = (.returned runId, after)) :
      ExecutionWrite database after
  | addLock (database : Database) (row : LockRecord) :
      ExecutionWrite database (database.addLock row)
  | mapLocks (database : Database) (change : LockRecord → LockRecord) :
      ExecutionWrite database (database.mapLocks change)

theorem transitionPlan_writes (planId : String) (revision : Nat) (target : MaintenanceState) :
    Moves ExecutionWrite (transitionPlan planId revision target) :=
  transitionPlan_moves fun database => .lifecycle database planId target

theorem acquireLocks_writes (requests : List LockRequest) (ownerPlanId : String)
    (runId : Option Nat) (ttlSeconds : Nat) (ownerToken : Option String) (generated : String)
    (now : Nat) :
    Moves ExecutionWrite
      (acquireLocks requests ownerPlanId runId ttlSeconds ownerToken generated now) := by
  refine (acquireLocks_moves _ _ _ _ _ _ _).mono ?_
  rintro database _ ⟨row, _, rfl⟩
  exact .addLock database row

theorem recoverStaleLock_writes (lockId : Nat) (observation : Dict) (now : Nat) :
    Moves ExecutionWrite (recoverStaleLock lockId observation now) := by
  intro database
  obtain ⟨change, changed, _⟩ := recoverStaleLock_revises lockId observation now database
  rw [changed]
  exact .single (.mapLocks database change)

namespace MaintenanceExecutionService

variable (service : MaintenanceExecutionService)

/-- A relation admits the writes by which a plan gets its run. -/
structure AdmitsAttachment (planId : String) (writes : Database → Database → Prop) : Prop where
  runStatus : ∀ database runId, writes database (database.setRunStatus runId .running)
  start : ∀ {database after : Database} {kind target : String} {context : Dict} {runId : Nat},
    (Runs.startRun kind target context).run database = (.returned runId, after) →
      writes database after
  attach : ∀ database runId, writes database (database.attachRunId planId runId)

theorem attachRun_moves {writes : Database → Database → Prop} {plan : PlanRecord}
    (admits : AdmitsAttachment plan.id writes) (action : MaintenanceAction) :
    Moves writes (attachRun plan action) := by
  simp only [attachRun]
  split
  · refine .bind (.read _) fun found => ?_
    cases found with
    | none => exact .raise _
    | some run =>
        refine .bind (.require _ _) fun _ => ?_
        exact .bind (.update fun database => admits.runStatus database _) fun _ => .pure _
  · refine .bind (.read _) fun target => .bind ?_ fun runId => .bind ?_ fun _ => .pure runId
    · intro database
      have started := startRun_run ("maintenance-" ++ plan.operationKind.value) target
        [("maintenance_plan_id", .str plan.id),
          ("operation_kind", .str plan.operationKind.value),
          ("action", .str action.value)] database
      rw [started]
      exact .single (admits.start started)
    · refine .bind (.read _) fun attachable => .bind (.require _ _) fun _ => ?_
      exact .update fun database => admits.attach database _

theorem executionWrite_admitsAttachment (planId : String) :
    AdmitsAttachment planId ExecutionWrite where
  runStatus database runId := .runStatus database runId _
  start started := .start started
  attach database runId := .attach database planId runId

theorem prepareLocks_writes (plan : PlanRecord) (action : MaintenanceAction) (runId now : Nat)
    (generated : String) (active stale : List LockRecord) :
    Moves ExecutionWrite (prepareLocks service plan action runId now generated active stale) := by
  simp only [prepareLocks]
  split
  · split
    · exact .bind (.ofExcept _) fun requests =>
        .bind (acquireLocks_writes _ _ _ _ _ _ _) fun _ => .pure ()
    · exact .pure ()
  · exact .require _ _

theorem prepare_writes (planId : String) (action : MaintenanceAction) (now : Nat)
    (generated : String) :
    Moves ExecutionWrite (prepare service planId action now generated) := by
  refine .bind (getPlan_moves _) fun plan => .bind (.read _) fun checked => ?_
  refine .bind (.ofExcept _) fun _ => .bind (.read _) fun active => ?_
  refine .bind (.require _ _) fun _ =>
    .bind (attachRun_moves (executionWrite_admitsAttachment _) _) fun runId => ?_
  refine .bind (prepareLocks_writes service _ _ _ _ _ _ _) fun _ => ?_
  refine .bind (getPlan_moves _) fun current => ?_
  split
  · exact .bind (transitionPlan_writes _ _ _) fun _ => .pure _
  · exact .bind (.pure _) fun _ => .pure _

/-- The token of the locks that an execution takes: the one that its plan holds already, or the
one that is drawn. -/
def issuedToken (database : Database) (planId generated : String) : String :=
  if (some (firstToken (database.listActiveLocks planId))).any (· ≠ "") then
    firstToken (database.listActiveLocks planId)
  else generated

/-- The writes of `prepare` for one plan. -/
inductive IssueWrite (planId token : String) (expiresAt : Nat) : Database → Database → Prop where
  | runStatus (database : Database) (runId : Nat) (status : RunStatus) :
      IssueWrite planId token expiresAt database (database.setRunStatus runId status)
  | start {database after : Database} {kind target : String} {context : Dict} {runId : Nat}
      (started : (Runs.startRun kind target context).run database = (.returned runId, after)) :
      IssueWrite planId token expiresAt database after
  | attach (database : Database) (runId : Nat) :
      IssueWrite planId token expiresAt database (database.attachRunId planId runId)
  | lock {before after : Database} {owner : LockOwner} (onPlan : owner.planId = planId)
      (isToken : owner.token = token) (ends : owner.expiresAt = expiresAt)
      (added : AddsLockFor owner before after) :
      IssueWrite planId token expiresAt before after
  | execute (database : Database) :
      IssueWrite planId token expiresAt database (database.setLifecycleState planId .executing)

theorem issueWrite_admitsAttachment (planId token : String) (expiresAt : Nat) :
    AdmitsAttachment planId (IssueWrite planId token expiresAt) where
  runStatus database runId := .runStatus database runId _
  start started := .start started
  attach database runId := .attach database runId

theorem prepareLocks_issues (plan : PlanRecord) (action : MaintenanceAction) (runId now : Nat)
    (generated : String) (active stale : List LockRecord) :
    Moves (IssueWrite plan.id
        (if (some (firstToken active)).any (· ≠ "") then firstToken active else generated)
        (secondsAfter now service.lockTtlSeconds))
      (prepareLocks service plan action runId now generated active stale) := by
  rw [prepareLocks]
  by_cases acquires : action = .execute ∨ action = .recover
  · rw [if_pos acquires]
    by_cases fresh : stale = []
    · rw [if_pos fresh]
      refine .bind (.ofExcept _) fun requests => .bind ?_ fun _ => .pure ()
      exact (acquireLocks_adds _ _ _ _ _ _ _).mono fun _ _ added => .lock rfl rfl rfl added
    · rw [if_neg fresh]
      exact .pure ()
  · rw [if_neg acquires]
    exact .require _ _

/-- What a preparation writes. -/
theorem prepare_reaches (planId : String) (action : MaintenanceAction) (now : Nat)
    (generated : String) (database : Database) :
    Relation.ReflTransGen
      (IssueWrite planId (issuedToken database planId generated)
        (secondsAfter now service.lockTtlSeconds))
      database ((prepare service planId action now generated).run database).2 := by
  rcases (getPlan_readOnly planId).bind_cases _ database with same | ⟨plan, planRan, ran⟩
  · rw [prepare, same]
  rw [prepare, ran]
  have onPlan := getPlan_id planRan
  subst onPlan
  rcases (ReadOnly.read _).bind_cases _ database with same | ⟨checked, _, ran⟩
  · rw [same]
  rw [ran]
  rcases (ReadOnly.ofExcept checked).bind_cases _ database with same | ⟨_, _, ran⟩
  · rw [same]
  rw [ran, run_bind, run_read]
  refine Moves.bind (.require _ _) (fun _ => ?_) database
  refine .bind (attachRun_moves (issueWrite_admitsAttachment _ _ _) _) fun runId => ?_
  refine .bind (prepareLocks_issues service plan action runId now generated _ _) fun _ => ?_
  refine .bind_finding (getPlan_moves _) (fun _ _ _ found => getPlan_id found)
    fun current onPlan => ?_
  have enters : Moves (IssueWrite plan.id (issuedToken database plan.id generated)
      (secondsAfter now service.lockTtlSeconds))
      (transitionPlan current.id current.stateRevision .executing) := by
    rw [onPlan]
    exact transitionPlan_moves fun written => .execute written
  split
  · exact .bind enters fun _ => .pure _
  · exact .bind (.pure _) fun _ => .pure _

/-- An execution is prepared for a plan that is ready, and takes it into execution. -/
theorem prepare_execute_returned {service : MaintenanceExecutionService} {planId : String}
    {now : Nat} {generated : String} {database after : Database} {ticket : MaintenanceActionTicket}
    (ran : (prepare service planId .execute now generated).run database =
      (.returned ticket, after)) :
    (∃ plan, database.plan? planId = some plan ∧ plan.lifecycleState = .ready) ∧
      ∃ plan, after.plan? planId = some plan ∧ plan.lifecycleState = .executing := by
  obtain ⟨plan, _, planRan, afterPlan⟩ := bind_eq_returned ran
  obtain ⟨isPlan, isSame⟩ := getPlan_returned planRan
  have onPlan := getPlan_id planRan
  obtain ⟨checked, _, wasRead, afterRead⟩ := bind_eq_returned afterPlan
  cases wasRead
  obtain ⟨_, _, passed, afterPassed⟩ := bind_eq_returned afterRead
  have isReady : plan.lifecycleState = .ready := by
    have isOk := (ofExcept_eq_returned passed).1
    simp only [validate, validateLifecycle, check] at isOk
    by_contra other
    rw [if_neg (by simpa [MaintenanceAction.states] using other)] at isOk
    cases isOk
  obtain ⟨_, _, _, afterActive⟩ := bind_eq_returned afterPassed
  obtain ⟨_, _, _, afterStale⟩ := bind_eq_returned afterActive
  obtain ⟨runId, _, _, afterRun⟩ := bind_eq_returned afterStale
  obtain ⟨_, _, _, afterLocks⟩ := bind_eq_returned afterRun
  obtain ⟨current, _, currentRan, afterCurrent⟩ := bind_eq_returned afterLocks
  have isCurrent := getPlan_id currentRan
  have executes : MaintenanceAction.execute.executes = true := rfl
  simp only [executes, if_true] at afterCurrent
  obtain ⟨entered, _, enteredRan, ended⟩ := bind_eq_returned afterCurrent
  cases ended
  obtain ⟨_, _, _, _, isEntered, rfl⟩ := transitionPlan_returned enteredRan
  rw [isCurrent, onPlan] at isEntered
  exact ⟨⟨plan, isPlan, isReady⟩, _, isEntered, rfl⟩

theorem recoverEach_writes (result : AdapterResult) (now : Nat) (locks : List LockRecord) :
    Moves ExecutionWrite (recoverEach result now locks) := by
  induction locks with
  | nil => exact .pure ()
  | cons lock locks ih => exact .bind (recoverStaleLock_writes _ _ _) fun _ => ih

theorem recoverStaleLocks_writes (plan : PlanRecord) (ticket : MaintenanceActionTicket)
    (result : AdapterResult) (now : Nat) (generated : String) :
    Moves ExecutionWrite (recoverStaleLocks service plan ticket result now generated) := by
  refine .bind (.read _) fun stale => .bind (.require _ _) fun _ => ?_
  refine .bind (recoverEach_writes _ _ _) fun _ => ?_
  split
  · exact .pure ()
  · exact .bind (.read _) fun remaining => .bind (.ofExcept _) fun requests =>
      .bind (acquireLocks_writes _ _ _ _ _ _ _) fun _ => .pure ()

/-- A relation admits the writes of an execution that ends. -/
structure AdmitsFinish (writes : Database → Database → Prop) : Prop where
  lifecycle : ∀ database planId target, target ≠ .ready →
    writes database (database.setLifecycleState planId target)
  runStatus : ∀ database runId status, writes database (database.setRunStatus runId status)
  release : ∀ database ownerToken now, writes database (database.mapLocks fun lock =>
    if lock.heldWith ownerToken then { lock with releasedAt := some now } else lock)

theorem executionWrite_admitsFinish : AdmitsFinish ExecutionWrite where
  lifecycle database planId target _ := .lifecycle database planId target
  runStatus database runId status := .runStatus database runId status
  release database _ _ := .mapLocks database _

section Finish

variable {writes : Database → Database → Prop}

/-- An action does not make its plan ready again. -/
theorem resultState_ne_ready {action : MaintenanceAction} {result : AdapterResult}
    {target : Option MaintenanceState} (isTarget : resultState action result = .ok target) :
    target ≠ some .ready := by
  simp only [resultState] at isTarget
  split at isTarget
  · rename_i listed
    cases isTarget
    rintro isReady
    rw [isReady] at listed
    cases action <;> simp [MaintenanceAction.resultStates] at listed
  · cases isTarget

theorem applyResult_moves (admits : AdmitsFinish writes) (plan : PlanRecord)
    {target : Option MaintenanceState} (unready : target ≠ some .ready) :
    Moves writes (applyResult plan target) := by
  have transitions (planId : String) (revision : Nat) {state : MaintenanceState}
      (other : state ≠ .ready) : Moves writes (transitionPlan planId revision state) :=
    transitionPlan_moves fun database => admits.lifecycle database planId state other
  simp only [applyResult]
  split
  · exact .pure _
  · rename_i state
    have other : state ≠ .ready := fun same => unready (by rw [same])
    split
    · exact .pure _
    · simp only [transitionForResult]
      split
      · exact .bind (transitions _ _ (by decide)) fun _ => transitions _ _ other
      · exact transitions _ _ other

theorem releaseLocks_moves
    (releases : ∀ database ownerToken now, writes database (database.mapLocks fun lock =>
      if lock.heldWith ownerToken then { lock with releasedAt := some now } else lock))
    (ownerToken : String) (now : Nat) : Moves writes (releaseLocks ownerToken now) := by
  refine .bind (.bind (.read _) fun held => .bind (.require _ _) fun _ => .require _ _) fun _ => ?_
  refine .bind (.read _) fun released => ?_
  exact .bind (.update fun database => releases database ownerToken now) fun _ => .pure _

theorem releaseActiveLocks_moves
    (releases : ∀ database ownerToken now, writes database (database.mapLocks fun lock =>
      if lock.heldWith ownerToken then { lock with releasedAt := some now } else lock))
    (planId : String) (now : Nat) : Moves writes (releaseActiveLocks planId now) := by
  refine .bind (.read _) fun active => ?_
  split
  · exact .pure ()
  · exact .bind (.require _ _) fun _ => .bind (releaseLocks_moves releases _ _) fun _ => .pure ()

/-- `finalize` after the recovery of stale locks. -/
theorem finish_moves (admits : AdmitsFinish writes) (ticket : MaintenanceActionTicket)
    (result : AdapterResult) (now : Nat) :
    Moves writes (do
      let plan ← getPlan ticket.planId
      let target ← ofExcept (resultState ticket.action result)
      let reached ← applyResult plan target
      if terminal reached.lifecycleState then
        releaseActiveLocks reached.id now
      update (Database.setRunStatus ticket.runId (runStatus reached.lifecycleState))
      getPlan reached.id) := by
  refine .bind (getPlan_moves _) fun plan => ?_
  refine .bind_finding (.ofExcept _) (fun _ _ _ ran =>
    resultState_ne_ready (ofExcept_eq_returned ran).1) fun target unready => ?_
  refine .bind (applyResult_moves admits _ unready) fun reached => ?_
  have closes : Moves writes (do
      update (Database.setRunStatus ticket.runId (runStatus reached.lifecycleState))
      getPlan reached.id) :=
    .bind (.update fun database => admits.runStatus database _ _) fun _ => getPlan_moves _
  dsimp only
  split
  · exact .bind (releaseActiveLocks_moves admits.release _ _) fun _ => closes
  · exact closes

/-- The end of an execution, which recovers no stale locks. -/
theorem finalize_execute_moves (admits : AdmitsFinish writes) {ticket : MaintenanceActionTicket}
    (executes : ticket.action = .execute) (result : AdapterResult) (now : Nat)
    (generated : String) : Moves writes (finalize service ticket result now generated) := by
  refine .bind (getPlan_moves _) fun found => .bind (.ofExcept _) fun _ => ?_
  dsimp only
  split
  · rename_i recovers
    rw [executes] at recovers
    cases recovers
  · exact finish_moves admits ticket result now

end Finish

/-- An execution that ends well leaves its plan succeeded. -/
theorem finalize_succeeded {service : MaintenanceExecutionService}
    {ticket : MaintenanceActionTicket} (executes : ticket.action = .execute) {now : Nat}
    {generated : String} {ended : PlanRecord} {database after : Database}
    (ran : (finalize service ticket ⟨some .succeeded, []⟩ now generated).run database =
      (.returned ended, after)) :
    ∃ plan, after.plan? ticket.planId = some plan ∧ plan.lifecycleState = .succeeded := by
  obtain ⟨found, _, foundRan, afterFound⟩ := bind_eq_returned ran
  obtain ⟨_, rfl⟩ := getPlan_returned foundRan
  obtain ⟨_, _, validRan, afterValid⟩ := bind_eq_returned afterFound
  obtain ⟨_, rfl⟩ := ofExcept_eq_returned validRan
  have executing : (MaintenanceAction.execute = .recover) = False := by simp
  simp only [executes, executing, if_false] at afterValid
  obtain ⟨plan, _, planRan, afterPlan⟩ := bind_eq_returned afterValid
  obtain ⟨isPlan, rfl⟩ := getPlan_returned planRan
  have onPlan := getPlan_id planRan
  obtain ⟨target, _, targetRan, afterTarget⟩ := bind_eq_returned afterPlan
  obtain ⟨isTarget, rfl⟩ := ofExcept_eq_returned targetRan
  obtain rfl : some MaintenanceState.succeeded = target := by
    simpa [resultState, MaintenanceAction.resultStates] using isTarget
  obtain ⟨reached, applied, appliedRan, afterApplied⟩ := bind_eq_returned afterTarget
  have isReached : applied.plan? ticket.planId = some reached ∧
      reached.lifecycleState = .succeeded := by
    simp only [applyResult] at appliedRan
    split at appliedRan
    · rename_i isSucceeded
      cases appliedRan
      exact ⟨isPlan, isSucceeded.symm⟩
    · simp only [transitionForResult, reduceCtorEq, false_and, if_false] at appliedRan
      obtain ⟨_, _, _, _, stored, rfl⟩ := transitionPlan_returned appliedRan
      rw [onPlan] at stored
      exact ⟨stored, rfl⟩
  -- The release of the locks and the status of the run leave the plans alone.
  have closes : Moves (fun before after : Database => after.plans = before.plans) (do
      releaseActiveLocks reached.id now
      update (Database.setRunStatus ticket.runId (runStatus .succeeded))
      getPlan reached.id) := by
    refine .bind (releaseActiveLocks_moves (fun _ _ _ => rfl) _ _) fun _ => ?_
    exact .bind (.update fun _ => rfl) fun _ => getPlan_moves _
  have unchanged : applied.plans = applied.plans := rfl
  have kept := closes.keeps (fun _ _ same known => same.trans known) unchanged
  simp only [isReached.2, terminal, if_true] at afterApplied
  rw [afterApplied] at kept
  exact ⟨reached, by rw [Database.plan?, kept]; exact isReached.1, isReached.2⟩

theorem finalize_writes (ticket : MaintenanceActionTicket) (result : AdapterResult) (now : Nat)
    (generated : String) :
    Moves ExecutionWrite (finalize service ticket result now generated) := by
  have ends := finish_moves executionWrite_admitsFinish ticket result now
  refine .bind (getPlan_moves _) fun found => .bind (.ofExcept _) fun _ => ?_
  dsimp only
  split
  · exact .bind (recoverStaleLocks_writes service _ _ _ _ _) fun _ => ends
  · exact ends

/-- A failed execution is in recovery, or blocked. -/
theorem failedState_cases {state target : MaintenanceState}
    (isTarget : failedState state = some target) :
    target = .recoveryRequired ∨ target = .blocked := by
  cases state <;> simp_all [failedState]

theorem fail_moves {writes : Database → Database → Prop}
    (lifecycle : ∀ database planId target, target = .recoveryRequired ∨ target = .blocked →
      writes database (database.setLifecycleState planId target))
    (runStatus : ∀ database runId, writes database (database.setRunStatus runId .recoveryRequired))
    (ticket : MaintenanceActionTicket) : Moves writes (fail service ticket) := by
  have closes (planId : String) : Moves writes (do
      update (Database.setRunStatus ticket.runId .recoveryRequired)
      getPlan planId) :=
    .bind (.update fun database => runStatus database _) fun _ => getPlan_moves _
  refine .bind (getPlan_moves _) fun plan => .bind (.ofExcept _) fun _ => ?_
  split
  · exact closes _
  · rename_i target isTarget
    have failed := failedState_cases isTarget
    exact .bind (transitionPlan_moves fun database => lifecycle database _ _ failed)
      fun _ => closes _

end MaintenanceExecutionService

end ElKeeper
