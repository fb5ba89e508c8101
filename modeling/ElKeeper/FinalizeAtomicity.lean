import ElKeeper.ReportedResults

/-!
# Results that are finalized

After the recovery of expired locks a result closes its plan, then the locks are released, and
then the run is closed.  A step that is rejected after the first write leaves the rows between
two states.
-/

namespace ElKeeper

open Program MaintenanceStore MaintenanceExecutionService

namespace MaintenanceExecutionService

/-! ### Ends of plans -/

/-- The state that a result leads to. -/
def reachedState (plan : PlanRecord) (target : Option MaintenanceState) : MaintenanceState :=
  target.getD plan.lifecycleState

/-- A plan may be left as it is, or moved along its transitions; an executing one is cancelled
by way of a pause. -/
def Follows (plan : PlanRecord) (target : Option MaintenanceState) : Prop :=
  ∀ state, target = some state → state = plan.lifecycleState ∨
    state ∈ plan.lifecycleState.transitions ∨
      state = .cancelled ∧ plan.lifecycleState = .executing

section Ends

variable {database : Database} {plan : PlanRecord} {target : Option MaintenanceState} {now : Nat}

/-- Active states are reached from active ones, but for readiness. -/
theorem active_of_transition {current next : MaintenanceState}
    (allowed : next ∈ current.transitions) (isActive : next.active = true) (other : next ≠ .ready) :
    current.active = true := by
  cases current <;> cases next <;> first | rfl | (revert allowed isActive other; decide)

theorem state_ne_ready {result : ReportedResult} {action : MaintenanceAction}
    (reported : result.state action = .ok target) : target ≠ some .ready := by
  simp only [ReportedResult.state] at reported
  split at reported
  · exact resultState_ne_ready reported
  · split at reported
    · exact resultState_ne_ready reported
    · cases reported

/-- A transition along the lifecycle goes through. -/
theorem transitionPlan_goes {next : MaintenanceState}
    (apart : ∀ plan ∈ database.plans, plan.lifecycleState.active = true →
      overlaps database plan = false)
    (isPlan : database.plan? plan.id = some plan)
    (allowed : next ∈ plan.lifecycleState.transitions) (other : next ≠ .ready) :
    (transitionPlan plan.id plan.stateRevision next).run database =
      (.returned { plan with
          lifecycleState := next
          stateRevision := plan.stateRevision + 1 },
        database.setLifecycleState plan.id next) := by
  have free : (next.active && overlaps database plan) = false := by
    rw [Bool.and_eq_false_imp]
    intro isActive
    exact apart plan (List.mem_of_find?_eq_some isPlan)
      (active_of_transition allowed isActive other)
  exact transitionPlan_run isPlan free allowed

/-- A plan in another state is another row. -/
theorem not_sameRows_of_state {after : Database} {reached : PlanRecord}
    (isPlan : database.plan? plan.id = some plan) (isReached : after.plan? plan.id = some reached)
    (moved : reached.lifecycleState ≠ plan.lifecycleState) : ¬ SameRows database after := by
  intro same
  have found : after.plan? plan.id = database.plan? plan.id := by
    simp only [Database.plan?, same.plans]
  rw [isPlan, isReached, Option.some.injEq] at found
  exact moved (congrArg PlanRecord.lifecycleState found)

/-- How a plan is moved, or not. -/
theorem applyResult_decided
    (apart : ∀ plan ∈ database.plans, plan.lifecycleState.active = true →
      overlaps database plan = false)
    (isPlan : database.plan? plan.id = some plan) (other : target ≠ some .ready) :
    (Follows plan target ∧ ∃ reached after,
      (applyResult plan target).run database = (.returned reached, after) ∧
        after.plan? plan.id = some reached ∧ reached.id = plan.id ∧
        reached.lifecycleState = reachedState plan target ∧
        after.locks = database.locks ∧ after.runs = database.runs ∧
        (SameRows database after ↔ reachedState plan target = plan.lifecycleState)) ∨
    (¬ Follows plan target ∧ Refuses (applyResult plan target) database) := by
  cases target with
  | none =>
      refine .inl ⟨fun state isState => (nomatch isState), plan, database, rfl, isPlan, rfl, rfl,
        rfl, rfl, iff_of_true (.refl database) rfl⟩
  | some state =>
      have unready : state ≠ .ready := fun same => other (by rw [same])
      by_cases stays : state = plan.lifecycleState
      · have ran : (applyResult plan (some state)).run database =
            (.returned plan, database) := by
          rw [applyResult, if_pos stays]
          rfl
        refine .inl ⟨fun next isNext => ?_, plan, database, ran, isPlan, rfl, stays.symm, rfl, rfl,
          iff_of_true (.refl database) stays⟩
        rw [Option.some.injEq] at isNext
        exact .inl (isNext.symm.trans stays)
      · by_cases cancels : state = .cancelled ∧ plan.lifecycleState = .executing
        · obtain ⟨rfl, isExecuting⟩ := cancels
          have pauses : MaintenanceState.paused ∈ plan.lifecycleState.transitions := by
            rw [isExecuting]
            decide
          have first := transitionPlan_goes apart isPlan pauses (by decide)
          have isPaused := plan?_setLifecycleState database plan.id .paused
          rw [isPlan, Option.map_some] at isPaused
          have cancels : MaintenanceState.cancelled ∈ MaintenanceState.paused.transitions := by
            decide
          have second := transitionPlan_run isPaused rfl cancels
          have isCancelled := plan?_setLifecycleState
            (database.setLifecycleState plan.id .paused) plan.id .cancelled
          rw [isPaused, Option.map_some] at isCancelled
          refine .inl ⟨fun next isNext => ?_, _, _, ?_, isCancelled, rfl, rfl, rfl, rfl,
            iff_of_false (not_sameRows_of_state isPlan isCancelled fun same => ?_) fun same => ?_⟩
          · rw [Option.some.injEq] at isNext
            exact .inr (.inr ⟨isNext.symm, isExecuting⟩)
          · rw [applyResult, if_neg stays, transitionForResult, if_pos ⟨rfl, isExecuting⟩, run_bind,
              first]
            exact second
          · exact stays same
          · exact stays same
        · have single : applyResult plan (some state) =
              transitionPlan plan.id plan.stateRevision state := by
            rw [applyResult, if_neg stays, transitionForResult, if_neg cancels]
          rw [single]
          by_cases allowed : state ∈ plan.lifecycleState.transitions
          · have ran := transitionPlan_goes apart isPlan allowed unready
            have isReached := plan?_setLifecycleState database plan.id state
            rw [isPlan, Option.map_some] at isReached
            refine .inl ⟨fun next isNext => ?_, _, _, ran, isReached, rfl, rfl, rfl, rfl,
              iff_of_false (not_sameRows_of_state isPlan isReached stays) stays⟩
            rw [Option.some.injEq] at isNext
            exact .inr (.inl (isNext ▸ allowed))
          · refine .inr ⟨fun follows => ?_, transitionPlan_refused isPlan allowed⟩
            rcases follows state rfl with same | listed | ends
            · exact stays same
            · exact allowed listed
            · exact cancels ends

/-- The locks of a plan are released unless an expired one stands in the way. -/
theorem releaseActiveLocks_decided {planId : String}
    (unheld : database.listActiveLocks planId = [] → Releasable database planId now) :
    (Releasable database planId now ∧ ∃ after,
      (releaseActiveLocks planId now).run database = (.returned (), after) ∧
        after.plans = database.plans ∧ after.runs = database.runs ∧
        (after.locks = database.locks ↔ database.listActiveLocks planId = []) ∧
        ∀ spent : LockRecord, spent.releasedAt = none → spent ∉ database.locks →
          spent ∉ after.locks) ∨
    (¬ Releasable database planId now ∧ Refuses (releaseActiveLocks planId now) database) := by
  cases listed : database.listActiveLocks planId with
  | nil =>
      refine .inl ⟨unheld listed, database, ?_, rfl, rfl, iff_of_true rfl rfl,
        fun _ _ absent => absent⟩
      simp only [releaseActiveLocks, run_bind, run_read, listed, if_true, run_pure]
  | cons first others =>
      have isListed : first ∈ database.locks ∧ first.releasedAt = none ∧
          first.ownerPlanId = planId :=
        mem_listActiveLocks.mp (by rw [listed]; exact List.mem_cons_self)
      have isFirst : firstToken (first :: others) = first.ownerToken := rfl
      have heldFirst : first.heldWith first.ownerToken = true := by
        simp [LockRecord.heldWith, LockRecord.active, isListed.2.1]
      have member : first ∈ database.locks.filter (·.heldWith first.ownerToken) :=
        List.mem_filter.mpr ⟨isListed.1, heldFirst⟩
      have releasable : Releasable database planId now ↔
          (!(first :: others).any (·.expired now)) = true ∧
            (!(database.locks.filter (·.heldWith first.ownerToken)).any (·.expired now)) =
              true := by
        simp only [Releasable, listed, isFirst, Bool.not_eq_true', List.any_eq_false,
          Bool.not_eq_true, List.mem_filter, LockRecord.heldWith, LockRecord.active,
          Bool.and_eq_true, decide_eq_true_eq]
        constructor
        · refine fun all => ⟨fun lock isLock => ?_, fun lock isLock => ?_⟩
          · rw [← listed, mem_listActiveLocks] at isLock
            exact all lock isLock.1 isLock.2.1 (.inl isLock.2.2)
          · exact all lock isLock.1 isLock.2.2 (.inr isLock.2.1)
        · rintro ⟨ofPlan, ofToken⟩ lock isLock isActive (onPlan | onToken)
          · refine ofPlan lock ?_
            rw [← listed, mem_listActiveLocks]
            exact ⟨isLock, isActive, onPlan⟩
          · exact ofToken lock ⟨isLock, onToken, isActive⟩
      have whole : (releaseActiveLocks planId now).run database =
          (do
            require (!(first :: others).any (·.expired now))
              (validation "Expired maintenance locks require rediscovery evidence before release")
            let _ ← releaseLocks first.ownerToken now
            pure () : Operation Unit).run database := by
        simp only [releaseActiveLocks, run_bind, run_read, listed, reduceCtorEq, if_false, isFirst]
      by_cases ofPlan : (!(first :: others).any (·.expired now)) = true
      · by_cases ofToken : (!(database.locks.filter (·.heldWith first.ownerToken)).any
            (·.expired now)) = true
        · have released (lock : LockRecord) :
              (if lock.heldWith first.ownerToken = true then
                  { lock with releasedAt := some now } else lock) = lock ∨
                (if lock.heldWith first.ownerToken = true then
                  { lock with releasedAt := some now } else lock).releasedAt ≠ none := by
            split
            · exact .inr (by simp)
            · exact .inl rfl
          refine .inl ⟨releasable.mpr ⟨ofPlan, ofToken⟩, database.mapLocks fun lock =>
            if lock.heldWith first.ownerToken then { lock with releasedAt := some now } else lock,
            ?_, rfl, rfl, iff_of_false (fun same => ?_) (by simp), fun spent isActive absent =>
              not_mem_mapLocks isActive absent released⟩
          · have nonempty := List.ne_nil_of_mem member
            rw [whole]
            simp only [run_bind, run_require, ofPlan, if_true, releaseLocks, requireHeld, run_read,
              ne_eq, nonempty, not_false_eq_true, decide_true, ofToken, run_update, run_pure]
          · have kept := List.map_inj_left.mp (same.trans (List.map_id _).symm) first isListed.1
            rw [if_pos heldFirst] at kept
            have unreleased := congrArg LockRecord.releasedAt kept
            rw [id, isListed.2.1] at unreleased
            cases unreleased
        · refine .inr ⟨fun both => ofToken (releasable.mp both).2, ?_⟩
          have nonempty := List.ne_nil_of_mem member
          have ran : (releaseActiveLocks planId now).run database =
              (.raised ⟨.staleLockRequiresRecovery,
                "An expired maintenance lock requires rediscovery before release"⟩, database) := by
            rw [whole]
            simp only [run_bind, run_require, ofPlan, if_true, releaseLocks, requireHeld, run_read,
              ne_eq, nonempty, not_false_eq_true, decide_true, ofToken, Bool.false_eq_true,
              if_false]
            rfl
          exact ⟨_, ran⟩
      · refine .inr ⟨fun both => ofPlan (releasable.mp both).1, ?_⟩
        have ran : (releaseActiveLocks planId now).run database =
            (.raised (validation
              "Expired maintenance locks require rediscovery evidence before release"),
                database) := by
          rw [whole]
          simp only [run_bind, run_require, ofPlan, Bool.false_eq_true, if_false]
        exact ⟨_, ran⟩

/-- A step that raises has changed the locks at most, and brought none back. -/
structure Spoiled (before after : Database) (changed : Prop) : Prop where
  plans : after.plans = before.plans
  runs : after.runs = before.runs
  locks : after.locks = before.locks ↔ ¬ changed
  spent : ∀ spent : LockRecord, spent.releasedAt = none → spent ∉ before.locks →
    spent ∉ after.locks

/-- What `finalize` does once a plan has reached its state. -/
def closeReached (runId : Nat) (reached : PlanRecord) (now : Nat) (closing : Except Fault Nat) :
    Operation PlanRecord := do
  if terminal reached.lifecycleState then
    releaseActiveLocks reached.id now
  updateRun runId reached.lifecycleState closing
  getPlan reached.id

/-- A plan that has reached its state is closed, or the step raises over its locks or over the
clock. -/
theorem closeReached_cases {runId : Nat} {reached : PlanRecord} {closing : Except Fault Nat}
    (isReached : database.plan? reached.id = some reached)
    (unheld : database.listActiveLocks reached.id = [] → Releasable database reached.id now) :
    ((terminal reached.lifecycleState = true → Releasable database reached.id now ∧
        ∃ reading, closing = .ok reading) ∧
      Returns (closeReached runId reached now closing) database) ∨
    (¬ (terminal reached.lifecycleState = true → Releasable database reached.id now ∧
        ∃ reading, closing = .ok reading) ∧
      ∃ error after, (closeReached runId reached now closing).run database =
          (.raised error, after) ∧
        Spoiled database after
          (database.listActiveLocks reached.id ≠ [] ∧ Releasable database reached.id now)) := by
  by_cases isTerminal : terminal reached.lifecycleState = true
  · have whole : closeReached runId reached now closing =
        (do
          releaseActiveLocks reached.id now
          updateRun runId reached.lifecycleState closing
          getPlan reached.id) := by
      rw [closeReached, if_pos isTerminal]
    rw [whole]
    rcases releaseActiveLocks_decided unheld with
      ⟨releasable, after, ran, samePlans, sameRuns, sameLocks, spent⟩ | ⟨blocked, error, raised⟩
    · have isFound : after.plan? reached.id = some reached := by
        simp only [Database.plan?, samePlans]
        exact isReached
      cases closing with
      | ok reading =>
          have timed : terminal reached.lifecycleState = true →
              ∃ other, (.ok reading : Except Fault Nat) = .ok other := fun _ => ⟨reading, rfl⟩
          have updated := updateRun_returns after runId timed
          have isKept : (after.setRunStatus runId (runStatus reached.lifecycleState)).plan?
              reached.id = some reached := isFound
          exact .inl ⟨fun _ => ⟨releasable, reading, rfl⟩,
            .bind ran (.bind updated ⟨_, _, getPlan_run isKept⟩)⟩
      | error error =>
          refine .inr ⟨fun closes => ?_, error, after, ?_, samePlans, sameRuns, ?_, spent⟩
          · obtain ⟨_, reading, isReading⟩ := closes isTerminal
            cases isReading
          · simp only [run_bind, ran, updateRun_raises isTerminal]
          · rw [sameLocks]
            simp only [releasable, and_true, ne_eq, not_not]
    · refine .inr ⟨fun closes => blocked (closes isTerminal).1, error, database, ?_, rfl, rfl,
        iff_of_true rfl fun both => blocked both.2, fun _ _ absent => absent⟩
      simp only [run_bind, raised]
  · have whole : closeReached runId reached now closing =
        (do
          updateRun runId reached.lifecycleState closing
          getPlan reached.id) := by
      rw [closeReached, if_neg isTerminal]
    rw [whole]
    have timed : terminal reached.lifecycleState = true → ∃ reading, closing = .ok reading :=
      fun isEnd => absurd isEnd isTerminal
    have updated := updateRun_returns database runId timed
    have isKept : (database.setRunStatus runId (runStatus reached.lifecycleState)).plan?
        reached.id = some reached := isReached
    exact .inl ⟨fun isEnd => absurd isEnd isTerminal, .bind updated ⟨_, _, getPlan_run isKept⟩⟩

/-- A result carries a plan to an end without a step that raises. -/
def Ends (result : ReportedResult) (action : MaintenanceAction) (closing : Except Fault Nat)
    (plan : PlanRecord) (releasable : Prop) : Prop :=
  ∃ target, result.state action = .ok target ∧ Follows plan target ∧
    (terminal (reachedState plan target) = true → releasable ∧ ∃ reading, closing = .ok reading)

/-- A result that writes nothing before the step that raises: the plan is in its state already,
and its locks cannot be released or are not there. -/
def Harmless (result : ReportedResult) (action : MaintenanceAction) (database : Database)
    (plan : PlanRecord) (now : Nat) : Prop :=
  ∀ target, result.state action = .ok target → Follows plan target →
    reachedState plan target = plan.lifecycleState ∧
      (database.listActiveLocks plan.id = [] ∨ ¬ Releasable database plan.id now)

/-- How `finalize` ends after the recovery of expired locks. -/
theorem concludeReported_cases {ticket : MaintenanceActionTicket} {result : ReportedResult}
    {closing : Except Fault Nat}
    (apart : ∀ plan ∈ database.plans, plan.lifecycleState.active = true →
      overlaps database plan = false)
    (isPlan : database.plan? plan.id = some plan) (onPlan : plan.id = ticket.planId)
    (unheld : database.listActiveLocks plan.id = [] → Releasable database plan.id now) :
    (Ends result ticket.action closing plan (Releasable database plan.id now) ∧
      Returns (concludeReported ticket result now closing) database) ∨
    (¬ Ends result ticket.action closing plan (Releasable database plan.id now) ∧
      ∃ error after, (concludeReported ticket result now closing).run database =
          (.raised error, after) ∧
        (∀ spent : LockRecord, spent.releasedAt = none → spent ∉ database.locks →
          spent ∉ after.locks) ∧
        (SameRows database after ↔ Harmless result ticket.action database plan now)) := by
  have found := getPlan_run isPlan
  rw [onPlan] at found
  cases reported : result.state ticket.action with
  | error error =>
      refine .inr ⟨?_, error, database, ?_, fun _ _ absent => absent,
        iff_of_true (.refl database) ?_⟩
      · rintro ⟨target, isOk, _⟩
        rw [reported] at isOk
        cases isOk
      · simp only [concludeReported, run_bind, found, reported, Program.ofExcept, run_raise]
      · intro target isOk
        rw [reported] at isOk
        cases isOk
  | ok target =>
      have ends : Ends result ticket.action closing plan (Releasable database plan.id now) ↔
          Follows plan target ∧ (terminal (reachedState plan target) = true →
            Releasable database plan.id now ∧ ∃ reading, closing = .ok reading) := by
        simp only [Ends, reported, Except.ok.injEq, exists_eq_left']
      have harmless : Harmless result ticket.action database plan now ↔
          (Follows plan target → reachedState plan target = plan.lifecycleState ∧
            (database.listActiveLocks plan.id = [] ∨ ¬ Releasable database plan.id now)) := by
        simp only [Harmless, reported, Except.ok.injEq, forall_eq']
      rw [ends, harmless]
      rcases applyResult_decided apart isPlan (state_ne_ready reported) with
        ⟨follows, reached, middle, moved, isReached, sameId, isState, sameLocks, sameRuns,
          sameRows⟩ | ⟨strays, error, raised⟩
      · have listed (planId : String) :
            middle.listActiveLocks planId = database.listActiveLocks planId := by
          simp only [Database.listActiveLocks, Database.activeLocks, sameLocks]
        have releasable (planId : String) :
            Releasable middle planId now ↔ Releasable database planId now := by
          simp only [Releasable, sameLocks, listed]
        have whole : (concludeReported ticket result now closing).run database =
            (closeReached ticket.runId reached now closing).run middle := by
          simp only [concludeReported, run_bind, found, reported, Program.ofExcept, run_pure, moved]
          rfl
        have isFound : middle.plan? reached.id = some reached := by rw [sameId, isReached]
        have isUnheld : middle.listActiveLocks reached.id = [] →
            Releasable middle reached.id now := by
          rw [sameId, listed, releasable]
          exact unheld
        rcases closeReached_cases isFound isUnheld with
          ⟨closes, value, after, returned⟩ | ⟨blocked, error, after, raised, spoiled⟩
        · rw [sameId, isState, releasable] at closes
          exact .inl ⟨⟨follows, closes⟩, value, after, whole.trans returned⟩
        · rw [sameId, isState, releasable] at blocked
          refine .inr ⟨fun both => blocked both.2, error, after, whole.trans raised,
            fun spent isActive absent =>
              spoiled.spent spent isActive (by rw [sameLocks]; exact absent),
            ?_⟩
          have afterLocks := spoiled.locks
          rw [sameId, listed, releasable, sameLocks, not_and_or, ne_eq, not_not] at afterLocks
          have rows : SameRows database after ↔
              SameRows database middle ∧ after.locks = database.locks := by
            constructor
            · exact fun same => ⟨⟨spoiled.plans ▸ same.plans, sameLocks, sameRuns⟩, same.locks⟩
            · exact fun both => ⟨spoiled.plans.trans both.1.plans, both.2,
                spoiled.runs.trans both.1.runs⟩
          rw [rows, sameRows, afterLocks]
          exact ⟨fun both _ => both, fun given => given follows⟩
      · refine .inr ⟨fun both => strays both.1, error, database, ?_, fun _ _ absent => absent,
          iff_of_true (.refl database) fun follows => absurd follows strays⟩
        simp only [concludeReported, run_bind, found, reported, Program.ofExcept, run_pure, raised]

end Ends

/-! ### Whole results -/

/-- A recovery that gives up no lock, or goes through to its end. -/
def RecoversWhole (service : MaintenanceExecutionService) (ticket : MaintenanceActionTicket)
    (result : ReportedResult) (closing : Except Fault Nat) (generated : String)
    (database : Database) (plan : PlanRecord) (now : Nat) : Prop :=
  (¬ ∀ lock ∈ staleLocks database plan.id now, (result.evidenceFor lock).isSome = true) ∨
    (∃ first, (staleLocks database plan.id now).head? = some first ∧ ¬ Writable result first) ∨
    ((∀ lock ∈ staleLocks database plan.id now, Writable result lock) ∧
      Relockable service database plan now generated ∧
      Ends result ticket.action closing plan
        (∀ lock ∈ database.locks, lock.releasedAt = none →
          lock.ownerToken = reissueToken database plan.id now generated →
            lock.expired now = true → lock.ownerPlanId = plan.id))

/-- A result that is finalized to its end, or writes nothing before it is rejected. -/
def FinalizesWhole (service : MaintenanceExecutionService) (ticket : MaintenanceActionTicket)
    (result : ReportedResult) (readings : ClockReadings) (generated : String)
    (database : Database) : Prop :=
  ∀ plan now, database.plan? ticket.planId = some plan →
    service.validateTicket plan ticket false = .ok () → readings.opening = .ok now →
      if ticket.action = .recover ∧ staleLocks database plan.id now ≠ [] then
        RecoversWhole service ticket result readings.closing generated database plan now
      else
        Ends result ticket.action readings.closing plan (Releasable database plan.id now) ∨
          Harmless result ticket.action database plan now

section Whole

variable {service : MaintenanceExecutionService} {database : Database} {plan : PlanRecord}
  {ticket : MaintenanceActionTicket} {result : ReportedResult} {now : Nat} {generated : String}
  {closing : Except Fault Nat}

/-- Without locks of a plan there is none in the way of their release. -/
theorem releasable_of_unheld (constrained : Constrained database) {planId : String}
    (unheld : database.listActiveLocks planId = []) : Releasable database planId now := by
  intro lock isLock isActive covered
  rcases covered with onPlan | onToken
  · have member := mem_listActiveLocks.mpr ⟨isLock, isActive, onPlan⟩
    rw [unheld] at member
    cases member
  · rw [unheld] at onToken
    exact absurd onToken (constrained.tokens lock isLock)

/-- The run of a valid ticket exists. -/
theorem ticket_run (constrained : Constrained database)
    (isPlan : database.plan? ticket.planId = some plan)
    (valid : service.validateTicket plan ticket false = .ok ()) :
    (database.run? ticket.runId).isSome = true := by
  have attached : plan.runId = some ticket.runId := by
    simp only [validateTicket, check] at valid
    by_contra other
    rw [if_neg (by simp [other])] at valid
    cases valid
  exact constrained.plan_runs plan (List.mem_of_find?_eq_some isPlan) ticket.runId attached

theorem concludeReported_atomic_iff (constrained : Constrained database)
    (isPlan : database.plan? plan.id = some plan) (onPlan : plan.id = ticket.planId) :
    Atomic (concludeReported ticket result now closing) database ↔
      Ends result ticket.action closing plan (Releasable database plan.id now) ∨
        Harmless result ticket.action database plan now := by
  rcases concludeReported_cases constrained.apart isPlan onPlan (releasable_of_unheld constrained)
    with ⟨ends, returns⟩ | ⟨fails, error, after, raised, _, sameRows⟩
  · exact iff_of_true returns.atomic (.inl ends)
  · constructor
    · exact fun atomic => .inr (sameRows.mp (atomic error after raised))
    · rintro (ends | harmless) other final ran
      · exact absurd ends fails
      · have same := raised.symm.trans ran
        cases same
        exact sameRows.mpr harmless

/-- With expired locks, everything that follows the first one given up has to succeed. -/
theorem recovered_atomic_iff (constrained : Constrained database)
    (isPlan : database.plan? plan.id = some plan) (onPlan : plan.id = ticket.planId)
    (isRun : (database.run? ticket.runId).isSome = true)
    (nonempty : staleLocks database plan.id now ≠ []) :
    Atomic (do
        recoverReportedLocks service plan ticket result now generated
        concludeReported ticket result now closing) database ↔
      RecoversWhole service ticket result closing generated database plan now := by
  have hasPlan : (database.plan? plan.id).isSome = true := by
    rw [isPlan]
    rfl
  -- a lock that is gone tells the tables apart
  have changed {spent : LockRecord} {after : Database}
      (isStale : spent ∈ staleLocks database plan.id now) (gone : spent ∉ after.locks) :
      ¬ SameRows database after := fun same =>
    gone (same.locks ▸ (mem_staleLocks.mp isStale).1.1)
  have recovered : RecoveredLocks service plan result now generated database
      (recoverReportedLocks service plan ticket result now generated) :=
    recoverReportedLocks_cases constrained hasPlan isRun nonempty
  cases recovered with
  | missing ungiven refuses => exact iff_of_true (Refuses.bind refuses).atomic (.inl ungiven)
  | @unwritten first others given stale unwritable refuses =>
      exact iff_of_true (Refuses.bind refuses).atomic
        (.inr (.inl ⟨first, by rw [stale]; rfl, unwritable⟩))
  | @spoiled first others error after given stale writable blocked raised spent =>
      have isStale : first ∈ staleLocks database plan.id now := by
        rw [stale]
        exact List.mem_cons_self
      refine iff_of_false (fun atomic => ?_) ?_
      · refine changed isStale spent (atomic error after ?_)
        simp only [run_bind, raised]
      · rintro (ungiven | ⟨other, isFirst, unwritable⟩ | ⟨allWritable, relockable, _⟩)
        · exact ungiven given
        · rw [stale, List.head?_cons, Option.some.injEq] at isFirst
          exact unwritable (isFirst ▸ writable)
        · exact blocked ⟨allWritable, relockable⟩
  | @relocked after writable relockable returned relocked =>
      have isPlanAfter : after.plan? plan.id = some plan := by
        simp only [Database.plan?, relocked.plans]
        exact isPlan
      have apart : ∀ plan ∈ after.plans, plan.lifecycleState.active = true →
          overlaps after plan = false := by
        simp only [overlaps, relocked.plans]
        exact constrained.apart
      have unwritten : (¬ ∀ lock ∈ staleLocks database plan.id now,
            (result.evidenceFor lock).isSome = true) ∨
          (∃ first, (staleLocks database plan.id now).head? = some first ∧
            ¬ Writable result first) → False := by
        rintro (ungiven | ⟨first, isFirst, refused⟩)
        · exact ungiven fun lock member => (writable lock member).isSome
        · exact refused (writable first (List.mem_of_mem_head? isFirst))
      have condition : RecoversWhole service ticket result closing generated database plan now ↔
          Ends result ticket.action closing plan (Releasable after plan.id now) := by
        simp only [RecoversWhole, ← or_assoc, iff_false_intro unwritten, false_or,
          relocked.releasable]
        exact ⟨fun all => all.2.2, fun ends => ⟨writable, relockable, ends⟩⟩
      obtain ⟨first, isStale⟩ := List.exists_mem_of_ne_nil _ nonempty
      have gone := relocked.spent first isStale
      have isActive := (mem_staleLocks.mp isStale).1.2.1
      rw [condition]
      have concluded : (Ends result ticket.action closing plan (Releasable after plan.id now) ∧
          Returns (concludeReported ticket result now closing) after) ∨ _ :=
        concludeReported_cases apart isPlanAfter onPlan fun none => absurd none relocked.held
      rcases concluded with
        ⟨ends, value, final, ran⟩ | ⟨fails, error, final, raised, spent, _⟩
      · exact iff_of_true (Returns.atomic (.bind returned ⟨value, final, ran⟩)) ends
      · refine iff_of_false (fun atomic => ?_) fails
        refine changed isStale (spent first isActive gone) (atomic error final ?_)
        simp only [run_bind, returned, raised]

/-- Without expired locks the recovery of locks does nothing. -/
theorem recoverReportedLocks_unneeded (fresh : staleLocks database plan.id now = []) :
    (recoverReportedLocks service plan ticket result now generated).run database =
      (.returned (), database) := by
  have listed : (read fun database : Database =>
      (database.listActiveLocks plan.id).filter (·.expired now) : Operation (List LockRecord)).run
        database = (.returned [], database) := by
    rw [run_read]
    exact congrArg (fun stale => (Outcome.returned stale, database)) fresh
  rw [recoverReportedLocks, run_bind, listed]
  simp only [run_bind, run_require, List.all_nil, if_true, recoverEachReported, run_pure]

/-- A result whose finalization raises leaves plan, locks and run as they were exactly under its
condition. -/
theorem finalizeReported_atomic_iff (constrained : Constrained database)
    (readings : ClockReadings) :
    Atomic (service.finalizeReported ticket result readings generated) database ↔
      FinalizesWhole service ticket result readings generated database := by
  cases isPlan : database.plan? ticket.planId with
  | none =>
      obtain ⟨error, missing⟩ := getPlan_missing isPlan
      refine iff_of_true (Atomic.bind_of_raised missing) fun plan now isFound => ?_
      rw [isPlan] at isFound
      cases isFound
  | some plan =>
      have onPlan := plan?_id isPlan
      rw [finalizeReported, Atomic.bind_iff (getPlan_run isPlan)]
      cases valid : service.validateTicket plan ticket false with
      | error error =>
          refine iff_of_true (Atomic.bind_of_raised rfl) fun found now isFound isValid => ?_
          rw [isPlan, Option.some.injEq] at isFound
          subst isFound
          rw [valid] at isValid
          cases isValid
      | ok checked =>
          have passed : (Program.ofExcept (.ok checked) : Operation Unit).run database =
              (.returned checked, database) := rfl
          rw [Atomic.bind_iff passed]
          obtain ⟨opening, closing⟩ := readings
          cases opening with
          | error error =>
              exact iff_of_true (Atomic.bind_of_raised rfl) fun _ _ _ _ isReading =>
                nomatch isReading
          | ok now =>
              have read : (Program.ofExcept (.ok now) : Operation Nat).run database =
                  (.returned now, database) := rfl
              rw [Atomic.bind_iff read]
              have condition : FinalizesWhole service ticket result ⟨.ok now, closing⟩ generated
                  database ↔
                if ticket.action = .recover ∧ staleLocks database plan.id now ≠ [] then
                  RecoversWhole service ticket result closing generated database plan now
                else
                  Ends result ticket.action closing plan (Releasable database plan.id now) ∨
                    Harmless result ticket.action database plan now := by
                constructor
                · exact fun given => given plan now isPlan valid rfl
                · intro given found reading isFound _ isReading
                  rw [isPlan] at isFound
                  cases isFound
                  cases isReading
                  exact given
              have isPlanHere : database.plan? plan.id = some plan := by rw [onPlan, isPlan]
              have isRun := ticket_run constrained isPlan valid
              rw [condition]
              by_cases recovers : ticket.action = .recover
              · rw [if_pos recovers]
                by_cases fresh : staleLocks database plan.id now = []
                · rw [if_neg fun both => both.2 fresh,
                    Atomic.bind_iff (recoverReportedLocks_unneeded fresh)]
                  exact concludeReported_atomic_iff constrained isPlanHere onPlan
                · rw [if_pos ⟨recovers, fresh⟩]
                  exact recovered_atomic_iff constrained isPlanHere onPlan isRun fresh
              · rw [if_neg recovers, if_neg fun both => recovers both.1]
                exact concludeReported_atomic_iff constrained isPlanHere onPlan

end Whole

/-- An action that raises leaves plan, locks and run as they were, whoever commits afterwards,
exactly under the condition of its kind: for a preparation, that the run is running already or
the locks can be taken, and for a result, that no step after the first write can be rejected. -/
theorem actions_atomic_iff {database : Database} (constrained : Constrained database) :
    (∀ (service : MaintenanceExecutionService) (planId : String) (action : MaintenanceAction)
        (opening : Except Fault Nat) (generated : String),
      Atomic (service.prepareRead planId action opening generated) database ↔
        PreparesWhole service planId action opening generated database) ∧
    (∀ (service : MaintenanceExecutionService) (ticket : MaintenanceActionTicket)
        (result : ReportedResult) (readings : ClockReadings) (generated : String),
      Atomic (service.finalizeReported ticket result readings generated) database ↔
        FinalizesWhole service ticket result readings generated database) :=
  ⟨fun _ _ _ opening _ => prepareRead_atomic_iff constrained opening,
    fun _ _ _ readings _ => finalizeReported_atomic_iff constrained readings⟩

end MaintenanceExecutionService

namespace AtomicitySample

/-- A plan in execution, with the lock of its host for five minutes. -/
def database : Database :=
  { Database.empty with
    plans := [{ LockSample.plan "plan" 1 with runId := some 1 }]
    runs := [⟨1, "maintenance-reboot", "node-1", .running, []⟩]
    locks := [⟨1, .host, "1", "plan", some 1, "token", 300000000, none⟩]
    lockCounter := 1 }

theorem constrained : Constrained database where
  lock_ids := by decide
  exclusive request := by
    have few := List.countP_le_length (p := fun lock : LockRecord => lock.covers request)
      (l := database.locks)
    exact few
  tokens := by decide
  run_ids := by decide
  plan_runs := by
    intro plan member runId attached
    rw [List.mem_singleton.mp member] at attached
    cases attached
    decide
  apart := by decide

def service : MaintenanceExecutionService where
  capabilityRevision := "capability"
  lockTtlSeconds := 300
  verifyPlanHash _ := true

def ticket : MaintenanceActionTicket :=
  ⟨"plan", 1, .execute, .reboot, "hash"⟩

/-- The adapter reports that it is done. -/
def succeeded : ReportedResult :=
  ⟨some "succeeded", []⟩

def readings (now : Nat) : ClockReadings :=
  ⟨.ok now, .ok now⟩

/-- What a success that is reported after the locks have expired leaves. -/
def late : Database :=
  ((service.finalizeReported ticket succeeded (readings 400000000) "drawn").run database).2

theorem late_raises :
    (service.finalizeReported ticket succeeded (readings 400000000) "drawn").run database =
      (.raised (MaintenanceExecutionService.validation
          "Expired maintenance locks require rediscovery evidence before release"), late) :=
  Prod.ext (by decide +kernel) rfl

end AtomicitySample

/-- A success that is reported in time is finalized to its end, one that is reported after the
locks have expired is not. -/
theorem actions_atomic_in_time :
    Atomic (AtomicitySample.service.finalizeReported AtomicitySample.ticket
        AtomicitySample.succeeded (AtomicitySample.readings 100000000) "drawn")
        AtomicitySample.database ∧
      ¬ FinalizesWhole AtomicitySample.service AtomicitySample.ticket AtomicitySample.succeeded
        (AtomicitySample.readings 400000000) "drawn" AtomicitySample.database := by
  have both := (MaintenanceExecutionService.actions_atomic_iff AtomicitySample.constrained).2
    AtomicitySample.service AtomicitySample.ticket AtomicitySample.succeeded
  refine ⟨(both (AtomicitySample.readings 100000000) "drawn").mpr ?_, fun whole => ?_⟩
  · intro plan now isPlan _ isReading
    cases isPlan
    cases isReading
    rw [if_neg (by decide)]
    refine .inl ⟨some .succeeded, by decide +kernel, ?_, fun _ => ⟨?_, 100000000, rfl⟩⟩
    · intro state isState
      cases isState
      exact .inr (.inl (by decide))
    · simp only [Releasable]
      decide +kernel
  · have atomic := (both (AtomicitySample.readings 400000000) "drawn").mpr whole
    have same := (atomic _ _ AtomicitySample.late_raises).plans
    revert same
    decide +kernel

/-- A plan is left in success while its run is running and its lock is held. -/
theorem succeeded_with_expired_lock :
    ((AtomicitySample.late.plan? "plan").map (·.lifecycleState) = some .succeeded ∧
        AtomicitySample.late.runStatus? 1 = some .running ∧
        AtomicitySample.late.listActiveLocks "plan" ≠ []) ∧
      ¬ ∀ (service : MaintenanceExecutionService) (ticket : MaintenanceActionTicket)
        (result : ReportedResult) (readings : ClockReadings) (generated : String)
        (database : Database), Constrained database →
        Atomic (service.finalizeReported ticket result readings generated) database := by
  refine ⟨by decide +kernel, fun claim => ?_⟩
  have atomic := claim AtomicitySample.service AtomicitySample.ticket AtomicitySample.succeeded
    (AtomicitySample.readings 400000000) "drawn" AtomicitySample.database
    AtomicitySample.constrained
  have same := (atomic _ _ AtomicitySample.late_raises).plans
  revert same
  decide +kernel

end ElKeeper
