import ElKeeper.LockAcquisition

/-!
# Actions that raise

`prepare` and `finalize` write the plan, the locks and the run one after the other, without a
savepoint of their own.  What an action that raises leaves behind is therefore decided by the
order of its writes and of the checks between them.
-/

namespace ElKeeper

open Program MaintenanceStore

/-- The rows of plans, locks and runs are the same. -/
structure SameRows (before after : Database) : Prop where
  plans : after.plans = before.plans
  locks : after.locks = before.locks
  runs : after.runs = before.runs

theorem SameRows.refl (database : Database) : SameRows database database :=
  ⟨rfl, rfl, rfl⟩

/-- An operation that raises leaves the rows as they were, for whoever commits them. -/
def Atomic {α : Type} (operation : Operation α) (database : Database) : Prop :=
  ∀ error after, operation.run database = (.raised error, after) → SameRows database after

namespace Atomic

variable {α β : Type} {operation : Operation α} {next : α → Operation β} {database : Database}

/-- What a savepoint gives. -/
theorem atomically (operation : Operation α) (database : Database) :
    Atomic (Program.atomically operation) database := by
  intro error after raised
  rw [atomically_eq_raised raised]
  exact .refl database

theorem of_returned {value : α} {after : Database}
    (returned : operation.run database = (.returned value, after)) : Atomic operation database := by
  intro error other raised
  rw [returned] at raised
  cases raised

theorem of_raised {error : Fault} (raised : operation.run database = (.raised error, database)) :
    Atomic operation database := by
  intro other after ran
  rw [raised] at ran
  cases ran
  exact .refl database

/-- A refusal at the start is one of the whole. -/
theorem bind_of_raised {error : Fault}
    (raised : operation.run database = (.raised error, database)) :
    Atomic (operation >>= next) database :=
  of_raised (by rw [run_bind, raised])

/-- Reading changes nothing. -/
theorem bind_iff {value : α} (returned : operation.run database = (.returned value, database)) :
    Atomic (operation >>= next) database ↔ Atomic (next value) database := by
  have sameRun : (operation >>= next).run database = (next value).run database := by
    rw [run_bind, returned]
  simp only [Atomic, sameRun]

/-- After a write, everything that follows has to succeed. -/
theorem bind_iff_of_changed {value : α} {after : Database}
    (returned : operation.run database = (.returned value, after))
    (changed : ∀ error final, (next value).run after = (.raised error, final) →
      ¬ SameRows database final) :
    Atomic (operation >>= next) database ↔
      ∀ error final, (next value).run after ≠ (.raised error, final) := by
  have sameRun : (operation >>= next).run database = (next value).run after := by
    rw [run_bind, returned]
  simp only [Atomic, sameRun]
  constructor
  · exact fun atomic error final raised => changed error final raised (atomic error final raised)
  · exact fun never error final raised => absurd raised (never error final)

end Atomic

/-- The operation comes to its end. -/
def Returns {α : Type} (operation : Operation α) (database : Database) : Prop :=
  ∃ value after, operation.run database = (.returned value, after)

/-- The operation raises before it has changed anything. -/
def Refuses {α : Type} (operation : Operation α) (database : Database) : Prop :=
  ∃ error, operation.run database = (.raised error, database)

section Decided

variable {α β : Type} {operation : Operation α} {next : α → Operation β} {value : α}
  {database after : Database}

theorem Returns.pure (value : α) (database : Database) :
    Returns (Pure.pure value : Operation α) database :=
  ⟨value, database, rfl⟩

theorem Returns.bind (returned : operation.run database = (.returned value, after))
    (rest : Returns (next value) after) : Returns (operation >>= next) database := by
  obtain ⟨result, final, ran⟩ := rest
  refine ⟨result, final, ?_⟩
  rw [run_bind, returned]
  exact ran

theorem Refuses.bind (refuses : Refuses operation database) :
    Refuses (operation >>= next) database := by
  obtain ⟨error, raised⟩ := refuses
  exact ⟨error, by rw [run_bind, raised]⟩

/-- A refusal after a step that changed nothing. -/
theorem Refuses.following (returned : operation.run database = (.returned value, database))
    (rest : Refuses (next value) database) : Refuses (operation >>= next) database := by
  obtain ⟨error, raised⟩ := rest
  refine ⟨error, ?_⟩
  rw [run_bind, returned]
  exact raised

theorem Refuses.atomic (refuses : Refuses operation database) : Atomic operation database := by
  obtain ⟨error, raised⟩ := refuses
  exact .of_raised raised

theorem Returns.atomic (returns : Returns operation database) : Atomic operation database := by
  obtain ⟨value, after, returned⟩ := returns
  exact .of_returned returned

end Decided

/-- What the tables promise: locks and runs have their identifiers to themselves, a scope has one
active lock, a lock has a token, the run of a plan exists and active plans share no target. -/
structure Constrained (database : Database) : Prop where
  lock_ids : (database.locks.map (·.id)).Nodup
  exclusive : ExclusiveLocks database.locks
  tokens : ∀ lock ∈ database.locks, lock.ownerToken ≠ ""
  run_ids : (database.runs.map (·.id)).Nodup
  plan_runs : ∀ plan ∈ database.plans, ∀ runId, plan.runId = some runId →
    (database.run? runId).isSome = true
  apart : ∀ plan ∈ database.plans, plan.lifecycleState.active = true →
    overlaps database plan = false

namespace MaintenanceExecutionService

variable {service : MaintenanceExecutionService}

/-! ### Preparation -/

section Preparation

variable {database : Database} {plan : PlanRecord} {action : MaintenanceAction}

/-- The run of a plan is there and open, if the plan has one. -/
def Attachable (database : Database) (plan : PlanRecord) : Prop :=
  ∀ runId, plan.runId = some runId →
    ∃ run, database.run? runId = some run ∧ run.status.active = true

/-- The run of a plan is running already. -/
def Running (database : Database) (plan : PlanRecord) : Prop :=
  ∃ runId, plan.runId = some runId ∧
    ∃ run, database.run? runId = some run ∧ run.status = .running

theorem runs_eq_of_running {runId : Nat} {run : RunRow}
    (distinct : (database.runs.map (·.id)).Nodup)
    (found : database.run? runId = some run) :
    (database.setRunStatus runId .running).runs = database.runs ↔ run.status = .running := by
  have member := List.mem_of_find?_eq_some found
  have isRun : run.id = runId := by simpa using List.find?_some found
  simp only [Database.setRunStatus]
  constructor
  · intro same
    have fixed : (if run.id = runId then { run with status := .running } else run) = run := by
      have each := List.map_inj_left.mp (same.trans (List.map_id _).symm)
      exact each run member
    rw [if_pos isRun] at fixed
    exact (congrArg RunRow.status fixed).symm
  · intro running
    refine (List.map_inj_left.mpr fun other isOther => ?_).trans (List.map_id _)
    by_cases sameId : other.id = runId
    · have isSame : other = run :=
        List.inj_on_of_nodup_map distinct isOther member (sameId.trans isRun.symm)
      subst isSame
      rw [if_pos sameId, ← running]
      rfl
    · rw [if_neg sameId]
      rfl

/-- Another run for a plan is no other target. -/
theorem overlaps_attachRunId (current : PlanRecord) (runId : Nat) (planId : String) :
    overlaps (database.attachRunId planId runId) current = overlaps database current := by
  simp only [overlaps, Database.attachRunId, List.any_map]
  congr 1
  funext other
  simp only [Function.comp]
  split <;> rfl

theorem plan?_attachRunId (isPlan : database.plan? plan.id = some plan)
    (unattached : plan.runId = none) (runId : Nat) :
    (database.attachRunId plan.id runId).plan? plan.id =
      some { plan with runId := some runId } := by
  have kept : (fun row : PlanRecord => decide (row.id = plan.id)) ∘ (fun row =>
      if row.id = plan.id ∧ row.runId = none then { row with runId := some runId } else row) =
      fun row => decide (row.id = plan.id) := by
    funext row
    simp only [Function.comp]
    split <;> rfl
  have isFound : database.plans.find? (fun row => decide (row.id = plan.id)) = some plan := isPlan
  simp only [Database.plan?, Database.attachRunId, List.find?_map, kept, isFound, Option.map_some,
    true_and, unattached, if_true]

/-- Whether a plan may get its run, and what that changes. -/
theorem attachRun_decided (action : MaintenanceAction) (constrained : Constrained database)
    (isPlan : database.plan? plan.id = some plan) :
    (Attachable database plan ∧ ∃ runId after, (attachRun plan action).run database =
        (.returned runId, after) ∧
      after.locks = database.locks ∧
      (∃ found, after.plan? plan.id = some found ∧ found.id = plan.id ∧
        found.lifecycleState = plan.lifecycleState ∧
        overlaps after found = overlaps database plan) ∧
      (after.run? runId).isSome = true ∧
      (SameRows database after ↔ Running database plan)) ∨
    (¬ Attachable database plan ∧ ∃ error, (attachRun plan action).run database =
      (.raised error, database)) := by
  cases attached : plan.runId with
  | some runId =>
      simp only [attachRun, attached, run_bind, run_read]
      cases found : database.run? runId with
      | none =>
          refine .inr ⟨fun attachable => ?_, _, rfl⟩
          obtain ⟨run, isRun, _⟩ := attachable runId attached
          rw [found] at isRun
          cases isRun
      | some run =>
          simp only [run_bind, run_require]
          by_cases isOpen : run.status.active = true
          · refine .inl ⟨fun other isOther => ?_, runId, database.setRunStatus runId .running, ?_,
              rfl, ⟨plan, isPlan, rfl, rfl, rfl⟩, ?_, ?_⟩
            · rw [attached, Option.some.injEq] at isOther
              exact ⟨run, isOther ▸ found, isOpen⟩
            · simp only [isOpen, if_true, run_update, run_pure]
            · have kept : (fun row : RunRow => decide (row.id = runId)) ∘ (fun row =>
                  if row.id = runId then { row with status := .running } else row) =
                  fun row => decide (row.id = runId) := by
                funext row
                simp only [Function.comp]
                split <;> rfl
              have isFound : database.runs.find? (fun row => decide (row.id = runId)) =
                  some run := found
              simp only [Database.run?, Database.setRunStatus, List.find?_map, kept, isFound,
                Option.map_some, Option.isSome_some]
            · have sameRuns := runs_eq_of_running constrained.run_ids found
              constructor
              · exact fun same => ⟨runId, attached, run, found, sameRuns.mp same.runs⟩
              · rintro ⟨other, isOther, row, isRow, running⟩
                rw [attached, Option.some.injEq] at isOther
                subst isOther
                rw [found, Option.some.injEq] at isRow
                subst isRow
                exact ⟨rfl, rfl, sameRuns.mpr running⟩
          · refine .inr ⟨fun attachable => ?_,
              validation "Maintenance run is already complete", ?_⟩
            · obtain ⟨other, isOther, active⟩ := attachable runId attached
              rw [found, Option.some.injEq] at isOther
              exact isOpen (isOther ▸ active)
            · simp only [isOpen, Bool.false_eq_true, if_false]
  | none =>
      have unattachable : Attachable database plan := fun runId isRun => by
        rw [attached] at isRun
        cases isRun
      have attachable : (database.plans.any fun row =>
          decide (row.id = plan.id) && decide (row.runId = none)) = true :=
        List.any_eq_true.mpr ⟨plan, List.mem_of_find?_eq_some isPlan, by simp [attached]⟩
      have unlike : ¬ Running database plan := by
        rintro ⟨runId, isRun, _⟩
        rw [attached] at isRun
        cases isRun
      let started : Database :=
        { database with
          runs := database.runs ++
            [⟨Database.nextId (database.runs.map (·.id)),
              "maintenance-" ++ plan.operationKind.value, runTarget database plan, .running,
              Json.redactDict [("maintenance_plan_id", .str plan.id),
                ("operation_kind", .str plan.operationKind.value),
                ("action", .str action.value)]⟩] }
      refine .inl ⟨unattachable, Database.nextId (database.runs.map (·.id)),
        started.attachRunId plan.id (Database.nextId (database.runs.map (·.id))), ?_, rfl,
        ⟨{ plan with runId := some (Database.nextId (database.runs.map (·.id))) }, ?_, rfl, rfl,
          ?_⟩,
        ?_, iff_of_false ?_ unlike⟩
      · simp only [attachRun, attached, run_bind, run_read, startRun_run,
          MaintenanceExecutionService.attachRunId, run_require, attachable, if_true, run_update,
          run_pure]
        rfl
      · have listed : started.plan? plan.id = some plan := isPlan
        exact plan?_attachRunId listed attached _
      · have sameTargets (current : PlanRecord) (runId : Nat) :
            overlaps (started.attachRunId plan.id runId) current = overlaps started current :=
          overlaps_attachRunId current runId plan.id
        exact sameTargets _ _
      · refine List.find?_isSome.mpr ⟨_, List.mem_append_right _ List.mem_cons_self, ?_⟩
        exact decide_eq_true rfl
      · intro same
        have lengths := congrArg List.length same.runs
        simp only [Database.attachRunId, started, List.length_append, List.length_singleton]
          at lengths
        omega

/-- The locks of a preparation can be taken, or are there. -/
def LocksPrepared (service : MaintenanceExecutionService) (database : Database)
    (plan : PlanRecord) (action : MaintenanceAction) (now : Nat) (generated : String) : Prop :=
  let active := database.listActiveLocks plan.id
  if action = .execute ∨ action = .recover then
    active.filter (·.expired now) = [] →
      ∃ requests, lockRequests plan (action = .recover) = .ok requests ∧
        0 < service.lockTtlSeconds ∧ ∀ request ∈ requests,
          (requester plan.id plan.runId service.lockTtlSeconds (firstToken active) generated
            now).Open database request
  else
    active = [] → plan.lifecycleState ∉ [.executing, .paused, .recoveryRequired]

/-- There is always something to lock. -/
theorem lockRequests_ne_nil {includeRecovery : Bool} {requests : List LockRequest}
    (asked : lockRequests plan includeRecovery = .ok requests) : requests ≠ [] := by
  have nonempty (all : List LockRequest)
      (isOk : (if all = [] then .error (validation "Maintenance plan has no lockable target")
        else .ok all) = (.ok requests : Except Fault (List LockRequest))) : requests ≠ [] := by
    split at isOk
    · cases isOk
    · rename_i some
      cases isOk
      exact some
  exact nonempty _ asked

/-- The lock part of a preparation, on a database whose plan has its run. -/
theorem prepareLocks_decided {attached : Database} {runId now : Nat} {generated : String}
    (exclusive : ExclusiveLocks attached.locks) (sameLocks : attached.locks = database.locks)
    (isPlan : (attached.plan? plan.id).isSome = true)
    (isRun : (attached.run? runId).isSome = true) :
    let active := database.listActiveLocks plan.id
    let preparation := prepareLocks service plan action runId now generated active
      (active.filter (·.expired now))
    (LocksPrepared service database plan action now generated ∧ ∃ after,
      preparation.run attached = (.returned (), after) ∧ after.plans = attached.plans) ∨
    (¬ LocksPrepared service database plan action now generated ∧ ∃ error,
      preparation.run attached = (.raised error, attached)) := by
  intro active preparation
  by_cases takes : action = .execute ∨ action = .recover
  · by_cases fresh : active.filter (·.expired now) = []
    · have prepared : LocksPrepared service database plan action now generated ↔
          ∃ requests, lockRequests plan (action = .recover) = .ok requests ∧
            0 < service.lockTtlSeconds ∧ ∀ request ∈ requests,
              (requester plan.id plan.runId service.lockTtlSeconds (firstToken active) generated
                now).Open database request := by
        simp only [LocksPrepared, if_pos takes]
        exact ⟨fun given => given fresh, fun given _ => given⟩
      rw [prepared]
      simp only [preparation, prepareLocks, if_pos takes, if_pos fresh]
      cases asked : lockRequests plan (action = .recover) with
      | error error =>
          refine .inr ⟨?_, error, rfl⟩
          rintro ⟨requests, isOk, _⟩
          cases isOk
      | ok requests =>
          have known : (requester plan.id (some runId) service.lockTtlSeconds (firstToken active)
              generated now).known attached = true := by
            simp [LockOwner.known, requester, isPlan, isRun]
          have sameOpen : ∀ request, (requester plan.id (some runId) service.lockTtlSeconds
              (firstToken active) generated now).Open attached request ↔
                (requester plan.id plan.runId service.lockTtlSeconds (firstToken active) generated
                  now).Open database request := by
            intro request
            simp only [LockOwner.Open, sameLocks, requester]
          rcases acquireLocks_decided requests exclusive known with
            ⟨⟨positive, _, isOpen⟩, locks, after, ran, granted⟩ | ⟨refused, error, ran⟩
          · refine .inl ⟨⟨requests, rfl, positive, fun request member =>
              (sameOpen request).mp (isOpen request member)⟩, after, ?_, ?_⟩
            · simp only [run_bind, Program.ofExcept, run_pure, ran]
            · obtain ⟨rows, counter, rfl, _⟩ := granted.added
              rfl
          · refine .inr ⟨?_, error, ?_⟩
            · rintro ⟨_, isOk, positive, isOpen⟩
              cases isOk
              exact refused ⟨positive, lockRequests_ne_nil asked, fun request member =>
                (sameOpen request).mpr (isOpen request member)⟩
            · simp only [run_bind, Program.ofExcept, run_pure, ran]
    · have prepared : LocksPrepared service database plan action now generated := by
        simp only [LocksPrepared, if_pos takes]
        exact fun none => absurd none fresh
      refine .inl ⟨prepared, attached, ?_, rfl⟩
      simp only [preparation, prepareLocks, if_pos takes, if_neg fresh, run_pure]
  · have prepared : LocksPrepared service database plan action now generated ↔
        (!(active.isEmpty && (plan.lifecycleState = .executing ||
          plan.lifecycleState = .paused || plan.lifecycleState = .recoveryRequired))) = true := by
      simp only [LocksPrepared, if_neg takes, List.mem_cons, List.not_mem_nil, or_false,
        Bool.not_eq_true', Bool.and_eq_false_imp, List.isEmpty_iff, Bool.or_eq_false_iff,
        decide_eq_false_iff_not, not_or, and_assoc, active]
    rw [prepared]
    simp only [preparation, prepareLocks, if_neg takes, run_require]
    by_cases holds : (!(active.isEmpty && (plan.lifecycleState = .executing ||
        plan.lifecycleState = .paused || plan.lifecycleState = .recoveryRequired))) = true
    · exact .inl ⟨holds, attached, by rw [if_pos holds], rfl⟩
    · exact .inr ⟨holds, _, by rw [if_neg holds]⟩

end Preparation

/-! ### Transitions -/

section Transitions

variable {database : Database} {plan : PlanRecord} {planId : String} {target : MaintenanceState}

theorem validatePlanTransition_ok {current : MaintenanceState}
    (allowed : target ∈ current.transitions) :
    validatePlanTransition current target = .ok () := by
  have different : current ≠ target := by
    rintro rfl
    revert allowed
    cases current <;> decide
  simp only [validatePlanTransition, validateTransition, if_neg different, not_true_eq_false,
    allowed, if_false]

theorem validatePlanTransition_error {current : MaintenanceState}
    (refused : target ∉ current.transitions) :
    ∃ error, validatePlanTransition current target = .error error := by
  simp only [validatePlanTransition, validateTransition]
  split
  · exact ⟨_, rfl⟩
  · exact ⟨_, rfl⟩

theorem transitionPlan_run (isPlan : database.plan? planId = some plan)
    (free : (target.active && overlaps database plan) = false)
    (allowed : target ∈ plan.lifecycleState.transitions) :
    (transitionPlan planId plan.stateRevision target).run database =
      (.returned { plan with
          lifecycleState := target
          stateRevision := plan.stateRevision + 1 },
        database.setLifecycleState planId target) := by
  have isReached := plan?_setLifecycleState database planId target
  rw [isPlan, Option.map_some] at isReached
  simp only [transitionPlan, getPlan, run_bind, run_read, isPlan, run_pure, run_require,
    decide_true, if_true, validatePlanTransition_ok allowed, Program.ofExcept, free,
    Bool.not_false, run_update, isReached]

theorem transitionPlan_refused (isPlan : database.plan? planId = some plan)
    (refused : target ∉ plan.lifecycleState.transitions) :
    ∃ error, (transitionPlan planId plan.stateRevision target).run database =
      (.raised error, database) := by
  obtain ⟨error, invalid⟩ := validatePlanTransition_error refused
  refine ⟨error, ?_⟩
  simp only [transitionPlan, getPlan, run_bind, run_read, isPlan, run_pure, run_require,
    decide_true, if_true, invalid, Program.ofExcept, run_raise]

end Transitions

/-! ### Whole preparations -/

/-- `prepare` with the reading of its clock, which may lack a timezone. -/
def prepareRead (service : MaintenanceExecutionService) (planId : String)
    (action : MaintenanceAction) (opening : Except Fault Nat) (generated : String) :
    Operation MaintenanceActionTicket := do
  let _ ← getPlan planId
  let now ← ofExcept opening
  service.prepare planId action now generated

/-- A preparation that goes through to its end, or writes nothing before it stops: the run of
the plan is running already, or the locks can be taken. -/
def PreparesWhole (service : MaintenanceExecutionService) (planId : String)
    (action : MaintenanceAction) (opening : Except Fault Nat) (generated : String)
    (database : Database) : Prop :=
  ∀ plan now, database.plan? planId = some plan → opening = .ok now →
    service.validate database plan action now = .ok () →
      ((database.listActiveLocks plan.id).filter (·.expired now) = [] ∨ action = .recover) →
        Attachable database plan →
          Running database plan ∨ LocksPrepared service database plan action now generated

section Whole

variable {database : Database} {plan : PlanRecord} {planId : String} {action : MaintenanceAction}
  {now : Nat} {generated : String}

theorem getPlan_run (isPlan : database.plan? planId = some plan) :
    (getPlan planId).run database = (.returned plan, database) := by
  simp only [getPlan, run_bind, run_read, isPlan, run_pure]

theorem getPlan_missing (missing : database.plan? planId = none) :
    ∃ error, (getPlan planId).run database = (.raised error, database) := by
  simp only [getPlan, run_bind, run_read, missing, run_raise]
  exact ⟨_, rfl⟩

theorem plan?_id (isPlan : database.plan? planId = some plan) : plan.id = planId := by
  simpa using List.find?_some isPlan

/-- A validated plan may be executed when the action says so. -/
theorem executing_of_validated (executes : action.executes = true)
    (validated : service.validate database plan action now = .ok ()) :
    plan.lifecycleState.active = true ∧
      MaintenanceState.executing ∈ plan.lifecycleState.transitions := by
  have isState : plan.lifecycleState ∈ action.states := by
    simp only [validate, validateLifecycle, check] at validated
    by_contra other
    rw [if_neg (by simpa using other)] at validated
    cases validated
  cases action with
  | execute =>
      rw [List.mem_singleton.mp isState]
      decide
  | resume =>
      rw [List.mem_singleton.mp isState]
      decide
  | pause => cases executes
  | cancel => cases executes
  | recover => cases executes

/-- What follows the run of a preparation. -/
def prepareRest (service : MaintenanceExecutionService) (plan : PlanRecord)
    (action : MaintenanceAction) (runId now : Nat) (generated : String)
    (active : List LockRecord) : Operation MaintenanceActionTicket := do
  prepareLocks service plan action runId now generated active (active.filter (·.expired now))
  let current ← getPlan plan.id
  let entered ← if action.executes then
      transitionPlan current.id current.stateRevision .executing
    else pure current
  pure
    { planId := entered.id
      runId := runId
      action := action
      operationKind := entered.operationKind
      planHash := entered.planHash }

theorem prepareRest_decided {attached : Database} {runId : Nat} {found : PlanRecord}
    (generated : String)
    (constrained : Constrained database) (isPlan : database.plan? plan.id = some plan)
    (validated : service.validate database plan action now = .ok ())
    (sameLocks : attached.locks = database.locks)
    (isFound : attached.plan? plan.id = some found) (onPlan : found.id = plan.id)
    (sameState : found.lifecycleState = plan.lifecycleState)
    (sameTargets : overlaps attached found = overlaps database plan)
    (isRun : (attached.run? runId).isSome = true) :
    (LocksPrepared service database plan action now generated ∧
      Returns (prepareRest service plan action runId now generated
        (database.listActiveLocks plan.id)) attached) ∨
    (¬ LocksPrepared service database plan action now generated ∧
      Refuses (prepareRest service plan action runId now generated
        (database.listActiveLocks plan.id)) attached) := by
  have exclusive : ExclusiveLocks attached.locks := sameLocks ▸ constrained.exclusive
  have hasPlan : (attached.plan? plan.id).isSome = true := by rw [isFound]; rfl
  rcases prepareLocks_decided exclusive sameLocks hasPlan isRun with
    ⟨prepared, after, ran, samePlans⟩ | ⟨refused, error, ran⟩
  · refine .inl ⟨prepared, .bind ran ?_⟩
    have isFoundAfter : after.plan? plan.id = some found := by
      simp only [Database.plan?, samePlans]
      exact isFound
    refine .bind (getPlan_run isFoundAfter) ?_
    by_cases executes : action.executes = true
    · obtain ⟨isActive, allowed⟩ := executing_of_validated executes validated
      have free : overlaps after found = false := by
        have apart := constrained.apart plan (List.mem_of_find?_eq_some isPlan) isActive
        rw [← sameTargets] at apart
        simpa only [overlaps, samePlans] using apart
      have permitted : (MaintenanceState.executing.active && overlaps after found) = false := by
        rw [free, Bool.and_false]
      have entered := transitionPlan_run (onPlan.symm ▸ isFoundAfter) permitted
        (sameState ▸ allowed)
      rw [if_pos executes]
      exact .bind entered (.pure _ _)
    · rw [if_neg executes]
      exact .bind (run_pure _ _) (.pure _ _)
  · exact .inr ⟨refused, Refuses.bind ⟨error, ran⟩⟩

/-- A preparation that has passed its checks. -/
theorem attached_atomic_iff (constrained : Constrained database)
    (isPlan : database.plan? plan.id = some plan)
    (validated : service.validate database plan action now = .ok ()) :
    Atomic (do
        let runId ← attachRun plan action
        prepareRest service plan action runId now generated (database.listActiveLocks plan.id))
      database ↔
      (Attachable database plan → Running database plan ∨
        LocksPrepared service database plan action now generated) := by
  rcases attachRun_decided action constrained isPlan with
    ⟨attachable, runId, attached, ran, sameLocks, ⟨found, isFound, onPlan, sameState, sameTargets⟩,
      isRun, sameRows⟩ | ⟨unattachable, error, ran⟩
  · have rest := prepareRest_decided generated constrained isPlan validated sameLocks
      isFound onPlan sameState sameTargets isRun
    by_cases running : Running database plan
    · refine iff_of_true (fun error final raised => ?_) fun _ => .inl running
      rw [run_bind, ran] at raised
      rcases rest with ⟨_, returns⟩ | ⟨_, other, refused⟩
      · obtain ⟨ticket, after, returned⟩ := returns
        exact absurd (returned.symm.trans raised) (by simp)
      · have same := refused.symm.trans raised
        cases same
        exact sameRows.mpr running
    · have changed : ¬ SameRows database attached := fun same => running (sameRows.mp same)
      rw [Atomic.bind_iff_of_changed ran fun error final raised => ?_]
      · rcases rest with ⟨prepared, ticket, after, returned⟩ | ⟨refused, error, raised⟩
        · refine iff_of_true (fun error final raised => ?_) fun _ => .inr prepared
          rw [returned] at raised
          cases raised
        · refine iff_of_false (fun never => never error attached raised) fun given => ?_
          rcases given attachable with isRunning | prepared
          · exact running isRunning
          · exact refused prepared
      · rcases rest with ⟨_, ticket, after, returned⟩ | ⟨_, other, refused⟩
        · rw [returned] at raised
          cases raised
        · have same := refused.symm.trans raised
          cases same
          exact changed
  · exact iff_of_true (Atomic.bind_of_raised ran) fun given => absurd given unattachable

/-- A preparation that raises leaves plan, locks and run as they were exactly under its
condition. -/
theorem prepareRead_atomic_iff (constrained : Constrained database)
    (opening : Except Fault Nat) :
    Atomic (service.prepareRead planId action opening generated) database ↔
      PreparesWhole service planId action opening generated database := by
  cases isPlan : database.plan? planId with
  | none =>
      obtain ⟨error, missing⟩ := getPlan_missing isPlan
      refine iff_of_true (Atomic.bind_of_raised missing) fun plan now isFound => ?_
      rw [isPlan] at isFound
      cases isFound
  | some plan =>
      have onPlan := plan?_id isPlan
      subst onPlan
      rw [prepareRead, Atomic.bind_iff (getPlan_run isPlan)]
      cases opening with
      | error error =>
          refine iff_of_true (Atomic.bind_of_raised rfl) fun _ _ _ isReading => ?_
          cases isReading
      | ok now =>
          have read : (Program.ofExcept (.ok now) : Operation Nat).run database =
              (.returned now, database) := rfl
          rw [Atomic.bind_iff read, prepare, Atomic.bind_iff (getPlan_run isPlan),
            Atomic.bind_iff (run_read _ _)]
          have condition : PreparesWhole service plan.id action (.ok now) generated database ↔
              (service.validate database plan action now = .ok () →
                ((database.listActiveLocks plan.id).filter (·.expired now) = [] ∨
                    action = .recover) →
                  Attachable database plan → Running database plan ∨
                    LocksPrepared service database plan action now generated) := by
            constructor
            · exact fun given => given plan now isPlan rfl
            · rintro given found reading isFound isReading
              rw [isPlan] at isFound
              cases isFound
              cases isReading
              exact given
          rw [condition]
          cases validated : service.validate database plan action now with
          | error error =>
              refine iff_of_true (Atomic.bind_of_raised rfl) fun isOk => ?_
              cases isOk
          | ok checked =>
              have passed : (Program.ofExcept (.ok checked) : Operation Unit).run database =
                  (.returned checked, database) := rfl
              rw [Atomic.bind_iff passed, Atomic.bind_iff (run_read _ _)]
              simp only [true_implies]
              by_cases due : (database.listActiveLocks plan.id).filter (·.expired now) = [] ∨
                  action = .recover
              · have dueBool : (((database.listActiveLocks plan.id).filter
                    (·.expired now)).isEmpty || decide (action = .recover)) = true := by
                  simpa only [Bool.or_eq_true, List.isEmpty_iff, decide_eq_true_eq] using due
                have required {error : Fault} : (require
                    (((database.listActiveLocks plan.id).filter (·.expired now)).isEmpty ||
                      decide (action = .recover)) error : Operation Unit).run database =
                      (.returned (), database) := by
                  rw [run_require, if_pos dueBool]
                rw [Atomic.bind_iff required]
                refine (attached_atomic_iff constrained isPlan validated).trans ?_
                simp only [due, true_implies]
              · have notDue : ¬ (((database.listActiveLocks plan.id).filter
                    (·.expired now)).isEmpty || decide (action = .recover)) = true := by
                  simpa only [Bool.or_eq_true, List.isEmpty_iff, decide_eq_true_eq] using due
                have refused {error : Fault} : (require
                    (((database.listActiveLocks plan.id).filter (·.expired now)).isEmpty ||
                      decide (action = .recover)) error : Operation Unit).run database =
                      (.raised error, database) := by
                  rw [run_require, if_neg notDue]
                exact iff_of_true (Atomic.bind_of_raised refused) fun given => absurd given due

end Whole

end MaintenanceExecutionService

end ElKeeper
