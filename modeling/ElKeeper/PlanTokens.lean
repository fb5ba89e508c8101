import ElKeeper.ManualScope
import ElKeeper.ReportedResults

/-!
# One owner token for each plan

The calls of the execution service and of the manual mode take the locks of a
plan under the token that its unreleased locks carry, or under a drawn one when
there are none.  So whatever releases by the token of the first lock releases
the locks of its plan, and no others.
-/

namespace ElKeeper

open Program MaintenanceStore

/-- The states in which a plan may hold locks. -/
def MaintenanceState.locking : MaintenanceState → Bool
  | executing | paused | recoveryRequired => true
  | _ => false

/-- Every lock has a token, no two plans share one, and the unreleased locks of a plan agree. -/
structure TokensSettled (database : Database) : Prop where
  present : ∀ lock ∈ database.locks, lock.ownerToken ≠ ""
  owned : TokensOwned database
  single : ∀ first ∈ database.locks, ∀ second ∈ database.locks, first.active → second.active →
    first.ownerPlanId = second.ownerPlanId → first.ownerToken = second.ownerToken

namespace Database

/-- The plan has unreleased locks. -/
def holdsLocks (database : Database) (planId : String) : Prop :=
  ∃ lock ∈ database.locks, lock.active ∧ lock.ownerPlanId = planId

/-- Unreleased locks are those of a plan in execution, paused or in recovery. -/
def LockedWorking (database : Database) (planId : String) : Prop :=
  database.holdsLocks planId →
    ∃ plan, database.plan? planId = some plan ∧ plan.lifecycleState.locking

end Database

theorem listedLock_iff {database : Database} {planId : String} {lock : LockRecord} :
    lock ∈ database.listActiveLocks planId ↔
      lock ∈ database.locks ∧ lock.active ∧ lock.ownerPlanId = planId := by
  rw [mem_listActiveLocks, LockRecord.active, decide_eq_true_eq]

/-- What holds between the calls. -/
structure TokenDiscipline (database : Database) : Prop where
  settled : TokensSettled database
  working : ∀ planId, database.LockedWorking planId

/-- The token is drawn and not in use. -/
def DrawnFor (token : String) (database : Database) : Prop :=
  token ≠ "" ∧ ∀ lock ∈ database.locks, lock.ownerToken ≠ token

/-- The token fits the plan: it is its own, and that of its unreleased locks. -/
structure TokenFits (planId : String) (token : Option String) (database : Database) : Prop where
  present : token ≠ some ""
  owned : TokenOf planId token database
  current : ∀ lock ∈ database.locks, lock.active → lock.ownerPlanId = planId →
    ∀ other, token = some other → lock.ownerToken = other

/-! ### Writes under one token -/

/-- The writes leave other plans alone, and a lock after them was there, possibly unreleased, or
is one of the plan under the token. -/
structure WorksUnder (planId : String) (token : Option String) (before after : Database) :
    Prop where
  plans : ∀ other, other ≠ planId → after.plan? other = before.plan? other
  locks : ∀ lock ∈ after.locks,
    (∃ old ∈ before.locks, old.ownerPlanId = lock.ownerPlanId ∧
      old.ownerToken = lock.ownerToken ∧ (lock.active → old.active)) ∨
    lock.ownerPlanId = planId ∧ some lock.ownerToken = token

section Works

variable {planId : String} {token : Option String} {before after : Database}

theorem WorksUnder.of_same (plans : after.plans = before.plans)
    (locks : after.locks = before.locks) : WorksUnder planId token before after where
  plans other _ := by simp only [Database.plan?, plans]
  locks lock member := by
    rw [locks] at member
    exact .inl ⟨lock, member, rfl, rfl, id⟩

theorem WorksUnder.trans {between : Database} (first : WorksUnder planId token before between)
    (second : WorksUnder planId token between after) : WorksUnder planId token before after where
  plans other different := (second.plans other different).trans (first.plans other different)
  locks lock member := by
    rcases second.locks lock member with ⟨old, oldMember, samePlan, sameToken, kept⟩ | added
    · rcases first.locks old oldMember with ⟨older, olderMember, olderPlan, olderToken, keptOld⟩ |
        added
      · exact .inl ⟨older, olderMember, olderPlan.trans samePlan, olderToken.trans sameToken,
          fun isActive => keptOld (kept isActive)⟩
      · exact .inr ⟨samePlan ▸ added.1, sameToken ▸ added.2⟩
    · exact .inr added

theorem WorksUnder.lifecycle (database : Database) (target : MaintenanceState) :
    WorksUnder planId token database (database.setLifecycleState planId target) where
  plans _ different := plan?_setLifecycleState_other database target different
  locks lock member := .inl ⟨lock, member, rfl, rfl, id⟩

theorem WorksUnder.attach (database : Database) (runId : Nat) :
    WorksUnder planId token database (database.attachRunId planId runId) where
  plans _ different := plan?_attachRunId_other database runId different
  locks lock member := .inl ⟨lock, member, rfl, rfl, id⟩

theorem WorksUnder.addLock {owner : LockOwner} (onPlan : owner.planId = planId)
    (isToken : some owner.token = token) (added : AddsLockFor owner before after) :
    WorksUnder planId token before after := by
  obtain ⟨row, -, owns, rfl⟩ := added
  refine ⟨fun _ _ => rfl, fun lock member => ?_⟩
  rcases List.mem_append.mp member with old | new
  · exact .inl ⟨lock, old, rfl, rfl, id⟩
  · rw [List.mem_singleton.mp new]
    exact .inr ⟨owns.planId.trans onPlan, by rw [owns.token, isToken]⟩

/-- Locks that are revised, and at most released by it. -/
theorem WorksUnder.mapLocks {change : LockRecord → LockRecord}
    (kept : ∀ lock, (change lock).ownerPlanId = lock.ownerPlanId ∧
      (change lock).ownerToken = lock.ownerToken ∧ ((change lock).active → lock.active))
    (database : Database) : WorksUnder planId token database (database.mapLocks change) where
  plans _ _ := rfl
  locks lock member := by
    obtain ⟨old, oldMember, rfl⟩ := List.mem_map.mp member
    exact .inl ⟨old, oldMember, (kept old).1.symm, (kept old).2.1.symm, (kept old).2.2⟩

theorem WorksUnder.release (database : Database) (ownerToken : String) (now : Nat) :
    WorksUnder planId token database (database.mapLocks fun lock =>
      if lock.heldWith ownerToken then { lock with releasedAt := some now } else lock) := by
  refine .mapLocks (fun lock => ?_) database
  split
  · exact ⟨rfl, rfl, fun isActive => by simp [LockRecord.active] at isActive⟩
  · exact ⟨rfl, rfl, id⟩

/-- A program of such writes is one. -/
theorem WorksUnder.ofMoves {α : Type} {operation : Operation α}
    (moves : Moves (WorksUnder planId token) operation) (database : Database) :
    WorksUnder planId token database (operation.run database).2 :=
  moves.keeps (fun _ _ step works => works.trans step) (.of_same rfl rfl)

theorem WorksUnder.of_ran {α : Type} {operation : Operation α}
    {outcome : Outcome Fault α} (ran : operation.run before = (outcome, after))
    (moves : Moves (WorksUnder planId token) operation) :
    WorksUnder planId token before after := by
  have works := WorksUnder.ofMoves moves before
  rwa [ran] at works

/-- Writes without a token only release. -/
theorem WorksUnder.weaken (works : WorksUnder planId none before after) :
    WorksUnder planId token before after where
  plans := works.plans
  locks lock member := by
    rcases works.locks lock member with old | ⟨-, never⟩
    · exact .inl old
    · cases never

theorem WorksUnder.held (works : WorksUnder planId none before after) {other : String}
    (holds : after.holdsLocks other) : before.holdsLocks other := by
  obtain ⟨lock, member, isActive, isOther⟩ := holds
  rcases works.locks lock member with ⟨old, oldMember, samePlan, -, kept⟩ | ⟨-, never⟩
  · exact ⟨old, oldMember, kept isActive, samePlan.trans isOther⟩
  · cases never

/-- Tokens stay settled under a token that fits. -/
theorem WorksUnder.settled (works : WorksUnder planId token before after)
    (fits : TokenFits planId token before) (settled : TokensSettled before) :
    TokensSettled after where
  present lock member := by
    rcases works.locks lock member with ⟨old, oldMember, -, sameToken, -⟩ | ⟨-, isToken⟩
    · rw [← sameToken]
      exact settled.present old oldMember
    · intro empty
      rw [empty] at isToken
      exact fits.present isToken.symm
  owned := by
    have within : LocksWithin planId token before after := by
      intro lock member
      rcases works.locks lock member with ⟨old, oldMember, samePlan, sameToken, -⟩ | added
      · exact .inl ⟨old, oldMember, samePlan, sameToken⟩
      · exact .inr added
    exact within.tokensOwned fits.owned settled.owned
  single first firstMember second secondMember firstActive secondActive samePlan := by
    rcases works.locks first firstMember with ⟨old, oldMember, oldPlan, oldToken, kept⟩ |
      ⟨firstPlan, firstToken⟩
    · rcases works.locks second secondMember with
        ⟨other, otherMember, otherPlan, otherToken, keptOther⟩ | ⟨secondPlan, secondToken⟩
      · rw [← oldToken, ← otherToken]
        exact settled.single old oldMember other otherMember (kept firstActive)
          (keptOther secondActive) (oldPlan.trans (samePlan.trans otherPlan.symm))
      · rw [← oldToken]
        exact fits.current old oldMember (kept firstActive)
          (oldPlan.trans (samePlan.trans secondPlan)) _ secondToken.symm
    · rcases works.locks second secondMember with
        ⟨other, otherMember, otherPlan, otherToken, keptOther⟩ | ⟨-, secondToken⟩
      · rw [← otherToken]
        exact (fits.current other otherMember (keptOther secondActive)
          (otherPlan.trans (samePlan.symm.trans firstPlan)) _ firstToken.symm).symm
      · exact Option.some.inj (firstToken.trans secondToken.symm)

theorem TokenFits.none : TokenFits planId none before where
  present := nofun
  owned _ _ isToken := by cases isToken
  current _ _ _ _ _ isToken := by cases isToken

/-- Only the plan of the call can come to hold locks. -/
theorem WorksUnder.working (works : WorksUnder planId token before after)
    (working : ∀ other, before.LockedWorking other) (own : after.LockedWorking planId) :
    ∀ other, after.LockedWorking other := by
  intro other
  by_cases same : other = planId
  · subst same
    exact own
  · rintro ⟨lock, member, isActive, isOther⟩
    rw [works.plans other same]
    rcases works.locks lock member with ⟨old, oldMember, samePlan, -, kept⟩ | ⟨isPlan, -⟩
    · exact working other ⟨old, oldMember, kept isActive, samePlan.trans isOther⟩
    · exact absurd (isOther.symm.trans isPlan) same

/-- The discipline after a call on one plan. -/
theorem TokenDiscipline.works (discipline : TokenDiscipline before)
    (works : WorksUnder planId token before after) (fits : TokenFits planId token before)
    (own : after.LockedWorking planId) : TokenDiscipline after :=
  ⟨works.settled fits discipline.settled, works.working discipline.working own⟩

/-- The token of the first unreleased lock, or a drawn one, fits. -/
theorem TokensSettled.fits (settled : TokensSettled before) {generated : String}
    (drawn : DrawnFor generated before) :
    TokenFits planId
      (some (MaintenanceExecutionService.issuedToken before planId generated)) before := by
  cases isList : before.listActiveLocks planId with
  | nil =>
      have isDrawn : MaintenanceExecutionService.issuedToken before planId generated =
          generated := by
        simp [MaintenanceExecutionService.issuedToken, MaintenanceExecutionService.firstToken,
          isList]
      rw [isDrawn]
      refine ⟨fun empty => drawn.1 (Option.some.inj empty), ?_, ?_⟩
      · intro lock member isToken
        exact absurd (Option.some.inj isToken) (drawn.2 lock member)
      · intro lock member isActive isPlan
        have isListed := listedLock_iff.mpr ⟨member, isActive, isPlan⟩
        rw [isList] at isListed
        cases isListed
  | cons first others =>
      obtain ⟨firstMember, firstActive, firstPlan⟩ := listedLock_iff.mp (isList ▸ List.mem_cons_self)
      have isFirst : MaintenanceExecutionService.issuedToken before planId generated =
          first.ownerToken := by
        have nonempty := settled.present first firstMember
        simp [MaintenanceExecutionService.issuedToken, MaintenanceExecutionService.firstToken,
          isList, nonempty]
      rw [isFirst]
      refine ⟨fun empty => settled.present first firstMember (Option.some.inj empty), ?_, ?_⟩
      · intro lock member isToken
        rw [← firstPlan]
        exact settled.owned lock member first firstMember (Option.some.inj isToken)
      · rintro lock member isActive isPlan _ ⟨⟩
        exact settled.single lock member first firstMember isActive firstActive
          (isPlan.trans firstPlan.symm)

end Works

/-! ### Plans keep their state -/

/-- Every plan is there in the state that it had. -/
def StatesKept (before after : Database) : Prop :=
  ∀ planId, (after.plan? planId).map (·.lifecycleState) =
    (before.plan? planId).map (·.lifecycleState)

/-- The writes up to a transition: locks and runs, under one token. -/
structure LockStep (planId : String) (token : Option String) (before after : Database) : Prop where
  works : WorksUnder planId token before after
  states : StatesKept before after

section Steps

variable {planId : String} {token : Option String} {before after : Database}

theorem LockStep.of_same (plans : after.plans = before.plans)
    (locks : after.locks = before.locks) : LockStep planId token before after :=
  ⟨.of_same plans locks, fun _ => by simp only [Database.plan?, plans]⟩

theorem LockStep.trans {between : Database} (first : LockStep planId token before between)
    (second : LockStep planId token between after) : LockStep planId token before after :=
  ⟨first.works.trans second.works, fun other => (second.states other).trans (first.states other)⟩

theorem LockStep.of_ran {α : Type} {operation : Operation α}
    {outcome : Outcome Fault α} (ran : operation.run before = (outcome, after))
    (moves : Moves (LockStep planId token) operation) : LockStep planId token before after := by
  have start : LockStep planId token before before := .of_same rfl rfl
  have step := moves.keeps (fun _ _ step earlier => earlier.trans step) start
  rwa [ran] at step

theorem LockStep.attach (database : Database) (runId : Nat) :
    LockStep planId token database (database.attachRunId planId runId) := by
  refine ⟨.attach database runId, plan?_map_column rfl fun plan => ?_⟩
  split <;> exact ⟨rfl, rfl⟩

theorem LockStep.start {kind target : String} {context : Dict} {runId : Nat}
    (started : (Runs.startRun kind target context).run before = (.returned runId, after)) :
    LockStep planId token before after := by
  rw [startRun_run] at started
  cases started
  exact .of_same rfl rfl

theorem LockStep.addLock {owner : LockOwner} (onPlan : owner.planId = planId)
    (isToken : some owner.token = token) (added : AddsLockFor owner before after) :
    LockStep planId token before after := by
  refine ⟨.addLock onPlan isToken added, ?_⟩
  obtain ⟨row, -, -, rfl⟩ := added
  exact fun _ => rfl

theorem LockStep.release (database : Database) (lockId now : Nat) :
    LockStep planId token database (database.mapLocks fun other =>
      if other.id = lockId ∧ other.active then { other with releasedAt := some now }
      else other) := by
  refine ⟨.mapLocks (fun lock => ?_) database, fun _ => rfl⟩
  split
  · exact ⟨rfl, rfl, fun isActive => by simp [LockRecord.active] at isActive⟩
  · exact ⟨rfl, rfl, id⟩

/-- A plan keeps its state. -/
theorem StatesKept.plan (states : StatesKept before after) {plan : PlanRecord}
    (isPlan : before.plan? planId = some plan) :
    ∃ kept, after.plan? planId = some kept ∧ kept.lifecycleState = plan.lifecycleState := by
  have same := states planId
  rw [isPlan, Option.map_some, Option.map_eq_some_iff] at same
  exact same

end Steps

/-! ### Preparations -/

namespace MaintenanceExecutionService

variable {service : MaintenanceExecutionService}

theorem lockStep_admitsAttachment (planId : String) (token : Option String) :
    AdmitsAttachment planId (LockStep planId token) where
  runStatus _ _ := .of_same rfl rfl
  start started := .start started
  attach database runId := .attach database runId

/-- The token under which a preparation takes locks, if it takes any. -/
def preparedToken (action : MaintenanceAction) (database : Database) (planId generated : String) :
    Option String :=
  if action = .execute ∨ action = .recover then some (issuedToken database planId generated)
  else none

theorem prepareLocks_steps (plan : PlanRecord) (action : MaintenanceAction) (runId now : Nat)
    (generated : String) (database : Database) (stale : List LockRecord) :
    Moves (LockStep plan.id (preparedToken action database plan.id generated))
      (prepareLocks service plan action runId now generated (database.listActiveLocks plan.id)
        stale) := by
  rw [prepareLocks]
  by_cases acquires : action = .execute ∨ action = .recover
  · rw [preparedToken, if_pos acquires, if_pos acquires]
    by_cases fresh : stale = []
    · rw [if_pos fresh]
      refine .bind (.ofExcept _) fun requests => .bind ?_ fun _ => .pure ()
      exact (acquireLocks_adds _ _ _ _ _ _ _).mono fun _ _ added => .addLock rfl rfl added
    · rw [if_neg fresh]
      exact .pure ()
  · rw [if_neg acquires]
    exact .require _ _

/-- A preparation takes the locks, and then puts the plan into execution if its action executes. -/
theorem prepare_returned {planId : String} {action : MaintenanceAction} {now : Nat}
    {generated : String} {database after : Database} {ticket : MaintenanceActionTicket}
    (ran : (prepare service planId action now generated).run database =
      (.returned ticket, after)) :
    ∃ plan locked, database.plan? planId = some plan ∧ plan.lifecycleState ∈ action.states ∧
      LockStep planId (preparedToken action database planId generated) database locked ∧
      (action.executes = false ∧ after = locked ∨
        action.executes ∧ after = locked.setLifecycleState planId .executing ∧
          ∃ entered, after.plan? planId = some entered ∧ entered.lifecycleState = .executing) := by
  obtain ⟨plan, _, planRan, afterPlan⟩ := bind_eq_returned ran
  obtain ⟨isPlan, isSame⟩ := getPlan_returned planRan
  rw [isSame] at afterPlan
  obtain rfl := getPlan_id planRan
  obtain ⟨checked, _, wasRead, afterRead⟩ := bind_eq_returned afterPlan
  cases wasRead
  obtain ⟨_, _, passed, afterPassed⟩ := bind_eq_returned afterRead
  obtain ⟨isOk, isSame⟩ := ofExcept_eq_returned passed
  rw [isSame] at afterPassed
  have allowed : plan.lifecycleState ∈ action.states := by
    simp only [validate, validateLifecycle, check] at isOk
    by_contra other
    rw [if_neg (by simpa using other)] at isOk
    cases isOk
  obtain ⟨active, _, activeRead, afterActive⟩ := bind_eq_returned afterPassed
  cases activeRead
  obtain ⟨_, _, staleRan, afterStale⟩ := bind_eq_returned afterActive
  rw [(require_eq_returned staleRan).2] at afterStale
  obtain ⟨runId, attached, runRan, afterRun⟩ := bind_eq_returned afterStale
  obtain ⟨_, locked, locksRan, afterLocks⟩ := bind_eq_returned afterRun
  have first := LockStep.of_ran runRan (attachRun_moves
    (lockStep_admitsAttachment plan.id (preparedToken action database plan.id generated)) action)
  have second := LockStep.of_ran locksRan
    (prepareLocks_steps plan action runId now generated database _)
  obtain ⟨current, _, currentRan, afterCurrent⟩ := bind_eq_returned afterLocks
  rw [(getPlan_returned currentRan).2] at afterCurrent
  have onCurrent := getPlan_id currentRan
  refine ⟨plan, locked, isPlan, allowed, first.trans second, ?_⟩
  cases executes : action.executes with
  | false =>
      simp only [executes, Bool.false_eq_true, if_false] at afterCurrent
      obtain ⟨entered, _, enteredRan, ended⟩ := bind_eq_returned afterCurrent
      cases enteredRan
      cases ended
      exact .inl ⟨rfl, rfl⟩
  | true =>
      simp only [executes, if_true] at afterCurrent
      obtain ⟨entered, _, enteredRan, ended⟩ := bind_eq_returned afterCurrent
      cases ended
      obtain ⟨isAfter, _, _, _, isEntered, isRow⟩ := transitionPlan_returned enteredRan
      rw [onCurrent] at isAfter isEntered
      exact .inr ⟨rfl, isAfter, entered, isEntered, by rw [isRow]⟩

/-- A returned preparation keeps the discipline. -/
theorem prepare_discipline {planId : String} {action : MaintenanceAction} {now : Nat}
    {generated : String} {database after : Database} {ticket : MaintenanceActionTicket}
    (discipline : TokenDiscipline database) (drawn : DrawnFor generated database)
    (ran : (prepare service planId action now generated).run database =
      (.returned ticket, after)) : TokenDiscipline after := by
  obtain ⟨plan, locked, isPlan, allowed, step, ended⟩ := prepare_returned ran
  have fits : TokenFits planId (preparedToken action database planId generated) database := by
    unfold preparedToken
    split
    · exact discipline.settled.fits drawn
    · exact .none
  rcases ended with ⟨isQuiet, rfl⟩ | ⟨-, isAfter, entered, isEntered, isExecuting⟩
  · refine discipline.works step.works fits fun holds => ?_
    obtain ⟨kept, isKept, sameState⟩ := step.states.plan isPlan
    refine ⟨kept, isKept, ?_⟩
    rw [sameState]
    -- A cancellation takes no locks; the other actions need a plan that may hold some.
    cases action with
    | execute => cases isQuiet
    | resume => cases isQuiet
    | pause =>
        rw [List.mem_singleton.mp allowed]
        rfl
    | recover =>
        rw [List.mem_singleton.mp allowed]
        rfl
    | cancel =>
        have without : WorksUnder planId none database after := step.works
        obtain ⟨found, isFound, isLocking⟩ := discipline.working planId (without.held holds)
        rw [isPlan] at isFound
        cases isFound
        exact isLocking
  · have works := step.works.trans (.lifecycle locked .executing)
    rw [← isAfter] at works
    exact discipline.works works fits fun _ => ⟨entered, isEntered, by rw [isExecuting]; rfl⟩

/-! ### Results -/

variable {database after : Database}

theorem releaseLocks_returned {ownerToken : String} {now count : Nat}
    (ran : (releaseLocks ownerToken now).run database = (.returned count, after)) :
    after = database.mapLocks fun lock =>
      if lock.heldWith ownerToken then { lock with releasedAt := some now } else lock := by
  obtain ⟨_, _, heldRan, afterHeld⟩ := bind_eq_returned ran
  have isSame := (requireHeld_readOnly ownerToken now "release").returned heldRan
  rw [isSame] at afterHeld
  obtain ⟨_, _, countRan, afterCount⟩ := bind_eq_returned afterHeld
  cases countRan
  obtain ⟨_, _, updated, ended⟩ := bind_eq_returned afterCount
  cases updated
  cases ended
  rfl

/-- The locks of the plan are released, and no others. -/
theorem releaseLocks_exactly (settled : TokensSettled database) {planId : String} {now count : Nat}
    (ran : (releaseLocks (firstToken (database.listActiveLocks planId)) now).run database =
      (.returned count, after)) :
    after = database.mapLocks fun lock =>
      if lock.active ∧ lock.ownerPlanId = planId then { lock with releasedAt := some now }
      else lock := by
  rw [releaseLocks_returned ran]
  have same : ∀ lock ∈ database.locks,
      (lock.heldWith (firstToken (database.listActiveLocks planId)) = true ↔
        lock.active ∧ lock.ownerPlanId = planId) := by
    intro lock member
    rw [LockRecord.heldWith, Bool.and_eq_true, decide_eq_true_eq]
    cases isList : database.listActiveLocks planId with
    | nil =>
        constructor
        · rintro ⟨isToken, -⟩
          exact absurd isToken (settled.present lock member)
        · rintro ⟨isActive, isPlan⟩
          have isListed := listedLock_iff.mpr ⟨member, isActive, isPlan⟩
          rw [isList] at isListed
          cases isListed
    | cons first others =>
        obtain ⟨firstMember, firstActive, firstPlan⟩ :=
          listedLock_iff.mp (isList ▸ List.mem_cons_self)
        change lock.ownerToken = first.ownerToken ∧ lock.active ↔ _
        constructor
        · rintro ⟨isToken, isActive⟩
          exact ⟨isActive, (settled.owned lock member first firstMember isToken).trans firstPlan⟩
        · rintro ⟨isActive, isPlan⟩
          exact ⟨settled.single lock member first firstMember isActive firstActive
            (isPlan.trans firstPlan.symm), isActive⟩
  unfold Database.mapLocks
  congr 1
  apply List.map_congr_left
  intro lock member
  by_cases held : lock.active ∧ lock.ownerPlanId = planId
  · rw [if_pos held, if_pos ((same lock member).mpr held)]
  · rw [if_neg held, if_neg fun isHeld => held ((same lock member).mp isHeld)]

/-- After its locks are released a plan has none. -/
theorem releaseLocks_frees (settled : TokensSettled database) {planId : String} {now count : Nat}
    (ran : (releaseLocks (firstToken (database.listActiveLocks planId)) now).run database =
      (.returned count, after)) : ¬ after.holdsLocks planId := by
  rw [releaseLocks_exactly settled ran]
  rintro ⟨lock, member, isActive, isPlan⟩
  obtain ⟨old, oldMember, rfl⟩ := List.mem_map.mp member
  by_cases held : old.active ∧ old.ownerPlanId = planId
  · rw [if_pos held] at isActive
    simp [LockRecord.active] at isActive
  · rw [if_neg held] at isActive isPlan
    exact held ⟨isActive, isPlan⟩

theorem releaseActiveLocks_frees (settled : TokensSettled database) {planId : String} {now : Nat}
    (ran : (releaseActiveLocks planId now).run database = (.returned (), after)) :
    ¬ after.holdsLocks planId := by
  obtain ⟨active, _, activeRead, afterActive⟩ := bind_eq_returned ran
  cases activeRead
  split at afterActive
  · rename_i none
    cases afterActive
    rintro ⟨lock, member, isActive, isPlan⟩
    have isListed := listedLock_iff.mpr ⟨member, isActive, isPlan⟩
    exact List.ne_nil_of_mem isListed none
  · obtain ⟨_, _, freshRan, afterFresh⟩ := bind_eq_returned afterActive
    rw [(require_eq_returned freshRan).2] at afterFresh
    obtain ⟨_, _, released, ended⟩ := bind_eq_returned afterFresh
    cases ended
    exact releaseLocks_frees settled released

theorem getLock_steps (planId : String) (token : Option String) (lockId : Nat) :
    Moves (LockStep planId token) (getLock lockId) := by
  refine .bind (.read _) fun found => ?_
  cases found with
  | none => exact .raise _
  | some lock => exact .pure lock

/-- The recovery of expired locks releases locks only. -/
theorem recoverEachReported_steps (planId : String) (result : ReportedResult) (now : Nat)
    (locks : List LockRecord) :
    Moves (LockStep planId none) (recoverEachReported result now locks) := by
  induction locks with
  | nil => exact .pure ()
  | cons lock locks ih =>
      refine .bind ?_ fun _ => ih
      cases result.evidenceFor lock with
      | none => exact .raise _
      | some evidence =>
          cases evidence with
          | unwritable => exact .raise _
          | content observation =>
              refine .bind (.bind (.require _ _) fun _ => ?_) fun _ => .pure ()
              refine .bind (getLock_steps planId none lock.id) fun found => ?_
              refine .bind (.require _ _) fun _ => .bind (.require _ _) fun _ => ?_
              exact .bind (.update fun database => .release database lock.id now) fun _ =>
                getLock_steps planId none lock.id

/-- Expired locks are released, and taken again under the token of those that are left. -/
theorem recoverReportedLocks_discipline {plan : PlanRecord} {ticket : MaintenanceActionTicket}
    {result : ReportedResult} {now : Nat} {generated : String} (settled : TokensSettled database)
    (drawn : DrawnFor generated database)
    (ran : (recoverReportedLocks service plan ticket result now generated).run database =
      (.returned (), after)) :
    TokensSettled after ∧ StatesKept database after ∧
      (∀ other, other ≠ plan.id → after.plan? other = database.plan? other) ∧
      ∀ other, after.holdsLocks other → database.holdsLocks other := by
  obtain ⟨stale, _, staleRead, afterStale⟩ := bind_eq_returned ran
  cases staleRead
  obtain ⟨_, _, evidenceRan, afterEvidence⟩ := bind_eq_returned afterStale
  rw [(require_eq_returned evidenceRan).2] at afterEvidence
  obtain ⟨_, released, releaseRan, afterRelease⟩ := bind_eq_returned afterEvidence
  have release := LockStep.of_ran releaseRan (recoverEachReported_steps plan.id result now _)
  have settledReleased := release.works.settled .none settled
  split at afterRelease
  · cases afterRelease
    exact ⟨settledReleased, release.states, release.works.plans, fun _ => release.works.held⟩
  · rename_i expired
    obtain ⟨remaining, _, remainingRead, afterRemaining⟩ := bind_eq_returned afterRelease
    cases remainingRead
    obtain ⟨requests, _, requestsRan, afterRequests⟩ := bind_eq_returned afterRemaining
    rw [(ofExcept_eq_returned requestsRan).2] at afterRequests
    obtain ⟨_, _, acquired, ended⟩ := bind_eq_returned afterRequests
    cases ended
    have drawnReleased : DrawnFor generated released := by
      refine ⟨drawn.1, fun lock member isToken => ?_⟩
      rcases release.works.locks lock member with ⟨old, oldMember, -, sameToken, -⟩ | ⟨-, never⟩
      · exact drawn.2 old oldMember (sameToken.trans isToken)
      · cases never
    have fits : TokenFits plan.id (some (issuedToken released plan.id generated)) released :=
      settledReleased.fits drawnReleased
    have acquire : LockStep plan.id (some (issuedToken released plan.id generated)) released
        after :=
      .of_ran acquired ((acquireLocks_adds _ _ _ _ _ _ _).mono fun _ _ added =>
        .addLock rfl rfl added)
    refine ⟨acquire.works.settled fits settledReleased,
      fun other => (acquire.states other).trans (release.states other),
      fun other different => (acquire.works.plans other different).trans
        (release.works.plans other different), ?_⟩
    rintro other ⟨lock, member, isActive, isOther⟩
    rcases acquire.works.locks lock member with ⟨old, oldMember, samePlan, -, kept⟩ | ⟨isPlan, -⟩
    · exact release.works.held ⟨old, oldMember, kept isActive, samePlan.trans isOther⟩
    · -- Locks are taken again only where some of the plan had expired.
      obtain ⟨first, isFirst⟩ := List.exists_mem_of_ne_nil _ expired
      have listed := listedLock_iff.mp (List.mem_filter.mp isFirst).1
      exact ⟨first, listed.1, listed.2.1, listed.2.2.trans (isPlan.symm.trans isOther)⟩

theorem transitionPlan_works (planId : String) (revision : Nat) (target : MaintenanceState) :
    Moves (WorksUnder planId none) (transitionPlan planId revision target) :=
  transitionPlan_moves fun database => .lifecycle database target

/-- The plan of a result is in the state that was asked for, or in its own. -/
theorem applyResult_returned {plan reached : PlanRecord} {target : Option MaintenanceState}
    (isPlan : database.plan? plan.id = some plan)
    (ran : (applyResult plan target).run database = (.returned reached, after)) :
    after.plan? plan.id = some reached ∧ reached.id = plan.id ∧
      reached.lifecycleState = target.getD plan.lifecycleState ∧
      WorksUnder plan.id none database after := by
  have transitioned {found moved : PlanRecord} {state : MaintenanceState} {first second : Database}
      (onPlan : found.id = plan.id)
      (moveRan : (transitionPlan found.id found.stateRevision state).run first =
        (.returned moved, second)) :
      second.plan? plan.id = some moved ∧ moved.id = plan.id ∧ moved.lifecycleState = state ∧
        WorksUnder plan.id none first second := by
    rw [onPlan] at moveRan
    obtain ⟨_, current, isCurrent, _, isMoved, rfl⟩ := transitionPlan_returned moveRan
    refine ⟨isMoved, ?_, rfl, .of_ran moveRan (transitionPlan_works _ _ _)⟩
    exact plan?_id isMoved
  cases target with
  | none =>
      cases ran
      exact ⟨isPlan, rfl, rfl, .of_same rfl rfl⟩
  | some state =>
      simp only [applyResult] at ran
      split at ran
      · rename_i same
        cases ran
        exact ⟨isPlan, rfl, same.symm, .of_same rfl rfl⟩
      · simp only [transitionForResult] at ran
        split at ran
        · obtain ⟨paused, between, pausedRan, cancelRan⟩ := bind_eq_returned ran
          obtain ⟨-, onPaused, -, firstWorks⟩ := transitioned rfl pausedRan
          obtain ⟨isReached, onReached, isState, secondWorks⟩ := transitioned onPaused cancelRan
          exact ⟨isReached, onReached, isState, firstWorks.trans secondWorks⟩
        · exact transitioned rfl ran

/-- An adapter takes a plan into no other state than one in which it holds locks, or an end. -/
theorem state_cases {result : ReportedResult} {action : MaintenanceAction}
    {target : Option MaintenanceState} (isTarget : result.state action = .ok target) :
    target = none ∨ ∃ state, target = some state ∧ (state.locking ∨ terminal state) := by
  have listed : target ∈ action.resultStates := by
    have resulted {reported : AdapterResult} (ran : resultState action reported = .ok target) :
        target ∈ action.resultStates := by
      simp only [resultState] at ran
      split at ran
      · rename_i member
        cases ran
        exact member
      · cases ran
    unfold ReportedResult.state at isTarget
    split at isTarget
    · exact resulted isTarget
    · split at isTarget
      · exact resulted isTarget
      · cases isTarget
  cases action <;> simp only [MaintenanceAction.resultStates, List.mem_cons, List.not_mem_nil,
    or_false] at listed <;> rcases listed with rfl | rfl | rfl | rfl | rfl <;>
    simp [MaintenanceState.locking, terminal]

/-- What follows the recovery of expired locks. -/
theorem concludeReported_discipline {ticket : MaintenanceActionTicket} {result : ReportedResult}
    {now : Nat} {closing : Except Fault Nat} {answer : PlanRecord}
    (discipline : TokenDiscipline database)
    (ran : (concludeReported ticket result now closing).run database =
      (.returned answer, after)) : TokenDiscipline after := by
  obtain ⟨plan, _, planRan, afterPlan⟩ := bind_eq_returned ran
  obtain ⟨isPlan, isSame⟩ := getPlan_returned planRan
  rw [isSame] at afterPlan
  have onPlan := getPlan_id planRan
  rw [← onPlan] at isPlan
  obtain ⟨target, _, targetRan, afterTarget⟩ := bind_eq_returned afterPlan
  obtain ⟨isTarget, isSame⟩ := ofExcept_eq_returned targetRan
  rw [isSame] at afterTarget
  obtain ⟨reached, moved, reachedRan, afterReached⟩ := bind_eq_returned afterTarget
  obtain ⟨isReached, onReached, isState, works⟩ := applyResult_returned isPlan reachedRan
  have settled := works.settled .none discipline.settled
  have closes (closed : Database)
      (closeRan : (do
        updateRun ticket.runId reached.lifecycleState closing
        getPlan reached.id : Operation PlanRecord).run closed = (.returned answer, after)) :
      LockStep plan.id none closed after := by
    refine .of_ran closeRan (.bind ?_ fun _ => getPlan_moves _)
    simp only [updateRun]
    split
    · exact .bind (.ofExcept _) fun _ => .update fun _ => .of_same rfl rfl
    · exact .update fun _ => .of_same rfl rfl
  by_cases ends : terminal reached.lifecycleState
  · simp only [if_pos ends] at afterReached
    obtain ⟨_, released, releaseRan, closeRan⟩ := bind_eq_returned afterReached
    have release : WorksUnder plan.id none moved released :=
      .of_ran releaseRan (releaseActiveLocks_moves (fun database token now =>
        .release database token now) _ _)
    have closed := closes released closeRan
    rw [onReached] at releaseRan
    refine discipline.works ((works.trans release).trans closed.works) .none fun holds => ?_
    exact absurd (closed.works.held holds) (releaseActiveLocks_frees settled releaseRan)
  · simp only [if_neg ends] at afterReached
    have closed := closes moved afterReached
    refine discipline.works (works.trans closed.works) .none fun holds => ?_
    obtain ⟨kept, isKept, sameState⟩ := closed.states.plan isReached
    refine ⟨kept, isKept, ?_⟩
    rw [sameState]
    obtain ⟨found, isFound, isLocking⟩ :=
      discipline.working plan.id (works.held (closed.works.held holds))
    rw [isPlan] at isFound
    cases isFound
    rcases state_cases isTarget with rfl | ⟨state, rfl, stays | ended⟩
    · rw [isState]
      exact isLocking
    · rw [isState]
      exact stays
    · rw [isState] at ends
      exact absurd ended ends

/-- A returned `finalize` keeps the discipline. -/
theorem finalizeReported_discipline {ticket : MaintenanceActionTicket} {result : ReportedResult}
    {readings : ClockReadings} {generated : String} {answer : PlanRecord}
    (discipline : TokenDiscipline database) (drawn : DrawnFor generated database)
    (ran : (finalizeReported service ticket result readings generated).run database =
      (.returned answer, after)) : TokenDiscipline after := by
  obtain ⟨found, _, foundRan, afterFound⟩ := bind_eq_returned ran
  obtain ⟨isFound, isSame⟩ := getPlan_returned foundRan
  rw [isSame] at afterFound
  obtain ⟨_, _, validRan, afterValid⟩ := bind_eq_returned afterFound
  rw [(ofExcept_eq_returned validRan).2] at afterValid
  obtain ⟨now, _, nowRan, afterNow⟩ := bind_eq_returned afterValid
  rw [(ofExcept_eq_returned nowRan).2] at afterNow
  split at afterNow
  · obtain ⟨_, recovered, recoverRan, concludeRan⟩ := bind_eq_returned afterNow
    obtain ⟨settled, states, -, held⟩ :=
      recoverReportedLocks_discipline discipline.settled drawn recoverRan
    refine concludeReported_discipline ⟨settled, fun other holds => ?_⟩ concludeRan
    obtain ⟨plan, isPlan, isLocking⟩ := discipline.working other (held other holds)
    obtain ⟨kept, isKept, sameState⟩ := states.plan isPlan
    exact ⟨kept, isKept, by rw [sameState]; exact isLocking⟩
  · exact concludeReported_discipline discipline afterNow

/-- A returned `fail` keeps the discipline. -/
theorem fail_discipline {ticket : MaintenanceActionTicket} {answer : PlanRecord}
    (discipline : TokenDiscipline database)
    (ran : (fail service ticket).run database = (.returned answer, after)) :
    TokenDiscipline after := by
  obtain ⟨plan, _, planRan, afterPlan⟩ := bind_eq_returned ran
  obtain ⟨isPlan, isSame⟩ := getPlan_returned planRan
  rw [isSame] at afterPlan
  have onPlan := getPlan_id planRan
  rw [← onPlan] at isPlan
  obtain ⟨_, _, validRan, afterValid⟩ := bind_eq_returned afterPlan
  rw [(ofExcept_eq_returned validRan).2] at afterValid
  have closes (moved : Database)
      (closeRan : (do
        update (Database.setRunStatus ticket.runId .recoveryRequired)
        getPlan plan.id : Operation PlanRecord).run moved = (.returned answer, after)) :
      LockStep plan.id none moved after :=
    .of_ran closeRan (.bind (.update fun _ => .of_same rfl rfl) fun _ => getPlan_moves _)
  cases isTarget : failedState plan.lifecycleState with
  | none =>
      simp only [isTarget] at afterValid
      have closed := closes database afterValid
      refine discipline.works closed.works .none fun holds => ?_
      obtain ⟨found, isFound, isLocking⟩ := discipline.working plan.id (closed.works.held holds)
      obtain ⟨kept, isKept, sameState⟩ := closed.states.plan isFound
      exact ⟨kept, isKept, by rw [sameState]; exact isLocking⟩
  | some target =>
      simp only [isTarget] at afterValid
      obtain ⟨reached, moved, reachedRan, closeRan⟩ := bind_eq_returned afterValid
      obtain ⟨_, _, _, _, isReached, isRow⟩ := transitionPlan_returned reachedRan
      have works : WorksUnder plan.id none database moved :=
        .of_ran reachedRan (transitionPlan_works _ _ _)
      have closed := closes moved closeRan
      refine discipline.works (works.trans closed.works) .none fun holds => ?_
      obtain ⟨kept, isKept, sameState⟩ := closed.states.plan isReached
      refine ⟨kept, isKept, ?_⟩
      obtain ⟨found, isFound, isLocking⟩ :=
        discipline.working plan.id (works.held (closed.works.held holds))
      rw [isPlan] at isFound
      cases isFound
      rw [sameState, isRow]
      -- A ready plan would be blocked, but it holds no locks.
      revert isTarget isLocking
      cases plan.lifecycleState <;> simp [failedState, MaintenanceState.locking] <;>
        rintro rfl <;> rfl

end MaintenanceExecutionService

/-- Locks that are at most released keep the discipline when plans keep their states. -/
theorem LockStep.discipline {planId : String} {before after : Database}
    (step : LockStep planId none before after) (discipline : TokenDiscipline before) :
    TokenDiscipline after := by
  refine discipline.works step.works .none fun holds => ?_
  obtain ⟨plan, isPlan, isLocking⟩ := discipline.working planId (step.works.held holds)
  obtain ⟨kept, isKept, sameState⟩ := step.states.plan isPlan
  exact ⟨kept, isKept, by rw [sameState]; exact isLocking⟩

/-! ### The manual mode -/

theorem getHostState_steps (planId : String) (token : Option String) (nodeId : Nat) :
    Moves (LockStep planId token) (getHostState nodeId) :=
  getHostState_moves fun _ _ => .of_same rfl rfl

theorem transitionHostState_steps (planId : String) (token : Option String) (nodeId revision : Nat)
    (target : HostMaintenanceState) (owner : Option String) :
    Moves (LockStep planId token) (transitionHostState nodeId revision target owner) :=
  transitionHostState_moves (fun _ _ => .of_same rfl rfl) fun _ _ _ => .of_same rfl rfl

namespace ManualMaintenanceService

open MaintenanceExecutionService (firstToken releaseLocks_frees transitionPlan_works
  releaseLocks_moves plan?_id)

variable {host : HostStateRecord} {plan : PlanRecord} {database after : Database}
  {answer : ManualResponse}

theorem settleRun_steps (token : Option String) (status : RunStatus) :
    Moves (LockStep plan.id token) (settleRun plan status) := by
  simp only [settleRun]
  split
  · exact .update fun _ => .of_same rfl rfl
  · exact .pure ()

/-- A recovery is recorded on the plan. -/
theorem recordRecovery_recovers {reason : String}
    (ran : (recordRecovery host plan reason).run database = (.returned answer, after)) :
    WorksUnder plan.id none database after ∧
      ∃ kept, after.plan? plan.id = some kept ∧ kept.lifecycleState = .recoveryRequired := by
  obtain ⟨recovery, first, hostRan, afterHost⟩ := bind_eq_returned ran
  obtain ⟨recovering, second, planRan, afterPlan⟩ := bind_eq_returned afterHost
  obtain ⟨_, third, runRan, ended⟩ := bind_eq_returned afterPlan
  cases ended
  obtain ⟨_, _, _, _, isRecovering, isRow⟩ := transitionPlan_returned planRan
  have opens := LockStep.of_ran hostRan (transitionHostState_steps plan.id none _ _ _ _)
  have moves : WorksUnder plan.id none first second := .of_ran planRan (transitionPlan_works _ _ _)
  have closes := LockStep.of_ran runRan (settleRun_steps none _)
  refine ⟨(opens.works.trans moves).trans closes.works, ?_⟩
  obtain ⟨kept, isKept, sameState⟩ := closes.states.plan isRecovering
  exact ⟨kept, isKept, by rw [sameState, isRow]⟩

theorem leaveHost_works (ownerToken : String) (now : Nat) :
    Moves (WorksUnder plan.id none) (leaveHost host plan ownerToken now) := by
  refine .bind (releaseLocks_moves (fun database token now => .release database token now) _ _)
    fun _ => ?_
  refine .bind ((transitionHostState_steps plan.id none _ _ _ _).mono fun _ _ step => step.works)
    fun available => ?_
  refine .bind (transitionPlan_works _ _ _) fun completed => ?_
  exact .bind ((settleRun_steps none _).mono fun _ _ step => step.works) fun _ => .pure _

/-- A host that was left has released the locks of its plan. -/
theorem leaveHost_frees (settled : TokensSettled database) {now : Nat}
    (ran : (leaveHost host plan (firstToken (database.listActiveLocks plan.id)) now).run database =
      (.returned answer, after)) : ¬ after.holdsLocks plan.id := by
  obtain ⟨_, released, releaseRan, afterRelease⟩ := bind_eq_returned ran
  have rest : WorksUnder plan.id none released after := by
    refine .of_ran afterRelease ?_
    refine .bind ((transitionHostState_steps plan.id none _ _ _ _).mono fun _ _ step => step.works)
      fun available => ?_
    refine .bind (transitionPlan_works _ _ _) fun completed => ?_
    exact .bind ((settleRun_steps none _).mono fun _ _ step => step.works) fun _ => .pure _
  exact fun holds => releaseLocks_frees settled releaseRan (rest.held holds)

theorem exitPlan_discipline {healthy : Bool} {now : Nat} (discipline : TokenDiscipline database)
    (ran : (exitPlan host plan healthy now).run database = (.returned answer, after)) :
    TokenDiscipline after := by
  have recovers {reason : String} {between : Database}
      (works : WorksUnder plan.id none database between)
      (recoverRan : (recordRecovery host plan reason).run between = (.returned answer, after)) :
      TokenDiscipline after := by
    obtain ⟨later, kept, isKept, isRecovering⟩ := recordRecovery_recovers recoverRan
    exact discipline.works (works.trans later) .none fun _ =>
      ⟨kept, isKept, by rw [isRecovering]; rfl⟩
  simp only [exitPlan] at ran
  split at ran
  · exact recovers (.of_same rfl rfl) ran
  · obtain ⟨locks, _, locksRead, afterLocks⟩ := bind_eq_returned ran
    cases locksRead
    split at afterLocks
    · exact recovers (.of_same rfl rfl) afterLocks
    · obtain ⟨left, between, leftRan, afterLeft⟩ := bind_eq_returned afterLocks
      have works : WorksUnder plan.id none database between :=
        .of_ran leftRan (.attempt (leaveHost_works _ now))
      cases left with
      | ok left =>
          cases afterLeft
          refine discipline.works works .none fun holds => ?_
          exact absurd holds (leaveHost_frees discipline.settled (attempt_eq_returned leftRan))
      | error error =>
          dsimp only at afterLeft
          split at afterLeft
          · exact recovers works afterLeft
          · cases afterLeft

theorem exit_discipline {nodeId : Nat} {healthy : Bool} {now : Nat}
    (discipline : TokenDiscipline database)
    (ran : (exit nodeId healthy now).run database = (.returned answer, after)) :
    TokenDiscipline after := by
  obtain ⟨host, opened, hostRan, afterHost⟩ := bind_eq_returned ran
  have opens := (LockStep.of_ran hostRan (getHostState_steps "" none nodeId)).discipline discipline
  split at afterHost
  · cases afterHost
    exact opens
  · split at afterHost
    · obtain ⟨plan, _, planRan, exitRan⟩ := bind_eq_returned afterHost
      rw [(getPlan_returned planRan).2] at exitRan
      exact exitPlan_discipline opens exitRan
    · cases afterHost

/-- Plans that were found stay found. -/
theorem plansByLocks_ne_nil {scope : MaintenanceConflicts.HostScope} {nodeId : Nat}
    {excluded : Option String} {locks : List LockRecord} {relevant : List String}
    (nonempty : relevant ≠ []) :
    MaintenanceConflicts.plansByLocks scope nodeId excluded relevant locks ≠ [] := by
  unfold MaintenanceConflicts.plansByLocks
  generalize locks.filter (·.active) = active
  induction active generalizing relevant with
  | nil => exact nonempty
  | cons lock active ih =>
      rw [List.foldl_cons]
      apply ih
      split
      · exact nonempty
      · split
        · simp
        · exact nonempty

/-- A host without conflicts is not the target of an active plan. -/
theorem unobserved_inactive {nodeId : Nat}
    (observed : MaintenanceConflicts.observeConflicts database nodeId none none = .ok false) :
    ∀ plan ∈ database.plans, plan.targetNodeId = some nodeId →
      plan.lifecycleState.active = false := by
  intro plan member onNode
  by_contra isActive
  simp only [MaintenanceConflicts.observeConflicts] at observed
  split at observed
  · cases observed
  · rename_i node _
    have covers : plan ∈ database.plans.filter fun plan =>
        some plan.id ≠ none &&
          MaintenanceConflicts.coversPlan (MaintenanceConflicts.hostScope database node) nodeId
            plan := by
      rw [List.mem_filter]
      refine ⟨member, ?_⟩
      simpa [MaintenanceConflicts.coversPlan, onNode] using isActive
    have planned := List.ne_nil_of_mem (List.mem_map_of_mem (f := (·.id)) covers)
    have none := Except.ok.inj observed
    rw [Bool.or_eq_false_iff, Bool.or_eq_false_iff, Bool.or_eq_false_iff] at none
    exact plansByLocks_ne_nil planned (by simpa using none.1.1.1)

/-- The plan of an entry is about its host. -/
theorem createPlan_target {entry : ManualEntry} {clusterIds : List Nat} {now : Nat}
    {created : PlanRecord}
    (ran : (MaintenanceStore.createPlan entry.existing
        (manualPlan entry clusterIds now)).run database = (.returned created, after)) :
    created.targetNodeId = some entry.nodeId := by
  simp only [MaintenanceStore.createPlan] at ran
  split at ran
  · obtain ⟨plan, _, _, afterPlan⟩ := bind_eq_returned ran
    obtain ⟨_, _, sameRan, ended⟩ := bind_eq_returned afterPlan
    have isSame := (require_eq_returned sameRan).1
    cases ended
    simp only [MaintenanceStore.sameRequest, Bool.and_eq_true, decide_eq_true_eq] at isSame
    exact isSame.1.1.1.1.2
  · obtain ⟨free, _, wasRead, afterRead⟩ := bind_eq_returned ran
    cases wasRead
    obtain ⟨_, _, freeRan, afterFree⟩ := bind_eq_returned afterRead
    obtain ⟨isFree, isSame⟩ := require_eq_returned freeRan
    rw [isSame] at afterFree
    obtain ⟨_, _, added, planRan⟩ := bind_eq_returned afterFree
    cases added
    obtain ⟨isPlan, -⟩ := getPlan_returned planRan
    rw [Bool.and_eq_true, Option.isNone_iff_eq_none] at isFree
    have missing := isFree.1
    simp only [Database.plan?] at missing
    simp only [Database.plan?, Database.addPlan, List.find?_append, missing] at isPlan
    obtain rfl : manualPlan entry clusterIds now = created := by simpa using isPlan
    rfl

/-- The plan of an entry holds no locks before the host lock is taken: a new plan has none, and
one that is there would be a conflict. -/
theorem createPlan_unlocked {entry : ManualEntry} {clusterIds : List Nat} {now : Nat}
    {created : PlanRecord} (discipline : TokenDiscipline database)
    (observed : MaintenanceConflicts.observeConflicts database entry.nodeId none none = .ok false)
    (ran : (MaintenanceStore.createPlan entry.existing
        (manualPlan entry clusterIds now)).run database = (.returned created, after)) :
    ¬ database.holdsLocks created.id := by
  intro holds
  obtain ⟨plan, isPlan, isLocking⟩ := discipline.working created.id holds
  obtain ⟨-, isCreated, isBetween, -⟩ := createPlan_manual ran
  rcases isBetween with rfl | ⟨missing, -⟩
  · rw [isPlan] at isCreated
    cases isCreated
    have inactive := unobserved_inactive observed created (List.mem_of_find?_eq_some isPlan)
      (createPlan_target ran)
    revert isLocking inactive
    cases created.lifecycleState <;> simp [MaintenanceState.locking, MaintenanceState.active]
  · rw [isPlan] at missing
    cases missing

theorem enterHost_discipline {entry : ManualEntry} {node : NodeRow} {clusterIds : List Nat}
    {hostRevision now : Nat} (discipline : TokenDiscipline database)
    (drawn : DrawnFor entry.ownerToken database)
    (observed : MaintenanceConflicts.observeConflicts database entry.nodeId none none = .ok false)
    (ran : (enterHost entry node clusterIds hostRevision now).run database =
      (.returned answer, after)) : TokenDiscipline after := by
  obtain ⟨created, between, createdRan, afterCreated⟩ := bind_eq_returned ran
  have unlocked := createPlan_unlocked discipline observed createdRan
  obtain ⟨-, -, isBetween, others⟩ := createPlan_manual createdRan
  have locks : between.locks = database.locks := by
    rcases isBetween with rfl | ⟨-, rfl⟩ <;> rfl
  have created_works : WorksUnder created.id none database between :=
    ⟨others, fun lock member => .inl ⟨lock, locks ▸ member, rfl, rfl, id⟩⟩
  have before : TokenDiscipline between :=
    discipline.works created_works .none fun holds => absurd (created_works.held holds) unlocked
  have fits : TokenFits created.id (some entry.ownerToken) between := by
    refine ⟨fun empty => drawn.1 (Option.some.inj empty), ?_, ?_⟩
    · intro lock member isToken
      exact absurd (Option.some.inj isToken) (drawn.2 lock (locks ▸ member))
    · intro lock member isActive isPlan
      exact absurd (created_works.held ⟨lock, member, isActive, isPlan⟩) unlocked
  obtain ⟨plan, moved, planRan, afterPlan⟩ := bind_eq_returned afterCreated
  obtain ⟨_, _, _, _, isPlan, isRow⟩ := transitionPlan_returned planRan
  have moves : WorksUnder created.id none between moved :=
    .of_ran planRan (transitionPlan_works _ _ _)
  have onPlan : plan.id = created.id := plan?_id isPlan
  have rest : LockStep created.id (some entry.ownerToken) moved after := by
    rw [onPlan] at afterPlan
    refine .of_ran afterPlan (.bind ?_ fun runId => ?_)
    · intro database
      rw [startRun_run]
      exact .single (.of_same rfl rfl)
    refine .bind (.bind (.read _) fun attachable => .bind (.require _ _) fun _ =>
      .update fun database => .attach database runId) fun _ => ?_
    refine .bind ((acquireLocks_adds _ _ _ _ _ _ _).mono fun _ _ added =>
      .addLock rfl rfl added) fun _ => ?_
    refine .bind (transitionHostState_steps _ _ _ _ _ _) fun planning => ?_
    refine .bind (transitionHostState_steps _ _ _ _ _ _) fun active => ?_
    exact .bind (getPlan_moves _) fun _ => .pure _
  refine before.works (moves.weaken.trans rest.works) fits fun _ => ?_
  obtain ⟨kept, isKept, sameState⟩ := rest.states.plan isPlan
  exact ⟨kept, isKept, by rw [sameState, isRow]; rfl⟩

theorem enter_discipline {entry : ManualEntry} {now : Nat} (discipline : TokenDiscipline database)
    (drawn : DrawnFor entry.ownerToken database)
    (ran : (enter entry now).run database = (.returned answer, after)) :
    TokenDiscipline after := by
  obtain ⟨_, _, reasonRan, afterReason⟩ := bind_eq_returned ran
  rw [(require_eq_returned reasonRan).2] at afterReason
  obtain ⟨_, _, durationRan, afterDuration⟩ := bind_eq_returned afterReason
  rw [(require_eq_returned durationRan).2] at afterDuration
  obtain ⟨found, _, wasRead, afterNode⟩ := bind_eq_returned afterDuration
  cases wasRead
  split at afterNode
  · cases afterNode
  obtain ⟨host, opened, hostRan, afterHost⟩ := bind_eq_returned afterNode
  have opens := (LockStep.of_ran hostRan (getHostState_steps "" none entry.nodeId))
  have before := opens.discipline discipline
  have drawnOpened : DrawnFor entry.ownerToken opened := by
    rw [DrawnFor, ManualCall.getHostState_locks hostRan]
    exact drawn
  split at afterHost
  · obtain ⟨plan, _, planRan, ended⟩ := bind_eq_returned afterHost
    cases ended
    rw [(getPlan_returned planRan).2]
    exact before
  · obtain ⟨_, _, availableRan, afterAvailable⟩ := bind_eq_returned afterHost
    rw [(require_eq_returned availableRan).2] at afterAvailable
    obtain ⟨observed, _, observedRan, afterObserved⟩ := bind_eq_returned afterAvailable
    cases observedRan
    obtain ⟨conflicts, _, conflictsRan, afterConflicts⟩ := bind_eq_returned afterObserved
    obtain ⟨isObserved, isSame⟩ := ofExcept_eq_returned conflictsRan
    rw [isSame] at afterConflicts
    obtain ⟨_, _, freeRan, afterFree⟩ := bind_eq_returned afterConflicts
    obtain ⟨isFree, isSame⟩ := require_eq_returned freeRan
    rw [isSame] at afterFree
    obtain ⟨clusterIds, _, clustersRan, atomicRan⟩ := bind_eq_returned afterFree
    cases clustersRan
    have none : conflicts = false := by simpa using isFree
    rw [none] at isObserved
    exact enterHost_discipline before drawnOpened isObserved (atomically_eq_returned atomicRan)

end ManualMaintenanceService

/-! ### Runs of calls -/

/-- The calls that take and release the locks of plans. -/
inductive TokenCall where
  | prepare (service : MaintenanceExecutionService) (planId : String)
      (action : MaintenanceAction) (opening : Except Fault Nat) (generated : String)
  | finalize (service : MaintenanceExecutionService) (ticket : MaintenanceActionTicket)
      (result : ReportedResult) (readings : ClockReadings) (generated : String)
  | fail (service : MaintenanceExecutionService) (ticket : MaintenanceActionTicket)
  | manual (call : ManualCall)

namespace TokenCall

/-- A call on a connection of its own, which an exception rolls back. -/
def perform (database : Database) : TokenCall → Database
  | prepare service planId action opening generated =>
      settleCall (service.prepareRead planId action opening generated)
  | finalize service ticket result readings generated =>
      settleCall (service.finalizeReported ticket result readings generated)
  | fail service ticket => settleCall (service.fail ticket)
  | manual call => (call.perform database).2
where
  settleCall {α : Type} (operation : Operation α) : Database :=
    match operation.run database with
    | (.returned _, after) => after
    | (.raised _, _) | (.stopped, _) => database

/-- The token that a call may draw is new. -/
def Drawn (call : TokenCall) (database : Database) : Prop :=
  match call with
  | prepare _ _ _ _ generated => DrawnFor generated database
  | finalize _ _ _ _ generated => DrawnFor generated database
  | manual (.enter entry _) => DrawnFor entry.ownerToken database
  | _ => True

theorem settleCall_keeps {α : Type} {kept : Database → Prop} {database : Database}
    {operation : Operation α} (start : kept database)
    (returns : ∀ value after, operation.run database = (.returned value, after) → kept after) :
    kept (perform.settleCall database operation) := by
  unfold perform.settleCall
  split
  · rename_i value after ran
    exact returns value after ran
  · exact start
  · exact start

/-- Each call keeps the discipline. -/
theorem perform_discipline {call : TokenCall} {database : Database}
    (discipline : TokenDiscipline database) (drawn : call.Drawn database) :
    TokenDiscipline (call.perform database) := by
  cases call with
  | prepare service planId action opening generated =>
      refine settleCall_keeps discipline fun ticket after ran => ?_
      obtain ⟨_, _, planRan, afterPlan⟩ := bind_eq_returned ran
      rw [(getPlan_returned planRan).2] at afterPlan
      obtain ⟨now, _, nowRan, prepareRan⟩ := bind_eq_returned afterPlan
      rw [(ofExcept_eq_returned nowRan).2] at prepareRan
      exact MaintenanceExecutionService.prepare_discipline discipline drawn prepareRan
  | finalize service ticket result readings generated =>
      exact settleCall_keeps discipline fun _ _ =>
        MaintenanceExecutionService.finalizeReported_discipline discipline drawn
  | fail service ticket =>
      exact settleCall_keeps discipline fun _ _ =>
        MaintenanceExecutionService.fail_discipline discipline
  | manual call =>
      simp only [perform, ManualCall.perform]
      split
      · rename_i answer after ran
        cases call with
        | enter entry now => exact ManualMaintenanceService.enter_discipline discipline drawn ran
        | exit nodeId healthy now => exact ManualMaintenanceService.exit_discipline discipline ran
      · exact discipline
      · exact discipline

end TokenCall

/-- The states that planning and the calls reach from one without locks. -/
inductive TokenReached : Database → Prop where
  | start {database : Database} (locks : database.locks = []) : TokenReached database
  | plan {database : Database} (existing : Option String) (record : PlanRecord)
      (reached : TokenReached database) :
      TokenReached ((MaintenanceStore.createPlan existing record).run database).2
  | call {database : Database} (call : TokenCall) (reached : TokenReached database)
      (drawn : call.Drawn database) : TokenReached (call.perform database)

/-- A new plan holds no locks. -/
theorem TokenDiscipline.createPlan {database : Database} (discipline : TokenDiscipline database)
    (existing : Option String) (record : PlanRecord) :
    TokenDiscipline ((MaintenanceStore.createPlan existing record).run database).2 := by
  have moves : Moves (fun before after : Database =>
      TokenDiscipline before → TokenDiscipline after)
      (MaintenanceStore.createPlan existing record) := by
    simp only [MaintenanceStore.createPlan]
    split
    · exact .bind (getPlan_moves _) fun plan => .bind (.require _ _) fun _ => .pure plan
    · refine .bind (.read _) fun free => .bind (.require _ _) fun _ => ?_
      refine .bind (.update fun before known => ⟨⟨?_, ?_, ?_⟩, ?_⟩) fun _ => getPlan_moves _
      · exact known.settled.present
      · exact known.settled.owned
      · exact known.settled.single
      · intro planId holds
        obtain ⟨plan, isPlan, isLocking⟩ := known.working planId holds
        refine ⟨plan, ?_, isLocking⟩
        simp only [Database.plan?] at isPlan
        simp [Database.plan?, Database.addPlan, List.find?_append, isPlan]
  exact moves.keeps (fun _ _ step known => step known) discipline

theorem TokenReached.discipline {database : Database} (reached : TokenReached database) :
    TokenDiscipline database := by
  induction reached with
  | start locks =>
      refine ⟨⟨?_, ?_, ?_⟩, ?_⟩
      · simp [locks]
      · intro first member
        simp [locks] at member
      · simp [locks]
      · rintro planId ⟨lock, member, -⟩
        simp [locks] at member
  | plan existing record _ ih => exact ih.createPlan existing record
  | call call _ drawn ih => exact TokenCall.perform_discipline ih drawn

namespace TokenSample

/-- The host of the sample is taken into manual maintenance. -/
def entered : Database :=
  (TokenCall.manual (.enter ManualSample.entry 0)).perform ManualSample.idle.committed

end TokenSample

end ElKeeper
