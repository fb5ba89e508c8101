import ElKeeper.StateTransitions
import ElKeeper.WorkflowActions

/-!
# Effects and the expiry of locks

The locks of a plan are taken once, by the preparation that finds the plan
ready, and are neither renewed nor looked at before a remote call.  A call is
made under unexpired locks exactly when it is dispatched within the time to live
of the locks, counted from the clock reading of that preparation.
-/

namespace ElKeeper

open Program MaintenanceStore

/-- The calls that stop, start or reboot something on the host. -/
def Effect.remote : Effect → Bool
  | runtimeStop _ | runtimeStart _ | readBootId _ | executorStage _ | invokeReboot _ _ => true
  | _ => false

namespace Database

/-- The plan is ready for its execution. -/
def ready (database : Database) (planId : String) : Bool :=
  (database.plan? planId).any (·.lifecycleState = .ready)

/-- The locks that a plan has taken and not released. -/
def heldLocks (database : Database) (planId : String) : List LockRecord :=
  database.locks.filter fun lock => lock.ownerPlanId = planId && lock.releasedAt.isNone

theorem ready_iff {database : Database} {planId : String} :
    database.ready planId = true ↔
      ∃ plan, database.plan? planId = some plan ∧ plan.lifecycleState = .ready := by
  simp [ready, Option.any_eq_true]

theorem ready_iff_map {database : Database} {planId : String} :
    database.ready planId = true ↔
      (database.plan? planId).map (·.lifecycleState) = some .ready := by
  rw [ready_iff, Option.map_eq_some_iff]

end Database

/-- Every unreleased lock of the plan expires at the deadline. -/
def LocksUntil (planId : String) (deadline : Option Nat) (database : Database) : Prop :=
  ∀ lock ∈ database.heldLocks planId, deadline = some lock.expiresAt

/-- The locks last until the deadline; the plan is ready only where that may be, and holds no
locks then. -/
structure Locked (planId : String) (deadline : Option Nat) (mayBeReady : Prop)
    (database : Database) : Prop where
  lasting : LocksUntil planId deadline database
  unready : database.ready planId = true → mayBeReady ∧ database.heldLocks planId = []

section Locked

variable {planId : String} {deadline : Option Nat} {mayBeReady : Prop} {before after : Database}

/-- No lock is taken and the plan does not become ready. -/
theorem Locked.keep (locked : Locked planId deadline mayBeReady before)
    (locks : ∀ lock ∈ after.heldLocks planId, lock ∈ before.heldLocks planId)
    (ready : after.ready planId = true → before.ready planId = true) :
    Locked planId deadline mayBeReady after where
  lasting lock member := locked.lasting lock (locks lock member)
  unready isReady := by
    obtain ⟨may, free⟩ := locked.unready (ready isReady)
    refine ⟨may, List.eq_nil_iff_forall_not_mem.mpr fun lock member => ?_⟩
    have old := locks lock member
    rw [free] at old
    cases old

theorem Locked.of_same (locked : Locked planId deadline mayBeReady before)
    (locks : after.locks = before.locks) (plans : after.plans = before.plans) :
    Locked planId deadline mayBeReady after := by
  refine locked.keep (fun lock member => ?_) fun isReady => ?_
  · rwa [Database.heldLocks, locks] at member
  · rwa [Database.ready, Database.plan?, plans] at isReady

/-- A plan whose state is set to another one is not ready. -/
theorem ready_setLifecycleState (database : Database) (owner : String)
    {target : MaintenanceState} (unready : target ≠ .ready)
    (isReady : (database.setLifecycleState owner target).ready planId = true) :
    planId ≠ owner ∧ database.ready planId = true := by
  rw [Database.ready_iff] at isReady
  obtain ⟨plan, isPlan, isState⟩ := isReady
  have different : planId ≠ owner := by
    rintro rfl
    rw [plan?_setLifecycleState, Option.map_eq_some_iff] at isPlan
    obtain ⟨_, _, rfl⟩ := isPlan
    exact unready isState
  refine ⟨different, Database.ready_iff.mpr ⟨plan, ?_, isState⟩⟩
  rwa [plan?_setLifecycleState_other database target different] at isPlan

theorem Locked.lifecycle (locked : Locked planId deadline mayBeReady before) (owner : String)
    {target : MaintenanceState} (unready : target ≠ .ready) :
    Locked planId deadline mayBeReady (before.setLifecycleState owner target) :=
  locked.keep (fun _ member => member) fun isReady =>
    (ready_setLifecycleState before owner unready isReady).2

theorem Locked.release (locked : Locked planId deadline mayBeReady before) (ownerToken : String)
    (now : Nat) :
    Locked planId deadline mayBeReady (before.mapLocks fun lock =>
      if lock.heldWith ownerToken then { lock with releasedAt := some now } else lock) := by
  refine locked.keep (fun lock member => ?_) id
  obtain ⟨isMember, isHeld⟩ := List.mem_filter.mp member
  obtain ⟨old, oldMember, rfl⟩ := List.mem_map.mp isMember
  split at isHeld
  · simp at isHeld
  · rename_i unheld
    rw [if_neg unheld]
    exact List.mem_filter.mpr ⟨oldMember, isHeld⟩

theorem locked_admitsFinish (planId : String) (deadline : Option Nat) (mayBeReady : Prop) :
    MaintenanceExecutionService.AdmitsFinish (Survives (Locked planId deadline mayBeReady)) where
  lifecycle _ owner _ unready locked := locked.lifecycle owner unready
  runStatus _ _ _ locked := locked.of_same rfl rfl
  release _ ownerToken now locked := locked.release ownerToken now

/-- The actions on any plan keep the locks of a plan, up to the tickets that they issue. -/
theorem Locked.keptByActions (execution : MaintenanceExecutionService)
    (drawnToken owner planId : String) (deadline : Option Nat) (mayBeReady : Prop) :
    KeptByActions execution drawnToken owner (Locked planId deadline mayBeReady) where
  workflow _ _ write locked := by
    cases write with
    | launch started =>
        rw [startRun_run] at started
        cases started
        exact locked.of_same rfl rfl
    | _ => exact locked.of_same rfl rfl
  claims _ _ _ locked := locked.of_same rfl rfl
  release _ _ _ _ locked := locked.of_same rfl rfl
  lifecycle _ owner _ unready locked := locked.lifecycle owner unready
  checkpoint _ _ locked := locked.of_same rfl rfl
  undo _ _ locked := locked.of_same rfl rfl
  finish ticket result now database plan after executes ran locked := by
    have moves := execution.finalize_execute_moves
      (locked_admitsFinish planId deadline mayBeReady) executes result now drawnToken
    have kept := moves.keeps (fun _ _ step known => step known) locked
    rwa [ran] at kept

/-- A write of a preparation adds locks of its plan that last until the expiry. -/
theorem MaintenanceExecutionService.IssueWrite.heldLocks {owner token : String} {expiresAt : Nat}
    (write : MaintenanceExecutionService.IssueWrite owner token expiresAt before after) :
    ∀ lock ∈ after.heldLocks planId, lock ∈ before.heldLocks planId ∨
      owner = planId ∧ lock.expiresAt = expiresAt := by
  intro lock member
  cases write with
  | lock onPlan _ ends added =>
      obtain ⟨row, _, owns, rfl⟩ := added
      obtain ⟨isMember, isHeld⟩ := List.mem_filter.mp member
      rcases List.mem_append.mp isMember with old | new
      · exact .inl (List.mem_filter.mpr ⟨old, isHeld⟩)
      · obtain rfl := List.mem_singleton.mp new
        simp only [Bool.and_eq_true, decide_eq_true_eq] at isHeld
        refine .inr ⟨?_, owns.expiresAt.trans ends⟩
        rw [← isHeld.1, owns.planId, onPlan]
  | start started =>
      rw [startRun_run] at started
      cases started
      exact .inl member
  | _ => exact .inl member

theorem MaintenanceExecutionService.IssueWrite.ready {owner token : String} {expiresAt : Nat}
    (write : MaintenanceExecutionService.IssueWrite owner token expiresAt before after)
    (isReady : after.ready planId = true) : before.ready planId = true := by
  cases write with
  | execute => exact (ready_setLifecycleState before owner (by decide) isReady).2
  | start started =>
      rw [startRun_run] at started
      cases started
      exact isReady
  | attach runId =>
      rw [Database.ready_iff_map] at isReady ⊢
      rwa [plan?_map_column rfl fun plan => by split <;> exact ⟨rfl, rfl⟩] at isReady
  | lock _ _ _ added =>
      obtain ⟨row, _, _, rfl⟩ := added
      exact isReady
  | runStatus runId status => exact isReady

/-- A preparation keeps the locks of its plan until their expiry, and those of other plans. -/
theorem Locked.prepare {execution : MaintenanceExecutionService} {owner drawnToken : String}
    {now : Nat} {database : Database} {ticket : MaintenanceActionTicket}
    (ran : (execution.prepare owner .execute now drawnToken).run database = (.returned ticket, after))
    (fits : owner = planId → deadline = some (secondsAfter now execution.lockTtlSeconds))
    (locked : Locked planId deadline mayBeReady database) :
    Locked planId deadline mayBeReady after := by
  have reached := execution.prepare_reaches owner .execute now drawnToken database
  rw [ran] at reached
  have written : (∀ lock ∈ after.heldLocks planId, lock ∈ database.heldLocks planId ∨
      owner = planId ∧ lock.expiresAt = secondsAfter now execution.lockTtlSeconds) ∧
      (after.ready planId = true → database.ready planId = true) := by
    generalize hreached : (Outcome.returned ticket, after).2 = written at reached
    obtain rfl : after = written := hreached
    clear ran
    induction reached with
    | refl => exact ⟨fun _ member => .inl member, id⟩
    | tail _ write ih =>
        refine ⟨fun lock member => ?_, fun isReady => ih.2 (write.ready isReady)⟩
        rcases write.heldLocks lock member with old | new
        · exact ih.1 lock old
        · exact .inr new
  by_cases same : owner = planId
  · have executing := (MaintenanceExecutionService.prepare_execute_returned ran).2
    obtain ⟨plan, isPlan, isState⟩ := executing
    refine ⟨fun lock member => ?_, fun isReady => ?_⟩
    · rcases written.1 lock member with old | ⟨_, ends⟩
      · exact locked.lasting lock old
      · rw [fits same, ends]
    · rw [same] at isPlan
      rw [Database.ready, isPlan, Option.any_some, isState] at isReady
      cases isReady
  · refine locked.keep (fun lock member => ?_) written.2
    rcases written.1 lock member with old | ⟨isOwner, _⟩
    · exact old
    · exact absurd isOwner same

/-- The tickets of a plan: issued for a plan that is ready, at the reading that gives the
deadline. -/
theorem Locked.keptByTickets {execution : MaintenanceExecutionService} {clock : History → Nat}
    (drawnToken : String) {owner planId : String} {deadline : Option Nat} {mayBeReady : Prop}
    (fits : owner = planId → mayBeReady →
      ∀ history, deadline = some (secondsAfter (clock history) execution.lockTtlSeconds)) :
    KeptByTickets execution clock drawnToken owner (Locked planId deadline mayBeReady) := by
  intro history database ticket after ran locked
  refine Locked.prepare ran (fun same => ?_) locked
  have isReady := (MaintenanceExecutionService.prepare_execute_returned ran).1
  rw [same] at isReady
  exact fits same (locked.unready (Database.ready_iff.mpr isReady)).1 history

end Locked

/-! ### The reading of a preparation -/

theorem connect_congr {α : Type} {body other : Action α} {world : MaintenanceWorld}
    (same : body.run { world with working := world.committed } =
      other.run { world with working := world.committed }) :
    (connect body).run world = (connect other).run world := by
  simp only [connect, run_bind, run_update, attempt, same]

/-- A preparation reads the clock once, before its first effect. -/
theorem HostMaintenanceService.perform_prepare_clock (service : HostMaintenanceService)
    (planId : String) (world : MaintenanceWorld) :
    (service.perform planId .prepare).run world =
      (HostMaintenanceService.perform
        { service with clock := fun _ => service.clock world.trace } planId .prepare).run world := by
  have same : ∀ opened : MaintenanceWorld, opened.trace = world.trace →
      (prepare service planId).run opened =
        (prepare { service with clock := fun _ => service.clock world.trace } planId).run opened := by
    intro opened sameTrace
    refine bind_congr_from fun found after ran => ?_
    have afterTrace : after.trace = world.trace := (store_frame ran).2.trans sameTrace
    refine bind_congr_from fun _ checked ran => ?_
    rw [(ofExcept_eq_returned ran).2]
    refine bind_congr_from fun _ configured ran => ?_
    rw [(require_eq_returned ran).2]
    refine bind_congr_from fun _ guarded ran => ?_
    rw [(require_eq_returned ran).2]
    simp only [now, run_bind, run_read, afterTrace]
    rfl
  refine connect_congr ?_
  simp only [run_bind, dispatch, same { world with working := world.committed } rfl]

/-- The same for the container workflow. -/
theorem ContainerMaintenanceService.perform_prepare_clock (service : ContainerMaintenanceService)
    (planId : String) (world : MaintenanceWorld) :
    (service.perform planId .prepare).run world =
      (ContainerMaintenanceService.perform
        { service with clock := fun _ => service.clock world.trace } planId .prepare).run world := by
  have same : ∀ opened : MaintenanceWorld, opened.trace = world.trace →
      (prepare service planId).run opened =
        (prepare { service with clock := fun _ => service.clock world.trace } planId).run opened := by
    intro opened sameTrace
    refine bind_congr_from fun found after ran => ?_
    have afterTrace : after.trace = world.trace := (store_frame ran).2.trans sameTrace
    refine bind_congr_from fun _ guarded ran => ?_
    rw [(require_eq_returned ran).2]
    simp only [now, run_bind, run_read, afterTrace]
    rfl
  refine connect_congr ?_
  simp only [run_bind, dispatch, same { world with working := world.committed } rfl]

/-! ### Runs -/

/-- A dispatched effect of a plan: when it was dispatched, and until when the preparation of its
plan took locks. -/
structure Dispatch where
  time : Nat
  deadline : Option Nat
  entry : Entry Database Effect

/-- The newest effects of a history, with the readings of a clock at their dispatch. -/
def timed (clock : History → Nat) (deadline : Option Nat) : Nat → History → List Dispatch
  | 0, _ => []
  | _ + 1, [] => []
  | recent + 1, entry :: older =>
      ⟨clock older, deadline, entry⟩ :: timed clock deadline recent older

/-- The end of the locks that a preparation takes for a plan that it finds ready. -/
def renewed (execution : MaintenanceExecutionService) (clock : History → Nat) (prepares : Bool)
    (planId : String) (world : MaintenanceWorld) (deadline : Option Nat) : Option Nat :=
  if prepares && world.committed.ready planId then
    some (secondsAfter (clock world.trace) execution.lockTtlSeconds)
  else deadline

/-- The runs of the two workflows, with the dispatches for one plan.  Every action has a clock
and adapters of its own and may be killed; actions on other plans may come between. -/
inductive LockedRun (planId : String) :
    Option Nat → List Dispatch → MaintenanceWorld → Prop where
  | start {database : Database} (free : database.heldLocks planId = []) (budget : Option Nat) :
      LockedRun planId none [] (World.start database budget)
  | host {deadline : Option Nat} {dispatched : List Dispatch} {world after : MaintenanceWorld}
      (service : HostMaintenanceService) (action : HostWorkflowAction) (budget : Option Nat)
      (reached : LockedRun planId deadline dispatched world)
      (isAfter : ((service.perform planId action).run (world.restart budget)).2 = after) :
      LockedRun planId
        (renewed service.execution service.clock (action = .prepare) planId world deadline)
        (timed service.clock
          (renewed service.execution service.clock (action = .prepare) planId world deadline)
          (after.trace.length - world.trace.length) after.trace ++ dispatched)
        after
  | container {deadline : Option Nat} {dispatched : List Dispatch}
      {world after : MaintenanceWorld} (service : ContainerMaintenanceService)
      (action : ContainerWorkflowAction) (budget : Option Nat)
      (reached : LockedRun planId deadline dispatched world)
      (isAfter : ((service.perform planId action).run (world.restart budget)).2 = after) :
      LockedRun planId
        (renewed service.execution service.clock (action = .prepare) planId world deadline)
        (timed service.clock
          (renewed service.execution service.clock (action = .prepare) planId world deadline)
          (after.trace.length - world.trace.length) after.trace ++ dispatched)
        after
  | otherHost {deadline : Option Nat} {dispatched : List Dispatch} {world : MaintenanceWorld}
      (service : HostMaintenanceService) {owner : String} (other : owner ≠ planId)
      (action : HostWorkflowAction) (budget : Option Nat)
      (reached : LockedRun planId deadline dispatched world) :
      LockedRun planId deadline dispatched
        ((service.perform owner action).run (world.restart budget)).2
  | otherContainer {deadline : Option Nat} {dispatched : List Dispatch}
      {world : MaintenanceWorld} (service : ContainerMaintenanceService) {owner : String}
      (other : owner ≠ planId) (action : ContainerWorkflowAction) (budget : Option Nat)
      (reached : LockedRun planId deadline dispatched world) :
      LockedRun planId deadline dispatched
        ((service.perform owner action).run (world.restart budget)).2

section Runs

variable {planId : String} {deadline : Option Nat}

theorem timed_mem {clock : History → Nat} {recent : List (Entry Database Effect)}
    {history : History} {dispatch : Dispatch}
    (member : dispatch ∈ timed clock deadline recent.length (recent ++ history)) :
    dispatch.deadline = deadline ∧ dispatch.entry ∈ recent := by
  induction recent with
  | nil => simp [timed] at member
  | cons entry recent ih =>
      rcases List.mem_cons.mp member with rfl | older
      · exact ⟨rfl, List.mem_cons_self⟩
      · obtain ⟨isDeadline, isRecent⟩ := ih older
        exact ⟨isDeadline, List.mem_cons_of_mem _ isRecent⟩

/-- What the locks of a plan are when an action on it starts. -/
theorem Locked.renewed {world : MaintenanceWorld}
    (locked : Locked planId deadline True world.committed)
    (execution : MaintenanceExecutionService) (clock : History → Nat) (prepares : Bool) :
    Locked planId (renewed execution clock prepares planId world deadline)
      (prepares = true → world.committed.ready planId = true) world.committed := by
  refine ⟨fun lock member => ?_, fun isReady => ⟨fun _ => isReady, (locked.unready isReady).2⟩⟩
  rw [ElKeeper.renewed]
  split
  · rename_i renews
    rw [Bool.and_eq_true] at renews
    rw [(locked.unready renews.2).2] at member
    cases member
  · exact locked.lasting lock member

/-- The effects of an action were dispatched under locks until its deadline. -/
theorem Durably.dispatched {mayBeReady : Prop} {history : History} {world : MaintenanceWorld}
    (durable : Durably (Locked planId deadline mayBeReady) history world) (clock : History → Nat) :
    ∀ dispatch ∈ timed clock deadline (world.trace.length - history.length) world.trace,
      LocksUntil planId dispatch.deadline dispatch.entry.committed := by
  obtain ⟨recent, isTrace, seen⟩ := durable.seen
  have count : world.trace.length - history.length = recent.length := by simp [isTrace]
  rw [count, isTrace]
  intro dispatch member
  obtain ⟨isDeadline, isRecent⟩ := timed_mem member
  rw [isDeadline]
  exact (seen dispatch.entry isRecent).2.lasting

theorem Locked.weaken {mayBeReady : Prop} {database : Database}
    (locked : Locked planId deadline mayBeReady database) :
    Locked planId deadline True database :=
  ⟨locked.lasting, fun isReady => ⟨trivial, (locked.unready isReady).2⟩⟩

theorem fits_renewed {execution : MaintenanceExecutionService} {clock : History → Nat}
    {world : MaintenanceWorld}
    (isReady : true = true → world.committed.ready planId = true) :
    renewed execution clock true planId world deadline =
      some (secondsAfter (clock world.trace) execution.lockTtlSeconds) := by
  rw [renewed, isReady rfl]
  rfl

theorem host_locked (service : HostMaintenanceService) (action : HostWorkflowAction)
    (budget : Option Nat) {world : MaintenanceWorld}
    (locked : Locked planId deadline True world.committed) :
    Durably (Locked planId
        (renewed service.execution service.clock (action = .prepare) planId world deadline)
        (decide (action = .prepare) = true → world.committed.ready planId = true))
      world.trace ((service.perform planId action).run (world.restart budget)).2 := by
  have before := locked.renewed service.execution service.clock (decide (action = .prepare))
  change Locked _ _ _ (world.restart budget).committed at before
  by_cases isPrepare : action = .prepare
  · subst isPrepare
    rw [service.perform_prepare_clock planId (world.restart budget)]
    refine HostMaintenanceService.perform_keeps (Locked.keptByActions _ _ _ _ _ _) _
      (fun _ => ?_) before
    exact Locked.keptByTickets _ fun _ isReady _ => fits_renewed isReady
  · exact HostMaintenanceService.perform_keeps (Locked.keptByActions _ _ _ _ _ _) action
      (fun same => absurd same isPrepare) before

theorem container_locked (service : ContainerMaintenanceService)
    (action : ContainerWorkflowAction) (budget : Option Nat) {world : MaintenanceWorld}
    (locked : Locked planId deadline True world.committed) :
    Durably (Locked planId
        (renewed service.execution service.clock (action = .prepare) planId world deadline)
        (decide (action = .prepare) = true → world.committed.ready planId = true))
      world.trace ((service.perform planId action).run (world.restart budget)).2 := by
  have before := locked.renewed service.execution service.clock (decide (action = .prepare))
  change Locked _ _ _ (world.restart budget).committed at before
  by_cases isPrepare : action = .prepare
  · subst isPrepare
    rw [service.perform_prepare_clock planId (world.restart budget)]
    refine ContainerMaintenanceService.perform_keeps (Locked.keptByActions _ _ _ _ _ _) _
      (fun _ => ?_) before
    exact Locked.keptByTickets _ fun _ isReady _ => fits_renewed isReady
  · exact ContainerMaintenanceService.perform_keeps (Locked.keptByActions _ _ _ _ _ _) action
      (fun same => absurd same isPrepare) before

/-- The locks of the plan last until the deadline of its preparation, now and at every one of its
effects. -/
theorem LockedRun.locked {dispatched : List Dispatch} {world : MaintenanceWorld}
    (run : LockedRun planId deadline dispatched world) :
    Locked planId deadline True world.committed ∧
      ∀ dispatch ∈ dispatched, LocksUntil planId dispatch.deadline dispatch.entry.committed := by
  induction run with
  | start free budget =>
      refine ⟨⟨fun lock member => ?_, fun _ => ⟨trivial, free⟩⟩, by simp⟩
      rw [World.start, free] at member
      cases member
  | host service action budget _ isAfter ih =>
      have durable := host_locked service action budget ih.1
      rw [isAfter] at durable
      refine ⟨durable.committed.weaken, fun dispatch member => ?_⟩
      rcases List.mem_append.mp member with new | old
      · exact durable.dispatched service.clock dispatch new
      · exact ih.2 dispatch old
  | container service action budget _ isAfter ih =>
      have durable := container_locked service action budget ih.1
      rw [isAfter] at durable
      refine ⟨durable.committed.weaken, fun dispatch member => ?_⟩
      rcases List.mem_append.mp member with new | old
      · exact durable.dispatched service.clock dispatch new
      · exact ih.2 dispatch old
  | @otherHost deadline _ world service owner other action budget _ ih =>
      have before : Locked planId deadline True (world.restart budget).committed := ih.1
      have tickets : KeptByTickets service.execution service.clock service.drawnToken owner
          (Locked planId deadline True) :=
        Locked.keptByTickets _ fun same => absurd same other
      have durable := HostMaintenanceService.perform_keeps
        (Locked.keptByActions _ _ _ _ _ _) action (fun _ => tickets) before
      exact ⟨durable.committed, ih.2⟩
  | @otherContainer deadline _ world service owner other action budget _ ih =>
      have before : Locked planId deadline True (world.restart budget).committed := ih.1
      have tickets : KeptByTickets service.execution service.clock service.drawnToken owner
          (Locked planId deadline True) :=
        Locked.keptByTickets _ fun same => absurd same other
      have durable := ContainerMaintenanceService.perform_keeps
        (Locked.keptByActions _ _ _ _ _ _) action (fun _ => tickets) before
      exact ⟨durable.committed, ih.2⟩

end Runs

namespace Dispatch

/-- Every unreleased lock of the plan is unexpired when the effect is dispatched. -/
def Unexpired (dispatch : Dispatch) (planId : String) : Prop :=
  ∀ lock ∈ dispatch.entry.committed.heldLocks planId, lock.expired dispatch.time = false

/-- The effect is dispatched before the locks end that its plan took, if it holds any. -/
def InTime (dispatch : Dispatch) (planId : String) : Prop :=
  dispatch.entry.committed.heldLocks planId ≠ [] →
    ∃ ends, dispatch.deadline = some ends ∧ dispatch.time < ends

end Dispatch

/-- In every run, a remote call for the plan is made under unexpired locks exactly when it is
dispatched within the time to live of the locks, counted from the reading of the clock by the
preparation that found the plan ready. -/
theorem effects_under_locks_iff {planId : String} {deadline : Option Nat}
    {dispatched : List Dispatch} {world : MaintenanceWorld}
    (run : LockedRun planId deadline dispatched world) :
    ∀ dispatch ∈ dispatched, dispatch.entry.event.remote = true →
      (dispatch.Unexpired planId ↔ dispatch.InTime planId) := by
  intro dispatch member _
  have lasting := run.locked.2 dispatch member
  constructor
  · intro unexpired held
    obtain ⟨lock, isHeld⟩ := List.exists_mem_of_ne_nil _ held
    refine ⟨lock.expiresAt, lasting lock isHeld, ?_⟩
    simpa [LockRecord.expired] using unexpired lock isHeld
  · intro inTime lock isHeld
    obtain ⟨ends, isDeadline, before⟩ := inTime (List.ne_nil_of_mem isHeld)
    have same := lasting lock isHeld
    rw [isDeadline] at same
    cases same
    simpa [LockRecord.expired] using before

namespace HostSample

/-- The sample service when its clock stands at a reading. -/
def serviceAt (reading : Nat) : HostMaintenanceService :=
  { service with clock := fun _ => reading }

/-- The deadline of the locks that the sample plan takes at the beginning. -/
def lockDeadline : Option Nat :=
  renewed service.execution service.clock true "plan" (World.start database none) none

/-- The dispatches of a stop that is called when the clock stands at a reading. -/
def stopDispatches (reading : Nat) : List Dispatch :=
  let prepared := perform none .prepare (World.start database none)
  let after := (((serviceAt reading).perform "plan" .stop).run (prepared.restart none)).2
  timed (serviceAt reading).clock lockDeadline (after.trace.length - prepared.trace.length)
    after.trace

/-- Preparation and stop are a run. -/
theorem stop_lockedRun (reading : Nat) :
    ∃ world, LockedRun "plan" lockDeadline
      (stopDispatches reading ++ (timed service.clock lockDeadline
        (perform none .prepare (World.start database none)).trace.length
        (perform none .prepare (World.start database none)).trace ++ [])) world := by
  have free : database.heldLocks "plan" = [] := by decide
  exact ⟨_, .host (serviceAt reading) .stop none
    (.host service .prepare none (.start free none) rfl) rfl⟩

/-- The stop dispatches its call in time: the theorem applies to a call under unexpired locks. -/
theorem stop_in_time : ∃ dispatch ∈ stopDispatches 0, dispatch.entry.event.remote = true ∧
    dispatch.entry.committed.heldLocks "plan" ≠ [] ∧ dispatch.Unexpired "plan" := by
  obtain ⟨world, run⟩ := stop_lockedRun 0
  have called : ∃ dispatch ∈ stopDispatches 0, dispatch.entry.event.remote = true ∧
      dispatch.entry.committed.heldLocks "plan" ≠ [] ∧
      dispatch.deadline = some 300000000 ∧ dispatch.time = 0 := by decide +kernel
  obtain ⟨dispatch, member, isRemote, held, isDeadline, isTime⟩ := called
  refine ⟨dispatch, member, isRemote, held, ?_⟩
  rw [effects_under_locks_iff run dispatch (List.mem_append_left _ member) isRemote]
  exact fun _ => ⟨300000000, isDeadline, by rw [isTime]; decide⟩

/-- A stop that comes 400 seconds after the preparation stops a runtime under expired locks. -/
theorem stop_under_expired_locks :
    ¬ ∀ (planId : String) (deadline : Option Nat) (dispatched : List Dispatch)
      (world : MaintenanceWorld), LockedRun planId deadline dispatched world →
      ∀ dispatch ∈ dispatched, dispatch.entry.event.remote = true → dispatch.Unexpired planId := by
  intro always
  obtain ⟨world, run⟩ := stop_lockedRun 400000000
  have late : ∃ dispatch ∈ stopDispatches 400000000, dispatch.entry.event.remote = true ∧
      ¬ ∀ lock ∈ dispatch.entry.committed.heldLocks "plan",
        lock.expired dispatch.time = false := by decide +kernel
  obtain ⟨dispatch, member, isRemote, expired⟩ := late
  exact expired (always _ _ _ _ run dispatch (List.mem_append_left _ member) isRemote)

end HostSample

end ElKeeper
