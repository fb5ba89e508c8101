import ElKeeper.HostMaintenance
import ElKeeper.ReturnDiscovery

/-!
# Retrying the discovery of a return

A call whose gateways report a completed return is ready exactly when no earlier
answer about the reconnect says otherwise, and what is missing in the journal can
be recorded.
-/

namespace ElKeeper

open Program MaintenanceStore

/-- The run ended ready for post-return work. -/
def IsReady (outcome : Outcome Fault RebootOrchestrationResult) : Prop :=
  ∃ result : RebootOrchestrationResult, result.status = .readyForPostReturn ∧
    outcome = .returned result

theorem not_isReady_of_raised {outcome : Outcome Fault RebootOrchestrationResult} {error : Fault}
    (raised : outcome = .raised error) : ¬ IsReady outcome := by
  rintro ⟨result, _, returned⟩
  rw [raised] at returned
  cases returned

theorem not_isReady_of_unready {program : Action RebootOrchestrationResult}
    (unready : Maintains (fun _ => True) (fun _ => True) program
      fun result _ => result.status ≠ .readyForPostReturn) (world : MaintenanceWorld) :
    ¬ IsReady (program.run world).1 := by
  rintro ⟨result, isReady, returned⟩
  exact (unready world trivial trivial).2 result returned isReady

/-- From one world to another an uninterrupted run recorded at most one key, under its number. -/
structure RecordsOnly (planId : String) (key : CheckpointKey) (number : Nat)
    (before after : MaintenanceWorld) : Prop where
  unbounded : Unbounded after
  plan : (after.working.plan? planId).isSome = (before.working.plan? planId).isSome
  journal : ∀ other ≠ key, after.working.journal planId other = before.working.journal planId other
  numbers : ∀ other ≠ number,
    FreeNumber planId other after.working ↔ FreeNumber planId other before.working

namespace RecordsOnly

variable {planId : String} {key : CheckpointKey} {number : Nat} {before after : MaintenanceWorld}

/-- Nothing at all was recorded. -/
theorem of_same (unbounded : Unbounded after) (same : after.working = before.working) :
    RecordsOnly planId key number before after where
  unbounded := unbounded
  plan := by rw [same]
  journal _ _ := by rw [same]
  numbers _ _ := by rw [same]

theorem after_log {effect : Effect}
    (records : RecordsOnly planId key number (before.log effect) after) :
    RecordsOnly planId key number before after :=
  ⟨records.unbounded, records.plan, records.journal, records.numbers⟩

end RecordsOnly

theorem freeNumber_add {planId : String} {number : Nat} {database : Database}
    {content : CheckpointContent} {identifier : Nat} (other : content.sequence ≠ number) :
    FreeNumber planId number (database.addCheckpoint (content.row planId identifier)) ↔
      FreeNumber planId number database := by
  constructor
  · exact fun free row member => free row (List.mem_append_left _ member)
  · intro free row member
    rcases List.mem_append.mp member with old | new
    · exact free row old
    · obtain rfl := List.mem_singleton.mp new
      exact fun _ => other

theorem insertable_iff {planId : String} {content : CheckpointContent} {database : Database}
    (plan : (database.plan? planId).isSome) (stepless : content.stepId = none) :
    content.insertable planId database ↔ FreeNumber planId content.sequence database := by
  simp [CheckpointContent.insertable, plan, stepless, FreeNumber]

/-- A new checkpoint whose number is free is recorded. -/
theorem recordCheckpoint_of_free {planId : String} {content : CheckpointContent}
    {database : Database} (absent : database.journal planId content.key = none)
    (insertable : content.insertable planId database) :
    (recordCheckpoint planId content).run database =
      (.returned (content.row planId (database.checkpointCounter + 1)),
        database.addCheckpoint (content.row planId (database.checkpointCounter + 1))) := by
  simp [recordCheckpoint, run_bind, absent, run_require, insertable]

/-- A new checkpoint whose number is taken is refused. -/
theorem recordCheckpoint_of_taken {planId : String} {content : CheckpointContent}
    {database : Database} (absent : database.journal planId content.key = none)
    (taken : ¬ content.insertable planId database) :
    ∃ error, (recordCheckpoint planId content).run database = (.raised error, database) := by
  rw [Bool.not_eq_true] at taken
  exact ⟨_, by simp [recordCheckpoint, run_bind, absent, run_require, taken]; rfl⟩

namespace RebootOrchestrator

variable {orchestrator : RebootOrchestrator} {request : RebootRequest}

section Record

variable {key : CheckpointKey} {sequence : Nat} (state : SideEffectState)
  (payload : CheckpointPayload) (observation : Json) (world : MaintenanceWorld)

theorem record_of_free (unbounded : Unbounded world)
    (plan : (world.working.plan? request.planId).isSome)
    (absent : world.working.journal request.planId key = none)
    (free : FreeNumber request.planId (orchestrator.sequenceBase + sequence) world.working) :
    ∃ row after,
      (record orchestrator request key sequence state payload observation).run world =
        (.returned row, after) ∧
      row.payload = payload.persisted ∧
      RecordsOnly request.planId key (orchestrator.sequenceBase + sequence) world after := by
  let content : CheckpointContent :=
    { key := key
      sequence := orchestrator.sequenceBase + sequence
      sideEffectState := state
      payload := payload
      observation := observation }
  have insertable : content.insertable request.planId world.working :=
    (insertable_iff plan rfl).mpr free
  let row := content.row request.planId (world.working.checkpointCounter + 1)
  refine ⟨row, { world with working := world.working.addCheckpoint row }, ?_, rfl, ?_⟩
  · have recorded := recordCheckpoint_of_free absent insertable
    change (store (recordCheckpoint request.planId content)).run world = _
    rw [store_run_of_unbounded _ unbounded, recorded]
  · exact ⟨unbounded, rfl, fun other different => journal_addCheckpoint_of_ne (Ne.symm different),
      fun other different => freeNumber_add (Ne.symm different)⟩

theorem record_of_taken {β : Type} (next : CheckpointRecord → Action β)
    (unbounded : Unbounded world) (plan : (world.working.plan? request.planId).isSome)
    (absent : world.working.journal request.planId key = none)
    (taken : ¬ FreeNumber request.planId (orchestrator.sequenceBase + sequence) world.working) :
    ∃ error,
      ((record orchestrator request key sequence state payload observation >>= next).run world).1 =
        .raised error := by
  let content : CheckpointContent :=
    { key := key
      sequence := orchestrator.sequenceBase + sequence
      sideEffectState := state
      payload := payload
      observation := observation }
  have refused : ¬ content.insertable request.planId world.working :=
    fun insertable => taken ((insertable_iff plan rfl).mp insertable)
  obtain ⟨error, raised⟩ := recordCheckpoint_of_taken absent refused
  refine ⟨error, ?_⟩
  change ((store (recordCheckpoint request.planId content) >>= next).run world).1 = _
  rw [run_bind, store_run_of_unbounded _ unbounded, raised]

end Record

/-- A gateway that answers is asked, and the run goes on with its answer. -/
theorem attempt_ask_bind {α β : Type} {effect : Effect} {answer : History → Except Fault α}
    {value : α} {world : MaintenanceWorld} (next : Except Fault α → Action β)
    (unbounded : Unbounded world) (answered : answer world.trace = .ok value) :
    (attempt (ask (fun _ => effect) answer) >>= next).run world =
      (next (.ok value)).run (world.log effect) := by
  simp [run_bind, attempt, ask_run_of_unbounded unbounded answered]

/-- Back with the old boot id, or not back: the run is not ready. -/
theorem observeReturn_denied {acknowledged : CheckpointRecord} {row : CheckpointRecord}
    {before after : MaintenanceWorld}
    (gone : (observeDisconnect orchestrator request acknowledged).run before =
      (.returned (.continues ()), after))
    (found : after.working.journal request.planId .hostReconnected = some row)
    (denied : ¬ row.showsReturn request.preRebootBootId) :
    ¬ IsReady ((observeReturn orchestrator request acknowledged).run before).1 := by
  simp only [observeReturn, run_bind, gone, observeReconnect, view, run_read, found, run_pure]
  split
  · rename_i observation isPayload
    split
    · exact not_isReady_of_unready (endInRecovery_unready _ _ _ _) _
    · split
      · exact not_isReady_of_unready (endInRecovery_unready _ _ _ _) _
      · rename_i connected other
        rw [Bool.not_eq_false] at connected
        refine absurd ?_ denied
        simpa [CheckpointRecord.showsReturn, isPayload] using ⟨connected, other⟩
  · exact not_isReady_of_unready (endInRecovery_unready _ _ _ _) _

/-- The executor is discovered on a host that went and is back with another boot id. -/
theorem observeReturn_shown {acknowledged row : CheckpointRecord}
    {before gone back : MaintenanceWorld}
    (wentOn : (observeDisconnect orchestrator request acknowledged).run before =
      (.returned (.continues ()), gone))
    (isBack : (observeReconnect orchestrator request).run gone = (.returned (.continues row), back))
    (shows : row.showsReturn request.preRebootBootId) :
    ∃ bootId, (observeReturn orchestrator request acknowledged).run before =
      (discoverReturn orchestrator request bootId).run back := by
  simp only [CheckpointRecord.showsReturn] at shows
  split at shows
  · rename_i observation isPayload
    simp only [Bool.and_eq_true, decide_eq_true_eq] at shows
    refine ⟨observation.bootId, ?_⟩
    simp only [observeReturn, run_bind, wentOn, isBack, isPayload, shows.1, shows.2,
      Bool.true_eq_false, if_false]
  · cases shows

section Retry

variable (reports : orchestrator.ReportsReturn request) {world : MaintenanceWorld}
  (unbounded : Unbounded world)

include reports unbounded

section Disconnect

variable {acknowledged : CheckpointRecord} {receipt : RebootInvocationReceipt}
  (isReceipt : acknowledged.payload = .invocation receipt)

include isReceipt

/-- Where nothing is recorded the host is seen to go, and that is recorded. -/
theorem observeDisconnect_run
    (absent : world.working.journal request.planId .sshDisconnected = none) :
    ∃ observation : SshDisconnectObservation, observation.disconnected = true ∧
      (observeDisconnect orchestrator request acknowledged).run world =
        (record orchestrator request .sshDisconnected 900 .mayHaveStarted
          (.disconnect observation) >>= fun _ => pure (.continues ())).run
            (world.log (.waitForDisconnect request.nodeId)) := by
  obtain ⟨observation, answered, isGone⟩ := reports.disconnects receipt.invocationId world.trace
  refine ⟨observation, isGone, ?_⟩
  simp only [observeDisconnect, view]
  rw [run_bind, run_read]
  simp only [absent, isReceipt]
  rw [attempt_ask_bind _ unbounded answered]
  simp only [isGone, Bool.true_eq_false, if_false]

variable (plan : (world.working.plan? request.planId).isSome)

include plan

theorem observeDisconnect_of_recordable
    (recordable : Recordable orchestrator request .sshDisconnected 900 world.working) :
    ∃ after,
      (observeDisconnect orchestrator request acknowledged).run world =
        (.returned (.continues ()), after) ∧
      RecordsOnly request.planId .sshDisconnected (orchestrator.sequenceBase + 900) world
        after := by
  cases found : world.working.journal request.planId .sshDisconnected with
  | some row =>
      refine ⟨world, ?_, .of_same unbounded rfl⟩
      simp only [observeDisconnect, view, run_bind, run_read, found, run_pure]
  | none =>
      obtain ⟨observation, _, ran⟩ := observeDisconnect_run reports unbounded isReceipt found
      obtain ⟨row, after, recorded, _, records⟩ := record_of_free .mayHaveStarted
        (.disconnect observation) (.obj []) (world.log (.waitForDisconnect request.nodeId))
        unbounded plan found (recordable found)
      refine ⟨after, ?_, records.after_log⟩
      rw [ran, run_bind, recorded]
      rfl

theorem observeDisconnect_of_unrecordable
    (unrecordable : ¬ Recordable orchestrator request .sshDisconnected 900 world.working) :
    ∃ error, ((observeDisconnect orchestrator request acknowledged).run world).1 =
      .raised error := by
  simp only [Recordable, Classical.not_imp] at unrecordable
  obtain ⟨absent, taken⟩ := unrecordable
  obtain ⟨observation, _, ran⟩ := observeDisconnect_run reports unbounded isReceipt absent
  rw [ran]
  exact record_of_taken .mayHaveStarted (.disconnect observation) (.obj [])
    (world.log (.waitForDisconnect request.nodeId)) _ unbounded plan absent taken

end Disconnect

/-- Where nothing is recorded the host is seen to be back, and that is recorded. -/
theorem observeReconnect_run
    (absent : world.working.journal request.planId .hostReconnected = none) :
    ∃ observation : ReconnectObservation, observation.connected = true ∧
      observation.bootId ≠ some request.preRebootBootId ∧
      (observeReconnect orchestrator request).run world =
        (record orchestrator request .hostReconnected 1000 .mayHaveStarted
          (.reconnect observation) >>= fun row => pure (.continues row)).run
            (world.log (.waitForReconnect request.nodeId)) := by
  obtain ⟨observation, answered, connected, other⟩ := reports.reconnects world.trace
  refine ⟨observation, connected, other, ?_⟩
  simp only [observeReconnect, view]
  rw [run_bind, run_read]
  simp only [absent]
  rw [attempt_ask_bind _ unbounded answered]

variable (plan : (world.working.plan? request.planId).isSome)

include plan

theorem observeReconnect_of_recordable
    (recordable : Recordable orchestrator request .hostReconnected 1000 world.working)
    (undenied : ReturnUndenied request world.working) :
    ∃ row after,
      (observeReconnect orchestrator request).run world = (.returned (.continues row), after) ∧
      row.showsReturn request.preRebootBootId ∧
      RecordsOnly request.planId .hostReconnected (orchestrator.sequenceBase + 1000)
        world after := by
  cases found : world.working.journal request.planId .hostReconnected with
  | some row =>
      refine ⟨row, world, ?_, undenied row found, .of_same unbounded rfl⟩
      simp only [observeReconnect, view, run_bind, run_read, found, run_pure]
  | none =>
      obtain ⟨observation, connected, other, ran⟩ := observeReconnect_run reports unbounded found
      obtain ⟨row, after, recorded, isPayload, records⟩ := record_of_free .mayHaveStarted
        (.reconnect observation) (.obj []) (world.log (.waitForReconnect request.nodeId))
        unbounded plan found (recordable found)
      refine ⟨row, after, ?_, ?_, records.after_log⟩
      · rw [ran, run_bind, recorded]
        rfl
      · simp [CheckpointRecord.showsReturn, isPayload, CheckpointPayload.persisted, connected,
          other]

theorem observeReconnect_of_unrecordable
    (unrecordable : ¬ Recordable orchestrator request .hostReconnected 1000 world.working) :
    ∃ error, ((observeReconnect orchestrator request).run world).1 = .raised error := by
  simp only [Recordable, Classical.not_imp] at unrecordable
  obtain ⟨absent, taken⟩ := unrecordable
  obtain ⟨observation, _, _, ran⟩ := observeReconnect_run reports unbounded absent
  rw [ran]
  exact record_of_taken .mayHaveStarted (.reconnect observation) (.obj [])
    (world.log (.waitForReconnect request.nodeId)) _ unbounded plan absent taken

/-- The discovery is asked for in every run. -/
theorem discoverReturn_isReady_iff (bootId : Option String)
    (absent : world.working.journal request.planId .returnDiscovered = none) :
    IsReady ((discoverReturn orchestrator request bootId).run world).1 ↔
      FreeNumber request.planId (orchestrator.sequenceBase + 1100) world.working := by
  obtain ⟨discovery, answered, isComplete⟩ := reports.completes world.trace
  have ran : (discoverReturn orchestrator request bootId).run world =
      (record orchestrator request .returnDiscovered 1100 .verified
        (.returned request.operationId bootId discovery) >>= fun completed =>
          ofExcept (completedResult request completed)).run
            (world.log (.executorDiscovery request.operationId)) := by
    simp only [discoverReturn]
    rw [attempt_ask_bind _ unbounded answered]
    simp only [isComplete, ne_eq, not_true_eq_false, if_false]
  rw [ran]
  by_cases free : FreeNumber request.planId (orchestrator.sequenceBase + 1100) world.working
  · obtain ⟨row, after, recorded, isPayload, _⟩ := record_of_free .verified
      (.returned request.operationId bootId discovery) (.obj [])
      (world.log (.executorDiscovery request.operationId)) unbounded plan absent free
    refine iff_of_true ?_ free
    rw [run_bind, recorded]
    simp only [completedResult, isPayload, CheckpointPayload.persisted]
    exact ⟨_, rfl, rfl⟩
  · obtain ⟨error, raised⟩ := record_of_taken .verified
      (.returned request.operationId bootId discovery) (.obj [])
      (world.log (.executorDiscovery request.operationId))
      (fun completed => ofExcept (completedResult request completed)) unbounded plan absent free
    exact iff_of_false (not_isReady_of_raised raised) free

/-- What an earlier run recorded decides whether a completed return is reported. -/
theorem observeReturn_isReady_iff {acknowledged : CheckpointRecord}
    {receipt : RebootInvocationReceipt} (isReceipt : acknowledged.payload = .invocation receipt)
    (absent : world.working.journal request.planId .returnDiscovered = none) :
    IsReady ((observeReturn orchestrator request acknowledged).run world).1 ↔
      ReturnUndenied request world.working ∧
        ReturnRecordable orchestrator request world.working := by
  by_cases first : Recordable orchestrator request .sshDisconnected 900 world.working
  · obtain ⟨gone, wentOn, records⟩ :=
      observeDisconnect_of_recordable reports unbounded isReceipt plan first
    have planGone : (gone.working.plan? request.planId).isSome := records.plan.trans plan
    have sameBack := records.journal .hostReconnected (by simp)
    have sameReturn := records.journal .returnDiscovered (by simp)
    have numberBack := records.numbers (orchestrator.sequenceBase + 1000) (by omega)
    have numberReturn := records.numbers (orchestrator.sequenceBase + 1100) (by omega)
    by_cases second : Recordable orchestrator request .hostReconnected 1000 world.working
    · have recordable : Recordable orchestrator request .hostReconnected 1000 gone.working := by
        simpa only [Recordable, sameBack, numberBack] using second
      by_cases undenied : ReturnUndenied request world.working
      · have undeniedGone : ReturnUndenied request gone.working := by
          simpa only [ReturnUndenied, sameBack] using undenied
        obtain ⟨row, back, isBack, shows, recordsBack⟩ := observeReconnect_of_recordable reports
          records.unbounded planGone recordable undeniedGone
        obtain ⟨bootId, ran⟩ := observeReturn_shown wentOn isBack shows
        have absentBack : back.working.journal request.planId .returnDiscovered = none := by
          rw [recordsBack.journal .returnDiscovered (by simp), sameReturn, absent]
        have planBack : (back.working.plan? request.planId).isSome :=
          recordsBack.plan.trans planGone
        have numberBackReturn :=
          recordsBack.numbers (orchestrator.sequenceBase + 1100) (by omega)
        rw [ran,
          discoverReturn_isReady_iff reports recordsBack.unbounded planBack bootId absentBack,
          numberBackReturn, numberReturn]
        exact ⟨fun free => ⟨undenied, first, second, fun _ => free⟩,
          fun known => known.2.discovered absent⟩
      · have denied := undenied
        simp only [ReturnUndenied, not_forall] at denied
        obtain ⟨row, found, denies⟩ := denied
        exact iff_of_false (observeReturn_denied wentOn (sameBack.trans found) denies)
          fun known => undenied known.1
    · have unrecordable : ¬ Recordable orchestrator request .hostReconnected 1000 gone.working := by
        simpa only [Recordable, sameBack, numberBack] using second
      obtain ⟨error, raised⟩ :=
        observeReconnect_of_unrecordable reports records.unbounded planGone unrecordable
      have ended : ((observeReturn orchestrator request acknowledged).run world).1 =
          .raised error := by
        rw [observeReturn, run_bind, wentOn]
        exact bind_of_raised _ raised
      exact iff_of_false (not_isReady_of_raised ended) fun known => second known.2.reconnected
  · obtain ⟨error, raised⟩ :=
      observeDisconnect_of_unrecordable reports unbounded isReceipt plan first
    exact iff_of_false (not_isReady_of_raised (bind_of_raised _ raised))
      fun known => first known.2.disconnected

end Retry

/-- A run on an executing and acknowledged plan observes the return, unless that is recorded. -/
theorem run_of_acknowledged {world : MaintenanceWorld} {plan : PlanRecord}
    {acknowledged : CheckpointRecord} (enabled : orchestrator.executionEnabled)
    (unbounded : Unbounded world)
    (isPlan : world.working.plan? request.planId = some plan)
    (ofRequest : validatePlan plan request = .ok ())
    (executing : plan.lifecycleState = .executing)
    (isAcknowledged : world.working.journal request.planId .invocationAcknowledged =
      some acknowledged) (resume : Bool) :
    (run orchestrator request resume).run world =
      match world.working.journal request.planId .returnDiscovered with
      | some completed => (ofExcept (completedResult request completed)).run world
      | none => (observeReturn orchestrator request acknowledged).run world := by
  have planRan : (store (getPlan request.planId)).run world =
      ((.returned plan, world) : Outcome Fault PlanRecord × MaintenanceWorld) := by
    rw [store_run_of_unbounded _ unbounded]
    simp [getPlan, run_bind, isPlan]
  have entered : (store (enterExecution plan resume)).run world =
      ((.returned plan, world) : Outcome Fault PlanRecord × MaintenanceWorld) := by
    rw [store_run_of_unbounded _ unbounded]
    simp [enterExecution, executing]
  simp only [run, run_bind, run_require, enabled, if_true, planRan, ofRequest, Program.ofExcept,
    run_pure, view, run_read]
  cases found : world.working.journal request.planId .returnDiscovered with
  | some completed => rfl
  | none =>
      simp only [executing, reduceCtorEq, if_false, run_bind, entered, runExecuting, view, run_read,
        isAcknowledged]

end RebootOrchestrator

section Calls

variable {request : RebootRequest} {database : Database}

theorem ReturnCall.returnUndenied_entered (call : ReturnCall) (world : MaintenanceWorld) :
    ReturnUndenied request ((call.toCall request).entered world).working ↔
      ReturnUndenied request world.working := by
  simp only [ReturnUndenied, (call.toCall request).entered_journal]

theorem ReturnCall.returnRecordable_entered (call : ReturnCall) (world : MaintenanceWorld) :
    ReturnRecordable call.orchestrator request ((call.toCall request).entered world).working ↔
      ReturnRecordable call.orchestrator request world.working := by
  have sameNumbers : ∀ number,
      FreeNumber request.planId number ((call.toCall request).entered world).working ↔
        FreeNumber request.planId number world.working := by
    intro number
    simp only [FreeNumber, RebootCall.entered, World.settle_working, requestTransitions_checkpoints]
  have sameKeys : ∀ key offset,
      Recordable call.orchestrator request key offset
          ((call.toCall request).entered world).working ↔
        Recordable call.orchestrator request key offset world.working := by
    intro key offset
    simp only [Recordable, (call.toCall request).entered_journal, sameNumbers]
  constructor
  · exact fun known => ⟨(sameKeys _ _).mp known.disconnected, (sameKeys _ _).mp known.reconnected,
      (sameKeys _ _).mp known.discovered⟩
  · exact fun known => ⟨(sameKeys _ _).mpr known.disconnected,
      (sameKeys _ _).mpr known.reconnected, (sameKeys _ _).mpr known.discovered⟩

/-- A call whose gateways report a completed return is ready exactly when no earlier answer
about the reconnect denies it and what is missing can be recorded. -/
theorem ready_iff (awaits : AwaitsReturn request.planId database) (calls : List ReturnCall)
    (call : ReturnCall) (proceeds : call.Proceeds request (reachedBy request database calls))
    (reports : call.orchestrator.ReportsReturn request) :
    call.ReportsReady request (reachedBy request database calls) ↔
      ReturnUndenied request (reachedBy request database calls).working ∧
        ReturnRecordable call.orchestrator request
          (reachedBy request database calls).working := by
  have journal := reachedBy_journal awaits calls
  generalize reachedBy request database calls = world at proceeds journal ⊢
  obtain ⟨plan, isPlan, isReboot, isTarget, executing⟩ := proceeds.executing
  obtain ⟨acknowledged, receipt, isAcknowledged, isReceipt⟩ := proceeds.acknowledged
  rw [← (call.toCall request).entered_journal] at isAcknowledged
  have ofRequest : RebootOrchestrator.validatePlan plan request = .ok () := by
    simp [RebootOrchestrator.validatePlan, isReboot, isTarget]
  have unbounded : Unbounded ((call.toCall request).entered world) := proceeds.uninterrupted
  rw [← call.returnUndenied_entered, ← call.returnRecordable_entered]
  change IsReady ((call.orchestrator.run request call.resume).run
    ((call.toCall request).entered world)).1 ↔ _
  rw [RebootOrchestrator.run_of_acknowledged proceeds.enabled unbounded isPlan ofRequest executing
    isAcknowledged]
  have recorded := journal.of_same (call.entered_same world)
  generalize (call.toCall request).entered world = entered at *
  cases found : entered.working.journal request.planId .returnDiscovered with
  | none =>
      have isPresent : (entered.working.plan? request.planId).isSome := by simp [isPlan]
      exact RebootOrchestrator.observeReturn_isReady_iff reports unbounded isPresent isReceipt found
  | some completed =>
      obtain ⟨⟨operationId, bootId, discovery, isPayload⟩, _, back, isBack, shows⟩ :=
        recorded.discovered completed found
      obtain ⟨gone, isGone, _⟩ := (recorded.reconnected back isBack).2
      refine iff_of_true ?_
        ⟨fun row isRow => ?_, fun absent => ?_, fun absent => ?_, fun absent => ?_⟩
      · simp only [RebootOrchestrator.completedResult, isPayload]
        exact ⟨_, rfl, rfl⟩
      · rw [isBack] at isRow
        cases isRow
        exact shows
      · rw [isGone] at absent
        cases absent
      · rw [isBack] at absent
        cases absent
      · rw [found] at absent
        cases absent

/-- Across the runs of a reboot a ready report is backed by an observed disconnect, return and
completion unless an earlier run recorded that the host did not go; and a run whose gateways
report a completed return is ready exactly when no earlier run recorded that the host was not
back with another boot id, and the missing records find their numbers free. -/
theorem return_discovered (awaits : AwaitsReturn request.planId database)
    (calls : List ReturnCall) (call : ReturnCall) :
    (DisconnectUndenied request (reachedBy request database calls).working →
      call.ReportsReady request (reachedBy request database calls) →
      ∀ sign, ObservedIn request database (calls ++ [call]) sign) ∧
    (call.Proceeds request (reachedBy request database calls) →
      call.orchestrator.ReportsReturn request →
      (call.ReportsReady request (reachedBy request database calls) ↔
        ReturnUndenied request (reachedBy request database calls).working ∧
          ReturnRecordable call.orchestrator request
            (reachedBy request database calls).working)) :=
  ⟨ready_observed awaits calls call, ready_iff awaits calls call⟩

end Calls

namespace ReturnSample

theorem nodeId_positive : 1 ≤ 1 :=
  le_refl 1

theorem sorted_none : ([] : List ClusterGuardSpec).Pairwise fun first second =>
    first.clusterId < second.clusterId :=
  .nil

theorem sequenceBase_bounded : 0 ≤ 1000000 :=
  Nat.zero_le _

/-- The reboot of the sample host, without clusters. -/
def request : RebootRequest where
  planId := "plan"
  nodeId := 1
  preRebootBootId := "boot"
  executorManifest := ⟨⟨"operation", "plan", 1, 0, 1, "boot", []⟩, ⟨"key", "digest", "value"⟩⟩
  clusters := []
  nodeId_positive := nodeId_positive
  preRebootBootId_present := by decide +kernel
  manifest_planId := rfl
  manifest_nodeId := rfl
  manifest_bootId := rfl
  clusters_sorted := sorted_none
  clusters_bounded := by decide

/-- The gateways confirm everything but, as given, the disconnect and the reconnect. -/
def orchestrator (disconnected connected : Bool) : RebootOrchestrator where
  predicates := .injected fun _ _ => .ok
    { evaluatedAt := 0
      decisions := [⟨"ready", true, "observed", by decide +kernel, by decide +kernel⟩]
      nonempty := by simp
      unique := by simp }
  stage := HostSample.gateways.stage
  discover := HostSample.gateways.discover
  invokeReboot := HostSample.gateways.invokeReboot
  waitForDisconnect _ _ _ := .ok ⟨disconnected, 0⟩
  waitForReconnect _ _ := .ok ⟨connected, some "other", 0, fun _ => ⟨"other", rfl, by decide⟩⟩
  control _ := .none
  executionEnabled := true
  sequenceBase := 0
  sequenceBase_bounded := sequenceBase_bounded

/-- The first call, on the ready plan. -/
def first (disconnected connected : Bool) : ReturnCall :=
  ⟨orchestrator disconnected connected, false, [], none⟩

/-- The next call, after the plan was moved back into execution. -/
def next (disconnected connected : Bool) : ReturnCall :=
  ⟨orchestrator disconnected connected, false, [.executing], none⟩

def ready : RebootOrchestrationResult :=
  ⟨.readyForPostReturn, "plan", "operation", "return-discovered", some "other", some .complete⟩

theorem reports : (orchestrator true true).ReportsReturn request where
  disconnects _ _ := ⟨_, rfl, rfl⟩
  reconnects _ := ⟨_, rfl, rfl, by decide⟩
  completes _ := ⟨_, rfl, rfl⟩

/-- The first call loses the host before its reconnect. -/
def unreachable : ReturnCall :=
  { first true true with
    orchestrator :=
      { orchestrator true true with waitForReconnect := fun _ _ => .error ⟨.adapter, "no host"⟩ } }

theorem awaits : AwaitsReturn request.planId HostSample.database :=
  ⟨rfl, rfl, rfl⟩

/-- The plan as a call finds it, from its columns. -/
theorem proceeds {call : ReturnCall} {world : MaintenanceWorld}
    (enabled : call.orchestrator.executionEnabled) (uninterrupted : call.budget = none)
    (plan : (((call.toCall request).entered world).working.plan? "plan").map
      (fun plan => (plan.operationKind, plan.targetNodeId, plan.lifecycleState)) =
        some (.reboot, some 1, .executing))
    (acknowledged : (world.working.journal "plan" .invocationAcknowledged).any
      fun row => match row.payload with
        | .invocation _ => true
        | _ => false) : call.Proceeds request world := by
  obtain ⟨found, isPlan, columns⟩ := Option.map_eq_some_iff.mp plan
  simp only [Prod.mk.injEq] at columns
  obtain ⟨row, isRow, isReceipt⟩ := (Option.any_eq_true _ _).mp acknowledged
  refine ⟨enabled, uninterrupted, ⟨found, isPlan, columns⟩, row, ?_⟩
  split at isReceipt
  · rename_i receipt isPayload
    exact ⟨receipt, isRow, isPayload⟩
  · cases isReceipt

end ReturnSample

open ReturnSample in
/-- After an unanswered reconnect the return is discovered and backed. -/
theorem return_discovered_retried :
    (next true true).ReportsReady request
        (reachedBy request HostSample.database [unreachable]) ∧
      ∀ sign, ObservedIn request HostSample.database [unreachable, next true true] sign := by
  have discovered := return_discovered awaits [unreachable] (next true true)
  have ready : (next true true).ReportsReady request
      (reachedBy request HostSample.database [unreachable]) := ⟨ready, rfl, by decide +kernel⟩
  have shown : (((reachedBy request HostSample.database [unreachable]).working.journal "plan"
      .sshDisconnected).all fun row => row.showsDisconnect) = true := by decide +kernel
  refine ⟨ready, discovered.1 (fun row isRow => ?_) ready⟩
  change Database.journal _ "plan" _ = _ at isRow
  simpa [isRow] using shown

open ReturnSample in
/-- A disconnect that was denied once is passed over by the next run, and a reconnect that was
denied once is never asked for again. -/
theorem return_frozen :
    ((next false true).ReportsReady request
        (reachedBy request HostSample.database [first false true]) ∧
      ¬ ObservedIn request HostSample.database [first false true, next false true]
        .disconnected) ∧
    (next true true).Proceeds request (reachedBy request HostSample.database [first true false]) ∧
      (next true true).orchestrator.ReportsReturn request ∧
      ¬ (next true true).ReportsReady request
        (reachedBy request HostSample.database [first true false]) := by
  refine ⟨⟨⟨ready, rfl, by decide +kernel⟩, ?_⟩, ?_, reports, ?_⟩
  · have denied : ∀ call ∈ [first false true, next false true],
        ∀ nodeId invocationId history,
          call.orchestrator.waitForDisconnect nodeId invocationId history = .ok ⟨false, 0⟩ := by
      simp [first, next, orchestrator]
    rintro ⟨earlier, call, later, calls, _, _, _, _, _, _, row, receipt, observation, _, _,
      answered, isGone⟩
    have member : call ∈ [first false true, next false true] := by
      rw [calls]
      simp
    rw [denied call member] at answered
    cases answered
    cases isGone
  · exact proceeds rfl rfl (by decide +kernel) (by decide +kernel)
  · rintro ⟨result, isReady, returned⟩
    have ended : (((next true true).orchestrator.run request (next true true).resume).run
        (((next true true).toCall request).entered
          (reachedBy request HostSample.database [first true false]))).1 =
        .returned (request.result .recoveryRequired "host-not-returned") := by
      decide +kernel
    rw [ended] at returned
    cases returned
    cases isReady

end ElKeeper
