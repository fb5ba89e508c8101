import ElKeeper.RebootSteps

/-!
# Runs that are ready for the return

Only a verified return of the host ends a run ready for post-return work.  On
the way there a run records checkpoints and may take its plan into execution;
it leaves the plan for another state only where it ends otherwise.
-/

namespace ElKeeper

open Program MaintenanceStore

/-- A phase that ended reports no return; where it goes on, the assertion holds. -/
def Progress.GoesOn {α : Type} (assertion : MaintenanceWorld → Prop) (progress : Progress α)
    (world : MaintenanceWorld) : Prop :=
  match progress with
  | .ended result => result.status ≠ .readyForPostReturn
  | .continues _ => assertion world

namespace RebootOrchestrator

variable {before : MaintenanceWorld → Prop}

/-- Whatever a program does, nothing is promised about it. -/
theorem anyhow {α : Type} (program : Action α) :
    Maintains (fun _ => True) before program fun _ _ => True :=
  fun _ _ _ => ⟨trivial, fun _ _ => trivial⟩

theorem endInRecovery_unready (request : RebootRequest) (reasonCode : String)
    (bootId : Option String) (executorState : Option ExecutorDiscoveryState) :
    Maintains (fun _ => True) before (endInRecovery request reasonCode bootId executorState)
      fun result _ => result.status ≠ .readyForPostReturn :=
  .bind (anyhow _) fun _ => .pure fun _ _ _ => by simp [RebootRequest.result]

theorem endBlocked_unready (request : RebootRequest) (reasonCode : String) :
    Maintains (fun _ => True) before (endBlocked request reasonCode)
      fun result _ => result.status ≠ .readyForPostReturn :=
  .bind (anyhow _) fun _ => .pure fun _ _ _ => by simp [RebootRequest.result]

/-- A program that ends without a return ends its phase. -/
theorem ended_goesOn {α : Type} {assertion : MaintenanceWorld → Prop}
    {program : Action RebootOrchestrationResult}
    (unready : Maintains (fun _ => True) before program
      fun result _ => result.status ≠ .readyForPostReturn) :
    Maintains (fun _ => True) before
      (program >>= fun result => (pure (.ended result) : Action (Progress α)))
      (Progress.GoesOn assertion) :=
  .bind unready fun _ => .pure fun _ _ known => known

section Calm

variable (orchestrator : RebootOrchestrator) {request : RebootRequest}
  {calm : Database → Database → Prop} {assertion : MaintenanceWorld → Prop}

/-- The steps of a run that only records. -/
abbrev RecordStep (calm : Database → Database → Prop) :
    MaintenanceWorld → MaintenanceWorld → Prop :=
  WorldStep calm (fun _ _ => True) fun _ => False

variable (journal : AdmitsJournal request.planId orchestrator.sequenceBase (fun _ => True) calm)
  (keeps : ∀ before after, RecordStep calm before after → assertion before → assertion after)

include keeps

theorem calmly {α : Type} {program : Action α} (moves : Moves (RecordStep calm) program) :
    Maintains (fun _ => True) assertion program fun _ => assertion :=
  .ofMoves moves (fun _ _ _ _ => trivial) keeps

include journal

/-- A recorded checkpoint is on the connection. -/
theorem record_recorded {key : CheckpointKey} {sequence : Nat} {state : SideEffectState}
    (numbered : ∀ offset, key.rebootOffset = some offset → sequence = offset)
    (isState : state ∈ key.rebootStates) (payload : CheckpointPayload) (observation : Json) :
    Maintains (fun _ => True) assertion
      (record orchestrator request key sequence state payload observation)
      fun _ world => assertion world ∧
        (world.working.journal request.planId key).isSome := by
  intro world _ known
  have kept := calmly keeps
    (record_moves orchestrator journal trivial numbered isState payload observation) world
    trivial known
  refine ⟨trivial, fun row returned => ⟨kept.2 row returned, ?_⟩⟩
  have recorded := (recordCheckpoint_returned (store_returned returned)).1
  obtain ⟨budget, ended⟩ := store_run (recordCheckpoint request.planId
    { key := key
      sequence := orchestrator.sequenceBase + sequence
      sideEffectState := state
      payload := payload
      observation := observation }) world
  simp only [record, ended]
  exact Option.isSome_iff_exists.mpr ⟨row, recorded⟩

/-- An activation fails with a status that is not ready. -/
theorem activateEach_goesOn (captures : List (Nat × Json)) (specs : List ClusterGuardSpec)
    (active : List (Nat × Json)) :
    Maintains (fun _ => True) assertion
      (activateEach orchestrator request captures specs active)
      fun activation world => match activation.failure with
        | none => assertion world
        | some failure => failure.1 ≠ .readyForPostReturn := by
  induction specs generalizing active with
  | nil =>
      exact .bind (calmly keeps (record_moves orchestrator journal trivial
        (by exact fun _ => Option.some.inj) (by simp [CheckpointKey.rebootStates]) _ _))
        fun _ => .pure fun _ _ known => known
  | cons spec rest ih =>
      simp only [activateEach]
      split
      · exact ih active
      · refine .bind (calmly keeps (.attempt ?_)) fun outcome => ?_
        · simp only [activateGuard]
          split
          · exact .raise _
          · exact .ask fun _ _ => trivial
        · cases outcome with
          | error error => exact .bind (anyhow _) fun _ => .pure fun _ _ _ => by simp
          | ok answer =>
              refine .bind (calmly keeps (.ofExcept _)) fun status => ?_
              refine .bind (calmly keeps (.ofExcept _)) fun checkpoint => ?_
              split
              · exact ih _
              · refine .bind (anyhow _) fun restored => ?_
                split
                · exact .pure fun _ _ _ => by simp
                · exact .pure fun _ _ _ => by simp

theorem activateClusterGuards_goesOn (captures : List (Nat × Json)) :
    Maintains (fun _ => True) assertion (activateClusterGuards orchestrator request captures)
      fun activation world => match activation.failure with
        | none => assertion world
        | some failure => failure.1 ≠ .readyForPostReturn := by
  refine .bind (calmly keeps (.view _)) fun found => ?_
  cases found with
  | none => exact activateEach_goesOn orchestrator journal keeps _ _ _
  | some row =>
      dsimp only
      split
      · exact .bind (calmly keeps (.ofExcept _)) fun _ => .pure fun _ _ known => known
      · exact .raise _ _

omit journal in
/-- A control request ends the run without a return. -/
theorem applySafeControl_goesOn :
    Maintains (fun _ => True) assertion (applySafeControl orchestrator request)
      fun controlled world => match controlled with
        | none => assertion world
        | some result => result.status ≠ .readyForPostReturn := by
  refine .bind (calmly keeps (.read _)) fun action => ?_
  split
  · exact .pure fun _ _ known => known
  · refine .bind (anyhow _) fun plan => .bind (anyhow _) fun attempt => ?_
    refine .bind (anyhow _) fun _ => .bind (anyhow _) fun paused => ?_
    split
    · exact .pure fun _ _ _ => by simp [RebootRequest.result]
    · exact .bind (anyhow _) fun _ => .pure fun _ _ _ => by simp [RebootRequest.result]

theorem prepareForReboot_goesOn :
    Maintains (fun _ => True) assertion (prepareForReboot orchestrator request)
      (Progress.GoesOn assertion) := by
  refine .bind (calmly keeps (.attempt (prepareClusters_moves orchestrator journal
    (fun _ => trivial) trivial fun _ _ _ => trivial))) fun prepared => ?_
  cases prepared with
  | error error => exact ended_goesOn (endBlocked_unready _ _)
  | ok captures =>
      refine .bind (applySafeControl_goesOn orchestrator keeps) fun controlled => ?_
      cases controlled with
      | some result => exact .pure fun _ _ known => known
      | none =>
          refine .bind (calmly keeps (.attempt (evaluate_moves orchestrator journal .prepare
            (fun _ => trivial) fun _ _ _ => trivial))) fun evaluated => ?_
          cases evaluated with
          | error error => exact ended_goesOn (endBlocked_unready _ _)
          | ok evaluation =>
              dsimp only
              split
              · exact ended_goesOn (endBlocked_unready _ _)
              · refine .bind (activateClusterGuards_goesOn orchestrator journal keeps captures)
                  fun activation => ?_
                rcases activation with ⟨active, _ | ⟨status, reasonCode⟩⟩
                · exact .pure fun _ _ known => known
                · cases status with
                  | recoveryRequired => exact ended_goesOn (endInRecovery_unready _ _ _ _)
                  | readyForPostReturn => exact fun _ _ unready => absurd rfl unready
                  | blocked | paused | cancelled =>
                      exact .bind (anyhow _) fun _ => .pure fun _ _ _ => by
                        simp [Progress.GoesOn, RebootRequest.result]

theorem stageForReboot_goesOn (active : List (Nat × Json)) :
    Maintains (fun _ => True) assertion (stageForReboot orchestrator request active)
      (Progress.GoesOn assertion) := by
  have withdrawn : ∀ {before : MaintenanceWorld → Prop} (reasonCode : String),
      Maintains (fun _ => True) before
        (withdraw orchestrator request active reasonCode >>= fun result =>
          (pure (.ended result) : Action (Progress Unit)))
        (Progress.GoesOn assertion) :=
    fun reasonCode => ended_goesOn (.bind (anyhow _) fun _ => endInRecovery_unready _ _ _ _)
  refine .bind (calmly keeps (.attempt (stageExecutor_moves orchestrator journal trivial
    fun _ _ _ => trivial))) fun staging => ?_
  cases staging with
  | error error => exact withdrawn _
  | ok staged =>
      dsimp only
      split
      · exact withdrawn _
      · refine .bind (calmly keeps (.attempt (evaluate_moves orchestrator journal .reboot
          (fun _ => trivial) fun _ _ _ => trivial))) fun evaluated => ?_
        cases evaluated with
        | error error => exact withdrawn _
        | ok evaluation =>
            dsimp only
            split
            · refine .bind (anyhow _) fun restored => ?_
              split
              · exact ended_goesOn (endBlocked_unready _ _)
              · exact ended_goesOn (endInRecovery_unready _ _ _ _)
            · exact .pure fun _ _ known => known

theorem invoke_goesOn :
    Maintains (fun _ => True) assertion (invoke orchestrator request)
      (Progress.GoesOn assertion) := by
  refine .bind (calmly keeps (record_moves orchestrator journal trivial
    (by exact fun _ => Option.some.inj) (by simp [CheckpointKey.rebootStates]) _ _)) fun _ => ?_
  refine .bind (calmly keeps (.attempt (.ask fun _ _ => trivial))) fun outcome => ?_
  cases outcome with
  | error error => exact ended_goesOn (endInRecovery_unready _ _ _ _)
  | ok invocation =>
      dsimp only
      split
      · exact ended_goesOn (endInRecovery_unready _ _ _ _)
      · split
        · exact ended_goesOn (endInRecovery_unready _ _ _ _)
        · exact .bind (calmly keeps (record_moves orchestrator journal trivial
            (by exact fun _ => Option.some.inj) (by simp [CheckpointKey.rebootStates]) _ _))
            fun _ => .pure fun _ _ known => known

theorem observeDisconnect_goesOn (acknowledged : CheckpointRecord) :
    Maintains (fun _ => True) assertion (observeDisconnect orchestrator request acknowledged)
      (Progress.GoesOn assertion) := by
  refine .bind (calmly keeps (.view _)) fun found => ?_
  cases found with
  | some row => exact .pure fun _ _ known => known
  | none =>
      dsimp only
      split
      · refine .bind (calmly keeps (.attempt (.ask fun _ _ => trivial))) fun outcome => ?_
        cases outcome with
        | error error => exact ended_goesOn (endInRecovery_unready _ _ _ _)
        | ok disconnect =>
            refine .bind (calmly keeps (record_moves orchestrator journal trivial
              (by exact fun _ => Option.some.inj) (by simp [CheckpointKey.rebootStates]) _ _))
              fun _ => ?_
            split
            · exact ended_goesOn (endInRecovery_unready _ _ _ _)
            · exact .pure fun _ _ known => known
      · exact .raise _ _

theorem observeReconnect_goesOn :
    Maintains (fun _ => True) assertion (observeReconnect orchestrator request)
      (Progress.GoesOn assertion) := by
  refine .bind (calmly keeps (.view _)) fun found => ?_
  cases found with
  | some row => exact .pure fun _ _ known => known
  | none =>
      refine .bind (calmly keeps (.attempt (.ask fun _ _ => trivial))) fun outcome => ?_
      cases outcome with
      | error error => exact ended_goesOn (endInRecovery_unready _ _ _ _)
      | ok reconnect =>
          exact .bind (calmly keeps (record_moves orchestrator journal trivial
            (by exact fun _ => Option.some.inj) (by simp [CheckpointKey.rebootStates]) _ _))
            fun _ => .pure fun _ _ known => known

/-- A ready result comes with a recorded return. -/
def Ready (request : RebootRequest) (assertion : MaintenanceWorld → Prop)
    (result : RebootOrchestrationResult) (world : MaintenanceWorld) : Prop :=
  result.status = .readyForPostReturn →
    assertion world ∧ (world.working.journal request.planId .returnDiscovered).isSome

omit keeps journal in
/-- A result that is not ready promises nothing. -/
theorem unready_ready {program : Action RebootOrchestrationResult}
    (unready : Maintains (fun _ => True) before program
      fun result _ => result.status ≠ .readyForPostReturn) :
    Maintains (fun _ => True) before program (Ready request assertion) :=
  unready.weaken (fun _ _ known => known) fun _ _ _ isUnready isReady => absurd isReady isUnready

theorem discoverReturn_ready (bootId : Option String) :
    Maintains (fun _ => True) assertion (discoverReturn orchestrator request bootId)
      (Ready request assertion) := by
  refine .bind (calmly keeps (.attempt (.ask fun _ _ => trivial))) fun outcome => ?_
  cases outcome with
  | error error => exact unready_ready (endInRecovery_unready _ _ _ _)
  | ok discovery =>
      dsimp only
      split
      · exact unready_ready (endInRecovery_unready _ _ _ _)
      · refine .bind (record_recorded orchestrator journal keeps
          (by exact fun _ => Option.some.inj) (by simp [CheckpointKey.rebootStates]) _ _)
          fun completed => ?_
        exact Maintains.ofExcept.weaken (fun _ _ known => known)
          fun _ _ _ known _ => known.2

theorem observeReturn_ready (acknowledged : CheckpointRecord) :
    Maintains (fun _ => True) assertion (observeReturn orchestrator request acknowledged)
      (Ready request assertion) := by
  refine .bind (observeDisconnect_goesOn orchestrator journal keeps acknowledged) fun gone => ?_
  cases gone with
  | ended result => exact unready_ready (.pure fun _ _ known => known)
  | continues _ =>
      refine .bind (observeReconnect_goesOn orchestrator journal keeps) fun back => ?_
      cases back with
      | ended result => exact unready_ready (.pure fun _ _ known => known)
      | continues row =>
          dsimp only
          split
          · split
            · exact unready_ready (endInRecovery_unready _ _ _ _)
            · split
              · exact unready_ready (endInRecovery_unready _ _ _ _)
              · exact discoverReturn_ready orchestrator journal keeps _
          · exact unready_ready (endInRecovery_unready _ _ _ _)

theorem runFresh_ready :
    Maintains (fun _ => True) assertion (runFresh orchestrator request)
      (Ready request assertion) := by
  refine .bind (prepareForReboot_goesOn orchestrator journal keeps) fun prepared => ?_
  cases prepared with
  | ended result => exact unready_ready (.pure fun _ _ known => known)
  | continues active =>
      refine .bind (stageForReboot_goesOn orchestrator journal keeps active) fun staged => ?_
      cases staged with
      | ended result => exact unready_ready (.pure fun _ _ known => known)
      | continues _ =>
          refine .bind (invoke_goesOn orchestrator journal keeps) fun invoked => ?_
          cases invoked with
          | ended result => exact unready_ready (.pure fun _ _ known => known)
          | continues acknowledged =>
              exact observeReturn_ready orchestrator journal keeps acknowledged

/-- A run that is ready for the return kept the assertion and recorded the return. -/
theorem run_ready
    (executes : ∀ owner database, calm database (database.setLifecycleState owner .executing))
    (resume : Bool) :
    Maintains (fun _ => True) assertion (run orchestrator request resume)
      (Ready request assertion) := by
  refine .bind (calmly keeps (.require _ _)) fun _ => ?_
  refine .bind (calmly keeps (.store (getPlan_moves _))) fun plan => ?_
  refine .bind (calmly keeps (.ofExcept _)) fun _ => .bind .read fun completed => ?_
  cases completed with
  | some row =>
      refine Maintains.ofExcept.weaken (fun _ _ known => known) fun _ _ _ known _ => ?_
      exact ⟨known.2.2, Option.isSome_iff_exists.mpr ⟨row, known.2.1.symm⟩⟩
  | none =>
      dsimp only
      split
      · exact unready_ready (.bind (anyhow _) fun _ => .pure fun _ _ _ => by
          simp [RebootRequest.result])
      · have enters : Moves (RecordStep calm) (store (enterExecution plan resume)) := by
          refine .store ?_
          simp only [enterExecution]
          split
          · exact transitionPlan_moves (executes _)
          · split
            · exact transitionPlan_moves (executes _)
            · split
              · exact .pure plan
              · exact .raise _
        refine .bind ((calmly keeps enters).weaken (fun _ _ known => known.2)
          fun _ _ _ known => known) fun entered => ?_
        split
        · exact unready_ready (.pure fun _ _ _ => by simp [RebootRequest.result])
        · refine .bind (calmly keeps (.view _)) fun intent => ?_
          refine .bind (calmly keeps (.view _)) fun acknowledged => ?_
          cases acknowledged with
          | some row => cases intent <;> exact observeReturn_ready orchestrator journal keeps row
          | none =>
              cases intent with
              | some _ => exact unready_ready (endInRecovery_unready _ _ _ _)
              | none => exact runFresh_ready orchestrator journal keeps

end Calm

end RebootOrchestrator

end ElKeeper
