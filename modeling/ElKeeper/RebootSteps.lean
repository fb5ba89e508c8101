import ElKeeper.RebootOrchestrator

/-!
# The steps of a reboot run

Which writes and effects each phase of a run is composed of.  The writes are
described by the relations that admit them, so that an invariant is transported
through a phase by checking it on single checkpoints, plan states and effects.
-/

namespace ElKeeper

/-- Effects of a run that neither touch a cluster guard nor invoke the reboot. -/
def Effect.quiet : Effect → Bool
  | .guardActivation _ _ | .guardRestoration _ | .invokeReboot _ _ => false
  | .runtimeStop _ | .runtimeStart _ => false
  | _ => true

/-- Effects of a run that do not invoke the reboot. -/
def Effect.preparatory : Effect → Bool
  | .invokeReboot _ _ | .runtimeStop _ | .runtimeStart _ => false
  | _ => true

def Effect.isInvocation : Effect → Bool
  | .invokeReboot _ _ => true
  | _ => false

theorem Effect.preparatory_of_quiet {effect : Effect} (quiet : effect.quiet) :
    effect.preparatory := by
  cases effect <;> first | rfl | cases quiet

theorem Effect.isInvocation_of_preparatory {effect : Effect} (preparatory : effect.preparatory) :
    effect.isInvocation = false := by
  cases effect <;> first | rfl | cases preparatory

namespace CheckpointKey

/-- The number under which the orchestrator records a key, counted from its sequence base.
A captured cluster is numbered by its position instead. -/
@[simp]
def rebootOffset : CheckpointKey → Option Nat
  | clustersPrepared => some 200
  | control _ attempt => some (250 + attempt)
  | predicates .prepare attempt => some (300 + attempt)
  | clusterGuardsActive => some 400
  | executorStaged => some 500
  | predicates .reboot attempt => some (600 + attempt)
  | clusterGuardsRestored => some 650
  | rebootIntent => some 700
  | invocationAcknowledged => some 800
  | sshDisconnected => some 900
  | hostReconnected => some 1000
  | returnDiscovered => some 1100
  | _ => none

/-- The keys that the orchestrator records before it intends to reboot. -/
def beforeIntent : CheckpointKey → Bool
  | clusterCaptured _ | clustersPrepared | control _ _ | predicates _ _ => true
  | clusterGuardsActive | clusterGuardsRestored | executorStaged => true
  | _ => false

/-- The side-effect states with which the orchestrator records a key. -/
@[simp]
def rebootStates : CheckpointKey → List SideEffectState
  | clusterCaptured _ | control _ _ | predicates .prepare _ => [.notStarted]
  | clustersPrepared | predicates .reboot _ | rebootIntent => [.prepared]
  | clusterGuardsActive | returnDiscovered => [.verified]
  | clusterGuardsRestored | executorStaged => [.verified, .mayHaveStarted]
  | invocationAcknowledged | sshDisconnected | hostReconnected => [.mayHaveStarted]
  | _ => []

end CheckpointKey

/-- A content as the orchestrator records it at a sequence base. -/
structure MaintenanceStore.CheckpointContent.OfReboot (sequenceBase : Nat)
    (content : MaintenanceStore.CheckpointContent) : Prop where
  sequence : ∀ offset, content.key.rebootOffset = some offset →
    content.sequence = sequenceBase + offset
  state : content.sideEffectState ∈ content.key.rebootStates

/-- The writes inside the savepoint of the cluster preparation. -/
def PreparationWrite (planId : String) (sequenceBase : Nat) (before after : Database) : Prop :=
  ∃ (content : MaintenanceStore.CheckpointContent) (identifier : Nat),
    (content.key = .clustersPrepared ∨ ∃ clusterId, content.key = .clusterCaptured clusterId) ∧
      content.OfReboot sequenceBase ∧
      after = before.addCheckpoint (content.row planId identifier)

/-- The cluster preparation leaves other keys alone. -/
theorem preparation_journal {planId : String} {sequenceBase : Nat} {before after : Database}
    (reached : Relation.ReflTransGen (PreparationWrite planId sequenceBase) before after)
    {key : CheckpointKey} (other : key ≠ .clustersPrepared)
    (others : ∀ clusterId, key ≠ .clusterCaptured clusterId) :
    after.journal planId key = before.journal planId key := by
  induction reached with
  | refl => rfl
  | tail _ step ih =>
      obtain ⟨content, identifier, isKey, _, rfl⟩ := step
      refine (MaintenanceStore.journal_addCheckpoint_of_ne ?_).trans ih
      rintro rfl
      rcases isKey with isKey | ⟨clusterId, isKey⟩
      · exact other isKey
      · exact others clusterId isKey

/-- A relation admits the checkpoints of a run on the plan that have one of the given keys, and
can take the cluster preparation back. -/
structure AdmitsJournal (planId : String) (sequenceBase : Nat) (keys : CheckpointKey → Prop)
    (writes : Database → Database → Prop) : Prop where
  checkpoint : ∀ content : MaintenanceStore.CheckpointContent, keys content.key →
    content.OfReboot sequenceBase → ∀ database identifier,
      writes database (database.addCheckpoint (content.row planId identifier))
  hostState : ∀ nodeId database, database.hostState? nodeId = none →
    writes database (database.addHostState (MaintenanceStore.newHostState nodeId))
  assignmentState : ∀ assignmentId database, database.assignmentState? assignmentId = none →
    writes database
      (database.addAssignmentState (MaintenanceStore.newAssignmentState assignmentId))
  undo : ∀ before after,
    Relation.ReflTransGen (PreparationWrite planId sequenceBase) before after →
      writes after before

/-- It also admits the plan states of a run. -/
structure AdmitsRun (planId : String) (sequenceBase : Nat) (keys : CheckpointKey → Prop)
    (writes : Database → Database → Prop) : Prop
    extends AdmitsJournal planId sequenceBase keys writes where
  lifecycle : ∀ owner target database, target ≠ .ready → owner = planId ∨ target = .executing →
    writes database (database.setLifecycleState owner target)

namespace PredicateEvaluator

open Program MaintenanceStore

variable {planId : String} {sequenceBase : Nat} {keys : CheckpointKey → Prop}
  {writes : Database → Database → Prop} {sends : MaintenanceWorld → Effect → Prop}
  {commits : MaintenanceWorld → Prop}

theorem assignmentsReady_moves (admits : AdmitsJournal planId sequenceBase keys writes)
    (owner : String) (assignmentIds : List Nat) :
    Moves writes (assignmentsReady owner assignmentIds) := by
  induction assignmentIds with
  | nil => exact .pure true
  | cons assignmentId rest ih =>
      refine .bind (getAssignmentState_moves (admits.assignmentState assignmentId)) fun state => ?_
      split
      · exact ih
      · exact .pure false

theorem recheckHost_moves (admits : AdmitsJournal planId sequenceBase keys writes)
    (owner : String) (nodeId : Nat) (assignmentIds : List Nat) :
    Moves writes (recheckHost owner nodeId assignmentIds) := by
  refine .bind (getPlan_moves owner) fun plan => ?_
  refine .bind (getHostState_moves (admits.hostState nodeId)) fun host => ?_
  exact .bind (assignmentsReady_moves admits owner assignmentIds) fun ready => .pure _

theorem evaluate_moves (admits : AdmitsJournal planId sequenceBase keys writes)
    (quiet : ∀ world effect, Effect.quiet effect → sends world effect)
    (evaluator : PredicateEvaluator) (owner : String) (nodeId : Nat) (stage : PredicateStage) :
    Moves (WorldStep writes sends commits) (evaluator.evaluate owner nodeId stage) := by
  cases evaluator with
  | injected answer => exact .ask fun world _ => quiet world _ rfl
  | hostMaintenance assignmentIds clock =>
      refine .bind (.store (recheckHost_moves admits owner nodeId assignmentIds)) fun ready => ?_
      exact .bind (.read _) fun now => .pure _

end PredicateEvaluator

namespace RebootOrchestrator

open Program MaintenanceStore

section

variable {planId : String} {sequenceBase : Nat} {keys : CheckpointKey → Prop}
  {writes : Database → Database → Prop}

theorem markFailed_moves (admits : AdmitsRun planId sequenceBase keys writes) :
    Moves writes (markFailed planId) := by
  refine .bind (getPlan_moves planId) fun plan => ?_
  split
  · refine .bind (transitionPlan_moves fun database => ?_) fun _ => .pure ()
    exact admits.lifecycle _ _ database (by decide) (.inl rfl)
  · exact .pure ()

theorem markRecoveryRequired_moves (admits : AdmitsRun planId sequenceBase keys writes) :
    Moves writes (markRecoveryRequired planId) := by
  refine .bind (getPlan_moves planId) fun plan => ?_
  split
  · refine .bind (transitionPlan_moves fun database => ?_) fun _ => .pure ()
    exact admits.lifecycle _ _ database (by decide) (.inl rfl)
  · exact .pure ()

theorem enterExecution_moves (admits : AdmitsRun planId sequenceBase keys writes)
    (plan : PlanRecord) (resume : Bool) : Moves writes (enterExecution plan resume) := by
  simp only [enterExecution]
  split
  · exact transitionPlan_moves fun database =>
      admits.lifecycle _ _ database (by decide) (.inr rfl)
  · split
    · exact transitionPlan_moves fun database =>
        admits.lifecycle _ _ database (by decide) (.inr rfl)
    · split
      · exact .pure plan
      · exact .raise _

end

section Phases

variable (orchestrator : RebootOrchestrator) {request : RebootRequest}
  {keys : CheckpointKey → Prop} {writes : Database → Database → Prop}
  {sends : MaintenanceWorld → Effect → Prop} {commits : MaintenanceWorld → Prop}

theorem endInRecovery_moves {sequenceBase : Nat}
    (admits : AdmitsRun request.planId sequenceBase keys writes)
    (reasonCode : String) (bootId : Option String)
    (executorState : Option ExecutorDiscoveryState) :
    Moves (WorldStep writes sends commits)
      (endInRecovery request reasonCode bootId executorState) :=
  .bind (.store (markRecoveryRequired_moves admits)) fun _ => .pure _

theorem endBlocked_moves {sequenceBase : Nat}
    (admits : AdmitsRun request.planId sequenceBase keys writes)
    (reasonCode : String) :
    Moves (WorldStep writes sends commits) (endBlocked request reasonCode) :=
  .bind (.store (markFailed_moves admits)) fun _ => .pure _

theorem record_moves
    (admits : AdmitsJournal request.planId orchestrator.sequenceBase keys writes)
    {key : CheckpointKey} {sequence : Nat} {sideEffectState : SideEffectState} (listed : keys key)
    (numbered : ∀ offset, key.rebootOffset = some offset → sequence = offset)
    (state : sideEffectState ∈ key.rebootStates)
    (payload : CheckpointPayload) (observation : Json) :
    Moves (WorldStep writes sends commits)
      (record orchestrator request key sequence sideEffectState payload observation) :=
  .store (recordCheckpoint_moves fun database identifier =>
    admits.checkpoint _ listed
      ⟨fun offset isOffset => by rw [numbered offset isOffset], state⟩ database identifier)

/-! ### Preparation -/

theorem captureClusters_moves
    (quiet : ∀ world effect, Effect.quiet effect → sends world effect)
    (specs : List ClusterGuardSpec) :
    Moves (WorldStep writes sends commits) (captureClusters specs) := by
  induction specs with
  | nil => exact .pure _
  | cons spec rest ih =>
      refine .bind ?_ fun capture => .bind ih fun captures => .pure _
      simp only [captureCluster]
      split
      · exact .pure _
      · exact .ask fun world _ => quiet world _ rfl

theorem recordCaptures_moves (captures : List (Nat × Json)) (offset : Nat) :
    Moves (WorldStep (PreparationWrite request.planId orchestrator.sequenceBase) sends commits)
      (recordCaptures orchestrator request offset captures) := by
  induction captures generalizing offset with
  | nil => exact .pure ()
  | cons capture rest ih =>
      refine .bind (.store (recordCheckpoint_moves fun database identifier => ?_))
        fun _ => ih (offset + 1)
      refine ⟨_, identifier, .inr ⟨capture.1, rfl⟩, ⟨fun offset isOffset => ?_, ?_⟩, rfl⟩
      · cases isOffset
      · simp [CheckpointKey.rebootStates]

theorem recordPrepared_moves (identifiers : List Nat) :
    Moves (WorldStep (PreparationWrite request.planId orchestrator.sequenceBase) sends commits)
      (record orchestrator request .clustersPrepared 200 .prepared (.clusterIds identifiers)) := by
  refine .store (recordCheckpoint_moves fun database identifier => ?_)
  refine ⟨_, identifier, .inl rfl, ⟨fun offset isOffset => ?_, ?_⟩, rfl⟩
  · cases isOffset
    rfl
  · simp [CheckpointKey.rebootStates]

theorem loadCaptures_moves (specs : List ClusterGuardSpec) :
    Moves (WorldStep writes sends commits) (loadCaptures request specs) := by
  induction specs with
  | nil => exact .pure _
  | cons spec rest ih =>
      refine .bind ?_ fun capture => .bind ih fun captures => .pure _
      refine .bind (.view _) fun found => ?_
      cases found with
      | none => exact .raise _
      | some row =>
          dsimp only
          split
          · exact .ofExcept _
          · exact .raise _

theorem prepareClusters_moves
    (admits : AdmitsJournal request.planId orchestrator.sequenceBase keys writes)
    (captured : ∀ clusterId, keys (.clusterCaptured clusterId))
    (prepared : keys .clustersPrepared)
    (quiet : ∀ world effect, Effect.quiet effect → sends world effect) :
    Moves (WorldStep writes sends commits) (prepareClusters orchestrator request) := by
  refine .bind (.view _) fun found => ?_
  cases found with
  | some row => exact loadCaptures_moves request.clusters
  | none =>
      refine .bind (captureClusters_moves quiet request.clusters) fun captures => ?_
      refine .bind (.savepoint (.bind (recordCaptures_moves orchestrator captures 0)
        fun _ => recordPrepared_moves orchestrator _) ?_ admits.undo) fun _ => .pure captures
      rintro before _ ⟨content, identifier, isKey, ofReboot, rfl⟩
      refine admits.checkpoint content ?_ ofReboot before identifier
      rcases isKey with isKey | ⟨clusterId, isKey⟩
      · rw [isKey]
        exact prepared
      · rw [isKey]
        exact captured clusterId

theorem applySafeControl_moves
    (admits : AdmitsRun request.planId orchestrator.sequenceBase keys writes)
    (controlled : ∀ action attempt, keys (.control action attempt)) :
    Moves (WorldStep writes sends commits) (applySafeControl orchestrator request) := by
  refine .bind (.read _) fun action => ?_
  split
  · exact .pure none
  · refine .bind (.store (getPlan_moves _)) fun plan => ?_
    refine .bind (.view _) fun attempt => ?_
    refine .bind (record_moves orchestrator admits.toAdmitsJournal (controlled _ _)
      (fun _ => Option.some.inj) (by simp [CheckpointKey.rebootStates]) _ _) fun _ => ?_
    refine .bind (.store (transitionPlan_moves fun database =>
      admits.lifecycle _ _ database (by decide) (.inl rfl))) fun paused => ?_
    split
    · exact .pure _
    · exact .bind (.store (transitionPlan_moves fun database =>
        admits.lifecycle _ _ database (by decide) (.inl rfl))) fun _ => .pure _

theorem evaluate_moves
    (admits : AdmitsJournal request.planId orchestrator.sequenceBase keys writes)
    (stage : PredicateStage) (evaluated : ∀ attempt, keys (.predicates stage attempt))
    (quiet : ∀ world effect, Effect.quiet effect → sends world effect) :
    Moves (WorldStep writes sends commits) (evaluate orchestrator request stage) := by
  refine .bind (PredicateEvaluator.evaluate_moves admits quiet _ _ _ _) fun evaluation => ?_
  refine .bind (.view _) fun attempt => ?_
  refine .bind (.require _ _) fun _ => ?_
  refine .bind (record_moves orchestrator admits (evaluated _) ?_ ?_ _ _) fun _ => .pure _
  · cases stage <;> exact fun _ => Option.some.inj
  · cases stage <;> simp [CheckpointKey.rebootStates]

/-! ### Guards -/

theorem restoreGuard_moves
    (restores : ∀ world clusterId, sends world (.guardRestoration clusterId))
    (spec : ClusterGuardSpec) (guard : ClusterGuard) (checkpoint : Json) (verified : Bool) :
    Moves (WorldStep writes sends commits) (restoreGuard spec guard checkpoint verified) := by
  refine .bind (.attempt ?_) fun outcome => ?_
  · refine .bind (.ask fun world _ => restores world _) fun answer => ?_
    split
    · exact .bind (.ofExcept _) fun _ => .pure _
    · exact .pure _
  · cases outcome with
    | ok restored => exact .pure _
    | error error => exact .pure _

theorem restoreEach_moves
    (restores : ∀ world clusterId, sends world (.guardRestoration clusterId))
    (active : List (Nat × Json)) (specs : List ClusterGuardSpec) (verified : Bool)
    (results : List (Nat × Json)) :
    Moves (WorldStep writes sends commits) (restoreEach active specs verified results) := by
  induction specs generalizing verified results with
  | nil => exact .pure _
  | cons spec rest ih =>
      simp only [restoreEach]
      split
      · exact .bind (restoreGuard_moves restores _ _ _ _) fun restored => ih _ _
      · exact ih _ _

theorem restoreGuards_moves
    (admits : AdmitsJournal request.planId orchestrator.sequenceBase keys writes)
    (restored : keys .clusterGuardsRestored)
    (restores : ∀ world clusterId, sends world (.guardRestoration clusterId))
    (active : List (Nat × Json)) :
    Moves (WorldStep writes sends commits) (restoreGuards orchestrator request active) := by
  refine .bind (restoreEach_moves restores _ _ _ _) fun outcome => ?_
  refine .bind (record_moves orchestrator admits restored (fun _ => Option.some.inj) ?_ _ _)
    fun _ => .pure _
  split <;> simp [CheckpointKey.rebootStates]

theorem activateEach_moves
    (admits : AdmitsJournal request.planId orchestrator.sequenceBase keys writes)
    (activeKey : keys .clusterGuardsActive) (restored : keys .clusterGuardsRestored)
    (activates : ∀ world clusterId isActive, sends world (.guardActivation clusterId isActive))
    (restores : ∀ world clusterId, sends world (.guardRestoration clusterId))
    (captures : List (Nat × Json)) (specs : List ClusterGuardSpec)
    (active : List (Nat × Json)) :
    Moves (WorldStep writes sends commits)
      (activateEach orchestrator request captures specs active) := by
  induction specs generalizing active with
  | nil =>
      exact .bind (record_moves orchestrator admits activeKey (fun _ => Option.some.inj)
        (by simp [CheckpointKey.rebootStates]) _ _) fun _ => .pure _
  | cons spec rest ih =>
      simp only [activateEach]
      split
      · exact ih active
      · refine .bind (.attempt ?_) fun outcome => ?_
        · simp only [activateGuard]
          split
          · exact .raise _
          · exact .ask fun world _ => activates world _ _
        · cases outcome with
          | error error =>
              exact .bind (restoreGuards_moves orchestrator admits restored restores _)
                fun _ => .pure _
          | ok answer =>
              refine .bind (.ofExcept _) fun status => ?_
              refine .bind (.ofExcept _) fun checkpoint => ?_
              split
              · exact ih _
              · refine .bind (restoreGuards_moves orchestrator admits restored restores _)
                  fun isRestored => ?_
                split
                · exact .pure _
                · exact .pure _

theorem activateClusterGuards_moves
    (admits : AdmitsJournal request.planId orchestrator.sequenceBase keys writes)
    (activeKey : keys .clusterGuardsActive) (restored : keys .clusterGuardsRestored)
    (activates : ∀ world clusterId isActive, sends world (.guardActivation clusterId isActive))
    (restores : ∀ world clusterId, sends world (.guardRestoration clusterId))
    (captures : List (Nat × Json)) :
    Moves (WorldStep writes sends commits)
      (activateClusterGuards orchestrator request captures) := by
  refine .bind (.view _) fun found => ?_
  cases found with
  | none =>
      exact activateEach_moves orchestrator admits activeKey restored activates restores _ _ _
  | some row =>
      dsimp only
      split
      · exact .bind (.ofExcept _) fun _ => .pure _
      · exact .raise _

theorem withdraw_moves
    (admits : AdmitsRun request.planId orchestrator.sequenceBase keys writes)
    (restored : keys .clusterGuardsRestored)
    (restores : ∀ world clusterId, sends world (.guardRestoration clusterId))
    (active : List (Nat × Json)) (reasonCode : String) :
    Moves (WorldStep writes sends commits)
      (withdraw orchestrator request active reasonCode) :=
  .bind (restoreGuards_moves orchestrator admits.toAdmitsJournal restored restores active)
    fun _ => endInRecovery_moves admits _ _ _

/-! ### Staging and return -/

theorem stageExecutor_moves
    (admits : AdmitsJournal request.planId orchestrator.sequenceBase keys writes)
    (staged : keys .executorStaged)
    (quiet : ∀ world effect, Effect.quiet effect → sends world effect) :
    Moves (WorldStep writes sends commits) (stageExecutor orchestrator request) := by
  refine .bind (.view _) fun found => ?_
  cases found with
  | some row =>
      dsimp only
      split
      · exact .pure _
      · exact .raise _
  | none =>
      refine .bind (.ask fun world _ => quiet world _ rfl) fun receipt => ?_
      refine .bind (.require _ _) fun _ => ?_
      refine .bind (.require _ _) fun _ => ?_
      refine .bind (record_moves orchestrator admits staged (fun _ => Option.some.inj) ?_ _ _)
        fun _ => .pure _
      split <;> simp [CheckpointKey.rebootStates]

theorem observeDisconnect_moves
    (admits : AdmitsRun request.planId orchestrator.sequenceBase keys writes)
    (disconnected : keys .sshDisconnected)
    (quiet : ∀ world effect, Effect.quiet effect → sends world effect)
    (acknowledged : CheckpointRecord) :
    Moves (WorldStep writes sends commits)
      (observeDisconnect orchestrator request acknowledged) := by
  refine .bind (.view _) fun found => ?_
  cases found with
  | some row => exact .pure _
  | none =>
      dsimp only
      split
      · refine .bind (.attempt (.ask fun world _ => quiet world _ rfl)) fun outcome => ?_
        cases outcome with
        | error error => exact .bind (endInRecovery_moves admits _ _ _) fun _ => .pure _
        | ok disconnect =>
            refine .bind (record_moves orchestrator admits.toAdmitsJournal disconnected
              (fun _ => Option.some.inj) (by simp [CheckpointKey.rebootStates]) _ _) fun _ => ?_
            split
            · exact .bind (endInRecovery_moves admits _ _ _) fun _ => .pure _
            · exact .pure _
      · exact .raise _

theorem observeReconnect_moves
    (admits : AdmitsRun request.planId orchestrator.sequenceBase keys writes)
    (reconnected : keys .hostReconnected)
    (quiet : ∀ world effect, Effect.quiet effect → sends world effect) :
    Moves (WorldStep writes sends commits) (observeReconnect orchestrator request) := by
  refine .bind (.view _) fun found => ?_
  cases found with
  | some row => exact .pure _
  | none =>
      refine .bind (.attempt (.ask fun world _ => quiet world _ rfl)) fun outcome => ?_
      cases outcome with
      | error error => exact .bind (endInRecovery_moves admits _ _ _) fun _ => .pure _
      | ok reconnect =>
          exact .bind (record_moves orchestrator admits.toAdmitsJournal reconnected
              (fun _ => Option.some.inj) (by simp [CheckpointKey.rebootStates]) _ _) fun _ => .pure _

theorem discoverReturn_moves
    (admits : AdmitsRun request.planId orchestrator.sequenceBase keys writes)
    (discovered : keys .returnDiscovered)
    (quiet : ∀ world effect, Effect.quiet effect → sends world effect)
    (bootId : Option String) :
    Moves (WorldStep writes sends commits) (discoverReturn orchestrator request bootId) := by
  refine .bind (.attempt (.ask fun world _ => quiet world _ rfl)) fun outcome => ?_
  cases outcome with
  | error error => exact endInRecovery_moves admits _ _ _
  | ok discovery =>
      dsimp only
      split
      · exact endInRecovery_moves admits _ _ _
      · exact .bind (record_moves orchestrator admits.toAdmitsJournal discovered
              (fun _ => Option.some.inj) (by simp [CheckpointKey.rebootStates]) _ _)
          fun _ => .ofExcept _

theorem observeReturn_moves
    (admits : AdmitsRun request.planId orchestrator.sequenceBase keys writes)
    (disconnected : keys .sshDisconnected) (reconnected : keys .hostReconnected)
    (discovered : keys .returnDiscovered)
    (quiet : ∀ world effect, Effect.quiet effect → sends world effect)
    (acknowledged : CheckpointRecord) :
    Moves (WorldStep writes sends commits)
      (observeReturn orchestrator request acknowledged) := by
  refine .bind (observeDisconnect_moves orchestrator admits disconnected quiet acknowledged)
    fun gone => ?_
  cases gone with
  | ended result => exact .pure _
  | continues _ =>
      refine .bind (observeReconnect_moves orchestrator admits reconnected quiet)
        fun back => ?_
      cases back with
      | ended result => exact .pure _
      | continues row =>
          dsimp only
          split
          · split
            · exact endInRecovery_moves admits _ _ _
            · split
              · exact endInRecovery_moves admits _ _ _
              · exact discoverReturn_moves orchestrator admits discovered quiet _
          · exact endInRecovery_moves admits _ _ _

/-! ### Whole phases before the invocation -/

theorem prepareForReboot_moves
    (admits : AdmitsRun request.planId orchestrator.sequenceBase keys writes)
    (listed : ∀ key, CheckpointKey.beforeIntent key → keys key)
    (allowed : ∀ world effect, Effect.preparatory effect → sends world effect) :
    Moves (WorldStep writes sends commits) (prepareForReboot orchestrator request) := by
  have quiet : ∀ world effect, Effect.quiet effect → sends world effect :=
    fun world effect isQuiet => allowed world effect (Effect.preparatory_of_quiet isQuiet)
  have blocked : ∀ reasonCode, Moves (WorldStep writes sends commits)
      (endBlocked request reasonCode >>= fun result =>
        (pure (.ended result) : Action (Progress (List (Nat × Json))))) :=
    fun reasonCode => .bind (endBlocked_moves admits reasonCode) fun _ => .pure _
  refine .bind (.attempt (prepareClusters_moves orchestrator admits.toAdmitsJournal
    (fun _ => listed _ rfl) (listed _ rfl) quiet)) fun prepared => ?_
  cases prepared with
  | error error => exact blocked _
  | ok captures =>
      refine .bind (applySafeControl_moves orchestrator admits
        fun _ _ => listed _ rfl) fun controlled => ?_
      cases controlled with
      | some result => exact .pure _
      | none =>
          refine .bind (.attempt (evaluate_moves orchestrator admits.toAdmitsJournal .prepare
            (fun _ => listed _ rfl) quiet)) fun evaluated => ?_
          cases evaluated with
          | error error => exact blocked _
          | ok evaluation =>
              dsimp only
              split
              · exact blocked _
              · refine .bind (activateClusterGuards_moves orchestrator admits.toAdmitsJournal
                  (listed _ rfl) (listed _ rfl) (fun _ _ _ => allowed _ _ rfl)
                  (fun _ _ => allowed _ _ rfl) captures) fun activation => ?_
                split
                · exact .pure _
                · exact .bind (endInRecovery_moves admits _ _ _) fun _ => .pure _
                · exact .bind (.store (markFailed_moves admits)) fun _ => .pure _

theorem stageForReboot_moves
    (admits : AdmitsRun request.planId orchestrator.sequenceBase keys writes)
    (listed : ∀ key, CheckpointKey.beforeIntent key → keys key)
    (allowed : ∀ world effect, Effect.preparatory effect → sends world effect)
    (active : List (Nat × Json)) :
    Moves (WorldStep writes sends commits) (stageForReboot orchestrator request active) := by
  have quiet : ∀ world effect, Effect.quiet effect → sends world effect :=
    fun world effect isQuiet => allowed world effect (Effect.preparatory_of_quiet isQuiet)
  have restores : Moves (WorldStep writes sends commits)
      (restoreGuards orchestrator request active) :=
    restoreGuards_moves orchestrator admits.toAdmitsJournal (listed _ rfl)
      (fun _ _ => allowed _ _ rfl) active
  have withdrawn : ∀ reasonCode, Moves (WorldStep writes sends commits)
      (withdraw orchestrator request active reasonCode >>= fun result =>
        (pure (.ended result) : Action (Progress Unit))) :=
    fun reasonCode => .bind (withdraw_moves orchestrator admits (listed _ rfl)
      (fun _ _ => allowed _ _ rfl) active reasonCode) fun _ => .pure _
  refine .bind (.attempt (stageExecutor_moves orchestrator admits.toAdmitsJournal
    (listed _ rfl) quiet)) fun staging => ?_
  cases staging with
  | error error => exact withdrawn _
  | ok staged =>
      dsimp only
      split
      · exact withdrawn _
      · refine .bind (.attempt (evaluate_moves orchestrator admits.toAdmitsJournal .reboot
          (fun _ => listed _ rfl) quiet)) fun evaluated => ?_
        cases evaluated with
        | error error => exact withdrawn _
        | ok evaluation =>
            dsimp only
            split
            · refine .bind restores fun isRestored => ?_
              split
              · exact .bind (endBlocked_moves admits _) fun _ => .pure _
              · exact .bind (endInRecovery_moves admits _ _ _) fun _ => .pure _
            · exact .pure _

/-! ### A run around its fresh part -/

/-- A run maintains an invariant, and an assertion up to its fresh part, when
the steps of the other parts keep them and the fresh part, entered without an
intent, maintains the invariant. -/
theorem run_maintains {invariant assertion : MaintenanceWorld → Prop}
    (admits : AdmitsRun request.planId orchestrator.sequenceBase keys writes)
    (disconnected : keys .sshDisconnected) (reconnected : keys .hostReconnected)
    (discovered : keys .returnDiscovered)
    (quiet : ∀ world effect, Effect.quiet effect → sends world effect)
    (calm : ∀ before after, WorldStep writes sends commits before after →
      invariant before → invariant after)
    (still : ∀ before after, WorldStep writes sends commits before after →
      assertion before → assertion after)
    (fresh : Maintains invariant
      (fun world => assertion world ∧
        world.working.journal request.planId .rebootIntent = none)
      (orchestrator.runFresh request) fun _ _ => True)
    (resume : Bool) :
    Maintains invariant assertion (orchestrator.run request resume) fun _ _ => True := by
  have calmly : ∀ {α : Type} {program : Action α},
      Moves (WorldStep writes sends commits) program →
      Maintains invariant assertion program fun _ => assertion :=
    fun moves => .ofMoves moves calm still
  have ends : ∀ {program : Action RebootOrchestrationResult} {before : MaintenanceWorld → Prop},
      Moves (WorldStep writes sends commits) program →
      Maintains invariant before program fun _ _ => True :=
    fun moves => (Maintains.ofMoves moves calm fun _ _ _ known => known).weaken
      (fun _ _ _ => trivial) fun _ _ _ _ => trivial
  have executing : Maintains invariant assertion (orchestrator.runExecuting request)
      fun _ _ => True := by
    refine .bind .read fun intent => .bind .read fun acknowledged => ?_
    cases acknowledged with
    | some row =>
        have returns : Moves (WorldStep writes sends commits)
            (orchestrator.observeReturn request row) :=
          observeReturn_moves orchestrator admits disconnected reconnected discovered quiet row
        cases intent with
        | none => exact ends returns
        | some _ => exact ends returns
    | none =>
        cases intent with
        | some _ => exact ends (endInRecovery_moves admits _ _ _)
        | none =>
            exact fresh.weaken (fun _ _ known => ⟨known.2.2, known.2.1.symm⟩)
              fun _ _ _ _ => trivial
  refine .bind (calmly (.require _ _)) fun _ => ?_
  refine .bind (calmly (.store (getPlan_moves _))) fun plan => ?_
  refine .bind (calmly (.ofExcept _)) fun _ => ?_
  refine .bind (calmly (.view _)) fun completed => ?_
  cases completed with
  | some row => exact ends (.ofExcept _)
  | none =>
      dsimp only
      split
      · exact ends (.bind (.view _) fun _ => .pure _)
      · refine .bind (calmly (.store (enterExecution_moves admits plan resume)))
          fun entered => ?_
        split
        · exact ends (.pure _)
        · exact executing

/-! ### Whole runs -/

theorem invoke_moves
    (admits : AdmitsRun request.planId orchestrator.sequenceBase keys writes)
    (intended : keys .rebootIntent) (acknowledged : keys .invocationAcknowledged)
    (invokes : ∀ world nodeId operationId, sends world (.invokeReboot nodeId operationId)) :
    Moves (WorldStep writes sends commits) (invoke orchestrator request) := by
  have inRecovery : ∀ reasonCode, Moves (WorldStep writes sends commits)
      (endInRecovery request reasonCode >>= fun result =>
        (pure (.ended result) : Action (Progress CheckpointRecord))) :=
    fun reasonCode => .bind (endInRecovery_moves admits _ _ _) fun _ => .pure _
  refine .bind (record_moves orchestrator admits.toAdmitsJournal intended
    (by exact fun _ => Option.some.inj) (by simp [CheckpointKey.rebootStates]) _ _) fun _ => ?_
  refine .bind (.attempt (.ask fun world _ => invokes world _ _)) fun outcome => ?_
  cases outcome with
  | error error => exact inRecovery _
  | ok invocation =>
      dsimp only
      split
      · exact inRecovery _
      · split
        · exact inRecovery _
        · exact .bind (record_moves orchestrator admits.toAdmitsJournal acknowledged
            (by exact fun _ => Option.some.inj) (by simp [CheckpointKey.rebootStates]) _ _)
            fun _ => .pure _

theorem runFresh_moves
    (admits : AdmitsRun request.planId orchestrator.sequenceBase (fun _ => True) writes)
    (allowed : ∀ world effect, sends world effect) :
    Moves (WorldStep writes sends commits) (runFresh orchestrator request) := by
  refine .bind (prepareForReboot_moves orchestrator admits (fun _ _ => trivial)
    fun world effect _ => allowed world effect) fun prepared => ?_
  cases prepared with
  | ended result => exact .pure _
  | continues active =>
      refine .bind (stageForReboot_moves orchestrator admits (fun _ _ => trivial)
        (fun world effect _ => allowed world effect) active) fun staged => ?_
      cases staged with
      | ended result => exact .pure _
      | continues _ =>
          refine .bind (invoke_moves orchestrator admits trivial trivial
            fun _ _ _ => allowed _ _) fun invoked => ?_
          cases invoked with
          | ended result => exact .pure _
          | continues acknowledged =>
              exact observeReturn_moves orchestrator admits trivial trivial trivial
                (fun world effect _ => allowed world effect) acknowledged

theorem run_moves
    (admits : AdmitsRun request.planId orchestrator.sequenceBase (fun _ => True) writes)
    (allowed : ∀ world effect, sends world effect) (resume : Bool) :
    Moves (WorldStep writes sends commits) (run orchestrator request resume) := by
  refine .bind (.require _ _) fun _ => .bind (.store (getPlan_moves _)) fun plan => ?_
  refine .bind (.ofExcept _) fun _ => .bind (.view _) fun completed => ?_
  cases completed with
  | some row => exact .ofExcept _
  | none =>
      dsimp only
      split
      · exact .bind (.view _) fun _ => .pure _
      · refine .bind (.store (enterExecution_moves admits plan resume)) fun entered => ?_
        split
        · exact .pure _
        · refine .bind (.view _) fun intent => .bind (.view _) fun acknowledged => ?_
          cases acknowledged with
          | some row =>
              have returns : Moves (WorldStep writes sends commits)
                  (observeReturn orchestrator request row) :=
                observeReturn_moves orchestrator admits trivial trivial trivial
                  (fun world effect _ => allowed world effect) row
              cases intent <;> exact returns
          | none =>
              cases intent with
              | some _ => exact endInRecovery_moves admits _ _ _
              | none => exact runFresh_moves orchestrator admits allowed

end Phases

end RebootOrchestrator

end ElKeeper
