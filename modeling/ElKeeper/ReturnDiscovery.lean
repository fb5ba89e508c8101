import Mathlib.Data.List.Induction
import ElKeeper.RebootOnce
import ElKeeper.RebootReturn

/-!
# Discovering the return of a host across runs

After an acknowledged reboot a run looks for three signs: the host went, it came
back with another boot id, and its executor completed.  What the first two
gateways answer is recorded once and for all, negative answers included, and
later runs read the record instead of asking again.
-/

namespace ElKeeper

open Program MaintenanceStore

/-- What a run looks for after an acknowledged reboot. -/
inductive ReturnSign where
  | disconnected
  | reconnected
  | complete
deriving DecidableEq

/-- The host was seen to go. -/
def CheckpointRecord.showsDisconnect (row : CheckpointRecord) : Bool :=
  match row.payload with
  | .disconnect observation => observation.disconnected
  | _ => false

/-- The host was seen to be back with another boot id. -/
def CheckpointRecord.showsReturn (row : CheckpointRecord) (preRebootBootId : String) : Bool :=
  match row.payload with
  | .reconnect observation =>
      observation.connected && observation.bootId ≠ some preRebootBootId
  | _ => false

namespace RebootOrchestrator

variable (orchestrator : RebootOrchestrator) (request : RebootRequest)

/-- At this effect the orchestrator was told of the sign; its answer depended on
the effects before it. -/
def Observes (entry : Entry Database Effect) (earlier : History) : ReturnSign → Prop
  | .disconnected => entry.event = .waitForDisconnect request.nodeId ∧
      ∃ row receipt observation,
        entry.working.journal request.planId .invocationAcknowledged = some row ∧
        row.payload = .invocation receipt ∧
        orchestrator.waitForDisconnect request.nodeId receipt.invocationId earlier =
          .ok observation ∧ observation.disconnected
  | .reconnected => entry.event = .waitForReconnect request.nodeId ∧
      ∃ observation, orchestrator.waitForReconnect request.nodeId earlier = .ok observation ∧
        observation.connected ∧ observation.bootId ≠ some request.preRebootBootId
  | .complete => entry.event = .executorDiscovery request.operationId ∧
      ∃ discovery, orchestrator.discover request.operationId earlier = .ok discovery ∧
        discovery.state = .complete

/-- Among the effects since `base` the orchestrator was told of the sign. -/
def ObservedSince (base trace : History) (sign : ReturnSign) : Prop :=
  ∃ later entry earlier, trace = later ++ entry :: earlier ∧ base <:+ earlier ∧
    orchestrator.Observes request entry earlier sign

end RebootOrchestrator

/-- One call of `RebootOrchestrator.run` for a request, with the gateways as they
answer then and the plan states requested since the previous call. -/
structure ReturnCall where
  orchestrator : RebootOrchestrator
  resume : Bool
  transitions : List MaintenanceState
  budget : Option Nat

namespace ReturnCall

variable (call : ReturnCall) (request : RebootRequest) (world : MaintenanceWorld)

def toCall : RebootCall request.planId where
  orchestrator := call.orchestrator
  request := request
  onPlan := rfl
  resume := call.resume
  transitions := call.transitions
  budget := call.budget

/-- The call ends with `READY_FOR_POST_RETURN`. -/
def ReportsReady : Prop :=
  ∃ result : RebootOrchestrationResult, result.status = .readyForPostReturn ∧
    ((call.orchestrator.run request call.resume).run ((call.toCall request).entered world)).1 =
      .returned result

end ReturnCall

/-- The world after a sequence of calls. -/
def reachedBy (request : RebootRequest) (database : Database) (calls : List ReturnCall) :
    MaintenanceWorld :=
  performCalls (calls.map (·.toCall request)) (.start database none)

/-- In one of the calls the sign was observed. -/
def ObservedIn (request : RebootRequest) (database : Database) (calls : List ReturnCall)
    (sign : ReturnSign) : Prop :=
  ∃ earlier call later, calls = earlier ++ call :: later ∧
    call.orchestrator.ObservedSince request (reachedBy request database earlier).trace
      (reachedBy request database (earlier ++ [call])).trace sign

/-- Nothing about a return of the host is recorded. -/
structure AwaitsReturn (planId : String) (database : Database) : Prop where
  disconnected : database.journal planId .sshDisconnected = none
  reconnected : database.journal planId .hostReconnected = none
  discovered : database.journal planId .returnDiscovered = none

/-- The journal has no answer that the host did not go. -/
def DisconnectUndenied (request : RebootRequest) (database : Database) : Prop :=
  ∀ row, database.journal request.planId .sshDisconnected = some row → row.showsDisconnect

/-- The journal has no answer that the host is not back or has its old boot id. -/
def ReturnUndenied (request : RebootRequest) (database : Database) : Prop :=
  ∀ row, database.journal request.planId .hostReconnected = some row →
    row.showsReturn request.preRebootBootId

/-- No checkpoint of the plan has the number. -/
def FreeNumber (planId : String) (number : Nat) (database : Database) : Prop :=
  ∀ row ∈ database.checkpoints, row.planId = planId → row.sequence ≠ number

/-- A key that is not recorded finds its number free. -/
def Recordable (orchestrator : RebootOrchestrator) (request : RebootRequest)
    (key : CheckpointKey) (offset : Nat) (database : Database) : Prop :=
  database.journal request.planId key = none →
    FreeNumber request.planId (orchestrator.sequenceBase + offset) database

/-- What is missing in the journal about the return can be recorded. -/
structure ReturnRecordable (orchestrator : RebootOrchestrator) (request : RebootRequest)
    (database : Database) : Prop where
  disconnected : Recordable orchestrator request .sshDisconnected 900 database
  reconnected : Recordable orchestrator request .hostReconnected 1000 database
  discovered : Recordable orchestrator request .returnDiscovered 1100 database

/-- Whenever they are asked the gateways report a completed return. -/
structure RebootOrchestrator.ReportsReturn (orchestrator : RebootOrchestrator)
    (request : RebootRequest) : Prop where
  disconnects : ∀ invocationId history, ∃ observation,
    orchestrator.waitForDisconnect request.nodeId invocationId history = .ok observation ∧
      observation.disconnected
  reconnects : ∀ history, ∃ observation,
    orchestrator.waitForReconnect request.nodeId history = .ok observation ∧
      observation.connected ∧ observation.bootId ≠ some request.preRebootBootId
  completes : ∀ history, ∃ discovery,
    orchestrator.discover request.operationId history = .ok discovery ∧
      discovery.state = .complete

/-- The call is made on the executing plan after the acknowledgement and is not interrupted. -/
structure ReturnCall.Proceeds (call : ReturnCall) (request : RebootRequest)
    (world : MaintenanceWorld) : Prop where
  enabled : call.orchestrator.executionEnabled
  uninterrupted : call.budget = none
  executing : ∃ plan, ((call.toCall request).entered world).working.plan? request.planId =
      some plan ∧ plan.operationKind = .reboot ∧ plan.targetNodeId = some request.nodeId ∧
    plan.lifecycleState = .executing
  acknowledged : ∃ row receipt,
    world.working.journal request.planId .invocationAcknowledged = some row ∧
      row.payload = .invocation receipt

/-! ### What the journal says about the return -/

/-- Every record about the return is backed by an observation.  `passed` are the
records of the disconnect with which a run goes on. -/
structure ReturnJournal (request : RebootRequest) (observed : ReturnSign → Prop)
    (passed : CheckpointRecord → Prop) (database : Database) : Prop where
  disconnected : ∀ row, database.journal request.planId .sshDisconnected = some row →
    row.showsDisconnect → observed .disconnected
  reconnected : ∀ row, database.journal request.planId .hostReconnected = some row →
    (row.showsReturn request.preRebootBootId → observed .reconnected) ∧
      ∃ gone, database.journal request.planId .sshDisconnected = some gone ∧ passed gone
  discovered : ∀ row, database.journal request.planId .returnDiscovered = some row →
    (∃ operationId bootId discovery, row.payload = .returned operationId bootId discovery) ∧
      observed .complete ∧
      ∃ back, database.journal request.planId .hostReconnected = some back ∧
        back.showsReturn request.preRebootBootId

/-- The keys under which a return is recorded. -/
def CheckpointKey.ofReturn : CheckpointKey → Bool
  | sshDisconnected | hostReconnected | returnDiscovered => true
  | _ => false

/-- The journal says the same about the return. -/
def SameReturn (planId : String) (before after : Database) : Prop :=
  ∀ key, CheckpointKey.ofReturn key → after.journal planId key = before.journal planId key

namespace ReturnJournal

variable {request : RebootRequest} {observed wider : ReturnSign → Prop}
  {passed laxer : CheckpointRecord → Prop} {before after : Database}

theorem mono (journal : ReturnJournal request observed passed before)
    (widen : ∀ sign, observed sign → wider sign)
    (relax : ∀ gone, before.journal request.planId .sshDisconnected = some gone →
      passed gone → laxer gone) :
    ReturnJournal request wider laxer before where
  disconnected row isRow shows := widen _ (journal.disconnected row isRow shows)
  reconnected row isRow := by
    obtain ⟨shown, gone, isGone, isPassed⟩ := journal.reconnected row isRow
    exact ⟨fun shows => widen _ (shown shows), gone, isGone, relax gone isGone isPassed⟩
  discovered row isRow := by
    obtain ⟨payload, complete, back⟩ := journal.discovered row isRow
    exact ⟨payload, widen _ complete, back⟩

theorem of_same (journal : ReturnJournal request observed passed before)
    (same : SameReturn request.planId before after) :
    ReturnJournal request observed passed after where
  disconnected row isRow := by
    rw [same _ rfl] at isRow
    exact journal.disconnected row isRow
  reconnected row isRow := by
    rw [same _ rfl] at isRow ⊢
    exact journal.reconnected row isRow
  discovered row isRow := by
    rw [same _ rfl] at isRow ⊢
    exact journal.discovered row isRow

/-- Where nothing is recorded, everything recorded is backed. -/
theorem of_awaits (awaits : AwaitsReturn request.planId before) :
    ReturnJournal request observed passed before where
  disconnected row isRow := by
    rw [awaits.disconnected] at isRow
    cases isRow
  reconnected row isRow := by
    rw [awaits.reconnected] at isRow
    cases isRow
  discovered row isRow := by
    rw [awaits.discovered] at isRow
    cases isRow

end ReturnJournal

/-! ### Recording -/

/-- A write at one key of the journal of a plan: the key is as it was, or it was
free and holds the content. -/
def RecordsAt (planId : String) (content : CheckpointContent) (before after : Database) : Prop :=
  (∀ key ≠ content.key, after.journal planId key = before.journal planId key) ∧
    (after.journal planId content.key = before.journal planId content.key ∨
      ∃ identifier, after.journal planId content.key = some (content.row planId identifier))

theorem recordCheckpoint_recordsAt (planId : String) (content : CheckpointContent)
    (database : Database) :
    RecordsAt planId content database ((recordCheckpoint planId content).run database).2 := by
  refine ⟨fun key other => ?_, recordCheckpoint_journal planId content database⟩
  have moves : Moves (fun before after : Database =>
      after.journal planId key = before.journal planId key) (recordCheckpoint planId content) :=
    recordCheckpoint_moves fun _ _ => journal_addCheckpoint_of_ne (Ne.symm other)
  exact moves.keeps (fun _ _ step known => step.trans known) rfl

namespace ReturnJournal

variable {request : RebootRequest} {observed : ReturnSign → Prop}
  {passed : CheckpointRecord → Prop} {before after : Database} {content : CheckpointContent}

/-- The answer about the disconnect is recorded before anything about the reconnect is. -/
theorem recordDisconnect (journal : ReturnJournal request observed passed before)
    {observation : SshDisconnectObservation} (isKey : content.key = .sshDisconnected)
    (isPayload : content.payload = .disconnect observation)
    (absent : before.journal request.planId .sshDisconnected = none)
    (told : observation.disconnected → observed .disconnected)
    (records : RecordsAt request.planId content before after) :
    ReturnJournal request observed passed after := by
  obtain ⟨others, atKey⟩ := records
  rw [isKey] at others atKey
  have back : after.journal request.planId .hostReconnected = none := by
    rw [others _ (by simp)]
    cases found : before.journal request.planId .hostReconnected with
    | none => rfl
    | some row =>
        obtain ⟨gone, isGone, _⟩ := (journal.reconnected row found).2
        rw [absent] at isGone
        cases isGone
  refine ⟨fun row isRow shows => ?_, fun row isRow => ?_, fun row isRow => ?_⟩
  · rcases atKey with same | ⟨identifier, isNew⟩
    · rw [same] at isRow
      exact journal.disconnected row isRow shows
    · rw [isNew] at isRow
      cases isRow
      apply told
      simpa [CheckpointRecord.showsDisconnect, CheckpointContent.row, isPayload,
        CheckpointPayload.persisted] using shows
  · rw [back] at isRow
    cases isRow
  · rw [others _ (by simp)] at isRow
    obtain ⟨_, _, found, isFound, _⟩ := journal.discovered row isRow
    rw [others _ (by simp), isFound] at back
    cases back

theorem recordReconnect (journal : ReturnJournal request observed passed before)
    {observation : ReconnectObservation} (isKey : content.key = .hostReconnected)
    (isPayload : content.payload = .reconnect observation)
    (told : observation.connected → observation.bootId ≠ some request.preRebootBootId →
      observed .reconnected)
    (absent : before.journal request.planId .hostReconnected = none)
    (gone : ∃ gone, before.journal request.planId .sshDisconnected = some gone ∧ passed gone)
    (records : RecordsAt request.planId content before after) :
    ReturnJournal request observed passed after := by
  obtain ⟨others, atKey⟩ := records
  rw [isKey] at others atKey
  refine ⟨fun row isRow shows => ?_, fun row isRow => ⟨fun shows => ?_, ?_⟩, fun row isRow => ?_⟩
  · rw [others _ (by simp)] at isRow
    exact journal.disconnected row isRow shows
  · rcases atKey with same | ⟨identifier, isNew⟩
    · rw [same, absent] at isRow
      cases isRow
    · rw [isNew] at isRow
      cases isRow
      simp only [CheckpointRecord.showsReturn, CheckpointContent.row, isPayload,
        CheckpointPayload.persisted, Bool.and_eq_true, decide_eq_true_eq] at shows
      exact told shows.1 shows.2
  · rw [others _ (by simp)]
    exact gone
  · rw [others _ (by simp)] at isRow
    obtain ⟨_, _, found, isFound, _⟩ := journal.discovered row isRow
    rw [absent] at isFound
    cases isFound

theorem recordReturn (journal : ReturnJournal request observed passed before)
    {operationId : String} {bootId : Option String} {discovery : ExecutorDiscovery}
    (isKey : content.key = .returnDiscovered)
    (isPayload : content.payload = .returned operationId bootId discovery)
    (complete : observed .complete)
    (back : ∃ back, before.journal request.planId .hostReconnected = some back ∧
      back.showsReturn request.preRebootBootId)
    (records : RecordsAt request.planId content before after) :
    ReturnJournal request observed passed after := by
  obtain ⟨others, atKey⟩ := records
  rw [isKey] at others atKey
  refine ⟨fun row isRow shows => ?_, fun row isRow => ?_, fun row isRow => ?_⟩
  · rw [others _ (by simp)] at isRow
    exact journal.disconnected row isRow shows
  · rw [others _ (by simp)] at isRow ⊢
    exact journal.reconnected row isRow
  · rw [others .hostReconnected (by simp)]
    rcases atKey with same | ⟨identifier, isNew⟩
    · rw [same] at isRow
      exact journal.discovered row isRow
    · rw [isNew] at isRow
      cases isRow
      exact ⟨⟨operationId, bootId, discovery, by
        simp [CheckpointContent.row, isPayload, CheckpointPayload.persisted]⟩, complete, back⟩

end ReturnJournal

/-! ### One run -/

/-- Steps of a run that record nothing about the return. -/
abbrev ReturnStep (planId : String) : MaintenanceWorld → MaintenanceWorld → Prop :=
  WorldStep (SameReturn planId) (fun _ _ => True) fun _ => False

theorem sameReturn_admitsRun (planId : String) (sequenceBase : Nat) :
    AdmitsRun planId sequenceBase (fun key => key.ofReturn = false) (SameReturn planId) where
  lifecycle _ _ _ _ _ _ _ := rfl
  checkpoint content other _ database identifier key ofReturn := by
    refine journal_addCheckpoint_of_ne ?_
    rintro rfl
    have same : content.key.ofReturn = false := other
    rw [CheckpointContent.row, same] at ofReturn
    cases ofReturn
  hostState _ _ _ _ _ := rfl
  assignmentState _ _ _ _ _ := rfl
  undo before after reached key ofReturn :=
    (preparation_journal reached (by rintro rfl; cases ofReturn)
      (by rintro clusterId rfl; cases ofReturn)).symm

namespace RebootOrchestrator

variable {orchestrator : RebootOrchestrator} {request : RebootRequest}
  {earlier : ReturnSign → Prop} {base : History} {entry : Option CheckpointRecord}

theorem ObservedSince.mono {trace : History} {sign : ReturnSign}
    (seen : orchestrator.ObservedSince request base trace sign) {longer : History}
    (extends' : trace <:+ longer) : orchestrator.ObservedSince request base longer sign := by
  obtain ⟨later, told, before, rfl, isSince, observes⟩ := seen
  obtain ⟨more, rfl⟩ := extends'
  exact ⟨more ++ later, told, before, by simp, isSince, observes⟩

variable (orchestrator request earlier base entry)

/-- In the course of a run: what was observed earlier or since the run began backs
the journal, and a run goes on with the disconnect that it found or was told of. -/
structure Returning (world : MaintenanceWorld) : Prop where
  since : base <:+ world.trace
  journal : ReturnJournal request
    (fun sign => earlier sign ∨ orchestrator.ObservedSince request base world.trace sign)
    (fun gone => entry = some gone ∨ gone.showsDisconnect) world.working

/-- Nothing was recorded about the disconnect since the run began. -/
def AsEntered (world : MaintenanceWorld) : Prop :=
  world.working.journal request.planId .sshDisconnected = entry

/-- The run goes on after the disconnect. -/
def Gone (world : MaintenanceWorld) : Prop :=
  ∃ gone, world.working.journal request.planId .sshDisconnected = some gone ∧
    (entry = some gone ∨ gone.showsDisconnect)

variable {orchestrator request earlier base entry}

theorem Returning.step (before after : MaintenanceWorld)
    (step : ReturnStep request.planId before after)
    (returning : Returning orchestrator request earlier base entry before) :
    Returning orchestrator request earlier base entry after := by
  cases step with
  | write allowed => exact ⟨returning.since, returning.journal.of_same allowed⟩
  | spend budget => exact ⟨returning.since, returning.journal⟩
  | send allowed =>
      refine ⟨returning.since.trans (List.suffix_cons _ _), ?_⟩
      refine returning.journal.mono (fun sign seen => ?_) fun _ _ known => known
      exact seen.imp_right fun since => since.mono (List.suffix_cons _ _)
  | commit allowed => exact allowed.elim

theorem AsEntered.step (before after : MaintenanceWorld)
    (step : ReturnStep request.planId before after) (known : AsEntered request entry before) :
    AsEntered request entry after := by
  cases step with
  | write allowed => exact (allowed _ rfl).trans known
  | spend budget => exact known
  | send allowed => exact known
  | commit allowed => exact allowed.elim

/-- A program that records nothing about the return. -/
theorem returning_calmly {α : Type} {program : Action α} {assertion : MaintenanceWorld → Prop}
    (moves : Moves (ReturnStep request.planId) program) :
    Maintains (Returning orchestrator request earlier base entry) assertion program
      fun _ _ => True :=
  (Maintains.ofMoves moves Returning.step fun _ _ _ known => known).weaken
    (fun _ _ _ => trivial) fun _ _ _ _ => trivial

/-- As `returning_calmly`, before the disconnect. -/
theorem returning_unchanged {α : Type} {program : Action α}
    (moves : Moves (ReturnStep request.planId) program) :
    Maintains (Returning orchestrator request earlier base entry) (AsEntered request entry)
      program fun _ => AsEntered request entry :=
  .ofMoves moves Returning.step AsEntered.step

theorem endInRecovery_returning {assertion : MaintenanceWorld → Prop} (reasonCode : String)
    (bootId : Option String) (executorState : Option ExecutorDiscoveryState) :
    Maintains (Returning orchestrator request earlier base entry) assertion
      (endInRecovery request reasonCode bootId executorState) fun _ _ => True :=
  returning_calmly (endInRecovery_moves (sameReturn_admitsRun request.planId 0) _ _ _)

/-- A record leaves the rest of the world, and in the journal all other keys. -/
theorem record_run (orchestrator : RebootOrchestrator) (request : RebootRequest)
    (key : CheckpointKey) (sequence : Nat) (state : SideEffectState)
    (payload : CheckpointPayload) (observation : Json) (world : MaintenanceWorld) :
    ∃ (content : CheckpointContent) (database : Database) (budget : Option Nat),
      content.key = key ∧ content.payload = payload ∧
      ((record orchestrator request key sequence state payload observation).run world).2 =
        { world with working := database, budget := budget } ∧
      RecordsAt request.planId content world.working database ∧
      ∀ row, ((record orchestrator request key sequence state payload observation).run world).1 =
          .returned row →
        database.journal request.planId key = some row ∧ row.payload = payload.persisted := by
  obtain ⟨budget, ended⟩ := store_run (recordCheckpoint request.planId
    { key := key
      sequence := orchestrator.sequenceBase + sequence
      sideEffectState := state
      payload := payload
      observation := observation }) world
  refine ⟨_, _, budget, rfl, rfl, ended, recordCheckpoint_recordsAt _ _ _, fun row returned => ?_⟩
  exact recordCheckpoint_returned (store_returned returned)

/-- A gateway that is asked: what it tells counts as observed. -/
theorem ask_returning {α : Type} {effect : Effect} {answer : History → Except Fault α}
    {assertion : MaintenanceWorld → Prop} {sign : ReturnSign} {tells : α → Prop}
    (observes : ∀ world, assertion world → ∀ value, answer world.trace = .ok value →
      tells value →
      orchestrator.Observes request ⟨effect, world.working, world.committed⟩ world.trace sign)
    (keeps : ∀ world budget, assertion world →
      assertion { world.log effect with budget := budget }) :
    Maintains (Returning orchestrator request earlier base entry) assertion
      (ask (fun _ => effect) answer)
      fun value world => assertion world ∧
        (tells value → orchestrator.ObservedSince request base world.trace sign) := by
  intro world returning known
  obtain ⟨budget, ended⟩ := ask_run (fun _ => effect) answer world
  have logged : Returning orchestrator request earlier base entry (world.log effect) :=
    Returning.step _ _ (.send trivial) returning
  rw [ended]
  refine ⟨⟨logged.since, logged.journal⟩, fun value returned => ⟨keeps world budget known, ?_⟩⟩
  intro told
  exact ⟨[], _, world.trace, rfl, returning.since,
    observes world known value (ask_returned returned) told⟩

theorem recordDisconnect_returning (disconnect : SshDisconnectObservation) :
    Maintains (Returning orchestrator request earlier base entry)
      (fun world => world.working.journal request.planId .sshDisconnected = none ∧
        (disconnect.disconnected →
          orchestrator.ObservedSince request base world.trace .disconnected))
      (record orchestrator request .sshDisconnected 900 .mayHaveStarted (.disconnect disconnect))
      fun row world => world.working.journal request.planId .sshDisconnected = some row ∧
        row.payload = .disconnect disconnect := by
  intro world returning known
  obtain ⟨content, database, budget, isKey, isPayload, ended, records, stored⟩ :=
    record_run orchestrator request .sshDisconnected 900 .mayHaveStarted
      (.disconnect disconnect) (.obj []) world
  rw [ended]
  refine ⟨⟨returning.since, ?_⟩, stored⟩
  exact returning.journal.recordDisconnect isKey isPayload known.1
    (fun isGone => .inr (known.2 isGone)) records

theorem recordReconnect_returning (reconnect : ReconnectObservation) :
    Maintains (Returning orchestrator request earlier base entry)
      (fun world => (world.working.journal request.planId .hostReconnected = none ∧
          Gone request entry world) ∧
        (reconnect.connected ∧ reconnect.bootId ≠ some request.preRebootBootId →
          orchestrator.ObservedSince request base world.trace .reconnected))
      (record orchestrator request .hostReconnected 1000 .mayHaveStarted (.reconnect reconnect))
      fun row world => world.working.journal request.planId .hostReconnected = some row := by
  intro world returning known
  obtain ⟨content, database, budget, isKey, isPayload, ended, records, stored⟩ :=
    record_run orchestrator request .hostReconnected 1000 .mayHaveStarted
      (.reconnect reconnect) (.obj []) world
  rw [ended]
  refine ⟨⟨returning.since, ?_⟩, fun row returned => (stored row returned).1⟩
  exact returning.journal.recordReconnect isKey isPayload
    (fun connected other => .inr (known.2 ⟨connected, other⟩)) known.1.1 known.1.2 records

theorem recordReturn_returning (bootId : Option String) (discovery : ExecutorDiscovery) :
    Maintains (Returning orchestrator request earlier base entry)
      (fun world => (∃ back, world.working.journal request.planId .hostReconnected = some back ∧
          back.showsReturn request.preRebootBootId) ∧
        orchestrator.ObservedSince request base world.trace .complete)
      (record orchestrator request .returnDiscovered 1100 .verified
        (.returned request.operationId bootId discovery))
      fun _ _ => True := by
  intro world returning known
  obtain ⟨content, database, budget, isKey, isPayload, ended, records, _⟩ :=
    record_run orchestrator request .returnDiscovered 1100 .verified
      (.returned request.operationId bootId discovery) (.obj []) world
  rw [ended]
  refine ⟨⟨returning.since, ?_⟩, fun _ _ => trivial⟩
  exact returning.journal.recordReturn isKey isPayload (.inr known.2) known.1 records

/-- A phase that goes on does so where the assertion holds. -/
def Onward {α : Type} (assertion : α → MaintenanceWorld → Prop) (progress : Progress α)
    (world : MaintenanceWorld) : Prop :=
  match progress with
  | .ended _ => True
  | .continues value => assertion value world

/-- A phase that ends in recovery. -/
theorem ended_onward {α : Type} {before : MaintenanceWorld → Prop}
    {assertion : α → MaintenanceWorld → Prop} (reasonCode : String) :
    Maintains (Returning orchestrator request earlier base entry) before
      (endInRecovery request reasonCode >>= fun result =>
        (pure (.ended result) : Action (Progress α)))
      (Onward assertion) :=
  .bind (endInRecovery_returning _ _ _) fun _ => .pure fun _ _ _ => trivial

theorem observeDisconnect_returning (acknowledged : CheckpointRecord) :
    Maintains (Returning orchestrator request earlier base entry)
      (fun world => AsEntered request entry world ∧
        world.working.journal request.planId .invocationAcknowledged = some acknowledged)
      (observeDisconnect orchestrator request acknowledged)
      (Onward fun _ => Gone request entry) := by
  refine .bind .read fun found => ?_
  cases found with
  | some row =>
      refine .pure fun world _ known => ⟨row, known.1.symm, .inl ?_⟩
      exact known.2.1.symm.trans known.1.symm
  | none =>
      dsimp only
      split
      · rename_i receipt isReceipt
        have told : Maintains (Returning orchestrator request earlier base entry)
            (fun world => world.working.journal request.planId .sshDisconnected = none ∧
              world.working.journal request.planId .invocationAcknowledged = some acknowledged)
            (ask (fun _ => .waitForDisconnect request.nodeId)
              (orchestrator.waitForDisconnect request.nodeId receipt.invocationId))
            fun observation world =>
              (world.working.journal request.planId .sshDisconnected = none ∧
                world.working.journal request.planId .invocationAcknowledged =
                  some acknowledged) ∧
                (observation.disconnected →
                  orchestrator.ObservedSince request base world.trace .disconnected) :=
          ask_returning (fun world known observation answered isGone =>
            ⟨rfl, acknowledged, receipt, observation, known.2, isReceipt, answered, isGone⟩)
          fun _ _ known => known
        refine .bind (told.attempt.weaken (fun _ _ known => ⟨known.1.symm, known.2.2⟩)
          fun _ _ _ known => known) fun outcome => ?_
        cases outcome with
        | error error => exact ended_onward _
        | ok disconnect =>
            refine .bind ((recordDisconnect_returning disconnect).weaken
              (fun _ _ known => ⟨(known _ rfl).1.1, (known _ rfl).2⟩) fun _ _ _ known => known)
              fun row => ?_
            split
            · exact ended_onward _
            · rename_i isGone
              refine .pure fun world _ known => ⟨row, known.1, .inr ?_⟩
              simpa [CheckpointRecord.showsDisconnect, known.2] using isGone
      · exact .raise _ _

theorem observeReconnect_returning :
    Maintains (Returning orchestrator request earlier base entry) (Gone request entry)
      (observeReconnect orchestrator request)
      (Onward fun row world =>
        world.working.journal request.planId .hostReconnected = some row) := by
  refine .bind .read fun found => ?_
  cases found with
  | some row => exact .pure fun world _ known => known.1.symm
  | none =>
      have told : Maintains (Returning orchestrator request earlier base entry)
          (fun world => world.working.journal request.planId .hostReconnected = none ∧
            Gone request entry world)
          (ask (fun _ => .waitForReconnect request.nodeId)
            (orchestrator.waitForReconnect request.nodeId))
          fun observation world =>
            (world.working.journal request.planId .hostReconnected = none ∧
              Gone request entry world) ∧
              (observation.connected ∧ observation.bootId ≠ some request.preRebootBootId →
                orchestrator.ObservedSince request base world.trace .reconnected) :=
        ask_returning
          (fun world _ observation answered isBack => ⟨rfl, observation, answered, isBack⟩)
        fun _ _ known => known
      refine .bind (told.attempt.weaken (fun _ _ known => ⟨known.1.symm, known.2⟩)
        fun _ _ _ known => known) fun outcome => ?_
      cases outcome with
      | error error => exact ended_onward _
      | ok reconnect =>
          exact .bind ((recordReconnect_returning reconnect).weaken
            (fun _ _ known => known _ rfl) fun _ _ _ known => known)
            fun row => .pure fun _ _ known => known

theorem discoverReturn_returning (bootId : Option String) :
    Maintains (Returning orchestrator request earlier base entry)
      (fun world => ∃ back, world.working.journal request.planId .hostReconnected = some back ∧
        back.showsReturn request.preRebootBootId)
      (discoverReturn orchestrator request bootId) fun _ _ => True := by
  have told : Maintains (Returning orchestrator request earlier base entry)
      (fun world => ∃ back, world.working.journal request.planId .hostReconnected = some back ∧
        back.showsReturn request.preRebootBootId)
      (ask (fun _ => .executorDiscovery request.operationId)
        (orchestrator.discover request.operationId))
      fun discovery world =>
        (∃ back, world.working.journal request.planId .hostReconnected = some back ∧
          back.showsReturn request.preRebootBootId) ∧
          (discovery.state = .complete →
            orchestrator.ObservedSince request base world.trace .complete) :=
    ask_returning
      (fun world _ discovery answered isComplete => ⟨rfl, discovery, answered, isComplete⟩)
    fun _ _ known => known
  refine .bind told.attempt fun outcome => ?_
  cases outcome with
  | error error => exact endInRecovery_returning _ _ _
  | ok discovery =>
      dsimp only
      split
      · exact endInRecovery_returning _ _ _
      · rename_i isComplete
        refine .bind ((recordReturn_returning bootId discovery).weaken
          (fun _ _ known => ⟨(known _ rfl).1, (known _ rfl).2 (not_not.mp isComplete)⟩)
          fun _ _ _ _ => trivial) fun completed => ?_
        exact returning_calmly (.ofExcept _)

theorem observeReturn_returning (acknowledged : CheckpointRecord) :
    Maintains (Returning orchestrator request earlier base entry)
      (fun world => AsEntered request entry world ∧
        world.working.journal request.planId .invocationAcknowledged = some acknowledged)
      (observeReturn orchestrator request acknowledged) fun _ _ => True := by
  refine .bind (observeDisconnect_returning acknowledged) fun gone => ?_
  cases gone with
  | ended result => exact .pure fun _ _ _ => trivial
  | continues _ =>
      refine .bind observeReconnect_returning fun back => ?_
      cases back with
      | ended result => exact .pure fun _ _ _ => trivial
      | continues row =>
          dsimp only [Onward]
          split
          · rename_i observation isPayload
            split
            · exact endInRecovery_returning _ _ _
            · split
              · exact endInRecovery_returning _ _ _
              · rename_i connected other
                refine (discoverReturn_returning observation.bootId).weaken
                  (fun world _ isRow => ⟨row, isRow, ?_⟩) fun _ _ _ known => known
                rw [Bool.not_eq_false] at connected
                simpa [CheckpointRecord.showsReturn, isPayload] using ⟨connected, other⟩
          · exact endInRecovery_returning _ _ _

/-- A record about something else, which is then in the journal. -/
theorem record_unchanged {key : CheckpointKey} {sequence : Nat} {state : SideEffectState}
    (other : key.ofReturn = false)
    (numbered : ∀ offset, key.rebootOffset = some offset → sequence = offset)
    (isState : state ∈ key.rebootStates) (payload : CheckpointPayload) (observation : Json) :
    Maintains (Returning orchestrator request earlier base entry) (AsEntered request entry)
      (record orchestrator request key sequence state payload observation)
      fun row world => AsEntered request entry world ∧
        world.working.journal request.planId key = some row := by
  intro world returning known
  have kept := returning_unchanged (record_moves orchestrator
    (sameReturn_admitsRun request.planId orchestrator.sequenceBase).toAdmitsJournal other numbered
    isState payload observation) world returning known
  obtain ⟨_, database, budget, _, _, ended, _, stored⟩ :=
    record_run orchestrator request key sequence state payload observation world
  refine ⟨kept.1, fun row returned => ⟨kept.2 row returned, ?_⟩⟩
  rw [ended]
  exact (stored row returned).1

theorem invoke_returning :
    Maintains (Returning orchestrator request earlier base entry) (AsEntered request entry)
      (invoke orchestrator request)
      (Onward fun row world => AsEntered request entry world ∧
        world.working.journal request.planId .invocationAcknowledged = some row) := by
  refine .bind (record_unchanged rfl (by exact fun _ => Option.some.inj)
    (by simp [CheckpointKey.rebootStates]) _ _) fun _ => ?_
  have asked : Maintains (Returning orchestrator request earlier base entry)
      (AsEntered request entry)
      (attempt (ask (fun _ => .invokeReboot request.nodeId request.operationId)
        (orchestrator.invokeReboot request.nodeId request.operationId)))
      fun _ => AsEntered request entry := returning_unchanged (.attempt (.ask fun _ _ => trivial))
  refine .bind (asked.weaken (fun _ _ known => known.1) fun _ _ _ known => known) fun outcome => ?_
  cases outcome with
  | error error => exact ended_onward _
  | ok invocation =>
      dsimp only
      split
      · exact ended_onward _
      · split
        · exact ended_onward _
        · exact .bind (record_unchanged rfl (by exact fun _ => Option.some.inj)
            (by simp [CheckpointKey.rebootStates]) _ _) fun row => .pure fun _ _ known => known

theorem runFresh_returning :
    Maintains (Returning orchestrator request earlier base entry) (AsEntered request entry)
      (runFresh orchestrator request) fun _ _ => True := by
  have admits := sameReturn_admitsRun request.planId orchestrator.sequenceBase
  have others : ∀ key, CheckpointKey.beforeIntent key → key.ofReturn = false := by
    intro key early
    cases key <;> first | rfl | cases early
  refine .bind (returning_unchanged (prepareForReboot_moves orchestrator admits others
    fun _ _ _ => trivial)) fun prepared => ?_
  cases prepared with
  | ended result => exact .pure fun _ _ _ => trivial
  | continues active =>
      refine .bind (returning_unchanged (stageForReboot_moves orchestrator admits others
        (fun _ _ _ => trivial) active)) fun staged => ?_
      cases staged with
      | ended result => exact .pure fun _ _ _ => trivial
      | continues _ =>
          refine .bind invoke_returning fun invoked => ?_
          cases invoked with
          | ended result => exact .pure fun _ _ _ => trivial
          | continues acknowledged => exact observeReturn_returning acknowledged

/-- A run records about the return only what it observed. -/
theorem run_returning (resume : Bool) :
    Maintains (Returning orchestrator request earlier base entry) (AsEntered request entry)
      (run orchestrator request resume) fun _ _ => True := by
  have admits := sameReturn_admitsRun request.planId orchestrator.sequenceBase
  refine .bind (returning_unchanged (.require _ _)) fun _ => ?_
  refine .bind (returning_unchanged (.store (getPlan_moves _))) fun plan => ?_
  refine .bind (returning_unchanged (.ofExcept _)) fun _ => ?_
  refine .bind (returning_unchanged (.view _)) fun completed => ?_
  cases completed with
  | some row => exact returning_calmly (.ofExcept _)
  | none =>
      dsimp only
      split
      · exact returning_calmly (.bind (.view _) fun _ => .pure _)
      · refine .bind (returning_unchanged (.store (enterExecution_moves admits plan resume)))
          fun entered => ?_
        split
        · exact .pure fun _ _ _ => trivial
        · refine .bind (returning_unchanged (.view _)) fun intent => .bind .read fun found => ?_
          cases found with
          | some row =>
              have returns : Maintains (Returning orchestrator request earlier base entry)
                  (fun world => some row =
                      world.working.journal request.planId .invocationAcknowledged ∧
                    AsEntered request entry world)
                  (observeReturn orchestrator request row) fun _ _ => True :=
                (observeReturn_returning row).weaken (fun _ _ known => ⟨known.2, known.1.symm⟩)
                  fun _ _ _ known => known
              cases intent <;> exact returns
          | none =>
              cases intent with
              | some _ => exact endInRecovery_returning _ _ _
              | none =>
                  exact runFresh_returning.weaken (fun _ _ known => known.2)
                    fun _ _ _ known => known

end RebootOrchestrator

/-! ### Sequences of calls -/

section Calls

variable {request : RebootRequest} {database : Database}

theorem reachedBy_append (calls : List ReturnCall) (call : ReturnCall) :
    reachedBy request database (calls ++ [call]) =
      (call.toCall request).perform (reachedBy request database calls) := by
  simp [reachedBy, performCalls]

theorem ObservedIn.mono {calls : List ReturnCall} {sign : ReturnSign}
    (observed : ObservedIn request database calls sign) (more : List ReturnCall) :
    ObservedIn request database (calls ++ more) sign := by
  obtain ⟨earlier, call, later, rfl, since⟩ := observed
  exact ⟨earlier, call, later ++ more, by simp, since⟩

/-- What the last call observed. -/
theorem observedIn_append {calls : List ReturnCall} {call : ReturnCall} {sign : ReturnSign} :
    ObservedIn request database (calls ++ [call]) sign ↔
      ObservedIn request database calls sign ∨
        call.orchestrator.ObservedSince request (reachedBy request database calls).trace
          (reachedBy request database (calls ++ [call])).trace sign := by
  constructor
  · rintro ⟨earlier, other, later, same, since⟩
    rcases List.eq_nil_or_concat later with rfl | ⟨others, last, rfl⟩
    · obtain ⟨rfl, isCall⟩ := List.append_inj' same rfl
      cases isCall
      exact .inr since
    · rw [List.concat_eq_append, ← List.cons_append, ← List.append_assoc] at same
      obtain ⟨rfl, -⟩ := List.append_inj' same rfl
      exact .inl ⟨earlier, other, others, rfl, since⟩
  · rintro (observed | since)
    · exact observed.mono [call]
    · exact ⟨calls, call, [], rfl, since⟩

/-- Between two calls nothing is recorded about the return. -/
theorem ReturnCall.entered_same (call : ReturnCall) (world : MaintenanceWorld) :
    SameReturn request.planId world.working ((call.toCall request).entered world).working :=
  fun key _ => (call.toCall request).entered_journal world key

/-- The state in which a call begins. -/
theorem ReturnCall.entered_returning (call : ReturnCall) {world : MaintenanceWorld}
    {observed : ReturnSign → Prop}
    (journal : ReturnJournal request observed (fun _ => True) world.working) :
    RebootOrchestrator.Returning call.orchestrator request observed world.trace
      (world.working.journal request.planId .sshDisconnected)
      ((call.toCall request).entered world) := by
  refine ⟨List.suffix_refl _, (journal.mono (fun _ seen => .inl seen) ?_).of_same
    (call.entered_same world)⟩
  exact fun gone isGone _ => .inl isGone

/-- One call: the records about the return stay backed, and the disconnect with which a
run goes on was found or shown. -/
theorem ReturnCall.perform_returning (call : ReturnCall) {world : MaintenanceWorld}
    {observed : ReturnSign → Prop}
    (journal : ReturnJournal request observed (fun _ => True) world.working) :
    RebootOrchestrator.Returning call.orchestrator request observed world.trace
      (world.working.journal request.planId .sshDisconnected)
      ((call.toCall request).perform world) :=
  (RebootOrchestrator.run_returning call.resume _ (call.entered_returning journal)
    (call.entered_same world _ rfl)).1

/-- After every sequence of calls the records about the return are backed. -/
theorem reachedBy_journal (awaits : AwaitsReturn request.planId database)
    (calls : List ReturnCall) :
    ReturnJournal request (ObservedIn request database calls) (fun _ => True)
      (reachedBy request database calls).working := by
  induction calls using List.reverseRecOn with
  | nil => exact .of_awaits awaits
  | append_singleton calls call ih =>
      have returning := call.perform_returning ih
      rw [← reachedBy_append] at returning
      refine returning.journal.mono (fun sign seen => ?_) fun _ _ _ => trivial
      exact observedIn_append.mpr seen

/-- A ready report comes with a recorded return. -/
theorem ReturnCall.ReportsReady.recorded {call : ReturnCall} {world : MaintenanceWorld}
    (ready : call.ReportsReady request world) :
    ∃ row, ((call.toCall request).perform world).working.journal request.planId
      .returnDiscovered = some row := by
  obtain ⟨result, isReady, returned⟩ := ready
  have admits : AdmitsJournal request.planId call.orchestrator.sequenceBase (fun _ => True)
      fun _ _ => True := ⟨fun _ _ _ _ _ => trivial, fun _ _ _ => trivial,
    fun _ _ _ => trivial, fun _ _ _ => trivial⟩
  have known := (RebootOrchestrator.run_ready call.orchestrator admits
    (fun _ _ _ (known : True) => known) (fun _ _ => trivial) call.resume
    ((call.toCall request).entered world) trivial trivial).2 result returned isReady
  exact Option.isSome_iff_exists.mp known.2

/-- A ready report is backed by observations, unless an earlier call was told that the host
did not go. -/
theorem ready_observed (awaits : AwaitsReturn request.planId database) (calls : List ReturnCall)
    (call : ReturnCall)
    (undenied : DisconnectUndenied request (reachedBy request database calls).working)
    (ready : call.ReportsReady request (reachedBy request database calls)) (sign : ReturnSign) :
    ObservedIn request database (calls ++ [call]) sign := by
  have before := reachedBy_journal awaits calls
  have after := reachedBy_journal awaits (calls ++ [call])
  obtain ⟨row, isRow⟩ := ready.recorded
  rw [← reachedBy_append] at isRow
  obtain ⟨_, complete, back, isBack, shows⟩ := after.discovered row isRow
  cases sign with
  | complete => exact complete
  | reconnected => exact (after.reconnected back isBack).1 shows
  | disconnected =>
      have returning := call.perform_returning before
      rw [← reachedBy_append] at returning
      obtain ⟨gone, isGone, found | shown⟩ := (returning.journal.reconnected back isBack).2
      · have seen := before.disconnected gone found (undenied gone found)
        exact seen.mono [call]
      · exact after.disconnected gone isGone shown

end Calls

end ElKeeper
