import ElKeeper.RebootSteps

/-!
# A plan reboots its host at most once

Runs of the orchestrator on one plan follow each other with changed gateways,
changed plan states and interruptions between any two effects.  What ties them
together is the journal: an intent is recorded before the invocation, and a run
that finds one never reaches the invocation.
-/

namespace ElKeeper

open Program MaintenanceStore

/-- One call of `RebootOrchestrator.run` on a plan.  The transitions are the
changes of the plan's state that were requested since the previous call. -/
structure RebootCall (planId : String) where
  orchestrator : RebootOrchestrator
  request : RebootRequest
  onPlan : request.planId = planId
  resume : Bool
  transitions : List MaintenanceState
  budget : Option Nat

/-- Move the plan through the requested states; refused requests change nothing. -/
def requestTransitions (planId : String) (targets : List MaintenanceState) : Operation Unit :=
  forEach targets fun target => ignoring do
    let plan ← getPlan planId
    transitionPlan planId plan.stateRevision target

namespace RebootCall

variable {planId : String}

/-- The world in which the orchestrator is called: everything recorded so far
is durable. -/
def entered (call : RebootCall planId) (world : MaintenanceWorld) : MaintenanceWorld :=
  let settled := world.settle call.budget
  { settled with
    working := ((requestTransitions planId call.transitions).run settled.working).2 }

def perform (call : RebootCall planId) (world : MaintenanceWorld) : MaintenanceWorld :=
  ((call.orchestrator.run call.request call.resume).run (call.entered world)).2

end RebootCall

/-- The calls in order, each in the world that the previous one left. -/
def performCalls {planId : String} (calls : List (RebootCall planId))
    (world : MaintenanceWorld) : MaintenanceWorld :=
  calls.foldl (fun reached call => call.perform reached) world

/-- How often the reboot was invoked. -/
def invocations (trace : History) : Nat :=
  trace.countP (·.event.isInvocation)

/-! ### Between two calls -/

theorem requestTransitions_checkpoints (planId : String) (targets : List MaintenanceState)
    (database : Database) :
    ((requestTransitions planId targets).run database).2.checkpoints = database.checkpoints := by
  have moves : Moves (fun before after : Database => after.checkpoints = before.checkpoints)
      (requestTransitions planId targets) := by
    refine .forEach fun target _ => .ignoring ?_
    exact .bind (getPlan_moves planId) fun plan => transitionPlan_moves fun _ => rfl
  have stable : ∀ before after : Database, after.checkpoints = before.checkpoints →
      before.checkpoints = database.checkpoints → after.checkpoints = database.checkpoints :=
    fun _ _ step known => step.trans known
  exact moves.keeps stable rfl

namespace RebootCall

variable {planId : String}

theorem entered_trace (call : RebootCall planId) (world : MaintenanceWorld) :
    (call.entered world).trace = world.trace :=
  rfl

/-- The journal is the same when the orchestrator is called. -/
theorem entered_journal (call : RebootCall planId) (world : MaintenanceWorld)
    (key : CheckpointKey) :
    (call.entered world).working.journal planId key = world.working.journal planId key := by
  simp only [Database.journal, entered, World.settle_working, requestTransitions_checkpoints]

end RebootCall

/-! ### Steps that cannot invoke the reboot -/

/-- The journal holds the same intent. -/
def SameIntent (planId : String) (before after : Database) : Prop :=
  after.journal planId .rebootIntent = before.journal planId .rebootIntent

/-- Steps that neither record an intent nor invoke the reboot. -/
def CalmStep (planId : String) : MaintenanceWorld → MaintenanceWorld → Prop :=
  WorldStep (SameIntent planId) (fun _ effect => effect.preparatory) fun _ => False

theorem sameIntent_admitsRun (planId : String) (sequenceBase : Nat) :
    AdmitsRun planId sequenceBase (· ≠ .rebootIntent) (SameIntent planId) where
  lifecycle _ _ _ _ _ := rfl
  checkpoint content other _ database identifier := journal_addCheckpoint_of_ne other
  hostState _ _ _ := rfl
  assignmentState _ _ _ := rfl
  undo before after reached := (preparation_journal reached (by simp) (by simp)).symm

/-- A calm step changes neither the intent nor the number of invocations. -/
theorem CalmStep.keeps {planId : String} {before after : MaintenanceWorld}
    (step : CalmStep planId before after) :
    SameIntent planId before.working after.working ∧
      invocations after.trace = invocations before.trace := by
  cases step with
  | write allowed => exact ⟨allowed, rfl⟩
  | spend budget => exact ⟨rfl, rfl⟩
  | send allowed =>
      refine ⟨rfl, ?_⟩
      simp [invocations, Effect.isInvocation_of_preparatory allowed]
  | commit allowed => exact ⟨rfl, rfl⟩

/-! ### One run -/

section Run

variable {planId : String} {invariant : MaintenanceWorld → Prop}
  {orchestrator : RebootOrchestrator} {request : RebootRequest}

/-- A run maintains every invariant of calm steps that its fresh part, entered
without an intent, maintains. -/
theorem run_maintains_of_calm (onPlan : request.planId = planId)
    (calm : ∀ before after, CalmStep planId before after → invariant before → invariant after)
    (fresh : Maintains invariant (fun world => world.working.journal planId .rebootIntent = none)
      (orchestrator.runFresh request) fun _ _ => True)
    (resume : Bool) :
    Maintains invariant (fun _ => True) (orchestrator.run request resume)
      fun _ _ => True := by
  subst onPlan
  exact RebootOrchestrator.run_maintains orchestrator (sameIntent_admitsRun request.planId _)
    (by simp) (by simp) (by simp) (fun _ _ isQuiet => Effect.preparatory_of_quiet isQuiet)
    calm (fun _ _ _ _ => trivial)
    (fresh.weaken (fun _ _ known => known.2) fun _ _ _ _ => trivial) resume

/-- The part of a run that may invoke the reboot, entered without an intent. -/
theorem runFresh_maintains (onPlan : request.planId = planId)
    (calm : ∀ before after, CalmStep planId before after → invariant before → invariant after)
    (invokes : Maintains invariant
      (fun world => world.working.journal planId .rebootIntent = none)
      (orchestrator.invoke request) fun _ _ => True) :
    Maintains invariant (fun world => world.working.journal planId .rebootIntent = none)
      (orchestrator.runFresh request) fun _ _ => True := by
  subst onPlan
  have admits := sameIntent_admitsRun request.planId orchestrator.sequenceBase
  have others : ∀ key, CheckpointKey.beforeIntent key → key ≠ .rebootIntent := by
    rintro key early rfl
    cases early
  have untouched : ∀ before after : MaintenanceWorld, CalmStep request.planId before after →
      before.working.journal request.planId .rebootIntent = none →
      after.working.journal request.planId .rebootIntent = none :=
    fun _ _ step known => step.keeps.1.trans known
  have ends : ∀ (result : RebootOrchestrationResult) (before : MaintenanceWorld → Prop),
      Maintains invariant before (pure result : Action RebootOrchestrationResult)
        fun _ _ => True :=
    fun _ _ => .pure fun _ _ _ => trivial
  refine .bind (.ofMoves (RebootOrchestrator.prepareForReboot_moves orchestrator admits
    others fun _ _ silent => silent) calm untouched) fun prepared => ?_
  cases prepared with
  | ended result => exact ends result _
  | continues active =>
      refine .bind (.ofMoves (RebootOrchestrator.stageForReboot_moves orchestrator admits
        others (fun _ _ silent => silent) active) calm untouched)
        fun staged => ?_
      cases staged with
      | ended result => exact ends result _
      | continues _ =>
          refine .bind invokes fun invoked => ?_
          cases invoked with
          | ended result => exact ends result _
          | continues acknowledged =>
              have returns : Moves (CalmStep request.planId)
                  (orchestrator.observeReturn request acknowledged) :=
                RebootOrchestrator.observeReturn_moves orchestrator admits (by simp)
                  (by simp) (by simp)
                  (fun _ _ isQuiet => Effect.preparatory_of_quiet isQuiet) acknowledged
              exact (Maintains.ofMoves returns calm fun _ _ _ _ => trivial).weaken
                (fun _ _ _ => trivial) fun _ _ _ _ => trivial

end Run

/-! ### The invariant across runs -/

/-- The reboot was invoked at most once, and then its intent is in the journal. -/
structure AtMostOnce (planId : String) (world : MaintenanceWorld) : Prop where
  bounded : invocations world.trace ≤ 1
  announced : invocations world.trace ≠ 0 →
    (world.working.journal planId .rebootIntent).isSome

theorem AtMostOnce.of_calmStep {planId : String} (before after : MaintenanceWorld)
    (step : CalmStep planId before after) (once : AtMostOnce planId before) :
    AtMostOnce planId after := by
  obtain ⟨sameIntent, sameCount⟩ := step.keeps
  constructor
  · rw [sameCount]
    exact once.bounded
  · rw [sameCount, sameIntent]
    exact once.announced

/-- Without an intent in the journal the reboot was not invoked. -/
theorem AtMostOnce.not_invoked {planId : String} {world : MaintenanceWorld}
    (once : AtMostOnce planId world)
    (untouched : world.working.journal planId .rebootIntent = none) :
    invocations world.trace = 0 := by
  by_contra invoked
  have announced := once.announced invoked
  rw [untouched] at announced
  cases announced

/-- Nothing was invoked, but the intent to do so is recorded. -/
def Announced (planId : String) (world : MaintenanceWorld) : Prop :=
  (world.working.journal planId .rebootIntent).isSome ∧ invocations world.trace = 0

theorem recordIntent_maintains (orchestrator : RebootOrchestrator) (request : RebootRequest)
    (observation : Json) :
    Maintains (AtMostOnce request.planId)
      (fun world => world.working.journal request.planId .rebootIntent = none)
      (orchestrator.record request .rebootIntent 700 .prepared
        (.intent request.operationId request.nodeId) observation)
      fun _ => Announced request.planId := by
  intro world once untouched
  have notInvoked := once.not_invoked untouched
  obtain ⟨budget, ended⟩ := store_run (recordCheckpoint request.planId
    { key := .rebootIntent
      sequence := orchestrator.sequenceBase + 700
      sideEffectState := .prepared
      payload := .intent request.operationId request.nodeId
      observation := observation }) world
  simp only [RebootOrchestrator.record, ended]
  refine ⟨⟨by simp [notInvoked], fun invoked => absurd notInvoked invoked⟩, ?_⟩
  intro row returned
  refine ⟨?_, notInvoked⟩
  have recorded := (recordCheckpoint_returned (store_returned returned)).1
  exact Option.isSome_iff_exists.mpr ⟨row, recorded⟩

theorem askReboot_maintains (orchestrator : RebootOrchestrator) (request : RebootRequest) :
    Maintains (AtMostOnce request.planId) (Announced request.planId)
      (ask (fun _ => .invokeReboot request.nodeId request.operationId)
        (orchestrator.invokeReboot request.nodeId request.operationId))
      fun _ _ => True := by
  intro world _ announced
  obtain ⟨budget, ended⟩ := ask_run
    (fun _ => Effect.invokeReboot request.nodeId request.operationId)
    (orchestrator.invokeReboot request.nodeId request.operationId) world
  rw [ended]
  refine ⟨⟨?_, fun _ => announced.1⟩, fun _ _ => trivial⟩
  have counted := announced.2
  simp only [invocations] at counted
  simp only [World.log_trace, invocations, List.countP_cons, counted]
  exact Nat.le_refl 1

theorem invoke_maintains (orchestrator : RebootOrchestrator) (request : RebootRequest) :
    Maintains (AtMostOnce request.planId)
      (fun world => world.working.journal request.planId .rebootIntent = none)
      (orchestrator.invoke request) fun _ _ => True := by
  have admits := sameIntent_admitsRun request.planId orchestrator.sequenceBase
  have calmly : ∀ {α : Type} {program : Action α} {before : MaintenanceWorld → Prop},
      Moves (CalmStep request.planId) program →
      Maintains (AtMostOnce request.planId) before program fun _ _ => True :=
    fun moves => Maintains.weaken
      (.ofMoves moves AtMostOnce.of_calmStep fun _ _ _ known => known)
      (fun _ _ _ => trivial) fun _ _ _ _ => trivial
  have inRecovery : ∀ reasonCode, Moves (CalmStep request.planId)
      (RebootOrchestrator.endInRecovery request reasonCode >>= fun result =>
        (pure (.ended result) : Action (Progress CheckpointRecord))) :=
    fun reasonCode => .bind (RebootOrchestrator.endInRecovery_moves admits _ _ _)
      fun _ => .pure _
  refine .bind (recordIntent_maintains orchestrator request _) fun _ => ?_
  refine .bind (askReboot_maintains orchestrator request).attempt fun outcome => ?_
  cases outcome with
  | error error => exact calmly (inRecovery _)
  | ok invocation =>
      dsimp only
      split
      · exact calmly (inRecovery _)
      · split
        · exact calmly (inRecovery _)
        · exact calmly (.bind (RebootOrchestrator.record_moves orchestrator admits.toAdmitsJournal
            (by simp) (by exact fun _ => Option.some.inj) (by simp [CheckpointKey.rebootStates]) _ _)
            fun _ => .pure _)

namespace RebootCall

variable {planId : String}

/-- One call keeps the invariant. -/
theorem perform_atMostOnce (call : RebootCall planId) {world : MaintenanceWorld}
    (once : AtMostOnce planId world) : AtMostOnce planId (call.perform world) := by
  have onEntry : AtMostOnce planId (call.entered world) := by
    constructor
    · exact once.bounded
    · rw [call.entered_journal]
      exact once.announced
  have maintained := run_maintains_of_calm call.onPlan AtMostOnce.of_calmStep
    (runFresh_maintains call.onPlan AtMostOnce.of_calmStep
      (call.onPlan ▸ invoke_maintains call.orchestrator call.request)) call.resume
  exact (maintained _ onEntry trivial).1

/-- A call that finds an intent in the journal does not invoke the reboot. -/
theorem perform_invocations (call : RebootCall planId) {world : MaintenanceWorld}
    (announced : (world.working.journal planId .rebootIntent).isSome) :
    invocations (call.perform world).trace = invocations world.trace := by
  let invariant : MaintenanceWorld → Prop := fun reached =>
    (reached.working.journal planId .rebootIntent).isSome ∧
      invocations reached.trace = invocations world.trace
  have calm : ∀ before after, CalmStep planId before after → invariant before →
      invariant after := by
    intro before after step known
    obtain ⟨sameIntent, sameCount⟩ := step.keeps
    exact ⟨sameIntent ▸ known.1, sameCount.trans known.2⟩
  have fresh : Maintains invariant
      (fun reached => reached.working.journal planId .rebootIntent = none)
      (call.orchestrator.runFresh call.request) fun _ _ => True := by
    intro reached known untouched
    have present := known.1
    rw [untouched] at present
    cases present
  have onEntry : invariant (call.entered world) := by
    refine ⟨?_, rfl⟩
    rw [call.entered_journal]
    exact announced
  exact ((run_maintains_of_calm call.onPlan calm fresh call.resume) _ onEntry trivial).1.2

end RebootCall

/-- For every sequence of calls the reboot is invoked at most once in total, and
never in a call that starts with the intent in the plan's journal. -/
theorem reboot_invoked_at_most_once (planId : String) (database : Database)
    (calls : List (RebootCall planId)) :
    invocations (performCalls calls (.start database none)).trace ≤ 1 ∧
      ∀ earlier call later, calls = earlier ++ call :: later →
        ((performCalls earlier (.start database none)).working.journal planId
          .rebootIntent).isSome →
        invocations (call.perform (performCalls earlier (.start database none))).trace =
          invocations (performCalls earlier (.start database none)).trace := by
  have once : ∀ (others : List (RebootCall planId)) (world : MaintenanceWorld),
      AtMostOnce planId world → AtMostOnce planId (performCalls others world) := by
    intro others
    induction others with
    | nil => exact fun _ known => known
    | cons call rest ih => exact fun _ known => ih _ (call.perform_atMostOnce known)
  refine ⟨(once calls _ ⟨Nat.zero_le _, fun invoked => absurd rfl invoked⟩).bounded, ?_⟩
  intro earlier call later _ announced
  exact call.perform_invocations announced

end ElKeeper
