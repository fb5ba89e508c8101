import ElKeeper.DurableActions
import ElKeeper.RebootOnce

/-!
# Durable intents

Before a remote effect is dispatched, the checkpoint that announces it should be
durable.  The workflows commit the announcements of their own effects.  The
intent of a reboot is recorded by the orchestrator, which does not commit: the
intent is not durable when the reboot is invoked, and lost when the process ends
before the action does.
-/

namespace ElKeeper

open Program MaintenanceStore

/-- The announcement was durable at the dispatch, unless the effect invoked a reboot. -/
def AnnouncedExactly (planId : String) (entry : Entry Database Effect) : Prop :=
  HasAnnouncement planId entry.committed entry.event ↔ entry.event.isInvocation = false

/-- Every effect since a history was announced exactly. -/
def AnnouncedSince (planId : String) (history : History) (world : MaintenanceWorld) : Prop :=
  ∃ recent, world.trace = recent ++ history ∧ ∀ entry ∈ recent, AnnouncedExactly planId entry

section Steps

variable {planId : String} {history : History} {writes : Database → Database → Prop}
  {sends : MaintenanceWorld → Effect → Prop} {commits : MaintenanceWorld → Prop}

theorem AnnouncedSince.send {world : MaintenanceWorld} {effect : Effect}
    (since : AnnouncedSince planId history world)
    (exactly : AnnouncedExactly planId ⟨effect, world.working, world.committed⟩) :
    AnnouncedSince planId history (world.log effect) := by
  obtain ⟨recent, isTrace, announced⟩ := since
  refine ⟨⟨effect, world.working, world.committed⟩ :: recent, ?_, fun entry member => ?_⟩
  · simp [World.log, isTrace]
  · rcases List.mem_cons.mp member with rfl | older
    · exact exactly
    · exact announced entry older

theorem AnnouncedSince.step
    (exactly : ∀ world effect, sends world effect →
      AnnouncedExactly planId ⟨effect, world.working, world.committed⟩)
    (before after : MaintenanceWorld) (step : WorldStep writes sends commits before after)
    (since : AnnouncedSince planId history before) : AnnouncedSince planId history after := by
  cases step with
  | write allowed => exact since
  | spend budget => exact since
  | commit allowed => exact since
  | send allowed => exact since.send (exactly before _ allowed)

theorem Announces.exactly (world : MaintenanceWorld) (effect : Effect)
    (announces : Announces planId world effect) :
    AnnouncedExactly planId ⟨effect, world.working, world.committed⟩ :=
  ⟨fun _ => announces.1, fun _ => announces.2⟩

/-- A program that dispatches nothing. -/
theorem AnnouncedSince.ofSilent {α : Type} {program : Action α} {before : MaintenanceWorld → Prop}
    (moves : Moves (WorldStep (fun _ _ => True) (fun _ _ => False) fun _ => True) program) :
    Maintains (AnnouncedSince planId history) before program fun _ _ => True := by
  intro world since _
  refine ⟨moves.keeps (AnnouncedSince.step fun _ _ never => never.elim) since, fun _ _ => trivial⟩

theorem AnnouncedSince.ofStore {α : Type} {operation : Operation α}
    {before : MaintenanceWorld → Prop} :
    Maintains (AnnouncedSince planId history) before (store operation) fun _ _ => True :=
  AnnouncedSince.ofSilent (.store fun _ => .single trivial)

end Steps

/-! ### The reboot -/

/-- A reboot under way: it is announced, and an intent that is durable is known to it. -/
structure Rebooting (planId : String) (history : History) (world : MaintenanceWorld) : Prop where
  since : AnnouncedSince planId history world
  announced : (world.committed.journal planId (.hostStep .reboot none)).isSome
  intent : (world.committed.journal planId .rebootIntent).isSome →
    (world.working.journal planId .rebootIntent).isSome

section Reboot

variable {planId : String} {history : History}

theorem preparatory_exactly {world : MaintenanceWorld} {effect : Effect}
    (announced : (world.committed.journal planId (.hostStep .reboot none)).isSome)
    (preparatory : effect.preparatory) :
    AnnouncedExactly planId ⟨effect, world.working, world.committed⟩ := by
  refine ⟨fun _ => Effect.isInvocation_of_preparatory preparatory, fun _ => ?_⟩
  cases effect with
  | executorStage operationId => exact announced
  | runtimeStop assignmentId => cases preparatory
  | runtimeStart assignmentId => cases preparatory
  | invokeReboot nodeId operationId => cases preparatory
  | _ => trivial

/-- The steps of a run other than its invocation. -/
theorem Rebooting.calm (before after : MaintenanceWorld) (step : CalmStep planId before after)
    (rebooting : Rebooting planId history before) : Rebooting planId history after := by
  cases step with
  | write allowed =>
      refine ⟨rebooting.since, rebooting.announced, fun durable => ?_⟩
      rw [show _ = _ from allowed]
      exact rebooting.intent durable
  | spend budget => exact ⟨rebooting.since, rebooting.announced, rebooting.intent⟩
  | send allowed =>
      exact ⟨rebooting.since.send (preparatory_exactly rebooting.announced allowed),
        rebooting.announced, rebooting.intent⟩
  | commit allowed => exact allowed.elim

/-- The intent of an invocation is not durable when the reboot is invoked. -/
theorem invoke_rebooting {orchestrator : RebootOrchestrator} {request : RebootRequest}
    (onPlan : request.planId = planId) :
    Maintains (Rebooting planId history)
      (fun world => world.working.journal planId .rebootIntent = none)
      (orchestrator.invoke request) fun _ _ => True := by
  subst onPlan
  intro world rebooting fresh
  have unannounced : world.committed.journal request.planId .rebootIntent = none := by
    by_contra known
    have durable := rebooting.intent (Option.isSome_iff_ne_none.mpr known)
    rw [fresh] at durable
    cases durable
  have moves : Moves (WorldStep (fun _ _ => True) (fun _ effect => effect.isInvocation)
      fun _ => False) (orchestrator.invoke request) :=
    RebootOrchestrator.invoke_moves orchestrator (anyWrite_admitsRun _ _) trivial trivial
      fun _ _ _ => rfl
  have steps : ∀ before after, WorldStep (fun _ _ => True) (fun _ effect => effect.isInvocation)
      (fun _ => False) before after →
      (Rebooting request.planId history before ∧
        before.committed.journal request.planId .rebootIntent = none) →
      Rebooting request.planId history after ∧
        after.committed.journal request.planId .rebootIntent = none := by
    intro before after step known
    obtain ⟨⟨since, announced, intent⟩, none⟩ := known
    have vacuous : (before.committed.journal request.planId .rebootIntent).isSome → False := by
      intro durable
      rw [none] at durable
      cases durable
    cases step with
    | write allowed => exact ⟨⟨since, announced, fun durable => (vacuous durable).elim⟩, none⟩
    | spend budget => exact ⟨⟨since, announced, intent⟩, none⟩
    | commit allowed => exact allowed.elim
    | @send effect allowed =>
        refine ⟨⟨since.send ⟨fun isAnnounced => ?_, fun silent => ?_⟩, announced, intent⟩, none⟩
        · cases effect with
          | invokeReboot nodeId operationId => exact (vacuous isAnnounced).elim
          | _ => cases allowed
        · rw [show effect.isInvocation = true from allowed] at silent
          cases silent
  exact ⟨(moves.keeps steps ⟨rebooting, unannounced⟩).1, fun _ _ => trivial⟩

/-- The reboot of a plan, entered with its announcement durable. -/
theorem reboot_announced {plan : PlanRecord} (gateways : HostRebootGateways)
    (targets : List ManagedContainerTarget) :
    Maintains (AnnouncedSince plan.id history) (HostMaintenanceService.RebootAnnounced plan.id)
      (HostReboot.reboot gateways plan targets) fun _ _ => True := by
  intro world since announced
  have rebooting : Rebooting plan.id history world := by
    refine ⟨since, announced.announced, fun durable => ?_⟩
    rw [announced.closed]
    exact durable
  have calm : ∀ before after, WorldStep (SameIntent plan.id) (fun _ effect => effect.quiet)
      (fun _ => False) before after → Rebooting plan.id history before ∧ True →
      Rebooting plan.id history after ∧ True :=
    fun before after step known => ⟨Rebooting.calm before after (step.widen (fun _ _ same => same)
      (fun _ _ quiet => Effect.preparatory_of_quiet quiet) fun _ never => never) known.1, trivial⟩
  have runs : ∀ request : RebootRequest, request.planId = plan.id →
      Maintains (Rebooting plan.id history) (fun _ => True)
        ((HostReboot.orchestrator gateways targets).run request false) fun _ _ => True :=
    fun request onPlan => run_maintains_of_calm onPlan Rebooting.calm
      (runFresh_maintains onPlan Rebooting.calm (invoke_rebooting onPlan)) false
  have maintained : Maintains (Rebooting plan.id history) (fun _ => True)
      (HostReboot.reboot gateways plan targets) fun _ _ => True := by
    refine .bind (HostReboot.request_maintains gateways plan targets calm
      fun request isPlan database identifier =>
        journal_addCheckpoint_of_ne (by simp [HostReboot.requestContent, CheckpointContent.row]))
      fun made => ?_
    refine .given fun isPlan => .bind (runs made isPlan) fun result => ?_
    split
    · exact .pure fun _ _ _ => trivial
    · exact .raise _ _
  exact ⟨(maintained world rebooting trivial).1.since, fun _ _ => trivial⟩

end Reboot

/-! ### The actions -/

namespace HostMaintenanceService

variable {service : HostMaintenanceService} {planId : String} {history : History}

/-- What the actions of the host workflow carry about the effects they dispatch. -/
def announcedAssertions (planId : String) (history : History) : Assertions where
  invariant := AnnouncedSince planId history
  steady _ := True
  known plan _ _ _ := plan.id = planId
  issued _ _ _ _ := True
  rebooted _ _ := True

theorem announced_issues : Issues service (announcedAssertions planId history) := by
  intro plan _ _ now
  exact AnnouncedSince.ofStore.weaken (fun _ _ known => known) fun _ _ _ _ => ⟨trivial, trivial⟩

theorem announced_carries : Carries service planId (announcedAssertions planId history) where
  step before after step known :=
    ⟨AnnouncedSince.step Announces.exactly before after step known.1, trivial⟩
  found _ _ _ _ _ _ isFound := isFound.onPlan
  knownStep _ _ _ _ _ _ known := known
  issuedStep _ _ _ _ _ _ _ := trivial
  claims _ _ _ _ := AnnouncedSince.ofStore
  reboots plan _ targets gateways onPlan := by
    subst onPlan
    exact (reboot_announced gateways targets).weaken (fun _ _ known => known.2)
      fun _ _ _ _ => ⟨trivial, trivial⟩
  completes _ _ := AnnouncedSince.ofStore
  settles plan nodeId targets runId now revision onPlan isRun := by
    refine .bind AnnouncedSince.ofStore fun _ => .bind AnnouncedSince.ofStore fun _ => ?_
    exact AnnouncedSince.ofStore
  recovers plan nodeId targets ticket onPlan :=
    AnnouncedSince.ofSilent (recover_moves (anyWrite_admitsRecovery _) service nodeId targets ticket)

theorem perform_announced (action : HostWorkflowAction) (world : MaintenanceWorld) :
    AnnouncedSince planId world.trace ((perform service planId action).run world).2 :=
  (perform_carries announced_carries (fun _ since => ⟨since, trivial⟩) action
    (fun _ => announced_issues) world ⟨[], rfl, by simp⟩ trivial).1

end HostMaintenanceService

namespace ContainerMaintenanceService

variable {service : ContainerMaintenanceService} {planId : String} {history : History}

/-- The same along the actions of the container workflow. -/
def announcedAssertions (planId : String) (history : History) : Assertions where
  invariant := AnnouncedSince planId history
  steady _ := True
  known plan _ _ := plan.id = planId
  issued _ _ _ _ := True

theorem announced_issues : Issues service (announcedAssertions planId history) := by
  intro plan _ now
  exact AnnouncedSince.ofStore.weaken (fun _ _ known => known) fun _ _ _ _ => ⟨trivial, trivial⟩

theorem announced_carries : Carries service planId (announcedAssertions planId history) where
  step before after step known :=
    ⟨AnnouncedSince.step Announces.exactly before after step known.1, trivial⟩
  found _ _ _ _ _ isFound := isFound.onPlan
  knownStep _ _ _ _ _ known := known
  issuedStep _ _ _ _ _ _ _ := trivial
  claims _ _ _ _ := AnnouncedSince.ofStore
  settles plan target runId revision onPlan isRun := by
    refine .bind AnnouncedSince.ofStore fun released => ?_
    refine .bind (AnnouncedSince.ofSilent (.require _ _)) fun _ => ?_
    refine .bind AnnouncedSince.ofStore fun available => ?_
    refine .bind (AnnouncedSince.ofSilent (.read _)) fun now => ?_
    exact .bind AnnouncedSince.ofStore fun _ => .pure fun _ _ _ => trivial
  recovers plan target ticket onPlan :=
    AnnouncedSince.ofSilent (recover_moves service target (anyWrite_admitsRecovery _) ticket)

theorem perform_announced (action : ContainerWorkflowAction) (world : MaintenanceWorld) :
    AnnouncedSince planId world.trace ((perform service planId action).run world).2 :=
  (perform_carries announced_carries (fun _ since => ⟨since, trivial⟩) action
    (fun _ => announced_issues) world ⟨[], rfl, by simp⟩ trivial).1

end ContainerMaintenanceService

/-! ### Runs -/

/-- What was dispatched between two worlds. -/
def dispatchedSince (world after : MaintenanceWorld) : History :=
  after.trace.take (after.trace.length - world.trace.length)

/-- The actions on one plan, each on a connection of its own, in any order and interrupted
anywhere, with all the effects they dispatched.  Between two actions everything else may run. -/
inductive PlanRun (planId : String) : History → MaintenanceWorld → Prop where
  | start (database : Database) (budget : Option Nat) :
      PlanRun planId [] (World.start database budget)
  | host {dispatched : History} {world : MaintenanceWorld} (run : PlanRun planId dispatched world)
      (service : HostMaintenanceService) (action : HostWorkflowAction) :
      PlanRun planId
        (dispatchedSince world ((service.perform planId action).run world).2 ++ dispatched)
        ((service.perform planId action).run world).2
  | container {dispatched : History} {world : MaintenanceWorld}
      (run : PlanRun planId dispatched world) (service : ContainerMaintenanceService)
      (action : ContainerWorkflowAction) :
      PlanRun planId
        (dispatchedSince world ((service.perform planId action).run world).2 ++ dispatched)
        ((service.perform planId action).run world).2
  | restart {dispatched : History} {world : MaintenanceWorld}
      (run : PlanRun planId dispatched world) (budget : Option Nat) :
      PlanRun planId dispatched (world.restart budget)
  | environment {dispatched : History} {world : MaintenanceWorld}
      (run : PlanRun planId dispatched world) (database : Database) (history : History)
      (budget : Option Nat) :
      PlanRun planId dispatched
        { world with
          committed := database, working := database, trace := history, budget := budget }

/-- Every effect was announced in what was durable at its dispatch, and the startup does not
take a reboot for not invoked that was. -/
def IntentsDurable (planId : String) (dispatched : History) (world : MaintenanceWorld) : Prop :=
  (∀ entry ∈ dispatched, HasAnnouncement planId entry.committed entry.event) ∧
    ∀ plan checkpoint decision, world.committed.plan? planId = some plan →
      world.committed.latestCheckpoint planId = some checkpoint →
      classifyHostRebootCheckpoint plan checkpoint = some decision →
      decision.reasonCode = "reboot-not-invoked" →
      ∀ entry ∈ dispatched, entry.event.isInvocation = false

theorem dispatchedSince_of_append {world after : MaintenanceWorld} {recent : History}
    (isTrace : after.trace = recent ++ world.trace) : dispatchedSince world after = recent := by
  simp [dispatchedSince, isTrace]

theorem AnnouncedSince.dispatched {planId : String} {world after : MaintenanceWorld}
    (since : AnnouncedSince planId world.trace after) :
    ∀ entry ∈ dispatchedSince world after, AnnouncedExactly planId entry := by
  obtain ⟨recent, isTrace, announced⟩ := since
  rw [dispatchedSince_of_append isTrace]
  exact announced

/-- Along every run the announcements fail exactly at the invocations of a reboot. -/
theorem PlanRun.exactly {planId : String} {dispatched : History} {world : MaintenanceWorld}
    (run : PlanRun planId dispatched world) :
    ∀ entry ∈ dispatched, AnnouncedExactly planId entry := by
  induction run with
  | start database budget => exact fun _ member => absurd member List.not_mem_nil
  | host run service action ih =>
      intro entry member
      rcases List.mem_append.mp member with recent | older
      · exact (HostMaintenanceService.perform_announced action _).dispatched entry recent
      · exact ih entry older
  | container run service action ih =>
      intro entry member
      rcases List.mem_append.mp member with recent | older
      · exact (ContainerMaintenanceService.perform_announced action _).dispatched entry recent
      · exact ih entry older
  | restart run budget ih => exact ih
  | environment run database history budget ih => exact ih

/-- In every run the intents are durable exactly if no reboot is invoked. -/
theorem intents_durable_iff {planId : String} {dispatched : History} {world : MaintenanceWorld}
    (run : PlanRun planId dispatched world) :
    IntentsDurable planId dispatched world ↔
      ∀ entry ∈ dispatched, entry.event.isInvocation = false := by
  constructor
  · intro durable entry member
    exact (run.exactly entry member).mp (durable.1 entry member)
  · intro uninvoked
    refine ⟨fun entry member => ?_, fun _ _ _ _ _ _ _ => uninvoked⟩
    exact (run.exactly entry member).mpr (uninvoked entry member)

namespace HostSample

/-- The effects of an action of a new process, before those that came earlier. -/
def dispatchedBy (budget : Option Nat) (action : HostWorkflowAction) (world : MaintenanceWorld)
    (earlier : History) : History :=
  dispatchedSince (world.restart budget) (perform budget action world) ++ earlier

theorem perform_run (budget : Option Nat) (action : HostWorkflowAction)
    {world : MaintenanceWorld} {earlier : History} (run : PlanRun "plan" earlier world) :
    PlanRun "plan" (dispatchedBy budget action world earlier) (perform budget action world) :=
  .host (.restart run budget) service action

/-- The effects of the preparation and of the stop. -/
def stoppedEffects : History :=
  dispatchedBy none .stop (perform none .prepare (World.start database none))
    (dispatchedBy none .prepare (World.start database none) [])

theorem stopped_run : PlanRun "plan" stoppedEffects stopped :=
  perform_run none .stop (perform_run none .prepare (.start database none))

/-- The process ends right after the invocation of the reboot. -/
def invoked : MaintenanceWorld :=
  perform (some 18) .reboot stopped

def invokedEffects : History :=
  dispatchedBy (some 18) .reboot stopped stoppedEffects

end HostSample

open HostSample in
/-- The stop of a workload is announced durably. -/
theorem intents_durable_stopped :
    stoppedEffects.map (·.event) = [.runtimeStop 1] ∧
      IntentsDurable "plan" stoppedEffects stopped := by
  have uninvoked : ∀ entry ∈ stoppedEffects, entry.event.isInvocation = false := by
    decide +kernel
  exact ⟨by decide +kernel, (intents_durable_iff stopped_run).mpr uninvoked⟩

open HostSample in
/-- The reboot is invoked, its intent is not durable, and the startup takes it for not invoked. -/
theorem reboot_intent_not_durable :
    PlanRun "plan" invokedEffects invoked ∧
      (∃ entry ∈ invokedEffects, entry.event.isInvocation ∧
        entry.committed.journal "plan" .rebootIntent = none) ∧
      ((invoked.committed.plan? "plan").bind fun plan =>
        (invoked.committed.latestCheckpoint "plan").bind fun checkpoint =>
          (classifyHostRebootCheckpoint plan checkpoint).map (·.reasonCode)) =
        some "reboot-not-invoked" ∧
      ¬ IntentsDurable "plan" invokedEffects invoked := by
  have run : PlanRun "plan" invokedEffects invoked := perform_run (some 18) .reboot stopped_run
  have isInvoked : ∃ entry ∈ invokedEffects, entry.event.isInvocation ∧
      entry.committed.journal "plan" .rebootIntent = none := by
    decide +kernel
  refine ⟨run, isInvoked, by decide +kernel, fun durable => ?_⟩
  obtain ⟨entry, member, invokes, absent⟩ := isInvoked
  have announced := durable.1 entry member
  cases isEvent : entry.event with
  | invokeReboot nodeId operationId =>
      rw [isEvent] at announced
      simp only [HasAnnouncement, absent] at announced
      cases announced
  | _ =>
      rw [isEvent] at invokes
      cases invokes

end ElKeeper
