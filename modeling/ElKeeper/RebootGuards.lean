import ElKeeper.RebootOnce

/-!
# Cluster guards at the reboot

The journal remembers that the cluster guards were activated once, and a run
that finds this checkpoint does not activate them again.  A guard that was
restored in the meantime, after a failed staging or a blocked predicate, then
stays restored when the reboot is invoked.  Runs are guarded exactly as long as
no guard was restored behind a recorded activation.
-/

namespace ElKeeper

open Program MaintenanceStore

/-- The guard effect on a cluster: a successful activation, or another one. -/
def Effect.guardEffect? (clusterId : Nat) : Effect → Option Bool
  | .guardActivation other isActive => if other = clusterId then some isActive else none
  | .guardRestoration other => if other = clusterId then some false else none
  | _ => none

/-- The last guard effect on the cluster was a successful activation. -/
def guardActive (clusterId : Nat) (trace : History) : Prop :=
  trace.findSome? (fun entry => entry.event.guardEffect? clusterId) = some true

instance (clusterId : Nat) (trace : History) : Decidable (guardActive clusterId trace) :=
  inferInstanceAs (Decidable (_ = _))

/-- Every cluster of the request that has a guard is guarded. -/
def AllGuarded (request : RebootRequest) (trace : History) : Prop :=
  ∀ spec ∈ request.clusters, spec.guard.isSome → guardActive spec.clusterId trace

/-- The guard of the cluster was restored behind a recorded activation. -/
def Withdrawn (planId : String) (clusterId : Nat) (trace : History) : Prop :=
  ∃ entry ∈ trace, entry.event = .guardRestoration clusterId ∧
    (entry.working.journal planId .clusterGuardsActive).isSome

/-- A recorded activation covers only clusters whose guards were not restored
behind it. -/
def Unwithdrawn (request : RebootRequest) (world : MaintenanceWorld) : Prop :=
  (world.working.journal request.planId .clusterGuardsActive).isSome →
    ∀ spec ∈ request.clusters, spec.guard.isSome →
      ¬ Withdrawn request.planId spec.clusterId world.trace

/-- Every cluster of a recorded activation is guarded or was withdrawn. -/
def ActivationTrue (planId : String) (world : MaintenanceWorld) : Prop :=
  ∀ row guards, world.working.journal planId .clusterGuardsActive = some row →
    row.payload = .guards guards → ∀ clusterId ∈ guards.map (·.1),
      guardActive clusterId world.trace ∨ Withdrawn planId clusterId world.trace

/-- Every invocation dispatched after the first `start` effects was guarded. -/
def InvokedGuarded (request : RebootRequest) (start : Nat) (trace : History) : Prop :=
  ∀ entry older, entry :: older <:+ trace → start ≤ older.length →
    entry.event.isInvocation → AllGuarded request older

/-! ### Single effects -/

theorem guardActive_cons_of_none {clusterId : Nat} {entry : Entry Database Effect}
    {trace : History} (other : entry.event.guardEffect? clusterId = none) :
    guardActive clusterId (entry :: trace) ↔ guardActive clusterId trace := by
  simp [guardActive, other]

theorem Effect.guardEffect?_of_quiet {effect : Effect} (quiet : effect.quiet) (clusterId : Nat) :
    effect.guardEffect? clusterId = none := by
  cases effect <;> first | rfl | cases quiet

theorem Withdrawn.cons {planId : String} {clusterId : Nat} {trace : History}
    (withdrawn : Withdrawn planId clusterId trace) (entry : Entry Database Effect) :
    Withdrawn planId clusterId (entry :: trace) := by
  obtain ⟨found, member, restored, recorded⟩ := withdrawn
  exact ⟨found, by simp [member], restored, recorded⟩

theorem InvokedGuarded.cons {request : RebootRequest} {start : Nat} {trace : History}
    (guarded : InvokedGuarded request start trace) {entry : Entry Database Effect}
    (invokes : start ≤ trace.length → entry.event.isInvocation → AllGuarded request trace) :
    InvokedGuarded request start (entry :: trace) := by
  intro found older suffix
  rcases List.suffix_cons_iff.mp suffix with whole | earlier
  · cases whole
    exact invokes
  · exact guarded found older earlier

theorem field_ok {answer : Dict} {name : String} {value : Json}
    (found : field answer name = .ok value) : answer.get name = some value := by
  simp only [field] at found
  split at found
  · cases found
    assumption
  · cases found

/-! ### Steps that do not activate a guard -/

/-- The journal holds the same recorded activation. -/
def SameActivation (planId : String) (before after : Database) : Prop :=
  after.journal planId .clusterGuardsActive = before.journal planId .clusterGuardsActive

/-- Quiet effects and restorations. -/
def Effect.passive : Effect → Bool
  | .guardRestoration _ => true
  | effect => effect.quiet

theorem Effect.passive_of_quiet {effect : Effect} (quiet : effect.quiet) : effect.passive := by
  cases effect <;> first | rfl | cases quiet

theorem Effect.isInvocation_of_passive {effect : Effect} (passive : effect.passive) :
    effect.isInvocation = false := by
  cases effect <;> first | rfl | cases passive

/-- Steps that neither activate a guard nor invoke the reboot. -/
def PassiveStep (planId : String) : MaintenanceWorld → MaintenanceWorld → Prop :=
  WorldStep (SameActivation planId) (fun _ effect => effect.passive) fun _ => True

/-- Passive steps that restore no guard either. -/
def QuietStep (planId : String) : MaintenanceWorld → MaintenanceWorld → Prop :=
  WorldStep (SameActivation planId) (fun _ effect => effect.quiet) fun _ => True

theorem QuietStep.passive {planId : String} (before after : MaintenanceWorld)
    (step : QuietStep planId before after) : PassiveStep planId before after :=
  WorldStep.widen (fun _ _ allowed => allowed)
    (fun _ _ allowed => Effect.passive_of_quiet allowed) (fun _ allowed => allowed) _ _ step

theorem sameActivation_admitsRun (planId : String) (sequenceBase : Nat) :
    AdmitsRun planId sequenceBase (· ≠ .clusterGuardsActive) (SameActivation planId) where
  lifecycle _ _ _ _ _ := rfl
  checkpoint content other _ database identifier := journal_addCheckpoint_of_ne other
  hostState _ _ _ := rfl
  assignmentState _ _ _ := rfl
  undo before after reached := (preparation_journal reached (by simp) (by simp)).symm

/-- What holds throughout a run that started after `start` effects. -/
structure GuardInvariant (request : RebootRequest) (start : Nat) (world : MaintenanceWorld) :
    Prop where
  activation : ActivationTrue request.planId world
  invoked : InvokedGuarded request start world.trace

section Steps

variable {request : RebootRequest} {start : Nat}

theorem ActivationTrue.write {planId : String} {world : MaintenanceWorld}
    {database : Database} (known : ActivationTrue planId world)
    (same : SameActivation planId world.working database) :
    ActivationTrue planId { world with working := database } :=
  fun row guards recorded => known row guards (same ▸ recorded)

/-- An effect that is passive keeps a recorded activation true: a restoration
withdraws the cluster it touches. -/
theorem ActivationTrue.log {planId : String} {world : MaintenanceWorld} {effect : Effect}
    (known : ActivationTrue planId world) (passive : effect.passive) :
    ActivationTrue planId (world.log effect) := by
  intro row guards recorded shape clusterId member
  rcases known row guards recorded shape clusterId member with active | withdrawn
  · cases touched : effect.guardEffect? clusterId with
    | none => exact .inl ((guardActive_cons_of_none touched).mpr active)
    | some isActive =>
        right
        cases effect with
        | guardRestoration other =>
            have same : other = clusterId := by
              by_contra different
              simp [Effect.guardEffect?, different] at touched
            subst same
            refine ⟨⟨.guardRestoration other, world.working, world.committed⟩,
              by simp, rfl, ?_⟩
            exact Option.isSome_iff_exists.mpr ⟨row, recorded⟩
        | guardActivation other isActive => cases passive
        | _ => cases touched
  · exact .inr (withdrawn.cons _)

theorem GuardInvariant.of_passiveStep (before after : MaintenanceWorld)
    (step : PassiveStep request.planId before after)
    (known : GuardInvariant request start before) : GuardInvariant request start after := by
  cases step with
  | write allowed => exact ⟨known.activation.write allowed, known.invoked⟩
  | spend budget => exact ⟨known.activation, known.invoked⟩
  | send allowed =>
      refine ⟨known.activation.log allowed, known.invoked.cons fun _ invokes => ?_⟩
      rw [Effect.isInvocation_of_passive allowed] at invokes
      cases invokes
  | commit allowed => exact ⟨known.activation, known.invoked⟩

theorem AllGuarded.of_quietStep (before after : MaintenanceWorld)
    (step : QuietStep request.planId before after)
    (known : AllGuarded request before.trace) : AllGuarded request after.trace := by
  cases step with
  | write allowed => exact known
  | spend budget => exact known
  | send allowed =>
      intro spec member guarded
      exact (guardActive_cons_of_none (Effect.guardEffect?_of_quiet allowed _)).mpr
        (known spec member guarded)
  | commit allowed => exact known

theorem Unwithdrawn.of_quietStep (before after : MaintenanceWorld)
    (step : QuietStep request.planId before after)
    (known : Unwithdrawn request before) : Unwithdrawn request after := by
  cases step with
  | write allowed =>
      intro recorded
      exact known (allowed ▸ recorded)
  | spend budget => exact known
  | send allowed =>
      intro recorded spec member guarded
      rintro ⟨entry, found, restored, behind⟩
      rcases List.mem_cons.mp found with rfl | earlier
      · dsimp only at restored
        rw [restored] at allowed
        cases allowed
      · exact known recorded spec member guarded ⟨entry, earlier, restored, behind⟩
  | commit allowed => exact known

end Steps

/-! ### Activation -/

section Activation

variable {orchestrator : RebootOrchestrator} {request : RebootRequest} {start : Nat}

/-- Programs of passive steps keep the invariant. -/
theorem passively {α : Type} {program : Action α} {before : MaintenanceWorld → Prop}
    (moves : Moves (PassiveStep request.planId) program) :
    Maintains (GuardInvariant request start) before program fun _ _ => True :=
  Maintains.weaken (.ofMoves moves GuardInvariant.of_passiveStep fun _ _ _ known => known)
    (fun _ _ _ => trivial) fun _ _ _ _ => trivial

/-- Programs of quiet steps keep the invariant and what quiet steps keep. -/
theorem quietly {α : Type} {program : Action α} {assertion : MaintenanceWorld → Prop}
    (moves : Moves (QuietStep request.planId) program)
    (still : ∀ before after, QuietStep request.planId before after →
      assertion before → assertion after) :
    Maintains (GuardInvariant request start) assertion program fun _ => assertion :=
  .ofMoves moves
    (fun before after step => GuardInvariant.of_passiveStep before after
      (QuietStep.passive before after step)) still

/-- The loop's assertion: nothing is recorded yet, and the clusters activated so
far are guarded. -/
structure Activating (request : RebootRequest) (active : List (Nat × Json))
    (world : MaintenanceWorld) : Prop where
  unrecorded : world.working.journal request.planId .clusterGuardsActive = none
  guarded : ∀ clusterId ∈ active.map (·.1), guardActive clusterId world.trace

/-- A successful activation guards its cluster and leaves the others guarded. -/
theorem activateGuard_maintains (captures : List (Nat × Json)) (spec : ClusterGuardSpec)
    (guard : ClusterGuard) (active : List (Nat × Json)) :
    Maintains (GuardInvariant request start) (Activating request active)
      (RebootOrchestrator.activateGuard captures spec guard)
      fun answer world => activated (.ok answer) →
        ∀ checkpoint, Activating request (active ++ [(spec.clusterId, checkpoint)]) world := by
  simp only [RebootOrchestrator.activateGuard]
  split
  · exact .raise _ _
  · rename_i capture _
    intro world known activating
    obtain ⟨budget, ended⟩ := ask_run
      (fun reply => Effect.guardActivation spec.clusterId (activated reply))
      (guard.activate capture) world
    rw [ended]
    refine ⟨⟨?_, known.invoked.cons fun _ invokes => by cases invokes⟩, ?_⟩
    · intro row guards recorded
      have unrecorded := activating.unrecorded
      rw [show world.working.journal request.planId .clusterGuardsActive = some row from
        recorded] at unrecorded
      cases unrecorded
    · intro answer returned succeeded checkpoint
      have replied := ask_returned returned
      refine ⟨activating.unrecorded, ?_⟩
      intro clusterId member
      by_cases same : spec.clusterId = clusterId
      · simp [guardActive, Effect.guardEffect?, same, replied, succeeded]
      · have earlier : clusterId ∈ active.map (·.1) := by
          simpa [Ne.symm same] using member
        have other : (Effect.guardActivation spec.clusterId
            (activated (guard.activate capture world.trace))).guardEffect? clusterId = none := by
          simp [Effect.guardEffect?, same]
        exact (guardActive_cons_of_none other).mpr (activating.guarded clusterId earlier)

/-- Recording the activation makes it true. -/
theorem recordActivation_maintains (active : List (Nat × Json)) :
    Maintains (GuardInvariant request start) (Activating request active)
      (orchestrator.record request .clusterGuardsActive 400 .verified (.guards active))
      fun _ world => ∀ clusterId ∈ active.map (·.1), guardActive clusterId world.trace := by
  intro world known activating
  let content : CheckpointContent :=
    { key := .clusterGuardsActive
      sequence := orchestrator.sequenceBase + 400
      sideEffectState := .verified
      payload := .guards active }
  obtain ⟨budget, ended⟩ := store_run (recordCheckpoint request.planId content) world
  have ran : ((orchestrator.record request .clusterGuardsActive 400 .verified
      (.guards active)).run world).2 = _ := ended
  rw [ran]
  refine ⟨⟨?_, known.invoked⟩, fun _ _ => activating.guarded⟩
  intro row guards recorded shape clusterId member
  left
  rcases recordCheckpoint_journal request.planId content world.working with same | ⟨_, stored⟩
  · have unrecorded := same.trans activating.unrecorded
    rw [show _ = some row from recorded] at unrecorded
    cases unrecorded
  · have isRow := recorded.symm.trans stored
    cases isRow
    have covered : guards = active.map fun entry => (entry.1, entry.2.persisted) := by
      simpa [content, CheckpointContent.row, CheckpointPayload.persisted] using shape.symm
    refine activating.guarded clusterId ?_
    simpa [covered, List.map_map, Function.comp_def] using member

/-- The activation loop guards every cluster with a guard, or reports a failure. -/
theorem activateEach_maintains (captures : List (Nat × Json)) (specs : List ClusterGuardSpec)
    (active : List (Nat × Json)) :
    Maintains (GuardInvariant request start) (Activating request active)
      (orchestrator.activateEach request captures specs active)
      fun activation world => activation.failure = none →
        (∀ clusterId ∈ active.map (·.1), guardActive clusterId world.trace) ∧
          ∀ spec ∈ specs, spec.guard.isSome → guardActive spec.clusterId world.trace := by
  have restores : ∀ (checkpoints : List (Nat × Json)) (before : MaintenanceWorld → Prop),
      Maintains (GuardInvariant request start) before
        (orchestrator.restoreGuards request checkpoints) fun _ _ => True :=
    fun checkpoints _ => passively (RebootOrchestrator.restoreGuards_moves orchestrator
      (sameActivation_admitsRun request.planId _).toAdmitsJournal (by simp) (fun _ _ => rfl)
      checkpoints)
  induction specs generalizing active with
  | nil =>
      refine .bind (recordActivation_maintains active) fun _ => .pure ?_
      exact fun _ _ guarded _ => ⟨guarded, fun _ member => by cases member⟩
  | cons spec rest ih =>
      simp only [RebootOrchestrator.activateEach]
      split
      next unguarded =>
        refine (ih active).weaken (fun _ _ known => known) ?_
        intro activation world _ established succeeded
        obtain ⟨earlier, later⟩ := established succeeded
        refine ⟨earlier, fun other member guarded => ?_⟩
        rcases List.mem_cons.mp member with rfl | member
        · simp [unguarded] at guarded
        · exact later other member guarded
      next guard _ =>
        refine .bind (activateGuard_maintains captures spec guard active).attempt
          fun outcome => ?_
        cases outcome with
        | error error =>
            refine .bind (restores active _) fun _ => .pure ?_
            exact fun _ _ _ failure => by cases failure
        | ok answer =>
            refine .bind .ofExcept fun status => .bind .ofExcept fun checkpoint => ?_
            split
            next isActive =>
              refine (ih (active ++ [(spec.clusterId, checkpoint)])).weaken ?_ ?_
              · rintro world _ ⟨_, answered, established⟩
                refine established answer rfl ?_ checkpoint
                simpa [activated, isActive] using field_ok answered
              · intro activation world _ established succeeded
                obtain ⟨earlier, later⟩ := established succeeded
                refine ⟨fun clusterId member => earlier clusterId (by simp [member]), ?_⟩
                intro other member guarded
                rcases List.mem_cons.mp member with rfl | member
                · exact earlier other.clusterId (by simp)
                · exact later other member guarded
            · refine .bind (restores active _) fun restored => ?_
              split
              · exact .pure fun _ _ _ failure => by cases failure
              · exact .pure fun _ _ _ failure => by cases failure

/-- The checkpoints of a recorded activation cover every guarded cluster. -/
theorem hydrateActive_ok {guards : List (Nat × Json)} {specs : List ClusterGuardSpec}
    {active : List (Nat × Json)}
    (hydrated : RebootOrchestrator.hydrateActive guards specs = .ok active) :
    ∀ spec ∈ specs, spec.guard.isSome → spec.clusterId ∈ guards.map (·.1) := by
  induction specs generalizing active with
  | nil => exact fun _ member => by cases member
  | cons first rest ih =>
      intro spec member guarded
      cases guard : first.guard with
      | none =>
          simp only [RebootOrchestrator.hydrateActive, guard] at hydrated
          rcases List.mem_cons.mp member with rfl | member
          · simp [guard] at guarded
          · exact ih hydrated spec member guarded
      | some guardOfFirst =>
          cases stored : guards.lookup first.clusterId with
          | none => simp [RebootOrchestrator.hydrateActive, guard, stored] at hydrated
          | some payload =>
              simp only [RebootOrchestrator.hydrateActive, guard, stored] at hydrated
              rcases List.mem_cons.mp member with rfl | member
              · obtain ⟨before, after, rfl, _⟩ := List.lookup_eq_some_iff.mp stored
                simp
              · cases checkpoint : guardOfFirst.hydrate payload with
                | error error =>
                    rw [checkpoint] at hydrated
                    cases hydrated
                | ok value =>
                    rw [checkpoint] at hydrated
                    cases others : RebootOrchestrator.hydrateActive guards rest with
                    | error error =>
                        rw [others] at hydrated
                        cases hydrated
                    | ok found => exact ih others spec member guarded

/-- After `_activate_cluster_guards` every guarded cluster of the request is
guarded, unless it reports a failure. -/
theorem activateClusterGuards_maintains (captures : List (Nat × Json)) :
    Maintains (GuardInvariant request start) (Unwithdrawn request)
      (orchestrator.activateClusterGuards request captures)
      fun activation world => activation.failure = none → AllGuarded request world.trace := by
  refine .bind .read fun found => ?_
  cases found with
  | none =>
      refine (activateEach_maintains captures request.clusters []).weaken ?_ ?_
      · rintro world _ ⟨unrecorded, _⟩
        exact ⟨unrecorded.symm, fun _ member => by cases member⟩
      · exact fun activation world _ established succeeded => (established succeeded).2
  | some row =>
      dsimp only
      split
      next guards shape =>
        refine .bind .ofExcept fun active => .pure ?_
        rintro world known ⟨hydrated, recorded, unwithdrawn⟩ _ spec member guarded
        have covered := hydrateActive_ok hydrated spec member guarded
        rcases known.activation row guards recorded.symm shape spec.clusterId covered with
          isActive | withdrawn
        · exact isActive
        · have present : (world.working.journal request.planId .clusterGuardsActive).isSome :=
            Option.isSome_iff_exists.mpr ⟨row, recorded.symm⟩
          exact absurd withdrawn (unwithdrawn present spec member guarded)
      · exact .raise _ _

end Activation

/-! ### One run -/

section Run

variable {orchestrator : RebootOrchestrator} {request : RebootRequest} {start : Nat}

/-- A phase goes on only with every guard active. -/
def goesOnGuarded {α : Type} (request : RebootRequest) (progress : Progress α)
    (world : MaintenanceWorld) : Prop :=
  match progress with
  | .ended _ => True
  | .continues _ => AllGuarded request world.trace

/-- A part of passive steps may end a phase. -/
theorem endsPassively {α : Type} {program : Action RebootOrchestrationResult}
    {before : MaintenanceWorld → Prop} (moves : Moves (PassiveStep request.planId) program) :
    Maintains (GuardInvariant request start) before
      (program >>= fun result => (pure (.ended result) : Action (Progress α)))
      (goesOnGuarded request) :=
  .bind (passively moves) fun _ => .pure fun _ _ _ => trivial

theorem prepareForReboot_maintains :
    Maintains (GuardInvariant request start) (Unwithdrawn request)
      (orchestrator.prepareForReboot request) (goesOnGuarded request) := by
  have admits := sameActivation_admitsRun request.planId orchestrator.sequenceBase
  have quiet : ∀ (_ : MaintenanceWorld) (effect : Effect), effect.quiet → effect.quiet :=
    fun _ _ isQuiet => isQuiet
  have still : ∀ before after, QuietStep request.planId before after →
      Unwithdrawn request before → Unwithdrawn request after :=
    Unwithdrawn.of_quietStep
  have blocked : ∀ reasonCode, Moves (PassiveStep request.planId)
      (RebootOrchestrator.endBlocked request reasonCode) :=
    fun reasonCode => RebootOrchestrator.endBlocked_moves admits reasonCode
  refine .bind (quietly (.attempt (RebootOrchestrator.prepareClusters_moves orchestrator
      admits.toAdmitsJournal
    (by simp) (by simp) quiet)) still) fun prepared => ?_
  cases prepared with
  | error error => exact endsPassively (blocked _)
  | ok captures =>
      refine .bind (quietly (RebootOrchestrator.applySafeControl_moves orchestrator admits
        (by simp)) still) fun controlled => ?_
      cases controlled with
      | some result => exact .pure fun _ _ _ => trivial
      | none =>
          refine .bind (quietly (.attempt (RebootOrchestrator.evaluate_moves orchestrator
      admits.toAdmitsJournal
            .prepare (by simp) quiet)) still) fun evaluated => ?_
          cases evaluated with
          | error error => exact endsPassively (blocked _)
          | ok evaluation =>
              dsimp only
              split
              · exact endsPassively (blocked _)
              · refine .bind (activateClusterGuards_maintains captures) fun activation => ?_
                split
                next succeeded => exact .pure fun _ _ guarded => guarded succeeded
                · exact endsPassively (RebootOrchestrator.endInRecovery_moves admits _ _ _)
                · exact .bind (passively (.store (RebootOrchestrator.markFailed_moves admits)))
                    fun _ => .pure fun _ _ _ => trivial

theorem stageForReboot_maintains (active : List (Nat × Json)) :
    Maintains (GuardInvariant request start) (fun world => AllGuarded request world.trace)
      (orchestrator.stageForReboot request active) (goesOnGuarded request) := by
  have admits := sameActivation_admitsRun request.planId orchestrator.sequenceBase
  have quiet : ∀ (_ : MaintenanceWorld) (effect : Effect), effect.quiet → effect.quiet :=
    fun _ _ isQuiet => isQuiet
  have still : ∀ before after, QuietStep request.planId before after →
      AllGuarded request before.trace → AllGuarded request after.trace :=
    AllGuarded.of_quietStep
  have restores : Moves (PassiveStep request.planId)
      (orchestrator.restoreGuards request active) :=
    RebootOrchestrator.restoreGuards_moves orchestrator
      admits.toAdmitsJournal (by simp) (fun _ _ => rfl) active
  have withdrawn : ∀ reasonCode, Moves (PassiveStep request.planId)
      (orchestrator.withdraw request active reasonCode) :=
    fun reasonCode => RebootOrchestrator.withdraw_moves orchestrator admits (by simp)
      (fun _ _ => rfl) active reasonCode
  refine .bind (quietly (.attempt (RebootOrchestrator.stageExecutor_moves orchestrator
      admits.toAdmitsJournal
    (by simp) quiet)) still) fun staging => ?_
  cases staging with
  | error error => exact endsPassively (withdrawn _)
  | ok staged =>
      dsimp only
      split
      · exact endsPassively (withdrawn _)
      · refine .bind (quietly (.attempt (RebootOrchestrator.evaluate_moves orchestrator
      admits.toAdmitsJournal
          .reboot (by simp) quiet)) still) fun evaluated => ?_
        cases evaluated with
        | error error => exact endsPassively (withdrawn _)
        | ok evaluation =>
            dsimp only
            split
            · refine .bind (passively restores) fun isRestored => ?_
              split
              · exact endsPassively (RebootOrchestrator.endBlocked_moves admits _)
              · exact endsPassively (RebootOrchestrator.endInRecovery_moves admits _ _ _)
            · exact .pure fun _ _ guarded => guarded

/-- The invocation itself, dispatched with every guard active. -/
theorem askReboot_guarded :
    Maintains (GuardInvariant request start) (fun world => AllGuarded request world.trace)
      (ask (fun _ => .invokeReboot request.nodeId request.operationId)
        (orchestrator.invokeReboot request.nodeId request.operationId))
      fun _ _ => True := by
  intro world known guarded
  obtain ⟨budget, ended⟩ := ask_run
    (fun _ => Effect.invokeReboot request.nodeId request.operationId)
    (orchestrator.invokeReboot request.nodeId request.operationId) world
  rw [ended]
  refine ⟨⟨?_, known.invoked.cons fun _ _ => guarded⟩, fun _ _ => trivial⟩
  intro row guards recorded shape clusterId member
  rcases known.activation row guards recorded shape clusterId member with active | withdrawn
  · exact .inl ((guardActive_cons_of_none rfl).mpr active)
  · exact .inr (withdrawn.cons _)

theorem runFresh_guarded :
    Maintains (GuardInvariant request start) (Unwithdrawn request)
      (orchestrator.runFresh request) fun _ _ => True := by
  have admits := sameActivation_admitsRun request.planId orchestrator.sequenceBase
  have quiet : ∀ (_ : MaintenanceWorld) (effect : Effect), effect.quiet → effect.passive :=
    fun _ _ isQuiet => Effect.passive_of_quiet isQuiet
  have ends : ∀ (result : RebootOrchestrationResult) (before : MaintenanceWorld → Prop),
      Maintains (GuardInvariant request start) before
        (pure result : Action RebootOrchestrationResult) fun _ _ => True :=
    fun _ _ => .pure fun _ _ _ => trivial
  have invokes : Maintains (GuardInvariant request start)
      (fun world => AllGuarded request world.trace) (orchestrator.invoke request)
      fun _ _ => True := by
    refine .bind (quietly (RebootOrchestrator.record_moves orchestrator
      admits.toAdmitsJournal (by simp)
      (by exact fun _ => Option.some.inj) (by simp [CheckpointKey.rebootStates]) _ _)
      AllGuarded.of_quietStep) fun _ => ?_
    refine .bind askReboot_guarded.attempt fun outcome => ?_
    have inRecovery : ∀ reasonCode, Moves (PassiveStep request.planId)
        (RebootOrchestrator.endInRecovery request reasonCode >>= fun result =>
          (pure (.ended result) : Action (Progress CheckpointRecord))) :=
      fun reasonCode => .bind (RebootOrchestrator.endInRecovery_moves admits _ _ _)
        fun _ => .pure _
    cases outcome with
    | error error => exact passively (inRecovery _)
    | ok invocation =>
        dsimp only
        split
        · exact passively (inRecovery _)
        · split
          · exact passively (inRecovery _)
          · exact passively (.bind (RebootOrchestrator.record_moves orchestrator admits.toAdmitsJournal
              (by simp) (by exact fun _ => Option.some.inj) (by simp [CheckpointKey.rebootStates]) _ _)
              fun _ => .pure _)
  refine .bind prepareForReboot_maintains fun prepared => ?_
  cases prepared with
  | ended result => exact ends result _
  | continues active =>
      refine .bind (stageForReboot_maintains active) fun staged => ?_
      cases staged with
      | ended result => exact ends result _
      | continues _ =>
          refine .bind invokes fun invoked => ?_
          cases invoked with
          | ended result => exact ends result _
          | continues acknowledged =>
              exact passively (RebootOrchestrator.observeReturn_moves orchestrator admits
                (by simp) (by simp) (by simp) quiet acknowledged)

theorem run_guarded (resume : Bool) :
    Maintains (GuardInvariant request start) (Unwithdrawn request)
      (orchestrator.run request resume) fun _ _ => True :=
  RebootOrchestrator.run_maintains orchestrator (sameActivation_admitsRun request.planId _)
    (by simp) (by simp) (by simp) (fun _ _ isQuiet => isQuiet)
    (fun before after step => GuardInvariant.of_passiveStep before after
      (QuietStep.passive before after step))
    Unwithdrawn.of_quietStep
    (runFresh_guarded.weaken (fun _ _ known => known.1) fun _ _ _ _ => trivial) resume

end Run

/-! ### All calls on a plan -/

namespace RebootCall

variable {planId : String}

theorem entered_activationTrue (call : RebootCall planId) {world : MaintenanceWorld}
    (known : ActivationTrue planId world) : ActivationTrue planId (call.entered world) := by
  intro row guards recorded
  rw [call.entered_journal] at recorded
  exact known row guards recorded

theorem entered_unwithdrawn (call : RebootCall planId) {world : MaintenanceWorld}
    (known : Unwithdrawn call.request world) :
    Unwithdrawn call.request (call.entered world) := by
  intro recorded
  rw [call.onPlan, call.entered_journal] at recorded
  refine known ?_
  rw [call.onPlan]
  exact recorded

/-- A call leaves a recorded activation true, and a call that starts before any
withdrawal invokes the reboot only with every guard active. -/
theorem perform_guarded (call : RebootCall planId) {world : MaintenanceWorld}
    (known : ActivationTrue planId world) (unwithdrawn : Unwithdrawn call.request world) :
    ActivationTrue planId (call.perform world) ∧
      InvokedGuarded call.request world.trace.length (call.perform world).trace := by
  have entry : GuardInvariant call.request world.trace.length (call.entered world) := by
    constructor
    · rw [call.onPlan]
      exact call.entered_activationTrue known
    · intro found older suffix longer
      have shorter := suffix.length_le
      simp only [entered_trace, List.length_cons] at shorter
      omega
  have after : GuardInvariant call.request world.trace.length (call.perform world) :=
    (run_guarded call.resume _ entry (call.entered_unwithdrawn unwithdrawn)).1
  refine ⟨?_, after.invoked⟩
  have activation := after.activation
  rw [call.onPlan] at activation
  exact activation

end RebootCall

/-- The calls of a sequence in turn, from a world whose recorded activation is
true. -/
theorem performCalls_guarded {planId : String} (calls : List (RebootCall planId))
    (world : MaintenanceWorld) (known : ActivationTrue planId world)
    (unwithdrawn : ∀ earlier call later, calls = earlier ++ call :: later →
      Unwithdrawn call.request (performCalls earlier world)) :
    ∀ earlier call later, calls = earlier ++ call :: later →
      InvokedGuarded call.request (performCalls earlier world).trace.length
        (call.perform (performCalls earlier world)).trace := by
  induction calls generalizing world with
  | nil =>
      intro earlier call later whole
      simp at whole
  | cons first rest ih =>
      have step := first.perform_guarded known (unwithdrawn [] first rest rfl)
      intro earlier call later whole
      cases earlier with
      | nil =>
          cases whole
          exact step.2
      | cons head earlier =>
          cases whole
          exact ih (first.perform world) step.1
            (fun inner other after split =>
              unwithdrawn (first :: inner) other after (by rw [split]; rfl))
            earlier call later rfl

/-- In every sequence of calls that each start before any withdrawal of their
guards, the reboot is only ever invoked with every guard of the request active. -/
theorem guards_active_at_reboot (planId : String) (database : Database)
    (unrecorded : database.journal planId .clusterGuardsActive = none)
    (calls : List (RebootCall planId))
    (unwithdrawn : ∀ earlier call later, calls = earlier ++ call :: later →
      Unwithdrawn call.request (performCalls earlier (.start database none))) :
    ∀ earlier call later, calls = earlier ++ call :: later →
      InvokedGuarded call.request
        (performCalls earlier (.start database none)).trace.length
        (call.perform (performCalls earlier (.start database none))).trace := by
  refine performCalls_guarded calls _ ?_ unwithdrawn
  intro row guards recorded
  rw [show database.journal planId .clusterGuardsActive = some row from recorded] at unrecorded
  cases unrecorded

/-! ### A resumed run after a failed staging -/

namespace RebootSample

/-- An approved plan for the host with identifier 1. -/
def plan : PlanRecord where
  id := "plan-1"
  runId := none
  operationKind := .reboot
  targetNodeId := some 1
  targetClusterId := none
  targetAssignmentId := none
  observationMaxAgeSeconds := 120
  observation := ⟨none, none, []⟩
  planHash := ""
  targetManifest := ⟨none, [], [], [], none⟩
  lifecycleState := .ready
  stateRevision := 1
  expiresAt := 0

def database : Database :=
  { Database.empty with plans := [plan] }

/-- A guard that captures, activates and restores without a failure. -/
def guard : ClusterGuard where
  capture _ := .ok (.obj [])
  activate _ _ := .ok [("status", .str "active"), ("checkpoint", .obj [])]
  restore _ _ := .ok [("status", .str "restored")]
  hydrate checkpoint := .ok checkpoint

def request : RebootRequest where
  planId := "plan-1"
  nodeId := 1
  preRebootBootId := "boot-1"
  executorManifest :=
    { manifest :=
        { operationId := "operation-1"
          planId := "plan-1"
          nodeId := 1
          createdAt := 0
          expiresAt := 1
          preRebootBootId := "boot-1"
          requiredUnits := [] }
      signature := ⟨"key", "digest", "signature"⟩ }
  clusters := [⟨7, some guard, by decide⟩]
  nodeId_positive := by decide
  preRebootBootId_present := by decide
  manifest_planId := rfl
  manifest_nodeId := rfl
  manifest_bootId := rfl
  clusters_sorted := by simp
  clusters_bounded := by simp

/-- Gateways that acknowledge everything but do not see the host go. -/
def orchestrator (stage : Except Fault ExecutorStageReceipt) : RebootOrchestrator where
  predicates := .injected fun evaluated _ =>
    .ok (PredicateEvaluator.hostDecisions evaluated 0 true true)
  stage _ _ := stage
  discover _ _ := .error ⟨.adapter, "unavailable"⟩
  invokeReboot _ _ _ := .ok ⟨"operation-1", "invocation-1", true, 0, by decide, by decide⟩
  waitForDisconnect _ _ _ := .ok ⟨false, 0⟩
  waitForReconnect _ _ := .error ⟨.adapter, "unavailable"⟩
  control _ := .none
  executionEnabled := true
  sequenceBase := 0
  sequenceBase_bounded := by decide

/-- The call whose executor cannot be staged. -/
def failingCall : RebootCall "plan-1" where
  orchestrator := orchestrator (.error ⟨.adapter, "host unreachable"⟩)
  request := request
  onPlan := rfl
  resume := false
  transitions := []
  budget := none

/-- The call after the operator resumed the plan. -/
def resumedCall : RebootCall "plan-1" where
  orchestrator := orchestrator (.ok ⟨"operation-1", "digest", true, 0⟩)
  request := request
  onPlan := rfl
  resume := false
  transitions := [.executing]
  budget := none

def afterFailure : MaintenanceWorld :=
  failingCall.perform (.start database none)

end RebootSample

/-- A first call invokes the reboot, and does so guarded. -/
theorem guards_active_at_first_reboot :
    invocations (RebootSample.resumedCall.perform (.start RebootSample.database none)).trace = 1 ∧
      InvokedGuarded RebootSample.request 0
        (RebootSample.resumedCall.perform (.start RebootSample.database none)).trace := by
  refine ⟨by decide +kernel, ?_⟩
  refine guards_active_at_reboot "plan-1" RebootSample.database (by decide +kernel)
    [RebootSample.resumedCall] ?_ [] RebootSample.resumedCall [] rfl
  intro earlier call later whole
  obtain ⟨rfl, rfl, rfl⟩ : earlier = [] ∧ call = RebootSample.resumedCall ∧ later = [] := by
    cases earlier with
    | nil => simpa [eq_comm] using whole
    | cons head tail => simp at whole
  intro recorded
  exact absurd recorded (by decide +kernel)

/-- The staging fails, its guard is restored, and the resumed call invokes the
reboot without activating the guard again. -/
theorem guards_restored_at_reboot :
    ¬ ∀ (planId : String) (database : Database) (calls : List (RebootCall planId)),
      database.journal planId .clusterGuardsActive = none →
      ∀ earlier call later, calls = earlier ++ call :: later →
        InvokedGuarded call.request
          (performCalls earlier (.start database none)).trace.length
          (call.perform (performCalls earlier (.start database none))).trace := by
  intro claim
  have guarded := claim "plan-1" RebootSample.database
    [RebootSample.failingCall, RebootSample.resumedCall] (by decide +kernel)
    [RebootSample.failingCall] RebootSample.resumedCall [] rfl
  -- The invocation is followed by one more effect, and preceded by eight.
  have facts : let trace := (RebootSample.resumedCall.perform RebootSample.afterFailure).trace
      (trace.drop 1).head?.map (·.event.isInvocation) = some true ∧
        RebootSample.afterFailure.trace.length ≤ (trace.drop 2).length ∧
        ¬ guardActive 7 (trace.drop 2) := by
    decide +kernel
  obtain ⟨invokes, later, unguarded⟩ := facts
  rcases found : (RebootSample.resumedCall.perform RebootSample.afterFailure).trace.drop 1 with
    _ | ⟨entry, older⟩
  · rw [found] at invokes
    cases invokes
  · have rest : (RebootSample.resumedCall.perform RebootSample.afterFailure).trace.drop 2 =
        older := by
      rw [← List.drop_drop (i := 1) (j := 1), found]
      rfl
    rw [rest] at later unguarded
    rw [found] at invokes
    refine unguarded (guarded entry older ?_ later (by simpa using invokes)
      ⟨7, some RebootSample.guard, by decide⟩ (by simp [RebootSample.resumedCall,
        RebootSample.request]) rfl)
    rw [← found]
    exact List.drop_suffix 1 _

end ElKeeper
