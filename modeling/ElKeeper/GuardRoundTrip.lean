import ElKeeper.GuardDiscipline

/-!
# The round trip of an allocation guard

With no other writer, what the guard service says about the remote setting is
true: an active guard is effective, and a restored one has put both layers
back, whichever settings requests failed and whether or not they took effect.
-/

namespace ElKeeper

/-! ### The controller alone -/

namespace AllocationGuardController

open Coroutine

/-- Nobody else works on the cluster. -/
def undisturbed : Discipline GuardWorld SettingsRequest where
  invariant _ := True
  guarantee _ _ := True
  rely before after := before = after
  enabled _ _ := True
  idle _ := trivial

theorem stable_undisturbed (assertion : GuardWorld → Prop) : undisturbed.Stable assertion := by
  rintro before _ _ _ rfl holds
  exact holds

theorem steady_undisturbed (behaviour : SettingsBehaviour) (database : Database) :
    Steady behaviour undisturbed fun world => world.database = database where
  stable := stable_undisturbed _
  unwritten _ := stable_undisturbed _
  serves _ _ _ same := ⟨trivial, trivial, same⟩

variable (behaviour : SettingsBehaviour)

/-- A reading is the setting of the cluster or fails. -/
theorem observe_yields (world : GuardWorld) :
    Yields behaviour.answer (fun outcome after =>
      after.database = world.database ∧ after.server.setting = world.server.setting ∧
        (outcome = .returned world.server.setting ∨ Failed outcome)) observe world := by
  have read : ∀ later : GuardWorld, undisturbed.invariant later → world = later →
      undisturbed.enabled .settings later →
      undisturbed.invariant (behaviour.answer .settings later).2 ∧
        undisturbed.guarantee later (behaviour.answer .settings later).2 ∧
        later.server.setting = world.server.setting ∧
        (behaviour.answer .settings later).2.database = world.database ∧
        (behaviour.answer .settings later).2.server.setting = world.server.setting := by
    rintro _ _ rfl _
    refine ⟨trivial, trivial, rfl, rfl, ?_⟩
    rcases (answer_cases behaviour .settings world).2 with ⟨_, _, same, _⟩ | ⟨_, _, same | same⟩
    all_goals exact same
  have known : ∀ setting, undisturbed.Stable fun after =>
      setting = world.server.setting ∧ after.database = world.database ∧
        after.server.setting = world.server.setting :=
    fun _ => stable_undisturbed _
  have safe := observe_safe (stable_undisturbed _) known read trivial rfl
  refine (safe.yields fun _ _ => trivial).mono ?_
  rintro outcome after ⟨_, _, _, setting, ⟨rfl, database, same⟩, ends⟩
  exact ⟨database, same, ends⟩

/-- `capture` reads the setting of the cluster, or it raises. -/
theorem capture_yields (planId : String) (clusterId : Nat) (world : GuardWorld) :
    Yields behaviour.answer (fun outcome after =>
      after.database = world.database ∧ after.server.setting = world.server.setting ∧
        ∀ checkpoint, outcome = .returned checkpoint →
          (AllocationGuardCheckpoint.planIdMatches planId ∧ 1 ≤ clusterId) ∧
            checkpoint = ⟨planId, clusterId, .captured, world.server.setting,
              some world.server.setting⟩)
      (capture planId clusterId) world := by
  refine Yields.bind ((observe_yields behaviour world).mono ?_)
  rintro outcome after ⟨database, setting, rfl | ⟨category, text, rfl⟩⟩
  · show Yields behaviour.answer _ (if AllocationGuardCheckpoint.planIdMatches planId ∧
      1 ≤ clusterId then pure _ else raise _) after
    by_cases wellFormed : AllocationGuardCheckpoint.planIdMatches planId ∧ 1 ≤ clusterId
    · rw [if_pos wellFormed]
      refine ⟨database, setting, ?_⟩
      rintro _ ⟨⟩
      exact ⟨wellFormed, rfl⟩
    · rw [if_neg wellFormed]
      exact ⟨database, setting, nofun⟩
  · exact ⟨database, setting, nofun⟩

/-- `restore` ends with a result, and one that calls itself restored is right. -/
theorem restore_yields (checkpoint : AllocationGuardCheckpoint)
    (trigger : AllocationCleanupTrigger) (world : GuardWorld) :
    Yields behaviour.answer (fun outcome after =>
      after.database = world.database ∧
        ∃ result, outcome = .returned result ∧ Cleaned checkpoint result after)
      (restore checkpoint trigger) world := by
  have safe := restore_owned (steady_undisturbed behaviour world.database) checkpoint trigger
    trivial rfl
  refine (safe.yields fun _ _ => trivial).mono ?_
  rintro outcome after ⟨_, _, _, ends⟩
  exact ends

/-- `activate` raises without a request, or ends with a result that is right. -/
theorem activate_yields (checkpoint : AllocationGuardCheckpoint) (world : GuardWorld) :
    Yields behaviour.answer (fun outcome after =>
      after.database = world.database ∧
        ((∃ fault, outcome = .raised fault ∧ fault.kind ≠ .allocationGuardConflict) ∨
          ∃ result, outcome = .returned result ∧ Applied checkpoint result after))
      (activate checkpoint) world := by
  have safe := activate_owned (steady_undisturbed behaviour world.database) checkpoint trivial rfl
  refine (safe.yields fun _ _ => trivial).mono ?_
  rintro outcome after ⟨_, _, _, ends⟩
  exact ends

end AllocationGuardController

namespace GuardService

open Coroutine

/-- The guard of the plan on the cluster, with the setting that it captured. -/
structure Guarded (planId : String) (clusterId : Nat) (captured : AllocationSetting)
    (record : AllocationGuardRecord) (world : GuardWorld) : Prop where
  found : world.database.findAllocationGuard clusterId planId = some record
  keyed : world.database.allocationGuards.find? (·.id = record.id) = some record
  stored : ∃ checkpoint, checkpointOf record = .ok checkpoint ∧ checkpoint.captured = captured
  active : record.phase = .active → world.server.setting.effective = "primaries"
  restored : record.phase = .restored → world.server.setting = captured

/-- What a call leaves of a guard: a legal next row, and an answer that is its checkpoint. -/
structure Kept (planId : String) (clusterId : Nat) (captured : AllocationSetting)
    (record : AllocationGuardRecord) (outcome : Outcome Fault AllocationGuardCheckpoint)
    (after : GuardWorld) : Prop where
  guarded : ∃ later, Guarded planId clusterId captured later after ∧
    Allowed record.phase later.phase ∧
    ∀ checkpoint, outcome = .returned checkpoint → checkpoint.phase = later.phase
  accepted : ∀ fault, outcome = .raised fault → fault.kind ≠ .allocationGuardConflict

variable {behaviour : SettingsBehaviour} {planId : String} {clusterId : Nat}
  {captured : AllocationSetting} {record : AllocationGuardRecord}

theorem table_yields {β : Type} {operation : Operation β} {world : GuardWorld}
    {outcome : Outcome Fault β} {database : Database}
    (ran : operation.run world.database = (outcome, database))
    {after : Outcome Fault β → GuardWorld → Prop}
    (holds : after outcome { world with database := database }) :
    Yields behaviour.answer after (table operation) world := by
  show after (operation.run world.database).1
    { world with database := (operation.run world.database).2 }
  rw [ran]
  exact holds

/-- A guard whose row and settings are known after a legal transition. -/
theorem persist_yields {world before : GuardWorld}
    (guarded : Guarded planId clusterId captured record before)
    (database : world.database = before.database)
    {checkpoint later : AllocationGuardCheckpoint} (valid : checkpointOf record = .ok checkpoint)
    (sameCapture : checkpoint.captured = captured)
    (same : AllocationGuardController.SameGuard checkpoint later)
    (allowed : Allowed record.phase later.phase)
    (active : later.phase = .active → world.server.setting.effective = "primaries")
    (restored : later.phase = .restored → world.server.setting = captured) :
    Yields behaviour.answer (fun outcome after =>
      outcome = .returned later ∧
        ∃ next, Guarded planId clusterId captured next after ∧
          Allowed record.phase next.phase ∧ later.phase = next.phase)
      (persist record later) world := by
  obtain ⟨wellFormed, owner, cluster, phase⟩ := checkpointOf_ok valid
  have laterOwner := same.planId.trans owner
  have laterCluster := same.clusterId.trans cluster
  have keyed : world.database.allocationGuards.find? (·.id = record.id) = some record := by
    rw [database]
    exact guarded.keyed
  have ran := transition_run keyed laterOwner laterCluster allowed
  have moved : checkpointOf (Database.movedGuard later.phase later.toJson.persisted record) =
      .ok later := by
    refine checkpointOf_moved ?_ laterOwner laterCluster rfl rfl
    rw [same.planId, same.clusterId]
    exact wellFormed
  refine Yields.bind (table_yields ran ?_)
  show Yields behaviour.answer _ (ofExcept (checkpointOf
    (Database.movedGuard later.phase later.toJson.persisted record))) _
  rw [moved]
  refine ⟨rfl, Database.movedGuard later.phase later.toJson.persisted record, ?_, allowed, rfl⟩
  rw [database]
  exact
    { found := Database.findAllocationGuard_setAllocationGuard guarded.found _ _
      keyed := Database.find?_setAllocationGuard guarded.keyed _ _
      stored := ⟨later, moved, same.captured.trans sameCapture⟩
      active := active
      restored := restored }

/-- `restore` on a guard. -/
theorem restore_kept {world : GuardWorld} (trigger : AllocationCleanupTrigger)
    (guarded : Guarded planId clusterId captured record world) :
    Yields behaviour.answer (Kept planId clusterId captured record)
      (restore planId clusterId trigger) world := by
  obtain ⟨checkpoint, valid, sameCapture⟩ := guarded.stored
  have phase := (checkpointOf_ok valid).2.2.2
  refine Yields.bind (table_yields (ownedRecord_run guarded.found) ?_)
  show Yields behaviour.answer _ (ofExcept (checkpointOf record) >>= _) world
  rw [valid]
  show Yields behaviour.answer _ (if checkpoint.phase = .restored then pure checkpoint else _) world
  by_cases isRestored : checkpoint.phase = .restored
  · rw [if_pos isRestored]
    refine ⟨⟨record, guarded, .inl rfl, ?_⟩, nofun⟩
    rintro _ ⟨⟩
    exact phase
  · rw [if_neg isRestored]
    refine Yields.bind ((AllocationGuardController.restore_yields behaviour checkpoint trigger
      world).mono ?_)
    rintro _ after ⟨database, result, rfl, cleaned⟩
    have cases := cleanup_cases result
    have allowed : Allowed record.phase result.checkpoint.phase := by
      rw [← phase]
      apply allowed_cleanup isRestored
      rcases cases with ⟨_, later⟩ | ⟨_, later⟩
      · exact .inl later
      · exact .inr later
    refine (persist_yields guarded database valid sameCapture cleaned.same allowed ?_ ?_).mono ?_
    · intro isActive
      rcases cases with ⟨_, later⟩ | ⟨_, later⟩ <;> rw [later] at isActive <;> cases isActive
    · intro becomesRestored
      rcases cases with ⟨status, _⟩ | ⟨_, later⟩
      · rw [cleaned.restored status, sameCapture]
      · rw [later] at becomesRestored
        cases becomesRestored
    · rintro _ _ ⟨rfl, next, nextGuarded, nextAllowed, nextPhase⟩
      refine ⟨⟨next, nextGuarded, nextAllowed, ?_⟩, nofun⟩
      rintro _ ⟨⟩
      exact nextPhase

/-- `activate` on a guard. -/
theorem activate_kept {world : GuardWorld}
    (guarded : Guarded planId clusterId captured record world) :
    Yields behaviour.answer (Kept planId clusterId captured record)
      (activate planId clusterId) world := by
  obtain ⟨checkpoint, valid, sameCapture⟩ := guarded.stored
  have phase := (checkpointOf_ok valid).2.2.2
  have unchanged : ∀ fault : Fault, fault.kind ≠ .allocationGuardConflict →
      Kept planId clusterId captured record (.raised fault) world := by
    intro fault other
    refine ⟨⟨record, guarded, .inl rfl, nofun⟩, ?_⟩
    rintro _ ⟨⟩
    exact other
  have owned := ownedActiveRecord_run guarded.found
  by_cases unrestored : record.phase ≠ .restored
  · rw [if_pos unrestored] at owned
    refine Yields.bind (table_yields owned ?_)
    show Yields behaviour.answer _ (ofExcept (checkpointOf record) >>= _) world
    rw [valid]
    show Yields behaviour.answer _ (if checkpoint.phase = .active then pure checkpoint else _) world
    by_cases isActive : checkpoint.phase = .active
    · rw [if_pos isActive]
      refine ⟨⟨record, guarded, .inl rfl, ?_⟩, nofun⟩
      rintro _ ⟨⟩
      exact phase
    · rw [if_neg isActive]
      cases isCaptured : decide (checkpoint.phase = .captured) with
      | false => exact unchanged _ nofun
      | true =>
          have recordCaptured : record.phase = .captured := by
            rw [← phase]
            exact of_decide_eq_true isCaptured
          show Yields behaviour.answer _ (attempt (AllocationGuardController.activate checkpoint)
            >>= activateEnd record checkpoint) world
          refine Yields.bind (Yields.attempt ((AllocationGuardController.activate_yields behaviour
            checkpoint world).mono ?_))
          rintro _ after ⟨database, ⟨fault, rfl, other⟩ | ⟨result, rfl, applied⟩⟩
          · have same : AllocationGuardController.SameGuard checkpoint
                { checkpoint with phase := .recoveryRequired } := ⟨rfl, rfl, rfl⟩
            refine Yields.bind ((persist_yields guarded database valid sameCapture same ?_ nofun
              nofun).mono ?_)
            · exact allowed_cleanup unrestored (.inr rfl)
            · rintro _ _ ⟨rfl, next, nextGuarded, nextAllowed, nextPhase⟩
              refine ⟨⟨next, nextGuarded, nextAllowed, nofun⟩, ?_⟩
              rintro _ ⟨⟩
              exact other
          · refine (persist_yields guarded database valid sameCapture applied.same ?_ ?_ ?_).mono ?_
            · rw [recordCaptured, applied.phase]
              cases result.status <;> exact .inr (by decide)
            · intro becomesActive
              apply applied.active
              rw [applied.phase] at becomesActive
              cases status : result.status <;> simp [status] at becomesActive ⊢
            · intro becomesRestored
              rw [← sameCapture]
              apply applied.failed
              rw [applied.phase] at becomesRestored
              cases status : result.status <;> simp [status] at becomesRestored ⊢
            · rintro _ _ ⟨rfl, next, nextGuarded, nextAllowed, nextPhase⟩
              refine ⟨⟨next, nextGuarded, nextAllowed, ?_⟩, nofun⟩
              rintro _ ⟨⟩
              exact nextPhase
  · rw [if_neg unrestored] at owned
    exact Yields.bind (table_yields owned (unchanged _ nofun))

/-- The new guard of a plan that had none. -/
theorem guarded_of_created {world : GuardWorld}
    (issued : ∀ guard ∈ world.database.allocationGuards,
      guard.id ≤ world.database.allocationGuardCounter)
    {checkpoint : AllocationGuardCheckpoint} (isCaptured : checkpoint.phase = .captured)
    (wellFormed : AllocationGuardCheckpoint.planIdMatches checkpoint.planId ∧
      1 ≤ checkpoint.clusterId) :
    Guarded checkpoint.planId checkpoint.clusterId checkpoint.captured
      (newGuard checkpoint (world.database.allocationGuardCounter + 1))
      { world with
        database := world.database.addAllocationGuard
          (newGuard checkpoint (world.database.allocationGuardCounter + 1)) } where
  found := by simp [Database.findAllocationGuard, Database.addAllocationGuard, newGuard]
  keyed := by
    have others : world.database.allocationGuards.find?
        (·.id = world.database.allocationGuardCounter + 1) = none := by
      rw [List.find?_eq_none]
      intro guard member
      have bound := issued guard member
      simp
      omega
    refine (List.find?_append ..).trans ?_
    refine (congrArg (Option.or · _) others).trans ?_
    simp [newGuard]
  stored := ⟨checkpoint, checkpointOf_moved wellFormed rfl rfl isCaptured rfl, rfl⟩
  active := nofun
  restored := nofun

/-- `capture` of a plan without a guard on the cluster. -/
theorem capture_guarded (behaviour : SettingsBehaviour) {world : GuardWorld}
    (issued : ∀ guard ∈ world.database.allocationGuards,
      guard.id ≤ world.database.allocationGuardCounter)
    (fresh : world.database.findAllocationGuard clusterId planId = none) :
    Yields behaviour.answer (fun outcome after =>
      ∀ checkpoint, outcome = .returned checkpoint →
        checkpoint.captured = world.server.setting ∧
          ∃ record, Guarded planId clusterId world.server.setting record after)
      (capture planId clusterId) world := by
  have ran := existing_run fresh
  by_cases free : (world.database.findActiveAllocationGuard clusterId).isNone
  · rw [if_pos free] at ran
    refine Yields.bind (table_yields ran ?_)
    refine Yields.bind ((AllocationGuardController.capture_yields behaviour planId clusterId
      world).mono ?_)
    rintro outcome middle ⟨database, setting, answered⟩
    cases outcome with
    | raised fault => exact nofun
    | stopped => exact nofun
    | returned checkpoint =>
        obtain ⟨wellFormed, rfl⟩ := answered checkpoint rfl
        show Yields behaviour.answer _ (table (create planId clusterId ⟨planId, clusterId,
          .captured, world.server.setting, some world.server.setting⟩) >>= fun _ => pure _) middle
        rw [← database] at issued fresh
        rcases create_cases fresh with ⟨created, _⟩ | ⟨fault, created⟩
        · refine Yields.bind (table_yields created ?_)
          rintro _ ⟨⟩
          let checkpoint : AllocationGuardCheckpoint :=
            ⟨planId, clusterId, .captured, world.server.setting, some world.server.setting⟩
          have isCaptured : checkpoint.phase = .captured := rfl
          exact ⟨rfl, _, guarded_of_created issued isCaptured wellFormed⟩
        · exact Yields.bind (table_yields created nofun)
  · rw [if_neg free] at ran
    exact Yields.bind (table_yields ran nofun)

/-! ### Round trip -/

/-- A call on a captured guard. -/
inductive GuardCommand where
  | activate
  | restore (trigger : AllocationCleanupTrigger)

namespace GuardCommand

def call (planId : String) (clusterId : Nat) :
    GuardCommand → GuardCall GuardWorld AllocationGuardCheckpoint
  | activate => GuardService.activate planId clusterId
  | restore trigger => GuardService.restore planId clusterId trigger

/-- A call with nothing in between. -/
def run (behaviour : SettingsBehaviour) (planId : String) (clusterId : Nat)
    (command : GuardCommand) (world : GuardWorld) :
    Outcome Fault AllocationGuardCheckpoint × GuardWorld :=
  (alone behaviour.answer (command.call planId clusterId)).run world

/-- One call after the other, whatever their outcomes. -/
def runAll (behaviour : SettingsBehaviour) (planId : String) (clusterId : Nat)
    (commands : List GuardCommand) (world : GuardWorld) : GuardWorld :=
  commands.foldl (fun reached command => (run behaviour planId clusterId command reached).2) world

end GuardCommand

theorem command_kept (behaviour : SettingsBehaviour) {world : GuardWorld} (command : GuardCommand)
    (guarded : Guarded planId clusterId captured record world) :
    Kept planId clusterId captured record (command.run behaviour planId clusterId world).1
      (command.run behaviour planId clusterId world).2 := by
  apply (yields_iff behaviour.answer _ _ _).mp
  cases command with
  | activate => exact activate_kept guarded
  | restore trigger => exact restore_kept trigger guarded

/-- The guard outlasts any number of calls. -/
theorem runAll_guarded (behaviour : SettingsBehaviour) (commands : List GuardCommand)
    {world : GuardWorld}
    (guarded : Guarded planId clusterId captured record world) :
    ∃ later, Guarded planId clusterId captured later
      (GuardCommand.runAll behaviour planId clusterId commands world) := by
  induction commands generalizing world record with
  | nil => exact ⟨record, guarded⟩
  | cons command commands ih =>
      obtain ⟨later, laterGuarded, _⟩ :=
        (command_kept behaviour command guarded).guarded
      exact ih laterGuarded

/-- What a call promises about the settings and the guard row. -/
structure RoundTrip (behaviour : SettingsBehaviour) (planId : String) (clusterId : Nat)
    (captured : AllocationSetting) (command : GuardCommand) (before : GuardWorld) : Prop where
  /-- The controller's results. -/
  activated : ∀ checkpoint result after,
    (alone behaviour.answer (AllocationGuardController.activate checkpoint)).run before =
      (.returned result, after) →
    (result.status = .active → after.server.setting.effective = "primaries") ∧
      (result.status = .failed → after.server.setting = checkpoint.captured)
  cleaned : ∀ checkpoint trigger result after,
    (alone behaviour.answer (AllocationGuardController.restore checkpoint trigger)).run before =
      (.returned result, after) →
    result.status = .restored → after.server.setting = checkpoint.captured
  /-- The service's answer. -/
  answered : ∀ checkpoint, (command.run behaviour planId clusterId before).1 =
      .returned checkpoint →
    (checkpoint.phase = .active →
      (command.run behaviour planId clusterId before).2.server.setting.effective =
        "primaries") ∧
      (checkpoint.phase = .restored →
        (command.run behaviour planId clusterId before).2.server.setting = captured)
  /-- The row of the guard. -/
  legal : ∃ record later, before.database.findAllocationGuard clusterId planId = some record ∧
    (command.run behaviour planId clusterId before).2.database.findAllocationGuard clusterId
      planId = some later ∧ Allowed record.phase later.phase
  accepted : ∀ fault, (command.run behaviour planId clusterId before).1 = .raised fault →
    fault.kind ≠ .allocationGuardConflict

theorem roundTrip_of_guarded {world : GuardWorld} (command : GuardCommand)
    (guarded : Guarded planId clusterId captured record world) :
    RoundTrip behaviour planId clusterId captured command world where
  activated := by
    intro checkpoint result after ran
    have yields := (yields_iff behaviour.answer _ _ _).mp
      (AllocationGuardController.activate_yields behaviour checkpoint world)
    rw [ran] at yields
    obtain ⟨_, ⟨_, isRaised, _⟩ | ⟨_, isReturned, applied⟩⟩ := yields
    · cases isRaised
    · cases isReturned
      exact ⟨applied.active, applied.failed⟩
  cleaned := by
    intro checkpoint trigger result after ran
    have yields := (yields_iff behaviour.answer _ _ _).mp
      (AllocationGuardController.restore_yields behaviour checkpoint trigger world)
    rw [ran] at yields
    obtain ⟨_, _, isReturned, cleaned⟩ := yields
    cases isReturned
    exact cleaned.restored
  answered := by
    intro checkpoint returned
    obtain ⟨later, laterGuarded, _, samePhase⟩ :=
      (command_kept behaviour command guarded).guarded
    rw [samePhase checkpoint returned]
    exact ⟨laterGuarded.active, laterGuarded.restored⟩
  legal := by
    obtain ⟨later, laterGuarded, allowed, _⟩ :=
      (command_kept behaviour command guarded).guarded
    exact ⟨record, later, guarded.found, laterGuarded.found, allowed⟩
  accepted := (command_kept behaviour command guarded).accepted

/-- A capture followed by any calls on the guard: what each of them says about the remote layers
is true, and each changes the phase as the trigger allows. -/
theorem guard_round_trip (behaviour : SettingsBehaviour) (planId : String) (clusterId : Nat)
    (world : GuardWorld)
    (issued : ∀ guard ∈ world.database.allocationGuards,
      guard.id ≤ world.database.allocationGuardCounter)
    (fresh : world.database.findAllocationGuard clusterId planId = none)
    {checkpoint : AllocationGuardCheckpoint} {first : GuardWorld}
    (ran : (alone behaviour.answer (capture planId clusterId)).run world =
      (.returned checkpoint, first))
    (earlier : List GuardCommand) (command : GuardCommand) :
    checkpoint.captured = world.server.setting ∧
      RoundTrip behaviour planId clusterId checkpoint.captured command
        (GuardCommand.runAll behaviour planId clusterId earlier first) := by
  have yields := (yields_iff behaviour.answer _ _ _).mp
    (capture_guarded behaviour issued fresh)
  rw [ran] at yields
  obtain ⟨sameCapture, record, guarded⟩ := yields checkpoint rfl
  rw [sameCapture]
  obtain ⟨later, laterGuarded⟩ := runAll_guarded behaviour earlier guarded
  exact ⟨rfl, roundTrip_of_guarded command laterGuarded⟩

end GuardService

open Coroutine

namespace GuardSample

/-- A layer under the flat name of the setting. -/
def flatLayer (value : SettingLayerValue) : Dict :=
  (value.map fun text => (allocationEnableSetting, Json.str text)).toList

/-- A layer of nested objects. -/
def nestedLayer (value : SettingLayerValue) : Dict :=
  (value.map fun text => ("cluster", Json.obj [("routing", .obj [("allocation",
    .obj [("enable", .str text)])])])).toList

def flat : SettingsReport where
  encode setting := [("persistent", .obj (flatLayer setting.persistent)),
    ("transient", .obj (flatLayer setting.transient))]
  persistent setting := by
    rcases setting with ⟨_ | value, transient⟩
    · exact .absent rfl
    · exact .value rfl
  transient setting := by
    rcases setting with ⟨persistent, _ | value⟩
    · exact .absent rfl
    · exact .value rfl

def nested : SettingsReport where
  encode setting := [("persistent", .obj (nestedLayer setting.persistent)),
    ("transient", .obj (nestedLayer setting.transient))]
  persistent setting := by
    rcases setting with ⟨_ | value, transient⟩
    · exact .absent rfl
    · exact .value rfl
  transient setting := by
    rcases setting with ⟨persistent, _ | value⟩
    · exact .absent rfl
    · exact .value rfl

/-- The write of the activation fails after it took effect, and so does the cleanup. -/
def behaviour : SettingsBehaviour where
  fate number := if number = 1 ∨ number = 2 then .failedAfter .timeout else .answered
  report number := if number = 0 then flat else nested

def planId : String :=
  "0123456789abcdef0123456789abcdef"

def plan : PlanRecord where
  id := planId
  runId := none
  operationKind := .workloadRestart
  targetNodeId := none
  targetClusterId := some 1
  targetAssignmentId := none
  observationMaxAgeSeconds := 120
  observation := ⟨none, none, []⟩
  planHash := "hash"
  targetManifest := ⟨none, [], [], [], none⟩
  lifecycleState := .executing
  stateRevision := 1
  expiresAt := 0

def world : GuardWorld where
  database := { Database.empty with plans := [plan], clusters := [⟨1, "logs", "logs", false⟩] }
  server := ⟨⟨some "all", none⟩, 0⟩

end GuardSample

theorem guard_round_trip_sample :
    ∃ checkpoint first,
      (alone GuardSample.behaviour.answer (GuardService.capture GuardSample.planId 1)).run
        GuardSample.world = (.returned checkpoint, first) ∧
      checkpoint.captured = GuardSample.world.server.setting ∧
        GuardService.RoundTrip GuardSample.behaviour GuardSample.planId 1 checkpoint.captured
          (.restore .success) (GuardService.GuardCommand.runAll GuardSample.behaviour
            GuardSample.planId 1 [.activate] first) := by
  have returned : ∃ checkpoint, ((alone GuardSample.behaviour.answer
      (GuardService.capture GuardSample.planId 1)).run GuardSample.world).1 =
        .returned checkpoint :=
    ⟨⟨GuardSample.planId, 1, .captured, ⟨some "all", none⟩, some ⟨some "all", none⟩⟩,
      by decide +kernel⟩
  obtain ⟨checkpoint, returned⟩ := returned
  have ran : (alone GuardSample.behaviour.answer (GuardService.capture GuardSample.planId 1)).run
      GuardSample.world = (.returned checkpoint, ((alone GuardSample.behaviour.answer
        (GuardService.capture GuardSample.planId 1)).run GuardSample.world).2) :=
    Prod.ext returned rfl
  exact ⟨checkpoint, _, ran, GuardService.guard_round_trip GuardSample.behaviour
    GuardSample.planId 1 GuardSample.world nofun (by decide +kernel) ran [.activate]
    (.restore .success)⟩

end ElKeeper
