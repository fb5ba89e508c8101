import ElKeeper.AllocationSettings

/-!
# Durable ownership of allocation guards

`AllocationGuardService` keeps a row for the guard of a plan on a cluster around
the remote calls of the controller.  Its calls work on the guard table and the
settings of the cluster; another call may work in between only while a settings
request is under way.
-/

namespace ElKeeper

/-- The tables and the settings of one cluster. -/
structure GuardWorld where
  database : Database
  server : SettingsServer

/-- The cluster answers a request. -/
def SettingsBehaviour.answer (behaviour : SettingsBehaviour) (request : SettingsRequest)
    (world : GuardWorld) : SettingsReply × GuardWorld :=
  ((behaviour.serve request world.server).1,
    { world with server := (behaviour.serve request world.server).2 })

namespace GuardService

open Coroutine

/-- A repository call. -/
def table {β : Type} (operation : Operation β) : GuardCall GuardWorld β :=
  perform ⟨fun world =>
    ((operation.run world.database).1,
      { world with database := (operation.run world.database).2 })⟩

/-- `_checkpoint`. -/
def checkpointOf (record : AllocationGuardRecord) : Except Fault AllocationGuardCheckpoint :=
  match AllocationGuardCheckpoint.validate record.checkpoint with
  | .error fault => .error fault
  | .ok checkpoint =>
      if checkpoint.planId ≠ record.ownerPlanId ∨ checkpoint.clusterId ≠ record.clusterId then
        .error ⟨.valueError, "Persisted allocation guard checkpoint identity is invalid"⟩
      else if checkpoint.phase ≠ record.phase then
        .error ⟨.valueError, "Persisted allocation guard phase is inconsistent"⟩
      else .ok checkpoint

/-- `get_allocation_guard`. -/
def getAllocationGuard (guardId : Nat) : Operation AllocationGuardRecord := do
  match ← Program.read fun database => database.allocationGuards.find? (·.id = guardId) with
  | some record => pure record
  | none => Program.raise ⟨.recordNotFound,
      "Maintenance allocation guard " ++ toString guardId ++ " was not found"⟩

/-- The repository refuses a checkpoint of another plan or cluster. -/
def requireIdentity (checkpoint : AllocationGuardCheckpoint) (planId : String)
    (clusterId : Nat) : Operation Unit :=
  Program.require (checkpoint.planId = planId && checkpoint.clusterId = clusterId)
    ⟨.valueError, "Allocation guard checkpoint identity does not match its owner"⟩

/-- The writes of `_persist`. -/
def transition (record : AllocationGuardRecord) (checkpoint : AllocationGuardCheckpoint) :
    Operation AllocationGuardRecord := do
  requireIdentity checkpoint record.ownerPlanId record.clusterId
  MaintenanceStore.transitionAllocationGuard record checkpoint.phase checkpoint.toJson
  getAllocationGuard record.id

/-- `_persist`. -/
def persist (record : AllocationGuardRecord) (checkpoint : AllocationGuardCheckpoint) :
    GuardCall GuardWorld AllocationGuardCheckpoint := do
  let persisted ← table (transition record checkpoint)
  ofExcept (checkpointOf persisted)

/-- The record that a new guard of the plan is made from. -/
def create (planId : String) (clusterId : Nat) (checkpoint : AllocationGuardCheckpoint) :
    Operation Unit := do
  requireIdentity checkpoint planId clusterId
  MaintenanceStore.createAllocationGuard clusterId planId checkpoint.toJson

/-- `_owned_record`. -/
def ownedRecord (planId : String) (clusterId : Nat) : Operation AllocationGuardRecord := do
  match ← Program.read fun database => database.findAllocationGuard clusterId planId with
  | some record => pure record
  | none => do
      let active ← Program.read fun database => database.findActiveAllocationGuard clusterId
      if active.isSome then
        Program.raise ⟨.allocationGuardOwnership,
          "Cluster allocation guard is owned by another maintenance plan"⟩
      else
        Program.raise ⟨.recordNotFound, "Maintenance allocation guard was not found"⟩

/-- `_owned_active_record`. -/
def ownedActiveRecord (planId : String) (clusterId : Nat) :
    Operation AllocationGuardRecord := do
  let record ← ownedRecord planId clusterId
  Program.require (record.phase ≠ .restored)
    ⟨.allocationGuardOwnership, "Allocation guard has already been restored"⟩
  pure record

/-- What `capture` finds before it asks the cluster. -/
def existing (planId : String) (clusterId : Nat) :
    Operation (Option AllocationGuardCheckpoint) := do
  match ← Program.read fun database => database.findAllocationGuard clusterId planId with
  | some current => do
      Program.require (current.phase ≠ .restored)
        ⟨.allocationGuardConflict, "Allocation guard has already been restored for this plan"⟩
      let checkpoint ← Program.ofExcept (checkpointOf current)
      pure (some checkpoint)
  | none => do
      let active ← Program.read fun database => database.findActiveAllocationGuard clusterId
      Program.require active.isNone ⟨.allocationGuardConflict,
        "Cluster allocation guard is owned by another maintenance plan"⟩
      pure none

/-- `capture`. -/
def capture (planId : String) (clusterId : Nat) :
    GuardCall GuardWorld AllocationGuardCheckpoint := do
  match ← table (existing planId clusterId) with
  | some checkpoint => pure checkpoint
  | none => do
      let checkpoint ← AllocationGuardController.capture planId clusterId
      require (checkpoint.phase = .captured)
        ⟨.valueError, "Allocation guard capture did not return a captured checkpoint"⟩
      table (create planId clusterId checkpoint)
      pure checkpoint

/-- What `activate` makes of the controller's answer. -/
def activateEnd (record : AllocationGuardRecord) (checkpoint : AllocationGuardCheckpoint) :
    Except Fault AllocationGuardApplyResult → GuardCall GuardWorld AllocationGuardCheckpoint
  | .ok result => persist record result.checkpoint
  | .error fault => do
      let _ ← persist record { checkpoint with phase := .recoveryRequired }
      raise fault

/-- `activate`. -/
def activate (planId : String) (clusterId : Nat) :
    GuardCall GuardWorld AllocationGuardCheckpoint := do
  let record ← table (ownedActiveRecord planId clusterId)
  let checkpoint ← ofExcept (checkpointOf record)
  if checkpoint.phase = .active then pure checkpoint
  else do
    require (checkpoint.phase = .captured) ⟨.allocationGuardOwnership,
      "Allocation guard cannot be activated in its current phase"⟩
    let answer ← attempt (AllocationGuardController.activate checkpoint)
    activateEnd record checkpoint answer

/-- `restore`. -/
def restore (planId : String) (clusterId : Nat) (trigger : AllocationCleanupTrigger) :
    GuardCall GuardWorld AllocationGuardCheckpoint := do
  let record ← table (ownedRecord planId clusterId)
  let checkpoint ← ofExcept (checkpointOf record)
  if checkpoint.phase = .restored then pure checkpoint
  else do
    let result ← AllocationGuardController.restore checkpoint trigger
    persist record result.checkpoint

end GuardService

/-- An answer reports the settings after the request; a failure leaves open whether it took
effect. -/
theorem AllocationGuardController.answer_cases (behaviour : SettingsBehaviour)
    (request : SettingsRequest) (world : GuardWorld) :
    ((behaviour.answer request world).2.database = world.database) ∧
      ((∃ answer, (behaviour.answer request world).1 = .ok answer ∧
          (behaviour.answer request world).2.server.setting =
            world.server.setting.apply request ∧
          AllocationSetting.ofResponse answer = .ok (world.server.setting.apply request)) ∨
        ∃ category, (behaviour.answer request world).1 = .error category ∧
          ((behaviour.answer request world).2.server.setting = world.server.setting ∨
            (behaviour.answer request world).2.server.setting =
              world.server.setting.apply request)) := by
  refine ⟨rfl, ?_⟩
  simp only [SettingsBehaviour.answer, SettingsBehaviour.serve]
  cases behaviour.fate world.server.requests with
  | answered =>
      left
      exact ⟨_, rfl, rfl, (behaviour.report world.server.requests).ofResponse _⟩
  | failedBefore category => exact .inr ⟨category, rfl, .inl rfl⟩
  | failedAfter category => exact .inr ⟨category, rfl, .inr rfl⟩

/-- The later checkpoint is of the same guard. -/
structure AllocationGuardController.SameGuard (checkpoint later : AllocationGuardCheckpoint) : Prop where
  planId : later.planId = checkpoint.planId
  clusterId : later.clusterId = checkpoint.clusterId
  captured : later.captured = checkpoint.captured

/-! ### The guard table -/

namespace Database

/-- The row of a guard after a transition. -/
def movedGuard (phase : AllocationGuardPhase) (checkpoint : Json)
    (record : AllocationGuardRecord) : AllocationGuardRecord :=
  { record with
    phase := phase
    checkpoint := checkpoint
    stateRevision := record.stateRevision + 1 }

theorem find?_setAllocationGuard {database : Database} {record : AllocationGuardRecord}
    (keyed : database.allocationGuards.find? (·.id = record.id) = some record)
    (phase : AllocationGuardPhase) (checkpoint : Json) :
    (database.setAllocationGuard record.id phase checkpoint).allocationGuards.find?
        (·.id = record.id) = some (movedGuard phase checkpoint record) := by
  simp only [setAllocationGuard, List.find?_map]
  have same : ((fun guard : AllocationGuardRecord => decide (guard.id = record.id)) ∘
      fun guard => if guard.id = record.id then
        { guard with phase := phase, checkpoint := checkpoint,
                     stateRevision := guard.stateRevision + 1 } else guard) =
      fun guard => decide (guard.id = record.id) := by
    funext guard
    simp only [Function.comp_apply]
    split <;> rfl
  rw [same, keyed]
  simp [movedGuard]

theorem findAllocationGuard_setAllocationGuard {database : Database} {clusterId : Nat}
    {planId : String} {record : AllocationGuardRecord}
    (found : database.findAllocationGuard clusterId planId = some record)
    (phase : AllocationGuardPhase) (checkpoint : Json) :
    (database.setAllocationGuard record.id phase checkpoint).findAllocationGuard clusterId
        planId = some (movedGuard phase checkpoint record) := by
  simp only [findAllocationGuard, setAllocationGuard, List.filter_map] at found ⊢
  have same : ((fun guard : AllocationGuardRecord =>
        decide (guard.clusterId = clusterId) && decide (guard.ownerPlanId = planId)) ∘
      fun guard => if guard.id = record.id then
        { guard with phase := phase, checkpoint := checkpoint,
                     stateRevision := guard.stateRevision + 1 } else guard) =
      fun guard => decide (guard.clusterId = clusterId) &&
        decide (guard.ownerPlanId = planId) := by
    funext guard
    simp only [Function.comp_apply]
    split <;> rfl
  rw [same, List.getLast?_map, found]
  simp [movedGuard]

end Database

namespace GuardService

open Coroutine

/-- A stored checkpoint that passed is well formed and of its record. -/
theorem checkpointOf_ok {record : AllocationGuardRecord} {checkpoint : AllocationGuardCheckpoint}
    (valid : checkpointOf record = .ok checkpoint) :
    (AllocationGuardCheckpoint.planIdMatches checkpoint.planId ∧ 1 ≤ checkpoint.clusterId) ∧
      checkpoint.planId = record.ownerPlanId ∧ checkpoint.clusterId = record.clusterId ∧
      checkpoint.phase = record.phase := by
  simp only [checkpointOf] at valid
  split at valid
  · cases valid
  next validated isValid =>
    split at valid
    · cases valid
    next identity =>
      split at valid
      · cases valid
      next samePhase =>
        cases valid
        push Not at identity samePhase
        refine ⟨?_, identity.1, identity.2, samePhase⟩
        simp only [AllocationGuardCheckpoint.validate] at isValid
        split at isValid
        · split at isValid
          next wellFormed =>
            cases isValid
            exact wellFormed
          · cases isValid
        · cases isValid

/-- A checkpoint that was just stored passes. -/
theorem checkpointOf_moved {record : AllocationGuardRecord}
    {checkpoint : AllocationGuardCheckpoint}
    (wellFormed : AllocationGuardCheckpoint.planIdMatches checkpoint.planId ∧
      1 ≤ checkpoint.clusterId)
    (owner : checkpoint.planId = record.ownerPlanId)
    (cluster : checkpoint.clusterId = record.clusterId)
    (phase : checkpoint.phase = record.phase)
    (stored : record.checkpoint = checkpoint.toJson.persisted) :
    checkpointOf record = .ok checkpoint := by
  have validated : AllocationGuardCheckpoint.validate record.checkpoint = .ok checkpoint := by
    simp only [AllocationGuardCheckpoint.validate, stored,
      AllocationGuardCheckpoint.ofJson?_persisted]
    exact if_pos wellFormed
  simp [checkpointOf, validated, owner, cluster, phase]

theorem transitionAllocationGuard_run {database : Database} {record : AllocationGuardRecord}
    (keyed : database.allocationGuards.find? (·.id = record.id) = some record)
    {phase : AllocationGuardPhase} (checkpoint : Json)
    (legal : record.phase = phase ∨ phase ∈ record.phase.transitions) :
    (MaintenanceStore.transitionAllocationGuard record phase checkpoint).run database =
      (.returned (), database.setAllocationGuard record.id phase checkpoint.persisted) := by
  have decided : (decide (record.phase = phase) ||
      decide (phase ∈ record.phase.transitions)) = true := by
    simpa using legal
  rw [MaintenanceStore.transitionAllocationGuard, Program.run_bind, Program.run_read]
  dsimp only
  rw [keyed]
  simp only [Program.run_bind, Program.run_require, decide_true, decided, if_true,
    Program.run_update]

theorem getAllocationGuard_run {database : Database} {guardId : Nat}
    {record : AllocationGuardRecord}
    (keyed : database.allocationGuards.find? (·.id = guardId) = some record) :
    (getAllocationGuard guardId).run database = (.returned record, database) := by
  rw [getAllocationGuard, Program.run_bind, Program.run_read]
  dsimp only
  rw [keyed]
  rfl

/-- A legal transition of the row that was read. -/
theorem transition_run {database : Database} {record : AllocationGuardRecord}
    (keyed : database.allocationGuards.find? (·.id = record.id) = some record)
    {checkpoint : AllocationGuardCheckpoint} (owner : checkpoint.planId = record.ownerPlanId)
    (cluster : checkpoint.clusterId = record.clusterId)
    (legal : record.phase = checkpoint.phase ∨ checkpoint.phase ∈ record.phase.transitions) :
    (transition record checkpoint).run database =
      (.returned (Database.movedGuard checkpoint.phase checkpoint.toJson.persisted record),
        database.setAllocationGuard record.id checkpoint.phase checkpoint.toJson.persisted) := by
  have moved := Database.find?_setAllocationGuard keyed checkpoint.phase
    checkpoint.toJson.persisted
  have written := transitionAllocationGuard_run keyed checkpoint.toJson legal
  have identity : (decide (checkpoint.planId = record.ownerPlanId) &&
      decide (checkpoint.clusterId = record.clusterId)) = true := by
    simp [owner, cluster]
  rw [transition, Program.run_bind, requireIdentity, Program.run_require, if_pos identity]
  dsimp only
  rw [Program.run_bind, written]
  exact getAllocationGuard_run moved

/-- A phase that the trigger lets a guard have next. -/
def Allowed (phase later : AllocationGuardPhase) : Prop :=
  phase = later ∨ later ∈ phase.transitions

/-- The phase of a cleanup follows its status. -/
theorem cleanup_cases (result : AllocationGuardCleanupResult) :
    (result.status = .restored ∧ result.checkpoint.phase = .restored) ∨
      (result.status = .recoveryRequired ∧ result.checkpoint.phase = .recoveryRequired) := by
  cases status : result.status with
  | restored => exact .inl ⟨rfl, (result.restored_verified status).2⟩
  | recoveryRequired => exact .inr ⟨rfl, result.recovery_phase status⟩

/-- An unrestored guard may be restored or be left for recovery. -/
theorem allowed_cleanup {phase later : AllocationGuardPhase} (unrestored : phase ≠ .restored)
    (cleanup : later = .restored ∨ later = .recoveryRequired) : Allowed phase later := by
  rcases cleanup with rfl | rfl
  · cases phase with
    | restored => exact absurd rfl unrestored
    | _ => exact .inr (by decide)
  · cases phase with
    | restored => exact absurd rfl unrestored
    | recoveryRequired => exact .inl rfl
    | _ => exact .inr (by decide)

variable {planId : String} {clusterId : Nat} {record : AllocationGuardRecord}

theorem ownedRecord_run {database : Database}
    (found : database.findAllocationGuard clusterId planId = some record) :
    (ownedRecord planId clusterId).run database = (.returned record, database) := by
  rw [ownedRecord, Program.run_bind, Program.run_read]
  dsimp only
  rw [found]
  rfl

theorem ownedActiveRecord_run {database : Database}
    (found : database.findAllocationGuard clusterId planId = some record) :
    (ownedActiveRecord planId clusterId).run database =
      if record.phase ≠ .restored then (.returned record, database)
      else (.raised ⟨.allocationGuardOwnership, "Allocation guard has already been restored"⟩,
        database) := by
  rw [ownedActiveRecord, Program.run_bind, ownedRecord_run found]
  by_cases unrestored : record.phase ≠ .restored
  · simp [Program.run_bind, Program.run_require, unrestored]
  · simp [Program.run_bind, Program.run_require, unrestored]

/-- The row of a new guard. -/
def newGuard (checkpoint : AllocationGuardCheckpoint) (identifier : Nat) :
    AllocationGuardRecord where
  id := identifier
  clusterId := checkpoint.clusterId
  ownerPlanId := checkpoint.planId
  phase := .captured
  checkpoint := checkpoint.toJson.persisted
  stateRevision := 1

/-- A plan without a guard on the cluster gets one, or nothing is written. -/
theorem create_cases {database : Database} {checkpoint : AllocationGuardCheckpoint}
    (fresh : database.findAllocationGuard clusterId planId = none) :
    ((create planId clusterId checkpoint).run database =
        (.returned (), database.addAllocationGuard
          (newGuard checkpoint (database.allocationGuardCounter + 1))) ∧
      database.findActiveAllocationGuard clusterId = none ∧
      checkpoint.planId = planId ∧ checkpoint.clusterId = clusterId) ∨
    ∃ fault, (create planId clusterId checkpoint).run database = (.raised fault, database) := by
  rw [create, Program.run_bind, requireIdentity, Program.run_require]
  by_cases identity : checkpoint.planId = planId ∧ checkpoint.clusterId = clusterId
  · obtain ⟨rfl, rfl⟩ := identity
    rw [if_pos (by simp)]
    dsimp only
    rw [MaintenanceStore.createAllocationGuard, Program.run_bind, Program.run_read]
    dsimp only
    rw [fresh]
    dsimp only
    rw [Program.run_bind, Program.run_read]
    dsimp only
    rw [Program.run_bind, Program.run_require]
    by_cases free : (database.findActiveAllocationGuard checkpoint.clusterId).isNone
    · rw [if_pos free]
      dsimp only
      rw [Program.run_bind, Program.run_read]
      dsimp only
      rw [Program.run_bind, Program.run_require]
      by_cases known : ((database.plan? checkpoint.planId).isSome &&
          (database.cluster? checkpoint.clusterId).isSome) = true
      · rw [if_pos known]
        exact .inl ⟨rfl, by simpa using free, rfl, rfl⟩
      · rw [if_neg known]
        exact .inr ⟨_, rfl⟩
    · rw [if_neg free]
      exact .inr ⟨_, rfl⟩
  · rw [if_neg (by simpa using identity)]
    exact .inr ⟨_, rfl⟩

/-- A plan without a guard on the cluster either may not have one or has none yet. -/
theorem existing_run {database : Database}
    (fresh : database.findAllocationGuard clusterId planId = none) :
    (existing planId clusterId).run database =
      if (database.findActiveAllocationGuard clusterId).isNone then (.returned none, database)
      else (.raised ⟨.allocationGuardConflict,
        "Cluster allocation guard is owned by another maintenance plan"⟩, database) := by
  rw [existing, Program.run_bind, Program.run_read]
  dsimp only
  rw [fresh]
  dsimp only
  rw [Program.run_bind, Program.run_read]
  dsimp only
  rw [Program.run_bind, Program.run_require]
  cases (database.findActiveAllocationGuard clusterId).isNone <;> rfl

end GuardService

end ElKeeper
