import ElKeeper.GuardRoundTrip

/-!
# Guards of several plans on one cluster

Any number of plans capture, activate and restore guards on one cluster; their
calls interleave at the settings requests.  A guard's owner alone moves its row
and, while the guard is not restored, alone writes the settings.
-/

namespace ElKeeper

namespace GuardService

open Coroutine AllocationGuardController

/-- A guard of the cluster that is captured, active or left for recovery. -/
def Unrestored (clusterId : Nat) (database : Database) (record : AllocationGuardRecord) : Prop :=
  record ∈ database.allocationGuards ∧ record.clusterId = clusterId ∧ record.phase ≠ .restored

/-- At most one guard of the cluster is unrestored. -/
def Exclusive (clusterId : Nat) (database : Database) : Prop :=
  ∀ record other, Unrestored clusterId database record → Unrestored clusterId database other →
    record = other

/-- The cluster has its first settings whenever all its guards are restored. -/
def Restores (clusterId : Nat) (baseline : AllocationSetting) (world : GuardWorld) : Prop :=
  (∀ record, ¬ Unrestored clusterId world.database record) → world.server.setting = baseline

/-- The keys of the guard table. -/
structure GuardKeys (database : Database) : Prop where
  issued : ∀ record ∈ database.allocationGuards, record.id ≤ database.allocationGuardCounter
  unique : (database.allocationGuards.map (·.id)).Nodup

/-- What holds between the steps of all calls. -/
structure Composed (clusterId : Nat) (baseline : AllocationSetting) (world : GuardWorld) :
    Prop where
  keys : GuardKeys world.database
  exclusive : Exclusive clusterId world.database
  captures : ∀ record ∈ world.database.allocationGuards, record.clusterId = clusterId →
    ∃ checkpoint, checkpointOf record = .ok checkpoint ∧ checkpoint.captured = baseline
  restores : Restores clusterId baseline world

/-- A step of a plan's call leaves the guards of others, and writes the settings only while its
own guard is unrestored. -/
def Changes (clusterId : Nat) (planId : String) (before after : GuardWorld) : Prop :=
  (∀ other, other ≠ planId → after.database.findAllocationGuard clusterId other =
      before.database.findAllocationGuard clusterId other) ∧
    (after.server.setting = before.server.setting ∨
      ∃ record, before.database.findAllocationGuard clusterId planId = some record ∧
        record.phase ≠ .restored)

variable {clusterId : Nat} {baseline : AllocationSetting} {world : GuardWorld}

/-- The rows after a transition. -/
theorem mem_setAllocationGuard {database : Database} (keys : GuardKeys database)
    {record : AllocationGuardRecord} (member : record ∈ database.allocationGuards)
    {phase : AllocationGuardPhase} {checkpoint : Json} {row : AllocationGuardRecord}
    (isRow : row ∈ (database.setAllocationGuard record.id phase checkpoint).allocationGuards) :
    row = Database.movedGuard phase checkpoint record ∨
      row ∈ database.allocationGuards ∧ row ≠ record := by
  simp only [Database.setAllocationGuard, List.mem_map] at isRow
  obtain ⟨old, isOld, rfl⟩ := isRow
  by_cases same : old.id = record.id
  · left
    rw [if_pos same, List.inj_on_of_nodup_map keys.unique isOld member same]
    rfl
  · right
    rw [if_neg same]
    exact ⟨isOld, fun isRecord => same (by rw [isRecord])⟩

theorem GuardKeys.setAllocationGuard {database : Database} (keys : GuardKeys database)
    (guardId : Nat) (phase : AllocationGuardPhase) (checkpoint : Json) :
    GuardKeys (database.setAllocationGuard guardId phase checkpoint) := by
  have ids : (database.setAllocationGuard guardId phase checkpoint).allocationGuards.map (·.id) =
      database.allocationGuards.map (·.id) := by
    simp only [Database.setAllocationGuard, List.map_map]
    apply List.map_congr_left
    intro guard _
    simp only [Function.comp_apply]
    split <;> rfl
  refine ⟨fun row isRow => ?_, ids ▸ keys.unique⟩
  have isId : row.id ∈ database.allocationGuards.map (·.id) := ids ▸ List.mem_map_of_mem isRow
  obtain ⟨old, isOld, same⟩ := List.mem_map.mp isId
  rw [← same]
  exact keys.issued old isOld

/-- The owner moves an unrestored guard, and calls it restored only when the settings are back. -/
theorem Composed.transition (holds : Composed clusterId baseline world)
    {record : AllocationGuardRecord} (unrestored : Unrestored clusterId world.database record)
    {later : AllocationGuardCheckpoint}
    (wellFormed : AllocationGuardCheckpoint.planIdMatches later.planId ∧ 1 ≤ later.clusterId)
    (owner : later.planId = record.ownerPlanId) (cluster : later.clusterId = record.clusterId)
    (sameCapture : later.captured = baseline)
    (restored : later.phase = .restored → world.server.setting = baseline) :
    Composed clusterId baseline { world with
      database := world.database.setAllocationGuard record.id later.phase
        later.toJson.persisted } where
  keys := holds.keys.setAllocationGuard _ _ _
  exclusive := by
    -- Every unrestored row is the moved one, since no other was unrestored before.
    have only : ∀ row, Unrestored clusterId (world.database.setAllocationGuard record.id
        later.phase later.toJson.persisted) row →
        row = Database.movedGuard later.phase later.toJson.persisted record := by
      rintro row ⟨isRow, ofCluster, rowUnrestored⟩
      rcases mem_setAllocationGuard holds.keys unrestored.1 isRow with isMoved | ⟨isOld, apart⟩
      · exact isMoved
      · exact absurd (holds.exclusive row record ⟨isOld, ofCluster, rowUnrestored⟩ unrestored)
          apart
    intro row other rowUnrestored otherUnrestored
    rw [only row rowUnrestored, only other otherUnrestored]
  captures := by
    intro row isRow ofCluster
    rcases mem_setAllocationGuard holds.keys unrestored.1 isRow with rfl | ⟨isOld, _⟩
    · exact ⟨later, checkpointOf_moved wellFormed owner cluster rfl rfl, sameCapture⟩
    · exact holds.captures row isOld ofCluster
  restores := by
    intro allRestored
    apply restored
    by_contra isUnrestored
    apply allRestored (Database.movedGuard later.phase later.toJson.persisted record)
    refine ⟨?_, unrestored.2.1, isUnrestored⟩
    simp only [Database.setAllocationGuard, List.mem_map]
    exact ⟨record, unrestored.1, by simp [Database.movedGuard]⟩

theorem findActiveAllocationGuard_none {database : Database}
    (free : database.findActiveAllocationGuard clusterId = none)
    (record : AllocationGuardRecord) : ¬ Unrestored clusterId database record := by
  rintro ⟨member, ofCluster, unrestored⟩
  simp only [Database.findActiveAllocationGuard, List.getLast?_eq_none_iff,
    List.filter_eq_nil_iff] at free
  have missed := free record member
  simp [ofCluster, unrestored] at missed

/-- A plan captures the first settings while all guards are restored. -/
theorem Composed.create (holds : Composed clusterId baseline world)
    {checkpoint : AllocationGuardCheckpoint} (isCaptured : checkpoint.phase = .captured)
    (wellFormed : AllocationGuardCheckpoint.planIdMatches checkpoint.planId ∧
      1 ≤ checkpoint.clusterId)
    (ofCluster : checkpoint.clusterId = clusterId) (sameCapture : checkpoint.captured = baseline)
    (free : world.database.findActiveAllocationGuard clusterId = none) :
    Composed clusterId baseline { world with
      database := world.database.addAllocationGuard
        (newGuard checkpoint (world.database.allocationGuardCounter + 1)) } where
  keys := by
    refine ⟨fun row isRow => ?_, ?_⟩
    · simp only [Database.addAllocationGuard, List.mem_append, List.mem_singleton] at isRow ⊢
      rcases isRow with isOld | rfl
      · exact Nat.le_succ_of_le (holds.keys.issued row isOld)
      · exact Nat.le_refl _
    · simp only [Database.addAllocationGuard, List.map_append, List.map_cons, List.map_nil]
      refine List.nodup_append.mpr ⟨holds.keys.unique, List.nodup_singleton _, ?_⟩
      intro identifier isOld other isNew same
      obtain ⟨row, isRow, rfl⟩ := List.mem_map.mp isOld
      have bound := holds.keys.issued row isRow
      simp only [List.mem_singleton] at isNew
      simp only [newGuard] at isNew
      omega
  exclusive := by
    have only : ∀ row, Unrestored clusterId (world.database.addAllocationGuard
        (newGuard checkpoint (world.database.allocationGuardCounter + 1))) row →
        row = newGuard checkpoint (world.database.allocationGuardCounter + 1) := by
      rintro row ⟨isRow, rowCluster, unrestored⟩
      simp only [Database.addAllocationGuard, List.mem_append, List.mem_singleton] at isRow
      rcases isRow with isOld | isNew
      · exact absurd ⟨isOld, rowCluster, unrestored⟩ (findActiveAllocationGuard_none free row)
      · exact isNew
    intro row other rowUnrestored otherUnrestored
    rw [only row rowUnrestored, only other otherUnrestored]
  captures := by
    intro row isRow rowCluster
    simp only [Database.addAllocationGuard, List.mem_append, List.mem_singleton] at isRow
    rcases isRow with isOld | rfl
    · exact holds.captures row isOld rowCluster
    · exact ⟨checkpoint, checkpointOf_moved wellFormed rfl rfl isCaptured rfl, sameCapture⟩
  restores := by
    intro allRestored
    refine absurd ?_ (allRestored (newGuard checkpoint
      (world.database.allocationGuardCounter + 1)))
    refine ⟨?_, ofCluster, by simp [newGuard]⟩
    simp [Database.addAllocationGuard]

/-- The settings matter only while all guards are restored. -/
theorem Composed.write (holds : Composed clusterId baseline world) (server : SettingsServer)
    (allowed : server.setting = world.server.setting ∨
      ∃ record, Unrestored clusterId world.database record) :
    Composed clusterId baseline { world with server := server } where
  keys := holds.keys
  exclusive := holds.exclusive
  captures := holds.captures
  restores := by
    intro allRestored
    rcases allowed with same | ⟨record, unrestored⟩
    · exact same.trans (holds.restores allRestored)
    · exact absurd unrestored (allRestored record)

/-! ### The calls -/

variable {behaviour : SettingsBehaviour} {planId : String}

/-- What every call leaves at the end of a stretch. -/
def Ends (clusterId : Nat) (baseline : AllocationSetting) (planId : String)
    (begun after : GuardWorld) : Prop :=
  Composed clusterId baseline after ∧ Changes clusterId planId begun after

theorem Composed.ends (holds : Composed clusterId baseline world) :
    Ends clusterId baseline planId world world :=
  ⟨holds, fun _ _ => rfl, .inl rfl⟩

namespace GuardMove

end GuardMove

end GuardService

namespace GuardSample

def otherPlanId : String :=
  "fedcba9876543210fedcba9876543210"

/-- Two plans on one cluster. -/
def pair : GuardWorld where
  database :=
    { Database.empty with
      plans := [plan, { plan with id := otherPlanId }]
      clusters := [⟨1, "logs", "logs", false⟩] }
  server := ⟨⟨some "all", none⟩, 0⟩

end GuardSample

end ElKeeper
