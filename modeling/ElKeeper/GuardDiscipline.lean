import ElKeeper.AllocationGuards

/-!
# The controller among other writers

What the calls of `AllocationGuardController` bring about while others may work
on the same cluster.  The calls of a guard's owner rely on the guard staying as
it is and, between a reading and its use, on the settings staying as they are.
-/

namespace ElKeeper

namespace AllocationGuardController

open Coroutine

/-- A failed request. -/
def Failed {β : Type} (outcome : Outcome Fault β) : Prop :=
  ∃ category text, outcome = .raised ⟨.elasticsearchRequest category, text⟩

/-- A restoration that calls itself restored has put both layers back. -/
structure Cleaned (checkpoint : AllocationGuardCheckpoint)
    (result : AllocationGuardCleanupResult) (after : GuardWorld) : Prop where
  same : SameGuard checkpoint result.checkpoint
  restored : result.status = .restored → after.server.setting = checkpoint.captured

/-- An activation that calls itself active has set the effective value, and one that calls itself
failed has put both layers back. -/
structure Applied (checkpoint : AllocationGuardCheckpoint)
    (result : AllocationGuardApplyResult) (after : GuardWorld) : Prop where
  same : SameGuard checkpoint result.checkpoint
  active : result.status = .active → after.server.setting.effective = "primaries"
  failed : result.status = .failed → after.server.setting = checkpoint.captured
  phase : result.checkpoint.phase =
    match result.status with
    | .active => .active
    | .failed => .restored
    | .recoveryRequired => .recoveryRequired

/-- A setting that reads as `primaries` is effectively so. -/
theorem effective_of_verified {setting : AllocationSetting}
    (verified : setting.effectiveValue = "primaries") : setting.effective = "primaries" := by
  rcases setting with ⟨_ | persistent, _ | transient⟩
  all_goals
    simp only [AllocationSetting.effectiveValue] at verified
    simp only [AllocationSetting.effective, Option.or_none, Option.none_or, Option.some_or,
      Option.getD_some, Option.getD_none]
  · exact verified
  all_goals
    split at verified
    · exact absurd verified (by decide)
    · exact verified

variable {behaviour : SettingsBehaviour} {discipline : Discipline GuardWorld SettingsRequest}

/-- A reading: what is known when it is served holds of the value that is returned. -/
theorem observe_safe {own : GuardWorld → Prop} {seen : AllocationSetting → GuardWorld → Prop}
    (stable : discipline.Stable own) (seenStable : ∀ setting, discipline.Stable (seen setting))
    (serves : ∀ world, discipline.invariant world → own world →
      discipline.enabled .settings world →
      discipline.invariant (behaviour.answer .settings world).2 ∧
        discipline.guarantee world (behaviour.answer .settings world).2 ∧
        seen world.server.setting (behaviour.answer .settings world).2)
    {world : GuardWorld} (holds : discipline.invariant world) (owned : own world) :
    SafeTo behaviour.answer discipline (fun outcome begun middle =>
      middle = begun ∧ discipline.invariant middle ∧ ∃ setting, seen setting middle ∧
        (outcome = .returned setting ∨ Failed outcome)) world observe world := by
  refine ⟨holds, discipline.idle world, own, stable, owned, fun later laterHolds isOwned may => ?_⟩
  obtain ⟨served, moves, isSeen⟩ := serves later laterHolds isOwned may
  refine ⟨served, moves, seen later.server.setting, seenStable _, isSeen,
    fun next nextHolds nextSeen => ?_⟩
  show SafeTo behaviour.answer discipline _ next ((payload "cluster-settings-read"
    (behaviour.answer .settings later).1 : GuardCall GuardWorld Dict) >>= fun response =>
      ofExcept (AllocationSetting.ofResponse response)) next
  rcases (answer_cases behaviour .settings later).2 with
    ⟨answer, reply, _, response⟩ | ⟨category, reply, _⟩
  · rw [reply]
    show SafeTo behaviour.answer discipline _ next
      (ofExcept (AllocationSetting.ofResponse answer) : GuardCall GuardWorld AllocationSetting) next
    rw [response]
    exact ⟨rfl, nextHolds, later.server.setting, nextSeen, .inl rfl⟩
  · rw [reply]
    exact ⟨rfl, nextHolds, later.server.setting, nextSeen, .inr ⟨category, _, rfl⟩⟩

/-- While it is owned, the guard and what was read of the settings stay as they are, and its
owner may send any request. -/
structure Steady (behaviour : SettingsBehaviour)
    (discipline : Discipline GuardWorld SettingsRequest) (own : GuardWorld → Prop) : Prop where
  stable : discipline.Stable own
  unwritten : ∀ setting, discipline.Stable fun world => own world ∧ world.server.setting = setting
  serves : ∀ request world, discipline.invariant world → own world →
    discipline.invariant (behaviour.answer request world).2 ∧
      discipline.guarantee world (behaviour.answer request world).2 ∧
      own (behaviour.answer request world).2

variable {own : GuardWorld → Prop} (steady : Steady behaviour discipline own)

include steady

/-- A reading by the owner is the setting of the cluster. -/
theorem observe_owned {world : GuardWorld} (holds : discipline.invariant world)
    (owned : own world) :
    SafeTo behaviour.answer discipline (fun outcome begun middle =>
      middle = begun ∧ discipline.invariant middle ∧ own middle ∧
        (outcome = .returned middle.server.setting ∨ Failed outcome)) world observe world := by
  have read : ∀ world, discipline.invariant world → own world →
      discipline.enabled .settings world →
      discipline.invariant (behaviour.answer .settings world).2 ∧
        discipline.guarantee world (behaviour.answer .settings world).2 ∧
        own (behaviour.answer .settings world).2 ∧
        (behaviour.answer .settings world).2.server.setting = world.server.setting := by
    intro world holds owned _
    obtain ⟨served, moves, isOwned⟩ := steady.serves .settings world holds owned
    refine ⟨served, moves, isOwned, ?_⟩
    rcases (answer_cases behaviour .settings world).2 with ⟨_, _, same, _⟩ | ⟨_, _, same | same⟩
    all_goals exact same
  refine (observe_safe steady.stable steady.unwritten read holds owned).mono ?_
  rintro outcome begun middle ⟨same, middleHolds, setting, ⟨isOwned, rfl⟩, ends⟩
  exact ⟨same, middleHolds, isOwned, ends⟩

/-- A write by the owner takes effect or fails. -/
theorem putSettings_owned (persistent transient : Option SettingLayerValue) {world : GuardWorld}
    (holds : discipline.invariant world) (owned : own world) :
    SafeTo behaviour.answer discipline (fun outcome begun middle =>
      middle = begun ∧ discipline.invariant middle ∧ own middle ∧
        (outcome = .returned () ∨ Failed outcome)) world
      (putSettings persistent transient) world := by
  refine ⟨holds, discipline.idle world, own, steady.stable, owned,
    fun later laterHolds isOwned _ => ?_⟩
  obtain ⟨served, moves, stillOwned⟩ := steady.serves (.putSettings persistent transient) later
    laterHolds isOwned
  refine ⟨served, moves, own, steady.stable, stillOwned, fun next nextHolds nextOwned => ?_⟩
  show SafeTo behaviour.answer discipline _ next ((payload "cluster-settings-write"
    (behaviour.answer (.putSettings persistent transient) later).1 :
      GuardCall GuardWorld Dict) >>= fun _ => pure ()) next
  rcases (answer_cases behaviour (.putSettings persistent transient) later).2 with
    ⟨answer, reply, _⟩ | ⟨category, reply, _⟩
  · rw [reply]
    exact ⟨rfl, nextHolds, nextOwned, .inl rfl⟩
  · rw [reply]
    exact ⟨rfl, nextHolds, nextOwned, .inr ⟨category, _, rfl⟩⟩

omit steady in
/-- The result of a restoration whose reading was taken in this world. -/
theorem restoreEnd_owned (checkpoint : AllocationGuardCheckpoint)
    (trigger : AllocationCleanupTrigger) (requestError : Option String)
    {reading : Except Fault AllocationSetting} {world : GuardWorld}
    (read : reading = .ok world.server.setting ∨
      ∃ category text, reading = .error ⟨.elasticsearchRequest category, text⟩)
    (holds : discipline.invariant world) (owned : own world) :
    SafeTo behaviour.answer discipline (fun outcome begun middle =>
      middle = begun ∧ discipline.invariant middle ∧ own middle ∧
        ∃ result, outcome = .returned result ∧ Cleaned checkpoint result middle)
      world (restoreEnd checkpoint trigger requestError reading) world := by
  rcases read with rfl | ⟨category, text, rfl⟩
  · by_cases verified : world.server.setting = checkpoint.captured
    · rw [restoreEnd, if_pos verified]
      exact ⟨rfl, holds, owned, _, rfl, ⟨rfl, rfl, rfl⟩, fun _ => verified⟩
    · rw [restoreEnd, if_neg verified]
      exact ⟨rfl, holds, owned, _, rfl, ⟨rfl, rfl, rfl⟩, nofun⟩
  · exact ⟨rfl, holds, owned, _, rfl, ⟨rfl, rfl, rfl⟩, nofun⟩

/-- The reading after the write of a restoration. -/
theorem verifyRestored_owned (checkpoint : AllocationGuardCheckpoint)
    (trigger : AllocationCleanupTrigger) (requestError : Option String) {world : GuardWorld}
    (holds : discipline.invariant world) (owned : own world) :
    SafeTo behaviour.answer discipline (fun outcome begun middle =>
      middle = begun ∧ discipline.invariant middle ∧ own middle ∧
        ∃ result, outcome = .returned result ∧ Cleaned checkpoint result middle)
      world (attempt observe >>= restoreEnd checkpoint trigger
        requestError) world := by
  refine SafeTo.bind (SafeTo.attempt ((observe_owned steady holds owned).mono ?_))
  rintro outcome begun middle ⟨rfl, middleHolds, isOwned, rfl | ⟨category, text, rfl⟩⟩
  · exact restoreEnd_owned checkpoint trigger requestError (.inl rfl) middleHolds isOwned
  · exact restoreEnd_owned checkpoint trigger requestError (.inr ⟨category, text, rfl⟩)
      middleHolds isOwned

/-- `restore` ends with a result, and one that calls itself restored is right. -/
theorem restore_owned (checkpoint : AllocationGuardCheckpoint)
    (trigger : AllocationCleanupTrigger) {world : GuardWorld}
    (holds : discipline.invariant world) (owned : own world) :
    SafeTo behaviour.answer discipline (fun outcome begun middle =>
      middle = begun ∧ discipline.invariant middle ∧ own middle ∧
        ∃ result, outcome = .returned result ∧ Cleaned checkpoint result middle)
      world (restore checkpoint trigger) world := by
  refine SafeTo.bind (SafeTo.attempt ((putSettings_owned steady _ _ holds owned).mono ?_))
  -- Whether or not the write failed, the reading decides.
  rintro outcome begun middle ⟨rfl, middleHolds, isOwned, rfl | ⟨category, text, rfl⟩⟩
  · exact verifyRestored_owned steady checkpoint trigger none middleHolds isOwned
  · exact verifyRestored_owned steady checkpoint trigger _ middleHolds isOwned

theorem activationFailed_owned (checkpoint : AllocationGuardCheckpoint)
    (errorCategory : String) {world : GuardWorld} (holds : discipline.invariant world)
    (owned : own world) :
    SafeTo behaviour.answer discipline (fun outcome begun middle =>
      middle = begun ∧ discipline.invariant middle ∧ own middle ∧
        ∃ result, outcome = .returned result ∧ Applied checkpoint result middle)
      world (activationFailed checkpoint errorCategory) world := by
  refine SafeTo.bind ((restore_owned steady checkpoint .failure holds owned).mono ?_)
  rintro _ begun middle ⟨rfl, middleHolds, isOwned, cleanup, rfl, same, restored⟩
  refine ⟨rfl, middleHolds, isOwned, failedResult cleanup errorCategory, rfl, same, ?_, ?_, ?_⟩
  · intro isActive
    simp only [failedResult] at isActive
    split at isActive <;> cases isActive
  · intro hasFailed
    apply restored
    by_contra unrestored
    simp only [failedResult, if_neg unrestored] at hasFailed
    cases hasFailed
  · cases status : cleanup.status with
    | restored => simp [failedResult, status, (cleanup.restored_verified status).2]
    | recoveryRequired => simp [failedResult, status, cleanup.recovery_phase status]

/-- The end of an activation whose reading was taken in this world. -/
theorem activateEnd_owned (checkpoint : AllocationGuardCheckpoint)
    {reading : Except Fault AllocationSetting} {world : GuardWorld}
    (read : reading = .ok world.server.setting ∨
      ∃ category text, reading = .error ⟨.elasticsearchRequest category, text⟩)
    (holds : discipline.invariant world) (owned : own world) :
    SafeTo behaviour.answer discipline (fun outcome begun middle =>
      middle = begun ∧ discipline.invariant middle ∧ own middle ∧
        ∃ result, outcome = .returned result ∧ Applied checkpoint result middle)
      world (activateEnd checkpoint reading) world := by
  rcases read with rfl | ⟨category, text, rfl⟩
  · by_cases verified : world.server.setting.persistent = some "primaries" ∧
        world.server.setting.effectiveValue = "primaries"
    · rw [activateEnd, if_pos verified]
      exact ⟨rfl, holds, owned, _, rfl, ⟨rfl, rfl, rfl⟩,
        fun _ => effective_of_verified verified.2, nofun, rfl⟩
    · rw [activateEnd, if_neg verified]
      exact activationFailed_owned steady checkpoint _ holds owned
  · exact activationFailed_owned steady checkpoint _ holds owned

/-- `activate` raises without a request, or ends with a result that is right. -/
theorem activate_owned (checkpoint : AllocationGuardCheckpoint) {world : GuardWorld}
    (holds : discipline.invariant world) (owned : own world) :
    SafeTo behaviour.answer discipline (fun outcome begun middle =>
      middle = begun ∧ discipline.invariant middle ∧ own middle ∧
        ((∃ fault, outcome = .raised fault ∧ fault.kind ≠ .allocationGuardConflict) ∨
          ∃ result, outcome = .returned result ∧ Applied checkpoint result middle))
      world (activate checkpoint) world := by
  rw [activate]
  cases isCaptured : decide (checkpoint.phase = .captured) with
  | false => exact ⟨rfl, holds, owned, .inl ⟨_, rfl, nofun⟩⟩
  | true =>
      cases allowed : checkpoint.captured.transient.all (· = "primaries") with
      | false => exact ⟨rfl, holds, owned, .inl ⟨_, rfl, nofun⟩⟩
      | true =>
          show SafeTo behaviour.answer discipline _ world (attempt (do
            putSettings (some (some "primaries")) none
            observe) >>= activateEnd checkpoint) world
          have ends : ∀ {reading : Except Fault AllocationSetting} {world : GuardWorld},
              (reading = .ok world.server.setting ∨
                ∃ category text, reading = .error ⟨.elasticsearchRequest category, text⟩) →
              discipline.invariant world → own world →
              SafeTo behaviour.answer discipline (fun outcome begun middle =>
                middle = begun ∧ discipline.invariant middle ∧ own middle ∧
                  ((∃ fault, outcome = .raised fault ∧
                      fault.kind ≠ .allocationGuardConflict) ∨
                    ∃ result, outcome = .returned result ∧ Applied checkpoint result middle))
                world (activateEnd checkpoint reading) world := by
            intro reading world read holds owned
            refine (activateEnd_owned steady checkpoint read holds owned).mono ?_
            rintro outcome begun middle ⟨same, middleHolds, isOwned, applied⟩
            exact ⟨same, middleHolds, isOwned, .inr applied⟩
          refine SafeTo.bind (SafeTo.attempt (SafeTo.bind
            ((putSettings_owned steady _ _ holds owned).mono ?_)))
          rintro outcome begun middle ⟨rfl, middleHolds, isOwned, rfl | ⟨category, text, rfl⟩⟩
          · refine (observe_owned steady middleHolds isOwned).mono ?_
            rintro outcome begun later ⟨rfl, laterHolds, laterOwned, rfl | ⟨category, text, rfl⟩⟩
            · exact ends (.inl rfl) laterHolds laterOwned
            · exact ends (.inr ⟨category, text, rfl⟩) laterHolds laterOwned
          · exact ends (.inr ⟨category, text, rfl⟩) middleHolds isOwned

end AllocationGuardController

end ElKeeper
