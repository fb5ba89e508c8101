import ElKeeper.StartupRecovery
import ElKeeper.StateTransitions
import Mathlib.Data.List.Dedup

/-!
# Evidence at startup

A startup decides on an interrupted checkpoint from what four projections observed.  The
fingerprints of the sources are folded into one per field, and sources without an
observation are left out of this, so one source can speak for another.
-/

namespace ElKeeper

namespace StartupRecovery

namespace RecoveryProjectionResult

/-- Empty fingerprints count as missing. -/
def normalized (result : RecoveryProjectionResult) : RecoveryProjectionResult :=
  { result with
    observedFingerprint := present result.observedFingerprint
    beforeFingerprint := present result.beforeFingerprint
    afterFingerprint := present result.afterFingerprint }

/-- A source is complete, and looks at the right object. -/
def Proven (result : RecoveryProjectionResult) : Prop :=
  result.complete = true ∧ result.identityMatches = true

/-- A source observed the state that it recorded in some field. -/
def Shows (field : RecoveryProjectionResult → Option String)
    (result : RecoveryProjectionResult) : Prop :=
  ∃ value, result.observedFingerprint = some value ∧ field result = some value

/-- A source has an observation and a value of some field. -/
def Has (field : RecoveryProjectionResult → Option String)
    (result : RecoveryProjectionResult) : Prop :=
  result.observedFingerprint.isSome = true ∧ (field result).isSome = true

end RecoveryProjectionResult

open RecoveryProjectionResult

/-! ### Folded fingerprints -/

/-- The observed sources have one value between them. -/
def Agree (results : List RecoveryProjectionResult)
    (field : RecoveryProjectionResult → Option String) (value : String) : Prop :=
  (∃ result ∈ results, result.observedFingerprint.isSome = true ∧ field result = some value) ∧
    ∀ result ∈ results, result.observedFingerprint.isSome = true →
      ∀ other, field result = some other → other = value

/-- A list with one distinct element. -/
theorem dedup_eq_singleton_iff {α : Type} [DecidableEq α] {items : List α} {value : α} :
    items.dedup = [value] ↔ value ∈ items ∧ ∀ item ∈ items, item = value := by
  constructor
  · intro single
    have same (item : α) : item ∈ items ↔ item = value := by
      rw [← List.mem_dedup, single, List.mem_singleton]
    exact ⟨(same value).mpr rfl, fun item member => (same item).mp member⟩
  · rintro ⟨member, only⟩
    apply List.perm_singleton.mp
    apply (List.perm_ext_iff_of_nodup (List.nodup_dedup items) (List.nodup_singleton value)).mpr
    intro item
    rw [List.mem_dedup, List.mem_singleton]
    exact ⟨only item, fun same => same ▸ member⟩

theorem aggregateFingerprint_eq_some_iff {results : List RecoveryProjectionResult}
    {field : RecoveryProjectionResult → Option String} {value : String} :
    aggregateFingerprint (results.filter (·.observedFingerprint.isSome)) field = some value ↔
      Agree results field value := by
  have single : aggregateFingerprint (results.filter (·.observedFingerprint.isSome)) field =
      some value ↔
      ((results.filter (·.observedFingerprint.isSome)).filterMap field).dedup = [value] := by
    unfold aggregateFingerprint
    split
    · rename_i only isOnly
      simp [isOnly]
    · rename_i several
      constructor
      · intro none
        cases none
      · intro isOnly
        exact absurd isOnly (several value)
  rw [single, dedup_eq_singleton_iff]
  simp only [List.mem_filterMap, List.mem_filter, Agree, and_assoc]
  apply and_congr_right
  intro _
  constructor
  · intro only result member isObserved other isOther
    exact only other ⟨result, member, isObserved, isOther⟩
  · rintro only other ⟨result, member, isObserved, isOther⟩
    exact only result member isObserved other isOther

/-! ### The decision -/

theorem classifyRecovery_complete_iff {evidence : RecoveryEvidence} :
    (classifyRecovery evidence).classification = .complete ↔
      ∃ value, evidence.observedFingerprint = some value ∧
        evidence.afterFingerprint = some value := by
  unfold classifyRecovery
  split
  · rename_i missing
    simp [missing]
  · rename_i observed isObserved
    split
    · rename_i isAfter
      simp [isObserved, isAfter]
    · rename_i notAfter
      have other : ¬ ∃ value, evidence.observedFingerprint = some value ∧
          evidence.afterFingerprint = some value := by
        rintro ⟨value, isValue, isAfter⟩
        exact notAfter (isAfter.trans (isValue.symm.trans isObserved))
      simp only [other, iff_false]
      split
      · split
        · decide
        · decide
        · split <;> decide
        · decide
      · decide

theorem classifyRecovery_safeToResume_iff {evidence : RecoveryEvidence} :
    (classifyRecovery evidence).classification = .safeToResume ↔
      (evidence.sideEffectState = .notStarted ∨ evidence.sideEffectState = .prepared ∨
        evidence.sideEffectState = .mayHaveStarted ∧ evidence.resumeIsIdempotent = true) ∧
      ∃ value, evidence.observedFingerprint = some value ∧
        evidence.beforeFingerprint = some value ∧ ¬ evidence.afterFingerprint = some value := by
  obtain ⟨state, observed, before, after, idempotent⟩ := evidence
  cases observed with
  | none => simp [classifyRecovery]
  | some observed =>
      simp only [classifyRecovery, Option.some.injEq, exists_eq_left']
      split
      · rename_i isAfter
        simp [isAfter]
      · rename_i notAfter
        split
        · rename_i isBefore
          cases state <;> cases idempotent <;> simp [isBefore, notAfter]
        · rename_i notBefore
          simp [notBefore]

/-- The states of a side effect in which work may be resumed. -/
def mayResume (sideEffectState : SideEffectState) (results : List RecoveryProjectionResult) :
    Prop :=
  sideEffectState = .notStarted ∨ sideEffectState = .prepared ∨
    sideEffectState = .mayHaveStarted ∧ ∀ result ∈ results, result.resumeIsIdempotent = true

section Decision

variable {sideEffectState : SideEffectState} {results : List RecoveryProjectionResult}

theorem projectionDecision_of_proven (proven : ∀ result ∈ results, result.Proven) :
    projectionDecision sideEffectState results =
      classifyRecovery {
        sideEffectState := sideEffectState
        observedFingerprint := aggregateFingerprint
          (results.filter (·.observedFingerprint.isSome)) (·.observedFingerprint)
        beforeFingerprint := aggregateFingerprint
          (results.filter (·.observedFingerprint.isSome)) (·.beforeFingerprint)
        afterFingerprint := aggregateFingerprint
          (results.filter (·.observedFingerprint.isSome)) (·.afterFingerprint)
        resumeIsIdempotent := results.all (·.resumeIsIdempotent) } := by
  have identified : ¬ (results.any (!·.identityMatches)) = true := by
    simpa using fun result member => (proven result member).2
  have complete : ¬ (results.any (!·.complete)) = true := by
    simpa using fun result member => (proven result member).1
  rw [projectionDecision, if_neg identified, if_neg complete]

/-- Nothing but an ambiguity follows from sources that are not all proven. -/
theorem proven_of_decided
    (decided : (projectionDecision sideEffectState results).classification ≠ .ambiguous) :
    ∀ result ∈ results, result.Proven := by
  intro result member
  by_contra unproven
  apply decided
  unfold projectionDecision
  split
  · rfl
  · split
    · rfl
    · rename_i identified complete
      simp only [List.any_eq_true, not_exists, not_and, Bool.not_eq_true', Bool.not_eq_false]
        at identified complete
      exact absurd ⟨complete result member, identified result member⟩ unproven

theorem complete_iff :
    (projectionDecision sideEffectState results).classification = .complete ↔
      (∀ result ∈ results, result.Proven) ∧
        ∃ value, Agree results (·.observedFingerprint) value ∧
          Agree results (·.afterFingerprint) value := by
  simp only [← aggregateFingerprint_eq_some_iff]
  constructor
  · intro decided
    have proven : ∀ result ∈ results, result.Proven := by
      apply proven_of_decided
      rw [decided]
      decide
    rw [projectionDecision_of_proven proven, classifyRecovery_complete_iff] at decided
    exact ⟨proven, decided⟩
  · rintro ⟨proven, agreed⟩
    rw [projectionDecision_of_proven proven, classifyRecovery_complete_iff]
    exact agreed

theorem safeToResume_iff :
    (projectionDecision sideEffectState results).classification = .safeToResume ↔
      (∀ result ∈ results, result.Proven) ∧ mayResume sideEffectState results ∧
        ∃ value, Agree results (·.observedFingerprint) value ∧
          Agree results (·.beforeFingerprint) value ∧
            ¬ Agree results (·.afterFingerprint) value := by
  simp only [← aggregateFingerprint_eq_some_iff]
  constructor
  · intro decided
    have proven : ∀ result ∈ results, result.Proven := by
      apply proven_of_decided
      rw [decided]
      decide
    rw [projectionDecision_of_proven proven, classifyRecovery_safeToResume_iff,
      List.all_eq_true] at decided
    exact ⟨proven, decided⟩
  · rintro ⟨proven, resumes⟩
    rw [projectionDecision_of_proven proven, classifyRecovery_safeToResume_iff,
      List.all_eq_true]
    exact resumes

end Decision

/-! ### Failing closed -/

/-- The decision on a checkpoint for which the four projections gave some results. -/
def decided (plan : PlanRecord) (checkpoint : CheckpointRecord)
    (results : List RecoveryProjectionResult) : RecoveryDecision :=
  classifyCheckpoint (fun _ checkpoint => projectionDecision checkpoint.sideEffectState results)
    plan checkpoint

/-- A checkpoint is only taken for complete, or for resumable outside of the rule for reboots,
when each source proves this for itself. -/
structure FailsClosed (plan : PlanRecord) (checkpoint : CheckpointRecord)
    (results : List RecoveryProjectionResult) : Prop where
  complete : (startupClassification (decided plan checkpoint results)).1 = .complete →
    ∀ result ∈ results, result.Proven ∧ result.Shows (·.afterFingerprint)
  resumable : classifyHostRebootCheckpoint plan checkpoint = none →
    (startupClassification (decided plan checkpoint results)).2 = true →
      mayResume checkpoint.sideEffectState results ∧
        ∀ result ∈ results, result.Proven ∧ result.Shows (·.beforeFingerprint)

/-- Where the sources agree on a state, none of them lacks an observation or that state. -/
structure WithoutGaps (sideEffectState : SideEffectState)
    (results : List RecoveryProjectionResult) : Prop where
  after : (∀ result ∈ results, result.Proven) →
    ∀ value, Agree results (·.observedFingerprint) value →
      Agree results (·.afterFingerprint) value →
        ∀ result ∈ results, result.Has (·.afterFingerprint)
  before : (∀ result ∈ results, result.Proven) → mayResume sideEffectState results →
    ∀ value, Agree results (·.observedFingerprint) value →
      Agree results (·.beforeFingerprint) value → ¬ Agree results (·.afterFingerprint) value →
        ∀ result ∈ results, result.Has (·.beforeFingerprint)

section Gaps

variable {plan : PlanRecord} {checkpoint : CheckpointRecord}
  {results : List RecoveryProjectionResult}

/-- The rule for reboots never completes a checkpoint. -/
theorem rebootRule_not_complete {decision : RecoveryDecision}
    (rule : classifyHostRebootCheckpoint plan checkpoint = some decision) :
    decision.classification ≠ .complete := by
  unfold classifyHostRebootCheckpoint at rule
  split at rule
  · cases rule
  · split at rule
    · cases rule
      decide
    · split at rule
      · cases rule
        decide
      · split at rule
        · cases rule
          decide
        · cases rule

theorem startupClassification_complete_iff {decision : RecoveryDecision} :
    (startupClassification decision).1 = .complete ↔ decision.classification = .complete := by
  unfold startupClassification
  split <;> simp_all

theorem startupClassification_resumable_iff {decision : RecoveryDecision} :
    (startupClassification decision).2 = true ↔ decision.classification = .safeToResume := by
  unfold startupClassification
  split <;> simp_all

/-- A source that has its part of what all agree on shows it. -/
theorem shows_of_has {field : RecoveryProjectionResult → Option String} {value : String}
    (observed : Agree results (·.observedFingerprint) value)
    (recorded : Agree results field value) {result : RecoveryProjectionResult}
    (member : result ∈ results) (has : result.Has field) : result.Shows field := by
  obtain ⟨isObserved, isRecorded⟩ := has
  obtain ⟨other, isOther⟩ := Option.isSome_iff_exists.mp isObserved
  obtain ⟨another, isAnother⟩ := Option.isSome_iff_exists.mp isRecorded
  obtain rfl := observed.2 result member isObserved other isOther
  obtain rfl := recorded.2 result member isObserved another isAnother
  exact ⟨_, isOther, isAnother⟩

theorem has_of_shows {field : RecoveryProjectionResult → Option String}
    {result : RecoveryProjectionResult} (shows_ : result.Shows field) : result.Has field := by
  obtain ⟨value, isObserved, isRecorded⟩ := shows_
  exact ⟨isObserved ▸ rfl, isRecorded ▸ rfl⟩

/-- Outside of the rule for reboots a startup fails closed exactly without gaps. -/
theorem failsClosed_iff_of_none (noRule : classifyHostRebootCheckpoint plan checkpoint = none) :
    FailsClosed plan checkpoint results ↔
      WithoutGaps checkpoint.sideEffectState results := by
  have same : decided plan checkpoint results =
      projectionDecision checkpoint.sideEffectState results := by
    rw [decided, classifyCheckpoint, noRule]
    rfl
  constructor
  · intro closed
    constructor
    · intro proven value observed recorded result member
      have complete : (startupClassification (decided plan checkpoint results)).1 =
          .complete := by
        rw [startupClassification_complete_iff, same, complete_iff]
        exact ⟨proven, value, observed, recorded⟩
      exact has_of_shows (closed.complete complete result member).2
    · intro proven resumes value observed recorded unfinished result member
      have resumable : (startupClassification (decided plan checkpoint results)).2 = true := by
        rw [startupClassification_resumable_iff, same, safeToResume_iff]
        exact ⟨proven, resumes, value, observed, recorded, unfinished⟩
      exact has_of_shows ((closed.resumable noRule resumable).2 result member).2
  · intro gapless
    constructor
    · intro complete result member
      rw [startupClassification_complete_iff, same, complete_iff] at complete
      obtain ⟨proven, value, observed, recorded⟩ := complete
      have has := gapless.after proven value observed recorded result member
      exact ⟨proven result member, shows_of_has observed recorded member has⟩
    · intro _ resumable
      rw [startupClassification_resumable_iff, same, safeToResume_iff] at resumable
      obtain ⟨proven, resumes, value, observed, recorded, unfinished⟩ := resumable
      refine ⟨resumes, fun result member => ⟨proven result member, ?_⟩⟩
      have has := gapless.before proven resumes value observed recorded unfinished result member
      exact shows_of_has observed recorded member has

end Gaps

/-- A startup fails closed on the results of four projections exactly when the rule for reboots
decides or no source has a gap. -/
theorem failsClosed_iff (plan : PlanRecord) (checkpoint : CheckpointRecord)
    (host workload observability elasticsearch : RecoveryProjectionResult) :
    let results := [host, workload, observability, elasticsearch].map normalized
    FailsClosed plan checkpoint results ↔
      (classifyHostRebootCheckpoint plan checkpoint = none →
        WithoutGaps checkpoint.sideEffectState results) := by
  intro results
  cases rule : classifyHostRebootCheckpoint plan checkpoint with
  | none => exact (failsClosed_iff_of_none rule).trans (by simp)
  | some decision =>
      have isRule : decided plan checkpoint results = decision := by
        rw [decided, classifyCheckpoint, rule]
        rfl
      refine iff_of_true ⟨fun complete => ?_, fun noRule => ?_⟩ (fun noRule => ?_)
      · rw [startupClassification_complete_iff, isRule] at complete
        exact absurd complete (rebootRule_not_complete rule)
      · rw [rule] at noRule
        cases noRule
      · cases noRule

namespace EvidenceSample

/-- A step that may have started on the host. -/
def checkpoint : CheckpointRecord where
  id := 1
  planId := "plan"
  stepId := none
  key := .rebootIntent
  sequence := 1
  sideEffectState := .mayHaveStarted
  payload := .clusterIds []
  observation := .obj []

/-- The host shows the state after the step. -/
def host : RecoveryProjectionResult :=
  ⟨true, some "after", some "before", some "after", true, false⟩

/-- Another source is complete but observed nothing. -/
def unobserved : RecoveryProjectionResult :=
  ⟨true, none, some "before", some "after", true, false⟩

end EvidenceSample

open EvidenceSample in
/-- The host alone completes a checkpoint for the three other sources. -/
theorem host_completes_alone :
    (startupClassification (decided TransitionSample.plan checkpoint
      ([host, unobserved, unobserved, unobserved].map normalized))).1 = .complete ∧
    ¬ FailsClosed TransitionSample.plan checkpoint
      ([host, unobserved, unobserved, unobserved].map normalized) := by
  have complete : (startupClassification (decided TransitionSample.plan checkpoint
      ([host, unobserved, unobserved, unobserved].map normalized))).1 = .complete := by
    decide +kernel
  refine ⟨complete, fun closed => ?_⟩
  have shown := (closed.complete complete unobserved.normalized (by simp)).2
  obtain ⟨value, isObserved, -⟩ := shown
  cases isObserved

end StartupRecovery

end ElKeeper
