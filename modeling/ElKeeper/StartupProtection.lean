import ElKeeper.StartupFrame

/-!
# Startup recovery as a function of the stored plans

On a database that keeps its keys, `prepare_startup_recovery` always returns, and
what it leaves behind can be written down plan by plan, run by run and checkpoint
by checkpoint.  A second pass finds nothing left to do.
-/

namespace ElKeeper

/-- The keys and the partial unique indexes of the tables that a startup reads. -/
structure Database.PlansSound (database : Database) : Prop where
  plan_ids : (database.plans.map (·.id)).Nodup
  checkpoint_ids : (database.checkpoints.map (·.id)).Nodup
  exclusive : ∀ plan ∈ database.plans, plan.lifecycleState.active →
    MaintenanceStore.overlaps database plan = false

/-! ### Checkpoints apart from their classification -/

namespace CheckpointRecord

/-- The row without the columns that a startup writes. -/
def unclassified (row : CheckpointRecord) : CheckpointRecord :=
  { row with
    recoveryEvidence :=
      { row.recoveryEvidence with
        startupReasonCode := none
        startup := none }
    recoveryClassification := none
    recoveryReasonCode := none
    resumable := none
    classificationRevision := 1 }

theorem eq_of_unclassified {first second : CheckpointRecord}
    (same : first.unclassified = second.unclassified) :
    first.id = second.id ∧ first.planId = second.planId ∧ first.sequence = second.sequence ∧
      first.key = second.key := by
  simp only [unclassified, mk.injEq] at same
  exact ⟨same.1, same.2.1, same.2.2.2.2.1, same.2.2.2.1⟩

end CheckpointRecord

/-- The later of two checkpoints; the first one wins a draw. -/
def laterCheckpoint (latest : Option CheckpointRecord) (row : CheckpointRecord) :
    Option CheckpointRecord :=
  match latest with
  | none => some row
  | some other => if other.sequence < row.sequence then some row else some other

theorem latestCheckpoint_eq_foldl (database : Database) (planId : String) :
    database.latestCheckpoint planId =
      (database.checkpoints.filter (·.planId = planId)).foldl laterCheckpoint none :=
  rfl

theorem foldl_laterCheckpoint_map {change : CheckpointRecord → CheckpointRecord}
    (sameSequence : ∀ row, (change row).sequence = row.sequence) (rows : List CheckpointRecord)
    (latest : Option CheckpointRecord) :
    (rows.map change).foldl laterCheckpoint (latest.map change) =
      (rows.foldl laterCheckpoint latest).map change := by
  induction rows generalizing latest with
  | nil => rfl
  | cons row rest ih =>
      have step : laterCheckpoint (latest.map change) (change row) =
          (laterCheckpoint latest row).map change := by
        cases latest with
        | none => rfl
        | some other =>
            simp only [laterCheckpoint, Option.map_some, sameSequence]
            split <;> rfl
      simp only [List.map_cons, List.foldl_cons, step, ih]

theorem foldl_laterCheckpoint_mem {rows : List CheckpointRecord}
    {latest : Option CheckpointRecord} {row : CheckpointRecord}
    (found : rows.foldl laterCheckpoint latest = some row) : latest = some row ∨ row ∈ rows := by
  induction rows generalizing latest with
  | nil => exact .inl found
  | cons first rest ih =>
      rcases ih found with same | member
      · cases latest with
        | none =>
            cases same
            exact .inr (by simp)
        | some other =>
            simp only [laterCheckpoint] at same
            split at same
            · cases same
              exact .inr (by simp)
            · exact .inl same
      · exact .inr (by simp [member])

/-- No row has a greater number than the one that is found. -/
theorem foldl_laterCheckpoint_max {rows : List CheckpointRecord}
    {latest : Option CheckpointRecord} {row : CheckpointRecord}
    (found : rows.foldl laterCheckpoint latest = some row) :
    (∀ first, latest = some first → first.sequence ≤ row.sequence) ∧
      ∀ other ∈ rows, other.sequence ≤ row.sequence := by
  induction rows generalizing latest with
  | nil =>
      refine ⟨fun first isFirst => ?_, by simp⟩
      rw [List.foldl_nil, isFirst] at found
      cases found
      exact Nat.le_refl _
  | cons head rows ih =>
      obtain ⟨bounded, others⟩ := ih found
      have headBounded : head.sequence ≤ row.sequence := by
        cases latest with
        | none => exact bounded head rfl
        | some first =>
            by_cases later : first.sequence < head.sequence
            · exact bounded head (if_pos later)
            · have kept := bounded first (if_neg later)
              omega
      refine ⟨fun first isFirst => ?_, fun other member => ?_⟩
      · subst isFirst
        by_cases later : first.sequence < head.sequence
        · omega
        · exact bounded first (if_neg later)
      · rcases List.mem_cons.mp member with rfl | member
        · exact headBounded
        · exact others other member

/-- The latest checkpoint of changed rows is the changed latest checkpoint. -/
theorem latestCheckpoint_mapCheckpoints {database : Database}
    {change : CheckpointRecord → CheckpointRecord}
    (same : ∀ row, (change row).unclassified = row.unclassified) (planId : String) :
    (database.mapCheckpoints change).latestCheckpoint planId =
      (database.latestCheckpoint planId).map change := by
  have samePlan : ∀ row, (change row).planId = row.planId :=
    fun row => (CheckpointRecord.eq_of_unclassified (same row)).2.1
  simp only [latestCheckpoint_eq_foldl, Database.mapCheckpoints, List.filter_map,
    Function.comp_def, samePlan]
  exact foldl_laterCheckpoint_map
    (fun row => (CheckpointRecord.eq_of_unclassified (same row)).2.2.1) _ none

/-- The latest checkpoint is one of the plan's. -/
theorem latestCheckpoint_mem {database : Database} {planId : String} {row : CheckpointRecord}
    (latest : database.latestCheckpoint planId = some row) :
    row ∈ database.checkpoints ∧ row.planId = planId := by
  rw [latestCheckpoint_eq_foldl] at latest
  rcases foldl_laterCheckpoint_mem latest with impossible | member
  · cases impossible
  · simpa using member

namespace StartupRecovery

open Program MaintenanceStore

/-! ### Classification -/

/-- The verdict depends on nothing that a startup writes. -/
def Stable (projections : Projections) : Prop :=
  ∀ first second firstRow secondRow, first.targetManifest = second.targetManifest →
    firstRow.unclassified = secondRow.unclassified →
    projections first firstRow = projections second secondRow

theorem defaultProjections_stable : Stable defaultProjections := by
  intro _ _ first second _ same
  simp only [CheckpointRecord.unclassified, CheckpointRecord.mk.injEq,
    CheckpointEvidence.mk.injEq] at same
  obtain ⟨_, _, _, _, _, sameState, _, sameObservation, ⟨sameSections, sameRoot, _⟩, _⟩ := same
  simp only [defaultProjections, observePersisted, sectionFor, sameState, sameObservation,
    sameSections, sameRoot]

variable {projections : Projections}

theorem Stable.classifyCheckpoint (stable : Stable projections) {first second : PlanRecord}
    {firstRow secondRow : CheckpointRecord}
    (sameManifest : first.targetManifest = second.targetManifest)
    (same : firstRow.unclassified = secondRow.unclassified) :
    classifyCheckpoint projections first firstRow =
      StartupRecovery.classifyCheckpoint projections second secondRow := by
  have sameKey := (CheckpointRecord.eq_of_unclassified same).2.2.2
  simp only [StartupRecovery.classifyCheckpoint, classifyHostRebootCheckpoint, sameManifest,
    sameKey, stable first second firstRow secondRow sameManifest same]

/-- Plans of one manifest are classified alike on rows that differ in their
classification only. -/
theorem Stable.classifyPlan (stable : Stable projections) {first second : PlanRecord}
    {before after : Database} {change : CheckpointRecord → CheckpointRecord}
    (same : ∀ row, (change row).unclassified = row.unclassified)
    (changed : after.checkpoints = before.checkpoints.map change)
    (sameId : second.id = first.id) (sameManifest : second.targetManifest = first.targetManifest) :
    classifyPlan projections after second = StartupRecovery.classifyPlan projections before first := by
  have latest : after.latestCheckpoint second.id = (before.latestCheckpoint first.id).map change := by
    rw [sameId, ← latestCheckpoint_mapCheckpoints same]
    simp only [Database.latestCheckpoint, Database.mapCheckpoints, changed]
  simp only [StartupRecovery.classifyPlan, latest]
  cases before.latestCheckpoint first.id with
  | none => rfl
  | some row => exact stable.classifyCheckpoint sameManifest (same row)

theorem classified_unclassified (evidence : StartupEvidence) (row : CheckpointRecord) :
    (classified evidence row).unclassified = row.unclassified :=
  rfl

/-- The reason of the plan's decision is stored with its latest checkpoint. -/
def Settled (projections : Projections) (database : Database) (plan : PlanRecord) : Prop :=
  ∀ row, database.latestCheckpoint plan.id = some row →
    row.recoveryEvidence.startupReasonCode =
      some (classifyPlan projections database plan).reasonCode

theorem persistDecision_of_settled {database : Database} {plan : PlanRecord}
    (settled : Settled projections database plan) :
    (persistDecision plan (classifyPlan projections database plan)).run database =
      (.returned (), database) := by
  simp only [persistDecision, run_bind, run_read]
  cases latest : database.latestCheckpoint plan.id with
  | none => rfl
  | some row =>
      simp only [settled row latest]
      rfl

/-- What the classification of some plans changes. -/
structure Reclassified (projections : Projections) (plans : List PlanRecord)
    (before after : Database) : Prop where
  rows : ∃ change : CheckpointRecord → CheckpointRecord,
    after = before.mapCheckpoints change ∧
      (∀ row, (change row).unclassified = row.unclassified) ∧
      ∀ row, row.planId ∉ plans.map (·.id) → change row = row
  settled : ∀ plan ∈ plans, Settled projections after plan

theorem mapCheckpoints_id (database : Database) : database.mapCheckpoints id = database := by
  simp only [Database.mapCheckpoints, List.map_id]

/-- One decision is persisted, or was. -/
theorem persistDecision_run (stable : Stable projections) {database : Database}
    (unique : (database.checkpoints.map (·.id)).Nodup) (plan : PlanRecord) :
    ∃ after, (persistDecision plan (classifyPlan projections database plan)).run database =
        (.returned (), after) ∧
      Reclassified projections [plan] database after := by
  by_cases settled : Settled projections database plan
  · refine ⟨database, persistDecision_of_settled settled, ⟨id, ?_, ?_, ?_⟩, ?_⟩
    · exact (mapCheckpoints_id database).symm
    · exact fun _ => rfl
    · exact fun _ _ => rfl
    · intro other member
      rw [List.mem_singleton.mp member]
      exact settled
  · obtain ⟨row, latest, unsettled⟩ : ∃ row, database.latestCheckpoint plan.id = some row ∧
        ¬ row.recoveryEvidence.startupReasonCode =
          some (classifyPlan projections database plan).reasonCode := by
      simp only [Settled, not_forall] at settled
      obtain ⟨row, latest, unsettled⟩ := settled
      exact ⟨row, latest, unsettled⟩
    obtain ⟨member, onPlan⟩ := latestCheckpoint_mem latest
    let evidence := startupEvidence plan row (classifyPlan projections database plan)
    let change : CheckpointRecord → CheckpointRecord := fun other =>
      if other.id = row.id then classified evidence other else other
    have same : ∀ other, (change other).unclassified = other.unclassified := by
      intro other
      simp only [change]
      split <;> rfl
    have changedRow : change row = classified evidence row := by simp [change]
    -- Only the plan's own latest checkpoint has this identifier.
    have others : ∀ other ∈ database.checkpoints, other.planId ≠ plan.id → change other = other := by
      intro other otherMember otherPlan
      simp only [change]
      rw [if_neg]
      intro sameId
      have sameRow := List.inj_on_of_nodup_map unique otherMember member sameId
      exact otherPlan (sameRow ▸ onPlan)
    let local' : CheckpointRecord → CheckpointRecord := fun other =>
      if other.planId = plan.id then change other else other
    have mapped : database.mapCheckpoints change = database.mapCheckpoints local' := by
      simp only [Database.mapCheckpoints]
      congr 1
      refine List.map_congr_left fun other otherMember => ?_
      simp only [local']
      split
      · rfl
      · exact others other otherMember (by assumption)
    refine ⟨database.mapCheckpoints change, ?_, ⟨local', mapped, ?_, ?_⟩, ?_⟩
    · have found := find?_of_nodup_key unique member
      simp only [persistDecision, persistStartupClassification, run_bind, run_read, latest]
      rw [if_neg unsettled]
      simp only [run_bind, run_read, found, run_require, run_update, change, evidence]
      simp
    · intro other
      simp only [local']
      split
      · exact same other
      · rfl
    · intro other elsewhere
      simp only [local']
      rw [if_neg (by simpa using elsewhere)]
    · intro other otherMember
      rw [List.mem_singleton.mp otherMember]
      intro newRow newLatest
      rw [latestCheckpoint_mapCheckpoints same, latest, Option.map_some, Option.some.injEq,
        changedRow] at newLatest
      rw [stable.classifyPlan same rfl rfl rfl, ← newLatest]
      rfl

/-- A classification keeps the settled plans that it does not look at. -/
theorem Settled.reclassified (stable : Stable projections) {before after : Database}
    {plan : PlanRecord} {plans : List PlanRecord} (settled : Settled projections before plan)
    (reclassified : Reclassified projections plans before after)
    (other : plan.id ∉ plans.map (·.id)) : Settled projections after plan := by
  obtain ⟨⟨change, rfl, same, elsewhere⟩, _⟩ := reclassified
  intro row latest
  rw [latestCheckpoint_mapCheckpoints same] at latest
  obtain ⟨source, isLatest, rfl⟩ := Option.map_eq_some_iff.mp latest
  have unchanged : change source = source :=
    elsewhere source (by rw [(latestCheckpoint_mem isLatest).2]; exact other)
  rw [stable.classifyPlan same rfl rfl rfl, unchanged]
  exact settled source isLatest

/-- The plans are classified as they are found, and every decision is stored. -/
theorem classifyPlans_run (stable : Stable projections) {plans : List PlanRecord}
    (planIds : (plans.map (·.id)).Nodup) {database : Database}
    (unique : (database.checkpoints.map (·.id)).Nodup) :
    ∃ after, (classifyPlans projections plans).run database =
        (.returned (plans.map fun plan => (plan, classifyPlan projections database plan)),
          after) ∧
      Reclassified projections plans database after := by
  induction plans generalizing database with
  | nil => exact ⟨database, rfl, ⟨id, (mapCheckpoints_id database).symm, fun _ => rfl,
      fun _ _ => rfl⟩, fun _ member => by cases member⟩
  | cons plan rest ih =>
      obtain ⟨notInRest, restIds⟩ := List.nodup_cons.mp planIds
      obtain ⟨middle, persisted, ⟨change, isMiddle, same, elsewhere⟩, settled⟩ :=
        persistDecision_run stable unique plan
      have middleUnique : (middle.checkpoints.map (·.id)).Nodup := by
        have sameIds : middle.checkpoints.map (·.id) = database.checkpoints.map (·.id) := by
          rw [isMiddle]
          simp only [Database.mapCheckpoints, List.map_map]
          exact List.map_congr_left fun row _ =>
            (CheckpointRecord.eq_of_unclassified (same row)).1
        rwa [sameIds]
      obtain ⟨after, classifiedRest, restReclassified⟩ := ih restIds middleUnique
      obtain ⟨⟨later, isAfter, laterSame, laterElsewhere⟩, restSettled⟩ := restReclassified
      have sameDecisions : ∀ other, classifyPlan projections middle other =
          classifyPlan projections database other := by
        intro other
        exact stable.classifyPlan same (by rw [isMiddle]; rfl) rfl rfl
      refine ⟨after, ?_, ⟨later ∘ change, ?_, ?_, ?_⟩, ?_⟩
      · simp only [classifyPlans, run_bind, run_read, persisted, classifiedRest, run_pure,
          List.map_cons, sameDecisions]
      · rw [isAfter, isMiddle]
        simp only [Database.mapCheckpoints, List.map_map]
      · exact fun row => (laterSame (change row)).trans (same row)
      · intro row notListed
        simp only [List.map_cons, List.mem_cons, not_or] at notListed
        simp only [Function.comp]
        rw [elsewhere row (by simpa using notListed.1)]
        exact laterElsewhere row notListed.2
      · intro other member
        rcases List.mem_cons.mp member with rfl | inRest
        · have here : Settled projections middle other := settled other (by simp)
          exact here.reclassified stable ⟨⟨later, isAfter, laterSame, laterElsewhere⟩, restSettled⟩
            notInRest
        · exact restSettled other inRest

/-! ### Transitions -/

/-- The state and the revision that a startup leaves a plan with. -/
def recoveredPlan (complete : Bool) (plan : PlanRecord) : PlanRecord :=
  match complete, plan.lifecycleState with
  | true, .paused =>
      { plan with lifecycleState := .succeeded, stateRevision := plan.stateRevision + 2 }
  | true, .executing | true, .recoveryRequired =>
      { plan with lifecycleState := .succeeded, stateRevision := plan.stateRevision + 1 }
  | false, .executing | false, .paused =>
      { plan with lifecycleState := .recoveryRequired, stateRevision := plan.stateRevision + 1 }
  | _, _ => plan

theorem recoveredPlan_id (complete : Bool) (plan : PlanRecord) :
    (recoveredPlan complete plan).id = plan.id := by
  simp only [recoveredPlan]
  split <;> rfl

theorem recoveredPlan_runId (complete : Bool) (plan : PlanRecord) :
    (recoveredPlan complete plan).runId = plan.runId := by
  simp only [recoveredPlan]
  split <;> rfl

theorem recoveredPlan_manifest (complete : Bool) (plan : PlanRecord) :
    (recoveredPlan complete plan).targetManifest = plan.targetManifest := by
  simp only [recoveredPlan]
  split <;> rfl

/-- A plan that was not interrupted stays as it is. -/
theorem recoveredPlan_of_calm (complete : Bool) {plan : PlanRecord}
    (calm : interrupted plan.lifecycleState = false) : recoveredPlan complete plan = plan := by
  cases state : plan.lifecycleState <;> cases complete <;>
    simp_all [recoveredPlan, interrupted]

/-- An interrupted plan succeeds when it is complete, and needs recovery otherwise. -/
theorem recoveredPlan_state (complete : Bool) {plan : PlanRecord}
    (isInterrupted : interrupted plan.lifecycleState = true) :
    (recoveredPlan complete plan).lifecycleState =
      if complete then .succeeded else .recoveryRequired := by
  cases state : plan.lifecycleState <;> cases complete <;>
    simp_all [recoveredPlan, interrupted]

/-- Store a plan in the place of the one with its identifier. -/
def setPlan (row : PlanRecord) (database : Database) : Database :=
  { database with
    plans := database.plans.map fun plan => if plan.id = row.id then row else plan }

/-- The plan after a transition. -/
def movedTo (target : MaintenanceState) (plan : PlanRecord) : PlanRecord :=
  { plan with lifecycleState := target, stateRevision := plan.stateRevision + 1 }

theorem setPlan_ids (row : PlanRecord) (database : Database) :
    (setPlan row database).plans.map (·.id) = database.plans.map (·.id) := by
  simp only [setPlan, List.map_map]
  refine List.map_congr_left fun plan _ => ?_
  simp only [Function.comp]
  split
  · exact Eq.symm (by assumption)
  · rfl

theorem mem_setPlan {row : PlanRecord} {database : Database}
    (listed : row.id ∈ database.plans.map (·.id)) : row ∈ (setPlan row database).plans := by
  obtain ⟨plan, member, sameId⟩ := List.mem_map.mp listed
  exact List.mem_map.mpr ⟨plan, member, if_pos sameId⟩

theorem movedTo_mem {plan : PlanRecord} {database : Database} (target : MaintenanceState)
    (member : plan ∈ database.plans) :
    movedTo target plan ∈ (setPlan (movedTo target plan) database).plans := by
  have listed : plan.id ∈ database.plans.map (·.id) := List.mem_map_of_mem member
  exact mem_setPlan listed

theorem mem_setPlan_of_ne {row plan : PlanRecord} {database : Database}
    (member : plan ∈ database.plans) (other : plan.id ≠ row.id) :
    plan ∈ (setPlan row database).plans :=
  List.mem_map.mpr ⟨plan, member, if_neg other⟩

/-- The later of two stored plans stays. -/
theorem setPlan_setPlan {first second : PlanRecord} (sameId : first.id = second.id)
    (database : Database) : setPlan second (setPlan first database) = setPlan second database := by
  simp only [setPlan, List.map_map]
  congr 1
  refine List.map_congr_left fun plan _ => ?_
  simp only [Function.comp, sameId]
  split <;> simp_all

/-- A stored plan in its own place changes nothing. -/
theorem setPlan_self {plan : PlanRecord} {database : Database}
    (planIds : (database.plans.map (·.id)).Nodup) (member : plan ∈ database.plans) :
    setPlan plan database = database := by
  have same : database.plans.map (fun other => if other.id = plan.id then plan else other) =
      database.plans := by
    refine (List.map_congr_left fun other otherMember => ?_).trans (List.map_id _)
    rw [id]
    split
    · exact (List.inj_on_of_nodup_map planIds otherMember member (by assumption)).symm
    · rfl
  simp only [setPlan, same]

theorem plan?_of_mem {database : Database} (planIds : (database.plans.map (·.id)).Nodup)
    {plan : PlanRecord} (member : plan ∈ database.plans) :
    database.plan? plan.id = some plan :=
  find?_of_nodup_key planIds member

theorem setLifecycleState_eq_setPlan {database : Database} {plan : PlanRecord}
    (planIds : (database.plans.map (·.id)).Nodup) (member : plan ∈ database.plans)
    (target : MaintenanceState) :
    database.setLifecycleState plan.id target = setPlan (movedTo target plan) database := by
  simp only [Database.setLifecycleState, setPlan]
  congr 1
  refine List.map_congr_left fun other otherMember => ?_
  by_cases sameId : other.id = plan.id
  · have same := List.inj_on_of_nodup_map planIds otherMember member sameId
    rw [if_pos sameId, same]
    exact (if_pos rfl).symm
  · rw [if_neg sameId]
    exact (if_neg sameId).symm

/-- A legal transition of a stored plan succeeds. -/
theorem transitionPlan_run {database : Database} {plan : PlanRecord}
    (planIds : (database.plans.map (·.id)).Nodup) (member : plan ∈ database.plans)
    {target : MaintenanceState} (other : plan.lifecycleState ≠ target)
    (legal : target ∈ plan.lifecycleState.transitions)
    (exclusive : (target.active && overlaps database plan) = false) :
    (transitionPlan plan.id plan.stateRevision target).run database =
      (.returned (movedTo target plan), setPlan (movedTo target plan) database) := by
  have found := plan?_of_mem planIds member
  have foundAfter : (setPlan (movedTo target plan) database).plan? plan.id =
      some (movedTo target plan) :=
    plan?_of_mem (by rwa [setPlan_ids]) (movedTo_mem target member)
  have valid : validatePlanTransition plan.lifecycleState target = .ok () := by
    simp only [validatePlanTransition, validateTransition, if_neg other]
    rw [if_neg (not_not_intro legal)]
  simp only [transitionPlan, getPlan, run_bind, run_read, found, run_pure, run_require, valid,
    Program.ofExcept, exclusive, run_update, setLifecycleState_eq_setPlan planIds member,
    foundAfter, decide_true, if_true, Bool.not_false]

/-- The runs after a plan was closed, if it was. -/
def closedRuns (complete : Bool) (plan : PlanRecord) (runs : List RunRow) : List RunRow :=
  runs.map fun run =>
    if complete ∧ plan.runId = some run.id then { run with status := .succeeded } else run

/-- A complete plan that executes or needs recovery succeeds. -/
theorem markSucceeded_run {database : Database} {plan : PlanRecord}
    (planIds : (database.plans.map (·.id)).Nodup) (member : plan ∈ database.plans)
    (closes : plan.lifecycleState = .executing ∨ plan.lifecycleState = .recoveryRequired) :
    (markSucceeded plan).run database =
      (.returned (), setPlan (movedTo .succeeded plan) database) := by
  have other : plan.lifecycleState ≠ .succeeded := by
    rcases closes with state | state <;> simp [state]
  have legal : MaintenanceState.succeeded ∈ plan.lifecycleState.transitions := by
    rcases closes with state | state <;> rw [state] <;> decide
  have moved := transitionPlan_run planIds member other legal rfl
  simp only [markSucceeded, if_pos closes, run_bind, moved, run_pure]

/-- What the complete branch does to the plan itself. -/
theorem resumeAndMark_run {database : Database} {plan : PlanRecord}
    (planIds : (database.plans.map (·.id)).Nodup) (member : plan ∈ database.plans)
    (exclusive : plan.lifecycleState.active → overlaps database plan = false) :
    (resumePaused plan >>= markSucceeded).run database =
      (.returned (), setPlan (recoveredPlan true plan) database) := by
  cases state : plan.lifecycleState with
  | paused =>
      have other : plan.lifecycleState ≠ .executing := by simp [state]
      have legal : MaintenanceState.executing ∈ plan.lifecycleState.transitions := by
        rw [state]
        decide
      have alone : overlaps database plan = false := exclusive (by rw [state]; rfl)
      have resumed := transitionPlan_run planIds member other legal (by rw [alone]; rfl)
      have resumedIds : ((setPlan (movedTo .executing plan) database).plans.map (·.id)).Nodup := by
        rwa [setPlan_ids]
      have moved := markSucceeded_run resumedIds (movedTo_mem .executing member) (.inl rfl)
      have sameId : (movedTo .executing plan).id = (movedTo .succeeded (movedTo .executing plan)).id :=
        rfl
      simp only [run_bind, resumePaused, if_pos state, resumed, moved]
      rw [setPlan_setPlan sameId]
      simp only [recoveredPlan, state]
      rfl
  | executing | recoveryRequired =>
      have moved := markSucceeded_run planIds member (by simp [state])
      have notPaused : ¬ plan.lifecycleState = .paused := by simp [state]
      simp only [run_bind, resumePaused, if_neg notPaused, run_pure, moved]
      simp only [recoveredPlan, state]
      rfl
  | draft | ready | blocked | succeeded | failed | cancelled =>
      have notPaused : ¬ plan.lifecycleState = .paused := by simp [state]
      have stays : ¬ (plan.lifecycleState = .executing ∨
          plan.lifecycleState = .recoveryRequired) := by simp [state]
      simp only [run_bind, resumePaused, if_neg notPaused, run_pure, markSucceeded, if_neg stays]
      rw [recoveredPlan_of_calm true (by rw [state]; rfl), setPlan_self planIds member]

/-- One plan of the loop is moved, and its run is closed when it is complete. -/
theorem recoverPlan_run {database : Database} {plan : PlanRecord}
    (planIds : (database.plans.map (·.id)).Nodup) (member : plan ∈ database.plans)
    (exclusive : plan.lifecycleState.active → overlaps database plan = false)
    (decision : RecoveryDecision) :
    (recoverPlan (plan, decision)).run database =
      (.returned (),
        { setPlan (recoveredPlan (decision.classification = .complete) plan) database with
          runs := closedRuns (decision.classification = .complete) plan database.runs }) := by
  by_cases complete : decision.classification = .complete
  · have moved := resumeAndMark_run planIds member exclusive
    have closed : (closePlan plan).run database =
        ((resumePaused plan >>= markSucceeded) >>= fun _ =>
          forEach plan.runId.toList fun runId => Runs.finishRun runId .succeeded).run database := by
      simp only [closePlan, run_bind]
      rcases (resumePaused plan).run database with ⟨outcome, after⟩
      cases outcome <;> rfl
    simp only [recoverPlan, if_pos complete, closed]
    rw [run_bind, moved]
    simp only [finishEach_run, complete, decide_true]
    congr 2
    simp only [closedRuns, setPlan, true_and]
    refine List.map_congr_left fun run _ => ?_
    congr 1
    simp
  · have runs : closedRuns false plan database.runs = database.runs := by
      simp [closedRuns]
    simp only [recoverPlan]
    rw [if_neg complete]
    simp only [complete, decide_false, runs]
    by_cases moves : plan.lifecycleState = .executing ∨ plan.lifecycleState = .paused
    · have other : plan.lifecycleState ≠ .recoveryRequired := by
        rcases moves with state | state <;> simp [state]
      have legal : MaintenanceState.recoveryRequired ∈ plan.lifecycleState.transitions := by
        rcases moves with state | state <;> rw [state] <;> decide
      have alone : overlaps database plan = false :=
        exclusive (by rcases moves with state | state <;> rw [state] <;> rfl)
      have moved := transitionPlan_run planIds member other legal (by rw [alone]; rfl)
      have isMoved : recoveredPlan false plan = movedTo .recoveryRequired plan := by
        rcases moves with state | state <;> simp only [recoveredPlan, state] <;> rfl
      rw [if_pos moves, run_bind, moved, isMoved]
      rfl
    · have same : recoveredPlan false plan = plan := by
        cases state : plan.lifecycleState <;> simp_all [recoveredPlan]
      rw [if_neg moves, same, setPlan_self planIds member]
      rfl

/-- The decision on every plan, as a function. -/
abbrev Verdict :=
  PlanRecord → RecoveryDecision

namespace Verdict

variable (verdict : Verdict)

/-- The plan is classified complete. -/
def complete (plan : PlanRecord) : Bool :=
  (verdict plan).classification = .complete

/-- The plans after the loop went over some of them. -/
def movedPlans (passed plans : List PlanRecord) : List PlanRecord :=
  plans.map fun plan =>
    if plan.id ∈ passed.map (·.id) then recoveredPlan (verdict.complete plan) plan else plan

/-- The runs after the loop went over some plans. -/
def closedRuns (passed : List PlanRecord) (runs : List RunRow) : List RunRow :=
  runs.map fun run =>
    if passed.any fun plan => verdict.complete plan && plan.runId = some run.id then
      { run with status := .succeeded }
    else run

end Verdict

/-- Plans are apart from each other unless one of them is inactive. -/
def Exclusive (plans : List PlanRecord) : Prop :=
  ∀ first ∈ plans, ∀ second ∈ plans, first.lifecycleState.active → second.lifecycleState.active →
    second.id ≠ first.id →
    ¬ ((first.targetNodeId.isSome ∧ second.targetNodeId = first.targetNodeId) ∨
      (first.targetClusterId.isSome ∧ second.targetClusterId = first.targetClusterId) ∨
      (first.targetAssignmentId.isSome ∧ second.targetAssignmentId = first.targetAssignmentId))

theorem exclusive_iff {database : Database} :
    Exclusive database.plans ↔ ∀ plan ∈ database.plans, plan.lifecycleState.active →
      overlaps database plan = false := by
  simp only [Exclusive, overlaps, List.any_eq_false, Bool.and_eq_true, Bool.or_eq_true,
    decide_eq_true_eq, not_and, not_or]
  constructor
  · intro apart plan member active other otherMember different
    have separate := apart plan member other otherMember active different.2 different.1
    tauto
  · intro apart first member second secondMember active secondActive different
    have separate := apart first member active second secondMember ⟨different, secondActive⟩
    tauto

/-- The targets and the identifier of a plan stay, and it does not become active. -/
theorem recoveredPlan_targets (complete : Bool) (plan : PlanRecord) :
    (recoveredPlan complete plan).targetNodeId = plan.targetNodeId ∧
      (recoveredPlan complete plan).targetClusterId = plan.targetClusterId ∧
      (recoveredPlan complete plan).targetAssignmentId = plan.targetAssignmentId ∧
      ((recoveredPlan complete plan).lifecycleState.active → plan.lifecycleState.active) := by
  cases complete <;> cases state : plan.lifecycleState <;>
    simp [recoveredPlan, state, MaintenanceState.active]

theorem Exclusive.setPlan {plans : List PlanRecord} (apart : Exclusive plans)
    {plan : PlanRecord} (member : plan ∈ plans) (complete : Bool) :
    Exclusive (plans.map fun other =>
      if other.id = (recoveredPlan complete plan).id then recoveredPlan complete plan
      else other) := by
  -- Every new row stems from an old one with its targets that is active if the new one is.
  have stems : ∀ row ∈ plans.map (fun other =>
      if other.id = (recoveredPlan complete plan).id then recoveredPlan complete plan
      else other), ∃ source ∈ plans, row.id = source.id ∧
        row.targetNodeId = source.targetNodeId ∧ row.targetClusterId = source.targetClusterId ∧
        row.targetAssignmentId = source.targetAssignmentId ∧
        (row.lifecycleState.active → source.lifecycleState.active) := by
    intro row rowMember
    obtain ⟨other, otherMember, rfl⟩ := List.mem_map.mp rowMember
    split
    · exact ⟨plan, member, recoveredPlan_id _ _, recoveredPlan_targets complete plan⟩
    · exact ⟨other, otherMember, rfl, rfl, rfl, rfl, fun active => active⟩
  intro first firstMember second secondMember firstActive secondActive different
  obtain ⟨firstSource, firstIn, firstId, firstNode, firstCluster, firstAssignment, firstStems⟩ :=
    stems first firstMember
  obtain ⟨secondSource, secondIn, secondId, secondNode, secondCluster, secondAssignment,
    secondStems⟩ := stems second secondMember
  rw [firstNode, firstCluster, firstAssignment, secondNode, secondCluster, secondAssignment]
  exact apart firstSource firstIn secondSource secondIn (firstStems firstActive)
    (secondStems secondActive) (by rwa [← firstId, ← secondId])

/-- The loop moves every plan that it goes over. -/
theorem recoverEach_run (verdict : Verdict) {passed : List PlanRecord}
    (passedIds : (passed.map (·.id)).Nodup) {database : Database}
    (planIds : (database.plans.map (·.id)).Nodup) (apart : Exclusive database.plans)
    (listed : ∀ plan ∈ passed, plan ∈ database.plans) :
    (forEach (passed.map fun plan => (plan, verdict plan)) recoverPlan).run database =
      (.returned (),
        { database with
          plans := verdict.movedPlans passed database.plans
          runs := verdict.closedRuns passed database.runs }) := by
  induction passed generalizing database with
  | nil => simp [forEach, Verdict.movedPlans, Verdict.closedRuns]
  | cons plan rest ih =>
      obtain ⟨notInRest, restIds⟩ := List.nodup_cons.mp passedIds
      have member := listed plan (by simp)
      have moved := recoverPlan_run planIds member (exclusive_iff.mp apart plan member)
        (verdict plan)
      simp only [List.map_cons, forEach, run_bind, moved]
      rw [ih restIds (by rwa [setPlan_ids]) (apart.setPlan member _)]
      · simp only [Prod.mk.injEq, true_and]
        congr 1
        · simp only [Verdict.movedPlans, setPlan, List.map_map]
          refine List.map_congr_left fun other otherMember => ?_
          simp only [Function.comp, recoveredPlan_id, List.map_cons, List.mem_cons]
          by_cases isPlan : other.id = plan.id
          · have same := List.inj_on_of_nodup_map planIds otherMember member isPlan
            rw [if_pos isPlan, recoveredPlan_id, if_neg notInRest, if_pos (.inl isPlan), same]
            rfl
          · simp [isPlan]
        · simp only [Verdict.closedRuns, StartupRecovery.closedRuns, List.map_map]
          refine List.map_congr_left fun run _ => ?_
          simp only [Function.comp, List.any_cons, Verdict.complete]
          by_cases isRun : (verdict plan).classification = .complete ∧ plan.runId = some run.id
          · simp [isRun]
          · have missed : (decide ((verdict plan).classification = .complete) &&
                decide (plan.runId = some run.id)) = false := by
              simpa using isRun
            simp only [decide_eq_true_eq, if_neg isRun, missed, Bool.false_or]
      · intro other inRest
        refine mem_setPlan_of_ne (listed other (by simp [inRest])) ?_
        rw [recoveredPlan_id]
        intro same
        exact notInRest (List.mem_map.mpr ⟨other, inRest, same⟩)

/-! ### The whole pass -/

/-- The runs that a startup protects: those of plans that are not complete. -/
def protectedRunIds (projections : Projections) (database : Database) : List Nat :=
  ((candidates database).filter fun plan =>
    !(Verdict.complete (classifyPlan projections database)) plan).filterMap (·.runId)

/-- `mark_recovery_required_in_connection` on the rows. -/
def markedRuns (runIds : List Nat) (runs : List RunRow) : List RunRow :=
  runs.map fun run =>
    if run.id ∈ runIds ∧ (run.status = .queued ∨ run.status = .running) then
      { run with status := .recoveryRequired }
    else run

/-- What a pass makes of a database. -/
structure Recovered (projections : Projections) (before after : Database) : Prop where
  plans : after.plans = before.plans.map fun plan =>
    recoveredPlan (Verdict.complete (classifyPlan projections before) plan) plan
  runs : after.runs = markedRuns (protectedRunIds projections before)
    (Verdict.closedRuns (classifyPlan projections before) (candidates before) before.runs)
  checkpoints : ∃ change : CheckpointRecord → CheckpointRecord,
    after.checkpoints = before.checkpoints.map change ∧
      ∀ row, (change row).unclassified = row.unclassified
  settled : ∀ plan ∈ candidates before, Settled projections after plan

theorem candidates_ids {database : Database} (planIds : (database.plans.map (·.id)).Nodup) :
    ((candidates database).map (·.id)).Nodup :=
  planIds.sublist (List.filter_sublist.map _)

/-- Plans that are not looked at were not interrupted. -/
theorem movedPlans_candidates (verdict : Verdict) (database : Database) :
    verdict.movedPlans (candidates database) database.plans =
      database.plans.map fun plan => recoveredPlan (verdict.complete plan) plan := by
  refine List.map_congr_left fun plan member => ?_
  split
  · rfl
  · rename_i notListed
    have calm : interrupted plan.lifecycleState = false := by
      by_contra isInterrupted
      rw [Bool.not_eq_false] at isInterrupted
      refine notListed (List.mem_map_of_mem (List.mem_filter.mpr ⟨member, ?_⟩))
      simp [isInterrupted]
    exact (recoveredPlan_of_calm _ calm).symm

theorem prepareStartupRecovery_run (stable : Stable projections) {database : Database}
    (sound : database.PlansSound) :
    ∃ after, (prepareStartupRecovery projections).run database = (.returned (), after) ∧
      Recovered projections database after := by
  have passedIds := candidates_ids sound.plan_ids
  obtain ⟨middle, ranClassify, ⟨change, isMiddle, same, _⟩, settled⟩ :=
    classifyPlans_run stable passedIds sound.checkpoint_ids
  have samePlans : middle.plans = database.plans := by rw [isMiddle]; rfl
  have sameRuns : middle.runs = database.runs := by rw [isMiddle]; rfl
  have apart : Exclusive middle.plans := by
    rw [samePlans]
    exact exclusive_iff.mpr sound.exclusive
  have middleIds : (middle.plans.map (·.id)).Nodup := by
    rw [samePlans]
    exact sound.plan_ids
  have listed : ∀ plan ∈ candidates database, plan ∈ middle.plans := by
    intro plan member
    rw [samePlans]
    exact (List.mem_filter.mp member).1
  have ranLoop := recoverEach_run (classifyPlan projections database) passedIds middleIds apart listed
  rw [samePlans, sameRuns, movedPlans_candidates] at ranLoop
  have ids : (((candidates database).map fun plan =>
      (plan, classifyPlan projections database plan)).filter fun entry =>
        entry.2.classification ≠ .complete).filterMap (fun entry => entry.1.runId) =
      protectedRunIds projections database := by
    simp [protectedRunIds, Verdict.complete, List.filter_map, List.filterMap_map,
      Function.comp_def]
  refine ⟨{ middle with
      plans := database.plans.map fun plan =>
        recoveredPlan (Verdict.complete (classifyPlan projections database) plan) plan
      runs := markedRuns (protectedRunIds projections database)
        (Verdict.closedRuns (classifyPlan projections database) (candidates database)
          database.runs) }, ?_, rfl, rfl, ⟨change, ?_, same⟩, ?_⟩
  · simp only [prepareStartupRecovery, run_bind, run_read, ranClassify, ranLoop, ids,
      Runs.markRecoveryRequired, run_update]
    rfl
  · simp only [isMiddle]
    rfl
  · intro plan member row latest
    exact settled plan member row latest

/-! ### A second pass -/

section Again

variable {before after : Database}

theorem Recovered.classifyPlan (recovered : Recovered projections before after)
    (stable : Stable projections) {plan other : PlanRecord} (sameId : other.id = plan.id)
    (sameManifest : other.targetManifest = plan.targetManifest) :
    classifyPlan projections after other =
      StartupRecovery.classifyPlan projections before plan := by
  obtain ⟨change, changed, same⟩ := recovered.checkpoints
  exact stable.classifyPlan same changed sameId sameManifest

/-- The status of a run after a pass. -/
def passedStatus (projections : Projections) (before : Database) (run : RunRow) : RunStatus :=
  if (candidates before).any fun plan =>
      Verdict.complete (StartupRecovery.classifyPlan projections before) plan &&
        plan.runId = some run.id then
    .succeeded
  else if run.id ∈ protectedRunIds projections before ∧
      (run.status = .queued ∨ run.status = .running) then
    .recoveryRequired
  else run.status

theorem Recovered.runs_eq (recovered : Recovered projections before after) :
    after.runs = before.runs.map fun run =>
      { run with status := passedStatus projections before run } := by
  rw [recovered.runs]
  simp only [markedRuns, Verdict.closedRuns, List.map_map]
  refine List.map_congr_left fun run _ => ?_
  simp only [Function.comp, passedStatus]
  split
  · simp
  · split <;> rfl

theorem Recovered.runStatus? (recovered : Recovered projections before after) (runId : Nat) :
    after.runStatus? runId =
      (before.run? runId).map (passedStatus projections before) := by
  simp only [Database.runStatus?, Database.run?, recovered.runs_eq, List.find?_map,
    Option.map_map, Function.comp_def]

theorem passedStatus_active {run : RunRow}
    (active : (passedStatus projections before run).active) : run.status.active := by
  simp only [passedStatus] at active
  split at active
  · cases active
  · split at active
    · rename_i marked
      rcases marked.2 with status | status <;> rw [status] <;> rfl
    · exact active

/-- A plan that a second pass looks at was looked at before and is not complete. -/
theorem Recovered.candidate (recovered : Recovered projections before after)
    {plan : PlanRecord} (member : plan ∈ before.plans)
    (again : recoveredPlan (Verdict.complete (StartupRecovery.classifyPlan projections before) plan)
      plan ∈ candidates after) :
    plan ∈ candidates before ∧
      Verdict.complete (StartupRecovery.classifyPlan projections before) plan = false := by
  obtain ⟨_, kept⟩ := List.mem_filter.mp again
  rw [Bool.or_eq_true, recoveredPlan_runId] at kept
  -- A run that is active after the pass was active before.
  have wasActive : ∀ runId, plan.runId = some runId → (after.runStatus? runId).any (·.active) →
      ∃ run, before.run? runId = some run ∧ (passedStatus projections before run).active := by
    intro runId _ active
    rw [recovered.runStatus?] at active
    cases found : before.run? runId with
    | none => simp [found] at active
    | some run => exact ⟨run, rfl, by simpa [found] using active⟩
  have listed : plan ∈ candidates before := by
    refine List.mem_filter.mpr ⟨member, ?_⟩
    by_cases isInterrupted : interrupted plan.lifecycleState
    · simp [isInterrupted]
    · rw [recoveredPlan_of_calm _ (by simpa using isInterrupted)] at kept
      rcases kept with interruptedAfter | active
      · exact absurd interruptedAfter isInterrupted
      · obtain ⟨runId, owned, active⟩ := (Option.any_eq_true _ _).mp active
        obtain ⟨run, found, stillActive⟩ := wasActive runId owned active
        simp [owned, Database.runStatus?, found, passedStatus_active stillActive]
  refine ⟨listed, ?_⟩
  by_contra complete
  rw [Bool.not_eq_false] at complete
  rcases kept with interruptedAfter | active
  · by_cases isInterrupted : interrupted plan.lifecycleState
    · rw [recoveredPlan_state _ isInterrupted, complete] at interruptedAfter
      cases interruptedAfter
    · rw [recoveredPlan_of_calm _ (by simpa using isInterrupted)] at interruptedAfter
      exact isInterrupted interruptedAfter
  · obtain ⟨runId, owned, active⟩ := (Option.any_eq_true _ _).mp active
    obtain ⟨run, found, stillActive⟩ := wasActive runId owned active
    have isRun : run.id = runId := by simpa using List.find?_some found
    have closed : passedStatus projections before run = .succeeded := by
      simp only [passedStatus]
      rw [if_pos]
      exact List.any_eq_true.mpr ⟨plan, listed, by simp [complete, owned, isRun]⟩
    rw [closed] at stillActive
    cases stillActive

/-- A protected run does not stay queued or running. -/
theorem Recovered.protected (recovered : Recovered projections before after) {run : RunRow}
    (member : run ∈ after.runs) (isProtected : run.id ∈ protectedRunIds projections before) :
    run.status ≠ .queued ∧ run.status ≠ .running := by
  rw [recovered.runs_eq] at member
  obtain ⟨source, _, rfl⟩ := List.mem_map.mp member
  simp only at isProtected ⊢
  simp only [passedStatus]
  split
  · simp
  · split
    · simp
    · rename_i unmarked
      simp only [isProtected, true_and, not_or] at unmarked
      exact unmarked

/-- What a second pass looks at: plans that need recovery and are not complete. -/
theorem Recovered.second_candidate (recovered : Recovered projections before after)
    (stable : Stable projections) {plan : PlanRecord} (again : plan ∈ candidates after) :
    Settled projections after plan ∧
      Verdict.complete (StartupRecovery.classifyPlan projections after) plan = false ∧
      ¬ (plan.lifecycleState = .executing ∨ plan.lifecycleState = .paused) ∧
      ∀ runId, plan.runId = some runId → runId ∈ protectedRunIds projections before := by
  have member := (List.mem_filter.mp again).1
  rw [recovered.plans] at member
  obtain ⟨source, sourceMember, rfl⟩ := List.mem_map.mp member
  obtain ⟨listed, incomplete⟩ := recovered.candidate sourceMember again
  have sameDecision := recovered.classifyPlan stable
    (recoveredPlan_id (Verdict.complete (StartupRecovery.classifyPlan projections before) source)
      source) (recoveredPlan_manifest _ source)
  refine ⟨?_, ?_, ?_, ?_⟩
  · intro row latest
    rw [recoveredPlan_id] at latest
    have settled := recovered.settled source listed row latest
    rw [sameDecision, settled, recovered.classifyPlan stable rfl rfl]
  · rw [Verdict.complete, sameDecision]
    exact incomplete
  · by_cases isInterrupted : interrupted source.lifecycleState
    · rw [recoveredPlan_state _ isInterrupted, incomplete]
      simp
    · rw [recoveredPlan_of_calm _ (by simpa using isInterrupted)]
      cases state : source.lifecycleState <;> rw [state] at isInterrupted <;>
        simp_all [interrupted]
  · intro runId owned
    rw [recoveredPlan_runId] at owned
    refine List.mem_filterMap.mpr ⟨source, List.mem_filter.mpr ⟨listed, ?_⟩, owned⟩
    simp [incomplete]

theorem classifyPlans_of_settled {plans : List PlanRecord} {database : Database}
    (settled : ∀ plan ∈ plans, Settled projections database plan) :
    (classifyPlans projections plans).run database =
      (.returned (plans.map fun plan =>
        (plan, StartupRecovery.classifyPlan projections database plan)), database) := by
  induction plans with
  | nil => rfl
  | cons plan rest ih =>
      have first := persistDecision_of_settled (settled plan (by simp))
      have others := ih fun other member => settled other (by simp [member])
      simp only [classifyPlans, run_bind, run_read, first, others, run_pure, List.map_cons]

/-- The loop does nothing about plans that need recovery. -/
theorem recoverEach_of_calm {entries : List (PlanRecord × RecoveryDecision)}
    (calm : ∀ entry ∈ entries, entry.2.classification ≠ .complete ∧
      ¬ (entry.1.lifecycleState = .executing ∨ entry.1.lifecycleState = .paused))
    (database : Database) :
    (forEach entries recoverPlan).run database = (.returned (), database) := by
  induction entries with
  | nil => rfl
  | cons entry rest ih =>
      obtain ⟨incomplete, still⟩ := calm entry (by simp)
      have others := ih fun other member => calm other (by simp [member])
      simp only [forEach, run_bind, recoverPlan, if_neg incomplete, if_neg still, run_pure, others]

/-- A second pass changes nothing at all. -/
theorem Recovered.second_pass (recovered : Recovered projections before after)
    (stable : Stable projections) :
    (prepareStartupRecovery projections).run after = (.returned (), after) := by
  have looked := fun plan (again : plan ∈ candidates after) =>
    recovered.second_candidate stable again
  have ranClassify := classifyPlans_of_settled fun plan again => (looked plan again).1
  have ranLoop : (forEach ((candidates after).map fun plan =>
      (plan, StartupRecovery.classifyPlan projections after plan)) recoverPlan).run after =
      (.returned (), after) := by
    refine recoverEach_of_calm (fun entry member => ?_) after
    obtain ⟨plan, again, rfl⟩ := List.mem_map.mp member
    obtain ⟨_, incomplete, still, _⟩ := looked plan again
    exact ⟨by simpa [Verdict.complete] using incomplete, still⟩
  simp only [prepareStartupRecovery, run_bind, run_read, ranClassify, ranLoop,
    Runs.markRecoveryRequired, run_update]
  -- No run that would be marked is still queued or running.
  have same : after.runs.map (fun run =>
      if run.id ∈ (((candidates after).map fun plan =>
          (plan, StartupRecovery.classifyPlan projections after plan)).filter fun entry =>
            entry.2.classification ≠ .complete).filterMap (fun entry => entry.1.runId) ∧
          (run.status = .queued ∨ run.status = .running) then
        { run with status := .recoveryRequired }
      else run) = after.runs := by
    refine (List.map_congr_left fun run member => ?_).trans (List.map_id _)
    rw [id, if_neg]
    rintro ⟨marked, unfinished⟩
    obtain ⟨entry, entryMember, owned⟩ := List.mem_filterMap.mp marked
    obtain ⟨plan, again, rfl⟩ := List.mem_map.mp (List.mem_filter.mp entryMember).1
    have isProtected := (looked plan again).2.2.2 run.id owned
    have finished := recovered.protected member isProtected
    rcases unfinished with status | status
    · exact finished.1 status
    · exact finished.2 status
  rw [same]

end Again

/-! ### The rest of the bootstrap -/

/-- The runs of these identifiers are neither queued nor running, and those that
failed are among the given ones. -/
def Closed (runIds failedIds : List Nat) (database : Database) : Prop :=
  ∀ run ∈ database.runs, run.id ∈ runIds →
    run.status ≠ .queued ∧ run.status ≠ .running ∧
      (run.status = .failed → run.id ∈ failedIds)

/-- Changes of other runs keep the runs closed. -/
theorem Closed.of_map {runIds failedIds : List Nat} {before after : Database}
    (closed : Closed runIds failedIds before) {change : RunRow → RunRow}
    (changed : after.runs = before.runs.map change) (sameId : ∀ run, (change run).id = run.id)
    (same : ∀ run ∈ before.runs, run.id ∈ runIds → run.status ≠ .queued →
      run.status ≠ .running → (change run).status = run.status) : Closed runIds failedIds after := by
  intro run member listed
  rw [changed] at member
  obtain ⟨source, sourceMember, rfl⟩ := List.mem_map.mp member
  rw [sameId] at listed
  obtain ⟨notQueued, notRunning, wasFailed⟩ := closed source sourceMember listed
  rw [same source sourceMember listed notQueued notRunning, sameId]
  exact ⟨notQueued, notRunning, wasFailed⟩

section Rest

variable {runIds failedIds : List Nat}

/-- Operations that leave closed runs closed. -/
abbrev KeepsClosed (runIds failedIds : List Nat) (before after : Database) : Prop :=
  Closed runIds failedIds before → Closed runIds failedIds after

theorem markRecoveryRequired_keepsClosed (marked : List Nat) :
    Moves (KeepsClosed runIds failedIds) (Runs.markRecoveryRequired marked) := by
  refine .update fun database closed => ?_
  refine closed.of_map rfl (fun run => ?_) fun run _ _ notQueued notRunning => ?_
  · split <;> rfl
  · rw [if_neg]
    rintro ⟨_, status | status⟩
    · exact notQueued status
    · exact notRunning status

theorem reconcilePlan_keepsClosed (planId : String) :
    Moves (KeepsClosed runIds failedIds) (reconcilePlan planId) := by
  have moved : ∀ owner revision target, Moves (KeepsClosed runIds failedIds)
      (transitionPlan owner revision target) :=
    fun _ _ _ => transitionPlan_moves fun _ closed => closed
  refine .bind (getPlan_moves planId) fun plan => ?_
  refine .bind (.require _ _) fun _ => ?_
  refine .bind ?_ fun _ => .bind (markRecoveryRequired_keepsClosed _) fun _ => ?_
  · simp only [requireRecovery]
    split
    · exact .bind (moved _ _ _) fun _ => .pure _
    · exact .require _ _
  refine .bind (.forEach fun nodeId _ => ?_) fun _ => .forEach fun assignmentId _ => ?_
  · refine .bind (.read _) fun found => ?_
    cases found with
    | none => exact .pure _
    | some host =>
        dsimp only
        split
        · exact .bind (transitionHostState_moves (fun _ _ closed => closed)
            fun _ _ _ closed => closed) fun _ => .pure _
        · exact .pure _
  · refine .bind (.read _) fun found => ?_
    cases found with
    | none => exact .pure _
    | some state =>
        dsimp only
        split
        · exact .bind (transitionAssignmentState_moves (fun _ _ closed => closed)
            fun _ _ _ closed => closed) fun _ => .pure _
        · exact .pure _

theorem reconcileStartupWorkflows_keepsClosed :
    Moves (KeepsClosed runIds failedIds) reconcileStartupWorkflows :=
  .bind (.read _) fun _ => .forEach fun _ _ => reconcilePlan_keepsClosed _

/-- Only queued and running runs are abandoned. -/
theorem closeAbandonedRuns_closed {database : Database}
    (closed : Closed runIds failedIds database) :
    Closed runIds failedIds (closeAbandonedRuns.run database).2 := by
  let cleaned := dropOrphans database
  let phased := cleaned.mapBatches fun row =>
    if row.runId ∈ interruptedBatches cleaned then { row with phase := .rollingBack } else row
  let marked := ((Runs.markRecoveryRequired (interruptedBatches cleaned)).run phased).2
  have markedClosed : Closed runIds failedIds marked :=
    (markRecoveryRequired_keepsClosed (interruptedBatches cleaned)).keeps
      (fun _ _ keeps => keeps) closed
  have ended : (closeAbandonedRuns.run database).2 =
      { marked with
        runs := marked.runs.map fun run =>
          if run.id ∈ (marked.runs.filter (abandoned marked)).map (·.id) then
            { run with status := .failed }
          else run } := by
    simp only [closeAbandonedRuns, run_bind, run_update, run_read, finishEach_run]
    rfl
  rw [ended]
  refine markedClosed.of_map rfl (fun run => ?_) fun run _ listed _ _ => ?_
  · split <;> rfl
  · rw [if_neg]
    intro isAbandoned
    obtain ⟨other, otherMember, sameId⟩ := List.mem_map.mp isAbandoned
    obtain ⟨inRuns, unfinished⟩ := List.mem_filter.mp otherMember
    obtain ⟨notQueued, notRunning, _⟩ := markedClosed other inRuns (by rw [sameId]; exact listed)
    simp [abandoned, notQueued, notRunning] at unfinished

end Rest

/-- The part of the bootstrap after `prepare_startup_recovery`. -/
def restOfBootstrap : Operation Unit := do
  reconcileStartupWorkflows
  closeAbandonedRuns

theorem completeControllerBootstrap_eq (projections : Projections) :
    completeControllerBootstrap projections =
      (prepareStartupRecovery projections >>= fun _ => restOfBootstrap) :=
  rfl

/-- The rest of the bootstrap fails no run that was closed, however it ends. -/
theorem restOfBootstrap_closed {runIds failedIds : List Nat} {database : Database}
    (closed : Closed runIds failedIds database) :
    Closed runIds failedIds (restOfBootstrap.run database).2 := by
  have reconciled : Closed runIds failedIds (reconcileStartupWorkflows.run database).2 :=
    reconcileStartupWorkflows_keepsClosed.keeps (fun _ _ keeps => keeps) closed
  simp only [restOfBootstrap, run_bind]
  rcases ran : reconcileStartupWorkflows.run database with ⟨outcome, after⟩
  rw [ran] at reconciled
  cases outcome with
  | returned _ => exact closeAbandonedRuns_closed reconciled
  | raised error => exact reconciled
  | stopped => exact reconciled

end StartupRecovery

open Program StartupRecovery in
/-- Startup recovery returns on every database that keeps its keys.  No plan is left executing
or paused; an interrupted plan has succeeded exactly when its latest checkpoint was classified
complete and needs recovery otherwise, and every other plan is as it was.  A second pass changes
nothing, and the rest of the bootstrap marks no protected run as failed. -/
theorem startup_recovery_protects (database : Database) (sound : database.PlansSound) :
    ∃ after, (prepareStartupRecovery defaultProjections).run database = (.returned (), after) ∧
      (∀ plan ∈ after.plans, plan.lifecycleState ≠ .executing ∧ plan.lifecycleState ≠ .paused) ∧
      after.plans.map (·.id) = database.plans.map (·.id) ∧
      (∀ plan ∈ database.plans, ∃ recovered ∈ after.plans, recovered.id = plan.id ∧
        (if interrupted plan.lifecycleState then
          recovered.lifecycleState =
            if (classifyPlan defaultProjections database plan).classification = .complete then
              .succeeded
            else .recoveryRequired
        else recovered = plan)) ∧
      (prepareStartupRecovery defaultProjections).run after = (.returned (), after) ∧
      ∀ run ∈ (restOfBootstrap.run after).2.runs,
        run.id ∈ protectedRunIds defaultProjections database → run.status = .failed →
        ∃ earlier ∈ after.runs, earlier.id = run.id ∧ earlier.status = .failed := by
  obtain ⟨after, ran, recovered⟩ :=
    prepareStartupRecovery_run defaultProjections_stable sound
  refine ⟨after, ran, ?_, ?_, ?_, recovered.second_pass defaultProjections_stable, ?_⟩
  · intro plan member
    rw [recovered.plans] at member
    obtain ⟨source, _, rfl⟩ := List.mem_map.mp member
    by_cases isInterrupted : interrupted source.lifecycleState
    · rw [recoveredPlan_state _ isInterrupted]
      split <;> simp
    · rw [recoveredPlan_of_calm _ (by simpa using isInterrupted)]
      cases state : source.lifecycleState <;> simp_all [interrupted]
  · rw [recovered.plans, List.map_map]
    exact List.map_congr_left fun plan _ => recoveredPlan_id _ plan
  · intro plan member
    refine ⟨_, recovered.plans ▸ List.mem_map_of_mem member, recoveredPlan_id _ plan, ?_⟩
    split
    · rename_i isInterrupted
      rw [recoveredPlan_state _ isInterrupted]
      simp only [Verdict.complete, decide_eq_true_eq]
    · rename_i calm
      exact recoveredPlan_of_calm _ (by simpa using calm)
  · -- The failed runs of the rest were failed before it.
    have closed : Closed (protectedRunIds defaultProjections database)
        ((after.runs.filter (·.status = .failed)).map (·.id)) after := by
      intro run member listed
      obtain ⟨notQueued, notRunning⟩ := recovered.protected member listed
      refine ⟨notQueued, notRunning, fun failed => List.mem_map_of_mem ?_⟩
      exact List.mem_filter.mpr ⟨member, by simp [failed]⟩
    intro run member listed failed
    obtain ⟨_, _, wasFailed⟩ := restOfBootstrap_closed closed run member listed
    obtain ⟨earlier, earlierMember, sameId⟩ := List.mem_map.mp (wasFailed failed)
    obtain ⟨inRuns, isFailed⟩ := List.mem_filter.mp earlierMember
    exact ⟨earlier, inRuns, sameId, by simpa using isFailed⟩

/-- A plan that was executing when the controller stopped. -/
def interruptedPlan : PlanRecord where
  id := "plan"
  runId := some 1
  operationKind := .reboot
  targetNodeId := some 4
  targetClusterId := none
  targetAssignmentId := none
  observationMaxAgeSeconds := 120
  observation := ⟨none, none, []⟩
  planHash := ""
  targetManifest := ⟨some "host_maintenance", [(1, 1)], [], [7], none⟩
  lifecycleState := .executing
  stateRevision := 2
  expiresAt := 0

/-- The plan, its running run and a reboot that was announced. -/
def interruptedDatabase : Database :=
  { Database.empty with
    plans := [interruptedPlan]
    checkpoints := [⟨1, "plan", none, .rebootIntent, 5700, .prepared, .intent "plan" 4, .obj [],
      {}, none, none, none, 1⟩]
    runs := [⟨1, "maintenance-reboot", "node-4", .running, []⟩]
    checkpointCounter := 1 }

open Program StartupRecovery in
theorem startup_recovery_protects_interrupted :
    ∃ after, (prepareStartupRecovery defaultProjections).run interruptedDatabase =
        (.returned (), after) ∧
      ∃ recovered ∈ after.plans, recovered.id = "plan" ∧
        recovered.lifecycleState = .recoveryRequired := by
  have sound : interruptedDatabase.PlansSound := ⟨by decide, by decide, by decide⟩
  obtain ⟨after, ran, _, _, each, _, _⟩ := startup_recovery_protects interruptedDatabase sound
  obtain ⟨recovered, member, sameId, state⟩ := each interruptedPlan (by decide)
  refine ⟨after, ran, recovered, member, sameId, ?_⟩
  have isInterrupted : interrupted interruptedPlan.lifecycleState = true := by decide
  have incomplete : (classifyPlan defaultProjections interruptedDatabase
      interruptedPlan).classification ≠ .complete := by decide
  rw [if_pos isInterrupted, if_neg incomplete] at state
  exact state

end ElKeeper
