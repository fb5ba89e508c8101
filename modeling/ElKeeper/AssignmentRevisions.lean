import ElKeeper.ResourceUpdates
import ElKeeper.WorkloadSettlement

/-!
# What the revision of an assignment stands for

Change sets and maintenance plans compare the revision of an assignment with the
one they were computed from.  Only the finalization of a resource change raises
it, so the comparison is faithful as long as no other statement changes the
contents of a row and no identifier is used twice.
-/

namespace ElKeeper

open Program WorkloadStore

/-- The columns that a change set or a maintenance plan is computed from. -/
structure AssignmentContents where
  config : Dict
  imageVersion : Option String
  state : AssignmentState
deriving DecidableEq

def AssignmentRow.contents (row : AssignmentRow) : AssignmentContents where
  config := openConfig row.config
  imageVersion := row.imageVersion
  state := row.state

/-- The statements of the repository that write to `cluster_assignments`. -/
inductive AssignmentWrite where
  | upsert (clusterId nodeId : Nat) (role : Role) (config : Dict)
  | updateConfig (assignmentId : Nat) (config : Dict)
  | restoreConfig (assignmentId : Nat) (config : Dict)
  | setImageVersion (assignmentId : Nat) (version : String)
  | stageBatch (clusterId runId : Nat) (changes : List PlannedChange)
  | finalizeBatch (runId : Nat) (changes : List StagedChange)
  | releaseBatch (runId : Nat) (changes : List StagedChange)
  | claimOperations (assignmentIds : List Nat) (runId : Nat)
  | clearOperationForNode (nodeId runId : Nat)
  | claim (assignmentId expectedRevision runId : Nat)
  | release (assignmentId runId : Nat)
  | delete (assignmentId : Nat)

namespace AssignmentWrite

/-- The committed database after the write; one that raises is rolled back. -/
def perform (database : Database) : AssignmentWrite → Database
  | upsert clusterId nodeId role config =>
      ResourceController.committed (upsertAssignment clusterId nodeId role config) database
  | updateConfig assignmentId config | restoreConfig assignmentId config =>
      ResourceUpdates.writeConfig assignmentId config database
  | setImageVersion assignmentId version =>
      WorkloadStore.setImageVersion assignmentId version database
  | stageBatch clusterId runId changes =>
      ResourceController.committed (stageBatchChanges clusterId runId changes) database
  | finalizeBatch runId changes => WorkloadStore.finalizeBatch runId changes database
  | releaseBatch runId changes => WorkloadStore.releaseBatch runId changes database
  | claimOperations assignmentIds runId =>
      ResourceController.committed (WorkloadStore.claimOperations assignmentIds runId) database
  | clearOperationForNode nodeId runId =>
      WorkloadStore.clearOperationForNode nodeId runId database
  | claim assignmentId expectedRevision runId =>
      ResourceController.committed
        (claimAssignmentOperation assignmentId expectedRevision runId) database
  | release assignmentId runId =>
      ResourceController.committed (releaseAssignmentOperation assignmentId runId) database
  | delete assignmentId => deleteAssignment assignmentId database

/-- The databases of a run, the first one included. -/
def states : Database → List AssignmentWrite → List Database
  | database, [] => [database]
  | database, write :: writes => database :: states (write.perform database) writes

end AssignmentWrite

/-- The identifiers that rows have had. -/
abbrev UsedIds :=
  List Nat

namespace Database

def assignmentIds (database : Database) : List Nat :=
  database.assignments.map (·.id)

/-- A new row gets an identifier that was never used. -/
def NeverReuses (used : UsedIds) (database : Database) : Prop :=
  ∀ identifier ∈ used, identifier < nextId database.assignmentIds

end Database

namespace AssignmentWrite

/-- When a write keeps revisions faithful: it stores what is there, or it creates a row under
an identifier that was never used, or it raises the revision. -/
def Faithful (used : UsedIds) (database : Database) : AssignmentWrite → Prop
  | upsert clusterId nodeId role config =>
      match database.assignments.find? (sitsAt clusterId nodeId role) with
      | some _ => ∀ row ∈ database.assignments, sitsAt clusterId nodeId role row →
          openConfig row.config = config ∧ row.state = .active
      | none => database.NeverReuses used
  | updateConfig assignmentId config | restoreConfig assignmentId config =>
      ∀ row ∈ database.assignments, row.id = assignmentId → openConfig row.config = config
  | setImageVersion assignmentId version =>
      ∀ row ∈ database.assignments, row.id = assignmentId → row.imageVersion = some version
  | stageBatch _ _ changes =>
      (∃ change ∈ changes, change.detail.assignmentId? = none) → database.NeverReuses used
  | finalizeBatch runId changes =>
      ∀ change ∈ changes, change.detail.assignmentId? = none →
        ∀ row ∈ database.assignments, row.claimedBy change.assignmentId runId = false
  | _ => True

/-- Every write of a run meets its condition where it is performed. -/
def EachFaithful : UsedIds → Database → List AssignmentWrite → Prop
  | _, _, [] => True
  | used, database, write :: writes =>
      write.Faithful used database ∧
        EachFaithful (used ++ (write.perform database).assignmentIds) (write.perform database)
          writes

end AssignmentWrite

/-! ### One write -/

/-- Every row goes back to one of the same identifier, with the same contents unless its
revision was raised, or its identifier was never used. -/
def Advances (used : UsedIds) (before after : List AssignmentRow) : Prop :=
  ∀ row ∈ after, row.id ∉ used ∨ ∃ source ∈ before, source.id = row.id ∧
    source.revision ≤ row.revision ∧
      (source.revision = row.revision → source.contents = row.contents)

namespace Advances

variable {used : UsedIds} {first second third : List AssignmentRow}

theorem refl (used : UsedIds) (rows : List AssignmentRow) : Advances used rows rows :=
  fun row member => .inr ⟨row, member, rfl, Nat.le_refl _, fun _ => rfl⟩

theorem trans (one : Advances used first second) (two : Advances used second third) :
    Advances used first third := by
  intro row member
  rcases two row member with fresh | ⟨middle, middleMember, sameId, ordered, same⟩
  · exact .inl fresh
  · rcases one middle middleMember with fresh | ⟨source, sourceMember, sameSource, earlier, kept⟩
    · exact .inl (sameId ▸ fresh)
    · refine .inr ⟨source, sourceMember, sameSource.trans sameId, earlier.trans ordered, ?_⟩
      intro equal
      have middleEqual : source.revision = middle.revision := by omega
      exact (kept middleEqual).trans (same (by omega))

/-- Rows are changed one by one, within their contents or with a higher revision. -/
theorem settle {settle : AssignmentRow → Option AssignmentRow}
    (settles : ∀ row ∈ first, ∀ result, settle row = some result → row.id = result.id ∧
      row.revision ≤ result.revision ∧
      (row.revision = result.revision → row.contents = result.contents)) :
    Advances used first (first.filterMap settle) := by
  intro result member
  obtain ⟨row, rowMember, isResult⟩ := List.mem_filterMap.mp member
  obtain ⟨sameId, ordered, same⟩ := settles row rowMember result isResult
  exact .inr ⟨row, rowMember, sameId, ordered, same⟩

theorem add {row : AssignmentRow} (fresh : row.id ∉ used) (rows : List AssignmentRow) :
    Advances used rows (rows ++ [row]) := by
  intro other member
  rcases List.mem_append.mp member with earlier | last
  · exact refl used rows other earlier
  · rw [List.mem_singleton.mp last]
    exact .inl fresh

end Advances

/-- A write that keeps identifiers distinct and revisions faithful. -/
structure FaithfulStep (used : UsedIds) (before after : Database) : Prop where
  ids : before.assignmentIds.Nodup → after.assignmentIds.Nodup
  advances : Advances used before.assignments after.assignments

namespace FaithfulStep

variable {used : UsedIds} {database : Database}

theorem refl (used : UsedIds) (database : Database) : FaithfulStep used database database :=
  ⟨id, .refl _ _⟩

theorem settle {settle : AssignmentRow → Option AssignmentRow} {after : Database}
    (settled : after.assignments = database.assignments.filterMap settle)
    (settles : ∀ row ∈ database.assignments, ∀ result, settle row = some result →
      row.id = result.id ∧ row.revision ≤ result.revision ∧
      (row.revision = result.revision → row.contents = result.contents))
    (identified : ∀ row result, settle row = some result → result.id = row.id) :
    FaithfulStep used database after where
  ids unique := by
    rw [Database.assignmentIds, settled]
    exact List.Sublist.nodup (filterMap_ids_sublist identified _) unique
  advances := by
    rw [settled]
    exact .settle settles

/-- A change of every row that keeps its identifier, its revision and its contents. -/
theorem map {change : AssignmentRow → AssignmentRow} (sameId : ∀ row, (change row).id = row.id)
    (sameRevision : ∀ row, (change row).revision = row.revision)
    (sameContents : ∀ row ∈ database.assignments, row.contents = (change row).contents) :
    FaithfulStep used database (database.mapAssignments change) := by
  refine settle (List.filterMap_eq_map' ▸ rfl : _ = database.assignments.filterMap
    (some ∘ change)) ?_ ?_
  · intro row member result isResult
    cases isResult
    exact ⟨(sameId row).symm, (sameRevision row).symm.le, fun _ => sameContents row member⟩
  · intro row result isResult
    cases isResult
    exact sameId row

/-- A change of the claim alone. -/
theorem claims {change : AssignmentRow → AssignmentRow}
    (sameRow : ∀ row, ∃ claim, change row = { row with operationRunId := claim }) :
    FaithfulStep used database (database.mapAssignments change) := by
  have same : ∀ row, (change row).id = row.id ∧ (change row).revision = row.revision ∧
      row.contents = (change row).contents := by
    intro row
    obtain ⟨claim, changed⟩ := sameRow row
    rw [changed]
    exact ⟨rfl, rfl, rfl⟩
  exact map (fun row => (same row).1) (fun row => (same row).2.1) fun row _ => (same row).2.2

theorem drop (dropped : AssignmentRow → Bool) :
    FaithfulStep used database (database.dropAssignments dropped) where
  ids unique := List.Sublist.nodup (List.Sublist.map _ List.filter_sublist) unique
  advances row member := .inr ⟨row, List.mem_of_mem_filter member, rfl, Nat.le_refl _, fun _ => rfl⟩

theorem add {row : AssignmentRow} (isNext : row.id = Database.nextId database.assignmentIds)
    (neverReuses : database.NeverReuses used) :
    FaithfulStep used database (database.addAssignment row) where
  ids unique := by
    refine nodup_append_fresh row unique fun other member => ?_
    rw [isNext]
    exact Nat.ne_of_lt (lt_nextId (List.mem_map_of_mem member))
  advances := by
    refine .add (fun isUsed => ?_) _
    have below := neverReuses row.id isUsed
    omega

end FaithfulStep

section Writes

variable {used : UsedIds} {database : Database}

/-- A committed operation is what it returned with, or nothing. -/
theorem committed_cases {α : Type} (operation : Operation α) {holds : Database → Prop}
    (unchanged : holds database)
    (returned : ∀ value after, operation.run database = (.returned value, after) → holds after) :
    holds (ResourceController.committed operation database) := by
  rcases ran : operation.run database with ⟨outcome, after⟩
  rw [ResourceController.committed, ran]
  cases outcome with
  | returned value => exact returned value after ran
  | raised error => exact unchanged
  | stopped => exact unchanged

theorem upsert_faithful {clusterId nodeId : Nat} {role : Role} {config : Dict}
    (faithful : (AssignmentWrite.upsert clusterId nodeId role config).Faithful used database) :
    FaithfulStep used database
      ((AssignmentWrite.upsert clusterId nodeId role config).perform database) := by
  refine committed_cases _ (.refl _ _) fun identifier after ran => ?_
  obtain ⟨found, _, wasRead, matched⟩ := bind_eq_returned ran
  cases wasRead
  simp only [AssignmentWrite.Faithful] at faithful
  dsimp only at matched
  cases isFound : database.assignments.find? (sitsAt clusterId nodeId role) with
  | some existing =>
      rw [isFound] at faithful matched
      obtain ⟨_, _, updated, returned⟩ := bind_eq_returned matched
      cases updated
      cases returned
      refine .map (fun row => ?_) (fun row => ?_) fun row member => ?_
      · split <;> rfl
      · split <;> rfl
      · by_cases sits : sitsAt clusterId nodeId role row
        · obtain ⟨sameConfig, isActive⟩ := faithful row member sits
          rw [if_pos sits]
          simp [AssignmentRow.contents, sameConfig, isActive]
        · rw [if_neg sits]
  | none =>
      rw [isFound] at faithful matched
      obtain ⟨_, _, wasRead, afterRead⟩ := bind_eq_returned matched
      cases wasRead
      obtain ⟨_, _, allowed, afterAllowed⟩ := bind_eq_returned afterRead
      obtain ⟨_, rfl⟩ := require_eq_returned allowed
      obtain ⟨_, _, wasNumbered, afterNumber⟩ := bind_eq_returned afterAllowed
      cases wasNumbered
      obtain ⟨_, _, added, returned⟩ := bind_eq_returned afterNumber
      cases added
      cases returned
      exact .add rfl faithful

/-- One statement of a staging: a new row, or a claim. -/
inductive StageStep (creates : Prop) (before : Database) : Database → Prop where
  | create (row : AssignmentRow) (allowed : creates)
      (isNext : row.id = Database.nextId before.assignmentIds) :
      StageStep creates before (before.addAssignment row)
  | claim (runId assignmentId revision : Nat) :
      StageStep creates before (before.mapAssignments (claimFor runId assignmentId revision))

theorem claimAssignment_moves (creates : Prop) (runId assignmentId revision : Nat) :
    Moves (StageStep creates) (claimAssignment runId assignmentId revision) := by
  refine .bind (.read _) fun found => .bind (.require _ _) fun _ => ?_
  exact .update fun database => .claim runId assignmentId revision

theorem stageChange_moves {creates : Prop} (clusterId runId : Nat) (change : PlannedChange)
    (creation : change.detail.assignmentId? = none → creates) :
    Moves (StageStep creates) (stageChange clusterId runId change) := by
  cases detail : change.detail with
  | create config imageVersion =>
      intro state
      simp only [stageChange, detail, run_bind, run_read, run_require]
      by_cases allowed : insertable clusterId change.nodeId change.role state
      · rw [if_pos allowed]
        refine .single (.create _ (creation ?_) rfl)
        rw [detail]
        rfl
      · rw [if_neg allowed]
  | resources assignmentId revision config previous =>
      simp only [stageChange, detail]
      exact .bind (claimAssignment_moves _ _ _ _) fun _ => .pure _
  | detach assignmentId revision =>
      simp only [stageChange, detail]
      exact .bind (claimAssignment_moves _ _ _ _) fun _ => .pure _

theorem stageBatchChanges_moves {creates : Prop} (clusterId runId : Nat)
    (changes : List PlannedChange)
    (creations : ∀ change ∈ changes, change.detail.assignmentId? = none → creates) :
    Moves (StageStep creates) (stageBatchChanges clusterId runId changes) := by
  induction changes with
  | nil => exact .pure []
  | cons change changes ih =>
      refine .bind (stageChange_moves clusterId runId change (creations change (by simp)))
        fun staged => ?_
      refine .bind (ih fun other member => creations other (by simp [member])) fun others => ?_
      exact .pure _

/-- New rows raise the next identifier. -/
theorem nextId_append (identifiers : List Nat) :
    Database.nextId identifiers < Database.nextId (identifiers ++ [Database.nextId identifiers]) :=
  lt_nextId (by simp)

theorem StageStep.faithful {creates : Prop} {start before after : Database}
    (step : StageStep creates before after)
    (known : (creates → before.NeverReuses used) ∧ FaithfulStep used start before) :
    (creates → after.NeverReuses used) ∧ FaithfulStep used start after := by
  obtain ⟨neverReuses, reached⟩ := known
  cases step with
  | create row allowed isNext =>
      have added := FaithfulStep.add isNext (neverReuses allowed)
      refine ⟨fun _ identifier isUsed => ?_, fun unique => added.ids (reached.ids unique),
        reached.advances.trans added.advances⟩
      have below := neverReuses allowed identifier isUsed
      have grown := nextId_append before.assignmentIds
      have sameIds : (before.addAssignment row).assignmentIds =
          before.assignmentIds ++ [Database.nextId before.assignmentIds] := by
        simp [Database.assignmentIds, Database.addAssignment, isNext]
      rw [sameIds]
      omega
  | claim runId assignmentId revision =>
      have claimed : FaithfulStep used before
          (before.mapAssignments (claimFor runId assignmentId revision)) := by
        refine .claims fun row => ?_
        simp only [claimFor]
        split
        · exact ⟨_, rfl⟩
        · exact ⟨row.operationRunId, rfl⟩
      refine ⟨fun isCreated => ?_, fun unique => claimed.ids (reached.ids unique),
        reached.advances.trans claimed.advances⟩
      have sameIds : (before.mapAssignments (claimFor runId assignmentId revision)).assignmentIds =
          before.assignmentIds := map_claimFor_ids runId before.assignments assignmentId revision
      rw [Database.NeverReuses, sameIds]
      exact neverReuses isCreated

theorem stageBatch_faithful {clusterId runId : Nat} {changes : List PlannedChange}
    (faithful : (AssignmentWrite.stageBatch clusterId runId changes).Faithful used database) :
    FaithfulStep used database
      ((AssignmentWrite.stageBatch clusterId runId changes).perform database) := by
  refine committed_cases _ (.refl _ _) fun staged after ran => ?_
  have moves : Moves (StageStep (∃ change ∈ changes, change.detail.assignmentId? = none))
      (stageBatchChanges clusterId runId changes) :=
    stageBatchChanges_moves clusterId runId changes
      fun change member creation => ⟨change, member, creation⟩
  have start : (∃ change ∈ changes, change.detail.assignmentId? = none) →
      database.NeverReuses used := faithful
  have kept := moves.keeps (fun _ _ step known => step.faithful known)
    ⟨start, FaithfulStep.refl used database⟩
  rw [ran] at kept
  exact kept.2

theorem finalizedRow_id {change : StagedChange} {row result : AssignmentRow}
    (settles : change.finalizedRow row = some result) : result.id = row.id := by
  cases detail : change.detail <;>
    simp only [StagedChange.finalizedRow, detail, Option.some.injEq, reduceCtorEq] at settles <;>
    simp [← settles]

theorem releasedRow_cases {change : StagedChange} {row result : AssignmentRow}
    (settles : change.releasedRow row = some result) :
    result = { row with operationRunId := none } := by
  cases detail : change.detail <;>
    simp only [StagedChange.releasedRow, detail, Option.some.injEq, reduceCtorEq] at settles <;>
    exact settles.symm

/-- A settled row stayed, or a change settled it. -/
theorem settleRow_cases {settled : StagedChange → AssignmentRow → Option AssignmentRow}
    {runId : Nat} {changes : List StagedChange} {row result : AssignmentRow}
    (settles : settleRow settled runId changes row = some result) :
    result = row ∨ ∃ change ∈ changes, row.claimedBy change.assignmentId runId ∧
      settled change row = some result := by
  by_cases claimed : row.operationRunId = some runId
  · rw [settleRow_of_claimed claimed] at settles
    split at settles
    · cases settles
      exact .inl rfl
    · rename_i change found
      refine .inr ⟨change, List.mem_of_find?_eq_some found, ?_, settles⟩
      have sameId : change.assignmentId = row.id := by simpa using List.find?_some found
      simp [AssignmentRow.claimedBy, claimed, sameId]
  · rw [settleRow_of_unclaimed claimed] at settles
    cases settles
    exact .inl rfl

theorem finalizeBatch_faithful {runId : Nat} {changes : List StagedChange}
    (faithful : (AssignmentWrite.finalizeBatch runId changes).Faithful used database) :
    FaithfulStep used database
      ((AssignmentWrite.finalizeBatch runId changes).perform database) := by
  have settled : (WorkloadStore.finalizeBatch runId changes database).assignments =
      database.assignments.filterMap (settleRow StagedChange.finalizedRow runId changes) := by
    rw [finalizeBatch_eq]
  refine .settle settled ?_ fun row result settles => ?_
  · intro row member result settles
    rcases settleRow_cases settles with rfl | ⟨change, changeMember, claimed, isFinal⟩
    · exact ⟨rfl, Nat.le_refl _, fun _ => rfl⟩
    · cases detail : change.detail with
      | create config version =>
          have unclaimed := faithful change changeMember (by rw [detail]; rfl) row member
          rw [claimed] at unclaimed
          cases unclaimed
      | resources assignmentId revision config previous =>
          simp only [StagedChange.finalizedRow, detail, Option.some.injEq] at isFinal
          rw [← isFinal]
          exact ⟨rfl, Nat.le_succ _, fun equal => absurd equal (Nat.ne_of_lt (Nat.lt_succ_self _))⟩
      | detach assignmentId revision =>
          simp only [StagedChange.finalizedRow, detail, reduceCtorEq] at isFinal
  · rcases settleRow_cases settles with rfl | ⟨change, _, _, isFinal⟩
    · rfl
    · exact finalizedRow_id isFinal

theorem releaseBatch_faithful (runId : Nat) (changes : List StagedChange) :
    FaithfulStep used database
      ((AssignmentWrite.releaseBatch runId changes).perform database) := by
  have settled : (WorkloadStore.releaseBatch runId changes database).assignments =
      database.assignments.filterMap (settleRow StagedChange.releasedRow runId changes) := by
    rw [releaseBatch_eq]
  refine .settle settled (fun row member result settles => ?_) fun row result settles => ?_ <;>
    rcases settleRow_cases settles with rfl | ⟨change, _, _, isReleased⟩
  · exact ⟨rfl, Nat.le_refl _, fun _ => rfl⟩
  · rw [releasedRow_cases isReleased]
    exact ⟨rfl, Nat.le_refl _, fun _ => rfl⟩
  · rfl
  · rw [releasedRow_cases isReleased]

/-- A row after a statement that may change its claim. -/
theorem claim_of_ite {condition : Prop} [Decidable condition] (row : AssignmentRow)
    (claim : Option Nat) :
    ∃ kept, (if condition then { row with operationRunId := claim } else row) =
      { row with operationRunId := kept } := by
  by_cases holds : condition
  · exact ⟨claim, if_pos holds⟩
  · exact ⟨row.operationRunId, if_neg holds⟩

theorem perform_faithful {write : AssignmentWrite} (faithful : write.Faithful used database) :
    FaithfulStep used database (write.perform database) := by
  cases write with
  | upsert clusterId nodeId role config => exact upsert_faithful faithful
  | updateConfig assignmentId config | restoreConfig assignmentId config =>
      refine .map (fun row => ?_) (fun row => ?_) fun row member => ?_
      · split <;> rfl
      · split <;> rfl
      · by_cases isRow : row.id = assignmentId
        · rw [if_pos isRow]
          simp [AssignmentRow.contents, faithful row member isRow]
        · rw [if_neg isRow]
  | setImageVersion assignmentId version =>
      refine .map (fun row => ?_) (fun row => ?_) fun row member => ?_
      · split <;> rfl
      · split <;> rfl
      · by_cases isRow : row.id = assignmentId
        · rw [if_pos isRow]
          simp [AssignmentRow.contents, faithful row member isRow]
        · rw [if_neg isRow]
  | stageBatch clusterId runId changes => exact stageBatch_faithful faithful
  | finalizeBatch runId changes => exact finalizeBatch_faithful faithful
  | releaseBatch runId changes => exact releaseBatch_faithful runId changes
  | claimOperations assignmentIds runId =>
      refine committed_cases _ (.refl _ _) fun claimed after ran => ?_
      simp only [WorkloadStore.claimOperations] at ran
      split at ran
      · cases ran
        exact .refl _ _
      · cases ran
        exact .claims fun row => claim_of_ite row _
  | clearOperationForNode nodeId runId => exact .claims fun row => claim_of_ite row _
  | claim assignmentId expectedRevision runId =>
      refine committed_cases (claimAssignmentOperation assignmentId expectedRevision runId)
        (FaithfulStep.refl used database) fun claimed after ran => ?_
      cases ran
      exact .claims fun row => claim_of_ite row _
  | release assignmentId runId =>
      refine committed_cases (releaseAssignmentOperation assignmentId runId)
        (FaithfulStep.refl used database) fun released after ran => ?_
      cases ran
      exact .claims fun row => claim_of_ite row _
  | delete assignmentId => exact .drop _

end Writes

/-! ### A run -/

/-- Two rows that agree whenever they have the same identifier and the same revision. -/
def Agree (first second : AssignmentRow) : Prop :=
  first.id = second.id → first.revision = second.revision → first.contents = second.contents

/-- What the rows seen so far say about the rows of the database. -/
structure SeenRows (used : UsedIds) (seen : List AssignmentRow) (database : Database) : Prop where
  ids : database.assignmentIds.Nodup
  known : ∀ row ∈ seen, row.id ∈ used
  current : database.assignments ⊆ seen
  latest : ∀ row ∈ seen, ∀ stored ∈ database.assignments, row.id = stored.id →
    row.revision ≤ stored.revision ∧ (row.revision = stored.revision →
      row.contents = stored.contents)
  agree : ∀ first ∈ seen, ∀ second ∈ seen, Agree first second

namespace SeenRows

variable {used : UsedIds} {seen : List AssignmentRow} {database : Database}

theorem start (unique : database.assignmentIds.Nodup) :
    SeenRows database.assignmentIds database.assignments database := by
  have same : ∀ first ∈ database.assignments, ∀ second ∈ database.assignments,
      first.id = second.id → first = second :=
    fun first firstMember second secondMember =>
      List.inj_on_of_nodup_map unique firstMember secondMember
  refine ⟨unique, fun row member => List.mem_map_of_mem member, fun _ => id, ?_, ?_⟩
  · intro row member stored storedMember sameId
    rw [same row member stored storedMember sameId]
    exact ⟨Nat.le_refl _, fun _ => rfl⟩
  · intro first firstMember second secondMember sameId _
    rw [same first firstMember second secondMember sameId]

/-- A row that was seen is not ahead of the row that a faithful step leaves. -/
theorem behind {after : Database} (holds : SeenRows used seen database)
    (step : FaithfulStep used database after) {row stored : AssignmentRow} (member : row ∈ seen)
    (storedMember : stored ∈ after.assignments) (sameId : row.id = stored.id) :
    row.revision ≤ stored.revision ∧ (row.revision = stored.revision →
      row.contents = stored.contents) := by
  rcases step.advances stored storedMember with fresh | ⟨source, isSource, sourceId, ordered, kept⟩
  · exact absurd (sameId ▸ holds.known row member) fresh
  · obtain ⟨earlier, same⟩ := holds.latest row member source isSource (sameId.trans sourceId.symm)
    refine ⟨earlier.trans ordered, fun equal => ?_⟩
    have sourceEqual : row.revision = source.revision := by omega
    exact (same sourceEqual).trans (kept (by omega))

theorem step {after : Database} (holds : SeenRows used seen database)
    (step : FaithfulStep used database after) :
    SeenRows (used ++ after.assignmentIds) (seen ++ after.assignments) after := by
  have unique := step.ids holds.ids
  have begins := start unique
  constructor
  · exact unique
  · intro row member
    rcases List.mem_append.mp member with earlier | isNew
    · exact List.mem_append_left _ (holds.known row earlier)
    · exact List.mem_append_right _ (begins.known row isNew)
  · exact List.subset_append_right seen after.assignments
  · intro row member stored storedMember sameId
    rcases List.mem_append.mp member with earlier | isNew
    · exact holds.behind step earlier storedMember sameId
    · exact begins.latest row isNew stored storedMember sameId
  · intro first firstMember second secondMember sameId sameRevision
    rcases List.mem_append.mp firstMember with firstEarlier | firstNew <;>
      rcases List.mem_append.mp secondMember with secondEarlier | secondNew
    · exact holds.agree first firstEarlier second secondEarlier sameId sameRevision
    · exact (holds.behind step firstEarlier secondNew sameId).2 sameRevision
    · exact ((holds.behind step secondEarlier firstNew sameId.symm).2 sameRevision.symm).symm
    · exact begins.agree first firstNew second secondNew sameId sameRevision

/-- The rows of every state of a faithful run agree with the rows seen before it. -/
theorem run (holds : SeenRows used seen database) {writes : List AssignmentWrite}
    (faithful : AssignmentWrite.EachFaithful used database writes) :
    ∃ all, seen ⊆ all ∧
      (∀ state ∈ AssignmentWrite.states database writes, state.assignments ⊆ all) ∧
      ∀ first ∈ all, ∀ second ∈ all, Agree first second := by
  induction writes generalizing used seen database with
  | nil =>
      refine ⟨seen, fun _ => id, fun state member => ?_, holds.agree⟩
      rw [List.mem_singleton.mp member]
      exact holds.current
  | cons write writes ih =>
      obtain ⟨isFaithful, others⟩ := faithful
      obtain ⟨all, included, covered, agree⟩ :=
        ih (holds.step (perform_faithful isFaithful)) others
      have seenIncluded : seen ⊆ all := List.Subset.trans (List.subset_append_left _ _) included
      refine ⟨all, seenIncluded, fun state member => ?_, agree⟩
      rcases List.mem_cons.mp member with rfl | later
      · exact List.Subset.trans holds.current seenIncluded
      · exact covered state later

end SeenRows

/-- Two reads of an assignment at the same revision see the same contents, in a run whose
writes are faithful. -/
theorem revision_faithful {start : Database} (unique : start.assignmentIds.Nodup)
    {writes : List AssignmentWrite}
    (faithful : AssignmentWrite.EachFaithful start.assignmentIds start writes)
    {first second : Database} (firstReached : first ∈ AssignmentWrite.states start writes)
    (secondReached : second ∈ AssignmentWrite.states start writes)
    {before after : AssignmentRow} (isBefore : before ∈ first.assignments)
    (isAfter : after ∈ second.assignments) (sameId : before.id = after.id)
    (sameRevision : before.revision = after.revision) :
    before.contents = after.contents := by
  obtain ⟨all, _, covered, agree⟩ := (SeenRows.start unique).run faithful
  exact agree before (covered first firstReached isBefore) after
    (covered second secondReached isAfter) sameId sameRevision

namespace RevisionSample

def master : AssignmentRow :=
  ⟨1, 1, 1, .master, sealConfig [("memory", .str "4g")], some "8.15.0", .active, 1, none⟩

def database : Database :=
  { Database.empty with
    nodes := [⟨1, "node-1", true⟩]
    clusters := [⟨1, "logs", "logs", true⟩]
    memberships := [(1, 1)]
    assignments := [master] }

/-- A batch raises the memory of the master. -/
def change : PlannedChange :=
  ⟨"grow", 1, "node-1", .master,
    .resources 1 1 [("memory", .str "8g")] [("memory", .str "4g")]⟩

def batch : List AssignmentWrite :=
  [.stageBatch 1 1 [change], .finalizeBatch 1 [⟨change, 1⟩]]

def staged : Database :=
  (AssignmentWrite.stageBatch 1 1 [change]).perform database

end RevisionSample

/-- A batch claims the master and raises its memory; the row read before the batch and the
row that it staged have the same revision. -/
theorem revision_faithful_batch :
    let claimed : AssignmentRow := { RevisionSample.master with operationRunId := some 1 }
    claimed ∈ RevisionSample.staged.assignments ∧
      RevisionSample.master.contents = claimed.contents ∧
      (AssignmentWrite.states RevisionSample.database RevisionSample.batch).map
        (fun state => state.assignments.map (·.revision)) = [[1], [1], [2]] := by
  have faithful : AssignmentWrite.EachFaithful RevisionSample.database.assignmentIds
      RevisionSample.database RevisionSample.batch := by
    refine ⟨?_, ?_, trivial⟩
    · rintro ⟨change, member, creates⟩
      rw [List.mem_singleton.mp member] at creates
      cases creates
    · intro change member creates
      rw [List.mem_singleton.mp member] at creates
      cases creates
  have isClaimed : { RevisionSample.master with operationRunId := some 1 } ∈
      RevisionSample.staged.assignments := by
    decide +kernel
  refine ⟨isClaimed, ?_, by decide +kernel⟩
  exact revision_faithful (by decide) faithful List.mem_cons_self
    (List.mem_cons_of_mem _ List.mem_cons_self) List.mem_cons_self isClaimed rfl rfl

/-- An update of the resources stores another configuration under the same revision. -/
theorem update_keeps_revision :
    ¬ ∀ (start : Database), start.assignmentIds.Nodup → ∀ (writes : List AssignmentWrite),
      ∀ first ∈ AssignmentWrite.states start writes,
      ∀ second ∈ AssignmentWrite.states start writes,
      ∀ before ∈ first.assignments, ∀ after ∈ second.assignments,
      before.id = after.id → before.revision = after.revision →
        before.contents = after.contents := by
  intro faithful
  have updated : { RevisionSample.master with config := sealConfig [("memory", .str "8g")] } ∈
      ((AssignmentWrite.updateConfig 1 [("memory", .str "8g")]).perform
        RevisionSample.database).assignments := by
    decide +kernel
  have same := faithful RevisionSample.database (by decide)
    [.updateConfig 1 [("memory", .str "8g")]] _ List.mem_cons_self _
    (List.mem_cons_of_mem _ List.mem_cons_self) _ List.mem_cons_self _ updated rfl rfl
  have differ : RevisionSample.master.contents ≠ AssignmentRow.contents
      { RevisionSample.master with config := sealConfig [("memory", .str "8g")] } := by
    decide
  exact differ same

end ElKeeper
