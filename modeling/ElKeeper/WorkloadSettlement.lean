import ElKeeper.WorkloadWorker
import Mathlib.Data.List.Nodup

/-!
# Settling a staged batch

Staging a change set claims rows and appends new ones.  A settled batch is what
finalization or release makes of those rows.  Both go through the changes one
statement at a time; here they are brought into one closed form, from which it
follows that a release undoes the staging exactly.
-/

namespace ElKeeper

namespace StagedChange

/-- What finalization leaves of the row that a change claimed. -/
def finalizedRow (change : StagedChange) (row : AssignmentRow) : Option AssignmentRow :=
  match change.detail with
  | .create _ _ => some { row with state := .active, operationRunId := none }
  | .resources _ _ config _ =>
      some
        { row with
          config := sealConfig config
          revision := row.revision + 1
          operationRunId := none }
  | .detach _ _ => none

/-- What release leaves of the row that a change claimed. -/
def releasedRow (change : StagedChange) (row : AssignmentRow) : Option AssignmentRow :=
  match change.detail with
  | .create _ _ => none
  | _ => some { row with operationRunId := none }

end StagedChange

namespace WorkloadStore

open Program

/-! ### Settling row by row -/

/-- What the changes of a run leave of one row, when each settles the row it
claimed. -/
def settleRow (settled : StagedChange → AssignmentRow → Option AssignmentRow) (runId : Nat)
    (changes : List StagedChange) (row : AssignmentRow) : Option AssignmentRow :=
  if row.operationRunId = some runId then
    match changes.find? (·.assignmentId = row.id) with
    | none => some row
    | some change => settled change row
  else
    some row

section Settle

variable {settled : StagedChange → AssignmentRow → Option AssignmentRow} {runId : Nat}

theorem settleRow_of_unclaimed {changes : List StagedChange} {row : AssignmentRow}
    (unclaimed : row.operationRunId ≠ some runId) :
    settleRow settled runId changes row = some row := by
  rw [settleRow, if_neg unclaimed]

theorem settleRow_of_claimed {changes : List StagedChange} {row : AssignmentRow}
    (claimed : row.operationRunId = some runId) :
    settleRow settled runId changes row =
      match changes.find? (·.assignmentId = row.id) with
      | none => some row
      | some change => settled change row := by
  rw [settleRow, if_pos claimed]

theorem settleRow_of_found {changes : List StagedChange} {row : AssignmentRow}
    {change : StagedChange} (claimed : row.operationRunId = some runId)
    (found : changes.find? (·.assignmentId = row.id) = some change) :
    settleRow settled runId changes row = settled change row := by
  rw [settleRow_of_claimed claimed, found]

/-- A settled row is no longer claimed, so later changes leave it alone. -/
theorem settleRow_cons
    (unclaims : ∀ change row result, settled change row = some result →
      result.operationRunId = none)
    (change : StagedChange) (changes : List StagedChange) (row : AssignmentRow) :
    (settleRow settled runId [change] row).bind (settleRow settled runId changes) =
      settleRow settled runId (change :: changes) row := by
  by_cases claimed : row.operationRunId = some runId
  · rw [settleRow_of_claimed claimed, settleRow_of_claimed claimed]
    by_cases same : change.assignmentId = row.id
    · simp only [List.find?_cons, same, decide_true]
      cases result : settled change row with
      | none => rfl
      | some settledRow =>
          have unclaimed := unclaims change row settledRow result
          exact settleRow_of_unclaimed (by simp [unclaimed])
    · simp only [List.find?_cons, same, decide_false, List.find?_nil, Option.bind_some]
      exact settleRow_of_claimed claimed
  · rw [settleRow_of_unclaimed claimed, settleRow_of_unclaimed claimed]
    exact settleRow_of_unclaimed claimed

/-- Statements that each settle one change settle the batch. -/
theorem foldl_settles {statement : StagedChange → Database → Database}
    (unclaims : ∀ change row result, settled change row = some result →
      result.operationRunId = none)
    (settles : ∀ change database, statement change database =
      { database with
        assignments := database.assignments.filterMap (settleRow settled runId [change]) })
    (changes : List StagedChange) (database : Database) :
    changes.foldl (fun reached change => statement change reached) database =
      { database with
        assignments := database.assignments.filterMap (settleRow settled runId changes) } := by
  induction changes generalizing database with
  | nil =>
      have kept : settleRow settled runId [] = some := by
        funext row
        by_cases claimed : row.operationRunId = some runId
        · exact settleRow_of_claimed claimed
        · exact settleRow_of_unclaimed claimed
      simp [kept]
  | cons change changes ih =>
      rw [List.foldl_cons, ih, settles]
      simp only [List.filterMap_filterMap, settleRow_cons unclaims]

end Settle

theorem filter_eq_filterMap (dropped : AssignmentRow → Bool) (rows : List AssignmentRow) :
    rows.filter (fun row => !dropped row) =
      rows.filterMap fun row => if dropped row then none else some row := by
  induction rows with
  | nil => rfl
  | cons row rows ih =>
      cases isDropped : dropped row <;> simp [isDropped, ih]

/-- A claimed row is the one that a single change settles. -/
theorem settleRow_singleton (settled : StagedChange → AssignmentRow → Option AssignmentRow)
    (runId : Nat) (change : StagedChange) (row : AssignmentRow) :
    settleRow settled runId [change] row =
      if row.claimedBy change.assignmentId runId then settled change row else some row := by
  by_cases claimed : row.operationRunId = some runId
  · rw [settleRow_of_claimed claimed]
    by_cases same : row.id = change.assignmentId
    · simp [AssignmentRow.claimedBy, claimed, same]
    · simp [AssignmentRow.claimedBy, same, Ne.symm same]
  · rw [settleRow_of_unclaimed claimed]
    simp [AssignmentRow.claimedBy, claimed]

theorem finalize_eq (runId : Nat) (change : StagedChange) (database : Database) :
    change.finalize runId database =
      { database with
        assignments := database.assignments.filterMap
          (settleRow StagedChange.finalizedRow runId [change]) } := by
  simp only [funext (settleRow_singleton StagedChange.finalizedRow runId change)]
  cases detail : change.detail with
  | create config version =>
      simp only [StagedChange.finalize, StagedChange.finalizedRow, detail,
        Database.mapAssignments, ← apply_ite some, List.filterMap_eq_map']
  | resources assignmentId revision config previous =>
      simp only [StagedChange.finalize, StagedChange.finalizedRow, detail,
        Database.mapAssignments, ← apply_ite some, List.filterMap_eq_map']
  | detach assignmentId revision =>
      simp only [StagedChange.finalize, StagedChange.finalizedRow, detail,
        Database.dropAssignments, filter_eq_filterMap]

theorem release_eq (runId : Nat) (change : StagedChange) (database : Database) :
    change.release runId database =
      { database with
        assignments := database.assignments.filterMap
          (settleRow StagedChange.releasedRow runId [change]) } := by
  simp only [funext (settleRow_singleton StagedChange.releasedRow runId change)]
  cases detail : change.detail with
  | create config version =>
      simp only [StagedChange.release, StagedChange.releasedRow, detail,
        Database.dropAssignments, filter_eq_filterMap]
  | resources assignmentId revision config previous =>
      simp only [StagedChange.release, StagedChange.releasedRow, detail,
        Database.mapAssignments, ← apply_ite some, List.filterMap_eq_map']
  | detach assignmentId revision =>
      simp only [StagedChange.release, StagedChange.releasedRow, detail,
        Database.mapAssignments, ← apply_ite some, List.filterMap_eq_map']

/-- Finalization in closed form. -/
theorem finalizeBatch_eq (runId : Nat) (changes : List StagedChange) (database : Database) :
    finalizeBatch runId changes database =
      { database with
        assignments := database.assignments.filterMap
          (settleRow StagedChange.finalizedRow runId changes) } := by
  refine foldl_settles ?_ (finalize_eq runId) changes database
  intro change row result settled
  cases detail : change.detail <;>
    simp only [StagedChange.finalizedRow, detail, Option.some.injEq, reduceCtorEq] at settled <;>
    simp [← settled]

/-- Release in closed form. -/
theorem releaseBatch_eq (runId : Nat) (changes : List StagedChange) (database : Database) :
    releaseBatch runId changes database =
      { database with
        assignments := database.assignments.filterMap
          (settleRow StagedChange.releasedRow runId changes)
        batches := database.batches.filter (·.runId ≠ runId) } := by
  rw [releaseBatch, foldl_settles ?_ (release_eq runId) changes database]
  · rfl
  · intro change row result settled
    cases detail : change.detail <;>
      simp only [StagedChange.releasedRow, detail, Option.some.injEq, reduceCtorEq] at settled <;>
      simp [← settled]

/-! ### Staging -/

/-- The rows before and after the statements of `stage_batch_changes_in_connection`. -/
inductive Staging (clusterId runId : Nat) :
    List AssignmentRow → List StagedChange → List AssignmentRow → Prop where
  | nil (rows : List AssignmentRow) : Staging clusterId runId rows [] rows
  | create {rows final : List AssignmentRow} {change : StagedChange}
      {changes : List StagedChange} {config : Dict} {version : String}
      (detail : change.detail = .create config version)
      (fresh : ∀ row ∈ rows, row.id ≠ change.assignmentId)
      (rest : Staging clusterId runId
        (rows ++ [createdRow clusterId runId change.assignmentId change.toPlannedChange config
          version]) changes final) :
      Staging clusterId runId rows (change :: changes) final
  | claim {rows final : List AssignmentRow} {change : StagedChange}
      {changes : List StagedChange} {revision : Nat}
      (existing : change.isCreate = false)
      (found : ∃ row ∈ rows, claimable change.assignmentId revision row)
      (rest : Staging clusterId runId (rows.map (claimFor runId change.assignmentId revision))
        changes final) :
      Staging clusterId runId rows (change :: changes) final

theorem lt_nextId {identifiers : List Nat} {identifier : Nat}
    (member : identifier ∈ identifiers) : identifier < Database.nextId identifiers := by
  induction identifiers with
  | nil => cases member
  | cons first rest ih =>
      simp only [Database.nextId, List.foldr_cons]
      rcases List.mem_cons.mp member with rfl | inRest
      · omega
      · have smaller := ih inRest
        simp only [Database.nextId] at smaller
        omega

theorem claimAssignment_returned {runId assignmentId revision : Nat} {database after : Database}
    (ran : (claimAssignment runId assignmentId revision).run database = (.returned (), after)) :
    (∃ row ∈ database.assignments, claimable assignmentId revision row) ∧
      after = database.mapAssignments (claimFor runId assignmentId revision) := by
  obtain ⟨found, _, wasRead, checking⟩ := bind_eq_returned ran
  cases wasRead
  obtain ⟨_, _, required, updating⟩ := bind_eq_returned checking
  obtain ⟨present, rfl⟩ := require_eq_returned required
  cases updating
  exact ⟨List.any_eq_true.mp present, rfl⟩

/-- The statement for one change, followed by those for the others. -/
theorem Staging.of_stageChange {clusterId runId : Nat} {change : PlannedChange}
    {database after : Database} {staged : StagedChange}
    (ran : (stageChange clusterId runId change).run database = (.returned staged, after)) :
    staged.toPlannedChange = change ∧
      (∀ assignmentId, staged.detail.assignmentId? = some assignmentId →
        staged.assignmentId = assignmentId) ∧
      after = { database with assignments := after.assignments } ∧
      ∀ changes final, Staging clusterId runId after.assignments changes final →
        Staging clusterId runId database.assignments (staged :: changes) final := by
  have claimed : ∀ {assignmentId revision : Nat}
      (_ : (claimAssignment runId assignmentId revision >>= fun _ =>
          pure { change with assignmentId := assignmentId }).run database =
        (.returned staged, after)) (_ : ∀ config version, change.detail ≠ .create config version),
      staged = { change with assignmentId := assignmentId } ∧
        after = { database with assignments := after.assignments } ∧
        ∀ changes final, Staging clusterId runId after.assignments changes final →
          Staging clusterId runId database.assignments (staged :: changes) final := by
    intro assignmentId revision claiming notCreate
    obtain ⟨_, _, claimRan, ended⟩ := bind_eq_returned claiming
    cases ended
    obtain ⟨found, rfl⟩ := claimAssignment_returned claimRan
    refine ⟨rfl, rfl, fun changes final rest => .claim ?_ found rest⟩
    cases detail : change.detail with
    | create config version => exact absurd detail (notCreate config version)
    | resources _ _ _ _ => simp [StagedChange.isCreate, detail]
    | detach _ _ => simp [StagedChange.isCreate, detail]
  cases detail : change.detail with
  | create config version =>
      simp only [stageChange, detail] at ran
      obtain ⟨allowed, _, wasRead, checking⟩ := bind_eq_returned ran
      cases wasRead
      obtain ⟨_, _, required, inserting⟩ := bind_eq_returned checking
      obtain ⟨_, rfl⟩ := require_eq_returned required
      cases inserting
      refine ⟨rfl, by simp [ChangeDetail.assignmentId?, detail], rfl, fun changes final rest => ?_⟩
      refine .create detail (fun row member => ?_) rest
      have smaller := lt_nextId (List.mem_map_of_mem (f := (·.id)) member)
      exact Nat.ne_of_lt smaller
  | resources assignmentId revision config previous =>
      simp only [stageChange, detail] at ran
      obtain ⟨rfl, kept, rest⟩ := claimed ran (by simp [detail])
      exact ⟨rfl, by simp [ChangeDetail.assignmentId?, detail], kept, rest⟩
  | detach assignmentId revision =>
      simp only [stageChange, detail] at ran
      obtain ⟨rfl, kept, rest⟩ := claimed ran (by simp [detail])
      exact ⟨rfl, by simp [ChangeDetail.assignmentId?, detail], kept, rest⟩

/-- A returned staging is a staging of the rows and touches nothing else. -/
theorem stageBatchChanges_returned {clusterId runId : Nat} {planned : List PlannedChange}
    {database after : Database} {staged : List StagedChange}
    (ran : (stageBatchChanges clusterId runId planned).run database = (.returned staged, after)) :
    Staging clusterId runId database.assignments staged after.assignments ∧
      after = { database with assignments := after.assignments } ∧
      staged.map (·.toPlannedChange) = planned ∧
      ∀ change ∈ staged, ∀ assignmentId, change.detail.assignmentId? = some assignmentId →
        change.assignmentId = assignmentId := by
  induction planned generalizing database staged with
  | nil =>
      cases ran
      exact ⟨.nil _, rfl, rfl, by simp⟩
  | cons change changes ih =>
      obtain ⟨first, between, firstRan, ran⟩ := bind_eq_returned ran
      obtain ⟨others, _, othersRan, ended⟩ := bind_eq_returned ran
      cases ended
      obtain ⟨planned, named, kept, extend⟩ := Staging.of_stageChange firstRan
      obtain ⟨rest, keptRest, plannedRest, namedRest⟩ := ih othersRan
      refine ⟨extend _ _ rest, ?_, by simp [planned, plannedRest], ?_⟩
      · rw [keptRest, kept]
      · intro other member
        rcases List.mem_cons.mp member with rfl | inRest
        · exact named
        · exact namedRest other inRest

/-! ### Staged rows in closed form -/

/-- A row as the changes of a run leave it: claimed when one is about it. -/
def claimRow (runId : Nat) (changes : List StagedChange) (row : AssignmentRow) : AssignmentRow :=
  if changes.any fun change => !change.isCreate && change.assignmentId = row.id then
    { row with operationRunId := some runId }
  else row

/-- The row that a creation inserted. -/
def StagedChange.createdRow? (clusterId runId : Nat) (change : StagedChange) :
    Option AssignmentRow :=
  match change.detail with
  | .create config version =>
      some (createdRow clusterId runId change.assignmentId change.toPlannedChange config version)
  | _ => none

section Staging

variable {clusterId runId : Nat} {rows final : List AssignmentRow} {changes : List StagedChange}

/-- Rows with distinct identifiers are equal when their identifiers are. -/
theorem eq_of_same_id (unique : (rows.map (·.id)).Nodup) {first second : AssignmentRow}
    (firstMember : first ∈ rows) (secondMember : second ∈ rows) (same : first.id = second.id) :
    first = second :=
  List.inj_on_of_nodup_map unique firstMember secondMember same

/-- Appending a row with a fresh identifier keeps identifiers distinct. -/
theorem nodup_append_fresh (row : AssignmentRow) (unique : (rows.map (·.id)).Nodup)
    (fresh : ∀ other ∈ rows, other.id ≠ row.id) : ((rows ++ [row]).map (·.id)).Nodup := by
  rw [List.map_append, List.map_singleton, List.nodup_append]
  refine ⟨unique, by simp, ?_⟩
  intro identifier member other isOther
  obtain ⟨found, foundMember, rfl⟩ := List.mem_map.mp member
  rw [List.mem_singleton.mp isOther]
  exact fresh found foundMember

/-- Claiming keeps identifiers. -/
theorem map_claimFor_ids (runId : Nat) (rows : List AssignmentRow)
    (assignmentId revision : Nat) :
    (rows.map (claimFor runId assignmentId revision)).map (·.id) = rows.map (·.id) := by
  rw [List.map_map]
  refine List.map_congr_left fun row _ => ?_
  simp only [Function.comp, claimFor]
  split <;> rfl

theorem claimable_spec {assignmentId revision : Nat} {row : AssignmentRow}
    (isClaimable : claimable assignmentId revision row) :
    row.id = assignmentId ∧ row.state = .active ∧ row.revision = revision ∧
      row.operationRunId = none := by
  simp only [claimable, Bool.and_eq_true, decide_eq_true_eq] at isClaimable
  obtain ⟨⟨⟨sameId, isActive⟩, sameRevision⟩, unclaimed⟩ := isClaimable
  exact ⟨sameId, isActive, sameRevision, unclaimed⟩

/-- A row that the run already claimed is not staged again. -/
theorem Staging.ne_of_claimed (staging : Staging clusterId runId rows changes final)
    (unique : (rows.map (·.id)).Nodup) {row : AssignmentRow} (member : row ∈ rows)
    (claimed : row.operationRunId = some runId) :
    ∀ change ∈ changes, change.assignmentId ≠ row.id := by
  induction staging with
  | nil rows => simp
  | create detail fresh rest ih =>
      intro change isChange
      rcases List.mem_cons.mp isChange with rfl | inRest
      · exact (fresh row member).symm
      · exact ih (nodup_append_fresh _ unique fresh) (by simp [member]) change inRest
  | @claim rows final first others revision existing found rest ih =>
      intro change isChange
      rcases List.mem_cons.mp isChange with rfl | inRest
      · intro same
        obtain ⟨other, otherMember, isClaimable⟩ := found
        obtain ⟨sameId, _, _, unclaimed⟩ := claimable_spec isClaimable
        have equal := eq_of_same_id unique otherMember member (sameId.trans same)
        rw [equal, claimed] at unclaimed
        cases unclaimed
      · refine ih ((map_claimFor_ids runId rows first.assignmentId revision).symm ▸ unique) ?_
          change inRest
        refine List.mem_map.mpr ⟨row, member, ?_⟩
        have notClaimable : ¬ claimable first.assignmentId revision row := by
          intro isClaimable
          have unclaimed := (claimable_spec isClaimable).2.2.2
          rw [claimed] at unclaimed
          cases unclaimed
        rw [claimFor, if_neg notClaimable]

/-- The assignments of a staged batch are distinct. -/
theorem Staging.nodup (staging : Staging clusterId runId rows changes final)
    (unique : (rows.map (·.id)).Nodup) : (changes.map (·.assignmentId)).Nodup := by
  induction staging with
  | nil rows => exact List.nodup_nil
  | @create rows final change others config version detail fresh rest ih =>
      have appended := nodup_append_fresh
        (createdRow clusterId runId change.assignmentId change.toPlannedChange config version)
        unique fresh
      refine List.nodup_cons.mpr ⟨?_, ih appended⟩
      intro repeated
      obtain ⟨other, otherMember, same⟩ := List.mem_map.mp repeated
      exact rest.ne_of_claimed appended (List.mem_append_right _ (List.mem_singleton_self _)) rfl
        other otherMember same
  | @claim rows final change others revision existing found rest ih =>
      have mapped := (map_claimFor_ids runId rows change.assignmentId revision).symm ▸ unique
      refine List.nodup_cons.mpr ⟨?_, ih mapped⟩
      intro repeated
      obtain ⟨other, otherMember, same⟩ := List.mem_map.mp repeated
      obtain ⟨row, rowMember, isClaimable⟩ := found
      have claimed : claimFor runId change.assignmentId revision row =
          { row with operationRunId := some runId } :=
        if_pos isClaimable
      have member := List.mem_map_of_mem (f := claimFor runId change.assignmentId revision)
        rowMember
      rw [claimed] at member
      refine rest.ne_of_claimed mapped member rfl other otherMember ?_
      exact same.trans (claimable_spec isClaimable).1.symm

/-- A change of an existing workload claimed a free active row. -/
theorem Staging.existing (staging : Staging clusterId runId rows changes final) :
    ∀ change ∈ changes, change.isCreate = false →
      ∃ row ∈ rows, row.id = change.assignmentId ∧ row.state = .active ∧
        row.operationRunId = none := by
  induction staging with
  | nil rows => simp
  | create detail fresh rest ih =>
      intro change isChange notCreate
      rcases List.mem_cons.mp isChange with rfl | inRest
      · simp [StagedChange.isCreate, detail] at notCreate
      · obtain ⟨row, member, sameId, isActive, unclaimed⟩ := ih change inRest notCreate
        rcases List.mem_append.mp member with old | new
        · exact ⟨row, old, sameId, isActive, unclaimed⟩
        · rw [List.mem_singleton.mp new] at unclaimed
          cases unclaimed
  | claim isExisting found rest ih =>
      intro change isChange notCreate
      rcases List.mem_cons.mp isChange with rfl | inRest
      · obtain ⟨row, member, isClaimable⟩ := found
        obtain ⟨sameId, isActive, _, unclaimed⟩ := claimable_spec isClaimable
        exact ⟨row, member, sameId, isActive, unclaimed⟩
      · obtain ⟨mapped, mappedMember, sameId, isActive, unclaimed⟩ := ih change inRest notCreate
        obtain ⟨row, member, rfl⟩ := List.mem_map.mp mappedMember
        simp only [claimFor] at sameId isActive unclaimed
        split at unclaimed
        · cases unclaimed
        · rename_i notClaimable
          rw [if_neg notClaimable] at sameId isActive
          exact ⟨row, member, sameId, isActive, unclaimed⟩

/-- The identifiers of new rows are unused. -/
theorem Staging.fresh (staging : Staging clusterId runId rows changes final) :
    ∀ change ∈ changes, change.isCreate → ∀ row ∈ rows, row.id ≠ change.assignmentId := by
  induction staging with
  | nil rows => simp
  | create detail fresh rest ih =>
      intro change isChange isCreate row member
      rcases List.mem_cons.mp isChange with rfl | inRest
      · exact fresh row member
      · exact ih change inRest isCreate row (List.mem_append_left _ member)
  | claim isExisting found rest ih =>
      intro change isChange isCreate row member
      rcases List.mem_cons.mp isChange with rfl | inRest
      · rw [isExisting] at isCreate
        cases isCreate
      · have kept := ih change inRest isCreate _ (List.mem_map_of_mem member)
        simp only [claimFor] at kept
        split at kept <;> exact kept

/-- Staging claims the rows of its changes and appends those of its creations. -/
theorem Staging.final_eq (staging : Staging clusterId runId rows changes final)
    (unique : (rows.map (·.id)).Nodup) :
    final = rows.map (claimRow runId changes) ++
      changes.filterMap (StagedChange.createdRow? clusterId runId) := by
  induction staging with
  | nil rows =>
      have unclaimed : claimRow runId [] = id := rfl
      simp [unclaimed]
  | @create rows final change others config version detail fresh rest ih =>
      have appended := nodup_append_fresh
        (createdRow clusterId runId change.assignmentId change.toPlannedChange config version)
        unique fresh
      have unclaimed : claimRow runId others
          (createdRow clusterId runId change.assignmentId change.toPlannedChange config version) =
          createdRow clusterId runId change.assignmentId change.toPlannedChange config
            version := by
        simp [claimRow, createdRow]
      have sameClaims : ∀ row ∈ rows,
          claimRow runId (change :: others) row = claimRow runId others row := by
        intro row _
        simp [claimRow, StagedChange.isCreate, detail]
      rw [ih appended, List.map_append, List.map_singleton, unclaimed,
        List.map_congr_left sameClaims]
      simp [StagedChange.createdRow?, detail]
  | @claim rows final change others revision isExisting found rest ih =>
      have mapped := (map_claimFor_ids runId rows change.assignmentId revision).symm ▸ unique
      rw [ih mapped, List.map_map]
      have noRow : StagedChange.createdRow? clusterId runId change = none := by
        cases detail : change.detail <;>
          simp_all [StagedChange.createdRow?, StagedChange.isCreate]
      rw [List.filterMap_cons, noRow]
      congr 1
      refine List.map_congr_left fun row member => ?_
      obtain ⟨claimedRow, claimedMember, isClaimable⟩ := found
      have sameId := (claimable_spec isClaimable).1
      by_cases same : row.id = change.assignmentId
      · have equal : row = claimedRow :=
          eq_of_same_id unique member claimedMember (same.trans sameId.symm)
        subst equal
        simp only [Function.comp, claimFor, if_pos isClaimable, claimRow, List.any_cons, isExisting, same]
        simp
      · have notClaimable : ¬ claimable change.assignmentId revision row :=
          fun isClaimable => same (claimable_spec isClaimable).1
        simp only [Function.comp, claimFor, if_neg notClaimable, claimRow, List.any_cons]
        simp [Ne.symm same]

/-! ### Settled rows -/

/-- The change that claimed an assignment is found by it. -/
theorem find_change (distinct : (changes.map (·.assignmentId)).Nodup) {change : StagedChange}
    (member : change ∈ changes) :
    changes.find? (·.assignmentId = change.assignmentId) = some change := by
  cases found : changes.find? (·.assignmentId = change.assignmentId) with
  | none =>
      have missed := List.find?_eq_none.mp found change member
      simp at missed
  | some other =>
      have same : other.assignmentId = change.assignmentId := by
        simpa using List.find?_some found
      rw [List.inj_on_of_nodup_map distinct (List.mem_of_find?_eq_some found) member same]

variable {settled : StagedChange → AssignmentRow → Option AssignmentRow}

/-- A claimed row is settled by the change that claimed it. -/
theorem settleRow_existing (distinct : (changes.map (·.assignmentId)).Nodup)
    {change : StagedChange} (member : change ∈ changes) (existing : change.isCreate = false)
    {row : AssignmentRow} (about : change.assignmentId = row.id) :
    settleRow settled runId changes (claimRow runId changes row) =
      settled change { row with operationRunId := some runId } := by
  have isClaimed : changes.any
      (fun other => !other.isCreate && other.assignmentId = row.id) = true :=
    List.any_eq_true.mpr ⟨change, member, by simp [existing, about]⟩
  rw [claimRow, if_pos isClaimed]
  exact settleRow_of_found rfl (about ▸ find_change distinct member)

/-- A row without a change stays as it was. -/
theorem settleRow_untouched {row : AssignmentRow} (free : row.operationRunId ≠ some runId)
    (untouched : ∀ change ∈ changes, change.assignmentId ≠ row.id) :
    settleRow settled runId changes (claimRow runId changes row) = some row := by
  have notClaimed : ¬ changes.any
      (fun other => !other.isCreate && other.assignmentId = row.id) = true := by
    intro claimed
    obtain ⟨change, member, about⟩ := List.any_eq_true.mp claimed
    simp only [Bool.and_eq_true, decide_eq_true_eq] at about
    exact untouched change member about.2
  rw [claimRow, if_neg notClaimed, settleRow_of_unclaimed free]

/-- A created row is settled by its creation. -/
theorem settleRow_created (distinct : (changes.map (·.assignmentId)).Nodup)
    {change : StagedChange} (member : change ∈ changes) {row : AssignmentRow}
    (created : StagedChange.createdRow? clusterId runId change = some row) :
    settleRow settled runId changes row = settled change row := by
  cases detail : change.detail with
  | create config version =>
      simp only [StagedChange.createdRow?, detail, Option.some.injEq] at created
      subst created
      exact settleRow_of_found rfl (find_change distinct member)
  | resources _ _ _ _ => simp [StagedChange.createdRow?, detail] at created
  | detach _ _ => simp [StagedChange.createdRow?, detail] at created

theorem isCreate_of_createdRow? {change : StagedChange} {row : AssignmentRow}
    (created : StagedChange.createdRow? clusterId runId change = some row) :
    change.isCreate = true := by
  cases detail : change.detail <;>
    simp_all [StagedChange.createdRow?, StagedChange.isCreate]

/-- Either no change is about a row, or an existing one is. -/
theorem Staging.about (staging : Staging clusterId runId rows changes final)
    {row : AssignmentRow} (member : row ∈ rows) :
    (∀ change ∈ changes, change.assignmentId ≠ row.id) ∨
      ∃ change ∈ changes, change.isCreate = false ∧ change.assignmentId = row.id := by
  by_cases touched : ∃ change ∈ changes, change.assignmentId = row.id
  · obtain ⟨change, isChange, same⟩ := touched
    cases isCreate : change.isCreate with
    | false => exact .inr ⟨change, isChange, isCreate, same⟩
    | true => exact absurd same.symm (staging.fresh change isChange isCreate row member)
  · left
    intro change isChange same
    exact touched ⟨change, isChange, same⟩

theorem releasedRow_of_existing {change : StagedChange} (existing : change.isCreate = false)
    (row : AssignmentRow) :
    change.releasedRow row = some { row with operationRunId := none } := by
  cases detail : change.detail <;>
    simp_all [StagedChange.releasedRow, StagedChange.isCreate]

theorem releasedRow_of_isCreate {change : StagedChange} (isCreate : change.isCreate = true)
    (row : AssignmentRow) : change.releasedRow row = none := by
  cases detail : change.detail <;>
    simp_all [StagedChange.releasedRow, StagedChange.isCreate]

/-- Releasing a staged batch restores the rows as they were before. -/
theorem Staging.released (staging : Staging clusterId runId rows changes final)
    (unique : (rows.map (·.id)).Nodup) (free : ∀ row ∈ rows, row.operationRunId ≠ some runId) :
    final.filterMap (settleRow StagedChange.releasedRow runId changes) = rows := by
  have distinct := staging.nodup unique
  have restored : ∀ row ∈ rows,
      settleRow StagedChange.releasedRow runId changes (claimRow runId changes row) =
        some row := by
    intro row member
    rcases staging.about member with untouched | ⟨change, isChange, existing, about⟩
    · exact settleRow_untouched (free row member) untouched
    · rw [settleRow_existing distinct isChange existing about, releasedRow_of_existing existing]
      obtain ⟨claimed, claimedMember, sameId, _, unclaimed⟩ :=
        staging.existing change isChange existing
      have equal : claimed = row :=
        eq_of_same_id unique claimedMember member (sameId.trans about)
      subst equal
      rw [← unclaimed]
  have dropped : ∀ row ∈ changes.filterMap (StagedChange.createdRow? clusterId runId),
      settleRow StagedChange.releasedRow runId changes row = none := by
    intro row member
    obtain ⟨change, isChange, created⟩ := List.mem_filterMap.mp member
    rw [settleRow_created distinct isChange created]
    exact releasedRow_of_isCreate (isCreate_of_createdRow? created) row
  have kept : rows.filterMap
      (settleRow StagedChange.releasedRow runId changes ∘ claimRow runId changes) = rows := by
    exact (List.filterMap_congr restored).trans List.filterMap_some
  have gone : (changes.filterMap (StagedChange.createdRow? clusterId runId)).filterMap
      (settleRow StagedChange.releasedRow runId changes) = [] :=
    List.filterMap_eq_nil_iff.mpr dropped
  rw [staging.final_eq unique, List.filterMap_append, List.filterMap_map, kept, gone,
    List.append_nil]

/-- The rows after a batch was finalized, compared with those before it was
staged. -/
structure FinalizedRows (clusterId runId : Nat) (rows : List AssignmentRow)
    (changes : List StagedChange) (result : List AssignmentRow) : Prop where
  /-- Every creation is active and unclaimed. -/
  created : ∀ change ∈ changes, ∀ row,
    StagedChange.createdRow? clusterId runId change = some row →
      { row with state := .active, operationRunId := none } ∈ result
  /-- Every resource change is stored with the next revision. -/
  updated : ∀ change ∈ changes, ∀ assignmentId revision config previousConfig,
    change.detail = .resources assignmentId revision config previousConfig →
      ∃ row ∈ rows, row.id = change.assignmentId ∧ row.operationRunId = none ∧
        { row with config := sealConfig config, revision := row.revision + 1 } ∈ result
  /-- Every detached row is gone. -/
  detached : ∀ change ∈ changes, ∀ assignmentId revision,
    change.detail = .detach assignmentId revision → ∀ row ∈ result, row.id ≠ change.assignmentId
  untouched : ∀ row ∈ rows, (∀ change ∈ changes, change.assignmentId ≠ row.id) → row ∈ result
  complete : ∀ row ∈ result, row ∈ rows ∨ ∃ change ∈ changes, change.assignmentId = row.id
  unique : (result.map (·.id)).Nodup

/-- The identity and the place of an assignment. -/
def place (row : AssignmentRow) : Nat × Nat × Nat :=
  (row.id, row.clusterId, row.nodeId)

/-- What is settled keeps its identity and its place. -/
theorem settleRow_place
    (stays : ∀ change row result, settled change row = some result → place result = place row)
    {row result : AssignmentRow} (settles : settleRow settled runId changes row = some result) :
    place result = place row := by
  by_cases claimed : row.operationRunId = some runId
  · rw [settleRow_of_claimed claimed] at settles
    split at settles
    · cases settles
      rfl
    · exact stays _ _ _ settles
  · rw [settleRow_of_unclaimed claimed] at settles
    cases settles
    rfl

theorem finalizedRow_place {change : StagedChange} {row result : AssignmentRow}
    (settles : change.finalizedRow row = some result) : place result = place row := by
  cases detail : change.detail <;>
    simp only [StagedChange.finalizedRow, detail, Option.some.injEq, reduceCtorEq] at settles <;>
    simp [← settles, place]

theorem releasedRow_place {change : StagedChange} {row result : AssignmentRow}
    (settles : change.releasedRow row = some result) : place result = place row := by
  cases detail : change.detail <;>
    simp only [StagedChange.releasedRow, detail, Option.some.injEq, reduceCtorEq] at settles <;>
    simp [← settles, place]

theorem claimRow_id (runId : Nat) (changes : List StagedChange) (row : AssignmentRow) :
    (claimRow runId changes row).id = row.id := by
  simp only [claimRow]
  split <;> rfl

/-- Rows that are settled one by one keep distinct identifiers. -/
theorem filterMap_ids_sublist {settle : AssignmentRow → Option AssignmentRow}
    (identified : ∀ row result, settle row = some result → result.id = row.id)
    (rows : List AssignmentRow) :
    ((rows.filterMap settle).map (·.id)).Sublist (rows.map (·.id)) := by
  induction rows with
  | nil => exact .slnil
  | cons row rows ih =>
      rw [List.filterMap_cons, List.map_cons]
      cases settles : settle row with
      | none => exact ih.cons _
      | some result =>
          simp only [List.map_cons, identified row result settles]
          exact ih.cons_cons _

/-- The identifiers of staged rows are distinct. -/
theorem Staging.final_unique (staging : Staging clusterId runId rows changes final)
    (unique : (rows.map (·.id)).Nodup) : (final.map (·.id)).Nodup := by
  induction staging with
  | nil rows => exact unique
  | create detail fresh rest ih => exact ih (nodup_append_fresh _ unique fresh)
  | @claim rows final change others revision existing found rest ih =>
      exact ih ((map_claimFor_ids runId rows change.assignmentId revision).symm ▸ unique)

/-- Finalizing a staged batch applies every change exactly once. -/
theorem Staging.finalized (staging : Staging clusterId runId rows changes final)
    (unique : (rows.map (·.id)).Nodup) (free : ∀ row ∈ rows, row.operationRunId ≠ some runId) :
    FinalizedRows clusterId runId rows changes
      (final.filterMap (settleRow StagedChange.finalizedRow runId changes)) := by
  have distinct := staging.nodup unique
  have identified : ∀ row result,
      settleRow StagedChange.finalizedRow runId changes row = some result → result.id = row.id :=
    fun _ _ settles => congrArg Prod.fst (settleRow_place (fun _ _ _ => finalizedRow_place) settles)
  have claimed : ∀ row ∈ rows, claimRow runId changes row ∈ final := by
    intro row member
    rw [staging.final_eq unique]
    exact List.mem_append_left _ (List.mem_map_of_mem member)
  have finalIds := staging.final_unique unique
  constructor
  · intro change isChange row isCreated
    refine List.mem_filterMap.mpr ⟨row, ?_, ?_⟩
    · rw [staging.final_eq unique]
      exact List.mem_append_right _ (List.mem_filterMap.mpr ⟨change, isChange, isCreated⟩)
    · rw [settleRow_created distinct isChange isCreated]
      have isCreate := isCreate_of_createdRow? isCreated
      cases detail : change.detail <;>
        simp_all [StagedChange.finalizedRow, StagedChange.isCreate]
  · intro change isChange assignmentId revision config previousConfig detail
    have existing : change.isCreate = false := by simp [StagedChange.isCreate, detail]
    obtain ⟨row, member, sameId, _, unclaimed⟩ := staging.existing change isChange existing
    refine ⟨row, member, sameId, unclaimed, ?_⟩
    refine List.mem_filterMap.mpr ⟨_, claimed row member, ?_⟩
    rw [settleRow_existing distinct isChange existing sameId.symm]
    simp only [StagedChange.finalizedRow, detail, ← unclaimed]
  · intro change isChange assignmentId revision detail row member same
    have existing : change.isCreate = false := by simp [StagedChange.isCreate, detail]
    obtain ⟨source, sourceMember, settles⟩ := List.mem_filterMap.mp member
    obtain ⟨old, oldMember, sameId, _, _⟩ := staging.existing change isChange existing
    -- The row would stem from the one that the change claimed, which is dropped.
    have fromClaimed : source = claimRow runId changes old := by
      refine eq_of_same_id finalIds sourceMember (claimed old oldMember) ?_
      rw [← identified source row settles, same, claimRow_id, sameId]
    rw [fromClaimed, settleRow_existing distinct isChange existing sameId.symm] at settles
    simp [StagedChange.finalizedRow, detail] at settles
  · intro row member untouched
    exact List.mem_filterMap.mpr ⟨_, claimed row member,
      settleRow_untouched (free row member) untouched⟩
  · intro row member
    obtain ⟨source, sourceMember, settles⟩ := List.mem_filterMap.mp member
    rw [staging.final_eq unique] at sourceMember
    rcases List.mem_append.mp sourceMember with old | new
    · obtain ⟨original, originalMember, rfl⟩ := List.mem_map.mp old
      rcases staging.about originalMember with untouched | ⟨change, isChange, _, about⟩
      · rw [settleRow_untouched (free original originalMember) untouched] at settles
        cases settles
        exact .inl originalMember
      · right
        refine ⟨change, isChange, ?_⟩
        rw [identified _ _ settles, claimRow_id, about]
    · obtain ⟨change, isChange, isCreated⟩ := List.mem_filterMap.mp new
      right
      refine ⟨change, isChange, ?_⟩
      rw [identified _ _ settles]
      cases detail : change.detail <;>
        simp only [StagedChange.createdRow?, detail, Option.some.injEq, reduceCtorEq]
          at isCreated
      rw [← isCreated]
      rfl
  · exact (filterMap_ids_sublist identified final).nodup finalIds

end Staging

end WorkloadStore

end ElKeeper
