import ElKeeper.BatchLaunch
import ElKeeper.PortConflicts

/-!
# Two ways to remove a workload

A workload is detached by a request of its own, or by a change set that detaches
it alone.  The request reads every row of the cluster, the change set the active
ones; only the change set checks that the roles that stay have what they need.
-/

namespace ElKeeper

open Program PortConflicts PortProfiles

namespace WorkloadChangeValidator

/-- The checks of `validate_final_workload_ports` on the workloads of one host. -/
def validateHostPorts (ports : RolePorts) (nodeName : String) : List Role → Except Fault Unit
  | [] => .ok ()
  | left :: others =>
      match others.find? fun right =>
          intersects (rolePortValues ports left) (rolePortValues ports right) with
      | none => validateHostPorts ports nodeName others
      | some right =>
          .error ⟨.http 409, left.label ++ " and " ++ right.label ++
            " use the same configured ports on " ++ nodeName⟩

/-- `validate_final_workload_ports`, host by host in the order of their first workload. -/
def validateFinalWorkloadPorts (ports : RolePorts) (nodeName : Nat → String)
    (final : List (Nat × Role)) : Except Fault Unit :=
  forM (final.map (·.1)).eraseDups fun nodeId =>
    validateHostPorts ports (nodeName nodeId) ((final.filter (·.1 = nodeId)).map (·.2))

/-- The validator with the port check that the controller gives it. -/
def assembled (validator : WorkloadChangeValidator) (world : PortWorld) :
    WorkloadChangeValidator :=
  { validator with
    validateFinalPorts := fun cluster final =>
      validateFinalWorkloadPorts (world.rolePorts cluster.id)
        (fun nodeId => ((world.database.nodes.find? (·.id = nodeId)).map (·.name)).getD "") final }

/-- The change set that detaches one workload at its current revision. -/
def detachOnly (clientId : String) (row : AssignmentRow) : WorkloadChangeSet where
  changes := [.detach clientId row.id row.revision]
  nonempty := List.cons_ne_nil _ _
  bounded := Nat.le_of_ble_eq_true rfl
  unique_clientIds := List.nodup_singleton _
  unique_assignmentIds := List.nodup_singleton _
  unique_creations := List.nodup_nil

end WorkloadChangeValidator

namespace RemovalRoutes

open WorkloadChangeValidator

/-! ### What the two routes look at -/

/-- The cluster, the host and the membership of an assignment are there. -/
def Located (database : Database) (row : AssignmentRow) : Prop :=
  (database.cluster? row.clusterId).isSome ∧ (database.nodes.any fun node => node.id = row.nodeId) ∧
    (row.clusterId, row.nodeId) ∈ database.memberships

/-- All workloads of a cluster. -/
def clusterRows (database : Database) (clusterId : Nat) : List AssignmentRow :=
  database.assignments.filter (·.clusterId = clusterId)

/-- The active workloads of a cluster, as change sets see them. -/
def activeRows (database : Database) (clusterId : Nat) : List AssignmentRow :=
  (activeRecords database clusterId).map (·.1)

/-- The first master among workloads, and not the only one of them. -/
def Leads (rows : List AssignmentRow) (row : AssignmentRow) : Prop :=
  row.role = .master ∧ (∀ other ∈ rows, other.role = .master → row.id ≤ other.id) ∧
    ∃ other ∈ rows, other.id ≠ row.id

/-- Fleet Server has Kibana, and Elastic Agent has Fleet Server. -/
def DependenciesMet (roles : List Role) : Prop :=
  (.fleetServer ∈ roles → .kibana ∈ roles) ∧ (.elasticAgent ∈ roles → .fleetServer ∈ roles)

/-- The rules on the active roles of a cluster. -/
structure RulesMet (database : Database) (clusterId : Nat) : Prop where
  dependencies : DependenciesMet ((activeRows database clusterId).map (·.role))
  master : activeRows database clusterId ≠ [] →
    .master ∈ (activeRows database clusterId).map (·.role)

/-- The active workloads that stay when one is removed. -/
def remaining (database : Database) (row : AssignmentRow) : List AssignmentRow :=
  (activeRows database row.clusterId).filter (·.id ≠ row.id)

/-! ### The two routes -/

section

variable (world : PortWorld) (guards : RouteGuards) (validator : WorkloadChangeValidator)
  (clientId : String) (row : AssignmentRow)

/-- `DELETE` of a workload in detach mode is accepted. -/
def RemovalAccepted : Prop :=
  ((InventoryRoutes.removeAssignment guards row.id .detach).run world.database).1 =
    .returned none

/-- The change set that detaches a workload alone is accepted. -/
def DetachAccepted : Prop :=
  ∃ planned, (((validator.assembled world).validate row.clusterId
    (detachOnly clientId row)).run world.database).1 = .returned planned

/-- The inventory once the workload is gone. -/
def removed : Database :=
  WorkloadStore.deleteAssignment row.id world.database

/-- Both routes accept the removal or neither does, and no accepted removal breaks the rules. -/
structure RoutesAgree : Prop where
  accepted : RemovalAccepted world guards row ↔ DetachAccepted world validator clientId row
  removal_keeps : RulesMet world.database row.clusterId → RemovalAccepted world guards row →
    RulesMet (removed world row) row.clusterId
  detach_keeps : RulesMet world.database row.clusterId →
    DetachAccepted world validator clientId row → RulesMet (removed world row) row.clusterId

/-- The mutation of workloads is refused, or all workloads of the cluster have the removed one
as their first master. -/
def RequestBlocked : Prop :=
  guards.requireClusterCapability world.database row.clusterId ≠ .ok () ∨
    Leads (clusterRows world.database row.clusterId) row

/-- The active workloads have the removed one as their first master, or those that stay miss
what they need. -/
def ChangeSetBlocked : Prop :=
  Leads (activeRows world.database row.clusterId) row ∨
    ¬DependenciesMet ((remaining world.database row).map (·.role))

/-- The inventory of the workload is incomplete, or nothing blocks either route, or both are
blocked. -/
def EndsAlike : Prop :=
  ¬Located world.database row ∨
    (¬RequestBlocked world guards row ∧ ¬ChangeSetBlocked world row) ∨
    (RequestBlocked world guards row ∧ ChangeSetBlocked world row)

end

/-! ### Ports of the workloads that stay -/

/-- Different roles of a cluster have different ports. -/
theorem intersects_of_ne {ports : RolePorts} (distinct : Distinct ports) {left right : Role}
    (different : left ≠ right) :
    intersects (rolePortValues ports left) (rolePortValues ports right) = false := by
  simp only [intersects, List.any_eq_false, decide_eq_true_eq]
  intro port isLeft isRight
  exact different (distinct left right port isLeft isRight)

theorem validateHostPorts_ok {ports : RolePorts} (distinct : Distinct ports) (nodeName : String)
    {roles : List Role} (unique : roles.Nodup) :
    validateHostPorts ports nodeName roles = .ok () := by
  induction roles with
  | nil => rfl
  | cons left others ih =>
      obtain ⟨fresh, unique⟩ := List.nodup_cons.mp unique
      have apart : (others.find? fun right =>
          intersects (rolePortValues ports left) (rolePortValues ports right)) = none := by
        rw [List.find?_eq_none]
        intro right member
        have different : left ≠ right := by
          rintro rfl
          exact fresh member
        rw [intersects_of_ne distinct different]
        exact Bool.false_ne_true
      rw [validateHostPorts, apart]
      exact ih unique

/-- No check of a loop fails when each passes. -/
theorem forM_ok {α : Type} {items : List α} {check : α → Except Fault Unit}
    (each : ∀ item, check item = .ok ()) : forM items check = .ok () := by
  induction items with
  | nil => rfl
  | cons item items ih =>
      rw [List.forM_cons, each item]
      exact ih

theorem validateFinalWorkloadPorts_ok {ports : RolePorts} (distinct : Distinct ports)
    (nodeName : Nat → String) {final : List (Nat × Role)} (unique : final.Nodup) :
    validateFinalWorkloadPorts ports nodeName final = .ok () := by
  apply forM_ok
  intro nodeId
  apply validateHostPorts_ok distinct
  apply List.Nodup.map_on _ (unique.filter _)
  intro left isLeft right isRight same
  simp only [List.mem_filter, decide_eq_true_eq] at isLeft isRight
  exact Prod.ext (isLeft.2.trans isRight.2.symm) same

/-! ### The rows that the routes read -/

/-- The primary key and the unique places of the table, read in the order of the key. -/
structure Keyed (database : Database) : Prop where
  ordered : (database.assignments.map (·.id)).Pairwise (· < ·)
  places : (database.assignments.map fun row => (row.clusterId, row.nodeId, row.role)).Nodup

/-- An active workload of a cluster on a member of it. -/
def housed (database : Database) (clusterId : Nat) (row : AssignmentRow) : Bool :=
  (row.clusterId = clusterId && row.state = .active) &&
    (database.memberships.any (· = (clusterId, row.nodeId)) &&
      database.nodes.any (·.id = row.nodeId))

theorem activeRows_eq (database : Database) (clusterId : Nat) :
    activeRows database clusterId = database.assignments.filter (housed database clusterId) := by
  unfold activeRows activeRecords
  induction database.assignments with
  | nil => rfl
  | cons row rows ih =>
      rw [List.filter_cons, List.filter_cons]
      cases inCluster : (row.clusterId = clusterId && row.state = .active : Bool) with
      | false =>
          rw [if_neg Bool.false_ne_true, if_neg (by simp [housed, inCluster])]
          exact ih
      | true =>
          rw [if_pos rfl, List.filterMap_cons]
          cases member : database.memberships.any (· = (clusterId, row.nodeId)) with
          | false =>
              rw [if_neg Bool.false_ne_true, if_neg (by simp [housed, member])]
              exact ih
          | true =>
              rw [if_pos rfl]
              cases found : database.nodes.find? (·.id = row.nodeId) with
              | none =>
                  have unknown : database.nodes.any (·.id = row.nodeId) = false := by
                    simpa [List.find?_eq_none] using found
                  rw [if_neg (by simp only [housed, unknown, Bool.and_false]; simp)]
                  exact ih
              | some node =>
                  have known : database.nodes.any (·.id = row.nodeId) = true := by
                    exact List.any_eq_true.mpr
                      ⟨node, List.mem_of_find?_eq_some found, by simpa using List.find?_some found⟩
                  rw [if_pos (by simp only [housed, inCluster, member, known]; rfl)]
                  rw [Option.map_some, List.map_cons, ih]

theorem mem_activeRows {database : Database} {row : AssignmentRow}
    (member : row ∈ database.assignments) (active : row.state = .active)
    (known : (database.cluster? row.clusterId).isSome) :
    row ∈ activeRows database row.clusterId ↔ Located database row := by
  rw [activeRows_eq, List.mem_filter]
  simp [housed, Located, member, active, known, and_comm]

/-- The active rows come in the order of the table. -/
theorem activeRows_ordered {database : Database} (keyed : Keyed database) (clusterId : Nat) :
    ((activeRows database clusterId).map (·.id)).Pairwise (· < ·) := by
  rw [activeRows_eq]
  exact keyed.ordered.sublist (List.filter_sublist.map _)

theorem same_row {database : Database} (keyed : Keyed database) {left right : AssignmentRow}
    (isLeft : left ∈ database.assignments) (isRight : right ∈ database.assignments)
    (sameId : left.id = right.id) : left = right :=
  List.inj_on_of_nodup_map (keyed.ordered.imp Nat.ne_of_lt) isLeft isRight sameId

/-- The first master of workloads in the order of their identifiers. -/
theorem find?_master_iff {rows : List AssignmentRow} {row : AssignmentRow}
    (ordered : (rows.map (·.id)).Pairwise (· < ·)) (member : row ∈ rows) :
    rows.find? (·.role = .master) = some row ↔
      row.role = .master ∧ ∀ other ∈ rows, other.role = .master → row.id ≤ other.id := by
  induction rows with
  | nil => cases member
  | cons first rest ih =>
      obtain ⟨least, ordered⟩ := List.pairwise_cons.mp ordered
      have above : ∀ other ∈ rest, first.id < other.id :=
        fun other isOther => least _ (List.mem_map_of_mem isOther)
      rw [List.find?_cons]
      by_cases isMaster : first.role = .master
      · rw [decide_eq_true isMaster]
        constructor
        · intro found
          cases found
          refine ⟨isMaster, ?_⟩
          intro other isOther _
          obtain rfl | isOther := List.mem_cons.mp isOther
          · exact Nat.le_refl _
          · exact Nat.le_of_lt (above other isOther)
        · rintro ⟨-, lowest⟩
          obtain rfl | inRest := List.mem_cons.mp member
          · rfl
          · have := above row inRest
            have := lowest first List.mem_cons_self isMaster
            omega
      · rw [decide_eq_false isMaster]
        have inRest : row.role = .master → row ∈ rest := by
          intro rowMaster
          obtain rfl | inRest := List.mem_cons.mp member
          · exact absurd rowMaster isMaster
          · exact inRest
        constructor
        · intro found
          obtain ⟨rowMaster, lowest⟩ :=
            (ih ordered (List.mem_of_find?_eq_some found)).mp found
          refine ⟨rowMaster, ?_⟩
          intro other isOther otherMaster
          obtain rfl | isOther := List.mem_cons.mp isOther
          · exact absurd otherMaster isMaster
          · exact lowest other isOther otherMaster
        · rintro ⟨rowMaster, lowest⟩
          exact (ih ordered (inRest rowMaster)).mpr
            ⟨rowMaster, fun other isOther => lowest other (List.mem_cons_of_mem _ isOther)⟩

/-! ### What each route accepts -/

theorem initialMasterHasDependents_iff {database : Database} {row : AssignmentRow}
    (member : row ∈ database.assignments) :
    (row.role = .master && database.initialMasterHasDependents row.clusterId row.id) = true ↔
      Leads (clusterRows database row.clusterId) row := by
  simp only [Database.initialMasterHasDependents, Bool.and_eq_true, decide_eq_true_eq,
    Database.initialMaster?_eq_some, List.any_eq_true, Leads, clusterRows, List.mem_filter]
  constructor
  · rintro ⟨isMaster, ⟨-, lowest⟩, other, isOther, inCluster, different⟩
    exact ⟨isMaster, fun other isOther => lowest other isOther.1 isOther.2,
      other, ⟨isOther, inCluster⟩, different⟩
  · rintro ⟨isMaster, lowest, other, ⟨isOther, inCluster⟩, different⟩
    exact ⟨isMaster, ⟨⟨row, member, rfl, isMaster, rfl⟩,
      fun other isOther inCluster => lowest other ⟨isOther, inCluster⟩⟩,
      other, isOther, inCluster, different⟩

section

variable {world : PortWorld} {guards : RouteGuards} {validator : WorkloadChangeValidator}
  {clientId : String} {row : AssignmentRow}

theorem assignmentRecord_eq (keyed : Keyed world.database)
    (member : row ∈ world.database.assignments) :
    WorkloadPayload.assignmentRecord world.database row.id = .ok row ↔
      Located world.database row := by
  have found : world.database.assignment? row.id = some row :=
    find?_of_nodup_key (keyed.ordered.imp Nat.ne_of_lt) member
  simp only [WorkloadPayload.assignmentRecord, found]
  split
  · rename_i complete
    simpa [Located, and_assoc] using complete
  · rename_i incomplete
    simpa [Located, and_assoc] using incomplete

/-- The request is accepted when the inventory of the workload is complete and nothing blocks it. -/
theorem removalAccepted_iff (keyed : Keyed world.database)
    (member : row ∈ world.database.assignments) (unclaimed : row.operationRunId = none)
    (quiet : guards.requireNoMaintenanceConflict world.database = .ok ()) :
    RemovalAccepted world guards row ↔
      Located world.database row ∧ ¬RequestBlocked world guards row := by
  have located := assignmentRecord_eq keyed member
  have leads := initialMasterHasDependents_iff member
  unfold RemovalAccepted RequestBlocked InventoryRoutes.removeAssignment
  cases record : WorkloadPayload.assignmentRecord world.database row.id with
  | error error =>
      rw [record] at located
      have missing : ¬Located world.database row := fun complete => by cases located.mpr complete
      simp [run_bind, record, Program.ofExcept, missing]
  | ok found =>
      obtain rfl : found = row := by
        obtain ⟨sameId, isRow⟩ := WorkloadPayload.assignmentRecord_ok record
        exact same_row keyed (List.mem_of_find?_eq_some isRow) member sameId
      have complete := located.mp record
      cases capable : guards.requireClusterCapability world.database found.clusterId with
      | error error =>
          simp [run_bind, record, Program.ofExcept, InventoryRoutes.requireMutable, quiet, capable]
      | ok =>
          cases dependents : (found.role = .master &&
              world.database.initialMasterHasDependents found.clusterId found.id : Bool) with
          | true =>
              have first := leads.mp dependents
              simp [run_bind, run_require, record, Program.ofExcept,
                InventoryRoutes.requireMutable, quiet, capable, unclaimed, dependents, first]
          | false =>
              have other : ¬Leads (clusterRows world.database found.clusterId) found := by
                rw [← leads, dependents]
                exact Bool.false_ne_true
              simp [run_bind, run_require, record, Program.ofExcept,
                InventoryRoutes.requireMutable, quiet, capable, unclaimed, dependents, other,
                complete]

/-! ### What the change set is checked for -/

variable (validator clientId)

theorem demand_ok_iff {condition : Bool} {status : Nat} {message : String} :
    demand condition status message = .ok () ↔ condition = true := by
  cases condition with
  | true => exact iff_of_true rfl rfl
  | false => exact iff_of_false (fun passed => by cases passed) Bool.false_ne_true

theorem checks_ok_iff {first second : Except Fault Unit} :
    (first >>= fun _ => second) = .ok () ↔ first = .ok () ∧ second = .ok () := by
  cases first with
  | error error => exact iff_of_false (fun passed => by cases passed) (fun both => by cases both.1)
  | ok value => exact ⟨fun passed => ⟨rfl, passed⟩, fun both => both.2⟩

/-- The plan of the change set that detaches one workload. -/
def detachPlan (clientId : String) (row : AssignmentRow) (node : NodeRow) : PlannedChange :=
  { clientId := clientId
    nodeId := row.nodeId
    nodeName := node.name
    role := row.role
    detail := .detach row.id row.revision }

/-- A workload that is not among the active records is not found. -/
theorem validateChanges_missing (keyed : Keyed world.database)
    (member : row ∈ world.database.assignments) (cluster : ClusterRow)
    (missing : row ∉ activeRows world.database row.clusterId) :
    validateChanges (validator.assembled world) world.database cluster
      (activeRecords world.database row.clusterId) [] (detachOnly clientId row).changes =
      .error ⟨.http 404, "Managed workload not found"⟩ := by
  have unfound : (activeRecords world.database row.clusterId).find? (·.1.id = row.id) = none := by
    rw [List.find?_eq_none]
    intro record isRecord
    simp only [decide_eq_true_eq]
    intro sameId
    have isActive : record.1 ∈ activeRows world.database row.clusterId :=
      List.mem_map_of_mem isRecord
    have stored := isActive
    rw [activeRows_eq] at stored
    rw [same_row keyed (List.mem_of_mem_filter stored) member sameId] at isActive
    exact missing isActive
  simp only [detachOnly, validateChanges, validateChange, existingRecord, unfound]
  rfl

/-- An active workload is planned to be detached. -/
theorem validateChanges_found (keyed : Keyed world.database)
    (member : row ∈ world.database.assignments) (unclaimed : row.operationRunId = none)
    (cluster : ClusterRow) (active : row ∈ activeRows world.database row.clusterId) :
    ∃ node, validateChanges (validator.assembled world) world.database cluster
      (activeRecords world.database row.clusterId) [] (detachOnly clientId row).changes =
      .ok [detachPlan clientId row node] := by
  obtain ⟨record, isRecord, isRow⟩ := List.mem_map.mp active
  have present : ((activeRecords world.database row.clusterId).find?
      (·.1.id = row.id)).isSome := by
    rw [List.find?_isSome]
    exact ⟨record, isRecord, by simp [isRow]⟩
  obtain ⟨⟨found, node⟩, isFound⟩ := Option.isSome_iff_exists.mp present
  have sameId : found.id = row.id := by simpa using List.find?_some isFound
  have stored : found ∈ activeRows world.database row.clusterId :=
    List.mem_map_of_mem (List.mem_of_find?_eq_some isFound)
  rw [activeRows_eq] at stored
  obtain rfl := same_row keyed (List.mem_of_mem_filter stored) member sameId
  refine ⟨node, ?_⟩
  simp only [detachOnly, validateChanges, validateChange, existingRecord, isFound]
  simp [demand, unclaimed, detachPlan, Bind.bind, Except.bind, pure, Except.pure]

/-- The places of the workloads that stay differ. -/
theorem remaining_places (keyed : Keyed world.database) (row : AssignmentRow) :
    ((remaining world.database row).map fun other => (other.nodeId, other.role)).Nodup := by
  have stored : ∀ other ∈ remaining world.database row,
      other ∈ world.database.assignments ∧ other.clusterId = row.clusterId := by
    intro other isOther
    have active := List.mem_of_mem_filter isOther
    rw [activeRows_eq, List.mem_filter] at active
    simp only [housed, Bool.and_eq_true, decide_eq_true_eq] at active
    exact ⟨active.1, active.2.1.1⟩
  have unique : (remaining world.database row).Nodup := by
    unfold remaining
    rw [activeRows_eq]
    have unique : world.database.assignments.Nodup :=
      List.Nodup.of_map _ (keyed.ordered.imp Nat.ne_of_lt)
    exact (unique.filter _).filter _
  apply unique.map_on
  intro left isLeft right isRight same
  obtain ⟨leftStored, leftCluster⟩ := stored left isLeft
  obtain ⟨rightStored, rightCluster⟩ := stored right isRight
  apply List.inj_on_of_nodup_map keyed.places leftStored rightStored
  exact Prod.ext (leftCluster.trans rightCluster.symm) same

/-- The workload leads the active ones when it is their first master and others stay. -/
theorem leads_active_iff (keyed : Keyed world.database)
    (active : row ∈ activeRows world.database row.clusterId) :
    Leads (activeRows world.database row.clusterId) row ↔
      (activeRows world.database row.clusterId).find? (·.role = .master) = some row ∧
        remaining world.database row ≠ [] := by
  rw [find?_master_iff (activeRows_ordered keyed _) active]
  simp only [Leads, remaining, ne_eq, List.filter_eq_nil_iff, decide_eq_true_eq, not_forall,
    exists_prop, not_not, and_assoc]

/-- The change set detaches the first active master when it is the workload. -/
theorem firstMaster_detached (keyed : Keyed world.database)
    (active : row ∈ activeRows world.database row.clusterId) :
    ((activeRecords world.database row.clusterId).find? (·.1.role = .master)).any
        (fun record => record.1.id ∈ [row.id]) = true ↔
      (activeRows world.database row.clusterId).find? (·.role = .master) = some row := by
  have mapped : (activeRows world.database row.clusterId).find? (·.role = .master) =
      ((activeRecords world.database row.clusterId).find? (·.1.role = .master)).map (·.1) := by
    rw [activeRows, List.find?_map]
    rfl
  rw [mapped]
  cases first : (activeRecords world.database row.clusterId).find? (·.1.role = .master) with
  | none => simp
  | some record =>
      have isRecord : record.1 ∈ activeRows world.database row.clusterId :=
        List.mem_map_of_mem (List.mem_of_find?_eq_some first)
      rw [activeRows_eq] at isRecord active
      simp only [Option.any_some, List.mem_singleton, decide_eq_true_eq, Option.map_some,
        Option.some.injEq]
      constructor
      · exact same_row keyed (List.mem_of_mem_filter isRecord) (List.mem_of_mem_filter active)
      · rintro same
        rw [same]

/-- The final checks of the change set pass when nothing blocks it. -/
theorem validateFinal_iff (keyed : Keyed world.database) (cluster : ClusterRow) (node : NodeRow)
    (active : row ∈ activeRows world.database row.clusterId) :
    validateFinal (validator.assembled world) cluster
        (activeRecords world.database row.clusterId) [detachPlan clientId row node] = .ok () ↔
      ¬ChangeSetBlocked world row := by
  have kept : (((activeRecords world.database row.clusterId).filter fun record =>
      record.1.id ∉ [row.id]).map fun record => (record.1.nodeId, record.1.role)) =
      (remaining world.database row).map fun other => (other.nodeId, other.role) := by
    simp [remaining, activeRows, List.filter_map, Function.comp_def]
  have ports : validateFinalWorkloadPorts (world.rolePorts cluster.id)
      (fun nodeId => ((world.database.nodes.find? (·.id = nodeId)).map (·.name)).getD "")
      ((remaining world.database row).map fun other => (other.nodeId, other.role)) = .ok () :=
    validateFinalWorkloadPorts_ok (world.rolePorts_distinct _) _ (remaining_places keyed row)
  have detached : [detachPlan clientId row node].filterMap PlannedChange.detached? = [row.id] := rfl
  have created : [detachPlan clientId row node].filter PlannedChange.creates = [] := rfl
  have has : ∀ role, (((remaining world.database row).map fun other =>
      (other.nodeId, other.role)).any (·.2 = role)) = true ↔
      role ∈ (remaining world.database row).map (·.role) := by
    intro role
    simp [List.any_map, Function.comp_def]
  simp only [validateFinal, checks_ok_iff, demand_ok_iff, detached, created, kept, List.map_nil,
    List.append_nil, assembled, ports, true_and, ChangeSetBlocked, DependenciesMet,
    leads_active_iff keyed active, ← has, Bool.not_eq_true', Bool.and_eq_false_iff,
    Bool.not_eq_false', List.any_nil, Bool.and_false, Bool.false_and, Bool.not_false]
  simp only [← Bool.not_eq_true, firstMaster_detached keyed active, List.isEmpty_iff,
    List.map_eq_nil_iff]
  tauto

/-- The change set is accepted when the inventory of the workload is complete and nothing
blocks it. -/
theorem detachAccepted_iff (keyed : Keyed world.database)
    (member : row ∈ world.database.assignments) (active : row.state = .active)
    (unclaimed : row.operationRunId = none)
    (idle : ∀ cluster, world.database.cluster? row.clusterId = some cluster →
      ClusterOperation.activeClusterOperation world.database cluster.name = false) :
    DetachAccepted world validator clientId row ↔
      Located world.database row ∧ ¬ChangeSetBlocked world row := by
  unfold DetachAccepted WorkloadChangeValidator.validate
  simp only [run_bind, ClusterOperation.clusterRecord, run_read]
  cases found : world.database.cluster? row.clusterId with
  | none => simp [Located, found]
  | some cluster =>
      have located := mem_activeRows member active (by simp [found])
      simp only [run_pure, run_require, idle cluster found, Bool.not_false, if_true]
      by_cases complete : Located world.database row
      · have isActive := located.mpr complete
        obtain ⟨node, planned⟩ := validateChanges_found validator clientId
          keyed member unclaimed cluster isActive
        have final := validateFinal_iff validator clientId keyed cluster node isActive
        rw [planned]
        cases checked : validateFinal (validator.assembled world) cluster
            (activeRecords world.database row.clusterId) [detachPlan clientId row node] with
        | error error =>
            rw [checked] at final
            have blocked : ChangeSetBlocked world row := by
              by_contra free
              cases final.mpr free
            simp [Program.ofExcept, checked, blocked]
        | ok =>
            have free := final.mp checked
            simp [Program.ofExcept, checked, free, complete]
      · have missing := validateChanges_missing validator clientId
          keyed member cluster (fun isActive => complete (located.mp isActive))
        rw [missing]
        simp [Program.ofExcept, complete]

/-! ### What a removal leaves -/

theorem activeRows_removed (world : PortWorld) (row : AssignmentRow) :
    activeRows (removed world row) row.clusterId = remaining world.database row := by
  unfold remaining
  rw [activeRows_eq, activeRows_eq, List.filter_filter]
  simp only [removed, WorkloadStore.deleteAssignment, Database.dropAssignments,
    List.filter_filter]
  congr 1
  funext other
  simp [housed, Bool.and_comm]

/-- A removal that the change set admits keeps the rules of the cluster. -/
theorem rulesMet_removed (keyed : Keyed world.database)
    (active : row ∈ activeRows world.database row.clusterId)
    (met : RulesMet world.database row.clusterId) (free : ¬ChangeSetBlocked world row) :
    RulesMet (removed world row) row.clusterId := by
  simp only [ChangeSetBlocked, not_or, not_not] at free
  obtain ⟨follows, dependencies⟩ := free
  refine ⟨by rwa [activeRows_removed], ?_⟩
  rw [activeRows_removed]
  intro others
  obtain ⟨master, isMember, isMaster⟩ :=
    List.mem_map.mp (met.master (List.ne_nil_of_mem active))
  obtain ⟨first, isFirst⟩ : ∃ first,
      (activeRows world.database row.clusterId).find? (·.role = .master) = some first := by
    rw [← Option.isSome_iff_exists, List.find?_isSome]
    exact ⟨master, isMember, by simpa using isMaster⟩
  have different : first ≠ row := by
    rintro rfl
    exact follows ((leads_active_iff keyed active).mpr ⟨isFirst, others⟩)
  have isActive := List.mem_of_find?_eq_some isFirst
  have firstMaster : first.role = .master := by simpa using List.find?_some isFirst
  refine List.mem_map.mpr ⟨first, ?_, firstMaster⟩
  rw [remaining, List.mem_filter]
  refine ⟨isActive, ?_⟩
  rw [activeRows_eq] at isActive active
  simp only [decide_eq_true_eq]
  intro sameId
  exact different
    (same_row keyed (List.mem_of_mem_filter isActive) (List.mem_of_mem_filter active) sameId)

/-- The two routes agree on the removal of an active unclaimed workload, and neither breaks the
rules of the cluster, exactly when both are blocked or neither is. -/
theorem removal_routes_agree_iff (keyed : Keyed world.database)
    (member : row ∈ world.database.assignments) (active : row.state = .active)
    (unclaimed : row.operationRunId = none)
    (idle : ∀ cluster, world.database.cluster? row.clusterId = some cluster →
      ClusterOperation.activeClusterOperation world.database cluster.name = false)
    (quiet : guards.requireNoMaintenanceConflict world.database = .ok ()) :
    RoutesAgree world guards validator clientId row ↔ EndsAlike world guards row := by
  have removal := removalAccepted_iff keyed member unclaimed quiet
  have detach := detachAccepted_iff validator clientId keyed member active
    unclaimed idle
  have kept : RulesMet world.database row.clusterId →
      DetachAccepted world validator clientId row →
      RulesMet (removed world row) row.clusterId := by
    intro met accepted
    obtain ⟨complete, free⟩ := detach.mp accepted
    exact rulesMet_removed keyed ((mem_activeRows member active complete.1).mpr complete) met free
  have alike : (RemovalAccepted world guards row ↔ DetachAccepted world validator clientId row) ↔
      EndsAlike world guards row := by
    rw [removal, detach, EndsAlike]
    tauto
  constructor
  · intro agree
    exact alike.mp agree.accepted
  · intro ends
    have accepted := alike.mpr ends
    exact ⟨accepted, fun met removes => kept met (accepted.mp removes), kept⟩

end

/-! ### A cluster with Fleet -/

namespace RemovalSample

def row (assignmentId : Nat) (role : Role) : AssignmentRow :=
  ⟨assignmentId, 1, 1, role, sealConfig [], none, .active, 1, none⟩

/-- One host runs the roles in order. -/
def world (roles : List Role) : PortWorld where
  database :=
    { Database.empty with
      nodes := [⟨1, "node-1", true⟩]
      clusters := [⟨1, "logs", "logs", true⟩]
      memberships := [(1, 1)]
      assignments := roles.zipIdx.map fun placed => row (placed.2 + 1) placed.1 }
  stored := PortSample.start.stored

/-- Kibana and what needs it. -/
def fleet : PortWorld :=
  world [.master, .kibana, .fleetServer]

theorem fleet_keyed : Keyed fleet.database :=
  ⟨by decide, by decide⟩

theorem fleet_idle : ∀ cluster, fleet.database.cluster? 1 = some cluster →
    ClusterOperation.activeClusterOperation fleet.database cluster.name = false := by
  intro cluster found
  cases found
  decide

end RemovalSample

open RemovalSample

/-- Fleet Server is removed by both routes, and the rules are kept. -/
theorem removal_routes_agree_fleet :
    RoutesAgree fleet FinalizerSample.guards BatchSample.validator "fleet" (row 3 .fleetServer) :=
  (removal_routes_agree_iff _ _ fleet_keyed (by decide) rfl rfl fleet_idle rfl).mpr
    (.inr (.inl ⟨by unfold RequestBlocked Leads; decide, by
      unfold ChangeSetBlocked Leads DependenciesMet; decide⟩))

/-- Kibana is removed by the request although Fleet Server needs it, and not by the change set. -/
theorem removal_routes_differ :
    RemovalAccepted fleet FinalizerSample.guards (row 2 .kibana) ∧
      ¬DetachAccepted fleet BatchSample.validator "kibana" (row 2 .kibana) ∧
      RulesMet fleet.database 1 ∧ ¬RulesMet (removed fleet (row 2 .kibana)) 1 := by
  refine ⟨rfl, ?_, ⟨by unfold DependenciesMet; decide, by decide⟩, ?_⟩
  · rw [detachAccepted_iff _ _ fleet_keyed (by decide) rfl rfl fleet_idle]
    rintro ⟨-, free⟩
    exact free (.inr (by unfold DependenciesMet; decide))
  · intro met
    have missing : ¬DependenciesMet ((activeRows (removed fleet (row 2 .kibana)) 1).map
        (·.role)) := by
      unfold DependenciesMet
      decide
    exact missing met.dependencies

end RemovalRoutes

end ElKeeper
