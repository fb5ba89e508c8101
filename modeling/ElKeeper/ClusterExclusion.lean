import ElKeeper.ResourceRestore
import ElKeeper.BatchLaunch

/-!
# One operation on a cluster at a time

A workload batch, a zoning application and a Filebeat reconciliation are refused
while `active_cluster_operation` reports another one.  The check goes by the name
of the cluster, and a run keeps the name that the cluster had when it was
launched, so the exclusion holds as long as a cluster keeps its name while one of
its operations is active.
-/

namespace ElKeeper

open Program

/-! ### The cluster record -/

/-- The checks of `ClusterService.update` on columns that are not kept here. -/
structure ClusterPolicy where
  requireNoMaintenanceConflict : Database → (clusterId : Nat) → Except Fault Unit
  requireClusterCapability : Database → (clusterId : Nat) → Except Fault Unit
  profileConflict : Database → (clusterId : Nat) → Option String
  validateZoningCatalogUpdate : Database → (clusterId : Nat) → Except Fault Unit

namespace ClusterService

/-- `update_in_connection`; the slug stays. -/
def updateRecord (clusterId : Nat) (name : String) (database : Database) : Database :=
  { database with
    clusters := database.clusters.map fun cluster =>
      if cluster.id = clusterId then { cluster with name := name } else cluster }

/-- `ClusterService.update`. -/
def update (policy : ClusterPolicy) (clusterId : Nat) (name : String) : Operation Unit := do
  let _ ← ClusterOperation.clusterRecord clusterId
  let idle ← read fun database => policy.requireNoMaintenanceConflict database clusterId
  ofExcept idle
  let capable ← read fun database => policy.requireClusterCapability database clusterId
  ofExcept capable
  match ← read fun database => policy.profileConflict database clusterId with
  | some conflict => raise ⟨.http 409, conflict⟩
  | none => do
      let zoned ← read fun database => policy.validateZoningCatalogUpdate database clusterId
      ofExcept zoned
      let taken ← read fun database =>
        database.clusters.any fun cluster => cluster.name = name && cluster.id ≠ clusterId
      require (!taken) ⟨.http 409, "Cluster name already exists"⟩
      Program.update (updateRecord clusterId name)

end ClusterService

/-! ### Zoning -/

inductive ZoningMode where
  | disabled
  | awareness
  | forcedAwareness
deriving DecidableEq

/-- The value of a mode in the stored zoning. -/
def ZoningMode.value : ZoningMode → String
  | disabled => "disabled"
  | awareness => "awareness"
  | forcedAwareness => "forced_awareness"

structure Zoning where
  mode : ZoningMode
  zones : List String

/-- The zoning of the cluster and the zone of each host, empty when it has none. -/
structure ZoneCatalog where
  zoning : Zoning
  hostZone : Nat → String

namespace ZoningWorker

open WorkloadChangeValidator (demand)

/-- `ZoningWorker.assignments`, without its order. -/
def assignments (database : Database) (clusterId : Nat) : List AssignmentRow :=
  database.assignments.filter fun row =>
    row.clusterId = clusterId && row.state = .active && row.role.elasticsearch

/-- `require_cluster_host_zone`. -/
def requireClusterHostZone (zoning : Zoning) (zone : String) : Except Fault Unit :=
  if zoning.mode = .disabled then .ok ()
  else do
    demand (zone ≠ "") 422
      "Select a cluster-defined host zone before adding or applying Elasticsearch workloads"
    demand (zone ∈ zoning.zones) 422
      ("Host zone " ++ zone ++ " is not defined by this cluster")

/-- The zone of a member; a host that is none has no zone. -/
def memberZone (catalog : ZoneCatalog) (database : Database) (clusterId nodeId : Nat) : String :=
  if (clusterId, nodeId) ∈ database.memberships then catalog.hostZone nodeId else ""

/-- The zones that a role has to cover when awareness is forced. -/
def requireCoverage (zoning : Zoning) (zoneOf : AssignmentRow → String)
    (rows : List AssignmentRow) (role : Role) (label : String) : Except Fault Unit :=
  let covering := rows.filter (·.role = role)
  if covering = [] then .ok ()
  else
    let missing := zoning.zones.filter fun zone => zone ∉ covering.map zoneOf
    demand (missing = []) 422
      (label ++ " does not cover forced zones: " ++ ", ".intercalate missing)

/-- The checks of `preflight` after the exclusion. -/
def checkZoning (catalog : ZoneCatalog) (database : Database) (clusterId : Nat)
    (rows : List AssignmentRow) : Except Fault Unit :=
  let zoning := catalog.zoning
  let zoneOf (row : AssignmentRow) := memberZone catalog database clusterId row.nodeId
  if zoning.mode = .disabled then
    demand (rows.isEmpty || rows.any (·.role = .master)) 422
      "Deploy a master or purge Elasticsearch workloads before disabling zoning"
  else do
    demand (2 ≤ zoning.zones.length) 422
      "Allocation awareness requires at least two defined zones"
    demand (rows.any (·.role = .master)) 422 "Deploy a master before applying cluster zoning"
    let data := rows.filter fun row => row.role = .hot || row.role = .warm
    demand (!data.isEmpty) 422
      "Deploy hot or warm data workloads before applying cluster zoning"
    rows.forM fun row => requireClusterHostZone zoning (zoneOf row)
    if zoning.mode = .forcedAwareness then do
      requireCoverage zoning zoneOf data .hot "Hot data"
      requireCoverage zoning zoneOf data .warm "Warm data"
    demand (2 ≤ (data.map zoneOf).dedup.length) 422
      "Data workloads must span at least two defined zones"

/-- `ZoningWorker.preflight`. -/
def preflight (catalog : ZoneCatalog) (clusterId : Nat) :
    Operation (ClusterRow × List AssignmentRow) := do
  let cluster ← ClusterOperation.clusterRecord clusterId
  let active ← read fun database => ClusterOperation.activeClusterOperation database cluster.name
  require (!active) ⟨.http 409, "Wait for the active cluster operation to finish"⟩
  let rows ← read fun database => assignments database clusterId
  let checked ← read fun database => checkZoning catalog database clusterId rows
  ofExcept checked
  pure (cluster, rows)

/-- `completed_run`. -/
def completedRun (kind target : String) : Operation Nat := do
  let identifier ← read fun database => Database.nextId (database.runs.map (·.id))
  Program.update (Database.addRun
    { id := identifier
      kind := kind
      target := target
      status := .succeeded
      context := [] })
  pure identifier

/-- `ZoningWorker.launch_apply`, up to the start of its task. -/
def launchApply (catalog : ZoneCatalog) (clusterId : Nat) : Operation Nat := do
  let (cluster, rows) ← preflight catalog clusterId
  if catalog.zoning.mode = .disabled ∧ rows = [] then
    completedRun "zoning-apply" (cluster.name ++ ":zoning")
  else
    Runs.startRun "zoning-apply" (cluster.name ++ ":zoning")
      [("cluster_id", .num (clusterId : Int)),
        ("mode", .str catalog.zoning.mode.value),
        ("zones", .arr (catalog.zoning.zones.map .str))]

end ZoningWorker

/-! ### The controller -/

/-- The durable database, and the cluster and the run of each launched operation. -/
structure ClusterController where
  database : Database
  launches : List (Nat × Nat)

inductive ClusterAction where
  | update (policy : ClusterPolicy) (clusterId : Nat) (name : String)
  | launchBatch (validator : WorkloadChangeValidator) (clusterId : Nat)
      (changeSet : WorkloadChangeSet)
  | launchZoning (catalog : ZoneCatalog) (clusterId : Nat)
  | launchFilebeat (clusterId : Nat) (assignmentIds : Option (List Nat))
  /-- The worker of a batch finalizes it, or takes it back. -/
  | settleBatch (runId : Nat) (finalized : Bool)
  /-- The worker of a run ends it, or leaves it for recovery. -/
  | complete (runId : Nat) (status : RunStatus)

namespace Database

/-- The run is queued, running or waits for recovery. -/
def activeRun (database : Database) (runId : Nat) : Bool :=
  database.runs.any fun run => run.id = runId && run.status.active

end Database

namespace ClusterController

/-- A launch that returns is committed with its run; any other one leaves no trace. -/
def launch (operation : Operation Nat) (clusterId : Nat) (controller : ClusterController) :
    ClusterController :=
  match operation.run controller.database with
  | (.returned runId, launched) =>
      { database := launched
        launches := controller.launches ++ [(clusterId, runId)] }
  | _ => controller

/-- The end of a batch in the assignments. -/
def settleBatch (runId : Nat) (finalized : Bool) (database : Database) : Database :=
  match database.batches.find? (·.runId = runId) with
  | none => database
  | some batch =>
      if finalized then
        WorkloadStore.deleteBatch runId (WorkloadStore.finalizeBatch runId batch.changes database)
      else
        WorkloadStore.releaseBatch runId batch.changes database

def perform (controller : ClusterController) : ClusterAction → ClusterController
  | .update policy clusterId name =>
      { controller with
        database := ResourceController.committed (ClusterService.update policy clusterId name)
          controller.database }
  | .launchBatch validator clusterId changeSet =>
      controller.launch (validator.launchBatch clusterId changeSet) clusterId
  | .launchZoning catalog clusterId =>
      controller.launch (ZoningWorker.launchApply catalog clusterId) clusterId
  | .launchFilebeat clusterId assignmentIds =>
      controller.launch (ClusterOperation.launchFilebeat clusterId assignmentIds) clusterId
  | .settleBatch runId finalized =>
      { controller with database := settleBatch runId finalized controller.database }
  | .complete runId status =>
      if controller.database.activeRun runId then
        { controller with database := controller.database.setRunStatus runId status }
      else controller

/-- Actions one after the other. -/
def performAll (controller : ClusterController) (actions : List ClusterAction) :
    ClusterController :=
  actions.foldl perform controller

/-- A cluster is renamed only while none of its operations is active. -/
def Orderly (controller : ClusterController) : ClusterAction → Prop
  | .update _ clusterId name =>
      ∀ cluster ∈ controller.database.clusters, cluster.id = clusterId → cluster.name ≠ name →
        ∀ runId, (clusterId, runId) ∈ controller.launches →
          controller.database.activeRun runId = false
  | _ => True

/-- Every action of a run meets the condition where it is performed. -/
def EachOrderly : ClusterController → List ClusterAction → Prop
  | _, [] => True
  | controller, action :: actions =>
      controller.Orderly action ∧ EachOrderly (controller.perform action) actions

/-- At most one of the operations launched for a cluster is active. -/
def Exclusive (controller : ClusterController) : Prop :=
  ∀ clusterId first second, (clusterId, first) ∈ controller.launches →
    (clusterId, second) ∈ controller.launches →
    controller.database.activeRun first → controller.database.activeRun second →
      first = second

end ClusterController

/-! ### What a launch leaves -/

/-- A new run was added on behalf of a cluster that had no active operation. -/
structure Launched (clusterId runId : Nat) (before after : Database) : Prop where
  idle : ∃ cluster, before.cluster? clusterId = some cluster ∧
    ClusterOperation.activeClusterOperation before cluster.name = false ∧
    ∃ row, row.id = runId ∧ targetsWithin cluster.name row ∧ after.runs = before.runs ++ [row]
  fresh : runId ∉ before.runs.map (·.id)
  clusters : after.clusters = before.clusters

/-- A started run is the last row of the table. -/
theorem startRun_run (kind target : String) (context : Dict) (database : Database) :
    (Runs.startRun kind target context).run database =
      (.returned (Database.nextId (database.runs.map (·.id))),
        { database with
          runs := database.runs ++
            [⟨Database.nextId (database.runs.map (·.id)), kind, target, .running,
              Json.redactDict context⟩] }) := by
  have kept : database.runs.map (fun run =>
      if run.id = Database.nextId (database.runs.map (·.id)) then
        { run with status := .running } else run) = database.runs := by
    refine (List.map_congr_left fun run member => ?_).trans (List.map_id _)
    rw [if_neg (Nat.ne_of_lt (WorkloadStore.lt_nextId (List.mem_map_of_mem member)))]
    rfl
  simp [Runs.startRun, Runs.createRun, run_bind, Database.setRunStatus, Database.addRun, kept]

theorem startRun_runs {kind target : String} {context : Dict} {runId : Nat}
    {database after : Database}
    (ran : (Runs.startRun kind target context).run database = (.returned runId, after)) :
    ∃ row, row.id = runId ∧ row.target = target ∧ after.runs = database.runs ++ [row] := by
  rw [startRun_run] at ran
  cases ran
  exact ⟨_, rfl, rfl, rfl⟩

/-- The targets of the operations of a cluster are in the namespace of its name. -/
theorem targetsWithin_suffix {name suffix : String} {run : RunRow}
    (separated : ":".toList.isPrefixOf suffix.toList) (isTarget : run.target = name ++ suffix) :
    targetsWithin name run := by
  have extended : (name ++ ":").toList <+: (name ++ suffix).toList := by
    rw [String.toList_append, String.toList_append, List.prefix_append_right_inj]
    exact List.isPrefixOf_iff_prefix.mp separated
  simp only [targetsWithin, isTarget, Bool.or_eq_true]
  exact .inr (List.isPrefixOf_iff_prefix.mpr extended)

section Launches

variable {clusterId runId : Nat} {before after : Database}

/-- A started run of an idle cluster. -/
theorem Launched.of_start {kind suffix : String} {context : Dict} {cluster : ClusterRow}
    (found : before.cluster? clusterId = some cluster)
    (idle : ClusterOperation.activeClusterOperation before cluster.name = false)
    (separated : ":".toList.isPrefixOf suffix.toList)
    (ran : (Runs.startRun kind (cluster.name ++ suffix) context).run before =
      (.returned runId, after)) : Launched clusterId runId before after := by
  obtain ⟨fresh, _, kept⟩ := startRun_returned ran
  obtain ⟨row, isRow, isTarget, added⟩ := startRun_runs ran
  refine ⟨⟨cluster, found, idle, row, isRow, targetsWithin_suffix separated isTarget, added⟩, ?_, ?_⟩
  · intro member
    obtain ⟨run, runMember, isRun⟩ := List.mem_map.mp member
    exact fresh run runMember isRun
  · rw [kept]

theorem launchFilebeat_launched {assignmentIds : Option (List Nat)}
    (ran : (ClusterOperation.launchFilebeat clusterId assignmentIds).run before =
      (.returned runId, after)) : Launched clusterId runId before after := by
  obtain ⟨cluster, _, foundRan, afterFound⟩ := bind_eq_returned ran
  obtain ⟨found, rfl⟩ := ClusterOperation.clusterRecord_returned foundRan
  obtain ⟨active, _, wasRead, afterActive⟩ := bind_eq_returned afterFound
  cases wasRead
  obtain ⟨_, _, isFree, started⟩ := bind_eq_returned afterActive
  obtain ⟨isIdle, rfl⟩ := require_eq_returned isFree
  exact .of_start found (by simpa using isIdle) (by decide) started

theorem preflight_returned {catalog : ZoneCatalog} {cluster : ClusterRow}
    {rows : List AssignmentRow}
    (ran : (ZoningWorker.preflight catalog clusterId).run before =
      (.returned (cluster, rows), after)) :
    before.cluster? clusterId = some cluster ∧
      ClusterOperation.activeClusterOperation before cluster.name = false ∧ after = before := by
  obtain ⟨_, _, foundRan, afterFound⟩ := bind_eq_returned ran
  obtain ⟨found, rfl⟩ := ClusterOperation.clusterRecord_returned foundRan
  obtain ⟨active, _, wasRead, afterActive⟩ := bind_eq_returned afterFound
  cases wasRead
  obtain ⟨_, _, isFree, afterFree⟩ := bind_eq_returned afterActive
  obtain ⟨isIdle, rfl⟩ := require_eq_returned isFree
  obtain ⟨_, _, wasRead, afterRows⟩ := bind_eq_returned afterFree
  cases wasRead
  obtain ⟨checked, _, wasRead, afterCheck⟩ := bind_eq_returned afterRows
  cases wasRead
  obtain ⟨_, _, isChecked, returned⟩ := bind_eq_returned afterCheck
  obtain ⟨_, rfl⟩ := ofExcept_eq_returned isChecked
  cases returned
  exact ⟨found, by simpa using isIdle, rfl⟩

theorem launchApply_launched {catalog : ZoneCatalog}
    (ran : (ZoningWorker.launchApply catalog clusterId).run before =
      (.returned runId, after)) : Launched clusterId runId before after := by
  obtain ⟨⟨cluster, rows⟩, _, preflightRan, launched⟩ := bind_eq_returned ran
  obtain ⟨found, idle, rfl⟩ := preflight_returned preflightRan
  dsimp only at launched
  split at launched
  · cases launched
    refine ⟨⟨cluster, found, idle, _, rfl, ?_, rfl⟩, nextId_fresh _, rfl⟩
    exact targetsWithin_suffix (by decide) rfl
  · exact .of_start found idle (by decide) launched

theorem launchBatch_launched {validator : WorkloadChangeValidator}
    {changeSet : WorkloadChangeSet}
    (ran : (validator.launchBatch clusterId changeSet).run before =
      (.returned runId, after)) : Launched clusterId runId before after := by
  obtain ⟨⟨cluster, planned⟩, validated, validateRan, afterValidate⟩ := bind_eq_returned ran
  obtain ⟨unchanged, found, idle, _⟩ := WorkloadChangeValidator.validate_checked validateRan
  subst unchanged
  obtain ⟨identifier, started, startRan, afterStart⟩ := bind_eq_returned afterValidate
  obtain ⟨outcome, between, stageRan, ended⟩ := bind_eq_returned afterStart
  cases outcome with
  | error error => cases ended
  | ok changes =>
      obtain ⟨_, keptRest, _, _⟩ :=
        WorkloadStore.stageBatchChanges_returned (attempt_eq_returned stageRan)
      obtain ⟨_, _, createRan, finished⟩ := bind_eq_returned ended
      cases finished
      obtain ⟨added, _⟩ := createBatch_returned createRan
      have launched : Launched clusterId runId validated started :=
        .of_start found idle (by decide) startRan
      refine ⟨?_, launched.fresh, ?_⟩
      · rw [added, keptRest]
        exact launched.idle
      · rw [added, keptRest]
        exact launched.clusters

end Launches

/-! ### The invariant -/

namespace ClusterController

/-- What holds in every state of an orderly run. -/
structure Invariant (controller : ClusterController) : Prop where
  known : ∀ launch ∈ controller.launches, launch.2 ∈ controller.database.runs.map (·.id)
  named : ∀ launch ∈ controller.launches, controller.database.activeRun launch.2 →
    ∃ cluster, controller.database.cluster? launch.1 = some cluster ∧
      ∀ run ∈ controller.database.runs, run.id = launch.2 → targetsWithin cluster.name run
  exclusive : controller.Exclusive

variable {controller : ClusterController}

/-- A table that keeps its runs and clusters keeps the invariant. -/
theorem Invariant.same (holds : controller.Invariant) {database : Database}
    (runs : database.runs = controller.database.runs)
    (clusters : database.clusters = controller.database.clusters) :
    Invariant { controller with database := database } := by
  have sameActive : database.activeRun = controller.database.activeRun := by
    funext runId
    rw [Database.activeRun, runs]
    rfl
  have sameCluster : database.cluster? = controller.database.cluster? := by
    funext clusterId
    rw [Database.cluster?, clusters]
    rfl
  refine ⟨?_, ?_, ?_⟩
  · intro launch member
    rw [runs]
    exact holds.known launch member
  · intro launch member active
    rw [sameActive] at active
    rw [runs, sameCluster]
    exact holds.named launch member active
  · intro clusterId first second firstMember secondMember firstActive secondActive
    rw [sameActive] at firstActive secondActive
    exact holds.exclusive clusterId first second firstMember secondMember firstActive secondActive

/-- A cluster whose check passed has no active operation. -/
theorem Invariant.idle (holds : controller.Invariant) {clusterId runId : Nat}
    {cluster : ClusterRow} (found : controller.database.cluster? clusterId = some cluster)
    (isIdle : ClusterOperation.activeClusterOperation controller.database cluster.name = false)
    (member : (clusterId, runId) ∈ controller.launches) :
    controller.database.activeRun runId = false := by
  rw [← Bool.not_eq_true]
  intro active
  obtain ⟨other, isOther, within⟩ := holds.named _ member active
  obtain rfl : other = cluster := Option.some.inj (isOther.symm.trans found)
  obtain ⟨run, runMember, isActive⟩ := List.any_eq_true.mp active
  obtain ⟨isRun, running⟩ : run.id = runId ∧ run.status.active := by simpa using isActive
  have busy : Runs.hasActiveTarget controller.database other.name := by
    refine List.any_eq_true.mpr ⟨run, runMember, ?_⟩
    rw [running, within run runMember isRun]
    rfl
  rw [ClusterOperation.activeClusterOperation, busy] at isIdle
  cases isIdle

theorem Invariant.launch (holds : controller.Invariant) {clusterId runId : Nat}
    {after : Database} (launched : Launched clusterId runId controller.database after) :
    Invariant ⟨after, controller.launches ++ [(clusterId, runId)]⟩ := by
  obtain ⟨⟨cluster, found, isIdle, row, isRow, within, added⟩, fresh, clusters⟩ := launched
  have sameCluster : after.cluster? = controller.database.cluster? := by
    funext other
    rw [Database.cluster?, clusters]
    rfl
  have otherId : ∀ launch ∈ controller.launches, launch.2 ≠ runId := fun launch member same =>
    fresh (same ▸ holds.known launch member)
  have sameActive : ∀ other, other ≠ runId →
      after.activeRun other = controller.database.activeRun other := by
    intro other isOther
    have notNew : row.id ≠ other := isRow ▸ isOther.symm
    simp [Database.activeRun, added, notNew]
  refine ⟨?_, ?_, ?_⟩
  · intro launch member
    rw [added, List.map_append]
    rcases List.mem_append.mp member with earlier | isNew
    · exact List.mem_append_left _ (holds.known launch earlier)
    · rw [List.mem_singleton.mp isNew]
      exact List.mem_append_right _ (by simp [isRow])
  · intro launch member active
    rw [sameCluster, added]
    rcases List.mem_append.mp member with earlier | isNew
    · rw [sameActive launch.2 (otherId launch earlier)] at active
      obtain ⟨named, isNamed, allWithin⟩ := holds.named launch earlier active
      refine ⟨named, isNamed, fun run runMember isRun => ?_⟩
      rcases List.mem_append.mp runMember with old | new
      · exact allWithin run old isRun
      · rw [List.mem_singleton.mp new, isRow] at isRun
        exact absurd isRun.symm (otherId launch earlier)
    · rw [List.mem_singleton.mp isNew]
      refine ⟨cluster, found, fun run runMember isRun => ?_⟩
      rcases List.mem_append.mp runMember with old | new
      · have listed : runId ∈ controller.database.runs.map (·.id) :=
          List.mem_map.mpr ⟨run, old, isRun⟩
        exact absurd listed fresh
      · rw [List.mem_singleton.mp new]
        exact within
  · -- the check that let the new run start excludes every earlier one
    have inactive : ∀ other, (clusterId, other) ∈ controller.launches →
        after.activeRun other = false := by
      intro other member
      rw [sameActive other (otherId _ member)]
      exact holds.idle found isIdle member
    have cases : ∀ {launch : Nat × Nat}, launch ∈ controller.launches ++ [(clusterId, runId)] →
        launch ∈ controller.launches ∨ launch = (clusterId, runId) := by
      simp
    intro other first second firstMember secondMember firstActive secondActive
    rcases cases firstMember with firstEarlier | firstNew <;>
      rcases cases secondMember with secondEarlier | secondNew
    · rw [sameActive first (otherId _ firstEarlier)] at firstActive
      rw [sameActive second (otherId _ secondEarlier)] at secondActive
      exact holds.exclusive other first second firstEarlier secondEarlier firstActive secondActive
    · cases secondNew
      rw [inactive first firstEarlier] at firstActive
      cases firstActive
    · cases firstNew
      rw [inactive second secondEarlier] at secondActive
      cases secondActive
    · cases firstNew
      cases secondNew
      rfl

theorem Invariant.launchOperation (holds : controller.Invariant) {operation : Operation Nat}
    {clusterId : Nat}
    (launches : ∀ runId after, operation.run controller.database = (.returned runId, after) →
      Launched clusterId runId controller.database after) :
    (controller.launch operation clusterId).Invariant := by
  rcases ran : operation.run controller.database with ⟨outcome, after⟩
  rw [ClusterController.launch, ran]
  cases outcome with
  | returned runId => exact holds.launch (launches runId after ran)
  | raised error => exact holds
  | stopped => exact holds

/-- An update that returns passed its checks and wrote the name. -/
theorem update_returned {policy : ClusterPolicy} {clusterId : Nat} {name : String}
    {database after : Database}
    (ran : (ClusterService.update policy clusterId name).run database = (.returned (), after)) :
    policy.profileConflict database clusterId = none ∧
      policy.validateZoningCatalogUpdate database clusterId = .ok () ∧
      after = ClusterService.updateRecord clusterId name database := by
  obtain ⟨_, _, foundRan, afterFound⟩ := bind_eq_returned ran
  obtain ⟨_, rfl⟩ := ClusterOperation.clusterRecord_returned foundRan
  obtain ⟨_, _, wasRead, afterRead⟩ := bind_eq_returned afterFound
  cases wasRead
  obtain ⟨_, _, isIdle, afterIdle⟩ := bind_eq_returned afterRead
  obtain ⟨_, rfl⟩ := ofExcept_eq_returned isIdle
  obtain ⟨_, _, wasRead, afterRead⟩ := bind_eq_returned afterIdle
  cases wasRead
  obtain ⟨_, _, isCapable, afterCapable⟩ := bind_eq_returned afterRead
  obtain ⟨_, rfl⟩ := ofExcept_eq_returned isCapable
  obtain ⟨conflict, _, wasRead, matched⟩ := bind_eq_returned afterCapable
  cases wasRead
  dsimp only at matched
  split at matched
  · cases matched
  · rename_i unconflicted
    obtain ⟨_, _, wasRead, afterRead⟩ := bind_eq_returned matched
    cases wasRead
    obtain ⟨_, _, isZoned, afterZoned⟩ := bind_eq_returned afterRead
    obtain ⟨zoned, rfl⟩ := ofExcept_eq_returned isZoned
    obtain ⟨_, _, wasRead, afterRead⟩ := bind_eq_returned afterZoned
    cases wasRead
    obtain ⟨_, _, isFree, written⟩ := bind_eq_returned afterRead
    obtain ⟨_, rfl⟩ := require_eq_returned isFree
    cases written
    exact ⟨unconflicted, zoned, rfl⟩

theorem cluster?_updateRecord (clusterId other : Nat) (name : String) (database : Database) :
    (ClusterService.updateRecord clusterId name database).cluster? other =
      (database.cluster? other).map fun cluster =>
        if cluster.id = clusterId then { cluster with name := name } else cluster := by
  simp only [Database.cluster?, ClusterService.updateRecord, List.find?_map]
  congr 2
  funext cluster
  simp only [Function.comp]
  split <;> rfl

theorem Invariant.rename (holds : controller.Invariant) {clusterId : Nat} {name : String}
    (orderly : ∀ cluster ∈ controller.database.clusters, cluster.id = clusterId →
      cluster.name ≠ name → ∀ runId, (clusterId, runId) ∈ controller.launches →
        controller.database.activeRun runId = false) :
    Invariant { controller with
      database := ClusterService.updateRecord clusterId name controller.database } := by
  refine ⟨holds.known, ?_, holds.exclusive⟩
  intro launch member active
  obtain ⟨cluster, found, within⟩ := holds.named launch member active
  have isId : cluster.id = launch.1 := by simpa using List.find?_some found
  refine ⟨_, (cluster?_updateRecord _ _ _ _).trans (congrArg _ found), ?_⟩
  dsimp only
  by_cases renamed : cluster.id = clusterId
  · rw [if_pos renamed]
    by_cases sameName : cluster.name = name
    · rw [← sameName]
      exact within
    · have isLaunch : (clusterId, launch.2) ∈ controller.launches := by
        rw [← renamed, isId]
        exact member
      have idle := orderly cluster (List.mem_of_find?_eq_some found) renamed sameName launch.2
        isLaunch
      rw [show controller.database.activeRun launch.2 = true from active] at idle
      cases idle
  · rw [if_neg renamed]
    exact within

theorem activeRun_setRunStatus {database : Database} {runId : Nat} {status : RunStatus}
    (wasActive : database.activeRun runId) {other : Nat}
    (active : (database.setRunStatus runId status).activeRun other) : database.activeRun other := by
  by_cases isRun : other = runId
  · rw [isRun]
    exact wasActive
  · obtain ⟨changed, member, isActive⟩ := List.any_eq_true.mp active
    obtain ⟨run, runMember, rfl⟩ := List.mem_map.mp member
    refine List.any_eq_true.mpr ⟨run, runMember, ?_⟩
    by_cases same : run.id = runId
    · rw [if_pos same] at isActive
      have : run.id = other := by simpa using (Bool.and_eq_true_iff.mp isActive).1
      exact absurd (this.symm.trans same) isRun
    · rw [if_neg same] at isActive
      exact isActive

theorem Invariant.complete (holds : controller.Invariant) {runId : Nat} (status : RunStatus)
    (wasActive : controller.database.activeRun runId) :
    Invariant { controller with
      database := controller.database.setRunStatus runId status } := by
  refine ⟨?_, ?_, ?_⟩
  · intro launch member
    refine map_runs_ids (fun run => ?_) (holds.known launch member)
    split <;> rfl
  · intro launch member active
    obtain ⟨cluster, found, within⟩ :=
      holds.named launch member (activeRun_setRunStatus wasActive active)
    refine ⟨cluster, found, fun changed changedMember isChanged => ?_⟩
    obtain ⟨run, runMember, rfl⟩ := List.mem_map.mp changedMember
    by_cases same : run.id = runId
    · rw [if_pos same] at isChanged ⊢
      exact within run runMember isChanged
    · rw [if_neg same] at isChanged ⊢
      exact within run runMember isChanged
  · intro clusterId first second firstMember secondMember firstActive secondActive
    exact holds.exclusive clusterId first second firstMember secondMember
      (activeRun_setRunStatus wasActive firstActive)
      (activeRun_setRunStatus wasActive secondActive)

theorem settleBatch_same (runId : Nat) (finalized : Bool) (database : Database) :
    (settleBatch runId finalized database).runs = database.runs ∧
      (settleBatch runId finalized database).clusters = database.clusters := by
  simp only [settleBatch]
  split
  · exact ⟨rfl, rfl⟩
  · split
    · rw [WorkloadStore.finalizeBatch_eq]
      exact ⟨rfl, rfl⟩
    · rw [WorkloadStore.releaseBatch_eq]
      exact ⟨rfl, rfl⟩

theorem Invariant.perform (holds : controller.Invariant) {action : ClusterAction}
    (orderly : controller.Orderly action) : (controller.perform action).Invariant := by
  cases action with
  | update policy clusterId name =>
      rcases ran : (ClusterService.update policy clusterId name).run controller.database with
        ⟨outcome, after⟩
      simp only [ClusterController.perform, ResourceController.committed, ran]
      cases outcome with
      | returned _ =>
          rw [(update_returned ran).2.2]
          exact holds.rename orderly
      | raised error => exact holds
      | stopped => exact holds
  | launchBatch validator clusterId changeSet =>
      exact holds.launchOperation fun _ _ ran => launchBatch_launched ran
  | launchZoning catalog clusterId =>
      exact holds.launchOperation fun _ _ ran => launchApply_launched ran
  | launchFilebeat clusterId assignmentIds =>
      exact holds.launchOperation fun _ _ ran => launchFilebeat_launched ran
  | settleBatch runId finalized =>
      obtain ⟨runs, clusters⟩ := settleBatch_same runId finalized controller.database
      exact holds.same runs clusters
  | complete runId status =>
      simp only [ClusterController.perform]
      split
      · rename_i wasActive
        exact holds.complete status wasActive
      · exact holds

theorem Invariant.performAll (holds : controller.Invariant) {actions : List ClusterAction}
    (orderly : controller.EachOrderly actions) : (controller.performAll actions).Invariant := by
  induction actions generalizing controller with
  | nil => exact holds
  | cons action actions ih =>
      obtain ⟨isOrderly, others⟩ := orderly
      exact ih (holds.perform isOrderly) others

theorem Invariant.start (database : Database) : Invariant ⟨database, []⟩ := by
  refine ⟨?_, ?_, ?_⟩
  · intro launch member
    cases member
  · intro launch member
    cases member
  · intro clusterId first second member
    cases member

end ClusterController

/-- At most one operation of a cluster is active, in every run in which a cluster is renamed
only while none of its operations is active. -/
theorem single_active_operation (start : Database) {actions : List ClusterAction}
    (orderly : ClusterController.EachOrderly ⟨start, []⟩ actions) :
    ClusterController.Exclusive (ClusterController.performAll ⟨start, []⟩ actions) :=
  ((ClusterController.Invariant.start start).performAll orderly).exclusive

namespace ExclusionSample

def database : Database :=
  { Database.empty with clusters := [⟨1, "logs", "logs", true⟩] }

def policy : ClusterPolicy where
  requireNoMaintenanceConflict _ _ := .ok ()
  requireClusterCapability _ _ := .ok ()
  profileConflict _ _ := none
  validateZoningCatalogUpdate _ _ := .ok ()

/-- A second launch is refused, and the cluster gets its name after the first run ended. -/
def orderly : List ClusterAction :=
  [.launchFilebeat 1 none, .launchFilebeat 1 none, .complete 1 .succeeded,
    .update policy 1 "metrics", .launchFilebeat 1 none]

/-- The cluster gets another name while a reconciliation runs. -/
def renamed : List ClusterAction :=
  [.launchFilebeat 1 none, .update policy 1 "metrics", .launchFilebeat 1 none]

end ExclusionSample

/-- The launches of a renamed cluster follow each other. -/
theorem single_active_operation_renamed :
    let reached := ClusterController.performAll ⟨ExclusionSample.database, []⟩
      ExclusionSample.orderly
    reached.launches = [(1, 1), (1, 2)] ∧ reached.database.activeRun 2 ∧ reached.Exclusive := by
  refine ⟨by decide +kernel, by decide +kernel, ?_⟩
  refine single_active_operation _ ⟨trivial, trivial, trivial, ?_, trivial, trivial⟩
  intro cluster _ _ _ runId member
  have isRun : runId = 1 := by
    have launches : (ClusterController.performAll ⟨ExclusionSample.database, []⟩
        (ExclusionSample.orderly.take 3)).launches = [(1, 1)] := by
      decide +kernel
    have listed : (1, runId) ∈ (ClusterController.performAll ⟨ExclusionSample.database, []⟩
        (ExclusionSample.orderly.take 3)).launches := member
    rw [launches] at listed
    simpa using listed
  rw [isRun]
  decide +kernel

/-- After the cluster was renamed, a second reconciliation starts while the first one runs. -/
theorem renamed_cluster_runs_two :
    ¬ ∀ (start : Database) (actions : List ClusterAction),
      ClusterController.Exclusive (ClusterController.performAll ⟨start, []⟩ actions) := by
  intro exclusive
  have same : 1 = 2 := exclusive ExclusionSample.database ExclusionSample.renamed 1 1 2
    (by decide +kernel) (by decide +kernel) (by decide +kernel) (by decide +kernel)
  omega

end ElKeeper
