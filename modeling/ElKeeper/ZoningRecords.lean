import ElKeeper.ZoneCatalogs

/-!
# Zoning runs and the recorded zones

An application of the zoning and a change of a host zone reconcile workloads one
after the other and keep the zone of each workload in the observation of its
cluster.  An application skips a workload whose recorded zone is the desired one,
so the record has to name the zone with which the workload was last reconciled.
-/

namespace ElKeeper

open Program

/-- `observed_zones`, by assignment. -/
abbrev Zones :=
  List (Nat × String)

namespace Zones

/-- `zones.get(str(identifier), "")`. -/
def zoneFor (zones : Zones) (assignmentId : Nat) : String :=
  (zones.lookup assignmentId).getD ""

/-- `zones[str(identifier)] = zone`. -/
def set (assignmentId : Nat) (zone : String) (zones : Zones) : Zones :=
  (assignmentId, zone) :: zones.filter (·.1 ≠ assignmentId)

end Zones

/-- How a command on a host ends. -/
inductive CommandResult where
  | succeeded
  | failed
  | raised
deriving DecidableEq, Repr

/-- A reconciliation of a workload that was attempted. -/
structure Attempt where
  assignmentId : Nat
  zone : String
  result : CommandResult
deriving DecidableEq

/-- The controller with the recorded zones of each cluster that has an observation, and
the attempted reconciliations. -/
structure ZoningLedger where
  world : ZoningWorld
  observed : Nat → Option Zones
  attempts : List Attempt

/-- What the runs depend on: the result of each reconciliation by its position, of the
settings command of each run, and whether a payload can be composed. -/
structure ZoningRunner where
  reconcile : Nat → CommandResult
  settings : Nat → CommandResult
  payload : ZoningWorld → (assignmentId : Nat) → Except Fault Unit
  settingsPayload : ZoningWorld → (clusterId : Nat) → Except Fault Unit

namespace ZoningLedger

/-- The recorded zone of a workload, empty when there is none. -/
def recordedZone (ledger : ZoningLedger) (clusterId assignmentId : Nat) : String :=
  Zones.zoneFor ((ledger.observed clusterId).getD []) assignmentId

def logged (new : List Attempt) (ledger : ZoningLedger) : ZoningLedger :=
  { ledger with attempts := ledger.attempts ++ new }

def setObserved (clusterId : Nat) (zones : Zones) (ledger : ZoningLedger) : ZoningLedger :=
  { ledger with
    observed := fun other => if other = clusterId then some zones else ledger.observed other }

/-- `record_zoning_failure_in_connection` keeps the recorded zones. -/
def recordFailure (clusterId : Nat) (ledger : ZoningLedger) : ZoningLedger :=
  ledger.setObserved clusterId ((ledger.observed clusterId).getD [])

/-- The last attempt to reconcile a workload. -/
def lastAttempt (ledger : ZoningLedger) (assignmentId : Nat) : Option Attempt :=
  ledger.attempts.reverse.find? (·.assignmentId = assignmentId)

end ZoningLedger

/-! ### The workers -/

namespace ZoningWorker

/-- The position in `ZONING_RECONCILE_ORDER`; the other roles are no Elasticsearch roles. -/
def reconcileOrder : Role → Nat
  | .hot => 0
  | .warm => 1
  | .ml => 2
  | .ingest => 3
  | .coordinating => 4
  | .master => 5
  | _ => 6

/-- The name of the host of a workload. -/
def nodeName (database : Database) (row : AssignmentRow) : String :=
  ((database.nodes.find? (·.id = row.nodeId)).map (·.name)).getD ""

/-- The order in which the workloads of a cluster are reconciled. -/
def reconcileLe (database : Database) (first second : AssignmentRow) : Prop :=
  reconcileOrder first.role < reconcileOrder second.role ∨
    reconcileOrder first.role = reconcileOrder second.role ∧
      (nodeName database first < nodeName database second ∨
        nodeName database first = nodeName database second ∧ first.id ≤ second.id)

instance (database : Database) : DecidableRel (reconcileLe database) :=
  fun _ _ => inferInstanceAs (Decidable (_ ∨ _ ∧ (_ ∨ _ ∧ _)))

/-- The same order, by cluster first. -/
def hostReconcileLe (database : Database) (first second : AssignmentRow) : Prop :=
  first.clusterId < second.clusterId ∨
    first.clusterId = second.clusterId ∧ reconcileLe database first second

instance (database : Database) : DecidableRel (hostReconcileLe database) :=
  fun _ _ => inferInstanceAs (Decidable (_ ∨ _ ∧ _))

section

variable (runner : ZoningRunner)

/-- `execute_reconcile`. -/
def reconcile (assignmentId : Nat) (zone : String) : Program ZoningLedger Fault Bool := do
  let result ← read fun ledger => runner.reconcile ledger.attempts.length
  update (ZoningLedger.logged [⟨assignmentId, zone, result⟩])
  match result with
  | .succeeded => pure true
  | .failed => pure false
  | .raised => raise ⟨.runtimeError, "Zoning reconciliation was interrupted"⟩

/-- `_rollback_with`, on the completed workloads in reverse order. -/
def rollbackWith (previous : Nat → String) : List Nat → Program ZoningLedger Fault Bool
  | [] => pure true
  | assignmentId :: others => do
      let restored ← reconcile runner assignmentId (previous assignmentId)
      let rest ← rollbackWith previous others
      pure (restored && rest)

/-- The loop of both runs.  It gives the completed workloads, or nothing when one failed
and those before it were rolled back. -/
def reconcileEach (skipped : AssignmentRow → Bool) (zoneOf : ZoningWorld → AssignmentRow → String)
    (previous : Nat → String) :
    List AssignmentRow → List Nat → Program ZoningLedger Fault (Option (List Nat))
  | [], completed => pure (some completed)
  | row :: rows, completed =>
      if skipped row then reconcileEach skipped zoneOf previous rows completed
      else do
        let payload ← read fun ledger => runner.payload ledger.world row.id
        ofExcept payload
        let zone ← read fun ledger => zoneOf ledger.world row
        if ← reconcile runner row.id zone then
          reconcileEach skipped zoneOf previous rows (completed ++ [row.id])
        else do
          let _ ← rollbackWith runner previous completed.reverse
          pure none

/-- The workloads of a zoning application, in order. -/
def applyRows (world : ZoningWorld) (clusterId : Nat) : List AssignmentRow :=
  (assignments world.database clusterId).insertionSort (reconcileLe world.database)

/-- `desired_zones`; the hosts have passed `preflight` and are members. -/
def desiredZone (world : ZoningWorld) (clusterId : Nat) (row : AssignmentRow) : String :=
  if (world.zoning clusterId).mode = .disabled then "" else world.hostZone row.nodeId

/-- `settings`, after the loop. -/
def applySettings (runId clusterId : Nat) (previous : Nat → String) (desired : Zones)
    (completed : List Nat) : Program ZoningLedger Fault Bool := do
  let payload ← read fun ledger => runner.settingsPayload ledger.world clusterId
  ofExcept payload
  match runner.settings runId with
  | .raised => raise ⟨.runtimeError, "Zoning settings were interrupted"⟩
  | .failed => do
      let _ ← rollbackWith runner previous completed.reverse
      pure false
  | .succeeded => do
      update (ZoningLedger.setObserved clusterId desired)
      pure true

/-- The body of `run_apply`, which tells whether the run succeeded. -/
def applyBody (runId clusterId : Nat) : Program ZoningLedger Fault Bool := do
  let rows ← read fun ledger => applyRows ledger.world clusterId
  let previous ← read fun ledger => ledger.recordedZone clusterId
  let desired ← read fun ledger => desiredZone ledger.world clusterId
  match ← reconcileEach runner (fun row => previous row.id = desired row) (fun _ => desired)
      previous rows [] with
  | none => pure false
  | some completed =>
      applySettings runner runId clusterId previous (rows.map fun row => (row.id, desired row))
        completed

/-- The workloads of a host zone change, in order. -/
def zoneChangeRows (world : ZoningWorld) (nodeId : Nat) : List AssignmentRow :=
  (world.database.assignments.filter fun row =>
    row.nodeId = nodeId && row.state = .active && row.role.elasticsearch &&
      (world.zoning row.clusterId).mode ≠ .disabled).insertionSort (hostReconcileLe world.database)

/-- The recorded zones of a cluster after its workloads were reconciled. -/
def observeZone (zoneId : String) (rows : List AssignmentRow) (clusterId : Nat)
    (zones : Zones) : Zones :=
  (rows.filter (·.clusterId = clusterId)).foldl (fun zones row => zones.set row.id zoneId) zones

/-- `update_observed_zones_in_connection` for the clusters that have an observation. -/
def updateObserved (zoneId : String) (rows : List AssignmentRow) (ledger : ZoningLedger) :
    ZoningLedger :=
  { ledger with
    observed := fun clusterId =>
      if rows.any (·.clusterId = clusterId) then
        (ledger.observed clusterId).map (observeZone zoneId rows clusterId)
      else ledger.observed clusterId }

/-- The body of `run_host_zone_change`. -/
def zoneChangeBody (task : ZoneTask) : Program ZoningLedger Fault Bool := do
  let rows ← read fun ledger => zoneChangeRows ledger.world task.nodeId
  match ← reconcileEach runner (fun _ => false) (fun world row => world.hostZone row.nodeId)
      (fun _ => task.previousZone) rows [] with
  | none => pure false
  | some _ => do
      update (updateObserved task.zoneId rows)
      pure true

end

end ZoningWorker

/-! ### The controller -/

/-- A started task. -/
inductive ZoningTask where
  | apply (runId clusterId : Nat)
  | change (task : ZoneTask)
deriving DecidableEq

inductive ZoningCall where
  | updateZoning (policy : ClusterPolicy) (clusterId : Nat) (zoning : Zoning)
  | updateCluster (policy : ClusterPolicy) (clusterId : Nat) (name : String) (zoning : Zoning)
  | apply (clusterId : Nat)
  | changeZone (requireNoConflict : Database → Nat → Except Fault Unit) (nodeId clusterId : Nat)
      (zoneId : String)

namespace ZoningLedger

open ZoningWorker

def onWorld (change : ZoningWorld → ZoningWorld) (ledger : ZoningLedger) : ZoningLedger :=
  { ledger with world := change ledger.world }

/-- The zoning of a cluster with the zones of the hosts. -/
def catalog (world : ZoningWorld) (clusterId : Nat) : ZoneCatalog where
  zoning := world.zoning clusterId
  hostZone := world.hostZone

/-- `launch_apply`. -/
def launchApply (clusterId : Nat) (ledger : ZoningLedger) : ZoningLedger × Option ZoningTask :=
  match (ZoningWorker.launchApply (catalog ledger.world clusterId) clusterId).run
      ledger.world.database with
  | (.returned runId, launched) =>
      let after := ledger.onWorld fun world => { world with database := launched }
      if (ledger.world.zoning clusterId).mode = .disabled ∧
          assignments ledger.world.database clusterId = [] then
        (after.setObserved clusterId [], none)
      else (after, some (.apply runId clusterId))
  | _ => (ledger, none)

/-- `update_node_zone`. -/
def launchChange (requireNoConflict : Database → Nat → Except Fault Unit) (nodeId clusterId : Nat)
    (zoneId : String) (ledger : ZoningLedger) : ZoningLedger × Option ZoningTask :=
  match (ZoningWorld.updateNodeZone requireNoConflict nodeId clusterId zoneId).run
      ledger.world with
  | (.returned _, launched) =>
      (ledger.onWorld fun _ => launched,
        ((launched.tasks.drop ledger.world.tasks.length).head?).map ZoningTask.change)
  | _ => (ledger, none)

/-- The request, and the task that it starts. -/
def launch (ledger : ZoningLedger) : ZoningCall → ZoningLedger × Option ZoningTask
  | .updateZoning policy clusterId zoning =>
      (ledger.onWorld fun world => world.perform (.updateZoning policy clusterId zoning), none)
  | .updateCluster policy clusterId name zoning =>
      (ledger.onWorld fun world => world.perform (.updateCluster policy clusterId name zoning),
        none)
  | .apply clusterId => ledger.launchApply clusterId
  | .changeZone requireNoConflict nodeId clusterId zoneId =>
      ledger.launchChange requireNoConflict nodeId clusterId zoneId

/-- Whether a body returned that the run succeeded. -/
def succeeds : Outcome Fault Bool → Bool
  | .returned succeeded => succeeded
  | _ => false

/-- `run_apply` and `run_host_zone_change`, with their `finally` blocks. -/
def runTask (runner : ZoningRunner) (ledger : ZoningLedger) : ZoningTask → Bool × ZoningLedger
  | .apply runId clusterId =>
      match (applyBody runner runId clusterId).run ledger with
      | (outcome, after) =>
          let recorded := if succeeds outcome then after else after.recordFailure clusterId
          (succeeds outcome, recorded.onWorld fun world =>
            { world with
              database := world.database.setRunStatus runId
                (if succeeds outcome then .succeeded else .failed) })
  | .change task =>
      match (zoneChangeBody runner task).run ledger with
      | (outcome, after) =>
          (succeeds outcome, after.onWorld fun world => world.endTask task (succeeds outcome))

/-- A request with the whole run that it starts. -/
def call (runner : ZoningRunner) (ledger : ZoningLedger) (request : ZoningCall) : ZoningLedger :=
  match ledger.launch request with
  | (launched, none) => launched
  | (launched, some task) => (launched.runTask runner task).2

def callAll (runner : ZoningRunner) (ledger : ZoningLedger) (requests : List ZoningCall) :
    ZoningLedger :=
  requests.foldl (call runner) ledger

/-! ### The property -/

/-- The zone recorded for an active workload is the one of its last attempt. -/
def Recorded (ledger : ZoningLedger) : Prop :=
  ∀ row ∈ ledger.world.database.assignments, row.state = .active →
    ∀ zones, ledger.observed row.clusterId = some zones → ∀ zone, zones.lookup row.id = some zone →
      ∃ attempt, ledger.lastAttempt row.id = some attempt ∧ attempt.zone = zone

/-- A workload is back in the zone that was recorded for it. -/
def BackInZone (before after : ZoningLedger) (row : AssignmentRow) : Prop :=
  ∃ attempt, after.lastAttempt row.id = some attempt ∧ attempt.result = .succeeded ∧
    attempt.zone = before.recordedZone row.clusterId row.id

/-- Every workload that a run attempted to reconcile is back in its recorded zone, or no
longer recorded with it. -/
def Settled (before after : ZoningLedger) : Prop :=
  ∀ row ∈ before.world.database.assignments,
    (∃ attempt ∈ after.attempts.drop before.attempts.length, attempt.assignmentId = row.id) →
      BackInZone before after row ∨
        after.recordedZone row.clusterId row.id ≠ before.recordedZone row.clusterId row.id

/-- A run that fails leaves every workload settled. -/
def FailureSettled (runner : ZoningRunner) (ledger : ZoningLedger) (request : ZoningCall) : Prop :=
  match ledger.launch request with
  | (_, none) => True
  | (launched, some task) =>
      (launched.runTask runner task).1 = false → Settled launched (launched.runTask runner task).2

/-! ### The condition -/

/-- The next reconciliations succeed. -/
def Answered (runner : ZoningRunner) (ledger : ZoningLedger) (from_ count : Nat) : Prop :=
  ∀ index < count, runner.reconcile (ledger.attempts.length + from_ + index) = .succeeded

/-- The workloads that an application does not skip. -/
def pendingRows (ledger : ZoningLedger) (clusterId : Nat) : List AssignmentRow :=
  (applyRows ledger.world clusterId).filter fun row =>
    ledger.recordedZone clusterId row.id ≠ desiredZone ledger.world clusterId row

/-- The payload of the first workload cannot be composed, so that none is attempted. -/
def Unattempted (runner : ZoningRunner) (ledger : ZoningLedger) (rows : List AssignmentRow) : Prop :=
  ∃ row others, rows = row :: others ∧ runner.payload ledger.world row.id ≠ .ok ()

/-- Every workload is reconciled. -/
def Reconciled (runner : ZoningRunner) (ledger : ZoningLedger) (rows : List AssignmentRow) : Prop :=
  (∀ row ∈ rows, runner.payload ledger.world row.id = .ok ()) ∧ ledger.Answered runner 0 rows.length

/-- What has to follow the reconciled workloads: nothing was reconciled before the settings
raise, the rollback after rejected settings succeeds, and each workload that was skipped
without a record was last reconciled with the empty zone. -/
def SettingsClean (runner : ZoningRunner) (ledger : ZoningLedger) (runId clusterId : Nat) : Prop :=
  let rows := ledger.pendingRows clusterId
  if runner.settingsPayload ledger.world clusterId ≠ .ok () then rows = []
  else
    match runner.settings runId with
    | .raised => rows = []
    | .failed => ledger.Answered runner rows.length rows.length
    | .succeeded => ∀ row ∈ applyRows ledger.world clusterId,
        ((ledger.observed clusterId).getD []).lookup row.id = none →
          desiredZone ledger.world clusterId row = "" →
            ∃ attempt, ledger.lastAttempt row.id = some attempt ∧ attempt.zone = ""

/-- The condition on a started task. -/
def CleanTask (runner : ZoningRunner) (ledger : ZoningLedger) : ZoningTask → Prop
  | .apply runId clusterId =>
      let rows := ledger.pendingRows clusterId
      ledger.Unattempted runner rows ∨
        ledger.Reconciled runner rows ∧ ledger.SettingsClean runner runId clusterId
  | .change task =>
      let rows := zoneChangeRows ledger.world task.nodeId
      ledger.Unattempted runner rows ∨ ledger.Reconciled runner rows

def Clean (runner : ZoningRunner) (ledger : ZoningLedger) (request : ZoningCall) : Prop :=
  match ledger.launch request with
  | (_, none) => True
  | (launched, some task) => launched.CleanTask runner task

/-- Every request of a sequence meets the condition where it is made. -/
def EachClean (runner : ZoningRunner) : ZoningLedger → List ZoningCall → Prop
  | _, [] => True
  | ledger, request :: requests =>
      ledger.Clean runner request ∧ EachClean runner (ledger.call runner request) requests

end ZoningLedger

/-! ### The log of attempts -/

namespace ZoningLedger

variable {runner : ZoningRunner} {ledger after : ZoningLedger} {assignmentId : Nat}

@[simp]
theorem logged_nil (ledger : ZoningLedger) : ledger.logged [] = ledger := by
  simp [logged]

@[simp]
theorem logged_logged (first second : List Attempt) (ledger : ZoningLedger) :
    (ledger.logged first).logged second = ledger.logged (first ++ second) := by
  simp [logged]

theorem lastAttempt_logged_of_not {new : List Attempt}
    (others : ∀ attempt ∈ new, attempt.assignmentId ≠ assignmentId) :
    (ledger.logged new).lastAttempt assignmentId = ledger.lastAttempt assignmentId := by
  have none : new.reverse.find? (·.assignmentId = assignmentId) = none := by
    refine List.find?_eq_none.mpr fun attempt member => ?_
    simpa using others attempt (List.mem_reverse.mp member)
  simp [lastAttempt, logged, List.find?_append, none]

/-- The last of the new attempts is the last attempt. -/
theorem lastAttempt_logged (ledger : ZoningLedger) {new : List Attempt}
    (attempted : ∃ attempt ∈ new, attempt.assignmentId = assignmentId) :
    ∃ attempt ∈ new, attempt.assignmentId = assignmentId ∧
      (ledger.logged new).lastAttempt assignmentId = some attempt := by
  obtain ⟨witness, witnessMember, isWitness⟩ := attempted
  have isFound : (new.reverse.find? (·.assignmentId = assignmentId)).isSome := by
    rw [List.find?_isSome]
    exact ⟨witness, List.mem_reverse.mpr witnessMember, by simpa using isWitness⟩
  obtain ⟨attempt, found⟩ := Option.isSome_iff_exists.mp isFound
  refine ⟨attempt, ?_, by simpa using List.find?_some found, ?_⟩
  · exact List.mem_reverse.mp (List.mem_of_find?_eq_some found)
  · simp [lastAttempt, logged, List.find?_append, found]

theorem Answered.logged (new : List Attempt) {count : Nat}
    (answered : ledger.Answered runner new.length count) :
    (ledger.logged new).Answered runner 0 count := by
  intro index bound
  have answer := answered index bound
  simpa [ZoningLedger.logged] using answer

theorem Answered.split {first second : Nat}
    (answered : ledger.Answered runner 0 (first + second)) :
    ledger.Answered runner 0 first ∧ ledger.Answered runner first second := by
  constructor
  · intro index bound
    exact answered index (by omega)
  · intro index bound
    have answer := answered (first + index) (by omega)
    rwa [Nat.add_zero, ← Nat.add_assoc] at answer

end ZoningLedger

/-! ### Reconciliations that succeed -/

namespace ZoningWorker

open ZoningLedger

variable {runner : ZoningRunner} {ledger : ZoningLedger}

/-- The attempts of reconciliations that succeed. -/
def successes (zoneOf : Nat → String) (assignmentIds : List Nat) : List Attempt :=
  assignmentIds.map fun assignmentId => ⟨assignmentId, zoneOf assignmentId, .succeeded⟩

theorem reconcile_succeeds (assignmentId : Nat) (zone : String)
    (answer : runner.reconcile ledger.attempts.length = .succeeded) :
    (reconcile runner assignmentId zone).run ledger =
      (.returned true, ledger.logged [⟨assignmentId, zone, .succeeded⟩]) := by
  simp [reconcile, run_bind, answer]

theorem rollbackWith_succeeds {previous : Nat → String} {assignmentIds : List Nat}
    (answered : ledger.Answered runner 0 assignmentIds.length) :
    (rollbackWith runner previous assignmentIds).run ledger =
      (.returned true, ledger.logged (successes previous assignmentIds)) := by
  induction assignmentIds generalizing ledger with
  | nil => simp [rollbackWith, successes]
  | cons assignmentId others ih =>
      rw [List.length_cons, Nat.add_comm] at answered
      obtain ⟨first, rest⟩ := answered.split
      have reconciled := reconcile_succeeds assignmentId (previous assignmentId)
        (first 0 (by omega))
      have restored := ih (Answered.logged [⟨assignmentId, previous assignmentId, .succeeded⟩] rest)
      simp [rollbackWith, run_bind, reconciled, restored, successes]

section

variable {skipped : AssignmentRow → Bool} {zoneOf : ZoningWorld → AssignmentRow → String}
  {previous : Nat → String}

/-- The attempts of a loop in which every reconciliation succeeds. -/
def loopAttempts (zoneOf : AssignmentRow → String) (rows : List AssignmentRow) : List Attempt :=
  rows.map fun row => ⟨row.id, zoneOf row, .succeeded⟩

theorem reconcileEach_succeeds {rows : List AssignmentRow} (completed : List Nat)
    (reconciled : ledger.Reconciled runner (rows.filter (!skipped ·))) :
    (reconcileEach runner skipped zoneOf previous rows completed).run ledger =
      (.returned (some (completed ++ (rows.filter (!skipped ·)).map (·.id))),
        ledger.logged (loopAttempts (zoneOf ledger.world) (rows.filter (!skipped ·)))) := by
  induction rows generalizing ledger completed with
  | nil => simp [reconcileEach, loopAttempts]
  | cons row rows ih =>
      by_cases isSkipped : skipped row
      · rw [List.filter_cons_of_neg (by simpa using isSkipped)] at reconciled ⊢
        rw [reconcileEach, if_pos isSkipped]
        exact ih completed reconciled
      · rw [List.filter_cons_of_pos (by simpa using isSkipped)] at reconciled ⊢
        obtain ⟨payloads, answered⟩ := reconciled
        rw [List.length_cons, Nat.add_comm] at answered
        obtain ⟨first, rest⟩ := answered.split
        have payload := payloads row List.mem_cons_self
        have isReconciled := reconcile_succeeds row.id (zoneOf ledger.world row)
          (first 0 (by omega))
        have remaining : (ledger.logged [⟨row.id, zoneOf ledger.world row, .succeeded⟩]).Reconciled
            runner (rows.filter (!skipped ·)) :=
          ⟨fun other member => payloads other (List.mem_cons_of_mem _ member), rest.logged _⟩
        have others := ih (completed ++ [row.id]) remaining
        rw [reconcileEach, if_neg isSkipped]
        simp only [run_bind, run_read, payload, Program.ofExcept, run_pure, isReconciled, if_true, others,
          logged_logged]
        simp [loopAttempts, ZoningLedger.logged]

/-- A run whose first payload cannot be composed attempts nothing. -/
theorem reconcileEach_unattempted {rows : List AssignmentRow} (completed : List Nat)
    (unattempted : ledger.Unattempted runner (rows.filter (!skipped ·))) :
    ∃ error, (reconcileEach runner skipped zoneOf previous rows completed).run ledger =
      (.raised error, ledger) := by
  induction rows with
  | nil =>
      obtain ⟨row, others, isRows, _⟩ := unattempted
      cases isRows
  | cons row rows ih =>
      by_cases isSkipped : skipped row
      · rw [List.filter_cons_of_neg (by simpa using isSkipped)] at unattempted
        rw [reconcileEach, if_pos isSkipped]
        exact ih unattempted
      · rw [List.filter_cons_of_pos (by simpa using isSkipped)] at unattempted
        obtain ⟨_, _, isRows, failing⟩ := unattempted
        cases isRows
        rw [reconcileEach, if_neg isSkipped]
        cases payload : runner.payload ledger.world row.id with
        | ok value => exact absurd payload failing
        | error error =>
            refine ⟨error, ?_⟩
            simp [run_bind, payload, Program.ofExcept]

end

theorem pendingRows_eq (ledger : ZoningLedger) (clusterId : Nat) :
    (applyRows ledger.world clusterId).filter (fun row =>
      !decide (ledger.recordedZone clusterId row.id = desiredZone ledger.world clusterId row)) =
      ledger.pendingRows clusterId := by
  simp [pendingRows]

/-- How a zoning application that meets the condition ends. -/
inductive ApplyEnd (runner : ZoningRunner) (ledger : ZoningLedger) (clusterId : Nat) :
    Bool → ZoningLedger → Prop where
  /-- Nothing was attempted. -/
  | unattempted : ApplyEnd runner ledger clusterId false ledger
  /-- The settings were rejected and the workloads are back. -/
  | rolledBack : ApplyEnd runner ledger clusterId false (ledger.logged
      (loopAttempts (desiredZone ledger.world clusterId) (ledger.pendingRows clusterId) ++
        successes (ledger.recordedZone clusterId)
          ((ledger.pendingRows clusterId).map (·.id)).reverse))
  /-- The desired zones are recorded. -/
  | applied (unrecorded : ∀ row ∈ applyRows ledger.world clusterId,
        ((ledger.observed clusterId).getD []).lookup row.id = none →
          desiredZone ledger.world clusterId row = "" →
            ∃ attempt, ledger.lastAttempt row.id = some attempt ∧ attempt.zone = "") :
      ApplyEnd runner ledger clusterId true ((ledger.logged
        (loopAttempts (desiredZone ledger.world clusterId)
          (ledger.pendingRows clusterId))).setObserved clusterId
            ((applyRows ledger.world clusterId).map fun row =>
              (row.id, desiredZone ledger.world clusterId row)))

/-- A raise after which no workload has been reconciled. -/
theorem ApplyEnd.of_raised {clusterId : Nat} (none : ledger.pendingRows clusterId = []) :
    ApplyEnd runner ledger clusterId false (ledger.logged
      (loopAttempts (desiredZone ledger.world clusterId) (ledger.pendingRows clusterId))) := by
  rw [none]
  simpa [loopAttempts] using ApplyEnd.unattempted

theorem applySettings_ends {runId clusterId : Nat}
    (settings : ledger.SettingsClean runner runId clusterId) :
    let ran := (applySettings runner runId clusterId (ledger.recordedZone clusterId)
      ((applyRows ledger.world clusterId).map fun row =>
        (row.id, desiredZone ledger.world clusterId row))
      ((ledger.pendingRows clusterId).map (·.id))).run (ledger.logged
        (loopAttempts (desiredZone ledger.world clusterId) (ledger.pendingRows clusterId)))
    ApplyEnd runner ledger clusterId (ZoningLedger.succeeds ran.1) ran.2 := by
  simp only [applySettings, run_bind, run_read, SettingsClean] at settings ⊢
  have sameWorld : ∀ new, (ledger.logged new).world = ledger.world := fun _ => rfl
  rw [sameWorld]
  cases payload : runner.settingsPayload ledger.world clusterId with
  | error error =>
      rw [payload, if_pos (by simp)] at settings
      exact ApplyEnd.of_raised settings
  | ok value =>
      rw [payload, if_neg (by simp)] at settings
      cases result : runner.settings runId with
      | raised =>
          rw [result] at settings
          exact ApplyEnd.of_raised settings
      | failed =>
          rw [result] at settings
          have answered : (ledger.logged (loopAttempts (desiredZone ledger.world clusterId)
              (ledger.pendingRows clusterId))).Answered runner 0
                ((ledger.pendingRows clusterId).map (·.id)).reverse.length := by
            apply Answered.logged
            simpa [loopAttempts] using settings
          simp only [Program.ofExcept, run_pure, run_bind, rollbackWith_succeeds answered,
            logged_logged]
          exact .rolledBack
      | succeeded =>
          rw [result] at settings
          exact .applied settings

theorem applyBody_ends {runId clusterId : Nat}
    (clean : ledger.CleanTask runner (.apply runId clusterId)) :
    ApplyEnd runner ledger clusterId
      (ZoningLedger.succeeds ((applyBody runner runId clusterId).run ledger).1)
      ((applyBody runner runId clusterId).run ledger).2 := by
  simp only [applyBody, run_bind, run_read]
  rcases clean with unattempted | ⟨reconciled, settings⟩
  · rw [← pendingRows_eq] at unattempted
    obtain ⟨error, ran⟩ := reconcileEach_unattempted [] unattempted
    rw [ran]
    exact .unattempted
  · rw [← pendingRows_eq] at reconciled
    rw [reconcileEach_succeeds [] reconciled, pendingRows_eq, List.nil_append]
    exact applySettings_ends settings

/-- How a host zone change that meets the condition ends. -/
inductive ChangeEnd (ledger : ZoningLedger) (task : ZoneTask) : Bool → ZoningLedger → Prop where
  /-- Nothing was attempted. -/
  | unattempted : ChangeEnd ledger task false ledger
  /-- The new zone is recorded where the cluster has an observation. -/
  | changed : ChangeEnd ledger task true (updateObserved task.zoneId
      (zoneChangeRows ledger.world task.nodeId)
      (ledger.logged (loopAttempts (fun row => ledger.world.hostZone row.nodeId)
        (zoneChangeRows ledger.world task.nodeId))))

theorem zoneChangeBody_ends {task : ZoneTask} (clean : ledger.CleanTask runner (.change task)) :
    ChangeEnd ledger task
      (ZoningLedger.succeeds ((zoneChangeBody runner task).run ledger).1)
      ((zoneChangeBody runner task).run ledger).2 := by
  have noneSkipped : (zoneChangeRows ledger.world task.nodeId).filter (fun _ => !false) =
      zoneChangeRows ledger.world task.nodeId :=
    List.filter_eq_self.mpr fun _ _ => rfl
  simp only [zoneChangeBody, run_bind, run_read]
  rcases clean with unattempted | reconciled
  · rw [← noneSkipped] at unattempted
    obtain ⟨error, ran⟩ := reconcileEach_unattempted [] unattempted
    rw [ran]
    exact .unattempted
  · rw [← noneSkipped] at reconciled
    rw [reconcileEach_succeeds [] reconciled, noneSkipped]
    exact .changed

end ZoningWorker

/-! ### What the ends keep -/

namespace ZoningLedger

open ZoningWorker

variable {ledger after : ZoningLedger} {clusterId : Nat}

/-- The identifiers of the workloads are unique. -/
def Unique (ledger : ZoningLedger) : Prop :=
  (ledger.world.database.assignments.map (·.id)).Nodup

theorem Unique.eq (unique : ledger.Unique) {first second : AssignmentRow}
    (isFirst : first ∈ ledger.world.database.assignments)
    (isSecond : second ∈ ledger.world.database.assignments) (same : first.id = second.id) :
    first = second :=
  List.inj_on_of_nodup_map unique isFirst isSecond same

theorem mem_of_unclaimedSame {before after : Database} (same : UnclaimedSame before after)
    {row : AssignmentRow} (member : row ∈ after.assignments) :
    ∃ original ∈ before.assignments, original.id = row.id ∧
      original.clusterId = row.clusterId ∧ original.state = row.state := by
  have listed : { row with operationRunId := none } ∈
      after.assignments.map fun row => { row with operationRunId := none } :=
    List.mem_map_of_mem member
  rw [same] at listed
  obtain ⟨original, originalMember, isRow⟩ := List.mem_map.mp listed
  simp only [AssignmentRow.mk.injEq] at isRow
  obtain ⟨sameId, sameCluster, _, _, _, _, sameState, _⟩ := isRow
  exact ⟨original, originalMember, sameId, sameCluster, sameState⟩

theorem Recorded.of_same (recorded : ledger.Recorded)
    (workloads : UnclaimedSame ledger.world.database after.world.database)
    (observed : after.observed = ledger.observed) (attempts : after.attempts = ledger.attempts) :
    after.Recorded := by
  intro row member isActive zones isZones zone isZone
  obtain ⟨original, originalMember, sameId, sameCluster, sameState⟩ :=
    mem_of_unclaimedSame workloads member
  rw [observed, ← sameCluster] at isZones
  rw [← sameId] at isZone
  rw [← sameState] at isActive
  rw [lastAttempt, attempts, ← sameId]
  exact recorded original originalMember isActive zones isZones zone isZone

theorem Unique.of_same (unique : ledger.Unique)
    (workloads : UnclaimedSame ledger.world.database after.world.database) : after.Unique := by
  have ids : after.world.database.assignments.map (·.id) =
      ledger.world.database.assignments.map (·.id) := by
    have mapped := congrArg (List.map AssignmentRow.id) workloads
    simpa [List.map_map, Function.comp_def] using mapped
  rw [Unique, ids]
  exact unique

/-- A failed run records no zone that was not there. -/
theorem Recorded.recordFailure (recorded : ledger.Recorded) (clusterId : Nat) :
    (ledger.recordFailure clusterId).Recorded := by
  intro row member isActive zones isZones zone isZone
  simp only [ZoningLedger.recordFailure, setObserved] at isZones
  split at isZones
  · rename_i isCluster
    cases found : ledger.observed clusterId with
    | none =>
        rw [found] at isZones
        cases isZones
        cases isZone
    | some other =>
        rw [found] at isZones
        cases isZones
        exact recorded row member isActive other (isCluster ▸ found) zone isZone
  · exact recorded row member isActive zones isZones zone isZone

/-- A cluster without workloads records none. -/
theorem Recorded.setEmpty (recorded : ledger.Recorded) (clusterId : Nat) :
    (ledger.setObserved clusterId []).Recorded := by
  intro row member isActive zones isZones zone isZone
  simp only [setObserved] at isZones
  split at isZones
  · cases isZones
    cases isZone
  · exact recorded row member isActive zones isZones zone isZone

/-- What was not attempted keeps its last attempt. -/
theorem Recorded.kept (recorded : ledger.Recorded) {row : AssignmentRow}
    (member : row ∈ ledger.world.database.assignments) (isActive : row.state = .active)
    {zones : Zones} (isZones : ledger.observed row.clusterId = some zones) {zone : String}
    (isZone : zones.lookup row.id = some zone) {new : List Attempt}
    (others : ∀ attempt ∈ new, attempt.assignmentId ≠ row.id) :
    ∃ attempt, (ledger.logged new).lastAttempt row.id = some attempt ∧ attempt.zone = zone := by
  rw [lastAttempt_logged_of_not others]
  exact recorded row member isActive zones isZones zone isZone

theorem mem_applyRows {world : ZoningWorld} {row : AssignmentRow} :
    row ∈ applyRows world clusterId ↔ row ∈ world.database.assignments ∧
      row.clusterId = clusterId ∧ row.state = .active ∧ row.role.elasticsearch = true := by
  simp [applyRows, assignments, List.mem_insertionSort, and_assoc]

theorem mem_pendingRows {row : AssignmentRow} :
    row ∈ ledger.pendingRows clusterId ↔ row ∈ applyRows ledger.world clusterId ∧
      ledger.recordedZone clusterId row.id ≠ desiredZone ledger.world clusterId row := by
  simp [pendingRows]

/-- The attempts of a loop are those of its workloads. -/
theorem mem_loopAttempts {zoneOf : AssignmentRow → String} {rows : List AssignmentRow}
    {attempt : Attempt} : attempt ∈ loopAttempts zoneOf rows ↔
      ∃ row ∈ rows, (⟨row.id, zoneOf row, .succeeded⟩ : Attempt) = attempt := by
  simp [loopAttempts]

/-- After a rollback each workload was last reconciled with its former zone. -/
theorem lastAttempt_rolledBack {previous : Nat → String} {assignmentIds : List Nat}
    {assignmentId : Nat} (member : assignmentId ∈ assignmentIds) (new : List Attempt) :
    (ledger.logged (new ++ successes previous assignmentIds)).lastAttempt assignmentId =
      some ⟨assignmentId, previous assignmentId, .succeeded⟩ := by
  have attempted : ∃ attempt ∈ successes previous assignmentIds,
      attempt.assignmentId = assignmentId :=
    ⟨_, List.mem_map_of_mem member, rfl⟩
  obtain ⟨attempt, attemptMember, isAttempt, isLast⟩ :=
    lastAttempt_logged (ledger.logged new) attempted
  obtain ⟨other, _, rfl⟩ := List.mem_map.mp attemptMember
  rw [← logged_logged, isLast]
  cases isAttempt
  rfl

/-- A rejected application keeps the records and settles what it attempted. -/
theorem Recorded.rolledBack (recorded : ledger.Recorded) (unique : ledger.Unique)
    (clusterId : Nat) :
    let rows := ledger.pendingRows clusterId
    let rolledBack := ledger.logged
      (loopAttempts (desiredZone ledger.world clusterId) rows ++
        successes (ledger.recordedZone clusterId) (rows.map (·.id)).reverse)
    rolledBack.Recorded ∧ Settled ledger rolledBack := by
  intro rows rolledBack
  have attemptedRow : ∀ row ∈ ledger.world.database.assignments,
      row.id ∈ rows.map (·.id) → row.clusterId = clusterId := by
    intro row member isAttempted
    obtain ⟨pending, pendingMember, sameId⟩ := List.mem_map.mp isAttempted
    obtain ⟨isRow, isCluster, _, _⟩ := mem_applyRows.mp (mem_pendingRows.mp pendingMember).1
    rw [← unique.eq isRow member sameId]
    exact isCluster
  have isBack : ∀ row ∈ ledger.world.database.assignments, row.id ∈ rows.map (·.id) →
      rolledBack.lastAttempt row.id =
        some ⟨row.id, ledger.recordedZone row.clusterId row.id, .succeeded⟩ := by
    intro row member isAttempted
    rw [attemptedRow row member isAttempted]
    exact lastAttempt_rolledBack (List.mem_reverse.mpr isAttempted) _
  constructor
  · intro row member isActive zones isZones zone isZone
    by_cases isAttempted : row.id ∈ rows.map (·.id)
    · refine ⟨_, isBack row member isAttempted, ?_⟩
      have isZones : ledger.observed row.clusterId = some zones := isZones
      simp [recordedZone, isZones, Zones.zoneFor, isZone]
    · refine recorded.kept member isActive isZones isZone fun attempt isNew same => ?_
      rcases List.mem_append.mp isNew with forward | back
      · obtain ⟨pending, pendingMember, rfl⟩ := mem_loopAttempts.mp forward
        exact isAttempted (List.mem_map.mpr ⟨pending, pendingMember, same⟩)
      · obtain ⟨identifier, isPending, rfl⟩ := List.mem_map.mp back
        cases same
        exact isAttempted (List.mem_reverse.mp isPending)
  · rintro row member ⟨attempt, isNew, isRow⟩
    left
    have isAttempted : row.id ∈ rows.map (·.id) := by
      have isNew : attempt ∈ loopAttempts (desiredZone ledger.world clusterId) rows ++
          successes (ledger.recordedZone clusterId) (rows.map (·.id)).reverse := by
        simpa [rolledBack, logged] using isNew
      rcases List.mem_append.mp isNew with forward | back
      · obtain ⟨pending, pendingMember, rfl⟩ := mem_loopAttempts.mp forward
        exact List.mem_map.mpr ⟨pending, pendingMember, isRow⟩
      · obtain ⟨identifier, isPending, rfl⟩ := List.mem_map.mp back
        cases isRow
        exact List.mem_reverse.mp isPending
    exact ⟨_, isBack row member isAttempted, rfl, rfl⟩

theorem mem_of_lookup {zones : Zones} {assignmentId : Nat} {zone : String}
    (found : zones.lookup assignmentId = some zone) : (assignmentId, zone) ∈ zones := by
  obtain ⟨earlier, later, isZones, _⟩ := List.lookup_eq_some_iff.mp found
  rw [isZones]
  simp

/-- The desired zones are the zones with which the workloads were last reconciled. -/
theorem Recorded.applied (recorded : ledger.Recorded) (unique : ledger.Unique)
    (unrecorded : ∀ row ∈ applyRows ledger.world clusterId,
      ((ledger.observed clusterId).getD []).lookup row.id = none →
        desiredZone ledger.world clusterId row = "" →
          ∃ attempt, ledger.lastAttempt row.id = some attempt ∧ attempt.zone = "") :
    ((ledger.logged (loopAttempts (desiredZone ledger.world clusterId)
      (ledger.pendingRows clusterId))).setObserved clusterId
        ((applyRows ledger.world clusterId).map fun row =>
          (row.id, desiredZone ledger.world clusterId row))).Recorded := by
  intro row member isActive zones isZones zone isZone
  simp only [setObserved] at isZones
  split at isZones
  · rename_i isCluster
    cases isZones
    -- the recorded zone is the desired one of the row itself
    obtain ⟨applied, appliedMember, isApplied⟩ := List.mem_map.mp (mem_of_lookup isZone)
    obtain ⟨sameId, rfl⟩ := Prod.mk.inj isApplied
    obtain ⟨isRow, _⟩ := mem_applyRows.mp appliedMember
    obtain rfl := unique.eq isRow member sameId
    by_cases isPending : applied ∈ ledger.pendingRows clusterId
    · have attempted : ∃ attempt ∈ loopAttempts (desiredZone ledger.world clusterId)
          (ledger.pendingRows clusterId), attempt.assignmentId = applied.id :=
        ⟨_, mem_loopAttempts.mpr ⟨applied, isPending, rfl⟩, rfl⟩
      obtain ⟨attempt, isNew, isAttempt, isLast⟩ := lastAttempt_logged ledger attempted
      obtain ⟨pending, pendingMember, rfl⟩ := mem_loopAttempts.mp isNew
      obtain ⟨isPendingRow, _⟩ := mem_applyRows.mp (mem_pendingRows.mp pendingMember).1
      rw [unique.eq isPendingRow isRow isAttempt] at isLast
      exact ⟨_, isLast, rfl⟩
    · -- a skipped workload has the desired zone on record, or none on record and none desired
      have isSkipped : ledger.recordedZone clusterId applied.id =
          desiredZone ledger.world clusterId applied := by
        by_contra differs
        exact isPending (mem_pendingRows.mpr ⟨appliedMember, differs⟩)
      have others : ∀ attempt ∈ loopAttempts (desiredZone ledger.world clusterId)
          (ledger.pendingRows clusterId), attempt.assignmentId ≠ applied.id := by
        intro attempt isNew same
        obtain ⟨pending, pendingMember, rfl⟩ := mem_loopAttempts.mp isNew
        obtain ⟨isPendingRow, _⟩ := mem_applyRows.mp (mem_pendingRows.mp pendingMember).1
        exact isPending (unique.eq isPendingRow isRow same ▸ pendingMember)
      show ∃ attempt, (ledger.logged _).lastAttempt applied.id = some attempt ∧ _
      rw [lastAttempt_logged_of_not others, ← isSkipped]
      cases isRecorded : ((ledger.observed clusterId).getD []).lookup applied.id with
      | none =>
          have noZone : ledger.recordedZone clusterId applied.id = "" := by
            simp [recordedZone, Zones.zoneFor, isRecorded]
          rw [noZone] at isSkipped ⊢
          exact unrecorded applied appliedMember isRecorded isSkipped.symm
      | some zone =>
          have isZone : ledger.recordedZone clusterId applied.id = zone := by
            simp [recordedZone, Zones.zoneFor, isRecorded]
          rw [isZone]
          cases isObserved : ledger.observed clusterId with
          | none =>
              rw [isObserved] at isRecorded
              cases isRecorded
          | some zones =>
              rw [isObserved] at isRecorded
              exact recorded applied isRow isActive zones (isCluster ▸ isObserved) zone isRecorded
  · rename_i isOther
    refine recorded.kept member isActive isZones isZone fun attempt isNew same => ?_
    obtain ⟨pending, pendingMember, rfl⟩ := mem_loopAttempts.mp isNew
    obtain ⟨isRow, isCluster, _⟩ := mem_applyRows.mp (mem_pendingRows.mp pendingMember).1
    rw [unique.eq isRow member same] at isCluster
    exact isOther isCluster

theorem mem_zoneChangeRows {world : ZoningWorld} {nodeId : Nat} {row : AssignmentRow} :
    row ∈ zoneChangeRows world nodeId ↔ row ∈ world.database.assignments ∧ row.nodeId = nodeId ∧
      row.state = .active ∧ row.role.elasticsearch = true ∧
      (world.zoning row.clusterId).mode ≠ .disabled := by
  simp [zoneChangeRows, List.mem_insertionSort, and_assoc]

theorem lookup_filter_ne (zones : Zones) {assignmentId other : Nat} (differs : other ≠ assignmentId) :
    List.lookup other (zones.filter (·.1 ≠ assignmentId)) = zones.lookup other := by
  induction zones with
  | nil => rfl
  | cons entry zones ih =>
      by_cases isEntry : entry.1 = assignmentId
      · have notOther : (other == entry.1) = false := by
          rw [isEntry]
          exact beq_eq_false_iff_ne.mpr differs
        rw [List.filter_cons_of_neg (by simpa using isEntry), List.lookup_cons, notOther]
        exact ih
      · rw [List.filter_cons_of_pos (by simpa using isEntry), List.lookup_cons, List.lookup_cons, ih]

theorem lookup_set (zones : Zones) (zone : String) (assignmentId other : Nat) :
    (zones.set assignmentId zone).lookup other =
      if other = assignmentId then some zone else zones.lookup other := by
  rw [Zones.set, List.lookup_cons]
  by_cases isSet : other = assignmentId
  · simp [isSet]
  · rw [if_neg isSet, beq_eq_false_iff_ne.mpr isSet]
    exact lookup_filter_ne zones isSet

theorem lookup_observeZone (zoneId : String) (rows : List AssignmentRow) (zones : Zones)
    (assignmentId : Nat) :
    (observeZone zoneId rows clusterId zones).lookup assignmentId =
      if assignmentId ∈ (rows.filter (·.clusterId = clusterId)).map (·.id) then some zoneId
      else zones.lookup assignmentId := by
  rw [observeZone]
  induction rows.filter (·.clusterId = clusterId) generalizing zones with
  | nil => rfl
  | cons row rows ih =>
      rw [List.foldl_cons, ih, lookup_set, List.map_cons]
      by_cases isLater : assignmentId ∈ rows.map (·.id)
      · rw [if_pos isLater, if_pos (List.mem_cons_of_mem _ isLater)]
      · by_cases isRow : assignmentId = row.id
        · rw [if_neg isLater, if_pos isRow, if_pos (isRow ▸ List.mem_cons_self)]
        · rw [if_neg isLater, if_neg isRow, if_neg]
          simp only [List.mem_cons, not_or]
          exact ⟨isRow, isLater⟩

/-- A host zone change records the zone with which it reconciled the workloads. -/
theorem Recorded.changed (recorded : ledger.Recorded) (unique : ledger.Unique) {task : ZoneTask}
    (current : ledger.world.hostZone task.nodeId = task.zoneId) :
    (updateObserved task.zoneId (zoneChangeRows ledger.world task.nodeId)
      (ledger.logged (loopAttempts (fun row => ledger.world.hostZone row.nodeId)
        (zoneChangeRows ledger.world task.nodeId)))).Recorded := by
  intro row member isActive zones isZones zone isZone
  have attemptedRow : ∀ attempt ∈ loopAttempts (fun row => ledger.world.hostZone row.nodeId)
      (zoneChangeRows ledger.world task.nodeId), attempt.assignmentId = row.id →
        row ∈ zoneChangeRows ledger.world task.nodeId ∧ attempt.zone = task.zoneId := by
    intro attempt isNew same
    obtain ⟨changed, changedMember, rfl⟩ := mem_loopAttempts.mp isNew
    obtain ⟨isRow, onNode, _⟩ := mem_zoneChangeRows.mp changedMember
    rw [unique.eq isRow member same] at changedMember onNode
    exact ⟨changedMember, by rw [unique.eq isRow member same, onNode, current]⟩
  by_cases isChanged : row ∈ zoneChangeRows ledger.world task.nodeId
  · have attempted : ∃ attempt ∈ loopAttempts (fun row => ledger.world.hostZone row.nodeId)
        (zoneChangeRows ledger.world task.nodeId), attempt.assignmentId = row.id :=
      ⟨_, mem_loopAttempts.mpr ⟨row, isChanged, rfl⟩, rfl⟩
    obtain ⟨attempt, isNew, isAttempt, isLast⟩ := lastAttempt_logged ledger attempted
    refine ⟨attempt, isLast, ?_⟩
    rw [(attemptedRow attempt isNew isAttempt).2]
    have listed : row.id ∈ ((zoneChangeRows ledger.world task.nodeId).filter
        (·.clusterId = row.clusterId)).map (·.id) :=
      List.mem_map_of_mem (List.mem_filter.mpr ⟨isChanged, by simp⟩)
    have isAny : (zoneChangeRows ledger.world task.nodeId).any (·.clusterId = row.clusterId) :=
      List.any_eq_true.mpr ⟨row, isChanged, by simp⟩
    simp only [updateObserved, isAny, if_true] at isZones
    obtain ⟨former, _, rfl⟩ := Option.map_eq_some_iff.mp isZones
    rw [lookup_observeZone, if_pos listed] at isZone
    exact Option.some.inj isZone
  · have others : ∀ attempt ∈ loopAttempts (fun row => ledger.world.hostZone row.nodeId)
        (zoneChangeRows ledger.world task.nodeId), attempt.assignmentId ≠ row.id :=
      fun attempt isNew same => isChanged (attemptedRow attempt isNew same).1
    simp only [updateObserved] at isZones
    split at isZones
    · obtain ⟨former, isFormer, rfl⟩ := Option.map_eq_some_iff.mp isZones
      have unlisted : row.id ∉ ((zoneChangeRows ledger.world task.nodeId).filter
          (·.clusterId = row.clusterId)).map (·.id) := by
        intro listed
        obtain ⟨changed, changedMember, same⟩ := List.mem_map.mp listed
        obtain ⟨isRow, _⟩ := mem_zoneChangeRows.mp (List.mem_filter.mp changedMember).1
        rw [unique.eq isRow member same] at changedMember
        exact isChanged (List.mem_filter.mp changedMember).1
      rw [lookup_observeZone, if_neg unlisted] at isZone
      exact recorded.kept member isActive isFormer isZone others
    · exact recorded.kept member isActive isZones isZone others

/-! ### Requests -/

variable {runner : ZoningRunner}

/-- A request keeps the workloads, and starts a host zone change on a host that already has
its new zone. -/
structure Launching (ledger launched : ZoningLedger) (task : Option ZoningTask) : Prop where
  workloads : UnclaimedSame ledger.world.database launched.world.database
  recorded : ledger.Recorded → launched.Recorded
  current : ∀ change, task = some (.change change) →
    launched.world.hostZone change.nodeId = change.zoneId

theorem launchApply_runs {catalog : ZoneCatalog} {runId : Nat} {before launched : Database}
    (ran : (ZoningWorker.launchApply catalog clusterId).run before = (.returned runId, launched)) :
    launched = { before with runs := launched.runs } := by
  obtain ⟨⟨cluster, rows⟩, _, preflightRan, started⟩ := bind_eq_returned ran
  obtain ⟨_, _, rfl⟩ := preflight_returned preflightRan
  dsimp only at started
  split at started
  · cases started
    rfl
  · exact (startRun_returned started).2.2

theorem launchApply_launching (ledger : ZoningLedger) (clusterId : Nat) :
    Launching ledger (ledger.launchApply clusterId).1 (ledger.launchApply clusterId).2 := by
  rw [launchApply]
  rcases ran : (ZoningWorker.launchApply (catalog ledger.world clusterId) clusterId).run
    ledger.world.database with ⟨outcome, launched⟩
  have unchanged : Launching ledger ledger none :=
    ⟨rfl, id, fun _ isTask => by cases isTask⟩
  cases outcome with
  | raised error => exact unchanged
  | stopped => exact unchanged
  | returned runId =>
      have workloads : UnclaimedSame ledger.world.database launched := by
        rw [UnclaimedSame, launchApply_runs ran]
      dsimp only
      split
      · refine ⟨workloads, fun recorded => ?_, fun _ isTask => by cases isTask⟩
        have moved : (ledger.onWorld fun world => { world with database := launched }).Recorded :=
          recorded.of_same workloads rfl rfl
        exact moved.setEmpty clusterId
      · exact ⟨workloads, fun recorded => recorded.of_same workloads rfl rfl,
          fun _ isTask => by cases isTask⟩

theorem launchChange_launching (ledger : ZoningLedger)
    (requireNoConflict : Database → Nat → Except Fault Unit) (nodeId clusterId : Nat)
    (zoneId : String) :
    Launching ledger (ledger.launchChange requireNoConflict nodeId clusterId zoneId).1
      (ledger.launchChange requireNoConflict nodeId clusterId zoneId).2 := by
  rw [launchChange]
  rcases ran : (ZoningWorld.updateNodeZone requireNoConflict nodeId clusterId zoneId).run
    ledger.world with ⟨outcome, launched⟩
  have unchanged : Launching ledger ledger none :=
    ⟨rfl, id, fun _ isTask => by cases isTask⟩
  cases outcome with
  | raised error => exact unchanged
  | stopped => exact unchanged
  | returned runId =>
      have changed := ZoningWorld.updateNodeZone_returned ran
      refine ⟨changed.workloads, fun recorded => recorded.of_same changed.workloads rfl rfl, ?_⟩
      intro change isTask
      dsimp only at isTask ⊢
      have current : launched.hostZone nodeId = zoneId := by
        rw [ZoningWorld.hostZone_of_same changed.topology, if_pos changed.isHost, changed.zone]
        exact if_pos rfl
      rcases changed.tasks with same | ⟨startedId, started⟩
      · rw [same, List.drop_length] at isTask
        cases isTask
      · rw [started, List.drop_left] at isTask
        cases isTask
        exact current

theorem launch_launching (ledger : ZoningLedger) (request : ZoningCall) :
    Launching ledger (ledger.launch request).1 (ledger.launch request).2 := by
  cases request with
  | updateZoning policy clusterId zoning =>
      have workloads : UnclaimedSame ledger.world.database
          (ledger.world.perform (.updateZoning policy clusterId zoning)).database := by
        rcases ZoningWorld.committed_cases ledger.world
          (ZoningWorld.updateClusterZoning policy clusterId zoning) with same | ⟨_, ran⟩
        · rw [ZoningWorld.perform, same, UnclaimedSame]
        · rw [ZoningWorld.perform, (ZoningWorld.updateClusterZoning_returned ran).2]
          rfl
      exact ⟨workloads, fun recorded => recorded.of_same workloads rfl rfl,
        fun _ isTask => by cases isTask⟩
  | updateCluster policy clusterId name zoning =>
      have workloads : UnclaimedSame ledger.world.database
          (ledger.world.perform (.updateCluster policy clusterId name zoning)).database := by
        rcases ZoningWorld.committed_cases ledger.world
          (ZoningWorld.updateCluster policy clusterId name zoning) with same | ⟨_, ran⟩
        · rw [ZoningWorld.perform, same, UnclaimedSame]
        · rw [ZoningWorld.perform, (ZoningWorld.updateCluster_returned ran).2]
          rfl
      exact ⟨workloads, fun recorded => recorded.of_same workloads rfl rfl,
        fun _ isTask => by cases isTask⟩
  | apply clusterId => exact launchApply_launching ledger clusterId
  | changeZone requireNoConflict nodeId clusterId zoneId =>
      exact launchChange_launching ledger requireNoConflict nodeId clusterId zoneId

theorem setRunStatus_same (runId : Nat) (status : RunStatus) (database : Database) :
    UnclaimedSame database (database.setRunStatus runId status) :=
  rfl

theorem endTask_same (task : ZoneTask) (succeeded : Bool) (world : ZoningWorld) :
    UnclaimedSame world.database (world.endTask task succeeded).database := by
  have cleared : UnclaimedSame world.database
      (WorkloadStore.clearOperationForNode task.nodeId task.runId world.database) := by
    apply ZoningWorld.unclaimedSame_of_map
    intro row
    split <;> rfl
  cases succeeded <;> exact cleared

/-- What a run that meets the condition leaves. -/
structure Ended (ledger after : ZoningLedger) (succeeded : Bool) : Prop where
  workloads : UnclaimedSame ledger.world.database after.world.database
  recorded : after.Recorded
  settled : succeeded = false → Settled ledger after

theorem Settled.of_attempts (settled : Settled ledger after) {last : ZoningLedger}
    (attempts : last.attempts = after.attempts)
    (zones : ∀ clusterId assignmentId, last.recordedZone clusterId assignmentId =
      after.recordedZone clusterId assignmentId) : Settled ledger last := by
  intro row member attempted
  rw [attempts] at attempted
  rw [zones, BackInZone, lastAttempt, attempts]
  exact settled row member attempted

theorem settled_refl (ledger : ZoningLedger) : Settled ledger ledger := by
  rintro row member ⟨attempt, isNew, _⟩
  simp at isNew

theorem recordedZone_recordFailure (ledger : ZoningLedger) (clusterId other assignmentId : Nat) :
    (ledger.recordFailure clusterId).recordedZone other assignmentId =
      ledger.recordedZone other assignmentId := by
  simp only [recordedZone, recordFailure, setObserved]
  split
  · rename_i isCluster
    rw [isCluster]
    rfl
  · rfl

theorem runTask_ended (recorded : ledger.Recorded) (unique : ledger.Unique) {task : ZoningTask}
    (current : ∀ change, task = .change change →
      ledger.world.hostZone change.nodeId = change.zoneId)
    (clean : ledger.CleanTask runner task) :
    Ended ledger (ledger.runTask runner task).2 (ledger.runTask runner task).1 := by
  cases task with
  | apply runId clusterId =>
      have ends := applyBody_ends clean
      simp only [runTask]
      generalize succeeds ((applyBody runner runId clusterId).run ledger).1 = succeeded at ends ⊢
      generalize ((applyBody runner runId clusterId).run ledger).2 = after at ends ⊢
      cases ends with
      | unattempted =>
          refine ⟨rfl, (recorded.recordFailure clusterId).of_same rfl rfl rfl, fun _ => ?_⟩
          exact (settled_refl ledger).of_attempts rfl fun other assignmentId =>
            recordedZone_recordFailure ledger clusterId other assignmentId
      | rolledBack =>
          obtain ⟨isRecorded, settled⟩ := recorded.rolledBack unique clusterId
          refine ⟨rfl, (isRecorded.recordFailure clusterId).of_same rfl rfl rfl, fun _ => ?_⟩
          exact settled.of_attempts rfl fun other assignmentId =>
            recordedZone_recordFailure _ clusterId other assignmentId
      | applied unrecorded =>
          exact ⟨rfl, (recorded.applied unique unrecorded).of_same rfl rfl rfl,
            fun failed => by cases failed⟩
  | change task =>
      have ends := zoneChangeBody_ends clean
      simp only [runTask]
      generalize succeeds ((zoneChangeBody runner task).run ledger).1 = succeeded at ends ⊢
      generalize ((zoneChangeBody runner task).run ledger).2 = after at ends ⊢
      cases ends with
      | unattempted =>
          refine ⟨endTask_same task false _, recorded.of_same (endTask_same task false _) rfl rfl,
            fun _ => ?_⟩
          exact (settled_refl ledger).of_attempts rfl fun _ _ => rfl
      | changed =>
          exact ⟨endTask_same task true _,
            (recorded.changed unique (current task rfl)).of_same (endTask_same task true _) rfl rfl,
            fun failed => by cases failed⟩

theorem call_sound (recorded : ledger.Recorded) (unique : ledger.Unique) {request : ZoningCall}
    (clean : ledger.Clean runner request) :
    (ledger.call runner request).Recorded ∧ (ledger.call runner request).Unique ∧
      ledger.FailureSettled runner request := by
  have launching := launch_launching ledger request
  simp only [Clean, call, FailureSettled] at clean ⊢
  rcases launched : ledger.launch request with ⟨started, task⟩
  rw [launched] at launching clean
  have startedUnique : started.Unique := unique.of_same launching.workloads
  cases task with
  | none => exact ⟨launching.recorded recorded, startedUnique, trivial⟩
  | some task =>
      have ended := runTask_ended (launching.recorded recorded) startedUnique
        (fun change isChange => launching.current change (congrArg some isChange)) clean
      exact ⟨ended.recorded, startedUnique.of_same ended.workloads, ended.settled⟩

theorem callAll_sound (recorded : ledger.Recorded) (unique : ledger.Unique)
    {requests : List ZoningCall} (clean : ledger.EachClean runner requests) :
    (∀ earlier, earlier <+: requests → (ledger.callAll runner earlier).Recorded) ∧
      ∀ earlier request, earlier ++ [request] <+: requests →
        (ledger.callAll runner earlier).FailureSettled runner request := by
  induction requests generalizing ledger with
  | nil =>
      constructor
      · intro earlier isPrefix
        rw [List.prefix_nil.mp isPrefix]
        exact recorded
      · intro earlier request isPrefix
        simp at isPrefix
  | cons first requests ih =>
      obtain ⟨isClean, others⟩ := clean
      obtain ⟨firstRecorded, firstUnique, firstSettled⟩ := call_sound recorded unique isClean
      obtain ⟨laterRecorded, laterSettled⟩ := ih firstRecorded firstUnique others
      constructor
      · intro earlier isPrefix
        cases earlier with
        | nil => exact recorded
        | cons other earlier =>
            obtain ⟨rfl, isRest⟩ := List.cons_prefix_cons.mp isPrefix
            exact laterRecorded earlier isRest
      · intro earlier request isPrefix
        cases earlier with
        | nil =>
            obtain ⟨rfl, _⟩ := List.cons_prefix_cons.mp isPrefix
            exact firstSettled
        | cons other earlier =>
            obtain ⟨rfl, isRest⟩ := List.cons_prefix_cons.mp isPrefix
            exact laterSettled earlier request isRest

end ZoningLedger

/-- In every sequence of zoning applications and host zone changes that meets the condition,
a recorded zone is the one of the last attempt, and a run that fails leaves every workload
that it attempted in its recorded zone. -/
theorem zoning_records_sound (runner : ZoningRunner) (start : ZoningLedger)
    (requests : List ZoningCall) (recorded : start.Recorded) (unique : start.Unique)
    (clean : start.EachClean runner requests) :
    (∀ earlier, earlier <+: requests → (start.callAll runner earlier).Recorded) ∧
      ∀ earlier request, earlier ++ [request] <+: requests →
        (start.callAll runner earlier).FailureSettled runner request :=
  ZoningLedger.callAll_sound recorded unique clean

namespace ZoningSample

/-- A master and a hot workload on the first host, a hot workload on the second. -/
def assignments : List AssignmentRow :=
  [ZoneSample.assignment, { ZoneSample.assignment with id := 2, role := .hot },
    { ZoneSample.assignment with id := 3, nodeId := 2, role := .hot }]

/-- The first hot workload was last reconciled in the zone that its host has left. -/
def ledger : ZoningLedger where
  world := { ZoneSample.world with
    database := { ZoneSample.world.database with
      nodes := [⟨1, "first", true⟩, ⟨2, "second", true⟩]
      memberships := [(1, 1), (1, 2)]
      assignments := assignments }
    zone := fun nodeId => if nodeId = 1 then "zone-a" else "zone-b" }
  observed clusterId := if clusterId = 1 then some [(2, "zone-b")] else none
  attempts := [⟨2, "zone-b", .succeeded⟩]

/-- Every workload is reconciled and the settings are rejected. -/
def rejected : ZoningRunner where
  reconcile _ := .succeeded
  settings _ := .failed
  payload _ _ := .ok ()
  settingsPayload _ _ := .ok ()

/-- No workload is reconciled. -/
def failing : ZoningRunner :=
  { rejected with reconcile := fun _ => .failed }

theorem ledger_recorded : ledger.Recorded := by
  intro row member _ zones isZones zone isZone
  simp only [ledger] at isZones
  split at isZones
  · cases isZones
    have isRow : row.id = 2 ∧ zone = "zone-b" := by
      have listed := ZoningLedger.mem_of_lookup isZone
      simpa using listed
    rw [isRow.1, isRow.2]
    exact ⟨_, rfl, rfl⟩
  · cases isZones

theorem ledger_unique : ledger.Unique := by
  unfold ZoningLedger.Unique
  decide +kernel

theorem clean_of_rejected (ledger : ZoningLedger) (request : ZoningCall) :
    ledger.Clean rejected request := by
  rw [ZoningLedger.Clean]
  split
  · trivial
  · rename_i launched task _
    cases task with
    | apply runId clusterId =>
        refine .inr ⟨⟨fun _ _ => rfl, fun _ _ => rfl⟩, ?_⟩
        simp only [ZoningLedger.SettingsClean, rejected, ne_eq, not_true_eq_false, if_false]
        exact fun _ _ => rfl
    | change task => exact .inr ⟨fun _ _ => rfl, fun _ _ => rfl⟩

end ZoningSample

theorem zoning_records_rejected :
    let requests : List ZoningCall :=
      [.apply 1, .changeZone ZoneSample.noConflict 1 1 "zone-b", .apply 1]
    (∀ earlier, earlier <+: requests →
        (ZoningSample.ledger.callAll ZoningSample.rejected earlier).Recorded) ∧
      ∀ earlier request, earlier ++ [request] <+: requests →
        (ZoningSample.ledger.callAll ZoningSample.rejected earlier).FailureSettled
          ZoningSample.rejected request :=
  zoning_records_sound _ _ _ ZoningSample.ledger_recorded ZoningSample.ledger_unique
    ⟨ZoningSample.clean_of_rejected _ _, ZoningSample.clean_of_rejected _ _,
      ZoningSample.clean_of_rejected _ _, trivial⟩

/-- A workload whose reconciliation fails keeps the record of the zone that it was to leave. -/
theorem zoning_record_stale :
    ¬ ∀ (runner : ZoningRunner) (start : ZoningLedger) (requests : List ZoningCall),
      start.Recorded → start.Unique →
        (∀ earlier, earlier <+: requests → (start.callAll runner earlier).Recorded) ∧
          ∀ earlier request, earlier ++ [request] <+: requests →
            (start.callAll runner earlier).FailureSettled runner request := by
  intro always
  obtain ⟨recorded, _⟩ := always ZoningSample.failing ZoningSample.ledger [.apply 1]
    ZoningSample.ledger_recorded ZoningSample.ledger_unique
  have isLast : (ZoningSample.ledger.callAll ZoningSample.failing [.apply 1]).lastAttempt 2 =
      some ⟨2, "zone-a", .failed⟩ := by
    decide +kernel
  obtain ⟨attempt, isAttempt, isZone⟩ := recorded _ (List.prefix_refl _)
    { ZoneSample.assignment with id := 2, role := .hot } (by decide +kernel) rfl
    [(2, "zone-b")] (by decide +kernel) "zone-b" rfl
  rw [isLast] at isAttempt
  cases isAttempt
  exact absurd isZone (by decide)

end ElKeeper
