import ElKeeper.BatchLife
import ElKeeper.ResourceUpdates

/-!
# What failed resource updates leave behind

The stored configuration is compared with the updates of the runs that did not
fail, in the order of the requests.  A failing run writes back the configuration
that its request found, which undoes exactly its own update when every later
request has failed before it.
-/

namespace ElKeeper

open Program WorkloadPayload ResourceUpdates

/-- The configuration after a list of updates. -/
def updatesOf (initial : Dict) (requests : List ResourceRequest) : Dict :=
  requests.foldl (fun config request => config.merge request.update) initial

theorem updatesOf_append (initial : Dict) (requests : List ResourceRequest)
    (request : ResourceRequest) :
    updatesOf initial (requests ++ [request]) =
      (updatesOf initial requests).merge request.update := by
  simp [updatesOf]

namespace Database

/-- The run of a request did not fail. -/
def unfailed (database : Database) (request : ResourceRequest) : Bool :=
  decide (database.runStatus? request.runId ≠ some .failed)

/-- The run of a request succeeded. -/
def succeeded (database : Database) (request : ResourceRequest) : Bool :=
  decide (database.runStatus? request.runId = some .succeeded)

/-- The run of a request is queued or running. -/
def underway (database : Database) (request : ResourceRequest) : Bool :=
  decide (database.runStatus? request.runId = some .queued ∨
    database.runStatus? request.runId = some .running)

end Database

theorem unfailed_congr {database after : Database} {requests : List ResourceRequest}
    (same : ∀ request ∈ requests, database.unfailed request = after.unfailed request) :
    requests.filter after.unfailed = requests.filter database.unfailed :=
  List.filter_congr fun request member => (same request member).symm

/-! ### Transactions -/

/-- An accepted request stores the merged configuration and nothing else. -/
theorem updateResources_returned {guards : ResourceGuards} {assignmentId : Nat}
    {input : ResourceInput} {database stored : Database} {launch : ResourceLaunch}
    (ran : (updateResources guards assignmentId input).run database =
      (.returned launch, stored)) :
    (∃ row, database.assignment? assignmentId = some row ∧
      launch.previous = openConfig row.config) ∧
      stored = writeConfig assignmentId (launch.previous.merge input.update) database := by
  obtain ⟨found, _, wasRead, afterFound⟩ := bind_eq_returned ran
  cases wasRead
  obtain ⟨row, _, isRow, afterRow⟩ := bind_eq_returned afterFound
  obtain ⟨isFound, rfl⟩ := ofExcept_eq_returned isRow
  obtain ⟨idle, _, wasRead, afterIdle⟩ := bind_eq_returned afterRow
  cases wasRead
  obtain ⟨_, _, isIdle, afterConflict⟩ := bind_eq_returned afterIdle
  obtain ⟨_, rfl⟩ := ofExcept_eq_returned isIdle
  obtain ⟨capable, _, wasRead, afterCapable⟩ := bind_eq_returned afterConflict
  cases wasRead
  obtain ⟨_, _, isCapable, afterCapability⟩ := bind_eq_returned afterCapable
  obtain ⟨_, rfl⟩ := ofExcept_eq_returned isCapable
  obtain ⟨_, _, isFree, afterFree⟩ := bind_eq_returned afterCapability
  obtain ⟨_, rfl⟩ := require_eq_returned isFree
  obtain ⟨_, _, isReady, afterReady⟩ := bind_eq_returned afterFree
  obtain ⟨_, rfl⟩ := ofExcept_eq_returned isReady
  obtain ⟨_, _, isValid, afterValid⟩ := bind_eq_returned afterReady
  obtain ⟨_, rfl⟩ := ofExcept_eq_returned isValid
  obtain ⟨_, _, wasWritten, afterWrite⟩ := bind_eq_returned afterValid
  cases wasWritten
  obtain ⟨refound, _, wasRead, afterRefound⟩ := bind_eq_returned afterWrite
  cases wasRead
  obtain ⟨again, _, isAgain, afterAgain⟩ := bind_eq_returned afterRefound
  obtain ⟨_, rfl⟩ := ofExcept_eq_returned isAgain
  obtain ⟨payload, _, wasRead, afterPayload⟩ := bind_eq_returned afterAgain
  cases wasRead
  obtain ⟨_, _, isBuilt, afterBuilt⟩ := bind_eq_returned afterPayload
  obtain ⟨_, rfl⟩ := ofExcept_eq_returned isBuilt
  cases afterBuilt
  exact ⟨⟨row, (assignmentRecord_ok isFound).2, rfl⟩, rfl⟩

/-- The context of a run holds the configuration that its request found, redacted. -/
structure HoldsPrevious (assignmentId : Nat) (previous context : Dict) : Prop where
  assignment : rollbackAssignment context = some assignmentId
  previous : previousConfig context = .ok (Json.redactDict previous)

theorem holdsPrevious_resourceContext {assignmentId : Nat} (isPositive : 0 < assignmentId)
    (launch : ResourceLaunch) :
    HoldsPrevious assignmentId launch.previous
      (Json.redactDict (resourceContext assignmentId launch)) := by
  have names : Json.secretName "rollback_assignment_id" = false ∧
      Json.secretName "previous_config" = false ∧
      Json.secretName "filebeat_reconcile_cluster_id" = false := by decide +kernel
  have redacted : Json.redactDict (resourceContext assignmentId launch) =
      [("rollback_assignment_id", .num (assignmentId : Int)),
        ("previous_config", .obj (Json.redactDict launch.previous)),
        ("filebeat_reconcile_cluster_id", .num (launch.clusterId : Int))] := by
    simp [resourceContext, Json.redactDict, Json.redact, names]
  rw [redacted]
  constructor
  · have nonzero : ((assignmentId : Int) : Rat) ≠ 0 := by
      rw [ne_eq, Rat.intCast_eq_zero_iff]
      omega
    have positive : assignmentId ≠ 0 := by omega
    simp [rollbackAssignment, Dict.get, nonzero, positive]
  · simp [previousConfig, Dict.get, List.lookup_cons]

/-- A failed run writes the held configuration back. -/
theorem finalizeRun_failed {runId assignmentId : Nat} {previous : Dict} {run : RunRow}
    {database : Database} (found : database.run? runId = some run)
    (holds : HoldsPrevious assignmentId previous run.context) :
    ResourceController.committed (finalizeRun runId false) database =
      (writeConfig assignmentId (Json.redactDict previous) database).setRunStatus runId
        .failed := by
  have ran : (finalizeRun runId false).run database =
      (.returned (), (writeConfig assignmentId (Json.redactDict previous) database).setRunStatus
        runId .failed) := by
    simp only [finalizeRun, contextOf, restorePrevious, run_bind, run_read, found, run_pure,
      holds.assignment, holds.previous]
    rfl
  rw [ResourceController.committed, ran]

theorem finalizeRun_succeeded {runId : Nat} {run : RunRow} {database : Database}
    (found : database.run? runId = some run) :
    ResourceController.committed (finalizeRun runId true) database =
      database.setRunStatus runId .succeeded := by
  have ran : (finalizeRun runId true).run database =
      (.returned (), database.setRunStatus runId .succeeded) := by
    simp only [finalizeRun, contextOf, run_bind, run_read, found, run_pure]
    rfl
  rw [ResourceController.committed, ran]

/-! ### Tables -/

/-- Runs were added, the earlier rows are the same. -/
structure AddsRuns (before after : Database) : Prop where
  kept : ∀ run ∈ before.runs, run ∈ after.runs
  old : ∀ run ∈ after.runs, run.id ∈ before.runs.map (·.id) → run ∈ before.runs

namespace AddsRuns

variable {before after : Database}

theorem refl (database : Database) : AddsRuns database database :=
  ⟨fun _ member => member, fun _ member _ => member⟩

theorem runIs (adds : AddsRuns before after) {runId : Nat} {status : RunStatus}
    (known : before.RunIs runId status) : after.RunIs runId status := by
  obtain ⟨run, member, isRun⟩ := known.present
  refine ⟨⟨run, adds.kept run member, isRun⟩, fun other otherMember isOther => ?_⟩
  have listed : other.id ∈ before.runs.map (·.id) :=
    List.mem_map.mpr ⟨run, member, isRun.trans isOther.symm⟩
  exact known.all other (adds.old other otherMember listed) isOther

theorem congr {stored : Database} (adds : AddsRuns stored after)
    (sameRuns : stored.runs = before.runs) : AddsRuns before after := by
  constructor
  · rw [← sameRuns]
    exact adds.kept
  · rw [← sameRuns]
    exact adds.old

/-- What a new run adds, queued or running. -/
theorem addRun (row : RunRow) (database : Database)
    (fresh : row.id ∉ database.runs.map (·.id)) :
    AddsRuns database (database.addRun row) := by
  refine ⟨fun run member => List.mem_append_left _ member, fun run member listed => ?_⟩
  rcases List.mem_append.mp member with earlier | last
  · exact earlier
  · rw [List.mem_singleton.mp last] at listed
    exact absurd listed fresh

theorem started (row : RunRow) (status : RunStatus) (database : Database)
    (fresh : row.id ∉ database.runs.map (·.id)) :
    AddsRuns database ((database.addRun row).setRunStatus row.id status) := by
  have added := addRun row database fresh
  have isOther : ∀ run ∈ database.runs, run.id ≠ row.id := fun run member same =>
    fresh (same ▸ List.mem_map_of_mem member)
  constructor
  · intro run member
    refine List.mem_map.mpr ⟨run, added.kept run member, ?_⟩
    rw [if_neg (isOther run member)]
  · intro changed member listed
    obtain ⟨run, runMember, rfl⟩ := List.mem_map.mp member
    by_cases isNew : run.id = row.id
    · rw [if_pos isNew] at listed
      exact absurd (isNew ▸ listed) fresh
    · rw [if_neg isNew] at listed ⊢
      exact added.old run runMember listed

end AddsRuns

theorem nextId_fresh (identifiers : List Nat) : Database.nextId identifiers ∉ identifiers :=
  fun member => Nat.lt_irrefl _ (WorkloadStore.lt_nextId member)

/-- The companion launch writes its own run only. -/
theorem launchFilebeat_adds (clusterId : Nat) (database : Database) :
    AddsRuns database
      (ResourceController.committed (ClusterOperation.launchFilebeat clusterId none) database) ∧
      ResourceController.committed (ClusterOperation.launchFilebeat clusterId none) database =
        { database with
          runs := (ResourceController.committed
            (ClusterOperation.launchFilebeat clusterId none) database).runs } := by
  rcases ran : (ClusterOperation.launchFilebeat clusterId none).run database with
    ⟨outcome, after⟩
  rw [ResourceController.committed, ran]
  cases outcome with
  | raised error => exact ⟨.refl database, rfl⟩
  | stopped => exact ⟨.refl database, rfl⟩
  | returned runId =>
      obtain ⟨cluster, _, foundRan, afterFound⟩ := bind_eq_returned ran
      obtain ⟨active, _, wasRead, afterActive⟩ := bind_eq_returned afterFound
      cases wasRead
      obtain ⟨_, _, isFree, started⟩ := bind_eq_returned afterActive
      obtain ⟨_, rfl⟩ := require_eq_returned isFree
      obtain ⟨_, rfl⟩ := ClusterOperation.clusterRecord_returned foundRan
      cases started
      exact ⟨.started _ .running _ (nextId_fresh _), rfl⟩

theorem writeConfig_ids (assignmentId : Nat) (config : Dict) (database : Database) :
    (writeConfig assignmentId config database).assignments.map (·.id) =
      database.assignments.map (·.id) := by
  simp only [writeConfig, Database.mapAssignments, List.map_map]
  refine List.map_congr_left fun row _ => ?_
  simp only [Function.comp]
  split <;> rfl

theorem writeConfig_placed {database : Database} (placed : StartupRecovery.Placed database)
    (assignmentId : Nat) (config : Dict) :
    StartupRecovery.Placed (writeConfig assignmentId config database) := by
  refine placed.same rfl rfl rfl fun row member => ?_
  obtain ⟨source, sourceMember, rfl⟩ := List.mem_map.mp member
  refine ⟨source, sourceMember, ?_⟩
  split <;> exact ⟨rfl, rfl⟩

/-- The row of the assignment holds the written configuration. -/
theorem writeConfig_row {database : Database} {assignmentId : Nat} {row : AssignmentRow}
    (member : row ∈ database.assignments) (isRow : row.id = assignmentId) (config : Dict) :
    ∃ written ∈ (writeConfig assignmentId config database).assignments,
      written.id = assignmentId ∧ openConfig written.config = config := by
  refine ⟨_, List.mem_map_of_mem member, ?_⟩
  rw [if_pos isRow]
  exact ⟨isRow, rfl⟩

/-! ### The invariant -/

/-- What holds after every action that meets its condition. -/
structure ResourceInvariant (assignmentId : Nat) (initial : Dict)
    (controller : ResourceController) : Prop where
  places : StartupRecovery.Placed controller.database
  assignment_ids : (controller.database.assignments.map (·.id)).Nodup
  plan_runs : ∀ runId, some runId ∈ controller.database.plans.map (·.runId) →
    runId ∈ controller.database.runs.map (·.id)
  config : ∃ row ∈ controller.database.assignments, row.id = assignmentId ∧
    openConfig row.config =
      updatesOf initial (controller.requests.filter controller.database.unfailed)
  runs : ∀ request ∈ controller.requests, ∃ status, status ≠ .recoveryRequired ∧
    status ≠ .cancelled ∧ controller.database.RunIs request.runId status
  unowned : ∀ request ∈ controller.requests, controller.database.Unowned request.runId
  distinct : (controller.requests.map (·.runId)).Nodup
  /-- A request that has not failed found the unfailed updates before it. -/
  previous : ∀ before request, before ++ [request] <+: controller.requests →
    controller.database.unfailed request →
      request.previous = updatesOf initial (before.filter controller.database.unfailed)
  scheduled : ∀ runId ∈ controller.scheduled, controller.database.RunIs runId .running ∧
    ∃ request ∈ controller.requests, request.runId = runId ∧
      ∀ run ∈ controller.database.runs, run.id = runId →
        HoldsPrevious assignmentId request.previous run.context

/-- The failed requests, the owners of runs and the rows stay. -/
structure KeepsRequests (requests : List ResourceRequest) (before after : Database) :
    Prop where
  assignments : after.assignments = before.assignments
  places : StartupRecovery.Placed before → StartupRecovery.Placed after
  owners : after.plans.map (·.runId) = before.plans.map (·.runId)
  runIds : before.runs.map (·.id) ⊆ after.runs.map (·.id)
  runs : ∀ request ∈ requests, ∀ status, status ≠ .recoveryRequired → status ≠ .cancelled →
    before.RunIs request.runId status → ∃ next, next ≠ .recoveryRequired ∧ next ≠ .cancelled ∧
      (next = .failed ↔ status = .failed) ∧ after.RunIs request.runId next

theorem KeepsRequests.refl (requests : List ResourceRequest) (database : Database) :
    KeepsRequests requests database database where
  assignments := rfl
  places := id
  owners := rfl
  runIds := List.Subset.refl _
  runs _ _ status notRecovery notCancelled known :=
    ⟨status, notRecovery, notCancelled, Iff.rfl, known⟩

/-- Added runs are nobody's requests. -/
theorem AddsRuns.keeps {before after : Database} (adds : AddsRuns before after)
    (same : after = { before with runs := after.runs }) (requests : List ResourceRequest) :
    KeepsRequests requests before after where
  assignments := by rw [same]
  places placed := by
    rw [same]
    exact ⟨placed.assignments, placed.memberships⟩
  owners := by rw [same]
  runIds := by
    intro runId member
    obtain ⟨run, runMember, rfl⟩ := List.mem_map.mp member
    exact List.mem_map_of_mem (adds.kept run runMember)
  runs _ _ status notRecovery notCancelled known :=
    ⟨status, notRecovery, notCancelled, Iff.rfl, adds.runIs known⟩

/-- Finishing another run leaves a run as it is. -/
theorem Database.RunIs.finish_other {runId other : Nat} {status : RunStatus}
    {database : Database} (known : database.RunIs runId status) (isOther : runId ≠ other)
    (next : RunStatus) : (database.setRunStatus other next).RunIs runId status := by
  refine known.of_map (fun run => ?_) fun run _ isRun => ?_
  · split <;> rfl
  · rw [if_neg (by omega)]

theorem Database.RunIs.unfailed_eq {request : ResourceRequest} {status : RunStatus}
    {database : Database} (known : database.RunIs request.runId status) :
    database.unfailed request = decide (status ≠ .failed) := by
  simp [Database.unfailed, known.runStatus?]

/-- A frame rule: the requests that are no longer scheduled may lose their context. -/
theorem ResourceInvariant.frame {assignmentId : Nat} {initial : Dict}
    {controller : ResourceController} (holds : ResourceInvariant assignmentId initial controller)
    {after : Database} (keeps : KeepsRequests controller.requests controller.database after)
    {scheduled : List Nat}
    (stillScheduled : ∀ runId ∈ scheduled, runId ∈ controller.scheduled ∧
      after.RunIs runId .running ∧
        ∀ run ∈ after.runs, run.id = runId → run ∈ controller.database.runs) :
    ResourceInvariant assignmentId initial
      { controller with database := after, scheduled := scheduled } := by
  have sameStatus : ∀ request ∈ controller.requests,
      controller.database.unfailed request = after.unfailed request := by
    intro request member
    obtain ⟨status, notRecovery, notCancelled, known⟩ := holds.runs request member
    obtain ⟨next, _, _, sameFailure, here⟩ :=
      keeps.runs request member status notRecovery notCancelled known
    rw [known.unfailed_eq, here.unfailed_eq, decide_eq_decide]
    exact not_congr sameFailure.symm
  refine
    { places := keeps.places holds.places
      assignment_ids := by rw [keeps.assignments]; exact holds.assignment_ids
      plan_runs := ?_
      config := ?_
      runs := ?_
      unowned := fun request member =>
        (holds.unowned request member).of_owners keeps.owners
      distinct := holds.distinct
      previous := ?_
      scheduled := ?_ }
  · intro runId listed
    rw [keeps.owners] at listed
    exact keeps.runIds (holds.plan_runs runId listed)
  · rw [keeps.assignments, unfailed_congr sameStatus]
    exact holds.config
  · intro request member
    obtain ⟨status, notRecovery, notCancelled, known⟩ := holds.runs request member
    obtain ⟨next, nextRecovery, nextCancelled, _, here⟩ :=
      keeps.runs request member status notRecovery notCancelled known
    exact ⟨next, nextRecovery, nextCancelled, here⟩
  · intro before request isPrefix isUnfailed
    have members : ∀ other ∈ before, other ∈ controller.requests := fun other member =>
      isPrefix.subset (List.mem_append_left _ member)
    have isMember : request ∈ controller.requests :=
      isPrefix.subset (List.mem_append_right _ List.mem_cons_self)
    rw [unfailed_congr fun other member => sameStatus other (members other member)]
    rw [← sameStatus request isMember] at isUnfailed
    exact holds.previous before request isPrefix isUnfailed
  · intro runId member
    obtain ⟨wasScheduled, running, oldRows⟩ := stillScheduled runId member
    obtain ⟨_, request, requestMember, rfl, held⟩ := holds.scheduled runId wasScheduled
    refine ⟨running, request, requestMember, rfl, fun run runMember isRun => ?_⟩
    exact held run (oldRows run runMember isRun) isRun

/-! ### Conditions -/

/-- When an action leaves the updates of the unfailed runs.  A request is not cut off
between its two transactions, a run fails after every later request has failed and its
previous configuration has no masked value, and a restart finds no run under way. -/
def RestoresExactly (controller : ResourceController) : ResourceAction → Prop
  | .put _ _ stage => stage ≠ .configurationStored
  | .complete _ true => True
  | .complete runId false => ∀ before request after,
      controller.requests = before ++ request :: after → request.runId = runId →
        (∀ later ∈ after, controller.database.unfailed later = false) ∧
          Json.redactDict request.previous = request.previous
  | .restart _ => ∀ request ∈ controller.requests,
      controller.database.underway request = false

/-! ### Steps -/

section Steps

variable {assignmentId : Nat} {initial : Dict} {controller : ResourceController}

/-- No plan owns a run that is not there. -/
theorem ResourceInvariant.unowned_nextId
    (holds : ResourceInvariant assignmentId initial controller) :
    controller.database.Unowned (Database.nextId (controller.database.runs.map (·.id))) := by
  intro plan member owned
  exact nextId_fresh _ (holds.plan_runs _ (List.mem_map.mpr ⟨plan, member, owned⟩))

/-- The restart of an idle controller. -/
theorem ResourceInvariant.restart (holds : ResourceInvariant assignmentId initial controller)
    (projections : StartupRecovery.Projections)
    (restores : RestoresExactly controller (.restart projections)) :
    ResourceInvariant assignmentId initial (controller.restart projections) := by
  refine holds.frame ?_ fun runId member => absurd member List.not_mem_nil
  rcases ran : (StartupRecovery.completeControllerBootstrap projections).run
    controller.database with ⟨outcome, after⟩
  rw [ResourceController.committed, ran]
  cases outcome with
  | raised error => exact .refl _ _
  | stopped => exact .refl _ _
  | returned _ =>
      have booted := StartupRecovery.completeControllerBootstrap_returned projections
        holds.unowned_nextId holds.places ran
      refine ⟨booted.assignments, fun placed => ?_, booted.owners, booted.runIds, ?_⟩
      · refine placed.same booted.clusters booted.nodes booted.memberships fun row member => ?_
        rw [booted.assignments] at member
        exact ⟨row, member, rfl, rfl⟩
      · intro request member status notRecovery notCancelled known
        refine ⟨status, notRecovery, notCancelled, Iff.rfl, ?_⟩
        have ended := restores request member
        rw [Database.underway, known.runStatus?, decide_eq_false_iff_not] at ended
        have here := (StartupRecovery.completeControllerBootstrap_returned projections
          (holds.unowned request member) holds.places ran).run status known
        cases status <;> simp_all [StartupRecovery.restarted]

theorem setRunStatus_ids (runId : Nat) (status : RunStatus) (database : Database) :
    database.runs.map (·.id) ⊆ (database.setRunStatus runId status).runs.map (·.id) :=
  map_runs_ids fun run => by split <;> rfl

/-- The rows of other runs, after one was finished. -/
theorem old_row {runId other : Nat} {status : RunStatus} {database : Database} {run : RunRow}
    (member : run ∈ (database.setRunStatus runId status).runs) (isRun : run.id = other)
    (isOther : other ≠ runId) : run ∈ database.runs := by
  obtain ⟨source, sourceMember, rfl⟩ := List.mem_map.mp member
  by_cases same : source.id = runId
  · rw [if_pos same] at isRun
    exact absurd (isRun.symm.trans same) isOther
  · rw [if_neg same]
    exact sourceMember

/-- A scheduled run succeeds. -/
theorem ResourceInvariant.succeed (holds : ResourceInvariant assignmentId initial controller)
    {runId : Nat} (isScheduled : runId ∈ controller.scheduled) :
    ResourceInvariant assignmentId initial
      { controller with
        database := controller.database.setRunStatus runId .succeeded
        scheduled := controller.scheduled.filter (· ≠ runId) } := by
  have running := (holds.scheduled runId isScheduled).1
  have keeps : KeepsRequests controller.requests controller.database
      (controller.database.setRunStatus runId .succeeded) := by
    refine ⟨rfl, fun placed => ⟨placed.assignments, placed.memberships⟩, rfl,
      setRunStatus_ids _ _ _, ?_⟩
    intro request member status notRecovery notCancelled known
    by_cases isRun : request.runId = runId
    · have isRunning : status = .running := (isRun ▸ known).unique running
      refine ⟨.succeeded, by decide, by decide, by simp [isRunning], ?_⟩
      rw [isRun]
      exact running.finish .succeeded
    · exact ⟨status, notRecovery, notCancelled, Iff.rfl, known.finish_other isRun _⟩
  refine holds.frame keeps fun other member => ?_
  obtain ⟨wasScheduled, isOther⟩ := List.mem_filter.mp member
  have different : other ≠ runId := by simpa using isOther
  refine ⟨wasScheduled, ?_, fun run runMember isRun => old_row runMember isRun different⟩
  exact (holds.scheduled other wasScheduled).1.finish_other different _

/-- A prefix ends in the first part, or its last entry is in the second. -/
theorem prefix_append_cases {α : Type} {before initial after : List α} {last : α}
    (isPrefix : initial ++ [last] <+: before ++ after) :
    initial ++ [last] <+: before ∨ last ∈ after := by
  rcases List.prefix_or_prefix_of_prefix isPrefix (List.prefix_append before after) with
    shorter | ⟨rest, split⟩
  · exact .inl shorter
  · rcases List.eq_nil_or_concat rest with rfl | ⟨front, final, rfl⟩
    · rw [List.append_nil] at split
      exact .inl (split ▸ List.prefix_refl _)
    · rw [← split, List.prefix_append_right_inj] at isPrefix
      have sameLast : final = last := by
        rw [List.concat_eq_append, ← List.append_assoc] at split
        exact (List.append_singleton_inj.mp split).2
      subst sameLast
      exact .inr (isPrefix.subset (by simp))

/-- The run of a request has failed and its previous configuration is written back. -/
def failedRequest (assignmentId : Nat) (request : ResourceRequest) (database : Database) :
    Database :=
  (writeConfig assignmentId request.previous database).setRunStatus request.runId .failed

theorem failedRequest_own {request : ResourceRequest} {database : Database}
    (running : database.RunIs request.runId .running) :
    (failedRequest assignmentId request database).RunIs request.runId .failed := by
  have written : (writeConfig assignmentId request.previous database).RunIs request.runId
      .running := ⟨running.present, running.all⟩
  exact written.finish .failed

theorem failedRequest_other {request : ResourceRequest} {database : Database} {runId : Nat}
    {status : RunStatus} (known : database.RunIs runId status) (isOther : runId ≠ request.runId) :
    (failedRequest assignmentId request database).RunIs runId status := by
  have written : (writeConfig assignmentId request.previous database).RunIs runId status :=
    ⟨known.present, known.all⟩
  exact written.finish_other isOther .failed

/-- After the failure, the unfailed requests are those before the failed one. -/
theorem ResourceInvariant.unfailed_failedRequest
    (holds : ResourceInvariant assignmentId initial controller)
    {before later : List ResourceRequest} {request : ResourceRequest}
    (isSplit : controller.requests = before ++ request :: later)
    (running : controller.database.RunIs request.runId .running)
    (laterFailed : ∀ other ∈ later, controller.database.unfailed other = false) :
    (∀ other ∈ before, controller.database.unfailed other =
        (failedRequest assignmentId request controller.database).unfailed other) ∧
      ∀ other ∈ request :: later,
        (failedRequest assignmentId request controller.database).unfailed other = false := by
  have distinct := holds.distinct
  rw [isSplit, List.map_append, List.map_cons, List.nodup_append, List.nodup_cons] at distinct
  obtain ⟨_, ⟨notLater, _⟩, apart⟩ := distinct
  have sameOf : ∀ other ∈ controller.requests, other.runId ≠ request.runId →
      controller.database.unfailed other =
        (failedRequest assignmentId request controller.database).unfailed other := by
    intro other member isOther
    obtain ⟨status, _, _, known⟩ := holds.runs other member
    rw [known.unfailed_eq, (failedRequest_other known isOther).unfailed_eq]
  constructor
  · intro other member
    refine sameOf other (by rw [isSplit]; exact List.mem_append_left _ member) ?_
    exact apart _ (List.mem_map_of_mem member) _ List.mem_cons_self
  · intro other member
    rcases List.mem_cons.mp member with rfl | isLater
    · rw [(failedRequest_own running).unfailed_eq]
      rfl
    · rw [← sameOf other ?_ ?_]
      · exact laterFailed other isLater
      · rw [isSplit]
        exact List.mem_append_right _ member
      · intro same
        exact notLater (same ▸ List.mem_map_of_mem isLater)

/-- A request fails after the later requests have failed. -/
theorem ResourceInvariant.afterFailure
    (holds : ResourceInvariant assignmentId initial controller)
    {before later : List ResourceRequest} {request : ResourceRequest}
    (isSplit : controller.requests = before ++ request :: later)
    (running : controller.database.RunIs request.runId .running)
    (laterFailed : ∀ other ∈ later, controller.database.unfailed other = false) :
    ResourceInvariant assignmentId initial
      { controller with
        database := failedRequest assignmentId request controller.database
        scheduled := controller.scheduled.filter (· ≠ request.runId) } := by
  obtain ⟨sameBefore, failedAfter⟩ :=
    holds.unfailed_failedRequest isSplit running laterFailed
  have isPrefix : before ++ [request] <+: controller.requests := by
    rw [isSplit]
    exact ⟨later, by simp⟩
  have found : request.previous =
      updatesOf initial (before.filter controller.database.unfailed) :=
    holds.previous before request isPrefix (by simp [running.unfailed_eq])
  refine
    { places := ?_
      assignment_ids := ?_
      plan_runs := ?_
      config := ?_
      runs := ?_
      unowned := fun other member => (holds.unowned other member).of_owners rfl
      distinct := holds.distinct
      previous := ?_
      scheduled := ?_ }
  · have written := writeConfig_placed holds.places assignmentId request.previous
    exact ⟨written.assignments, written.memberships⟩
  · have sameIds := writeConfig_ids assignmentId request.previous controller.database
    exact sameIds.symm ▸ holds.assignment_ids
  · exact fun runId listed => setRunStatus_ids _ _ _ (holds.plan_runs runId listed)
  · obtain ⟨row, member, isRow, _⟩ := holds.config
    obtain ⟨written, writtenMember, isWritten, stored⟩ :=
      writeConfig_row member isRow request.previous
    refine ⟨written, writtenMember, isWritten, ?_⟩
    have noLater : (request :: later).filter
        (failedRequest assignmentId request controller.database).unfailed = [] :=
      List.filter_eq_nil_iff.mpr fun other member => by simp [failedAfter other member]
    rw [stored, isSplit, List.filter_append, noLater, List.append_nil,
      unfailed_congr sameBefore, found]
  · intro other member
    by_cases isOther : other.runId = request.runId
    · refine ⟨.failed, by decide, by decide, ?_⟩
      rw [isOther]
      exact failedRequest_own running
    · obtain ⟨status, notRecovery, notCancelled, known⟩ := holds.runs other member
      exact ⟨status, notRecovery, notCancelled, failedRequest_other known isOther⟩
  · intro front other otherPrefix isUnfailed
    rcases prefix_append_cases (isSplit ▸ otherPrefix) with shorter | behind
    · have isBefore : other ∈ before :=
        shorter.subset (List.mem_append_right _ List.mem_cons_self)
      rw [unfailed_congr fun earlier member =>
        sameBefore earlier (shorter.subset (List.mem_append_left _ member))]
      rw [← sameBefore other isBefore] at isUnfailed
      exact holds.previous front other otherPrefix isUnfailed
    · rw [failedAfter other behind] at isUnfailed
      cases isUnfailed
  · intro runId member
    obtain ⟨wasScheduled, isOther⟩ := List.mem_filter.mp member
    have different : runId ≠ request.runId := by simpa using isOther
    obtain ⟨stillRunning, other, isRequest, rfl, held⟩ := holds.scheduled runId wasScheduled
    refine ⟨failedRequest_other stillRunning different, other, isRequest, rfl, ?_⟩
    exact fun run runMember isRun => held run (old_row runMember isRun different) isRun

/-- A scheduled run fails. -/
theorem ResourceInvariant.fail (holds : ResourceInvariant assignmentId initial controller)
    {runId : Nat} (isScheduled : runId ∈ controller.scheduled)
    (restores : RestoresExactly controller (.complete runId false)) :
    ResourceInvariant assignmentId initial (controller.complete runId false) := by
  obtain ⟨running, request, isRequest, rfl, held⟩ := holds.scheduled runId isScheduled
  obtain ⟨before, later, isSplit⟩ := List.append_of_mem isRequest
  obtain ⟨laterFailed, unmasked⟩ := restores before request later isSplit rfl
  have finalized : controller.complete request.runId false =
      { controller with
        database := failedRequest assignmentId request controller.database
        scheduled := controller.scheduled.filter (· ≠ request.runId) } := by
    obtain ⟨run, member, isRun, isFound⟩ := running.found
    rw [ResourceController.complete, if_pos isScheduled]
    simp only [Bool.false_eq_true, if_false, finalizeRun_failed isFound (held run member isRun),
      unmasked, failedRequest]
  rw [finalized]
  exact holds.afterFailure isSplit running laterFailed

/-- The end of a scheduled task. -/
theorem ResourceInvariant.complete (holds : ResourceInvariant assignmentId initial controller)
    {runId : Nat} {succeeded : Bool}
    (restores : RestoresExactly controller (.complete runId succeeded)) :
    ResourceInvariant assignmentId initial (controller.complete runId succeeded) := by
  by_cases isScheduled : runId ∈ controller.scheduled
  · cases succeeded with
    | false => exact holds.fail isScheduled restores
    | true =>
        obtain ⟨run, member, isRun, isFound⟩ := (holds.scheduled runId isScheduled).1.found
        have finished := holds.succeed isScheduled
        rw [ResourceController.complete, if_pos isScheduled]
        simp only [if_true, finalizeRun_succeeded isFound]
        split
        · rename_i clusterId _
          obtain ⟨adds, same⟩ := launchFilebeat_adds clusterId.num.toNat
            (controller.database.setRunStatus runId .succeeded)
          refine finished.frame (adds.keeps same _) fun other isOther => ⟨isOther, ?_, ?_⟩
          · exact adds.runIs (finished.scheduled other isOther).1
          · intro row rowMember isRow
            refine adds.old row rowMember ?_
            obtain ⟨known, knownMember, isKnown⟩ := (finished.scheduled other isOther).1.present
            exact List.mem_map.mpr ⟨known, knownMember, isKnown.trans isRow.symm⟩
        · exact finished
  · rw [ResourceController.complete, if_neg isScheduled]
    exact holds

/-- The row that a request finds holds the unfailed updates. -/
theorem ResourceInvariant.config_of_row
    (holds : ResourceInvariant assignmentId initial controller) {row : AssignmentRow}
    (isRow : controller.database.assignment? assignmentId = some row) :
    openConfig row.config =
      updatesOf initial (controller.requests.filter controller.database.unfailed) := by
  obtain ⟨stored, member, isAssignment, found⟩ := holds.config
  have rowMember := List.mem_of_find?_eq_some isRow
  have isId : row.id = assignmentId := by simpa using List.find?_some isRow
  have sameRow : row = stored :=
    List.inj_on_of_nodup_map holds.assignment_ids rowMember member (isId.trans isAssignment.symm)
  rw [sameRow, found]

/-- A request is recorded with its stored update and its new run. -/
theorem ResourceInvariant.extend (holds : ResourceInvariant assignmentId initial controller)
    {request : ResourceRequest} {row : AssignmentRow}
    (isRow : controller.database.assignment? assignmentId = some row)
    (isPrevious : request.previous = openConfig row.config)
    (fresh : request.runId ∉ controller.database.runs.map (·.id)) {after : Database}
    (adds : AddsRuns controller.database after)
    (same : after = { writeConfig assignmentId (request.previous.merge request.update)
      controller.database with runs := after.runs })
    {status : RunStatus} (isUnderway : status = .queued ∨ status = .running)
    (isNew : after.RunIs request.runId status)
    (held : ∀ run ∈ after.runs, run.id = request.runId →
      HoldsPrevious assignmentId request.previous run.context)
    {scheduled : List Nat}
    (isScheduled : ∀ runId ∈ scheduled, runId ∈ controller.scheduled ∨
      runId = request.runId ∧ status = .running) :
    ResourceInvariant assignmentId initial
      { database := after, scheduled := scheduled,
        requests := controller.requests ++ [request] } := by
  have sameStatus : ∀ other ∈ controller.requests,
      controller.database.unfailed other = after.unfailed other := by
    intro other member
    obtain ⟨known, _, _, isKnown⟩ := holds.runs other member
    rw [isKnown.unfailed_eq, (adds.runIs isKnown).unfailed_eq]
  have newUnfailed : after.unfailed request = true := by
    rw [isNew.unfailed_eq]
    rcases isUnderway with rfl | rfl <;> rfl
  have isStored := isPrevious.trans (holds.config_of_row isRow)
  have owners : after.plans.map (·.runId) = controller.database.plans.map (·.runId) := by
    rw [same]
    rfl
  have runIds : ∀ runId ∈ controller.database.runs.map (·.id),
      runId ∈ after.runs.map (·.id) := by
    intro runId member
    obtain ⟨run, runMember, rfl⟩ := List.mem_map.mp member
    exact List.mem_map_of_mem (adds.kept run runMember)
  refine
    { places := ?_
      assignment_ids := ?_
      plan_runs := ?_
      config := ?_
      runs := ?_
      unowned := ?_
      distinct := ?_
      previous := ?_
      scheduled := ?_ }
  · have written := writeConfig_placed holds.places assignmentId
      (request.previous.merge request.update)
    rw [same]
    exact ⟨written.assignments, written.memberships⟩
  · rw [same]
    exact (writeConfig_ids assignmentId _ controller.database).symm ▸ holds.assignment_ids
  · intro runId listed
    rw [owners] at listed
    exact runIds runId (holds.plan_runs runId listed)
  · obtain ⟨stored, member, isAssignment, _⟩ := holds.config
    obtain ⟨written, writtenMember, isWritten, holdsConfig⟩ :=
      writeConfig_row member isAssignment (request.previous.merge request.update)
    refine ⟨written, by rw [same]; exact writtenMember, isWritten, ?_⟩
    rw [holdsConfig, List.filter_append, unfailed_congr sameStatus, isStored]
    simp [newUnfailed, updatesOf_append]
  · intro other member
    rcases List.mem_append.mp member with earlier | last
    · obtain ⟨known, notRecovery, notCancelled, isKnown⟩ := holds.runs other earlier
      exact ⟨known, notRecovery, notCancelled, adds.runIs isKnown⟩
    · rw [List.mem_singleton.mp last]
      exact ⟨status, by rcases isUnderway with rfl | rfl <;> decide,
        by rcases isUnderway with rfl | rfl <;> decide, isNew⟩
  · intro other member
    rcases List.mem_append.mp member with earlier | last
    · exact (holds.unowned other earlier).of_owners owners
    · rw [List.mem_singleton.mp last]
      intro plan planMember owned
      have listed : some request.runId ∈ after.plans.map (·.runId) :=
        List.mem_map.mpr ⟨plan, planMember, owned⟩
      rw [owners] at listed
      exact fresh (holds.plan_runs _ listed)
  · rw [List.map_append, List.map_singleton, List.nodup_append]
    refine ⟨holds.distinct, List.nodup_singleton _, ?_⟩
    rintro runId member _ isLast rfl
    obtain ⟨other, isOther, rfl⟩ := List.mem_map.mp member
    obtain ⟨known, _, _, isKnown⟩ := holds.runs other isOther
    obtain ⟨run, runMember, isRun⟩ := isKnown.present
    rw [List.mem_singleton] at isLast
    exact fresh (List.mem_map.mpr ⟨run, runMember, isRun.trans isLast⟩)
  · intro front other isPrefix isUnfailed
    rcases List.prefix_concat_iff.mp isPrefix with whole | earlier
    · obtain ⟨rfl, isLast⟩ := List.append_singleton_inj.mp whole
      rw [isLast, unfailed_congr sameStatus]
      exact isStored
    · have members : ∀ entry ∈ front ++ [other], entry ∈ controller.requests := earlier.subset
      rw [unfailed_congr fun entry member => sameStatus entry
        (members entry (List.mem_append_left _ member))]
      rw [← sameStatus other (members other (List.mem_append_right _ List.mem_cons_self))]
        at isUnfailed
      exact holds.previous front other earlier isUnfailed
  · intro runId member
    rcases isScheduled runId member with earlier | ⟨rfl, rfl⟩
    · obtain ⟨running, other, isRequest, rfl, heldBefore⟩ := holds.scheduled runId earlier
      refine ⟨adds.runIs running, other, List.mem_append_left _ isRequest, rfl, ?_⟩
      intro run runMember isRun
      obtain ⟨known, knownMember, isKnown⟩ := running.present
      have listed : run.id ∈ controller.database.runs.map (·.id) :=
        List.mem_map.mpr ⟨known, knownMember, isKnown.trans isRun.symm⟩
      exact heldBefore run (adds.old run runMember listed) isRun
    · exact ⟨isNew, request, List.mem_append_right _ List.mem_cons_self, rfl, held⟩

/-- The queued run of a request. -/
def resourceRun (assignmentId : Nat) (launch : ResourceLaunch) (database : Database) : RunRow where
  id := Database.nextId (database.runs.map (·.id))
  kind := "resource-update"
  target := launch.target
  status := .queued
  context := Json.redactDict (resourceContext assignmentId launch)

/-- The run and the request, before the task is scheduled. -/
theorem launchRun_runCreated (assignmentId : Nat) (input : ResourceInput) (launch : ResourceLaunch)
    (controller : ResourceController) :
    controller.launchRun assignmentId input launch .runCreated =
      { database := controller.database.addRun (resourceRun assignmentId launch controller.database)
        scheduled := controller.scheduled
        requests := controller.requests ++
          [⟨(resourceRun assignmentId launch controller.database).id, input.update,
            launch.previous⟩] } :=
  rfl

theorem launchRun_scheduled (assignmentId : Nat) (input : ResourceInput) (launch : ResourceLaunch)
    (controller : ResourceController) :
    controller.launchRun assignmentId input launch .scheduled =
      { database := (controller.database.addRun
          (resourceRun assignmentId launch controller.database)).setRunStatus
            (resourceRun assignmentId launch controller.database).id .running
        scheduled := (resourceRun assignmentId launch controller.database).id ::
          controller.scheduled
        requests := controller.requests ++
          [⟨(resourceRun assignmentId launch controller.database).id, input.update,
            launch.previous⟩] } :=
  rfl

/-- The new run is the only one with its identifier. -/
theorem addRun_own {row run : RunRow} {database : Database}
    (fresh : row.id ∉ database.runs.map (·.id)) (member : run ∈ (database.addRun row).runs)
    (isRun : run.id = row.id) : run = row := by
  rcases List.mem_append.mp member with earlier | last
  · exact absurd (isRun ▸ List.mem_map_of_mem earlier) fresh
  · exact List.mem_singleton.mp last

theorem addRun_runIs {row : RunRow} {database : Database}
    (fresh : row.id ∉ database.runs.map (·.id)) :
    (database.addRun row).RunIs row.id row.status := by
  refine ⟨⟨row, List.mem_append_right _ List.mem_cons_self, rfl⟩, fun run member isRun => ?_⟩
  rw [addRun_own fresh member isRun]

/-- A request that is not cut off between its transactions. -/
theorem ResourceInvariant.put (isPositive : 0 < assignmentId)
    (holds : ResourceInvariant assignmentId initial controller) {guards : ResourceGuards}
    {input : ResourceInput} {stage : RequestStage}
    (restores : RestoresExactly controller (.put guards input stage)) :
    ResourceInvariant assignmentId initial
      (controller.put assignmentId guards input stage) := by
  rcases ran : (updateResources guards assignmentId input).run controller.database with
    ⟨outcome, stored⟩
  rw [ResourceController.put, ran]
  cases outcome with
  | raised error => exact holds
  | stopped => exact holds
  | returned launch =>
      obtain ⟨⟨row, isRow, isPrevious⟩, isStored⟩ := updateResources_returned ran
      have sameRuns : stored.runs = controller.database.runs := by rw [isStored]; rfl
      have fresh : (resourceRun assignmentId launch stored).id ∉ stored.runs.map (·.id) :=
        nextId_fresh _
      have freshHere : (resourceRun assignmentId launch stored).id ∉
          controller.database.runs.map (·.id) := by rwa [sameRuns] at fresh
      have context := holdsPrevious_resourceContext isPositive launch
      have isNew := addRun_runIs fresh
      cases stage with
      | configurationStored => exact absurd rfl restores
      | runCreated =>
          have adds := AddsRuns.addRun _ _ fresh
          simp only [reduceCtorEq, if_false]
          rw [launchRun_runCreated]
          refine holds.extend isRow isPrevious freshHere (adds.congr sameRuns) ?_ (.inl rfl)
            isNew ?_ fun _ member => .inl member
          · rw [isStored]
            rfl
          · intro run member isRun
            rw [addRun_own fresh member isRun]
            exact context
      | scheduled =>
          have adds := AddsRuns.started _ .running _ fresh
          simp only [reduceCtorEq, if_false]
          rw [launchRun_scheduled]
          refine holds.extend isRow isPrevious freshHere (adds.congr sameRuns) ?_ (.inr rfl)
            (isNew.finish .running) ?_ ?_
          · rw [isStored]
            rfl
          · intro run member isRun
            obtain ⟨source, sourceMember, rfl⟩ := List.mem_map.mp member
            have isSource : source.id = (resourceRun assignmentId launch stored).id := by
              refine Eq.trans ?_ isRun
              split <;> rfl
            rw [if_pos isSource, addRun_own fresh sourceMember isSource]
            exact context
          · intro runId member
            rcases List.mem_cons.mp member with isNewRun | earlier
            · exact .inr ⟨isNewRun, rfl⟩
            · exact .inl earlier

theorem ResourceInvariant.perform (isPositive : 0 < assignmentId)
    (holds : ResourceInvariant assignmentId initial controller) {action : ResourceAction}
    (restores : RestoresExactly controller action) :
    ResourceInvariant assignmentId initial (controller.perform assignmentId action) := by
  cases action with
  | put guards input stage => exact holds.put isPositive restores
  | complete runId succeeded => exact holds.complete restores
  | restart projections => exact holds.restart projections restores

end Steps

/-! ### Runs -/

/-- Every action of a run meets its condition where it is performed. -/
def EachRestores (assignmentId : Nat) : ResourceController → List ResourceAction → Prop
  | _, [] => True
  | controller, action :: actions =>
      RestoresExactly controller action ∧
        EachRestores assignmentId (controller.perform assignmentId action) actions

/-- The invariant holds after a run. -/
theorem ResourceInvariant.performAll {assignmentId : Nat} {initial : Dict}
    {controller : ResourceController} (isPositive : 0 < assignmentId)
    (holds : ResourceInvariant assignmentId initial controller) {actions : List ResourceAction}
    (restores : EachRestores assignmentId controller actions) :
    ResourceInvariant assignmentId initial (controller.performAll assignmentId actions) := by
  induction actions generalizing controller with
  | nil => exact holds
  | cons action actions ih =>
      obtain ⟨here, later⟩ := restores
      exact ih (holds.perform isPositive here) later

/-- No request was made yet. -/
theorem resourceInvariant_start {assignmentId : Nat} {database : Database} {row : AssignmentRow}
    (sound : database.Sound) (isRow : database.assignment? assignmentId = some row) :
    ResourceInvariant assignmentId (openConfig row.config) ⟨database, [], []⟩ where
  places := sound.places
  assignment_ids := sound.assignment_ids
  plan_runs := by
    intro runId listed
    obtain ⟨plan, member, owned⟩ := List.mem_map.mp listed
    obtain ⟨run, runMember, isRun⟩ := sound.plan_runs plan member runId owned
    exact List.mem_map.mpr ⟨run, runMember, isRun⟩
  config := ⟨row, List.mem_of_find?_eq_some isRow, by simpa using List.find?_some isRow, rfl⟩
  runs := by simp
  unowned := by simp
  distinct := by simp
  previous := by simp
  scheduled := by simp

/-- Among requests that are not under way, the unfailed ones succeeded. -/
theorem ResourceInvariant.succeeded_of_idle {assignmentId : Nat} {initial : Dict}
    {controller : ResourceController} (holds : ResourceInvariant assignmentId initial controller)
    (idle : ∀ request ∈ controller.requests, controller.database.underway request = false) :
    controller.requests.filter controller.database.unfailed =
      controller.requests.filter controller.database.succeeded := by
  refine List.filter_congr fun request member => ?_
  obtain ⟨status, notRecovery, notCancelled, known⟩ := holds.runs request member
  have ended := idle request member
  simp only [Database.underway, known.runStatus?, decide_eq_false_iff_not] at ended
  rw [known.unfailed_eq, Database.succeeded, known.runStatus?]
  cases status <;> simp_all

/-- When every action meets its condition and no run is under way, the stored configuration
has the updates of the succeeded runs, in the order of the requests. -/
theorem idle_config_of_succeeded {assignmentId : Nat} {database : Database} {row : AssignmentRow}
    (sound : database.Sound) (isPositive : 0 < assignmentId)
    (isRow : database.assignment? assignmentId = some row) {actions : List ResourceAction}
    {reached : ResourceController}
    (isReached : reached = ResourceController.performAll assignmentId ⟨database, [], []⟩ actions)
    (restores : EachRestores assignmentId ⟨database, [], []⟩ actions)
    (idle : ∀ request ∈ reached.requests, reached.database.underway request = false) :
    (reached.database.assignment? assignmentId).map (fun found => openConfig found.config) =
      some (updatesOf (openConfig row.config)
        (reached.requests.filter reached.database.succeeded)) := by
  have holds : ResourceInvariant assignmentId (openConfig row.config) reached := by
    rw [isReached]
    exact (resourceInvariant_start sound isRow).performAll isPositive restores
  rw [← holds.succeeded_of_idle idle]
  cases found : reached.database.assignment? assignmentId with
  | none =>
      obtain ⟨stored, member, isStored, _⟩ := holds.config
      have missed := List.find?_eq_none.mp found stored member
      simp [isStored] at missed
  | some stored =>
      rw [Option.map_some, holds.config_of_row found]

/-! ### Concrete runs -/

namespace ResourceSample

def config : Dict :=
  [("cpu", .str "2"), ("memory", .str "4g"), ("storage_path", .str "/data"),
    ("jvm_heap", .str "2g")]

def row : AssignmentRow :=
  ⟨1, 1, 1, .master, sealConfig config, some "8.15.0", .active, 1, none⟩

def database : Database :=
  { Database.empty with
    nodes := [⟨1, "node-1", true⟩]
    clusters := [⟨1, "logs", "logs", true⟩]
    memberships := [(1, 1)]
    assignments := [row] }

theorem database_sound : database.Sound where
  assignment_ids := by decide
  places := ⟨by decide, by decide⟩
  claim_runs := by simp [database, row]
  batch_runs := by simp [database, Database.empty]
  plan_runs := by simp [database, Database.empty]

def guards : ResourceGuards where
  requireNoMaintenanceConflict _ _ := .ok ()
  requireClusterCapability _ _ := .ok ()
  requireReadyMembership _ := .ok ()
  validateConfig _ _ := .ok ()
  policy :=
    { requireReady := fun _ _ => .ok ()
      requireZone := fun _ _ => .ok ()
      memoryMebibytes := fun _ => .ok 4096
      defaultVersion := "8.15.0" }

/-- More processors. -/
def faster : ResourceInput where
  cpu := "4"
  memory := "4g"
  storagePath := "/data"
  jvmHeap := none
  nodeHeap := none
  cpu_bounds := by decide
  memory_bounds := by decide
  storagePath_bounds := by decide
  jvmHeap_bound := by simp
  nodeHeap_bound := by simp

/-- More memory. -/
def larger : ResourceInput where
  cpu := "2"
  memory := "8g"
  storagePath := "/data"
  jvmHeap := none
  nodeHeap := none
  cpu_bounds := by decide
  memory_bounds := by decide
  storagePath_bounds := by decide
  jvmHeap_bound := by simp
  nodeHeap_bound := by simp

/-- The first run fails before the second request. -/
def orderly : List ResourceAction :=
  [.put guards faster .scheduled, .complete 1 false, .put guards larger .scheduled,
    .complete 2 true]

/-- The first run fails after the second request. -/
def overtaken : List ResourceAction :=
  [.put guards faster .scheduled, .put guards larger .scheduled, .complete 1 false,
    .complete 2 true]

end ResourceSample

namespace ResourceSample

/-- The state after a list of actions on the sample. -/
def reach (actions : List ResourceAction) : ResourceController :=
  ResourceController.performAll 1 ⟨database, [], []⟩ actions

end ResourceSample

open ResourceSample in
/-- The failed update is undone, the later one stays. -/
theorem idle_config_of_orderly :
    ((reach orderly).database.assignment? 1).map (fun found => openConfig found.config) =
      some (updatesOf config ((reach orderly).requests.filter
        (reach orderly).database.succeeded)) := by
  have later : EachRestores 1 (reach [.put guards faster .scheduled, .complete 1 false])
      [.put guards larger .scheduled, .complete 2 true] :=
    ⟨nofun, trivial, trivial⟩
  have restores : EachRestores 1 ⟨ResourceSample.database, [], []⟩ orderly := by
    refine ⟨nofun, ?_, later⟩
    intro before request after isSplit _
    have only : (reach [.put guards faster .scheduled]).requests =
        [⟨1, faster.update, config⟩] := by decide +kernel
    have single : [⟨1, faster.update, config⟩] = before ++ request :: after := only ▸ isSplit
    cases before with
    | nil =>
        cases single
        exact ⟨by simp, by decide +kernel⟩
    | cons first rest => simp at single
  have isRow : ResourceSample.database.assignment? 1 = some row := rfl
  exact idle_config_of_succeeded database_sound (by decide) isRow rfl restores
    (by decide +kernel)

open ResourceSample in
/-- The failed run writes back what it found, which loses the update that succeeded. -/
theorem overtaken_failure_loses_update :
    ¬ ∀ (assignmentId : Nat) (database : Database) (row : AssignmentRow)
      (actions : List ResourceAction) (reached : ResourceController), database.Sound →
      0 < assignmentId → database.assignment? assignmentId = some row →
      reached = ResourceController.performAll assignmentId ⟨database, [], []⟩ actions →
      (∀ request ∈ reached.requests, reached.database.underway request = false) →
      (reached.database.assignment? assignmentId).map (fun found => openConfig found.config) =
        some (updatesOf (openConfig row.config)
          (reached.requests.filter reached.database.succeeded)) := by
  intro restored
  have stored := restored 1 ResourceSample.database row overtaken (reach overtaken)
    database_sound (by decide) rfl rfl (by decide +kernel)
  revert stored
  decide +kernel

end ElKeeper
