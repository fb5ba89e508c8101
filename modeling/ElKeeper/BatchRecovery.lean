import ElKeeper.BatchAtomicity

/-!
# Startups and interrupted batches

A completed bootstrap marks an interrupted batch for recovery and fails every
other run it finds unfinished.  The recovery of a batch takes back what was
begun and releases the staged rows.
-/

namespace ElKeeper

open Program WorkloadStore WorkloadChangeWorker

section Recovery

variable {pre staged : Database} {clusterId runId : Nat} {changes : List StagedChange}
  {workers : WorkloadChangeWorker → Prop} {allowed : RunStatus → Prop}
  {failed : Fault → Database → List (Entry Database Reconcile) → Prop}

/-! ### Recovery of one batch -/

/-- A change whose client identifier is recorded was begun. -/
theorem begun_of_clientId (distinct : (changes.map (·.clientId)).Nodup)
    {begun : List StagedChange} (within : ∀ change ∈ begun, change ∈ changes)
    {item : StagedChange} (isChange : item ∈ changes)
    (recorded : item.clientId ∈ begun.map (·.clientId)) : item ∈ begun := by
  obtain ⟨other, isBegun, sameId⟩ := List.mem_map.mp recorded
  have same := List.inj_on_of_nodup_map distinct (within other isBegun) isChange sameId
  exact same ▸ isBegun

/-- `recover` settles the batch when everything can be taken back. -/
theorem recover_ensures (batch : StagedBatch pre clusterId runId changes staged)
    {worker : WorkloadChangeWorker} (isWorker : workers worker) (begun : List StagedChange) :
    Ensures (Durable (BatchInvariant pre staged clusterId runId changes workers allowed))
      (Durable (Pending pre staged clusterId runId changes begun .recoveryRequired))
      (worker.recover runId)
      (fun _ => Durable fun database trace => TakesBack worker changes staged →
        Settled pre staged runId changes allowed database trace)
      fun error => Durable (failed error) := by
  have planned : Ensures (Durable (BatchInvariant pre staged clusterId runId changes workers allowed))
      (Durable (Pending pre staged clusterId runId changes begun .recoveryRequired))
      (transaction do
        let row ← batchPlan runId
        let completedIds ← read fun database => completedBatchClientIds database runId
        pure (row, completedIds) : Task (BatchRow × List String))
      (fun plan => Durable fun database trace =>
        (plan.1.changes = changes ∧ plan.2 = begun.map (·.clientId)) ∧
        Pending pre staged clusterId runId changes begun .recoveryRequired database trace)
      fun _ => Durable fun _ _ => False := by
    refine .transaction ?_ ?_
    · intro database trace plan inv pending returned
      obtain ⟨phase, stored⟩ := pending.batch
      simp only [batchPlan, completedBatchClientIds, run_bind, run_read, stored, run_pure]
        at returned ⊢
      cases returned
      exact ⟨inv, ⟨rfl, rfl⟩, pending⟩
    · intro database trace error _ pending raised
      obtain ⟨phase, stored⟩ := pending.batch
      simp only [batchPlan, run_bind, run_read, stored, run_pure] at raised
      cases raised
  refine .ignoring (.bind planned fun plan world inv known => ?_)
    (fun _ _ _ settled => settled) fun _ _ _ never => never.elim
  obtain ⟨row, completedIds⟩ := plan
  obtain ⟨⟨sameChanges, sameIds⟩, pending⟩ := known
  dsimp only at sameChanges sameIds
  subst sameChanges sameIds
  have within : ∀ change ∈ begun, change ∈ row.changes :=
    fun change member => (pending.executable change member).1
  refine Ensures.bind (rollback_ensures isWorker (.inr rfl) _ (fun item member => ?_)
    fun change member => ?_) (fun isDone => ?_) world inv pending
  · obtain ⟨isChange, recorded⟩ := List.mem_filter.mp member
    have isBegun := begun_of_clientId batch.clientIds within isChange (by simpa using recorded)
    exact pending.executable item isBegun
  · refine List.mem_filter.mpr ⟨within change member, ?_⟩
    simpa using ⟨change, member, rfl⟩
  · cases isDone with
    | true =>
        refine transaction_ensures (fun _ => rfl) fun database trace reached => ?_
        have released := (reached.1.release batch (reached.2.1 rfl)).finishRun .failed
        have settled : Settled pre staged runId row.changes allowed _ trace :=
          .inr ⟨.failed, .inr rfl, released⟩
        exact ⟨.inr settled, fun _ => settled⟩
    | false =>
        refine .pure fun reached _ ended takesBack => ?_
        exact absurd (ended.2.2 takesBack) (by decide)

/-! ### The bootstrap -/

theorem batch?_of_batches {change : BatchRow → BatchRow} {database after : Database}
    (changed : after.batches = database.batches.map change)
    (sameRun : ∀ row, (change row).runId = row.runId) (runId : Nat) :
    after.batch? runId = (database.batch? runId).map change := by
  rw [← batch?_mapBatches sameRun database runId]
  simp only [Database.batch?, Database.mapBatches, changed]

theorem Kept.bootstrapped {database after : Database} (kept : Kept pre staged runId database)
    (booted : StartupRecovery.Bootstrapped runId database after) :
    Kept pre staged runId after where
  clusters := booted.clusters.trans kept.clusters
  nodes := booted.nodes.trans kept.nodes
  memberships := booted.memberships.trans kept.memberships
  owners := booted.owners.trans kept.owners
  others := by
    obtain ⟨phases, changed⟩ := booted.batches
    have same : ((database.mapBatches fun row => { row with phase := phases row }).batches.filter
        (·.runId ≠ runId)).map (·.content) = pre.batches.map (·.content) := by
      refine Eq.trans (others_mapBatches ?_ ?_ database) kept.others
      · exact fun _ => rfl
      · exact fun _ _ => rfl
    rw [changed, ← same]
    rfl

/-- An unsettled batch is marked for recovery. -/
theorem Pending.bootstrapped {begun : List StagedChange} {status : RunStatus}
    {database after : Database} {trace : List (Entry Database Reconcile)}
    (pending : Pending pre staged clusterId runId changes begun status database trace)
    (isActive : status = .running ∨ status = .recoveryRequired)
    (booted : StartupRecovery.Bootstrapped runId database after) :
    Pending pre staged clusterId runId changes begun .recoveryRequired after trace where
  kept := pending.kept.bootstrapped booted
  assignments := booted.assignments.trans pending.assignments
  batch := by
    obtain ⟨phase, stored⟩ := pending.batch
    obtain ⟨phases, changed⟩ := booted.batches
    rw [batch?_of_batches changed fun _ => rfl, stored]
    exact ⟨_, rfl⟩
  executable := pending.executable
  began := pending.began
  run := by
    obtain ⟨phase, stored⟩ := pending.batch
    have restarted := booted.run status pending.run
    rw [stored] at restarted
    rcases isActive with rfl | rfl <;> exact restarted

/-- A bootstrap does not bring a batch back. -/
theorem batch?_bootstrapped {database after : Database} (missing : database.batch? runId = none)
    (booted : StartupRecovery.Bootstrapped runId database after) :
    after.batch? runId = none := by
  obtain ⟨phases, changed⟩ := booted.batches
  rw [batch?_of_batches changed fun _ => rfl, missing]
  rfl

theorem Finalized.bootstrapped {status : RunStatus} {database after : Database}
    (finalized : Finalized pre staged runId changes status database)
    (booted : StartupRecovery.Bootstrapped runId database after) :
    Finalized pre staged runId changes (StartupRecovery.restarted false status) after where
  kept := finalized.kept.bootstrapped booted
  assignments := booted.assignments.trans finalized.assignments
  batch := batch?_bootstrapped finalized.batch booted
  run := by
    have restarted := booted.run status finalized.run
    rwa [finalized.batch] at restarted

theorem RolledBack.bootstrapped {status : RunStatus} {database after : Database}
    {trace : List (Entry Database Reconcile)}
    (rolledBack : RolledBack pre staged runId changes status database trace)
    (booted : StartupRecovery.Bootstrapped runId database after) :
    RolledBack pre staged runId changes (StartupRecovery.restarted false status) after
      trace where
  kept := rolledBack.kept.bootstrapped booted
  assignments := booted.assignments.trans rolledBack.assignments
  batch := batch?_bootstrapped rolledBack.batch booted
  takenBack := rolledBack.takenBack
  run := by
    have restarted := booted.run status rolledBack.run
    rwa [rolledBack.batch] at restarted

/-! ### One start of the controller -/

/-- Rows that stem from staged ones have their cluster and their node. -/
theorem placed_of_staged (batch : StagedBatch pre clusterId runId changes staged)
    {database : Database} (kept : Kept pre staged runId database)
    (stems : ∀ row ∈ database.assignments, ∃ source ∈ staged.assignments,
      place row = place source) : StartupRecovery.Placed database := by
  refine batch.placed.same kept.clusters kept.nodes kept.memberships fun row member => ?_
  obtain ⟨source, sourceMember, same⟩ := stems row member
  simp only [place, Prod.mk.injEq] at same
  exact ⟨source, sourceMember, same.2⟩

/-- Every state of a batch keeps its rows in place. -/
theorem BatchState.placed (batch : StagedBatch pre clusterId runId changes staged)
    {database : Database} {trace : List (Entry Database Reconcile)}
    (state : BatchState pre staged clusterId runId changes allowed database trace) :
    StartupRecovery.Placed database := by
  rcases state with ⟨begun, status, _, pending⟩ | ⟨status, _, finalized⟩ | ⟨status, _, rolledBack⟩
  · refine placed_of_staged batch pending.kept fun row member => ⟨row, ?_, rfl⟩
    rwa [← pending.assignments]
  · refine placed_of_staged batch finalized.kept fun row member => ?_
    rw [finalized.assignments] at member
    obtain ⟨source, sourceMember, settles⟩ := List.mem_filterMap.mp member
    exact ⟨source, sourceMember, settleRow_place (fun _ _ _ => finalizedRow_place) settles⟩
  · refine placed_of_staged batch rolledBack.kept fun row member => ?_
    rw [rolledBack.assignments,
      ← batch.staging.released batch.sound.assignment_ids batch.free] at member
    obtain ⟨source, sourceMember, settles⟩ := List.mem_filterMap.mp member
    exact ⟨source, sourceMember, settleRow_place (fun _ _ _ => releasedRow_place) settles⟩

theorem BatchState.unowned (batch : StagedBatch pre clusterId runId changes staged)
    {database : Database} {trace : List (Entry Database Reconcile)}
    (state : BatchState pre staged clusterId runId changes allowed database trace) :
    database.Unowned runId := by
  rcases state with ⟨begun, status, _, pending⟩ | ⟨status, _, finalized⟩ | ⟨status, _, rolledBack⟩
  · exact pending.kept.unowned batch
  · exact finalized.kept.unowned batch
  · exact rolledBack.kept.unowned batch

/-- A batch after a completed bootstrap: it waits for its recovery, or is settled. -/
def Restarted (pre staged : Database) (clusterId runId : Nat) (changes : List StagedChange)
    (allowed : RunStatus → Prop) (database : Database)
    (trace : List (Entry Database Reconcile)) : Prop :=
  (∃ begun, Pending pre staged clusterId runId changes begun .recoveryRequired database trace) ∨
    database.batch? runId = none ∧ Settled pre staged runId changes allowed database trace

/-- The statuses that a finalized batch may have stay allowed by a restart. -/
def Restartable (pre staged : Database) (runId : Nat) (changes : List StagedChange)
    (allowed : RunStatus → Prop) (database : Database) : Prop :=
  ∀ status, allowed status → Finalized pre staged runId changes status database →
    allowed (StartupRecovery.restarted false status)

theorem Restarted.batchState {database : Database} {trace : List (Entry Database Reconcile)}
    (restarted : Restarted pre staged clusterId runId changes allowed database trace) :
    BatchState pre staged clusterId runId changes allowed database trace := by
  rcases restarted with ⟨begun, pending⟩ | ⟨_, settled⟩
  · exact pending.isOpen (.inr rfl)
  · exact .inr settled

/-- What a completed bootstrap makes of a batch. -/
theorem BatchState.bootstrapped {database after : Database}
    {trace : List (Entry Database Reconcile)}
    (state : BatchState pre staged clusterId runId changes allowed database trace)
    (restartable : Restartable pre staged runId changes allowed database)
    (booted : StartupRecovery.Bootstrapped runId database after) :
    Restarted pre staged clusterId runId changes allowed after trace := by
  rcases state with ⟨begun, status, isActive, pending⟩ | ⟨status, isAllowed, finalized⟩ |
    ⟨status, isClosed, rolledBack⟩
  · exact .inl ⟨begun, pending.bootstrapped isActive booted⟩
  · have next := finalized.bootstrapped booted
    exact .inr ⟨next.batch, .inl ⟨_, restartable status isAllowed finalized, next⟩⟩
  · have next := rolledBack.bootstrapped booted
    refine .inr ⟨next.batch, .inr ⟨_, ?_, next⟩⟩
    rcases isClosed with rfl | rfl <;> exact .inr rfl

/-- A batch is due for recovery exactly when it was not settled. -/
theorem due_iff {database : Database} {trace : List (Entry Database Reconcile)}
    (restarted : Restarted pre staged clusterId runId changes allowed database trace) :
    runId ∈ Runs.recoveryRequiredIds database (recoveryBatchRunIds database) ↔
      ∃ begun, Pending pre staged clusterId runId changes begun .recoveryRequired database
        trace := by
  constructor
  · intro due
    rcases restarted with waiting | ⟨missing, _⟩
    · exact waiting
    · obtain ⟨run, runMember, isRun⟩ := List.mem_map.mp due
      have listed := (List.mem_filter.mp runMember).2
      simp only [Bool.and_eq_true, decide_eq_true_eq, isRun] at listed
      obtain ⟨row, rowMember, isRow⟩ := List.mem_map.mp listed.2
      have missed := List.find?_eq_none.mp missing row rowMember
      simp [isRow] at missed
  · rintro ⟨begun, pending⟩
    obtain ⟨run, runMember, isRun⟩ := pending.run.present
    obtain ⟨phase, stored⟩ := pending.batch
    refine List.mem_map.mpr ⟨run, List.mem_filter.mpr ⟨runMember, ?_⟩, isRun⟩
    simp only [Bool.and_eq_true, decide_eq_true_eq, isRun]
    exact ⟨pending.run.all run runMember isRun,
      List.mem_map.mpr ⟨_, List.mem_of_find?_eq_some stored, rfl⟩⟩

/-- One start of the controller keeps the invariant, and settles the batch when it
completes and everything can be taken back. -/
theorem startController_ensures (batch : StagedBatch pre clusterId runId changes staged)
    {worker : WorkloadChangeWorker} (isWorker : workers worker)
    (projections : StartupRecovery.Projections) :
    Ensures (Durable (BatchInvariant pre staged clusterId runId changes workers allowed))
      (Durable fun database _ => Restartable pre staged runId changes allowed database)
      (startController worker projections runId)
      (fun _ => Durable fun database trace => TakesBack worker changes staged →
        Settled pre staged runId changes allowed database trace)
      fun _ => Durable fun _ _ => True := by
  have booted : Ensures (Durable (BatchInvariant pre staged clusterId runId changes workers allowed))
      (Durable fun database _ => Restartable pre staged runId changes allowed database)
      (transaction (StartupRecovery.completeControllerBootstrap projections) : Task Unit)
      (fun _ => Durable (Restarted pre staged clusterId runId changes allowed))
      fun _ => Durable fun _ _ => True := by
    refine .transaction (fun database trace _ inv restartable returned => ?_)
      fun _ _ _ _ _ _ => trivial
    have restarted := inv.state.bootstrapped restartable
      (StartupRecovery.completeControllerBootstrap_returned projections (inv.state.unowned batch)
        (inv.state.placed batch) (Prod.ext returned rfl))
    exact ⟨⟨inv.dispatched, restarted.batchState⟩, restarted⟩
  have asked : Ensures (Durable (BatchInvariant pre staged clusterId runId changes workers allowed))
      (Durable (Restarted pre staged clusterId runId changes allowed))
      (transaction do
        let candidates ← read recoveryBatchRunIds
        read fun database => decide (runId ∈ Runs.recoveryRequiredIds database candidates) :
        Task Bool)
      (fun due => Durable fun database trace =>
        Restarted pre staged clusterId runId changes allowed database trace ∧
          (due = true ↔ ∃ begun,
            Pending pre staged clusterId runId changes begun .recoveryRequired database trace))
      fun _ => Durable fun _ _ => True := by
    refine .transaction (fun database trace due inv restarted returned => ?_)
      fun _ _ _ _ _ _ => trivial
    simp only [run_bind, run_read, Outcome.returned.injEq] at returned ⊢
    refine ⟨inv, restarted, ?_⟩
    rw [← returned, decide_eq_true_iff]
    exact due_iff restarted
  refine .bind booted fun _ => .bind asked fun due world inv known => ?_
  obtain ⟨restarted, isDue⟩ := known
  cases due with
  | true =>
      obtain ⟨begun, pending⟩ := isDue.mp rfl
      exact recover_ensures batch isWorker begun world inv pending
  | false =>
      refine Ensures.pure (fun _ _ settled => settled) world inv fun _ => ?_
      rcases restarted with waiting | ⟨_, settled⟩
      · exact absurd (isDue.mpr waiting) (by decide)
      · exact settled

end Recovery

end ElKeeper
