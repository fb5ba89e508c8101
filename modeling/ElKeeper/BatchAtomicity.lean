import ElKeeper.BatchLife

/-!
# Batches are settled as a whole

What the worker and a startup do to the state of one batch, and from that, over
every sequence of processes, that a batch is either finalized or rolled back.
-/

namespace ElKeeper

open Program WorkloadStore WorkloadPayload WorkloadChangeWorker

/-- Taking changes back succeeds: their payloads can be built from the staged
inventory at any time, and their reconciliations answer that they succeeded. -/
structure TakesBack (worker : WorkloadChangeWorker) (changes : List StagedChange)
    (staged : Database) : Prop where
  answers : ∀ reconcile history, Reconcile.applies reconcile = false →
    worker.reconcile reconcile history = .ok true
  payloads : ∀ history, ∀ change ∈ changes, change.executable →
    ∃ payload, rollbackPayload (worker.policy history) changes change staged = .ok payload

/-- Since `base`, reconciliations only took changes back, among them the given ones. -/
def Reverting (base : List (Entry Database Reconcile)) (reverted : List StagedChange)
    (trace : List (Entry Database Reconcile)) : Prop :=
  ∃ answers, trace = answers ++ base ∧
    (∀ entry ∈ answers, entry.event.applies = false) ∧
    ∀ change ∈ reverted, ∃ entry ∈ answers, entry.event.takesBack change

theorem Reverting.start (base : List (Entry Database Reconcile)) : Reverting base [] base :=
  ⟨[], rfl, by simp, by simp⟩

theorem Reverting.cons {base trace : List (Entry Database Reconcile)}
    {reverted : List StagedChange} (reverting : Reverting base reverted trace)
    {entry : Entry Database Reconcile} (notApplies : entry.event.applies = false) :
    Reverting base reverted (entry :: trace) := by
  obtain ⟨answers, rfl, onlyAnswers, answered⟩ := reverting
  refine ⟨entry :: answers, rfl, ?_, fun change member => ?_⟩
  · intro other member
    rcases List.mem_cons.mp member with rfl | earlier
    · exact notApplies
    · exact onlyAnswers other earlier
  · obtain ⟨answer, isAnswer, takes⟩ := answered change member
    exact ⟨answer, List.mem_cons_of_mem _ isAnswer, takes⟩

theorem Reverting.takesBack {base trace : List (Entry Database Reconcile)}
    {reverted : List StagedChange} (reverting : Reverting base reverted trace)
    {entry : Entry Database Reconcile} {change : StagedChange}
    (takes : entry.event.takesBack change) :
    Reverting base (change :: reverted) (entry :: trace) := by
  have notApplies : entry.event.applies = false := by
    simp only [Reconcile.takesBack, Bool.and_eq_true, Bool.not_eq_true'] at takes
    exact takes.1.1
  obtain ⟨answers, rfl, onlyAnswers, answered⟩ := reverting
  refine ⟨entry :: answers, rfl, ?_, fun other member => ?_⟩
  · intro other member
    rcases List.mem_cons.mp member with rfl | earlier
    · exact notApplies
    · exact onlyAnswers other earlier
  · rcases List.mem_cons.mp member with rfl | earlier
    · exact ⟨entry, List.mem_cons_self, takes⟩
    · obtain ⟨answer, isAnswer, takesOther⟩ := answered other earlier
      exact ⟨answer, List.mem_cons_of_mem _ isAnswer, takesOther⟩

theorem Reverting.mono {base trace : List (Entry Database Reconcile)}
    {reverted fewer : List StagedChange} (reverting : Reverting base reverted trace)
    (within : ∀ change ∈ fewer, change ∈ reverted) : Reverting base fewer trace := by
  obtain ⟨answers, rfl, onlyAnswers, answered⟩ := reverting
  exact ⟨answers, rfl, onlyAnswers, fun change member => answered change (within change member)⟩

/-- When all begun changes were taken back, every dispatched one was. -/
theorem Reverting.takenBack {base trace : List (Entry Database Reconcile)}
    {begun reverted changes : List StagedChange} (reverting : Reverting base reverted trace)
    (began : Began begun base) (all : ∀ change ∈ begun, change ∈ reverted)
    (within : ∀ change ∈ begun, change ∈ changes) : TakenBack changes trace := by
  obtain ⟨answers, rfl, onlyAnswers, answered⟩ := reverting
  intro later entry earlier split applied
  -- The entry is no answer, so it lies in `base` and all answers came later.
  have inBase : entry ∈ base ∧ ∀ answer ∈ answers, answer ∈ later := by
    rcases List.append_eq_append_iff.mp split with ⟨middle, isLater, isBase⟩ | ⟨middle, isAnswers, rest⟩
    · exact ⟨isBase ▸ by simp, fun answer member => isLater ▸ List.mem_append_left _ member⟩
    · cases middle with
      | nil =>
          simp only [List.append_nil] at isAnswers
          simp only [List.nil_append] at rest
          exact ⟨rest ▸ by simp, fun answer member => isAnswers ▸ member⟩
      | cons first others =>
          simp only [List.cons_append, List.cons.injEq] at rest
          have isAnswer : entry ∈ answers := by
            rw [isAnswers, rest.1]
            simp
          rw [onlyAnswers entry isAnswer] at applied
          cases applied
  obtain ⟨change, isBegun, about⟩ := began entry inBase.1 applied
  obtain ⟨answer, isAnswer, takes⟩ := answered change (all change isBegun)
  exact ⟨change, within change isBegun, about, answer, inBase.2 answer isAnswer, takes⟩

/-! ### Payloads and orders -/

/-- Preparing a payload reads, and tells what was read. -/
theorem preparePayload_ensures {invariant before : Database → List (Entry Database Reconcile) → Prop}
    (worker : WorkloadChangeWorker) (payload : PayloadPolicy → Database → Except Fault Payload) :
    Ensures (Durable invariant) (Durable before) (preparePayload worker payload)
      (fun result => Durable fun database trace =>
        before database trace ∧ payload (worker.policy trace) database = .ok result)
      fun error => Durable fun database trace =>
        before database trace ∧ payload (worker.policy trace) database = .error error := by
  refine .bind .read fun policy => ?_
  change Ensures (Durable invariant)
    (Durable fun database trace => policy = worker.policy trace ∧ before database trace) _ _ _
  refine .transaction ?_ ?_
  · rintro database trace result inv ⟨rfl, pre⟩ returned
    simp only [run_bind, run_read] at returned ⊢
    cases built : payload (worker.policy trace) database with
    | ok value =>
        rw [built] at returned
        cases returned
        exact ⟨inv, pre, built⟩
    | error error =>
        rw [built] at returned
        cases returned
  · rintro database trace error _ ⟨rfl, pre⟩ raised
    refine ⟨pre, ?_⟩
    simp only [run_bind, run_read] at raised
    cases built : payload (worker.policy trace) database with
    | ok value =>
        rw [built] at raised
        cases raised
    | error other =>
        rw [built] at raised
        cases raised
        rfl

section Worker

variable {pre staged : Database} {clusterId runId : Nat} {changes : List StagedChange}
  {workers : WorkloadChangeWorker → Prop} {allowed : RunStatus → Prop}
  {failed : Fault → Database → List (Entry Database Reconcile) → Prop}

theorem Pending.isOpen {begun : List StagedChange} {status : RunStatus} {database : Database}
    {trace : List (Entry Database Reconcile)}
    (pending : Pending pre staged clusterId runId changes begun status database trace)
    (isActive : status = .running ∨ status = .recoveryRequired) :
    BatchState pre staged clusterId runId changes allowed database trace :=
  .inl ⟨begun, status, isActive, pending⟩

/-! ### Taking back -/

/-- One change is taken back, or its failure is reported. -/
theorem rollbackItem_ensures {worker : WorkloadChangeWorker} (isWorker : workers worker) {begun : List StagedChange}
    {status : RunStatus} (isActive : status = .running ∨ status = .recoveryRequired)
    {item : StagedChange} (isChange : item ∈ changes) (isExecutable : item.executable)
    (base : List (Entry Database Reconcile)) (reverted : List StagedChange) (index : Nat) :
    Ensures (Durable (BatchInvariant pre staged clusterId runId changes workers allowed))
      (Durable fun database trace =>
        Pending pre staged clusterId runId changes begun status database trace ∧
          Reverting base reverted trace)
      (rollbackItem worker runId changes index item)
      (fun isDone => Durable fun database trace =>
        Pending pre staged clusterId runId changes begun status database trace ∧
          Reverting base (if isDone then item :: reverted else reverted) trace ∧
          (TakesBack worker changes staged → isDone = true))
      fun error => Durable (failed error) := by
  have dispatched : ∀ payload, Ensures
      (Durable (BatchInvariant pre staged clusterId runId changes workers allowed))
      (Durable fun database trace =>
        (Pending pre staged clusterId runId changes begun status database trace ∧
          Reverting base reverted trace) ∧
        rollbackPayload (worker.policy trace) changes item database = .ok payload)
      (executeReconcile worker runId payload item.nodeName (.rollback index))
      (fun isDone => Durable fun database trace =>
        Pending pre staged clusterId runId changes begun status database trace ∧
          Reverting base (item :: reverted) trace ∧
          (TakesBack worker changes staged → isDone = true))
      fun _ => Durable fun database trace =>
        Pending pre staged clusterId runId changes begun status database trace ∧
          Reverting base reverted trace ∧ ¬ TakesBack worker changes staged := by
    intro payload
    refine .ask ?_
    rintro database working trace inv ⟨⟨pending, reverting⟩, built⟩
    obtain ⟨sameId, sameState⟩ := rollbackPayload_ok built
    rw [rollbackPayload_congr pending.inventory] at built
    have takes : Reconcile.takesBack item ⟨runId, payload, item.nodeName, .rollback index⟩ := by
      simp [Reconcile.takesBack, Reconcile.applies, sameId, sameState]
    have next : Pending pre staged clusterId runId changes begun status database
        (⟨⟨runId, payload, item.nodeName, .rollback index⟩, working, database⟩ :: trace) :=
      pending.dispatch fun applied => by cases applied
    refine ⟨⟨inv.dispatched.cons isWorker isChange isExecutable built, next.isOpen isActive⟩,
      fun value answered => ⟨next, ?_, fun takesBack => ?_⟩,
      fun error answered => ⟨next, ?_, fun takesBack => ?_⟩⟩
    · exact reverting.takesBack takes
    · rw [takesBack.answers _ _ rfl] at answered
      cases answered
      rfl
    · exact reverting.cons rfl
    · rw [takesBack.answers _ _ rfl] at answered
      cases answered
  have prepared : Ensures (Durable (BatchInvariant pre staged clusterId runId changes workers allowed))
      (Durable fun database trace =>
        Pending pre staged clusterId runId changes begun status database trace ∧
          Reverting base reverted trace)
      (preparePayload worker fun policy => rollbackPayload policy changes item)
      (fun payload => Durable fun database trace =>
        (Pending pre staged clusterId runId changes begun status database trace ∧
          Reverting base reverted trace) ∧
        rollbackPayload (worker.policy trace) changes item database = .ok payload)
      fun _ => Durable fun database trace =>
        Pending pre staged clusterId runId changes begun status database trace ∧
          Reverting base reverted trace ∧ ¬ TakesBack worker changes staged := by
    refine (preparePayload_ensures worker _).weaken (fun _ _ known => known)
      (fun _ _ _ known => known) ?_
    rintro error world _ ⟨⟨pending, reverting⟩, missed⟩
    refine ⟨pending, reverting, fun takesBack => ?_⟩
    obtain ⟨payload, built⟩ := takesBack.payloads world.trace item isChange isExecutable
    rw [rollbackPayload_congr pending.inventory, built] at missed
    cases missed
  refine .bind (Ensures.attempt (.bind prepared dispatched)) fun outcome => ?_
  match outcome with
  | .ok true => exact .pure fun _ _ known => known
  | .ok false =>
      refine .pure fun world _ known => ⟨known.1, ?_, fun takesBack => ?_⟩
      · exact known.2.1.mono fun change member => List.mem_cons_of_mem _ member
      · exact known.2.2 takesBack
  | .error error =>
      exact .pure fun world _ known => ⟨known.1, known.2.1, fun takesBack =>
        absurd takesBack known.2.2⟩

/-- The loop of `rollback`: when it succeeds, every change was taken back. -/
theorem rollbackEach_ensures {worker : WorkloadChangeWorker} (isWorker : workers worker) {begun : List StagedChange}
    {status : RunStatus} (isActive : status = .running ∨ status = .recoveryRequired)
    (base : List (Entry Database Reconcile)) (items : List StagedChange)
    (listed : ∀ item ∈ items, item ∈ changes ∧ item.executable)
    (reverted : List StagedChange) (index : Nat) :
    Ensures (Durable (BatchInvariant pre staged clusterId runId changes workers allowed))
      (Durable fun database trace =>
        Pending pre staged clusterId runId changes begun status database trace ∧
          Reverting base reverted trace)
      (rollbackEach worker runId changes index items)
      (fun isDone => Durable fun database trace =>
        Pending pre staged clusterId runId changes begun status database trace ∧
          (isDone = true → Reverting base (items ++ reverted) trace) ∧
          (TakesBack worker changes staged → isDone = true))
      fun error => Durable (failed error) := by
  induction items generalizing reverted index with
  | nil => exact .pure fun world _ known => ⟨known.1, fun _ => known.2, fun _ => rfl⟩
  | cons item items ih =>
      obtain ⟨isChange, isExecutable⟩ := listed item List.mem_cons_self
      refine .bind (rollbackItem_ensures isWorker isActive isChange isExecutable base reverted
        index) fun first => ?_
      have others := ih (fun other member => listed other (List.mem_cons_of_mem _ member))
        (if first then item :: reverted else reverted) (index + 1)
      intro world inv known
      have firstDone := known.2.2
      refine Ensures.bind others (fun rest => .pure fun reached _ ended => ?_) world inv
        ⟨known.1, known.2.1⟩
      refine ⟨ended.1, fun isDone => ?_, fun takesBack => ?_⟩
      · obtain ⟨firstIs, restIs⟩ := Bool.and_eq_true_iff.mp isDone
        refine (ended.2.1 restIs).mono fun change member => ?_
        rw [firstIs, if_pos rfl]
        simp only [List.mem_append, List.mem_cons] at member ⊢
        tauto
      · rw [firstDone takesBack, ended.2.2 takesBack]
        rfl

/-- `rollback`: when it succeeds, everything dispatched was taken back. -/
theorem rollback_ensures {worker : WorkloadChangeWorker} (isWorker : workers worker) {begun : List StagedChange}
    {status : RunStatus} (isActive : status = .running ∨ status = .recoveryRequired)
    (completed : List StagedChange)
    (listed : ∀ item ∈ completed, item ∈ changes ∧ item.executable)
    (all : ∀ change ∈ begun, change ∈ completed) :
    Ensures (Durable (BatchInvariant pre staged clusterId runId changes workers allowed))
      (Durable (Pending pre staged clusterId runId changes begun status))
      (rollback worker runId changes completed)
      (fun isDone => Durable fun database trace =>
        Pending pre staged clusterId runId changes begun status database trace ∧
          (isDone = true → TakenBack changes trace) ∧
          (TakesBack worker changes staged → isDone = true))
      fun error => Durable (failed error) := by
  intro world inv known
  have began := known.began
  refine Ensures.weaken (rollbackEach_ensures isWorker isActive world.trace completed.reverse
    (fun item member => listed item (List.mem_reverse.mp member)) [] 0)
    (fun _ _ start => start) (fun isDone reached _ ended => ?_) (fun _ _ _ raised => raised)
    world inv ⟨known, .start world.trace⟩
  obtain ⟨pending, reverting, succeeds⟩ := ended
  refine ⟨pending, fun done => ?_, succeeds⟩
  refine (reverting done).takenBack began (fun change member => ?_) fun change member => ?_
  · simp [all change member]
  · exact (pending.executable change member).1

/-! ### Applying -/

/-- A transaction that takes a batch from one state to the next. -/
theorem transaction_ensures {operation : Operation Unit} {change : Database → Database}
    {before after : Database → List (Entry Database Reconcile) → Prop}
    (runs : ∀ database, operation.run database = (.returned (), change database))
    (next : ∀ database trace, before database trace →
      BatchState pre staged clusterId runId changes allowed (change database) trace ∧
        after (change database) trace) :
    Ensures (Durable (BatchInvariant pre staged clusterId runId changes workers allowed))
      (Durable before) (transaction operation : Task Unit) (fun _ => Durable after)
      fun error => Durable (failed error) := by
  refine .transaction ?_ ?_
  · intro database trace _ inv known _
    rw [runs]
    obtain ⟨state, reached⟩ := next database trace known
    exact ⟨⟨inv.dispatched, state⟩, reached⟩
  · intro database trace error _ _ raised
    rw [runs] at raised
    cases raised

theorem Finalized.same {status : RunStatus} {database after : Database}
    (finalized : Finalized pre staged runId changes status database)
    (same : SameWorkloads runId database after) :
    Finalized pre staged runId changes status after where
  kept :=
    { clusters := same.clusters.trans finalized.kept.clusters
      nodes := same.nodes.trans finalized.kept.nodes
      memberships := same.memberships.trans finalized.kept.memberships
      owners := same.owners.trans finalized.kept.owners
      others := by rw [same.batches, finalized.kept.others] }
  assignments := same.assignments.trans finalized.assignments
  batch := by rw [Database.batch?, same.batches]; exact finalized.batch
  run := same.run status finalized.run

end Worker

end ElKeeper
