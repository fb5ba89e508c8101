import ElKeeper.Program

/-!
# Transactions, remote effects and crashes

A world has a durable database and the view of the open connection, which may
be ahead of it by uncommitted writes.  Remote effects are logged together with
both databases as they stood at the dispatch.  The budget counts the effects
that the process still performs before it stops; a world without a budget is
never interrupted.

`WorldStep` lists everything that can happen to a world.  Its parameters say
which writes, effects and commits a program may perform, so that the programs
built below it are described by narrowing these three.
-/

namespace ElKeeper

/-- One dispatched effect and the databases at its dispatch. -/
structure Entry (D E : Type) where
  event : E
  working : D
  committed : D

structure World (D E : Type) where
  committed : D
  working : D
  /-- Dispatched effects, the latest first. -/
  trace : List (Entry D E)
  budget : Option Nat

namespace World

variable {D E : Type}

/-- A world without uncommitted writes and without history. -/
def start (database : D) (budget : Option Nat) : World D E where
  committed := database
  working := database
  trace := []
  budget := budget

def log (world : World D E) (event : E) : World D E :=
  { world with trace := ⟨event, world.working, world.committed⟩ :: world.trace }

/-- A new process after a crash: uncommitted writes are lost. -/
def restart (world : World D E) (budget : Option Nat) : World D E :=
  { world with working := world.committed, budget := budget }

/-- A new process under the assumption that every write was durable. -/
def settle (world : World D E) (budget : Option Nat) : World D E :=
  { world with committed := world.working, budget := budget }

@[simp]
theorem log_working (world : World D E) (event : E) :
    (world.log event).working = world.working :=
  rfl

@[simp]
theorem log_committed (world : World D E) (event : E) :
    (world.log event).committed = world.committed :=
  rfl

@[simp]
theorem log_trace (world : World D E) (event : E) :
    (world.log event).trace =
      ⟨event, world.working, world.committed⟩ :: world.trace :=
  rfl

@[simp]
theorem restart_trace (world : World D E) (budget : Option Nat) :
    (world.restart budget).trace = world.trace :=
  rfl

@[simp]
theorem settle_working (world : World D E) (budget : Option Nat) :
    (world.settle budget).working = world.working :=
  rfl

@[simp]
theorem settle_trace (world : World D E) (budget : Option Nat) :
    (world.settle budget).trace = world.trace :=
  rfl

end World

/-- What can happen to a world in one step. -/
inductive WorldStep {D E : Type} (writes : D → D → Prop)
    (sends : World D E → E → Prop) (commits : World D E → Prop) :
    World D E → World D E → Prop where
  | write {world : World D E} {database : D}
      (allowed : writes world.working database) :
      WorldStep writes sends commits world { world with working := database }
  | spend (world : World D E) (budget : Option Nat) :
      WorldStep writes sends commits world { world with budget := budget }
  | send {world : World D E} {event : E} (allowed : sends world event) :
      WorldStep writes sends commits world (world.log event)
  | commit {world : World D E} (allowed : commits world) :
      WorldStep writes sends commits world { world with committed := world.working }

theorem WorldStep.widen {D E : Type} {writes writes' : D → D → Prop}
    {sends sends' : World D E → E → Prop} {commits commits' : World D E → Prop}
    (writesWiden : ∀ before after, writes before after → writes' before after)
    (sendsWiden : ∀ world event, sends world event → sends' world event)
    (commitsWiden : ∀ world, commits world → commits' world)
    (before after : World D E) (step : WorldStep writes sends commits before after) :
    WorldStep writes' sends' commits' before after := by
  cases step with
  | write allowed => exact .write (writesWiden _ _ allowed)
  | spend budget => exact .spend _ _
  | send allowed => exact .send (sendsWiden _ _ allowed)
  | commit allowed => exact .commit (commitsWiden _ allowed)

/-- The connection's view changes by writes only. -/
theorem WorldStep.working {D E : Type} {writes : D → D → Prop}
    {sends : World D E → E → Prop} {commits : World D E → Prop} {before after : World D E}
    (reached : Relation.ReflTransGen (WorldStep writes sends commits) before after) :
    Relation.ReflTransGen writes before.working after.working := by
  induction reached with
  | refl => exact .refl
  | tail _ step ih =>
      cases step with
      | write allowed => exact ih.tail allowed
      | spend budget => exact ih
      | send allowed => exact ih
      | commit allowed => exact ih

/-- An assertion about what a restart keeps: the durable database and the
dispatched effects. -/
def Durable {D E : Type} (holds : D → List (Entry D E) → Prop) (world : World D E) : Prop :=
  holds world.committed world.trace

namespace Program

variable {D E ε α : Type}

/-- Spend one unit of the budget, or stop when it is used up. -/
def tick : Program (World D E) ε Unit where
  run world :=
    match world.budget with
    | none => (.returned (), world)
    | some 0 => (.stopped, world)
    | some (rest + 1) => (.returned (), { world with budget := some rest })

/-- A read through the open connection. -/
def view (project : D → α) : Program (World D E) ε α :=
  read fun world => project world.working

/-- A database operation on the open connection. -/
def store (operation : Program D ε α) : Program (World D E) ε α where
  run world :=
    match operation.run world.working with
    | (.returned value, database) =>
        (tick >>= fun _ => pure value).run { world with working := database }
    | (.raised error, database) => (.raised error, { world with working := database })
    | (.stopped, database) => (.stopped, { world with working := database })

/-- `connection.commit()`. -/
def commit : Program (World D E) ε Unit := do
  update fun world => { world with committed := world.working }
  tick

/-- Dispatch a remote effect.  The answer may depend on everything dispatched
so far; it is logged with the effect, and an error answer is raised. -/
def ask (event : Except ε α → E) (answer : List (Entry D E) → Except ε α) :
    Program (World D E) ε α := do
  let reply ← read fun world => answer world.trace
  update fun world => world.log (event reply)
  tick
  ofExcept reply

/-- `SAVEPOINT`, rolled back to when the body raises. -/
def savepoint (body : Program (World D E) ε α) : Program (World D E) ε α := do
  let saved ← view id
  onRaise body fun _ => update fun world => { world with working := saved }

/-- A connection used as a context manager: it starts from the durable
database, commits on normal exit, and loses its writes on an exception. -/
def connect (body : Program (World D E) ε α) : Program (World D E) ε α := do
  update fun world => { world with working := world.committed }
  match ← attempt body with
  | .ok value => do
      commit
      pure value
  | .error error => do
      update fun world => { world with working := world.committed }
      raise error

/-- A database operation in a connection of its own. -/
def transaction (operation : Program D ε α) : Program (World D E) ε α :=
  connect (store operation)

section Steps

variable {writes : D → D → Prop} {sends : World D E → E → Prop}
  {commits : World D E → Prop}

theorem Moves.tick :
    Moves (WorldStep writes sends commits) (Program.tick : Program (World D E) ε Unit) := by
  intro world
  simp only [Program.tick]
  split
  · exact .refl
  · exact .refl
  · exact .single (.spend _ _)

theorem Moves.view (project : D → α) :
    Moves (WorldStep writes sends commits)
      (Program.view project : Program (World D E) ε α) :=
  .read _

theorem Moves.store {operation : Program D ε α} (moves : Moves writes operation) :
    Moves (WorldStep writes sends commits)
      (Program.store operation : Program (World D E) ε α) := by
  intro world
  -- Each write of the operation is a write step of the world.
  have written : Relation.ReflTransGen (WorldStep writes sends commits) world
      { world with working := (operation.run world.working).2 } :=
    Relation.ReflTransGen.lift (fun database => { world with working := database })
      (fun _ _ allowed => WorldStep.write allowed) _ _ (moves world.working)
  simp only [Program.store]
  rcases ran : operation.run world.working with ⟨outcome, database⟩
  rw [ran] at written
  cases outcome with
  | returned value => exact written.trans (Moves.bind .tick (fun _ => .pure value) _)
  | raised error => exact written
  | stopped => exact written

theorem Moves.commit (allowed : ∀ world, commits world) :
    Moves (WorldStep writes sends commits)
      (Program.commit : Program (World D E) ε Unit) :=
  .bind (.update fun world => .commit (allowed world)) fun _ => .tick

theorem Moves.ask {event : Except ε α → E}
    {answer : List (Entry D E) → Except ε α}
    (allowed : ∀ world reply, sends world (event reply)) :
    Moves (WorldStep writes sends commits) (Program.ask event answer) := by
  refine .bind (.read _) fun reply => ?_
  refine .bind (.update fun world => .send (allowed world reply)) fun _ => ?_
  exact .bind .tick fun _ => .ofExcept reply

/-- A savepoint whose own writes can be undone by a write. -/
theorem Moves.savepoint {own : D → D → Prop} {body : Program (World D E) ε α}
    (moves : Moves (WorldStep own sends commits) body)
    (admitted : ∀ before after, own before after → writes before after)
    (undo : ∀ before after, Relation.ReflTransGen own before after →
      writes after before) :
    Moves (WorldStep writes sends commits) (Program.savepoint body) := by
  intro world
  have before := moves world
  have widened : Moves (WorldStep writes sends commits) body :=
    moves.mono (WorldStep.widen admitted (fun _ _ allowed => allowed) fun _ allowed => allowed)
  have reached := widened world
  simp only [Program.savepoint, Program.view, Program.onRaise, run_bind, run_read, id,
    Program.attempt]
  rcases ran : body.run world with ⟨outcome, after⟩
  rw [ran] at before reached
  cases outcome with
  | returned value => exact reached
  | raised error => exact reached.tail (.write (undo _ _ (WorldStep.working before)))
  | stopped => exact reached

end Steps

/-! ### Inverting single operations -/

theorem tick_run (world : World D E) :
    ∃ budget, ((tick : Program (World D E) ε Unit).run world).2 =
      { world with budget := budget } := by
  simp only [tick]
  split
  · exact ⟨world.budget, rfl⟩
  · exact ⟨world.budget, rfl⟩
  · exact ⟨_, rfl⟩

theorem tick_cases (ε : Type) (world : World D E) :
    ∃ budget, ((tick : Program (World D E) ε Unit).run world) =
        (.returned (), { world with budget := budget }) ∨
      ((tick : Program (World D E) ε Unit).run world) = (.stopped, world) := by
  rcases world with ⟨committed, working, trace, budget⟩
  match budget with
  | none => exact ⟨none, .inl rfl⟩
  | some 0 => exact ⟨none, .inr rfl⟩
  | some (rest + 1) => exact ⟨some rest, .inl rfl⟩

/-- A stored operation leaves its database on the connection. -/
theorem store_run (operation : Program D ε α) (world : World D E) :
    ∃ budget, ((store operation).run world).2 =
      { world with working := (operation.run world.working).2, budget := budget } := by
  simp only [store]
  rcases operation.run world.working with ⟨outcome, database⟩
  cases outcome with
  | returned value =>
      simp only [bind_pure_snd]
      exact tick_run { world with working := database }
  | raised error => exact ⟨world.budget, rfl⟩
  | stopped => exact ⟨world.budget, rfl⟩

theorem commit_run (world : World D E) :
    ∃ budget, ((commit : Program (World D E) ε Unit).run world).2 =
      { world with committed := world.working, budget := budget } := by
  simp only [commit, run_bind, run_update]
  exact tick_run { world with committed := world.working }

/-- A stored operation makes nothing durable and dispatches nothing. -/
theorem store_frame {operation : Program D ε α} {world after : World D E} {outcome : Outcome ε α}
    (ran : (store operation).run world = (outcome, after)) :
    after.committed = world.committed ∧ after.trace = world.trace := by
  obtain ⟨budget, reached⟩ := store_run operation world
  rw [ran] at reached
  obtain rfl : after = _ := reached
  exact ⟨rfl, rfl⟩

/-- A stored operation that returns did return on the connection's view. -/
theorem store_returned {operation : Program D ε α} {world : World D E} {value : α}
    (returned : ((store operation).run world).1 = .returned value) :
    (operation.run world.working).1 = .returned value := by
  simp only [store] at returned
  rcases ran : operation.run world.working with ⟨outcome, database⟩
  rw [ran] at returned
  cases outcome with
  | returned result =>
      obtain ⟨_, _, _, ended⟩ := bind_returned returned
      change ((tick >>= fun _ => pure result).run _).1 = _ at returned
      rw [ended] at returned
      cases returned
      rfl
  | raised error => cases returned
  | stopped => cases returned

/-- A stored operation, under an invariant that does not look at the connection's view. -/
theorem Maintains.store {operation : Program D ε α} {invariant : World D E → Prop}
    {before : D → Prop} {after : α → D → Prop}
    (stable : ∀ world database budget, invariant world →
      invariant { world with working := database, budget := budget })
    (leads : ∀ database value written, operation.run database = (.returned value, written) →
      before database → after value written) :
    Maintains invariant (fun world => before world.working) (Program.store operation)
      fun value world => after value world.working := by
  intro world known pre
  obtain ⟨budget, reached⟩ := store_run operation world
  rw [reached]
  refine ⟨stable world _ budget known, fun value returned => ?_⟩
  exact leads world.working value _ (Prod.ext (store_returned returned) rfl) pre

/-- A stored operation that raises did raise on the connection's view. -/
theorem store_raised {operation : Program D ε α} {world after : World D E} {error : ε}
    (ran : (store operation).run world = (.raised error, after)) :
    ∃ database, operation.run world.working = (.raised error, database) ∧
      after = { world with working := database } := by
  simp only [store] at ran
  rcases operationRan : operation.run world.working with ⟨outcome, database⟩
  rw [operationRan] at ran
  cases outcome with
  | returned value =>
      obtain ⟨budget, isTick | isTick⟩ := tick_cases ε { world with working := database } <;>
        (simp only [run_bind, isTick, run_pure] at ran; cases ran)
  | raised other =>
      cases ran
      exact ⟨database, rfl, rfl⟩
  | stopped => cases ran

/-- A dispatched effect is logged with its answer, whatever happens next. -/
theorem ask_run (event : Except ε α → E) (answer : List (Entry D E) → Except ε α)
    (world : World D E) :
    ∃ budget, ((ask event answer).run world).2 =
      { world.log (event (answer world.trace)) with budget := budget } := by
  obtain ⟨budget, ticked⟩ := tick_run (world.log (event (answer world.trace)))
  refine ⟨budget, ?_⟩
  simp only [ask, run_bind, run_read, run_update]
  rcases ran : tick.run (world.log (event (answer world.trace))) with ⟨outcome, after⟩
  rw [ran] at ticked
  cases outcome with
  | returned value =>
      dsimp only
      rw [← ticked]
      cases answer world.trace <;> rfl
  | raised error => exact ticked
  | stopped => exact ticked

/-- An effect that returned was answered with the value. -/
theorem ask_returned {event : Except ε α → E} {answer : List (Entry D E) → Except ε α}
    {world : World D E} {value : α}
    (returned : ((ask event answer).run world).1 = .returned value) :
    answer world.trace = .ok value := by
  simp only [ask, run_bind, run_read, run_update] at returned
  rcases ran : (tick : Program (World D E) ε Unit).run
    (world.log (event (answer world.trace))) with ⟨outcome, after⟩
  rw [ran] at returned
  cases outcome with
  | returned _ =>
      cases replied : answer world.trace with
      | ok other =>
          rw [replied] at returned
          cases returned
          rfl
      | error error =>
          rw [replied] at returned
          cases returned
  | raised error => cases returned
  | stopped => cases returned

/-- An effect that raised was answered with the exception. -/
theorem ask_raised {event : Except ε α → E} {answer : List (Entry D E) → Except ε α}
    {world : World D E} {error : ε}
    (raised : ((ask event answer).run world).1 = .raised error) :
    answer world.trace = .error error := by
  simp only [ask, run_bind, run_read, run_update] at raised
  obtain ⟨budget, ticked | ticked⟩ := tick_cases ε (world.log (event (answer world.trace)))
  · rw [ticked] at raised
    cases replied : answer world.trace with
    | ok value =>
        rw [replied] at raised
        cases raised
    | error other =>
        rw [replied] at raised
        cases raised
        rfl
  · rw [ticked] at raised
    cases raised

/-! ### Connections inside connections -/

section

variable {writes : D → D → Prop} {sends : World D E → E → Prop}
  {commits : World D E → Prop} {β : Type}

/-- What follows a commit starts from a connection without open writes. -/
theorem commit_bind_reaches {program : Program (World D E) ε α} {world : World D E}
    (allowed : commits world)
    (reaches : ∀ after, after.working = world.working → after.committed = world.working →
      Relation.ReflTransGen (WorldStep writes sends commits) after (program.run after).2) :
    Relation.ReflTransGen (WorldStep writes sends commits) world
      ((Program.commit >>= fun _ => program).run world).2 := by
  have committed : Relation.ReflTransGen (WorldStep writes sends commits) world
      { world with committed := world.working } := .single (.commit allowed)
  simp only [Program.commit, run_bind, run_update]
  rcases world with ⟨durable, working, trace, budget⟩
  match budget with
  | none => exact committed.trans (reaches ⟨working, working, trace, none⟩ rfl rfl)
  | some 0 => exact committed
  | some (rest + 1) =>
      exact (committed.tail (.spend _ (some rest))).trans
        (reaches ⟨working, working, trace, some rest⟩ rfl rfl)

/-- What follows a commit may rely on a connection without open writes. -/
theorem Moves.commit_bind {program : Program (World D E) ε α}
    (allowed : ∀ world, commits world)
    (moves : ∀ world, world.working = world.committed →
      Relation.ReflTransGen (WorldStep writes sends commits) world (program.run world).2) :
    Moves (WorldStep writes sends commits) (Program.commit >>= fun _ => program) :=
  fun world => commit_bind_reaches (allowed world)
    fun after isWorking isCommitted => moves after (isWorking.trans isCommitted.symm)

/-- An effect that may be dispatched where the program stands. -/
theorem ask_reaches {event : Except ε α → E} {answer : List (Entry D E) → Except ε α}
    {world : World D E} (allowed : ∀ reply, sends world (event reply)) :
    Relation.ReflTransGen (WorldStep writes sends commits) world
      ((Program.ask event answer).run world).2 := by
  have sent : Relation.ReflTransGen (WorldStep writes sends commits) world
      (world.log (event (answer world.trace))) := .single (.send (allowed _))
  simp only [Program.ask, run_bind, run_read, run_update]
  refine sent.trans (Moves.bind .tick (fun _ => .ofExcept _) _)

/-- A second connection beside one without open writes, for an operation that raises only
before it writes. -/
theorem transaction_reaches {operation : Program D ε α}
    (moves : Moves writes operation) (allowed : ∀ world, commits world)
    (refuses : ∀ database error after,
      operation.run database = (.raised error, after) → after = database)
    {world : World D E} (closed : world.working = world.committed) :
    Relation.ReflTransGen (WorldStep writes sends commits) world
      ((Program.transaction operation).run world).2 := by
  rcases world with ⟨durable, working, trace, budget⟩
  obtain rfl : working = durable := closed
  have attempted : Moves (WorldStep writes sends commits)
      (Program.attempt (Program.store operation)) := .attempt (.store moves)
  have stored := attempted ⟨working, working, trace, budget⟩
  simp only [Program.transaction, Program.connect, run_bind, run_update]
  rcases ran : (Program.attempt (Program.store operation)).run
    (⟨working, working, trace, budget⟩ : World D E) with ⟨outcome, after⟩
  rw [ran] at stored
  cases outcome with
  | stopped => exact stored
  | raised error => exact stored
  | returned result =>
      cases result with
      | ok value =>
          exact stored.trans (Moves.bind (.commit allowed) (fun _ => .pure value) after)
      | error error =>
          have unchanged : { after with working := after.committed } = after := by
            have raised := attempt_eq_raised ran
            obtain ⟨database, operationRan, rfl⟩ := store_raised raised
            obtain rfl := refuses working error database operationRan
            rfl
          dsimp only
          rw [run_bind, run_update]
          dsimp only
          rw [unchanged]
          exact stored

end

/-! ### Durable assertions -/

/-- A transaction commits what its operation returned on the durable database,
or changes nothing durable. -/
theorem transaction_cases (operation : Program D ε α) (world : World D E) :
    (∃ value budget, (operation.run world.committed).1 = .returned value ∧
        ((transaction operation).run world).2 =
          { world with
            committed := (operation.run world.committed).2
            working := (operation.run world.committed).2
            budget := budget } ∧
        (((transaction operation).run world).1 = .returned value ∨
          ((transaction operation).run world).1 = .stopped)) ∨
      (∃ working budget, ((transaction operation).run world).2 =
          { world with working := working, budget := budget } ∧
        ((∃ error, (operation.run world.committed).1 = .raised error ∧
            ((transaction operation).run world).1 = .raised error) ∨
          ((transaction operation).run world).1 = .stopped)) := by
  simp only [transaction, connect, run_bind, run_update, attempt, store]
  rcases ran : operation.run world.committed with ⟨outcome, database⟩
  cases outcome with
  | raised error =>
      right
      exact ⟨_, _, rfl, .inl ⟨error, rfl, rfl⟩⟩
  | stopped =>
      right
      exact ⟨_, _, rfl, .inr rfl⟩
  | returned value =>
      dsimp only
      obtain ⟨budget, ticked | ticked⟩ := tick_cases ε { world with working := database }
      · simp only [run_bind, ticked, run_pure, commit, run_update]
        left
        obtain ⟨last, ended | ended⟩ := tick_cases ε
          { world with committed := database, working := database, budget := budget }
        · rw [ended]
          exact ⟨value, last, rfl, rfl, .inl rfl⟩
        · rw [ended]
          exact ⟨value, budget, rfl, rfl, .inr rfl⟩
      · simp only [ticked]
        right
        exact ⟨_, _, rfl, .inr trivial⟩

theorem Ensures.transaction {invariant before : D → List (Entry D E) → Prop}
    {operation : Program D ε α} {after : α → D → List (Entry D E) → Prop}
    {failed : ε → D → List (Entry D E) → Prop}
    (holds : ∀ database trace value, invariant database trace → before database trace →
      (operation.run database).1 = .returned value →
      invariant (operation.run database).2 trace ∧
        after value (operation.run database).2 trace)
    (fails : ∀ database trace error, invariant database trace → before database trace →
      (operation.run database).1 = .raised error → failed error database trace) :
    Ensures (Durable invariant) (Durable before) (Program.transaction operation)
      (fun value => Durable (after value)) fun error => Durable (failed error) := by
  intro world inv pre
  rcases transaction_cases operation world with
    ⟨value, budget, returned, reached, ended⟩ | ⟨working, budget, reached, ended⟩
  · obtain ⟨kept, established⟩ := holds world.committed world.trace value inv pre returned
    rw [reached]
    refine ⟨kept, fun other isReturned => ?_, fun error isRaised => ?_⟩
    · rcases ended with ended | ended
      · rw [ended] at isReturned
        cases isReturned
        exact established
      · rw [ended] at isReturned
        cases isReturned
    · rcases ended with ended | ended <;> (rw [ended] at isRaised; cases isRaised)
  · rw [reached]
    refine ⟨inv, fun other isReturned => ?_, fun error isRaised => ?_⟩
    · rcases ended with ⟨_, _, ended⟩ | ended <;> (rw [ended] at isReturned; cases isReturned)
    · rcases ended with ⟨other, raised, ended⟩ | ended
      · rw [ended] at isRaised
        cases isRaised
        exact fails world.committed world.trace error inv pre raised
      · rw [ended] at isRaised
        cases isRaised

theorem Ensures.ask {invariant before : D → List (Entry D E) → Prop}
    {event : Except ε α → E} {answer : List (Entry D E) → Except ε α}
    {after : α → D → List (Entry D E) → Prop} {failed : ε → D → List (Entry D E) → Prop}
    (holds : ∀ database working trace, invariant database trace → before database trace →
      invariant database (⟨event (answer trace), working, database⟩ :: trace) ∧
        (∀ value, answer trace = .ok value →
          after value database (⟨event (answer trace), working, database⟩ :: trace)) ∧
        ∀ error, answer trace = .error error →
          failed error database (⟨event (answer trace), working, database⟩ :: trace)) :
    Ensures (Durable invariant) (Durable before) (Program.ask event answer)
      (fun value => Durable (after value)) fun error => Durable (failed error) := by
  intro world inv pre
  obtain ⟨kept, established, missed⟩ := holds world.committed world.working world.trace inv pre
  obtain ⟨budget, reached⟩ := ask_run event answer world
  rw [reached]
  exact ⟨kept, fun value returned => established value (ask_returned returned),
    fun error raised => missed error (ask_raised raised)⟩

/-! ### Processes that are not interrupted -/

/-- A process without a budget. -/
def Unbounded (world : World D E) : Prop :=
  world.budget = none

theorem Unstopped.tick : Unstopped (Unbounded (D := D) (E := E)) (Program.tick (ε := ε)) := by
  intro world unbounded
  simp only [Unbounded] at unbounded
  simp [Program.tick, unbounded, Unbounded]

theorem Unstopped.store {operation : Program D ε α}
    (ends : Unstopped (fun _ => True) operation) :
    Unstopped (Unbounded (D := D) (E := E)) (Program.store operation) := by
  intro world unbounded
  have operationEnds := (ends world.working trivial).1
  simp only [Program.store]
  rcases ran : operation.run world.working with ⟨outcome, database⟩
  rw [ran] at operationEnds
  cases outcome with
  | returned value =>
      exact Unstopped.bind .tick (fun _ => .pure value) { world with working := database }
        unbounded
  | raised error => exact ⟨by simp, unbounded⟩
  | stopped => exact absurd rfl operationEnds

theorem Unstopped.commit : Unstopped (Unbounded (D := D) (E := E)) (Program.commit (ε := ε)) :=
  .bind (.update fun _ unbounded => unbounded) fun _ => .tick

theorem Unstopped.connect {body : Program (World D E) ε α} (ends : Unstopped Unbounded body) :
    Unstopped Unbounded (Program.connect body) := by
  refine .bind (.update fun _ unbounded => unbounded) fun _ => .bind ends.attempt fun result => ?_
  cases result with
  | ok value => exact .bind .commit fun _ => .pure value
  | error error => exact .bind (.update fun _ unbounded => unbounded) fun _ => .raise error

theorem Unstopped.transaction {operation : Program D ε α}
    (ends : Unstopped (fun _ => True) operation) :
    Unstopped (Unbounded (D := D) (E := E)) (Program.transaction operation) :=
  .connect (.store ends)

theorem Unstopped.ask {event : Except ε α → E} {answer : List (Entry D E) → Except ε α} :
    Unstopped Unbounded (Program.ask event answer) := by
  refine .bind (.read _) fun reply => .bind (.update fun _ unbounded => unbounded) fun _ => ?_
  exact .bind .tick fun _ => .ofExcept reply

/-- Without a budget a stored operation ends as it does on the connection's view. -/
theorem store_run_of_unbounded (operation : Program D ε α) {world : World D E}
    (unbounded : Unbounded world) :
    (store operation).run world =
      ((operation.run world.working).1,
        { world with working := (operation.run world.working).2 }) := by
  simp only [Unbounded] at unbounded
  simp only [store]
  rcases operation.run world.working with ⟨outcome, database⟩
  cases outcome <;> simp [run_bind, tick, unbounded]

/-- Without a budget an effect ends with its answer. -/
theorem ask_run_of_unbounded {event : Except ε α → E} {answer : List (Entry D E) → Except ε α}
    {world : World D E} {value : α} (unbounded : Unbounded world)
    (answered : answer world.trace = .ok value) :
    (ask event answer).run world = (.returned value, world.log (event (.ok value))) := by
  simp only [Unbounded] at unbounded
  simp [ask, run_bind, tick, answered, ofExcept, World.log, unbounded]

end Program

end ElKeeper
