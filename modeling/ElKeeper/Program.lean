import Mathlib.Logic.Relation

/-!
# Programs that may raise or stop

Controller code reads and writes a state, raises exceptions that a caller may
handle, and runs in a process that can stop at any of its effects.  A program
is therefore a function from a state to an outcome and a new state, where the
new state is kept in all three outcomes.

Two judgments are used to reason about programs.  `Moves` says which elementary
steps a program is composed of and ignores its control flow.  `Maintains` says
that an invariant holds however the program ends, and carries a further
assertion along the paths on which it returns.
-/

namespace ElKeeper

/-- How a program ends: with a value, with an exception, or because the
process stopped.  Only an exception can be handled. -/
inductive Outcome (ε α : Type) where
  | returned (value : α)
  | raised (error : ε)
  | stopped
deriving DecidableEq, Repr

/-- A program over the states `σ` with the exceptions `ε`. -/
structure Program (σ ε α : Type) where
  run : σ → Outcome ε α × σ

namespace Program

variable {σ ε α β : Type}

/-- Continue with the returned value; an exception or a stop ends the whole. -/
def andThen (first : Program σ ε α) (next : α → Program σ ε β) : Program σ ε β where
  run state :=
    match first.run state with
    | (.returned value, after) => (next value).run after
    | (.raised error, after) => (.raised error, after)
    | (.stopped, after) => (.stopped, after)

instance : Monad (Program σ ε) where
  pure value := ⟨fun state => (.returned value, state)⟩
  bind := andThen

def read (view : σ → α) : Program σ ε α where
  run state := (.returned (view state), state)

def update (change : σ → σ) : Program σ ε Unit where
  run state := (.returned (), change state)

def raise (error : ε) : Program σ ε α where
  run state := (.raised error, state)

/-- `try`: an exception becomes a value, a stop does not. -/
def attempt (program : Program σ ε α) : Program σ ε (Except ε α) where
  run state :=
    match program.run state with
    | (.returned value, after) => (.returned (.ok value), after)
    | (.raised error, after) => (.returned (.error error), after)
    | (.stopped, after) => (.stopped, after)

def ofExcept : Except ε α → Program σ ε α
  | .ok value => pure value
  | .error error => raise error

/-- Raise unless the condition holds. -/
def require (condition : Bool) (error : ε) : Program σ ε Unit :=
  if condition then pure () else raise error

/-- `except Exception as error: handler(error); raise`. -/
def onRaise (program : Program σ ε α) (handler : ε → Program σ ε Unit) :
    Program σ ε α := do
  match ← attempt program with
  | .ok value => pure value
  | .error error => do
      handler error
      raise error

/-- `except Exception: pass`. -/
def ignoring (program : Program σ ε α) : Program σ ε Unit := do
  let _ ← attempt program
  pure ()

/-- `finally`: the cleanup follows both a value and an exception. -/
def finallyDo (program : Program σ ε α) (cleanup : Program σ ε Unit) :
    Program σ ε α := do
  match ← attempt program with
  | .ok value => do
      cleanup
      pure value
  | .error error => do
      cleanup
      raise error

/-- A savepoint around the whole program: an exception undoes its writes. -/
def atomically (program : Program σ ε α) : Program σ ε α where
  run state :=
    match program.run state with
    | (.returned value, after) => (.returned value, after)
    | (.raised error, _) => (.raised error, state)
    | (.stopped, after) => (.stopped, after)

/-- Run the body for each item in order. -/
def forEach : List α → (α → Program σ ε Unit) → Program σ ε Unit
  | [], _ => pure ()
  | item :: items, body => do
      body item
      forEach items body

@[simp]
theorem run_pure (value : α) (state : σ) :
    (pure value : Program σ ε α).run state = (.returned value, state) :=
  rfl

theorem run_bind (first : Program σ ε α) (next : α → Program σ ε β) (state : σ) :
    (first >>= next).run state =
      match first.run state with
      | (.returned value, after) => (next value).run after
      | (.raised error, after) => (.raised error, after)
      | (.stopped, after) => (.stopped, after) :=
  rfl

@[simp]
theorem run_read (view : σ → α) (state : σ) :
    (read view : Program σ ε α).run state = (.returned (view state), state) :=
  rfl

@[simp]
theorem run_update (change : σ → σ) (state : σ) :
    (update change : Program σ ε Unit).run state = (.returned (), change state) :=
  rfl

@[simp]
theorem run_raise (error : ε) (state : σ) :
    (raise error : Program σ ε α).run state = (.raised error, state) :=
  rfl

theorem run_require (condition : Bool) (error : ε) (state : σ) :
    (require condition error : Program σ ε Unit).run state =
      if condition then (.returned (), state) else (.raised error, state) := by
  cases condition <;> rfl

/-- A sequence that returns did return from its first part. -/
theorem bind_returned {first : Program σ ε α} {next : α → Program σ ε β} {state : σ}
    {value : β} (returned : ((first >>= next).run state).1 = .returned value) :
    ∃ middle after, first.run state = (.returned middle, after) ∧
      (first >>= next).run state = (next middle).run after := by
  rw [run_bind] at returned ⊢
  rcases ran : first.run state with ⟨outcome, after⟩
  rw [ran] at returned
  cases outcome with
  | returned middle => exact ⟨middle, after, rfl, rfl⟩
  | raised error => cases returned
  | stopped => cases returned

theorem bind_pure_snd (program : Program σ ε α) (value : β) (state : σ) :
    ((program >>= fun _ => pure value).run state).2 = (program.run state).2 := by
  rw [run_bind]
  rcases program.run state with ⟨outcome, after⟩
  cases outcome <;> rfl

/-- As `bind_returned`, for the whole result. -/
theorem bind_eq_returned {first : Program σ ε α} {next : α → Program σ ε β} {state after : σ}
    {value : β} (ran : (first >>= next).run state = (.returned value, after)) :
    ∃ middle between, first.run state = (.returned middle, between) ∧
      (next middle).run between = (.returned value, after) := by
  have returned : ((first >>= next).run state).1 = .returned value := by rw [ran]
  obtain ⟨middle, between, firstRan, same⟩ := bind_returned returned
  exact ⟨middle, between, firstRan, same.symm.trans ran⟩

/-- Two sequences agree from a state when what follows agrees where their first part ends. -/
theorem bind_congr_from {first : Program σ ε α} {next other : α → Program σ ε β} {state : σ}
    (same : ∀ value after, first.run state = (.returned value, after) →
      (next value).run after = (other value).run after) :
    (first >>= next).run state = (first >>= other).run state := by
  rw [run_bind, run_bind]
  rcases ran : first.run state with ⟨outcome, after⟩
  cases outcome with
  | returned value => exact same value after ran
  | raised error => rfl
  | stopped => rfl

/-- A sequence that raises did so in its first or in its second part. -/
theorem bind_eq_raised {first : Program σ ε α} {next : α → Program σ ε β} {state after : σ}
    {error : ε} (ran : (first >>= next).run state = (.raised error, after)) :
    first.run state = (.raised error, after) ∨
      ∃ middle between, first.run state = (.returned middle, between) ∧
        (next middle).run between = (.raised error, after) := by
  rw [run_bind] at ran
  rcases firstRan : first.run state with ⟨outcome, between⟩
  rw [firstRan] at ran
  cases outcome with
  | returned middle => exact .inr ⟨middle, between, rfl, ran⟩
  | raised other =>
      cases ran
      exact .inl rfl
  | stopped => cases ran

/-- What follows an exception is not run. -/
theorem bind_of_raised {first : Program σ ε α} (next : α → Program σ ε β) {state : σ} {error : ε}
    (raised : (first.run state).1 = .raised error) :
    ((first >>= next).run state).1 = .raised error := by
  rw [run_bind]
  rcases ran : first.run state with ⟨outcome, after⟩
  rw [ran] at raised
  cases raised
  rfl

/-- An exception undoes what an atomic program wrote. -/
theorem atomically_eq_raised {program : Program σ ε α} {state after : σ} {error : ε}
    (ran : (atomically program).run state = (.raised error, after)) : after = state := by
  simp only [atomically] at ran
  rcases programRan : program.run state with ⟨outcome, reached⟩
  rw [programRan] at ran
  cases outcome with
  | returned value => cases ran
  | raised other =>
      cases ran
      rfl
  | stopped => cases ran

theorem atomically_eq_returned {program : Program σ ε α} {state after : σ} {value : α}
    (ran : (atomically program).run state = (.returned value, after)) :
    program.run state = (.returned value, after) := by
  simp only [atomically] at ran
  rcases programRan : program.run state with ⟨outcome, reached⟩
  rw [programRan] at ran
  cases outcome with
  | returned other =>
      cases ran
      rfl
  | raised error => cases ran
  | stopped => cases ran

/-- A result that was passed on was a value. -/
theorem ofExcept_eq_returned {result : Except ε α} {state after : σ} {value : α}
    (ran : (ofExcept result : Program σ ε α).run state = (.returned value, after)) :
    result = .ok value ∧ after = state := by
  cases result with
  | ok other =>
      cases ran
      exact ⟨rfl, rfl⟩
  | error error => cases ran

/-- A handled program that ended with a value returned it. -/
theorem attempt_eq_returned {program : Program σ ε α} {state after : σ} {value : α}
    (ran : (attempt program).run state = (.returned (.ok value), after)) :
    program.run state = (.returned value, after) := by
  simp only [attempt] at ran
  rcases programRan : program.run state with ⟨outcome, reached⟩
  rw [programRan] at ran
  cases outcome with
  | returned other =>
      cases ran
      rfl
  | raised error => cases ran
  | stopped => cases ran

/-- A handled program that ended with an exception raised it. -/
theorem attempt_eq_raised {program : Program σ ε α} {state after : σ} {error : ε}
    (ran : (attempt program).run state = (.returned (.error error), after)) :
    program.run state = (.raised error, after) := by
  simp only [attempt] at ran
  rcases programRan : program.run state with ⟨outcome, reached⟩
  rw [programRan] at ran
  cases outcome with
  | returned other => cases ran
  | raised other =>
      cases ran
      rfl
  | stopped => cases ran

/-- A passed requirement changes nothing. -/
theorem require_eq_returned {condition : Bool} {error : ε} {state after : σ} {value : Unit}
    (ran : (require condition error : Program σ ε Unit).run state = (.returned value, after)) :
    condition = true ∧ after = state := by
  rw [run_require] at ran
  cases condition with
  | true =>
      cases ran
      exact ⟨rfl, rfl⟩
  | false => cases ran

/-! ### Programs that only read -/

/-- The program leaves the state as it is, however it ends. -/
def ReadOnly (program : Program σ ε α) : Prop :=
  ∀ state, (program.run state).2 = state

theorem ReadOnly.pure (value : α) : ReadOnly (Pure.pure value : Program σ ε α) :=
  fun _ => rfl

theorem ReadOnly.raise (error : ε) : ReadOnly (Program.raise error : Program σ ε α) :=
  fun _ => rfl

theorem ReadOnly.read (view : σ → α) : ReadOnly (Program.read view : Program σ ε α) :=
  fun _ => rfl

theorem ReadOnly.require (condition : Bool) (error : ε) :
    ReadOnly (Program.require condition error : Program σ ε Unit) := by
  cases condition with
  | true => exact .pure ()
  | false => exact .raise error

theorem ReadOnly.ofExcept (result : Except ε α) :
    ReadOnly (Program.ofExcept result : Program σ ε α) := by
  cases result with
  | ok value => exact .pure value
  | error error => exact .raise error

/-- What follows a program that only reads starts where that did. -/
theorem ReadOnly.bind_cases {first : Program σ ε α} (readOnly : ReadOnly first)
    (next : α → Program σ ε β) (state : σ) :
    ((first >>= next).run state).2 = state ∨
      ∃ value, first.run state = (.returned value, state) ∧
        (first >>= next).run state = (next value).run state := by
  have same := readOnly state
  rw [run_bind]
  rcases ran : first.run state with ⟨outcome, after⟩
  rw [ran] at same
  cases outcome with
  | returned value =>
      cases same
      exact .inr ⟨value, rfl, rfl⟩
  | raised error => exact .inl same
  | stopped => exact .inl same

theorem ReadOnly.bind {first : Program σ ε α} {next : α → Program σ ε β}
    (firstReads : ReadOnly first) (nextReads : ∀ value, ReadOnly (next value)) :
    ReadOnly (first >>= next) := by
  intro state
  rcases firstReads.bind_cases next state with same | ⟨value, _, ran⟩
  · exact same
  · rw [ran]
    exact nextReads value state

/-- An exception after a program that only reads comes from the state before it. -/
theorem ReadOnly.bind_raised {first : Program σ ε α} (readOnly : ReadOnly first)
    {next : α → Program σ ε β} {state after : σ} {error : ε}
    (ran : (first >>= next).run state = (.raised error, after)) :
    after = state ∨ ∃ value, first.run state = (.returned value, state) ∧
      (next value).run state = (.raised error, after) := by
  rcases readOnly.bind_cases next state with same | ⟨value, firstRan, nextRan⟩
  · rw [ran] at same
    exact .inl same
  · exact .inr ⟨value, firstRan, nextRan ▸ ran⟩

/-- Where a program that only reads returned, the state is the one before. -/
theorem ReadOnly.returned {program : Program σ ε α} (readOnly : ReadOnly program)
    {state after : σ} {outcome : Outcome ε α} (ran : program.run state = (outcome, after)) :
    after = state := by
  have same := readOnly state
  rwa [ran] at same

/-! ### Elementary steps -/

/-- Every run of the program is a sequence of elementary steps. -/
def Moves (step : σ → σ → Prop) (program : Program σ ε α) : Prop :=
  ∀ state, Relation.ReflTransGen step state (program.run state).2

section Moves

variable {step wider : σ → σ → Prop}

theorem Moves.pure (value : α) :
    Moves step (Pure.pure value : Program σ ε α) :=
  fun _ => .refl

theorem Moves.read (view : σ → α) :
    Moves step (Program.read view : Program σ ε α) :=
  fun _ => .refl

theorem Moves.raise (error : ε) :
    Moves step (Program.raise error : Program σ ε α) :=
  fun _ => .refl

theorem Moves.update {change : σ → σ} (single : ∀ state, step state (change state)) :
    Moves step (Program.update change : Program σ ε Unit) :=
  fun state => .single (single state)

/-- A sequence from one state, whose first part is only known there. -/
theorem Moves.bind_from {first : Program σ ε α} {next : α → Program σ ε β} {state : σ}
    (before : Relation.ReflTransGen step state (first.run state).2)
    (nextMoves : ∀ value, Moves step (next value)) :
    Relation.ReflTransGen step state ((first >>= next).run state).2 := by
  rw [run_bind]
  rcases ran : first.run state with ⟨outcome, after⟩
  rw [ran] at before
  cases outcome with
  | returned value => exact before.trans (nextMoves value after)
  | raised error => exact before
  | stopped => exact before

theorem Moves.bind {first : Program σ ε α} {next : α → Program σ ε β}
    (firstMoves : Moves step first) (nextMoves : ∀ value, Moves step (next value)) :
    Moves step (first >>= next) :=
  fun state => Moves.bind_from (firstMoves state) nextMoves

/-- A sequence whose second part relies on what the first part found. -/
theorem Moves.bind_finding {first : Program σ ε α} {next : α → Program σ ε β} {fact : α → Prop}
    (firstMoves : Moves step first)
    (finds : ∀ state value after, first.run state = (.returned value, after) → fact value)
    (nextMoves : ∀ value, fact value → Moves step (next value)) :
    Moves step (first >>= next) := by
  intro state
  have before := firstMoves state
  rw [run_bind]
  rcases ran : first.run state with ⟨outcome, after⟩
  rw [ran] at before
  cases outcome with
  | returned value => exact before.trans (nextMoves value (finds state value after ran) after)
  | raised error => exact before
  | stopped => exact before

theorem Moves.attempt {program : Program σ ε α} (moves : Moves step program) :
    Moves step (Program.attempt program) := by
  intro state
  have before := moves state
  simp only [Program.attempt]
  rcases ran : program.run state with ⟨outcome, after⟩
  rw [ran] at before
  cases outcome <;> exact before

theorem Moves.ofExcept (result : Except ε α) :
    Moves step (Program.ofExcept result : Program σ ε α) := by
  cases result with
  | ok value => exact .pure value
  | error error => exact .raise error

theorem Moves.require (condition : Bool) (error : ε) :
    Moves step (Program.require condition error : Program σ ε Unit) := by
  cases condition with
  | true => exact .pure ()
  | false => exact .raise error

theorem Moves.onRaise {program : Program σ ε α} {handler : ε → Program σ ε Unit}
    (moves : Moves step program) (handlerMoves : ∀ error, Moves step (handler error)) :
    Moves step (Program.onRaise program handler) := by
  refine .bind moves.attempt fun result => ?_
  cases result with
  | ok value => exact .pure value
  | error error => exact .bind (handlerMoves error) fun _ => .raise error

theorem Moves.ignoring {program : Program σ ε α} (moves : Moves step program) :
    Moves step (Program.ignoring program) :=
  .bind moves.attempt fun _ => .pure ()

theorem Moves.finallyDo {program : Program σ ε α} {cleanup : Program σ ε Unit}
    (moves : Moves step program) (cleanupMoves : Moves step cleanup) :
    Moves step (Program.finallyDo program cleanup) := by
  refine .bind moves.attempt fun result => ?_
  cases result with
  | ok value => exact .bind cleanupMoves fun _ => .pure value
  | error error => exact .bind cleanupMoves fun _ => .raise error

theorem Moves.atomically {program : Program σ ε α} (moves : Moves step program) :
    Moves step (Program.atomically program) := by
  intro state
  have before := moves state
  simp only [Program.atomically]
  rcases ran : program.run state with ⟨outcome, after⟩
  rw [ran] at before
  cases outcome with
  | returned value => exact before
  | raised error => exact .refl
  | stopped => exact before

theorem Moves.forEach {items : List α} {body : α → Program σ ε Unit}
    (moves : ∀ item ∈ items, Moves step (body item)) :
    Moves step (Program.forEach items body) := by
  induction items with
  | nil => exact .pure ()
  | cons item items ih =>
      refine .bind (moves item (by simp)) fun _ => ?_
      exact ih fun other member => moves other (by simp [member])

/-- A program composed of narrower steps is composed of wider ones. -/
theorem Moves.mono {program : Program σ ε α}
    (widen : ∀ before after, step before after → wider before after)
    (moves : Moves step program) : Moves wider program :=
  fun state => Relation.ReflTransGen.mono widen _ _ (moves state)

/-- What one step keeps, a composed program keeps. -/
theorem Moves.keeps {program : Program σ ε α} {kept : σ → Prop}
    (moves : Moves step program)
    (stable : ∀ before after, step before after → kept before → kept after)
    {state : σ} (holds : kept state) : kept (program.run state).2 := by
  have reached := moves state
  generalize (program.run state).2 = after at reached
  induction reached with
  | refl => exact holds
  | tail _ single ih => exact stable _ _ single ih

end Moves

/-! ### Invariants with assertions along returning paths -/

/-- Started in the invariant, the program ends in it in every outcome; started
moreover where `before` holds, it returns only where `after` holds. -/
def Maintains (invariant before : σ → Prop) (program : Program σ ε α)
    (after : α → σ → Prop) : Prop :=
  ∀ state, invariant state → before state →
    invariant (program.run state).2 ∧
      ∀ value, (program.run state).1 = .returned value → after value (program.run state).2

section Maintains

variable {invariant before : σ → Prop} {step : σ → σ → Prop}

theorem Maintains.pure {value : α} {after : α → σ → Prop}
    (holds : ∀ state, invariant state → before state → after value state) :
    Maintains invariant before (Pure.pure value : Program σ ε α) after := by
  intro state inv pre
  refine ⟨inv, fun other returned => ?_⟩
  cases returned
  exact holds state inv pre

theorem Maintains.raise (error : ε) (after : α → σ → Prop) :
    Maintains invariant before (Program.raise error : Program σ ε α) after := by
  intro state inv _
  exact ⟨inv, fun value returned => by cases returned⟩

theorem Maintains.read {view : σ → α} :
    Maintains invariant before (Program.read view : Program σ ε α)
      fun value state => value = view state ∧ before state := by
  intro state inv pre
  refine ⟨inv, fun value returned => ?_⟩
  cases returned
  exact ⟨rfl, pre⟩

theorem Maintains.update {change : σ → σ} {after : Unit → σ → Prop}
    (holds : ∀ state, invariant state → before state →
      invariant (change state) ∧ after () (change state)) :
    Maintains invariant before (Program.update change : Program σ ε Unit) after := by
  intro state inv pre
  have changed := holds state inv pre
  exact ⟨changed.1, fun _ _ => changed.2⟩

theorem Maintains.bind {first : Program σ ε α} {next : α → Program σ ε β}
    {between : α → σ → Prop} {after : β → σ → Prop}
    (firstHolds : Maintains invariant before first between)
    (nextHolds : ∀ value, Maintains invariant (between value) (next value) after) :
    Maintains invariant before (first >>= next) after := by
  intro state inv pre
  obtain ⟨kept, reached⟩ := firstHolds state inv pre
  rw [run_bind]
  rcases ran : first.run state with ⟨outcome, middle⟩
  rw [ran] at kept reached
  cases outcome with
  | returned value => exact nextHolds value middle kept (reached value rfl)
  | raised error => exact ⟨kept, fun _ returned => by cases returned⟩
  | stopped => exact ⟨kept, fun _ returned => by cases returned⟩

/-- What follows a program that never returns is not reached. -/
theorem Maintains.bind_never {first : Program σ ε α} {next : α → Program σ ε β}
    {after : β → σ → Prop} (never : Maintains invariant before first fun _ _ => False) :
    Maintains invariant before (first >>= next) after :=
  .bind never fun _ _ _ reached => reached.elim

theorem Maintains.weaken {program : Program σ ε α} {stronger : σ → Prop}
    {after weaker : α → σ → Prop}
    (maintains : Maintains invariant before program after)
    (strengthen : ∀ state, invariant state → stronger state → before state)
    (relax : ∀ value state, invariant state → after value state → weaker value state) :
    Maintains invariant stronger program weaker := by
  intro state inv pre
  obtain ⟨kept, reached⟩ := maintains state inv (strengthen state inv pre)
  exact ⟨kept, fun value returned => relax value _ kept (reached value returned)⟩

theorem Maintains.attempt {program : Program σ ε α} {after : α → σ → Prop}
    (maintains : Maintains invariant before program after) :
    Maintains invariant before (Program.attempt program)
      fun result state => ∀ value, result = .ok value → after value state := by
  intro state inv pre
  obtain ⟨kept, reached⟩ := maintains state inv pre
  simp only [Program.attempt]
  rcases ran : program.run state with ⟨outcome, middle⟩
  rw [ran] at kept reached
  cases outcome with
  | returned value =>
      refine ⟨kept, fun result returned other isOther => ?_⟩
      cases returned
      cases isOther
      exact reached value rfl
  | raised error =>
      refine ⟨kept, fun result returned other isOther => ?_⟩
      cases returned
      cases isOther
  | stopped => exact ⟨kept, fun _ returned => by cases returned⟩

theorem Maintains.ofExcept {result : Except ε α} :
    Maintains invariant before (Program.ofExcept result : Program σ ε α)
      fun value state => result = .ok value ∧ before state := by
  intro state inv pre
  cases result with
  | ok value =>
      refine ⟨inv, fun other returned => ?_⟩
      cases returned
      exact ⟨rfl, pre⟩
  | error error => exact ⟨inv, fun _ returned => by cases returned⟩

/-- A fact that does not depend on the state. -/
theorem Maintains.given {program : Program σ ε α} {after : α → σ → Prop} {fact : Prop}
    (holds : fact → Maintains invariant before program after) :
    Maintains invariant (fun state => fact ∧ before state) program after :=
  fun state inv pre => holds pre.1 state inv pre.2

/-- Two judgments on one program. -/
theorem Maintains.both {program : Program σ ε α} {other alone : σ → Prop}
    {after afterOther : α → σ → Prop} (first : Maintains invariant before program after)
    (second : Maintains other alone program afterOther) :
    Maintains (fun state => invariant state ∧ other state)
      (fun state => before state ∧ alone state) program
      fun value state => after value state ∧ afterOther value state := by
  intro state inv pre
  obtain ⟨kept, reached⟩ := first state inv.1 pre.1
  obtain ⟨keptOther, reachedOther⟩ := second state inv.2 pre.2
  exact ⟨⟨kept, keptOther⟩, fun value returned =>
    ⟨reached value returned, reachedOther value returned⟩⟩

/-- A program of steps that keep the invariant and the assertion together. -/
theorem Maintains.ofMovesTogether {program : Program σ ε α} (moves : Moves step program)
    (keeps : ∀ first second, step first second →
      invariant first ∧ before first → invariant second ∧ before second) :
    Maintains invariant before program fun _ => before := by
  intro state inv pre
  have kept := moves.keeps keeps ⟨inv, pre⟩
  exact ⟨kept.1, fun _ _ => kept.2⟩

/-- A program of steps that keep the invariant and the assertion. -/
theorem Maintains.ofMoves {program : Program σ ε α} (moves : Moves step program)
    (keepsInvariant : ∀ first second, step first second →
      invariant first → invariant second)
    (keepsBefore : ∀ first second, step first second → before first → before second) :
    Maintains invariant before program fun _ => before := by
  intro state inv pre
  exact ⟨moves.keeps keepsInvariant inv, fun _ _ => moves.keeps keepsBefore pre⟩

/-- The handler of an exception needs the invariant alone. -/
theorem Maintains.onRaise {program : Program σ ε α} {handler : ε → Program σ ε Unit}
    {after : α → σ → Prop} (holds : Maintains invariant before program after)
    (handles : ∀ error, Maintains invariant (fun _ => True) (handler error) fun _ _ => True) :
    Maintains invariant before (Program.onRaise program handler) after := by
  refine .bind holds.attempt fun result => ?_
  cases result with
  | ok value => exact .pure fun _ _ known => known value rfl
  | error error =>
      exact .bind ((handles error).weaken (fun _ _ _ => trivial) fun _ _ _ _ => trivial)
        fun _ => .raise _ _

/-- A loop whose body re-establishes the assertion of its position. -/
theorem Maintains.forEach {body : α → Program σ ε Unit} {items : List α}
    {position : List α → σ → Prop}
    (bodyHolds : ∀ item rest, Maintains invariant (position (item :: rest)) (body item)
      fun _ => position rest) :
    Maintains invariant (position items) (Program.forEach items body)
      fun _ => position [] := by
  induction items with
  | nil => exact .pure fun _ _ pre => pre
  | cons item items ih => exact .bind (bodyHolds item items) fun _ => ih

end Maintains

/-! ### Assertions on both ends -/

/-- As `Maintains`, with an assertion for the states in which the program raises. -/
def Ensures (invariant before : σ → Prop) (program : Program σ ε α)
    (after : α → σ → Prop) (failed : ε → σ → Prop) : Prop :=
  ∀ state, invariant state → before state →
    invariant (program.run state).2 ∧
      (∀ value, (program.run state).1 = .returned value → after value (program.run state).2) ∧
      ∀ error, (program.run state).1 = .raised error → failed error (program.run state).2

section Ensures

variable {invariant before : σ → Prop} {failed : ε → σ → Prop}

theorem Ensures.pure {value : α} {after : α → σ → Prop}
    (holds : ∀ state, invariant state → before state → after value state) :
    Ensures invariant before (Pure.pure value : Program σ ε α) after failed := by
  intro state inv pre
  refine ⟨inv, fun other returned => ?_, fun _ raised => by cases raised⟩
  cases returned
  exact holds state inv pre

theorem Ensures.raise {error : ε} {after : α → σ → Prop}
    (holds : ∀ state, invariant state → before state → failed error state) :
    Ensures invariant before (Program.raise error : Program σ ε α) after failed := by
  intro state inv pre
  refine ⟨inv, fun _ returned => (by cases returned), fun other raised => ?_⟩
  cases raised
  exact holds state inv pre

theorem Ensures.read {view : σ → α} :
    Ensures invariant before (Program.read view : Program σ ε α)
      (fun value state => value = view state ∧ before state) failed := by
  intro state inv pre
  refine ⟨inv, fun value returned => ?_, fun _ raised => by cases raised⟩
  cases returned
  exact ⟨rfl, pre⟩

theorem Ensures.bind {first : Program σ ε α} {next : α → Program σ ε β}
    {between : α → σ → Prop} {after : β → σ → Prop}
    (firstHolds : Ensures invariant before first between failed)
    (nextHolds : ∀ value, Ensures invariant (between value) (next value) after failed) :
    Ensures invariant before (first >>= next) after failed := by
  intro state inv pre
  obtain ⟨kept, reached, ended⟩ := firstHolds state inv pre
  rw [run_bind]
  rcases ran : first.run state with ⟨outcome, middle⟩
  rw [ran] at kept reached ended
  cases outcome with
  | returned value => exact nextHolds value middle kept (reached value rfl)
  | raised error =>
      refine ⟨kept, fun _ returned => (by cases returned), fun other raised => ?_⟩
      cases raised
      exact ended error rfl
  | stopped =>
      exact ⟨kept, fun _ returned => (by cases returned), fun _ raised => by cases raised⟩

theorem Ensures.weaken {program : Program σ ε α} {stronger : σ → Prop}
    {after weaker : α → σ → Prop} {laxer : ε → σ → Prop}
    (ensures : Ensures invariant before program after failed)
    (strengthen : ∀ state, invariant state → stronger state → before state)
    (relax : ∀ value state, invariant state → after value state → weaker value state)
    (relaxFailed : ∀ error state, invariant state → failed error state → laxer error state) :
    Ensures invariant stronger program weaker laxer := by
  intro state inv pre
  obtain ⟨kept, reached, ended⟩ := ensures state inv (strengthen state inv pre)
  exact ⟨kept, fun value returned => relax value _ kept (reached value returned),
    fun error raised => relaxFailed error _ kept (ended error raised)⟩

/-- An assertion may speak of what the program started with. -/
theorem Ensures.ghost {γ : Type} {program : Program σ ε α} {after : α → σ → Prop}
    (view : σ → γ)
    (ensures : ∀ seen, Ensures invariant (fun state => view state = seen ∧ before state)
      program after failed) :
    Ensures invariant before program after failed :=
  fun state inv pre => ensures (view state) state inv ⟨rfl, pre⟩

/-- A handled exception becomes a value, and nothing is raised. -/
theorem Ensures.attempt {program : Program σ ε α} {after : α → σ → Prop}
    {unreached : ε → σ → Prop}
    (ensures : Ensures invariant before program after failed) :
    Ensures invariant before (Program.attempt program)
      (fun result state => match result with
        | .ok value => after value state
        | .error error => failed error state) unreached := by
  intro state inv pre
  obtain ⟨kept, reached, ended⟩ := ensures state inv pre
  simp only [Program.attempt]
  rcases ran : program.run state with ⟨outcome, middle⟩
  rw [ran] at kept reached ended
  cases outcome with
  | returned value =>
      refine ⟨kept, fun result returned => ?_, fun _ raised => by cases raised⟩
      cases returned
      exact reached value rfl
  | raised error =>
      refine ⟨kept, fun result returned => ?_, fun _ raised => by cases raised⟩
      cases returned
      exact ended error rfl
  | stopped =>
      exact ⟨kept, fun _ returned => (by cases returned), fun _ raised => by cases raised⟩

/-- `except Exception: pass` keeps what both ends have in common. -/
theorem Ensures.ignoring {program : Program σ ε α} {after : α → σ → Prop}
    {common : σ → Prop} {unreached : ε → σ → Prop}
    (ensures : Ensures invariant before program after failed)
    (returned : ∀ value state, invariant state → after value state → common state)
    (raised : ∀ error state, invariant state → failed error state → common state) :
    Ensures invariant before (Program.ignoring program) (fun _ => common) unreached := by
  refine .bind ensures.attempt fun result => .pure fun state inv ended => ?_
  cases result with
  | ok value => exact returned value state inv ended
  | error error => exact raised error state inv ended

end Ensures

/-! ### Programs that run to their end -/

/-- From states with the property the program is not stopped, and it keeps the
property. -/
def Unstopped (holds : σ → Prop) (program : Program σ ε α) : Prop :=
  ∀ state, holds state → (program.run state).1 ≠ .stopped ∧ holds (program.run state).2

section Unstopped

variable {holds : σ → Prop}

theorem Unstopped.pure (value : α) : Unstopped holds (Pure.pure value : Program σ ε α) :=
  fun _ known => ⟨by simp, known⟩

theorem Unstopped.raise (error : ε) : Unstopped holds (Program.raise error : Program σ ε α) :=
  fun _ known => ⟨by simp, known⟩

theorem Unstopped.read (view : σ → α) :
    Unstopped holds (Program.read view : Program σ ε α) :=
  fun _ known => ⟨by simp, known⟩

theorem Unstopped.update {change : σ → σ} (keeps : ∀ state, holds state → holds (change state)) :
    Unstopped holds (Program.update change : Program σ ε Unit) :=
  fun state known => ⟨by simp, keeps state known⟩

theorem Unstopped.bind {first : Program σ ε α} {next : α → Program σ ε β}
    (firstEnds : Unstopped holds first) (nextEnds : ∀ value, Unstopped holds (next value)) :
    Unstopped holds (first >>= next) := by
  intro state known
  obtain ⟨ends, kept⟩ := firstEnds state known
  rw [run_bind]
  rcases ran : first.run state with ⟨outcome, after⟩
  rw [ran] at ends kept
  cases outcome with
  | returned value => exact nextEnds value after kept
  | raised error => exact ⟨by simp, kept⟩
  | stopped => exact absurd rfl ends

theorem Unstopped.attempt {program : Program σ ε α} (ends : Unstopped holds program) :
    Unstopped holds (Program.attempt program) := by
  intro state known
  obtain ⟨unstopped, kept⟩ := ends state known
  simp only [Program.attempt]
  rcases ran : program.run state with ⟨outcome, after⟩
  rw [ran] at unstopped kept
  cases outcome with
  | returned value => exact ⟨by simp, kept⟩
  | raised error => exact ⟨by simp, kept⟩
  | stopped => exact absurd rfl unstopped

theorem Unstopped.ignoring {program : Program σ ε α} (ends : Unstopped holds program) :
    Unstopped holds (Program.ignoring program) :=
  .bind ends.attempt fun _ => .pure ()

theorem Unstopped.ofExcept (result : Except ε α) :
    Unstopped holds (Program.ofExcept result : Program σ ε α) := by
  cases result with
  | ok value => exact .pure value
  | error error => exact .raise error

theorem Unstopped.require (condition : Bool) (error : ε) :
    Unstopped holds (Program.require condition error : Program σ ε Unit) := by
  cases condition with
  | true => exact .pure ()
  | false => exact .raise error

end Unstopped

end Program

end ElKeeper
