import ElKeeper.Program
import Mathlib.Data.List.Nodup
import Mathlib.Tactic.Tauto

/-!
# Cooperative programs

A coroutine works on a shared state without interruption until it awaits the
answer to a request.  Run alone it is a program; several of them interleave at
their requests.

The rules below are for interleaved coroutines.  `Safe` says of a coroutine in a
state that every stretch between two requests ends in the invariant and changes
the state only as the coroutine may.  Before a request is served and again before
its answer is taken up, the coroutine relies on an assertion that the changes of
the others keep.
-/

namespace ElKeeper

/-- A program over the states `σ` that sends requests `ρ` and awaits answers `α`. -/
inductive Coroutine (σ ρ α ε β : Type) where
  | finish (outcome : Outcome ε β)
  | access (update : σ → σ) (next : σ → Coroutine σ ρ α ε β)
  | await (request : ρ) (resume : α → Coroutine σ ρ α ε β)

namespace Coroutine

variable {σ ρ α ε β γ : Type}

/-- Continue with the returned value. -/
def andThen (next : β → Coroutine σ ρ α ε γ) : Coroutine σ ρ α ε β → Coroutine σ ρ α ε γ
  | finish (.returned value) => next value
  | finish (.raised error) => finish (.raised error)
  | finish .stopped => finish .stopped
  | access update rest => access update fun state => andThen next (rest state)
  | await request resume => await request fun answer => andThen next (resume answer)

instance : Monad (Coroutine σ ρ α ε) where
  pure value := finish (.returned value)
  bind first next := andThen next first

def raise (error : ε) : Coroutine σ ρ α ε β :=
  finish (.raised error)

/-- Send a request and return its answer. -/
def request (content : ρ) : Coroutine σ ρ α ε α :=
  await content fun answer => finish (.returned answer)

/-- A program without requests. -/
def perform (program : Program σ ε β) : Coroutine σ ρ α ε β :=
  access (fun state => (program.run state).2) fun state => finish (program.run state).1

def ofExcept : Except ε β → Coroutine σ ρ α ε β
  | .ok value => pure value
  | .error error => raise error

/-- Raise unless the condition holds. -/
def require (condition : Bool) (error : ε) : Coroutine σ ρ α ε Unit :=
  if condition then pure () else raise error

/-- `try`: an exception becomes a value. -/
def attempt : Coroutine σ ρ α ε β → Coroutine σ ρ α ε (Except ε β)
  | finish (.returned value) => finish (.returned (.ok value))
  | finish (.raised error) => finish (.returned (.error error))
  | finish .stopped => finish .stopped
  | access update next => access update fun state => attempt (next state)
  | await request resume => await request fun answer => attempt (resume answer)

/-! ### Alone -/

/-- The coroutine with nothing in between, its requests answered by the server. -/
def alone (serve : ρ → σ → α × σ) : Coroutine σ ρ α ε β → Program σ ε β
  | finish outcome => ⟨fun state => (outcome, state)⟩
  | access update next => ⟨fun state => (alone serve (next state)).run (update state)⟩
  | await request resume =>
      ⟨fun state => (alone serve (resume (serve request state).1)).run (serve request state).2⟩

variable (serve : ρ → σ → α × σ)

theorem alone_bind (first : Coroutine σ ρ α ε β) (next : β → Coroutine σ ρ α ε γ) (state : σ) :
    (alone serve (first >>= next)).run state =
      (alone serve first >>= fun value => alone serve (next value)).run state := by
  induction first generalizing state with
  | finish outcome => cases outcome <;> rfl
  | access update rest ih => exact ih state (update state)
  | await content resume ih => exact ih (serve content state).1 (serve content state).2

theorem alone_attempt (program : Coroutine σ ρ α ε β) (state : σ) :
    (alone serve (attempt program)).run state =
      (Program.attempt (alone serve program)).run state := by
  induction program generalizing state with
  | finish outcome => cases outcome <;> rfl
  | access update rest ih => exact ih state (update state)
  | await content resume ih => exact ih (serve content state).1 (serve content state).2

/-- What a coroutine alone ends in. -/
def Yields (after : Outcome ε β → σ → Prop) : Coroutine σ ρ α ε β → σ → Prop
  | finish outcome, state => after outcome state
  | access update next, state => Yields after (next state) (update state)
  | await request resume, state =>
      Yields after (resume (serve request state).1) (serve request state).2

theorem yields_iff (after : Outcome ε β → σ → Prop) (program : Coroutine σ ρ α ε β) (state : σ) :
    Yields serve after program state ↔
      after ((alone serve program).run state).1 ((alone serve program).run state).2 := by
  induction program generalizing state with
  | finish outcome => rfl
  | access update rest ih => exact ih state (update state)
  | await content resume ih => exact ih (serve content state).1 (serve content state).2

/-- How a sequence goes on after its first part. -/
def goesOn (next : β → Prop) (after : Outcome ε γ → Prop) : Outcome ε β → Prop
  | .returned value => next value
  | .raised error => after (.raised error)
  | .stopped => after .stopped

theorem Yields.bind {serve : ρ → σ → α × σ} {after : Outcome ε γ → σ → Prop}
    {first : Coroutine σ ρ α ε β} {next : β → Coroutine σ ρ α ε γ} {state : σ}
    (holds : Yields serve (fun outcome middle =>
      goesOn (fun value => Yields serve after (next value) middle) (after · middle) outcome)
      first state) :
    Yields serve after (first >>= next) state := by
  induction first generalizing state with
  | finish outcome => cases outcome <;> exact holds
  | access update rest ih => exact ih state holds
  | await content resume ih => exact ih (serve content state).1 holds

theorem Yields.attempt {serve : ρ → σ → α × σ} {after : Outcome ε (Except ε β) → σ → Prop}
    {program : Coroutine σ ρ α ε β} {state : σ}
    (holds : Yields serve (fun outcome middle =>
      match outcome with
      | .returned value => after (.returned (.ok value)) middle
      | .raised error => after (.returned (.error error)) middle
      | .stopped => after .stopped middle) program state) :
    Yields serve after (attempt program) state := by
  induction program generalizing state with
  | finish outcome => cases outcome <;> exact holds
  | access update rest ih => exact ih state holds
  | await content resume ih => exact ih (serve content state).1 holds

theorem Yields.mono {serve : ρ → σ → α × σ} {weaker stronger : Outcome ε β → σ → Prop}
    (implies : ∀ outcome state, stronger outcome state → weaker outcome state)
    {program : Coroutine σ ρ α ε β} {state : σ} (holds : Yields serve stronger program state) :
    Yields serve weaker program state := by
  rw [yields_iff] at holds ⊢
  exact implies _ _ holds

/-! ### Stretches -/

/-- Work until the next request or the end. -/
def settle : Coroutine σ ρ α ε β → σ → Coroutine σ ρ α ε β × σ
  | finish outcome, state => (finish outcome, state)
  | access update next, state => settle (next state) (update state)
  | await request resume, state => (await request resume, state)

def finished : Coroutine σ ρ α ε β → Bool
  | finish _ => true
  | _ => false

/-! ### Safety -/

/-- What holds between steps, what a coroutine may change in a step, what it relies on while
others work, and when its requests may be served. -/
structure Discipline (σ ρ : Type) where
  invariant : σ → Prop
  guarantee : σ → σ → Prop
  rely : σ → σ → Prop
  enabled : ρ → σ → Prop
  idle : ∀ state, guarantee state state

/-- An assertion that survives the changes of others. -/
def Discipline.Stable (discipline : Discipline σ ρ) (assertion : σ → Prop) : Prop :=
  ∀ before after, discipline.invariant before → discipline.invariant after →
    discipline.rely before after → assertion before → assertion after

/-- The stretch that began in `start` has come to `state` and goes on safely, and so does every
later one; at its end the coroutine meets `after`.  Others may work before a request is served,
and again before its answer is taken up. -/
def SafeTo (discipline : Discipline σ ρ) (after : Outcome ε β → σ → σ → Prop) (start : σ) :
    Coroutine σ ρ α ε β → σ → Prop
  | finish outcome, state => after outcome start state
  | access update next, state => SafeTo discipline after start (next state) (update state)
  | await request resume, state =>
      discipline.invariant state ∧ discipline.guarantee start state ∧
        ∃ assertion, discipline.Stable assertion ∧ assertion state ∧
          ∀ later, discipline.invariant later → assertion later →
            discipline.enabled request later →
            discipline.invariant (serve request later).2 ∧
              discipline.guarantee later (serve request later).2 ∧
              ∃ received, discipline.Stable received ∧ received (serve request later).2 ∧
                ∀ next, discipline.invariant next → received next →
                  SafeTo discipline after next (resume (serve request later).1) next

/-- A coroutine all of whose stretches are safe. -/
def Safe (discipline : Discipline σ ρ) : σ → Coroutine σ ρ α ε β → σ → Prop :=
  SafeTo serve discipline fun _ start state =>
    discipline.invariant state ∧ discipline.guarantee start state

variable {serve} {discipline : Discipline σ ρ}

theorem SafeTo.bind {after : Outcome ε γ → σ → σ → Prop} {first : Coroutine σ ρ α ε β}
    {next : β → Coroutine σ ρ α ε γ} {start state : σ}
    (safe : SafeTo serve discipline (fun outcome begun middle =>
      goesOn (fun value => SafeTo serve discipline after begun (next value) middle)
        (after · begun middle) outcome) start first state) :
    SafeTo serve discipline after start (first >>= next) state := by
  induction first generalizing start state with
  | finish outcome => cases outcome <;> exact safe
  | access update rest ih => exact ih state safe
  | await content resume ih =>
      obtain ⟨holds, moves, assertion, stable, current, goes⟩ := safe
      refine ⟨holds, moves, assertion, stable, current, fun later laterHolds asserted enabled => ?_⟩
      obtain ⟨served, servedMoves, received, receivedStable, receivedNow, rest⟩ :=
        goes later laterHolds asserted enabled
      exact ⟨served, servedMoves, received, receivedStable, receivedNow,
        fun resumed resumedHolds isReceived =>
          ih (serve content later).1 (rest resumed resumedHolds isReceived)⟩

theorem SafeTo.attempt {after : Outcome ε (Except ε β) → σ → σ → Prop}
    {program : Coroutine σ ρ α ε β} {start state : σ}
    (safe : SafeTo serve discipline (fun outcome begun middle =>
      match outcome with
      | .returned value => after (.returned (.ok value)) begun middle
      | .raised error => after (.returned (.error error)) begun middle
      | .stopped => after .stopped begun middle) start program state) :
    SafeTo serve discipline after start (attempt program) state := by
  induction program generalizing start state with
  | finish outcome => cases outcome <;> exact safe
  | access update rest ih => exact ih state safe
  | await content resume ih =>
      obtain ⟨holds, moves, assertion, stable, current, goes⟩ := safe
      refine ⟨holds, moves, assertion, stable, current, fun later laterHolds asserted enabled => ?_⟩
      obtain ⟨served, servedMoves, received, receivedStable, receivedNow, rest⟩ :=
        goes later laterHolds asserted enabled
      exact ⟨served, servedMoves, received, receivedStable, receivedNow,
        fun resumed resumedHolds isReceived =>
          ih (serve content later).1 (rest resumed resumedHolds isReceived)⟩

theorem SafeTo.mono {weaker stronger : Outcome ε β → σ → σ → Prop}
    (implies : ∀ outcome begun state, stronger outcome begun state → weaker outcome begun state)
    {program : Coroutine σ ρ α ε β} {start state : σ}
    (safe : SafeTo serve discipline stronger start program state) :
    SafeTo serve discipline weaker start program state := by
  induction program generalizing start state with
  | finish outcome => exact implies _ _ _ safe
  | access update rest ih => exact ih state safe
  | await content resume ih =>
      obtain ⟨holds, moves, assertion, stable, current, goes⟩ := safe
      refine ⟨holds, moves, assertion, stable, current, fun later laterHolds asserted enabled => ?_⟩
      obtain ⟨served, servedMoves, received, receivedStable, receivedNow, rest⟩ :=
        goes later laterHolds asserted enabled
      exact ⟨served, servedMoves, received, receivedStable, receivedNow,
        fun resumed resumedHolds isReceived =>
          ih (serve content later).1 (rest resumed resumedHolds isReceived)⟩

/-- What is safe among others holds alone. -/
theorem SafeTo.yields {after : Outcome ε β → σ → σ → Prop}
    (enabled : ∀ request state, discipline.enabled request state)
    {program : Coroutine σ ρ α ε β} {start state : σ}
    (safe : SafeTo serve discipline after start program state) :
    Yields serve (fun outcome reached => ∃ begun, after outcome begun reached) program state := by
  induction program generalizing start state with
  | finish outcome => exact ⟨start, safe⟩
  | access update rest ih => exact ih state safe
  | await content resume ih =>
      obtain ⟨holds, _, assertion, _, current, goes⟩ := safe
      obtain ⟨served, _, received, _, receivedNow, rest⟩ :=
        goes state holds current (enabled content state)
      exact ih (serve content state).1 (rest _ served receivedNow)

/-- A safe coroutine ends its stretch in the invariant and within its guarantee. -/
theorem Safe.settles {start state : σ} {program : Coroutine σ ρ α ε β}
    (safe : Safe serve discipline start program state) :
    Safe serve discipline start (settle program state).1 (settle program state).2 ∧
      discipline.invariant (settle program state).2 ∧
      discipline.guarantee start (settle program state).2 := by
  induction program generalizing state with
  | finish outcome => exact ⟨safe, safe⟩
  | access update next ih => exact ih state safe
  | await request resume ih => exact ⟨safe, safe.1, safe.2.1⟩

/-- A coroutine that may go on whenever it is its turn. -/
def Ready (serve : ρ → σ → α × σ) (discipline : Discipline σ ρ)
    (program : Coroutine σ ρ α ε β) (state : σ) : Prop :=
  ∃ received, discipline.Stable received ∧ received state ∧
    ∀ next, discipline.invariant next → received next → Safe serve discipline next program next

theorem Ready.of_safe {program : Coroutine σ ρ α ε β}
    (safe : ∀ state, discipline.invariant state → Safe serve discipline state program state)
    (state : σ) : Ready serve discipline program state :=
  ⟨fun _ => True, fun _ _ _ _ _ _ => trivial, trivial, fun next holds _ => safe next holds⟩

theorem Ready.finish (outcome : Outcome ε β) (state : σ) :
    Ready serve discipline (Coroutine.finish outcome : Coroutine σ ρ α ε β) state := by
  apply Ready.of_safe
  intro next holds
  exact ⟨holds, discipline.idle next⟩

theorem Ready.of_finished {program : Coroutine σ ρ α ε β} (done : program.finished) (state : σ) :
    Ready serve discipline program state := by
  cases program with
  | finish outcome => exact .finish outcome state
  | access update next => cases done
  | await request resume => cases done

/-- A coroutine at the end of a stretch. -/
theorem Safe.ready {start state : σ} {program : Coroutine σ ρ α ε β}
    (safe : Safe serve discipline start program state) :
    Ready serve discipline (settle program state).1 (settle program state).2 := by
  induction program generalizing state with
  | finish outcome => exact .finish outcome state
  | access update next ih => exact ih state safe
  | await request resume ih =>
      obtain ⟨_, _, assertion, stable, current, goes⟩ := safe
      exact ⟨assertion, stable, current, fun next holds asserted =>
        ⟨holds, discipline.idle next, assertion, stable, asserted, goes⟩⟩

theorem Ready.stable {before after : σ} {program : Coroutine σ ρ α ε β}
    (ready : Ready serve discipline program before) (first : discipline.invariant before)
    (last : discipline.invariant after) (moves : discipline.rely before after) :
    Ready serve discipline program after := by
  obtain ⟨received, stable, current, goes⟩ := ready
  exact ⟨received, stable, stable before after first last moves current, goes⟩

/-- One stretch of a coroutine. -/
theorem Ready.settles {state : σ} {program : Coroutine σ ρ α ε β}
    (ready : Ready serve discipline program state) (holds : discipline.invariant state) :
    Ready serve discipline (settle program state).1 (settle program state).2 ∧
      discipline.invariant (settle program state).2 ∧
      discipline.guarantee state (settle program state).2 := by
  obtain ⟨received, _, current, goes⟩ := ready
  have safe := goes state holds current
  exact ⟨safe.ready, safe.settles.2⟩

/-- A request of a coroutine is served. -/
theorem Ready.serves {state : σ} {request : ρ} {resume : α → Coroutine σ ρ α ε β}
    (ready : Ready serve discipline (await request resume) state)
    (holds : discipline.invariant state) (enabled : discipline.enabled request state) :
    Ready serve discipline (resume (serve request state).1) (serve request state).2 ∧
      discipline.invariant (serve request state).2 ∧
      discipline.guarantee state (serve request state).2 := by
  obtain ⟨_, _, current, goes⟩ := ready
  obtain ⟨_, _, assertion, _, asserted, serves⟩ := goes state holds current
  obtain ⟨served, moves, received, stable, receivedNow, rest⟩ :=
    serves state holds asserted enabled
  exact ⟨⟨received, stable, receivedNow, rest⟩, served, moves⟩

end Coroutine

/-! ### Interleaving -/

/-- Coroutines over a shared state, each under the name of its owner. -/
structure Crowd (κ σ ρ α ε β : Type) where
  state : σ
  members : List (κ × Coroutine σ ρ α ε β)

namespace Crowd

open Coroutine

variable {κ σ ρ α ε β : Type}

/-- The owners of the calls that have not ended. -/
def busy (crowd : Crowd κ σ ρ α ε β) : List κ :=
  (crowd.members.filter fun member => !member.2.finished).map (·.1)

/-- As `Step`, where no owner has two calls under way and a request is served only when it may
be. -/
inductive CarefulStep (serve : ρ → σ → α × σ) (starts : κ → Coroutine σ ρ α ε β → Prop)
    (enabled : κ → ρ → σ → Prop) :
    Crowd κ σ ρ α ε β → Crowd κ σ ρ α ε β → Prop where
  | start (crowd : Crowd κ σ ρ α ε β) {owner : κ} {program : Coroutine σ ρ α ε β}
      (allowed : starts owner program) (free : owner ∉ crowd.busy) :
      CarefulStep serve starts enabled crowd
        ⟨crowd.state, crowd.members ++ [(owner, program)]⟩
  | serve (state : σ) (before after : List (κ × Coroutine σ ρ α ε β)) (owner : κ)
      (request : ρ) (resume : α → Coroutine σ ρ α ε β) (may : enabled owner request state) :
      CarefulStep serve starts enabled
        ⟨state, before ++ (owner, .await request resume) :: after⟩
        ⟨(serve request state).2,
          before ++ (owner, resume (serve request state).1) :: after⟩
  | work (state : σ) (before after : List (κ × Coroutine σ ρ α ε β)) (owner : κ)
      (program : Coroutine σ ρ α ε β) :
      CarefulStep serve starts enabled ⟨state, before ++ (owner, program) :: after⟩
        ⟨(program.settle state).2, before ++ (owner, (program.settle state).1) :: after⟩

variable {serve : ρ → σ → α × σ} {starts : κ → Coroutine σ ρ α ε β → Prop}

/-- The disciplines of the owners fit together. -/
structure Fits (discipline : κ → Discipline σ ρ) (invariant : σ → Prop)
    (starts : κ → Coroutine σ ρ α ε β → Prop) (serve : ρ → σ → α × σ) : Prop where
  shared : ∀ owner, (discipline owner).invariant = invariant
  relies : ∀ owner other, owner ≠ other → ∀ before after, invariant before →
    (discipline owner).guarantee before after → (discipline other).rely before after
  safe : ∀ owner program, starts owner program → ∀ state, invariant state →
    Safe serve (discipline owner) state program state

/-- The invariant holds, every call may go on, and no owner has two under way. -/
structure Sound (discipline : κ → Discipline σ ρ) (invariant : σ → Prop)
    (serve : ρ → σ → α × σ) (crowd : Crowd κ σ ρ α ε β) : Prop where
  holds : invariant crowd.state
  ready : ∀ member ∈ crowd.members, Ready serve (discipline member.1) member.2 crowd.state
  single : crowd.busy.Nodup

variable {discipline : κ → Discipline σ ρ} {invariant : σ → Prop}

/-- A call of an owner without one keeps a crowd sound. -/
theorem Sound.start (fits : Fits discipline invariant starts serve)
    {crowd : Crowd κ σ ρ α ε β} (sound : crowd.Sound discipline invariant serve) {owner : κ}
    {program : Coroutine σ ρ α ε β} (allowed : starts owner program)
    (free : owner ∉ crowd.busy) :
    Sound discipline invariant serve ⟨crowd.state, crowd.members ++ [(owner, program)]⟩ := by
  refine ⟨sound.holds, fun member isMember => ?_, ?_⟩
  · rcases List.mem_append.mp isMember with old | new
    · exact sound.ready member old
    · obtain rfl := List.mem_singleton.mp new
      apply Ready.of_safe
      intro state holds
      rw [fits.shared] at holds
      exact fits.safe owner program allowed state holds
  · simp only [busy, List.filter_append, List.map_append]
    refine List.nodup_append.mpr ⟨sound.single, ?_, ?_⟩
    · exact ((List.nodup_singleton _).filter _).map_on (by simp)
    · intro first isFirst second isSecond same
      subst same
      obtain ⟨member, isMember, rfl⟩ := List.mem_map.mp isSecond
      obtain rfl := List.mem_singleton.mp (List.mem_filter.mp isMember).1
      exact free isFirst

/-- A step of one member within its guarantee keeps a crowd sound. -/
theorem Sound.replace (fits : Fits discipline invariant starts serve) {state later : σ}
    {before after : List (κ × Coroutine σ ρ α ε β)} {owner : κ}
    {program next : Coroutine σ ρ α ε β}
    (sound : Sound discipline invariant serve ⟨state, before ++ (owner, program) :: after⟩)
    (ends : program.finished → next.finished ∧ later = state)
    (ready : Ready serve (discipline owner) next later) (holds : invariant later)
    (moves : (discipline owner).guarantee state later) :
    Sound discipline invariant serve ⟨later, before ++ (owner, next) :: after⟩ := by
  have single := sound.single
  have others : ∀ member ∈ before ++ after,
      Ready serve (discipline member.1) member.2 later := by
    intro member isMember
    have wasReady : Ready serve (discipline member.1) member.2 state := by
      apply sound.ready member
      simp only [List.mem_append, List.mem_cons] at isMember ⊢
      tauto
    cases isDone : member.2.finished with
    | true => exact .of_finished isDone later
    | false =>
        cases wasDone : program.finished with
        | true => rw [(ends wasDone).2]; exact wasReady
        | false =>
            have different : owner ≠ member.1 := by
              simp only [busy, List.filter_append, List.filter_cons, wasDone, List.map_append,
                List.map_cons, Bool.not_false, if_true] at single
              have named : member.1 ∈
                  ((before ++ after).filter fun member => !member.2.finished).map (·.1) :=
                List.mem_map.mpr ⟨member, List.mem_filter.mpr ⟨isMember, by simp [isDone]⟩, rfl⟩
              rw [List.filter_append, List.map_append] at named
              rintro rfl
              exact (List.nodup_middle.mp single).notMem named
            exact wasReady.stable (by rw [fits.shared]; exact sound.holds)
              (by rw [fits.shared]; exact holds)
              (fits.relies owner member.1 different state later sound.holds moves)
  refine ⟨holds, fun member isMember => ?_, ?_⟩
  · have cases : member ∈ before ++ after ∨ member = (owner, next) := by
      simp only [List.mem_append, List.mem_cons] at isMember ⊢
      tauto
    rcases cases with other | rfl
    · exact others member other
    · exact ready
  · simp only [busy, List.filter_append, List.filter_cons, List.map_append] at single ⊢
    cases wasDone : program.finished with
    | true =>
        rw [wasDone] at single
        rw [(ends wasDone).1]
        exact single
    | false =>
        simp only [wasDone, Bool.not_false, if_true, List.map_cons] at single
        have rest := (List.nodup_cons.mp (List.nodup_middle.mp single)).2
        cases next.finished with
        | true => exact rest
        | false => exact single

/-- Careful steps keep a crowd sound. -/
theorem Sound.step (fits : Fits discipline invariant starts serve)
    {crowd later : Crowd κ σ ρ α ε β} (sound : crowd.Sound discipline invariant serve)
    (step : CarefulStep serve starts (fun owner => (discipline owner).enabled) crowd later) :
    later.Sound discipline invariant serve := by
  cases step with
  | start crowd allowed free => exact sound.start fits allowed free
  | serve state before after owner request resume may =>
      have ready := sound.ready (owner, .await request resume) (by simp)
      have served := ready.serves (by rw [fits.shared]; exact sound.holds) may
      rw [fits.shared] at served
      exact sound.replace fits nofun served.1 served.2.1 served.2.2
  | work state before after owner program =>
      have ready := sound.ready (owner, program) (by simp)
      have settled := ready.settles (by rw [fits.shared]; exact sound.holds)
      rw [fits.shared] at settled
      refine sound.replace fits ?_ settled.1 settled.2.1 settled.2.2
      intro wasDone
      cases program with
      | finish outcome => exact ⟨rfl, rfl⟩
      | access update next => cases wasDone
      | await request resume => cases wasDone

/-- In a run of careful steps the invariant holds throughout. -/
theorem Sound.run (fits : Fits discipline invariant starts serve) {crowd later : Crowd κ σ ρ α ε β}
    (sound : crowd.Sound discipline invariant serve)
    (steps : Relation.ReflTransGen
      (CarefulStep serve starts fun owner => (discipline owner).enabled) crowd later) :
    later.Sound discipline invariant serve := by
  induction steps with
  | refl => exact sound
  | tail _ step ih => exact ih.step fits step

end Crowd

end ElKeeper
