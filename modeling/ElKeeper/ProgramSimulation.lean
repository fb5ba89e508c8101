import ElKeeper.Program
import Mathlib.Data.Option.Basic

/-!
# Simulation of programs

A program over one kind of states simulates a program over another kind when, from related
states, both end in the same way: with related values, with related exceptions or because
they stopped, and in related states.  The rules follow the operations of programs, so that
two programs of the same shape are compared part by part.
-/

namespace ElKeeper

/-- Two ends of the same kind. -/
inductive Outcome.Related {ε ζ α β : Type} (errors : ε → ζ → Prop) (values : α → β → Prop) :
    Outcome ε α → Outcome ζ β → Prop where
  | returned {value : α} {other : β} (related : values value other) :
      Related errors values (.returned value) (.returned other)
  | raised {error : ε} {other : ζ} (related : errors error other) :
      Related errors values (.raised error) (.raised other)
  | stopped : Related errors values .stopped .stopped

namespace Program

variable {σ τ ε ζ α β γ δ : Type}

theorem pure_andThen (value : α) (next : α → Program σ ε γ) :
    (Pure.pure value >>= next) = next value :=
  rfl

/-- From related states both programs end alike, in related states. -/
def Simulates (states : σ → τ → Prop) (errors : ε → ζ → Prop) (values : α → β → Prop)
    (program : Program σ ε α) (other : Program τ ζ β) : Prop :=
  ∀ state otherState, states state otherState →
    Outcome.Related errors values (program.run state).1 (other.run otherState).1 ∧
      states (program.run state).2 (other.run otherState).2

namespace Simulates

variable {states : σ → τ → Prop} {errors : ε → ζ → Prop} {values : α → β → Prop}

theorem pure {value : α} {other : β} (related : values value other) :
    Simulates states errors values (Pure.pure value) (Pure.pure other) :=
  fun _ _ same => ⟨.returned related, same⟩

theorem raise {error : ε} {other : ζ} (related : errors error other) :
    Simulates states errors values (Program.raise error) (Program.raise other) :=
  fun _ _ same => ⟨.raised related, same⟩

theorem read {view : σ → α} {otherView : τ → β}
    (related : ∀ state other, states state other → values (view state) (otherView other)) :
    Simulates states errors values (Program.read view) (Program.read otherView) :=
  fun state other same => ⟨.returned (related state other same), same⟩

theorem update {change : σ → σ} {otherChange : τ → τ} {nothing : Unit → Unit → Prop}
    (always : nothing () ())
    (related : ∀ state other, states state other → states (change state) (otherChange other)) :
    Simulates states errors nothing (Program.update change) (Program.update otherChange) :=
  fun state other same => ⟨.returned always, related state other same⟩

theorem bind {results : γ → δ → Prop} {first : Program σ ε α} {otherFirst : Program τ ζ β}
    {next : α → Program σ ε γ} {otherNext : β → Program τ ζ δ}
    (firsts : Simulates states errors values first otherFirst)
    (nexts : ∀ value other, values value other →
      Simulates states errors results (next value) (otherNext other)) :
    Simulates states errors results (first >>= next) (otherFirst >>= otherNext) := by
  intro state otherState same
  obtain ⟨ends, after⟩ := firsts state otherState same
  rw [run_bind, run_bind]
  generalize first.run state = ended at ends after ⊢
  generalize otherFirst.run otherState = otherEnded at ends after ⊢
  obtain ⟨outcome, reached⟩ := ended
  obtain ⟨otherOutcome, otherReached⟩ := otherEnded
  cases ends with
  | returned related => exact nexts _ _ related reached otherReached after
  | raised related => exact ⟨.raised related, after⟩
  | stopped => exact ⟨.stopped, after⟩

theorem require {condition : Bool} {error : ε} {other : ζ} {nothing : Unit → Unit → Prop}
    (always : nothing () ()) (related : errors error other) :
    Simulates states errors nothing (Program.require condition error)
      (Program.require condition other) := by
  cases condition with
  | true => exact pure always
  | false => exact raise related

/-- Both savepoints undo the same writes. -/
theorem atomically {program : Program σ ε α} {other : Program τ ζ β}
    (simulates : Simulates states errors values program other) :
    Simulates states errors values (Program.atomically program) (Program.atomically other) := by
  intro state otherState same
  obtain ⟨ends, after⟩ := simulates state otherState same
  simp only [Program.atomically]
  generalize program.run state = ended at ends after ⊢
  generalize other.run otherState = otherEnded at ends after ⊢
  obtain ⟨outcome, reached⟩ := ended
  obtain ⟨otherOutcome, otherReached⟩ := otherEnded
  cases ends with
  | returned related => exact ⟨.returned related, after⟩
  | raised related => exact ⟨.raised related, same⟩
  | stopped => exact ⟨.stopped, after⟩

end Simulates

end Program

end ElKeeper
