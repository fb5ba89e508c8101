import Mathlib.Data.List.Basic

/-!
# Computations that may fail

What a computation in `Except` did when it succeeded, step by step.
-/

namespace ElKeeper

namespace Results

variable {ε α β : Type}

/-- A step of a computation that succeeded. -/
theorem bind_ok {first : Except ε α} {next : α → Except ε β} {value : β}
    (succeeded : (first >>= next) = .ok value) :
    ∃ middle, first = .ok middle ∧ next middle = .ok value := by
  cases first with
  | error error => cases succeeded
  | ok middle => exact ⟨middle, rfl, succeeded⟩

theorem map_ok {change : α → β} {ran : Except ε α} {value : β}
    (succeeded : ran.map change = .ok value) :
    ∃ before, ran = .ok before ∧ change before = value := by
  cases ran with
  | error error => cases succeeded
  | ok before => exact ⟨before, rfl, Except.ok.inj succeeded⟩

/-- A fallible map that computes `make` where it accepts. -/
theorem mapM_eq_ok_iff {change : α → Except ε β} {make : α → β} {accepts : α → Prop}
    (each : ∀ item value, change item = .ok value ↔ accepts item ∧ value = make item)
    {items : List α} {values : List β} :
    items.mapM change = .ok values ↔
      (∀ item ∈ items, accepts item) ∧ values = items.map make := by
  induction items generalizing values with
  | nil => simp [pure, Except.pure, eq_comm]
  | cons item items ih =>
      rw [List.mapM_cons]
      constructor
      · intro ran
        obtain ⟨value, first, ran⟩ := bind_ok ran
        obtain ⟨rest, later, ran⟩ := bind_ok ran
        cases ran
        obtain ⟨accepted, rfl⟩ := (each item value).mp first
        obtain ⟨others, rfl⟩ := ih.mp later
        exact ⟨List.forall_mem_cons.mpr ⟨accepted, others⟩, rfl⟩
      · rintro ⟨accepted, rfl⟩
        obtain ⟨first, others⟩ := List.forall_mem_cons.mp accepted
        rw [(each item _).mpr ⟨first, rfl⟩, ih.mpr ⟨others, rfl⟩]
        rfl

end Results

end ElKeeper
