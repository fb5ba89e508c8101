import Mathlib.Data.List.Lex
import Mathlib.Order.Monotone.Basic
import Mathlib.Tactic.Ring

/-!
# Orders of texts and of positions

A number written with a fixed number of digits comes before a greater one, whatever
follows it.  Such fields are put side by side, the more significant one first, and are
again such a field.  The second half is about places in a row of blocks, such as a day
in the months of its year: a place in an earlier block is an earlier place.
-/

namespace ElKeeper

/-- Texts of the numbers below the bound compare as the numbers do, and only then as what
follows them. -/
def OrderedField {α : Type} [LT α] (encode : Nat → List α) (bound : Nat) : Prop :=
  ∀ first < bound, ∀ second < bound, ∀ rest rest' : List α,
    encode first ++ rest < encode second ++ rest' ↔
      first < second ∨ first = second ∧ rest < rest'

namespace OrderedField

variable {α : Type} [LinearOrder α]

theorem single {digit : Nat → α} {bound : Nat}
    (increasing : ∀ first second, first < second → second < bound → digit first < digit second) :
    OrderedField (fun number => [digit number]) bound := by
  intro first firstBound second secondBound rest rest'
  simp only [List.cons_append, List.nil_append, List.cons_lt_cons_iff]
  rcases lt_trichotomy first second with before | rfl | after
  · have digits := increasing first second before secondBound
    simp [digits, before]
  · simp
  · have digits := increasing second first after firstBound
    simp [digits.not_gt, digits.ne', after.not_gt, after.ne']

/-- Numbers are ordered by their quotients, and by their remainders where these agree. -/
theorem lt_iff_div_mod (base first second : Nat) :
    first < second ↔
      first / base < second / base ∨
        first / base = second / base ∧ first % base < second % base := by
  have firstParts := Nat.div_add_mod first base
  have secondParts := Nat.div_add_mod second base
  constructor
  · intro before
    rcases (Nat.div_le_div_right before.le : first / base ≤ second / base).lt_or_eq with
      quotients | quotients
    · exact .inl quotients
    · refine .inr ⟨quotients, ?_⟩
      rw [quotients] at firstParts
      omega
  · rintro (quotients | ⟨quotients, remainders⟩)
    · exact Nat.lt_of_div_lt_div quotients
    · rw [quotients] at firstParts
      omega

/-- A field of higher digits before one of lower digits. -/
theorem pair {high low : Nat → List α} {highBound base : Nat}
    (ordersHigh : OrderedField high highBound) (ordersLow : OrderedField low base)
    (positive : 0 < base) :
    OrderedField (fun number => high (number / base) ++ low (number % base))
      (highBound * base) := by
  intro first firstBound second secondBound rest rest'
  have parts : first = second ↔
      first / base = second / base ∧ first % base = second % base := by
    constructor
    · rintro rfl
      exact ⟨rfl, rfl⟩
    · rintro ⟨quotients, remainders⟩
      rw [← Nat.div_add_mod first base, quotients, remainders, Nat.div_add_mod]
  rw [List.append_assoc, List.append_assoc,
    ordersHigh _ (Nat.div_lt_of_lt_mul (by rwa [mul_comm] at firstBound)) _
      (Nat.div_lt_of_lt_mul (by rwa [mul_comm] at secondBound)),
    ordersLow _ (Nat.mod_lt _ positive) _ (Nat.mod_lt _ positive), lt_iff_div_mod base first,
    parts]
  tauto

end OrderedField

/-! ### Places in a row of blocks -/

section Positions

variable {before size : Nat → Nat}

theorem before_mono (next : ∀ block, before (block + 1) = before block + size block) :
    Monotone before := by
  apply monotone_nat_of_le_succ
  intro block
  rw [next]
  omega

/-- A place in an earlier block is an earlier place. -/
theorem position_lt (next : ∀ block, before (block + 1) = before block + size block)
    {block later place laterPlace : Nat} (earlier : block < later) (fits : place ≤ size block)
    (positive : 1 ≤ laterPlace) : before block + place < before later + laterPlace := by
  have reached := before_mono next (Nat.succ_le_of_lt earlier)
  have ends := next block
  rw [Nat.succ_eq_add_one] at reached
  omega

/-- A place has one block. -/
theorem position_unique (next : ∀ block, before (block + 1) = before block + size block)
    {block other place otherPlace : Nat} (fits : 1 ≤ place ∧ place ≤ size block)
    (otherFits : 1 ≤ otherPlace ∧ otherPlace ≤ size other)
    (same : before block + place = before other + otherPlace) :
    block = other ∧ place = otherPlace := by
  rcases lt_trichotomy block other with earlier | rfl | later
  · have placed := position_lt next earlier fits.2 otherFits.1
    omega
  · exact ⟨rfl, by omega⟩
  · have placed := position_lt next later otherFits.2 fits.1
    omega

end Positions

end ElKeeper
