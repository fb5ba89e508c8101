import Mathlib.Data.List.Infix

/-!
# Lexical paths

A path as a walk through a tree of names: each component stays where the walk
is, goes up, or goes into a name.  The place it ends at is its lexical normal
form.  The directory directly below the root that a walk ends in is the one it
enters at the root and never goes up out of again.
-/

namespace ElKeeper

namespace LexicalPaths

variable {α : Type}

/-- One component of a path. -/
inductive Component (α : Type) where
  | stay
  | up
  | into (name : α)
deriving DecidableEq, Repr

/-- One component from the place a walk is at, written from the innermost name
outwards.  Above the root is the root. -/
def move (place : List α) : Component α → List α
  | .stay => place
  | .up => place.tail
  | .into name => name :: place

/-- The place at which a walk from the root ends, written from the root. -/
def destination (components : List (Component α)) : List α :=
  (components.foldl move []).reverse

/-- How deep one component leads from a depth. -/
def descend (depth : Nat) : Component α → Nat
  | .stay => depth
  | .up => depth - 1
  | .into _ => depth + 1

/-- The depth at which a walk from the root ends, counted without its names. -/
def depth (components : List (Component α)) : Nat :=
  components.foldl descend 0

/-- The components that go up. -/
def rises (components : List (Component α)) : Nat :=
  components.countP (fun component => component matches .up)

/-- The components that go into a name. -/
def falls (components : List (Component α)) : Nat :=
  components.countP (fun component => component matches .into _)

/-- A walk that is never above the place it started from. -/
def StaysBelow (components : List (Component α)) : Prop :=
  ∀ walked, walked <+: components → rises walked ≤ falls walked

@[simp] theorem rises_concat (components : List (Component α)) (component : Component α) :
    rises (components ++ [component]) =
      rises components + if component matches .up then 1 else 0 := by
  simp [rises, List.countP_append, List.countP_cons]

@[simp] theorem falls_concat (components : List (Component α)) (component : Component α) :
    falls (components ++ [component]) =
      falls components + if component matches .into _ then 1 else 0 := by
  simp [falls, List.countP_append, List.countP_cons]

/-- A walk stays below its start when it did so before its last component and
ends below it. -/
theorem staysBelow_concat (components : List (Component α)) (component : Component α) :
    StaysBelow (components ++ [component]) ↔
      StaysBelow components ∧
        rises (components ++ [component]) ≤ falls (components ++ [component]) := by
  constructor
  · intro below
    exact ⟨fun walked begins => below walked (begins.trans (List.prefix_append _ _)),
      below _ (List.prefix_refl _)⟩
  · rintro ⟨below, ends⟩ walked begins
    obtain whole | begins := List.prefix_concat_iff.mp begins
    · rw [whole]
      exact ends
    · exact below walked begins

theorem staysBelow_nil : StaysBelow ([] : List (Component α)) := by
  intro walked begins
  rw [List.prefix_nil.mp begins]
  exact Nat.le_refl _

/-- The depth of a walk is the length of the place it ends at. -/
theorem length_walk (place : List α) (components : List (Component α)) :
    (components.foldl move place).length = components.foldl descend place.length := by
  induction components generalizing place with
  | nil => rfl
  | cons component rest ih =>
      rw [List.foldl_cons, List.foldl_cons, ih]
      cases component with
      | stay => rfl
      | up => rw [move, descend, List.length_tail]
      | into name => rfl

/-- A walk ends at the root exactly when its depth there is zero. -/
theorem walk_eq_nil_iff (components : List (Component α)) :
    components.foldl move [] = [] ↔ depth components = 0 := by
  rw [← List.length_eq_zero_iff, length_walk]
  rfl

/-- A walk that stays below the name it starts in is still inside that name,
as deep as its components say. -/
theorem walk_of_staysBelow (name : α) {components : List (Component α)}
    (below : StaysBelow components) :
    ∃ inner, components.foldl move [name] = inner ++ [name] ∧
      inner.length + rises components = falls components := by
  induction components using List.reverseRecOn with
  | nil => exact ⟨[], rfl, rfl⟩
  | append_singleton components component ih =>
      obtain ⟨before, ends⟩ := (staysBelow_concat _ _).mp below
      obtain ⟨inner, walked, counted⟩ := ih before
      rw [List.foldl_concat, walked]
      cases component with
      | stay => exact ⟨inner, rfl, by simpa using counted⟩
      | into entered =>
          refine ⟨entered :: inner, rfl, ?_⟩
          simp only [rises_concat, falls_concat, List.length_cons]
          simp
          omega
      | up =>
          cases inner with
          | nil =>
              simp at ends counted
              omega
          | cons last inner =>
              refine ⟨inner, rfl, ?_⟩
              simp at counted ⊢
              omega

/-- The directory below the root in which a walk ends is the name it entered at
the root and has stayed below since. -/
theorem head?_destination (components : List (Component α)) (name : α) :
    (destination components).head? = some name ↔
      ∃ before after, components = before ++ .into name :: after ∧
        depth before = 0 ∧ StaysBelow after := by
  rw [destination, List.head?_reverse]
  constructor
  · intro ends
    induction components using List.reverseRecOn with
    | nil => cases ends
    | append_singleton components component ih =>
        rw [List.foldl_concat] at ends
        cases component with
        | stay =>
            obtain ⟨before, after, rfl, root, below⟩ := ih ends
            refine ⟨before, after ++ [.stay], by simp, root, ?_⟩
            exact (staysBelow_concat _ _).mpr
              ⟨below, by simpa using below after (List.prefix_refl _)⟩
        | into entered =>
            by_cases root : components.foldl move [] = []
            · rw [root] at ends
              cases ends
              exact ⟨components, [], rfl, (walk_eq_nil_iff _).mp root, staysBelow_nil⟩
            · rw [move, List.getLast?_cons_of_ne_nil root] at ends
              obtain ⟨before, after, rfl, root, below⟩ := ih ends
              refine ⟨before, after ++ [.into entered], by simp, root, ?_⟩
              have ended := below after (List.prefix_refl _)
              exact (staysBelow_concat _ _).mpr ⟨below, by simp; omega⟩
        | up =>
            have inside : (components.foldl move []).getLast? = some name := by
              rw [move] at ends
              cases place : components.foldl move [] with
              | nil => rw [place] at ends; cases ends
              | cons last rest =>
                  rw [place, List.tail_cons] at ends
                  cases rest with
                  | nil => cases ends
                  | cons next rest => rw [List.getLast?_cons_cons]; exact ends
            obtain ⟨before, after, rfl, root, below⟩ := ih inside
            obtain ⟨inner, walked, counted⟩ := walk_of_staysBelow name below
            -- Going up leaves the name only from directly inside it.
            have deep : inner ≠ [] := by
              intro shallow
              have start : move [] (.into name) = [name] := rfl
              rw [List.foldl_append, (walk_eq_nil_iff _).mpr root, List.foldl_cons, start,
                walked, shallow] at ends
              cases ends
            have positive := List.length_pos_iff.mpr deep
            refine ⟨before, after ++ [.up], by simp, root, ?_⟩
            exact (staysBelow_concat _ _).mpr ⟨below, by simp; omega⟩
  · rintro ⟨before, after, rfl, root, below⟩
    obtain ⟨inner, walked, counted⟩ := walk_of_staysBelow name below
    rw [List.foldl_append, (walk_eq_nil_iff _).mpr root, List.foldl_cons, move, walked]
    exact List.getLast?_concat

/-- A place lies in or at a directory below the root exactly when that
directory is the first name of the place. -/
theorem singleton_prefix_iff (name : α) (place : List α) :
    [name] <+: place ↔ place.head? = some name := by
  cases place with
  | nil => simp
  | cons first rest => simp [List.cons_prefix_cons, eq_comm]

end LexicalPaths

end ElKeeper
