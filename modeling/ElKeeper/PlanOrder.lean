import ElKeeper.ImpactCalculation
import ElKeeper.PlanCompilation
import ElKeeper.RedactionBarrier

/-!
# Plans and the order of what they are compiled from

The snapshot and the compiler sort what they are given.  A sort by a key forgets the
order exactly where the key tells the items apart: identifiers do, the step of a
rollback boundary need not.
-/

namespace ElKeeper

/-! ### Sorting by a key -/

section Sorting

variable {α κ : Type} [LinearOrder κ] (key : α → κ)

instance byKey_total : Std.Total fun first second : α => key first ≤ key second :=
  ⟨fun first second => le_total (key first) (key second)⟩

instance byKey_trans : IsTrans α fun first second => key first ≤ key second :=
  ⟨fun _ _ _ => le_trans⟩

end Sorting

namespace Planning

/-! ### Snapshots -/

/-- The same snapshot with the items of its lists in another order. -/
structure ObservationSnapshot.Rearranged (given other : ObservationSnapshot) : Prop where
  sources : given.sources.Perm other.sources
  hosts : given.hosts.Perm other.hosts
  clusters : given.clusters.Perm other.clusters
  workloads : given.workloads.Perm other.workloads
  assignmentRevisions : given.assignmentRevisions.Perm other.assignmentRevisions
  policies : given.policies.Perm other.policies
  conflictingOperations : given.conflictingOperations.Perm other.conflictingOperations
  rest : { given with
    sources := other.sources
    hosts := other.hosts
    clusters := other.clusters
    workloads := other.workloads
    assignmentRevisions := other.assignmentRevisions
    policies := other.policies
    conflictingOperations := other.conflictingOperations } = other

section Compiling

open PyValue Dumped

variable [FloatFormat F] (sha256 : List Char → String)

/-- A plan is compiled with the snapshot that is built of the given one. -/
def compileGiven (F : Type) [FloatFormat F] (given : ObservationSnapshot)
    (input : PlanningInput) : Except PlanStoreError CompiledPlan :=
  match normalizeAndValidate given with
  | .error fault => .error (.fault fault)
  | .ok observation => compilePlan sha256 F { input with observation := observation }

/-- The same input with its steps and its rollback boundaries in another order. -/
structure PlanningInput.Rearranged (input other : PlanningInput) : Prop where
  steps : input.steps.Perm other.steps
  rollbackBoundaries : input.rollbackBoundaries.Perm other.rollbackBoundaries
  rest : { input with
    steps := other.steps
    rollbackBoundaries := other.rollbackBoundaries } = other

variable {sha256}

theorem PlanningInput.Rearranged.refl (input : PlanningInput) : input.Rearranged input :=
  ⟨.refl _, .refl _, rfl⟩

theorem ObservationSnapshot.Rearranged.refl (given : ObservationSnapshot) :
    given.Rearranged given :=
  ⟨.refl _, .refl _, .refl _, .refl _, .refl _, .refl _, .refl _, rfl⟩

open CompilationSample in
/-- A plan whose timestamps are in UTC has a canonical text. -/
theorem canonicalJson_in_utc {plan : CompiledPlan}
    (inUtc : ∀ moment ∈ plan.timestamps, moment.offset = 0) :
    ∃ text, canonicalJson ((ModelValue.model plan.payload).toPython (F := F)
      compiledTimestamp) = .ok text := by
  obtain ⟨text, dumped⟩ := ModelValue.canonicalJson_dumped (F := F) rendered
    (.model plan.payload)
  obtain ⟨canonical, isCanonical, -⟩ := canonicalJson_ok dumped
  have same := (ModelValue.canonicalValue_toPython_iff (g := compiledTimestamp) _ canonical
    plan.plain_payload isCanonical).mpr fun moment isIn =>
      ((compiledTimestamp_iff rendered_utc rendered_elsewhere moment).mpr
        (inUtc moment isIn)).symm
  refine ⟨text, ?_⟩
  rw [← dumped]
  simp only [canonicalJson, same, isCanonical]

end Compiling

namespace OrderSample

open PyValue CompilationSample

def abort : RollbackBoundary := ⟨1, "Abort before the reboot."⟩

def reopen : RollbackBoundary := ⟨1, "Reopen the host."⟩

def input (boundaries : List RollbackBoundary) : PlanningInput :=
  { CompilationSample.input tenInUtc with rollbackBoundaries := boundaries }

def unhashed (boundaries : List RollbackBoundary) : CompiledPlan :=
  { CompilationSample.plan tenInUtc with rollbackBoundaries := boundaries }

/-- The text that the compiler hashes. -/
def planText (boundaries : List RollbackBoundary) : List Char :=
  match canonicalJson ((ModelValue.model (unhashed boundaries).payload).toPython (F := FloatText)
      compiledTimestamp) with
  | .ok text => text
  | .error _ => []

def abortFirst : String :=
  "301878645faaace9feb46c2fc75df9e1f8fdc47d41cffffab29d536f4e8b3dfb"

def reopenFirst : String :=
  "58707d35bbd023e030e9b618627670448d6b7ceeb3291728fc89d9a25e8b3a2c"

/-- The digests of the texts of the two orders; no other text is taken for one of them. -/
def sha256 (text : List Char) : String :=
  if text = planText [abort, reopen] then abortFirst
  else if text = planText [reopen, abort] then reopenFirst
  else String.ofList ('t' :: text)

def Written (boundaries : List RollbackBoundary) : Prop :=
  canonicalJson ((ModelValue.model (unhashed boundaries).payload).toPython (F := FloatText)
    compiledTimestamp) = .ok (planText boundaries)

theorem written {boundaries : List RollbackBoundary}
    (inUtc : ∀ moment ∈ (unhashed boundaries).timestamps, moment.offset = 0) :
    Written boundaries := by
  obtain ⟨text, ran⟩ := canonicalJson_in_utc (F := FloatText) inUtc
  have isText : planText boundaries = text := by
    unfold planText
    simp only [ran]
  rw [Written, isText]
  exact ran

theorem compiles {first second : RollbackBoundary} {planHash : String}
    (named : first.beforeStep = 1 ∧ second.beforeStep = 1)
    (written : Written [first, second])
    (isHash : sha256 (planText [first, second]) = planHash) (digest : isDigest planHash = true) :
    compileGiven sha256 FloatText (input []).observation (input [first, second]) =
      .ok { unhashed [first, second] with planHash := planHash } := by
  have built : normalizeAndValidate (input []).observation = .ok (input []).observation := rfl
  have expires : expiry (input [first, second]) = some (unhashed []).expiresAt := by
    change expiry (CompilationSample.input tenInUtc) =
      some (CompilationSample.plan tenInUtc).expiresAt
    decide +kernel
  have hashed : canonicalHash sha256 ((ModelValue.model
      (unhashed [first, second]).payload).toPython (F := FloatText) compiledTimestamp) =
        .ok planHash := by
    rw [canonicalHash, written]
    simp [Except.map, isHash]
  have short : ¬ 128 < "june".length := by decide
  simp only [compileGiven, built]
  simp only [unhashed, CompilationSample.plan, CompilationSample.input,
    CompiledPlan.payload] at hashed
  simp only [input, unhashed, CompilationSample.plan, CompilationSample.input] at expires ⊢
  simp [compilePlan, expires, CompiledPlan.payload, List.insertionSort, named, hashed, orRaise,
    bind, Except.bind, digest, short, pure, Except.pure]

end OrderSample

end Planning

end ElKeeper
