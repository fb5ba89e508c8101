import ElKeeper.HostMaintenance

/-!
# Two admission rules for the execution of a plan

`validate_plan_for_execution` decides about a compiled plan as the compiler made
it.  `MaintenanceExecutionService.prepare` decides about the stored row and the
tables.  The two agree on the expiry, on the capability revision and on the
hash; the rest of what the first asks for is written down in `Admissible`.
-/

namespace ElKeeper

/-! ### Compiled plans -/

inductive SourceStatus where
  | ok
  | stale
  | missing
  | error
deriving DecidableEq, Repr

structure SourceObservation where
  source : String
  status : SourceStatus
  observedAt : Nat
  required : Bool
deriving DecidableEq

/-- The part of an `ObservationSnapshot` that the rules read; an assignment has one revision in
it. -/
structure ObservationSnapshot where
  capturedAt : Nat
  capabilityRevision : String
  sources : List SourceObservation
  assignmentRevisions : List (Nat × Nat)
  /-- The policies of the affected clusters, with their revisions. -/
  policies : List (Nat × Nat)
  distinct : (assignmentRevisions.map (·.1)).Nodup

inductive PredicateOutcome where
  | passed
  | warning
  | blocked
deriving DecidableEq, Repr

/-- The greatest of the revisions, and 0 without any. -/
def maxRevision (revisions : List Nat) : Nat :=
  revisions.foldr max 0

/-- The part of a `CompiledPlan` that the rules read; the compiler computes the policy revision
from the policies that it observed. -/
structure CompiledPlan where
  observationMaxAgeSeconds : Nat
  observation : ObservationSnapshot
  policyRevision : Nat
  predicates : List PredicateOutcome
  expiresAt : Nat
  planHash : String
  /-- `canonical_hash` of the plan without its hash. -/
  contentHash : String
  compiled : policyRevision = maxRevision (observation.policies.map (·.2))

namespace CompiledPlan

open MaintenanceStore

/-- The moment is at most the maximum age old and does not lie ahead. -/
def recent (plan : CompiledPlan) (now observedAt : Nat) : Bool :=
  observedAt ≤ now && now ≤ secondsAfter observedAt plan.observationMaxAgeSeconds

/-- `_observation_is_fresh`. -/
def observationIsFresh (plan : CompiledPlan) (now : Nat) : Bool :=
  let required := plan.observation.sources.filter (·.required)
  !required.isEmpty && required.all (·.status = .ok) &&
    (plan.observation.capturedAt :: required.map (·.observedAt)).all (plan.recent now)

inductive IssueCode where
  | planHashMismatch
  | planExpired
  | policyRevisionChanged
  | capabilityRevisionChanged
  | assignmentRevisionChanged
  | staleObservation
  | blockingPredicate
deriving DecidableEq, Repr

/-- A revision in a dictionary that was built from the list. -/
def revisionOf (revisions : List (Nat × Nat)) (identifier : Nat) : Option Nat :=
  revisions.reverse.lookup identifier

/-- An issue that is reported when the condition holds. -/
def issue (condition : Bool) (code : IssueCode) : List IssueCode :=
  if condition then [code] else []

/-- The issue codes of `validate_plan_for_execution`. -/
def issueCodes (plan : CompiledPlan) (now : Nat) (expectedPlanHash : String)
    (currentPolicyRevision : Nat) (currentCapabilityRevision : String)
    (currentAssignmentRevisions : List (Nat × Nat)) : List IssueCode :=
  issue (expectedPlanHash ≠ plan.planHash || plan.contentHash ≠ plan.planHash)
      .planHashMismatch ++
    issue (plan.expiresAt ≤ now) .planExpired ++
    issue (currentPolicyRevision ≠ plan.policyRevision) .policyRevisionChanged ++
    issue (currentCapabilityRevision ≠ plan.observation.capabilityRevision)
      .capabilityRevisionChanged ++
    issue (plan.observation.assignmentRevisions.any fun planned =>
      revisionOf currentAssignmentRevisions planned.1 ≠ some planned.2)
      .assignmentRevisionChanged ++
    issue (!plan.observationIsFresh now) .staleObservation ++
    issue (plan.predicates.any (· = .blocked)) .blockingPredicate

/-- The current revision of the policies that the plan was compiled from. -/
def currentPolicyRevision (plan : CompiledPlan) (database : Database) : Nat :=
  maxRevision (plan.observation.policies.map fun policy =>
    (database.policies.lookup policy.1).getD 0)

/-- `validate_plan_for_execution` finds the plan valid in the current state. -/
def valid (plan : CompiledPlan) (database : Database) (now : Nat) (expectedPlanHash : String)
    (currentCapabilityRevision : String) : Bool :=
  (plan.issueCodes now expectedPlanHash (plan.currentPolicyRevision database)
    currentCapabilityRevision
    (database.assignments.map fun row => (row.id, row.revision))).isEmpty

/-- The row of a compiled plan: previews store its observation, and in the manifest the policies
or, for the generic preview, no policies. -/
structure Stores (service : MaintenanceExecutionService) (record : PlanRecord)
    (plan : CompiledPlan) : Prop where
  maxAge : record.observationMaxAgeSeconds = plan.observationMaxAgeSeconds
  observation : record.observation =
    { capabilityRevision := some plan.observation.capabilityRevision
      capturedAt := some plan.observation.capturedAt
      sources := plan.observation.sources.map fun source =>
        (source.required, decide (source.status = .ok)) }
  planHash : record.planHash = plan.planHash
  expiresAt : record.expiresAt = plan.expiresAt
  policies : record.targetManifest.policyRevisions = plan.observation.policies ∨
    record.targetManifest.policyRevisions = []
  /-- `verify_plan_hash` computes the hash of the stored payload again. -/
  contentHash : service.verifyPlanHash record = decide (plan.contentHash = plan.planHash)

/-- What `validate_plan_for_execution` asks for and `prepare` does not check. -/
structure Admissible (plan : CompiledPlan) (record : PlanRecord) (database : Database)
    (now : Nat) : Prop where
  captured : plan.observation.capturedAt ≤ now
  observed : ∃ source ∈ plan.observation.sources, source.required
  recent : ∀ source ∈ plan.observation.sources, source.required →
    plan.recent now source.observedAt
  assignments : ∀ planned ∈ plan.observation.assignmentRevisions,
    planned ∉ record.targetManifest.assignmentRevisions →
    (database.assignment? planned.1).map (·.revision) = some planned.2
  policies : record.targetManifest.policyRevisions = [] →
    plan.currentPolicyRevision database = plan.policyRevision
  predicates : PredicateOutcome.blocked ∉ plan.predicates

end CompiledPlan

/-! ### What an accepted preparation has checked -/

namespace MaintenanceExecutionService

open Program MaintenanceStore

theorem check_ok {condition : Bool} {message : String}
    (passed : check condition message = .ok ()) : condition = true := by
  cases condition with
  | true => rfl
  | false => cases passed

/-- A sequence of checks that passes has passed each of them. -/
theorem checks_ok {first : Except Fault Unit} {rest : Unit → Except Fault Unit}
    (passed : (first >>= rest) = .ok ()) : first = .ok () ∧ rest () = .ok () := by
  cases first with
  | ok value => exact ⟨rfl, passed⟩
  | error fault => cases passed

theorem checkAssignmentRevisions_ok {database : Database} {entries : List (Nat × Nat)}
    (passed : checkAssignmentRevisions database entries = .ok ()) :
    ∀ entry ∈ entries, (database.assignment? entry.1).map (·.revision) = some entry.2 := by
  induction entries with
  | nil => simp
  | cons entry entries ih =>
      obtain ⟨identifier, expected⟩ := entry
      obtain ⟨first, rest⟩ := checks_ok passed
      have current := check_ok first
      intro other isOther
      rcases List.mem_cons.mp isOther with rfl | inRest
      · cases found : database.assignment? identifier with
        | none => simp [found] at current
        | some row =>
            rw [found] at current
            simpa using current
      · exact ih rest other inRest

theorem checkPolicyRevisions_ok {database : Database} {entries : List (Nat × Nat)}
    (passed : checkPolicyRevisions database entries = .ok ()) :
    ∀ entry ∈ entries, (database.policies.lookup entry.1).getD 0 = entry.2 := by
  induction entries with
  | nil => simp
  | cons entry entries ih =>
      obtain ⟨identifier, expected⟩ := entry
      obtain ⟨first, rest⟩ := checks_ok passed
      have current := check_ok first
      intro other isOther
      rcases List.mem_cons.mp isOther with rfl | inRest
      · simpa using current
      · exact ih rest other inRest

/-- The checks of an accepted execution. -/
structure Checked (service : MaintenanceExecutionService) (database : Database)
    (plan : PlanRecord) (now : Nat) : Prop where
  hash : service.verifyPlanHash plan = true
  unexpired : now < plan.expiresAt
  capability : plan.observation.capabilityRevision = some service.capabilityRevision
  recent : ∀ captured, plan.observation.capturedAt = some captured →
    now ≤ secondsAfter captured plan.observationMaxAgeSeconds
  healthy : ∀ source ∈ plan.observation.sources, source.1 = true → source.2 = true
  assignments : ∀ entry ∈ plan.targetManifest.assignmentRevisions,
    (database.assignment? entry.1).map (·.revision) = some entry.2
  policies : ∀ entry ∈ plan.targetManifest.policyRevisions,
    (database.policies.lookup entry.1).getD 0 = entry.2

theorem validate_ok {service : MaintenanceExecutionService} {database : Database}
    {plan : PlanRecord} {action : MaintenanceAction} {now : Nat} (executes : action.executes)
    (passed : service.validate database plan action now = .ok ()) :
    Checked service database plan now := by
  obtain ⟨_, afterLifecycle⟩ := checks_ok passed
  obtain ⟨hash, afterHash⟩ := checks_ok afterLifecycle
  obtain ⟨_, afterCheckpoint⟩ := checks_ok afterHash
  rw [if_pos executes] at afterCheckpoint
  obtain ⟨snapshot, afterSnapshot⟩ := checks_ok afterCheckpoint
  obtain ⟨revisions, _⟩ := checks_ok afterSnapshot
  obtain ⟨expiry, afterExpiry⟩ := checks_ok snapshot
  obtain ⟨capability, observed⟩ := checks_ok afterExpiry
  obtain ⟨assignments, afterAssignments⟩ := checks_ok revisions
  obtain ⟨policies, _⟩ := checks_ok afterAssignments
  have observedFacts : (∀ captured, plan.observation.capturedAt = some captured →
      now ≤ secondsAfter captured plan.observationMaxAgeSeconds) ∧
      ∀ source ∈ plan.observation.sources, source.1 = true → source.2 = true := by
    cases isCaptured : plan.observation.capturedAt with
    | none =>
        rw [isCaptured] at observed
        cases observed
    | some captured =>
        rw [isCaptured] at observed
        obtain ⟨recent, healthy⟩ := checks_ok observed
        refine ⟨?_, ?_⟩
        · rintro _ ⟨⟩
          simpa using check_ok recent
        · intro source member required
          have each := List.all_eq_true.mp (check_ok healthy) source member
          simpa [required] using each
  exact
    { hash := check_ok hash
      unexpired := by simpa using check_ok expiry
      capability := by simpa using check_ok capability
      recent := observedFacts.1
      healthy := observedFacts.2
      assignments := checkAssignmentRevisions_ok assignments
      policies := checkPolicyRevisions_ok policies }

theorem prepare_checked {service : MaintenanceExecutionService} {planId : String}
    {action : MaintenanceAction} {now : Nat} {generated : String} {database after : Database}
    {ticket : MaintenanceActionTicket} (executes : action.executes)
    (ran : (service.prepare planId action now generated).run database = (.returned ticket, after))
    {plan : PlanRecord} (stored : database.plan? planId = some plan) :
    Checked service database plan now := by
  obtain ⟨found, _, planRan, afterPlan⟩ := bind_eq_returned ran
  obtain ⟨isFound, same⟩ := getPlan_returned planRan
  rw [stored] at isFound
  cases isFound
  obtain ⟨checked, _, wasRead, afterRead⟩ := bind_eq_returned afterPlan
  cases wasRead
  obtain ⟨_, _, passed, _⟩ := bind_eq_returned afterRead
  have isOk := (ofExcept_eq_returned passed).1
  rw [same] at isOk
  exact validate_ok executes isOk

end MaintenanceExecutionService

namespace CompiledPlan

open MaintenanceStore

/-! ### The two rules compared -/

theorem issue_eq_nil {condition : Bool} {code : IssueCode} :
    issue condition code = [] ↔ condition = false := by
  cases condition <;> simp [issue]

/-- The revision that the current table has for an assignment. -/
theorem revisionOf_assignments {database : Database}
    (unique : (database.assignments.map (·.id)).Nodup) (identifier : Nat) :
    revisionOf (database.assignments.map fun row => (row.id, row.revision)) identifier =
      (database.assignment? identifier).map (·.revision) := by
  have lookups : ∀ rows : List AssignmentRow, (rows.map (·.id)).Nodup →
      ((rows.map fun row => (row.id, row.revision)).reverse.lookup identifier) =
        (rows.find? (·.id = identifier)).map (·.revision) := by
    intro rows distinct
    induction rows with
    | nil => rfl
    | cons row rows ih =>
        obtain ⟨absent, restDistinct⟩ := List.nodup_cons.mp distinct
        rw [List.map_cons, List.reverse_cons, List.lookup_append, ih restDistinct]
        by_cases same : row.id = identifier
        · have missing : rows.find? (·.id = identifier) = none := by
            rw [List.find?_eq_none]
            intro other member
            simp only [decide_eq_true_eq]
            intro isOther
            exact absent (List.mem_map.mpr ⟨other, member, isOther.trans same.symm⟩)
          simp [missing, same]
        · have different : (identifier == row.id) = false := by
            simpa using fun isRow => same isRow.symm
          simp [same, List.lookup_cons, different]
  exact lookups database.assignments unique

/-- `valid`, condition by condition. -/
theorem valid_iff {plan : CompiledPlan} {database : Database} {now : Nat}
    {expectedPlanHash currentCapabilityRevision : String}
    (unique : (database.assignments.map (·.id)).Nodup) :
    plan.valid database now expectedPlanHash currentCapabilityRevision ↔
      (expectedPlanHash = plan.planHash ∧ plan.contentHash = plan.planHash) ∧
      now < plan.expiresAt ∧
      plan.currentPolicyRevision database = plan.policyRevision ∧
      currentCapabilityRevision = plan.observation.capabilityRevision ∧
      (∀ planned ∈ plan.observation.assignmentRevisions,
        (database.assignment? planned.1).map (·.revision) = some planned.2) ∧
      plan.observationIsFresh now ∧ PredicateOutcome.blocked ∉ plan.predicates := by
  have unblocked : (∀ outcome ∈ plan.predicates, ¬ outcome = .blocked) ↔
      PredicateOutcome.blocked ∉ plan.predicates :=
    ⟨fun each member => each _ member rfl, fun absent outcome member isBlocked =>
      absent (isBlocked ▸ member)⟩
  simp [valid, issueCodes, issue_eq_nil, revisionOf_assignments unique, and_assoc, unblocked]

/-- The freshness rule, condition by condition. -/
theorem observationIsFresh_iff {plan : CompiledPlan} {now : Nat} :
    plan.observationIsFresh now ↔
      (∃ source ∈ plan.observation.sources, source.required) ∧
      (∀ source ∈ plan.observation.sources, source.required → source.status = .ok) ∧
      plan.recent now plan.observation.capturedAt ∧
      ∀ source ∈ plan.observation.sources, source.required →
        plan.recent now source.observedAt := by
  have required : ∀ holds : SourceObservation → Prop,
      (∀ source ∈ plan.observation.sources, source.required = false ∨ holds source) ↔
        ∀ source ∈ plan.observation.sources, source.required → holds source := by
    intro holds
    simp only [← Bool.not_eq_true, ← imp_iff_not_or]
  simp [observationIsFresh, and_assoc, required]

/-- The policies that were observed have the revisions of the manifest. -/
theorem currentPolicyRevision_of_listed {plan : CompiledPlan} {database : Database}
    (listed : ∀ entry ∈ plan.observation.policies,
      (database.policies.lookup entry.1).getD 0 = entry.2) :
    plan.currentPolicyRevision database = plan.policyRevision := by
  rw [plan.compiled, currentPolicyRevision, List.map_congr_left listed]

/-- An accepted execution is valid for `validate_plan_for_execution` exactly when the plan meets
what `prepare` leaves unchecked. -/
theorem accepted_valid_iff (service : MaintenanceExecutionService) {planId : String}
    {action : MaintenanceAction} (executes : action.executes) {now : Nat} {generated : String}
    {database after : Database} (unique : (database.assignments.map (·.id)).Nodup)
    {ticket : MaintenanceActionTicket}
    (accepted : (service.prepare planId action now generated).run database =
      (.returned ticket, after))
    {record : PlanRecord} (stored : database.plan? planId = some record) {plan : CompiledPlan}
    (stores : Stores service record plan) :
    plan.valid database now record.planHash service.capabilityRevision ↔
      plan.Admissible record database now := by
  have checked := MaintenanceExecutionService.prepare_checked executes accepted stored
  have hash : plan.contentHash = plan.planHash := by
    have verified := checked.hash
    rw [stores.contentHash] at verified
    exact of_decide_eq_true verified
  have unexpired : now < plan.expiresAt := stores.expiresAt ▸ checked.unexpired
  have capability : service.capabilityRevision = plan.observation.capabilityRevision := by
    have same := checked.capability
    rw [stores.observation] at same
    exact (Option.some.inj same).symm
  have captured : now ≤ secondsAfter plan.observation.capturedAt
      plan.observationMaxAgeSeconds := by
    rw [← stores.maxAge]
    exact checked.recent _ (by rw [stores.observation])
  have healthy : ∀ source ∈ plan.observation.sources, source.required →
      source.status = .ok := by
    intro source member required
    have each := checked.healthy (source.required, decide (source.status = .ok))
      (by rw [stores.observation]; exact List.mem_map.mpr ⟨source, member, rfl⟩) required
    exact of_decide_eq_true each
  rw [valid_iff unique, observationIsFresh_iff]
  constructor
  · rintro ⟨_, _, policies, _, assignments, ⟨observed, _, capturedRecent, recent⟩, predicates⟩
    simp only [CompiledPlan.recent, Bool.and_eq_true, decide_eq_true_eq] at capturedRecent
    exact
      { captured := capturedRecent.1
        observed := observed
        recent := recent
        assignments := fun planned member _ => assignments planned member
        policies := fun _ => policies
        predicates := predicates }
  · intro admissible
    have policies : plan.currentPolicyRevision database = plan.policyRevision := by
      rcases stores.policies with listed | unlisted
      · apply currentPolicyRevision_of_listed
        rw [← listed]
        exact checked.policies
      · exact admissible.policies unlisted
    refine ⟨⟨stores.planHash, hash⟩, unexpired, policies, capability, ?_,
      ⟨admissible.observed, healthy, ?_, admissible.recent⟩, admissible.predicates⟩
    · intro planned member
      by_cases isListed : planned ∈ record.targetManifest.assignmentRevisions
      · exact checked.assignments planned isListed
      · exact admissible.assignments planned member isListed
    · simpa [CompiledPlan.recent] using ⟨admissible.captured, captured⟩

end CompiledPlan

namespace ValidationSample

open CompiledPlan

/-- A plan whose host was observed 100 seconds before the snapshot. -/
def compiled : CompiledPlan where
  observationMaxAgeSeconds := 120
  observation :=
    { capturedAt := 100000000
      capabilityRevision := "capabilities"
      sources := [⟨"host", .ok, 0, true⟩]
      assignmentRevisions := [(1, 1)]
      policies := []
      distinct := by decide }
  policyRevision := 0
  predicates := [.passed]
  expiresAt := 3600000000
  planHash := "hash"
  contentHash := "hash"
  compiled := rfl

def plan : PlanRecord :=
  { HostSample.plan with
    observation := ⟨some "capabilities", some 100000000, [(true, true)]⟩ }

def database : Database :=
  { HostSample.database with plans := [plan] }

def service : MaintenanceExecutionService :=
  HostSample.service.execution

theorem stores : Stores service plan compiled where
  maxAge := rfl
  observation := rfl
  planHash := rfl
  expiresAt := rfl
  policies := .inl rfl
  contentHash := rfl

/-- The preparation is accepted at a moment. -/
def accepts (now : Nat) : Bool :=
  match ((service.prepare "plan" .execute now "token").run database).1 with
  | .returned _ => true
  | _ => false

theorem accepted_of_accepts (now : Nat) (isAccepted : accepts now) :
    ∃ ticket after, (service.prepare "plan" .execute now "token").run database =
      (.returned ticket, after) := by
  rw [accepts] at isAccepted
  rcases ran : (service.prepare "plan" .execute now "token").run database with ⟨outcome, after⟩
  rw [ran] at isAccepted
  cases outcome with
  | returned ticket => exact ⟨ticket, after, rfl⟩
  | raised fault => cases isAccepted
  | stopped => cases isAccepted

end ValidationSample

open CompiledPlan

/-- 60 seconds after the snapshot the preparation is accepted, and the host was observed 160
seconds ago. -/
theorem accepted_invalid :
    ¬ ∀ (service : MaintenanceExecutionService) (planId : String) (action : MaintenanceAction),
      action.executes → ∀ (now : Nat) (generated : String) (database after : Database),
      (database.assignments.map (·.id)).Nodup → ∀ ticket : MaintenanceActionTicket,
      (service.prepare planId action now generated).run database = (.returned ticket, after) →
      ∀ record : PlanRecord, database.plan? planId = some record → ∀ plan : CompiledPlan,
      Stores service record plan →
      plan.valid database now record.planHash service.capabilityRevision := by
  intro refines
  obtain ⟨ticket, after, ran⟩ := ValidationSample.accepted_of_accepts 160000000
    (by decide +kernel)
  have isValid := refines ValidationSample.service "plan" .execute rfl 160000000 "token"
    ValidationSample.database after (by decide) ticket ran ValidationSample.plan (by decide +kernel)
    ValidationSample.compiled ValidationSample.stores
  exact absurd isValid (by decide +kernel)

theorem accepted_valid_iff_sample :
    ∃ ticket after, (ValidationSample.service.prepare "plan" .execute 110000000 "token").run
        ValidationSample.database = (.returned ticket, after) ∧
      (ValidationSample.compiled.valid ValidationSample.database 110000000 "hash"
          "capabilities" ↔
        ValidationSample.compiled.Admissible ValidationSample.plan ValidationSample.database
          110000000) := by
  obtain ⟨ticket, after, ran⟩ := ValidationSample.accepted_of_accepts 110000000
    (by decide +kernel)
  exact ⟨ticket, after, ran, accepted_valid_iff ValidationSample.service rfl (by decide) ran
    (by decide +kernel) ValidationSample.stores⟩

end ElKeeper
