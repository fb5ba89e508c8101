import ElKeeper.CanonicalContent
import ElKeeper.Database
import ElKeeper.Results

/-!
# Hashes of stored plans

A plan is stored with a hash of its content.  The hash of a compiled plan comes with it
and covers the plan alone; any other plan is hashed with all its columns.  Whoever
verifies a plan computes the hash again from the row, and the content decides in which
of the two ways.
-/

namespace ElKeeper

open PyValue

variable {F : Type}

/-- A mapping from strings. -/
abbrev Mapping (F : Type) :=
  List (String × PyValue F)

/-- The arguments of `create_plan`, less the run and the times that it is stored with. -/
structure PlanInput (F : Type) where
  planId : String
  operationKind : String
  plan : Mapping F
  idempotencyKey : String
  observation : Option (Mapping F)
  targetNodeId : Option Int
  targetClusterId : Option Int
  targetAssignmentId : Option Int
  expectedPolicyRevision : Option Int
  expectedAssignmentRevision : Option Int
  observedAt : Option String
  targetManifest : Option (Mapping F)
  initialState : MaintenanceState
  authoritativePlanHash : Option String

/-- A row of `maintenance_plans`, with its JSON columns as texts. -/
structure StoredPlan where
  id : String
  operationKind : String
  targetNodeId : Option Int
  targetClusterId : Option Int
  targetAssignmentId : Option Int
  planJson : List Char
  observationJson : List Char
  planHash : String
  idempotencyKey : String
  expectedPolicyRevision : Option Int
  expectedAssignmentRevision : Option Int
  observedAt : Option String
  targetManifestJson : List Char
  lifecycleState : MaintenanceState
deriving DecidableEq

inductive PlanStoreError where
  | canonical (error : CanonicalError)
  | fault (fault : Fault)
deriving DecidableEq

/-! ### Hashes -/

section Hashes

variable [FloatFormat F] (sha256 : List Char → String)

/-- `canonical_hash`. -/
def canonicalHash (value : PyValue F) : Except CanonicalError String :=
  (canonicalJson value).map sha256

/-- `PlanHashInput`. -/
structure PlanHashInput (F : Type) where
  operationKind : String
  plan : PyValue F
  observation : PyValue F
  targetNodeId : Option Int
  targetClusterId : Option Int
  targetAssignmentId : Option Int
  expectedPolicyRevision : Option Int
  expectedAssignmentRevision : Option Int
  observedAt : Option String
  targetManifest : PyValue F

def optionalInt : Option Int → PyValue F
  | some value => .scalar (.int value)
  | none => .scalar .none

def optionalText : Option String → PyValue F
  | some value => .scalar (.str value)
  | none => .scalar .none

/-- The mapping that `canonical_plan_hash` hashes. -/
def PlanHashInput.mapping (value : PlanHashInput F) : Mapping F :=
  [("operation_kind", .scalar (.str value.operationKind)),
    ("plan", redactStructure value.plan),
    ("observation", redactStructure value.observation),
    ("target_node_id", optionalInt value.targetNodeId),
    ("target_cluster_id", optionalInt value.targetClusterId),
    ("target_assignment_id", optionalInt value.targetAssignmentId),
    ("expected_policy_revision", optionalInt value.expectedPolicyRevision),
    ("expected_assignment_revision", optionalInt value.expectedAssignmentRevision),
    ("observed_at", optionalText value.observedAt),
    ("target_manifest", redactStructure value.targetManifest)]

/-- `canonical_plan_hash`. -/
def canonicalPlanHash (value : PlanHashInput F) : Except CanonicalError String :=
  canonicalHash sha256 (.mapping value.mapping)

/-! ### Creating a plan -/

/-- `pop(key, None)`: the value of the key, and the mapping without it. -/
def pop (entries : Mapping F) (key : String) : Option (PyValue F) × Mapping F :=
  (entries.lookup key, entries.filter (·.1 ≠ key))

/-- Comparison with a text, which a member of a text enumeration equals too. -/
def PyValue.isText : PyValue F → String → Bool
  | .scalar (.str value), text | .enum (.str value), text => value = text
  | _, _ => false

/-- `re.fullmatch(r"[0-9a-f]{64}", ...)`. -/
def isDigest (text : String) : Bool :=
  text.toList.length = 64 && text.toList.all fun character =>
    character.isDigit || ('a' ≤ character && character ≤ 'f')

/-- `redact_structure` of a mapping is a mapping. -/
def redactMapping (entries : Mapping F) : Mapping F :=
  JsonText.dict (redactEntries entries)

/-- What `create_plan` hashes without an authoritative hash. -/
def PlanInput.hashInput (input : PlanInput F) : PlanHashInput F where
  operationKind := input.operationKind
  plan := .mapping (redactMapping input.plan)
  observation := .mapping (redactMapping (input.observation.getD []))
  targetNodeId := input.targetNodeId
  targetClusterId := input.targetClusterId
  targetAssignmentId := input.targetAssignmentId
  expectedPolicyRevision := input.expectedPolicyRevision
  expectedAssignmentRevision := input.expectedAssignmentRevision
  observedAt := input.observedAt
  targetManifest := .mapping (redactMapping (input.targetManifest.getD []))

def orRaise {α : Type} : Except CanonicalError α → Except PlanStoreError α
  | .ok value => .ok value
  | .error error => .error (.canonical error)

def raising {α : Type} (kind : FaultKind) (message : String) : Except PlanStoreError α :=
  .error (.fault ⟨kind, message⟩)

/-- The hash that a new plan is stored with. -/
def newPlanHash (input : PlanInput F) : Except PlanStoreError String :=
  match input.authoritativePlanHash with
  | none => orRaise (canonicalPlanHash sha256 input.hashInput)
  | some authoritative =>
      if ! isDigest authoritative then
        raising .valueError "authoritative_plan_hash must be a lowercase SHA-256 digest"
      else do
        let (embedded, payload) := pop (redactMapping input.plan) "plan_hash"
        let refused := raising .valueError
          "authoritative_plan_hash does not match the compiled maintenance plan"
        if ! (embedded.any (·.isText authoritative)) then refused
        else do
          let calculated ← orRaise (canonicalHash sha256 (.mapping payload))
          if calculated ≠ authoritative then refused else pure authoritative

/-- The states of the partial indexes on active plans. -/
def MaintenanceState.coversTarget : MaintenanceState → Bool
  | ready | executing | paused | recoveryRequired => true
  | _ => false

/-- Two active plans for one target. -/
def StoredPlan.overlaps (first second : StoredPlan) : Bool :=
  first.lifecycleState.coversTarget && second.lifecycleState.coversTarget &&
    ((first.targetNodeId.isSome && first.targetNodeId = second.targetNodeId) ||
      (first.targetClusterId.isSome && first.targetClusterId = second.targetClusterId) ||
      (first.targetAssignmentId.isSome &&
        first.targetAssignmentId = second.targetAssignmentId))

/-- The row of a new plan. -/
def newPlan (input : PlanInput F) (planHash : String) : Except CanonicalError StoredPlan := do
  let planJson ← canonicalJson (.mapping (redactMapping input.plan))
  let observationJson ← canonicalJson (.mapping (redactMapping (input.observation.getD [])))
  let targetManifestJson ←
    canonicalJson (.mapping (redactMapping (input.targetManifest.getD [])))
  pure
    { id := input.planId
      operationKind := input.operationKind
      targetNodeId := input.targetNodeId
      targetClusterId := input.targetClusterId
      targetAssignmentId := input.targetAssignmentId
      planJson := planJson
      observationJson := observationJson
      planHash := planHash
      idempotencyKey := input.idempotencyKey
      expectedPolicyRevision := input.expectedPolicyRevision
      expectedAssignmentRevision := input.expectedAssignmentRevision
      observedAt := input.observedAt
      targetManifestJson := targetManifestJson
      lifecycleState := input.initialState }

/-- `create_plan`: the rows afterwards and the row of the plan. -/
def createPlan (rows : List StoredPlan) (input : PlanInput F) :
    Except PlanStoreError (List StoredPlan × StoredPlan) :=
  if blank input.idempotencyKey then
    raising .valueError "idempotency_key must not be blank"
  else do
    let planHash ← newPlanHash sha256 input
    match rows.find? (·.idempotencyKey = input.idempotencyKey) with
    | some existing =>
        if existing.planHash ≠ planHash then
          raising .idempotencyConflict
            "Idempotency key was already used for a different maintenance plan"
        else pure (rows, existing)
    | none =>
        if input.initialState ∉ [.draft, .ready, .blocked] then
          raising .valueError "A new maintenance plan must start as draft, ready, or blocked"
        else do
          let row ← orRaise (newPlan input planHash)
          if rows.any fun other => other.id = row.id || other.overlaps row then
            raising .overlappingPlan "A conflicting active maintenance plan already exists"
          else pure (rows ++ [row], row)

/-- The rows after plans were created one after the other; a refused one leaves no row. -/
def createAll (rows : List StoredPlan) (inputs : List (PlanInput F)) : List StoredPlan :=
  inputs.foldl (fun reached input =>
    match createPlan sha256 reached input with
    | .ok (after, _) => after
    | .error _ => reached) rows

/-! ### Verifying a plan -/

/-- `_load_json(text, {})`, for a column that holds a mapping. -/
def loadMapping (F : Type) [FloatFormat F] (text : List Char) :
    Except PlanStoreError (Mapping F) :=
  if text = [] then .ok []
  else
    match JsonText.loads (F := F) text with
    | some (.obj entries) => .ok (ofEntries entries)
    | _ => raising .valueError "Expecting value"

/-- `isinstance(value, str)` of a value that was loaded. -/
def PyValue.text? : PyValue F → Option String
  | .scalar (.str value) => some value
  | _ => none

/-- The hash of a stored plan, calculated again. -/
def calculatedHash (F : Type) [FloatFormat F] (row : StoredPlan) :
    Except PlanStoreError String := do
  let plan ← loadMapping F row.planJson
  let observation ← loadMapping F row.observationJson
  let targetManifest ← loadMapping F row.targetManifestJson
  match (plan.lookup "plan_hash").bind PyValue.text? with
  | some embedded =>
      if embedded = row.planHash then
        orRaise (canonicalHash sha256 (.mapping (pop plan "plan_hash").2))
      else pure ""
  | none =>
      orRaise <| canonicalPlanHash sha256
        { operationKind := row.operationKind
          plan := .mapping plan
          observation := .mapping observation
          targetNodeId := row.targetNodeId
          targetClusterId := row.targetClusterId
          targetAssignmentId := row.targetAssignmentId
          expectedPolicyRevision := row.expectedPolicyRevision
          expectedAssignmentRevision := row.expectedAssignmentRevision
          observedAt := row.observedAt
          targetManifest := .mapping targetManifest }

/-- `verify_plan_hash`. -/
def verifyPlanHash (F : Type) [FloatFormat F] (rows : List StoredPlan) (planId : String)
    (expectedHash : Option String) : Except PlanStoreError Bool :=
  match rows.find? (·.id = planId) with
  | none => raising .recordNotFound s!"Maintenance plan {planId} was not found"
  | some row => do
      let calculated ← calculatedHash sha256 F row
      pure (calculated = row.planHash && (expectedHash.isNone || expectedHash = row.planHash))

/-! ### What decides a hash -/

/-- The claim's premise on the callers: a plan with a hash of its own comes with that hash. -/
def PlanInput.PassesHash (input : PlanInput F) : Prop :=
  "plan_hash" ∈ input.plan.map Prod.fst → input.authoritativePlanHash.isSome

variable {sha256}

theorem canonicalHash_congr {first second : PyValue F}
    (same : canonicalValue first = canonicalValue second) :
    canonicalHash sha256 first = canonicalHash sha256 second := by
  simp only [canonicalHash, canonicalJson, same]

/-- Equal canonical parts give equal hashes. -/
theorem canonicalPlanHash_congr {first second : PlanHashInput F}
    (plan : canonicalValue (redactStructure first.plan) =
      canonicalValue (redactStructure second.plan))
    (observation : canonicalValue (redactStructure first.observation) =
      canonicalValue (redactStructure second.observation))
    (manifest : canonicalValue (redactStructure first.targetManifest) =
      canonicalValue (redactStructure second.targetManifest))
    (columns : { first with
        plan := second.plan
        observation := second.observation
        targetManifest := second.targetManifest } = second) :
    canonicalPlanHash sha256 first = canonicalPlanHash sha256 second := by
  rw [← columns] at plan observation manifest ⊢
  apply canonicalHash_congr
  simp only [PlanHashInput.mapping, canonicalValue, canonicalEntries, plan, observation, manifest]

/-- A column that holds redacted content: what it was written from, and what is read. -/
structure Holds (text : List Char) (entries : Mapping F)
    (stored : List (String × JsonValue F)) : Prop where
  canonical : canonicalValue (.mapping (redactMapping entries)) = .ok (.obj stored)
  settled : Settled (.obj stored)
  loaded : loadMapping F text = .ok (ofEntries stored)

theorem holds_of_written {text : List Char} {entries : Mapping F}
    (written : canonicalJson (.mapping (redactMapping entries)) = .ok text) :
    ∃ stored, Holds text entries stored := by
  change canonicalJson (redactStructure (.mapping entries)) = .ok text at written
  obtain ⟨canonical, isCanonical, settled, finite, rfl, loaded⟩ := stored_reads_back written
  change canonicalValue (.mapping (redactMapping entries)) = .ok canonical at isCanonical
  obtain ⟨stored, rfl⟩ : ∃ stored, canonical = .obj stored := by
    obtain ⟨items, -, rfl⟩ := Results.map_ok isCanonical
    exact ⟨_, rfl⟩
  refine ⟨stored, isCanonical, settled, ?_⟩
  have nonempty : JsonText.write (.obj stored) ≠ [] := by
    rcases stored with _ | ⟨⟨key, value⟩, stored⟩ <;> simp [JsonText.write]
  simp [loadMapping, nonempty, loaded]

section Columns

variable {text : List Char} {entries : Mapping F} {stored : List (String × JsonValue F)}

/-- A column is read as content with the canonical form that it was written with. -/
theorem Holds.same_canonical (holds : Holds text entries stored) :
    canonicalValue (redactStructure (.mapping (ofEntries stored))) =
      canonicalValue (redactStructure (.mapping (redactMapping entries))) := by
  have twice : redactStructure (.mapping (redactMapping entries)) =
      .mapping (redactMapping entries) :=
    redactStructure_idempotent (.mapping entries)
  have reread : redactStructure (.mapping (ofEntries stored)) = .mapping (ofEntries stored) :=
    redactStructure_ofJson _ holds.settled
  rw [twice, holds.canonical, reread]
  exact canonicalValue_ofJson _ holds.settled

/-- The entries that were stored, before they were sorted. -/
theorem Holds.entries_canonical (holds : Holds text entries stored) :
    ∃ canonical, canonicalEntries (redactMapping entries) = .ok canonical ∧
      (canonical.map Prod.fst).Nodup ∧ stored = sortEntries canonical := by
  obtain ⟨canonical, ran, same⟩ := Results.map_ok holds.canonical
  have distinct : (canonical.map Prod.fst).Nodup := by
    rw [keys_canonicalEntries ran]
    exact JsonText.nodup_dict _
  refine ⟨canonical, ran, distinct, ?_⟩
  rw [JsonText.dict_of_nodup (ordered_sortEntries distinct).nodup] at same
  exact (JsonValue.obj.inj same).symm

/-- Without a key, a column is read as content with the canonical form that the rest of the
content had. -/
theorem Holds.same_canonical_filter (holds : Holds text entries stored) (keep : String → Bool) :
    canonicalValue (.mapping ((ofEntries stored).filter (keep ·.1))) =
      canonicalValue (.mapping ((redactMapping entries).filter (keep ·.1))) := by
  obtain ⟨canonical, ran, distinct, rfl⟩ := holds.entries_canonical
  have settled := settled_filter holds.settled keep
  rw [ofEntries_filter]
  have reread := canonicalValue_ofJson _ settled
  rw [ofJson] at reread
  rw [reread, canonicalValue, canonicalEntries_filter ran keep]
  have distinctRest : ((canonical.filter (keep ·.1)).map Prod.fst).Nodup :=
    distinct.sublist (List.filter_sublist.map Prod.fst)
  have ordered := ordered_sortEntries distinctRest
  simp only [Except.map, JsonText.dict_of_nodup ordered.nodup]
  congr 2
  refine settled.1.eq_of_mem_iff ordered fun entry => ?_
  simp only [mem_sortEntries, List.mem_filter]

/-- A key that the content does not have is not read from the column. -/
theorem Holds.lookup_absent (holds : Holds text entries stored) {key : String}
    (absent : key ∉ entries.map Prod.fst) : (ofEntries stored).lookup key = none := by
  obtain ⟨canonical, ran, -, rfl⟩ := holds.entries_canonical
  rw [List.lookup_eq_none_iff]
  rintro entry isIn
  rw [bne_iff_ne, ne_eq]
  rintro rfl
  have isKey : entry.1 ∈ (ofEntries (sortEntries canonical)).map Prod.fst :=
    List.mem_map_of_mem isIn
  rw [keys_ofEntries] at isKey
  obtain ⟨item, isItem, sameKey⟩ := List.mem_map.mp isKey
  have isKey : item.1 ∈ canonical.map Prod.fst :=
    List.mem_map_of_mem (mem_sortEntries.mp isItem)
  rw [keys_canonicalEntries ran] at isKey
  obtain ⟨redactedEntry, isRedacted, sameItem⟩ := List.mem_map.mp isKey
  have isRedacted := JsonText.mem_of_mem_dict isRedacted
  rw [redactEntries_eq_map] at isRedacted
  obtain ⟨original, isOriginal, rfl⟩ := List.mem_map.mp isRedacted
  exact absent (List.mem_map.mpr ⟨original, isOriginal, sameItem.trans sameKey⟩)

omit [FloatFormat F] in
theorem canonicalValue_of_isText {value : PyValue F} {text : String} (isText : value.isText text) :
    canonicalValue value = .ok (.str text) := by
  unfold PyValue.isText at isText
  split at isText
  · rw [canonicalValue, of_decide_eq_true isText]
    rfl
  · rw [canonicalValue, of_decide_eq_true isText]
    rfl
  · cases isText

/-- A text of the content is read from the column under its key. -/
theorem Holds.lookup_text (holds : Holds text entries stored) {key value : String}
    (found : ((redactMapping entries).lookup key).any (·.isText value)) :
    (ofEntries stored).lookup key = some (.scalar (.str value)) := by
  obtain ⟨canonical, ran, distinct, rfl⟩ := holds.entries_canonical
  obtain ⟨content, isContent, isText⟩ := (Option.any_eq_true _ _).mp found
  obtain ⟨result, resultRan, isResult⟩ :=
    mem_canonicalEntries_of_mem ran (mem_of_lookup_eq isContent)
  rw [canonicalValue_of_isText isText] at resultRan
  cases resultRan
  have settledKeys : ((ofEntries (sortEntries canonical)).map Prod.fst).Nodup := by
    rw [keys_ofEntries]
    exact (ordered_sortEntries distinct).nodup
  exact lookup_of_mem settledKeys (mem_ofEntries (mem_sortEntries.mpr isResult))

end Columns

theorem orRaise_ok {α : Type} {ran : Except CanonicalError α} {value : α}
    (succeeded : orRaise ran = .ok value) : ran = .ok value := by
  cases ran with
  | error error => cases succeeded
  | ok before => rw [Except.ok.inj succeeded]

theorem of_not_raised {α : Type} {condition : Prop} [Decidable condition] {kind : FaultKind}
    {message : String} {rest : Except PlanStoreError α} {value : α}
    (succeeded : (if condition then raising kind message else rest) = .ok value) :
    ¬ condition ∧ rest = .ok value := by
  by_cases holds : condition
  · rw [if_pos holds] at succeeded
    cases succeeded
  · rw [if_neg holds] at succeeded
    exact ⟨holds, succeeded⟩

/-- An authoritative hash that is accepted is the one in the plan and that of the rest of it. -/
theorem newPlanHash_authoritative {input : PlanInput F} {authoritative hash : String}
    (isAuthoritative : input.authoritativePlanHash = some authoritative)
    (ran : newPlanHash sha256 input = .ok hash) :
    hash = authoritative ∧
      ((redactMapping input.plan).lookup "plan_hash").any (·.isText authoritative) ∧
      canonicalHash sha256 (.mapping ((redactMapping input.plan).filter (·.1 ≠ "plan_hash"))) =
        .ok authoritative := by
  rw [newPlanHash, isAuthoritative] at ran
  obtain ⟨-, ran⟩ := of_not_raised ran
  obtain ⟨embedded, ran⟩ := of_not_raised ran
  obtain ⟨calculated, calculatedRan, ran⟩ := Results.bind_ok ran
  obtain ⟨same, ran⟩ := of_not_raised ran
  obtain rfl : authoritative = hash := Except.ok.inj ran
  obtain rfl : calculated = authoritative := not_not.mp same
  exact ⟨rfl, by simpa [pop] using embedded, orRaise_ok calculatedRan⟩

/-- The columns of a new plan hold its content. -/
theorem newPlan_ok {input : PlanInput F} {hash : String} {row : StoredPlan}
    (ran : newPlan input hash = .ok row) :
    (∃ stored, Holds row.planJson input.plan stored) ∧
      (∃ stored, Holds row.observationJson (input.observation.getD []) stored) ∧
      (∃ stored, Holds row.targetManifestJson (input.targetManifest.getD []) stored) ∧
      row = { row with
        id := input.planId
        operationKind := input.operationKind
        targetNodeId := input.targetNodeId
        targetClusterId := input.targetClusterId
        targetAssignmentId := input.targetAssignmentId
        planHash := hash
        idempotencyKey := input.idempotencyKey
        expectedPolicyRevision := input.expectedPolicyRevision
        expectedAssignmentRevision := input.expectedAssignmentRevision
        observedAt := input.observedAt } := by
  obtain ⟨planJson, planRan, ran⟩ := Results.bind_ok ran
  obtain ⟨observationJson, observationRan, ran⟩ := Results.bind_ok ran
  obtain ⟨manifestJson, manifestRan, ran⟩ := Results.bind_ok ran
  cases ran
  exact ⟨holds_of_written planRan, holds_of_written observationRan, holds_of_written manifestRan,
    rfl⟩

/-- The hash of a new plan is calculated again from its row. -/
theorem calculatedHash_new {input : PlanInput F} {hash : String} {row : StoredPlan}
    (passes : input.PassesHash) (hashed : newPlanHash sha256 input = .ok hash)
    (ran : newPlan input hash = .ok row) : calculatedHash sha256 F row = .ok row.planHash := by
  obtain ⟨⟨plan, holdsPlan⟩, ⟨observation, holdsObservation⟩, ⟨manifest, holdsManifest⟩, columns⟩ :=
    newPlan_ok ran
  rw [calculatedHash, holdsPlan.loaded, holdsObservation.loaded, holdsManifest.loaded]
  have sameHash : row.planHash = hash := by rw [columns]
  simp only [bind, Except.bind]
  cases isAuthoritative : input.authoritativePlanHash with
  | some authoritative =>
      -- The plan carries the hash, which covers the rest of the plan.
      obtain ⟨rfl, embedded, calculated⟩ := newPlanHash_authoritative isAuthoritative hashed
      have loaded := holdsPlan.lookup_text embedded
      simp only [loaded, Option.bind_some, PyValue.text?, sameHash, if_true, pop]
      have rest := holdsPlan.same_canonical_filter (· ≠ "plan_hash")
      rw [canonicalHash_congr rest, calculated]
      rfl
  | none =>
      have absent : "plan_hash" ∉ input.plan.map Prod.fst := by
        intro carried
        have passed := passes carried
        rw [isAuthoritative] at passed
        cases passed
      simp only [holdsPlan.lookup_absent absent, Option.bind_none]
      rw [newPlanHash, isAuthoritative] at hashed
      rw [sameHash, ← hashed]
      congr 1
      refine canonicalPlanHash_congr holdsPlan.same_canonical holdsObservation.same_canonical
        holdsManifest.same_canonical ?_
      rw [columns]
      rfl

/-! ### Every stored plan verifies -/

/-- What an accepted plan leaves: its row, which was there already or is new. -/
theorem createPlan_ok {rows after : List StoredPlan} {input : PlanInput F} {row : StoredPlan}
    (created : createPlan sha256 rows input = .ok (after, row)) :
    ∃ hash, newPlanHash sha256 input = .ok hash ∧ row.planHash = hash ∧
      ((after = rows ∧ row ∈ rows) ∨
        (newPlan input hash = .ok row ∧ after = rows ++ [row] ∧
          ∀ other ∈ rows, other.id ≠ row.id)) := by
  obtain ⟨-, created⟩ := of_not_raised created
  obtain ⟨hash, hashed, created⟩ := Results.bind_ok created
  refine ⟨hash, hashed, ?_⟩
  cases found : rows.find? (·.idempotencyKey = input.idempotencyKey) with
  | some existing =>
      simp only [found] at created
      obtain ⟨same, created⟩ := of_not_raised created
      cases created
      exact ⟨not_not.mp same, .inl ⟨rfl, List.mem_of_find?_eq_some found⟩⟩
  | none =>
      simp only [found] at created
      obtain ⟨-, created⟩ := of_not_raised created
      obtain ⟨newRow, isRow, created⟩ := Results.bind_ok created
      obtain ⟨admitted, created⟩ := of_not_raised created
      cases created
      have isRow := orRaise_ok isRow
      refine ⟨by rw [(newPlan_ok isRow).2.2.2], .inr ⟨isRow, rfl, ?_⟩⟩
      intro other isIn sameId
      exact admitted (List.any_eq_true.mpr ⟨other, isIn, by simp [sameId]⟩)

/-- The rows of a table whose plans all verify. -/
structure PlansVerify (F : Type) [FloatFormat F] (sha256 : List Char → String)
    (rows : List StoredPlan) : Prop where
  distinct : (rows.map StoredPlan.id).Nodup
  calculated : ∀ row ∈ rows, calculatedHash sha256 F row = .ok row.planHash

namespace PlansVerify

variable {rows after : List StoredPlan} {input : PlanInput F} {row : StoredPlan}

theorem createPlan (verify : PlansVerify F sha256 rows) (passes : input.PassesHash)
    (created : ElKeeper.createPlan sha256 rows input = .ok (after, row)) :
    PlansVerify F sha256 after ∧ row ∈ after := by
  obtain ⟨hash, hashed, -, ⟨rfl, isIn⟩ | ⟨isRow, rfl, fresh⟩⟩ := createPlan_ok created
  · exact ⟨verify, isIn⟩
  · refine ⟨⟨?_, ?_⟩, by simp⟩
    · rw [List.map_append, List.map_singleton]
      refine verify.distinct.append (List.nodup_singleton _) (List.disjoint_singleton.mpr ?_)
      rintro isId
      obtain ⟨other, isOther, sameId⟩ := List.mem_map.mp isId
      exact fresh other isOther sameId
    · intro other isOther
      rcases List.mem_append.mp isOther with isOther | isNew
      · exact verify.calculated other isOther
      · rw [List.mem_singleton.mp isNew]
        exact calculatedHash_new passes hashed isRow

theorem createAll {inputs : List (PlanInput F)} (verify : PlansVerify F sha256 rows)
    (passes : ∀ input ∈ inputs, input.PassesHash) :
    PlansVerify F sha256 (ElKeeper.createAll sha256 rows inputs) := by
  induction inputs generalizing rows with
  | nil => exact verify
  | cons input inputs ih =>
      obtain ⟨first, rest⟩ := List.forall_mem_cons.mp passes
      rw [ElKeeper.createAll, List.foldl_cons]
      cases created : ElKeeper.createPlan sha256 rows input with
      | error error => exact ih verify rest
      | ok reached => exact ih (verify.createPlan first created).1 rest

theorem verifyPlanHash (verify : PlansVerify F sha256 rows) (isIn : row ∈ rows) :
    ElKeeper.verifyPlanHash sha256 F rows row.id none = .ok true := by
  have found : rows.find? (·.id = row.id) = some row :=
    find?_of_nodup_key verify.distinct isIn
  simp only [ElKeeper.verifyPlanHash, found, verify.calculated row isIn]
  simp [bind, Except.bind, pure, Except.pure]

end PlansVerify

/-! ### Different content has different hashes -/

/-- The hashed fields of a plan, redacted and in their canonical form. -/
structure HashedContent (F : Type) where
  operationKind : String
  plan : JsonValue F
  observation : JsonValue F
  targetNodeId : Option Int
  targetClusterId : Option Int
  targetAssignmentId : Option Int
  expectedPolicyRevision : Option Int
  expectedAssignmentRevision : Option Int
  observedAt : Option String
  targetManifest : JsonValue F

/-- The canonical content of the arguments of `create_plan`. -/
def PlanInput.content (input : PlanInput F) : Except CanonicalError (HashedContent F) := do
  let plan ← canonicalValue (.mapping (redactMapping input.plan))
  let observation ← canonicalValue (.mapping (redactMapping (input.observation.getD [])))
  let targetManifest ← canonicalValue (.mapping (redactMapping (input.targetManifest.getD [])))
  pure
    { operationKind := input.operationKind
      plan := plan
      observation := observation
      targetNodeId := input.targetNodeId
      targetClusterId := input.targetClusterId
      targetAssignmentId := input.targetAssignmentId
      expectedPolicyRevision := input.expectedPolicyRevision
      expectedAssignmentRevision := input.expectedAssignmentRevision
      observedAt := input.observedAt
      targetManifest := targetManifest }

def jsonInt : Option Int → JsonValue F
  | some value => .int value
  | none => .null

def jsonText : Option String → JsonValue F
  | some value => .str value
  | none => .null

/-- The canonical entries of what `canonical_plan_hash` hashes. -/
def HashedContent.entries (content : HashedContent F) : List (String × JsonValue F) :=
  [("operation_kind", .str content.operationKind),
    ("plan", content.plan),
    ("observation", content.observation),
    ("target_node_id", jsonInt content.targetNodeId),
    ("target_cluster_id", jsonInt content.targetClusterId),
    ("target_assignment_id", jsonInt content.targetAssignmentId),
    ("expected_policy_revision", jsonInt content.expectedPolicyRevision),
    ("expected_assignment_revision", jsonInt content.expectedAssignmentRevision),
    ("observed_at", jsonText content.observedAt),
    ("target_manifest", content.targetManifest)]

omit [FloatFormat F] in
theorem canonicalValue_optionalInt (value : Option Int) :
    canonicalValue (optionalInt value : PyValue F) = .ok (jsonInt value) := by
  cases value <;> rfl

omit [FloatFormat F] in
theorem canonicalValue_optionalText (value : Option String) :
    canonicalValue (optionalText value : PyValue F) = .ok (jsonText value) := by
  cases value <;> rfl

omit [FloatFormat F] in
/-- The content is what is hashed. -/
theorem canonicalEntries_hashInput (input : PlanInput F) :
    canonicalEntries input.hashInput.mapping = input.content.map HashedContent.entries := by
  have twice : ∀ entries : Mapping F, redactStructure (.mapping (redactMapping entries)) =
      .mapping (redactMapping entries) :=
    fun entries => redactStructure_idempotent (.mapping entries)
  simp only [PlanHashInput.mapping, PlanInput.hashInput, twice, canonicalEntries,
    PlanInput.content, canonicalValue_optionalInt, canonicalValue_optionalText]
  cases canonicalValue (.mapping (redactMapping input.plan)) with
  | error error => rfl
  | ok plan =>
      cases canonicalValue (.mapping (redactMapping (input.observation.getD []))) with
      | error error => rfl
      | ok observation =>
          cases canonicalValue (.mapping (redactMapping (input.targetManifest.getD []))) <;> rfl

omit [FloatFormat F] in
theorem HashedContent.eq_of_lookup {first second : HashedContent F}
    (same : ∀ key, first.entries.lookup key = second.entries.lookup key) : first = second := by
  have injInt : ∀ {a b : Option Int}, (jsonInt a : JsonValue F) = jsonInt b → a = b := by
    rintro (_ | a) (_ | b) same <;> simp_all [jsonInt]
  have injText : ∀ {a b : Option String}, (jsonText a : JsonValue F) = jsonText b → a = b := by
    rintro (_ | a) (_ | b) same <;> simp_all [jsonText]
  have operationKind := JsonValue.str.inj (Option.some.inj (same "operation_kind"))
  have plan : first.plan = second.plan := Option.some.inj (same "plan")
  have observation : first.observation = second.observation :=
    Option.some.inj (same "observation")
  have node := injInt (Option.some.inj (same "target_node_id"))
  have cluster := injInt (Option.some.inj (same "target_cluster_id"))
  have assignment := injInt (Option.some.inj (same "target_assignment_id"))
  have policy := injInt (Option.some.inj (same "expected_policy_revision"))
  have revision := injInt (Option.some.inj (same "expected_assignment_revision"))
  have observedAt := injText (Option.some.inj (same "observed_at"))
  have manifest : first.targetManifest = second.targetManifest :=
    Option.some.inj (same "target_manifest")
  obtain ⟨⟩ := first
  obtain ⟨⟩ := second
  simp_all

/-- Plans without an authoritative hash that share a hash share their content. -/
theorem content_of_same_hash (injective : Function.Injective sha256) {first second : PlanInput F}
    {hash : String} (noFirst : first.authoritativePlanHash = none)
    (noSecond : second.authoritativePlanHash = none)
    (firstHashed : newPlanHash sha256 first = .ok hash)
    (secondHashed : newPlanHash sha256 second = .ok hash) : first.content = second.content := by
  rw [newPlanHash, noFirst] at firstHashed
  rw [newPlanHash, noSecond] at secondHashed
  obtain ⟨text, written, hashed⟩ := Results.map_ok (orRaise_ok firstHashed)
  obtain ⟨other, otherWritten, otherHashed⟩ := Results.map_ok (orRaise_ok secondHashed)
  obtain rfl : text = other := injective (hashed.trans otherHashed.symm)
  have same := canonicalValue_of_same_text written otherWritten
  obtain ⟨canonical, isCanonical, -⟩ := canonicalJson_ok written
  obtain ⟨entries, ran, -⟩ := Results.map_ok isCanonical
  obtain ⟨otherCanonical, isOther, -⟩ := canonicalJson_ok otherWritten
  obtain ⟨otherEntries, otherRan, -⟩ := Results.map_ok isOther
  have agree := lookup_of_same_canonical ran otherRan (by simp [PlanHashInput.mapping])
    (by simp [PlanHashInput.mapping]) same
  rw [canonicalEntries_hashInput] at ran otherRan
  obtain ⟨content, isContent, rfl⟩ := Results.map_ok ran
  obtain ⟨otherContent, isOtherContent, rfl⟩ := Results.map_ok otherRan
  rw [isContent, isOtherContent, HashedContent.eq_of_lookup agree]

variable (sha256) in
/-- A plan that is accepted after any others verifies, and so does every row then; two plans
without an authoritative hash have different hashes if anything hashed of them differs. -/
theorem stored_plans_verify :
    (∀ (inputs : List (PlanInput F)) (input : PlanInput F), (∀ other ∈ inputs, other.PassesHash) →
      input.PassesHash → ∀ after row,
        createPlan sha256 (createAll sha256 [] inputs) input = .ok (after, row) →
          row ∈ after ∧ ∀ other ∈ after, verifyPlanHash sha256 F after other.id none = .ok true) ∧
    (Function.Injective sha256 →
      ∀ (first second : PlanInput F) (rows rows' after after' : List StoredPlan)
        (row row' : StoredPlan), first.authoritativePlanHash = none →
        second.authoritativePlanHash = none →
        createPlan sha256 rows first = .ok (after, row) →
        createPlan sha256 rows' second = .ok (after', row') →
        first.content ≠ second.content → row.planHash ≠ row'.planHash) := by
  constructor
  · intro inputs input allPass passes after row created
    have start : PlansVerify F sha256 [] := ⟨List.nodup_nil, by simp⟩
    obtain ⟨verify, isIn⟩ := (start.createAll allPass).createPlan passes created
    exact ⟨isIn, fun other isOther => verify.verifyPlanHash isOther⟩
  · intro injective first second rows rows' after after' row row' noFirst noSecond created
      created' differs sameHash
    obtain ⟨hash, hashed, isHash, -⟩ := createPlan_ok created
    obtain ⟨hash', hashed', isHash', -⟩ := createPlan_ok created'
    obtain rfl : hash = hash' := by rw [← isHash, sameHash, isHash']
    exact differs (content_of_same_hash injective noFirst noSecond hashed hashed')

end Hashes

/-! ### Sample plans -/

namespace PlanSample

def reboot (planId idempotencyKey reason : String) : PlanInput FloatText where
  planId := planId
  operationKind := "reboot"
  plan :=
    [("reason", .scalar (.str reason)),
      ("node", .mapping [("id", .scalar (.int 7)), ("join-token", .scalar (.str "sesame"))]),
      ("captured_at", .timestamp ⟨⟨2026, 6, 1, 12, 30, 0, 250000, by decide⟩, 7200⟩)]
  idempotencyKey := idempotencyKey
  observation := none
  targetNodeId := some 7
  targetClusterId := none
  targetAssignmentId := none
  expectedPolicyRevision := some 1
  expectedAssignmentRevision := none
  observedAt := none
  targetManifest := some [("roles", .sequence [.scalar (.str "hot"), .scalar .none])]
  initialState := .draft
  authoritativePlanHash := none

def planText (reason : String) : List Char :=
  "\x7b\"captured_at\":\"2026-06-01T10:30:00.250000Z\",\"node\":\x7b\"id\":7,".toList ++
    "\"join-token\":\"[REDACTED]\"\x7d,\"reason\":\"".toList ++ reason.toList ++ "\"\x7d".toList

def hashedText (reason : String) : List Char :=
  "\x7b\"expected_assignment_revision\":null,\"expected_policy_revision\":1,".toList ++
    "\"observation\":\x7b\x7d,\"observed_at\":null,\"operation_kind\":\"reboot\",".toList ++
    "\"plan\":".toList ++ planText reason ++
    ",\"target_assignment_id\":null,\"target_cluster_id\":null,".toList ++
    "\"target_manifest\":\x7b\"roles\":[\"hot\",null]\x7d,\"target_node_id\":7\x7d".toList

def updateDigest : String :=
  "c53d08c2e47b3a493aede37f40750032217e89aecaf291c336f2eef85af4f040"

def diskDigest : String :=
  "d7b70954665e0baf1ce84e46957c06a98a95dfa3a26d5e8579b7d30d5ca6adfa"

/-- The digests of the two texts; no other text is hashed here. -/
def sha256 (text : List Char) : String :=
  if text = hashedText "kernel update" then updateDigest
  else if text = hashedText "disk" then diskDigest
  else String.ofList ('t' :: text)

/-- The text of a digest. -/
def hashed (digest : String) : List Char :=
  if digest = updateDigest then hashedText "kernel update"
  else if digest = diskDigest then hashedText "disk"
  else digest.toList.tail

theorem sha256_injective : Function.Injective sha256 := by
  have untouched : ∀ (digest : String) (text : List Char), digest.toList.head? ≠ some 't' →
      String.ofList ('t' :: text) ≠ digest := by
    rintro _ text other rfl
    exact other (by simp)
  have inverse : Function.LeftInverse hashed sha256 := by
    intro text
    unfold sha256
    split
    next isUpdate => rw [isUpdate, hashed, if_pos rfl]
    split
    next isDisk =>
      rw [isDisk, hashed, if_neg (by decide), if_pos rfl]
    next =>
      rw [hashed, if_neg (untouched _ _ (by decide)), if_neg (untouched _ _ (by decide))]
      simp
  exact inverse.injective

def row (planId idempotencyKey reason planHash : String) : StoredPlan where
  id := planId
  operationKind := "reboot"
  targetNodeId := some 7
  targetClusterId := none
  targetAssignmentId := none
  planJson := planText reason
  observationJson := "\x7b\x7d".toList
  planHash := planHash
  idempotencyKey := idempotencyKey
  expectedPolicyRevision := some 1
  expectedAssignmentRevision := none
  observedAt := none
  targetManifestJson := "\x7b\"roles\":[\"hot\",null]\x7d".toList
  lifecycleState := .draft

def updateRow : StoredPlan :=
  row "plan-1" "june" "kernel update" updateDigest

def diskRow : StoredPlan :=
  row "plan-2" "july" "disk" diskDigest

end PlanSample

open PlanSample in
/-- A plan that is stored after another one verifies, and has another hash. -/
theorem stored_plans_verify_reboot :
    verifyPlanHash sha256 FloatText [updateRow, diskRow] "plan-2" none = .ok true ∧
      updateRow.planHash ≠ diskRow.planHash := by
  have first : createPlan sha256 [] (reboot "plan-1" "june" "kernel update") =
      .ok ([updateRow], updateRow) := by
    decide +kernel
  have reached : createAll sha256 [] [reboot "plan-1" "june" "kernel update"] = [updateRow] := by
    simp [createAll, first]
  have second : createPlan sha256 [updateRow] (reboot "plan-2" "july" "disk") =
      .ok ([updateRow, diskRow], diskRow) := by
    decide +kernel
  have passes : ∀ planId key reason, (reboot planId key reason).PassesHash := by
    intro planId key reason carried
    simp [reboot] at carried
  obtain ⟨verify, differ⟩ := stored_plans_verify (F := FloatText) sha256
  refine ⟨?_, differ sha256_injective _ _ _ _ _ _ _ _ rfl rfl first second ?_⟩
  · rw [← reached] at second
    exact (verify _ _ (by simpa using passes _ _ _) (passes _ _ _) _ _ second).2 diskRow (by simp)
  · intro same
    have samePlan := congrArg (Except.map fun content => JsonText.write content.plan) same
    exact absurd samePlan (by decide +kernel)

end ElKeeper
