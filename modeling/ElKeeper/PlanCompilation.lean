import ElKeeper.PlanHashes
import ElKeeper.PlanningModels
import ElKeeper.Results

/-!
# Compiled plans in the store

The compiler hashes the models of a plan as they are, and brings their timestamps to UTC.
The store hashes a JSON dump of the plan, in which pydantic has written the timestamps
with their offsets.  The two hashes are the same for a plan whose timestamps are in UTC.
-/

namespace ElKeeper

namespace Planning

open PyValue Dumped

variable {F : Type}

/-! ### Dumps as Python values -/

namespace ModelValue

mutual

/-- A dump, with the values that stand for its timestamps. -/
def toPython (timestamp : AwareTimestamp → PyValue F) : ModelValue → PyValue F
  | .none => .scalar .none
  | .bool value => .scalar (.bool value)
  | .int value => .scalar (.int value)
  | .str value => .scalar (.str value)
  | .enum value => .enum (.str value)
  | .timestamp value => timestamp value
  | .tuple items => .sequence (itemsToPython timestamp items)
  | .model fields => .mapping (fieldsToPython timestamp fields)

def itemsToPython (timestamp : AwareTimestamp → PyValue F) : List ModelValue → List (PyValue F)
  | [] => []
  | item :: items => toPython timestamp item :: itemsToPython timestamp items

def fieldsToPython (timestamp : AwareTimestamp → PyValue F) :
    List (String × ModelValue) → Mapping F
  | [] => []
  | (name, value) :: fields => (name, toPython timestamp value) :: fieldsToPython timestamp fields

end

end ModelValue

/-- The text of a timestamp in the compiler's canonical form; one that has no moment in UTC is
refused by the canonical form. -/
def compiledTimestamp (timestamp : AwareTimestamp) : PyValue F :=
  match timestamp.utc with
  | some moment => .scalar (.str (String.ofList (Iso.auto moment ++ ['Z'])))
  | none => .timestamp timestamp

/-- What pydantic writes for a timestamp in `model_dump(mode="json")`. -/
def dumpedTimestamp (render : AwareTimestamp → String) (timestamp : AwareTimestamp) : PyValue F :=
  .scalar (.str (render timestamp))

/-! ### Compiling a plan -/

structure CompiledPlan where
  idempotencyKey : Option String
  target : PlanningTarget
  policy : MaintenancePolicy
  policyRevision : Nat
  backend : MaintenanceBackend
  observation : ObservationSnapshot
  predicates : List PredicateResult
  impact : ImpactManifest
  steps : List PlanStep
  rollbackBoundaries : List RollbackBoundary
  createdAt : AwareTimestamp
  expiresAt : AwareTimestamp
  planHash : String

namespace CompiledPlan

/-- The payload of a plan: its fields without the hash. -/
def payload (plan : CompiledPlan) : List (String × ModelValue) :=
  [("schema_version", .int 1),
    ("idempotency_key", dump plan.idempotencyKey),
    ("target", dump plan.target),
    ("policy", dump plan.policy),
    ("policy_revision", dump plan.policyRevision),
    ("backend", dump plan.backend),
    ("observation", dump plan.observation),
    ("predicates", dump plan.predicates),
    ("impact", dump plan.impact),
    ("steps", dump plan.steps),
    ("rollback_boundaries", dump plan.rollbackBoundaries),
    ("created_at", dump plan.createdAt),
    ("expires_at", dump plan.expiresAt)]

def fields (plan : CompiledPlan) : List (String × ModelValue) :=
  plan.payload ++ [("plan_hash", dump plan.planHash)]

/-- `model_dump(mode="json")`. -/
def jsonDump (render : AwareTimestamp → String) (plan : CompiledPlan) : Mapping F :=
  ModelValue.fieldsToPython (dumpedTimestamp render) plan.fields

/-- The timestamps of a plan. -/
def timestamps (plan : CompiledPlan) : List AwareTimestamp :=
  (ModelValue.model plan.payload).timestamps

end CompiledPlan

/-- The arguments of `compile_plan`.  The zone of the creation time gives an offset for every
wall clock. -/
structure PlanningInput where
  target : PlanningTarget
  policy : MaintenancePolicy
  policyRevision : Int
  backend : MaintenanceBackend
  observation : ObservationSnapshot
  predicates : List PredicateResult
  impact : ImpactManifest
  steps : List PlanStep
  rollbackBoundaries : List RollbackBoundary
  createdAt : AwareTimestamp
  zone : DateTime → Int
  idempotencyKey : Option String

/-- `created_at + timedelta(seconds=...)`, on the wall clock. -/
def expiry (input : PlanningInput) : Option AwareTimestamp :=
  let instant : Int := input.createdAt.wall.instant
  (DateTime.ofInstant (instant + input.policy.planValiditySeconds * 1000000)).map fun wall =>
    ⟨wall, input.zone wall⟩

section Compiling

variable [FloatFormat F] (sha256 : List Char → String)

/-- `compile_plan`. -/
def compilePlan (F : Type) [FloatFormat F] (input : PlanningInput) :
    Except PlanStoreError CompiledPlan :=
  if input.policyRevision < 0 then
    raising .valueError "policy_revision cannot be negative"
  else
    let orderedSteps := input.steps.insertionSort fun first second =>
      first.sequence ≤ second.sequence
    if orderedSteps = [] then
      raising .valueError "A compiled plan requires at least one step"
    else if orderedSteps.map PlanStep.sequence ≠ List.range' 1 orderedSteps.length then
      raising .valueError "Plan step sequences must be contiguous and start at one"
    else if ¬ (input.predicates.map PredicateResult.identifier).Nodup then
      raising .valueError "A plan cannot contain duplicate predicate identifiers"
    else if input.rollbackBoundaries.any fun boundary =>
        boundary.beforeStep ∉ List.range' 1 orderedSteps.length then
      raising .valueError "Rollback boundaries must reference an existing step"
    else
      match expiry input with
      | none => .error (.canonical .overflow)
      | some expiresAt => do
          let plan : CompiledPlan :=
            { idempotencyKey := input.idempotencyKey
              target := input.target
              policy := input.policy
              policyRevision := input.policyRevision.toNat
              backend := input.backend
              observation := input.observation
              predicates := input.predicates
              impact := input.impact
              steps := orderedSteps
              rollbackBoundaries := input.rollbackBoundaries.insertionSort fun first second =>
                first.beforeStep ≤ second.beforeStep
              createdAt := input.createdAt
              expiresAt := expiresAt
              planHash := "" }
          let planHash ← orRaise <| canonicalHash sha256 <|
            (ModelValue.model plan.payload).toPython (F := F) compiledTimestamp
          -- The model checks its fields when it is built with the hash.
          if input.idempotencyKey.any (fun key => key.length = 0 || 128 < key.length) then
            raising .valueError "idempotency_key"
          else if ! isDigest planHash then raising .valueError "plan_hash"
          else pure { plan with planHash := planHash }

end Compiling

/-! ### One dump with two values for its timestamps -/

/-- Entries are determined by their keys and by what is found under each of them. -/
theorem eq_of_lookup {α : Type} {first second : List (String × α)}
    (sameKeys : first.map Prod.fst = second.map Prod.fst) (distinct : (first.map Prod.fst).Nodup)
    (same : ∀ key, first.lookup key = second.lookup key) : first = second := by
  induction first generalizing second with
  | nil => exact (List.map_eq_nil_iff.mp sameKeys.symm).symm
  | cons entry first ih =>
      obtain ⟨other, rest, rfl⟩ : ∃ other rest, second = other :: rest := by
        cases second with
        | nil => cases sameKeys
        | cons other rest => exact ⟨other, rest, rfl⟩
      obtain ⟨key, value⟩ := entry
      obtain ⟨otherKey, otherValue⟩ := other
      obtain ⟨rfl, sameRest⟩ := List.cons.inj sameKeys
      obtain ⟨fresh, distinctRest⟩ := List.nodup_cons.mp distinct
      have sameValue := same key
      rw [List.lookup_cons_self, List.lookup_cons_self] at sameValue
      cases sameValue
      congr 1
      refine ih sameRest distinctRest fun other => ?_
      by_cases isKey : other = key
      · have absent : ∀ entries : List (String × α), entries.map Prod.fst = first.map Prod.fst →
            entries.lookup other = none := by
          intro entries keys
          rw [List.lookup_eq_none_iff]
          intro entry isIn
          rw [bne_iff_ne, ne_eq, isKey]
          rintro rfl
          have isName : entry.1 ∈ entries.map Prod.fst := List.mem_map_of_mem isIn
          rw [keys] at isName
          exact fresh isName
        rw [absent first rfl, absent rest sameRest.symm]
      · have sameOther := same other
        rwa [List.lookup_cons, List.lookup_cons, beq_eq_false_iff_ne.mpr isKey] at sameOther

namespace ModelValue

variable {f g : AwareTimestamp → PyValue F}

theorem keys_fieldsToPython (fields : List (String × ModelValue)) :
    (fieldsToPython f fields).map Prod.fst = fields.map Prod.fst := by
  induction fields with
  | nil => rfl
  | cons field fields ih => rw [fieldsToPython, List.map_cons, List.map_cons, ih]

mutual

/-- A dump has nothing that is redacted. -/
theorem redactStructure_toPython (kept : ∀ moment, redactStructure (f moment) = f moment) :
    ∀ value : ModelValue, value.Plain → redactStructure (value.toPython f) = value.toPython f
  | .none, _ | .bool _, _ | .int _, _ | .str _, _ | .enum _, _ => rfl
  | .timestamp moment, _ => kept moment
  | .tuple items, plain => by
      simp only [toPython, redactStructure]
      rw [redactItems_itemsToPython kept items plain]
  | .model fields, plain => by
      simp only [toPython, redactStructure]
      have distinct : ((fieldsToPython f fields).map Prod.fst).Nodup := by
        rw [keys_fieldsToPython]
        exact plain.1.1
      rw [redactEntries_fieldsToPython kept fields plain.1.2 plain.2,
        JsonText.dict_of_nodup distinct]

theorem redactItems_itemsToPython (kept : ∀ moment, redactStructure (f moment) = f moment) :
    ∀ items : List ModelValue, ArePlain items →
      redactItems (itemsToPython f items) = itemsToPython f items
  | [], _ => rfl
  | item :: items, plain => by
      simp only [itemsToPython, redactItems]
      rw [redactStructure_toPython kept item plain.1,
        redactItems_itemsToPython kept items plain.2]

theorem redactEntries_fieldsToPython (kept : ∀ moment, redactStructure (f moment) = f moment) :
    ∀ fields : List (String × ModelValue),
      (∀ name ∈ fields.map Prod.fst, Json.sensitiveKey name = false) → HavePlain fields →
        redactEntries (fieldsToPython f fields) = fieldsToPython f fields
  | [], _, _ => rfl
  | (name, value) :: fields, plainNames, plain => by
      obtain ⟨first, rest⟩ := List.forall_mem_cons.mp plainNames
      simp only [fieldsToPython, redactEntries]
      rw [redactStructure_toPython kept value plain.1,
        redactEntries_fieldsToPython kept fields rest plain.2, first]
      rfl

end

mutual

/-- Two dumps of one value have one canonical form where their timestamps do. -/
theorem canonicalValue_toPython_iff : ∀ (value : ModelValue) (canonical : JsonValue F),
    value.Plain → canonicalValue (value.toPython f) = .ok canonical →
      (canonicalValue (value.toPython g) = .ok canonical ↔
        ∀ moment ∈ value.timestamps, canonicalValue (f moment) = canonicalValue (g moment))
  | .none, _, _, ran | .bool _, _, _, ran | .int _, _, _, ran | .str _, _, _, ran
  | .enum _, _, _, ran => iff_of_true ran (by simp [timestamps])
  | .timestamp moment, canonical, _, ran => by
      simp only [toPython] at ran ⊢
      simp only [timestamps, List.forall_mem_singleton, ran]
      exact eq_comm
  | .tuple items, _, plain, ran => by
      simp only [toPython, canonicalValue] at ran ⊢
      obtain ⟨canonical, itemsRan, rfl⟩ := Results.map_ok ran
      rw [timestamps, ← canonicalItems_toPython_iff items canonical plain itemsRan]
      constructor
      · intro other
        obtain ⟨_, otherRan, same⟩ := Results.map_ok other
        rw [otherRan, JsonValue.arr.inj same]
      · intro otherRan
        rw [otherRan]
        rfl
  | .model fields, _, plain, ran => by
      simp only [toPython] at ran ⊢
      obtain ⟨canonical, fieldsRan, same⟩ := Results.map_ok ran
      rw [timestamps, ← canonicalEntries_toPython_iff fields canonical plain.2 fieldsRan]
      constructor
      · intro other
        obtain ⟨otherCanonical, otherRan, -⟩ := Results.map_ok other
        have distinct : ∀ h : AwareTimestamp → PyValue F,
            ((fieldsToPython h fields).map Prod.fst).Nodup := by
          intro h
          rw [keys_fieldsToPython]
          exact plain.1.1
        have agree := lookup_of_same_canonical fieldsRan otherRan (distinct f) (distinct g)
          (ran.trans other.symm)
        have keys : canonical.map Prod.fst = fields.map Prod.fst := by
          rw [keys_canonicalEntries fieldsRan, keys_fieldsToPython]
        have otherKeys : otherCanonical.map Prod.fst = fields.map Prod.fst := by
          rw [keys_canonicalEntries otherRan, keys_fieldsToPython]
        rw [otherRan, eq_of_lookup (keys.trans otherKeys.symm) (keys ▸ plain.1.1) agree]
      · intro otherRan
        rw [canonicalValue, otherRan, ← same]
        rfl

theorem canonicalItems_toPython_iff : ∀ (items : List ModelValue) (canonical : List (JsonValue F)),
    ArePlain items → canonicalItems (itemsToPython f items) = .ok canonical →
      (canonicalItems (itemsToPython g items) = .ok canonical ↔
        ∀ moment ∈ timestampsOfItems items, canonicalValue (f moment) = canonicalValue (g moment))
  | [], _, _, ran => iff_of_true ran (by simp [timestampsOfItems])
  | item :: items, _, plain, ran => by
      obtain ⟨first, rest, firstRan, restRan, rfl⟩ := canonicalItems_cons ran
      rw [timestampsOfItems, List.forall_mem_append,
        ← canonicalValue_toPython_iff item first plain.1 firstRan,
        ← canonicalItems_toPython_iff items rest plain.2 restRan]
      constructor
      · intro other
        obtain ⟨otherFirst, otherRest, otherRan, otherRestRan, same⟩ := canonicalItems_cons other
        obtain ⟨rfl, rfl⟩ := List.cons.inj same
        exact ⟨otherRan, otherRestRan⟩
      · rintro ⟨otherRan, otherRestRan⟩
        rw [itemsToPython, canonicalItems, otherRan, otherRestRan]
        rfl

theorem canonicalEntries_toPython_iff : ∀ (fields : List (String × ModelValue))
    (canonical : List (String × JsonValue F)), HavePlain fields →
      canonicalEntries (fieldsToPython f fields) = .ok canonical →
        (canonicalEntries (fieldsToPython g fields) = .ok canonical ↔
          ∀ moment ∈ timestampsOfFields fields,
            canonicalValue (f moment) = canonicalValue (g moment))
  | [], _, _, ran => iff_of_true ran (by simp [timestampsOfFields])
  | (name, value) :: fields, _, plain, ran => by
      obtain ⟨first, rest, firstRan, restRan, rfl⟩ := canonicalEntries_cons ran
      rw [timestampsOfFields, List.forall_mem_append,
        ← canonicalValue_toPython_iff value first plain.1 firstRan,
        ← canonicalEntries_toPython_iff fields rest plain.2 restRan]
      constructor
      · intro other
        obtain ⟨otherFirst, otherRest, otherRan, otherRestRan, same⟩ := canonicalEntries_cons other
        obtain ⟨sameEntry, rfl⟩ := List.cons.inj same
        cases sameEntry
        exact ⟨otherRan, otherRestRan⟩
      · rintro ⟨otherRan, otherRestRan⟩
        rw [fieldsToPython, canonicalEntries, otherRan, otherRestRan]
        rfl

end

theorem fieldsToPython_append (first second : List (String × ModelValue)) :
    fieldsToPython f (first ++ second) = fieldsToPython f first ++ fieldsToPython f second := by
  induction first with
  | nil => rfl
  | cons field first ih => rw [List.cons_append, fieldsToPython, ih, fieldsToPython, List.cons_append]

theorem plain_of_append {first second : List (String × ModelValue)}
    (whole : (ModelValue.model (first ++ second)).Plain) : (ModelValue.model first).Plain := by
  obtain ⟨⟨distinct, plainNames⟩, values⟩ := whole
  rw [List.map_append] at distinct plainNames
  refine ⟨⟨(List.nodup_append.mp distinct).1, fun name isIn =>
    plainNames name (List.mem_append_left _ isIn)⟩, ?_⟩
  clear distinct plainNames
  induction first with
  | nil => trivial
  | cons field first ih => exact ⟨values.1, ih values.2⟩

section Texts

variable [FloatFormat F] (render : AwareTimestamp → String)

mutual

theorem canonicalValue_dumped : ∀ value : ModelValue, ∃ canonical : JsonValue F,
    canonicalValue (value.toPython (dumpedTimestamp render)) = .ok canonical ∧
      JsonText.isFinite canonical
  | .none | .bool _ | .int _ | .str _ | .enum _ | .timestamp _ => ⟨_, rfl, rfl⟩
  | .tuple items => by
      obtain ⟨canonical, ran, finite⟩ := canonicalItems_dumped items
      refine ⟨.arr canonical, ?_, finite⟩
      rw [toPython, canonicalValue, ran]
      rfl
  | .model fields => by
      obtain ⟨canonical, ran, finite⟩ := canonicalEntries_dumped fields
      refine ⟨.obj (JsonText.dict (sortEntries canonical)), ?_, ?_⟩
      · rw [toPython, canonicalValue, ran]
        rfl
      · refine (haveFinite_iff _).mpr fun entry isIn => ?_
        exact finite entry (mem_sortEntries.mp (JsonText.mem_of_mem_dict isIn))

theorem canonicalItems_dumped : ∀ items : List ModelValue, ∃ canonical : List (JsonValue F),
    canonicalItems (itemsToPython (dumpedTimestamp render) items) = .ok canonical ∧
      JsonText.areFinite canonical
  | [] => ⟨[], rfl, rfl⟩
  | item :: items => by
      obtain ⟨first, firstRan, firstFinite⟩ := canonicalValue_dumped item
      obtain ⟨rest, restRan, restFinite⟩ := canonicalItems_dumped items
      refine ⟨first :: rest, ?_, by rw [JsonText.areFinite, firstFinite, restFinite]; rfl⟩
      rw [itemsToPython, canonicalItems, firstRan, restRan]
      rfl

theorem canonicalEntries_dumped : ∀ fields : List (String × ModelValue),
    ∃ canonical : List (String × JsonValue F),
      canonicalEntries (fieldsToPython (dumpedTimestamp render) fields) = .ok canonical ∧
        ∀ entry ∈ canonical, JsonText.isFinite entry.2
  | [] => ⟨[], rfl, by simp⟩
  | (name, value) :: fields => by
      obtain ⟨first, firstRan, firstFinite⟩ := canonicalValue_dumped value
      obtain ⟨rest, restRan, restFinite⟩ := canonicalEntries_dumped fields
      refine ⟨(name, first) :: rest, ?_, List.forall_mem_cons.mpr ⟨firstFinite, restFinite⟩⟩
      rw [fieldsToPython, canonicalEntries, firstRan, restRan]
      rfl

end

/-- A JSON dump has a canonical text. -/
theorem canonicalJson_dumped (value : ModelValue) : ∃ text,
    canonicalJson (value.toPython (dumpedTimestamp render) : PyValue F) = .ok text := by
  obtain ⟨canonical, ran, finite⟩ := canonicalValue_dumped (F := F) render value
  refine ⟨JsonText.write canonical, ?_⟩
  simp only [canonicalJson, ran, JsonText.dumps, finite, if_true]

end Texts

end ModelValue

/-! ### Dumps of plans -/

namespace CompiledPlan

variable {render : AwareTimestamp → String}

theorem plain_fields (plan : CompiledPlan) : (ModelValue.model plan.fields).Plain := by
  have names : plan.fields.map Prod.fst =
      ["schema_version", "idempotency_key", "target", "policy", "policy_revision", "backend",
        "observation", "predicates", "impact", "steps", "rollback_boundaries", "created_at",
        "expires_at", "plan_hash"] := rfl
  refine plain_model names (by decide +kernel) ?_
  simp [fields, payload, plain, ModelValue.Plain]

theorem redactMapping_jsonDump (plan : CompiledPlan) :
    redactMapping (plan.jsonDump render : Mapping F) = plan.jsonDump render := by
  have kept := ModelValue.redactStructure_toPython (F := F) (f := dumpedTimestamp render)
    (fun _ => rfl) (.model plan.fields) plan.plain_fields
  exact PyValue.mapping.inj kept

/-- The dump of a plan without its hash. -/
theorem pop_jsonDump (plan : CompiledPlan) :
    pop (plan.jsonDump render : Mapping F) "plan_hash" =
      (some (.scalar (.str plan.planHash)),
        ModelValue.fieldsToPython (dumpedTimestamp render) plan.payload) := by
  have absent : ∀ entry ∈ ModelValue.fieldsToPython (F := F) (dumpedTimestamp render) plan.payload,
      entry.1 ≠ "plan_hash" := by
    have distinct := plan.plain_fields.1.1
    rw [fields, List.map_append, List.nodup_append] at distinct
    intro entry isIn isHash
    have isName : entry.1 ∈ plan.payload.map Prod.fst := by
      rw [← ModelValue.keys_fieldsToPython (f := dumpedTimestamp (F := F) render)]
      exact List.mem_map_of_mem isIn
    exact distinct.2.2 _ isName "plan_hash" (by simp) isHash
  rw [jsonDump, fields, ModelValue.fieldsToPython_append]
  refine Prod.ext ?_ ?_
  · simp only [pop]
    rw [List.lookup_append, List.lookup_eq_none_iff.mpr fun entry isIn => by
      simpa using (absent entry isIn).symm]
    rfl
  · simp only [pop, List.filter_append]
    rw [List.filter_eq_self.mpr fun entry isIn => by simpa using absent entry isIn]
    simp [ModelValue.fieldsToPython]

theorem plain_payload (plan : CompiledPlan) : (ModelValue.model plan.payload).Plain :=
  ModelValue.plain_of_append plan.plain_fields

end CompiledPlan

/-! ### Plans in the store -/

/-- The arguments of `create_plan` beside the plan are in order. -/
structure Admitted [FloatFormat F] (rows : List StoredPlan) (input : PlanInput F) : Prop where
  keyed : blank input.idempotencyKey = false
  fresh : ∀ other ∈ rows, other.idempotencyKey ≠ input.idempotencyKey
  starts : input.initialState ∈ [.draft, .ready, .blocked]
  observation : ∃ text,
    canonicalJson (.mapping (redactMapping (input.observation.getD []))) = .ok text
  manifest : ∃ text,
    canonicalJson (.mapping (redactMapping (input.targetManifest.getD []))) = .ok text
  alone : ∀ row : StoredPlan, row.id = input.planId → row.lifecycleState = input.initialState →
    row.targetNodeId = input.targetNodeId → row.targetClusterId = input.targetClusterId →
    row.targetAssignmentId = input.targetAssignmentId →
    ∀ other ∈ rows, other.id ≠ row.id ∧ other.overlaps row = false

section Storing

variable [FloatFormat F] {sha256 : List Char → String} {render : AwareTimestamp → String}

theorem createPlan_new {rows : List StoredPlan} {input : PlanInput F} {hash : String}
    {planJson : List Char} (admitted : Admitted rows input)
    (hashed : newPlanHash sha256 input = .ok hash)
    (written : canonicalJson (.mapping (redactMapping input.plan)) = .ok planJson) :
    ∃ row, newPlan input hash = .ok row ∧ createPlan sha256 rows input = .ok (rows ++ [row], row) ∧
      ∀ other ∈ rows, other.id ≠ row.id := by
  obtain ⟨observationJson, observationWritten⟩ := admitted.observation
  obtain ⟨manifestJson, manifestWritten⟩ := admitted.manifest
  have isRow : ∃ row, newPlan input hash = .ok row := by
    simp only [newPlan, written, observationWritten, manifestWritten]
    exact ⟨_, rfl⟩
  obtain ⟨row, isRow⟩ := isRow
  have columns := isRow
  simp only [newPlan, written, observationWritten, manifestWritten, bind, Except.bind, pure,
    Except.pure, Except.ok.injEq] at columns
  have alone : ∀ other ∈ rows, other.id ≠ row.id ∧ other.overlaps row = false := by
    subst columns
    exact admitted.alone _ rfl rfl rfl rfl rfl
  refine ⟨row, isRow, ?_, fun other isIn => (alone other isIn).1⟩
  have noneKeyed : rows.find? (·.idempotencyKey = input.idempotencyKey) = none := by
    rw [List.find?_eq_none]
    intro other isIn
    simpa using admitted.fresh other isIn
  have noneMeets : rows.any (fun other => other.id = row.id || other.overlaps row) = false := by
    rw [List.any_eq_false]
    intro other isIn
    obtain ⟨otherId, apart⟩ := alone other isIn
    simp [otherId, apart]
  simp only [createPlan, admitted.keyed, hashed, bind, Except.bind, noneKeyed, isRow, orRaise,
    noneMeets]
  simp [admitted.starts, pure, Except.pure]

namespace CompiledPlan

variable (sha256 render) in
/-- The store hashes the dump of a plan as the plan was hashed, takes it with that hash and
verifies it. -/
structure Storable (F : Type) [FloatFormat F] (plan : CompiledPlan) : Prop where
  hashed : canonicalHash sha256
    (.mapping (pop (redactMapping (plan.jsonDump render : Mapping F)) "plan_hash").2) =
      .ok plan.planHash
  stored : ∀ (rows : List StoredPlan) (input : PlanInput F), input.plan = plan.jsonDump render →
    input.authoritativePlanHash = some plan.planHash → Admitted rows input →
      ∃ row, createPlan sha256 rows input = .ok (rows ++ [row], row) ∧
        verifyPlanHash sha256 F (rows ++ [row]) row.id none = .ok true

/-- With equal hashes, the store takes the plan and verifies it. -/
theorem storable_of_hashed {plan : CompiledPlan} (digest : isDigest plan.planHash)
    (hashed : canonicalHash sha256 (.mapping
      (ModelValue.fieldsToPython (F := F) (dumpedTimestamp render) plan.payload)) =
        .ok plan.planHash) : plan.Storable sha256 render F := by
  have calculated : canonicalHash sha256
      (.mapping (pop (redactMapping (plan.jsonDump render : Mapping F)) "plan_hash").2) =
        .ok plan.planHash := by
    rw [redactMapping_jsonDump, pop_jsonDump]
    exact hashed
  refine ⟨calculated, fun rows input isPlan isAuthoritative admitted => ?_⟩
  have newHash : newPlanHash sha256 input = .ok plan.planHash := by
    rw [newPlanHash, isAuthoritative, isPlan]
    simp only [digest, Bool.not_true, Bool.false_eq_true, if_false]
    rw [redactMapping_jsonDump, pop_jsonDump]
    simp [PyValue.isText, hashed, orRaise, bind, Except.bind, pure, Except.pure]
  obtain ⟨planJson, written⟩ :=
    ModelValue.canonicalJson_dumped (F := F) render (.model plan.fields)
  have writtenPlan : canonicalJson (.mapping (redactMapping input.plan)) = .ok planJson := by
    rw [isPlan, redactMapping_jsonDump]
    exact written
  obtain ⟨row, isRow, created, fresh⟩ := createPlan_new admitted newHash writtenPlan
  refine ⟨row, created, ?_⟩
  have passes : input.PassesHash := fun _ => by rw [isAuthoritative]; rfl
  have found : (rows ++ [row]).find? (·.id = row.id) = some row := by
    rw [List.find?_append, List.find?_eq_none.mpr fun other isIn => by simpa using fresh other isIn]
    simp
  simp only [verifyPlanHash, found, calculatedHash_new passes newHash isRow]
  simp [bind, Except.bind, pure, Except.pure]

/-- With another hash, the store refuses the plan. -/
theorem createPlan_refused {plan : CompiledPlan} {rows : List StoredPlan} {input : PlanInput F}
    {hash : String} (isPlan : input.plan = plan.jsonDump render)
    (isAuthoritative : input.authoritativePlanHash = some plan.planHash)
    (keyed : blank input.idempotencyKey = false) (digest : isDigest plan.planHash)
    (hashed : canonicalHash sha256 (.mapping
      (ModelValue.fieldsToPython (F := F) (dumpedTimestamp render) plan.payload)) = .ok hash)
    (differs : hash ≠ plan.planHash) :
    createPlan sha256 rows input =
      raising .valueError
        "authoritative_plan_hash does not match the compiled maintenance plan" := by
  have newHash : newPlanHash sha256 input =
      raising .valueError
        "authoritative_plan_hash does not match the compiled maintenance plan" := by
    rw [newPlanHash, isAuthoritative, isPlan]
    simp only [digest, Bool.not_true, Bool.false_eq_true, if_false]
    rw [redactMapping_jsonDump, pop_jsonDump]
    simp [PyValue.isText, hashed, orRaise, bind, Except.bind, differs]
  rw [createPlan, keyed, newHash]
  rfl

end CompiledPlan

theorem compilePlan_ok {input : PlanningInput} {plan : CompiledPlan}
    (compiled : compilePlan sha256 F input = .ok plan) :
    canonicalHash sha256 ((ModelValue.model plan.payload).toPython (F := F) compiledTimestamp) =
      .ok plan.planHash ∧ isDigest plan.planHash := by
  unfold compilePlan at compiled
  obtain ⟨-, compiled⟩ := of_not_raised compiled
  obtain ⟨-, compiled⟩ := of_not_raised compiled
  obtain ⟨-, compiled⟩ := of_not_raised compiled
  obtain ⟨-, compiled⟩ := of_not_raised compiled
  obtain ⟨-, compiled⟩ := of_not_raised compiled
  split at compiled
  · cases compiled
  · obtain ⟨planHash, hashed, compiled⟩ := Results.bind_ok compiled
    obtain ⟨-, compiled⟩ := of_not_raised compiled
    obtain ⟨digest, compiled⟩ := of_not_raised compiled
    cases compiled
    exact ⟨orRaise_ok hashed, by simpa using digest⟩

omit [FloatFormat F] in
/-- What the two canonical forms make of a timestamp is the same in UTC alone. -/
theorem compiledTimestamp_iff
    (utc : ∀ moment : AwareTimestamp, moment.offset = 0 →
      render moment = String.ofList (Iso.auto moment.wall ++ ['Z']))
    (elsewhere : ∀ moment : AwareTimestamp, moment.offset ≠ 0 →
      (render moment).toList.getLast? ≠ some 'Z') (moment : AwareTimestamp) :
    canonicalValue (compiledTimestamp moment : PyValue F) =
      canonicalValue (dumpedTimestamp render moment) ↔ moment.offset = 0 := by
  constructor
  · intro same
    by_contra apart
    unfold compiledTimestamp at same
    split at same
    next wall _ =>
      have sameText : String.ofList (Iso.auto wall ++ ['Z']) = render moment :=
        JsonValue.str.inj (Except.ok.inj same)
      exact elsewhere moment apart (by rw [← sameText]; simp)
    next overflows =>
      simp [canonicalValue, overflows, dumpedTimestamp] at same
  · intro atZero
    rw [compiledTimestamp, AwareTimestamp.utc_of_offset_zero atZero, dumpedTimestamp,
      utc moment atZero]

section Zones

variable (injective : Function.Injective sha256)
  (utc : ∀ moment : AwareTimestamp, moment.offset = 0 →
    render moment = String.ofList (Iso.auto moment.wall ++ ['Z']))
  (elsewhere : ∀ moment : AwareTimestamp, moment.offset ≠ 0 →
    (render moment).toList.getLast? ≠ some 'Z')
  {input : PlanningInput} {plan : CompiledPlan}
  (compiled : compilePlan sha256 F input = .ok plan)
include injective utc elsewhere compiled

/-- The dump of a plan has the hash of the plan in UTC alone. -/
theorem dump_hashed_iff :
    canonicalHash sha256 (.mapping
      (ModelValue.fieldsToPython (F := F) (dumpedTimestamp render) plan.payload)) =
        .ok plan.planHash ↔ ∀ moment ∈ plan.timestamps, moment.offset = 0 := by
  obtain ⟨hashed, -⟩ := compilePlan_ok compiled
  obtain ⟨text, written, isHash⟩ := Results.map_ok hashed
  obtain ⟨canonical, isCanonical, -⟩ := canonicalJson_ok written
  have sameForms := ModelValue.canonicalValue_toPython_iff (g := dumpedTimestamp render) _ canonical
    plan.plain_payload isCanonical
  have inUtc : (∀ moment ∈ plan.timestamps, canonicalValue (compiledTimestamp moment : PyValue F) =
      canonicalValue (dumpedTimestamp render moment)) ↔
        ∀ moment ∈ plan.timestamps, moment.offset = 0 :=
    forall₂_congr fun moment _ => compiledTimestamp_iff utc elsewhere moment
  rw [← inUtc]
  constructor
  · intro stored
    obtain ⟨other, otherWritten, isOtherHash⟩ := Results.map_ok stored
    obtain rfl : text = other := injective (isHash.trans isOtherHash.symm)
    apply sameForms.mp
    rw [← isCanonical]
    exact canonicalValue_of_same_text otherWritten written
  · intro same
    rw [← hashed]
    apply canonicalHash_congr
    rw [isCanonical]
    exact sameForms.mpr same

/-- A compiled plan is storable if and only if all its timestamps are in UTC. -/
theorem storable_iff :
    plan.Storable sha256 render F ↔ ∀ moment ∈ plan.timestamps, moment.offset = 0 := by
  rw [← dump_hashed_iff injective utc elsewhere compiled]
  constructor
  · intro storable
    have stored := storable.hashed
    rwa [CompiledPlan.redactMapping_jsonDump, CompiledPlan.pop_jsonDump] at stored
  · exact CompiledPlan.storable_of_hashed (compilePlan_ok compiled).2

end Zones

end Storing

/-! ### One moment in two zones -/

namespace CompilationSample

theorem ten_valid : (1 ≤ 2026 ∧ 2026 ≤ 9999) ∧ (1 ≤ 6 ∧ 6 ≤ 12) ∧
    (1 ≤ 1 ∧ 1 ≤ daysInMonth 2026 6) ∧ 10 < 24 ∧ 0 < 60 ∧ 0 < 60 ∧ 0 < 1000000 := by
  decide

def tenInUtc : AwareTimestamp :=
  ⟨⟨2026, 6, 1, 10, 0, 0, 0, ten_valid⟩, 0⟩

/-- The same moment in a zone two hours ahead. -/
def noonAhead : AwareTimestamp :=
  ⟨⟨2026, 6, 1, 12, 0, 0, 0, by decide⟩, 7200⟩

def input (capturedAt : AwareTimestamp) : PlanningInput where
  target := ⟨.reboot, some 7, none, [], "kernel update", .zeroImpact, none, none⟩
  policy := ⟨1, .quorum, 1, 1, 1, 1, 0, "true-with-warning", "green", "primaries-for-data", 60,
    none, 900, 900, 300⟩
  policyRevision := 1
  backend := .none
  observation := ⟨capturedAt, "r1", [], [], [], [], [], [], []⟩
  predicates := []
  impact := ⟨some 7, [], [], []⟩
  steps := [⟨1, "reboot-host", "Reboot the host", none, none, some 7⟩]
  rollbackBoundaries := [⟨1, "Abort before the reboot."⟩]
  createdAt := tenInUtc
  zone _ := 0
  idempotencyKey := some "june"

def plan (capturedAt : AwareTimestamp) : CompiledPlan :=
  let input := input capturedAt
  { idempotencyKey := input.idempotencyKey
    target := input.target
    policy := input.policy
    policyRevision := 1
    backend := input.backend
    observation := input.observation
    predicates := input.predicates
    impact := input.impact
    steps := input.steps
    rollbackBoundaries := input.rollbackBoundaries
    createdAt := input.createdAt
    expiresAt := ⟨⟨2026, 6, 1, 10, 5, 0, 0, by decide⟩, 0⟩
    planHash := "b88a76a34ba8dc7fecb1d7689652feb66e52c07a64ac4f1c01b672502ea7dbf2" }

/-- The text that the compiler hashes. -/
def planText : List Char :=
  match canonicalJson ((ModelValue.model (plan tenInUtc).payload).toPython (F := FloatText)
      compiledTimestamp) with
  | .ok text => text
  | .error _ => []


/-- The digest of that text; no other text is taken for it. -/
def sha256 (text : List Char) : String :=
  if text = planText then (plan tenInUtc).planHash else String.ofList ('t' :: text)

theorem sha256_injective : Function.Injective sha256 := by
  have untouched : ∀ text : List Char, (plan tenInUtc).planHash ≠ String.ofList ('t' :: text) := by
    intro text same
    have heads := congrArg (fun digest => digest.toList.head?) same
    simp only [String.toList_ofList, List.head?_cons] at heads
    exact absurd heads (by decide)
  intro first second same
  unfold sha256 at same
  split at same
  next isFirst =>
    split at same
    next isSecond => rw [isFirst, isSecond]
    next => exact absurd same (untouched second)
  next =>
    split at same
    next => exact absurd same.symm (untouched first)
    next => exact (List.cons.inj (String.ofList_injective same)).2

/-- What pydantic writes: the zone as `Z`, or as its hours and minutes. -/
def rendered (moment : AwareTimestamp) : String :=
  if moment.offset = 0 then String.ofList (Iso.auto moment.wall ++ ['Z'])
  else
    let minutes := moment.offset.natAbs / 60
    String.ofList (Iso.auto moment.wall ++ (if moment.offset < 0 then '-' else '+') ::
      Iso.pad2 (minutes / 60) ++ ':' :: Iso.pad2 (minutes % 60))

theorem rendered_utc (moment : AwareTimestamp) (atZero : moment.offset = 0) :
    rendered moment = String.ofList (Iso.auto moment.wall ++ ['Z']) :=
  if_pos atZero

theorem rendered_elsewhere (moment : AwareTimestamp) (apart : moment.offset ≠ 0) :
    (rendered moment).toList.getLast? ≠ some 'Z' := by
  rw [rendered, if_neg apart]
  have digit : (Nat.digitChar (moment.offset.natAbs / 60 % 60 % 10)).isDigit := by
    rw [Nat.isDigit_digitChar]
    exact decide_eq_true (by omega)
  simp only [String.toList_ofList, Iso.pad2, List.getLast?_append, List.getLast?_cons_cons,
    List.getLast?_singleton, Option.some_or]
  intro same
  rw [Option.some.inj same] at digit
  exact absurd digit (by decide)

/-- The plan as the service stores it. -/
def storing (plan : CompiledPlan) : PlanInput FloatText where
  planId := "plan-1"
  operationKind := "reboot"
  plan := plan.jsonDump rendered
  idempotencyKey := "june"
  observation := none
  targetNodeId := some 7
  targetClusterId := none
  targetAssignmentId := none
  expectedPolicyRevision := some 1
  expectedAssignmentRevision := none
  observedAt := none
  targetManifest := none
  initialState := .ready
  authoritativePlanHash := some plan.planHash

theorem payload_noonAhead :
    (ModelValue.model (plan noonAhead).payload).toPython (F := FloatText) compiledTimestamp =
      (ModelValue.model (plan tenInUtc).payload).toPython compiledTimestamp := by
  have sameText : (compiledTimestamp noonAhead : PyValue FloatText) =
      compiledTimestamp tenInUtc := by
    simp only [compiledTimestamp]
    rfl
  simp [plan, input, CompiledPlan.payload, dump, ObservationSnapshot.fields, ModelValue.toPython,
    ModelValue.fieldsToPython, sameText]

theorem tenInUtc_inUtc : ∀ moment ∈ (plan tenInUtc).timestamps, moment.offset = 0 := by
  decide +kernel

theorem hashed {capturedAt : AwareTimestamp}
    (isTen : capturedAt = tenInUtc ∨ capturedAt = noonAhead) :
    canonicalHash sha256 ((ModelValue.model (plan capturedAt).payload).toPython (F := FloatText)
      compiledTimestamp) = .ok (plan capturedAt).planHash := by
  have atTen : canonicalHash sha256 ((ModelValue.model (plan tenInUtc).payload).toPython
      (F := FloatText) compiledTimestamp) = .ok (plan tenInUtc).planHash := by
    obtain ⟨text, written⟩ := ModelValue.canonicalJson_dumped (F := FloatText) rendered
      (.model (plan tenInUtc).payload)
    obtain ⟨canonical, isCanonical, -⟩ := canonicalJson_ok written
    have same := (ModelValue.canonicalValue_toPython_iff (g := compiledTimestamp) _ canonical
      (plan tenInUtc).plain_payload isCanonical).mpr fun moment isIn =>
        ((compiledTimestamp_iff rendered_utc rendered_elsewhere moment).mpr
          (tenInUtc_inUtc moment isIn)).symm
    have compiled : canonicalJson ((ModelValue.model (plan tenInUtc).payload).toPython
        (F := FloatText) compiledTimestamp) = .ok text := by
      rw [← written]
      simp only [canonicalJson, same, isCanonical]
    rw [canonicalHash, compiled]
    simp [Except.map, sha256, planText, compiled]
  rcases isTen with rfl | rfl
  · exact atTen
  · rw [payload_noonAhead, atTen]
    rfl

theorem compiles {capturedAt : AwareTimestamp}
    (isTen : capturedAt = tenInUtc ∨ capturedAt = noonAhead) :
    compilePlan sha256 FloatText (input capturedAt) = .ok (plan capturedAt) := by
  have expires : expiry (input capturedAt) = some (plan capturedAt).expiresAt := by
    change expiry (input tenInUtc) = some (plan tenInUtc).expiresAt
    decide +kernel
  have isHash := hashed isTen
  have digest : isDigest (plan capturedAt).planHash = true := by
    change isDigest (plan tenInUtc).planHash = true
    decide +kernel
  have short : ¬ 128 < "june".length := by decide
  simp only [plan, input, CompiledPlan.payload] at isHash digest
  simp [compilePlan, expires, CompiledPlan.payload]
  simp [input, List.insertionSort, isHash, orRaise, bind, Except.bind, digest, short, plan, pure,
    Except.pure]
end CompilationSample

open CompilationSample in
/-- A plan in UTC is storable. -/
theorem storable_iff_ten : (plan tenInUtc).Storable sha256 rendered FloatText := by
  exact (storable_iff sha256_injective rendered_utc rendered_elsewhere
    (compiles (.inl rfl))).mpr tenInUtc_inUtc

open CompilationSample in
/-- A plan that was observed at the same moment in another zone is compiled to the same hash, and
refused with it. -/
theorem plan_ahead_refused :
    compilePlan sha256 FloatText (input noonAhead) = .ok (plan noonAhead) ∧
      createPlan sha256 [] (storing (plan noonAhead)) =
        raising .valueError
          "authoritative_plan_hash does not match the compiled maintenance plan" ∧
      ¬ (plan noonAhead).Storable sha256 rendered FloatText := by
  have refused : createPlan sha256 [] (storing (plan noonAhead)) =
      raising .valueError
        "authoritative_plan_hash does not match the compiled maintenance plan" := by
    obtain ⟨text, written⟩ := ModelValue.canonicalJson_dumped (F := FloatText) rendered
      (.model (plan noonAhead).payload)
    have hashed : canonicalHash sha256 (.mapping (ModelValue.fieldsToPython (F := FloatText)
        (dumpedTimestamp rendered) (plan noonAhead).payload)) = .ok (sha256 text) :=
      congrArg (Except.map sha256) written
    have differs : sha256 text ≠ (plan noonAhead).planHash := by
      intro same
      rw [same] at hashed
      have inUtc := (dump_hashed_iff sha256_injective rendered_utc rendered_elsewhere
        (compiles (.inr rfl))).mp hashed noonAhead (by decide +kernel)
      exact absurd inUtc (by decide)
    exact CompiledPlan.createPlan_refused rfl rfl (by decide +kernel) (by decide +kernel) hashed
      differs
  refine ⟨compiles (.inr rfl), refused, fun storable => ?_⟩
  have admitted : Admitted [] (storing (plan noonAhead)) :=
    { keyed := by decide +kernel
      fresh := by simp
      starts := by simp [storing]
      observation := ⟨_, rfl⟩
      manifest := ⟨_, rfl⟩
      alone := by simp }
  obtain ⟨row, created, -⟩ := storable.stored [] _ rfl rfl admitted
  rw [refused] at created
  cases created

end Planning

end ElKeeper
