import ElKeeper.PlanHashes

/-!
# What redaction keeps from stored content

Redaction descends into mappings and sequences; the canonical form is made of
dataclasses as well.  What a dataclass holds under a sensitive key is therefore
stored, and content that differs only there is stored differently.
-/

namespace ElKeeper

open JsonText (dict)
open PyValue (canonicalValue canonicalItems canonicalEntries canonicalJson sortEntries Ordered)

variable {F : Type}

/-! ### The entry of a key that counts -/

section Entries

variable {α β : Type}

/-- The last value of a key. -/
def last? : List (String × α) → String → Option α
  | [], _ => none
  | (other, value) :: entries, key =>
      (last? entries key).or (if other = key then some value else none)

theorem last?_map (change : String → α → β) (entries : List (String × α)) (key : String) :
    last? (entries.map fun entry => (entry.1, change entry.1 entry.2)) key =
      (last? entries key).map (change key) := by
  induction entries with
  | nil => rfl
  | cons entry entries ih =>
      rw [List.map_cons, last?, ih, last?]
      by_cases same : entry.1 = key
      · rw [if_pos same, if_pos same, same]
        cases last? entries key <;> rfl
      · rw [if_neg same, if_neg same]
        cases last? entries key <;> rfl

theorem mem_of_last? {entries : List (String × α)} {key : String} {value : α}
    (found : last? entries key = some value) : (key, value) ∈ entries := by
  induction entries with
  | nil => cases found
  | cons entry entries ih =>
      rw [last?, Option.or_eq_some_iff] at found
      obtain found | ⟨-, first⟩ := found
      · exact List.mem_cons_of_mem _ (ih found)
      · split at first
        · rename_i same
          cases first
          rw [← same]
          exact List.mem_cons_self
        · cases first

theorem mem_setEntry_iff {entries : List (String × α)} (distinct : (entries.map Prod.fst).Nodup)
    {key other : String} {value new : α} :
    (other, value) ∈ JsonText.setEntry entries key new ↔
      (other = key ∧ value = new) ∨ (other ≠ key ∧ (other, value) ∈ entries) := by
  induction entries with
  | nil => simp [JsonText.setEntry]
  | cons entry entries ih =>
      obtain ⟨first, old⟩ := entry
      obtain ⟨fresh, distinct⟩ := List.nodup_cons.mp distinct
      have absent : ∀ value, (first, value) ∉ entries := fun value isIn =>
        fresh (List.mem_map.mpr ⟨_, isIn, rfl⟩)
      rw [JsonText.setEntry]
      by_cases same : first = key
      · subst first
        rw [if_pos rfl]
        simp only [List.mem_cons, Prod.mk.injEq]
        constructor
        · rintro (⟨rfl, rfl⟩ | isIn)
          · exact .inl ⟨rfl, rfl⟩
          · refine .inr ⟨?_, .inr isIn⟩
            rintro rfl
            exact absent value isIn
        · rintro (⟨rfl, rfl⟩ | ⟨different, ⟨rfl, rfl⟩ | isIn⟩)
          · exact .inl ⟨rfl, rfl⟩
          · exact absurd rfl different
          · exact .inr isIn
      · rw [if_neg same]
        simp only [List.mem_cons, Prod.mk.injEq, ih distinct]
        constructor
        · rintro (⟨rfl, rfl⟩ | ⟨rfl, rfl⟩ | ⟨different, isIn⟩)
          · exact .inr ⟨same, .inl ⟨rfl, rfl⟩⟩
          · exact .inl ⟨rfl, rfl⟩
          · exact .inr ⟨different, .inr isIn⟩
        · rintro (⟨rfl, rfl⟩ | ⟨different, ⟨rfl, rfl⟩ | isIn⟩)
          · exact .inr (.inl ⟨rfl, rfl⟩)
          · exact .inl ⟨rfl, rfl⟩
          · exact .inr (.inr ⟨different, isIn⟩)

/-- A dictionary has the last value of each key. -/
theorem mem_dict_iff {pairs : List (String × α)} {key : String} {value : α} :
    (key, value) ∈ dict pairs ↔ last? pairs key = some value := by
  have general : ∀ entries : List (String × α), (entries.map Prod.fst).Nodup →
      ((key, value) ∈ pairs.foldl (fun entries pair =>
          JsonText.setEntry entries pair.1 pair.2) entries ↔
        last? pairs key = some value ∨ last? pairs key = none ∧ (key, value) ∈ entries) := by
    induction pairs with
    | nil => simp [last?]
    | cons pair pairs ih =>
        intro entries distinct
        rw [List.foldl_cons, ih _ (JsonText.nodup_setEntry _ _ distinct),
          mem_setEntry_iff distinct, last?]
        cases last? pairs key with
        | some later => simp
        | none =>
            by_cases same : pair.1 = key
            · simp [same, eq_comm]
            · simp [same, Ne.symm same]
  rw [dict, general [] List.nodup_nil]
  simp

theorem last?_dict (pairs : List (String × α)) (key : String) :
    last? (dict pairs) key = last? pairs key := by
  apply Option.ext
  intro value
  rw [← mem_dict_iff, ← mem_dict_iff, JsonText.dict_of_nodup (JsonText.nodup_dict pairs)]

/-- Sorting keeps the order of the values of a key. -/
theorem last?_sortEntries (entries : List (String × α)) (key : String) :
    last? (sortEntries entries) key = last? entries key := by
  have inserted : ∀ (entry : String × α) (sorted : List (String × α)),
      last? (sorted.orderedInsert (fun first second => first.1 ≤ second.1) entry) key =
        last? (entry :: sorted) key := by
    intro entry sorted
    induction sorted with
    | nil => rfl
    | cons other sorted ih =>
        rw [List.orderedInsert_cons]
        split
        · rfl
        · rename_i after
          have different : other.1 ≠ entry.1 := fun same => after (le_of_eq same.symm)
          rw [last?, ih, last?, last?, last?]
          cases last? sorted key with
          | some later => rfl
          | none =>
              by_cases same : entry.1 = key
              · have otherKey : other.1 ≠ key := fun isKey => different (isKey.trans same.symm)
                simp [same, otherKey]
              · simp [same]
  induction entries with
  | nil => rfl
  | cons entry entries ih =>
      rw [sortEntries, List.insertionSort_cons, inserted, last?, last?]
      rw [sortEntries] at ih
      rw [ih]

end Entries

/-! ### Canonical objects by their keys -/

namespace PyValue

/-- Entries have a canonical form when each value has one. -/
theorem canonicalEntries_total {entries : List (String × PyValue F)}
    (each : ∀ entry ∈ entries, ∃ canonical, canonicalValue entry.2 = .ok canonical) :
    ∃ canonical, canonicalEntries entries = .ok canonical := by
  induction entries with
  | nil => exact ⟨[], rfl⟩
  | cons entry entries ih =>
      obtain ⟨first, firstRan⟩ := each entry List.mem_cons_self
      obtain ⟨rest, restRan⟩ := ih fun other isIn => each other (List.mem_cons_of_mem _ isIn)
      exact ⟨(entry.1, first) :: rest, by rw [canonicalEntries, firstRan, restRan]; rfl⟩

theorem last?_canonicalEntries {entries : List (String × PyValue F)}
    {canonical : List (String × JsonValue F)} (ran : canonicalEntries entries = .ok canonical)
    (key : String) (value : JsonValue F) :
    last? canonical key = some value ↔
      ∃ source, last? entries key = some source ∧ canonicalValue source = .ok value := by
  have mapped : canonical = entries.map fun entry =>
      (entry.1, ((canonicalValue entry.2).toOption).getD .null) := by
    induction entries generalizing canonical with
    | nil => cases ran; rfl
    | cons entry entries ih =>
        obtain ⟨first, rest, firstRan, restRan, rfl⟩ := canonicalEntries_cons ran
        rw [List.map_cons, ← ih restRan, firstRan]
        rfl
  rw [mapped, last?_map fun _ source => ((canonicalValue source).toOption).getD .null,
    Option.map_eq_some_iff]
  refine exists_congr fun source => and_congr_right fun found => ?_
  obtain ⟨result, resultRan, -⟩ := mem_canonicalEntries_of_mem ran (mem_of_last? found)
  simp [resultRan, Except.toOption]

/-- The canonical form of a mapping, by the last value of each key. -/
theorem canonicalValue_mapping_iff {entries : List (String × PyValue F)}
    {canonical : JsonValue F} :
    canonicalValue (.mapping entries) = .ok canonical ↔
      (∀ entry ∈ entries, ∃ value, canonicalValue entry.2 = .ok value) ∧
      ∃ object, canonical = .obj object ∧ Ordered object ∧ ∀ key value,
        (key, value) ∈ object ↔
          ∃ source, last? entries key = some source ∧ canonicalValue source = .ok value := by
  constructor
  · intro ran
    rw [canonicalValue] at ran
    obtain ⟨written, entriesRan, rfl⟩ := Results.map_ok ran
    refine ⟨?_, _, rfl, ordered_dict_sortEntries written, ?_⟩
    · intro entry isIn
      obtain ⟨value, valueRan, -⟩ := mem_canonicalEntries_of_mem entriesRan isIn
      exact ⟨value, valueRan⟩
    · intro key value
      rw [mem_dict_iff, last?_sortEntries, last?_canonicalEntries entriesRan]
  · rintro ⟨each, object, rfl, ordered, members⟩
    obtain ⟨written, entriesRan⟩ := canonicalEntries_total each
    rw [canonicalValue, entriesRan]
    refine congrArg (fun object => Except.ok (JsonValue.obj object)) ?_
    apply Ordered.eq_of_mem_iff (ordered_dict_sortEntries written) ordered
    intro entry
    rw [mem_dict_iff, last?_sortEntries, last?_canonicalEntries entriesRan, ← members]

/-- Two mappings made from the same last values have the same canonical form when each value
made for the one has that of the value made for the other. -/
theorem canonicalValue_dict_of_last {α : Type} (sources : List (String × α))
    {entries pairs : List (String × PyValue F)} (read write : String → α → PyValue F)
    (isRead : ∀ key, last? entries key = (last? sources key).map (read key))
    (isWritten : ∀ key, last? pairs key = (last? sources key).map (write key))
    (carried : ∀ key value, last? sources key = some value → ∀ result,
      canonicalValue (read key value) = .ok result →
        canonicalValue (write key value) = .ok result)
    {canonical : JsonValue F} (ran : canonicalValue (.mapping entries) = .ok canonical) :
    canonicalValue (.mapping (dict pairs)) = .ok canonical := by
  obtain ⟨each, object, rfl, ordered, members⟩ := canonicalValue_mapping_iff.mp ran
  have known : ∀ key value, last? sources key = some value →
      ∃ result, canonicalValue (read key value) = .ok result := by
    intro key value found
    exact each (key, read key value) (mem_of_last? (by rw [isRead, found]; rfl))
  refine canonicalValue_mapping_iff.mpr ⟨?_, object, rfl, ordered, ?_⟩
  · intro entry isIn
    have last := mem_dict_iff.mp isIn
    rw [isWritten, Option.map_eq_some_iff] at last
    obtain ⟨value, found, same⟩ := last
    obtain ⟨result, valueRan⟩ := known _ _ found
    rw [← same]
    exact ⟨result, carried _ _ found result valueRan⟩
  · intro key result
    rw [members, isRead, last?_dict, isWritten]
    simp only [Option.map_eq_some_iff]
    constructor
    · rintro ⟨_, ⟨value, found, rfl⟩, valueRan⟩
      exact ⟨_, ⟨value, found, rfl⟩, carried key value found result valueRan⟩
    · rintro ⟨_, ⟨value, found, rfl⟩, valueRan⟩
      obtain ⟨other, otherRan⟩ := known key value found
      have same := carried key value found other otherRan
      rw [valueRan, Except.ok.injEq] at same
      rw [same]
      exact ⟨_, ⟨value, found, rfl⟩, otherRan⟩

/-- Mappings with different values at a key have different canonical forms. -/
theorem canonical_ne_of_last {first second : List (String × PyValue F)} {key : String}
    {left right : PyValue F} (isLeft : last? first key = some left)
    (isRight : last? second key = some right)
    (differ : ∀ result other, canonicalValue left = .ok result → canonicalValue right = .ok other →
      result ≠ other) {canonical other : JsonValue F}
    (firstRan : canonicalValue (.mapping first) = .ok canonical)
    (secondRan : canonicalValue (.mapping second) = .ok other) : canonical ≠ other := by
  obtain ⟨leftEach, object, rfl, ordered, members⟩ := canonicalValue_mapping_iff.mp firstRan
  obtain ⟨rightEach, rest, rfl, -, others⟩ := canonicalValue_mapping_iff.mp secondRan
  obtain ⟨result, leftRan⟩ := leftEach _ (mem_of_last? isLeft)
  obtain ⟨other, rightRan⟩ := rightEach _ (mem_of_last? isRight)
  intro same
  cases same
  have isResult := (members key result).mpr ⟨left, isLeft, leftRan⟩
  have isOther := (others key other).mpr ⟨right, isRight, rightRan⟩
  have sameEntry := List.inj_on_of_nodup_map ordered.nodup isResult isOther rfl
  exact differ result other leftRan rightRan (congrArg Prod.snd sameEntry)

theorem canonicalValue_sequence_iff {items : List (PyValue F)} {canonical : JsonValue F} :
    canonicalValue (.sequence items) = .ok canonical ↔
      ∃ values, canonical = .arr values ∧
        List.Forall₂ (fun item value => canonicalValue item = .ok value) items values := by
  have written : ∀ values, canonicalItems items = .ok values ↔
      List.Forall₂ (fun item value => canonicalValue item = .ok value) items values := by
    induction items with
    | nil =>
        intro values
        rw [List.forall₂_nil_left_iff, canonicalItems]
        exact ⟨fun ran => by cases ran; rfl, fun same => by rw [same]⟩
    | cons item items ih =>
        intro values
        rw [List.forall₂_cons_left_iff]
        constructor
        · intro ran
          obtain ⟨first, rest, firstRan, restRan, rfl⟩ := canonicalItems_cons ran
          exact ⟨first, rest, firstRan, (ih rest).mp restRan, rfl⟩
        · rintro ⟨first, rest, firstRan, restRan, rfl⟩
          rw [canonicalItems, firstRan, (ih rest).mpr restRan]
          rfl
  rw [canonicalValue]
  constructor
  · intro ran
    obtain ⟨values, itemsRan, rfl⟩ := Results.map_ok ran
    exact ⟨values, rfl, (written values).mp itemsRan⟩
  · rintro ⟨values, rfl, each⟩
    rw [(written values).mpr each]
    rfl

/-! ### Content that is stored -/

/-- The value has a canonical form. -/
def HasForm (value : PyValue F) : Prop :=
  ∃ canonical, canonicalValue value = .ok canonical

theorem hasForm_mapping (entries : List (String × PyValue F)) :
    HasForm (.mapping entries) ↔ ∀ entry ∈ entries, HasForm entry.2 := by
  constructor
  · rintro ⟨canonical, ran⟩
    exact (canonicalValue_mapping_iff.mp ran).1
  · intro each
    obtain ⟨written, entriesRan⟩ := canonicalEntries_total each
    exact ⟨_, by rw [canonicalValue, entriesRan]; rfl⟩

theorem hasForm_sequence (items : List (PyValue F)) :
    HasForm (.sequence items) ↔ ∀ item ∈ items, HasForm item := by
  constructor
  · rintro ⟨canonical, ran⟩ item isIn
    obtain ⟨values, -, each⟩ := canonicalValue_sequence_iff.mp ran
    clear ran
    induction each with
    | nil => cases isIn
    | cons first rest ih =>
        obtain rfl | isIn := List.mem_cons.mp isIn
        · exact ⟨_, first⟩
        · exact ih isIn
  · intro each
    induction items with
    | nil => exact ⟨_, rfl⟩
    | cons item items ih =>
        obtain ⟨first, firstRan⟩ := each item List.mem_cons_self
        obtain ⟨rest, restRan⟩ := ih fun other isIn => each other (List.mem_cons_of_mem _ isIn)
        obtain ⟨values, -, related⟩ := canonicalValue_sequence_iff.mp restRan
        exact ⟨_, canonicalValue_sequence_iff.mpr ⟨_, rfl, .cons firstRan related⟩⟩

variable [FloatFormat F]

/-- The numbers in the canonical form of the value are finite. -/
def FiniteForm (value : PyValue F) : Prop :=
  ∀ canonical, canonicalValue value = .ok canonical → JsonText.isFinite canonical = true

theorem finiteForm_mapping {entries : List (String × PyValue F)}
    (formed : HasForm (.mapping entries)) :
    FiniteForm (.mapping entries) ↔
      ∀ key source, last? entries key = some source → FiniteForm source := by
  obtain ⟨canonical, ran⟩ := formed
  obtain ⟨-, object, rfl, -, members⟩ := canonicalValue_mapping_iff.mp ran
  constructor
  · intro finite key source found value valueRan
    exact (haveFinite_iff object).mp (finite _ ran) (key, value)
      ((members key value).mpr ⟨source, found, valueRan⟩)
  · intro each canonical again
    rw [ran, Except.ok.injEq] at again
    rw [← again]
    refine (haveFinite_iff object).mpr fun entry isIn => ?_
    obtain ⟨source, found, valueRan⟩ := (members entry.1 entry.2).mp isIn
    exact each entry.1 source found entry.2 valueRan

theorem finiteForm_sequence {items : List (PyValue F)} (formed : HasForm (.sequence items)) :
    FiniteForm (.sequence items) ↔ ∀ item ∈ items, FiniteForm item := by
  obtain ⟨canonical, ran⟩ := formed
  obtain ⟨values, rfl, each⟩ := canonicalValue_sequence_iff.mp ran
  have whole : FiniteForm (.sequence items) ↔ JsonText.areFinite values = true := by
    constructor
    · intro finite
      exact finite _ ran
    · intro finite canonical again
      rw [ran, Except.ok.injEq] at again
      rw [← again]
      exact finite
  rw [whole]
  clear ran whole
  induction each with
  | nil => simp [JsonText.areFinite]
  | cons firstRan rest ih =>
      rw [JsonText.areFinite, Bool.and_eq_true, List.forall_mem_cons]
      refine and_congr ⟨?_, fun finite => finite _ firstRan⟩ ih
      intro finite other otherRan
      rw [firstRan, Except.ok.injEq] at otherRan
      rw [← otherRan]
      exact finite

/-- A value is written when it has a canonical form with finite numbers. -/
theorem canonicalJson_total {value : PyValue F} :
    (∃ text, canonicalJson value = .ok text) ↔ HasForm value ∧ FiniteForm value := by
  constructor
  · rintro ⟨text, written⟩
    obtain ⟨canonical, ran, finite, -⟩ := canonicalJson_ok written
    refine ⟨⟨canonical, ran⟩, ?_⟩
    intro other otherRan
    rw [ran, Except.ok.injEq] at otherRan
    rw [← otherRan]
    exact finite
  · rintro ⟨⟨canonical, ran⟩, finite⟩
    refine ⟨JsonText.write canonical, ?_⟩
    rw [canonicalJson, ran]
    simp only [JsonText.dumps, finite canonical ran, if_true]

end PyValue

/-! ### Content with dataclasses -/

/-- What keeps values under keys. -/
inductive Container where
  | mapping
  | dataclass
deriving DecidableEq, Repr

/-- The values that callers hand to the store, dataclasses with the names of their fields. -/
inductive StoreValue (F : Type) where
  | scalar (value : Scalar F)
  | enum (value : Scalar F)
  | timestamp (value : AwareTimestamp)
  | naive (value : DateTime)
  | sequence (items : List (StoreValue F))
  | keyed (container : Container) (entries : List (String × StoreValue F))
  | unsupported (typeName : String)

namespace StoreValue

mutual

/-- The value as `_canonical_value` reads it: `asdict` makes mappings of dataclasses, at any
depth. -/
def plain : StoreValue F → PyValue F
  | .scalar value => .scalar value
  | .enum value => .enum value
  | .timestamp value => .timestamp value
  | .naive value => .naive value
  | .sequence items => .sequence (plainItems items)
  | .keyed _ entries => .mapping (plainEntries entries)
  | .unsupported typeName => .unsupported typeName

def plainItems : List (StoreValue F) → List (PyValue F)
  | [] => []
  | item :: items => plain item :: plainItems items

def plainEntries : List (String × StoreValue F) → List (String × PyValue F)
  | [] => []
  | (key, value) :: entries => (key, plain value) :: plainEntries entries

end

def redacted : StoreValue F :=
  .scalar (.str "[REDACTED]")

mutual

/-- `redact_structure`, for which a dataclass is a value like a number. -/
def redactStructure : StoreValue F → StoreValue F
  | .sequence items => .sequence (redactItems items)
  | .keyed .mapping entries => .keyed .mapping (dict (redactEntries entries))
  | value => value

def redactItems : List (StoreValue F) → List (StoreValue F)
  | [] => []
  | item :: items => redactStructure item :: redactItems items

def redactEntries : List (String × StoreValue F) → List (String × StoreValue F)
  | [] => []
  | (key, value) :: entries =>
      (key, if Json.sensitiveKey key then redacted else redactStructure value) ::
        redactEntries entries

end

mutual

/-- The value with a text in place of everything under sensitive keys. -/
def fill (text : String) : StoreValue F → StoreValue F
  | .sequence items => .sequence (fillItems text items)
  | .keyed container entries => .keyed container (fillEntries text entries)
  | value => value

def fillItems (text : String) : List (StoreValue F) → List (StoreValue F)
  | [] => []
  | item :: items => fill text item :: fillItems text items

def fillEntries (text : String) : List (String × StoreValue F) → List (String × StoreValue F)
  | [] => []
  | (key, value) :: entries =>
      (key, if Json.sensitiveKey key then .scalar (.str text) else fill text value) ::
        fillEntries text entries

end

/-- Values that differ only under sensitive keys. -/
def Alike (first second : StoreValue F) : Prop :=
  first.fill "" = second.fill ""

/-- `_json` of the store. -/
def persisted [FloatFormat F] (value : StoreValue F) : Except CanonicalError (List Char) :=
  canonicalJson value.redactStructure.plain

/-- The canonical form of a value has something under a sensitive key. -/
inductive Exposes : StoreValue F → Prop where
  | sensitive {container : Container} {entries : List (String × StoreValue F)} {key : String}
      {value : StoreValue F} (found : last? entries key = some value)
      (sensitive : Json.sensitiveKey key = true) : Exposes (.keyed container entries)
  | entry {container : Container} {entries : List (String × StoreValue F)} {key : String}
      {value : StoreValue F} (found : last? entries key = some value)
      (exposes : Exposes value) : Exposes (.keyed container entries)
  | item {items : List (StoreValue F)} {value : StoreValue F} (isIn : value ∈ items)
      (exposes : Exposes value) : Exposes (.sequence items)

/-- A dataclass outside sensitive keys has something under a sensitive key. -/
inductive Leaks : StoreValue F → Prop where
  | dataclass {fields : List (String × StoreValue F)}
      (exposes : Exposes (.keyed .dataclass fields)) : Leaks (.keyed .dataclass fields)
  | entry {entries : List (String × StoreValue F)} {key : String} {value : StoreValue F}
      (found : last? entries key = some value) (harmless : Json.sensitiveKey key = false)
      (leaks : Leaks value) : Leaks (.keyed .mapping entries)
  | item {items : List (StoreValue F)} {value : StoreValue F} (isIn : value ∈ items)
      (leaks : Leaks value) : Leaks (.sequence items)

/-! ### The parts of a value -/

theorem plainItems_eq_map (items : List (StoreValue F)) : plainItems items = items.map plain := by
  induction items with
  | nil => rfl
  | cons item items ih => rw [plainItems, ih, List.map_cons]

theorem plainEntries_eq_map (entries : List (String × StoreValue F)) :
    plainEntries entries = entries.map fun entry => (entry.1, plain entry.2) := by
  induction entries with
  | nil => rfl
  | cons entry entries ih => rw [plainEntries, ih, List.map_cons]

theorem redactPlainItems_eq_map (items : List (PyValue F)) :
    PyValue.redactItems items = items.map PyValue.redactStructure := by
  induction items with
  | nil => rfl
  | cons item items ih => rw [PyValue.redactItems, ih, List.map_cons]

theorem redactItems_eq_map (items : List (StoreValue F)) :
    redactItems items = items.map redactStructure := by
  induction items with
  | nil => rfl
  | cons item items ih => rw [redactItems, ih, List.map_cons]

theorem redactEntries_eq_map (entries : List (String × StoreValue F)) :
    redactEntries entries = entries.map fun entry =>
      (entry.1, if Json.sensitiveKey entry.1 then redacted else redactStructure entry.2) := by
  induction entries with
  | nil => rfl
  | cons entry entries ih => rw [redactEntries, ih, List.map_cons]

theorem fillItems_eq_map (text : String) (items : List (StoreValue F)) :
    fillItems text items = items.map (fill text) := by
  induction items with
  | nil => rfl
  | cons item items ih => rw [fillItems, ih, List.map_cons]

theorem fillEntries_eq_map (text : String) (entries : List (String × StoreValue F)) :
    fillEntries text entries = entries.map fun entry =>
      (entry.1, if Json.sensitiveKey entry.1 then .scalar (.str text) else fill text entry.2) := by
  induction entries with
  | nil => rfl
  | cons entry entries ih => rw [fillEntries, ih, List.map_cons]

theorem last?_plainEntries (entries : List (String × StoreValue F)) (key : String) :
    last? (plainEntries entries) key = (last? entries key).map plain := by
  rw [plainEntries_eq_map]
  exact last?_map (fun _ value => plain value) entries key

theorem last?_redactEntries (entries : List (String × StoreValue F)) (key : String) :
    last? (redactEntries entries) key = (last? entries key).map fun value =>
      if Json.sensitiveKey key then redacted else redactStructure value := by
  rw [redactEntries_eq_map]
  exact last?_map (fun key value =>
    if Json.sensitiveKey key then redacted else redactStructure value) entries key

theorem last?_redactPlainEntries (entries : List (String × PyValue F)) (key : String) :
    last? (PyValue.redactEntries entries) key = (last? entries key).map fun value =>
      if Json.sensitiveKey key then PyValue.redacted else PyValue.redactStructure value := by
  rw [PyValue.redactEntries_eq_map]
  exact last?_map (fun key value =>
    if Json.sensitiveKey key then PyValue.redacted else PyValue.redactStructure value) entries key

theorem last?_fillEntries (text : String) (entries : List (String × StoreValue F))
    (key : String) :
    last? (fillEntries text entries) key = (last? entries key).map fun value =>
      if Json.sensitiveKey key then .scalar (.str text) else fill text value := by
  rw [fillEntries_eq_map]
  exact last?_map (fun key value =>
    if Json.sensitiveKey key then .scalar (.str text) else fill text value) entries key

/-- Lists related item by item stay so when each relation of a member carries over. -/
theorem forall₂_of_mem {α β : Type} {related other : α → β → Prop} {items : List α}
    {values : List β} (each : List.Forall₂ related items values)
    (carries : ∀ item ∈ items, ∀ value, related item value → other item value) :
    List.Forall₂ other items values := by
  induction each with
  | nil => exact .nil
  | cons first rest ih =>
      exact .cons (carries _ List.mem_cons_self _ first)
        (ih fun item isIn => carries item (List.mem_cons_of_mem _ isIn))

/-- A property of all values, by what they are made of. -/
@[elab_as_elim]
theorem byParts {motive : StoreValue F → Prop}
    (scalar : ∀ value, motive (.scalar value)) (enum : ∀ value, motive (.enum value))
    (timestamp : ∀ value, motive (.timestamp value)) (naive : ∀ value, motive (.naive value))
    (unsupported : ∀ typeName, motive (.unsupported typeName))
    (sequence : ∀ items, (∀ item ∈ items, motive item) → motive (.sequence items))
    (keyed : ∀ container entries, (∀ entry ∈ entries, motive entry.2) →
      motive (.keyed container entries)) : ∀ value, motive value
  | .scalar value => scalar value
  | .enum value => enum value
  | .timestamp value => timestamp value
  | .naive value => naive value
  | .unsupported typeName => unsupported typeName
  | .sequence items => sequence items fun item _ =>
      byParts scalar enum timestamp naive unsupported sequence keyed item
  | .keyed container entries => keyed container entries fun entry _ =>
      byParts scalar enum timestamp naive unsupported sequence keyed entry.2
termination_by value => sizeOf value
decreasing_by
  · simp_wf
    have := List.sizeOf_lt_of_mem ‹_›
    omega
  · simp_wf
    have := List.sizeOf_lt_of_mem ‹_›
    obtain ⟨key, value⟩ := entry
    simp only [Prod.mk.sizeOf_spec] at this ⊢
    omega

/-! ### Redacting and filling -/

/-- Redacting what is redacted changes nothing. -/
theorem redactStructure_idempotent (value : StoreValue F) :
    value.redactStructure.redactStructure = value.redactStructure := by
  induction value using byParts with
  | scalar value | enum value | timestamp value | naive value | unsupported typeName => rfl
  | sequence items ih =>
      simp only [redactStructure, redactItems_eq_map, List.map_map]
      exact congrArg _ (List.map_congr_left ih)
  | keyed container entries ih =>
      cases container with
      | dataclass => rfl
      | mapping =>
          simp only [redactStructure]
          have settled : redactEntries (dict (redactEntries entries)) =
              dict (redactEntries entries) := by
            rw [redactEntries_eq_map]
            conv_rhs => rw [← List.map_id (dict (redactEntries entries))]
            refine List.map_congr_left fun entry isIn => ?_
            have made := JsonText.mem_of_mem_dict isIn
            rw [redactEntries_eq_map] at made
            obtain ⟨source, isSource, rfl⟩ := List.mem_map.mp made
            cases sensitive : Json.sensitiveKey source.1 with
            | true => simp
            | false => simp [ih source isSource]
          rw [settled, JsonText.dict_of_nodup (JsonText.nodup_dict _)]

theorem fill_fill (first second : String) (value : StoreValue F) :
    (value.fill first).fill second = value.fill second := by
  induction value using byParts with
  | scalar value | enum value | timestamp value | naive value | unsupported typeName => rfl
  | sequence items ih =>
      simp only [fill, fillItems_eq_map, List.map_map]
      exact congrArg _ (List.map_congr_left ih)
  | keyed container entries ih =>
      simp only [fill, fillEntries_eq_map, List.map_map]
      refine congrArg _ (List.map_congr_left fun entry isIn => ?_)
      cases sensitive : Json.sensitiveKey entry.1 with
      | true => simp [sensitive]
      | false => simp [sensitive, ih entry isIn]

theorem alike_fill (text : String) (value : StoreValue F) : Alike value (value.fill text) :=
  (fill_fill text "" value).symm

/-- Redaction that treats dataclasses as mappings does not see what was filled in. -/
theorem redact_plain_fill (text : String) (value : StoreValue F) :
    (value.fill text).plain.redactStructure = value.plain.redactStructure := by
  induction value using byParts with
  | scalar value | enum value | timestamp value | naive value | unsupported typeName => rfl
  | sequence items ih =>
      simp only [fill, plain, PyValue.redactStructure, fillItems_eq_map, plainItems_eq_map,
        redactPlainItems_eq_map, List.map_map]
      exact congrArg _ (List.map_congr_left ih)
  | keyed container entries ih =>
      simp only [fill, plain, PyValue.redactStructure, fillEntries_eq_map, plainEntries_eq_map,
        PyValue.redactEntries_eq_map, List.map_map]
      refine congrArg _ (congrArg _ (List.map_congr_left fun entry isIn => ?_))
      cases sensitive : Json.sensitiveKey entry.1 with
      | true => simp [sensitive]
      | false => simp [sensitive, ih entry isIn]

/-- A value that is alike exposes something as well. -/
theorem Exposes.fill {value : StoreValue F} (exposes : Exposes value) (text : String) :
    Exposes (value.fill text) := by
  induction exposes with
  | sensitive found sensitive =>
      exact .sensitive (by rw [last?_fillEntries, found]; rfl) sensitive
  | @entry _ _ key _ found _ ih =>
      cases sensitive : Json.sensitiveKey key with
      | true => exact .sensitive (by rw [last?_fillEntries, found]; rfl) sensitive
      | false => exact .entry (by rw [last?_fillEntries, found, sensitive]; rfl) ih
  | item isIn _ ih =>
      rw [StoreValue.fill, fillItems_eq_map]
      exact .item (List.mem_map_of_mem isIn) ih

theorem Leaks.fill {value : StoreValue F} (leaks : Leaks value) (text : String) :
    Leaks (value.fill text) := by
  induction leaks with
  | dataclass exposes => exact .dataclass (exposes.fill text)
  | entry found harmless _ ih =>
      exact .entry (by rw [last?_fillEntries, found, harmless]; rfl) harmless ih
  | item isIn _ ih =>
      rw [StoreValue.fill, fillItems_eq_map]
      exact .item (List.mem_map_of_mem isIn) ih

theorem exposes_fill_iff {text : String} {value : StoreValue F} :
    Exposes (value.fill text) ↔ Exposes value := by
  refine ⟨?_, fun exposes => exposes.fill text⟩
  induction value using byParts with
  | scalar value | enum value | timestamp value | naive value | unsupported typeName => exact id
  | sequence items ih =>
      intro exposes
      rw [fill, fillItems_eq_map] at exposes
      cases exposes with
      | item isIn exposes =>
          obtain ⟨item, isItem, rfl⟩ := List.mem_map.mp isIn
          exact .item isItem (ih item isItem exposes)
  | keyed container entries ih =>
      intro exposes
      rw [fill] at exposes
      cases exposes with
      | sensitive found sensitive =>
          rw [last?_fillEntries] at found
          obtain ⟨value, found, -⟩ := Option.map_eq_some_iff.mp found
          exact .sensitive found sensitive
      | @entry _ _ key _ found exposes =>
          rw [last?_fillEntries] at found
          obtain ⟨value, isLast, rfl⟩ := Option.map_eq_some_iff.mp found
          cases sensitive : Json.sensitiveKey key with
          | true => exact .sensitive isLast sensitive
          | false =>
              rw [sensitive] at exposes
              exact .entry isLast (ih _ (mem_of_last? isLast) exposes)

theorem leaks_fill_iff {text : String} {value : StoreValue F} :
    Leaks (value.fill text) ↔ Leaks value := by
  refine ⟨?_, fun leaks => leaks.fill text⟩
  induction value using byParts with
  | scalar value | enum value | timestamp value | naive value | unsupported typeName => exact id
  | sequence items ih =>
      intro leaks
      rw [fill, fillItems_eq_map] at leaks
      cases leaks with
      | item isIn leaks =>
          obtain ⟨item, isItem, rfl⟩ := List.mem_map.mp isIn
          exact .item isItem (ih item isItem leaks)
  | keyed container entries ih =>
      intro leaks
      rw [fill] at leaks
      cases leaks with
      | dataclass exposes => exact .dataclass (exposes_fill_iff.mp exposes)
      | entry found harmless leaks =>
          rw [last?_fillEntries, harmless] at found
          obtain ⟨value, isLast, rfl⟩ := Option.map_eq_some_iff.mp found
          exact .entry isLast harmless (ih _ (mem_of_last? isLast) leaks)

/-- Alike values leak together. -/
theorem Alike.leaks_iff {first second : StoreValue F} (alike : Alike first second) :
    Leaks first ↔ Leaks second := by
  have same : first.fill "" = second.fill "" := alike
  calc Leaks first ↔ Leaks (first.fill "") := leaks_fill_iff.symm
    _ ↔ Leaks (second.fill "") := by rw [same]
    _ ↔ Leaks second := leaks_fill_iff

/-! ### Values that expose nothing -/

/-- Redaction leaves the canonical form of a value that exposes nothing. -/
theorem canonical_of_not_exposes {value : StoreValue F} (sealed : ¬Exposes value)
    {canonical : JsonValue F} (ran : canonicalValue value.plain = .ok canonical) :
    canonicalValue value.plain.redactStructure = .ok canonical := by
  induction value using byParts generalizing canonical with
  | scalar value | enum value | timestamp value | naive value | unsupported typeName => exact ran
  | sequence items ih =>
      obtain ⟨values, rfl, each⟩ := PyValue.canonicalValue_sequence_iff.mp ran
      rw [plainItems_eq_map, List.forall₂_map_left_iff] at each
      rw [plain, plainItems_eq_map, PyValue.redactStructure, redactPlainItems_eq_map]
      refine PyValue.canonicalValue_sequence_iff.mpr ⟨values, rfl, ?_⟩
      rw [List.forall₂_map_left_iff, List.forall₂_map_left_iff]
      exact forall₂_of_mem each fun item isIn value itemRan =>
        ih item isIn (fun exposes => sealed (.item isIn exposes)) itemRan
  | keyed container entries ih =>
      rw [plain, PyValue.redactStructure]
      refine PyValue.canonicalValue_dict_of_last entries (fun _ value => value.plain)
        (fun _ value => value.plain.redactStructure) (last?_plainEntries entries) ?_ ?_ ran
      · intro key
        rw [last?_redactPlainEntries, last?_plainEntries, Option.map_map]
        cases found : last? entries key with
        | none => rfl
        | some value =>
            cases sensitive : Json.sensitiveKey key with
            | true => exact absurd (.sensitive found sensitive) sealed
            | false => simp
      · intro key value found result valueRan
        exact ih (key, value) (mem_of_last? found)
          (fun exposes => sealed (.entry found exposes)) valueRan

/-- Without a leak, content is stored as if redaction treated dataclasses as mappings. -/
theorem canonical_of_not_leaks {value : StoreValue F} (sealed : ¬Leaks value)
    {canonical : JsonValue F} (ran : canonicalValue value.redactStructure.plain = .ok canonical) :
    canonicalValue value.plain.redactStructure = .ok canonical := by
  induction value using byParts generalizing canonical with
  | scalar value | enum value | timestamp value | naive value | unsupported typeName => exact ran
  | sequence items ih =>
      rw [redactStructure, plain, plainItems_eq_map, redactItems_eq_map] at ran
      obtain ⟨values, rfl, each⟩ := PyValue.canonicalValue_sequence_iff.mp ran
      rw [List.forall₂_map_left_iff, List.forall₂_map_left_iff] at each
      rw [plain, plainItems_eq_map, PyValue.redactStructure, redactPlainItems_eq_map]
      refine PyValue.canonicalValue_sequence_iff.mpr ⟨values, rfl, ?_⟩
      rw [List.forall₂_map_left_iff, List.forall₂_map_left_iff]
      exact forall₂_of_mem each fun item isIn value itemRan =>
        ih item isIn (fun leaks => sealed (.item isIn leaks)) itemRan
  | keyed container entries ih =>
      cases container with
      | dataclass =>
          exact canonical_of_not_exposes (fun exposes => sealed (.dataclass exposes)) ran
      | mapping =>
          rw [redactStructure, plain] at ran
          rw [plain, PyValue.redactStructure]
          refine PyValue.canonicalValue_dict_of_last entries
            (fun key value =>
              (if Json.sensitiveKey key then redacted else redactStructure value).plain)
            (fun key value =>
              if Json.sensitiveKey key then PyValue.redacted else value.plain.redactStructure)
            ?_ ?_ ?_ ran
          · intro key
            rw [last?_plainEntries, last?_dict, last?_redactEntries, Option.map_map]
            rfl
          · intro key
            rw [last?_redactPlainEntries, last?_plainEntries, Option.map_map]
            rfl
          · intro key value found result valueRan
            cases sensitive : Json.sensitiveKey key with
            | true =>
                rw [sensitive] at valueRan
                exact valueRan
            | false =>
                rw [sensitive] at valueRan
                exact ih (key, value) (mem_of_last? found)
                  (fun leaks => sealed (.entry found sensitive leaks)) valueRan

/-! ### Values that leak -/

theorem canonical_text_ne {first second : String} (different : first ≠ second)
    (result other : JsonValue F)
    (resultRan : canonicalValue (StoreValue.scalar (.str first) : StoreValue F).plain = .ok result)
    (otherRan : canonicalValue (StoreValue.scalar (.str second) : StoreValue F).plain = .ok other) :
    result ≠ other := by
  cases resultRan
  cases otherRan
  intro same
  exact different (JsonValue.str.inj same)

/-- Items of two sequences with different canonical forms are not both canonical alike. -/
theorem canonical_ne_of_item {α : Type} {items : List α} {read write : α → PyValue F} {item : α}
    (isIn : item ∈ items)
    (differ : ∀ result other, canonicalValue (read item) = .ok result →
      canonicalValue (write item) = .ok other → result ≠ other) {canonical other : JsonValue F}
    (firstRan : canonicalValue (.sequence (items.map read)) = .ok canonical)
    (secondRan : canonicalValue (.sequence (items.map write)) = .ok other) :
    canonical ≠ other := by
  obtain ⟨values, rfl, each⟩ := PyValue.canonicalValue_sequence_iff.mp firstRan
  obtain ⟨others, rfl, rest⟩ := PyValue.canonicalValue_sequence_iff.mp secondRan
  rw [List.forall₂_map_left_iff] at each rest
  intro same
  cases same
  clear firstRan secondRan
  induction each with
  | nil => cases isIn
  | cons firstRan each ih =>
      obtain ⟨secondRan, rest⟩ := List.forall₂_cons.mp rest
      obtain rfl | isIn := List.mem_cons.mp isIn
      · exact differ _ _ firstRan secondRan rfl
      · exact ih isIn rest

/-- What a value exposes shows in its canonical form. -/
theorem Exposes.canonical_ne {value : StoreValue F} (exposes : Exposes value)
    {first second : String} (different : first ≠ second) {canonical other : JsonValue F}
    (firstRan : canonicalValue (value.fill first).plain = .ok canonical)
    (secondRan : canonicalValue (value.fill second).plain = .ok other) : canonical ≠ other := by
  induction exposes generalizing canonical other with
  | @sensitive _ entries key _ found sensitive =>
      have last : ∀ text, last? (plainEntries (fillEntries text entries)) key =
          some (StoreValue.scalar (.str text)).plain := by
        intro text
        rw [last?_plainEntries, last?_fillEntries, found]
        simp [sensitive]
      exact PyValue.canonical_ne_of_last (last first) (last second)
        (canonical_text_ne different) firstRan secondRan
  | @entry _ entries key value found _ ih =>
      have last : ∀ text, last? (plainEntries (fillEntries text entries)) key =
          some (if Json.sensitiveKey key then .scalar (.str text) else value.fill text).plain := by
        intro text
        rw [last?_plainEntries, last?_fillEntries, found]
        rfl
      refine PyValue.canonical_ne_of_last (last first) (last second) ?_ firstRan secondRan
      cases sensitive : Json.sensitiveKey key with
      | true => exact canonical_text_ne different
      | false => exact fun _ _ leftRan rightRan => ih leftRan rightRan
  | item isIn _ ih =>
      rw [StoreValue.fill, plain, plainItems_eq_map, fillItems_eq_map,
        List.map_map] at firstRan secondRan
      exact canonical_ne_of_item isIn (fun _ _ leftRan rightRan => ih leftRan rightRan)
        firstRan secondRan

/-- What a value leaks shows in what is stored of it. -/
theorem Leaks.canonical_ne {value : StoreValue F} (leaks : Leaks value)
    {first second : String} (different : first ≠ second) {canonical other : JsonValue F}
    (firstRan : canonicalValue (value.fill first).redactStructure.plain = .ok canonical)
    (secondRan : canonicalValue (value.fill second).redactStructure.plain = .ok other) :
    canonical ≠ other := by
  induction leaks generalizing canonical other with
  | dataclass exposes => exact exposes.canonical_ne different firstRan secondRan
  | @entry entries key value found harmless _ ih =>
      have last : ∀ text,
          last? (plainEntries (dict (redactEntries (fillEntries text entries)))) key =
          some (value.fill text).redactStructure.plain := by
        intro text
        rw [last?_plainEntries, last?_dict, last?_redactEntries, last?_fillEntries, found]
        simp [harmless]
      exact PyValue.canonical_ne_of_last (last first) (last second)
        (fun _ _ leftRan rightRan => ih leftRan rightRan) firstRan secondRan
  | item isIn _ ih =>
      rw [StoreValue.fill, redactStructure, plain, plainItems_eq_map, redactItems_eq_map,
        fillItems_eq_map, List.map_map, List.map_map] at firstRan secondRan
      exact canonical_ne_of_item isIn (fun _ _ leftRan rightRan => ih leftRan rightRan)
        firstRan secondRan

/-! ### Filled content is stored as well -/

theorem hasForm_dict (entries : List (String × StoreValue F)) :
    PyValue.HasForm (.mapping (plainEntries (dict entries))) ↔
      ∀ key value, last? entries key = some value → value.plain.HasForm := by
  rw [PyValue.hasForm_mapping, plainEntries_eq_map, List.forall_mem_map]
  constructor
  · intro each key value found
    exact each (key, value) (mem_dict_iff.mpr found)
  · intro each entry isIn
    exact each entry.1 entry.2 (mem_dict_iff.mp isIn)

theorem hasForm_fill (text : String) {value : StoreValue F} (formed : value.plain.HasForm) :
    (value.fill text).plain.HasForm := by
  induction value using byParts with
  | scalar value | enum value | timestamp value | naive value | unsupported typeName =>
      exact formed
  | sequence items ih =>
      rw [plain, plainItems_eq_map, PyValue.hasForm_sequence, List.forall_mem_map] at formed
      rw [fill, plain, plainItems_eq_map, fillItems_eq_map, List.map_map,
        PyValue.hasForm_sequence, List.forall_mem_map]
      exact fun item isIn => ih item isIn (formed item isIn)
  | keyed container entries ih =>
      rw [plain, plainEntries_eq_map, PyValue.hasForm_mapping, List.forall_mem_map] at formed
      rw [fill, plain, plainEntries_eq_map, fillEntries_eq_map, List.map_map,
        PyValue.hasForm_mapping, List.forall_mem_map]
      intro entry isIn
      cases sensitive : Json.sensitiveKey entry.1 with
      | true => exact ⟨_, by simp only [Function.comp, sensitive, if_true]; rfl⟩
      | false =>
          simp only [Function.comp, sensitive, Bool.false_eq_true, if_false]
          exact ih entry isIn (formed entry isIn)

theorem hasForm_redact_fill (text : String) {value : StoreValue F}
    (formed : value.redactStructure.plain.HasForm) :
    (value.fill text).redactStructure.plain.HasForm := by
  induction value using byParts with
  | scalar value | enum value | timestamp value | naive value | unsupported typeName =>
      exact formed
  | sequence items ih =>
      rw [redactStructure, plain, plainItems_eq_map, redactItems_eq_map, List.map_map,
        PyValue.hasForm_sequence, List.forall_mem_map] at formed
      rw [fill, redactStructure, plain, plainItems_eq_map, redactItems_eq_map, fillItems_eq_map,
        List.map_map, List.map_map, PyValue.hasForm_sequence, List.forall_mem_map]
      exact fun item isIn => ih item isIn (formed item isIn)
  | keyed container entries ih =>
      cases container with
      | dataclass => exact hasForm_fill text formed
      | mapping =>
          rw [redactStructure, plain, hasForm_dict] at formed
          rw [fill, redactStructure, plain, hasForm_dict]
          intro key value found
          rw [last?_redactEntries, last?_fillEntries, Option.map_map,
            Option.map_eq_some_iff] at found
          obtain ⟨source, isLast, rfl⟩ := found
          have sourceFormed := formed key _ (by rw [last?_redactEntries, isLast]; rfl)
          cases sensitive : Json.sensitiveKey key with
          | true => exact ⟨_, by simp only [Function.comp, if_true]; rfl⟩
          | false =>
              rw [sensitive] at sourceFormed
              simp only [Function.comp, Bool.false_eq_true, if_false]
              exact ih (key, source) (mem_of_last? isLast) sourceFormed

section

variable [FloatFormat F]

theorem finiteForm_text (text : String) :
    (StoreValue.scalar (.str text) : StoreValue F).plain.FiniteForm := by
  intro canonical ran
  cases ran
  rfl

theorem finiteForm_fill (text : String) {value : StoreValue F} (formed : value.plain.HasForm)
    (finite : value.plain.FiniteForm) : (value.fill text).plain.FiniteForm := by
  have filled := hasForm_fill text formed
  induction value using byParts with
  | scalar value | enum value | timestamp value | naive value | unsupported typeName =>
      exact finite
  | sequence items ih =>
      rw [plain, PyValue.finiteForm_sequence formed, plainItems_eq_map,
        List.forall_mem_map] at finite
      rw [plain, PyValue.hasForm_sequence, plainItems_eq_map, List.forall_mem_map] at formed
      rw [fill, plain, PyValue.finiteForm_sequence filled, plainItems_eq_map, fillItems_eq_map,
        List.map_map, List.forall_mem_map]
      exact fun item isIn => ih item isIn (formed item isIn) (finite item isIn)
        (hasForm_fill text (formed item isIn))
  | keyed container entries ih =>
      rw [plain, PyValue.finiteForm_mapping formed] at finite
      rw [plain, PyValue.hasForm_mapping, plainEntries_eq_map, List.forall_mem_map] at formed
      rw [fill, plain, PyValue.finiteForm_mapping filled]
      intro key source found
      rw [last?_plainEntries, last?_fillEntries, Option.map_map, Option.map_eq_some_iff] at found
      obtain ⟨value, isLast, rfl⟩ := found
      have valueFormed := formed (key, value) (mem_of_last? isLast)
      have valueFinite := finite key _ (by rw [last?_plainEntries, isLast]; rfl)
      cases sensitive : Json.sensitiveKey key with
      | true =>
          simp only [Function.comp, if_true]
          exact finiteForm_text text
      | false =>
          simp only [Function.comp, Bool.false_eq_true, if_false]
          exact ih (key, value) (mem_of_last? isLast) valueFormed valueFinite
            (hasForm_fill text valueFormed)

theorem finiteForm_redact_fill (text : String) {value : StoreValue F}
    (formed : value.redactStructure.plain.HasForm)
    (finite : value.redactStructure.plain.FiniteForm) :
    (value.fill text).redactStructure.plain.FiniteForm := by
  have filled := hasForm_redact_fill text formed
  induction value using byParts with
  | scalar value | enum value | timestamp value | naive value | unsupported typeName =>
      exact finite
  | sequence items ih =>
      rw [redactStructure, plain, PyValue.finiteForm_sequence formed, plainItems_eq_map,
        redactItems_eq_map, List.map_map, List.forall_mem_map] at finite
      rw [redactStructure, plain, PyValue.hasForm_sequence, plainItems_eq_map,
        redactItems_eq_map, List.map_map, List.forall_mem_map] at formed
      rw [fill, redactStructure, plain, PyValue.finiteForm_sequence filled, plainItems_eq_map,
        redactItems_eq_map, fillItems_eq_map, List.map_map, List.map_map, List.forall_mem_map]
      exact fun item isIn => ih item isIn (formed item isIn) (finite item isIn)
        (hasForm_redact_fill text (formed item isIn))
  | keyed container entries ih =>
      cases container with
      | dataclass => exact finiteForm_fill text formed finite
      | mapping =>
          rw [redactStructure, plain, PyValue.finiteForm_mapping formed] at finite
          rw [redactStructure, plain, hasForm_dict] at formed
          rw [fill, redactStructure, plain, PyValue.finiteForm_mapping filled]
          intro key source found
          rw [last?_plainEntries, last?_dict, last?_redactEntries, last?_fillEntries,
            Option.map_map, Option.map_map, Option.map_eq_some_iff] at found
          obtain ⟨value, isLast, rfl⟩ := found
          have valueFormed := formed key _ (by rw [last?_redactEntries, isLast]; rfl)
          have valueFinite := finite key _
            (by rw [last?_plainEntries, last?_dict, last?_redactEntries, isLast]; rfl)
          cases sensitive : Json.sensitiveKey key with
          | true =>
              simp only [Function.comp, if_true]
              exact finiteForm_text _
          | false =>
              rw [sensitive] at valueFormed valueFinite
              simp only [Function.comp, Bool.false_eq_true, if_false]
              exact ih (key, value) (mem_of_last? isLast) valueFormed valueFinite
                (hasForm_redact_fill text valueFormed)

/-- Content that is stored is stored with any texts under its sensitive keys. -/
theorem persisted_fill (text : String) {value : StoreValue F}
    (stored : ∃ written, value.persisted = .ok written) :
    ∃ written, (value.fill text).persisted = .ok written := by
  obtain ⟨formed, finite⟩ := PyValue.canonicalJson_total.mp stored
  exact PyValue.canonicalJson_total.mpr
    ⟨hasForm_redact_fill text formed, finiteForm_redact_fill text formed finite⟩

/-- Content that is alike and does not leak has one canonical form. -/
theorem canonical_of_alike {first second : StoreValue F} (sealed : ¬Leaks first)
    (alike : Alike first second) (firstStored : ∃ written, first.persisted = .ok written)
    (secondStored : ∃ written, second.persisted = .ok written) :
    canonicalValue first.redactStructure.plain = canonicalValue second.redactStructure.plain := by
  obtain ⟨⟨canonical, firstRan⟩, -⟩ := PyValue.canonicalJson_total.mp firstStored
  obtain ⟨⟨other, secondRan⟩, -⟩ := PyValue.canonicalJson_total.mp secondStored
  have firstPlain := canonical_of_not_leaks sealed firstRan
  have secondPlain := canonical_of_not_leaks (fun leaks => sealed (alike.leaks_iff.mpr leaks))
    secondRan
  have same : first.fill "" = second.fill "" := alike
  rw [firstRan, secondRan, ← firstPlain, ← secondPlain, ← redact_plain_fill "" first, same,
    redact_plain_fill]

/-- What is stored of a value does not depend on its sensitive values exactly when it does not
leak. -/
theorem persisted_same_iff {value : StoreValue F}
    (stored : ∃ written, value.persisted = .ok written) :
    (∀ other, Alike value other → (∃ written, other.persisted = .ok written) →
      value.persisted = other.persisted) ↔ ¬Leaks value := by
  constructor
  · intro same leaks
    have blankStored := persisted_fill "" stored
    have filledStored := persisted_fill "x" stored
    have blankSame := same _ (alike_fill "" value) blankStored
    have filledSame := same _ (alike_fill "x" value) filledStored
    obtain ⟨text, blankRan⟩ := blankStored
    have filledRan : (value.fill "x").persisted = .ok text := by
      rw [← filledSame, blankSame, blankRan]
    have sameForm := PyValue.canonicalValue_of_same_text blankRan filledRan
    obtain ⟨canonical, isCanonical, -⟩ := PyValue.canonicalJson_ok blankRan
    exact leaks.canonical_ne (by decide) isCanonical (sameForm ▸ isCanonical) rfl
  · intro sealed other alike otherStored
    simp only [persisted, canonicalJson, canonical_of_alike sealed alike stored otherStored]

end

end StoreValue

/-! ### Plans and checkpoints -/

/-- What callers hand to the store for a plan and one of its checkpoints. -/
structure StoredContent (F : Type) where
  plan : StoreValue F
  observation : StoreValue F
  targetManifest : StoreValue F
  checkpoint : StoreValue F

/-- The columns of a plan that are hashed with its content. -/
structure HashedColumns where
  operationKind : String
  targetNodeId : Option Int
  targetClusterId : Option Int
  targetAssignmentId : Option Int
  expectedPolicyRevision : Option Int
  expectedAssignmentRevision : Option Int
  observedAt : Option String

namespace StoredContent

/-- The mapping that `canonical_plan_hash` hashes. -/
def hashed (columns : HashedColumns) (content : StoredContent F) : PyValue F :=
  .mapping [("operation_kind", .scalar (.str columns.operationKind)),
    ("plan", content.plan.redactStructure.plain),
    ("observation", content.observation.redactStructure.plain),
    ("target_node_id", optionalInt columns.targetNodeId),
    ("target_cluster_id", optionalInt columns.targetClusterId),
    ("target_assignment_id", optionalInt columns.targetAssignmentId),
    ("expected_policy_revision", optionalInt columns.expectedPolicyRevision),
    ("expected_assignment_revision", optionalInt columns.expectedAssignmentRevision),
    ("observed_at", optionalText columns.observedAt),
    ("target_manifest", content.targetManifest.redactStructure.plain)]

/-- Contents that differ only under sensitive keys. -/
structure Alike (first second : StoredContent F) : Prop where
  plan : first.plan.Alike second.plan
  observation : first.observation.Alike second.observation
  targetManifest : first.targetManifest.Alike second.targetManifest
  checkpoint : first.checkpoint.Alike second.checkpoint

variable [FloatFormat F]

/-- The store has a text for each part. -/
structure Accepted (content : StoredContent F) : Prop where
  plan : ∃ text, content.plan.persisted = .ok text
  observation : ∃ text, content.observation.persisted = .ok text
  targetManifest : ∃ text, content.targetManifest.persisted = .ok text
  checkpoint : ∃ text, content.checkpoint.persisted = .ok text

/-- The texts and the hash of a plan are those of another one. -/
structure SameStored (sha256 : List Char → String) (first second : StoredContent F) : Prop where
  plan : first.plan.persisted = second.plan.persisted
  observation : first.observation.persisted = second.observation.persisted
  targetManifest : first.targetManifest.persisted = second.targetManifest.persisted
  checkpoint : first.checkpoint.persisted = second.checkpoint.persisted
  planHash : ∀ columns,
    canonicalHash sha256 (first.hashed columns) = canonicalHash sha256 (second.hashed columns)

/-- Redaction is a barrier for the content: nothing stored of it depends on what is under
sensitive keys, and redacting its parts again changes nothing. -/
structure Barrier (sha256 : List Char → String) (content : StoredContent F) : Prop where
  same : ∀ other : StoredContent F, content.Alike other → other.Accepted →
    content.SameStored sha256 other
  idempotent : ∀ part ∈ [content.plan, content.observation, content.targetManifest,
    content.checkpoint], part.redactStructure.redactStructure = part.redactStructure

/-- No dataclass outside sensitive keys has anything under a sensitive key. -/
structure Sealed (content : StoredContent F) : Prop where
  plan : ¬content.plan.Leaks
  observation : ¬content.observation.Leaks
  targetManifest : ¬content.targetManifest.Leaks
  checkpoint : ¬content.checkpoint.Leaks

omit [FloatFormat F] in
theorem Alike.refl (content : StoredContent F) : content.Alike content :=
  ⟨rfl, rfl, rfl, rfl⟩

/-- Redaction is a barrier for content that the store accepts exactly when none of its parts
has a dataclass, outside sensitive keys, with something under a sensitive key. -/
theorem redaction_barrier_iff (sha256 : List Char → String) (content : StoredContent F)
    (accepted : content.Accepted) : content.Barrier sha256 ↔ content.Sealed := by
  constructor
  · intro barrier
    have same := barrier.same
    refine ⟨?_, ?_, ?_, ?_⟩
    · rw [← StoreValue.persisted_same_iff accepted.plan]
      intro plan alike stored
      exact (same { content with plan := plan } { Alike.refl content with plan := alike }
        { accepted with plan := stored }).plan
    · rw [← StoreValue.persisted_same_iff accepted.observation]
      intro observation alike stored
      exact (same { content with observation := observation }
        { Alike.refl content with observation := alike }
        { accepted with observation := stored }).observation
    · rw [← StoreValue.persisted_same_iff accepted.targetManifest]
      intro manifest alike stored
      exact (same { content with targetManifest := manifest }
        { Alike.refl content with targetManifest := alike }
        { accepted with targetManifest := stored }).targetManifest
    · rw [← StoreValue.persisted_same_iff accepted.checkpoint]
      intro checkpoint alike stored
      exact (same { content with checkpoint := checkpoint }
        { Alike.refl content with checkpoint := alike }
        { accepted with checkpoint := stored }).checkpoint
  · intro sealed
    refine ⟨?_, fun part _ => part.redactStructure_idempotent⟩
    intro other alike otherAccepted
    have plan := StoreValue.canonical_of_alike sealed.plan alike.plan accepted.plan
      otherAccepted.plan
    have observation := StoreValue.canonical_of_alike sealed.observation alike.observation
      accepted.observation otherAccepted.observation
    have manifest := StoreValue.canonical_of_alike sealed.targetManifest alike.targetManifest
      accepted.targetManifest otherAccepted.targetManifest
    refine ⟨?_, ?_, ?_, ?_, ?_⟩
    · exact (StoreValue.persisted_same_iff accepted.plan).mpr sealed.plan _ alike.plan
        otherAccepted.plan
    · exact (StoreValue.persisted_same_iff accepted.observation).mpr sealed.observation _
        alike.observation otherAccepted.observation
    · exact (StoreValue.persisted_same_iff accepted.targetManifest).mpr sealed.targetManifest _
        alike.targetManifest otherAccepted.targetManifest
    · exact (StoreValue.persisted_same_iff accepted.checkpoint).mpr sealed.checkpoint _
        alike.checkpoint otherAccepted.checkpoint
    · intro columns
      apply canonicalHash_congr
      simp only [hashed, canonicalValue, canonicalEntries, plan, observation, manifest]

end StoredContent

/-! ### A plan with a join token -/

namespace RedactionSample

/-- What a host joins with, under a name that is given. -/
def joining (container : Container) (token : String) : StoreValue FloatText :=
  .keyed .mapping [("node", .scalar (.int 7)),
    ("join", .keyed container [("address", .scalar (.str "10.0.0.7")),
      ("join-token", .scalar (.str token))])]

def empty : StoreValue FloatText :=
  .keyed .mapping []

/-- A plan whose join parameters are a mapping or a dataclass. -/
def content (container : Container) (token : String) : StoredContent FloatText where
  plan := joining container token
  observation := empty
  targetManifest := empty
  checkpoint := empty

def text (token : String) : List Char :=
  "\x7b\"join\":\x7b\"address\":\"10.0.0.7\",\"join-token\":\"".toList ++ token.toList ++
    "\"\x7d,\"node\":7\x7d".toList

theorem persisted_empty : empty.persisted = .ok "\x7b\x7d".toList := by
  decide +kernel

theorem persisted_mapping : (joining .mapping "sesame").persisted = .ok (text "[REDACTED]") := by
  decide +kernel

theorem persisted_sesame : (joining .dataclass "sesame").persisted = .ok (text "sesame") := by
  decide +kernel

theorem persisted_open : (joining .dataclass "open").persisted = .ok (text "open") := by
  decide +kernel

theorem accepted {container : Container} {token : String} {written : List Char}
    (plan : (joining container token).persisted = .ok written) :
    (content container token).Accepted :=
  ⟨⟨_, plan⟩, ⟨_, persisted_empty⟩, ⟨_, persisted_empty⟩, ⟨_, persisted_empty⟩⟩

theorem empty_not_leaks : ¬empty.Leaks := by
  intro leaks
  cases leaks with
  | entry found _ _ => cases found

/-- There is no dataclass in the mapping. -/
theorem mapping_not_leaks : ¬(joining .mapping "sesame").Leaks := by
  intro leaks
  cases leaks with
  | entry found _ leaks =>
      have isIn := mem_of_last? found
      simp only [List.mem_cons, Prod.mk.injEq, List.not_mem_nil, or_false] at isIn
      rcases isIn with ⟨-, rfl⟩ | ⟨-, rfl⟩
      · cases leaks
      · cases leaks with
        | entry found _ leaks =>
            have isIn := mem_of_last? found
            simp only [List.mem_cons, Prod.mk.injEq, List.not_mem_nil, or_false] at isIn
            rcases isIn with ⟨-, rfl⟩ | ⟨-, rfl⟩ <;> cases leaks

end RedactionSample

open RedactionSample in
/-- The token of a mapping does not show in what is stored. -/
theorem redaction_barrier_mapping :
    (content .mapping "sesame").Barrier PlanSample.sha256 :=
  (StoredContent.redaction_barrier_iff _ _ (accepted persisted_mapping)).mpr
    ⟨mapping_not_leaks, empty_not_leaks, empty_not_leaks, empty_not_leaks⟩

open RedactionSample in
/-- The token of a dataclass is stored, and plans that differ only there are stored
differently. -/
theorem redaction_barrier_passed :
    (content .dataclass "sesame").Alike (content .dataclass "open") ∧
      (content .dataclass "sesame").Accepted ∧ (content .dataclass "open").Accepted ∧
      (content .dataclass "sesame").plan.persisted ≠
        (content .dataclass "open").plan.persisted := by
  refine ⟨⟨?_, rfl, rfl, rfl⟩, accepted persisted_sesame, accepted persisted_open, ?_⟩
  · simp [StoreValue.Alike, content, joining, StoreValue.fill, StoreValue.fillEntries,
      show Json.sensitiveKey "join-token" = true by decide +kernel]
  · simp only [content, persisted_sesame, persisted_open]
    decide +kernel

end ElKeeper
