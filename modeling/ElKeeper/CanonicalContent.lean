import ElKeeper.Json
import ElKeeper.JsonText
import ElKeeper.Results
import ElKeeper.Timestamps
import Mathlib.Data.List.Sort
import Mathlib.Data.String.Basic

/-!
# Redacted and canonical content

What callers store is made of Python values.  It is redacted, brought into a canonical
form and written as text.  What is read back from that text has the same canonical form,
whether it is redacted once more or not.
-/

namespace ElKeeper

open JsonText (dict)

inductive Scalar (F : Type) where
  | none
  | bool (value : Bool)
  | int (value : Int)
  | float (value : F)
  | str (value : String)

def Scalar.json {F : Type} : Scalar F → JsonValue F
  | none => .null
  | bool value => .bool value
  | int value => .int value
  | float value => .float value
  | str value => .str value

/-- The values that are stored.  A member of an enumeration is given by its value, and the
key of a mapping by what `str` makes of it, so that two entries may share a key. -/
inductive PyValue (F : Type) where
  | scalar (value : Scalar F)
  | enum (value : Scalar F)
  | timestamp (value : AwareTimestamp)
  | naive (value : DateTime)
  | sequence (items : List (PyValue F))
  | mapping (entries : List (String × PyValue F))
  | unsupported (typeName : String)

/-- Why a value has no canonical text. -/
inductive CanonicalError where
  | naiveTimestamp
  | overflow
  | unsupported (typeName : String)
  | notFinite
deriving DecidableEq

def CanonicalError.message : CanonicalError → String
  | naiveTimestamp => "Canonical timestamps must include a timezone"
  | overflow => "date value out of range"
  | unsupported typeName => s!"Unsupported canonical value type: {typeName}"
  | notFinite => "Out of range float values are not JSON compliant"

namespace PyValue

variable {F : Type}

def redacted : PyValue F :=
  .scalar (.str "[REDACTED]")

mutual

/-- `redact_structure`. -/
def redactStructure : PyValue F → PyValue F
  | .sequence items => .sequence (redactItems items)
  | .mapping entries => .mapping (dict (redactEntries entries))
  | value => value

def redactItems : List (PyValue F) → List (PyValue F)
  | [] => []
  | item :: items => redactStructure item :: redactItems items

def redactEntries : List (String × PyValue F) → List (String × PyValue F)
  | [] => []
  | (key, value) :: entries =>
      (key, if Json.sensitiveKey key then redacted else redactStructure value) ::
        redactEntries entries

end

/-- `sorted` by the keys, which keeps the order of equal ones. -/
def sortEntries {α : Type} (entries : List (String × α)) : List (String × α) :=
  entries.insertionSort fun first second => first.1 ≤ second.1

mutual

/-- `_canonical_value`. -/
def canonicalValue : PyValue F → Except CanonicalError (JsonValue F)
  | .scalar value => .ok value.json
  | .enum value => .ok value.json
  | .timestamp value =>
      match value.utc with
      | some moment => .ok (.str (String.ofList (Iso.microseconds moment ++ ['Z'])))
      | none => .error .overflow
  | .naive _ => .error .naiveTimestamp
  | .sequence items => (canonicalItems items).map .arr
  | .mapping entries => (canonicalEntries entries).map fun entries =>
      .obj (dict (sortEntries entries))
  | .unsupported typeName => .error (.unsupported typeName)

def canonicalItems : List (PyValue F) → Except CanonicalError (List (JsonValue F))
  | [] => .ok []
  | item :: items => do
      let item ← canonicalValue item
      let items ← canonicalItems items
      pure (item :: items)

def canonicalEntries :
    List (String × PyValue F) → Except CanonicalError (List (String × JsonValue F))
  | [] => .ok []
  | (key, value) :: entries => do
      let value ← canonicalValue value
      let entries ← canonicalEntries entries
      pure ((key, value) :: entries)

end

mutual

/-- The Python value that a JSON text is read as. -/
def ofJson : JsonValue F → PyValue F
  | .null => .scalar .none
  | .bool value => .scalar (.bool value)
  | .int value => .scalar (.int value)
  | .float value => .scalar (.float value)
  | .str value => .scalar (.str value)
  | .arr items => .sequence (ofItems items)
  | .obj entries => .mapping (ofEntries entries)

def ofItems : List (JsonValue F) → List (PyValue F)
  | [] => []
  | item :: items => ofJson item :: ofItems items

def ofEntries : List (String × JsonValue F) → List (String × PyValue F)
  | [] => []
  | (key, value) :: entries => (key, ofJson value) :: ofEntries entries

end

/-- `canonical_json`. -/
def canonicalJson [FloatFormat F] (value : PyValue F) : Except CanonicalError (List Char) :=
  match canonicalValue value with
  | .error error => .error error
  | .ok canonical =>
      match JsonText.dumps canonical with
      | some text => .ok text
      | none => .error .notFinite

/-! ### Redacting twice -/

theorem redactEntries_eq_map (entries : List (String × PyValue F)) :
    redactEntries entries = entries.map fun entry =>
      (entry.1, if Json.sensitiveKey entry.1 then redacted else redactStructure entry.2) := by
  induction entries with
  | nil => rfl
  | cons entry entries ih => rw [redactEntries, ih, List.map_cons]

theorem redactEntries_eq_self {entries : List (String × PyValue F)}
    (settled : ∀ entry ∈ entries, (Json.sensitiveKey entry.1 → entry.2 = redacted) ∧
      redactStructure entry.2 = entry.2) : redactEntries entries = entries := by
  rw [redactEntries_eq_map]
  conv_rhs => rw [← List.map_id entries]
  refine List.map_congr_left fun entry isIn => ?_
  obtain ⟨hidden, same⟩ := settled entry isIn
  cases sensitive : Json.sensitiveKey entry.1
  · simp [same]
  · simp [← hidden sensitive]

mutual

/-- What is redacted stays as it is. -/
theorem redactStructure_idempotent :
    ∀ value : PyValue F, redactStructure (redactStructure value) = redactStructure value
  | .scalar _ | .enum _ | .timestamp _ | .naive _ | .unsupported _ => rfl
  | .sequence items => by
      simp only [redactStructure]
      rw [redactItems_idempotent items]
  | .mapping entries => by
      simp only [redactStructure]
      have settled : ∀ entry ∈ dict (redactEntries entries),
          (Json.sensitiveKey entry.1 → entry.2 = redacted) ∧
            redactStructure entry.2 = entry.2 :=
        fun entry isIn => mem_redactEntries entries entry (JsonText.mem_of_mem_dict isIn)
      rw [redactEntries_eq_self settled, JsonText.dict_of_nodup (JsonText.nodup_dict _)]

theorem redactItems_idempotent :
    ∀ items : List (PyValue F), redactItems (redactItems items) = redactItems items
  | [] => rfl
  | item :: items => by
      simp only [redactItems]
      rw [redactStructure_idempotent item, redactItems_idempotent items]

theorem mem_redactEntries :
    ∀ (entries : List (String × PyValue F)), ∀ entry ∈ redactEntries entries,
      (Json.sensitiveKey entry.1 → entry.2 = redacted) ∧ redactStructure entry.2 = entry.2
  | [], _, isIn => by simp [redactEntries] at isIn
  | (key, value) :: entries, entry, isIn => by
      rw [redactEntries, List.mem_cons] at isIn
      rcases isIn with rfl | isIn
      · cases sensitive : Json.sensitiveKey key
        · simpa [sensitive] using redactStructure_idempotent value
        · exact ⟨fun _ => rfl, rfl⟩
      · exact mem_redactEntries entries entry isIn

end

/-! ### Sorted objects -/

section Sorting

variable {α : Type}

/-- The keys increase strictly. -/
def Ordered (entries : List (String × α)) : Prop :=
  (entries.map Prod.fst).Pairwise (· < ·)

theorem Ordered.nodup {entries : List (String × α)} (ordered : Ordered entries) :
    (entries.map Prod.fst).Nodup :=
  ordered.imp fun less => ne_of_lt less

theorem sortEntries_of_ordered {entries : List (String × α)} (ordered : Ordered entries) :
    sortEntries entries = entries :=
  List.Pairwise.insertionSort_eq <| (List.pairwise_map.mp ordered).imp fun less => le_of_lt less

instance : Std.Total fun first second : String × α => first.1 ≤ second.1 :=
  ⟨fun first second => le_total first.1 second.1⟩

instance : IsTrans (String × α) fun first second => first.1 ≤ second.1 :=
  ⟨fun _ _ _ => le_trans⟩

theorem pairwise_sortEntries (entries : List (String × α)) :
    (sortEntries entries).Pairwise fun first second => first.1 ≤ second.1 :=
  List.pairwise_insertionSort _ entries

theorem mem_sortEntries {entries : List (String × α)} {entry : String × α} :
    entry ∈ sortEntries entries ↔ entry ∈ entries :=
  List.mem_insertionSort _

/-- With different keys, sorting makes the keys increase strictly. -/
theorem ordered_sortEntries {entries : List (String × α)}
    (distinct : (entries.map Prod.fst).Nodup) : Ordered (sortEntries entries) := by
  have permuted : ((sortEntries entries).map Prod.fst).Perm (entries.map Prod.fst) :=
    (List.perm_insertionSort _ entries).map Prod.fst
  have sorted : ((sortEntries entries).map Prod.fst).Pairwise (· ≤ ·) :=
    List.pairwise_map.mpr (pairwise_sortEntries entries)
  exact (sorted.and (permuted.nodup_iff.mpr distinct)).imp fun both => lt_of_le_of_ne both.1 both.2

/-- An entry whose key is at least the last one keeps the order. -/
theorem Ordered.setEntry {entries : List (String × α)} (ordered : Ordered entries) {key : String}
    (value : α) (last : ∀ other ∈ entries.map Prod.fst, other ≤ key) :
    Ordered (JsonText.setEntry entries key value) := by
  unfold Ordered
  rw [JsonText.keys_setEntry]
  split
  · exact ordered
  next fresh =>
    refine List.pairwise_append.mpr ⟨ordered, List.pairwise_singleton _ key, ?_⟩
    intro other isIn _ isKey
    rw [List.mem_singleton.mp isKey]
    exact lt_of_le_of_ne (last other isIn) fun same => fresh (same ▸ isIn)

/-- A dictionary of sorted pairs is ordered. -/
theorem ordered_dict_sortEntries (entries : List (String × α)) :
    Ordered (dict (sortEntries entries)) := by
  have general : ∀ pairs reached : List (String × α),
      pairs.Pairwise (fun first second => first.1 ≤ second.1) → Ordered reached →
      (∀ key ∈ reached.map Prod.fst, ∀ pair ∈ pairs, key ≤ pair.1) →
      Ordered (pairs.foldl (fun entries pair => JsonText.setEntry entries pair.1 pair.2)
        reached) := by
    intro pairs
    induction pairs with
    | nil => exact fun reached _ ordered _ => ordered
    | cons pair pairs ih =>
        intro reached sorted ordered bounded
        obtain ⟨first, sorted⟩ := List.pairwise_cons.mp sorted
        refine ih _ sorted (ordered.setEntry pair.2 fun key isIn =>
          bounded key isIn pair List.mem_cons_self) ?_
        intro key isIn other isOther
        rw [JsonText.keys_setEntry] at isIn
        have known : key ∈ reached.map Prod.fst ∨ key = pair.1 := by
          split at isIn
          · exact .inl isIn
          · simpa using isIn
        rcases known with known | rfl
        · exact bounded key known other (List.mem_cons_of_mem _ isOther)
        · exact first other isOther
  exact general _ [] (pairwise_sortEntries entries) List.Pairwise.nil (by simp)

/-- Ordered entries are determined by their members. -/
theorem Ordered.eq_of_mem_iff {first second : List (String × α)} (firstOrdered : Ordered first)
    (secondOrdered : Ordered second) (same : ∀ entry, entry ∈ first ↔ entry ∈ second) :
    first = second := by
  have permuted : first.Perm second :=
    (List.perm_ext_iff_of_nodup firstOrdered.nodup.of_map secondOrdered.nodup.of_map).mpr same
  have apart : ∀ a b, a ∈ first → b ∈ second → a.1 < b.1 → b.1 < a.1 → a = b := by
    intro a b _ _ less greater
    exact absurd (less.trans greater) (lt_irrefl _)
  exact permuted.eq_of_pairwise apart (List.pairwise_map.mp firstOrdered)
    (List.pairwise_map.mp secondOrdered)

end Sorting

/-! ### Content that was stored -/

theorem canonicalItems_cons {item : PyValue F} {items : List (PyValue F)}
    {canonical : List (JsonValue F)} (ran : canonicalItems (item :: items) = .ok canonical) :
    ∃ first rest, canonicalValue item = .ok first ∧ canonicalItems items = .ok rest ∧
      canonical = first :: rest := by
  rw [canonicalItems] at ran
  obtain ⟨first, firstRan, ran⟩ := Results.bind_ok ran
  obtain ⟨rest, restRan, ran⟩ := Results.bind_ok ran
  exact ⟨first, rest, firstRan, restRan, (Except.ok.inj ran).symm⟩

theorem canonicalEntries_cons {key : String} {value : PyValue F}
    {entries : List (String × PyValue F)} {canonical : List (String × JsonValue F)}
    (ran : canonicalEntries ((key, value) :: entries) = .ok canonical) :
    ∃ first rest, canonicalValue value = .ok first ∧ canonicalEntries entries = .ok rest ∧
      canonical = (key, first) :: rest := by
  rw [canonicalEntries] at ran
  obtain ⟨first, firstRan, ran⟩ := Results.bind_ok ran
  obtain ⟨rest, restRan, ran⟩ := Results.bind_ok ran
  exact ⟨first, rest, firstRan, restRan, (Except.ok.inj ran).symm⟩

theorem keys_canonicalEntries {entries : List (String × PyValue F)}
    {canonical : List (String × JsonValue F)} (ran : canonicalEntries entries = .ok canonical) :
    canonical.map Prod.fst = entries.map Prod.fst := by
  induction entries generalizing canonical with
  | nil => cases ran; rfl
  | cons entry entries ih =>
      obtain ⟨first, rest, -, restRan, rfl⟩ := canonicalEntries_cons ran
      rw [List.map_cons, List.map_cons, ih restRan]

theorem mem_canonicalEntries {entries : List (String × PyValue F)}
    {canonical : List (String × JsonValue F)} (ran : canonicalEntries entries = .ok canonical)
    {entry : String × JsonValue F} (isIn : entry ∈ canonical) :
    ∃ value, (entry.1, value) ∈ entries ∧ canonicalValue value = .ok entry.2 := by
  induction entries generalizing canonical with
  | nil => cases ran; simp at isIn
  | cons other entries ih =>
      obtain ⟨first, rest, firstRan, restRan, rfl⟩ := canonicalEntries_cons ran
      rcases List.mem_cons.mp isIn with rfl | isIn
      · exact ⟨other.2, List.mem_cons_self, firstRan⟩
      · obtain ⟨value, isValue, valueRan⟩ := ih restRan isIn
        exact ⟨value, List.mem_cons_of_mem _ isValue, valueRan⟩

theorem mem_canonicalEntries_of_mem {entries : List (String × PyValue F)}
    {canonical : List (String × JsonValue F)} (ran : canonicalEntries entries = .ok canonical)
    {key : String} {value : PyValue F} (isIn : (key, value) ∈ entries) :
    ∃ result, canonicalValue value = .ok result ∧ (key, result) ∈ canonical := by
  induction entries generalizing canonical with
  | nil => simp at isIn
  | cons other entries ih =>
      obtain ⟨first, rest, firstRan, restRan, rfl⟩ := canonicalEntries_cons ran
      rcases List.mem_cons.mp isIn with rfl | isIn
      · exact ⟨first, firstRan, List.mem_cons_self⟩
      · obtain ⟨result, resultRan, isResult⟩ := ih restRan isIn
        exact ⟨result, resultRan, List.mem_cons_of_mem _ isResult⟩

theorem canonicalEntries_filter {entries : List (String × PyValue F)}
    {canonical : List (String × JsonValue F)} (ran : canonicalEntries entries = .ok canonical)
    (keep : String → Bool) :
    canonicalEntries (entries.filter (keep ·.1)) = .ok (canonical.filter (keep ·.1)) := by
  induction entries generalizing canonical with
  | nil => cases ran; rfl
  | cons other entries ih =>
      obtain ⟨first, rest, firstRan, restRan, rfl⟩ := canonicalEntries_cons ran
      by_cases kept : keep other.1
      · rw [List.filter_cons_of_pos (by simpa using kept),
          List.filter_cons_of_pos (by simpa using kept), canonicalEntries, firstRan, ih restRan]
        rfl
      · rw [List.filter_cons_of_neg (by simpa using kept),
          List.filter_cons_of_neg (by simpa using kept), ih restRan]

mutual

/-- Objects are ordered, and the values of sensitive keys are hidden. -/
def Settled : JsonValue F → Prop
  | .arr items => AreSettled items
  | .obj entries => Ordered entries ∧ HaveSettled entries
  | _ => True

def AreSettled : List (JsonValue F) → Prop
  | [] => True
  | item :: items => Settled item ∧ AreSettled items

def HaveSettled : List (String × JsonValue F) → Prop
  | [] => True
  | (key, value) :: entries =>
      ((Json.sensitiveKey key → value = .str "[REDACTED]") ∧ Settled value) ∧ HaveSettled entries

end

theorem haveSettled_iff (entries : List (String × JsonValue F)) :
    HaveSettled entries ↔ ∀ entry ∈ entries,
      (Json.sensitiveKey entry.1 → entry.2 = .str "[REDACTED]") ∧ Settled entry.2 := by
  induction entries with
  | nil => simp [HaveSettled]
  | cons entry entries ih => rw [HaveSettled, ih, List.forall_mem_cons]

mutual

/-- The canonical form of redacted content. -/
theorem settled_canonical : ∀ (value : PyValue F) (canonical : JsonValue F),
    canonicalValue (redactStructure value) = .ok canonical → Settled canonical
  | .scalar value, _, ran => by cases ran; cases value <;> trivial
  | .enum value, _, ran => by cases ran; cases value <;> trivial
  | .timestamp value, _, ran => by
      simp only [redactStructure, canonicalValue] at ran
      split at ran
      · cases ran
        trivial
      · cases ran
  | .naive _, _, ran | .unsupported _, _, ran => by cases ran
  | .sequence items, _, ran => by
      simp only [redactStructure, canonicalValue] at ran
      obtain ⟨canonical, itemsRan, rfl⟩ := Results.map_ok ran
      exact areSettled_canonical items canonical itemsRan
  | .mapping entries, _, ran => by
      simp only [redactStructure, canonicalValue] at ran
      obtain ⟨canonical, entriesRan, rfl⟩ := Results.map_ok ran
      refine ⟨ordered_dict_sortEntries canonical, (haveSettled_iff _).mpr ?_⟩
      intro entry isIn
      obtain ⟨value, isValue, valueRan⟩ := mem_canonicalEntries entriesRan
        (mem_sortEntries.mp (JsonText.mem_of_mem_dict isIn))
      exact haveSettled_canonical entries (entry.1, value) (JsonText.mem_of_mem_dict isValue)
        entry.2 valueRan

theorem areSettled_canonical : ∀ (items : List (PyValue F)) (canonical : List (JsonValue F)),
    canonicalItems (redactItems items) = .ok canonical → AreSettled canonical
  | [], _, ran => by cases ran; trivial
  | item :: items, _, ran => by
      rw [redactItems] at ran
      obtain ⟨first, rest, firstRan, restRan, rfl⟩ := canonicalItems_cons ran
      exact ⟨settled_canonical item first firstRan, areSettled_canonical items rest restRan⟩

theorem haveSettled_canonical : ∀ (entries : List (String × PyValue F)),
    ∀ entry ∈ redactEntries entries, ∀ canonical, canonicalValue entry.2 = .ok canonical →
      (Json.sensitiveKey entry.1 → canonical = .str "[REDACTED]") ∧ Settled canonical
  | [], _, isIn, _, _ => by simp [redactEntries] at isIn
  | (key, value) :: entries, entry, isIn, canonical, ran => by
      rw [redactEntries, List.mem_cons] at isIn
      rcases isIn with rfl | isIn
      · cases sensitive : Json.sensitiveKey key
        · simp only [sensitive] at ran ⊢
          exact ⟨nofun, settled_canonical value canonical ran⟩
        · simp only [sensitive, if_true] at ran
          cases ran
          exact ⟨fun _ => rfl, trivial⟩
      · exact haveSettled_canonical entries entry isIn canonical ran

end

theorem keys_ofEntries (entries : List (String × JsonValue F)) :
    (ofEntries entries).map Prod.fst = entries.map Prod.fst := by
  induction entries with
  | nil => rfl
  | cons entry entries ih => rw [ofEntries, List.map_cons, List.map_cons, ih]

mutual

/-- What was read back has no sensitive value left. -/
theorem redactStructure_ofJson : ∀ value : JsonValue F, Settled value →
    redactStructure (ofJson value) = ofJson value
  | .null, _ | .bool _, _ | .int _, _ | .float _, _ | .str _, _ => rfl
  | .arr items, settled => by
      simp only [ofJson, redactStructure]
      rw [redactItems_ofItems items settled]
  | .obj entries, settled => by
      simp only [ofJson, redactStructure]
      have distinct : ((ofEntries entries).map Prod.fst).Nodup := by
        rw [keys_ofEntries]
        exact settled.1.nodup
      rw [redactEntries_ofEntries entries settled.2, JsonText.dict_of_nodup distinct]

theorem redactItems_ofItems : ∀ items : List (JsonValue F), AreSettled items →
    redactItems (ofItems items) = ofItems items
  | [], _ => rfl
  | item :: items, settled => by
      simp only [ofItems, redactItems]
      rw [redactStructure_ofJson item settled.1, redactItems_ofItems items settled.2]

theorem redactEntries_ofEntries : ∀ entries : List (String × JsonValue F), HaveSettled entries →
    redactEntries (ofEntries entries) = ofEntries entries
  | [], _ => rfl
  | (key, value) :: entries, settled => by
      simp only [ofEntries, redactEntries]
      rw [redactEntries_ofEntries entries settled.2]
      cases sensitive : Json.sensitiveKey key
      · simp [redactStructure_ofJson value settled.1.2]
      · simp only [settled.1.1 sensitive]
        rfl

end

mutual

/-- What was read back is in its canonical form. -/
theorem canonicalValue_ofJson : ∀ value : JsonValue F, Settled value →
    canonicalValue (ofJson value) = .ok value
  | .null, _ | .bool _, _ | .int _, _ | .float _, _ | .str _, _ => rfl
  | .arr items, settled => by
      rw [ofJson, canonicalValue, canonicalItems_ofItems items settled]
      rfl
  | .obj entries, settled => by
      rw [ofJson, canonicalValue, canonicalEntries_ofEntries entries settled.2]
      simp only [Except.map, sortEntries_of_ordered settled.1,
        JsonText.dict_of_nodup settled.1.nodup]

theorem canonicalItems_ofItems : ∀ items : List (JsonValue F), AreSettled items →
    canonicalItems (ofItems items) = .ok items
  | [], _ => rfl
  | item :: items, settled => by
      rw [ofItems, canonicalItems, canonicalValue_ofJson item settled.1,
        canonicalItems_ofItems items settled.2]
      rfl

theorem canonicalEntries_ofEntries : ∀ entries : List (String × JsonValue F),
    HaveSettled entries → canonicalEntries (ofEntries entries) = .ok entries
  | [], _ => rfl
  | (key, value) :: entries, settled => by
      rw [ofEntries, canonicalEntries, canonicalValue_ofJson value settled.1.2,
        canonicalEntries_ofEntries entries settled.2]
      rfl

end

theorem lookup_of_mem {α : Type} {entries : List (String × α)} {key : String} {value : α}
    (distinct : (entries.map Prod.fst).Nodup) (isIn : (key, value) ∈ entries) :
    entries.lookup key = some value := by
  induction entries with
  | nil => simp at isIn
  | cons entry entries ih =>
      obtain ⟨fresh, distinct⟩ := List.nodup_cons.mp distinct
      rcases List.mem_cons.mp isIn with rfl | isIn
      · exact List.lookup_cons_self
      · have differs : key ≠ entry.1 := by
          rintro rfl
          exact fresh (List.mem_map.mpr ⟨(entry.1, value), isIn, rfl⟩)
        rw [List.lookup_cons, beq_eq_false_iff_ne.mpr differs]
        exact ih distinct isIn

theorem mem_of_lookup_eq {α : Type} {entries : List (String × α)} {key : String} {value : α}
    (found : entries.lookup key = some value) : (key, value) ∈ entries := by
  obtain ⟨before, after, rfl, -⟩ := List.lookup_eq_some_iff.mp found
  simp

theorem mem_ofEntries {stored : List (String × JsonValue F)} {key : String} {value : JsonValue F}
    (isIn : (key, value) ∈ stored) : (key, ofJson value) ∈ ofEntries stored := by
  induction stored with
  | nil => simp at isIn
  | cons entry stored ih =>
      rw [ofEntries, List.mem_cons]
      rcases List.mem_cons.mp isIn with rfl | isIn
      · exact .inl rfl
      · exact .inr (ih isIn)

theorem ofEntries_filter (stored : List (String × JsonValue F)) (keep : String → Bool) :
    (ofEntries stored).filter (keep ·.1) = ofEntries (stored.filter (keep ·.1)) := by
  induction stored with
  | nil => rfl
  | cons entry stored ih =>
      by_cases kept : keep entry.1
      · rw [ofEntries, List.filter_cons_of_pos (by simpa using kept),
          List.filter_cons_of_pos (by simpa using kept), ofEntries, ih]
      · rw [ofEntries, List.filter_cons_of_neg (by simpa using kept),
          List.filter_cons_of_neg (by simpa using kept), ih]

/-- Part of a stored object is stored content too. -/
theorem settled_filter {stored : List (String × JsonValue F)} (settled : Settled (.obj stored)) (keep : String → Bool) :
    Settled (.obj (stored.filter (keep ·.1))) := by
  refine ⟨settled.1.sublist (List.filter_sublist.map Prod.fst), ?_⟩
  rw [haveSettled_iff]
  intro entry isIn
  exact (haveSettled_iff _).mp settled.2 entry (List.mem_of_mem_filter isIn)

/-- Mappings with different keys and one canonical form agree at every key. -/
theorem lookup_of_same_canonical {first second : List (String × PyValue F)}
    {firstCanonical secondCanonical : List (String × JsonValue F)}
    (firstRan : canonicalEntries first = .ok firstCanonical)
    (secondRan : canonicalEntries second = .ok secondCanonical)
    (firstDistinct : (first.map Prod.fst).Nodup) (secondDistinct : (second.map Prod.fst).Nodup)
    (same : canonicalValue (.mapping first) = canonicalValue (.mapping second)) (key : String) :
    firstCanonical.lookup key = secondCanonical.lookup key := by
  rw [← keys_canonicalEntries firstRan] at firstDistinct
  rw [← keys_canonicalEntries secondRan] at secondDistinct
  have sorted := same
  simp only [canonicalValue, firstRan, secondRan, Except.map, Except.ok.injEq,
    JsonValue.obj.injEq, JsonText.dict_of_nodup (ordered_sortEntries firstDistinct).nodup,
    JsonText.dict_of_nodup (ordered_sortEntries secondDistinct).nodup] at sorted
  have members : ∀ entry, entry ∈ firstCanonical ↔ entry ∈ secondCanonical := by
    intro entry
    rw [← mem_sortEntries, sorted, mem_sortEntries]
  apply Option.ext
  intro value
  constructor
  · intro found
    exact lookup_of_mem secondDistinct ((members _).mp (mem_of_lookup_eq found))
  · intro found
    exact lookup_of_mem firstDistinct ((members _).mpr (mem_of_lookup_eq found))

section Texts

variable [FloatFormat F]

theorem haveFinite_iff (entries : List (String × JsonValue F)) :
    JsonText.haveFinite entries ↔ ∀ entry ∈ entries, JsonText.isFinite entry.2 := by
  induction entries with
  | nil => simp [JsonText.haveFinite]
  | cons entry entries ih => rw [JsonText.haveFinite, Bool.and_eq_true, ih, List.forall_mem_cons]

theorem haveWellFormed_iff (entries : List (String × JsonValue F)) :
    JsonText.HaveWellFormed entries ↔ ∀ entry ∈ entries, JsonText.WellFormed entry.2 := by
  induction entries with
  | nil => simp [JsonText.HaveWellFormed]
  | cons entry entries ih => rw [JsonText.HaveWellFormed, ih, List.forall_mem_cons]

mutual

/-- Canonical content without infinite numbers has a text that is read back. -/
theorem wellFormed_canonical : ∀ (value : PyValue F) (canonical : JsonValue F),
    canonicalValue value = .ok canonical → JsonText.isFinite canonical →
      JsonText.WellFormed canonical
  | .scalar value, _, ran, finite => by cases ran; cases value <;> trivial
  | .enum value, _, ran, finite => by cases ran; cases value <;> trivial
  | .timestamp value, _, ran, _ => by
      rw [canonicalValue] at ran
      split at ran
      · cases ran
        trivial
      · cases ran
  | .naive _, _, ran, _ | .unsupported _, _, ran, _ => by cases ran
  | .sequence items, _, ran, finite => by
      rw [canonicalValue] at ran
      obtain ⟨canonical, itemsRan, rfl⟩ := Results.map_ok ran
      exact areWellFormed_canonical items canonical itemsRan finite
  | .mapping entries, _, ran, finite => by
      rw [canonicalValue] at ran
      obtain ⟨canonical, entriesRan, rfl⟩ := Results.map_ok ran
      refine ⟨(ordered_dict_sortEntries canonical).nodup, (haveWellFormed_iff _).mpr ?_⟩
      intro entry isIn
      obtain ⟨value, isValue, valueRan⟩ := mem_canonicalEntries entriesRan
        (mem_sortEntries.mp (JsonText.mem_of_mem_dict isIn))
      exact haveWellFormed_canonical entries (entry.1, value) isValue entry.2 valueRan
        ((haveFinite_iff _).mp finite entry isIn)

theorem areWellFormed_canonical : ∀ (items : List (PyValue F)) (canonical : List (JsonValue F)),
    canonicalItems items = .ok canonical → JsonText.areFinite canonical →
      JsonText.AreWellFormed canonical
  | [], _, ran, _ => by cases ran; trivial
  | item :: items, _, ran, finite => by
      obtain ⟨first, rest, firstRan, restRan, rfl⟩ := canonicalItems_cons ran
      rw [JsonText.areFinite, Bool.and_eq_true] at finite
      exact ⟨wellFormed_canonical item first firstRan finite.1,
        areWellFormed_canonical items rest restRan finite.2⟩

theorem haveWellFormed_canonical : ∀ (entries : List (String × PyValue F)),
    ∀ entry ∈ entries, ∀ canonical, canonicalValue entry.2 = .ok canonical →
      JsonText.isFinite canonical → JsonText.WellFormed canonical
  | [], _, isIn, _, _, _ => by simp at isIn
  | (_, value) :: entries, entry, isIn, canonical, ran, finite => by
      rcases List.mem_cons.mp isIn with rfl | isIn
      · exact wellFormed_canonical value canonical ran finite
      · exact haveWellFormed_canonical entries entry isIn canonical ran finite

end

theorem canonicalJson_ok {value : PyValue F} {text : List Char}
    (written : canonicalJson value = .ok text) :
    ∃ canonical, canonicalValue value = .ok canonical ∧ JsonText.isFinite canonical ∧
      text = JsonText.write canonical := by
  unfold canonicalJson at written
  split at written
  · cases written
  next canonical isCanonical =>
    unfold JsonText.dumps at written
    split at written
    next text dumped =>
      split at dumped
      next finite =>
        cases written
        exact ⟨canonical, isCanonical, finite, (Option.some.inj dumped).symm⟩
      next => cases dumped
    next => cases written

/-- Equal texts were written for equal canonical forms. -/
theorem canonicalValue_of_same_text {first second : PyValue F} {text : List Char}
    (firstWritten : canonicalJson first = .ok text)
    (secondWritten : canonicalJson second = .ok text) :
    canonicalValue first = canonicalValue second := by
  obtain ⟨canonical, isCanonical, finite, rfl⟩ := canonicalJson_ok firstWritten
  obtain ⟨other, isOther, otherFinite, same⟩ := canonicalJson_ok secondWritten
  rw [isCanonical, isOther, JsonText.write_injective
    (wellFormed_canonical _ canonical isCanonical finite)
    (wellFormed_canonical _ other isOther otherFinite) same]

/-- The text of redacted content is read as content with the same text. -/
theorem stored_reads_back {value : PyValue F} {text : List Char}
    (written : canonicalJson (redactStructure value) = .ok text) :
    ∃ canonical, canonicalValue (redactStructure value) = .ok canonical ∧ Settled canonical ∧
      JsonText.isFinite canonical ∧ text = JsonText.write canonical ∧
      JsonText.loads text = some canonical := by
  obtain ⟨canonical, isCanonical, finite, rfl⟩ := canonicalJson_ok written
  have settled := settled_canonical value canonical isCanonical
  exact ⟨canonical, isCanonical, settled, finite, rfl,
    JsonText.loads_write (wellFormed_canonical _ canonical isCanonical finite)⟩

end Texts

end PyValue

end ElKeeper
