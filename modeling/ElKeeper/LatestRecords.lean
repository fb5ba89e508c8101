import Mathlib.Data.List.Induction
import Mathlib.Data.List.Sort

/-!
# The latest record of each key

Records are put into a dictionary one after the other, where a later record takes the place
of an earlier one with its key, and are then listed in the order of their keys.  When the
records come from several ranked reports, what remains for a key is the record of the report
of the highest rank that has one.
-/

namespace ElKeeper

namespace LatestRecords

variable {α β κ ρ : Type} [LinearOrder κ] [LinearOrder ρ] (key : α → κ)

/-- Assignment to a key, which keeps its place in the dictionary. -/
def put : List α → α → List α
  | [], item => [item]
  | other :: entries, item =>
      if key other = key item then item :: entries else other :: put entries item

def merged (items : List α) : List α :=
  items.foldl (put key) []

/-- The records of all keys, in the order of the keys. -/
def latest (items : List α) : List α :=
  (merged key items).insertionSort fun first second => key first ≤ key second

theorem keys_put (entries : List α) (item : α) :
    (put key entries item).map key =
      if key item ∈ entries.map key then entries.map key else entries.map key ++ [key item] := by
  induction entries with
  | nil => rfl
  | cons other entries ih =>
      unfold put
      by_cases same : key other = key item
      · simp [same]
      · rw [if_neg same, List.map_cons, ih, List.map_cons]
        by_cases known : key item ∈ entries.map key
        · rw [if_pos known, if_pos (List.mem_cons_of_mem _ known)]
        · rw [if_neg known, if_neg]
          · rfl
          · rw [List.mem_cons, not_or]
            exact ⟨Ne.symm same, known⟩

theorem nodup_put {entries : List α} (distinct : (entries.map key).Nodup) (item : α) :
    ((put key entries item).map key).Nodup := by
  rw [keys_put]
  split
  · exact distinct
  · rename_i fresh
    apply List.nodup_append.mpr
    refine ⟨distinct, List.nodup_singleton _, ?_⟩
    intro known isKnown other isOther same
    rw [List.mem_singleton.mp isOther] at same
    exact fresh (same ▸ isKnown)

theorem mem_put_iff {entries : List α} (distinct : (entries.map key).Nodup) (item record : α) :
    record ∈ put key entries item ↔
      record = item ∨ record ∈ entries ∧ key record ≠ key item := by
  induction entries with
  | nil => simp [put]
  | cons other entries ih =>
      obtain ⟨fresh, distinct⟩ := List.nodup_cons.mp distinct
      unfold put
      by_cases same : key other = key item
      · have absent : ∀ record ∈ entries, key record ≠ key item := by
          intro record isIn isKey
          exact fresh (List.mem_map.mpr ⟨record, isIn, isKey.trans same.symm⟩)
        rw [if_pos same]
        constructor
        · intro isIn
          rcases List.mem_cons.mp isIn with rfl | isIn
          · exact .inl rfl
          · exact .inr ⟨List.mem_cons_of_mem _ isIn, absent record isIn⟩
        · rintro (rfl | ⟨isIn, differs⟩)
          · exact List.mem_cons_self
          · rcases List.mem_cons.mp isIn with rfl | isIn
            · exact absurd same differs
            · exact List.mem_cons_of_mem _ isIn
      · rw [if_neg same, List.mem_cons, ih distinct, List.mem_cons]
        constructor
        · rintro (rfl | rfl | ⟨isIn, differs⟩)
          · exact .inr ⟨.inl rfl, same⟩
          · exact .inl rfl
          · exact .inr ⟨.inr isIn, differs⟩
        · rintro (rfl | ⟨rfl | isIn, differs⟩)
          · exact .inr (.inl rfl)
          · exact .inl rfl
          · exact .inr (.inr ⟨isIn, differs⟩)

theorem merged_concat (items : List α) (item : α) :
    merged key (items ++ [item]) = put key (merged key items) item := by
  simp [merged]

theorem nodup_merged (items : List α) : ((merged key items).map key).Nodup := by
  induction items using List.reverseRecOn with
  | nil => exact .nil
  | append_singleton items item ih =>
      rw [merged_concat]
      exact nodup_put key ih item

/-- Of the first records those remain whose key no later record has. -/
theorem mem_merged_append_iff (first second : List α) (record : α) :
    record ∈ merged key (first ++ second) ↔
      record ∈ merged key second ∨
        record ∈ merged key first ∧ ∀ later ∈ second, key later ≠ key record := by
  induction second using List.reverseRecOn with
  | nil => simp [merged]
  | append_singleton second item ih =>
      rw [← List.append_assoc, merged_concat, merged_concat,
        mem_put_iff key (nodup_merged key _), mem_put_iff key (nodup_merged key _), ih]
      simp only [List.mem_append, List.mem_singleton]
      constructor
      · rintro (rfl | ⟨isIn | ⟨isIn, noLater⟩, differs⟩)
        · exact .inl (.inl rfl)
        · exact .inl (.inr ⟨isIn, differs⟩)
        · refine .inr ⟨isIn, ?_⟩
          rintro later (isLater | rfl)
          · exact noLater later isLater
          · exact differs.symm
      · rintro ((rfl | ⟨isIn, differs⟩) | ⟨isIn, noLater⟩)
        · exact .inl rfl
        · exact .inr ⟨.inl isIn, differs⟩
        · refine .inr ⟨.inr ⟨isIn, fun later isLater => noLater later (.inl isLater)⟩, ?_⟩
          exact (noLater item (.inr rfl)).symm

/-- Records with different keys all remain. -/
theorem mem_merged_of_nodup {items : List α} (distinct : (items.map key).Nodup) (record : α) :
    record ∈ merged key items ↔ record ∈ items := by
  induction items with
  | nil => rfl
  | cons item items ih =>
      obtain ⟨fresh, distinct⟩ := List.nodup_cons.mp distinct
      have split := mem_merged_append_iff key [item] items record
      rw [List.singleton_append, ih distinct] at split
      rw [split, List.mem_cons]
      constructor
      · rintro (isIn | ⟨isIn, -⟩)
        · exact .inr isIn
        · exact .inl (by simpa [merged, put] using isIn)
      · rintro (rfl | isIn)
        · refine .inr ⟨by simp [merged, put], fun later isLater same => ?_⟩
          exact fresh (List.mem_map.mpr ⟨later, isLater, same⟩)
        · exact .inl isIn

theorem latest_sorted (items : List α) :
    (latest key items).Pairwise fun first second => key first < key second := by
  have sorted := List.pairwise_insertionSort
    (fun first second : α => key first ≤ key second) (merged key items)
  have perm := (List.perm_insertionSort
    (fun first second : α => key first ≤ key second) (merged key items)).map key
  have distinct := List.pairwise_map.mp (perm.nodup_iff.mpr (nodup_merged key items))
  exact (sorted.and distinct).imp fun ordered => lt_of_le_of_ne ordered.1 ordered.2

/-- Of the reports with a key the one of the highest rank counts. -/
theorem mem_latest_iff {reports : List β} (rank : β → ρ)
    (ranked : reports.Pairwise fun first second => rank first < rank second)
    (records : β → List α) (distinct : ∀ report ∈ reports, ((records report).map key).Nodup)
    (record : α) :
    record ∈ latest key (reports.flatMap records) ↔
      ∃ report ∈ reports, record ∈ records report ∧
        ∀ later ∈ reports, rank report < rank later →
          ∀ other ∈ records later, key other ≠ key record := by
  rw [latest, List.mem_insertionSort]
  induction reports with
  | nil => simp [merged]
  | cons report reports ih =>
      obtain ⟨first, ranked⟩ := List.pairwise_cons.mp ranked
      rw [List.flatMap_cons, mem_merged_append_iff,
        ih ranked fun report isIn => distinct report (List.mem_cons_of_mem _ isIn),
        mem_merged_of_nodup key (distinct report List.mem_cons_self)]
      constructor
      · rintro (⟨chosen, isIn, has, noLater⟩ | ⟨has, noLater⟩)
        · refine ⟨chosen, List.mem_cons_of_mem _ isIn, has, ?_⟩
          intro later isLater higher
          rcases List.mem_cons.mp isLater with rfl | isLater
          · exact absurd higher (lt_asymm (first chosen isIn))
          · exact noLater later isLater higher
        · refine ⟨report, List.mem_cons_self, has, ?_⟩
          intro later isLater higher other hasOther
          rcases List.mem_cons.mp isLater with rfl | isLater
          · exact absurd higher (lt_irrefl _)
          · exact noLater other (List.mem_flatMap.mpr ⟨later, isLater, hasOther⟩)
      · rintro ⟨chosen, isIn, has, noLater⟩
        rcases List.mem_cons.mp isIn with rfl | isIn
        · refine .inr ⟨has, ?_⟩
          intro other hasOther
          obtain ⟨later, isLater, hasOther⟩ := List.mem_flatMap.mp hasOther
          exact noLater later (List.mem_cons_of_mem _ isLater) (first later isLater) other
            hasOther
        · exact .inl ⟨chosen, isIn, has, fun later isLater =>
            noLater later (List.mem_cons_of_mem _ isLater)⟩

end LatestRecords

end ElKeeper
