import ElKeeper.CertificateAssets
import ElKeeper.InventoryDeletion
import ElKeeper.JsonText
import ElKeeper.PortConflicts
import Mathlib.Data.List.Infix

/-!
# Names of workloads

Everything that a workload owns on its host is named after the slug of its cluster, its
role and its host.  The separator of these parts is also found inside of slugs and of
roles, but no role ends with a separator and another role, so a name has one reading.
Slugs come from the name that a cluster is created with, differ from each other and stay.
-/

namespace ElKeeper

open Program

/-- `slugify`. -/
def slugify (value : String) : String :=
  String.ofList <| value.toList.map fun character =>
    if character.toLower = '.' ∨ character.toLower = '_' then '-' else character.toLower

namespace WorkloadName

open CertificateLifecycle

/-! ### Reading a name -/

/-- The last separator splits a text in one way. -/
theorem append_separator_inj {α : Type} {separator : α} {first second last other : List α}
    (plain : separator ∉ last) (otherPlain : separator ∉ other)
    (same : first ++ separator :: last = second ++ separator :: other) :
    first = second ∧ last = other := by
  rcases List.append_eq_append_iff.mp same with ⟨middle, rfl, isMiddle⟩ | ⟨middle, rfl, isMiddle⟩
  · cases middle with
    | nil => simpa using isMiddle
    | cons head middle =>
        obtain ⟨-, rfl⟩ := List.cons.inj isMiddle
        exact absurd (List.mem_append_right middle List.mem_cons_self) plain
  · cases middle with
    | nil =>
        obtain ⟨-, rfl⟩ := List.cons.inj isMiddle
        simp
    | cons head middle =>
        obtain ⟨-, rfl⟩ := List.cons.inj isMiddle
        exact absurd (List.mem_append_right middle List.mem_cons_self) otherPlain

theorem separator_notMem_digits (number : Nat) : '-' ∉ (toString number).toList := by
  intro isIn
  rw [Nat.toString_eq_repr, Nat.toList_repr] at isIn
  have digit := List.all_eq_true.mp (JsonText.all_isDigit_toDigits number) '-' isIn
  exact absurd digit (by decide)

/-- No role ends with a separator and another role. -/
theorem role_of_suffix : ∀ role other : Role,
    '-' :: role.text.toList <:+ '-' :: other.text.toList → role = other := by
  intro role other
  cases role <;> cases other <;> decide

/-- Slug, role and host are read from what follows the prefix. -/
theorem parts_inj {slug otherSlug : List Char} {role otherRole : Role} {nodeId otherNode : Nat}
    (same : slug ++ '-' :: (role.text.toList ++ '-' :: (toString nodeId).toList) =
      otherSlug ++ '-' :: (otherRole.text.toList ++ '-' :: (toString otherNode).toList)) :
    slug = otherSlug ∧ role = otherRole ∧ nodeId = otherNode := by
  have split : ∀ (slug : List Char) (role : Role) (digits : List Char),
      slug ++ '-' :: (role.text.toList ++ '-' :: digits) =
        (slug ++ '-' :: role.text.toList) ++ '-' :: digits := by
    simp
  rw [split, split] at same
  obtain ⟨sameStart, sameDigits⟩ :=
    append_separator_inj (separator_notMem_digits _) (separator_notMem_digits _) same
  have sameNode : nodeId = otherNode := by
    simp only [Nat.toString_eq_repr, Nat.toList_repr] at sameDigits
    rw [← Nat.ofDigitChars_ten_toDigits (n := nodeId), sameDigits, Nat.ofDigitChars_ten_toDigits]
  have isSuffix : '-' :: role.text.toList <:+ slug ++ '-' :: role.text.toList :=
    List.suffix_append _ _
  have isOther : '-' :: otherRole.text.toList <:+ slug ++ '-' :: role.text.toList :=
    sameStart ▸ List.suffix_append _ _
  have sameRole : role = otherRole := by
    rcases List.suffix_or_suffix_of_suffix isSuffix isOther with shorter | longer
    · exact role_of_suffix role otherRole shorter
    · exact (role_of_suffix otherRole role longer).symm
  subst sameRole
  exact ⟨List.append_cancel_right sameStart, rfl, sameNode⟩

/-! ### What a workload owns -/

/-- The unit that runs the container of a workload. -/
def unitName (slug : String) (row : AssignmentRow) : String :=
  workloadName slug row ++ ".service"

/-- `unit_file`. -/
def unitFile (slug : String) (row : AssignmentRow) : String :=
  "/etc/containers/systemd/" ++ workloadName slug row ++ ".container"

/-- `workload_root`, where certificates, configuration and sidecar data are. -/
def workloadRoot (slug : String) (row : AssignmentRow) : String :=
  clusterBase slug ++ "/workloads/" ++ workloadName slug row

/-- `marker`, in a data path that the operator has chosen. -/
def dataMarker (storagePath slug : String) (row : AssignmentRow) : String :=
  storagePath ++ "/.elastic-control-managed-" ++ slug ++ "-" ++ row.role.text ++ "-" ++
    toString row.nodeId

section Readings

variable {slug otherSlug : String} {row other : AssignmentRow}

/-- Slug, role and host of two workloads agree. -/
def SameParts (slug otherSlug : String) (row other : AssignmentRow) : Prop :=
  slug = otherSlug ∧ row.role = other.role ∧ row.nodeId = other.nodeId

theorem toList_dash : "-".toList = ['-'] :=
  rfl

theorem sameParts_of_parts
    (same : slug.toList ++ '-' :: (row.role.text.toList ++ '-' :: (toString row.nodeId).toList) =
      otherSlug.toList ++
        '-' :: (other.role.text.toList ++ '-' :: (toString other.nodeId).toList)) :
    SameParts slug otherSlug row other := by
  obtain ⟨sameSlug, sameRole, sameNode⟩ := parts_inj same
  exact ⟨String.toList_inj.mp sameSlug, sameRole, sameNode⟩

theorem workloadName_inj (same : workloadName slug row = workloadName otherSlug other) :
    SameParts slug otherSlug row other := by
  have texts := congrArg String.toList same
  simp only [workloadName, String.toList_append, List.append_assoc, toList_dash,
    List.singleton_append] at texts
  have parts := List.append_cancel_left texts
  exact sameParts_of_parts parts

theorem dataMarker_inj {storagePath : String}
    (same : dataMarker storagePath slug row = dataMarker storagePath otherSlug other) :
    SameParts slug otherSlug row other := by
  have texts := congrArg String.toList same
  simp only [dataMarker, String.toList_append, List.append_assoc, toList_dash,
    List.singleton_append] at texts
  have parts := List.append_cancel_left (List.append_cancel_left texts)
  exact sameParts_of_parts parts

theorem unitName_inj (same : unitName slug row = unitName otherSlug other) :
    SameParts slug otherSlug row other :=
  workloadName_inj ((String.append_left_inj _).mp same)

theorem unitFile_inj (same : unitFile slug row = unitFile otherSlug other) :
    SameParts slug otherSlug row other := by
  have names := (String.append_left_inj _).mp same
  exact workloadName_inj ((String.append_right_inj _).mp names)

/-- A root names its cluster twice; the name at its end is read first. -/
theorem workloadRoot_inj (same : workloadRoot slug row = workloadRoot otherSlug other) :
    SameParts slug otherSlug row other := by
  unfold workloadRoot clusterBase workloadName at same
  generalize "/etc/elastic-control/clusters/" = base, "/workloads/" = middle at same
  simp only [String.append_assoc] at same
  have rest := (String.append_right_inj _).mp same
  have texts := congrArg String.toList rest
  simp only [String.toList_append, toList_dash, List.singleton_append] at texts
  have regroup : ∀ (slug middle prefixed tail : List Char),
      slug ++ (middle ++ (prefixed ++ (slug ++ '-' :: tail))) =
        (slug ++ (middle ++ (prefixed ++ slug))) ++ '-' :: tail := by
    simp
  rw [regroup, regroup] at texts
  obtain ⟨sameStart, sameRole, sameNode⟩ := parts_inj texts
  have lengths := congrArg List.length sameStart
  simp only [List.length_append] at lengths
  have sameSlug := (List.append_inj sameStart (by omega)).1
  exact ⟨String.toList_inj.mp sameSlug, sameRole, sameNode⟩

theorem certificatePath_inj (same : certificatePath slug row = certificatePath otherSlug other) :
    SameParts slug otherSlug row other :=
  workloadRoot_inj ((String.append_left_inj _).mp same)

end Readings

end WorkloadName

/-! ### Clusters and their slugs -/

/-- The identifier and the slug of each cluster. -/
def Database.namespaces (database : Database) : List (Nat × String) :=
  database.clusters.map fun cluster => (cluster.id, cluster.slug)

/-- What an action does to the clusters: some go, or one with a slug of its own comes. -/
inductive NamespaceStep (before : List (Nat × String)) : List (Nat × String) → Prop where
  | fewer {after : List (Nat × String)} : after.Sublist before → NamespaceStep before after
  | created {identifier : Nat} {slug : String} : identifier ∉ before.map Prod.fst →
      slug ∉ before.map Prod.snd → NamespaceStep before (before ++ [(identifier, slug)])

/-- No two clusters share an identifier or a slug. -/
structure NamespacesApart (namespaces : List (Nat × String)) : Prop where
  identifiers : (namespaces.map Prod.fst).Nodup
  slugs : (namespaces.map Prod.snd).Nodup

namespace NamespaceStep

variable {before after : List (Nat × String)}

theorem same (before : List (Nat × String)) : NamespaceStep before before :=
  .fewer (List.Sublist.refl before)

theorem apart (step : NamespaceStep before after) (apart : NamespacesApart before) :
    NamespacesApart after := by
  cases step with
  | fewer fewer =>
      exact ⟨apart.identifiers.sublist (fewer.map _), apart.slugs.sublist (fewer.map _)⟩
  | created freshId freshSlug =>
      constructor
      · rw [List.map_append, List.nodup_append_comm]
        exact List.nodup_cons.mpr ⟨freshId, apart.identifiers⟩
      · rw [List.map_append, List.nodup_append_comm]
        exact List.nodup_cons.mpr ⟨freshSlug, apart.slugs⟩

/-- A cluster that stays has the slug that it had. -/
theorem slug_kept (step : NamespaceStep before after) (apart : NamespacesApart before)
    {identifier : Nat} {slug later : String} (isBefore : (identifier, slug) ∈ before)
    (isAfter : (identifier, later) ∈ after) : later = slug := by
  have unique : ∀ {first second : String}, (identifier, first) ∈ before →
      (identifier, second) ∈ before → first = second := by
    intro first second isFirst isSecond
    have samePair := List.inj_on_of_nodup_map apart.identifiers isFirst isSecond rfl
    exact (Prod.mk.inj samePair).2
  cases step with
  | fewer fewer => exact unique (fewer.subset isAfter) isBefore
  | created freshId freshSlug =>
      rcases List.mem_append.mp isAfter with earlier | last
      · exact unique earlier isBefore
      · cases List.mem_singleton.mp last
        exact absurd (List.mem_map_of_mem isBefore) freshId

end NamespaceStep

/-- The actions on ports and workloads, and the deletions of clusters and hosts. -/
inductive NamespaceAction where
  | inventory (action : PortAction)
  | deleteCluster (clusterId : Nat)
  | deleteHost (nodeId : Nat)

namespace PortWorld

variable {world after : PortWorld}

def performNamed (world : PortWorld) : NamespaceAction → PortWorld
  | .inventory action => world.perform action
  | .deleteCluster clusterId =>
      world.committed (onDatabase (InventoryStore.deleteCluster clusterId))
  | .deleteHost nodeId => world.committed (onDatabase (InventoryStore.deleteNode nodeId))

def performAllNamed (world : PortWorld) (actions : List NamespaceAction) : PortWorld :=
  actions.foldl performNamed world

/-- A committed program is what it returned with, or nothing. -/
theorem committed_induction {α : Type} {program : Program PortWorld Fault α}
    {reached : PortWorld → Prop} (nothing : reached world)
    (returned : ∀ value after, program.run world = (.returned value, after) → reached after) :
    reached (world.committed program) := by
  rcases ran : program.run world with ⟨outcome, after⟩
  rw [PortWorld.committed, ran]
  cases outcome with
  | returned value => exact returned value after ran
  | raised error => exact nothing
  | stopped => exact nothing

theorem step_committed {α : Type} {program : Program PortWorld Fault α}
    (returned : ∀ value after, program.run world = (.returned value, after) →
      NamespaceStep world.database.namespaces after.database.namespaces) :
    NamespaceStep world.database.namespaces (world.committed program).database.namespaces :=
  committed_induction (NamespaceStep.same _) returned

theorem createCluster_step {slugify : String → String} {input : ClusterInput} {identifier : Nat}
    (ran : (createCluster slugify input).run world = (.returned identifier, after)) :
    NamespaceStep world.database.namespaces after.database.namespaces := by
  obtain ⟨_, _, wasRead, checking⟩ := bind_eq_returned ran
  cases wasRead
  obtain ⟨_, checked, required, writing⟩ := bind_eq_returned checking
  obtain ⟨free, rfl⟩ := require_eq_returned required
  cases writing
  simp only [Bool.not_eq_true', List.any_eq_false, Bool.or_eq_true, decide_eq_true_eq,
    not_or] at free
  have created : NamespaceStep checked.database.namespaces (checked.database.namespaces ++
      [(Database.nextId (checked.database.clusters.map (·.id)), slugify input.name)]) := by
    apply NamespaceStep.created
    · rw [Database.namespaces, List.map_map]
      exact fun isIn => absurd (WorkloadStore.lt_nextId isIn) (Nat.lt_irrefl _)
    · rw [Database.namespaces, List.map_map]
      intro isIn
      obtain ⟨cluster, isCluster, sameSlug⟩ := List.mem_map.mp isIn
      exact (free cluster isCluster).2 sameSlug
  simpa [Database.namespaces, setPorts] using created

theorem namespaces_updateRecord (clusterId : Nat) (name : String) (database : Database) :
    (ClusterService.updateRecord clusterId name database).namespaces = database.namespaces := by
  simp only [Database.namespaces, ClusterService.updateRecord, List.map_map]
  apply List.map_congr_left
  intro cluster _
  simp only [Function.comp]
  split <;> rfl

theorem stageBatchChanges_clusters {clusterId runId : Nat} {planned : List PlannedChange}
    {database staged : Database} {result : List StagedChange}
    (ran : (WorkloadStore.stageBatchChanges clusterId runId planned).run database =
      (.returned result, staged)) : staged.clusters = database.clusters := by
  induction planned generalizing database result with
  | nil =>
      cases ran
      rfl
  | cons change changes ih =>
      obtain ⟨first, between, firstRan, continued⟩ := bind_eq_returned ran
      obtain ⟨others, _, othersRan, ended⟩ := bind_eq_returned continued
      cases ended
      rw [ih othersRan, (stageChange_placements firstRan).1]

theorem launchBatch_clusters {validator : WorkloadChangeValidator} {clusterId runId : Nat}
    {changeSet : WorkloadChangeSet}
    (ran : (launchBatch validator clusterId changeSet).run world = (.returned runId, after)) :
    after.database.clusters = world.database.clusters := by
  obtain ⟨_, _, wasRead, launching⟩ := bind_eq_returned ran
  cases wasRead
  obtain ⟨_, launchRan, rfl⟩ := onDatabase_returned launching
  obtain ⟨_, _, validateRan, afterValidate⟩ := bind_eq_returned launchRan
  obtain ⟨rfl, -⟩ := WorkloadChangeValidator.validate_checked validateRan
  obtain ⟨identifier, started, startRan, afterStart⟩ := bind_eq_returned afterValidate
  obtain ⟨_, _, onlyRuns⟩ := startRun_returned startRan
  obtain ⟨outcome, between, stageRan, ended⟩ := bind_eq_returned afterStart
  cases outcome with
  | error error => cases ended
  | ok changes =>
      obtain ⟨_, _, createRan, finished⟩ := bind_eq_returned ended
      cases finished
      obtain ⟨added, _⟩ := createBatch_returned createRan
      have staged := stageBatchChanges_clusters (attempt_eq_returned stageRan)
      rw [added]
      dsimp only
      rw [staged, onlyRuns]

/-- What is left after a row with assignments was deleted. -/
theorem deleteOwner_returned {column : TargetColumn} {identifier : Nat}
    {present : Database → Bool} {removed : AssignmentRow → Bool}
    {change : Database → Database} {database reached : Database} {found : Bool}
    (ran : (InventoryStore.deleteOwner column identifier present removed change).run database =
      (.returned found, reached)) :
    reached = database ∨ ∃ between : Database, reached = change between ∧
      between.clusters = database.clusters ∧
      between.assignments = database.assignments.filter (! removed ·) := by
  obtain ⟨isPresent, _, wasRead, deleting⟩ := bind_eq_returned (atomically_eq_returned ran)
  cases wasRead
  split at deleting
  · right
    obtain ⟨_, cleared, clearRan, afterClear⟩ := bind_eq_returned deleting
    obtain ⟨_, emptied, emptyRan, afterEmpty⟩ := bind_eq_returned afterClear
    cases afterEmpty
    have setNull : ∀ {column : TargetColumn} {gone : List Nat} {database reached : Database},
        (InventoryStore.setTargetNull column gone).run database = (.returned (), reached) →
        reached.clusters = database.clusters ∧ reached.assignments = database.assignments := by
      intro column gone database reached setRan
      obtain ⟨_, _, wasRead, requiring⟩ := bind_eq_returned setRan
      cases wasRead
      obtain ⟨_, _, required, written⟩ := bind_eq_returned requiring
      obtain ⟨-, rfl⟩ := require_eq_returned required
      cases written
      exact ⟨rfl, rfl⟩
    obtain ⟨clearedClusters, clearedAssignments⟩ := setNull clearRan
    obtain ⟨_, _, wasRead, nulling⟩ := bind_eq_returned emptyRan
    cases wasRead
    obtain ⟨_, nulled, nullRan, written⟩ := bind_eq_returned nulling
    obtain ⟨nulledClusters, nulledAssignments⟩ := setNull nullRan
    cases written
    refine ⟨_, rfl, nulledClusters.trans clearedClusters, ?_⟩
    simp only [Database.dropAssignments, nulledAssignments, clearedAssignments]
  · left
    cases deleting
    rfl

/-- Fewer clusters, without the workloads of those that went. -/
theorem Sound.fewerClusters (sound : world.Sound) {database : Database}
    (fewer : database.placements.Sublist world.database.placements)
    (clustered : ∀ placement ∈ database.placements,
      placement.clusterId ∈ database.clusters.map (·.id)) :
    Sound { world with database := database } := by
  rw [Sound] at sound ⊢
  have kept := Ported.sublist sound fewer
  exact ⟨clustered, kept.unique, kept.apart⟩

/-- The workloads that a filter keeps. -/
theorem placements_filter {database between : Database} {kept : AssignmentRow → Bool}
    (assignments : between.assignments = database.assignments.filter kept) :
    between.placements.Sublist database.placements := by
  rw [Database.placements, assignments]
  exact List.filter_sublist.map _

theorem namespaceStep_inventory (world : PortWorld) (action : PortAction) :
    NamespaceStep world.database.namespaces (world.perform action).database.namespaces := by
  have unchanged : ∀ {after : PortWorld}, after.database.clusters = world.database.clusters →
      NamespaceStep world.database.namespaces after.database.namespaces := by
    intro after same
    rw [Database.namespaces, Database.namespaces, same]
    exact .same _
  cases action with
  | createCluster slugify input =>
      exact step_committed fun _ _ ran => createCluster_step ran
  | updateCluster policy clusterId input =>
      refine step_committed fun _ after ran => ?_
      obtain ⟨_, _, wasRead, updating⟩ := bind_eq_returned ran
      cases wasRead
      obtain ⟨_, _, updated, written⟩ := bind_eq_returned updating
      obtain ⟨_, serviceRan, rfl⟩ := onDatabase_returned updated
      obtain ⟨-, -, rfl⟩ := ClusterController.update_returned serviceRan
      cases written
      simp only [setPorts, namespaces_updateRecord]
      exact .same _
  | addMember guards clusterId nodeId =>
      refine step_committed fun _ after ran => ?_
      obtain ⟨_, routeRan, rfl⟩ := onDatabase_returned ran
      rw [InventoryRoutes.addMember_returned routeRan]
      exact .same _
  | addAssignment guards clusterId nodeId role config =>
      refine step_committed fun _ after ran => ?_
      obtain ⟨_, _, wasRead, adding⟩ := bind_eq_returned ran
      cases wasRead
      obtain ⟨_, routeRan, rfl⟩ := onDatabase_returned adding
      obtain ⟨-, -, -, ⟨_, _, _, rfl⟩ | ⟨-, -, rfl⟩⟩ :=
        InventoryRoutes.addAssignment_returned routeRan
      all_goals exact .same _
  | deleteAssignment assignmentId => exact .same _
  | launchBatch validator clusterId changeSet =>
      exact step_committed fun _ _ ran => unchanged (launchBatch_clusters ran)
  | settleBatch runId finalized =>
      apply unchanged
      simp only [perform, ClusterController.settleBatch]
      split
      · rfl
      · split
        · rw [WorkloadStore.finalizeBatch_eq]
          rfl
        · rw [WorkloadStore.releaseBatch_eq]

theorem namespaceStep (world : PortWorld) (action : NamespaceAction) :
    NamespaceStep world.database.namespaces (world.performNamed action).database.namespaces := by
  cases action with
  | inventory action => exact world.namespaceStep_inventory action
  | deleteCluster clusterId =>
      refine step_committed fun _ after ran => ?_
      obtain ⟨_, deleteRan, rfl⟩ := onDatabase_returned ran
      rcases deleteOwner_returned deleteRan with rfl | ⟨between, rfl, clusters, -⟩
      · exact .same _
      · apply NamespaceStep.fewer
        simp only [Database.namespaces, InventoryStore.dropCluster, clusters]
        exact List.filter_sublist.map _
  | deleteHost nodeId =>
      refine step_committed fun _ after ran => ?_
      obtain ⟨_, deleteRan, rfl⟩ := onDatabase_returned ran
      rcases deleteOwner_returned deleteRan with rfl | ⟨between, rfl, clusters, -⟩
      · exact .same _
      · simp only [Database.namespaces, InventoryStore.dropNode, clusters]
        exact .same _

theorem Sound.performNamed (sound : world.Sound) (action : NamespaceAction) :
    (world.performNamed action).Sound := by
  cases action with
  | inventory action => exact sound.perform action
  | deleteCluster clusterId =>
      refine committed_induction sound fun _ after ran => ?_
      obtain ⟨_, deleteRan, rfl⟩ := onDatabase_returned ran
      rcases deleteOwner_returned deleteRan with rfl | ⟨between, rfl, clusters, assignments⟩
      · exact sound
      · have fewer : (InventoryStore.dropCluster clusterId between).placements.Sublist
            world.database.placements := placements_filter assignments
        refine sound.fewerClusters fewer ?_
        intro placement isIn
        obtain ⟨cluster, isCluster, isId⟩ :=
          List.mem_map.mp (sound.clustered placement (fewer.subset isIn))
        obtain ⟨row, isRow, rfl⟩ := List.mem_map.mp isIn
        have kept : row ∈ world.database.assignments.filter
            (! (fun row : AssignmentRow => decide (row.clusterId = clusterId)) ·) :=
          assignments ▸ isRow
        have other : row.clusterId ≠ clusterId := by simpa using (List.mem_filter.mp kept).2
        refine List.mem_map.mpr ⟨cluster, ?_, isId⟩
        simp only [InventoryStore.dropCluster, clusters, List.mem_filter]
        exact ⟨isCluster, by simpa [isId, AssignmentRow.placement] using other⟩
  | deleteHost nodeId =>
      refine committed_induction sound fun _ after ran => ?_
      obtain ⟨_, deleteRan, rfl⟩ := onDatabase_returned ran
      rcases deleteOwner_returned deleteRan with rfl | ⟨between, rfl, clusters, assignments⟩
      · exact sound
      · exact sound.fewer clusters (placements_filter assignments)

/-! ### Every run -/

/-- The invariant: namespaces differ, and workloads are where at most one may be. -/
structure Named (world : PortWorld) : Prop where
  apart : NamespacesApart world.database.namespaces
  sound : world.Sound

theorem Named.performAllNamed (named : world.Named) (actions : List NamespaceAction) :
    (world.performAllNamed actions).Named := by
  induction actions generalizing world with
  | nil => exact named
  | cons action actions ih =>
      have next : (world.performNamed action).Named :=
        ⟨(world.namespaceStep action).apart named.apart, named.sound.performNamed action⟩
      exact ih next

/-- The slug of a workload's cluster. -/
def slugOf (world : PortWorld) (row : AssignmentRow) : String :=
  CertificateWorld.slug world.database row.clusterId

theorem slugOf_mem (sound : world.Sound) {row : AssignmentRow}
    (isRow : row ∈ world.database.assignments) :
    (row.clusterId, world.slugOf row) ∈ world.database.namespaces := by
  obtain ⟨cluster, found⟩ :=
    PortConflicts.cluster_found (sound.clustered _ (List.mem_map_of_mem isRow))
  change world.database.cluster? row.clusterId = some cluster at found
  have isId : cluster.id = row.clusterId := by simpa using List.find?_some found
  have isSlug : world.slugOf row = cluster.slug := by
    simp [slugOf, CertificateWorld.slug, found]
  rw [isSlug, ← isId]
  exact List.mem_map_of_mem (List.mem_of_find?_eq_some found)

/-- Workloads with one slug, role and host are in one place. -/
theorem Named.same_of_parts (named : world.Named) {row other : AssignmentRow}
    (isRow : row ∈ world.database.assignments) (isOther : other ∈ world.database.assignments)
    (same : WorkloadName.SameParts (world.slugOf row) (world.slugOf other) row other) :
    row.placement = other.placement := by
  obtain ⟨sameSlug, sameRole, sameNode⟩ := same
  have samePair := List.inj_on_of_nodup_map named.apart.slugs (slugOf_mem named.sound isRow)
    (slugOf_mem named.sound isOther) sameSlug
  have sameCluster : row.clusterId = other.clusterId := (Prod.mk.inj samePair).1
  simp [AssignmentRow.placement, sameCluster, sameRole, sameNode]

/-- Two workloads share nothing that is named after them. -/
structure NamesApart (world : PortWorld) (left right : AssignmentRow) : Prop where
  unitName : WorkloadName.unitName (world.slugOf left) left ≠
    WorkloadName.unitName (world.slugOf right) right
  unitFile : WorkloadName.unitFile (world.slugOf left) left ≠
    WorkloadName.unitFile (world.slugOf right) right
  workloadRoot : WorkloadName.workloadRoot (world.slugOf left) left ≠
    WorkloadName.workloadRoot (world.slugOf right) right
  certificatePath : CertificateLifecycle.certificatePath (world.slugOf left) left ≠
    CertificateLifecycle.certificatePath (world.slugOf right) right
  dataMarker : ∀ storagePath,
    WorkloadName.dataMarker storagePath (world.slugOf left) left ≠
      WorkloadName.dataMarker storagePath (world.slugOf right) right

theorem Named.namesApart (named : world.Named) :
    world.database.assignments.Pairwise world.NamesApart := by
  have placed : world.database.assignments.Pairwise fun left right =>
      left.placement ≠ right.placement := List.pairwise_map.mp named.sound.unique
  refine placed.imp_of_mem fun {left right} isLeft isRight differ => ?_
  have parts : ¬ WorkloadName.SameParts (world.slugOf left) (world.slugOf right) left right :=
    fun same => differ (named.same_of_parts isLeft isRight same)
  exact
    { unitName := fun same => parts (WorkloadName.unitName_inj same)
      unitFile := fun same => parts (WorkloadName.unitFile_inj same)
      workloadRoot := fun same => parts (WorkloadName.workloadRoot_inj same)
      certificatePath := fun same => parts (WorkloadName.certificatePath_inj same)
      dataMarker := fun _ same => parts (WorkloadName.dataMarker_inj same) }

/-- A name is that of one cluster, role and host. -/
theorem Named.cluster_of_name (named : world.Named) {first second : ClusterRow}
    (isFirst : first ∈ world.database.clusters) (isSecond : second ∈ world.database.clusters)
    {row other : AssignmentRow}
    (same : CertificateLifecycle.workloadName first.slug row =
      CertificateLifecycle.workloadName second.slug other) :
    first = second ∧ row.role = other.role ∧ row.nodeId = other.nodeId := by
  obtain ⟨sameSlug, sameRole, sameNode⟩ := WorkloadName.workloadName_inj same
  have slugs := named.apart.slugs
  rw [Database.namespaces, List.map_map] at slugs
  exact ⟨List.inj_on_of_nodup_map slugs isFirst isSecond sameSlug, sameRole, sameNode⟩

/-- From an empty controller, names decode to one cluster, role and host, the workloads share
nothing that is named after them, and no action changes the slug of a cluster. -/
theorem names_apart (start : PortWorld) (noClusters : start.database.clusters = [])
    (idle : start.database.assignments = []) (actions : List NamespaceAction) :
    (∀ first ∈ (start.performAllNamed actions).database.clusters,
      ∀ second ∈ (start.performAllNamed actions).database.clusters, ∀ row other : AssignmentRow,
        CertificateLifecycle.workloadName first.slug row =
          CertificateLifecycle.workloadName second.slug other →
        first = second ∧ row.role = other.role ∧ row.nodeId = other.nodeId) ∧
    (start.performAllNamed actions).database.assignments.Pairwise
      (start.performAllNamed actions).NamesApart ∧
    ∀ action, ∀ cluster ∈ (start.performAllNamed actions).database.clusters,
      ∀ later ∈ ((start.performAllNamed actions).performNamed action).database.clusters,
        later.id = cluster.id → later.slug = cluster.slug := by
  have sound : start.Sound := by
    rw [Sound, Database.placements, idle]
    exact .nil _ _
  have apart : NamespacesApart start.database.namespaces := by
    rw [Database.namespaces, noClusters]
    exact ⟨List.nodup_nil, List.nodup_nil⟩
  have named := Named.performAllNamed ⟨apart, sound⟩ actions
  refine ⟨fun first isFirst second isSecond row other => named.cluster_of_name isFirst isSecond,
    named.namesApart, fun action cluster isCluster later isLater sameId => ?_⟩
  have isBefore : (cluster.id, cluster.slug) ∈
      (start.performAllNamed actions).database.namespaces := List.mem_map_of_mem isCluster
  have isAfter : (cluster.id, later.slug) ∈
      ((start.performAllNamed actions).performNamed action).database.namespaces :=
    sameId ▸ List.mem_map_of_mem isLater
  exact (namespaceStep _ action).slug_kept named.apart isBefore isAfter

end PortWorld

namespace NameSample

/-- A path that the operator chooses for the data of a workload. -/
def config : Dict :=
  [("cpu", .str "2"), ("memory", .str "4g"), ("storage_path", .str "/srv/elastic")]

/-- Two masters and a service with a separator in its role; one cluster is renamed, and its old
name is taken by nobody. -/
def actions : List NamespaceAction :=
  [.inventory (.createCluster slugify { PortSample.logs with name := "Logs.Main" }),
    .inventory (.createCluster slugify PortSample.metrics),
    .inventory (.updateCluster ExclusionSample.policy 1 { PortSample.logs with name := "archive" }),
    .inventory (.createCluster slugify { PortSample.logs with name := "logs_main" }),
    .inventory (.addMember FinalizerSample.guards 1 1),
    .inventory (.addMember FinalizerSample.guards 2 1),
    .inventory (.addAssignment FinalizerSample.guards 1 1 .master config),
    .inventory (.addAssignment FinalizerSample.guards 2 1 .master config),
    .inventory (.addAssignment FinalizerSample.guards 2 1 .fleetServer config)]

end NameSample

open NameSample in
/-- The masters of two clusters on one host have names of their own. -/
theorem names_apart_shared :
    (PortSample.start.performAllNamed actions).database.namespaces =
        [(1, "logs-main"), (2, "metrics")] ∧
      (PortSample.start.performAllNamed actions).database.assignments.Pairwise
        (PortSample.start.performAllNamed actions).NamesApart :=
  ⟨by decide +kernel, (PortWorld.names_apart PortSample.start rfl rfl actions).2.1⟩

/-- The data path of a workload. -/
def AssignmentRow.storagePath (row : AssignmentRow) : Option Json :=
  Dict.get (openConfig row.config) "storage_path"

open NameSample in
/-- The operator may choose one data path for two workloads of different clusters on one host. -/
theorem shared_data_path :
    ∃ left ∈ (PortSample.start.performAllNamed actions).database.assignments,
      ∃ right ∈ (PortSample.start.performAllNamed actions).database.assignments,
        left.clusterId ≠ right.clusterId ∧ left.nodeId = right.nodeId ∧
          left.storagePath = some (.str "/srv/elastic") ∧
          right.storagePath = left.storagePath := by
  decide +kernel

end ElKeeper
