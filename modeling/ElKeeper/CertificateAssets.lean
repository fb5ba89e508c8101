import ElKeeper.AssignmentRevisions

/-!
# The certificate assets of assignments

Listing the certificates of a cluster adopts the files of the shared layout: an
asset is stored for each active workload, under the identifier of its assignment,
unless one is there.  What is there is never written again, and SQLite gives the
identifier of a removed assignment to a later one.
-/

namespace ElKeeper

open Program

/-- `TRUST_DOMAIN_KINDS`. -/
inductive TrustDomainKind where
  | elasticsearchTransport
  | elasticsearchHttp
  | kibanaHttp
  | fleetHttp
deriving DecidableEq, Repr

namespace TrustDomainKind

def all : List TrustDomainKind :=
  [elasticsearchTransport, elasticsearchHttp, kibanaHttp, fleetHttp]

end TrustDomainKind

/-- `owner_type` and `owner_id`. -/
inductive AssetOwner where
  | cluster (clusterId : Nat)
  | assignment (assignmentId : Nat)
deriving DecidableEq, Repr

/-- The storage locator; that of a cluster names no host. -/
structure StorageLocator where
  node : Option (Nat × String)
  path : String
deriving DecidableEq, Repr

/-- A row of `certificate_assets`; its trust domain is that of its cluster and kind. -/
structure CertificateAsset where
  clusterId : Nat
  domain : TrustDomainKind
  owner : AssetOwner
  purpose : String
  locator : StorageLocator
deriving DecidableEq, Repr

/-- The controller with its certificate assets. -/
structure CertificateWorld where
  database : Database
  assets : List CertificateAsset

namespace CertificateRepository

/-- The unique key of an asset. -/
def sameAsset (asset other : CertificateAsset) : Bool :=
  other.clusterId = asset.clusterId && other.domain = asset.domain &&
    other.owner = asset.owner && other.purpose = asset.purpose

/-- `ensure_asset`. -/
def ensureAsset (asset : CertificateAsset) (assets : List CertificateAsset) :
    List CertificateAsset :=
  if assets.any (sameAsset asset) then assets else assets ++ [asset]

end CertificateRepository

namespace CertificateLifecycle

open CertificateRepository

/-- The directory of a cluster. -/
def clusterBase (slug : String) : String :=
  "/etc/elastic-control/clusters/" ++ slug

/-- The unit of a workload. -/
def workloadName (slug : String) (row : AssignmentRow) : String :=
  "ecp-" ++ slug ++ "-" ++ row.role.text ++ "-" ++ toString row.nodeId

/-- The certificate of a workload. -/
def certificatePath (slug : String) (row : AssignmentRow) : String :=
  clusterBase slug ++ "/workloads/" ++ workloadName slug row ++ "/certs/node.crt"

/-- The trust domains and purposes of a role. -/
def purposes (role : Role) : List (TrustDomainKind × String) :=
  if role.elasticsearch then
    [(.elasticsearchTransport, "elasticsearch_transport"),
      (.elasticsearchHttp, "elasticsearch_http")]
  else
    match role with
    | .kibana => [(.kibanaHttp, "kibana_server")]
    | .fleetServer => [(.fleetHttp, "fleet_server")]
    | .elasticAgent => [(.fleetHttp, "elastic_agent_client")]
    | .logstash => [(.elasticsearchHttp, "logstash_elasticsearch_client")]
    | other => [(.elasticsearchHttp, other.text ++ "_client")]

/-- The name of the host of a workload in the cluster record. -/
def nodeName (database : Database) (nodeId : Nat) : String :=
  match database.nodes.find? (·.id = nodeId) with
  | some node => node.name
  | none => "unknown"

/-- The asset that is adopted for a workload. -/
def assignmentAsset (database : Database) (cluster : ClusterRow) (row : AssignmentRow)
    (purpose : TrustDomainKind × String) : CertificateAsset where
  clusterId := cluster.id
  domain := purpose.1
  owner := .assignment row.id
  purpose := purpose.2
  locator := ⟨some (row.nodeId, nodeName database row.nodeId), certificatePath cluster.slug row⟩

/-- `_adopt_assignment`. -/
def adoptAssignment (database : Database) (cluster : ClusterRow) (assets : List CertificateAsset)
    (row : AssignmentRow) : List CertificateAsset :=
  (purposes row.role).foldl
    (fun assets purpose => ensureAsset (assignmentAsset database cluster row purpose) assets) assets

/-- The shared certificate authority of a trust domain. -/
def sharedAuthority (cluster : ClusterRow) (domain : TrustDomainKind) : CertificateAsset where
  clusterId := cluster.id
  domain := domain
  owner := .cluster cluster.id
  purpose := "legacy_shared_ca"
  locator := ⟨none, clusterBase cluster.slug ++ "/ca/ca.crt"⟩

/-- `active_for_cluster_in_connection`. -/
def activeForCluster (database : Database) (clusterId : Nat) : List AssignmentRow :=
  database.assignments.filter fun row => row.clusterId = clusterId && row.state = .active

/-- `_adopt_legacy`. -/
def adoptLegacy (database : Database) (cluster : ClusterRow) (assets : List CertificateAsset) :
    List CertificateAsset :=
  let shared := TrustDomainKind.all.foldl
    (fun assets domain => ensureAsset (sharedAuthority cluster domain) assets) assets
  (activeForCluster database cluster.id).foldl (adoptAssignment database cluster) shared

/-- `list_assets`, without the order of the items. -/
def listAssets (clusterId : Nat) : Program CertificateWorld Fault (List CertificateAsset) := do
  match ← read fun world => world.database.cluster? clusterId with
  | none => raise ⟨.http 404, "Cluster not found"⟩
  | some cluster => do
      update fun world => { world with assets := adoptLegacy world.database cluster world.assets }
      read fun world => world.assets.filter (·.clusterId = clusterId)

/-- `refresh` lists before and after it inspects the certificates. -/
def refresh (clusterId : Nat) : Program CertificateWorld Fault (List CertificateAsset) := do
  let _ ← listAssets clusterId
  listAssets clusterId

end CertificateLifecycle

inductive CertificateAction where
  | write (write : AssignmentWrite)
  | list (clusterId : Nat)
  | refresh (clusterId : Nat)

namespace CertificateWorld

open CertificateLifecycle

def perform (world : CertificateWorld) : CertificateAction → CertificateWorld
  | .write write => { world with database := write.perform world.database }
  | .list clusterId => ((listAssets clusterId).run world).2
  | .refresh clusterId => ((CertificateLifecycle.refresh clusterId).run world).2

/-- Actions one after the other. -/
def performAll (world : CertificateWorld) (actions : List CertificateAction) : CertificateWorld :=
  actions.foldl perform world

/-- The slug of a cluster. -/
def slug (database : Database) (clusterId : Nat) : String :=
  ((database.cluster? clusterId).map (·.slug)).getD ""

/-- The locator names the host and the certificate of the assignment. -/
def Locates (database : Database) (asset : CertificateAsset) (row : AssignmentRow) : Prop :=
  (∃ name, asset.locator.node = some (row.nodeId, name)) ∧
    asset.locator.path = certificatePath (slug database row.clusterId) row

/-- The locator fits every active assignment that owns the asset. -/
def Located (world : CertificateWorld) (asset : CertificateAsset) : Prop :=
  ∀ row ∈ world.database.assignments, row.state = .active → asset.owner = .assignment row.id →
    Locates world.database asset row

/-- What a listing or a refresh returns is located. -/
def ListingLocated (world : CertificateWorld) (clusterId : Nat) : Prop :=
  ∀ items after, (listAssets clusterId).run world = (.returned items, after) ∨
      (CertificateLifecycle.refresh clusterId).run world = (.returned items, after) →
    ∀ asset ∈ items, after.Located asset

/-- The assets of the clusters are located. -/
def Good (world : CertificateWorld) : Prop :=
  ∀ asset ∈ world.assets, (world.database.cluster? asset.clusterId).isSome → world.Located asset

/-- The assignment was active before, in the same place. -/
def ActiveBefore (database : Database) (row : AssignmentRow) : Prop :=
  ∃ former ∈ database.assignments, former.id = row.id ∧ former.state = .active ∧
    former.clusterId = row.clusterId ∧ former.nodeId = row.nodeId ∧ former.role = row.role

/-- An assignment becomes active under an identifier without an asset of another one. -/
def Fresh (world : CertificateWorld) : CertificateAction → Prop
  | .write write => ∀ row ∈ (write.perform world.database).assignments, row.state = .active →
      ¬ ActiveBefore world.database row → ∀ asset ∈ world.assets,
        (world.database.cluster? asset.clusterId).isSome → asset.owner = .assignment row.id →
          Locates world.database asset row
  | _ => True

/-- Every action of a run meets the condition where it is performed. -/
def EachFresh : CertificateWorld → List CertificateAction → Prop
  | _, [] => True
  | world, action :: actions => world.Fresh action ∧ EachFresh (world.perform action) actions

end CertificateWorld

/-! ### The statements that write assignments -/

/-- The clusters stay, and the identifiers of the assignments stay distinct. -/
structure AssignmentStep (before after : Database) : Prop where
  clusters : after.clusters = before.clusters
  ids : before.assignmentIds.Nodup → after.assignmentIds.Nodup

namespace AssignmentStep

open WorkloadStore

variable {before after : Database}

theorem refl (database : Database) : AssignmentStep database database :=
  ⟨rfl, id⟩

theorem trans {third : Database} (earlier : AssignmentStep before after)
    (later : AssignmentStep after third) : AssignmentStep before third :=
  ⟨later.clusters.trans earlier.clusters, fun unique => later.ids (earlier.ids unique)⟩

theorem map {change : AssignmentRow → AssignmentRow} (sameId : ∀ row, (change row).id = row.id)
    (database : Database) : AssignmentStep database (database.mapAssignments change) := by
  refine ⟨rfl, fun unique => ?_⟩
  have sameIds : (database.mapAssignments change).assignmentIds = database.assignmentIds := by
    simp [Database.assignmentIds, Database.mapAssignments, Function.comp_def, sameId]
  rw [sameIds]
  exact unique

theorem settle {settle : AssignmentRow → Option AssignmentRow}
    (clusters : after.clusters = before.clusters)
    (settled : after.assignments = before.assignments.filterMap settle)
    (identified : ∀ row result, settle row = some result → result.id = row.id) :
    AssignmentStep before after := by
  refine ⟨clusters, fun unique => ?_⟩
  rw [Database.assignmentIds, settled]
  exact List.Sublist.nodup (filterMap_ids_sublist identified _) unique

theorem drop (dropped : AssignmentRow → Bool) (database : Database) :
    AssignmentStep database (database.dropAssignments dropped) :=
  ⟨rfl, fun unique => List.Sublist.nodup (List.Sublist.map _ List.filter_sublist) unique⟩

theorem add {database : Database} {row : AssignmentRow}
    (isNext : row.id = Database.nextId database.assignmentIds) :
    AssignmentStep database (database.addAssignment row) := by
  refine ⟨rfl, fun unique => nodup_append_fresh row unique fun other member => ?_⟩
  rw [isNext]
  exact Nat.ne_of_lt (lt_nextId (List.mem_map_of_mem member))

theorem of_stage (step : StageStep True before after) : AssignmentStep before after := by
  cases step with
  | create row _ isNext => exact add isNext
  | claim runId assignmentId revision =>
      refine map (fun row => ?_) before
      simp only [claimFor]
      split <;> rfl

end AssignmentStep

namespace AssignmentWrite

open WorkloadStore

theorem upsert_step (clusterId nodeId : Nat) (role : Role) (config : Dict) (database : Database) :
    AssignmentStep database ((upsert clusterId nodeId role config).perform database) := by
  refine committed_cases _ (.refl _) fun identifier after ran => ?_
  obtain ⟨found, _, wasRead, matched⟩ := bind_eq_returned ran
  cases wasRead
  dsimp only at matched
  split at matched
  · cases matched
    refine .map (fun row => ?_) database
    split <;> rfl
  · obtain ⟨_, _, wasRead, afterRead⟩ := bind_eq_returned matched
    cases wasRead
    obtain ⟨_, _, allowed, afterAllowed⟩ := bind_eq_returned afterRead
    obtain ⟨_, rfl⟩ := require_eq_returned allowed
    cases afterAllowed
    exact .add rfl

theorem stageBatch_step (clusterId runId : Nat) (changes : List PlannedChange)
    (database : Database) :
    AssignmentStep database ((stageBatch clusterId runId changes).perform database) := by
  refine committed_cases _ (.refl _) fun staged after ran => ?_
  have moves : Moves (StageStep True) (stageBatchChanges clusterId runId changes) :=
    stageBatchChanges_moves clusterId runId changes fun _ _ _ => trivial
  have kept : ∀ {reached}, Relation.ReflTransGen (StageStep True) database reached →
      AssignmentStep database reached := by
    intro reached steps
    induction steps with
    | refl => exact .refl _
    | tail _ step ih => exact ih.trans (.of_stage step)
  have reached := moves database
  rw [ran] at reached
  exact kept reached

/-- A statement on the assignments keeps the clusters, and the identifiers distinct. -/
theorem perform_step (write : AssignmentWrite) (database : Database) :
    AssignmentStep database (write.perform database) := by
  cases write with
  | upsert clusterId nodeId role config => exact upsert_step clusterId nodeId role config database
  | updateConfig assignmentId config | restoreConfig assignmentId config =>
      refine .map (fun row => ?_) database
      split <;> rfl
  | setImageVersion assignmentId version =>
      refine .map (fun row => ?_) database
      split <;> rfl
  | stageBatch clusterId runId changes => exact stageBatch_step clusterId runId changes database
  | finalizeBatch runId changes =>
      refine .settle ?_ (by rw [perform, finalizeBatch_eq]) fun row result settles => ?_
      · rw [perform, finalizeBatch_eq]
      · rcases settleRow_cases settles with rfl | ⟨change, _, _, isFinal⟩
        · rfl
        · exact finalizedRow_id isFinal
  | releaseBatch runId changes =>
      refine .settle ?_ (by rw [perform, releaseBatch_eq]) fun row result settles => ?_
      · rw [perform, releaseBatch_eq]
      · rcases settleRow_cases settles with rfl | ⟨change, _, _, isReleased⟩
        · rfl
        · rw [releasedRow_cases isReleased]
  | claimOperations assignmentIds runId =>
      refine committed_cases _ (.refl _) fun claimed after ran => ?_
      simp only [WorkloadStore.claimOperations] at ran
      split at ran
      · cases ran
        exact .refl _
      · cases ran
        refine .map (fun row => ?_) database
        split <;> rfl
  | clearOperationForNode nodeId runId =>
      refine .map (fun row => ?_) database
      split <;> rfl
  | claim assignmentId expectedRevision runId =>
      refine .map (fun row => ?_) database
      simp only [claimFor]
      split <;> rfl
  | release assignmentId runId =>
      refine .map (fun row => ?_) database
      split <;> rfl
  | delete assignmentId => exact .drop _ database

end AssignmentWrite

/-! ### What a listing adopts -/

/-- Assets stay, and those that are added are allowed. -/
structure Ensured (allowed : CertificateAsset → Prop) (before after : List CertificateAsset) :
    Prop where
  kept : before ⊆ after
  added : ∀ asset ∈ after, asset ∈ before ∨ allowed asset

namespace Ensured

open CertificateRepository

variable {allowed : CertificateAsset → Prop}

theorem refl (assets : List CertificateAsset) : Ensured allowed assets assets :=
  ⟨fun _ member => member, fun _ member => .inl member⟩

theorem trans {first second third : List CertificateAsset} (earlier : Ensured allowed first second)
    (later : Ensured allowed second third) : Ensured allowed first third := by
  refine ⟨List.Subset.trans earlier.kept later.kept, fun asset member => ?_⟩
  rcases later.added asset member with present | isAllowed
  · exact earlier.added asset present
  · exact .inr isAllowed

theorem ensure {asset : CertificateAsset} (isAllowed : allowed asset)
    (assets : List CertificateAsset) : Ensured allowed assets (ensureAsset asset assets) := by
  rw [ensureAsset]
  split
  · exact .refl assets
  · refine ⟨List.subset_append_left _ _, fun other member => ?_⟩
    rcases List.mem_append.mp member with present | isNew
    · exact .inl present
    · rw [List.mem_singleton.mp isNew]
      exact .inr isAllowed

theorem foldl {α : Type} {step : List CertificateAsset → α → List CertificateAsset} (items : List α)
    (ensured : ∀ item ∈ items, ∀ assets, Ensured allowed assets (step assets item))
    (assets : List CertificateAsset) : Ensured allowed assets (items.foldl step assets) := by
  induction items generalizing assets with
  | nil => exact .refl assets
  | cons item items ih =>
      have first := ensured item List.mem_cons_self assets
      exact first.trans (ih (fun other member => ensured other (List.mem_cons_of_mem _ member)) _)

end Ensured

namespace CertificateLifecycle

open CertificateRepository CertificateWorld

/-- What a listing of a cluster adopts. -/
def Adopted (database : Database) (cluster : ClusterRow) (asset : CertificateAsset) : Prop :=
  (∃ domain, asset = sharedAuthority cluster domain) ∨
    ∃ row ∈ activeForCluster database cluster.id, ∃ purpose,
      asset = assignmentAsset database cluster row purpose

theorem adoptLegacy_ensured (database : Database) (cluster : ClusterRow)
    (assets : List CertificateAsset) :
    Ensured (Adopted database cluster) assets (adoptLegacy database cluster assets) := by
  have shared : Ensured (Adopted database cluster) assets (TrustDomainKind.all.foldl
      (fun assets domain => ensureAsset (sharedAuthority cluster domain) assets) assets) :=
    .foldl _ (fun domain _ assets => .ensure (.inl ⟨domain, rfl⟩) assets) _
  refine shared.trans (.foldl _ (fun row member assets => ?_) _)
  exact .foldl _ (fun purpose _ assets => .ensure (.inr ⟨row, member, purpose, rfl⟩) assets) _

/-- A listing that returns has adopted the files of an existing cluster. -/
theorem listAssets_returned {clusterId : Nat} {world after : CertificateWorld}
    {items : List CertificateAsset}
    (ran : (listAssets clusterId).run world = (.returned items, after)) :
    ∃ cluster, world.database.cluster? clusterId = some cluster ∧
      after = { world with assets := adoptLegacy world.database cluster world.assets } ∧
      items = after.assets.filter (·.clusterId = clusterId) := by
  obtain ⟨found, _, wasRead, matched⟩ := bind_eq_returned ran
  cases wasRead
  dsimp only at matched
  split at matched
  · cases matched
  · rename_i cluster isFound
    cases matched
    exact ⟨cluster, isFound, rfl, rfl⟩

theorem listAssets_run {clusterId : Nat} {world : CertificateWorld} {cluster : ClusterRow}
    (found : world.database.cluster? clusterId = some cluster) :
    (listAssets clusterId).run world =
      (.returned ((adoptLegacy world.database cluster world.assets).filter
        (·.clusterId = clusterId)),
        { world with assets := adoptLegacy world.database cluster world.assets }) := by
  simp [listAssets, run_bind, found]

end CertificateLifecycle

/-! ### The invariant -/

namespace CertificateWorld

open CertificateLifecycle

variable {world after : CertificateWorld}

theorem Good.adopt (good : world.Good) (unique : world.database.assignmentIds.Nodup)
    {cluster : ClusterRow} {clusterId : Nat}
    (found : world.database.cluster? clusterId = some cluster) :
    Good { world with assets := adoptLegacy world.database cluster world.assets } := by
  intro asset member isCluster row rowMember isActive isOwner
  rcases (adoptLegacy_ensured world.database cluster world.assets).added asset member with
    present | ⟨domain, rfl⟩ | ⟨adopted, adoptedMember, purpose, rfl⟩
  · exact good asset present isCluster row rowMember isActive isOwner
  · cases isOwner
  · obtain ⟨isRow, inCluster⟩ := List.mem_filter.mp adoptedMember
    have sameId : adopted.id = row.id := AssetOwner.assignment.inj isOwner
    obtain rfl := List.inj_on_of_nodup_map unique isRow rowMember sameId
    have isId : cluster.id = clusterId := by simpa using List.find?_some found
    have isSlug : slug world.database adopted.clusterId = cluster.slug := by
      have sameCluster : adopted.clusterId = clusterId := by
        rw [← isId]
        exact of_decide_eq_true (Bool.and_eq_true_iff.mp inCluster).1
      rw [slug, sameCluster, found]
      rfl
    refine ⟨⟨_, rfl⟩, ?_⟩
    rw [isSlug]
    rfl

theorem slug_of_step {database reached : Database} (step : AssignmentStep database reached)
    (clusterId : Nat) : slug reached clusterId = slug database clusterId := by
  rw [slug, slug, Database.cluster?, Database.cluster?, step.clusters]

theorem Good.write (good : world.Good) {write : AssignmentWrite}
    (fresh : world.Fresh (.write write)) : (world.perform (.write write)).Good := by
  have step := write.perform_step world.database
  intro asset member isCluster row rowMember isActive isOwner
  have wasCluster : (world.database.cluster? asset.clusterId).isSome := by
    rw [Database.cluster?] at isCluster ⊢
    rwa [← step.clusters]
  have located : Locates world.database asset row := by
    by_cases before : ActiveBefore world.database row
    · obtain ⟨former, formerMember, sameId, wasActive, sameCluster, sameNode, sameRole⟩ := before
      obtain ⟨⟨name, isNode⟩, isPath⟩ :=
        good asset member wasCluster former formerMember wasActive (sameId ▸ isOwner)
      refine ⟨⟨name, sameNode ▸ isNode⟩, ?_⟩
      rw [isPath, sameCluster, certificatePath, certificatePath, workloadName, workloadName,
        sameRole, sameNode]
    · exact fresh row rowMember isActive before asset member wasCluster isOwner
  refine ⟨located.1, ?_⟩
  rw [located.2]
  exact congrArg (fun text => certificatePath text row) (slug_of_step step row.clusterId).symm

/-- A good state lists located assets, and stays good. -/
theorem Good.listed (good : world.Good) (unique : world.database.assignmentIds.Nodup)
    {clusterId : Nat} {items : List CertificateAsset}
    (ran : (listAssets clusterId).run world = (.returned items, after)) :
    after.Good ∧ after.database = world.database ∧ ∀ asset ∈ items, after.Located asset := by
  obtain ⟨cluster, found, rfl, rfl⟩ := listAssets_returned ran
  have adopted := good.adopt unique found
  refine ⟨adopted, rfl, fun asset member => ?_⟩
  obtain ⟨present, inCluster⟩ := List.mem_filter.mp member
  have isCluster : asset.clusterId = clusterId := by simpa using inCluster
  exact adopted asset present (by rw [isCluster, found]; rfl)

theorem Good.refreshed (good : world.Good) (unique : world.database.assignmentIds.Nodup)
    {clusterId : Nat} {items : List CertificateAsset}
    (ran : (CertificateLifecycle.refresh clusterId).run world = (.returned items, after)) :
    after.Good ∧ after.database = world.database ∧ ∀ asset ∈ items, after.Located asset := by
  obtain ⟨_, between, firstRan, secondRan⟩ := bind_eq_returned ran
  obtain ⟨betweenGood, sameDatabase, _⟩ := good.listed unique firstRan
  obtain ⟨afterGood, same, located⟩ :=
    betweenGood.listed (by rw [sameDatabase]; exact unique) secondRan
  exact ⟨afterGood, same.trans sameDatabase, located⟩

theorem Good.listingLocated (good : world.Good) (unique : world.database.assignmentIds.Nodup)
    (clusterId : Nat) : world.ListingLocated clusterId := by
  rintro items after (listed | refreshed)
  · exact (good.listed unique listed).2.2
  · exact (good.refreshed unique refreshed).2.2

/-- A listing that raises changes nothing. -/
theorem listAssets_cases (world : CertificateWorld) (clusterId : Nat) :
    ((listAssets clusterId).run world).2 = world ∨
      ∃ items after, (listAssets clusterId).run world = (.returned items, after) := by
  cases found : world.database.cluster? clusterId with
  | none =>
      left
      simp [listAssets, run_bind, found]
  | some cluster => exact .inr ⟨_, _, listAssets_run found⟩

theorem Good.list (good : world.Good) (unique : world.database.assignmentIds.Nodup)
    (clusterId : Nat) :
    Good ((listAssets clusterId).run world).2 ∧
      ((listAssets clusterId).run world).2.database = world.database := by
  rcases listAssets_cases world clusterId with same | ⟨items, after, ran⟩
  · rw [same]
    exact ⟨good, rfl⟩
  · rw [ran]
    obtain ⟨afterGood, same, _⟩ := good.listed unique ran
    exact ⟨afterGood, same⟩

/-- The second listing starts where the first one ended. -/
theorem refresh_cases (world : CertificateWorld) (clusterId : Nat) :
    let between := ((listAssets clusterId).run world).2
    ((CertificateLifecycle.refresh clusterId).run world).2 = between ∨
      ((CertificateLifecycle.refresh clusterId).run world).2 =
        ((listAssets clusterId).run between).2 := by
  simp only [CertificateLifecycle.refresh, run_bind]
  rcases (listAssets clusterId).run world with ⟨outcome, between⟩
  cases outcome with
  | returned items => exact .inr rfl
  | raised error => exact .inl rfl
  | stopped => exact .inl rfl

theorem Good.performed (good : world.Good) (unique : world.database.assignmentIds.Nodup)
    {action : CertificateAction} (fresh : world.Fresh action) :
    (world.perform action).Good ∧ (world.perform action).database.assignmentIds.Nodup := by
  cases action with
  | write write => exact ⟨good.write fresh, (write.perform_step world.database).ids unique⟩
  | list clusterId =>
      obtain ⟨isGood, same⟩ := good.list unique clusterId
      exact ⟨isGood, same ▸ unique⟩
  | refresh clusterId =>
      obtain ⟨betweenGood, sameBetween⟩ := good.list unique clusterId
      have betweenUnique : ((listAssets clusterId).run world).2.database.assignmentIds.Nodup :=
        sameBetween ▸ unique
      rcases refresh_cases world clusterId with once | twice
      · rw [perform, once]
        exact ⟨betweenGood, betweenUnique⟩
      · obtain ⟨isGood, same⟩ := betweenGood.list betweenUnique clusterId
        rw [perform, twice]
        exact ⟨isGood, same ▸ betweenUnique⟩

/-- Where every listing would be located, an assignment becomes active under a fresh
identifier only. -/
theorem fresh_of_located {action : CertificateAction}
    (located : ∀ clusterId, (world.perform action).ListingLocated clusterId) :
    world.Fresh action := by
  cases action with
  | list clusterId => trivial
  | refresh clusterId => trivial
  | write write =>
      intro row rowMember isActive _ asset member isCluster isOwner
      have step := write.perform_step world.database
      obtain ⟨cluster, found⟩ := Option.isSome_iff_exists.mp isCluster
      have foundAfter : (world.perform (.write write)).database.cluster? asset.clusterId =
          some cluster := by
        rw [← found, Database.cluster?, Database.cluster?]
        exact congrArg (List.find? _) step.clusters
      have adopted := adoptLegacy_ensured (world.perform (.write write)).database cluster
        world.assets
      have listed := located asset.clusterId _ _ (.inl (listAssets_run foundAfter)) asset
        (List.mem_filter.mpr ⟨adopted.kept member, by simp⟩)
      obtain ⟨isNode, isPath⟩ := listed row rowMember isActive isOwner
      refine ⟨isNode, isPath.trans ?_⟩
      exact congrArg (fun text => certificatePath text row) (slug_of_step step row.clusterId)

theorem located_performAll_iff (good : world.Good) (unique : world.database.assignmentIds.Nodup)
    (actions : List CertificateAction) :
    (∀ earlier, earlier <+: actions →
        ∀ clusterId, (world.performAll earlier).ListingLocated clusterId) ↔
      world.EachFresh actions := by
  induction actions generalizing world with
  | nil =>
      refine ⟨fun _ => trivial, fun _ earlier isPrefix => ?_⟩
      rw [List.prefix_nil.mp isPrefix]
      exact good.listingLocated unique
  | cons action actions ih =>
      constructor
      · intro located
        have fresh : world.Fresh action := fresh_of_located (located [action] (by simp))
        obtain ⟨laterGood, laterUnique⟩ := good.performed unique fresh
        refine ⟨fresh, (ih laterGood laterUnique).mp fun earlier isPrefix => ?_⟩
        exact located (action :: earlier) (by simpa using isPrefix)
      · rintro ⟨fresh, others⟩ earlier isPrefix
        obtain ⟨laterGood, laterUnique⟩ := good.performed unique fresh
        cases earlier with
        | nil => exact good.listingLocated unique
        | cons first earlier =>
            obtain ⟨rfl, isRest⟩ := List.cons_prefix_cons.mp isPrefix
            exact (ih laterGood laterUnique).mpr others earlier isRest

end CertificateWorld

/-- In every state of a run each listing returns assets that name the host and the path of
their assignments, exactly when no assignment becomes active under an identifier for which
the asset of another one is stored. -/
theorem assets_located_iff (start : CertificateWorld) (actions : List CertificateAction)
    (good : start.Good) (unique : start.database.assignmentIds.Nodup) :
    (∀ earlier, earlier <+: actions →
        ∀ clusterId, (start.performAll earlier).ListingLocated clusterId) ↔
      start.EachFresh actions :=
  CertificateWorld.located_performAll_iff good unique actions

namespace CertificateSample

/-- Two hosts of one cluster, and no workload. -/
def world : CertificateWorld where
  database := { Database.empty with
    nodes := [⟨1, "first", true⟩, ⟨2, "second", true⟩]
    clusters := [⟨1, "logs", "logs", true⟩]
    memberships := [(1, 1), (1, 2)] }
  assets := []

/-- A master moves to the second host between two listings. -/
def moved : List CertificateAction :=
  [.write (.upsert 1 1 .master []), .list 1, .write (.delete 1),
    .write (.upsert 1 2 .master []), .list 1]

/-- The master stays in place. -/
def kept : List CertificateAction :=
  [.write (.upsert 1 1 .master []), .list 1, .write (.upsert 1 1 .master []), .refresh 1]

theorem world_good : world.Good := by
  intro asset member
  cases member

end CertificateSample

theorem assets_located_kept :
    (CertificateSample.world.performAll CertificateSample.kept).ListingLocated 1 := by
  refine (assets_located_iff _ CertificateSample.kept CertificateSample.world_good
    (by decide +kernel)).mpr ⟨?_, trivial, ?_, trivial, trivial⟩ _ (List.prefix_refl _) 1
  · intro row _ _ _ asset member
    cases member
  · intro row member _ isNew
    have rows : ((AssignmentWrite.upsert 1 1 .master []).perform
        (CertificateSample.world.performAll (CertificateSample.kept.take 2)).database).assignments =
        [WorkloadStore.addedRow 1 1 1 .master []] := by
      decide +kernel
    have listed : row ∈ [WorkloadStore.addedRow 1 1 1 .master []] := rows ▸ member
    rw [List.mem_singleton.mp listed] at isNew
    refine absurd ?_ isNew
    unfold CertificateWorld.ActiveBefore
    decide +kernel

/-- The master on the second host gets the identifier and the asset of the one that was removed. -/
theorem asset_of_removed_assignment :
    ¬ ∀ (start : CertificateWorld) (actions : List CertificateAction), start.Good →
      start.database.assignmentIds.Nodup → ∀ earlier, earlier <+: actions →
        ∀ clusterId, (start.performAll earlier).ListingLocated clusterId := by
  intro always
  have located := always _ CertificateSample.moved CertificateSample.world_good
    (by decide +kernel) _ (List.prefix_refl _) 1
  have found : (CertificateSample.world.performAll CertificateSample.moved).database.cluster? 1 =
      some ⟨1, "logs", "logs", true⟩ := by
    decide +kernel
  have stale := located _ _ (.inl (CertificateLifecycle.listAssets_run found))
    ⟨1, .elasticsearchTransport, .assignment 1, "elasticsearch_transport",
      ⟨some (1, "first"),
        "/etc/elastic-control/clusters/logs/workloads/ecp-logs-master-1/certs/node.crt"⟩⟩
    (by decide +kernel) (WorkloadStore.addedRow 1 2 1 .master []) (by decide +kernel) rfl rfl
  obtain ⟨⟨name, isNode⟩, _⟩ := stale
  cases isNode

end ElKeeper
