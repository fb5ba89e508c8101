import ElKeeper.MaintenanceLocks
import ElKeeper.ProgramSimulation
import ElKeeper.OrderedTimestamps
import Mathlib.Data.Prod.Lex
import Mathlib.Data.String.Basic

/-!
# The lock table as it is stored

The rows of `maintenance_locks` hold their moments as texts, which SQL compares and Python
reads.  Calls on the rows, with aware clock readings that can leave the calendar, simulate
the calls on locks that expire at instants.
-/

namespace ElKeeper

/-- A row of `maintenance_locks`, without the observation of its release. -/
structure LockRow where
  id : Nat
  scopeKind : LockScope
  scopeId : String
  ownerPlanId : String
  runId : Option Nat
  ownerToken : String
  acquiredAt : List Char
  heartbeatAt : List Char
  expiresAt : List Char
  releasedAt : Option (List Char)
  staleReleasedAt : Option (List Char)
  releaseReason : Option String
  recoveredBy : Option String
deriving DecidableEq

namespace LockRow

def active (row : LockRow) : Bool :=
  row.releasedAt.isNone

def scope (row : LockRow) : LockRequest :=
  (row.scopeKind, row.scopeId)

def covers (row : LockRow) (request : LockRequest) : Bool :=
  row.scopeKind = request.1 && row.scopeId = request.2 && row.active

def heldWith (row : LockRow) (ownerToken : String) : Bool :=
  row.ownerToken = ownerToken && row.active

/-- `LockRecord.expired`; a text that is no timestamp raises. -/
def expired (row : LockRow) (now : AwareTimestamp) : Option Bool :=
  (parseTimestamp row.expiresAt).map (·.instant ≤ now.instant)

end LockRow

/-- The lock table with the tables it refers to. -/
structure LockTable where
  database : Database
  rows : List LockRow
  lockCounter : Nat

/-- What a call on the lock table raises. -/
inductive LockError where
  | fault (fault : Fault)
  | overflow
  | malformed
deriving DecidableEq

namespace AwareTimestamp

/-- `self + timedelta(seconds=seconds)`, on the clock of the same zone. -/
def later (timestamp : AwareTimestamp) (seconds : Nat) : Option AwareTimestamp :=
  (DateTime.ofInstant (timestamp.wall.instant + seconds * 1000000)).map (⟨·, timestamp.offset⟩)

theorem instant_later {timestamp moment : AwareTimestamp} {seconds : Nat}
    (reached : timestamp.later seconds = some moment) :
    moment.instant = timestamp.instant + seconds * 1000000 := by
  obtain ⟨wall, found, rfl⟩ := Option.map_eq_some_iff.mp reached
  have atInstant := (DateTime.ofInstant_eq_some_iff _ _).mp found
  simp only [instant, atInstant]
  omega

end AwareTimestamp

namespace LockTable

open Program

abbrev Call (α : Type) :=
  Program LockTable LockError α

def mapRows (change : LockRow → LockRow) (table : LockTable) : LockTable :=
  { table with rows := table.rows.map change }

def addRow (row : LockRow) (table : LockTable) : LockTable :=
  { table with
    rows := table.rows ++ [row]
    lockCounter := table.lockCounter + 1 }

def fails {α : Type} (kind : FaultKind) (message : String) : Call α :=
  raise (.fault ⟨kind, message⟩)

def requires (condition : Bool) (kind : FaultKind) (message : String) : Call Unit :=
  require condition (.fault ⟨kind, message⟩)

/-- `iso_timestamp` of a moment that may be out of the calendar. -/
def timestamp (moment : Option AwareTimestamp) : Call (List Char) :=
  match moment.bind isoTimestamp with
  | some text => pure text
  | none => raise .overflow

/-- The answer of `LockRecord.expired`. -/
def expired (answer : Option Bool) : Call Bool :=
  match answer with
  | some answer => pure answer
  | none => raise .malformed

/-- `any(lock.expired(current_time) for lock in locks)`. -/
def anyExpired (now : AwareTimestamp) : List LockRow → Option Bool
  | [] => some false
  | row :: rows =>
      match row.expired now with
      | some true => some true
      | some false => anyExpired now rows
      | none => none

/-- `get_lock`. -/
def getLock (lockId : Nat) : Call LockRow := do
  match ← read fun table => table.rows.find? (·.id = lockId) with
  | some row => pure row
  | none => fails .recordNotFound ("Maintenance lock " ++ toString lockId ++ " was not found")

/-- The rows of `list_active_locks` in the order of their scopes. -/
def activeRows (table : LockTable) : List LockRow :=
  (table.rows.filter (·.active)).insertionSort fun first second =>
    LockRequest.le first.scope second.scope

/-- The owner of new rows and their moments. -/
structure Owner where
  planId : String
  runId : Option Nat
  token : String
  now : AwareTimestamp
  acquiredAt : List Char
  expiresAt : List Char

/-- The foreign keys of a new row. -/
def Owner.known (owner : Owner) (table : LockTable) : Bool :=
  (table.database.plan? owner.planId).isSome &&
    owner.runId.all fun runId => (table.database.run? runId).isSome

def acquireLock (owner : Owner) (request : LockRequest) : Call LockRow := do
  match ← read fun table => table.rows.find? (·.covers request) with
  | some existing => do
      let isExpired ← expired (existing.expired owner.now)
      requires (!isExpired) .staleLockRequiresRecovery
        ("Expired " ++ request.1.value ++ " lock " ++ request.2 ++
          " requires rediscovery before release")
      requires (existing.ownerPlanId = owner.planId && existing.ownerToken = owner.token)
        .lockConflict ("Active " ++ request.1.value ++ " lock already covers " ++ request.2)
      pure existing
  | none => do
      let known ← read owner.known
      requires known .lockConflict "A maintenance lock was acquired concurrently"
      let identifier ← read fun table => table.lockCounter + 1
      let row : LockRow :=
        { id := identifier
          scopeKind := request.1
          scopeId := request.2
          ownerPlanId := owner.planId
          runId := owner.runId
          ownerToken := owner.token
          acquiredAt := owner.acquiredAt
          heartbeatAt := owner.acquiredAt
          expiresAt := owner.expiresAt
          releasedAt := none
          staleReleasedAt := none
          releaseReason := none
          recoveredBy := none }
      update (addRow row)
      pure row

def acquireEach (owner : Owner) : List LockRequest → Call (List LockRow)
  | [] => pure []
  | request :: requests => do
      let row ← acquireLock owner request
      let rows ← acquireEach owner requests
      pure (row :: rows)

/-- `acquire_locks`; `generated` is the token that is drawn when none is given. -/
def acquireLocks (requests : List LockRequest) (ownerPlanId : String) (runId : Option Nat)
    (ttlSeconds : Nat) (ownerToken : Option String) (generated : String)
    (now : AwareTimestamp) : Call (List LockRow) := do
  requires (0 < ttlSeconds) .valueError "ttl_seconds must be positive"
  let scopes := requests.dedup.insertionSort fun first second => LockRequest.le first second
  requires (scopes ≠ []) .valueError "At least one lock scope is required"
  let acquiredAt ← timestamp now
  let expiresAt ← timestamp (now.later ttlSeconds)
  let owner : Owner :=
    { planId := ownerPlanId
      runId := runId
      token := if ownerToken.any (· ≠ "") then ownerToken.getD generated else generated
      now := now
      acquiredAt := acquiredAt
      expiresAt := expiresAt }
  atomically (acquireEach owner scopes)

/-- The rows of a token, which must be there and not be expired. -/
def requireHeld (ownerToken : String) (now : AwareTimestamp) (purpose : String) :
    Call Unit := do
  let held ← read fun table => table.activeRows.filter (·.ownerToken = ownerToken)
  requires (held ≠ []) .lockOwnership "No active maintenance locks belong to the owner token"
  let isExpired ← expired (anyExpired now held)
  requires (!isExpired) .staleLockRequiresRecovery
    ("An expired maintenance lock requires rediscovery before " ++ purpose)

/-- `heartbeat_locks`. -/
def heartbeatLocks (ownerToken : String) (ttlSeconds : Nat) (now : AwareTimestamp) :
    Call (List LockRow) := do
  requires (0 < ttlSeconds) .valueError "ttl_seconds must be positive"
  requireHeld ownerToken now "heartbeat"
  let heartbeatAt ← timestamp now
  let expiresAt ← timestamp (now.later ttlSeconds)
  update (mapRows fun row =>
    if row.heldWith ownerToken then
      { row with
        heartbeatAt := heartbeatAt
        expiresAt := expiresAt }
    else row)
  read fun table => table.activeRows.filter (·.ownerToken = ownerToken)

/-- `release_locks`: the number of released rows. -/
def releaseLocks (ownerToken reason : String) (now : AwareTimestamp) : Call Nat := do
  requireHeld ownerToken now "release"
  let releasedAt ← timestamp now
  let released ← read fun table => (table.rows.filter (·.heldWith ownerToken)).length
  update (mapRows fun row =>
    if row.heldWith ownerToken then
      { row with
        releasedAt := some releasedAt
        releaseReason := some reason }
    else row)
  pure released

/-- `recover_stale_lock`; a row that is released meanwhile would be none of the changed ones. -/
def recoverStaleLock (lockId : Nat) (observation : Dict) (recoveredBy reason : String)
    (now : AwareTimestamp) : Call LockRow := do
  requires (observation ≠ []) .valueError "Stale lock release requires rediscovery evidence"
  let row ← getLock lockId
  requires (row.releasedAt.all (· = [])) .lockOwnership "Maintenance lock is already released"
  let isExpired ← expired (row.expired now)
  requires isExpired .lockConflict "A non-expired maintenance lock cannot be recovered"
  let releasedAt ← timestamp now
  let changed ← read fun table => table.rows.countP fun other => other.id = lockId && other.active
  update (mapRows fun other =>
    if other.id = lockId ∧ other.active then
      { other with
        releasedAt := some releasedAt
        staleReleasedAt := some releasedAt
        releaseReason := some reason
        recoveredBy := some recoveredBy }
    else other)
  requires (changed = 1) .lockOwnership "Maintenance lock was released concurrently"
  getLock lockId

/-- `ORDER BY expires_at,scope_kind,scope_id`. -/
def staleLe (first second : LockRow) : Bool :=
  first.expiresAt < second.expiresAt ||
    (first.expiresAt = second.expiresAt && LockRequest.le first.scope second.scope)

/-- `list_stale_locks`: the texts are compared. -/
def listStaleLocks (now : AwareTimestamp) : Call (List LockRow) := do
  let text ← timestamp now
  read fun table =>
    (table.rows.filter fun row => row.active && row.expiresAt ≤ text).insertionSort
      fun first second => staleLe first second

end LockTable

/-! ### Rows and locks -/

/-- The stored text of the reading at an instant. -/
def Written (text : List Char) (instant : Nat) : Prop :=
  ∃ moment : DateTime, text = Iso.microseconds moment ++ ['Z'] ∧ moment.instant = instant

theorem Written.of_timestamp {value : AwareTimestamp} {text : List Char}
    (written : isoTimestamp value = some text) :
    Written text value.instant.toNat ∧ 0 ≤ value.instant := by
  obtain ⟨moment, atInstant, rfl⟩ := isoTimestamp_eq_some_iff.mp written
  exact ⟨⟨moment, rfl, by omega⟩, by omega⟩

theorem Written.parse {text : List Char} {instant : Nat} (written : Written text instant) :
    ∃ read, parseTimestamp text = some read ∧ read.instant = instant := by
  obtain ⟨moment, rfl, rfl⟩ := written
  exact ⟨⟨moment, 0⟩, parseTimestamp_microseconds moment, AwareTimestamp.instant_utc moment⟩

theorem Written.ne_nil {text : List Char} {instant : Nat} (written : Written text instant) :
    text ≠ [] := by
  obtain ⟨moment, rfl, -⟩ := written
  simp

/-- Texts are in the order of the instants that they stand for. -/
theorem Written.lt_iff {text other : List Char} {instant later : Nat}
    (written : Written text instant) (otherWritten : Written other later) :
    text < other ↔ instant < later := by
  obtain ⟨moment, rfl, rfl⟩ := written
  obtain ⟨second, rfl, rfl⟩ := otherWritten
  rw [Iso.microseconds_lt_iff, DateTime.precedes_iff]

theorem Written.le_iff {text other : List Char} {instant later : Nat}
    (written : Written text instant) (otherWritten : Written other later) :
    text ≤ other ↔ instant ≤ later := by
  rw [← not_lt, ← not_lt, otherWritten.lt_iff written]

/-- The row stores the lock. -/
structure LockRow.Stores (row : LockRow) (lock : LockRecord) : Prop where
  id : row.id = lock.id
  scope : row.scope = (lock.scope, lock.identifier)
  ownerPlanId : row.ownerPlanId = lock.ownerPlanId
  runId : row.runId = lock.runId
  ownerToken : row.ownerToken = lock.ownerToken
  expiresAt : Written row.expiresAt lock.expiresAt
  releasedAt : Option.Rel Written row.releasedAt lock.releasedAt

namespace LockRow.Stores

variable {row : LockRow} {lock : LockRecord}

theorem active (stores : row.Stores lock) : row.active = lock.active := by
  have released := stores.releasedAt
  unfold LockRow.active LockRecord.active
  generalize row.releasedAt = text at released ⊢
  generalize lock.releasedAt = instant at released ⊢
  cases released with
  | some related => rfl
  | none => rfl

theorem covers (stores : row.Stores lock) (request : LockRequest) :
    row.covers request = lock.covers request := by
  obtain ⟨kind, identifier⟩ := Prod.mk.inj stores.scope
  rw [LockRow.covers, LockRecord.covers, stores.active, kind, identifier]

theorem heldWith (stores : row.Stores lock) (ownerToken : String) :
    row.heldWith ownerToken = lock.heldWith ownerToken := by
  rw [LockRow.heldWith, LockRecord.heldWith, stores.active, stores.ownerToken]

/-- Python reads the expiry that the lock has. -/
theorem expired (stores : row.Stores lock) {now : AwareTimestamp} (positive : 0 ≤ now.instant) :
    row.expired now = some (lock.expired now.instant.toNat) := by
  obtain ⟨read, parsed, atInstant⟩ := stores.expiresAt.parse
  have same : read.instant ≤ now.instant ↔ lock.expiresAt ≤ now.instant.toNat := by omega
  simp [LockRow.expired, LockRecord.expired, parsed, same]

end LockRow.Stores

/-- The table stores the locks of the database; its keys are unique and counted up. -/
structure LockTable.Represents (table : LockTable) (database : Database) : Prop where
  rows : List.Forall₂ LockRow.Stores table.rows database.locks
  lockCounter : table.lockCounter = database.lockCounter
  plans : table.database.plans = database.plans
  runs : table.database.runs = database.runs
  distinct : (table.rows.map (·.id)).Nodup
  counted : ∀ row ∈ table.rows, row.id ≤ table.lockCounter

namespace LockTable

open Program

/-- Related lists have related first elements of a kind. -/
theorem find?_related {α β : Type} {related : α → β → Prop} {chosen : α → Bool}
    {otherChosen : β → Bool} (agree : ∀ item other, related item other →
      chosen item = otherChosen other) {items : List α} {others : List β}
    (all : List.Forall₂ related items others) :
    Option.Rel related (items.find? chosen) (others.find? otherChosen) := by
  induction all with
  | nil => exact .none
  | cons same _ ih =>
      rw [List.find?_cons, List.find?_cons, agree _ _ same]
      split
      · exact .some same
      · exact ih

theorem filter_related {α β : Type} {related : α → β → Prop} {chosen : α → Bool}
    {otherChosen : β → Bool} (agree : ∀ item other, related item other →
      chosen item = otherChosen other) {items : List α} {others : List β}
    (all : List.Forall₂ related items others) :
    List.Forall₂ related (items.filter chosen) (others.filter otherChosen) := by
  induction all with
  | nil => exact .nil
  | cons same _ ih =>
      rw [List.filter_cons, List.filter_cons, agree _ _ same]
      split
      · exact .cons same ih
      · exact ih

theorem mem_related {α β : Type} {related : α → β → Prop} {items : List α} {others : List β}
    (all : List.Forall₂ related items others) : ∀ item ∈ items, ∃ other, related item other := by
  induction all with
  | nil => simp
  | cons same _ ih => exact List.forall_mem_cons.mpr ⟨⟨_, same⟩, ih⟩

/-- The same exception on both sides. -/
def SameFault (error : LockError) (fault : Fault) : Prop :=
  error = .fault fault

/-- The call answers and changes the table as the operation does with the locks it stores. -/
def Carries {α β : Type} (answers : α → β → Prop) (call : Call α)
    (operation : Operation β) : Prop :=
  Simulates Represents SameFault answers call operation

theorem carries_requires (condition : Bool) (kind : FaultKind) (message : String) :
    Carries (fun _ _ => True) (requires condition kind message)
      (require condition ⟨kind, message⟩) :=
  .require trivial rfl

theorem timestamp_of_some {moment : Option AwareTimestamp} {text : List Char}
    (written : moment.bind isoTimestamp = some text) : timestamp moment = pure text := by
  rw [timestamp, written]

theorem timestamp_of_none {moment : Option AwareTimestamp}
    (overflows : moment.bind isoTimestamp = none) : timestamp moment = raise .overflow := by
  rw [timestamp, overflows]

theorem carries_find {chosen : LockRow → Bool} {otherChosen : LockRecord → Bool}
    (agree : ∀ row lock, row.Stores lock → chosen row = otherChosen lock) :
    Carries (Option.Rel LockRow.Stores) (read fun table => table.rows.find? chosen)
      (read fun database => database.locks.find? otherChosen) :=
  .read fun _ _ represents => find?_related agree represents.rows

theorem carries_getLock (lockId : Nat) :
    Carries LockRow.Stores (getLock lockId) (MaintenanceStore.getLock lockId) := by
  refine (carries_find fun row lock stores => by rw [stores.id]).bind fun found lock same => ?_
  cases same with
  | some stores => exact .pure stores
  | none => exact .raise rfl

/-- The owners of new rows and of new locks. -/
structure Owner.Stands (owner : Owner) (other : MaintenanceStore.LockOwner) : Prop where
  planId : owner.planId = other.planId
  runId : owner.runId = other.runId
  token : owner.token = other.token
  positive : 0 ≤ owner.now.instant
  now : owner.now.instant.toNat = other.now
  expiresAt : Written owner.expiresAt other.expiresAt

theorem Owner.Stands.known {owner : Owner} {other : MaintenanceStore.LockOwner}
    (stands : owner.Stands other) {table : LockTable} {database : Database}
    (represents : table.Represents database) : owner.known table = other.known database := by
  simp only [Owner.known, MaintenanceStore.LockOwner.known, Database.plan?, Database.run?,
    stands.planId, stands.runId, represents.plans, represents.runs]

theorem Represents.addRow {table : LockTable} {database : Database}
    (represents : table.Represents database) {row : LockRow} {lock : LockRecord}
    (stores : row.Stores lock) (fresh : row.id = table.lockCounter + 1) :
    (table.addRow row).Represents (database.addLock lock) where
  rows := List.rel_append represents.rows (.cons stores .nil)
  lockCounter := congrArg (· + 1) represents.lockCounter
  plans := represents.plans
  runs := represents.runs
  distinct := by
    rw [LockTable.addRow, List.map_append, List.nodup_append]
    refine ⟨represents.distinct, by simp, ?_⟩
    intro old isOld new isNew
    obtain ⟨other, member, rfl⟩ := List.mem_map.mp isOld
    have bounded := represents.counted other member
    simp only [List.map_cons, List.map_nil, List.mem_singleton] at isNew
    omega
  counted := by
    intro other member
    rcases List.mem_append.mp member with old | new
    · exact (represents.counted other old).trans (Nat.le_succ _)
    · rw [List.mem_singleton.mp new, fresh]
      exact le_rfl

theorem Represents.mapRows {table : LockTable} {database : Database}
    (represents : table.Represents database) {change : LockRow → LockRow}
    {otherChange : LockRecord → LockRecord} (ids : ∀ row, (change row).id = row.id)
    (stores : ∀ row lock, row.Stores lock → (change row).Stores (otherChange lock)) :
    (table.mapRows change).Represents (database.mapLocks otherChange) where
  rows := by
    refine List.forall₂_map_left_iff.mpr (List.forall₂_map_right_iff.mpr ?_)
    exact represents.rows.imp stores
  lockCounter := represents.lockCounter
  plans := represents.plans
  runs := represents.runs
  distinct := by
    have same : (table.mapRows change).rows.map (·.id) = table.rows.map (·.id) := by
      simp [LockTable.mapRows, ids]
    rw [same]
    exact represents.distinct
  counted := by
    intro row member
    obtain ⟨old, isOld, rfl⟩ := List.mem_map.mp member
    rw [ids]
    exact represents.counted old isOld

theorem carries_acquireLock {owner : Owner} {other : MaintenanceStore.LockOwner}
    (stands : owner.Stands other) (request : LockRequest) :
    Carries LockRow.Stores (acquireLock owner request)
      (MaintenanceStore.acquireLock other request) := by
  refine (carries_find fun row lock stores => stores.covers request).bind fun found lock same => ?_
  cases same with
  | some stores =>
      rename_i row lock
      have read : expired (row.expired owner.now) = pure (lock.expired other.now) := by
        rw [stores.expired stands.positive, stands.now]
        rfl
      dsimp only
      rw [read, pure_andThen]
      refine (carries_requires _ _ _).bind fun _ _ _ => ?_
      rw [stores.ownerPlanId, stores.ownerToken, stands.planId, stands.token]
      exact (carries_requires _ _ _).bind fun _ _ _ => .pure stores
  | none =>
      have knows : Carries Eq (read owner.known) (read other.known) :=
        .read fun _ _ represents => stands.known represents
      refine knows.bind fun known _ same => ?_
      rw [← same]
      refine (carries_requires _ _ _).bind fun _ _ _ => ?_
      intro table database represents
      have stores : LockRow.Stores
          { id := table.lockCounter + 1
            scopeKind := request.1
            scopeId := request.2
            ownerPlanId := owner.planId
            runId := owner.runId
            ownerToken := owner.token
            acquiredAt := owner.acquiredAt
            heartbeatAt := owner.acquiredAt
            expiresAt := owner.expiresAt
            releasedAt := none
            staleReleasedAt := none
            releaseReason := none
            recoveredBy := none }
          { id := database.lockCounter + 1
            scope := request.1
            identifier := request.2
            ownerPlanId := other.planId
            runId := other.runId
            ownerToken := other.token
            expiresAt := other.expiresAt
            releasedAt := none } :=
        ⟨congrArg (· + 1) represents.lockCounter, rfl, stands.planId, stands.runId, stands.token,
          stands.expiresAt, .none⟩
      exact ⟨.returned stores, represents.addRow stores rfl⟩

theorem carries_acquireEach {owner : Owner} {other : MaintenanceStore.LockOwner}
    (stands : owner.Stands other) (requests : List LockRequest) :
    Carries (List.Forall₂ LockRow.Stores) (acquireEach owner requests)
      (MaintenanceStore.acquireEach other requests) := by
  induction requests with
  | nil => exact .pure .nil
  | cons request requests ih =>
      refine (carries_acquireLock stands request).bind fun row lock stores => ?_
      exact ih.bind fun rows locks all => .pure (.cons stores all)

/-- The text of the end of the locks, where it can be written. -/
theorem deadline_written {now : AwareTimestamp} {ttlSeconds : Nat} {text deadline : List Char}
    (written : isoTimestamp now = some text)
    (laterWritten : (now.later ttlSeconds).bind isoTimestamp = some deadline) :
    Written deadline (MaintenanceStore.secondsAfter now.instant.toNat ttlSeconds) := by
  obtain ⟨later, reached, isText⟩ := Option.bind_eq_some_iff.mp laterWritten
  have ends := AwareTimestamp.instant_later reached
  have positive := (Written.of_timestamp written).2
  obtain ⟨moment, isDeadline, atInstant⟩ := (Written.of_timestamp isText).1
  refine ⟨moment, isDeadline, ?_⟩
  unfold MaintenanceStore.secondsAfter
  omega

/-- Where the clock and the end of the locks can be written, rows are acquired as locks are. -/
theorem carries_acquireLocks (requests : List LockRequest) (ownerPlanId : String)
    (runId : Option Nat) (ttlSeconds : Nat) (ownerToken : Option String) (generated : String)
    {now : AwareTimestamp} (written : (isoTimestamp now).isSome)
    (laterWritten : ((now.later ttlSeconds).bind isoTimestamp).isSome) :
    Carries (List.Forall₂ LockRow.Stores)
      (acquireLocks requests ownerPlanId runId ttlSeconds ownerToken generated now)
      (MaintenanceStore.acquireLocks requests ownerPlanId runId ttlSeconds ownerToken generated
        now.instant.toNat) := by
  obtain ⟨acquiredAt, isAcquired⟩ := Option.isSome_iff_exists.mp written
  obtain ⟨expiresAt, isExpiry⟩ := Option.isSome_iff_exists.mp laterWritten
  refine (carries_requires _ _ _).bind fun _ _ _ => ?_
  refine (carries_requires _ _ _).bind fun _ _ _ => ?_
  have stamped : timestamp (some now) = pure acquiredAt := timestamp_of_some isAcquired
  rw [stamped, pure_andThen, timestamp_of_some isExpiry, pure_andThen]
  refine (carries_acquireEach ?_ _).atomically
  exact ⟨rfl, rfl, rfl, (Written.of_timestamp isAcquired).2, rfl,
    deadline_written isAcquired isExpiry⟩

/-! ### Rows of a token -/

theorem held_perm (table : LockTable) (ownerToken : String) :
    (table.activeRows.filter (·.ownerToken = ownerToken)).Perm
      (table.rows.filter (·.heldWith ownerToken)) := by
  have sorted := (List.perm_insertionSort
    (fun first second : LockRow => LockRequest.le first.scope second.scope = true)
    (table.rows.filter (·.active))).filter fun row => row.ownerToken = ownerToken
  rw [List.filter_filter] at sorted
  exact sorted

/-- Where every text is a timestamp, the expired rows are found. -/
theorem anyExpired_eq {now : AwareTimestamp} {rows : List LockRow}
    (read : ∀ row ∈ rows, (row.expired now).isSome) :
    anyExpired now rows = some (rows.any fun row => row.expired now = some true) := by
  induction rows with
  | nil => rfl
  | cons row rows ih =>
      obtain ⟨first, others⟩ := List.forall_mem_cons.mp read
      obtain ⟨answer, isAnswer⟩ := Option.isSome_iff_exists.mp first
      rw [anyExpired, isAnswer, List.any_cons, isAnswer, ih others]
      cases answer <;> simp

/-- The rows are those that store the locks, in some order. -/
def Holds (rows : List LockRow) (locks : List LockRecord) : Prop :=
  ∃ stored, rows.Perm stored ∧ List.Forall₂ LockRow.Stores stored locks

theorem Holds.nonempty {rows : List LockRow} {locks : List LockRecord}
    (holds : Holds rows locks) : rows ≠ [] ↔ locks ≠ [] := by
  obtain ⟨stored, perm, all⟩ := holds
  have same := perm.length_eq.trans all.length_eq
  rw [← List.length_pos_iff, ← List.length_pos_iff, same]

theorem Holds.anyExpired {rows : List LockRow} {locks : List LockRecord}
    (holds : Holds rows locks) {now : AwareTimestamp} (positive : 0 ≤ now.instant) :
    anyExpired now rows = some (locks.any (·.expired now.instant.toNat)) := by
  obtain ⟨stored, perm, all⟩ := holds
  have reads : stored.map (·.expired now) =
      locks.map fun lock => some (lock.expired now.instant.toNat) := by
    clear perm
    induction all with
    | nil => rfl
    | cons stores _ ih =>
        rw [List.map_cons, List.map_cons, stores.expired positive, ih]
  have found : stored.any (fun row => row.expired now = some true) =
      locks.any (·.expired now.instant.toNat) := by
    have mapped := congrArg (List.any · (· = some true)) reads
    simpa [List.any_map, Function.comp_def] using mapped
  rw [anyExpired_eq, perm.any_eq, found]
  intro row member
  have answer := List.mem_map_of_mem (f := (·.expired now)) (perm.mem_iff.mp member)
  rw [reads] at answer
  obtain ⟨lock, -, isAnswer⟩ := List.mem_map.mp answer
  rw [← isAnswer]
  rfl

theorem carries_requireHeld (ownerToken : String) {now : AwareTimestamp} (purpose : String)
    (positive : 0 ≤ now.instant) :
    Carries (fun _ _ => True) (requireHeld ownerToken now purpose)
      (MaintenanceStore.requireHeld ownerToken now.instant.toNat purpose) := by
  have reads : Carries Holds
      (read fun table : LockTable => table.activeRows.filter (·.ownerToken = ownerToken))
      (read fun database => database.locks.filter (·.heldWith ownerToken)) :=
    .read fun table _ represents => ⟨_, held_perm table ownerToken,
      filter_related (fun _ _ stores => stores.heldWith ownerToken) represents.rows⟩
  refine reads.bind fun rows locks holds => ?_
  rw [holds.anyExpired positive, expired, pure_andThen]
  rw [decide_eq_decide.mpr holds.nonempty]
  exact (carries_requires _ _ _).bind fun _ _ _ => carries_requires _ _ _

theorem carries_heartbeatLocks (ownerToken : String) (ttlSeconds : Nat) {now : AwareTimestamp}
    (written : (isoTimestamp now).isSome)
    (laterWritten : ((now.later ttlSeconds).bind isoTimestamp).isSome) :
    Carries Holds (heartbeatLocks ownerToken ttlSeconds now)
      (MaintenanceStore.heartbeatLocks ownerToken ttlSeconds now.instant.toNat) := by
  obtain ⟨heartbeatAt, isHeartbeat⟩ := Option.isSome_iff_exists.mp written
  obtain ⟨expiresAt, isExpiry⟩ := Option.isSome_iff_exists.mp laterWritten
  have positive := (Written.of_timestamp isHeartbeat).2
  have ends := deadline_written isHeartbeat isExpiry
  refine (carries_requires _ _ _).bind fun _ _ _ => ?_
  refine (carries_requireHeld ownerToken "heartbeat" positive).bind fun _ _ _ => ?_
  have stamped : timestamp (some now) = pure heartbeatAt := timestamp_of_some isHeartbeat
  rw [stamped, pure_andThen, timestamp_of_some isExpiry, pure_andThen]
  refine Simulates.bind (Simulates.update trivial fun table database represents => ?_ :
    Carries (fun _ _ => True) _ _) fun _ _ _ => ?_
  · refine represents.mapRows (fun row => by split <;> rfl) fun row lock stores => ?_
    rw [stores.heldWith ownerToken]
    split
    · exact ⟨stores.id, stores.scope, stores.ownerPlanId, stores.runId, stores.ownerToken, ends,
        stores.releasedAt⟩
    · exact stores
  · exact .read fun table _ represents => ⟨_, held_perm table ownerToken,
      filter_related (fun _ _ stores => stores.heldWith ownerToken) represents.rows⟩

theorem carries_releaseLocks (ownerToken reason : String) {now : AwareTimestamp}
    (written : (isoTimestamp now).isSome) :
    Carries Eq (releaseLocks ownerToken reason now)
      (MaintenanceStore.releaseLocks ownerToken now.instant.toNat) := by
  obtain ⟨releasedAt, isRelease⟩ := Option.isSome_iff_exists.mp written
  obtain ⟨stored, positive⟩ := Written.of_timestamp isRelease
  refine (carries_requireHeld ownerToken "release" positive).bind fun _ _ _ => ?_
  have stamped : timestamp (some now) = pure releasedAt := timestamp_of_some isRelease
  rw [stamped, pure_andThen]
  have counts : Carries Eq
      (read fun table : LockTable => (table.rows.filter (·.heldWith ownerToken)).length)
      (read fun database => (database.locks.filter (·.heldWith ownerToken)).length) :=
    .read fun _ _ represents => (filter_related (fun _ _ stores => stores.heldWith ownerToken)
      represents.rows).length_eq
  refine counts.bind fun released _ same => ?_
  refine Simulates.bind (Simulates.update trivial fun table database represents => ?_ :
    Carries (fun _ _ => True) _ _) fun _ _ _ => .pure same
  refine represents.mapRows (fun row => by split <;> rfl) fun row lock stores => ?_
  rw [stores.heldWith ownerToken]
  split
  · exact ⟨stores.id, stores.scope, stores.ownerPlanId, stores.runId, stores.ownerToken,
      stores.expiresAt, .some stored⟩
  · exact stores

/-- Of the active rows, one has the key of an active row. -/
theorem Represents.counts_one {table : LockTable} {database : Database}
    (represents : table.Represents database) {lockId : Nat} {row : LockRow}
    (found : table.rows.find? (·.id = lockId) = some row) (active : row.active) :
    table.rows.countP (fun other => other.id = lockId && other.active) = 1 := by
  have member := List.mem_of_find?_eq_some found
  have isId : row.id = lockId := by simpa using List.find?_some found
  have same : ∀ other ∈ table.rows, (other.id = lockId && other.active) = decide (other = row) := by
    intro other isOther
    by_cases equal : other = row
    · simp [equal, isId, active]
    · have differ : other.id ≠ lockId := by
        rw [← isId]
        intro ids
        exact equal (List.inj_on_of_nodup_map represents.distinct isOther member ids)
      simp [equal, differ]
  have once := List.count_eq_one_of_mem (List.Nodup.of_map _ represents.distinct) member
  rw [List.count_eq_countP] at once
  rw [← once]
  apply List.countP_congr
  intro other isOther
  rw [same other isOther]
  simp

theorem Represents.recovered {table : LockTable} {database : Database}
    (represents : table.Represents database) {releasedAt : List Char} {instant : Nat}
    (stored : Written releasedAt instant) (lockId : Nat) (reason recoveredBy : String) :
    (table.mapRows fun other =>
        if other.id = lockId ∧ other.active then
          { other with
            releasedAt := some releasedAt
            staleReleasedAt := some releasedAt
            releaseReason := some reason
            recoveredBy := some recoveredBy }
        else other).Represents
      (database.mapLocks fun other =>
        if other.id = lockId ∧ other.active then { other with releasedAt := some instant }
        else other) := by
  refine represents.mapRows (fun row => by split <;> rfl) fun row lock stores => ?_
  have same : (row.id = lockId ∧ row.active) ↔ (lock.id = lockId ∧ lock.active) := by
    rw [stores.id, stores.active]
  by_cases chosen : row.id = lockId ∧ row.active
  · rw [if_pos chosen, if_pos (same.mp chosen)]
    exact ⟨stores.id, stores.scope, stores.ownerPlanId, stores.runId, stores.ownerToken,
      stores.expiresAt, .some stored⟩
  · rw [if_neg chosen, if_neg (fun other => chosen (same.mpr other))]
    exact stores

theorem carries_recoverStaleLock (lockId : Nat) (observation : Dict)
    (recoveredBy reason : String) {now : AwareTimestamp} (written : (isoTimestamp now).isSome) :
    Carries LockRow.Stores (recoverStaleLock lockId observation recoveredBy reason now)
      (MaintenanceStore.recoverStaleLock lockId observation now.instant.toNat) := by
  obtain ⟨releasedAt, isRelease⟩ := Option.isSome_iff_exists.mp written
  obtain ⟨stored, positive⟩ := Written.of_timestamp isRelease
  have stamped : timestamp (some now) = pure releasedAt := timestamp_of_some isRelease
  refine (carries_requires _ _ _).bind fun _ _ _ => ?_
  intro table database represents
  have related : Option.Rel LockRow.Stores (table.rows.find? (·.id = lockId))
      (database.locks.find? (·.id = lockId)) :=
    find?_related (fun row lock stores => by rw [stores.id]) represents.rows
  rcases found : table.rows.find? (·.id = lockId) with _ | row
  · rw [found] at related
    generalize isFound : database.locks.find? (·.id = lockId) = lock? at related
    cases related
    simp only [getLock, fails, MaintenanceStore.getLock, run_bind, run_read, found, isFound,
      run_raise]
    exact ⟨.raised rfl, represents⟩
  · rw [found] at related
    generalize isFound : database.locks.find? (·.id = lockId) = lock? at related
    cases related with
    | some stores =>
    rename_i lock
    have unreleased : row.releasedAt.all (· = []) = lock.active := by
      rw [← stores.active, LockRow.active]
      have texts := stores.releasedAt
      generalize row.releasedAt = text at texts ⊢
      generalize lock.releasedAt = instant at texts
      cases texts with
      | some related => simp [related.ne_nil]
      | none => rfl
    have reads : (getLock lockId).run table = (.returned row, table) := by
      simp only [getLock, run_bind, run_read, found, run_pure]
    have otherReads : (MaintenanceStore.getLock lockId).run database =
        (.returned lock, database) := by
      simp only [MaintenanceStore.getLock, run_bind, run_read, isFound, run_pure]
    rw [run_bind, reads, run_bind, otherReads]
    dsimp only
    rw [unreleased, stores.expired positive, expired, stamped]
    cases isActive : lock.active with
    | false => exact ⟨.raised rfl, represents⟩
    | true =>
        cases isExpired : lock.expired now.instant.toNat with
        | false => exact ⟨.raised rfl, represents⟩
        | true =>
            have changed := represents.counts_one found (stores.active.trans isActive)
            have after := represents.recovered stored lockId reason recoveredBy
            simp only [requires, run_bind, run_require, run_read, run_update, run_pure, changed,
              if_true, decide_true]
            exact carries_getLock lockId _ _ after

/-! ### Stale rows -/

theorem requestLe_iff (first second : LockRequest) :
    LockRequest.le first second = true ↔
      toLex (first.1.value, first.2) ≤ toLex (second.1.value, second.2) := by
  obtain ⟨kind, identifier⟩ := first
  obtain ⟨other, otherIdentifier⟩ := second
  have kinds : kind = other ↔ kind.value = other.value := by
    cases kind <;> cases other <;> decide
  simp only [LockRequest.le, Prod.Lex.toLex_le_toLex, Bool.or_eq_true, Bool.and_eq_true,
    decide_eq_true_eq, kinds]

theorem staleLe_iff (first second : LockRow) :
    staleLe first second = true ↔
      toLex (first.expiresAt, toLex (first.scopeKind.value, first.scopeId)) ≤
        toLex (second.expiresAt, toLex (second.scopeKind.value, second.scopeId)) := by
  simp only [staleLe, Prod.Lex.toLex_le_toLex, Bool.or_eq_true, Bool.and_eq_true,
    decide_eq_true_eq, requestLe_iff]
  rfl

instance : Std.Total fun first second : LockRow => staleLe first second = true where
  total first second := by
    rw [staleLe_iff, staleLe_iff]
    exact le_total _ _

instance : IsTrans LockRow fun first second : LockRow => staleLe first second = true where
  trans first second third := by
    rw [staleLe_iff, staleLe_iff, staleLe_iff]
    exact le_trans

/-- The text comparison of `list_stale_locks` finds the rows that Python finds expired, those
that expired first at the beginning. -/
theorem listStaleLocks_returns {table : LockTable} {database : Database}
    (represents : table.Represents database) {now : AwareTimestamp}
    (written : (isoTimestamp now).isSome) :
    ∃ stale, (listStaleLocks now).run table = (.returned stale, table) ∧
      stale.Perm (table.rows.filter fun row => row.active && row.expired now = some true) ∧
      stale.Pairwise fun first second => ∀ moment later,
        parseTimestamp first.expiresAt = some moment →
          parseTimestamp second.expiresAt = some later → moment.instant ≤ later.instant := by
  obtain ⟨text, isText⟩ := Option.isSome_iff_exists.mp written
  obtain ⟨stored, positive⟩ := Written.of_timestamp isText
  have stamped : timestamp (some now) = pure text := timestamp_of_some isText
  have agree : ∀ row ∈ table.rows, (row.active && decide (row.expiresAt ≤ text)) =
      (row.active && decide (row.expired now = some true)) := by
    intro row member
    obtain ⟨lock, stores⟩ := mem_related represents.rows row member
    have same := stores.expiresAt.le_iff stored
    simp [stores.expired positive, LockRecord.expired, same]
  have sorted := List.pairwise_insertionSort
    (fun first second : LockRow => staleLe first second = true)
    (table.rows.filter fun row => row.active && row.expiresAt ≤ text)
  have perm := List.perm_insertionSort
    (fun first second : LockRow => staleLe first second = true)
    (table.rows.filter fun row => row.active && row.expiresAt ≤ text)
  refine ⟨(table.rows.filter fun row => row.active && row.expiresAt ≤ text).insertionSort
    fun first second => staleLe first second, ?_, ?_, ?_⟩
  · rw [listStaleLocks, stamped, pure_andThen, run_read]
  · rwa [List.filter_congr agree] at perm ⊢
  · refine sorted.imp_of_mem fun {first second} isFirst isSecond before => ?_
    intro moment later isMoment isLater
    obtain ⟨lock, stores⟩ := mem_related represents.rows first
      (List.mem_of_mem_filter (perm.mem_iff.mp isFirst))
    obtain ⟨other, otherStores⟩ := mem_related represents.rows second
      (List.mem_of_mem_filter (perm.mem_iff.mp isSecond))
    obtain ⟨read, parsed, atInstant⟩ := stores.expiresAt.parse
    obtain ⟨otherRead, otherParsed, otherInstant⟩ := otherStores.expiresAt.parse
    obtain rfl : read = moment := Option.some_inj.mp (parsed.symm.trans isMoment)
    obtain rfl : otherRead = later := Option.some_inj.mp (otherParsed.symm.trans isLater)
    rw [staleLe_iff, Prod.Lex.toLex_le_toLex] at before
    have texts : first.expiresAt ≤ second.expiresAt := by
      rcases before with less | ⟨same, -⟩
      · exact less.le
      · exact same.le
    rw [atInstant, otherInstant]
    exact_mod_cast (stores.expiresAt.le_iff otherStores.expiresAt).mp texts

end LockTable

/-! ### Histories -/

/-- A call on the lock table with the clock reading it makes. -/
inductive LockTextCall where
  | acquire (requests : List LockRequest) (ownerPlanId : String) (runId : Option Nat)
      (ttlSeconds : Nat) (ownerToken : Option String) (generated : String)
      (now : AwareTimestamp)
  | heartbeat (ownerToken : String) (ttlSeconds : Nat) (now : AwareTimestamp)
  | release (ownerToken reason : String) (now : AwareTimestamp)
  | recover (lockId : Nat) (observation : Dict) (recoveredBy reason : String)
      (now : AwareTimestamp)

namespace LockTextCall

open Program LockTable

/-- The call, with its answer forgotten. -/
def perform : LockTextCall → Call Unit
  | acquire requests ownerPlanId runId ttlSeconds ownerToken generated now => do
      let _ ← acquireLocks requests ownerPlanId runId ttlSeconds ownerToken generated now
      pure ()
  | heartbeat ownerToken ttlSeconds now => do
      let _ ← heartbeatLocks ownerToken ttlSeconds now
      pure ()
  | release ownerToken reason now => do
      let _ ← releaseLocks ownerToken reason now
      pure ()
  | recover lockId observation recoveredBy reason now => do
      let _ ← recoverStaleLock lockId observation recoveredBy reason now
      pure ()

/-- The same call on locks that expire at instants, where its moments are in the calendar. -/
def instants : LockTextCall → Option LockCall
  | acquire requests ownerPlanId runId ttlSeconds ownerToken generated now =>
      if (isoTimestamp now).isSome && ((now.later ttlSeconds).bind isoTimestamp).isSome then
        some (.acquire requests ownerPlanId runId ttlSeconds ownerToken generated
          now.instant.toNat)
      else none
  | heartbeat ownerToken ttlSeconds now =>
      if (isoTimestamp now).isSome && ((now.later ttlSeconds).bind isoTimestamp).isSome then
        some (.heartbeat ownerToken ttlSeconds now.instant.toNat)
      else none
  | release ownerToken _ now =>
      if (isoTimestamp now).isSome then some (.release ownerToken now.instant.toNat) else none
  | recover lockId observation _ _ now =>
      if (isoTimestamp now).isSome then some (.recover lockId observation now.instant.toNat)
      else none

/-- The table after a list of calls; a call that raises leaves what it wrote. -/
def performAll (table : LockTable) (calls : List LockTextCall) : LockTable :=
  calls.foldl (fun reached call => (call.perform.run reached).2) table

theorem forgets {α β : Type} {answers : α → β → Prop} {call : Call α} {operation : Operation β}
    (carries : Carries answers call operation) :
    Carries (fun _ _ => True) (call >>= fun _ => pure ()) (operation >>= fun _ => pure ()) :=
  carries.bind fun _ _ _ => .pure trivial

theorem carries_perform {call : LockTextCall} {operation : LockCall}
    (same : call.instants = some operation) :
    Carries (fun _ _ => True) call.perform operation.perform := by
  cases call with
  | acquire requests ownerPlanId runId ttlSeconds ownerToken generated now =>
      simp only [instants, Option.ite_none_right_eq_some, Option.some_inj,
        Bool.and_eq_true] at same
      obtain ⟨⟨written, laterWritten⟩, rfl⟩ := same
      exact forgets (carries_acquireLocks _ _ _ _ _ _ written laterWritten)
  | heartbeat ownerToken ttlSeconds now =>
      simp only [instants, Option.ite_none_right_eq_some, Option.some_inj,
        Bool.and_eq_true] at same
      obtain ⟨⟨written, laterWritten⟩, rfl⟩ := same
      exact forgets (carries_heartbeatLocks _ _ written laterWritten)
  | release ownerToken reason now =>
      simp only [instants, Option.ite_none_right_eq_some, Option.some_inj] at same
      obtain ⟨written, rfl⟩ := same
      exact forgets (carries_releaseLocks _ _ written)
  | recover lockId observation recoveredBy reason now =>
      simp only [instants, Option.ite_none_right_eq_some, Option.some_inj] at same
      obtain ⟨written, rfl⟩ := same
      exact forgets (carries_recoverStaleLock _ _ _ _ written)

theorem requires_readOnly (condition : Bool) (kind : FaultKind) (message : String) :
    ReadOnly (requires condition kind message) :=
  .require _ _

theorem expired_readOnly (answer : Option Bool) : ReadOnly (expired answer) := by
  cases answer with
  | some answer => exact .pure answer
  | none => exact .raise _

theorem requireHeld_readOnly (ownerToken : String) (now : AwareTimestamp) (purpose : String) :
    ReadOnly (requireHeld ownerToken now purpose) :=
  .bind (.read _) fun _ => .bind (.require _ _) fun _ => .bind (expired_readOnly _) fun _ =>
    .require _ _

theorem getLock_readOnly (lockId : Nat) : ReadOnly (getLock lockId) := by
  refine .bind (.read _) fun found => ?_
  cases found with
  | none => exact .raise _
  | some row => exact .pure row

/-- Where a moment is out of the calendar, nothing after its text is reached. -/
theorem timestamp_overflows {α : Type} (moment : Option AwareTimestamp)
    (overflows : moment.bind isoTimestamp = none) (next : List Char → Call α) :
    ReadOnly (timestamp moment >>= next) := by
  rw [timestamp_of_none overflows]
  exact fun _ => rfl

theorem timestamps_overflow {α : Type} {now : AwareTimestamp} {later : Option AwareTimestamp}
    (overflows : ((isoTimestamp now).isSome && (later.bind isoTimestamp).isSome) = false)
    (next : List Char → List Char → Call α) :
    ReadOnly (timestamp (some now) >>= fun text => timestamp later >>= next text) := by
  rcases written : isoTimestamp now with _ | text
  · exact timestamp_overflows (some now) written _
  · have stamped : timestamp (some now) = pure text := timestamp_of_some written
    rw [stamped, pure_andThen]
    apply timestamp_overflows
    simpa [written] using overflows

/-- A call whose moments are out of the calendar changes nothing. -/
theorem perform_overflow {call : LockTextCall} (overflows : call.instants = none)
    (table : LockTable) : (call.perform.run table).2 = table := by
  cases call with
  | acquire requests ownerPlanId runId ttlSeconds ownerToken generated now =>
      simp only [instants, ite_eq_right_iff, reduceCtorEq, imp_false, Bool.not_eq_true] at overflows
      rw [perform, bind_pure_snd, acquireLocks]
      refine ReadOnly.bind (requires_readOnly _ _ _) (fun _ => ?_) table
      refine ReadOnly.bind (requires_readOnly _ _ _) fun _ => ?_
      exact timestamps_overflow overflows _
  | heartbeat ownerToken ttlSeconds now =>
      simp only [instants, ite_eq_right_iff, reduceCtorEq, imp_false, Bool.not_eq_true] at overflows
      rw [perform, bind_pure_snd, heartbeatLocks]
      refine ReadOnly.bind (requires_readOnly _ _ _) (fun _ => ?_) table
      refine ReadOnly.bind (requireHeld_readOnly _ _ _) fun _ => ?_
      exact timestamps_overflow overflows _
  | release ownerToken reason now =>
      simp only [instants, ite_eq_right_iff, reduceCtorEq, imp_false, Bool.not_eq_true,
        Option.isSome_eq_false_iff, Option.isNone_iff_eq_none] at overflows
      rw [perform, bind_pure_snd, releaseLocks]
      refine ReadOnly.bind (requireHeld_readOnly _ _ _) (fun _ => ?_) table
      exact timestamp_overflows (some now) overflows _
  | recover lockId observation recoveredBy reason now =>
      simp only [instants, ite_eq_right_iff, reduceCtorEq, imp_false, Bool.not_eq_true,
        Option.isSome_eq_false_iff, Option.isNone_iff_eq_none] at overflows
      rw [perform, bind_pure_snd, recoverStaleLock]
      refine ReadOnly.bind (requires_readOnly _ _ _) (fun _ => ?_) table
      refine ReadOnly.bind (getLock_readOnly _) fun _ => ?_
      refine ReadOnly.bind (requires_readOnly _ _ _) fun _ => ?_
      refine ReadOnly.bind (expired_readOnly _) fun _ => ?_
      refine ReadOnly.bind (requires_readOnly _ _ _) fun _ => ?_
      exact timestamp_overflows (some now) overflows _

/-- Over every history, the rows store the locks that the calls on instants lead to. -/
theorem performAll_represents {table : LockTable} {database : Database}
    (represents : table.Represents database) (calls : List LockTextCall) :
    (performAll table calls).Represents
      (LockCall.performAll database (calls.filterMap instants)) := by
  induction calls generalizing table database with
  | nil => exact represents
  | cons call calls ih =>
      cases same : call.instants with
      | none =>
          rw [List.filterMap_cons_none same]
          have kept : performAll table (call :: calls) = performAll table calls := by
            rw [performAll, List.foldl_cons, perform_overflow same]
            rfl
          rw [kept]
          exact ih represents
      | some operation =>
          rw [List.filterMap_cons_some same]
          exact ih (carries_perform same table database represents).2

end LockTextCall

/-- The table of a database before its first lock. -/
def LockTable.opened (database : Database) : LockTable :=
  ⟨database, [], 0⟩

/-- A database before its first lock. -/
def Database.unlocked (database : Database) : Database :=
  { database with
    locks := []
    lockCounter := 0 }

theorem LockTable.opened_represents (database : Database) :
    (LockTable.opened database).Represents database.unlocked :=
  ⟨.nil, rfl, rfl, rfl, .nil, fun _ member => nomatch member⟩

open LockTextCall LockTable in
/-- Over every history of calls with aware clock readings, the rows store the locks that the
same calls on instants lead to, and every further call ends like the one on instants.  So each
scope has at most one active row, and the text comparison of `list_stale_locks` lists exactly
the active rows that Python finds expired, in the order of their expiries. -/
theorem lock_texts_refine (database : Database) (calls : List LockTextCall) :
    (performAll (.opened database) calls).Represents
        (LockCall.performAll database.unlocked (calls.filterMap instants)) ∧
      (∀ (call : LockTextCall) (operation : LockCall), call.instants = some operation →
        Outcome.Related SameFault (fun _ _ => True)
          (call.perform.run (performAll (.opened database) calls)).1
          (operation.perform.run
            (LockCall.performAll database.unlocked (calls.filterMap instants))).1) ∧
      (∀ request, (performAll (.opened database) calls).rows.countP (·.covers request) ≤ 1) ∧
      ∀ now, (isoTimestamp now).isSome →
        ∃ stale, (listStaleLocks now).run (performAll (.opened database) calls) =
            (.returned stale, performAll (.opened database) calls) ∧
          stale.Perm ((performAll (.opened database) calls).rows.filter fun row =>
            row.active && row.expired now = some true) ∧
          stale.Pairwise fun first second => ∀ moment later,
            parseTimestamp first.expiresAt = some moment →
              parseTimestamp second.expiresAt = some later →
                moment.instant ≤ later.instant := by
  have represents := performAll_represents (opened_represents database) calls
  refine ⟨represents, fun call operation same => (carries_perform same _ _ represents).1,
    fun request => ?_, fun now written => listStaleLocks_returns represents written⟩
  have exclusive : ExclusiveLocks database.unlocked.locks := by
    intro request
    exact Nat.zero_le _
  have once := MaintenanceStore.performAll_exclusive (calls.filterMap instants) exclusive request
  have agree : ∀ (row : LockRow) (lock : LockRecord), row.Stores lock →
      row.covers request = lock.covers request := fun _ _ stores => stores.covers request
  have counts := (filter_related agree represents.rows).length_eq
  rw [List.countP_eq_length_filter] at once ⊢
  rwa [counts]

end ElKeeper
