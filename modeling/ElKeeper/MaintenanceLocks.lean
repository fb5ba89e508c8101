import ElKeeper.MaintenanceStore
import Mathlib.Data.List.Dedup
import Mathlib.Data.List.Sort

/-!
# Maintenance locks

The lock table of the repository.  A lock is active until it is released, and
an active lock past its expiry belongs to nobody until its recovery.  The
partial unique index over active scopes is kept by the operations themselves.
-/

namespace ElKeeper

namespace LockScope

def value : LockScope → String
  | host => "host"
  | cluster => "cluster"
  | assignment => "assignment"
  | recovery => "recovery"

end LockScope

/-- `LockRequest.normalized`. -/
abbrev LockRequest :=
  LockScope × String

/-- The order of normalized requests as pairs of texts. -/
def LockRequest.le (first second : LockRequest) : Bool :=
  first.1.value < second.1.value || (first.1 = second.1 && first.2 ≤ second.2)

namespace LockRecord

def active (lock : LockRecord) : Bool :=
  lock.releasedAt = none

/-- `WHERE scope_kind=? AND scope_id=? AND released_at IS NULL`. -/
def covers (lock : LockRecord) (request : LockRequest) : Bool :=
  lock.scope = request.1 && lock.identifier = request.2 && lock.active

/-- `WHERE owner_token=? AND released_at IS NULL`. -/
def heldWith (lock : LockRecord) (ownerToken : String) : Bool :=
  lock.ownerToken = ownerToken && lock.active

end LockRecord

namespace Database

def addLock (row : LockRecord) (database : Database) : Database :=
  { database with
    locks := database.locks ++ [row]
    lockCounter := database.lockCounter + 1 }

def mapLocks (change : LockRecord → LockRecord) (database : Database) : Database :=
  { database with locks := database.locks.map change }

/-- `list_active_locks` of one plan, before they are sorted. -/
def activeLocks (database : Database) (ownerPlanId : String) : List LockRecord :=
  database.locks.filter fun lock => lock.active && lock.ownerPlanId = ownerPlanId

end Database

namespace MaintenanceStore

open Program

/-- Who acquires locks, and until when. -/
structure LockOwner where
  planId : String
  runId : Option Nat
  token : String
  now : Nat
  expiresAt : Nat

/-- The foreign keys of a new lock. -/
def LockOwner.known (owner : LockOwner) (database : Database) : Bool :=
  (database.plan? owner.planId).isSome &&
    owner.runId.all fun runId => (database.run? runId).isSome

/-- The lock of one scope: the one that the owner holds already, or a new one. -/
def acquireLock (owner : LockOwner) (request : LockRequest) : Operation LockRecord := do
  match ← read fun database => database.locks.find? (·.covers request) with
  | some existing => do
      require (!existing.expired owner.now)
        ⟨.staleLockRequiresRecovery, "Expired " ++ request.1.value ++ " lock " ++ request.2 ++
          " requires rediscovery before release"⟩
      require (existing.ownerPlanId = owner.planId && existing.ownerToken = owner.token)
        ⟨.lockConflict, "Active " ++ request.1.value ++ " lock already covers " ++ request.2⟩
      pure existing
  | none => do
      let known ← read owner.known
      require known ⟨.lockConflict, "A maintenance lock was acquired concurrently"⟩
      let identifier ← read fun database => database.lockCounter + 1
      let row : LockRecord :=
        { id := identifier
          scope := request.1
          identifier := request.2
          ownerPlanId := owner.planId
          runId := owner.runId
          ownerToken := owner.token
          expiresAt := owner.expiresAt
          releasedAt := none }
      update (Database.addLock row)
      pure row

def acquireEach (owner : LockOwner) : List LockRequest → Operation (List LockRecord)
  | [] => pure []
  | request :: requests => do
      let lock ← acquireLock owner request
      let locks ← acquireEach owner requests
      pure (lock :: locks)

/-- Microseconds after a number of seconds. -/
def secondsAfter (now seconds : Nat) : Nat :=
  now + seconds * 1000000

/-- `acquire_locks`; `generated` is the token that is drawn when none is given. -/
def acquireLocks (requests : List LockRequest) (ownerPlanId : String) (runId : Option Nat)
    (ttlSeconds : Nat) (ownerToken : Option String) (generated : String) (now : Nat) :
    Operation (List LockRecord) := do
  require (0 < ttlSeconds) ⟨.valueError, "ttl_seconds must be positive"⟩
  let scopes := requests.dedup.insertionSort fun first second => LockRequest.le first second
  require (scopes ≠ []) ⟨.valueError, "At least one lock scope is required"⟩
  let owner : LockOwner :=
    { planId := ownerPlanId
      runId := runId
      token := if ownerToken.any (· ≠ "") then ownerToken.getD generated else generated
      now := now
      expiresAt := secondsAfter now ttlSeconds }
  atomically (acquireEach owner scopes)

/-- The locks of a token, which must be there and not be expired. -/
def requireHeld (ownerToken : String) (now : Nat) (purpose : String) : Operation Unit := do
  let held ← read fun database => database.locks.filter (·.heldWith ownerToken)
  require (held ≠ [])
    ⟨.lockOwnership, "No active maintenance locks belong to the owner token"⟩
  require (!held.any (·.expired now))
    ⟨.staleLockRequiresRecovery,
      "An expired maintenance lock requires rediscovery before " ++ purpose⟩

/-- `heartbeat_locks`. -/
def heartbeatLocks (ownerToken : String) (ttlSeconds now : Nat) : Operation (List LockRecord) := do
  require (0 < ttlSeconds) ⟨.valueError, "ttl_seconds must be positive"⟩
  requireHeld ownerToken now "heartbeat"
  update (Database.mapLocks fun lock =>
    if lock.heldWith ownerToken then { lock with expiresAt := secondsAfter now ttlSeconds } else lock)
  read fun database => database.locks.filter (·.heldWith ownerToken)

/-- `release_locks`: the number of released locks. -/
def releaseLocks (ownerToken : String) (now : Nat) : Operation Nat := do
  requireHeld ownerToken now "release"
  let released ← read fun database => (database.locks.filter (·.heldWith ownerToken)).length
  update (Database.mapLocks fun lock =>
    if lock.heldWith ownerToken then { lock with releasedAt := some now } else lock)
  pure released

/-- `get_lock`. -/
def getLock (lockId : Nat) : Operation LockRecord := do
  match ← read fun database => database.locks.find? (·.id = lockId) with
  | some lock => pure lock
  | none => raise ⟨.recordNotFound, "Maintenance lock " ++ toString lockId ++ " was not found"⟩

/-- `recover_stale_lock`. -/
def recoverStaleLock (lockId : Nat) (observation : Dict) (now : Nat) : Operation LockRecord := do
  require (observation ≠ []) ⟨.valueError, "Stale lock release requires rediscovery evidence"⟩
  let lock ← getLock lockId
  require lock.active ⟨.lockOwnership, "Maintenance lock is already released"⟩
  require (lock.expired now)
    ⟨.lockConflict, "A non-expired maintenance lock cannot be recovered"⟩
  update (Database.mapLocks fun other =>
    if other.id = lockId ∧ other.active then { other with releasedAt := some now } else other)
  getLock lockId

end MaintenanceStore

/-! ### Histories of the lock table -/

/-- A call that reads or writes the lock table. -/
inductive LockCall where
  | acquire (requests : List LockRequest) (ownerPlanId : String) (runId : Option Nat)
      (ttlSeconds : Nat) (ownerToken : Option String) (generated : String) (now : Nat)
  | heartbeat (ownerToken : String) (ttlSeconds now : Nat)
  | release (ownerToken : String) (now : Nat)
  | recover (lockId : Nat) (observation : Dict) (now : Nat)

namespace LockCall

open Program MaintenanceStore

/-- The clock reading of a call. -/
def now : LockCall → Nat
  | acquire _ _ _ _ _ _ now | heartbeat _ _ now | release _ now | recover _ _ now => now

/-- Whether the call is `acquire_locks`. -/
def acquires : LockCall → Bool
  | acquire _ _ _ _ _ _ _ => true
  | _ => false

/-- The call recovers this lock and brings evidence. -/
def recovers (call : LockCall) (lock : LockRecord) : Prop :=
  ∃ observation now, call = recover lock.id observation now ∧ observation ≠ []

/-- The call, with its answer forgotten. -/
def perform : LockCall → Operation Unit
  | acquire requests ownerPlanId runId ttlSeconds ownerToken generated now => do
      let _ ← acquireLocks requests ownerPlanId runId ttlSeconds ownerToken generated now
      pure ()
  | heartbeat ownerToken ttlSeconds now => do
      let _ ← heartbeatLocks ownerToken ttlSeconds now
      pure ()
  | release ownerToken now => do
      let _ ← releaseLocks ownerToken now
      pure ()
  | recover lockId observation now => do
      let _ ← recoverStaleLock lockId observation now
      pure ()

/-- The database after a list of calls; a call that raises leaves what it wrote. -/
def performAll (database : Database) (calls : List LockCall) : Database :=
  calls.foldl (fun reached call => (call.perform.run reached).2) database

end LockCall

/-- Each scope has at most one active lock. -/
def ExclusiveLocks (locks : List LockRecord) : Prop :=
  ∀ request, locks.countP (·.covers request) ≤ 1

namespace MaintenanceStore

open Program

/-- A lock is added for a scope without an active one. -/
def AddsLock (before after : Database) : Prop :=
  ∃ row : LockRecord, before.locks.find? (·.covers (row.scope, row.identifier)) = none ∧
    after = before.addLock row

/-- The lock is one of the owner. -/
structure LockOwner.Owns (owner : LockOwner) (lock : LockRecord) : Prop where
  planId : lock.ownerPlanId = owner.planId
  token : lock.ownerToken = owner.token
  expiresAt : lock.expiresAt = owner.expiresAt
  unreleased : lock.releasedAt = none

/-- As `AddsLock`, for a lock of the owner. -/
def AddsLockFor (owner : LockOwner) (before after : Database) : Prop :=
  ∃ row : LockRecord, before.locks.find? (·.covers (row.scope, row.identifier)) = none ∧
    owner.Owns row ∧ after = before.addLock row

theorem acquireLock_moves (owner : LockOwner) (request : LockRequest) :
    Moves (AddsLockFor owner) (acquireLock owner request) := by
  intro database
  simp only [acquireLock, run_bind, run_read]
  cases found : database.locks.find? (·.covers request) with
  | some existing =>
      refine Moves.bind (.require _ _) (fun _ => ?_) database
      exact .bind (.require _ _) fun _ => .pure existing
  | none =>
      simp only [run_bind, run_read, run_require]
      by_cases known : owner.known database
      · rw [if_pos known]
        exact .single ⟨_, found, ⟨rfl, rfl, rfl, rfl⟩, rfl⟩
      · rw [if_neg known]

theorem acquireEach_moves (owner : LockOwner) (requests : List LockRequest) :
    Moves (AddsLockFor owner) (acquireEach owner requests) := by
  induction requests with
  | nil => exact .pure []
  | cons request requests ih =>
      refine .bind (acquireLock_moves owner request) fun lock => ?_
      exact .bind ih fun locks => .pure (lock :: locks)

theorem acquireLocks_adds (requests : List LockRequest) (ownerPlanId : String)
    (runId : Option Nat) (ttlSeconds : Nat) (ownerToken : Option String) (generated : String)
    (now : Nat) :
    Moves (AddsLockFor
        { planId := ownerPlanId
          runId := runId
          token := if ownerToken.any (· ≠ "") then ownerToken.getD generated else generated
          now := now
          expiresAt := secondsAfter now ttlSeconds })
      (acquireLocks requests ownerPlanId runId ttlSeconds ownerToken generated now) := by
  refine .bind (.require _ _) fun _ => ?_
  refine .bind (.require _ _) fun _ => ?_
  exact .atomically (acquireEach_moves _ _)

theorem acquireLocks_moves (requests : List LockRequest) (ownerPlanId : String)
    (runId : Option Nat) (ttlSeconds : Nat) (ownerToken : Option String) (generated : String)
    (now : Nat) :
    Moves AddsLock
      (acquireLocks requests ownerPlanId runId ttlSeconds ownerToken generated now) := by
  refine (acquireLocks_adds _ _ _ _ _ _ _).mono ?_
  rintro before after ⟨row, free, _, added⟩
  exact ⟨row, free, added⟩

theorem acquireLocks_raised {requests : List LockRequest} {ownerPlanId : String}
    {runId : Option Nat} {ttlSeconds : Nat} {ownerToken : Option String} {generated : String}
    {now : Nat} {database after : Database} {error : Fault}
    (ran : (acquireLocks requests ownerPlanId runId ttlSeconds ownerToken generated now).run
      database = (.raised error, after)) : after = database := by
  rcases bind_eq_raised ran with refused | ⟨_, _, positive, afterPositive⟩
  · exact (ReadOnly.require _ _).returned refused
  · obtain ⟨_, rfl⟩ := require_eq_returned positive
    rcases bind_eq_raised afterPositive with refused | ⟨_, _, nonempty, acquired⟩
    · exact (ReadOnly.require _ _).returned refused
    · obtain ⟨_, rfl⟩ := require_eq_returned nonempty
      exact atomically_eq_raised acquired

/-! ### Single calls -/

theorem requireHeld_readOnly (ownerToken : String) (now : Nat) (purpose : String) :
    ReadOnly (requireHeld ownerToken now purpose) :=
  .bind (.read _) fun _ => .bind (.require _ _) fun _ => .require _ _

/-- Where the locks of a token may be changed, none of them is expired. -/
theorem requireHeld_returned {ownerToken : String} {now : Nat} {purpose : String}
    {database after : Database} {value : Unit}
    (ran : (requireHeld ownerToken now purpose).run database = (.returned value, after)) :
    ∀ lock ∈ database.locks, lock.heldWith ownerToken → lock.expired now = false := by
  obtain ⟨held, _, wasRead, afterRead⟩ := bind_eq_returned ran
  cases wasRead
  obtain ⟨_, _, nonempty, checked⟩ := bind_eq_returned afterRead
  obtain ⟨_, rfl⟩ := require_eq_returned nonempty
  obtain ⟨fresh, rfl⟩ := require_eq_returned checked
  intro lock member isHeld
  rw [Bool.not_eq_true', List.any_eq_false] at fresh
  simpa using fresh lock (List.mem_filter.mpr ⟨member, isHeld⟩)

/-- Another expiry, or a release. -/
inductive Revised (lock : LockRecord) : LockRecord → Prop where
  | extended (expiresAt : Nat) : Revised lock { lock with expiresAt := expiresAt }
  | released (now : Nat) : Revised lock { lock with releasedAt := some now }

theorem Revised.covers {lock revised : LockRecord} (revision : Revised lock revised)
    {request : LockRequest} (covered : revised.covers request) : lock.covers request := by
  cases revision with
  | extended expiresAt => exact covered
  | released now => simp [LockRecord.covers, LockRecord.active] at covered

/-- Locks are revised only while they are held, or because they are recovered. -/
def RevisesLocks (call : LockCall) (before after : Database) : Prop :=
  ∃ change, after = before.mapLocks change ∧ ∀ lock ∈ before.locks,
    change lock = lock ∨
      Revised lock (change lock) ∧ (lock.expired call.now = false ∨ call.recovers lock)

theorem RevisesLocks.refl (call : LockCall) (database : Database) :
    RevisesLocks call database database :=
  ⟨id, by simp [Database.mapLocks], fun _ _ => .inl rfl⟩

/-- A revision of the locks of a token, none of which is expired. -/
theorem revises_held {call : LockCall} {ownerToken : String} {database : Database}
    (fresh : ∀ lock ∈ database.locks, lock.heldWith ownerToken → lock.expired call.now = false)
    {revise : LockRecord → LockRecord} (revises : ∀ lock, Revised lock (revise lock)) :
    RevisesLocks call database
      (database.mapLocks fun lock => if lock.heldWith ownerToken then revise lock else lock) := by
  refine ⟨_, rfl, fun lock member => ?_⟩
  by_cases held : lock.heldWith ownerToken
  · rw [if_pos held]
    exact .inr ⟨revises lock, .inl (fresh lock member held)⟩
  · exact .inl (if_neg held)

theorem heartbeatLocks_revises (ownerToken : String) (ttlSeconds now : Nat)
    (database : Database) :
    RevisesLocks (.heartbeat ownerToken ttlSeconds now) database
      ((heartbeatLocks ownerToken ttlSeconds now).run database).2 := by
  rcases (ReadOnly.require _ _).bind_cases _ database with same | ⟨_, _, checked⟩
  · rw [heartbeatLocks, same]
    exact .refl _ _
  · rw [heartbeatLocks, checked]
    rcases (requireHeld_readOnly ownerToken now "heartbeat").bind_cases _ database with
      same | ⟨_, held, continued⟩
    · rw [same]
      exact .refl _ _
    · rw [continued]
      exact revises_held (requireHeld_returned held) fun lock => .extended _

theorem releaseLocks_revises (ownerToken : String) (now : Nat) (database : Database) :
    RevisesLocks (.release ownerToken now) database
      ((releaseLocks ownerToken now).run database).2 := by
  rcases (requireHeld_readOnly ownerToken now "release").bind_cases _ database with
    same | ⟨_, held, continued⟩
  · rw [releaseLocks, same]
    exact .refl _ _
  · rw [releaseLocks, continued]
    exact revises_held (requireHeld_returned held) fun lock => .released now

theorem getLock_readOnly (lockId : Nat) : ReadOnly (getLock lockId) := by
  refine .bind (.read _) fun found => ?_
  cases found with
  | none => exact .raise _
  | some lock => exact .pure lock

theorem recoverStaleLock_revises (lockId : Nat) (observation : Dict) (now : Nat)
    (database : Database) :
    RevisesLocks (.recover lockId observation now) database
      ((recoverStaleLock lockId observation now).run database).2 := by
  rw [recoverStaleLock]
  rcases (ReadOnly.require _ _).bind_cases _ database with same | ⟨_, evidence, afterEvidence⟩
  · rw [same]
    exact .refl _ _
  obtain ⟨isEvidence, _⟩ := require_eq_returned evidence
  rw [afterEvidence]
  rcases (getLock_readOnly lockId).bind_cases _ database with same | ⟨lock, _, afterLock⟩
  · rw [same]
    exact .refl _ _
  rw [afterLock]
  rcases (ReadOnly.require _ _).bind_cases _ database with same | ⟨_, _, afterActive⟩
  · rw [same]
    exact .refl _ _
  rw [afterActive]
  rcases (ReadOnly.require _ _).bind_cases _ database with same | ⟨_, _, afterExpired⟩
  · rw [same]
    exact .refl _ _
  rw [afterExpired, run_bind, run_update]
  dsimp only
  rw [getLock_readOnly lockId]
  refine ⟨_, rfl, fun other _ => ?_⟩
  by_cases isLock : other.id = lockId ∧ other.active
  · rw [if_pos isLock]
    refine .inr ⟨.released now, .inr ⟨observation, now, by rw [isLock.1], ?_⟩⟩
    simpa using isEvidence
  · exact .inl (if_neg isLock)

/-- What one call does to the locks. -/
theorem perform_cases (call : LockCall) (database : Database) :
    call.acquires ∧
        Relation.ReflTransGen AddsLock database (call.perform.run database).2 ∨
      RevisesLocks call database (call.perform.run database).2 := by
  cases call with
  | acquire requests ownerPlanId runId ttlSeconds ownerToken generated now =>
      left
      exact ⟨rfl, Moves.bind (acquireLocks_moves _ _ _ _ _ _ _) (fun _ => .pure ()) database⟩
  | heartbeat ownerToken ttlSeconds now =>
      right
      rw [LockCall.perform, bind_pure_snd]
      exact heartbeatLocks_revises ownerToken ttlSeconds now database
  | release ownerToken now =>
      right
      rw [LockCall.perform, bind_pure_snd]
      exact releaseLocks_revises ownerToken now database
  | recover lockId observation now =>
      right
      rw [LockCall.perform, bind_pure_snd]
      exact recoverStaleLock_revises lockId observation now database

/-! ### Exclusion -/

theorem AddsLock.exclusive {before after : Database} (adds : AddsLock before after)
    (exclusive : ExclusiveLocks before.locks) : ExclusiveLocks after.locks := by
  obtain ⟨row, uncovered, rfl⟩ := adds
  intro request
  rw [Database.addLock, List.countP_append, List.countP_singleton]
  by_cases covered : row.covers request
  · have isScope : request = (row.scope, row.identifier) := by
      simp only [LockRecord.covers, Bool.and_eq_true, decide_eq_true_eq] at covered
      exact Prod.ext covered.1.1.symm covered.1.2.symm
    have none : before.locks.countP (·.covers request) = 0 := by
      rw [isScope, List.countP_eq_zero]
      exact fun lock member => by simpa using List.find?_eq_none.mp uncovered lock member
    rw [none, if_pos covered]
  · rw [if_neg covered]
    exact exclusive request

theorem RevisesLocks.exclusive {call : LockCall} {before after : Database}
    (revises : RevisesLocks call before after) (exclusive : ExclusiveLocks before.locks) :
    ExclusiveLocks after.locks := by
  obtain ⟨change, rfl, changes⟩ := revises
  intro request
  have fewer : (before.locks.map change).countP (·.covers request) ≤
      before.locks.countP (·.covers request) := by
    rw [List.countP_map]
    refine List.countP_mono_left fun lock member covered => ?_
    rcases changes lock member with same | ⟨revision, _⟩
    · rw [Function.comp_apply, same] at covered
      exact covered
    · exact revision.covers covered
  exact fewer.trans (exclusive request)

theorem perform_exclusive (call : LockCall) {database : Database}
    (exclusive : ExclusiveLocks database.locks) :
    ExclusiveLocks (call.perform.run database).2.locks := by
  rcases perform_cases call database with ⟨_, adds⟩ | revises
  · generalize (call.perform.run database).2 = after at adds
    induction adds with
    | refl => exact exclusive
    | tail _ added ih => exact added.exclusive ih
  · exact revises.exclusive exclusive

theorem performAll_exclusive (calls : List LockCall) {database : Database}
    (exclusive : ExclusiveLocks database.locks) :
    ExclusiveLocks (LockCall.performAll database calls).locks := by
  induction calls generalizing database with
  | nil => exact exclusive
  | cons call calls ih => exact ih (perform_exclusive call exclusive)

/-- An acquisition that raises leaves the database as it was. -/
theorem perform_raised {call : LockCall} (acquires : call.acquires) {database after : Database}
    {error : Fault} (ran : call.perform.run database = (.raised error, after)) :
    after = database := by
  cases call with
  | acquire requests ownerPlanId runId ttlSeconds ownerToken generated now =>
      rcases bind_eq_raised ran with raised | ⟨_, _, _, returned⟩
      · exact acquireLocks_raised raised
      · cases returned
  | heartbeat ownerToken ttlSeconds now => cases acquires
  | release ownerToken now => cases acquires
  | recover lockId observation now => cases acquires

/-- An expired lock stays as it is unless the call recovers it. -/
theorem perform_expired (call : LockCall) {database : Database} {lock : LockRecord}
    (member : lock ∈ database.locks) (expired : lock.expired call.now)
    (unrecovered : ¬ call.recovers lock) : lock ∈ (call.perform.run database).2.locks := by
  rcases perform_cases call database with ⟨_, adds⟩ | ⟨change, changed, changes⟩
  · generalize (call.perform.run database).2 = after at adds
    induction adds with
    | refl => exact member
    | tail _ added ih =>
        obtain ⟨row, _, rfl⟩ := added
        exact List.mem_append_left _ ih
  · rw [changed]
    rcases changes lock member with same | ⟨_, fresh | recovers⟩
    · exact List.mem_map.mpr ⟨lock, member, same⟩
    · rw [expired] at fresh
      cases fresh
    · exact absurd recovers unrecovered

end MaintenanceStore

open MaintenanceStore in
/-- Over every history of calls: each scope has at most one active lock, an acquisition that
raises changes nothing, and an expired lock is touched by its recovery only. -/
theorem lock_table_exclusive {start : Database} (exclusive : ExclusiveLocks start.locks)
    (calls : List LockCall) :
    ExclusiveLocks (LockCall.performAll start calls).locks ∧
      ∀ call : LockCall, ∀ outcome after,
        call.perform.run (LockCall.performAll start calls) = (outcome, after) →
          (call.acquires → ∀ error, outcome = .raised error →
            after.locks = (LockCall.performAll start calls).locks) ∧
          ∀ lock ∈ (LockCall.performAll start calls).locks, lock.active →
            lock.expired call.now → ¬ call.recovers lock → lock ∈ after.locks := by
  refine ⟨performAll_exclusive calls exclusive, fun call outcome after ran => ⟨?_, ?_⟩⟩
  · rintro acquires error rfl
    rw [perform_raised acquires ran]
  · intro lock member _ expired unrecovered
    have kept := perform_expired call member expired unrecovered
    rwa [ran] at kept

namespace LockSample

def plan (identifier : String) (nodeId : Nat) : PlanRecord where
  id := identifier
  runId := none
  operationKind := .reboot
  targetNodeId := some nodeId
  targetClusterId := none
  targetAssignmentId := none
  observationMaxAgeSeconds := 120
  observation := ⟨none, none, []⟩
  planHash := "hash"
  targetManifest := ⟨none, [], [], [1], none⟩
  lifecycleState := .executing
  stateRevision := 1
  expiresAt := 1000000000

/-- Two plans over one cluster. -/
def database : Database :=
  { Database.empty with plans := [plan "first" 1, plan "second" 2] }

/-- The first plan locks its host and the cluster for five minutes. -/
def acquired : LockCall :=
  .acquire [(.host, "1"), (.cluster, "1")] "first" none 300 none "token" 0

/-- The second plan asks for its own host and the cluster after that time. -/
def late : LockCall :=
  .acquire [(.host, "2"), (.cluster, "1")] "second" none 300 none "other" 400000000

end LockSample

open LockSample in
/-- The late acquisition fails as a whole and leaves both expired locks alone. -/
theorem lock_table_exclusive_late :
    (late.perform.run (LockCall.performAll LockSample.database [acquired])).2.locks =
      (LockCall.performAll LockSample.database [acquired]).locks ∧
      (LockCall.performAll LockSample.database [acquired]).locks.length = 2 := by
  have empty : ExclusiveLocks LockSample.database.locks := by
    intro request
    simp [LockSample.database, Database.empty]
  have raised : (late.perform.run (LockCall.performAll LockSample.database [acquired])).1 =
      .raised ⟨.staleLockRequiresRecovery,
        "Expired cluster lock 1 requires rediscovery before release"⟩ := by decide +kernel
  obtain ⟨_, calls⟩ := lock_table_exclusive empty [acquired]
  exact ⟨(calls late _ _ rfl).1 rfl _ raised, by decide +kernel⟩

end ElKeeper
