import ElKeeper.ExecutionSteps
import Mathlib.Data.String.Basic

/-!
# When locks are granted

An acquisition is granted exactly when each of its scopes is free or held by the owner
already, and a refused one changes nothing.  The locks of a plan are listed in the order of
their scopes, so that the first of them does not depend on when they were taken.
-/

namespace ElKeeper

open Program MaintenanceStore

/-! ### The order of scopes -/

namespace LockRequest

theorem le_iff {first second : LockRequest} :
    first.le second = true ↔
      first.1.value < second.1.value ∨ first.1 = second.1 ∧ first.2 ≤ second.2 := by
  simp only [le, Bool.or_eq_true, Bool.and_eq_true, decide_eq_true_eq]

theorem value_injective {first second : LockScope} (same : first.value = second.value) :
    first = second := by
  cases first <;> cases second <;> first | rfl | (revert same; decide)

theorem le_or_le (first second : LockRequest) :
    first.le second = true ∨ second.le first = true := by
  rw [le_iff, le_iff]
  rcases lt_trichotomy first.1.value second.1.value with less | same | more
  · exact .inl (.inl less)
  · have sameScope := value_injective same
    rcases le_total first.2 second.2 with before | after
    · exact .inl (.inr ⟨sameScope, before⟩)
    · exact .inr (.inr ⟨sameScope.symm, after⟩)
  · exact .inr (.inl more)

theorem le_trans {first second third : LockRequest} (one : first.le second = true)
    (two : second.le third = true) : first.le third = true := by
  rw [le_iff] at one two ⊢
  rcases one with less | ⟨same, before⟩
  · rcases two with less' | ⟨same', _⟩
    · exact .inl (less.trans less')
    · exact .inl (same' ▸ less)
  · rcases two with less' | ⟨same', before'⟩
    · exact .inl (same ▸ less')
    · exact .inr ⟨same.trans same', before.trans before'⟩

theorem le_antisymm {first second : LockRequest} (one : first.le second = true)
    (two : second.le first = true) : first = second := by
  rw [le_iff] at one two
  rcases one with less | ⟨same, before⟩
  · rcases two with less' | ⟨same', _⟩
    · exact absurd (less.trans less') (lt_irrefl _)
    · exact absurd (same' ▸ less) (lt_irrefl _)
  · rcases two with less' | ⟨_, after⟩
    · exact absurd (same ▸ less') (lt_irrefl _)
    · exact Prod.ext same (before.antisymm after)

end LockRequest

namespace LockRecord

/-- The scope of a lock. -/
def request (lock : LockRecord) : LockRequest :=
  (lock.scope, lock.identifier)

theorem covers_iff {lock : LockRecord} {request : LockRequest} :
    lock.covers request = true ↔ lock.request = request ∧ lock.releasedAt = none := by
  simp only [covers, active, LockRecord.request, Bool.and_eq_true, decide_eq_true_eq, Prod.ext_iff]

/-- The order in which `list_active_locks` sorts. -/
def before (first second : LockRecord) : Bool :=
  LockRequest.le first.request second.request

instance : Std.Total fun first second : LockRecord => first.before second = true :=
  ⟨fun first second => LockRequest.le_or_le first.request second.request⟩

instance : IsTrans LockRecord fun first second => first.before second = true :=
  ⟨fun _ _ _ one two => LockRequest.le_trans one two⟩

end LockRecord

/-- Two active locks of one scope are one lock. -/
theorem ExclusiveLocks.same {locks : List LockRecord} (exclusive : ExclusiveLocks locks)
    {first second : LockRecord} (isFirst : first ∈ locks) (isSecond : second ∈ locks)
    {request : LockRequest} (one : first.covers request = true)
    (two : second.covers request = true) : first = second := by
  have few := exclusive request
  rw [List.countP_eq_length_filter] at few
  have memberFirst : first ∈ locks.filter (·.covers request) :=
    List.mem_filter.mpr ⟨isFirst, one⟩
  have memberSecond : second ∈ locks.filter (·.covers request) :=
    List.mem_filter.mpr ⟨isSecond, two⟩
  generalize locks.filter (·.covers request) = covering at few memberFirst memberSecond
  match covering, few, memberFirst, memberSecond with
  | [], _, member, _ => cases member
  | [only], _, member, member' =>
      rw [List.mem_singleton] at member member'
      rw [member, member']
  | _ :: _ :: _, few, _, _ => simp at few

/-- The listed locks of a plan are its active ones. -/
theorem mem_listActiveLocks {database : Database} {planId : String} {lock : LockRecord} :
    lock ∈ database.listActiveLocks planId ↔
      lock ∈ database.locks ∧ lock.releasedAt = none ∧ lock.ownerPlanId = planId := by
  simp only [Database.listActiveLocks, Database.activeLocks, List.mem_insertionSort,
    List.mem_filter, LockRecord.active, Bool.and_eq_true, decide_eq_true_eq]

theorem listActiveLocks_sorted (database : Database) (planId : String) :
    (database.listActiveLocks planId).Pairwise fun first second => first.before second = true :=
  List.pairwise_insertionSort (fun first second : LockRecord => first.before second = true) _

/-- The first of sorted locks is the least. -/
theorem before_of_sorted {first : LockRecord} {others : List LockRecord}
    (sorted : (first :: others).Pairwise fun one two => one.before two = true) :
    ∀ lock ∈ first :: others, first.before lock = true := by
  rw [List.pairwise_cons] at sorted
  intro lock member
  rcases List.mem_cons.mp member with rfl | later
  · rcases LockRequest.le_or_le lock.request lock.request with same | same <;> exact same
  · exact sorted.1 lock later

/-- Active locks of a table without overlaps are told apart by their order. -/
theorem ExclusiveLocks.eq_of_before {locks : List LockRecord} (exclusive : ExclusiveLocks locks)
    {first second : LockRecord} (isFirst : first ∈ locks) (isSecond : second ∈ locks)
    (firstActive : first.releasedAt = none) (secondActive : second.releasedAt = none)
    (one : first.before second = true) (two : second.before first = true) : first = second :=
  exclusive.same isFirst isSecond
    (LockRecord.covers_iff.mpr ⟨LockRequest.le_antisymm one two, firstActive⟩)
    (LockRecord.covers_iff.mpr ⟨rfl, secondActive⟩)

/-! ### Acquisition -/

namespace MaintenanceStore

/-- A scope is free, or locked by the owner itself. -/
def LockOwner.Open (owner : LockOwner) (database : Database) (request : LockRequest) : Prop :=
  ∀ lock ∈ database.locks, lock.covers request = true →
    lock.expired owner.now = false ∧ lock.ownerPlanId = owner.planId ∧
      lock.ownerToken = owner.token

/-- Locks of the owner are added so that all scopes are locked by it. -/
structure Granted (owner : LockOwner) (requests : List LockRequest)
    (before after : Database) : Prop where
  added : ∃ rows counter, after =
      { before with locks := before.locks ++ rows, lockCounter := counter } ∧
    ∀ row ∈ rows, owner.Owns row
  covered : ∀ request ∈ requests, ∃ lock ∈ after.locks,
    lock.covers request = true ∧ lock.ownerPlanId = owner.planId

section Acquisition

variable {owner : LockOwner} {database : Database} {request : LockRequest}

theorem acquireLock_open (known : owner.known database = true)
    (isOpen : owner.Open database request) :
    ∃ lock after, (acquireLock owner request).run database = (.returned lock, after) ∧
      Granted owner [request] database after ∧
      ∀ other, other ≠ request → (owner.Open after other ↔ owner.Open database other) := by
  simp only [acquireLock, run_bind, run_read]
  cases found : database.locks.find? (·.covers request) with
  | some existing =>
      have member := List.mem_of_find?_eq_some found
      have covers : existing.covers request = true := by simpa using List.find?_some found
      obtain ⟨fresh, onPlan, onToken⟩ := isOpen existing member covers
      refine ⟨existing, database, ?_, ⟨⟨[], database.lockCounter, ?_, ?_⟩, ?_⟩, ?_⟩
      · simp [run_bind, run_require, fresh, onPlan, onToken]
      · rw [List.append_nil]
      · simp
      · intro other isRequest
        rw [List.mem_singleton] at isRequest
        exact ⟨existing, member, isRequest ▸ covers, onPlan⟩
      · exact fun _ _ => Iff.rfl
  | none =>
      let row : LockRecord :=
        { id := database.lockCounter + 1
          scope := request.1
          identifier := request.2
          ownerPlanId := owner.planId
          runId := owner.runId
          ownerToken := owner.token
          expiresAt := owner.expiresAt
          releasedAt := none }
      have covers {other : LockRequest} : row.covers other = true ↔ request = other := by
        rw [LockRecord.covers_iff, and_iff_left rfl]
        rfl
      refine ⟨row, database.addLock row, ?_, ⟨⟨[row], database.lockCounter + 1, rfl, ?_⟩, ?_⟩, ?_⟩
      · simp only [run_bind, run_read, run_require, known, if_true, run_update, run_pure]
        rfl
      · intro added isRow
        rw [List.mem_singleton] at isRow
        subst isRow
        exact ⟨rfl, rfl, rfl, rfl⟩
      · intro other isRequest
        rw [List.mem_singleton] at isRequest
        exact ⟨row, List.mem_append_right _ List.mem_cons_self, covers.mpr isRequest.symm, rfl⟩
      · intro other different
        have uncovered : ¬ row.covers other = true := fun covered =>
          different (covers.mp covered).symm
        simp only [LockOwner.Open, Database.addLock, List.forall_mem_append,
          List.forall_mem_singleton,
          uncovered, Bool.false_eq_true, false_implies, and_true]

theorem acquireLock_closed (exclusive : ExclusiveLocks database.locks)
    (isClosed : ¬ owner.Open database request) :
    ∃ error, (acquireLock owner request).run database = (.raised error, database) := by
  simp only [LockOwner.Open, not_forall] at isClosed
  obtain ⟨lock, member, covers, foreign⟩ := isClosed
  simp only [acquireLock, run_bind, run_read]
  cases found : database.locks.find? (·.covers request) with
  | none => exact absurd covers (List.find?_eq_none.mp found lock member)
  | some existing =>
      have covered : existing.covers request = true := by simpa using List.find?_some found
      have isLock : existing = lock :=
        exclusive.same (List.mem_of_find?_eq_some found) member covered covers
      subst isLock
      simp only [run_bind, run_require]
      by_cases fresh : existing.expired owner.now = false
      · have other : ¬ (existing.ownerPlanId = owner.planId ∧ existing.ownerToken = owner.token) :=
          fun same => foreign ⟨fresh, same⟩
        simp [fresh, other]
      · simp [fresh]

theorem Granted.known {requests : List LockRequest} {after : Database}
    (granted : Granted owner requests database after) (known : owner.known database = true) :
    owner.known after = true := by
  obtain ⟨rows, counter, rfl, _⟩ := granted.added
  exact known

theorem acquireEach_open {requests : List LockRequest} (distinct : requests.Nodup)
    (known : owner.known database = true)
    (isOpen : ∀ request ∈ requests, owner.Open database request) :
    ∃ locks after, (acquireEach owner requests).run database = (.returned locks, after) ∧
      Granted owner requests database after := by
  induction requests generalizing database with
  | nil =>
      refine ⟨[], database, rfl, ⟨[], database.lockCounter, ?_, ?_⟩, ?_⟩
      · rw [List.append_nil]
      · simp
      · simp
  | cons request requests ih =>
      rw [List.nodup_cons] at distinct
      obtain ⟨lock, middle, ran, first, others⟩ :=
        acquireLock_open known (isOpen request List.mem_cons_self)
      have remaining : ∀ other ∈ requests, owner.Open middle other := fun other member =>
        (others other fun same => distinct.1 (same ▸ member)).mpr
          (isOpen other (List.mem_cons_of_mem _ member))
      obtain ⟨locks, after, ranEach, rest⟩ := ih distinct.2 (first.known known) remaining
      refine ⟨lock :: locks, after, ?_, ?_, ?_⟩
      · simp only [acquireEach, run_bind, ran, ranEach, run_pure]
      · obtain ⟨rows, counter, rfl, owned⟩ := first.added
        obtain ⟨rows', counter', rfl, owned'⟩ := rest.added
        refine ⟨rows ++ rows', counter', by rw [List.append_assoc], ?_⟩
        exact List.forall_mem_append.mpr ⟨owned, owned'⟩
      · intro other member
        rcases List.mem_cons.mp member with rfl | later
        · obtain ⟨found, isLock, covers, onPlan⟩ := first.covered other List.mem_cons_self
          obtain ⟨rows, counter, rfl, _⟩ := rest.added
          exact ⟨found, List.mem_append_left _ isLock, covers, onPlan⟩
        · exact rest.covered other later

theorem acquireEach_closed {requests : List LockRequest} (distinct : requests.Nodup)
    (exclusive : ExclusiveLocks database.locks) (known : owner.known database = true)
    (isClosed : ∃ request ∈ requests, ¬ owner.Open database request) :
    ∃ error after, (acquireEach owner requests).run database = (.raised error, after) := by
  induction requests generalizing database with
  | nil => simp at isClosed
  | cons request requests ih =>
      rw [List.nodup_cons] at distinct
      by_cases isOpen : owner.Open database request
      · obtain ⟨lock, middle, ran, first, others⟩ := acquireLock_open known isOpen
        have kept : ExclusiveLocks middle.locks := by
          have adds : Relation.ReflTransGen (AddsLockFor owner) database middle := by
            simpa only [ran] using acquireLock_moves owner request database
          clear ran first others ih isClosed
          induction adds with
          | refl => exact exclusive
          | tail _ added ih =>
              obtain ⟨row, free, _, isAdded⟩ := added
              exact AddsLock.exclusive ⟨row, free, isAdded⟩ ih
        obtain ⟨refused, member, refuses⟩ := isClosed
        have later : refused ∈ requests := by
          rcases List.mem_cons.mp member with rfl | later
          · exact absurd isOpen refuses
          · exact later
        have different : refused ≠ request := fun same => distinct.1 (same ▸ later)
        obtain ⟨error, after, raised⟩ := ih distinct.2 kept (first.known known)
          ⟨refused, later, fun isOpen => refuses ((others refused different).mp isOpen)⟩
        exact ⟨error, after, by simp only [acquireEach, run_bind, ran, raised]⟩
      · obtain ⟨error, raised⟩ := acquireLock_closed exclusive isOpen
        exact ⟨error, database, by simp only [acquireEach, run_bind, raised]⟩

end Acquisition

/-- Who asks for locks with `acquire_locks`. -/
def requester (planId : String) (runId : Option Nat) (ttlSeconds : Nat)
    (ownerToken generated : String) (now : Nat) : LockOwner where
  planId := planId
  runId := runId
  token := if ownerToken ≠ "" then ownerToken else generated
  now := now
  expiresAt := secondsAfter now ttlSeconds

section Granting

variable {database : Database} {requests : List LockRequest} {planId ownerToken generated : String}
  {runId : Option Nat} {ttlSeconds now : Nat}

theorem mem_scopes {request : LockRequest} :
    request ∈ requests.dedup.insertionSort (fun first second => LockRequest.le first second) ↔
      request ∈ requests := by
  rw [List.mem_insertionSort, List.mem_dedup]

theorem scopes_nodup :
    (requests.dedup.insertionSort fun first second => LockRequest.le first second).Nodup :=
  (List.perm_insertionSort _ _).nodup_iff.mpr (List.nodup_dedup requests)

/-- An acquisition is granted, or refused without a trace. -/
theorem acquireLocks_decided (requests : List LockRequest)
    (exclusive : ExclusiveLocks database.locks)
    (known : (requester planId runId ttlSeconds ownerToken generated now).known database = true) :
    let owner := requester planId runId ttlSeconds ownerToken generated now
    let acquisition :=
      acquireLocks requests planId runId ttlSeconds (some ownerToken) generated now
    ((0 < ttlSeconds ∧ requests ≠ [] ∧ ∀ request ∈ requests, owner.Open database request) ∧
      ∃ locks after, acquisition.run database = (.returned locks, after) ∧
        Granted owner requests database after) ∨
    (¬ (0 < ttlSeconds ∧ requests ≠ [] ∧ ∀ request ∈ requests, owner.Open database request) ∧
      ∃ error, acquisition.run database = (.raised error, database)) := by
  intro owner acquisition
  change owner.known database = true at known
  have sameOwner : ({ planId := planId
                      runId := runId
                      token := if (some ownerToken).any (· ≠ "") then
                          (some ownerToken).getD generated else generated
                      now := now
                      expiresAt := secondsAfter now ttlSeconds } : LockOwner) = owner := by
    simp [owner, requester]
  have someScopes : (requests.dedup.insertionSort fun first second =>
      LockRequest.le first second) ≠ [] ↔ requests ≠ [] := by
    rw [← List.length_pos_iff, List.length_insertionSort, List.length_pos_iff]
    cases requests with
    | nil => simp
    | cons request requests =>
        simp only [ne_eq, reduceCtorEq, not_false_eq_true, iff_true]
        exact List.ne_nil_of_mem (List.mem_dedup.mpr List.mem_cons_self)
  by_cases positive : 0 < ttlSeconds
  · by_cases some : requests ≠ []
    · have ran : acquisition.run database =
          (atomically (acquireEach owner
            (requests.dedup.insertionSort fun first second =>
              LockRequest.le first second))).run database := by
        simp only [acquisition, acquireLocks, sameOwner, run_bind, run_require, positive,
          decide_eq_true (someScopes.mpr some), decide_true, if_true]
      rw [ran]
      by_cases isOpen : ∀ request ∈ requests, owner.Open database request
      · obtain ⟨locks, after, returned, granted⟩ := acquireEach_open scopes_nodup known
          fun request member => isOpen request (mem_scopes.mp member)
        refine .inl ⟨⟨positive, some, isOpen⟩, locks, after, ?_, granted.added, ?_⟩
        · simp only [atomically, returned]
        · exact fun request member => granted.covered request (mem_scopes.mpr member)
      · have isClosed := isOpen
        simp only [not_forall] at isClosed
        obtain ⟨request, member, refuses⟩ := isClosed
        obtain ⟨error, after, raised⟩ := acquireEach_closed scopes_nodup exclusive known
          ⟨request, mem_scopes.mpr member, refuses⟩
        refine .inr ⟨fun granted => isOpen granted.2.2, error, ?_⟩
        simp only [atomically, raised]
    · refine .inr ⟨fun granted => some granted.2.1,
        ⟨.valueError, "At least one lock scope is required"⟩, ?_⟩
      simp only [acquisition, acquireLocks, run_bind, run_require, positive,
        decide_eq_false (mt someScopes.mp some), decide_true, if_true, Bool.false_eq_true, if_false]
  · refine .inr ⟨fun granted => positive granted.1,
      ⟨.valueError, "ttl_seconds must be positive"⟩, ?_⟩
    simp only [acquisition, acquireLocks, run_bind, run_require, positive, decide_false,
      Bool.false_eq_true, if_false]

end Granting

end MaintenanceStore

end ElKeeper
