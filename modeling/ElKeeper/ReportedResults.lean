import ElKeeper.ActionAtomicity

/-!
# Reported results

`finalize` with any result of an adapter and any readings of the clock: the reported state may
be no state, the evidence for a lock may be no JSON, and a reading may lack its timezone.
Expired locks are recovered before the state is looked at: given up one after the other, and
then taken again with the other scopes of their plan.
-/

namespace ElKeeper

open Program MaintenanceStore MaintenanceExecutionService

/-- `MaintenanceState(text)`. -/
def MaintenanceState.ofText (text : String) : Option MaintenanceState :=
  [draft, ready, blocked, executing, paused, recoveryRequired, succeeded, failed, cancelled].find?
    (·.value = text)

theorem MaintenanceState.ofText_value (state : MaintenanceState) :
    ofText state.value = some state := by
  cases state <;> decide

/-- What an adapter found out about an expired lock. -/
inductive RediscoveryEvidence where
  | content (observation : Dict)
  | unwritable

/-- `AdapterResult`, as an adapter may return it. -/
structure ReportedResult where
  lifecycleState : Option String
  staleLockEvidence : List (Nat × RediscoveryEvidence)

namespace ReportedResult

/-- The evidence for a lock, unless it is missing or empty. -/
def evidenceFor (result : ReportedResult) (lock : LockRecord) : Option RediscoveryEvidence :=
  match result.staleLockEvidence.lookup lock.id with
  | some (.content observation) => if observation = [] then none else some (.content observation)
  | found => found

/-- `_result_state`. -/
def state (result : ReportedResult) (action : MaintenanceAction) :
    Except Fault (Option MaintenanceState) :=
  match result.lifecycleState with
  | none => resultState action ⟨none, []⟩
  | some text =>
      match MaintenanceState.ofText text with
      | some reported => resultState action ⟨some reported, []⟩
      | none => .error ⟨.valueError, "'" ++ text ++ "' is not a valid MaintenanceState"⟩

end ReportedResult

/-- The two readings of the clock: before the first write, and for the end of the run. -/
structure ClockReadings where
  opening : Except Fault Nat
  closing : Except Fault Nat

namespace MaintenanceExecutionService

/-- The recovery of one expired lock. -/
def recoverReported (evidence : Option RediscoveryEvidence) (lockId now : Nat) :
    Operation Unit :=
  match evidence with
  | some (.content observation) => do
      let _ ← recoverStaleLock lockId observation now
      pure ()
  | some .unwritable => raise ⟨.valueError, "Object is not JSON serializable"⟩
  | none => raise ⟨.valueError, "Stale lock release requires rediscovery evidence"⟩

def recoverEachReported (result : ReportedResult) (now : Nat) : List LockRecord → Operation Unit
  | [] => pure ()
  | lock :: locks => do
      recoverReported (result.evidenceFor lock) lock.id now
      recoverEachReported result now locks

/-- `_recover_stale_locks`. -/
def recoverReportedLocks (service : MaintenanceExecutionService) (plan : PlanRecord)
    (ticket : MaintenanceActionTicket) (result : ReportedResult) (now : Nat)
    (generated : String) : Operation Unit := do
  let stale ← read fun database => (database.listActiveLocks plan.id).filter (·.expired now)
  require (stale.all fun lock => (result.evidenceFor lock).isSome)
    (validation "Stale lock recovery requires rediscovery evidence for every expired lock")
  recoverEachReported result now stale
  if stale = [] then pure ()
  else do
    let remaining ← read fun database => database.listActiveLocks plan.id
    let requests ← ofExcept (lockRequests plan true)
    let _ ← acquireLocks requests plan.id (some ticket.runId) service.lockTtlSeconds
      (some (firstToken remaining)) generated now
    pure ()

/-- `_update_run`. -/
def updateRun (runId : Nat) (state : MaintenanceState) (closing : Except Fault Nat) :
    Operation Unit := do
  if terminal state then
    let _ ← ofExcept closing
  update (Database.setRunStatus runId (runStatus state))

/-- `finalize` after the recovery of expired locks. -/
def concludeReported (ticket : MaintenanceActionTicket) (result : ReportedResult) (now : Nat)
    (closing : Except Fault Nat) : Operation PlanRecord := do
  let plan ← getPlan ticket.planId
  let target ← ofExcept (result.state ticket.action)
  let reached ← applyResult plan target
  if terminal reached.lifecycleState then
    releaseActiveLocks reached.id now
  updateRun ticket.runId reached.lifecycleState closing
  getPlan reached.id

/-- `finalize`, for any result and any readings of the clock. -/
def finalizeReported (service : MaintenanceExecutionService) (ticket : MaintenanceActionTicket)
    (result : ReportedResult) (readings : ClockReadings) (generated : String) :
    Operation PlanRecord := do
  let found ← getPlan ticket.planId
  ofExcept (service.validateTicket found ticket false)
  let now ← ofExcept readings.opening
  if ticket.action = .recover then
    recoverReportedLocks service found ticket result now generated
  concludeReported ticket result now readings.closing

/-! ### Results of JSON -/

/-- A result whose state is one and whose evidence is JSON. -/
def AdapterResult.reported (result : AdapterResult) : ReportedResult where
  lifecycleState := result.lifecycleState.map (·.value)
  staleLockEvidence := result.staleLockEvidence.map fun item => (item.1, .content item.2)

theorem updateRun_returns (database : Database) (runId : Nat) {state : MaintenanceState}
    {closing : Except Fault Nat}
    (timed : terminal state = true → ∃ reading, closing = .ok reading) :
    (updateRun runId state closing).run database =
      (.returned (), database.setRunStatus runId (runStatus state)) := by
  by_cases isTerminal : terminal state = true
  · obtain ⟨reading, rfl⟩ := timed isTerminal
    simp only [updateRun, isTerminal, if_true, run_bind, Program.ofExcept, run_pure, run_update]
  · simp only [updateRun, isTerminal, Bool.false_eq_true, if_false, run_update]

theorem updateRun_raises {runId : Nat} {state : MaintenanceState} {error : Fault}
    (isTerminal : terminal state = true) :
    (updateRun runId state (.error error)).run database = (.raised error, database) := by
  simp only [updateRun, isTerminal, if_true, run_bind, Program.ofExcept, run_raise]

section Reported

variable {service : MaintenanceExecutionService} {result : AdapterResult}

theorem reported_state (action : MaintenanceAction) :
    (AdapterResult.reported result).state action = resultState action result := by
  cases given : result.lifecycleState with
  | none => simp only [ReportedResult.state, AdapterResult.reported, given, Option.map_none,
      resultState]
  | some state => simp only [ReportedResult.state, AdapterResult.reported, given, Option.map_some,
      MaintenanceState.ofText_value, resultState]

theorem reported_evidenceFor (lock : LockRecord) :
    (AdapterResult.reported result).evidenceFor lock =
      (AdapterResult.evidenceFor result lock).map .content := by
  have mapped : (AdapterResult.reported result).staleLockEvidence.lookup lock.id =
      (result.staleLockEvidence.lookup lock.id).map RediscoveryEvidence.content := by
    simp only [AdapterResult.reported]
    induction result.staleLockEvidence with
    | nil => rfl
    | cons item items ih =>
        obtain ⟨lockId, observation⟩ := item
        simp only [List.map_cons, List.lookup_cons]
        split
        · rfl
        · exact ih
  simp only [ReportedResult.evidenceFor, mapped, AdapterResult.evidenceFor]
  cases result.staleLockEvidence.lookup lock.id with
  | none => rfl
  | some observation =>
      by_cases empty : observation = []
      · simp [empty]
      · simp [empty]

/-- Equal parts make equal sequences. -/
theorem run_bind_congr {α β : Type} {first other : Operation α} {next following : α → Operation β}
    (sameFirst : ∀ database, first.run database = other.run database)
    (sameNext : ∀ value database, (next value).run database = (following value).run database)
    (database : Database) : (first >>= next).run database = (other >>= following).run database := by
  rw [run_bind, run_bind, sameFirst]
  rcases other.run database with ⟨outcome, after⟩
  cases outcome with
  | returned value => exact sameNext value after
  | raised error => rfl
  | stopped => rfl

theorem recoverEachReported_reported (now : Nat) (locks : List LockRecord) (database : Database) :
    (recoverEachReported (AdapterResult.reported result) now locks).run database =
      (recoverEach result now locks).run database := by
  induction locks generalizing database with
  | nil => rfl
  | cons lock locks ih =>
      rw [recoverEachReported, recoverEach, reported_evidenceFor]
      cases AdapterResult.evidenceFor result lock with
      | none => rfl
      | some observation =>
          simp only [Option.map_some, Option.getD_some, recoverReported, run_bind]
          rcases (recoverStaleLock lock.id observation now).run database with ⟨outcome, after⟩
          cases outcome with
          | returned value => exact ih after
          | raised error => rfl
          | stopped => rfl

/-- `finalize` is what it was for results of JSON and a clock that stands still. -/
theorem finalizeReported_reported (ticket : MaintenanceActionTicket) (now : Nat)
    (generated : String) (database : Database) :
    (service.finalizeReported ticket (AdapterResult.reported result) ⟨.ok now, .ok now⟩
        generated).run database =
      (service.finalize ticket result now generated).run database := by
  have concluded (database : Database) :
      (concludeReported ticket (AdapterResult.reported result) now (.ok now)).run database =
        (do
          let plan ← getPlan ticket.planId
          let target ← ofExcept (resultState ticket.action result)
          let reached ← applyResult plan target
          if terminal reached.lifecycleState then
            releaseActiveLocks reached.id now
          update (Database.setRunStatus ticket.runId (runStatus reached.lifecycleState))
          getPlan reached.id : Operation PlanRecord).run database := by
    rw [concludeReported, reported_state]
    refine run_bind_congr (fun _ => rfl) (fun plan database => ?_) database
    refine run_bind_congr (fun _ => rfl) (fun target database => ?_) database
    refine run_bind_congr (fun _ => rfl) (fun reached database => ?_) database
    have updated (database : Database) :
        (updateRun ticket.runId reached.lifecycleState (.ok now)).run database =
          (update (Database.setRunStatus ticket.runId (runStatus reached.lifecycleState)) :
            Operation Unit).run database :=
      updateRun_returns database ticket.runId fun _ => ⟨now, rfl⟩
    dsimp only
    split
    · exact run_bind_congr (fun _ => rfl)
        (fun _ database => run_bind_congr updated (fun _ _ => rfl) database) database
    · exact run_bind_congr updated (fun _ _ => rfl) database
  have recovered (found : PlanRecord) (database : Database) :
      (recoverReportedLocks service found ticket (AdapterResult.reported result) now
        generated).run database =
      (recoverStaleLocks service found ticket result now generated).run database := by
    have given (stale : List LockRecord) :
        (stale.all fun lock => ((AdapterResult.reported result).evidenceFor lock).isSome) =
          stale.all fun lock => (AdapterResult.evidenceFor result lock).isSome := by
      simp only [reported_evidenceFor, Option.isSome_map]
    refine run_bind_congr (fun _ => rfl) (fun stale database => ?_) database
    rw [given]
    refine run_bind_congr (fun _ => rfl) (fun _ database => ?_) database
    exact run_bind_congr (recoverEachReported_reported now stale) (fun _ _ => rfl) database
  refine run_bind_congr (fun _ => rfl) (fun found database => ?_) database
  refine run_bind_congr (fun _ => rfl) (fun _ database => ?_) database
  rw [run_bind]
  simp only [Program.ofExcept, run_pure]
  split
  · exact run_bind_congr (recovered found) (fun _ database => concluded database) database
  · exact concluded database

end Reported

/-! ### Expired locks -/

/-- A lock that is given up. -/
def givenUp (ids : List Nat) (now : Nat) (lock : LockRecord) : LockRecord :=
  if lock.id ∈ ids ∧ lock.active = true then { lock with releasedAt := some now } else lock

section Recovery

variable {database : Database} {now : Nat} {result : ReportedResult}

theorem givenUp_id (ids : List Nat) (lock : LockRecord) : (givenUp ids now lock).id = lock.id := by
  simp only [givenUp]
  split <;> rfl

theorem givenUp_of_not_mem {ids : List Nat} {lock : LockRecord} (other : lock.id ∉ ids) :
    givenUp ids now lock = lock := by
  simp only [givenUp, other, false_and, if_false]

theorem givenUp_cons (id : Nat) (ids : List Nat) (lock : LockRecord) :
    givenUp ids now (givenUp [id] now lock) = givenUp (id :: ids) now lock := by
  by_cases isActive : lock.active = true
  · by_cases isFirst : lock.id = id
    · have released : givenUp [id] now lock = { lock with releasedAt := some now } := by
        simp only [givenUp, isFirst, List.mem_singleton, isActive, and_self, if_true]
      have whole : givenUp (id :: ids) now lock = { lock with releasedAt := some now } := by
        simp only [givenUp, isFirst, List.mem_cons_self, isActive, and_self, if_true]
      rw [released, whole]
      simp [givenUp, LockRecord.active]
    · simp [givenUp, isFirst]
  · simp [givenUp, isActive]

/-- The recovery of an expired lock with evidence. -/
theorem recoverStaleLock_run (distinct : (database.locks.map (·.id)).Nodup) {lock : LockRecord}
    (member : lock ∈ database.locks) (isActive : lock.releasedAt = none)
    (expired : lock.expired now = true) {observation : Dict} (given : observation ≠ []) :
    ∃ revised, (recoverStaleLock lock.id observation now).run database =
      (.returned revised, database.mapLocks (givenUp [lock.id] now)) := by
  have found : database.locks.find? (fun other => decide (other.id = lock.id)) = some lock :=
    find?_of_nodup_key distinct member
  have foundAfter : (database.locks.map (givenUp [lock.id] now)).find?
      (fun other => decide (other.id = lock.id)) = some (givenUp [lock.id] now lock) := by
    have sameId : (fun other : LockRecord => decide (other.id = lock.id)) ∘
        givenUp [lock.id] now = fun other => decide (other.id = lock.id) := by
      funext other
      simp only [Function.comp, givenUp_id]
    rw [List.find?_map, sameId, found, Option.map_some]
  have change : (fun other : LockRecord =>
      if other.id = lock.id ∧ other.active = true then { other with releasedAt := some now }
      else other) = givenUp [lock.id] now := by
    funext other
    simp only [givenUp, List.mem_singleton]
  refine ⟨givenUp [lock.id] now lock, ?_⟩
  have opened : lock.active = true := by simp [LockRecord.active, isActive]
  simp only [recoverStaleLock, getLock, run_bind, run_require, run_read, given, ne_eq,
    not_false_eq_true, decide_true, if_true, found, run_pure, opened, expired, run_update, change,
    Database.mapLocks, foundAfter]

/-- A lock that is gone stays gone while locks are only given up. -/
theorem not_mem_mapLocks {spent : LockRecord} (isActive : spent.releasedAt = none)
    (gone : spent ∉ database.locks) {change : LockRecord → LockRecord}
    (givesUp : ∀ lock, change lock = lock ∨ (change lock).releasedAt ≠ none) :
    spent ∉ (database.mapLocks change).locks := by
  intro member
  obtain ⟨lock, isLock, rfl⟩ := List.mem_map.mp member
  rcases givesUp lock with same | released
  · exact gone (by rw [same]; exact isLock)
  · exact released isActive

theorem givenUp_cases (ids : List Nat) (now : Nat) (lock : LockRecord) :
    givenUp ids now lock = lock ∨ (givenUp ids now lock).releasedAt ≠ none := by
  simp only [givenUp]
  split
  · exact .inr (by simp)
  · exact .inl rfl

/-- The recoveries change locks only, and give up some of them. -/
theorem recoverEachReported_moves (locks : List LockRecord) :
    Moves (fun before after => ∃ change : LockRecord → LockRecord,
        (∀ lock, change lock = lock ∨ (change lock).releasedAt ≠ none) ∧
          after = before.mapLocks change)
      (recoverEachReported result now locks) := by
  induction locks with
  | nil => exact .pure ()
  | cons lock locks ih =>
      refine .bind ?_ fun _ => ih
      match result.evidenceFor lock with
      | none => exact .raise _
      | some .unwritable => exact .raise _
      | some (.content observation) =>
          refine .bind ?_ fun _ => .pure ()
          have reads (lockId : Nat) : Moves (fun before after =>
              ∃ change : LockRecord → LockRecord,
                (∀ lock, change lock = lock ∨ (change lock).releasedAt ≠ none) ∧
                  after = before.mapLocks change) (getLock lockId) := by
            refine .bind (.read _) fun found => ?_
            cases found with
            | none => exact .raise _
            | some lock => exact .pure lock
          refine .bind (.require _ _) fun _ => .bind (reads _) fun found => ?_
          refine .bind (.require _ _) fun _ => .bind (.require _ _) fun _ => ?_
          refine .bind (.update fun written => ⟨_, fun other => ?_, rfl⟩) fun _ => reads _
          split
          · exact .inr (by simp)
          · exact .inl rfl

theorem not_mem_recoverEachReported {spent : LockRecord} (isActive : spent.releasedAt = none)
    (gone : spent ∉ database.locks) (locks : List LockRecord) :
    spent ∉ ((recoverEachReported result now locks).run database).2.locks := by
  have kept : ∀ before after : Database, (∃ change : LockRecord → LockRecord,
      (∀ lock, change lock = lock ∨ (change lock).releasedAt ≠ none) ∧
        after = before.mapLocks change) → spent ∉ before.locks → spent ∉ after.locks := by
    rintro before _ ⟨change, givesUp, rfl⟩ absent
    exact not_mem_mapLocks isActive absent givesUp
  exact (recoverEachReported_moves locks).keeps kept gone

/-- The locks can be recovered: they are there, active and expired. -/
structure Recoverable (database : Database) (now : Nat) (locks : List LockRecord) : Prop where
  distinct : (locks.map (·.id)).Nodup
  member : ∀ lock ∈ locks, lock ∈ database.locks
  unreleased : ∀ lock ∈ locks, lock.releasedAt = none
  expired : ∀ lock ∈ locks, lock.expired now = true

theorem Recoverable.rest {lock : LockRecord} {locks : List LockRecord}
    (recoverable : Recoverable database now (lock :: locks)) :
    Recoverable (database.mapLocks (givenUp [lock.id] now)) now locks := by
  obtain ⟨distinct, member, unreleased, expired⟩ := recoverable
  rw [List.map_cons, List.nodup_cons] at distinct
  refine ⟨distinct.2, fun other isOther => ?_,
    fun other isOther => unreleased other (List.mem_cons_of_mem _ isOther),
    fun other isOther => expired other (List.mem_cons_of_mem _ isOther)⟩
  have different : other.id ∉ [lock.id] := by
    rw [List.mem_singleton]
    exact fun same => distinct.1 (same ▸ List.mem_map_of_mem isOther)
  have kept : givenUp [lock.id] now other = other := givenUp_of_not_mem different
  exact List.mem_map.mpr ⟨other, member other (List.mem_cons_of_mem _ isOther), kept⟩

theorem givenUp_distinct (distinct : (database.locks.map (·.id)).Nodup) (ids : List Nat) :
    ((database.mapLocks (givenUp ids now)).locks.map (·.id)).Nodup := by
  have sameIds : (database.locks.map (givenUp ids now)).map (·.id) =
      database.locks.map (·.id) := by
    rw [List.map_map]
    exact List.map_congr_left fun lock _ => givenUp_id ids lock
  simp only [Database.mapLocks, sameIds]
  exact distinct

/-- The evidence for a lock can be stored. -/
def Writable (result : ReportedResult) (lock : LockRecord) : Prop :=
  ∃ observation, result.evidenceFor lock = some (.content observation)

theorem Writable.given {lock : LockRecord} {observation : Dict}
    (content : result.evidenceFor lock = some (.content observation)) : observation ≠ [] := by
  simp only [ReportedResult.evidenceFor] at content
  split at content
  · split at content
    · cases content
    · rename_i some
      cases content
      exact some
  · rename_i other
    exact absurd content (other observation)

theorem recoverReported_run (distinct : (database.locks.map (·.id)).Nodup) {lock : LockRecord}
    {locks : List LockRecord} (recoverable : Recoverable database now (lock :: locks))
    (writable : Writable result lock) :
    (recoverReported (result.evidenceFor lock) lock.id now).run database =
      (.returned (), database.mapLocks (givenUp [lock.id] now)) := by
  obtain ⟨observation, content⟩ := writable
  obtain ⟨revised, ran⟩ := recoverStaleLock_run distinct
    (recoverable.member lock List.mem_cons_self) (recoverable.unreleased lock List.mem_cons_self)
    (recoverable.expired lock List.mem_cons_self) (Writable.given content)
  simp only [recoverReported, content, run_bind, ran, run_pure]

/-- Expired locks with evidence that can be stored are all given up. -/
theorem recoverEachReported_run {locks : List LockRecord}
    (distinct : (database.locks.map (·.id)).Nodup)
    (recoverable : Recoverable database now locks)
    (writable : ∀ lock ∈ locks, Writable result lock) :
    (recoverEachReported result now locks).run database =
      (.returned (), database.mapLocks (givenUp (locks.map (·.id)) now)) := by
  induction locks generalizing database with
  | nil =>
      have unchanged : database.mapLocks (givenUp [] now) = database := by
        have same : database.locks.map (givenUp [] now) = database.locks := by
          refine (List.map_congr_left fun lock _ => ?_).trans (List.map_id _)
          exact givenUp_of_not_mem (List.not_mem_nil)
        simp only [Database.mapLocks, same]
      simp only [recoverEachReported, run_pure, List.map_nil, unchanged]
  | cons lock locks ih =>
      have first := recoverReported_run distinct recoverable (writable lock List.mem_cons_self)
      have rest := ih (givenUp_distinct distinct [lock.id]) recoverable.rest
        fun other member => writable other (List.mem_cons_of_mem _ member)
      have whole : (database.mapLocks (givenUp [lock.id] now)).mapLocks
          (givenUp (locks.map (·.id)) now) =
            database.mapLocks (givenUp ((lock :: locks).map (·.id)) now) := by
        simp only [Database.mapLocks, List.map_map, List.map_cons]
        congr 1
        exact List.map_congr_left fun other _ => givenUp_cons lock.id _ other
      simp only [recoverEachReported, run_bind, first, rest, whole]

/-- Where the evidence for some expired lock cannot be stored, the recovery raises: with all
locks in place if it is the first one, without the first one otherwise. -/
theorem recoverEachReported_raised {locks : List LockRecord}
    (distinct : (database.locks.map (·.id)).Nodup)
    (recoverable : Recoverable database now locks)
    (unwritable : ∃ lock ∈ locks, ¬ Writable result lock) :
    ∃ first others error after, locks = first :: others ∧
      (recoverEachReported result now locks).run database = (.raised error, after) ∧
      (¬ Writable result first → after = database) ∧
      (Writable result first → first ∉ after.locks) := by
  induction locks generalizing database with
  | nil => simp at unwritable
  | cons lock locks ih =>
      by_cases writable : Writable result lock
      · have first := recoverReported_run distinct recoverable writable
        have later : ∃ other ∈ locks, ¬ Writable result other := by
          obtain ⟨other, member, refused⟩ := unwritable
          rcases List.mem_cons.mp member with rfl | later
          · exact absurd writable refused
          · exact ⟨other, later, refused⟩
        obtain ⟨_, _, error, after, _, raised, _, _⟩ :=
          ih (givenUp_distinct distinct [lock.id]) recoverable.rest later
        refine ⟨lock, locks, error, after, rfl, ?_, fun refused => absurd writable refused,
          fun _ => ?_⟩
        · simp only [recoverEachReported, run_bind, first, raised]
        · have isActive := recoverable.unreleased lock List.mem_cons_self
          have gone : lock ∉ (database.mapLocks (givenUp [lock.id] now)).locks := by
            intro member
            obtain ⟨other, isOther, same⟩ := List.mem_map.mp member
            have sameId : other.id = lock.id :=
              (givenUp_id [lock.id] other).symm.trans (congrArg LockRecord.id same)
            have isLock : other = lock :=
              List.inj_on_of_nodup_map distinct isOther
                (recoverable.member lock List.mem_cons_self) sameId
            subst isLock
            simp [givenUp, LockRecord.active, isActive] at same
            rw [← same] at isActive
            cases isActive
          have kept : lock ∉ ((recoverEachReported result now locks).run
              (database.mapLocks (givenUp [lock.id] now))).2.locks :=
            not_mem_recoverEachReported isActive gone locks
          rw [raised] at kept
          exact kept
      · refine ⟨lock, locks, ?_⟩
        have refuses : ∃ error,
            (recoverReported (result.evidenceFor lock) lock.id now).run database =
              (.raised error, database) := by
          cases evidence : result.evidenceFor lock with
          | none => exact ⟨_, rfl⟩
          | some found =>
              cases found with
              | unwritable => exact ⟨_, rfl⟩
              | content observation => exact absurd ⟨observation, evidence⟩ writable
        obtain ⟨error, raised⟩ := refuses
        refine ⟨error, database, rfl, ?_, fun _ => rfl, fun given => absurd given writable⟩
        simp only [recoverEachReported, run_bind, raised]

end Recovery

/-! ### Locks taken again -/

/-- The expired locks of a plan. -/
def staleLocks (database : Database) (planId : String) (now : Nat) : List LockRecord :=
  (database.listActiveLocks planId).filter (·.expired now)

/-- The token of the locks that a plan has left, or the one that is drawn. -/
def reissueToken (database : Database) (planId : String) (now : Nat) (generated : String) :
    String :=
  let token := firstToken ((database.listActiveLocks planId).filter fun lock => !lock.expired now)
  if token ≠ "" then token else generated

/-- Whatever is locked of the scopes of a plan is expired and its own, or held under its token. -/
def Relockable (service : MaintenanceExecutionService) (database : Database) (plan : PlanRecord)
    (now : Nat) (generated : String) : Prop :=
  0 < service.lockTtlSeconds ∧ ∀ requests, lockRequests plan true = .ok requests →
    ∀ request ∈ requests, ∀ lock ∈ database.locks, lock.covers request = true →
      lock.ownerPlanId = plan.id ∧
        (lock.expired now = true ∨ lock.ownerToken = reissueToken database plan.id now generated)

/-- No expired lock stands in the way of a release. -/
def Releasable (database : Database) (planId : String) (now : Nat) : Prop :=
  ∀ lock ∈ database.locks, lock.releasedAt = none →
    lock.ownerPlanId = planId ∨
        lock.ownerToken = firstToken (database.listActiveLocks planId) →
      lock.expired now = false

/-- The locks of a plan are taken again in place of the expired ones. -/
structure Relocked (planId token : String) (now : Nat) (before after : Database) : Prop where
  plans : after.plans = before.plans
  runs : after.runs = before.runs
  spent : ∀ lock ∈ staleLocks before planId now, lock ∉ after.locks
  held : after.listActiveLocks planId ≠ []
  releasable : Releasable after planId now ↔
    ∀ lock ∈ before.locks, lock.releasedAt = none → lock.ownerToken = token →
      lock.expired now = true → lock.ownerPlanId = planId

section Relocking

variable {database : Database} {planId : String} {now : Nat}

theorem mem_staleLocks {lock : LockRecord} :
    lock ∈ staleLocks database planId now ↔
      (lock ∈ database.locks ∧ lock.releasedAt = none ∧ lock.ownerPlanId = planId) ∧
        lock.expired now = true := by
  rw [staleLocks, List.mem_filter, mem_listActiveLocks]

theorem staleLocks_recoverable (distinct : (database.locks.map (·.id)).Nodup) :
    Recoverable database now (staleLocks database planId now) where
  distinct := by
    have listed : ((database.listActiveLocks planId).map (·.id)).Nodup := by
      refine ((List.perm_insertionSort _ _).map _).nodup_iff.mpr ?_
      exact (List.filter_sublist.map fun lock : LockRecord => lock.id).nodup distinct
    exact (List.filter_sublist.map fun lock : LockRecord => lock.id).nodup listed
  member lock isStale := (mem_staleLocks.mp isStale).1.1
  unreleased lock isStale := (mem_staleLocks.mp isStale).1.2.1
  expired lock isStale := (mem_staleLocks.mp isStale).2

/-- The table without the expired locks of a plan. -/
def withoutStale (database : Database) (planId : String) (now : Nat) : Database :=
  database.mapLocks (givenUp ((staleLocks database planId now).map (·.id)) now)

/-- What stays locked is what was, but for the expired locks of the plan. -/
theorem mem_withoutStale (distinct : (database.locks.map (·.id)).Nodup) {lock : LockRecord} :
    (lock ∈ (withoutStale database planId now).locks ∧ lock.releasedAt = none) ↔
      (lock ∈ database.locks ∧ lock.releasedAt = none) ∧
        ¬ (lock.ownerPlanId = planId ∧ lock.expired now = true) := by
  constructor
  · rintro ⟨member, isActive⟩
    obtain ⟨other, isOther, rfl⟩ := List.mem_map.mp member
    rcases givenUp_cases ((staleLocks database planId now).map (·.id)) now other with
      same | released
    · rw [same] at isActive ⊢
      refine ⟨⟨isOther, isActive⟩, fun isStale => ?_⟩
      have listed : other.id ∈ (staleLocks database planId now).map (·.id) :=
        List.mem_map_of_mem (mem_staleLocks.mpr ⟨⟨isOther, isActive, isStale.1⟩, isStale.2⟩)
      have released : givenUp ((staleLocks database planId now).map (·.id)) now other =
          { other with releasedAt := some now } := by
        simp only [givenUp, listed, LockRecord.active, isActive, decide_true, and_self, if_true]
      rw [same] at released
      rw [released] at isActive
      cases isActive
    · exact absurd isActive released
  · rintro ⟨⟨member, isActive⟩, notStale⟩
    have unlisted : lock.id ∉ (staleLocks database planId now).map (·.id) := by
      intro listed
      obtain ⟨stale, isStale, sameId⟩ := List.mem_map.mp listed
      have facts := mem_staleLocks.mp isStale
      have isLock : stale = lock :=
        List.inj_on_of_nodup_map distinct facts.1.1 member sameId
      subst isLock
      exact notStale ⟨facts.1.2.2, facts.2⟩
    exact ⟨List.mem_map.mpr ⟨lock, member, givenUp_of_not_mem unlisted⟩, isActive⟩

theorem withoutStale_exclusive (exclusive : ExclusiveLocks database.locks) :
    ExclusiveLocks (withoutStale database planId now).locks := by
  intro request
  have fewer : ((database.locks.map (givenUp ((staleLocks database planId now).map (·.id))
      now))).countP (·.covers request) ≤ database.locks.countP (·.covers request) := by
    rw [List.countP_map]
    refine List.countP_mono_left fun lock member covered => ?_
    rw [Function.comp_apply] at covered
    rcases givenUp_cases ((staleLocks database planId now).map (·.id)) now lock with
      same | released
    · rwa [same] at covered
    · exact absurd (LockRecord.covers_iff.mp covered).2 released
  exact fewer.trans (exclusive request)

/-- The locks that a plan has left are listed as before. -/
theorem listActiveLocks_withoutStale (constrained : Constrained database) :
    (withoutStale database planId now).listActiveLocks planId =
      (database.listActiveLocks planId).filter fun lock => !lock.expired now := by
  have members (lock : LockRecord) :
      lock ∈ (withoutStale database planId now).listActiveLocks planId ↔
        lock ∈ (database.listActiveLocks planId).filter fun lock => !lock.expired now := by
    rw [List.mem_filter, mem_listActiveLocks, mem_listActiveLocks, Bool.not_eq_true']
    constructor
    · rintro ⟨member, isActive, onPlan⟩
      obtain ⟨⟨isLock, _⟩, notStale⟩ :=
        (mem_withoutStale constrained.lock_ids).mp ⟨member, isActive⟩
      exact ⟨⟨isLock, isActive, onPlan⟩, by simpa [onPlan] using notStale⟩
    · rintro ⟨⟨isLock, isActive, onPlan⟩, fresh⟩
      have notStale : ¬ (lock.ownerPlanId = planId ∧ lock.expired now = true) := by simp [fresh]
      have kept := (mem_withoutStale constrained.lock_ids).mpr ⟨⟨isLock, isActive⟩, notStale⟩
      exact ⟨kept.1, isActive, onPlan⟩
  have distinct (other : Database) (ids : (other.locks.map (·.id)).Nodup) :
      (other.listActiveLocks planId).Nodup := by
    refine (List.perm_insertionSort _ _).nodup_iff.mpr ?_
    exact List.filter_sublist.nodup ids.of_map
  have permuted := (List.perm_ext_iff_of_nodup
    (distinct _ (givenUp_distinct constrained.lock_ids _))
    (List.filter_sublist.nodup (distinct _ constrained.lock_ids))).mpr members
  refine permuted.eq_of_pairwise (fun one two isOne isTwo => ?_)
    (listActiveLocks_sorted _ planId)
    (List.Pairwise.filter _ (listActiveLocks_sorted database planId))
  rw [members, List.mem_filter, mem_listActiveLocks] at isOne
  rw [List.mem_filter, mem_listActiveLocks] at isTwo
  exact constrained.exclusive.eq_of_before isOne.1.1 isTwo.1.1 isOne.1.2.1 isTwo.1.2.1

/-- The locks that are asked for are open, or not, whatever run asks. -/
theorem relockable_iff {service : MaintenanceExecutionService} {plan : PlanRecord}
    {generated : String} {runId : Option Nat} {requests : List LockRequest}
    (constrained : Constrained database) (asked : lockRequests plan true = .ok requests) :
    (0 < service.lockTtlSeconds ∧ requests ≠ [] ∧ ∀ request ∈ requests,
      (requester plan.id runId service.lockTtlSeconds
        (firstToken ((withoutStale database plan.id now).listActiveLocks plan.id)) generated
          now).Open (withoutStale database plan.id now) request) ↔
      Relockable service database plan now generated := by
  have sameToken : (requester plan.id runId service.lockTtlSeconds
      (firstToken ((withoutStale database plan.id now).listActiveLocks plan.id)) generated
        now).token = reissueToken database plan.id now generated := by
    rw [listActiveLocks_withoutStale constrained]
    rfl
  simp only [LockOwner.Open, sameToken]
  constructor
  · rintro ⟨positive, _, isOpen⟩
    refine ⟨positive, fun others isAsked request member lock isLock covers => ?_⟩
    rw [asked, Except.ok.injEq] at isAsked
    subst isAsked
    by_cases isStale : lock.ownerPlanId = plan.id ∧ lock.expired now = true
    · exact ⟨isStale.1, .inl isStale.2⟩
    · have kept := (mem_withoutStale constrained.lock_ids).mpr
        ⟨⟨isLock, (LockRecord.covers_iff.mp covers).2⟩, isStale⟩
      obtain ⟨_, onPlan, onToken⟩ := isOpen request member lock kept.1 covers
      exact ⟨onPlan, .inr onToken⟩
  · rintro ⟨positive, relockable⟩
    refine ⟨positive, lockRequests_ne_nil asked, fun request member lock isLock covers => ?_⟩
    obtain ⟨⟨isKept, _⟩, notStale⟩ := (mem_withoutStale constrained.lock_ids).mp
      ⟨isLock, (LockRecord.covers_iff.mp covers).2⟩
    obtain ⟨onPlan, allowed⟩ := relockable requests asked request member lock isKept covers
    have fresh : lock.expired now = false := by
      rw [← Bool.not_eq_true]
      exact fun expired => notStale ⟨onPlan, expired⟩
    rw [fresh] at allowed
    exact ⟨fresh, onPlan, allowed.resolve_left Bool.false_ne_true⟩

/-- The first of the locks that a plan has left bears their token. -/
theorem firstToken_left {generated : String} (constrained : Constrained database)
    {first : LockRecord} {others : List LockRecord}
    (listed : (withoutStale database planId now).listActiveLocks planId = first :: others) :
    first.ownerToken = reissueToken database planId now generated := by
  have filtered := listed
  rw [listActiveLocks_withoutStale constrained] at filtered
  have member : first ∈ (database.listActiveLocks planId).filter fun lock => !lock.expired now := by
    rw [filtered]
    exact List.mem_cons_self
  have isLock := mem_listActiveLocks.mp (List.mem_filter.mp member).1
  have some : first.ownerToken ≠ "" := constrained.tokens first isLock.1
  simp only [reissueToken, filtered, firstToken, List.head?_cons, Option.map_some,
    Option.getD_some]
  rw [if_pos some]

/-- Locks that are taken under the token of those left do not change which token is first. -/
theorem firstToken_relocked {generated token : String} {after : Database} {rows : List LockRecord}
    (constrained : Constrained database)
    (isLocks : after.locks = (withoutStale database planId now).locks ++ rows)
    (onToken : ∀ row ∈ rows, row.ownerToken = token)
    (isToken : token = reissueToken database planId now generated)
    {first : LockRecord} {others : List LockRecord}
    (listed : after.listActiveLocks planId = first :: others) : first.ownerToken = token := by
  have sorted := listActiveLocks_sorted after planId
  rw [listed] at sorted
  have isListed : first ∈ after.locks ∧ first.releasedAt = none ∧ first.ownerPlanId = planId :=
    mem_listActiveLocks.mp (by rw [listed]; exact List.mem_cons_self)
  rw [isLocks] at isListed
  rcases List.mem_append.mp isListed.1 with old | new
  · have firstLeft : first ∈ (withoutStale database planId now).listActiveLocks planId :=
      mem_listActiveLocks.mpr ⟨old, isListed.2⟩
    cases remaining : (withoutStale database planId now).listActiveLocks planId with
    | nil =>
        rw [remaining] at firstLeft
        cases firstLeft
    | cons left rest =>
        have leftSorted := listActiveLocks_sorted (withoutStale database planId now) planId
        rw [remaining] at leftSorted firstLeft
        have isLeft : left ∈ (withoutStale database planId now).locks ∧
            left.releasedAt = none ∧ left.ownerPlanId = planId :=
          mem_listActiveLocks.mp (by rw [remaining]; exact List.mem_cons_self)
        have leftFirst : left ∈ first :: others := by
          rw [← listed]
          exact mem_listActiveLocks.mpr
            ⟨by rw [isLocks]; exact List.mem_append_left _ isLeft.1, isLeft.2⟩
        have same : first = left :=
          (withoutStale_exclusive constrained.exclusive).eq_of_before old isLeft.1
            isListed.2.1 isLeft.2.1 (before_of_sorted sorted left leftFirst)
            (before_of_sorted leftSorted first firstLeft)
        rw [same, isToken]
        exact firstToken_left constrained remaining
  · exact onToken first new

/-- What an acquisition in place of expired locks leaves. -/
theorem relocked_of_granted {owner : LockOwner} {requests : List LockRequest} {after : Database}
    (constrained : Constrained database) (some : requests ≠ [])
    (granted : Granted owner requests (withoutStale database owner.planId now) after)
    {generated : String}
    (isToken : owner.token = reissueToken database owner.planId now generated)
    (later : now < owner.expiresAt) :
    Relocked owner.planId owner.token now database after := by
  obtain ⟨⟨rows, counter, isAfter, owned⟩, covered⟩ := granted
  have isLocks : after.locks = (withoutStale database owner.planId now).locks ++ rows := by
    rw [isAfter]
  have fresh : ∀ row ∈ rows, row.expired now = false := by
    intro row member
    simp only [LockRecord.expired, (owned row member).expiresAt, decide_eq_false_iff_not, not_le]
    exact later
  have held : after.listActiveLocks owner.planId ≠ [] := by
    obtain ⟨request, member⟩ := List.exists_mem_of_ne_nil requests some
    obtain ⟨lock, isLock, covers, onPlan⟩ := covered request member
    exact List.ne_nil_of_mem (mem_listActiveLocks.mpr
      ⟨isLock, (LockRecord.covers_iff.mp covers).2, onPlan⟩)
  have isFirst : firstToken (after.listActiveLocks owner.planId) = owner.token := by
    cases listed : after.listActiveLocks owner.planId with
    | nil => exact absurd listed held
    | cons first others =>
        exact firstToken_relocked constrained isLocks (fun row member => (owned row member).token)
          isToken listed
  refine ⟨by rw [isAfter]; rfl, by rw [isAfter]; rfl, fun spent isStale => ?_, held, ?_⟩
  · have facts := mem_staleLocks.mp isStale
    rw [isLocks]
    intro member
    rcases List.mem_append.mp member with old | new
    · have kept := (mem_withoutStale constrained.lock_ids).mp ⟨old, facts.1.2.1⟩
      exact kept.2 ⟨facts.1.2.2, facts.2⟩
    · have unexpired := fresh spent new
      rw [facts.2] at unexpired
      cases unexpired
  · simp only [Releasable, isFirst, isLocks]
    constructor
    · intro releasable lock isLock isActive onToken expired
      by_contra foreign
      have notStale : ¬ (lock.ownerPlanId = owner.planId ∧ lock.expired now = true) :=
        fun isStale => foreign isStale.1
      have kept := (mem_withoutStale constrained.lock_ids).mpr ⟨⟨isLock, isActive⟩, notStale⟩
      have unexpired := releasable lock (List.mem_append_left _ kept.1) isActive (.inr onToken)
      rw [expired] at unexpired
      cases unexpired
    · intro own lock isLock isActive covered
      rcases List.mem_append.mp isLock with old | new
      · obtain ⟨⟨isKept, _⟩, notStale⟩ := (mem_withoutStale constrained.lock_ids).mp ⟨old, isActive⟩
        rw [← Bool.not_eq_true]
        intro expired
        rcases covered with onPlan | onToken
        · exact notStale ⟨onPlan, expired⟩
        · exact notStale ⟨own lock isKept isActive onToken expired, expired⟩
      · exact fresh lock new

/-- How the recovery of expired locks may go. -/
inductive RecoveredLocks (service : MaintenanceExecutionService) (plan : PlanRecord)
    (result : ReportedResult) (now : Nat) (generated : String) (database : Database)
    (recovery : Operation Unit) : Prop where
  | missing (ungiven : ¬ ∀ lock ∈ staleLocks database plan.id now,
        (result.evidenceFor lock).isSome = true)
      (refuses : Refuses recovery database)
  | unwritten {first : LockRecord} {others : List LockRecord}
      (given : ∀ lock ∈ staleLocks database plan.id now, (result.evidenceFor lock).isSome = true)
      (stale : staleLocks database plan.id now = first :: others)
      (unwritable : ¬ Writable result first) (refuses : Refuses recovery database)
  | spoiled {first : LockRecord} {others : List LockRecord} {error : Fault} {after : Database}
      (given : ∀ lock ∈ staleLocks database plan.id now, (result.evidenceFor lock).isSome = true)
      (stale : staleLocks database plan.id now = first :: others)
      (writable : Writable result first)
      (blocked : ¬ ((∀ lock ∈ staleLocks database plan.id now, Writable result lock) ∧
        Relockable service database plan now generated))
      (raised : recovery.run database = (.raised error, after)) (spent : first ∉ after.locks)
  | relocked {after : Database}
      (writable : ∀ lock ∈ staleLocks database plan.id now, Writable result lock)
      (relockable : Relockable service database plan now generated)
      (returned : recovery.run database = (.returned (), after))
      (relocked : Relocked plan.id (reissueToken database plan.id now generated) now database
        after)

theorem lockRequests_recovery (plan : PlanRecord) :
    ∃ requests, lockRequests plan true = .ok requests := by
  simp only [lockRequests, if_true]
  rw [if_neg (by simp)]
  exact ⟨_, rfl⟩

theorem Writable.isSome {result : ReportedResult} {lock : LockRecord}
    (writable : Writable result lock) : (result.evidenceFor lock).isSome = true := by
  obtain ⟨observation, content⟩ := writable
  rw [content]
  rfl

theorem recoverReportedLocks_cases {service : MaintenanceExecutionService} {plan : PlanRecord}
    {ticket : MaintenanceActionTicket} {result : ReportedResult} {generated : String}
    (constrained : Constrained database) (isPlan : (database.plan? plan.id).isSome = true)
    (isRun : (database.run? ticket.runId).isSome = true)
    (nonempty : staleLocks database plan.id now ≠ []) :
    RecoveredLocks service plan result now generated database
      (recoverReportedLocks service plan ticket result now generated) := by
  have recoverable : Recoverable database now (staleLocks database plan.id now) :=
    staleLocks_recoverable constrained.lock_ids
  have listed : (read fun database : Database =>
      (database.listActiveLocks plan.id).filter (·.expired now) : Operation (List LockRecord)).run
        database = (.returned (staleLocks database plan.id now), database) := rfl
  by_cases given : ∀ lock ∈ staleLocks database plan.id now,
      (result.evidenceFor lock).isSome = true
  · have required {error : Fault} : (require ((staleLocks database plan.id now).all fun lock =>
        (result.evidenceFor lock).isSome) error : Operation Unit).run database =
          (.returned (), database) := by
      rw [run_require, if_pos (List.all_eq_true.mpr given)]
    by_cases writable : ∀ lock ∈ staleLocks database plan.id now, Writable result lock
    · have recovered := recoverEachReported_run constrained.lock_ids recoverable writable
      obtain ⟨requests, asked⟩ := lockRequests_recovery plan
      let owner := requester plan.id (some ticket.runId) service.lockTtlSeconds
        (firstToken ((withoutStale database plan.id now).listActiveLocks plan.id)) generated now
      have known : owner.known (withoutStale database plan.id now) = true := by
        have isPlan' : ((withoutStale database plan.id now).plan? plan.id).isSome = true := isPlan
        have isRun' : ((withoutStale database plan.id now).run? ticket.runId).isSome = true := isRun
        simp [owner, LockOwner.known, requester, isPlan', isRun']
      have isToken : owner.token = reissueToken database plan.id now generated := by
        simp only [owner, requester, reissueToken, listActiveLocks_withoutStale constrained]
      have whole : (recoverReportedLocks service plan ticket result now generated).run database =
          (do
            let _ ← acquireLocks requests plan.id (some ticket.runId) service.lockTtlSeconds
              (some (firstToken ((withoutStale database plan.id now).listActiveLocks plan.id)))
              generated now
            pure () : Operation Unit).run (withoutStale database plan.id now) := by
        rw [recoverReportedLocks, run_bind, listed]
        simp only [run_bind, required, recovered, if_neg nonempty, run_read, asked,
          Program.ofExcept, run_pure]
        rfl
      rcases acquireLocks_decided requests (withoutStale_exclusive constrained.exclusive) known with
        ⟨isGranted, locks, after, returned, granted⟩ | ⟨refused, error, raised⟩
      · have relockable := (relockable_iff constrained asked).mp isGranted
        refine .relocked writable relockable (whole.trans ?_)
          (isToken ▸ relocked_of_granted constrained isGranted.2.1 granted isToken ?_)
        · simp only [run_bind, returned, run_pure]
        · have positive := isGranted.1
          simp only [requester, secondsAfter]
          omega
      · cases stale : staleLocks database plan.id now with
        | nil => exact absurd stale nonempty
        | cons first others =>
            have isStale : first ∈ staleLocks database plan.id now := by
              rw [stale]
              exact List.mem_cons_self
            have spent : first ∉ (withoutStale database plan.id now).locks := fun member =>
              have facts := mem_staleLocks.mp isStale
              ((mem_withoutStale constrained.lock_ids).mp ⟨member, facts.1.2.1⟩).2
                ⟨facts.1.2.2, facts.2⟩
            have refusal : (recoverReportedLocks service plan ticket result now generated).run
                database = (.raised error, withoutStale database plan.id now) := by
              rw [whole]
              simp only [run_bind, raised]
            have blocked : ¬ ((∀ lock ∈ staleLocks database plan.id now, Writable result lock) ∧
                Relockable service database plan now generated) := fun both =>
              refused ((relockable_iff constrained asked).mpr both.2)
            exact .spoiled given stale (writable first isStale) blocked refusal spent
    · simp only [not_forall] at writable
      obtain ⟨lock, member, unwritable⟩ := writable
      obtain ⟨first, others, error, after, stale, raised, unchanged, spent⟩ :=
        recoverEachReported_raised constrained.lock_ids recoverable ⟨lock, member, unwritable⟩
      have whole : (recoverReportedLocks service plan ticket result now generated).run database =
          (.raised error, after) := by
        rw [recoverReportedLocks, run_bind, listed]
        simp only [run_bind, required, raised]
      by_cases isFirst : Writable result first
      · exact .spoiled given stale isFirst (fun both => unwritable (both.1 lock member)) whole
          (spent isFirst)
      · rw [unchanged isFirst] at whole
        exact .unwritten given stale isFirst ⟨error, whole⟩
  · have refused {error : Fault} : (require ((staleLocks database plan.id now).all fun lock =>
        (result.evidenceFor lock).isSome) error : Operation Unit).run database =
          (.raised error, database) := by
      rw [run_require, if_neg fun all => given (List.all_eq_true.mp all)]
    exact .missing given (Refuses.following listed (Refuses.bind ⟨_, refused⟩))

end Relocking

end MaintenanceExecutionService

end ElKeeper
