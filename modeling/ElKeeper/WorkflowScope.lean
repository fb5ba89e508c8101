import ElKeeper.WorkflowActions

/-!
# Kinds, tokens and owners under the workflows

The actions of the workflows leave the kinds of plans alone, hold assignments
under planned maintenance only, and take locks under a token of their plan.
-/

namespace ElKeeper

open Program MaintenanceStore

/-! ### Plans keep their kind -/

/-- Every plan is there with the kind that it had. -/
def KindsKept (before after : Database) : Prop :=
  ∀ planId, (after.plan? planId).map (·.operationKind) =
    (before.plan? planId).map (·.operationKind)

theorem KindsKept.of_same {before after : Database} (same : after.plans = before.plans) :
    KindsKept before after := by
  intro planId
  simp only [Database.plan?, same]

theorem KindsKept.of_map {before after : Database} {change : PlanRecord → PlanRecord}
    (mapped : after.plans = before.plans.map change)
    (kept : ∀ plan, (change plan).id = plan.id ∧
      (change plan).operationKind = plan.operationKind) : KindsKept before after :=
  plan?_map_column mapped kept

theorem KindsKept.trans {first second third : Database} (one : KindsKept first second)
    (two : KindsKept second third) : KindsKept first third :=
  fun planId => (two planId).trans (one planId)

theorem KindsKept.lifecycle (database : Database) (planId : String) (target : MaintenanceState) :
    KindsKept database (database.setLifecycleState planId target) := by
  refine .of_map rfl fun plan => ?_
  split <;> exact ⟨rfl, rfl⟩

theorem KindsKept.attach (database : Database) (planId : String) (runId : Nat) :
    KindsKept database (database.attachRunId planId runId) := by
  refine .of_map rfl fun plan => ?_
  split <;> exact ⟨rfl, rfl⟩

theorem plan?_attachRunId_other (database : Database) {planId other : String} (runId : Nat)
    (different : other ≠ planId) :
    (database.attachRunId planId runId).plan? other = database.plan? other := by
  have sameId : (fun plan : PlanRecord => decide (plan.id = other)) ∘ (fun plan =>
      if plan.id = planId ∧ plan.runId = none then { plan with runId := some runId } else plan) =
      fun plan => decide (plan.id = other) := by
    funext plan
    simp only [Function.comp]
    split <;> rfl
  simp only [Database.plan?, Database.attachRunId, List.find?_map, sameId]
  cases found : database.plans.find? fun plan => decide (plan.id = other) with
  | none => rfl
  | some plan =>
      have isOther : plan.id = other := by simpa using List.find?_some found
      simp [isOther, different]

/-! ### Whose locks -/

/-- No two plans hold locks under one token. -/
def TokensOwned (database : Database) : Prop :=
  ∀ first ∈ database.locks, ∀ second ∈ database.locks,
    first.ownerToken = second.ownerToken → first.ownerPlanId = second.ownerPlanId

/-- The locks under a token are those of the plan. -/
def TokenOf (planId : String) (token : Option String) (database : Database) : Prop :=
  ∀ lock ∈ database.locks, some lock.ownerToken = token → lock.ownerPlanId = planId

/-- A lock is one that was there, or is one of the plan under the token. -/
def LocksWithin (planId : String) (token : Option String) (before after : Database) : Prop :=
  ∀ lock ∈ after.locks,
    (∃ old ∈ before.locks, old.ownerPlanId = lock.ownerPlanId ∧
      old.ownerToken = lock.ownerToken) ∨
    lock.ownerPlanId = planId ∧ some lock.ownerToken = token

section Tokens

variable {planId : String} {token : Option String} {before after : Database}

theorem LocksWithin.of_same (same : after.locks = before.locks) :
    LocksWithin planId token before after := by
  intro lock member
  rw [same] at member
  exact .inl ⟨lock, member, rfl, rfl⟩

theorem LocksWithin.of_map {change : LockRecord → LockRecord}
    (mapped : after.locks = before.locks.map change)
    (kept : ∀ lock, (change lock).ownerPlanId = lock.ownerPlanId ∧
      (change lock).ownerToken = lock.ownerToken) : LocksWithin planId token before after := by
  intro lock member
  rw [mapped] at member
  obtain ⟨old, oldMember, rfl⟩ := List.mem_map.mp member
  exact .inl ⟨old, oldMember, (kept old).1.symm, (kept old).2.symm⟩

theorem LocksWithin.of_add {row : LockRecord} (isPlan : row.ownerPlanId = planId)
    (isToken : some row.ownerToken = token) (added : after.locks = before.locks ++ [row]) :
    LocksWithin planId token before after := by
  intro lock member
  rw [added, List.mem_append, List.mem_singleton] at member
  rcases member with old | rfl
  · exact .inl ⟨lock, old, rfl, rfl⟩
  · exact .inr ⟨isPlan, isToken⟩

theorem LocksWithin.trans {between : Database} (first : LocksWithin planId token before between)
    (second : LocksWithin planId token between after) : LocksWithin planId token before after := by
  intro lock member
  rcases second lock member with ⟨old, oldMember, samePlan, sameToken⟩ | added
  · rcases first old oldMember with ⟨older, olderMember, olderPlan, olderToken⟩ | added
    · exact .inl ⟨older, olderMember, olderPlan.trans samePlan, olderToken.trans sameToken⟩
    · exact .inr ⟨samePlan ▸ added.1, sameToken ▸ added.2⟩
  · exact .inr added

/-- A program of such writes is one. -/
theorem LocksWithin.ofMoves {α : Type} {operation : Operation α}
    (moves : Moves (LocksWithin planId token) operation) (database : Database) :
    LocksWithin planId token database (operation.run database).2 :=
  moves.keeps (fun _ _ step within => within.trans step) (.of_same rfl)

theorem LocksWithin.tokenOf (within : LocksWithin planId token before after)
    {other : Option String}
    (agree : other = token ∨ TokenOf planId other before)
    (owned : TokenOf planId token before) : TokenOf planId other after := by
  intro lock member isToken
  rcases within lock member with ⟨old, oldMember, samePlan, sameToken⟩ | ⟨isPlan, _⟩
  · rw [← samePlan]
    rw [← sameToken] at isToken
    rcases agree with rfl | agree
    · exact owned old oldMember isToken
    · exact agree old oldMember isToken
  · exact isPlan

theorem LocksWithin.tokensOwned (within : LocksWithin planId token before after)
    (owned : TokenOf planId token before) (tokens : TokensOwned before) : TokensOwned after := by
  have ownedAfter : TokenOf planId token after := within.tokenOf (.inl rfl) owned
  intro first firstMember second secondMember sameToken
  rcases within first firstMember with ⟨old, oldMember, oldPlan, oldToken⟩ | ⟨isPlan, isToken⟩
  · rcases within second secondMember with ⟨other, otherMember, otherPlan, otherToken⟩ |
      ⟨isPlan, isToken⟩
    · rw [← oldPlan, ← otherPlan]
      exact tokens old oldMember other otherMember (oldToken.trans (sameToken.trans otherToken.symm))
    · rw [isPlan]
      exact ownedAfter first firstMember (sameToken ▸ isToken)
  · rw [isPlan]
    exact (ownedAfter second secondMember (sameToken ▸ isToken)).symm

end Tokens

/-! ### Whose assignments -/

/-- The plan is there and is none of the manual mode. -/
def Database.planned (database : Database) (planId : String) : Prop :=
  ∃ plan, database.plan? planId = some plan ∧ plan.operationKind ≠ .manualMaintenance

/-- Assignments are held by planned maintenance only. -/
def HeldByWorkflows (database : Database) : Prop :=
  ∀ row ∈ database.assignmentStates, ∀ planId, row.activePlanId = some planId →
    database.planned planId

section Owners

variable {before after : Database} {planId : String}

theorem KindsKept.planned (kinds : KindsKept before after) (isPlanned : before.planned planId) :
    after.planned planId := by
  obtain ⟨plan, isPlan, isKind⟩ := isPlanned
  have same := kinds planId
  rw [isPlan, Option.map_some, Option.map_eq_some_iff] at same
  obtain ⟨found, isFound, sameKind⟩ := same
  exact ⟨found, isFound, sameKind ▸ isKind⟩

theorem HeldByWorkflows.keep (kinds : KindsKept before after) (held : HeldByWorkflows before)
    (rows : ∀ row ∈ after.assignmentStates, row ∈ before.assignmentStates ∨
      ∀ planId, row.activePlanId = some planId → before.planned planId) :
    HeldByWorkflows after := by
  intro row member planId isOwner
  refine kinds.planned ?_
  rcases rows row member with old | owned
  · exact held row old planId isOwner
  · exact owned planId isOwner

/-- What the actions of the workflows rely on and keep. -/
structure WorkflowScope (planId drawnToken : String) (database : Database) : Prop where
  isPlanned : database.planned planId
  held : HeldByWorkflows database
  tokens : TokensOwned database
  drawn : TokenOf planId (some drawnToken) database

theorem WorkflowScope.keep {drawnToken : String} (scope : WorkflowScope planId drawnToken before)
    (kinds : KindsKept before after) (locks : after.locks = before.locks)
    (rows : ∀ row ∈ after.assignmentStates, row ∈ before.assignmentStates ∨
      row.activePlanId = none ∨ row.activePlanId = some planId) :
    WorkflowScope planId drawnToken after where
  isPlanned := kinds.planned scope.isPlanned
  held := scope.held.keep kinds fun row member => by
    rcases rows row member with old | free | owned
    · exact .inl old
    · exact .inr fun other isOwner => by rw [free] at isOwner; cases isOwner
    · refine .inr fun other isOwner => ?_
      rw [owned] at isOwner
      cases isOwner
      exact scope.isPlanned
  tokens := by
    intro first firstMember second secondMember
    rw [locks] at firstMember secondMember
    exact scope.tokens first firstMember second secondMember
  drawn := by
    intro lock member
    rw [locks] at member
    exact scope.drawn lock member

/-- A changed row is an old one or has what the change gives it. -/
theorem setAssignmentState_rows (database : Database) (assignmentId : Nat)
    {change : AssignmentStateRecord → AssignmentStateRecord} {owner : Option String}
    (changed : ∀ state, (change state).activePlanId = owner) :
    ∀ row ∈ (database.setAssignmentState assignmentId change).assignmentStates,
      row ∈ database.assignmentStates ∨ row.activePlanId = owner := by
  intro row member
  obtain ⟨old, oldMember, rfl⟩ := List.mem_map.mp member
  split
  · exact .inr (changed old)
  · exact .inl oldMember

theorem addAssignmentState_rows (database : Database) (assignmentId : Nat) :
    ∀ row ∈ (database.addAssignmentState (newAssignmentState assignmentId)).assignmentStates,
      row ∈ database.assignmentStates ∨ row.activePlanId = none := by
  intro row member
  rcases List.mem_append.mp member with old | new
  · exact .inl old
  · rw [List.mem_singleton.mp new]
    exact .inr rfl

theorem WorkflowScope.write {drawnToken : String} (write : WorkflowWrite planId before after)
    (scope : WorkflowScope planId drawnToken before) : WorkflowScope planId drawnToken after := by
  have same : KindsKept before after ∧ after.locks = before.locks := by
    cases write with
    | launch started =>
        rw [startRun_run] at started
        cases started
        exact ⟨.of_same rfl, rfl⟩
    | _ => exact ⟨.of_same rfl, rfl⟩
  refine scope.keep same.1 same.2 fun row member => ?_
  cases write with
  | addAssignment missing =>
      exact (addAssignmentState_rows _ _ row member).imp_right .inl
  | setAssignment assignmentId changed =>
      exact (setAssignmentState_rows _ _ (fun state => (changed state).2.2) row member).imp_right
        .inr
  | launch started =>
      rw [startRun_run] at started
      cases started
      exact .inl member
  | _ => exact .inl member

/-- The token of a plan's first lock is one of the plan. -/
theorem TokensOwned.first {database : Database} (tokens : TokensOwned database)
    (nonempty : database.listActiveLocks planId ≠ []) :
    TokenOf planId
      (some (MaintenanceExecutionService.firstToken (database.listActiveLocks planId)))
      database := by
  cases isList : database.listActiveLocks planId with
  | nil => exact absurd isList nonempty
  | cons first rest =>
      have listed : first ∈ database.listActiveLocks planId := by simp [isList]
      rw [Database.listActiveLocks, List.mem_insertionSort, Database.activeLocks,
        List.mem_filter, Bool.and_eq_true, decide_eq_true_eq] at listed
      intro lock member isToken
      rw [← listed.2.2]
      exact tokens lock member first listed.1 (Option.some.inj isToken)

/-- The token of an execution's locks is one of its plan. -/
theorem TokensOwned.issued {database : Database} (tokens : TokensOwned database)
    {generated : String} (drawn : TokenOf planId (some generated) database) :
    TokenOf planId
      (some (MaintenanceExecutionService.issuedToken database planId generated)) database := by
  simp only [MaintenanceExecutionService.issuedToken]
  split
  · rename_i held
    refine tokens.first fun empty => ?_
    simp [MaintenanceExecutionService.firstToken, empty] at held
  · exact drawn

theorem MaintenanceExecutionService.IssueWrite.locksWithin {token : String} {expiresAt : Nat}
    (write : MaintenanceExecutionService.IssueWrite planId token expiresAt before after) :
    LocksWithin planId (some token) before after := by
  cases write with
  | lock onPlan isToken _ added =>
      obtain ⟨row, _, owns, rfl⟩ := added
      exact .of_add (owns.planId.trans onPlan) (by rw [owns.token, isToken]) rfl
  | start started =>
      rw [startRun_run] at started
      cases started
      exact .of_same rfl
  | _ => exact .of_same rfl

theorem ExecutionWrite.kindsKept (write : ExecutionWrite before after) :
    KindsKept before after ∧ after.assignmentStates = before.assignmentStates := by
  cases write with
  | lifecycle planId target => exact ⟨.lifecycle _ _ _, rfl⟩
  | attach planId runId => exact ⟨.attach _ _ _, rfl⟩
  | start started =>
      rw [startRun_run] at started
      cases started
      exact ⟨.of_same rfl, rfl⟩
  | _ => exact ⟨.of_same rfl, rfl⟩

theorem executionMoves_kindsKept {α : Type} {operation : Operation α}
    (moves : Moves ExecutionWrite operation) (database : Database) :
    KindsKept database (operation.run database).2 ∧
      (operation.run database).2.assignmentStates = database.assignmentStates := by
  have reached := moves database
  generalize (operation.run database).2 = after at reached ⊢
  induction reached with
  | refl => exact ⟨.of_same rfl, rfl⟩
  | tail _ write ih => exact ⟨ih.1.trans write.kindsKept.1, write.kindsKept.2.trans ih.2⟩

/-- The operations of the execution service keep the scope when they keep the tokens. -/
theorem WorkflowScope.execution {drawnToken : String} {token : Option String} {α : Type}
    {operation : Operation α} {database : Database} (scope : WorkflowScope planId drawnToken database)
    (moves : Moves ExecutionWrite operation) (owned : TokenOf planId token database)
    (within : LocksWithin planId token database (operation.run database).2) :
    WorkflowScope planId drawnToken (operation.run database).2 where
  isPlanned := (executionMoves_kindsKept moves database).1.planned scope.isPlanned
  held := scope.held.keep (executionMoves_kindsKept moves database).1 fun row member => by
    rw [(executionMoves_kindsKept moves database).2] at member
    exact .inl member
  tokens := within.tokensOwned owned scope.tokens
  drawn := within.tokenOf (.inr scope.drawn) owned

theorem locksWithin_admitsFinish (planId : String) (token : Option String) :
    MaintenanceExecutionService.AdmitsFinish (LocksWithin planId token) where
  lifecycle _ _ _ _ := .of_same rfl
  runStatus _ _ _ := .of_same rfl
  release _ _ _ := .of_map rfl fun lock => by split <;> exact ⟨rfl, rfl⟩

theorem WorkflowScope.kept (execution : MaintenanceExecutionService)
    (planId drawnToken : String) :
    KeptByActions execution drawnToken planId (WorkflowScope planId drawnToken) where
  workflow _ _ write := WorkflowScope.write write
  claims _ _ _ scope := scope.keep (.of_same rfl) rfl fun _ member => .inl member
  release database assignmentId _ changed scope := scope.keep (.of_same rfl) rfl fun row member =>
    (setAssignmentState_rows _ _ (fun state => (changed state).2.2) row member).imp_right .inl
  lifecycle _ _ _ _ scope := scope.keep (.lifecycle _ _ _) rfl fun _ member => .inl member
  checkpoint _ _ scope := scope.keep (.of_same rfl) rfl fun _ member => .inl member
  undo _ _ scope := scope.keep (.of_same rfl) rfl fun _ member => .inl member
  finish ticket result now database plan after executes ran scope := by
    have kept := scope.execution (execution.finalize_writes ticket result now drawnToken)
      scope.drawn (.ofMoves (execution.finalize_execute_moves (locksWithin_admitsFinish _ _)
        executes _ _ _) database)
    rwa [ran] at kept

theorem WorkflowScope.keptByTickets (execution : MaintenanceExecutionService)
    (clock : History → Nat) (planId drawnToken : String) :
    KeptByTickets execution clock drawnToken planId (WorkflowScope planId drawnToken) := by
  intro history database ticket after ran scope
  have reached := execution.prepare_reaches planId .execute (clock history) drawnToken database
  have within : LocksWithin planId
      (some (MaintenanceExecutionService.issuedToken database planId drawnToken)) database
      ((execution.prepare planId .execute (clock history) drawnToken).run database).2 := by
    generalize ((execution.prepare planId .execute (clock history) drawnToken).run database).2 =
      written at reached ⊢
    induction reached with
    | refl => exact .of_same rfl
    | tail _ write ih => exact ih.trans write.locksWithin
  have kept := scope.execution (execution.prepare_writes _ _ _ _)
    (scope.tokens.issued scope.drawn) within
  rwa [ran] at kept

end Owners

end ElKeeper
