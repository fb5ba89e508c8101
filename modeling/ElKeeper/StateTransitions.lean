import ElKeeper.MaintenanceStore

/-!
# The state machines of plans, hosts and assignments

Every transition names the row, the revision that its caller has read, and a
target.  A host row carries two coupled machines with revisions of their own:
a transition of the host moves both, a transition of its workflow only one.
-/

namespace ElKeeper

open Program MaintenanceStore

/-- A call of one of the four transitions. -/
inductive TransitionCall where
  | plan (planId : String) (expectedRevision : Nat) (target : MaintenanceState)
  | host (nodeId expectedRevision : Nat) (target : HostMaintenanceState)
      (activePlanId : Option String)
  | hostWorkflow (nodeId expectedRevision : Nat) (target : MaintenanceWorkflowState)
  | assignment (assignmentId expectedRevision : Nat) (target : MaintenanceWorkflowState)
      (activePlanId : Option String)

/-- The revisions that the transitions compare and set. -/
inductive RevisionColumn where
  | plan (planId : String)
  | host (nodeId : Nat)
  | hostWorkflow (nodeId : Nat)
  | assignment (assignmentId : Nat)
deriving DecidableEq

namespace Database

/-- The row of a host, as `get_host_state` would answer. -/
def hostRow (database : Database) (nodeId : Nat) : HostStateRecord :=
  (database.hostState? nodeId).getD (newHostState nodeId)

/-- The row of an assignment, as `get_assignment_state` would answer. -/
def assignmentRow (database : Database) (assignmentId : Nat) : AssignmentStateRecord :=
  (database.assignmentState? assignmentId).getD (newAssignmentState assignmentId)

/-- The stored value of a revision; a plan that does not exist has none. -/
def revision (database : Database) : RevisionColumn → Nat
  | .plan planId => ((database.plan? planId).map (·.stateRevision)).getD 0
  | .host nodeId => (database.hostRow nodeId).stateRevision
  | .hostWorkflow nodeId => (database.hostRow nodeId).workflowStateRevision
  | .assignment assignmentId => (database.assignmentRow assignmentId).stateRevision

end Database

namespace TransitionCall

def perform : TransitionCall → Operation Unit
  | plan planId expectedRevision target => do
      let _ ← transitionPlan planId expectedRevision target
      pure ()
  | host nodeId expectedRevision target activePlanId => do
      let _ ← transitionHostState nodeId expectedRevision target activePlanId
      pure ()
  | hostWorkflow nodeId expectedRevision target => do
      let _ ← transitionHostWorkflowState nodeId expectedRevision target
      pure ()
  | assignment assignmentId expectedRevision target activePlanId => do
      let _ ← transitionAssignmentState assignmentId expectedRevision target activePlanId
      pure ()

/-- The calls one after another; a call that raises does not end the sequence. -/
def performAll (database : Database) (calls : List TransitionCall) : Database :=
  calls.foldl (fun reached call => (call.perform.run reached).2) database

/-- The call is accepted. -/
def Accepted (call : TransitionCall) (database : Database) : Prop :=
  (call.perform.run database).1 = .returned ()

/-- The row and the revision that a call compares. -/
def column : TransitionCall → RevisionColumn
  | plan planId _ _ => .plan planId
  | host nodeId _ _ _ => .host nodeId
  | hostWorkflow nodeId _ _ => .hostWorkflow nodeId
  | assignment assignmentId _ _ _ => .assignment assignmentId

def expectedRevision : TransitionCall → Nat
  | plan _ expected _ | host _ expected _ _ | hostWorkflow _ expected _
  | assignment _ expected _ _ => expected

/-- The owner that a transition leaves behind. -/
def ownerAfter (available : Bool) (activePlanId : Option String) : Option String :=
  if available then none else activePlanId

/-- The change that an accepted call makes: one row, along the tables, every revision that it
concerns by one. -/
def Follows : TransitionCall → Database → Database → Prop
  | plan planId expected target, before, after =>
      (∃ row, before.plan? planId = some row ∧ row.stateRevision = expected ∧
        target ∈ row.lifecycleState.transitions ∧
        after.plan? planId =
          some { row with lifecycleState := target, stateRevision := expected + 1 }) ∧
        (∀ other, other ≠ planId → after.plan? other = before.plan? other) ∧
        after.hostStates = before.hostStates ∧ after.assignmentStates = before.assignmentStates
  | host nodeId expected target activePlanId, before, after =>
      (before.hostRow nodeId).stateRevision = expected ∧
        target ∈ (before.hostRow nodeId).state.transitions ∧
        (target.workflowState = (before.hostRow nodeId).workflowState ∨
          target.workflowState ∈ (before.hostRow nodeId).workflowState.transitions) ∧
        after.hostState? nodeId = some
          { before.hostRow nodeId with
            state := target
            activePlanId := ownerAfter (target = .available) activePlanId
            stateRevision := expected + 1
            workflowState := target.workflowState
            workflowStateRevision := (before.hostRow nodeId).workflowStateRevision + 1 } ∧
        (∀ other, other ≠ nodeId → after.hostState? other = before.hostState? other) ∧
        after.plans = before.plans ∧ after.assignmentStates = before.assignmentStates
  | hostWorkflow nodeId expected target, before, after =>
      (before.hostRow nodeId).workflowStateRevision = expected ∧
        target ∈ (before.hostRow nodeId).workflowState.transitions ∧
        after.hostState? nodeId = some
          { before.hostRow nodeId with
            workflowState := target
            workflowStateRevision := expected + 1 } ∧
        (∀ other, other ≠ nodeId → after.hostState? other = before.hostState? other) ∧
        after.plans = before.plans ∧ after.assignmentStates = before.assignmentStates
  | assignment assignmentId expected target activePlanId, before, after =>
      (before.assignmentRow assignmentId).stateRevision = expected ∧
        target ∈ (before.assignmentRow assignmentId).workflowState.transitions ∧
        after.assignmentState? assignmentId = some
          { before.assignmentRow assignmentId with
            workflowState := target
            activePlanId := ownerAfter (target = .available) activePlanId
            stateRevision := expected + 1 } ∧
        (∀ other, other ≠ assignmentId →
          after.assignmentState? other = before.assignmentState? other) ∧
        after.plans = before.plans ∧ after.hostStates = before.hostStates

end TransitionCall

/-- No row that was there is changed; available rows may be inserted. -/
structure RowsKept (before after : Database) : Prop where
  plans : after.plans = before.plans
  hosts : ∃ added : List Nat, after.hostStates = before.hostStates ++ added.map newHostState
  assignments : ∃ added : List Nat,
    after.assignmentStates = before.assignmentStates ++ added.map newAssignmentState

/-- A row names a plan exactly outside of the available state. -/
structure OwnersAgree (database : Database) : Prop where
  hosts : ∀ row ∈ database.hostStates, row.activePlanId = none ↔ row.state = .available
  assignments : ∀ row ∈ database.assignmentStates,
    row.activePlanId = none ↔ row.workflowState = .available

/-! ### Rows that are opened -/

theorem RowsKept.refl (database : Database) : RowsKept database database :=
  ⟨rfl, ⟨[], by simp⟩, [], by simp⟩

theorem RowsKept.addHost (database : Database) (nodeId : Nat) :
    RowsKept database (database.addHostState (newHostState nodeId)) :=
  ⟨rfl, ⟨[nodeId], rfl⟩, [], by simp [Database.addHostState]⟩

theorem RowsKept.addAssignment (database : Database) (assignmentId : Nat) :
    RowsKept database (database.addAssignmentState (newAssignmentState assignmentId)) :=
  ⟨rfl, ⟨[], by simp [Database.addAssignmentState]⟩, [assignmentId], rfl⟩

theorem RowsKept.trans {first second third : Database} (one : RowsKept first second)
    (two : RowsKept second third) : RowsKept first third := by
  obtain ⟨firstHosts, isFirst⟩ := one.hosts
  obtain ⟨secondHosts, isSecond⟩ := two.hosts
  obtain ⟨firstStates, isFirstState⟩ := one.assignments
  obtain ⟨secondStates, isSecondState⟩ := two.assignments
  refine ⟨two.plans.trans one.plans, ⟨firstHosts ++ secondHosts, ?_⟩,
    firstStates ++ secondStates, ?_⟩
  · rw [isSecond, isFirst, List.map_append, List.append_assoc]
  · rw [isSecondState, isFirstState, List.map_append, List.append_assoc]

/-- What `get_host_state` does to the table of hosts. -/
structure HostOpened (nodeId : Nat) (before after : Database) : Prop where
  row : after.hostState? nodeId = some (before.hostRow nodeId)
  others : ∀ other, other ≠ nodeId → after.hostState? other = before.hostState? other
  rows : ∀ row ∈ after.hostStates, row ∈ before.hostStates ∨ row = newHostState nodeId
  kept : RowsKept before after
  assignments : after.assignmentStates = before.assignmentStates

theorem getHostState_opens {nodeId : Nat} {host : HostStateRecord} {database after : Database}
    (ran : (getHostState nodeId).run database = (.returned host, after)) :
    host = database.hostRow nodeId ∧ HostOpened nodeId database after := by
  obtain ⟨found, _, wasRead, afterRead⟩ := bind_eq_returned ran
  cases wasRead
  dsimp only at afterRead
  cases found : database.hostState? nodeId with
  | some row =>
      rw [found] at afterRead
      cases afterRead
      have isRow : database.hostRow nodeId = host := by simp [Database.hostRow, found]
      refine ⟨isRow.symm, ?_, fun _ _ => rfl, fun _ member => .inl member, .refl _, rfl⟩
      rw [isRow, found]
  | none =>
      rw [found] at afterRead
      obtain ⟨known, _, knownRan, afterKnown⟩ := bind_eq_returned afterRead
      cases knownRan
      obtain ⟨_, _, requireRan, afterRequire⟩ := bind_eq_returned afterKnown
      rw [(require_eq_returned requireRan).2] at afterRequire
      obtain ⟨_, _, updated, ended⟩ := bind_eq_returned afterRequire
      cases updated
      cases ended
      have isRow : database.hostRow nodeId = newHostState nodeId := by
        simp [Database.hostRow, found]
      refine ⟨isRow.symm, ?_, ?_, ?_, .addHost _ _, rfl⟩
      · simp only [Database.hostState?] at found
        simp [isRow, Database.hostState?, Database.addHostState, List.find?_append, found,
          newHostState]
      · intro other different
        simp [Database.hostState?, Database.addHostState, List.find?_append, newHostState,
          different.symm]
      · intro row member
        simpa [Database.addHostState] using member

theorem getHostState_kept (nodeId : Nat) (database : Database) :
    RowsKept database ((getHostState nodeId).run database).2 := by
  have moves : Moves RowsKept (getHostState nodeId) :=
    getHostState_moves fun _ _ => .addHost _ _
  exact moves.keeps (fun _ _ step kept => kept.trans step) (RowsKept.refl database)

/-- What `get_assignment_state` does to the table of assignments. -/
structure AssignmentOpened (assignmentId : Nat) (before after : Database) : Prop where
  row : after.assignmentState? assignmentId = some (before.assignmentRow assignmentId)
  others : ∀ other, other ≠ assignmentId →
    after.assignmentState? other = before.assignmentState? other
  rows : ∀ row ∈ after.assignmentStates,
    row ∈ before.assignmentStates ∨ row = newAssignmentState assignmentId
  kept : RowsKept before after
  hosts : after.hostStates = before.hostStates

theorem getAssignmentState_opens {assignmentId : Nat} {state : AssignmentStateRecord}
    {database after : Database}
    (ran : (getAssignmentState assignmentId).run database = (.returned state, after)) :
    state = database.assignmentRow assignmentId ∧
      AssignmentOpened assignmentId database after := by
  obtain ⟨found, _, wasRead, afterRead⟩ := bind_eq_returned ran
  cases wasRead
  dsimp only at afterRead
  cases found : database.assignmentState? assignmentId with
  | some row =>
      rw [found] at afterRead
      cases afterRead
      have isRow : database.assignmentRow assignmentId = state := by
        simp [Database.assignmentRow, found]
      refine ⟨isRow.symm, ?_, fun _ _ => rfl, fun _ member => .inl member, .refl _, rfl⟩
      rw [isRow, found]
  | none =>
      rw [found] at afterRead
      obtain ⟨known, _, knownRan, afterKnown⟩ := bind_eq_returned afterRead
      cases knownRan
      obtain ⟨_, _, requireRan, afterRequire⟩ := bind_eq_returned afterKnown
      rw [(require_eq_returned requireRan).2] at afterRequire
      obtain ⟨_, _, updated, ended⟩ := bind_eq_returned afterRequire
      cases updated
      cases ended
      have isRow : database.assignmentRow assignmentId = newAssignmentState assignmentId := by
        simp [Database.assignmentRow, found]
      refine ⟨isRow.symm, ?_, ?_, ?_, .addAssignment _ _, rfl⟩
      · simp only [Database.assignmentState?] at found
        simp [isRow, Database.assignmentState?, Database.addAssignmentState, List.find?_append,
          found, newAssignmentState]
      · intro other different
        simp [Database.assignmentState?, Database.addAssignmentState, List.find?_append,
          newAssignmentState, different.symm]
      · intro row member
        simpa [Database.addAssignmentState] using member

theorem getAssignmentState_kept (assignmentId : Nat) (database : Database) :
    RowsKept database ((getAssignmentState assignmentId).run database).2 := by
  have moves : Moves RowsKept (getAssignmentState assignmentId) :=
    getAssignmentState_moves fun _ _ => .addAssignment _ _
  exact moves.keeps (fun _ _ step kept => kept.trans step) (RowsKept.refl database)

/-! ### Rows that are changed -/

theorem hostState?_setHostState (database : Database) (nodeId other : Nat)
    {change : HostStateRecord → HostStateRecord}
    (sameNode : ∀ host, (change host).nodeId = host.nodeId) :
    (database.setHostState nodeId change).hostState? other =
      if other = nodeId then (database.hostState? nodeId).map change
      else database.hostState? other := by
  have unmoved : (fun host : HostStateRecord => decide (host.nodeId = other)) ∘ (fun host =>
      if host.nodeId = nodeId then change host else host) =
      fun host => decide (host.nodeId = other) := by
    funext host
    simp only [Function.comp]
    split
    · rw [sameNode]
    · rfl
  simp only [Database.hostState?, Database.setHostState, List.find?_map, unmoved]
  cases found : database.hostStates.find? fun host => decide (host.nodeId = other) with
  | none =>
      split
      · rename_i same
        rw [← same, found]
        rfl
      · rfl
  | some host =>
      have isNode : host.nodeId = other := by simpa using List.find?_some found
      split
      · rename_i same
        rw [← same, found]
        simp [isNode, same]
      · rename_i different
        simp [isNode, different]

theorem assignmentState?_setAssignmentState (database : Database) (assignmentId other : Nat)
    {change : AssignmentStateRecord → AssignmentStateRecord}
    (sameAssignment : ∀ state, (change state).assignmentId = state.assignmentId) :
    (database.setAssignmentState assignmentId change).assignmentState? other =
      if other = assignmentId then (database.assignmentState? assignmentId).map change
      else database.assignmentState? other := by
  have unmoved : (fun state : AssignmentStateRecord => decide (state.assignmentId = other)) ∘
      (fun state => if state.assignmentId = assignmentId then change state else state) =
      fun state => decide (state.assignmentId = other) := by
    funext state
    simp only [Function.comp]
    split
    · rw [sameAssignment]
    · rfl
  simp only [Database.assignmentState?, Database.setAssignmentState, List.find?_map, unmoved]
  cases found : database.assignmentStates.find? fun state =>
      decide (state.assignmentId = other) with
  | none =>
      split
      · rename_i same
        rw [← same, found]
        rfl
      · rfl
  | some state =>
      have isAssignment : state.assignmentId = other := by simpa using List.find?_some found
      split
      · rename_i same
        rw [← same, found]
        simp [isAssignment, same]
      · rename_i different
        simp [isAssignment, different]

/-! ### Accepted calls -/

/-- An accepted owner is missing exactly for the available state. -/
theorem ownerFor_none_iff {available : Bool} {activePlanId owner : Option String}
    {message : String} (known : ownerFor available activePlanId message = .ok owner) :
    owner = none ↔ available = true := by
  simp only [ownerFor] at known
  split at known
  · cases known
    simp_all
  · split at known
    · rename_i named
      cases known
      constructor
      · rintro rfl
        cases named
      · intro isAvailable
        simp_all
    · cases known

theorem requireOwner_readOnly (owner : Option String) : ReadOnly (requireOwner owner) :=
  .bind (.read _) fun _ => .require _ _

/-- The hosts after one of them was opened and changed. -/
structure HostChanged (nodeId : Nat) (change : HostStateRecord → HostStateRecord)
    (before after : Database) : Prop where
  row : after.hostState? nodeId = some (change (before.hostRow nodeId))
  others : ∀ other, other ≠ nodeId → after.hostState? other = before.hostState? other
  rows : ∀ row ∈ after.hostStates, row ∈ before.hostStates ∨ row = newHostState nodeId ∨
    ∃ host, (host ∈ before.hostStates ∨ host = newHostState nodeId) ∧ row = change host
  plans : after.plans = before.plans
  assignments : after.assignmentStates = before.assignmentStates

theorem HostChanged.of_opened {nodeId : Nat} {change : HostStateRecord → HostStateRecord}
    {before opened after : Database} (sameNode : ∀ host, (change host).nodeId = host.nodeId)
    (first : HostOpened nodeId before opened)
    (second : HostOpened nodeId (opened.setHostState nodeId change) after) :
    HostChanged nodeId change before after where
  row := by
    rw [second.row, Database.hostRow, hostState?_setHostState _ _ _ sameNode, if_pos rfl,
      first.row]
    rfl
  others := by
    intro other different
    rw [second.others other different, hostState?_setHostState _ _ _ sameNode,
      if_neg different, first.others other different]
  rows := by
    intro row member
    rcases second.rows row member with changed | isNew
    · obtain ⟨host, isHost, rfl⟩ := List.mem_map.mp changed
      split
      · exact .inr (.inr ⟨host, first.rows host isHost, rfl⟩)
      · rcases first.rows host isHost with old | isNew
        · exact .inl old
        · exact .inr (.inl isNew)
    · exact .inr (.inl isNew)
  plans := second.kept.plans.trans first.kept.plans
  assignments := second.assignments.trans first.assignments

/-- A change that keeps the agreement of each row keeps the agreement of the tables. -/
theorem HostChanged.ownersAgree {nodeId : Nat} {change : HostStateRecord → HostStateRecord}
    {before after : Database} (changed : HostChanged nodeId change before after)
    (agrees : ∀ host, (host.activePlanId = none ↔ host.state = .available) →
      ((change host).activePlanId = none ↔ (change host).state = .available))
    (owners : OwnersAgree before) : OwnersAgree after where
  hosts := by
    have isNew : (newHostState nodeId).activePlanId = none ↔
        (newHostState nodeId).state = .available := by simp [newHostState]
    intro row member
    rcases changed.rows row member with old | rfl | ⟨host, old | rfl, rfl⟩
    · exact owners.hosts row old
    · exact isNew
    · exact agrees host (owners.hosts host old)
    · exact agrees _ isNew
  assignments := by
    rw [changed.assignments]
    exact owners.assignments

theorem validateTransition_listed {α : Type} [DecidableEq α] {value : α → String}
    {transitions : α → List α} {current target : α} {answer : Unit}
    (valid : validateTransition value transitions current target = .ok answer) :
    target ∈ transitions current :=
  (validateTransition_ok valid).2

theorem transitionHostState_returned {nodeId expected : Nat} {target : HostMaintenanceState}
    {activePlanId : Option String} {host : HostStateRecord} {database after : Database}
    (ran : (transitionHostState nodeId expected target activePlanId).run database =
      (.returned host, after)) :
    (TransitionCall.host nodeId expected target activePlanId).Follows database after ∧
      (OwnersAgree database → OwnersAgree after) := by
  obtain ⟨current, opened, openRan, afterOpen⟩ := bind_eq_returned ran
  obtain ⟨rfl, isOpened⟩ := getHostState_opens openRan
  obtain ⟨_, _, sameRan, afterSame⟩ := bind_eq_returned afterOpen
  obtain ⟨isExpected, rfl⟩ := require_eq_returned sameRan
  obtain ⟨_, _, validRan, afterValid⟩ := bind_eq_returned afterSame
  obtain ⟨isValid, rfl⟩ := ofExcept_eq_returned validRan
  obtain ⟨owner, _, ownerRan, afterOwner⟩ := bind_eq_returned afterValid
  obtain ⟨isOwner, rfl⟩ := ofExcept_eq_returned ownerRan
  obtain ⟨_, _, legalRan, afterLegal⟩ := bind_eq_returned afterOwner
  obtain ⟨isLegal, rfl⟩ := require_eq_returned legalRan
  obtain ⟨_, _, knownRan, afterKnown⟩ := bind_eq_returned afterLegal
  obtain rfl := (requireOwner_readOnly owner).returned knownRan
  obtain ⟨_, _, updated, ended⟩ := bind_eq_returned afterKnown
  cases updated
  obtain ⟨_, isEnd⟩ := getHostState_opens ended
  have changed := HostChanged.of_opened (by exact fun _ => rfl) isOpened isEnd
  simp only [decide_eq_true_eq] at isExpected
  simp only [Bool.or_eq_true, decide_eq_true_eq] at isLegal
  refine ⟨⟨isExpected, validateTransition_listed isValid, ?_, ?_, changed.others, changed.plans,
    changed.assignments⟩, fun owners => changed.ownersAgree (fun row _ => ?_) owners⟩
  · exact isLegal.imp Eq.symm id
  · rw [changed.row, isExpected, ownerFor_ok isOwner]
    rfl
  · exact (ownerFor_none_iff isOwner).trans (by simp)

theorem transitionHostWorkflowState_returned {nodeId expected : Nat}
    {target : MaintenanceWorkflowState} {host : HostStateRecord} {database after : Database}
    (ran : (transitionHostWorkflowState nodeId expected target).run database =
      (.returned host, after)) :
    (TransitionCall.hostWorkflow nodeId expected target).Follows database after ∧
      (OwnersAgree database → OwnersAgree after) := by
  obtain ⟨current, opened, openRan, afterOpen⟩ := bind_eq_returned ran
  obtain ⟨rfl, isOpened⟩ := getHostState_opens openRan
  obtain ⟨_, _, sameRan, afterSame⟩ := bind_eq_returned afterOpen
  obtain ⟨isExpected, rfl⟩ := require_eq_returned sameRan
  obtain ⟨_, _, validRan, afterValid⟩ := bind_eq_returned afterSame
  obtain ⟨isValid, rfl⟩ := ofExcept_eq_returned validRan
  obtain ⟨_, _, updated, ended⟩ := bind_eq_returned afterValid
  cases updated
  obtain ⟨_, isEnd⟩ := getHostState_opens ended
  have changed := HostChanged.of_opened (by exact fun _ => rfl) isOpened isEnd
  simp only [decide_eq_true_eq] at isExpected
  refine ⟨⟨isExpected, validateTransition_listed isValid, ?_, changed.others, changed.plans,
    changed.assignments⟩, fun owners => changed.ownersAgree (fun row known => known) owners⟩
  rw [changed.row, isExpected]

/-- The assignments after one of them was opened and changed. -/
structure AssignmentChanged (assignmentId : Nat)
    (change : AssignmentStateRecord → AssignmentStateRecord) (before after : Database) :
    Prop where
  row : after.assignmentState? assignmentId = some (change (before.assignmentRow assignmentId))
  others : ∀ other, other ≠ assignmentId →
    after.assignmentState? other = before.assignmentState? other
  rows : ∀ row ∈ after.assignmentStates, row ∈ before.assignmentStates ∨
    row = newAssignmentState assignmentId ∨ ∃ state, row = change state
  plans : after.plans = before.plans
  hosts : after.hostStates = before.hostStates

theorem AssignmentChanged.of_opened {assignmentId : Nat}
    {change : AssignmentStateRecord → AssignmentStateRecord} {before opened after : Database}
    (sameAssignment : ∀ state, (change state).assignmentId = state.assignmentId)
    (first : AssignmentOpened assignmentId before opened)
    (second : AssignmentOpened assignmentId (opened.setAssignmentState assignmentId change)
      after) :
    AssignmentChanged assignmentId change before after where
  row := by
    rw [second.row, Database.assignmentRow,
      assignmentState?_setAssignmentState _ _ _ sameAssignment, if_pos rfl, first.row]
    rfl
  others := by
    intro other different
    rw [second.others other different,
      assignmentState?_setAssignmentState _ _ _ sameAssignment, if_neg different,
      first.others other different]
  rows := by
    intro row member
    rcases second.rows row member with changed | isNew
    · obtain ⟨state, isState, rfl⟩ := List.mem_map.mp changed
      split
      · exact .inr (.inr ⟨state, rfl⟩)
      · rcases first.rows state isState with old | isNew
        · exact .inl old
        · exact .inr (.inl isNew)
    · exact .inr (.inl isNew)
  plans := second.kept.plans.trans first.kept.plans
  hosts := second.hosts.trans first.hosts

theorem transitionAssignmentState_returned {assignmentId expected : Nat}
    {target : MaintenanceWorkflowState} {activePlanId : Option String}
    {state : AssignmentStateRecord} {database after : Database}
    (ran : (transitionAssignmentState assignmentId expected target activePlanId).run database =
      (.returned state, after)) :
    (TransitionCall.assignment assignmentId expected target activePlanId).Follows database
        after ∧ (OwnersAgree database → OwnersAgree after) := by
  obtain ⟨current, opened, openRan, afterOpen⟩ := bind_eq_returned ran
  obtain ⟨rfl, isOpened⟩ := getAssignmentState_opens openRan
  obtain ⟨_, _, sameRan, afterSame⟩ := bind_eq_returned afterOpen
  obtain ⟨isExpected, rfl⟩ := require_eq_returned sameRan
  obtain ⟨_, _, validRan, afterValid⟩ := bind_eq_returned afterSame
  obtain ⟨isValid, rfl⟩ := ofExcept_eq_returned validRan
  obtain ⟨owner, _, ownerRan, afterOwner⟩ := bind_eq_returned afterValid
  obtain ⟨isOwner, rfl⟩ := ofExcept_eq_returned ownerRan
  obtain ⟨_, _, knownRan, afterKnown⟩ := bind_eq_returned afterOwner
  obtain rfl := (requireOwner_readOnly owner).returned knownRan
  obtain ⟨_, _, updated, ended⟩ := bind_eq_returned afterKnown
  cases updated
  obtain ⟨_, isEnd⟩ := getAssignmentState_opens ended
  have changed := AssignmentChanged.of_opened (by exact fun _ => rfl) isOpened isEnd
  simp only [decide_eq_true_eq] at isExpected
  refine ⟨⟨isExpected, validateTransition_listed isValid, ?_, changed.others, changed.plans,
    changed.hosts⟩, fun owners => ⟨by rw [changed.hosts]; exact owners.hosts, ?_⟩⟩
  · rw [changed.row, isExpected, ownerFor_ok isOwner]
    rfl
  · intro row member
    rcases changed.rows row member with old | rfl | ⟨state, rfl⟩
    · exact owners.assignments row old
    · simp [newAssignmentState]
    · exact (ownerFor_none_iff isOwner).trans (by simp)

theorem plan?_setLifecycleState_other (database : Database) {planId other : String}
    (target : MaintenanceState) (different : other ≠ planId) :
    (database.setLifecycleState planId target).plan? other = database.plan? other := by
  simp only [Database.plan?, Database.setLifecycleState, List.find?_map]
  have unmoved : (fun plan : PlanRecord => decide (plan.id = other)) ∘ (fun plan =>
      if plan.id = planId then
        { plan with lifecycleState := target, stateRevision := plan.stateRevision + 1 }
      else plan) = fun plan => decide (plan.id = other) := by
    funext plan
    simp only [Function.comp]
    split <;> rfl
  rw [unmoved]
  cases found : database.plans.find? fun plan => decide (plan.id = other) with
  | none => rfl
  | some plan =>
      have isOther : plan.id = other := by simpa using List.find?_some found
      simp [isOther, different]

theorem transitionPlan_follows {planId : String} {expected : Nat} {target : MaintenanceState}
    {plan : PlanRecord} {database after : Database}
    (ran : (transitionPlan planId expected target).run database = (.returned plan, after)) :
    (TransitionCall.plan planId expected target).Follows database after ∧
      (OwnersAgree database → OwnersAgree after) := by
  have isExpected : ∀ row, database.plan? planId = some row → row.stateRevision = expected := by
    intro row isRow
    obtain ⟨current, _, planRan, afterPlan⟩ := bind_eq_returned ran
    obtain ⟨isCurrent, rfl⟩ := getPlan_returned planRan
    obtain ⟨_, _, sameRan, _⟩ := bind_eq_returned afterPlan
    rw [isRow] at isCurrent
    cases isCurrent
    simpa using (require_eq_returned sameRan).1
  obtain ⟨rfl, current, isCurrent, isValid, isPlan, rfl⟩ := transitionPlan_returned ran
  have expects := isExpected current isCurrent
  refine ⟨⟨⟨current, isCurrent, expects, validateTransition_listed isValid, ?_⟩,
    fun other different => plan?_setLifecycleState_other database target different, rfl, rfl⟩,
    fun owners => ⟨owners.hosts, owners.assignments⟩⟩
  rw [isPlan, expects]

/-- An accepted call makes the change of its kind. -/
theorem TransitionCall.follows {call : TransitionCall} {database : Database}
    (accepted : call.Accepted database) :
    call.Follows database (call.perform.run database).2 ∧
      (OwnersAgree database → OwnersAgree (call.perform.run database).2) := by
  rcases ran : call.perform.run database with ⟨outcome, after⟩
  rw [Accepted, ran] at accepted
  obtain rfl : outcome = .returned () := accepted
  cases call with
  | plan planId expected target =>
      obtain ⟨_, _, transitionRan, ended⟩ := bind_eq_returned ran
      cases ended
      exact transitionPlan_follows transitionRan
  | host nodeId expected target activePlanId =>
      obtain ⟨_, _, transitionRan, ended⟩ := bind_eq_returned ran
      cases ended
      exact transitionHostState_returned transitionRan
  | hostWorkflow nodeId expected target =>
      obtain ⟨_, _, transitionRan, ended⟩ := bind_eq_returned ran
      cases ended
      exact transitionHostWorkflowState_returned transitionRan
  | assignment assignmentId expected target activePlanId =>
      obtain ⟨_, _, transitionRan, ended⟩ := bind_eq_returned ran
      cases ended
      exact transitionAssignmentState_returned transitionRan

/-! ### Rejected calls -/

/-- Nothing but the end of a program writes: an exception of its reading part leaves the rows. -/
theorem RowsKept.bind_raised {α β : Type} {first : Operation α} (readOnly : ReadOnly first)
    {next : α → Operation β} {start database after : Database} {error : Fault}
    (kept : RowsKept start database)
    (ran : (first >>= next).run database = (.raised error, after))
    (continues : ∀ value, (next value).run database = (.raised error, after) →
      RowsKept start after) : RowsKept start after := by
  rcases readOnly.bind_raised ran with rfl | ⟨value, _, nextRan⟩
  · exact kept
  · exact continues value nextRan

/-- A row that was changed is there when it is read again. -/
theorem getHostState_after {nodeId : Nat} {database after : Database} {error : Fault}
    (present : (database.hostState? nodeId).isSome)
    (ran : (getHostState nodeId).run database = (.raised error, after)) : False := by
  obtain ⟨host, isHost⟩ := Option.isSome_iff_exists.mp present
  simp only [getHostState, run_bind, run_read, isHost, run_pure] at ran
  cases ran

theorem getAssignmentState_after {assignmentId : Nat} {database after : Database}
    {error : Fault} (present : (database.assignmentState? assignmentId).isSome)
    (ran : (getAssignmentState assignmentId).run database = (.raised error, after)) :
    False := by
  obtain ⟨state, isState⟩ := Option.isSome_iff_exists.mp present
  simp only [getAssignmentState, run_bind, run_read, isState, run_pure] at ran
  cases ran

/-- The end of a transition of a host: the write and the row that it answers with. -/
theorem setHostState_answers {nodeId : Nat} {change : HostStateRecord → HostStateRecord}
    {database opened after : Database} {error : Fault}
    (sameNode : ∀ host, (change host).nodeId = host.nodeId)
    (isOpened : HostOpened nodeId database opened)
    (ran : ((update (Database.setHostState nodeId change) : Operation Unit) >>= fun _ =>
      getHostState nodeId).run opened = (.raised error, after)) : False := by
  rcases bind_eq_raised ran with refused | ⟨_, _, updated, ended⟩
  · cases refused
  · cases updated
    refine getHostState_after ?_ ended
    rw [hostState?_setHostState _ _ _ sameNode, if_pos rfl, isOpened.row]
    rfl

theorem transitionHostState_raised {nodeId expected : Nat} {target : HostMaintenanceState}
    {activePlanId : Option String} {error : Fault} {database after : Database}
    (ran : (transitionHostState nodeId expected target activePlanId).run database =
      (.raised error, after)) : RowsKept database after := by
  rcases bind_eq_raised ran with refused | ⟨current, opened, openRan, afterOpen⟩
  · have kept := getHostState_kept nodeId database
    rwa [refused] at kept
  obtain ⟨_, isOpened⟩ := getHostState_opens openRan
  refine isOpened.kept.bind_raised (.require _ _) afterOpen fun _ afterSame => ?_
  refine isOpened.kept.bind_raised (.ofExcept _) afterSame fun _ afterValid => ?_
  refine isOpened.kept.bind_raised (.ofExcept _) afterValid fun owner afterOwner => ?_
  refine isOpened.kept.bind_raised (.require _ _) afterOwner fun _ afterLegal => ?_
  refine isOpened.kept.bind_raised (requireOwner_readOnly _) afterLegal fun _ ended => ?_
  exact (setHostState_answers (by exact fun _ => rfl) isOpened ended).elim

theorem transitionHostWorkflowState_raised {nodeId expected : Nat}
    {target : MaintenanceWorkflowState} {error : Fault} {database after : Database}
    (ran : (transitionHostWorkflowState nodeId expected target).run database =
      (.raised error, after)) : RowsKept database after := by
  rcases bind_eq_raised ran with refused | ⟨current, opened, openRan, afterOpen⟩
  · have kept := getHostState_kept nodeId database
    rwa [refused] at kept
  obtain ⟨_, isOpened⟩ := getHostState_opens openRan
  refine isOpened.kept.bind_raised (.require _ _) afterOpen fun _ afterSame => ?_
  refine isOpened.kept.bind_raised (.ofExcept _) afterSame fun _ ended => ?_
  exact (setHostState_answers (by exact fun _ => rfl) isOpened ended).elim

theorem transitionAssignmentState_raised {assignmentId expected : Nat}
    {target : MaintenanceWorkflowState} {activePlanId : Option String} {error : Fault}
    {database after : Database}
    (ran : (transitionAssignmentState assignmentId expected target activePlanId).run database =
      (.raised error, after)) : RowsKept database after := by
  rcases bind_eq_raised ran with refused | ⟨current, opened, openRan, afterOpen⟩
  · have kept := getAssignmentState_kept assignmentId database
    rwa [refused] at kept
  obtain ⟨_, isOpened⟩ := getAssignmentState_opens openRan
  refine isOpened.kept.bind_raised (.require _ _) afterOpen fun _ afterSame => ?_
  refine isOpened.kept.bind_raised (.ofExcept _) afterSame fun _ afterValid => ?_
  refine isOpened.kept.bind_raised (.ofExcept _) afterValid fun owner afterOwner => ?_
  refine isOpened.kept.bind_raised (requireOwner_readOnly _) afterOwner fun _ afterKnown => ?_
  rcases bind_eq_raised afterKnown with refused | ⟨_, _, updated, ended⟩
  · cases refused
  · cases updated
    refine (getAssignmentState_after ?_ ended).elim
    rw [assignmentState?_setAssignmentState _ _ _ (by exact fun _ => rfl), if_pos rfl,
      isOpened.row]
    rfl

theorem transitionPlan_raised {planId : String} {expected : Nat} {target : MaintenanceState}
    {error : Fault} {database after : Database}
    (ran : (transitionPlan planId expected target).run database = (.raised error, after)) :
    RowsKept database after := by
  have kept := RowsKept.refl database
  rcases bind_eq_raised ran with refused | ⟨current, opened, planRan, afterPlan⟩
  · rcases bind_eq_raised refused with refused | ⟨found, _, wasRead, matched⟩
    · cases refused
    · cases wasRead
      dsimp only at matched
      split at matched
      · cases matched
      · cases matched
        exact kept
  obtain ⟨isCurrent, rfl⟩ := getPlan_returned planRan
  refine kept.bind_raised (.require _ _) afterPlan fun _ afterSame => ?_
  refine kept.bind_raised (.ofExcept _) afterSame fun _ afterValid => ?_
  refine kept.bind_raised (.read _) afterValid fun overlapping afterRead => ?_
  refine kept.bind_raised (.require _ _) afterRead fun _ afterFree => ?_
  rcases bind_eq_raised afterFree with refused | ⟨_, _, updated, ended⟩
  · cases refused
  · cases updated
    simp only [getPlan, run_bind, run_read, plan?_setLifecycleState, isCurrent, Option.map_some,
      run_pure] at ended
    cases ended

theorem getHostState_unstopped (nodeId : Nat) :
    Unstopped (fun _ => True) (getHostState nodeId) := by
  refine .bind (.read _) fun found => ?_
  cases found with
  | some host => exact .pure host
  | none =>
      refine .bind (.read _) fun known => .bind (.require _ _) fun _ => ?_
      exact .bind (.update fun _ _ => trivial) fun _ => .pure _

theorem getAssignmentState_unstopped (assignmentId : Nat) :
    Unstopped (fun _ => True) (getAssignmentState assignmentId) := by
  refine .bind (.read _) fun found => ?_
  cases found with
  | some state => exact .pure state
  | none =>
      refine .bind (.read _) fun known => .bind (.require _ _) fun _ => ?_
      exact .bind (.update fun _ _ => trivial) fun _ => .pure _

theorem getPlan_unstopped (planId : String) : Unstopped (fun _ => True) (getPlan planId) := by
  refine .bind (.read _) fun found => ?_
  cases found with
  | some plan => exact .pure plan
  | none => exact .raise _

theorem requireOwner_unstopped (owner : Option String) :
    Unstopped (fun _ => True) (requireOwner owner) :=
  .bind (.read _) fun _ => .require _ _

theorem TransitionCall.perform_unstopped (call : TransitionCall) :
    Unstopped (fun _ => True) call.perform := by
  cases call with
  | plan planId expected target =>
      refine .bind (.bind (getPlan_unstopped _) fun current => ?_) fun _ => .pure ()
      refine .bind (.require _ _) fun _ => .bind (.ofExcept _) fun _ => ?_
      refine .bind (.read _) fun overlapping => .bind (.require _ _) fun _ => ?_
      exact .bind (.update fun _ _ => trivial) fun _ => getPlan_unstopped _
  | host nodeId expected target activePlanId =>
      refine .bind (.bind (getHostState_unstopped _) fun current => ?_) fun _ => .pure ()
      refine .bind (.require _ _) fun _ => .bind (.ofExcept _) fun _ => ?_
      refine .bind (.ofExcept _) fun owner => .bind (.require _ _) fun _ => ?_
      refine .bind (requireOwner_unstopped _) fun _ => ?_
      exact .bind (.update fun _ _ => trivial) fun _ => getHostState_unstopped _
  | hostWorkflow nodeId expected target =>
      refine .bind (.bind (getHostState_unstopped _) fun current => ?_) fun _ => .pure ()
      refine .bind (.require _ _) fun _ => .bind (.ofExcept _) fun _ => ?_
      exact .bind (.update fun _ _ => trivial) fun _ => getHostState_unstopped _
  | assignment assignmentId expected target activePlanId =>
      refine .bind (.bind (getAssignmentState_unstopped _) fun current => ?_) fun _ => .pure ()
      refine .bind (.require _ _) fun _ => .bind (.ofExcept _) fun _ => ?_
      refine .bind (.ofExcept _) fun owner => .bind (requireOwner_unstopped _) fun _ => ?_
      exact .bind (.update fun _ _ => trivial) fun _ => getAssignmentState_unstopped _

/-- A call that is not accepted raises, and it raises before it changes a row. -/
theorem TransitionCall.rejected {call : TransitionCall} {database : Database}
    (rejected : ¬ call.Accepted database) :
    RowsKept database (call.perform.run database).2 := by
  have ends := (call.perform_unstopped database trivial).1
  rcases ran : call.perform.run database with ⟨outcome, after⟩
  rw [Accepted, ran] at rejected
  rw [ran] at ends
  have transitionRaised : ∀ {α : Type} {operation : Operation α} {error : Fault},
      (operation >>= fun _ => pure ()).run database = (.raised error, after) →
      operation.run database = (.raised error, after) := by
    intro α operation error raised
    rcases bind_eq_raised raised with transitionRan | ⟨_, _, _, ended⟩
    · exact transitionRan
    · cases ended
  cases outcome with
  | stopped => exact absurd rfl ends
  | returned value => exact absurd rfl rejected
  | raised error =>
      cases call with
      | plan planId expected target => exact transitionPlan_raised (transitionRaised ran)
      | host nodeId expected target activePlanId =>
          exact transitionHostState_raised (transitionRaised ran)
      | hostWorkflow nodeId expected target =>
          exact transitionHostWorkflowState_raised (transitionRaised ran)
      | assignment assignmentId expected target activePlanId =>
          exact transitionAssignmentState_raised (transitionRaised ran)

/-! ### Revisions -/

/-- Inserted rows are those that a missing row stands for. -/
theorem RowsKept.hostRow {before after : Database} (kept : RowsKept before after)
    (nodeId : Nat) : after.hostRow nodeId = before.hostRow nodeId := by
  obtain ⟨added, isAdded⟩ := kept.hosts
  simp only [Database.hostRow, Database.hostState?, isAdded, List.find?_append, List.find?_map]
  cases before.hostStates.find? fun host => decide (host.nodeId = nodeId) with
  | some host => rfl
  | none =>
      cases found : added.find? ((fun host : HostStateRecord => decide (host.nodeId = nodeId)) ∘
          newHostState) with
      | none => rfl
      | some other =>
          have isNode := List.find?_some found
          rw [Function.comp, decide_eq_true_eq] at isNode
          obtain rfl : other = nodeId := isNode
          rfl

theorem RowsKept.assignmentRow {before after : Database} (kept : RowsKept before after)
    (assignmentId : Nat) :
    after.assignmentRow assignmentId = before.assignmentRow assignmentId := by
  obtain ⟨added, isAdded⟩ := kept.assignments
  simp only [Database.assignmentRow, Database.assignmentState?, isAdded, List.find?_append,
    List.find?_map]
  cases before.assignmentStates.find? fun state => decide (state.assignmentId = assignmentId) with
  | some state => rfl
  | none =>
      cases found : added.find? ((fun state : AssignmentStateRecord =>
          decide (state.assignmentId = assignmentId)) ∘ newAssignmentState) with
      | none => rfl
      | some other =>
          have isAssignment := List.find?_some found
          rw [Function.comp, decide_eq_true_eq] at isAssignment
          obtain rfl : other = assignmentId := isAssignment
          rfl

theorem RowsKept.plan? {before after : Database} (kept : RowsKept before after)
    (planId : String) : after.plan? planId = before.plan? planId := by
  rw [Database.plan?, kept.plans, Database.plan?]

theorem RowsKept.revision {before after : Database} (kept : RowsKept before after)
    (column : RevisionColumn) : after.revision column = before.revision column := by
  cases column with
  | plan planId => simp only [Database.revision, kept.plan?]
  | host nodeId => simp only [Database.revision, kept.hostRow]
  | hostWorkflow nodeId => simp only [Database.revision, kept.hostRow]
  | assignment assignmentId => simp only [Database.revision, kept.assignmentRow]

theorem RowsKept.ownersAgree {before after : Database} (kept : RowsKept before after)
    (owners : OwnersAgree before) : OwnersAgree after := by
  obtain ⟨hosts, isHosts⟩ := kept.hosts
  obtain ⟨states, isStates⟩ := kept.assignments
  refine ⟨fun row member => ?_, fun row member => ?_⟩
  · rw [isHosts] at member
    rcases List.mem_append.mp member with old | added
    · exact owners.hosts row old
    · obtain ⟨nodeId, _, rfl⟩ := List.mem_map.mp added
      simp [newHostState]
  · rw [isStates] at member
    rcases List.mem_append.mp member with old | added
    · exact owners.assignments row old
    · obtain ⟨assignmentId, _, rfl⟩ := List.mem_map.mp added
      simp [newAssignmentState]

namespace TransitionCall

/-- The compared revision is the expected one and is raised by one. -/
theorem Follows.raises {call : TransitionCall} {before after : Database}
    (follows : call.Follows before after) :
    before.revision call.column = call.expectedRevision ∧
      after.revision call.column = call.expectedRevision + 1 := by
  cases call with
  | plan planId expected target =>
      obtain ⟨⟨row, isRow, isExpected, _, isAfter⟩, _⟩ := follows
      simp [column, expectedRevision, Database.revision, isRow, isAfter, isExpected]
  | host nodeId expected target activePlanId =>
      obtain ⟨isExpected, _, _, isAfter, _⟩ := follows
      refine ⟨isExpected, ?_⟩
      simp [column, expectedRevision, Database.revision, Database.hostRow, isAfter]
  | hostWorkflow nodeId expected target =>
      obtain ⟨isExpected, _, isAfter, _⟩ := follows
      refine ⟨isExpected, ?_⟩
      simp [column, expectedRevision, Database.revision, Database.hostRow, isAfter]
  | assignment assignmentId expected target activePlanId =>
      obtain ⟨isExpected, _, isAfter, _⟩ := follows
      refine ⟨isExpected, ?_⟩
      simp [column, expectedRevision, Database.revision, Database.assignmentRow, isAfter]

/-- The revisions of a host after one of its rows changed. -/
theorem hostRow_le {before after : Database} {nodeId : Nat} {host : HostStateRecord}
    (row : after.hostState? nodeId = some host)
    (others : ∀ other, other ≠ nodeId → after.hostState? other = before.hostState? other)
    (revision : HostStateRecord → Nat)
    (raised : revision (before.hostRow nodeId) ≤ revision host) (other : Nat) :
    revision (before.hostRow other) ≤ revision (after.hostRow other) := by
  by_cases same : other = nodeId
  · subst same
    simpa [Database.hostRow, row] using raised
  · simp [Database.hostRow, others other same]

/-- No revision ever falls. -/
theorem Follows.monotone {call : TransitionCall} {before after : Database}
    (follows : call.Follows before after) (changed : RevisionColumn) :
    before.revision changed ≤ after.revision changed := by
  have samePlans : after.plans = before.plans →
      ∀ planId, before.revision (.plan planId) ≤ after.revision (.plan planId) := by
    intro same planId
    simp only [Database.revision, Database.plan?, same, Nat.le_refl]
  have sameHosts : after.hostStates = before.hostStates →
      ∀ nodeId, before.revision (.host nodeId) ≤ after.revision (.host nodeId) ∧
        before.revision (.hostWorkflow nodeId) ≤ after.revision (.hostWorkflow nodeId) := by
    intro same nodeId
    simp only [Database.revision, Database.hostRow, Database.hostState?, same, Nat.le_refl,
      and_self]
  have sameAssignments : after.assignmentStates = before.assignmentStates →
      ∀ assignmentId, before.revision (.assignment assignmentId) ≤
        after.revision (.assignment assignmentId) := by
    intro same assignmentId
    simp only [Database.revision, Database.assignmentRow, Database.assignmentState?, same,
      Nat.le_refl]
  cases call with
  | plan planId expected target =>
      obtain ⟨⟨row, isRow, isExpected, _, isAfter⟩, others, hosts, assignments⟩ := follows
      cases changed with
      | plan other =>
          by_cases same : other = planId
          · subst same
            simp only [Database.revision, isRow, isAfter, Option.map_some, Option.getD_some]
            omega
          · simp only [Database.revision, others other same, Nat.le_refl]
      | host nodeId => exact (sameHosts hosts nodeId).1
      | hostWorkflow nodeId => exact (sameHosts hosts nodeId).2
      | assignment assignmentId => exact sameAssignments assignments assignmentId
  | host nodeId expected target activePlanId =>
      obtain ⟨isExpected, _, _, isAfter, others, plans, assignments⟩ := follows
      cases changed with
      | plan planId => exact samePlans plans planId
      | host other =>
          exact hostRow_le isAfter others (·.stateRevision) (by simp only; omega) other
      | hostWorkflow other =>
          exact hostRow_le isAfter others (·.workflowStateRevision) (by simp only; omega) other
      | assignment assignmentId => exact sameAssignments assignments assignmentId
  | hostWorkflow nodeId expected target =>
      obtain ⟨isExpected, _, isAfter, others, plans, assignments⟩ := follows
      cases changed with
      | plan planId => exact samePlans plans planId
      | host other => exact hostRow_le isAfter others (·.stateRevision) (Nat.le_refl _) other
      | hostWorkflow other =>
          exact hostRow_le isAfter others (·.workflowStateRevision) (by simp only; omega) other
      | assignment assignmentId => exact sameAssignments assignments assignmentId
  | assignment assignmentId expected target activePlanId =>
      obtain ⟨isExpected, _, isAfter, others, plans, hosts⟩ := follows
      cases changed with
      | plan planId => exact samePlans plans planId
      | host nodeId => exact (sameHosts hosts nodeId).1
      | hostWorkflow nodeId => exact (sameHosts hosts nodeId).2
      | assignment other =>
          by_cases same : other = assignmentId
          · subst same
            simp only [Database.revision, Database.assignmentRow, isAfter, Option.getD_some]
            simp only [Database.assignmentRow] at isExpected
            omega
          · simp only [Database.revision, Database.assignmentRow, others other same, Nat.le_refl]

/-! ### Sequences of calls -/

theorem perform_monotone (call : TransitionCall) (database : Database)
    (changed : RevisionColumn) :
    database.revision changed ≤ (call.perform.run database).2.revision changed := by
  by_cases accepted : call.Accepted database
  · exact (follows accepted).1.monotone changed
  · exact Nat.le_of_eq ((rejected accepted).revision changed).symm

theorem performAll_monotone (calls : List TransitionCall) (database : Database)
    (changed : RevisionColumn) :
    database.revision changed ≤ (performAll database calls).revision changed := by
  induction calls generalizing database with
  | nil => exact Nat.le_refl _
  | cons call calls ih =>
      exact Nat.le_trans (perform_monotone call database changed)
        (ih (call.perform.run database).2)

theorem performAll_ownersAgree (calls : List TransitionCall) {database : Database}
    (owners : OwnersAgree database) : OwnersAgree (performAll database calls) := by
  induction calls generalizing database with
  | nil => exact owners
  | cons call calls ih =>
      refine ih ?_
      by_cases accepted : call.Accepted database
      · exact (follows accepted).2 owners
      · exact (rejected accepted).ownersAgree owners

/-- A terminal plan is left as it is by every call. -/
theorem perform_terminal (call : TransitionCall) {database : Database} {planId : String}
    {plan : PlanRecord} (stored : database.plan? planId = some plan)
    (terminal : plan.lifecycleState.transitions = []) :
    (call.perform.run database).2.plan? planId = some plan := by
  by_cases accepted : call.Accepted database
  · have changed := (follows accepted).1
    cases call with
    | plan other expected target =>
        obtain ⟨⟨row, isRow, _, isLegal, _⟩, others, _⟩ := changed
        by_cases same : planId = other
        · subst same
          rw [stored] at isRow
          cases isRow
          rw [terminal] at isLegal
          cases isLegal
        · rw [others planId same, stored]
    | host nodeId expected target activePlanId =>
        obtain ⟨_, _, _, _, _, plans, _⟩ := changed
        rw [Database.plan?, plans]
        exact stored
    | hostWorkflow nodeId expected target =>
        obtain ⟨_, _, _, _, plans, _⟩ := changed
        rw [Database.plan?, plans]
        exact stored
    | assignment assignmentId expected target activePlanId =>
        obtain ⟨_, _, _, _, plans, _⟩ := changed
        rw [Database.plan?, plans]
        exact stored
  · rw [(rejected accepted).plan?, stored]

theorem performAll_terminal (calls : List TransitionCall) {database : Database}
    {planId : String} {plan : PlanRecord} (stored : database.plan? planId = some plan)
    (terminal : plan.lifecycleState.transitions = []) :
    (performAll database calls).plan? planId = some plan := by
  induction calls generalizing database with
  | nil => exact stored
  | cons call calls ih => exact ih (perform_terminal call stored terminal)

/-- A second call on an accepted revision is rejected, whatever happens in between. -/
theorem second_rejected {first second : TransitionCall} {database : Database}
    (accepted : first.Accepted database) (between : List TransitionCall)
    (sameRow : second.column = first.column)
    (sameRevision : second.expectedRevision = first.expectedRevision) :
    ¬ second.Accepted (performAll (first.perform.run database).2 between) := by
  intro again
  have raised := (follows accepted).1.raises.2
  have kept := performAll_monotone between (first.perform.run database).2 first.column
  have expects := (follows again).1.raises.1
  rw [sameRow, sameRevision] at expects
  omega

end TransitionCall

/-- After any sequence of transitions from a database whose rows agree with their owners, the
rows still agree; a further call is accepted along the tables, one revision up, or leaves the
rows; of two calls on one revision at most one is accepted; and terminal plans stay. -/
theorem transitions_compare_and_set (start : Database) (calls : List TransitionCall) :
    (OwnersAgree start → OwnersAgree (TransitionCall.performAll start calls)) ∧
      (∀ call : TransitionCall,
        (call.Accepted (TransitionCall.performAll start calls) →
          call.Follows (TransitionCall.performAll start calls)
            (call.perform.run (TransitionCall.performAll start calls)).2) ∧
        (¬ call.Accepted (TransitionCall.performAll start calls) →
          RowsKept (TransitionCall.performAll start calls)
            (call.perform.run (TransitionCall.performAll start calls)).2)) ∧
      (∀ (first second : TransitionCall) (between : List TransitionCall),
        second.column = first.column → second.expectedRevision = first.expectedRevision →
        first.Accepted (TransitionCall.performAll start calls) →
        ¬ second.Accepted (TransitionCall.performAll
          (first.perform.run (TransitionCall.performAll start calls)).2 between)) ∧
      ∀ (planId : String) (plan : PlanRecord) (later : List TransitionCall),
        (TransitionCall.performAll start calls).plan? planId = some plan →
        plan.lifecycleState ∈ [.succeeded, .failed, .cancelled] →
        (TransitionCall.performAll (TransitionCall.performAll start calls) later).plan? planId =
          some plan := by
  refine ⟨TransitionCall.performAll_ownersAgree calls, fun call => ⟨?_, ?_⟩, ?_, ?_⟩
  · exact fun accepted => (TransitionCall.follows accepted).1
  · exact fun rejected => TransitionCall.rejected rejected
  · intro first second between sameRow sameRevision accepted
    exact TransitionCall.second_rejected accepted between sameRow sameRevision
  · intro planId plan later stored terminal
    refine TransitionCall.performAll_terminal later stored ?_
    simp only [List.mem_cons, List.not_mem_nil, or_false] at terminal
    rcases terminal with isState | isState | isState <;> (rw [isState]; rfl)

namespace TransitionSample

/-- A plan for the host 1. -/
def plan : PlanRecord where
  id := "plan"
  runId := none
  operationKind := .reboot
  targetNodeId := some 1
  targetClusterId := none
  targetAssignmentId := none
  observationMaxAgeSeconds := 120
  observation := ⟨none, none, []⟩
  planHash := "hash"
  targetManifest := ⟨none, [], [], [], none⟩
  lifecycleState := .ready
  stateRevision := 1
  expiresAt := 0

def database : Database :=
  { Database.empty with
    plans := [plan]
    nodes := [⟨1, "node", true⟩] }

/-- The host is taken into maintenance, and its plan is cancelled. -/
def calls : List TransitionCall :=
  [.host 1 1 .planning (some "plan"), .hostWorkflow 1 2 .maintenance, .plan "plan" 1 .cancelled]

end TransitionSample

theorem transitions_compare_and_set_sample :
    OwnersAgree (TransitionCall.performAll TransitionSample.database TransitionSample.calls) ∧
      ¬ (TransitionCall.hostWorkflow 1 3 .blocked).Accepted
        (TransitionCall.performAll ((TransitionCall.hostWorkflow 1 3 .returning).perform.run
          (TransitionCall.performAll TransitionSample.database TransitionSample.calls)).2 []) ∧
      (TransitionCall.performAll
        (TransitionCall.performAll TransitionSample.database TransitionSample.calls)
        [.plan "plan" 2 .ready]).plan? "plan" =
          some { TransitionSample.plan with lifecycleState := .cancelled, stateRevision := 2 } := by
  have holds := transitions_compare_and_set TransitionSample.database TransitionSample.calls
  have accepted : (TransitionCall.hostWorkflow 1 3 .returning).Accepted
      (TransitionCall.performAll TransitionSample.database TransitionSample.calls) := by
    unfold TransitionCall.Accepted
    decide +kernel
  refine ⟨holds.1 ⟨by simp [TransitionSample.database, Database.empty],
    by simp [TransitionSample.database, Database.empty]⟩, ?_, ?_⟩
  · exact holds.2.2.1 _ _ [] rfl rfl accepted
  · exact holds.2.2.2 "plan" _ [.plan "plan" 2 .ready] (by decide +kernel) (by decide)

end ElKeeper
