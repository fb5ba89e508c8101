import ElKeeper.PostReturnVerification

/-!
# When a post-return verification answers

Both verifications return truthfully unless a check cannot be recorded: its
identifier is longer than the pattern of identifiers admits.  The full one also
raises on the category of a guard cleanup that the evidence rejects.
-/

namespace ElKeeper.PostReturn

open Program

/-! ### Identifiers that match -/

def isReferenceCharacter (character : Char) : Bool :=
  character.isAlphanum || character ∈ ['.', '_', ':', '-']

theorem matchesReference_iff (text : String) :
    matchesReference text ↔
      text.toList.head?.any Char.isAlphanum ∧ text.length ≤ 128 ∧
        text.toList.all isReferenceCharacter := by
  rw [← String.length_toList, matchesReference]
  cases text.toList with
  | nil => simp
  | cons first rest =>
      simp only [Bool.and_eq_true, decide_eq_true_eq, List.head?_cons, Option.any_some,
        List.length_cons, List.all_cons, isReferenceCharacter]
      constructor
      · rintro ⟨⟨starts, short⟩, others⟩
        exact ⟨starts, by omega, by simp [starts], others⟩
      · rintro ⟨starts, short, -, others⟩
        exact ⟨⟨starts, by omega⟩, others⟩

/-- After a prefix that matches, only the length is left to decide. -/
theorem matchesReference_append {start rest : String} (matched : matchesReference start)
    (characters : rest.toList.all isReferenceCharacter) :
    matchesReference (start ++ rest) ↔ (start ++ rest).length ≤ 128 := by
  obtain ⟨starts, -, before⟩ := (matchesReference_iff start).mp matched
  have isStart : (start ++ rest).toList.head?.any Char.isAlphanum := by
    rw [String.toList_append, List.head?_append]
    cases given : start.toList.head? with
    | none => simp [given] at starts
    | some first => simpa [given] using starts
  have isBody : (start ++ rest).toList.all isReferenceCharacter := by
    rw [String.toList_append, List.all_append, before, characters]
    rfl
  rw [matchesReference_iff]
  exact ⟨fun known => known.2.1, fun short => ⟨isStart, short, isBody⟩⟩

theorem characters_of_matches {text : String} (matched : matchesReference text) :
    text.toList.all isReferenceCharacter :=
  ((matchesReference_iff text).mp matched).2.2

theorem characters_of_number (number : Nat) :
    (toString number).toList.all isReferenceCharacter := by
  rw [List.all_eq_true]
  intro character member
  have isIn : character ∈ Nat.toDigits 10 number := by simpa [Nat.repr] using member
  have isDigit := Nat.isDigit_of_mem_toDigits (by decide) (by decide) isIn
  simp [isReferenceCharacter, Char.isAlphanum, isDigit]

theorem numbered_matches {start : String} (matched : matchesReference start) (number : Nat) :
    matchesReference (start ++ toString number) ↔ (start ++ toString number).length ≤ 128 :=
  matchesReference_append matched (characters_of_number number)

/-- The identifiers are short enough to be recorded. -/
def Fit (identifiers : List String) : Prop :=
  ∀ identifier ∈ identifiers, identifier.length ≤ 128

instance (identifiers : List String) : Decidable (Fit identifiers) :=
  inferInstanceAs (Decidable (∀ identifier ∈ identifiers, identifier.length ≤ 128))

theorem endpointCheckId_matches (endpoint : EndpointExpectation) :
    matchesReference (endpointCheckId endpoint) ↔ (endpointCheckId endpoint).length ≤ 128 :=
  matchesReference_append (by decide +kernel) (characters_of_matches endpoint.endpointRef_matches)

theorem serviceBudgetCheckId_matches (budget : ServiceBudgetExpectation) :
    matchesReference (serviceBudgetCheckId budget) ↔
      (serviceBudgetCheckId budget).length ≤ 128 := by
  have role := characters_of_matches budget.role_matches
  have cluster := characters_of_number budget.clusterId
  have colon : ":".toList.all isReferenceCharacter := by decide +kernel
  have rest : (toString budget.clusterId ++ (":" ++ budget.role)).toList.all
      isReferenceCharacter := by
    simp only [String.toList_append, List.all_append, role, cluster, colon, Bool.and_self]
  have starts : matchesReference "service-budget:" := by decide +kernel
  simpa only [serviceBudgetCheckId, String.append_assoc] using matchesReference_append starts rest

theorem commonCheckIds_match {endpoints : List EndpointExpectation}
    {clusters : List ClusterExpectation} {budgets : List ServiceBudgetExpectation}
    {identifier : String} (member : identifier ∈ commonCheckIds endpoints clusters budgets) :
    matchesReference identifier ↔ identifier.length ≤ 128 := by
  simp only [commonCheckIds, clusterCheckIds, List.mem_append, List.mem_map, List.mem_flatMap,
    List.mem_cons, List.not_mem_nil, or_false] at member
  rcases member with (⟨endpoint, -, rfl⟩ | ⟨cluster, -, ⟨node, -, rfl⟩ | rfl | rfl⟩) |
    ⟨budget, -, rfl⟩
  · exact endpointCheckId_matches endpoint
  · exact numbered_matches (by decide +kernel) _
  · exact numbered_matches (by decide +kernel) _
  · exact numbered_matches (by decide +kernel) _
  · exact serviceBudgetCheckId_matches budget

/-! ### Verifying a maintained host -/

namespace PostReturnCoordinator

variable (coordinator : PostReturnCoordinator) {reason : Prop}

/-- The result that closes a verification. -/
theorem closing_checks {α : Type} {build : Report → Nat → Except Fault α}
    {before : ReturnWorld → Prop} {after : α → ReturnWorld → Prop}
    (accepts : ∀ world time, Sound world → before world →
      ∃ result, build world.working time = .ok result ∧ after result world) :
    Checks reason [] before
      (do
        let report ← view id
        let completedAt ← read fun world => coordinator.clock world.trace
        ofExcept (build report completedAt)) after := by
  intro world sound known
  obtain ⟨result, built, ended⟩ := accepts world (coordinator.clock world.trace) sound known
  refine .inl ⟨result, world, ?_, sound, ended, by simp⟩
  simp [run_bind, view, Program.read, built, Program.ofExcept]

/-- The checks that both verifications make of what a request lists. -/
theorem clusters_checks {fact : Prop} (clusters : List ClusterExpectation)
    (excused : Excused reason (clusters.flatMap clusterCheckIds)) :
    Checks reason (clusters.flatMap clusterCheckIds) (Doubt fact)
      (Program.forEach clusters coordinator.verifyCluster) fun _ => Doubt fact := by
  refine .forEach fun cluster member => coordinator.verifyCluster_checks cluster ?_
  exact excused.mono fun identifier isIn => List.mem_flatMap.mpr ⟨cluster, member, isIn⟩

theorem budgets_checks {fact : Prop} (budgets : List ServiceBudgetExpectation)
    (excused : Excused reason (budgets.map serviceBudgetCheckId)) :
    Checks reason (budgets.map serviceBudgetCheckId) (Doubt fact)
      (Program.forEach budgets coordinator.verifyBudget) fun _ => Doubt fact := by
  rw [List.map_eq_flatMap]
  refine .forEach fun budget member => coordinator.verifyBudget_checks budget ?_
  exact excused.mono (by simpa using ⟨budget, member, rfl⟩)

theorem verifyHostMaintenance_checks (request : HostMaintenancePostReturnRequest)
    (excused : Excused reason
      (commonCheckIds request.endpoints request.clusters request.serviceBudgets)) :
    Checks reason (commonCheckIds request.endpoints request.clusters request.serviceBudgets)
      (fun _ => True) (coordinator.verifyHostMaintenance request)
      fun result _ => result.state = .complete ↔ AllPassed result.checks := by
  have endpoints : Excused reason (request.endpoints.map endpointCheckId) :=
    excused.mono fun _ member => by simp [commonCheckIds, member]
  have clusters : Excused reason (request.clusters.flatMap clusterCheckIds) :=
    excused.mono fun _ member => by
      simp only [commonCheckIds, List.mem_append, member, or_true, true_or]
  have budgets : Excused reason (request.serviceBudgets.map serviceBudgetCheckId) :=
    excused.mono fun _ member => by simp only [commonCheckIds, List.mem_append, member, or_true]
  have verified : Checks reason ([] ++ ([] ++ (request.endpoints.map endpointCheckId ++
        (request.clusters.flatMap clusterCheckIds ++
          (request.serviceBudgets.map serviceBudgetCheckId ++ [])))))
      (Doubt False) (coordinator.verifyHostMaintenance request)
      fun result _ => result.state = .complete ↔ AllPassed result.checks := by
    refine .bind (answerOr_observing false rfl _) fun sshReady => ?_
    refine .bind (fixedCheck (by decide +kernel) _ _) fun _ => ?_
    refine .bind (coordinator.verifyServices_checks _ _ _ .inr endpoints) fun _ => ?_
    refine .bind (coordinator.clusters_checks _ clusters) fun _ => ?_
    refine .bind (coordinator.budgets_checks _ budgets) fun _ => ?_
    refine coordinator.closing_checks fun world time sound _ => ?_
    by_cases unfailed : world.working.errors = []
    · have passed := sound.unfailed_iff.mp unfailed
      have proven : ReturnState.complete = .complete →
          world.working.errors = [] ∧ AllPassed world.working.checks := fun _ => ⟨unfailed, passed⟩
      rw [if_pos unfailed, HostMaintenancePostReturnResult.validate, dif_pos proven, dif_pos nofun]
      exact ⟨_, rfl, iff_of_true rfl passed⟩
    · rw [if_neg unfailed, HostMaintenancePostReturnResult.validate, dif_pos nofun,
        dif_pos fun _ => unfailed]
      exact ⟨_, rfl, iff_of_false nofun fun passed => unfailed (sound.unfailed_iff.mpr passed)⟩
  refine verified.weaken (fun identifier member => ?_) (fun _ _ _ => nofun) fun _ _ _ known => known
  simpa [commonCheckIds, or_assoc] using member

/-! ### Verifying and cleaning up -/

variable (dependencies : CleanupDependencies)

/-- The restoration answers with a category that the evidence of a cleanup rejects. -/
def Rejects (checkpoint : AllocationGuardCheckpoint) : Prop :=
  ∃ history cleanup, dependencies.restore checkpoint .recovery history = .ok cleanup ∧
    ¬ ∀ category ∈ cleanup.val.errorCategory, matchesError category

theorem restorations_checks {fact : Prop} (guards : List AllocationGuardCheckpoint)
    (rejected : ∀ guard ∈ guards, Rejects dependencies guard → reason)
    (excused : Excused reason (guards.map allocationCheckId)) :
    Checks reason (guards.map allocationCheckId) (Doubt fact)
      (Program.forEach guards (restoreAllocation dependencies)) fun _ => Doubt fact := by
  rw [List.map_eq_flatMap]
  refine .forEach fun guard member => restoreAllocation_checks dependencies guard ?_ ?_
  · exact fun history cleanup answered unmatched =>
      rejected guard member ⟨history, cleanup, answered, unmatched⟩
  · exact excused.mono (by simpa using ⟨guard, member, rfl⟩)

theorem removals_checks {fact : Prop} (records : List ShutdownCleanupExpectation)
    (excused : Excused reason (records.map shutdownCheckId)) :
    Checks reason (records.map shutdownCheckId) (Doubt fact)
      (Program.forEach records (clearShutdown dependencies)) fun _ => Doubt fact := by
  rw [List.map_eq_flatMap]
  refine .forEach fun record member => clearShutdown_checks dependencies record ?_
  exact excused.mono (by simpa using ⟨record, member, rfl⟩)

theorem importExecutorResult_checks {fact : Prop} (request : PostReturnRequest) {sshReady : Bool}
    (observedBootId : Option String) (without : sshReady = false → fact) :
    Checks reason [] (Doubt fact)
      (importExecutorResult dependencies request observedBootId sshReady)
      fun flags world => (flags.2 = true → flags.1 = true) ∧
        Doubt (fact ∨ flags.2 = false) world := by
  cases sshReady with
  | true => exact verifyExecutorResult_checks dependencies request observedBootId
  | false =>
      have skipped : Checks reason [] (Doubt True)
          (skipCheck "executor-result" >>= fun _ => Pure.pure (false, false))
          fun flags world => (flags.2 = true → flags.1 = true) ∧
            Doubt (fact ∨ flags.2 = false) world :=
        .bind (fixedSkip (by decide +kernel)) fun _ =>
          .pure fun _ _ doubt => ⟨nofun, fun _ => doubt trivial⟩
      exact skipped.weaken (fun _ member => member) (fun _ _ doubt _ => doubt (without rfl))
        fun _ _ _ known => known

/-- The identifiers of all checks that the full verification derives from a request. -/
def allCheckIds (request : PostReturnRequest) : List String :=
  commonCheckIds request.endpoints request.clusters request.serviceBudgets ++
    (request.allocationGuards.map allocationCheckId ++
      request.shutdownRecords.map shutdownCheckId)

/-- Complete results follow released locks, and only they have all checks passed. -/
def Truthful (result : PostReturnResult) (world : ReturnWorld) : Prop :=
  (result.state = .complete ↔ AllPassed result.report.checks ∧ LocksReleased world.trace) ∧
    (result.stages.locksReleased = true → LocksReleased world.trace)

theorem verifyConfigured_checks (request : PostReturnRequest)
    (rejected : ∀ guard ∈ request.allocationGuards, Rejects dependencies guard → reason)
    (excused : Excused reason (allCheckIds request)) :
    Checks reason (allCheckIds request) (fun _ => True)
      (coordinator.verifyConfigured dependencies request) Truthful := by
  have endpoints : Excused reason (request.endpoints.map endpointCheckId) :=
    excused.mono fun _ member => by
      simp only [allCheckIds, commonCheckIds, List.mem_append, member, true_or]
  have clusters : Excused reason (request.clusters.flatMap clusterCheckIds) :=
    excused.mono fun _ member => by
      simp only [allCheckIds, commonCheckIds, List.mem_append, member, or_true, true_or]
  have budgets : Excused reason (request.serviceBudgets.map serviceBudgetCheckId) :=
    excused.mono fun _ member => by
      simp only [allCheckIds, commonCheckIds, List.mem_append, member, or_true, true_or]
  have guards : Excused reason (request.allocationGuards.map allocationCheckId) :=
    excused.mono fun _ member => by
      simp only [allCheckIds, List.mem_append, member, or_true, true_or]
  have records : Excused reason (request.shutdownRecords.map shutdownCheckId) :=
    excused.mono fun _ member => by
      simp only [allCheckIds, List.mem_append, member, or_true]
  have verified : Checks reason
      ([] ++ ([] ++ ([] ++ (request.endpoints.map endpointCheckId ++
        (request.clusters.flatMap clusterCheckIds ++
          (request.serviceBudgets.map serviceBudgetCheckId ++
            ([] ++ (request.allocationGuards.map allocationCheckId ++
              (request.shutdownRecords.map shutdownCheckId ++ ([] ++ ([] ++ [])))))))))))
      (Doubt False) (coordinator.verifyConfigured dependencies request) Truthful := by
    refine .bind (answerOr_observing false rfl _) fun sshReady => ?_
    refine .bind (fixedCheck (by decide +kernel) _ _) fun _ => ?_
    refine .bind (coordinator.verifyBootId_checks request .inr) fun observedBootId => ?_
    refine .bind (coordinator.verifyServices_checks _ _ _ .inr endpoints) fun _ => ?_
    refine .bind (coordinator.clusters_checks _ clusters) fun _ => ?_
    refine .bind (coordinator.budgets_checks _ budgets) fun _ => ?_
    refine .bind (importExecutorResult_checks dependencies request observedBootId Or.inr) ?_
    rintro ⟨imported, complete⟩
    refine .given fun isImported => ?_
    refine .bind (restorations_checks dependencies _ rejected guards) fun _ => ?_
    refine .bind (removals_checks dependencies _ records) fun _ => ?_
    refine .bind ((cleanupArtifacts_checks dependencies request).weaken (fun _ member => member)
      (fun _ _ doubt unready => doubt (.inr unready)) fun _ _ _ known => known) fun cleaned => ?_
    refine .given fun isComplete => ?_
    refine .bind (releaseLocks_checks dependencies request) fun released => ?_
    refine .given fun isCleaned => ?_
    refine coordinator.closing_checks fun world time sound known => ?_
    obtain ⟨doubt, isReleased⟩ := known
    by_cases ended : world.working.errors = [] ∧ released = true
    · obtain ⟨unfailed, isTrue⟩ := ended
      have passed := sound.unfailed_iff.mp unfailed
      have stages : (Stages.mk imported complete cleaned released).all := by
        have wasCleaned := isCleaned isTrue
        have wasComplete := isComplete wasCleaned
        have wasImported : imported = true := isImported wasComplete
        simp [Stages.all, isTrue, wasCleaned, wasComplete, wasImported]
      rw [if_pos ⟨unfailed, isTrue⟩, PostReturnResult.validate,
        dif_pos fun _ => ⟨unfailed, passed, stages, sound.cleanups unfailed⟩]
      exact ⟨_, rfl, iff_of_true rfl ⟨passed, isReleased isTrue⟩, isReleased⟩
    · rw [if_neg ended, PostReturnResult.validate, dif_pos nofun]
      refine ⟨_, rfl, iff_of_false nofun fun known => ended ?_, isReleased⟩
      -- With all checks passed the lock release was not left out.
      have unfailed := sound.unfailed_iff.mpr known.1
      exact ⟨unfailed, by_contra fun unreleased => doubt (by simpa using unreleased) unfailed⟩
  refine verified.weaken (fun identifier member => ?_) (fun _ _ _ => nofun) fun _ _ _ known => known
  simpa [allCheckIds, commonCheckIds, or_assoc] using member

/-! ### Answers -/

/-- A verification that has not started. -/
def fresh : ReturnWorld :=
  World.start Report.empty none

theorem sound_fresh : Sound fresh where
  unbounded := rfl
  unfailed_iff := by simp [fresh, World.start, Report.empty, AllPassed]
  cleanups := by simp [fresh, World.start, Report.empty, Report.CleanupsProven]
  gated := by
    intro later entry earlier split
    exact absurd split (by simp [fresh, World.start])

/-- `verify_host_maintenance` returns, and completely just when every check passed. -/
def HostAnswers (request : HostMaintenancePostReturnRequest) : Prop :=
  ∃ result reached, (coordinator.verifyHostMaintenance request).run fresh =
    (.returned result, reached) ∧ (result.state = .complete ↔ AllPassed result.checks)

/-- `verify_and_cleanup` returns, and completely just when every check passed and the locks
were released. -/
def CleanupAnswers (request : PostReturnRequest) : Prop :=
  ∃ result reached, (coordinator.verifyAndCleanup request).run fresh =
    (.returned result, reached) ∧ Truthful result reached

/-- The identifiers of the checks of a maintained host. -/
def hostCheckIds (request : HostMaintenancePostReturnRequest) : List String :=
  commonCheckIds request.endpoints request.clusters request.serviceBudgets

theorem allCheckIds_match {request : PostReturnRequest} {identifier : String}
    (member : identifier ∈ allCheckIds request) :
    matchesReference identifier ↔ identifier.length ≤ 128 := by
  simp only [allCheckIds, List.mem_append, List.mem_map] at member
  rcases member with member | ⟨guard, -, rfl⟩ | ⟨record, -, rfl⟩
  · exact commonCheckIds_match member
  · exact numbered_matches (by decide +kernel) _
  · exact numbered_matches (by decide +kernel) _

/-- Where the identifiers match by their length, too long ones excuse a verification. -/
theorem excused_of_unfit {identifiers : List String} (matched : ∀ identifier ∈ identifiers,
    (matchesReference identifier ↔ identifier.length ≤ 128)) :
    Excused (¬ Fit identifiers) identifiers :=
  fun identifier member unmatched fit =>
    unmatched ((matched identifier member).mpr (fit identifier member))

theorem hostAnswers_iff (request : HostMaintenancePostReturnRequest) :
    coordinator.HostAnswers request ↔ Fit (hostCheckIds request) := by
  have matched : ∀ identifier ∈ hostCheckIds request,
      (matchesReference identifier ↔ identifier.length ≤ 128) :=
    fun identifier member => commonCheckIds_match member
  have checked := coordinator.verifyHostMaintenance_checks request (excused_of_unfit matched)
    fresh sound_fresh trivial
  constructor
  · rintro ⟨result, reached, ran, -⟩ identifier member
    rcases checked with ⟨_, _, _, _, _, matches_⟩ | ⟨error, last, raised, _⟩
    · exact (matched identifier member).mp (matches_ identifier member)
    · simp [ran] at raised
  · intro fit
    rcases checked with ⟨result, reached, ran, _, truthful, _⟩ | ⟨_, _, _, _, unfit⟩
    · exact ⟨result, reached, ran, truthful⟩
    · exact absurd fit unfit

section Configured

variable {coordinator dependencies}

theorem verifyAndCleanup_of_configured (configured : coordinator.dependencies = some dependencies)
    (request : PostReturnRequest) :
    coordinator.verifyAndCleanup request = coordinator.verifyConfigured dependencies request := by
  rw [verifyAndCleanup, configured]

/-- The full verification as one judgment. -/
theorem verifyAndCleanup_checks (configured : coordinator.dependencies = some dependencies)
    (request : PostReturnRequest) :
    Checks (¬ Fit (allCheckIds request) ∨
        ∃ guard ∈ request.allocationGuards, Rejects dependencies guard)
      (allCheckIds request) (fun _ => True) (coordinator.verifyAndCleanup request) Truthful := by
  rw [verifyAndCleanup_of_configured configured]
  refine coordinator.verifyConfigured_checks dependencies request ?_ ?_
  · exact fun guard member rejects => .inr ⟨guard, member, rejects⟩
  · exact fun identifier member unmatched =>
      .inl (excused_of_unfit (fun _ => allCheckIds_match) identifier member unmatched)

theorem fit_of_cleanupAnswers (configured : coordinator.dependencies = some dependencies)
    {request : PostReturnRequest} (answers : coordinator.CleanupAnswers request) :
    Fit (allCheckIds request) := by
  obtain ⟨result, reached, ran, -⟩ := answers
  rcases verifyAndCleanup_checks configured request fresh sound_fresh trivial with
    ⟨_, _, _, _, _, matched⟩ | ⟨error, last, raised, _⟩
  · exact fun identifier member => (allCheckIds_match member).mp (matched identifier member)
  · simp [ran] at raised

theorem cleanupAnswers_of_fit (configured : coordinator.dependencies = some dependencies)
    {request : PostReturnRequest} (fit : Fit (allCheckIds request))
    (accepted : ∀ guard ∈ request.allocationGuards, ¬ Rejects dependencies guard) :
    coordinator.CleanupAnswers request := by
  rcases verifyAndCleanup_checks configured request fresh sound_fresh trivial with
    ⟨result, reached, ran, _, truthful, _⟩ | ⟨_, _, _, _, unfit | ⟨guard, member, rejects⟩⟩
  · exact ⟨result, reached, ran, truthful⟩
  · exact absurd fit unfit
  · exact absurd rejects (accepted guard member)

/-- Cleanups are gated also where the verification raises. -/
theorem gated_verifyAndCleanup (configured : coordinator.dependencies = some dependencies)
    (request : PostReturnRequest) :
    Gated ((coordinator.verifyAndCleanup request).run fresh).2.trace := by
  rcases verifyAndCleanup_checks configured request fresh sound_fresh trivial with
    ⟨_, _, ran, sound, _⟩ | ⟨_, _, ran, gated, _⟩
  · rw [ran]
    exact sound.gated
  · rw [ran]
    exact gated

end Configured

/-! ### Categories that no evidence accepts -/

/-- The program raises. -/
def Raises {α : Type} (before : ReturnWorld → Prop) (program : Verification α) : Prop :=
  ∀ world, Sound world → before world →
    ∃ error reached, program.run world = (.raised error, reached)

theorem raises_bind {α β : Type} {identifiers : List String} {before : ReturnWorld → Prop}
    {between : α → ReturnWorld → Prop} {first : Verification α} {next : α → Verification β}
    (checks : Checks True identifiers before first between)
    (raises : ∀ value, Raises (between value) (next value)) : Raises before (first >>= next) := by
  intro world sound known
  rw [run_bind]
  rcases checks world sound known with ⟨value, middle, ran, soundMiddle, reached, -⟩ |
    ⟨error, middle, ran, -⟩
  · rw [ran]
    exact raises value middle soundMiddle reached
  · rw [ran]
    exact ⟨error, middle, rfl⟩

theorem bind_raises {α β : Type} {before : ReturnWorld → Prop} {first : Verification α}
    (next : α → Verification β) (raises : Raises before first) :
    Raises before (first >>= next) := by
  intro world sound known
  obtain ⟨error, reached, raised⟩ := raises world sound known
  rw [run_bind, raised]
  exact ⟨error, reached, rfl⟩

/-- Every answer for the guard carries a category that the evidence rejects. -/
def AlwaysRejects (guard : AllocationGuardCheckpoint) : Prop :=
  ∀ history, ∃ cleanup, dependencies.restore guard .recovery history = .ok cleanup ∧
    ¬ ∀ category ∈ cleanup.val.errorCategory, matchesError category

theorem restoreAllocation_raises {guard : AllocationGuardCheckpoint}
    (rejects : AlwaysRejects dependencies guard) :
    Raises (fun _ => True) (restoreAllocation dependencies guard) := by
  refine raises_bind (answerOr_checks none _ (fun _ _ known => known)
    fun _ _ _ _ => admitted_of_observing rfl) fun answer => ?_
  rintro world - ⟨-, history, answered, -⟩
  obtain ⟨cleanup, given, unmatched⟩ := rejects history
  rw [given] at answered
  simp only [Except.map, settled] at answered
  subst answered
  dsimp only
  rw [AllocationCleanupEvidence.validate, dif_neg unmatched]
  exact ⟨_, world, rfl⟩

theorem forEach_raises {α : Type} {items : List α} {body : α → Verification Unit}
    {identifiers : α → List String} {before : ReturnWorld → Prop}
    (bodyChecks : ∀ item, Checks True (identifiers item) before (body item) fun _ => before)
    {item : α} (member : item ∈ items) (raises : Raises before (body item)) :
    Raises before (Program.forEach items body) := by
  induction items with
  | nil => cases member
  | cons first rest ih =>
      rcases List.mem_cons.mp member with rfl | later
      · exact bind_raises _ raises
      · exact raises_bind (bodyChecks first) fun _ => ih later

theorem verifyConfigured_raises (request : PostReturnRequest) {guard : AllocationGuardCheckpoint}
    (member : guard ∈ request.allocationGuards) (rejects : AlwaysRejects dependencies guard) :
    Raises (fun _ => True) (coordinator.verifyConfigured dependencies request) := by
  have excused : ∀ identifiers, Excused True identifiers := fun _ _ _ _ => trivial
  have restorations : ∀ fact, Raises (Doubt fact)
      (Program.forEach request.allocationGuards (restoreAllocation dependencies)) := by
    intro fact
    have each : ∀ other, Checks True [allocationCheckId other] (Doubt fact)
        (restoreAllocation dependencies other) fun _ => Doubt fact :=
      fun other => restoreAllocation_checks dependencies other (fun _ _ _ _ => trivial) (excused _)
    refine forEach_raises each member fun world sound _ => ?_
    exact restoreAllocation_raises dependencies rejects world sound trivial
  have verified : Raises (Doubt False) (coordinator.verifyConfigured dependencies request) := by
    refine raises_bind (answerOr_observing false rfl _) fun sshReady => ?_
    refine raises_bind (fixedCheck (by decide +kernel) _ _) fun _ => ?_
    refine raises_bind (coordinator.verifyBootId_checks request .inr) fun observedBootId => ?_
    refine raises_bind (coordinator.verifyServices_checks _ _ _ .inr (excused _)) fun _ => ?_
    refine raises_bind (coordinator.clusters_checks _ (excused _)) fun _ => ?_
    refine raises_bind (coordinator.budgets_checks _ (excused _)) fun _ => ?_
    refine raises_bind
      (importExecutorResult_checks dependencies request observedBootId Or.inr) fun flags => ?_
    exact bind_raises _ fun world sound known => restorations _ world sound known.2
  exact fun world sound _ => verified world sound nofun

theorem unrestored_verified {verified : Prop} :
    CleanupStatus.recoveryRequired = .restored → verified := by
  intro restored
  cases restored

/-- A guard cleanup that failed with a category led by a dash. -/
def dashed (guard : AllocationGuardCheckpoint) : GuardCleanup :=
  ⟨{ status := .recoveryRequired
     trigger := .recovery
     verified := false
     checkpoint := { guard with phase := .recoveryRequired }
     errorCategory := some "-restore-failed"
     restored_verified := unrestored_verified
     recovery_phase := fun _ => rfl },
    by rintro category ⟨⟩; decide +kernel⟩

/-- Dependencies whose guard cleanups all fail that way, and whose other calls raise. -/
def dashing : CleanupDependencies where
  restore guard _ _ := .ok (dashed guard)
  clearShutdown _ _ := .error ⟨.runtimeError, "unreachable"⟩
  importResult _ _ := .error ⟨.runtimeError, "unreachable"⟩
  cleanupExecutor _ _ := .error ⟨.runtimeError, "unreachable"⟩
  release _ _ _ _ := .error ⟨.runtimeError, "unreachable"⟩

/-- A coordinator that reaches nothing but the guard service. -/
def unreachable : PostReturnCoordinator where
  waitForSsh _ _ _ := .ok false
  readBootId _ _ := .ok none
  podmanSocketReady _ _ := .ok false
  quadletGeneratorReady _ _ := .ok false
  generatedUnits _ _ _ := .ok []
  unitStates _ _ _ := .ok []
  endpointReady _ _ _ := .ok false
  nodeIdentity _ _ := .ok none
  shardRecovery _ _ := .error ⟨.runtimeError, "unreachable"⟩
  serviceBudget _ _ := .error ⟨.runtimeError, "unreachable"⟩
  clusterHealth _ _ := .ok "unknown"
  clock _ := 0
  dependencies := some dashing

theorem dashing_rejects (guard : AllocationGuardCheckpoint) : AlwaysRejects dashing guard :=
  fun _ => ⟨dashed guard, rfl, fun accepted =>
    absurd (accepted "-restore-failed" rfl) (by decide +kernel)⟩

/-- However the other calls answer, such a guard cleanup ends the verification. -/
theorem not_cleanupAnswers_of_rejects {coordinator : PostReturnCoordinator}
    {dependencies : CleanupDependencies} (configured : coordinator.dependencies = some dependencies)
    {request : PostReturnRequest} {guard : AllocationGuardCheckpoint}
    (member : guard ∈ request.allocationGuards) (rejects : AlwaysRejects dependencies guard) :
    ¬ coordinator.CleanupAnswers request := by
  rintro ⟨result, reached, ran, -⟩
  rw [verifyAndCleanup_of_configured configured] at ran
  obtain ⟨error, last, raised⟩ :=
    coordinator.verifyConfigured_raises dependencies request member rejects fresh sound_fresh
      trivial
  simp [ran] at raised

end PostReturnCoordinator

open PostReturnCoordinator

/-- Over all adapters, the full verification answers only without allocation guards. -/
theorem always_cleanupAnswers_iff (request : PostReturnRequest) :
    (∀ (coordinator : PostReturnCoordinator) (dependencies : CleanupDependencies),
        coordinator.dependencies = some dependencies → coordinator.CleanupAnswers request) ↔
      Fit (allCheckIds request) ∧ request.allocationGuards = [] := by
  constructor
  · intro answers
    have configured : unreachable.dependencies = some dashing := rfl
    refine ⟨fit_of_cleanupAnswers configured (answers _ _ configured), ?_⟩
    refine List.eq_nil_iff_forall_not_mem.mpr fun guard member => ?_
    exact not_cleanupAnswers_of_rejects configured member (dashing_rejects guard)
      (answers _ _ configured)
  · rintro ⟨fit, unguarded⟩ coordinator dependencies configured
    exact cleanupAnswers_of_fit configured fit (by simp [unguarded])

/-- A verification of a maintained host answers just when its identifiers fit.  The full one,
whose guard cleanups are judged alike at every call, answers just when they fit and no category
is rejected; over all adapters, that leaves the requests without allocation guards.  Cleanups
are gated in every case. -/
theorem verifications_answer_iff {coordinator : PostReturnCoordinator}
    {dependencies : CleanupDependencies} (configured : coordinator.dependencies = some dependencies)
    (hostRequest : HostMaintenancePostReturnRequest) (request : PostReturnRequest) :
    (coordinator.HostAnswers hostRequest ↔ Fit (hostCheckIds hostRequest)) ∧
      ((∀ guard ∈ request.allocationGuards, Rejects dependencies guard →
          AlwaysRejects dependencies guard) →
        (coordinator.CleanupAnswers request ↔
          Fit (allCheckIds request) ∧
            ∀ guard ∈ request.allocationGuards, ¬ Rejects dependencies guard)) ∧
      ((∀ (other : PostReturnCoordinator) (others : CleanupDependencies),
          other.dependencies = some others → other.CleanupAnswers request) ↔
        Fit (allCheckIds request) ∧ request.allocationGuards = []) ∧
      Gated ((coordinator.verifyAndCleanup request).run fresh).2.trace := by
  refine ⟨coordinator.hostAnswers_iff hostRequest, fun alike => ⟨fun answers => ?_, ?_⟩,
    always_cleanupAnswers_iff request, gated_verifyAndCleanup configured request⟩
  · refine ⟨fit_of_cleanupAnswers configured answers, fun guard member rejects => ?_⟩
    exact not_cleanupAnswers_of_rejects configured member (alike guard member rejects) answers
  · rintro ⟨fit, accepted⟩
    exact cleanupAnswers_of_fit configured fit accepted

/-! ### A request -/

namespace PostReturnSample

theorem one_positive : 1 ≤ 1 :=
  le_refl 1

theorem seven_positive : 1 ≤ 7 := by
  decide

def workload : WorkloadExpectation :=
  ⟨1, "ecp-es-hot.service", one_positive, by decide +kernel⟩

def endpoint : EndpointExpectation :=
  ⟨"assignment-1", by decide +kernel⟩

def cluster : ClusterExpectation :=
  ⟨7, .green, [⟨7, 1, "node-a", "hot-a", "9.1.0", "uuid-a", seven_positive, one_positive⟩],
    seven_positive, by decide, by decide⟩

/-- A budget of a role that requests accept. -/
def budget (role : String) (accepted : matchesReference role) : ServiceBudgetExpectation :=
  ⟨7, role, 2, seven_positive, accepted, by decide⟩

def hostRequest (role : String) (accepted : matchesReference role) :
    HostMaintenancePostReturnRequest where
  planId := "0123456789abcdef0123456789abcdef"
  nodeId := 1
  hostReturnTimeoutSeconds := 900
  workloads := [workload]
  endpoints := [endpoint]
  clusters := [cluster]
  serviceBudgets := [budget role accepted]
  nodeId_positive := one_positive
  timeout_bounded := by decide
  workloads_present := nofun
  workloads_ordered := by simp
  workloads_unique := by simp
  clusters_present := nofun
  clusters_ordered := by simp
  endpoints_ordered := by simp
  budgets_ordered := by simp
  budgets_covered := by simp [budget, cluster]

/-- The guard that a finished maintenance leaves to be restored. -/
def guard : AllocationGuardCheckpoint :=
  ⟨"plan-1", 7, .active, ⟨none, none⟩, none⟩

def request : PostReturnRequest where
  operationId := "operation-1"
  planId := "plan-1"
  nodeId := 1
  preRebootBootId := "boot-a"
  expectedManifestHash := "hash-a"
  hostReturnTimeoutSeconds := 900
  workloads := [workload]
  endpoints := [endpoint]
  clusters := [cluster]
  serviceBudgets := [budget "hot" (by decide +kernel)]
  allocationGuards := [guard]
  shutdownRecords := [⟨7, "node-a", "9.1.0", seven_positive⟩]
  executorCleanup :=
    ⟨"operation-1", "ecp-maintenance-resume@operation-1.service", [], by decide +kernel⟩
  nodeId_positive := one_positive
  timeout_bounded := by decide
  cleanup_owned := rfl
  workloads_ordered := by simp
  workloads_unique := by simp
  endpoints_unique := by simp
  clusters_unique := by simp
  budgets_covered := by simp [budget, cluster]
  guards_covered := by simp [guard, cluster]
  records_covered := by simp [cluster]

/-- The cleanup of a guard that was restored. -/
def restored (checkpoint : AllocationGuardCheckpoint) : GuardCleanup :=
  ⟨{ status := .restored
     trigger := .recovery
     verified := true
     checkpoint := { checkpoint with phase := .restored }
     errorCategory := none
     restored_verified := fun _ => ⟨rfl, rfl⟩
     recovery_phase := nofun },
    nofun⟩

/-- Adapters that find everything as expected. -/
def cleanups : CleanupDependencies where
  restore checkpoint _ _ := .ok (restored checkpoint)
  clearShutdown _ _ := .ok .verified
  importResult _ _ := .ok
    { operationId := "operation-1"
      planId := some "plan-1"
      manifestHash := "hash-a"
      state := .complete
      preRebootBootId := some "boot-a"
      observedBootId := some "boot-b"
      units := [⟨"ecp-es-hot.service", true⟩]
      units_unique := by simp
      complete_active := by simp }
  cleanupExecutor _ _ := .ok .verified
  release _ _ _ _ := .ok .verified

def coordinator : PostReturnCoordinator where
  waitForSsh _ _ _ := .ok true
  readBootId _ _ := .ok (some "boot-b")
  podmanSocketReady _ _ := .ok true
  quadletGeneratorReady _ _ := .ok true
  generatedUnits _ required _ := .ok required
  unitStates _ required _ := .ok (required.map (·, true))
  endpointReady _ _ _ := .ok true
  nodeIdentity node _ :=
    .ok (some ⟨node.persistentNodeId, node.nodeName, node.version, node.clusterUuid⟩)
  shardRecovery _ _ := .ok ⟨0, 0, 0, 0⟩
  serviceBudget _ _ := .ok ⟨2, by decide⟩
  clusterHealth _ _ := .ok "green"
  clock _ := 0
  dependencies := some cleanups

/-- The longest role that a budget accepts. -/
def longRole : String :=
  String.ofList (List.replicate 128 'r')

theorem longRole_accepted : matchesReference longRole := by decide +kernel

end PostReturnSample

open PostReturnSample

/-- The verifications of the sample answer completely, and its locks are released. -/
theorem verifications_answer_sample :
    coordinator.HostAnswers (hostRequest "hot" (by decide +kernel)) ∧
      coordinator.CleanupAnswers request ∧
      Gated ((coordinator.verifyAndCleanup request).run fresh).2.trace := by
  have configured : coordinator.dependencies = some cleanups := rfl
  have unrejected : ∀ guard, ¬ Rejects cleanups guard := by
    rintro guard ⟨history, cleanup, answered, unmatched⟩
    obtain rfl : restored guard = cleanup := by simpa [cleanups] using answered
    exact unmatched nofun
  obtain ⟨host, full, -, gated⟩ := verifications_answer_iff configured
    (hostRequest "hot" (by decide +kernel)) request
  refine ⟨host.mpr (by decide +kernel), ?_, gated⟩
  exact (full fun guard _ rejects => absurd rejects (unrejected guard)).mpr
    ⟨by decide +kernel, fun guard _ => unrejected guard⟩

/-- The adapters with a guard service whose category starts with a dash. -/
def dashedCoordinator : PostReturnCoordinator :=
  { coordinator with
    dependencies :=
      some { cleanups with restore := fun checkpoint _ _ => .ok (dashed checkpoint) } }

/-- With everything as expected on the host, a role of the greatest length ends the
verification; and a guard cleanup of a category led by a dash ends the full one. -/
theorem verifications_raise :
    ¬ coordinator.HostAnswers (hostRequest longRole longRole_accepted) ∧
      ¬ dashedCoordinator.CleanupAnswers request := by
  have hostRaised : ((coordinator.verifyHostMaintenance
      (hostRequest longRole longRole_accepted)).run fresh).1 = .raised ⟨.valueError,
        "String should match pattern '^[A-Za-z0-9][A-Za-z0-9._:-]\x7b0,127\x7d$'"⟩ := by
    decide +kernel
  have fullRaised : ((dashedCoordinator.verifyAndCleanup request).run fresh).1 =
      .raised ⟨.valueError, "String should match pattern '^[a-z0-9][a-z0-9-]\x7b0,127\x7d$'"⟩ := by
    decide +kernel
  constructor
  · rintro ⟨result, reached, ran, -⟩
    simp [ran] at hostRaised
  · rintro ⟨result, reached, ran, -⟩
    simp [ran] at fullRaised

end ElKeeper.PostReturn
