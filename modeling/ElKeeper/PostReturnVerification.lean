import ElKeeper.PostReturnCoordinator

/-!
# Post-return verification answers and gates the cleanup

One judgment carries everything along a verification: it returns, or it raises
for a reason given beforehand; the report stays truthful, and what was cleaned or
released was so only after everything before had passed.
-/

namespace ElKeeper.PostReturn

open Program

/-- What must have happened before a call. -/
def Admitted (entry : Entry Report PostReturnCall) (earlier : ReturnHistory) : Prop :=
  match entry.event with
  | .cleanupExecutor _ _ => AllPassed entry.working.checks
  | .releaseLocks _ _ _ _ => AllPassed entry.working.checks ∧
      ∃ other ∈ earlier, ∃ operationId, other.event = .cleanupExecutor operationId true
  | _ => True

/-- Artifacts are cleaned only after every check so far passed, and locks are released only
after that and a proven cleanup. -/
def Gated (trace : ReturnHistory) : Prop :=
  ∀ later entry earlier, trace = later ++ entry :: earlier → Admitted entry earlier

theorem Gated.cons {trace : ReturnHistory} (gated : Gated trace)
    {entry : Entry Report PostReturnCall} (admitted : Admitted entry trace) :
    Gated (entry :: trace) := by
  intro later other earlier split
  cases later with
  | nil =>
      obtain ⟨rfl, rfl⟩ := List.cons.inj split
      exact admitted
  | cons first rest =>
      obtain ⟨-, split⟩ := List.cons.inj split
      exact gated rest other earlier split

/-- A verification in progress that tells the truth. -/
structure Sound (world : ReturnWorld) : Prop where
  unbounded : Unbounded world
  unfailed_iff : world.working.errors = [] ↔ AllPassed world.working.checks
  cleanups : world.working.errors = [] → world.working.CleanupsProven
  gated : Gated world.trace

/-- If it is so, a check failed. -/
def Doubt (fact : Prop) (world : ReturnWorld) : Prop :=
  fact → world.working.errors ≠ []

/-! ### The judgment -/

/-- The program returns with a sound verification, having recorded checks with the given
identifiers, or it raises for a given reason; what was cleaned up stays gated. -/
def Checks {α : Type} (reason : Prop) (identifiers : List String) (before : ReturnWorld → Prop)
    (program : Verification α) (after : α → ReturnWorld → Prop) : Prop :=
  ∀ world, Sound world → before world →
    (∃ value reached, program.run world = (.returned value, reached) ∧ Sound reached ∧
      after value reached ∧ ∀ identifier ∈ identifiers, matchesReference identifier) ∨
    (∃ error reached, program.run world = (.raised error, reached) ∧ Gated reached.trace ∧ reason)

namespace Checks

variable {α β : Type} {reason : Prop} {before : ReturnWorld → Prop}

theorem pure {value : α} {after : α → ReturnWorld → Prop}
    (holds : ∀ world, Sound world → before world → after value world) :
    Checks reason [] before (Pure.pure value) after :=
  fun world sound known => .inl ⟨value, world, rfl, sound, holds world sound known, by simp⟩

theorem bind {first : Verification α} {next : α → Verification β}
    {identifiers others : List String} {between : α → ReturnWorld → Prop}
    {after : β → ReturnWorld → Prop} (firstChecks : Checks reason identifiers before first between)
    (nextChecks : ∀ value, Checks reason others (between value) (next value) after) :
    Checks reason (identifiers ++ others) before (first >>= next) after := by
  intro world sound known
  rcases firstChecks world sound known with
    ⟨value, middle, ran, soundMiddle, reached, matched⟩ | ⟨error, middle, ran, gated, why⟩
  · rw [run_bind, ran]
    rcases nextChecks value middle soundMiddle reached with
      ⟨result, last, ranNext, soundLast, ended, matchedNext⟩ | raised
    · refine .inl ⟨result, last, ranNext, soundLast, ended, fun identifier member => ?_⟩
      rcases List.mem_append.mp member with member | member
      · exact matched identifier member
      · exact matchedNext identifier member
    · exact .inr raised
  · rw [run_bind, ran]
    exact .inr ⟨error, middle, rfl, gated, why⟩

theorem weaken {program : Verification α} {identifiers fewer : List String}
    {stronger : ReturnWorld → Prop} {after weaker : α → ReturnWorld → Prop}
    (checks : Checks reason identifiers before program after)
    (contained : ∀ identifier ∈ fewer, identifier ∈ identifiers)
    (strengthen : ∀ world, Sound world → stronger world → before world)
    (relax : ∀ value world, Sound world → after value world → weaker value world) :
    Checks reason fewer stronger program weaker := by
  intro world sound known
  rcases checks world sound (strengthen world sound known) with
    ⟨value, reached, ran, soundAfter, ended, matched⟩ | raised
  · exact .inl ⟨value, reached, ran, soundAfter, relax value reached soundAfter ended,
      fun identifier member => matched identifier (contained identifier member)⟩
  · exact .inr raised

/-- A fact that does not depend on the world. -/
theorem given {program : Verification α} {identifiers : List String} {fact : Prop}
    {after : α → ReturnWorld → Prop}
    (holds : fact → Checks reason identifiers before program after) :
    Checks reason identifiers (fun world => fact ∧ before world) program after :=
  fun world sound known => holds known.1 world sound known.2

theorem forEach {items : List α} {body : α → Verification Unit} {identifiers : α → List String}
    (bodyChecks : ∀ item ∈ items, Checks reason (identifiers item) before (body item)
      fun _ => before) :
    Checks reason (items.flatMap identifiers) before (Program.forEach items body)
      fun _ => before := by
  induction items with
  | nil => exact .pure fun _ _ known => known
  | cons item rest ih =>
      rw [List.flatMap_cons]
      exact .bind (bodyChecks item (by simp)) fun _ =>
        ih fun other member => bodyChecks other (by simp [member])

end Checks

/-! ### Single checks -/

section Single

variable {reason fact : Prop} {checkId : String}

/-- An identifier of a check that matches the pattern, or the run may raise for the reason. -/
def Excused (reason : Prop) (identifiers : List String) : Prop :=
  ∀ identifier ∈ identifiers, ¬ matchesReference identifier → reason

theorem validate_of_matches {status : CheckStatus} {category : Option PostReturnErrorCategory}
    (matched : matchesReference checkId) (explained : status = .failed ↔ category.isSome) :
    PostReturnCheck.validate checkId status category =
      .ok ⟨checkId, status, category, matched, explained⟩ := by
  have notUnexplained : ¬ (status = .failed ∧ category = none) := by
    rintro ⟨isFailed, rfl⟩
    cases explained.mp isFailed
  have notOverexplained : ¬ (status ≠ .failed ∧ category ≠ none) := by
    rintro ⟨notFailed, isCategory⟩
    exact notFailed (explained.mpr (Option.isSome_iff_ne_none.mpr isCategory))
  rw [PostReturnCheck.validate, dif_pos matched, dif_neg notUnexplained, dif_neg notOverexplained]

theorem validate_of_unmatched (status : CheckStatus) (category : Option PostReturnErrorCategory)
    (unmatched : ¬ matchesReference checkId) :
    ∃ error, PostReturnCheck.validate checkId status category = .error error := by
  rw [PostReturnCheck.validate, dif_neg unmatched]
  exact ⟨_, rfl⟩

theorem addCheck_of_matches {status : CheckStatus} {category : Option PostReturnErrorCategory}
    (matched : matchesReference checkId) (explained : status = .failed ↔ category.isSome)
    (world : ReturnWorld) :
    (addCheck checkId status category).run world =
      (.returned (), { world with
        working := { world.working with
          checks :=
            world.working.checks ++ [⟨checkId, status, category, matched, explained⟩] } }) := by
  simp [addCheck, note, validate_of_matches matched explained, Program.ofExcept, run_bind]

theorem addCheck_of_unmatched (status : CheckStatus) (category : Option PostReturnErrorCategory)
    (unmatched : ¬ matchesReference checkId) (world : ReturnWorld) :
    ∃ error, (addCheck checkId status category).run world = (.raised error, world) := by
  obtain ⟨error, invalid⟩ := validate_of_unmatched status category unmatched
  exact ⟨error, by simp [addCheck, invalid, Program.ofExcept, run_bind]⟩

theorem allPassed_append (checks : List PostReturnCheck) (check : PostReturnCheck) :
    AllPassed (checks ++ [check]) ↔ AllPassed checks ∧ check.status = .passed := by
  simp [AllPassed, or_imp, forall_and]

/-- `past` is about the calls made so far, which a check leaves alone. -/
theorem passCheck_past (past : ReturnHistory → Prop) (excused : Excused reason [checkId]) :
    Checks reason [checkId] (fun world => Doubt fact world ∧ past world.trace) (passCheck checkId)
      fun _ world => Doubt fact world ∧ past world.trace := by
  intro world sound known
  by_cases matched : matchesReference checkId
  · refine .inl ⟨(), _, addCheck_of_matches matched (by simp) world, ?_, known,
      by simpa using matched⟩
    refine ⟨sound.unbounded, ?_, sound.cleanups, sound.gated⟩
    rw [allPassed_append]
    simpa using sound.unfailed_iff
  · obtain ⟨error, raised⟩ := addCheck_of_unmatched .passed none matched world
    exact .inr ⟨error, world, raised, sound.gated, excused checkId (by simp) matched⟩

/-- A failed check leaves a doubt about everything, and makes the verification sound. -/
theorem failCheck_ends (category : PostReturnErrorCategory) (excused : Excused reason [checkId])
    {world : ReturnWorld} (unbounded : Unbounded world) (gated : Gated world.trace) :
    (∃ reached, (failCheck checkId category).run world = (.returned (), reached) ∧
        Sound reached ∧ reached.working.errors ≠ [] ∧ reached.trace = world.trace ∧
        matchesReference checkId) ∨
      (∃ error, (failCheck checkId category).run world = (.raised error, world) ∧ reason) := by
  by_cases matched : matchesReference checkId
  · have explained : CheckStatus.failed = .failed ↔ (some category).isSome := by simp
    let check : PostReturnCheck := ⟨checkId, .failed, some category, matched, explained⟩
    let added : Report :=
      { world.working with checks := world.working.checks ++ [check] }
    let failed : Report :=
      if category ∈ added.errors then added
      else { added with errors := added.errors ++ [category] }
    have ran : (failCheck checkId category).run world =
        (.returned (), { world with working := failed }) := by
      simp only [failCheck, note, run_bind, addCheck_of_matches matched explained world, run_update]
      rfl
    have isFailed : failed.errors ≠ [] := by
      simp only [failed]
      split
      · rename_i member
        exact List.ne_nil_of_mem member
      · simp
    have sameChecks : failed.checks = world.working.checks ++ [check] := by
      simp only [failed]
      split <;> rfl
    have soundFailed : Sound { world with working := failed } := by
      refine ⟨unbounded, iff_of_false isFailed ?_, fun unfailed => absurd unfailed isFailed, gated⟩
      rw [sameChecks, allPassed_append]
      simp [check]
    exact .inl ⟨_, ran, soundFailed, isFailed, rfl, matched⟩
  · obtain ⟨error, raised⟩ := addCheck_of_unmatched .failed (some category) matched world
    refine .inr ⟨error, ?_, excused checkId (by simp) matched⟩
    simp only [failCheck, run_bind, raised]

theorem failCheck_past (past : ReturnHistory → Prop) (category : PostReturnErrorCategory)
    (excused : Excused reason [checkId]) :
    Checks reason [checkId] (fun world => past world.trace) (failCheck checkId category)
      fun _ world => Doubt fact world ∧ past world.trace := by
  intro world sound known
  rcases failCheck_ends category excused sound.unbounded sound.gated with
    ⟨reached, ran, soundReached, isFailed, sameTrace, matched⟩ | ⟨error, raised, why⟩
  · refine .inl ⟨(), reached, ran, soundReached, ⟨fun _ => isFailed, ?_⟩, by simpa using matched⟩
    rw [sameTrace]
    exact known
  · exact .inr ⟨error, world, raised, sound.gated, why⟩

/-- Where the check does not hold, something failed. -/
theorem checkThat_past (past : ReturnHistory → Prop) (holds : Bool)
    (category : PostReturnErrorCategory) (excused : Excused reason [checkId]) :
    Checks reason [checkId] (fun world => Doubt fact world ∧ past world.trace)
      (checkThat holds checkId category)
      fun _ world => Doubt (fact ∨ holds = false) world ∧ past world.trace := by
  cases holds with
  | true =>
      refine (passCheck_past past excused).weaken (fun _ member => member)
        (fun _ _ known => known) ?_
      exact fun _ _ _ known => ⟨fun isFact => known.1 (isFact.resolve_right (by simp)), known.2⟩
  | false =>
      exact (failCheck_past past category excused).weaken (fun _ member => member)
        (fun _ _ known => known.2) fun _ _ _ known => known

theorem checkVerdict_past (past : ReturnHistory → Prop)
    (failure : Option PostReturnErrorCategory) (excused : Excused reason [checkId]) :
    Checks reason [checkId] (fun world => Doubt fact world ∧ past world.trace)
      (checkVerdict failure checkId)
      fun _ world => Doubt (fact ∨ failure.isSome) world ∧ past world.trace := by
  cases failure with
  | none =>
      refine (passCheck_past past excused).weaken (fun _ member => member)
        (fun _ _ known => known) ?_
      exact fun _ _ _ known => ⟨fun isFact => known.1 (isFact.resolve_right (by simp)), known.2⟩
  | some category =>
      exact (failCheck_past past category excused).weaken (fun _ member => member)
        (fun _ _ known => known.2) fun _ _ _ known => known

theorem checkVerdict_checks (failure : Option PostReturnErrorCategory)
    (excused : Excused reason [checkId]) :
    Checks reason [checkId] (Doubt fact) (checkVerdict failure checkId)
      fun _ => Doubt (fact ∨ failure.isSome) :=
  (checkVerdict_past (fun _ => True) failure excused).weaken (fun _ member => member)
    (fun _ _ doubt => ⟨doubt, trivial⟩) fun _ _ _ known => known.1

theorem passCheck_checks (excused : Excused reason [checkId]) :
    Checks reason [checkId] (Doubt fact) (passCheck checkId) fun _ => Doubt fact :=
  (passCheck_past (fun _ => True) excused).weaken (fun _ member => member)
    (fun _ _ doubt => ⟨doubt, trivial⟩) fun _ _ _ known => known.1

theorem failCheck_checks (category : PostReturnErrorCategory) (before : ReturnWorld → Prop)
    (excused : Excused reason [checkId]) :
    Checks reason [checkId] before (failCheck checkId category) fun _ => Doubt fact :=
  (failCheck_past (fun _ => True) category excused).weaken (fun _ member => member)
    (fun _ _ _ => trivial) fun _ _ _ known => known.1

theorem checkThat_checks (holds : Bool) (category : PostReturnErrorCategory)
    (excused : Excused reason [checkId]) :
    Checks reason [checkId] (Doubt fact) (checkThat holds checkId category)
      fun _ => Doubt (fact ∨ holds = false) :=
  (checkThat_past (fun _ => True) holds category excused).weaken
    (fun _ member => member) (fun _ _ doubt => ⟨doubt, trivial⟩) fun _ _ _ known => known.1

/-- A check is left out only after another one failed. -/
theorem skipCheck_checks (excused : Excused reason [checkId]) :
    Checks reason [checkId] (Doubt True) (skipCheck checkId) fun _ => Doubt True := by
  intro world sound doubt
  by_cases matched : matchesReference checkId
  · refine .inl ⟨(), _, addCheck_of_matches matched (by simp) world, ?_, doubt,
      by simpa using matched⟩
    refine ⟨sound.unbounded, iff_of_false (doubt trivial) ?_,
      fun unfailed => absurd unfailed (doubt trivial), sound.gated⟩
    rw [allPassed_append]
    simp
  · obtain ⟨error, raised⟩ := addCheck_of_unmatched .skipped none matched world
    exact .inr ⟨error, world, raised, sound.gated, excused checkId (by simp) matched⟩

end Single

/-! ### Adapter calls -/

section Calls

variable {α : Type} {reason fact : Prop}

/-- The value that an answer amounts to. -/
def settled (fallback : α) : Except Fault α → α
  | .ok value => value
  | .error _ => fallback

/-- A call: the answer is the adapter's after some history, and the call is logged. -/
theorem answerOr_checks (fallback : α) {call : Except Fault α → PostReturnCall}
    (answer : ReturnHistory → Except Fault α) {before : ReturnWorld → Prop}
    (stable : ∀ world event, before world → before (world.log event))
    (admitted : ∀ world : ReturnWorld, Sound world → before world → ∀ reply,
      Admitted ⟨call reply, world.working, world.committed⟩ world.trace) :
    Checks reason [] before (answerOr fallback call answer)
      fun value world => before world ∧ ∃ history, value = settled fallback (answer history) ∧
        ∃ entry ∈ world.trace, entry.event = call (answer history) := by
  intro world sound known
  have logged : Sound (world.log (call (answer world.trace))) :=
    ⟨sound.unbounded, sound.unfailed_iff, sound.cleanups,
      sound.gated.cons (admitted world sound known _)⟩
  have unbounded : world.budget = none := sound.unbounded
  refine .inl ⟨_, _, ?_, logged, ⟨stable world _ known, world.trace, rfl, _, List.mem_cons_self,
    rfl⟩, by simp⟩
  cases answered : answer world.trace with
  | ok value =>
      simp [answerOr, attempt, ask, run_bind, tick, answered, settled, Program.ofExcept, World.log,
        unbounded]
  | error error =>
      simp [answerOr, attempt, ask, run_bind, tick, answered, settled, Program.ofExcept, World.log,
        unbounded]

/-- Calls that clean nothing up. -/
def PostReturnCall.observing : PostReturnCall → Bool
  | .cleanupExecutor _ _ | .releaseLocks _ _ _ _ => false
  | _ => true

theorem admitted_of_observing {entry : Entry Report PostReturnCall} {earlier : ReturnHistory}
    (observing : entry.event.observing) : Admitted entry earlier := by
  rcases entry with ⟨event, working, committed⟩
  cases event <;> trivial

theorem answerOr_observing (fallback : α) {call : PostReturnCall} (observing : call.observing)
    (answer : ReturnHistory → Except Fault α) :
    Checks reason [] (Doubt fact) (answerOr fallback (fun _ => call) answer)
      fun _ => Doubt fact :=
  (answerOr_checks fallback answer (fun _ _ doubt => doubt)
    fun _ _ _ _ => admitted_of_observing observing).weaken (fun _ member => member)
      (fun _ _ doubt => doubt) fun _ _ _ known => known.1

theorem excused_of_matches {checkId : String} (matched : matchesReference checkId) :
    Excused reason [checkId] := by
  simp [Excused, matched]

theorem fixedCheck {checkId : String} (matched : matchesReference checkId) (holds : Bool)
    (category : PostReturnErrorCategory) :
    Checks reason [] (Doubt fact) (checkThat holds checkId category)
      fun _ => Doubt (fact ∨ holds = false) :=
  (checkThat_checks holds category (excused_of_matches matched)).weaken (by simp)
    (fun _ _ doubt => doubt) fun _ _ _ doubt => doubt

theorem fixedVerdict {checkId : String} (matched : matchesReference checkId)
    (failure : Option PostReturnErrorCategory) :
    Checks reason [] (Doubt fact) (checkVerdict failure checkId)
      fun _ => Doubt (fact ∨ failure.isSome) :=
  (checkVerdict_checks failure (excused_of_matches matched)).weaken (by simp)
    (fun _ _ doubt => doubt) fun _ _ _ doubt => doubt

theorem fixedSkip {checkId : String} (matched : matchesReference checkId) :
    Checks reason [] (Doubt True) (skipCheck checkId) fun _ => Doubt True :=
  (skipCheck_checks (excused_of_matches matched)).weaken (by simp) (fun _ _ doubt => doubt)
    fun _ _ _ doubt => doubt

/-- A check that keeps the doubts there are. -/
theorem ownCheck {checkId : String} (holds : Bool) (category : PostReturnErrorCategory)
    (excused : Excused reason [checkId]) :
    Checks reason [checkId] (Doubt fact) (checkThat holds checkId category)
      fun _ => Doubt fact :=
  (checkThat_checks holds category excused).weaken (fun _ member => member)
    (fun _ _ doubt => doubt) fun _ _ _ doubt known => doubt (.inl known)

end Calls

/-! ### The checks of a verification -/

/-- The identifiers of the checks of a cluster. -/
def clusterCheckIds (cluster : ClusterExpectation) : List String :=
  cluster.nodes.map nodeIdentityCheckId ++
    [shardRecoveryCheckId cluster, clusterHealthCheckId cluster]

/-- The identifiers that both verifications derive from a request. -/
def commonCheckIds (endpoints : List EndpointExpectation) (clusters : List ClusterExpectation)
    (budgets : List ServiceBudgetExpectation) : List String :=
  endpoints.map endpointCheckId ++ clusters.flatMap clusterCheckIds ++
    budgets.map serviceBudgetCheckId

theorem Excused.mono {reason : Prop} {identifiers fewer : List String}
    (excused : Excused reason identifiers)
    (contained : ∀ identifier ∈ fewer, identifier ∈ identifiers) : Excused reason fewer :=
  fun identifier member => excused identifier (contained identifier member)

namespace PostReturnCoordinator

variable (coordinator : PostReturnCoordinator) {reason fact : Prop}

theorem verifyWorkloads_checks (nodeId : Nat) (workloads : List WorkloadExpectation)
    {quadletReady : Bool} (without : quadletReady = false → fact) :
    Checks reason [] (Doubt fact) (coordinator.verifyWorkloads nodeId workloads quadletReady)
      fun _ => Doubt fact := by
  simp only [verifyWorkloads]
  split
  · rename_i unready
    have skipped : Checks reason [] (Doubt True)
        (do
          skipCheck "required-quadlets"
          skipCheck "required-workloads") fun _ => Doubt True :=
      .bind (fixedSkip (by decide +kernel)) fun _ => fixedSkip (by decide +kernel)
    exact skipped.weaken (fun _ member => member) (fun _ _ doubt _ => doubt (without unready))
      fun _ _ _ doubt _ => doubt trivial
  · refine .bind (answerOr_observing [] rfl _) fun generated => ?_
    refine .bind ((fixedCheck (by decide +kernel) _ _).weaken (fun _ member => member)
      (fun _ _ doubt => doubt) fun _ _ _ doubt known => doubt (.inl known)) fun _ => ?_
    refine .bind (answerOr_observing [] rfl _) fun states => ?_
    exact (fixedCheck (by decide +kernel) _ _).weaken (fun _ member => member)
      (fun _ _ doubt => doubt) fun _ _ _ doubt known => doubt (.inl known)

theorem verifyEndpoints_checks (nodeId : Nat) (endpoints : List EndpointExpectation)
    (excused : Excused reason (endpoints.map endpointCheckId)) :
    Checks reason (endpoints.map endpointCheckId) (Doubt fact)
      (coordinator.verifyEndpoints nodeId endpoints) fun _ => Doubt fact := by
  rw [List.map_eq_flatMap]
  refine .forEach fun endpoint member => ?_
  refine .bind (answerOr_observing false rfl _) fun ready => ownCheck ready _ ?_
  exact excused.mono (by simpa using ⟨endpoint, member, rfl⟩)

theorem verifyServices_checks (nodeId : Nat) (workloads : List WorkloadExpectation)
    (endpoints : List EndpointExpectation) {sshReady : Bool} (without : sshReady = false → fact)
    (excused : Excused reason (endpoints.map endpointCheckId)) :
    Checks reason (endpoints.map endpointCheckId) (Doubt fact)
      (coordinator.verifyServices nodeId workloads endpoints sshReady) fun _ => Doubt fact := by
  cases sshReady with
  | true =>
      refine .bind (answerOr_observing false rfl _) fun socketReady => ?_
      refine .bind ((fixedCheck (by decide +kernel) _ _).weaken (fun _ member => member)
        (fun _ _ doubt => doubt) fun _ _ _ doubt known => doubt (.inl known)) fun _ => ?_
      refine .bind (answerOr_observing false rfl _) fun quadletReady => ?_
      refine .bind (fixedCheck (by decide +kernel) _ _) fun _ => ?_
      refine .bind (coordinator.verifyWorkloads_checks nodeId workloads .inr) fun _ => ?_
      exact (coordinator.verifyEndpoints_checks nodeId endpoints excused).weaken
        (fun _ member => member) (fun _ _ doubt => doubt)
        fun _ _ _ doubt known => doubt (.inl known)
  | false =>
      have fixed : Checks reason [] (Doubt True)
          (Program.forEach ["podman-socket", "quadlet-generator", "required-quadlets",
            "required-workloads"] skipCheck) fun _ => Doubt True := by
        refine .bind (fixedSkip (by decide +kernel)) fun _ => ?_
        refine .bind (fixedSkip (by decide +kernel)) fun _ => ?_
        refine .bind (fixedSkip (by decide +kernel)) fun _ => ?_
        exact .bind (fixedSkip (by decide +kernel)) fun _ => .pure fun _ _ doubt => doubt
      have skipped : Checks reason (endpoints.map endpointCheckId) (Doubt True)
          (Program.forEach endpoints fun endpoint => skipCheck (endpointCheckId endpoint))
          fun _ => Doubt True := by
        rw [List.map_eq_flatMap]
        exact .forEach fun endpoint member =>
          skipCheck_checks (excused.mono (by simpa using ⟨endpoint, member, rfl⟩))
      exact (Checks.bind fixed fun _ => skipped).weaken (fun _ member => member)
        (fun _ _ doubt _ => doubt (without rfl)) fun _ _ _ doubt _ => doubt trivial

theorem verifyNode_checks (node : NodeIdentityExpectation)
    (excused : Excused reason [nodeIdentityCheckId node]) :
    Checks reason [nodeIdentityCheckId node] (Doubt fact) (coordinator.verifyNode node)
      fun _ => Doubt fact := by
  refine .bind (answerOr_observing none rfl _) fun observed => ?_
  exact (checkVerdict_checks _ excused).weaken (fun _ member => member) (fun _ _ doubt => doubt)
    fun _ _ _ doubt known => doubt (.inl known)

theorem verifyCluster_checks (cluster : ClusterExpectation)
    (excused : Excused reason (clusterCheckIds cluster)) :
    Checks reason (clusterCheckIds cluster) (Doubt fact) (coordinator.verifyCluster cluster)
      fun _ => Doubt fact := by
  have nodes : Checks reason (cluster.nodes.map nodeIdentityCheckId) (Doubt fact)
      (Program.forEach cluster.nodes coordinator.verifyNode) fun _ => Doubt fact := by
    rw [List.map_eq_flatMap]
    refine .forEach fun node member => coordinator.verifyNode_checks node (excused.mono ?_)
    simpa [clusterCheckIds] using .inl ⟨node, member, rfl⟩
  have recovers : ∀ holds, Checks reason [shardRecoveryCheckId cluster] (Doubt fact)
      (checkThat holds (shardRecoveryCheckId cluster) .shardRecoveryIncomplete)
      fun _ => Doubt fact :=
    fun holds => ownCheck holds _ (excused.mono (by simp [clusterCheckIds]))
  have healthy : ∀ holds, Checks reason [clusterHealthCheckId cluster] (Doubt fact)
      (checkThat holds (clusterHealthCheckId cluster) .clusterHealthUnacceptable)
      fun _ => Doubt fact :=
    fun holds => ownCheck holds _ (excused.mono (by simp [clusterCheckIds]))
  refine .bind nodes fun _ => .bind (answerOr_observing none rfl _) fun recovery => ?_
  refine .bind (recovers _) fun _ => ?_
  exact .bind (answerOr_observing "unknown" rfl _) fun health => healthy _

theorem verifyBudget_checks (budget : ServiceBudgetExpectation)
    (excused : Excused reason [serviceBudgetCheckId budget]) :
    Checks reason [serviceBudgetCheckId budget] (Doubt fact) (coordinator.verifyBudget budget)
      fun _ => Doubt fact :=
  .bind (answerOr_observing none rfl _) fun _ => ownCheck _ _ excused

/-! ### The cleanup stages -/

variable (dependencies : CleanupDependencies) (request : PostReturnRequest)

theorem verifyBootId_checks {sshReady : Bool} (without : sshReady = false → fact) :
    Checks reason [] (Doubt fact) (coordinator.verifyBootId request sshReady)
      fun _ => Doubt fact := by
  cases sshReady with
  | true =>
      refine .bind (answerOr_observing none rfl _) fun observed => ?_
      refine .bind (fixedVerdict (by decide +kernel) _) fun _ => .pure fun _ _ doubt known => ?_
      exact doubt (.inl known)
  | false =>
      have skipped : Checks reason [] (Doubt True) (coordinator.verifyBootId request false)
          fun _ => Doubt True :=
        .bind (fixedSkip (by decide +kernel)) fun _ => .pure fun _ _ doubt => doubt
      exact skipped.weaken (fun _ member => member) (fun _ _ doubt _ => doubt (without rfl))
        fun _ _ _ doubt _ => doubt trivial

/-- An incomplete result left a doubt, and a complete one was imported. -/
theorem verifyExecutorResult_checks (observedBootId : Option String) :
    Checks reason [] (Doubt fact) (verifyExecutorResult dependencies request observedBootId)
      fun flags world => (flags.2 = true → flags.1 = true) ∧
        Doubt (fact ∨ flags.2 = false) world := by
  refine .bind (answerOr_observing none rfl _) fun result => ?_
  cases result with
  | none =>
      refine .bind (fixedVerdict (by decide +kernel) (some _)) fun _ => .pure fun _ _ doubt => ?_
      exact ⟨by simp, fun _ => doubt (.inr rfl)⟩
  | some result =>
      refine .bind (fixedVerdict (by decide +kernel) _) fun _ => .pure fun _ _ doubt => ?_
      refine ⟨fun _ => rfl, fun known => doubt (known.imp_right fun isFailed => ?_)⟩
      simpa using isFailed

/-- Evidence of a cleanup with the check that judges it. -/
theorem evidence_checks {checkId : String} (change : Report → Report) (holds : Bool)
    (category : PostReturnErrorCategory)
    (sameErrors : ∀ report, (change report).errors = report.errors)
    (sameChecks : ∀ report, (change report).checks = report.checks)
    (proves : holds = true → ∀ report : Report, report.CleanupsProven →
      (change report).CleanupsProven)
    (excused : Excused reason [checkId]) :
    Checks reason [checkId] (Doubt fact)
      (note change >>= fun _ => checkThat holds checkId category) fun _ => Doubt fact := by
  intro world sound doubt
  rw [run_bind, note, run_update]
  cases holds with
  | true =>
      refine passCheck_checks excused _ ⟨sound.unbounded, ?_, ?_, sound.gated⟩ ?_
      · simp only [sameErrors, sameChecks]
        exact sound.unfailed_iff
      · intro unfailed
        refine proves rfl _ (sound.cleanups ?_)
        simpa only [sameErrors] using unfailed
      · intro isFact
        simp only [sameErrors]
        exact doubt isFact
  | false =>
      have unbounded : Unbounded { world with working := change world.working } := sound.unbounded
      rcases failCheck_ends category excused unbounded sound.gated with
        ⟨reached, ran, soundReached, isFailed, _, matched⟩ | ⟨error, raised, why⟩
      · exact .inl ⟨(), reached, ran, soundReached, fun _ => isFailed, by simpa using matched⟩
      · exact .inr ⟨error, _, raised, sound.gated, why⟩

theorem restoreAllocation_checks (checkpoint : AllocationGuardCheckpoint)
    (rejected : ∀ history cleanup,
      dependencies.restore checkpoint .recovery history = .ok cleanup →
      ¬ (∀ category ∈ cleanup.val.errorCategory, matchesError category) → reason)
    (excused : Excused reason [allocationCheckId checkpoint]) :
    Checks reason [allocationCheckId checkpoint] (Doubt fact)
      (restoreAllocation dependencies checkpoint) fun _ => Doubt fact := by
  refine .bind (answerOr_checks none _ (fun _ _ doubt => doubt)
    fun _ _ _ _ => admitted_of_observing rfl) fun answer => ?_
  cases answer with
  | none => exact failCheck_checks _ _ excused
  | some cleanup =>
      dsimp only
      by_cases accepted : ∀ category ∈ cleanup.val.errorCategory, matchesError category
      · have valid : AllocationCleanupEvidence.validate checkpoint.clusterId cleanup.val =
            .ok ⟨checkpoint.clusterId, cleanup.val.status, cleanup.val.verified,
              cleanup.val.errorCategory, accepted⟩ := by
          rw [AllocationCleanupEvidence.validate, dif_pos accepted]
        rw [valid]
        have judged : Checks reason [allocationCheckId checkpoint] (Doubt fact)
            (note (fun report => { report with
                allocationCleanup := report.allocationCleanup ++
                  [⟨checkpoint.clusterId, cleanup.val.status, cleanup.val.verified,
                    cleanup.val.errorCategory, accepted⟩] }) >>= fun _ =>
              checkThat (cleanup.val.status = .restored && cleanup.val.verified)
                (allocationCheckId checkpoint) .allocationRestorationFailed)
            fun _ => Doubt fact := by
          refine evidence_checks _ _ _ (fun _ => rfl) (fun _ => rfl) ?_ excused
          intro holds report proven
          simp only [Bool.and_eq_true, decide_eq_true_eq] at holds
          refine ⟨fun item member => ?_, proven.2⟩
          rcases List.mem_append.mp member with old | new
          · exact proven.1 item old
          · obtain rfl := List.mem_singleton.mp new
            exact ⟨holds.2, holds.1⟩
        exact judged.weaken (fun _ member => member) (fun _ _ known => known.1)
          fun _ _ _ doubt => doubt
      · intro world sound known
        obtain ⟨_, history, answered, _⟩ := known
        rw [AllocationCleanupEvidence.validate, dif_neg accepted]
        refine .inr ⟨_, world, rfl, sound.gated, rejected history cleanup ?_ accepted⟩
        cases given : dependencies.restore checkpoint .recovery history with
        | ok value =>
            simp only [given, Except.map, settled, Option.some.injEq] at answered
            rw [answered]
        | error error =>
            simp only [given, Except.map, settled, reduceCtorEq] at answered

theorem clearShutdown_checks (record : ShutdownCleanupExpectation)
    (excused : Excused reason [shutdownCheckId record]) :
    Checks reason [shutdownCheckId record] (Doubt fact) (clearShutdown dependencies record)
      fun _ => Doubt fact := by
  refine .bind (answerOr_observing CleanupStatus.failed rfl _) fun status => ?_
  refine evidence_checks _ _ _ (fun _ => rfl) (fun _ => rfl) ?_ excused
  intro holds report proven
  refine ⟨proven.1, fun item member => ?_⟩
  rcases List.mem_append.mp member with old | new
  · exact proven.2 item old
  · obtain rfl := List.mem_singleton.mp new
    exact holds

/-- The executor's artifacts were proven to be cleaned up. -/
def ArtifactsCleaned (trace : ReturnHistory) : Prop :=
  ∃ entry ∈ trace, ∃ operationId, entry.event = .cleanupExecutor operationId true

/-- The locks were proven to be released. -/
def LocksReleased (trace : ReturnHistory) : Prop :=
  ∃ entry ∈ trace, ∃ planId nodeId clusterIds,
    entry.event = .releaseLocks planId nodeId clusterIds true

theorem unfailed_checks {before : ReturnWorld → Prop} :
    Checks reason [] before unfailed fun proven world =>
      (proven = true ↔ world.working.errors = []) ∧ before world :=
  fun world sound known => .inl ⟨_, world, rfl, sound, ⟨List.isEmpty_iff, known⟩, by simp⟩

/-- The status of a proof is the one that the call is logged with. -/
theorem cleanupStatus_eq (answer : Except Fault CleanupStatus) :
    cleanupStatus answer = settled .failed answer := by
  cases answer <;> rfl

theorem cleanupArtifacts_checks {complete : Bool} :
    Checks reason [] (Doubt (complete = false))
      (cleanupArtifacts dependencies request complete)
      fun cleaned world => (cleaned = true → complete = true) ∧ Doubt (cleaned = false) world ∧
        (cleaned = true → ArtifactsCleaned world.trace) := by
  refine .bind unfailed_checks fun proven => ?_
  split
  · rename_i ready
    rw [Bool.and_eq_true] at ready
    have asked : Checks reason [] (fun world => world.working.errors = [])
        (answerOr CleanupStatus.failed
          (fun answer => .cleanupExecutor request.operationId (cleanupStatus answer).proven)
          (dependencies.cleanupExecutor request.executorCleanup))
        fun status world => Doubt (False) world ∧
          (status.proven = true → ArtifactsCleaned world.trace) := by
      refine (answerOr_checks _ _ (fun _ _ known => known)
        fun world sound unfailed reply => ?_).weaken
        (fun _ member => member) (fun _ _ known => known) fun status world _ known => ?_
      · exact sound.unfailed_iff.mp unfailed
      · obtain ⟨_, history, given, entry, member, isCall⟩ := known
        refine ⟨nofun, fun isProven => ⟨entry, member, request.operationId, ?_⟩⟩
        rw [isCall, cleanupStatus_eq, ← given, isProven]
    refine .bind (asked.weaken (fun _ member => member)
      (fun _ _ known => known.1.mp ready.1) fun _ _ _ known => known) fun status => ?_
    have judged : Checks reason [] (fun world => Doubt False world ∧
          (status.proven = true → ArtifactsCleaned world.trace))
        (checkVerdict (artifactFailure status) "executor-artifact-cleanup")
        fun _ world => Doubt (False ∨ (artifactFailure status).isSome) world ∧
          (status.proven = true → ArtifactsCleaned world.trace) :=
      (checkVerdict_past (fun trace => status.proven = true → ArtifactsCleaned trace) _
        (excused_of_matches (by decide +kernel))).weaken
        (by simp) (fun _ _ known => known) fun _ _ _ known => known
    refine .bind judged fun _ => .pure fun world _ known => ⟨fun _ => ready.2, ?_, known.2⟩
    intro unproven
    refine known.1 (.inr ?_)
    simp only [artifactFailure, unproven, Bool.false_eq_true, if_false]
    split <;> rfl
  · rename_i unready
    rw [Bool.and_eq_true, not_and_or] at unready
    have skipped : Checks reason [] (Doubt True)
        (skipCheck "executor-artifact-cleanup" >>= fun _ => Pure.pure false)
        fun cleaned world => (cleaned = true → complete = true) ∧ Doubt (cleaned = false) world ∧
          (cleaned = true → ArtifactsCleaned world.trace) :=
      .bind (fixedSkip (by decide +kernel)) fun _ =>
        .pure fun _ _ doubt => ⟨nofun, fun _ => doubt trivial, nofun⟩
    refine skipped.weaken (fun _ member => member) (fun world _ known _ => ?_)
      fun _ _ _ known => known
    rcases unready with failed | incomplete
    · exact fun unfailed => failed (known.1.mpr unfailed)
    · exact known.2 (by simpa using incomplete)

theorem releaseLocks_checks {cleaned : Bool} :
    Checks reason [] (fun world => Doubt (cleaned = false) world ∧
        (cleaned = true → ArtifactsCleaned world.trace))
      (releaseLocks dependencies request cleaned)
      fun released world => (released = true → cleaned = true) ∧
        Doubt (released = false) world ∧ (released = true → LocksReleased world.trace) := by
  refine .bind unfailed_checks fun proven => ?_
  split
  · rename_i ready
    rw [Bool.and_eq_true] at ready
    have asked : Checks reason [] (fun world => world.working.errors = [] ∧
          ArtifactsCleaned world.trace)
        (answerOr CleanupStatus.failed
          (fun answer => .releaseLocks request.planId request.nodeId
            (request.clusters.map (·.clusterId)) (cleanupStatus answer).proven)
          (dependencies.release request.planId request.nodeId (request.clusters.map (·.clusterId))))
        fun status world => Doubt False world ∧
          (status.proven = true → LocksReleased world.trace) := by
      refine (answerOr_checks _ _ (fun world event known => ?_)
        fun world sound known reply => ?_).weaken
        (fun _ member => member) (fun _ _ known => known) fun status world _ known => ?_
      · obtain ⟨unfailed, entry, member, isCall⟩ := known
        exact ⟨unfailed, entry, List.mem_cons_of_mem _ member, isCall⟩
      · exact ⟨sound.unfailed_iff.mp known.1, known.2⟩
      · obtain ⟨_, history, given, entry, member, isCall⟩ := known
        refine ⟨nofun, fun isProven => ⟨entry, member, request.planId, request.nodeId,
          request.clusters.map (·.clusterId), ?_⟩⟩
        rw [isCall, cleanupStatus_eq, ← given, isProven]
    refine .bind (asked.weaken (fun _ member => member)
      (fun _ _ known => ⟨known.1.mp ready.2, known.2.2 ready.1⟩) fun _ _ _ known => known)
      fun status => ?_
    have judged : Checks reason [] (fun world => Doubt False world ∧
          (status.proven = true → LocksReleased world.trace))
        (checkThat status.proven "lock-release" .lockReleaseFailed)
        fun _ world => Doubt (False ∨ status.proven = false) world ∧
          (status.proven = true → LocksReleased world.trace) :=
      (checkThat_past (fun trace => status.proven = true → LocksReleased trace) _ _
        (excused_of_matches (by decide +kernel))).weaken
        (by simp) (fun _ _ known => known) fun _ _ _ known => known
    exact .bind judged fun _ => .pure fun world _ known =>
      ⟨fun _ => ready.1, fun unproven => known.1 (.inr unproven), known.2⟩
  · rename_i unready
    rw [Bool.and_eq_true, not_and_or] at unready
    have skipped : Checks reason [] (Doubt True)
        (skipCheck "lock-release" >>= fun _ => Pure.pure false)
        fun released world => (released = true → cleaned = true) ∧
          Doubt (released = false) world ∧ (released = true → LocksReleased world.trace) :=
      .bind (fixedSkip (by decide +kernel)) fun _ =>
        .pure fun _ _ doubt => ⟨nofun, fun _ => doubt trivial, nofun⟩
    refine skipped.weaken (fun _ member => member) (fun world _ known _ => ?_)
      fun _ _ _ known => known
    rcases unready with uncleaned | failed
    · exact known.2.1 (by simpa using uncleaned)
    · exact fun unfailed => failed (known.1.mpr unfailed)

end PostReturnCoordinator

end ElKeeper.PostReturn
