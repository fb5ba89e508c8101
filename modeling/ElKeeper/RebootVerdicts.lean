import ElKeeper.RebootReturn
import ElKeeper.StartupProtection
import ElKeeper.WorkflowSteps

/-!
# Three readings of an interrupted reboot

The startup classifies the latest checkpoint of a plan, the workflow recovery
looks at all its checkpoints, and the orchestrator looks at the latest key and
its side-effect state.  On the journals that the host workflow leaves behind the
three agree exactly at certain latest checkpoints.
-/

namespace ElKeeper

open Program MaintenanceStore

inductive RebootRecoveryDisposition where
  | notApplicable
  | resumePreReboot
  | observeReboot
  | continuePostReturn
deriving DecidableEq, Repr

/-- The part of the workflow recovery that concerns a reboot. -/
structure RebootRecovery where
  disposition : RebootRecoveryDisposition
  checkpoint : Option CheckpointKey
  resumeAllowed : Bool
  observationRequired : Bool
deriving DecidableEq

/-- The first of the keys that the journal of a plan holds. -/
def Database.firstRecorded (database : Database) (planId : String)
    (keys : List CheckpointKey) : Option CheckpointKey :=
  keys.find? fun key => (database.journal planId key).isSome

/-- `_reboot_recovery_disposition`. -/
def rebootRecoveryDisposition (database : Database) (plan : PlanRecord) : RebootRecovery :=
  if plan.targetManifest.publicOperation ≠ some "host_maintenance" then
    ⟨.notApplicable, none, false, false⟩
  else
    match database.firstRecorded plan.id [.returnDiscovered, .hostStep .rebootComplete none] with
    | some key => ⟨.continuePostReturn, some key, false, false⟩
    | none =>
        match database.firstRecorded plan.id
            [.hostReconnected, .sshDisconnected, .invocationAcknowledged, .rebootIntent] with
        | some key => ⟨.observeReboot, some key, false, true⟩
        | none =>
            match database.firstRecorded plan.id [.clusterGuardsActive, .executorStaged,
                .clustersPrepared, .hostRebootRequest, .hostStep .reboot none] with
            | some key => ⟨.resumePreReboot, some key, true, false⟩
            | none => ⟨.notApplicable, none, false, false⟩

/-- What a reading says: the reboot may be resumed, the host must be observed first, or the
work after its return may continue. -/
structure RebootVerdict where
  resume : Bool
  observe : Bool
  continues : Bool
deriving DecidableEq

/-- The reason under which a verified return is classified. -/
def continueReason : String :=
  "reboot-return-verified-continue-post-return"

/-- The reading of `classify_host_reboot_checkpoint` on the latest checkpoint.  What is
resumable after a verified return is the work that follows it. -/
def startupVerdict (database : Database) (plan : PlanRecord) : RebootVerdict :=
  match (database.latestCheckpoint plan.id).bind (classifyHostRebootCheckpoint plan) with
  | none => ⟨false, false, false⟩
  | some decision =>
      { resume := decision.resumable && decision.reasonCode ≠ continueReason
        observe := decision.classification = .ambiguous
        continues := decision.resumable && decision.reasonCode = continueReason }

/-- The reading of the workflow recovery. -/
def workflowVerdict (database : Database) (plan : PlanRecord) : RebootVerdict :=
  let recovery := rebootRecoveryDisposition database plan
  { resume := recovery.resumeAllowed
    observe := recovery.observationRequired
    continues := recovery.disposition = .continuePostReturn }

/-- The reading of `recovery_handoff`. -/
def handoffVerdict (database : Database) (plan : PlanRecord) : RebootVerdict :=
  let handoff := recoveryHandoff (database.latestCheckpoint plan.id)
  { resume := handoff.resumeAllowed
    observe := handoff.observationRequired
    continues := handoff.reasonCode = "continue-post-return-verification" }

/-- The three readings give one verdict. -/
def VerdictsAgree (database : Database) (plan : PlanRecord) : Prop :=
  startupVerdict database plan = workflowVerdict database plan ∧
    workflowVerdict database plan = handoffVerdict database plan

instance (database : Database) (plan : PlanRecord) : Decidable (VerdictsAgree database plan) :=
  inferInstanceAs (Decidable (_ ∧ _))

/-- The latest checkpoints at which the readings agree. -/
def CheckpointKey.agreedOn : CheckpointKey → Bool
  | hostRebootRequest | clustersPrepared | rebootIntent | invocationAcknowledged
  | sshDisconnected | hostReconnected | returnDiscovered => true
  | _ => false

/-! ### Reachable journals -/

/-- What the readings see of the journal of a plan. -/
def Database.journalOf (database : Database) (planId : String) :
    List (CheckpointKey × Nat × SideEffectState) :=
  (database.checkpoints.filter (·.planId = planId)).map fun row =>
    (row.key, row.sequence, row.sideEffectState)

/-- The worlds that the actions of the host workflow reach on one plan.  An action may be
interrupted anywhere; what it had not committed is lost or, on a more durable database, kept.
Between two actions everything but the journal of the plan may change. -/
inductive HostJournalReached (planId : String) : MaintenanceWorld → Prop where
  | start {database : Database} (empty : database.journalOf planId = []) (budget : Option Nat) :
      HostJournalReached planId (World.start database budget)
  | perform {world : MaintenanceWorld} (reached : HostJournalReached planId world)
      (service : HostMaintenanceService) (action : HostWorkflowAction) :
      HostJournalReached planId ((service.perform planId action).run world).2
  | restart {world : MaintenanceWorld} (reached : HostJournalReached planId world)
      (budget : Option Nat) : HostJournalReached planId (world.restart budget)
  | settle {world : MaintenanceWorld} (reached : HostJournalReached planId world)
      (budget : Option Nat) : HostJournalReached planId (world.settle budget)
  | environment {world : MaintenanceWorld} (reached : HostJournalReached planId world)
      {database : Database}
      (same : database.journalOf planId = world.committed.journalOf planId)
      (budget : Option Nat) :
      HostJournalReached planId
        { world with committed := database, working := database, budget := budget }

/-! ### What a journal says -/

/-- The side-effect states of the checkpoints of the host workflow and its reboot. -/
def CheckpointKey.journalStates : CheckpointKey → List SideEffectState
  | hostRebootRequest => [.prepared]
  | hostStep _ _ | containerIntent _ | containerVerified _ => [.mayHaveStarted, .verified]
  | key => key.rebootStates

/-- The journal of a plan as the host workflow writes it, with the orchestrator at its
production base. -/
structure JournalSound (planId : String) (database : Database) : Prop where
  numbered : ∀ row ∈ database.checkpoints, row.planId = planId →
    ∀ offset, row.key.rebootOffset = some offset →
      row.sequence = HostReboot.productionSequenceBase + offset
  requested : ∀ row ∈ database.checkpoints, row.planId = planId →
    row.key = .hostRebootRequest → row.sequence = HostReboot.requestSequence
  states : ∀ row ∈ database.checkpoints, row.planId = planId →
    row.sideEffectState ∈ row.key.journalStates
  returned : (database.journal planId (.hostStep .rebootComplete none)).isSome →
    (database.journal planId .returnDiscovered).isSome

/-- The keys that stand for a verified return. -/
def returnKeys : List CheckpointKey :=
  [.returnDiscovered, .hostStep .rebootComplete none]

/-- The keys after which the host must be observed. -/
def observedKeys : List CheckpointKey :=
  [.hostReconnected, .sshDisconnected, .invocationAcknowledged, .rebootIntent]

/-- The keys before the intent. -/
def resumableKeys : List CheckpointKey :=
  [.clusterGuardsActive, .executorStaged, .clustersPrepared, .hostRebootRequest,
    .hostStep .reboot none]

section Latest

variable {database : Database} {planId : String} {row : CheckpointRecord}

/-- No checkpoint of the plan has a greater number than the latest. -/
theorem latestCheckpoint_max (latest : database.latestCheckpoint planId = some row)
    {other : CheckpointRecord} (member : other ∈ database.checkpoints)
    (onPlan : other.planId = planId) : other.sequence ≤ row.sequence := by
  rw [latestCheckpoint_eq_foldl] at latest
  exact (foldl_laterCheckpoint_max latest).2 _
    (List.mem_filter.mpr ⟨member, by simpa using onPlan⟩)

/-- What the journal holds is a checkpoint of the plan. -/
theorem journal_mem {key : CheckpointKey} (found : database.journal planId key = some row) :
    row ∈ database.checkpoints ∧ row.planId = planId ∧ row.key = key := by
  have isRow := List.find?_some found
  simp only [Bool.and_eq_true, decide_eq_true_eq] at isRow
  exact ⟨List.mem_of_find?_eq_some found, isRow⟩

/-- A checkpoint of the plan is in its journal. -/
theorem journal_isSome (member : row ∈ database.checkpoints) (onPlan : row.planId = planId) :
    (database.journal planId row.key).isSome := by
  rw [Database.journal, List.find?_isSome]
  exact ⟨row, member, by simp [onPlan]⟩

/-- A checkpoint of the reboot lies at or below the latest one. -/
theorem JournalSound.offset_le (sound : JournalSound planId database)
    (latest : database.latestCheckpoint planId = some row) {key : CheckpointKey} {offset : Nat}
    (isOffset : key.rebootOffset = some offset)
    (present : (database.journal planId key).isSome) :
    HostReboot.productionSequenceBase + offset ≤ row.sequence := by
  obtain ⟨other, found⟩ := Option.isSome_iff_exists.mp present
  obtain ⟨member, onPlan, isKey⟩ := journal_mem found
  rw [← sound.numbered other member onPlan offset (by rw [isKey]; exact isOffset)]
  exact latestCheckpoint_max latest member onPlan

/-- Below the recorded return neither of its keys is there. -/
theorem JournalSound.unreturned (sound : JournalSound planId database)
    (latest : database.latestCheckpoint planId = some row)
    (below : row.sequence < HostReboot.productionSequenceBase + 1100) :
    ∀ key ∈ returnKeys, ¬ (database.journal planId key).isSome := by
  have undiscovered : ¬ (database.journal planId .returnDiscovered).isSome := by
    intro present
    have reached := sound.offset_le latest rfl present
    omega
  intro key member present
  simp only [returnKeys, List.mem_cons, List.not_mem_nil, or_false] at member
  rcases member with rfl | rfl
  · exact undiscovered present
  · exact undiscovered (sound.returned present)

/-- Below the intent no later key is there. -/
theorem JournalSound.unobserved (sound : JournalSound planId database)
    (latest : database.latestCheckpoint planId = some row)
    (below : row.sequence < HostReboot.productionSequenceBase + 700) :
    ∀ key ∈ observedKeys, ¬ (database.journal planId key).isSome := by
  intro key member present
  simp only [observedKeys, List.mem_cons, List.not_mem_nil, or_false] at member
  rcases member with rfl | rfl | rfl | rfl
  all_goals
    have reached := sound.offset_le latest rfl present
    omega

end Latest

/-! ### The verdict on a journal -/

section Verdicts

variable {database : Database} {plan : PlanRecord}

theorem firstRecorded_isSome {keys : List CheckpointKey} {planId : String} :
    (database.firstRecorded planId keys).isSome ↔
      ∃ key ∈ keys, (database.journal planId key).isSome := by
  rw [Database.firstRecorded, List.find?_isSome]

theorem firstRecorded_none {keys : List CheckpointKey} {planId : String}
    (absent : ∀ key ∈ keys, ¬ (database.journal planId key).isSome) :
    database.firstRecorded planId keys = none :=
  List.find?_eq_none.mpr absent

variable (operation : plan.targetManifest.publicOperation = some "host_maintenance")

include operation

theorem workflowVerdict_returned
    (present : ∃ key ∈ returnKeys, (database.journal plan.id key).isSome) :
    workflowVerdict database plan = ⟨false, false, true⟩ := by
  obtain ⟨key, found⟩ := Option.isSome_iff_exists.mp (firstRecorded_isSome.mpr present)
  simp only [workflowVerdict, rebootRecoveryDisposition, operation]
  rw [returnKeys] at found
  simp [found]

theorem workflowVerdict_observed
    (unreturned : ∀ key ∈ returnKeys, ¬ (database.journal plan.id key).isSome)
    (present : ∃ key ∈ observedKeys, (database.journal plan.id key).isSome) :
    workflowVerdict database plan = ⟨false, true, false⟩ := by
  have none := firstRecorded_none unreturned
  obtain ⟨key, found⟩ := Option.isSome_iff_exists.mp (firstRecorded_isSome.mpr present)
  rw [returnKeys] at none
  rw [observedKeys] at found
  simp [workflowVerdict, rebootRecoveryDisposition, operation, none, found]

theorem workflowVerdict_resumable
    (unreturned : ∀ key ∈ returnKeys, ¬ (database.journal plan.id key).isSome)
    (unobserved : ∀ key ∈ observedKeys, ¬ (database.journal plan.id key).isSome)
    (present : ∃ key ∈ resumableKeys, (database.journal plan.id key).isSome) :
    workflowVerdict database plan = ⟨true, false, false⟩ := by
  have none := firstRecorded_none unreturned
  have noneObserved := firstRecorded_none unobserved
  obtain ⟨key, found⟩ := Option.isSome_iff_exists.mp (firstRecorded_isSome.mpr present)
  rw [returnKeys] at none
  rw [observedKeys] at noneObserved
  rw [resumableKeys] at found
  simp [workflowVerdict, rebootRecoveryDisposition, operation, none, noneObserved, found]

end Verdicts

/-- The reading of the startup, by the kind of the latest key. -/
theorem startupVerdict_of_latest {database : Database} {plan : PlanRecord}
    {row : CheckpointRecord} (latest : database.latestCheckpoint plan.id = some row)
    (operation : plan.targetManifest.publicOperation = some "host_maintenance") :
    startupVerdict database plan =
      ⟨row.key.preIntent, !row.key.preIntent && row.key.rebootAmbiguous,
        !row.key.preIntent && !row.key.rebootAmbiguous && row.key.postReturn⟩ := by
  simp only [startupVerdict, latest, Option.bind_some, classifyHostRebootCheckpoint, operation]
  cases row.key.preIntent <;> cases row.key.rebootAmbiguous <;> cases row.key.postReturn <;>
    decide +kernel

/-- The reading of the orchestrator, by the latest key and its state. -/
theorem handoffVerdict_of_latest {database : Database} {plan : PlanRecord}
    {row : CheckpointRecord} (latest : database.latestCheckpoint plan.id = some row) :
    handoffVerdict database plan =
      if row.key = .returnDiscovered then ⟨false, false, true⟩
      else if row.key = .rebootIntent ∨ row.sideEffectState = .mayHaveStarted ∨
          row.sideEffectState = .verified then ⟨false, true, false⟩
      else ⟨true, false, false⟩ := by
  simp only [handoffVerdict, latest, recoveryHandoff]
  by_cases discovered : row.key = .returnDiscovered
  · simp [discovered]
  · by_cases intended : row.key = .rebootIntent
    · simp [intended]
    · cases state : row.sideEffectState <;> simp [discovered, intended]

/-- Elsewhere the startup and the orchestrator differ. -/
theorem verdicts_differ {database : Database} {plan : PlanRecord} {row : CheckpointRecord}
    (latest : database.latestCheckpoint plan.id = some row)
    (operation : plan.targetManifest.publicOperation = some "host_maintenance")
    (isState : row.sideEffectState ∈ row.key.journalStates)
    (unagreed : row.key.agreedOn = false) :
    startupVerdict database plan ≠ handoffVerdict database plan := by
  rw [startupVerdict_of_latest latest operation, handoffVerdict_of_latest latest]
  rcases row with ⟨_, _, _, key, _, state⟩
  dsimp only at isState unagreed ⊢
  cases key with
  | hostStep step assignment =>
      simp only [CheckpointKey.journalStates, List.mem_cons, List.not_mem_nil, or_false] at isState
      cases step <;> cases assignment <;> rcases isState with rfl | rfl <;>
        simp [CheckpointKey.preIntent, CheckpointKey.rebootAmbiguous, CheckpointKey.postReturn]
  | predicates stage attempt =>
      cases stage <;> simp only [CheckpointKey.journalStates, CheckpointKey.rebootStates,
        List.mem_singleton] at isState <;> subst isState <;>
        simp [CheckpointKey.preIntent, CheckpointKey.rebootAmbiguous, CheckpointKey.postReturn]
  | clusterCaptured clusterId | control action attempt | clusterGuardsActive =>
      simp only [CheckpointKey.journalStates, CheckpointKey.rebootStates,
        List.mem_singleton] at isState
      subst isState
      simp [CheckpointKey.preIntent, CheckpointKey.rebootAmbiguous, CheckpointKey.postReturn]
  | clusterGuardsRestored | executorStaged | containerIntent step | containerVerified step =>
      simp only [CheckpointKey.journalStates, CheckpointKey.rebootStates, List.mem_cons,
        List.not_mem_nil, or_false] at isState
      rcases isState with rfl | rfl <;>
        simp [CheckpointKey.preIntent, CheckpointKey.rebootAmbiguous, CheckpointKey.postReturn]
  | _ => cases unagreed

/-- At the agreed keys the workflow recovery reads what the others read. -/
theorem JournalSound.agree_of_agreedOn {database : Database} {plan : PlanRecord}
    {row : CheckpointRecord} (sound : JournalSound plan.id database)
    (operation : plan.targetManifest.publicOperation = some "host_maintenance")
    (latest : database.latestCheckpoint plan.id = some row) (agreed : row.key.agreedOn) :
    VerdictsAgree database plan := by
  obtain ⟨member, onPlan⟩ := latestCheckpoint_mem latest
  have isState := sound.states row member onPlan
  have present := journal_isSome member onPlan
  have numbered := sound.numbered row member onPlan
  have requested := sound.requested row member onPlan
  rw [VerdictsAgree, startupVerdict_of_latest latest operation, handoffVerdict_of_latest latest]
  -- Before the intent nothing later is recorded, after it nothing returned is.
  have resumed : row.key.rebootOffset = some 200 ∨ row.key = .hostRebootRequest →
      row.key ∈ resumableKeys → workflowVerdict database plan = ⟨true, false, false⟩ := by
    intro early isKey
    have below : row.sequence < HostReboot.productionSequenceBase + 700 := by
      rcases early with isOffset | isRequest
      · have := numbered 200 isOffset
        omega
      · rw [requested isRequest]
        decide
    have belowReturn : row.sequence < HostReboot.productionSequenceBase + 1100 :=
      Nat.lt_of_lt_of_le below (Nat.add_le_add_left (by decide) _)
    exact workflowVerdict_resumable operation (sound.unreturned latest belowReturn)
      (sound.unobserved latest below) ⟨row.key, isKey, present⟩
  have observed : ∀ offset < 1100, row.key.rebootOffset = some offset →
      row.key ∈ observedKeys → workflowVerdict database plan = ⟨false, true, false⟩ := by
    intro offset below isOffset isKey
    have belowReturn : row.sequence < HostReboot.productionSequenceBase + 1100 := by
      have := numbered offset isOffset
      omega
    exact workflowVerdict_observed operation (sound.unreturned latest belowReturn)
      ⟨row.key, isKey, present⟩
  cases isKey : row.key
  all_goals rw [isKey] at agreed isState present resumed observed
  case hostRebootRequest =>
    rw [resumed (.inr rfl) (by decide)]
    simp only [CheckpointKey.journalStates, List.mem_singleton] at isState
    simp [CheckpointKey.preIntent, isState]
  case clustersPrepared =>
    rw [resumed (.inl rfl) (by decide)]
    simp only [CheckpointKey.journalStates, CheckpointKey.rebootStates,
      List.mem_singleton] at isState
    simp [CheckpointKey.preIntent, isState]
  case rebootIntent =>
    rw [observed 700 (by decide) rfl (by decide)]
    simp [CheckpointKey.preIntent, CheckpointKey.rebootAmbiguous]
  case invocationAcknowledged =>
    rw [observed 800 (by decide) rfl (by decide)]
    simp only [CheckpointKey.journalStates, CheckpointKey.rebootStates,
      List.mem_singleton] at isState
    simp [CheckpointKey.preIntent, CheckpointKey.rebootAmbiguous, isState]
  case sshDisconnected =>
    rw [observed 900 (by decide) rfl (by decide)]
    simp only [CheckpointKey.journalStates, CheckpointKey.rebootStates,
      List.mem_singleton] at isState
    simp [CheckpointKey.preIntent, CheckpointKey.rebootAmbiguous, isState]
  case hostReconnected =>
    rw [observed 1000 (by decide) rfl (by decide)]
    simp only [CheckpointKey.journalStates, CheckpointKey.rebootStates,
      List.mem_singleton] at isState
    simp [CheckpointKey.preIntent, CheckpointKey.rebootAmbiguous, isState]
  case returnDiscovered =>
    rw [workflowVerdict_returned operation ⟨.returnDiscovered, by decide, present⟩]
    simp [CheckpointKey.preIntent, CheckpointKey.rebootAmbiguous, CheckpointKey.postReturn]
  all_goals cases agreed

/-- On a sound journal the readings agree exactly at certain latest checkpoints. -/
theorem JournalSound.agree_iff {database : Database} {plan : PlanRecord}
    (sound : JournalSound plan.id database)
    (operation : plan.targetManifest.publicOperation = some "host_maintenance") :
    VerdictsAgree database plan ↔
      (database.latestCheckpoint plan.id).any fun row => row.key.agreedOn := by
  cases latest : database.latestCheckpoint plan.id with
  | none =>
      refine iff_of_false (fun agree => ?_) (by simp)
      have same := agree.1.trans agree.2
      simp [startupVerdict, handoffVerdict, recoveryHandoff, latest] at same
  | some row =>
      obtain ⟨member, onPlan⟩ := latestCheckpoint_mem latest
      have isState := sound.states row member onPlan
      by_cases agreed : row.key.agreedOn
      · refine iff_of_true (sound.agree_of_agreedOn operation latest agreed) ?_
        simpa using agreed
      · rw [Bool.not_eq_true] at agreed
        refine iff_of_false (fun agree => ?_) (by simp [agreed])
        exact verdicts_differ latest operation isState agreed (agree.1.trans agree.2)

/-! ### What keeps a journal sound -/

/-- A write that keeps the journal of the plan sound. -/
def KeepsJournal (planId : String) (before after : Database) : Prop :=
  JournalSound planId before → JournalSound planId after

theorem JournalSound.of_same {planId : String} {before after : Database}
    (sound : JournalSound planId before) (same : after.checkpoints = before.checkpoints) :
    JournalSound planId after := by
  refine ⟨?_, ?_, ?_, ?_⟩
  · rw [same]
    exact sound.numbered
  · rw [same]
    exact sound.requested
  · rw [same]
    exact sound.states
  · simp only [Database.journal, same]
    exact sound.returned

theorem keepsJournal_of_same {planId : String} {before after : Database}
    (same : after.checkpoints = before.checkpoints) : KeepsJournal planId before after :=
  fun sound => sound.of_same same

section Adding

variable {planId : String} {database : Database} {content : CheckpointContent} {identifier : Nat}

theorem journal_addCheckpoint_mono {key : CheckpointKey} {row : CheckpointRecord}
    (present : (database.journal planId key).isSome) :
    ((database.addCheckpoint row).journal planId key).isSome := by
  obtain ⟨found, isFound⟩ := Option.isSome_iff_exists.mp present
  rw [journal_addCheckpoint_of_some isFound]
  rfl

/-- A new checkpoint of the plan keeps its journal sound. -/
theorem JournalSound.add (sound : JournalSound planId database)
    (numbered : ∀ offset, content.key.rebootOffset = some offset →
      content.sequence = HostReboot.productionSequenceBase + offset)
    (requested : content.key = .hostRebootRequest →
      content.sequence = HostReboot.requestSequence)
    (state : content.sideEffectState ∈ content.key.journalStates)
    (returned : content.key = .hostStep .rebootComplete none →
      (database.journal planId .returnDiscovered).isSome) :
    JournalSound planId (database.addCheckpoint (content.row planId identifier)) := by
  refine ⟨fun row member onPlan => ?_, fun row member onPlan => ?_, fun row member onPlan => ?_,
    fun present => ?_⟩
  · rcases List.mem_append.mp member with member | member
    · exact sound.numbered row member onPlan
    · obtain rfl := List.mem_singleton.mp member
      exact numbered
  · rcases List.mem_append.mp member with member | member
    · exact sound.requested row member onPlan
    · obtain rfl := List.mem_singleton.mp member
      exact requested
  · rcases List.mem_append.mp member with member | member
    · exact sound.states row member onPlan
    · obtain rfl := List.mem_singleton.mp member
      exact state
  · by_cases isComplete : content.key = .hostStep .rebootComplete none
    · exact journal_addCheckpoint_mono (returned isComplete)
    · rw [journal_addCheckpoint_of_ne isComplete] at present
      exact journal_addCheckpoint_mono (sound.returned present)

/-- Without a checkpoint that is not a recorded return the journal was sound. -/
theorem JournalSound.of_add {row : CheckpointRecord}
    (sound : JournalSound planId (database.addCheckpoint row))
    (other : row.key ≠ .returnDiscovered) : JournalSound planId database := by
  refine ⟨fun old member => sound.numbered old (List.mem_append_left _ member),
    fun old member => sound.requested old (List.mem_append_left _ member),
    fun old member => sound.states old (List.mem_append_left _ member), fun present => ?_⟩
  have later := sound.returned (journal_addCheckpoint_mono present)
  rwa [journal_addCheckpoint_of_ne other] at later

end Adding

/-- The orchestrator at its production base keeps a journal sound. -/
theorem keepsJournal_admitsRun (planId : String) :
    AdmitsRun planId HostReboot.productionSequenceBase (fun _ => True) (KeepsJournal planId) where
  lifecycle _ _ _ _ _ := keepsJournal_of_same rfl
  checkpoint content _ ofReboot database identifier sound := by
    have isReboot := ofReboot.state
    refine sound.add ofReboot.sequence (fun isRequest => ?_) ?_ fun isComplete => ?_
    · rw [isRequest] at isReboot
      cases isReboot
    · cases isKey : content.key <;> rw [isKey] at isReboot <;> first | exact isReboot | cases isReboot
    · rw [isComplete] at isReboot
      cases isReboot
  hostState _ _ _ := keepsJournal_of_same rfl
  assignmentState _ _ _ := keepsJournal_of_same rfl
  undo before after reached sound := by
    induction reached with
    | refl => exact sound
    | tail _ step ih =>
        obtain ⟨content, identifier, isKey, _, rfl⟩ := step
        refine ih (sound.of_add ?_)
        rcases isKey with isKey | ⟨clusterId, isKey⟩ <;> simp [CheckpointContent.row, isKey]

theorem startRun_checkpoints {kind target : String} {context : Dict} {runId : Nat}
    {database after : Database}
    (started : (Runs.startRun kind target context).run database = (.returned runId, after)) :
    after.checkpoints = database.checkpoints := by
  rw [startRun_run] at started
  cases started
  rfl

theorem WorkflowWrite.keepsJournal {planId : String} {before after : Database}
    (write : WorkflowWrite planId before after) : KeepsJournal planId before after := by
  cases write with
  | checkpoint identifier announces =>
      intro sound
      have isKey := announces.key
      have isState := announces.state
      rename_i content
      rcases CheckpointKey.ofWorkflow_cases isKey with
        ⟨step, assignment, same, _⟩ | ⟨step, same⟩ | ⟨step, same⟩
      all_goals
        refine sound.add (fun offset isOffset => ?_) (fun isRequest => ?_) ?_ fun isComplete => ?_
        · rw [same] at isOffset
          cases isOffset
        · rw [same] at isRequest
          cases isRequest
        · rw [same]
          rcases isState with isState | isState <;> simp [CheckpointKey.journalStates, isState]
        · rw [isComplete] at isKey
          cases isKey
  | launch started => exact keepsJournal_of_same (startRun_checkpoints started)
  | _ => exact keepsJournal_of_same rfl

theorem ExecutionWrite.keepsJournal {planId : String} {before after : Database}
    (write : ExecutionWrite before after) : KeepsJournal planId before after := by
  cases write with
  | start started => exact keepsJournal_of_same (startRun_checkpoints started)
  | _ => exact keepsJournal_of_same rfl

/-! ### Runs of the host workflow -/

/-- The journal is sound, durably and on the connection. -/
def JournalsSound (planId : String) (world : MaintenanceWorld) : Prop :=
  JournalSound planId world.committed ∧ JournalSound planId world.working

section Runs

variable {planId : String}

theorem JournalsSound.step {sends : MaintenanceWorld → Effect → Prop}
    {commits : MaintenanceWorld → Prop} (before after : MaintenanceWorld)
    (step : WorldStep (KeepsJournal planId) sends commits before after)
    (sound : JournalsSound planId before) : JournalsSound planId after := by
  cases step with
  | write allowed => exact ⟨sound.1, allowed sound.2⟩
  | spend budget => exact sound
  | send allowed => exact sound
  | commit allowed => exact ⟨sound.2, sound.2⟩

/-- A program of writes that keep the journal sound. -/
theorem journal_maintains {α : Type} {program : Action α} {before : MaintenanceWorld → Prop}
    (moves : Moves (WorldStep (KeepsJournal planId) (fun _ _ => True) fun _ => True) program) :
    Maintains (JournalsSound planId) before program fun _ _ => True :=
  (Maintains.ofMoves moves JournalsSound.step fun _ _ _ known => known).weaken
    (fun _ _ _ => trivial) fun _ _ _ _ => trivial

theorem keepsJournal_admitsRelease : AdmitsRelease planId (KeepsJournal planId) where
  workflow _ _ write := write.keepsJournal
  claims _ _ _ := keepsJournal_of_same rfl
  release _ _ _ _ := keepsJournal_of_same rfl

theorem keepsJournal_admitsRecovery :
    HostMaintenanceService.AdmitsRecovery planId (KeepsJournal planId) where
  addHost _ _ _ := keepsJournal_of_same rfl
  setHost _ _ _ := keepsJournal_of_same rfl
  addAssignment _ _ _ := keepsJournal_of_same rfl
  setAssignment _ _ _ _ := keepsJournal_of_same rfl
  lifecycle _ _ _ := keepsJournal_of_same rfl
  runStatus _ _ := keepsJournal_of_same rfl

end Runs

namespace HostReboot

/-- A request that is read back or made for a plan is about that plan. -/
theorem rebootRequest_planId {planId : String} {nodeId : Nat} {bootId : String}
    {envelope : SignedHostExecutorManifest} {request : RebootRequest}
    (made : rebootRequest planId nodeId bootId envelope = .ok request) :
    request.planId = planId := by
  simp only [rebootRequest] at made
  split at made
  · split at made
    · split at made
      · split at made
        · cases made
          rfl
        · cases made
      · cases made
    · cases made
  · cases made

theorem requestFromPayload_planId {plan : PlanRecord} {payload : CheckpointPayload}
    {request : RebootRequest} (read : requestFromPayload plan payload = .ok request) :
    request.planId = plan.id := by
  simp only [requestFromPayload] at read
  split at read
  · split at read
    · cases read
    · split at read
      · rename_i same
        cases read
        exact same.1
      · cases read
  · cases read

theorem newRequest_planId {gateways : HostRebootGateways} {plan : PlanRecord}
    {targets : List ManagedContainerTarget} {nodeId now : Nat} {bootId : String}
    {request : RebootRequest}
    (made : newRequest gateways plan targets nodeId bootId now = .ok request) :
    request.planId = plan.id := by
  simp only [newRequest] at made
  split at made
  · cases made
  · split at made
    · cases made
    · exact rebootRequest_planId made

variable {invariant assertion : MaintenanceWorld → Prop}
  {writes : Database → Database → Prop}

/-- The request of a plan, for an invariant and an assertion that its record keeps. -/
theorem request_maintains (gateways : HostRebootGateways) (plan : PlanRecord)
    (targets : List ManagedContainerTarget)
    (keeps : ∀ before after, WorldStep writes (fun _ effect => effect.quiet) (fun _ => False) before after →
      invariant before ∧ assertion before → invariant after ∧ assertion after)
    (records : ∀ request : RebootRequest, request.planId = plan.id → ∀ database identifier,
      writes database (database.addCheckpoint ((requestContent request).row plan.id identifier))) :
    Maintains invariant assertion (request gateways plan targets)
      fun made world => made.planId = plan.id ∧ assertion world := by
  have steadily : ∀ {α : Type} {program : Action α},
      Moves (WorldStep writes (fun _ effect => effect.quiet) fun _ => False) program →
      Maintains invariant assertion program fun _ => assertion :=
    fun moves => .ofMovesTogether moves keeps
  refine .bind (steadily (.view _)) fun found => ?_
  cases found with
  | some existing =>
      exact Maintains.ofExcept.weaken (fun _ _ known => known)
        fun _ _ _ known => ⟨requestFromPayload_planId known.1, known.2⟩
  | none =>
      dsimp only
      split
      · exact .raise _ _
      · refine .bind (steadily (.ask fun _ _ => rfl)) fun answer => ?_
        cases answer with
        | none => exact .raise _ _
        | some bootId =>
            refine .bind (steadily (.read _)) fun now => .bind Maintains.ofExcept fun made => ?_
            refine .given fun isMade => ?_
            have isPlan := newRequest_planId isMade
            exact .bind (steadily (.store (recordCheckpoint_moves
              fun database identifier => records made isPlan database identifier)))
              fun _ => .pure fun _ _ known => ⟨isPlan, known⟩

/-- The reboot of a plan returns after a recorded return of its host. -/
theorem reboot_maintains (gateways : HostRebootGateways) (plan : PlanRecord)
    (targets : List ManagedContainerTarget)
    (keeps : ∀ before after, WorldStep writes (fun _ effect => effect.quiet) (fun _ => False) before after →
      invariant before ∧ assertion before → invariant after ∧ assertion after)
    (records : ∀ request : RebootRequest, request.planId = plan.id → ∀ database identifier,
      writes database (database.addCheckpoint ((requestContent request).row plan.id identifier)))
    (runs : ∀ request : RebootRequest, request.planId = plan.id →
      Maintains invariant assertion ((orchestrator gateways targets).run request false)
        (RebootOrchestrator.Ready request assertion)) :
    Maintains invariant assertion (reboot gateways plan targets)
      fun _ world => assertion world ∧
        (world.working.journal plan.id .returnDiscovered).isSome := by
  refine .bind (request_maintains gateways plan targets keeps records) fun made => ?_
  refine .given fun isPlan => .bind (runs made isPlan) fun result => ?_
  split
  · rename_i isReady
    refine .pure fun world _ ready => ?_
    rw [← isPlan]
    exact ready isReady
  · exact .raise _ _

end HostReboot

namespace HostMaintenanceService

variable {planId : String}

/-- The assertions that carry the soundness of a journal. -/
def journalAssertions (planId : String) : Assertions where
  invariant := JournalsSound planId
  steady _ := True
  known _ _ _ _ := True
  issued _ _ _ _ := True
  rebooted plan world := (world.working.journal plan.id .returnDiscovered).isSome

theorem reboot_journal (gateways : HostRebootGateways) (plan : PlanRecord)
    (targets : List ManagedContainerTarget) :
    Maintains (JournalsSound plan.id) (fun _ => True)
      (HostReboot.reboot gateways plan targets)
      fun _ world => True ∧ (world.working.journal plan.id .returnDiscovered).isSome := by
  refine HostReboot.reboot_maintains gateways plan targets
    (fun before after step known => ⟨JournalsSound.step before after step known.1, trivial⟩)
    (fun request isPlan database identifier sound => ?_) fun request isPlan => ?_
  · exact sound.add (fun _ isOffset => by cases isOffset) (fun _ => rfl)
      (by simp [HostReboot.requestContent, CheckpointKey.journalStates])
      (fun isComplete => by cases isComplete)
  · have admits := keepsJournal_admitsRun request.planId
    rw [← isPlan]
    have kept : Maintains (JournalsSound request.planId) (fun _ => True)
        ((HostReboot.orchestrator gateways targets).run request false) fun _ _ => True :=
      journal_maintains (RebootOrchestrator.run_moves _ admits (fun _ _ => trivial) false)
    have ready : Maintains (fun _ => True) (fun _ => True)
        ((HostReboot.orchestrator gateways targets).run request false)
        (RebootOrchestrator.Ready request fun _ => True) :=
      RebootOrchestrator.run_ready _ admits.toAdmitsJournal (fun _ _ _ _ => trivial)
        (fun owner database => admits.lifecycle owner .executing database (by decide) (.inr rfl)) false
    intro world sound _
    exact ⟨(kept world sound trivial).1, (ready world trivial trivial).2⟩

theorem completes_journal (plan : PlanRecord) :
    Maintains (JournalsSound plan.id)
      (fun world => True ∧ (world.working.journal plan.id .returnDiscovered).isSome)
      (store (recordStep plan .rebootComplete none .verified [] 0)) fun _ _ => True := by
  have moves : Moves (WorldStep (fun before after : Database =>
      JournalSound plan.id before ∧ (before.journal plan.id .returnDiscovered).isSome →
        JournalSound plan.id after ∧ (after.journal plan.id .returnDiscovered).isSome)
      (fun _ _ => True) fun _ => False)
      (store (recordStep plan .rebootComplete none .verified [] 0) : Action Unit) := by
    refine .store (recordStep_moves
      (fun _ _ known => ⟨known.1.of_same rfl, known.2⟩)
      (fun _ _ _ known => ⟨known.1.of_same rfl, known.2⟩)
      fun stepId database identifier known => ⟨?_, journal_addCheckpoint_mono known.2⟩)
    exact known.1.add (fun _ isOffset => by cases isOffset) (fun isRequest => by cases isRequest)
      (by simp [stepCheckpoint, CheckpointKey.journalStates]) fun _ => known.2
  refine (Maintains.ofMovesTogether moves fun before after step known => ?_).weaken
    (fun _ _ known => known.2) fun _ _ _ _ => trivial
  cases step with
  | write allowed =>
      have kept := allowed ⟨known.1.2, known.2⟩
      exact ⟨⟨known.1.1, kept.1⟩, kept.2⟩
  | spend budget => exact known
  | send allowed => exact known
  | commit allowed => exact allowed.elim

theorem journal_issues (service : HostMaintenanceService) (planId : String) :
    Issues service (journalAssertions planId) := by
  intro plan _ _ now
  exact (journal_maintains (.store
    ((service.execution.prepare_writes _ _ _ _).mono fun _ _ write => write.keepsJournal))).weaken
      (fun _ _ known => known) fun _ _ _ _ => ⟨trivial, trivial⟩

theorem journal_carries (service : HostMaintenanceService) (planId : String) :
    Carries service planId (journalAssertions planId) where
  step before after step known :=
    ⟨JournalsSound.step before after (step.widen (fun _ _ write => write.keepsJournal)
      (fun _ _ allowed => allowed) fun _ allowed => allowed) known.1, trivial⟩
  found _ _ _ _ _ _ _ := trivial
  knownStep _ _ _ _ _ _ _ := trivial
  issuedStep _ _ _ _ _ _ _ := trivial
  claims plan targets ticket onPlan := by
    subst onPlan
    exact journal_maintains (.store (prepareAssignments_moves
      keepsJournal_admitsRelease.toAdmitsClaims _ _))
  reboots plan _ targets gateways onPlan := by
    subst onPlan
    exact (reboot_journal gateways plan targets).weaken (fun _ _ _ => trivial)
      fun _ _ _ known => known
  completes plan onPlan := by
    subst onPlan
    exact completes_journal plan
  settles plan nodeId targets runId now revision onPlan isRun := by
    subst onPlan
    have admits : AdmitsRelease plan.id (KeepsJournal plan.id) := keepsJournal_admitsRelease
    refine journal_maintains (.bind (.store ((service.execution.finalize_writes _ _ _ _).mono
      fun _ _ write => write.keepsJournal)) fun _ => ?_)
    refine .bind (.store (completeAssignments_moves admits _ _)) fun _ => .store ?_
    exact admits.toAdmitsClaims.within (transitionHostState_writes _ _ _ (by decide))
  recovers plan nodeId targets ticket onPlan := by
    subst onPlan
    exact journal_maintains (recover_moves keepsJournal_admitsRecovery _ _ _ _)

end HostMaintenanceService

/-! ### Reachable worlds -/

section Reachable

variable {planId : String}

/-- Soundness depends on what the readings see of a journal. -/
theorem JournalSound.congr {database other : Database}
    (same : database.journalOf planId = other.journalOf planId)
    (sound : JournalSound planId other) : JournalSound planId database := by
  have matched : ∀ row ∈ database.checkpoints, row.planId = planId →
      ∃ twin ∈ other.checkpoints, twin.planId = planId ∧ twin.key = row.key ∧
        twin.sequence = row.sequence ∧ twin.sideEffectState = row.sideEffectState := by
    intro row member onPlan
    have entry : (row.key, row.sequence, row.sideEffectState) ∈ other.journalOf planId := by
      rw [← same]
      exact List.mem_map.mpr ⟨row, List.mem_filter.mpr ⟨member, by simpa using onPlan⟩, rfl⟩
    obtain ⟨twin, isTwin, equal⟩ := List.mem_map.mp entry
    obtain ⟨twinMember, twinPlan⟩ := List.mem_filter.mp isTwin
    simp only [Prod.mk.injEq] at equal
    exact ⟨twin, twinMember, by simpa using twinPlan, equal⟩
  have present : ∀ key, (database.journal planId key).isSome ↔
      key ∈ (database.journalOf planId).map (·.1) := by
    intro key
    simp [Database.journal, Database.journalOf, List.find?_isSome, Function.comp_def, and_assoc]
  have presentOther : ∀ key, (other.journal planId key).isSome ↔
      key ∈ (other.journalOf planId).map (·.1) := by
    intro key
    simp [Database.journal, Database.journalOf, List.find?_isSome, Function.comp_def, and_assoc]
  refine ⟨fun row member onPlan offset isOffset => ?_, fun row member onPlan isRequest => ?_,
    fun row member onPlan => ?_, fun complete => ?_⟩
  · obtain ⟨twin, isTwin, twinPlan, sameKey, sameSequence, _⟩ := matched row member onPlan
    rw [← sameSequence]
    exact sound.numbered twin isTwin twinPlan offset (by rw [sameKey]; exact isOffset)
  · obtain ⟨twin, isTwin, twinPlan, sameKey, sameSequence, _⟩ := matched row member onPlan
    rw [← sameSequence]
    exact sound.requested twin isTwin twinPlan (by rw [sameKey]; exact isRequest)
  · obtain ⟨twin, isTwin, twinPlan, sameKey, _, sameState⟩ := matched row member onPlan
    rw [← sameState, ← sameKey]
    exact sound.states twin isTwin twinPlan
  · rw [present, same, ← presentOther] at complete ⊢
    exact sound.returned complete

/-- A journal without checkpoints is sound. -/
theorem JournalSound.of_empty {database : Database} (empty : database.journalOf planId = []) :
    JournalSound planId database :=
  JournalSound.congr (empty.trans rfl : database.journalOf planId = Database.empty.journalOf planId)
    ⟨by simp [Database.empty], by simp [Database.empty], by simp [Database.empty],
      by simp [Database.empty, Database.journal]⟩

theorem HostJournalReached.sound {world : MaintenanceWorld}
    (reached : HostJournalReached planId world) : JournalsSound planId world := by
  induction reached with
  | start empty budget => exact ⟨.of_empty empty, .of_empty empty⟩
  | perform _ service action ih =>
      exact (HostMaintenanceService.perform_carries
        (HostMaintenanceService.journal_carries service planId)
        (fun _ sound => ⟨⟨sound.1, sound.1⟩, trivial⟩) action
        (fun _ => HostMaintenanceService.journal_issues service planId) _ ih trivial).1
  | restart _ budget ih => exact ⟨ih.1, ih.1⟩
  | settle _ budget ih => exact ⟨ih.2, ih.2⟩
  | environment _ same budget ih => exact ⟨ih.1.congr same, ih.1.congr same⟩

end Reachable

/-- The three readings of an interrupted reboot agree exactly when the latest checkpoint is the
persisted request, the prepared clusters, the intent, one of the observations after it, or the
verified return. -/
theorem reboot_readings_agree_iff {plan : PlanRecord} {world : MaintenanceWorld}
    (reached : HostJournalReached plan.id world)
    (operation : plan.targetManifest.publicOperation = some "host_maintenance") :
    VerdictsAgree world.working plan ↔
      (world.working.latestCheckpoint plan.id).any fun row => row.key.agreedOn :=
  reached.sound.2.agree_iff operation

namespace HostSample

theorem perform_reached (budget : Option Nat) (action : HostWorkflowAction)
    {world : MaintenanceWorld} (reached : HostJournalReached "plan" world) :
    HostJournalReached "plan" (perform budget action world) :=
  .perform (.restart reached budget) service action

theorem stopped_reached : HostJournalReached "plan" stopped :=
  perform_reached none .stop (perform_reached none .prepare (.start rfl none))

/-- The reboot is interrupted after its first commit. -/
def interrupted : MaintenanceWorld :=
  (perform (some 9) .reboot stopped).restart none

end HostSample

open HostSample in
/-- After a whole reboot the latest checkpoint is the verified return, and the readings agree. -/
theorem reboot_readings_agree_returned :
    ((perform none .reboot stopped).working.latestCheckpoint "plan").map (·.key) =
        some .returnDiscovered ∧
      VerdictsAgree (perform none .reboot stopped).working HostSample.plan := by
  have latest : ((perform none .reboot stopped).working.latestCheckpoint "plan").map (·.key) =
      some .returnDiscovered := by decide +kernel
  obtain ⟨row, isLatest, isKey⟩ := Option.map_eq_some_iff.mp latest
  have agree : VerdictsAgree (perform none .reboot stopped).working HostSample.plan ↔
      ((perform none .reboot stopped).working.latestCheckpoint "plan").any
        fun row => row.key.agreedOn :=
    reboot_readings_agree_iff (perform_reached none .reboot stopped_reached) rfl
  refine ⟨latest, agree.mpr ?_⟩
  rw [isLatest]
  simp [isKey, CheckpointKey.agreedOn]

open HostSample in
/-- A reboot that is interrupted before it does anything remote: the startup and the workflow
recovery allow a resume, the orchestrator demands an observation of the host. -/
theorem reboot_readings_disagree_interrupted :
    HostJournalReached "plan" interrupted ∧
      (interrupted.committed.latestCheckpoint "plan").map (·.key) =
        some (.hostStep .reboot none) ∧
      startupVerdict interrupted.working HostSample.plan = ⟨true, false, false⟩ ∧
      handoffVerdict interrupted.working HostSample.plan = ⟨false, true, false⟩ ∧
      ¬ VerdictsAgree interrupted.working HostSample.plan := by
  refine ⟨.restart (perform_reached _ _ stopped_reached) none, ?_, ?_, ?_, ?_⟩
  all_goals decide +kernel

end ElKeeper
