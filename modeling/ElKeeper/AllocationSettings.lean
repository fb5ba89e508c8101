import ElKeeper.Coroutine
import ElKeeper.MaintenanceWorkflow

/-!
# The allocation setting of a cluster and its controller

`AllocationGuardController` captures the two layers of
`cluster.routing.allocation.enable`, sets the persistent one to `primaries` and
puts both layers back.  Every request may fail before or after it took effect,
so the controller believes only what it reads.
-/

namespace ElKeeper

/-- `ALLOCATION_ENABLE_SETTING`. -/
def allocationEnableSetting : String :=
  "cluster.routing.allocation.enable"

/-- `SettingLayerValue`: a layer is present exactly when it has a value. -/
abbrev SettingLayerValue :=
  Option String

/-- The two layers of the setting, as stored remotely and as captured. -/
structure AllocationSetting where
  persistent : SettingLayerValue
  transient : SettingLayerValue
deriving DecidableEq

namespace AllocationSetting

/-- What the cluster applies: the transient layer wins, and `all` is the default. -/
def effective (setting : AllocationSetting) : String :=
  (setting.transient.or setting.persistent).getD "all"

/-- `effective_value` of a capture, which takes a blank value for the default. -/
def effectiveValue (setting : AllocationSetting) : String :=
  match setting.transient, setting.persistent with
  | some value, _ => if value = "" then "all" else value
  | none, some value => if value = "" then "all" else value
  | none, none => "all"

end AllocationSetting

/-! ### Responses -/

namespace AllocationSetting

/-- The value at a path of nested objects. -/
def nestedValue : Json → List String → Option Json
  | value, [] => some value
  | .obj entries, segment :: rest => (Dict.get entries segment).bind (nestedValue · rest)
  | _, _ :: _ => none

/-- The segments of the setting's name. -/
def segments : List String :=
  ["cluster", "routing", "allocation", "enable"]

/-- The value of the setting in one layer, under its flat name or nested. -/
def reportedValue (layer : Dict) : Option Json :=
  match layer.get allocationEnableSetting with
  | some value => some value
  | none => nestedValue (.obj layer) segments

/-- `_layer_value`. -/
def layerValue (settings : Dict) (layerName : String) : Except Fault SettingLayerValue :=
  match (settings.get layerName).getD (.obj []) with
  | .null => .ok none
  | .obj layer =>
      match reportedValue layer with
      | none | some .null => .ok none
      | some (.str value) => .ok (some value)
      | some _ => .error ⟨.valueError,
          "Elasticsearch " ++ layerName ++ " allocation setting must be a string"⟩
  | _ => .error ⟨.valueError, "Elasticsearch " ++ layerName ++ " settings must be an object"⟩

/-- `capture_allocation_setting`. -/
def ofResponse (settings : Dict) : Except Fault AllocationSetting := do
  let persistent ← layerValue settings "persistent"
  let transient ← layerValue settings "transient"
  pure ⟨persistent, transient⟩

/-- A layer of a response reports a value: flat or nested, and an absent one by a missing or
null layer or setting. -/
inductive Reported : Option Json → SettingLayerValue → Prop where
  | missing : Reported none none
  | null : Reported (some .null) none
  | absent {layer : Dict} (reported : reportedValue layer = none) :
      Reported (some (.obj layer)) none
  | nullValue {layer : Dict} (reported : reportedValue layer = some .null) :
      Reported (some (.obj layer)) none
  | value {layer : Dict} {value : String} (reported : reportedValue layer = some (.str value)) :
      Reported (some (.obj layer)) (some value)

theorem layerValue_reported {settings : Dict} {layerName : String} {value : SettingLayerValue}
    (reported : Reported (settings.get layerName) value) :
    layerValue settings layerName = .ok value := by
  rw [layerValue]
  generalize settings.get layerName = layer at reported
  cases reported with
  | missing => rfl
  | null => rfl
  | absent reported => simp only [Option.getD_some, reported]
  | nullValue reported => simp only [Option.getD_some, reported]
  | value reported => simp only [Option.getD_some, reported]

end AllocationSetting

/-- A truthful encoding of the settings in a response. -/
structure SettingsReport where
  encode : AllocationSetting → Dict
  persistent : ∀ setting, AllocationSetting.Reported ((encode setting).get "persistent")
    setting.persistent
  transient : ∀ setting, AllocationSetting.Reported ((encode setting).get "transient")
    setting.transient

theorem SettingsReport.ofResponse (report : SettingsReport) (setting : AllocationSetting) :
    AllocationSetting.ofResponse (report.encode setting) = .ok setting := by
  simp only [AllocationSetting.ofResponse,
    AllocationSetting.layerValue_reported (report.persistent setting),
    AllocationSetting.layerValue_reported (report.transient setting), bind, Except.bind, pure,
    Except.pure]

/-! ### Requests -/

/-- A request to the settings of a cluster; a layer of a write may be left out, and `null`
removes the setting from its layer. -/
inductive SettingsRequest where
  | settings
  | putSettings (persistent transient : Option SettingLayerValue)

/-- An answer, or the category of a failure. -/
abbrev SettingsReply :=
  Except RequestErrorCategory Dict

/-- What becomes of a request. -/
inductive RequestFate where
  | answered
  | failedBefore (category : RequestErrorCategory)
  | failedAfter (category : RequestErrorCategory)

/-- The settings of the remote cluster and the number of requests that it received. -/
structure SettingsServer where
  setting : AllocationSetting
  requests : Nat

/-- How the cluster treats its requests, by their numbers. -/
structure SettingsBehaviour where
  fate : Nat → RequestFate
  report : Nat → SettingsReport

namespace AllocationSetting

/-- The settings after a write. -/
def put (setting : AllocationSetting) (persistent transient : Option SettingLayerValue) :
    AllocationSetting where
  persistent := persistent.getD setting.persistent
  transient := transient.getD setting.transient

/-- The settings after a request that took effect. -/
def apply (setting : AllocationSetting) : SettingsRequest → AllocationSetting
  | .settings => setting
  | .putSettings persistent transient => setting.put persistent transient

end AllocationSetting

/-- The answer of the cluster to a request. -/
def SettingsBehaviour.serve (behaviour : SettingsBehaviour) (request : SettingsRequest)
    (server : SettingsServer) : SettingsReply × SettingsServer :=
  match behaviour.fate server.requests with
  | .answered =>
      (.ok ((behaviour.report server.requests).encode (server.setting.apply request)),
        ⟨server.setting.apply request, server.requests + 1⟩)
  | .failedBefore category => (.error category, ⟨server.setting, server.requests + 1⟩)
  | .failedAfter category =>
      (.error category, ⟨server.setting.apply request, server.requests + 1⟩)

/-! ### Checkpoints -/

/-- `AllocationGuardCheckpoint`. -/
structure AllocationGuardCheckpoint where
  planId : String
  clusterId : Nat
  phase : AllocationGuardPhase
  captured : AllocationSetting
  observed : Option AllocationSetting
deriving DecidableEq

namespace AllocationGuardPhase

def value : AllocationGuardPhase → String
  | captured => "captured"
  | active => "active"
  | restored => "restored"
  | recoveryRequired => "recovery_required"

/-- The phase with a stored text. -/
def ofValue? (text : String) : Option AllocationGuardPhase :=
  [captured, active, restored, recoveryRequired].find? (·.value = text)

end AllocationGuardPhase

namespace AllocationSetting

def layerJson (layer : SettingLayerValue) : Json :=
  .obj [("present", .bool layer.isSome), ("value", (layer.map Json.str).getD .null)]

def toJson (setting : AllocationSetting) : Json :=
  .obj [("setting", .str allocationEnableSetting), ("persistent", layerJson setting.persistent),
    ("transient", layerJson setting.transient)]

/-- A stored layer; presence and value belong together. -/
def layerOfJson? : Option Json → Option SettingLayerValue
  | some (.obj layer) =>
      match Dict.get layer "present", Dict.get layer "value" with
      | some (.bool true), some (.str value) => some (some value)
      | some (.bool false), some .null => some none
      | _, _ => none
  | _ => none

def ofJson? : Json → Option AllocationSetting
  | .obj setting =>
      match layerOfJson? (Dict.get setting "persistent"),
          layerOfJson? (Dict.get setting "transient") with
      | some persistent, some transient => some ⟨persistent, transient⟩
      | _, _ => none
  | _ => none

end AllocationSetting

namespace AllocationGuardCheckpoint

/-- `PLAN_ID_PATTERN`. -/
def planIdMatches (planId : String) : Bool :=
  planId.toList.length = 32 &&
    planId.toList.all fun character => character.isDigit || ('a' ≤ character && character ≤ 'f')

/-- `model_dump`. -/
def toJson (checkpoint : AllocationGuardCheckpoint) : Json :=
  .obj [("plan_id", .str checkpoint.planId), ("cluster_id", .num (checkpoint.clusterId : Int)),
    ("phase", .str checkpoint.phase.value), ("captured", checkpoint.captured.toJson),
    ("observed", (checkpoint.observed.map AllocationSetting.toJson).getD .null)]

/-- The fields of `model_validate`. -/
def ofJson? : Json → Option AllocationGuardCheckpoint
  | .obj entries =>
      match Dict.get entries "plan_id", Dict.get entries "cluster_id",
          Dict.get entries "phase", Dict.get entries "captured",
          Dict.get entries "observed" with
      | some (.str planId), some (.num clusterId), some (.str phase), some captured,
          some observed =>
          match AllocationGuardPhase.ofValue? phase, AllocationSetting.ofJson? captured with
          | some phase, some captured =>
              if observed = .null then
                some ⟨planId, clusterId.num.toNat, phase, captured, none⟩
              else
                (AllocationSetting.ofJson? observed).map fun setting =>
                  ⟨planId, clusterId.num.toNat, phase, captured, some setting⟩
          | _, _ => none
      | _, _, _, _, _ => none
  | _ => none

/-- `model_validate`. -/
def validate (stored : Json) : Except Fault AllocationGuardCheckpoint :=
  match ofJson? stored with
  | some checkpoint =>
      if planIdMatches checkpoint.planId ∧ 1 ≤ checkpoint.clusterId then .ok checkpoint
      else .error ⟨.valueError, "allocation guard checkpoint is invalid"⟩
  | none => .error ⟨.valueError, "allocation guard checkpoint is invalid"⟩

end AllocationGuardCheckpoint

/-! ### Stored checkpoints -/

/-- The keys of a checkpoint are not sensitive. -/
theorem checkpoint_keys_public : ∀ key ∈ ["plan_id", "cluster_id", "phase", "captured",
    "observed", "setting", "persistent", "transient", "present", "value"],
    Json.sensitiveKey key = false := by
  decide +kernel

theorem AllocationSetting.layerOfJson?_persisted (layer : SettingLayerValue) :
    AllocationSetting.layerOfJson? (some (AllocationSetting.layerJson layer).persisted) =
      some layer := by
  have isPresent := checkpoint_keys_public "present" (by simp)
  have isValue := checkpoint_keys_public "value" (by simp)
  have ordered : "present" < "value" := by decide +kernel
  have stored : (AllocationSetting.layerJson layer).persisted =
      .obj [("present", .bool layer.isSome), ("value", (layer.map Json.str).getD .null)] := by
    cases layer <;>
      simp only [AllocationSetting.layerJson, Json.persisted, Json.redactStructure,
        Json.redactEntries, isPresent, isValue, Json.canonical, Json.canonicalEntries,
        Json.insertEntry, if_pos ordered, Option.isSome, Option.map, Option.getD] <;> rfl
  rw [stored]
  cases layer <;> simp [AllocationSetting.layerOfJson?, Dict.get, List.lookup_cons]

theorem AllocationSetting.toJson_persisted (setting : AllocationSetting) :
    setting.toJson.persisted = .obj
      [("persistent", (AllocationSetting.layerJson setting.persistent).persisted),
        ("setting", .str allocationEnableSetting),
        ("transient", (AllocationSetting.layerJson setting.transient).persisted)] := by
  have isSetting := checkpoint_keys_public "setting" (by simp)
  have isPersistent := checkpoint_keys_public "persistent" (by simp)
  have isTransient := checkpoint_keys_public "transient" (by simp)
  have first : "persistent" < "transient" := by decide +kernel
  have second : ¬ "setting" < "persistent" := by decide +kernel
  have third : "setting" < "transient" := by decide +kernel
  simp only [AllocationSetting.toJson, Json.persisted, Json.redactStructure, Json.redactEntries,
    isSetting, isPersistent, isTransient, Json.canonical, Json.canonicalEntries,
    Json.insertEntry, if_pos first, if_neg second, if_pos third, Bool.false_eq_true, if_false]

theorem AllocationSetting.ofJson?_persisted (setting : AllocationSetting) :
    AllocationSetting.ofJson? setting.toJson.persisted = some setting := by
  rw [AllocationSetting.toJson_persisted]
  simp [AllocationSetting.ofJson?, Dict.get, List.lookup_cons,
    AllocationSetting.layerOfJson?_persisted]

namespace AllocationGuardCheckpoint

theorem toJson_persisted (checkpoint : AllocationGuardCheckpoint) :
    checkpoint.toJson.persisted = .obj
      [("captured", checkpoint.captured.toJson.persisted),
        ("cluster_id", .num (checkpoint.clusterId : Int)),
        ("observed", ((checkpoint.observed.map AllocationSetting.toJson).getD .null).persisted),
        ("phase", .str checkpoint.phase.value), ("plan_id", .str checkpoint.planId)] := by
  have isPlan := checkpoint_keys_public "plan_id" (by simp)
  have isCluster := checkpoint_keys_public "cluster_id" (by simp)
  have isPhase := checkpoint_keys_public "phase" (by simp)
  have isCaptured := checkpoint_keys_public "captured" (by simp)
  have isObserved := checkpoint_keys_public "observed" (by simp)
  have observed : "captured" < "observed" := by decide +kernel
  have phase : ¬ "phase" < "captured" ∧ ¬ "phase" < "observed" := by decide +kernel
  have cluster : ¬ "cluster_id" < "captured" ∧ "cluster_id" < "observed" := by decide +kernel
  have plan : ¬ "plan_id" < "captured" ∧ ¬ "plan_id" < "cluster_id" ∧
      ¬ "plan_id" < "observed" ∧ ¬ "plan_id" < "phase" := by decide +kernel
  simp only [toJson, Json.persisted, Json.redactStructure, Json.redactEntries, isPlan, isCluster,
    isPhase, isCaptured, isObserved, Json.canonical, Json.canonicalEntries, Json.insertEntry,
    if_pos observed, if_neg phase.1, if_neg phase.2, if_neg cluster.1, if_pos cluster.2,
    if_neg plan.1, if_neg plan.2.1, if_neg plan.2.2.1, if_neg plan.2.2.2, Bool.false_eq_true,
    if_false]

theorem ofValue?_value (phase : AllocationGuardPhase) :
    AllocationGuardPhase.ofValue? phase.value = some phase := by
  cases phase <;> decide

/-- A stored checkpoint is read back as it was. -/
theorem ofJson?_persisted (checkpoint : AllocationGuardCheckpoint) :
    ofJson? checkpoint.toJson.persisted = some checkpoint := by
  rw [toJson_persisted]
  rcases checkpoint with ⟨planId, clusterId, phase, captured, observed⟩
  cases observed with
  | none =>
      have isNull : Json.null.persisted = .null := rfl
      simp [ofJson?, Dict.get, List.lookup_cons, ofValue?_value,
        AllocationSetting.ofJson?_persisted, isNull]
  | some setting =>
      have present : setting.toJson.persisted ≠ .null := by
        rw [AllocationSetting.toJson_persisted]
        intro isNull
        cases isNull
      simp [ofJson?, Dict.get, List.lookup_cons, ofValue?_value,
        AllocationSetting.ofJson?_persisted, present]

end AllocationGuardCheckpoint

/-! ### The controller -/

inductive AllocationCleanupTrigger where
  | success
  | failure
  | cancel
  | recovery
deriving DecidableEq

inductive CleanupStatus where
  | restored
  | recoveryRequired
deriving DecidableEq

/-- `AllocationGuardCleanupResult` with the check on its own fields. -/
structure AllocationGuardCleanupResult where
  status : CleanupStatus
  trigger : AllocationCleanupTrigger
  verified : Bool
  checkpoint : AllocationGuardCheckpoint
  errorCategory : Option String
  restored_verified : status = .restored → verified ∧ checkpoint.phase = .restored
  recovery_phase : status = .recoveryRequired → checkpoint.phase = .recoveryRequired

inductive ApplyStatus where
  | active
  | failed
  | recoveryRequired
deriving DecidableEq

/-- `AllocationGuardApplyResult` with the check on its own fields. -/
structure AllocationGuardApplyResult where
  status : ApplyStatus
  checkpoint : AllocationGuardCheckpoint
  cleanup : Option AllocationGuardCleanupResult
  errorCategory : Option String
  active_phase : status = .active → checkpoint.phase = .active ∧ cleanup = none
  failed_cleanup : status ≠ .active → cleanup.isSome

/-- A call of the controller or of the guard service over a shared state. -/
abbrev GuardCall (σ β : Type) :=
  Coroutine σ SettingsRequest SettingsReply Fault β

namespace AllocationGuardController

open Coroutine

variable {σ : Type}

/-- The payload of an answer, or the raised failure. -/
def payload (operation : String) : SettingsReply → GuardCall σ Dict
  | .ok answer => pure answer
  | .error category => raise ⟨.elasticsearchRequest category,
      "Elasticsearch " ++ operation ++ " failed: " ++ category.value ++ category.suffix⟩

/-- `client.settings`. -/
def settings : GuardCall σ Dict := do
  let answer ← request .settings
  payload "cluster-settings-read" answer

/-- `client.put_settings`. -/
def putSettings (persistent transient : Option SettingLayerValue) : GuardCall σ Unit := do
  let answer ← request (.putSettings persistent transient)
  let _ ← payload "cluster-settings-write" answer
  pure ()

/-- The setting as the cluster reports it now. -/
def observe : GuardCall σ AllocationSetting := do
  let response ← settings
  ofExcept (AllocationSetting.ofResponse response)

/-- `capture`. -/
def capture (planId : String) (clusterId : Nat) : GuardCall σ AllocationGuardCheckpoint := do
  let captured ← observe
  if AllocationGuardCheckpoint.planIdMatches planId ∧ 1 ≤ clusterId then
    pure ⟨planId, clusterId, .captured, captured, some captured⟩
  else raise ⟨.valueError, "allocation guard checkpoint is invalid"⟩

/-- `_recovery_result`. -/
def recoveryResult (checkpoint : AllocationGuardCheckpoint)
    (trigger : AllocationCleanupTrigger) (observed : Option AllocationSetting)
    (errorCategory : String) : AllocationGuardCleanupResult where
  status := .recoveryRequired
  trigger := trigger
  verified := false
  checkpoint := { checkpoint with phase := .recoveryRequired, observed := observed }
  errorCategory := some errorCategory
  restored_verified := nofun
  recovery_phase _ := rfl

/-- The result of a verified restoration. -/
def restoredResult (checkpoint : AllocationGuardCheckpoint)
    (trigger : AllocationCleanupTrigger) (observed : AllocationSetting)
    (requestError : Option String) : AllocationGuardCleanupResult where
  status := .restored
  trigger := trigger
  verified := true
  checkpoint := { checkpoint with phase := .restored, observed := some observed }
  errorCategory := requestError
  restored_verified _ := ⟨rfl, rfl⟩
  recovery_phase := nofun

/-- What `restore` makes of its reading. -/
def restoreEnd (checkpoint : AllocationGuardCheckpoint) (trigger : AllocationCleanupTrigger)
    (requestError : Option String) :
    Except Fault AllocationSetting → GuardCall σ AllocationGuardCleanupResult
  | .error fault =>
      match fault.kind with
      | .elasticsearchRequest category =>
          pure (recoveryResult checkpoint trigger none
            (requestError.getD ("allocation-restoration-" ++ category.value)))
      | .valueError =>
          pure (recoveryResult checkpoint trigger none
            (requestError.getD "allocation-restoration-invalid-response"))
      | _ => raise fault
  | .ok observed =>
      if observed = checkpoint.captured then
        pure (restoredResult checkpoint trigger observed requestError)
      else
        pure (recoveryResult checkpoint trigger (some observed)
          (requestError.getD "allocation-restoration-verification-failed"))

/-- The error category of the write of `restore`. -/
def restoreError : Except Fault Unit → GuardCall σ (Option String)
  | .ok _ => pure none
  | .error fault =>
      match fault.kind with
      | .elasticsearchRequest category =>
          pure (some ("allocation-restoration-" ++ category.value))
      | _ => raise fault

/-- `restore`. -/
def restore (checkpoint : AllocationGuardCheckpoint) (trigger : AllocationCleanupTrigger) :
    GuardCall σ AllocationGuardCleanupResult := do
  let written ← attempt (putSettings (some checkpoint.captured.persistent)
    (some checkpoint.captured.transient))
  let requestError ← restoreError written
  let reading ← attempt observe
  restoreEnd checkpoint trigger requestError reading

/-- The result of a failed activation after its cleanup. -/
def failedResult (cleanup : AllocationGuardCleanupResult) (errorCategory : String) :
    AllocationGuardApplyResult where
  status := if cleanup.status = .restored then .failed else .recoveryRequired
  checkpoint := cleanup.checkpoint
  cleanup := some cleanup
  errorCategory := some errorCategory
  active_phase isActive := by split at isActive <;> cases isActive
  failed_cleanup _ := rfl

/-- `_activation_failed`. -/
def activationFailed (checkpoint : AllocationGuardCheckpoint) (errorCategory : String) :
    GuardCall σ AllocationGuardApplyResult := do
  let cleanup ← restore checkpoint .failure
  pure (failedResult cleanup errorCategory)

/-- The result of a verified activation. -/
def activeResult (checkpoint : AllocationGuardCheckpoint) (observed : AllocationSetting) :
    AllocationGuardApplyResult where
  status := .active
  checkpoint := { checkpoint with phase := .active, observed := some observed }
  cleanup := none
  errorCategory := none
  active_phase _ := ⟨rfl, rfl⟩
  failed_cleanup := nofun

/-- What `activate` makes of its write and its reading. -/
def activateEnd (checkpoint : AllocationGuardCheckpoint) :
    Except Fault AllocationSetting → GuardCall σ AllocationGuardApplyResult
  | .error fault =>
      match fault.kind with
      | .elasticsearchRequest category =>
          activationFailed checkpoint ("allocation-guard-" ++ category.value)
      | _ => raise fault
  | .ok observed =>
      if observed.persistent = some "primaries" ∧ observed.effectiveValue = "primaries" then
        pure (activeResult checkpoint observed)
      else activationFailed checkpoint "allocation-guard-verification-failed"

/-- `activate`. -/
def activate (checkpoint : AllocationGuardCheckpoint) :
    GuardCall σ AllocationGuardApplyResult := do
  require (checkpoint.phase = .captured)
    ⟨.valueError, "Allocation guard activation requires a captured checkpoint"⟩
  require (checkpoint.captured.transient.all (· = "primaries"))
    ⟨.transientAllocationPrecedence,
      "A transient allocation setting would override the persistent primaries guard"⟩
  let reading ← attempt (do
    putSettings (some (some "primaries")) none
    observe)
  activateEnd checkpoint reading

end AllocationGuardController

end ElKeeper
