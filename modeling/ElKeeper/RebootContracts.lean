import ElKeeper.Lifecycle

/-!
# Contracts of the reboot orchestration

The values exchanged with predicates, guards, the host executor and the host.
Checks that the source performs on construction are fields, so a value that
exists has passed them.  Timestamps are microseconds and always carry a zone.
-/

namespace ElKeeper

/-- `str.isspace` for one character. -/
def isSpace (character : Char) : Bool :=
  let code := character.toNat
  (9 ≤ code && code ≤ 13) || (28 ≤ code && code ≤ 32) || code == 0x85 || code == 0xA0 ||
    code == 0x1680 || (0x2000 ≤ code && code ≤ 0x200A) || code == 0x2028 || code == 0x2029 ||
    code == 0x202F || code == 0x205F || code == 0x3000

/-- `not text.strip()`. -/
def blank (text : String) : Bool :=
  text.toList.all isSpace

inductive ControlAction where
  | none
  | pause
  | cancel
deriving DecidableEq, Repr

inductive RebootOrchestrationStatus where
  | blocked
  | paused
  | cancelled
  | recoveryRequired
  | readyForPostReturn
deriving DecidableEq, Repr

inductive ExecutorDiscoveryState where
  | notFound
  | staged
  | running
  | complete
  | recoveryRequired
deriving DecidableEq, Repr

/-- The two moments at which the predicates are evaluated. -/
inductive PredicateStage where
  | prepare
  | reboot
deriving DecidableEq, Repr

structure PredicateDecision where
  identifier : String
  passed : Bool
  evidence : String
  identifier_present : blank identifier = false
  evidence_present : blank evidence = false
deriving DecidableEq

structure PredicateEvaluation where
  evaluatedAt : Nat
  decisions : List PredicateDecision
  nonempty : decisions ≠ []
  unique : (decisions.map (·.identifier)).Nodup
deriving DecidableEq

/-- `blocking_ids`. -/
def PredicateEvaluation.blockingIds (evaluation : PredicateEvaluation) : List String :=
  (evaluation.decisions.filter fun decision => !decision.passed).map (·.identifier)

structure ExecutorStageReceipt where
  operationId : String
  manifestHash : String
  acknowledged : Bool
  stagedAt : Nat
deriving DecidableEq

structure RebootInvocationReceipt where
  operationId : String
  invocationId : String
  acknowledged : Bool
  acknowledgedAt : Nat
  operationId_present : blank operationId = false
  invocationId_present : blank invocationId = false
deriving DecidableEq

structure SshDisconnectObservation where
  disconnected : Bool
  observedAt : Nat
deriving DecidableEq

structure ReconnectObservation where
  connected : Bool
  bootId : Option String
  observedAt : Nat
  boot_known : connected = true → ∃ boot, bootId = some boot ∧ boot ≠ ""
deriving DecidableEq

/-- The identity that a discovery compares with its own. -/
structure HostExecutorResult where
  operationId : String
deriving DecidableEq

structure ExecutorDiscovery where
  operationId : String
  state : ExecutorDiscoveryState
  observedAt : Nat
  result : Option HostExecutorResult
  complete_has_result : state = .complete → result.isSome
  result_matches : ∀ found ∈ result, found.operationId = operationId
deriving DecidableEq

structure HostExecutorManifest where
  operationId : String
  planId : String
  nodeId : Nat
  createdAt : Nat
  expiresAt : Nat
  preRebootBootId : String
  requiredUnits : List String
deriving DecidableEq

structure ExecutorSignature where
  keyId : String
  payloadSha256 : String
  value : String
deriving DecidableEq

structure SignedHostExecutorManifest where
  manifest : HostExecutorManifest
  signature : ExecutorSignature
deriving DecidableEq

structure RebootOrchestrationResult where
  status : RebootOrchestrationStatus
  planId : String
  operationId : String
  reasonCode : String
  bootId : Option String
  executorState : Option ExecutorDiscoveryState
deriving DecidableEq

end ElKeeper
