import ElKeeper.BatchOutcome
import ElKeeper.Results

/-!
# The configurations that a batch sends

A resource change is planned with the stored configuration and the one merged
from it.  Both directions build their payload in the same way, and the stored
configuration wins whenever it is not empty.
-/

namespace ElKeeper

open Program WorkloadStore WorkloadPayload

/-- The payload carries a configuration, with the heap sizes derived from it. -/
def Carries (policy : PayloadPolicy) (config : Dict) (payload : Payload) : Prop :=
  effectiveConfig policy payload.role config = .ok payload.config

section Resources

variable {policy : PayloadPolicy} {changes : List StagedChange} {item : StagedChange}
  {database : Database} {payload : Payload} {assignmentId revision : Nat}
  {merged previous : Dict}

end Resources

end ElKeeper
