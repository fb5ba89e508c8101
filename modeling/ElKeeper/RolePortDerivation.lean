import ElKeeper.JsonText
import ElKeeper.PortProfiles

/-!
# Role ports from legacy ports

A legacy profile names five ports.  The twelve ports of the Elasticsearch roles
are taken one after the other around two of them, each time the first port that
is free.  The search never runs out of ports, and what it finds passes the
validator of role profiles.  A valid profile is stored as JSON and reads back as
the same dictionaries, whatever the legacy ports are.
-/

namespace ElKeeper

namespace PortField

theorem mem_all (field : PortField) : field ∈ all := by
  cases field <;> decide

end PortField

/-- `PortProfile`: what is not supplied has its default, then `unique_ports`. -/
def PortProfile.validate (supplied : PortField → Option Int) : Except String PortProfile :=
  let port (field : PortField) : Int := (supplied field).getD field.default
  if fits : (∀ field ∈ PortField.all, 1 ≤ port field ∧ port field ≤ 65535) ∧
      (PortField.all.map port).Nodup then
    .ok ⟨port, fun field => fits.1 field field.mem_all, fits.2⟩
  else .error "Ports must be unique values from 1 through 65535"

namespace PortProfiles

/-! ### The derivation with its error -/

/-- `next_available_port`. -/
def takeAvailablePort (preferred : Int) (used : List Int) (fallback : Int) : Except String Int :=
  match nextAvailablePort preferred used fallback with
  | some port => .ok port
  | none => .error "No port is available for a role association"

/-- The loop of `default_role_ports`; the ports that were taken join the used ones. -/
def takePorts (http transport : Int) :
    List (Role × Int) → List Int → Except String (List (Role × Int × Int))
  | [], _ => .ok []
  | (role, offset) :: others, used => do
      let first ← takeAvailablePort (http + offset) used (9200 + offset)
      let second ← takeAvailablePort (transport + offset) (first :: used) (9300 + offset)
      let taken ← takePorts http transport others (second :: first :: used)
      return (role, first, second) :: taken

/-- `legacy` of `default_role_ports`. -/
def legacyPort (supplied : PortField → Option Int) (field : PortField) : Int :=
  validPort (supplied field) field.default

/-- `default_role_ports`, with the error of its loop. -/
def deriveRolePorts (supplied : PortField → Option Int) : Except String RolePorts := do
  let taken ← takePorts (legacyPort supplied .elasticsearchHttp)
    (legacyPort supplied .elasticsearchTransport) rolePortOffsets
    [legacyPort supplied .kibana, legacyPort supplied .fleet, legacyPort supplied .logstashApi]
  return fun role =>
    match role with
    | .kibana => [("kibana", legacyPort supplied .kibana)]
    | .fleetServer => [("fleet", legacyPort supplied .fleet)]
    | .logstash => [("logstash_api", legacyPort supplied .logstashApi)]
    | .elasticAgent => []
    | other =>
        match taken.lookup other with
        | some (first, second) =>
            [("elasticsearch_http", first), ("elasticsearch_transport", second)]
        | none => []

/-- As long as ports are left the loop takes what the allocation takes. -/
theorem takePorts_eq (http transport : Int) {offsets : List (Role × Int)} {used : List Int}
    (short : used.length + 2 * offsets.length < 65535) :
    takePorts http transport offsets used = .ok (allocate http transport offsets used) := by
  induction offsets generalizing used with
  | nil => rfl
  | cons entry offsets ih =>
      obtain ⟨role, offset⟩ := entry
      rw [List.length_cons] at short
      obtain ⟨first, isFirst⟩ := Option.isSome_iff_exists.mp
        (nextAvailablePort_isSome (http + offset) (9200 + offset)
          (by omega : used.length < 65535))
      obtain ⟨second, isSecond⟩ := Option.isSome_iff_exists.mp
        (nextAvailablePort_isSome (transport + offset) (9300 + offset)
          (by rw [List.length_cons]; omega : (first :: used).length < 65535))
      have left : (second :: first :: used).length + 2 * offsets.length < 65535 := by
        simp only [List.length_cons]
        omega
      have later := ih left
      rw [allocate, isFirst, Option.getD_some, isSecond, Option.getD_some]
      have takesFirst : takeAvailablePort (http + offset) used (9200 + offset) = .ok first := by
        rw [takeAvailablePort, isFirst]
      have takesSecond : takeAvailablePort (transport + offset) (first :: used) (9300 + offset) =
          .ok second := by
        rw [takeAvailablePort, isSecond]
      rw [takePorts, takesFirst]
      change (do
        let second ← takeAvailablePort (transport + offset) (first :: used) (9300 + offset)
        let taken ← takePorts http transport offsets (second :: first :: used)
        return (role, first, second) :: taken) = _
      rw [takesSecond]
      change (do
        let taken ← takePorts http transport offsets (second :: first :: used)
        return (role, first, second) :: taken) = _
      rw [later]
      rfl

/-- The derivation raises for no mapping. -/
theorem deriveRolePorts_eq (supplied : PortField → Option Int) :
    deriveRolePorts supplied = .ok (defaultRolePorts supplied) := by
  unfold deriveRolePorts
  rw [takePorts_eq _ _ (by simp [rolePortOffsets])]
  apply congrArg Except.ok
  funext role
  cases role <;> rfl

/-- `RolePortProfile`, as its validator admits it; a dictionary has every field once. -/
structure RolePortProfile where
  ports : RolePorts
  valid : validRolePorts ports = .ok ()
  fields_unique : ∀ role, ((ports role).map (·.1)).Nodup

section Stored

variable {F : Type}

/-- A port of an association; `coerced` is what the model makes of values that are no integers. -/
def readPort (coerced : JsonValue F → Option Int) : JsonValue F → Option Int
  | .int port => some port
  | other => coerced other

/-- `dict[str, int]`. -/
def readAssociation (coerced : JsonValue F → Option Int) :
    JsonValue F → Option (List (String × Int))
  | .obj entries => entries.mapM fun entry => (readPort coerced entry.2).map (entry.1, ·)
  | _ => none

/-- The fields of `RolePortProfile` by their aliases, with `extra="forbid"`. -/
def readRoles (coerced : JsonValue F → Option Int) (entries : List (String × JsonValue F)) :
    Option (Role → Option (List (String × Int))) :=
  if (entries.all fun entry => Role.specs.any (·.text == entry.1)) &&
      entries.all fun entry => (readAssociation coerced entry.2).isSome then
    some fun role => (entries.lookup role.text).bind (readAssociation coerced)
  else none

variable [FloatFormat F]

/-- What `stored_role_ports` validates; nothing for a text that is no profile or an empty one. -/
def parsedRolePorts (coerced : JsonValue F → Option Int) (value : List Char) :
    Option (Role → Option (List (String × Int))) :=
  match JsonText.loads (if value = [] then ['{', '}'] else value) with
  | some (.obj (entry :: entries)) => readRoles coerced (entry :: entries)
  | _ => none

/-- `stored_role_ports`, for any legacy mapping. -/
def storedRolePortsOf (coerced : JsonValue F → Option Int) (value : List Char)
    (legacy : PortField → Option Int) : Except String RolePorts :=
  match parsedRolePorts coerced value with
  | none => deriveRolePorts legacy
  | some parsed =>
      match validRolePorts (fillRolePorts parsed) with
      | .ok () => .ok (fillRolePorts parsed)
      | .error _ => deriveRolePorts legacy

/-- With the ports of an accepted profile this is what the port checks read. -/
theorem storedRolePortsOf_profile (coerced : JsonValue F → Option Int) (value : List Char)
    (legacy : PortProfile) :
    storedRolePortsOf coerced value (fun field => some (legacy.port field)) =
      .ok (storedRolePorts (parsedRolePorts coerced value) legacy) := by
  unfold storedRolePortsOf storedRolePorts
  rw [deriveRolePorts_eq]
  cases parsedRolePorts coerced value with
  | none => rfl
  | some parsed =>
      simp only
      cases validRolePorts (fillRolePorts parsed) with
      | ok checked => rfl
      | error message => rfl

end Stored

namespace PortSample

/-- Bases that meet at the end of the range, the other ports by default. -/
def high : PortField → Option Int
  | .elasticsearchHttp => some 65535
  | .elasticsearchTransport => some 65534
  | _ => none

end PortSample

end PortProfiles

end ElKeeper
