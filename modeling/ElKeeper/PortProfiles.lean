import ElKeeper.Database
import Mathlib.Data.List.Perm.Subperm
import Mathlib.Data.List.Sort

/-!
# Port profiles

The stored profile of a cluster gives each role its ports.  A profile that does
not validate is replaced by one that is allocated from the early profile of the
cluster.  Either way no port belongs to two roles.
-/

namespace ElKeeper

/-- `PORT_FIELDS`. -/
inductive PortField where
  | elasticsearchHttp
  | elasticsearchTransport
  | kibana
  | fleet
  | logstashApi
deriving DecidableEq, Repr

namespace PortField

def name : PortField → String
  | elasticsearchHttp => "elasticsearch_http"
  | elasticsearchTransport => "elasticsearch_transport"
  | kibana => "kibana"
  | fleet => "fleet"
  | logstashApi => "logstash_api"

/-- `DEFAULT_PORTS`. -/
def default : PortField → Int
  | elasticsearchHttp => 9200
  | elasticsearchTransport => 9300
  | kibana => 5601
  | fleet => 8220
  | logstashApi => 9600

def all : List PortField :=
  [elasticsearchHttp, elasticsearchTransport, kibana, fleet, logstashApi]

end PortField

/-- `PortProfile`, as its validator admits it. -/
structure PortProfile where
  port : PortField → Int
  bounded : ∀ field, 1 ≤ port field ∧ port field ≤ 65535
  unique : (PortField.all.map port).Nodup

/-- The ports of each role by the names of their fields. -/
abbrev RolePorts :=
  Role → List (String × Int)

namespace Role

/-- The roles in the order of `ROLE_SPECS`. -/
def specs : List Role :=
  [master, hot, warm, ml, ingest, coordinating, kibana, fleetServer, logstash, elasticAgent]

theorem mem_specs (role : Role) : role ∈ specs := by
  cases role <;> decide

/-- The label of a role. -/
def label : Role → String
  | master => "Master"
  | hot => "Hot data"
  | warm => "Warm data"
  | ml => "Machine learning"
  | ingest => "Ingest"
  | coordinating => "Coordinating"
  | kibana => "Kibana"
  | fleetServer => "Fleet Server"
  | logstash => "Logstash"
  | elasticAgent => "Elastic Agent"

/-- The ports of a role. -/
def portFields : Role → List PortField
  | kibana => [.kibana]
  | fleetServer => [.fleet]
  | logstash => [.logstashApi]
  | elasticAgent => []
  | _ => [.elasticsearchHttp, .elasticsearchTransport]

end Role

namespace PortProfiles

/-! ### Allocation -/

/-- `valid_port`. -/
def validPort (value : Option Int) (fallback : Int) : Int :=
  match value with
  | some number => if 1 ≤ number ∧ number ≤ 65535 then number else fallback
  | none => fallback

/-- `range(start, 65536)`. -/
def portsFrom (start : Int) : List Int :=
  (List.range (65536 - start).toNat).map fun index : Nat => start + (index : Int)

/-- `next_available_port`, nothing when it raises. -/
def nextAvailablePort (preferred : Int) (used : List Int) (fallback : Int) : Option Int :=
  [validPort (some preferred) fallback, validPort (some fallback) 1, 1].findSome? fun start =>
    (portsFrom start).find? (· ∉ used)

/-- `ROLE_PORT_OFFSETS`. -/
def rolePortOffsets : List (Role × Int) :=
  [(.master, 0), (.hot, 1), (.warm, 2), (.ml, 3), (.ingest, 4), (.coordinating, 5)]

/-- The loop of `default_role_ports`; `next_available_port` does not raise here. -/
def allocate (http transport : Int) : List (Role × Int) → List Int → List (Role × Int × Int)
  | [], _ => []
  | (role, offset) :: others, used =>
      let first := (nextAvailablePort (http + offset) used (9200 + offset)).getD 0
      let second :=
        (nextAvailablePort (transport + offset) (first :: used) (9300 + offset)).getD 0
      (role, first, second) :: allocate http transport others (second :: first :: used)

/-- `default_role_ports`. -/
def defaultRolePorts (supplied : PortField → Option Int) : RolePorts := fun role =>
  let legacy (field : PortField) : Int := validPort (supplied field) field.default
  match role with
  | .kibana => [("kibana", legacy .kibana)]
  | .fleetServer => [("fleet", legacy .fleet)]
  | .logstash => [("logstash_api", legacy .logstashApi)]
  | .elasticAgent => []
  | other =>
      match (allocate (legacy .elasticsearchHttp) (legacy .elasticsearchTransport) rolePortOffsets
          [legacy .kibana, legacy .fleet, legacy .logstashApi]).lookup other with
      | some (first, second) =>
          [("elasticsearch_http", first), ("elasticsearch_transport", second)]
      | none => []

/-! ### Validation -/

/-- The ports of one role, given those that were seen before and their labels. -/
def checkAssociation (label : String) :
    List (String × Int) → List (Int × String) → Except String (List (Int × String))
  | [], seen => .ok seen
  | (_, port) :: others, seen =>
      if port < 1 ∨ 65535 < port then .error "Role ports must be values from 1 through 65535"
      else
        match seen.lookup port with
        | some other =>
            .error ("Role port " ++ toString port ++ " is assigned to both " ++ other ++ " and " ++
              label)
        | none => checkAssociation label others ((port, label) :: seen)

/-- The association names the ports of its role. -/
def definesExactly (ports : RolePorts) (role : Role) : Bool :=
  let names := role.portFields.map PortField.name
  (ports role).all (fun entry => entry.1 ∈ names) &&
    names.all fun name => name ∈ (ports role).map (·.1)

def checkRoles (ports : RolePorts) : List Role → List (Int × String) → Except String Unit
  | [], _ => .ok ()
  | role :: others, seen =>
      if definesExactly ports role then do
        let seen ← checkAssociation role.label (ports role) seen
        checkRoles ports others seen
      else
        let fields := ", ".intercalate (role.portFields.map PortField.name)
        .error (role.label ++ " must define exactly: " ++
          (if fields = "" then "no inbound ports" else fields))

/-- `valid_role_ports`. -/
def validRolePorts (ports : RolePorts) : Except String Unit :=
  checkRoles ports Role.specs []

/-- The associations that a stored profile leaves out. -/
def fillRolePorts (parsed : Role → Option (List (String × Int))) : RolePorts := fun role =>
  (parsed role).getD (defaultRolePorts (fun _ => none) role)

/-- `stored_role_ports`; a text that is no mapping of roles to ports is not parsed. -/
def storedRolePorts (parsed : Option (Role → Option (List (String × Int))))
    (legacy : PortProfile) : RolePorts :=
  match parsed with
  | none => defaultRolePorts fun field => some (legacy.port field)
  | some parsed =>
      match validRolePorts (fillRolePorts parsed) with
      | .ok () => fillRolePorts parsed
      | .error _ => defaultRolePorts fun field => some (legacy.port field)

/-- `role_port_values`. -/
def rolePortValues (ports : RolePorts) (role : Role) : List Int :=
  role.portFields.map fun field => ((ports role).lookup field.name).getD 0

/-- No port belongs to two roles. -/
def Distinct (ports : RolePorts) : Prop :=
  ∀ first second port, port ∈ rolePortValues ports first → port ∈ rolePortValues ports second →
    first = second

/-- The ports of the roles are listed with their roles, each port once. -/
theorem distinct_of_pairs {ports : RolePorts} (pairs : List (Role × Int))
    (unique : (pairs.map (·.2)).Nodup)
    (listed : ∀ role port, port ∈ rolePortValues ports role → (role, port) ∈ pairs) :
    Distinct ports := by
  intro first second port isFirst isSecond
  have same := List.inj_on_of_nodup_map unique (listed first port isFirst)
    (listed second port isSecond) rfl
  exact congrArg Prod.fst same

/-! ### Validated profiles -/

/-- An association that passed puts its ports before those seen, each port once. -/
theorem checkAssociation_ok {label : String} {entries : List (String × Int)}
    {seen after : List (Int × String)} (checked : checkAssociation label entries seen = .ok after) :
    (after.map (·.1)).Perm (entries.map (·.2) ++ seen.map (·.1)) ∧
      ((seen.map (·.1)).Nodup → (after.map (·.1)).Nodup) := by
  induction entries generalizing seen with
  | nil =>
      cases checked
      exact ⟨.refl _, id⟩
  | cons entry entries ih =>
      rw [checkAssociation] at checked
      split at checked
      · cases checked
      · split at checked
        · cases checked
        · rename_i unseen
          obtain ⟨listed, unique⟩ := ih checked
          refine ⟨listed.trans ?_, fun seenUnique => unique ?_⟩
          · simp only [List.map_cons, List.cons_append]
            exact List.perm_middle
          · rw [List.map_cons]
            refine List.nodup_cons.mpr ⟨fun member => ?_, seenUnique⟩
            obtain ⟨other, otherSeen, same⟩ := List.mem_map.mp member
            have differs := List.lookup_eq_none_iff.mp unseen other otherSeen
            simp [same] at differs

/-- The ports of roles that passed are distinct, and each role has its own fields. -/
theorem checkRoles_ok {ports : RolePorts} {roles : List Role} {seen : List (Int × String)}
    (checked : checkRoles ports roles seen = .ok ()) (unique : (seen.map (·.1)).Nodup) :
    ((roles.flatMap fun role => (ports role).map (·.2)) ++ seen.map (·.1)).Nodup ∧
      ∀ role ∈ roles, definesExactly ports role := by
  induction roles generalizing seen with
  | nil => exact ⟨by simpa using unique, by simp⟩
  | cons role roles ih =>
      rw [checkRoles] at checked
      split at checked
      · rename_i exactly
        cases association : checkAssociation role.label (ports role) seen with
        | error message =>
            rw [association] at checked
            cases checked
        | ok after =>
            rw [association] at checked
            obtain ⟨listed, kept⟩ := checkAssociation_ok association
            obtain ⟨distinct, others⟩ := ih checked (kept unique)
            constructor
            · have together := (List.Perm.append_left _ listed).nodup distinct
              refine (List.Perm.nodup_iff ?_).mpr together
              rw [List.flatMap_cons, List.append_assoc]
              exact List.perm_append_comm_assoc _ _ _
            · intro other member
              rcases List.mem_cons.mp member with isRole | later
              · rw [isRole]
                exact exactly
              · exact others other later
      · cases checked

/-- The port of a field that is there is one of the association. -/
theorem lookup_mem {entries : List (String × Int)} {name : String}
    (defined : name ∈ entries.map (·.1)) :
    (entries.lookup name).getD 0 ∈ entries.map (·.2) := by
  induction entries with
  | nil => cases defined
  | cons entry entries ih =>
      obtain ⟨other, port⟩ := entry
      rw [List.lookup_cons]
      by_cases same : name = other
      · simp [same]
      · have later : name ∈ entries.map (·.1) := by simpa [same] using defined
        have differs : (name == other) = false := by simpa using same
        rw [differs]
        exact List.mem_cons_of_mem _ (ih later)

theorem validRolePorts_distinct {ports : RolePorts} (valid : validRolePorts ports = .ok ()) :
    Distinct ports := by
  obtain ⟨unique, exactly⟩ := checkRoles_ok valid (by simp)
  refine distinct_of_pairs
    (Role.specs.flatMap fun role => (ports role).map fun entry => (role, entry.2)) ?_ ?_
  · simpa [List.map_flatMap, Function.comp_def] using unique
  · intro role port isPort
    obtain ⟨field, isField, rfl⟩ := List.mem_map.mp isPort
    have defines := exactly role (Role.mem_specs role)
    rw [definesExactly, Bool.and_eq_true, List.all_eq_true, List.all_eq_true] at defines
    have defined := of_decide_eq_true (defines.2 field.name (List.mem_map_of_mem isField))
    obtain ⟨entry, member, isEntry⟩ := List.mem_map.mp (lookup_mem defined)
    refine List.mem_flatMap.mpr ⟨role, Role.mem_specs role, List.mem_map.mpr ⟨entry, member, ?_⟩⟩
    rw [← isEntry]

/-! ### Allocated profiles -/

theorem nextAvailablePort_fresh {preferred fallback port : Int} {used : List Int}
    (found : nextAvailablePort preferred used fallback = some port) : port ∉ used := by
  obtain ⟨start, _, isFound⟩ := List.exists_of_findSome?_eq_some found
  simpa using List.find?_some isFound

/-- A port is found as long as not all of them are used. -/
theorem nextAvailablePort_isSome (preferred fallback : Int) {used : List Int}
    (short : used.length < 65535) : (nextAvailablePort preferred used fallback).isSome := by
  rw [nextAvailablePort, List.findSome?_isSome_iff]
  refine ⟨1, by simp, ?_⟩
  by_contra exhausted
  have allUsed : ∀ port ∈ portsFrom 1, port ∈ used := by
    simpa [List.find?_isSome] using exhausted
  have distinct : (portsFrom 1).Nodup := by
    rw [portsFrom]
    exact List.nodup_range.map fun first second same => by omega
  have count : (portsFrom 1).length = 65535 := by
    rw [portsFrom, List.length_map, List.length_range]
    omega
  have bounded := (List.subperm_of_subset distinct allUsed).length_le
  omega

/-- The ports of allocated roles. -/
def allocatedPorts (allocated : List (Role × Int × Int)) : List Int :=
  allocated.flatMap fun entry => [entry.2.1, entry.2.2]

theorem allocate_roles (http transport : Int) (offsets : List (Role × Int)) (used : List Int) :
    (allocate http transport offsets used).map (·.1) = offsets.map (·.1) := by
  induction offsets generalizing used with
  | nil => rfl
  | cons entry offsets ih =>
      rw [allocate, List.map_cons, List.map_cons, ih]

/-- Allocated ports are new, each of them once. -/
theorem allocate_nodup (http transport : Int) {offsets : List (Role × Int)} {used : List Int}
    (unique : used.Nodup) (short : used.length + 2 * offsets.length < 65535) :
    (allocatedPorts (allocate http transport offsets used) ++ used).Nodup := by
  induction offsets generalizing used with
  | nil => exact unique
  | cons entry offsets ih =>
      obtain ⟨role, offset⟩ := entry
      rw [List.length_cons] at short
      obtain ⟨first, isFirst⟩ := Option.isSome_iff_exists.mp
        (nextAvailablePort_isSome (http + offset) (9200 + offset)
          (by omega : used.length < 65535))
      obtain ⟨second, isSecond⟩ := Option.isSome_iff_exists.mp
        (nextAvailablePort_isSome (transport + offset) (9300 + offset)
          (by rw [List.length_cons]; omega : (first :: used).length < 65535))
      have firstFresh := nextAvailablePort_fresh isFirst
      have secondFresh := nextAvailablePort_fresh isSecond
      have bothUnique : (second :: first :: used).Nodup :=
        List.nodup_cons.mpr ⟨secondFresh, List.nodup_cons.mpr ⟨firstFresh, unique⟩⟩
      have later := ih bothUnique (by simp only [List.length_cons]; omega)
      rw [allocate, isFirst, Option.getD_some, isSecond, Option.getD_some]
      refine (List.Perm.nodup_iff ?_).mpr later
      rw [allocatedPorts, List.flatMap_cons]
      refine .trans ?_ List.perm_middle.symm
      refine .trans (.swap _ _ _) (.cons _ ?_)
      exact List.perm_middle.symm

theorem validPort_of_bounded {number fallback : Int} (bounded : 1 ≤ number ∧ number ≤ 65535) :
    validPort (some number) fallback = number :=
  if_pos bounded

/-- The allocation that a profile leads to. -/
def allocation (profile : PortProfile) : List (Role × Int × Int) :=
  allocate (profile.port .elasticsearchHttp) (profile.port .elasticsearchTransport) rolePortOffsets
    [profile.port .kibana, profile.port .fleet, profile.port .logstashApi]

theorem validPort_profile (profile : PortProfile) (field : PortField) :
    validPort (some (profile.port field)) field.default = profile.port field :=
  if_pos (profile.bounded field)

/-- An Elasticsearch role gets the ports that were allocated for it. -/
theorem defaultRolePorts_allocated (profile : PortProfile) {role : Role}
    (isRole : role ∈ rolePortOffsets.map (·.1)) :
    ∃ first second, (role, first, second) ∈ allocation profile ∧
      defaultRolePorts (fun field => some (profile.port field)) role =
        [("elasticsearch_http", first), ("elasticsearch_transport", second)] := by
  have listed : ∃ entry ∈ allocation profile, role == entry.1 := by
    rw [← allocate_roles] at isRole
    obtain ⟨entry, member, isEntry⟩ := List.mem_map.mp isRole
    exact ⟨entry, member, by simp [isEntry]⟩
  obtain ⟨⟨first, second⟩, found⟩ :=
    Option.isSome_iff_exists.mp (List.lookup_isSome_iff.mpr listed)
  obtain ⟨before, after, split, _⟩ := List.lookup_eq_some_iff.mp found
  refine ⟨first, second, by rw [split]; simp, ?_⟩
  rw [allocation] at found
  cases role <;>
    simp_all [defaultRolePorts, validPort_profile, rolePortOffsets]

/-- The services of a profile with their ports. -/
def servicePorts (profile : PortProfile) : List (Role × Int) :=
  [(.kibana, profile.port .kibana), (.fleetServer, profile.port .fleet),
    (.logstash, profile.port .logstashApi)]

/-- The default ports of a profile are distinct. -/
theorem defaultRolePorts_distinct (profile : PortProfile) :
    Distinct (defaultRolePorts fun field => some (profile.port field)) := by
  have servicesUnique : ((servicePorts profile).map (·.2)).Nodup := by
    refine profile.unique.sublist ?_
    exact ((List.Sublist.refl _).cons _).cons _
  have unique : (allocatedPorts (allocation profile) ++ (servicePorts profile).map (·.2)).Nodup :=
    allocate_nodup _ _ servicesUnique (by simp [rolePortOffsets])
  refine distinct_of_pairs
    (((allocation profile).flatMap fun entry => [(entry.1, entry.2.1), (entry.1, entry.2.2)]) ++
      servicePorts profile) ?_ ?_
  · rw [List.map_append, List.map_flatMap]
    exact unique
  · intro role port isPort
    by_cases isAllocated : role ∈ rolePortOffsets.map (·.1)
    · obtain ⟨first, second, member, isRole⟩ := defaultRolePorts_allocated profile isAllocated
      have isOne : port = first ∨ port = second := by
        rw [rolePortValues, isRole] at isPort
        cases role <;> simp [rolePortOffsets] at isAllocated <;>
          simpa [Role.portFields, PortField.name, List.lookup_cons] using isPort
      refine List.mem_append_left _ (List.mem_flatMap.mpr ⟨_, member, ?_⟩)
      rcases isOne with isFirst | isSecond
      · simp [isFirst]
      · simp [isSecond]
    · refine List.mem_append_right _ ?_
      cases role <;>
        simp_all [rolePortOffsets, rolePortValues, Role.portFields, PortField.name, List.lookup_cons,
          defaultRolePorts, servicePorts, validPort_profile]

/-- No port of a stored profile belongs to two roles. -/
theorem storedRolePorts_distinct (parsed : Option (Role → Option (List (String × Int))))
    (legacy : PortProfile) : Distinct (storedRolePorts parsed legacy) := by
  cases parsed with
  | none => exact defaultRolePorts_distinct legacy
  | some parsed =>
      simp only [storedRolePorts]
      cases valid : validRolePorts (fillRolePorts parsed) with
      | ok value => exact validRolePorts_distinct valid
      | error message => exact defaultRolePorts_distinct legacy

end PortProfiles

end ElKeeper
