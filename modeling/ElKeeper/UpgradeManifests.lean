import ElKeeper.PlanOrder
import ElKeeper.RedactionBarrier

/-!
# Upgrade manifests

A plan for an upgrade captures the artifact of every assignment.  The artifacts are put in
order and hashed, and a projection of them is stored within the redacted target manifest of
the plan.  What is read back is accepted only with artifacts that have the stored hash.
-/

namespace ElKeeper

open JsonText (dict setEntry)
open PyValue (Ordered canonicalValue canonicalJson redactStructure)

/-- The decimal digits, which `\d` matches and `int` reads. -/
abbrev DecimalDigits :=
  Char → Option Nat

/-- What pydantic reads as an `int`, which it also does from some other values. -/
structure LaxIntegers (F : Type) where
  read : JsonValue F → Option Int
  read_int : ∀ value, read (.int value) = some value

namespace UpgradeContracts

def numberOf (digits : DecimalDigits) (text : List Char) : Option Nat :=
  if text = [] then none
  else (text.mapM digits).map fun values =>
    values.foldl (fun number value => number * 10 + value) 0

/-- `_version`: three numbers with points between them. -/
def version (digits : DecimalDigits) (value : String) : Option (Nat × Nat × Nat) :=
  match value.toList.splitOn '.' with
  | [major, minor, patch] => do
      let major ← numberOf digits major
      let minor ← numberOf digits minor
      let patch ← numberOf digits patch
      pure (major, minor, patch)
  | _ => none

/-- `[0-9a-f]{64}`. -/
def isHash (text : List Char) : Bool :=
  text.length = 64 && text.all fun character =>
    ('0' ≤ character && character ≤ '9') || ('a' ≤ character && character ≤ 'f')

/-- The fields of an artifact as they are admitted. -/
def Admits (digits : DecimalDigits) (assignmentId nodeId : Int)
    (role image version digest : String) : Prop :=
  1 ≤ assignmentId ∧ 1 ≤ nodeId ∧ (1 ≤ role.length ∧ role.length ≤ 64) ∧
    (1 ≤ image.length ∧ image.length ≤ 512) ∧
    (digest.toList.take 7 = "sha256:".toList ∧ isHash (digest.toList.drop 7)) ∧
    (UpgradeContracts.version digits version).isSome ∧
    (':' :: version.toList) <:+ image.toList

instance (digits : DecimalDigits) (assignmentId nodeId : Int)
    (role image version digest : String) :
    Decidable (Admits digits assignmentId nodeId role image version digest) :=
  inferInstanceAs (Decidable (_ ∧ _ ∧ _ ∧ _ ∧ _ ∧ _ ∧ _))

end UpgradeContracts

open UpgradeContracts

structure UpgradeArtifact (digits : DecimalDigits) where
  assignmentId : Int
  nodeId : Int
  role : String
  image : String
  version : String
  digest : String
  valid : Admits digits assignmentId nodeId role image version digest

namespace UpgradeArtifact

variable {digits : DecimalDigits} {F : Type}

def make (digits : DecimalDigits) (assignmentId nodeId : Int)
    (role image version digest : String) : Option (UpgradeArtifact digits) :=
  if valid : Admits digits assignmentId nodeId role image version digest then
    some ⟨assignmentId, nodeId, role, image, version, digest, valid⟩
  else none

/-- `model_dump(mode="json")`. -/
def dump (artifact : UpgradeArtifact digits) : PyValue F :=
  .mapping [("assignment_id", .scalar (.int artifact.assignmentId)),
    ("node_id", .scalar (.int artifact.nodeId)), ("role", .scalar (.str artifact.role)),
    ("image", .scalar (.str artifact.image)), ("version", .scalar (.str artifact.version)),
    ("digest", .scalar (.str artifact.digest))]

/-- The same with its keys sorted. -/
def json (artifact : UpgradeArtifact digits) : JsonValue F :=
  .obj [("assignment_id", .int artifact.assignmentId), ("digest", .str artifact.digest),
    ("image", .str artifact.image), ("node_id", .int artifact.nodeId),
    ("role", .str artifact.role), ("version", .str artifact.version)]

end UpgradeArtifact

/-- A `str` is only read from a text. -/
def JsonValue.text? {F : Type} : JsonValue F → Option String
  | .str value => some value
  | _ => none

/-- `extra="forbid"`. -/
def hasOnly {F : Type} (names : List String) (entries : List (String × JsonValue F)) : Bool :=
  entries.all fun entry => entry.1 ∈ names

namespace UpgradeArtifact

variable {digits : DecimalDigits} {F : Type}

def validate (digits : DecimalDigits) (ints : LaxIntegers F) :
    JsonValue F → Option (UpgradeArtifact digits)
  | .obj entries => do
      guard (hasOnly ["assignment_id", "node_id", "role", "image", "version", "digest"] entries)
      let assignmentId ← (last? entries "assignment_id").bind ints.read
      let nodeId ← (last? entries "node_id").bind ints.read
      let role ← (last? entries "role").bind JsonValue.text?
      let image ← (last? entries "image").bind JsonValue.text?
      let version ← (last? entries "version").bind JsonValue.text?
      let digest ← (last? entries "digest").bind JsonValue.text?
      make digits assignmentId nodeId role image version digest
  | _ => none

end UpgradeArtifact

inductive ManifestError where
  | duplicateAssignments
  | invalid
  | absent
  | hashMismatch
  | artifactsMismatch
deriving DecidableEq

/-- The text of an error; what pydantic says is left to it. -/
def ManifestError.message : ManifestError → Option String
  | duplicateAssignments => some "upgrade manifest contains duplicate assignment IDs"
  | invalid => none
  | absent => some "maintenance plan has no immutable upgrade manifest"
  | hashMismatch => some "maintenance plan upgrade manifest hash mismatch"
  | artifactsMismatch => some "upgrade manifest hash does not match its artifacts"

section Manifests

variable {digits : DecimalDigits} {F : Type} (sha256 : List Char → String)

/-- `UpgradeManifestProjection`. -/
structure UpgradeManifestProjection (digits : DecimalDigits) where
  schemaVersion : Int
  manifestHash : String
  artifacts : List (UpgradeArtifact digits)
  valid : 1 ≤ schemaVersion ∧ isHash manifestHash.toList

namespace UpgradeManifestProjection

/-- `model_dump(mode="json")`. -/
def dump (projection : UpgradeManifestProjection digits) : PyValue F :=
  .mapping [("schema_version", .scalar (.int projection.schemaVersion)),
    ("manifest_hash", .scalar (.str projection.manifestHash)),
    ("artifacts", .sequence (projection.artifacts.map UpgradeArtifact.dump))]

/-- The same with its keys sorted. -/
def json (projection : UpgradeManifestProjection digits) : List (String × JsonValue F) :=
  [("artifacts", .arr (projection.artifacts.map UpgradeArtifact.json)),
    ("manifest_hash", .str projection.manifestHash),
    ("schema_version", .int projection.schemaVersion)]

/-- The version of the schema is 1 where there is none. -/
def schemaVersionOf (ints : LaxIntegers F) : Option (JsonValue F) → Option Int
  | some value => ints.read value
  | none => some 1

def artifactsOf (digits : DecimalDigits) (ints : LaxIntegers F) :
    Option (JsonValue F) → Option (List (UpgradeArtifact digits))
  | some (.arr items) => items.mapM (UpgradeArtifact.validate digits ints)
  | _ => none

/-- `model_validate` of a mapping. -/
def validate (digits : DecimalDigits) (ints : LaxIntegers F)
    (entries : List (String × JsonValue F)) : Option (UpgradeManifestProjection digits) := do
  guard (hasOnly ["schema_version", "manifest_hash", "artifacts"] entries)
  let schemaVersion ← schemaVersionOf ints (last? entries "schema_version")
  let manifestHash ← (last? entries "manifest_hash").bind JsonValue.text?
  let artifacts ← artifactsOf digits ints (last? entries "artifacts")
  if valid : 1 ≤ schemaVersion ∧ isHash manifestHash.toList then
    some ⟨schemaVersion, manifestHash, artifacts, valid⟩
  else none

end UpgradeManifestProjection

theorem UpgradeArtifact.validate_json (ints : LaxIntegers F) (artifact : UpgradeArtifact digits) :
    UpgradeArtifact.validate digits ints artifact.json = some artifact := by
  have valid := artifact.valid
  simp [UpgradeArtifact.validate, UpgradeArtifact.json, hasOnly, last?, ints.read_int,
    JsonValue.text?, UpgradeArtifact.make, valid]

theorem UpgradeArtifact.validate_items (ints : LaxIntegers F)
    (artifacts : List (UpgradeArtifact digits)) :
    (artifacts.map UpgradeArtifact.json).mapM (UpgradeArtifact.validate digits ints) =
      some artifacts := by
  induction artifacts with
  | nil => rfl
  | cons artifact artifacts ih =>
      rw [List.map_cons, List.mapM_cons, UpgradeArtifact.validate_json, ih]
      rfl

theorem UpgradeManifestProjection.validate_json (ints : LaxIntegers F)
    (projection : UpgradeManifestProjection digits) :
    UpgradeManifestProjection.validate digits ints projection.json = some projection := by
  have valid := projection.valid
  have items := UpgradeArtifact.validate_items ints projection.artifacts
  rw [List.mapM_map] at items
  simp [UpgradeManifestProjection.validate, UpgradeManifestProjection.json, hasOnly, last?,
    schemaVersionOf, artifactsOf, ints.read_int, JsonValue.text?, items, valid]

end Manifests

end ElKeeper
