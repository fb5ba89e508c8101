import ElKeeper.Results
import ElKeeper.Savepoints
import Mathlib.Data.List.Sort
import Mathlib.Data.List.Perm.Subperm

/-!
# Registered migrations

The ledger of a database names the migrations it went through.  Its version is a
primary key, so a version is recorded once.  A migration works on everything but
the ledger, which the registry owns.
-/

namespace ElKeeper

namespace Migrations

open Savepoints

inductive MigrationError where
  | valueError (message : String)
  | migrationDrift (message : String)
  | sqlite (message : String)
  /-- Whatever else a callback raises. -/
  | other (message : String)
deriving DecidableEq, Repr

/-- The version, the name and the checksum that identify a migration. -/
structure Definition where
  version : Int
  name : String
  checksum : String
deriving DecidableEq, Repr

structure LedgerRow extends Definition where
  appliedAt : String
deriving DecidableEq, Repr

structure Ledger where
  rows : List LedgerRow
  /-- `version INTEGER PRIMARY KEY`. -/
  unique : (rows.map fun row => row.version).Nodup

/-- A database with its ledger, if that table exists. -/
structure Database (C : Type) where
  content : C
  ledger : Option Ledger

structure Migration (C : Type) extends Definition where
  callback : Program (Session C) MigrationError Unit

variable {C : Type}

/-- What a migration does to its database. -/
def onContent (callback : Program (Session C) MigrationError Unit) :
    Program (Session (Database C)) MigrationError Unit where
  run session :=
    let (outcome, reached) := callback.run ⟨session.data.content, session.executed⟩
    (outcome, ⟨{ session.data with content := reached.data }, reached.executed⟩)

/-! ### The registry -/

namespace MigrationRegistry

/-- `MigrationRegistry.__init__`. -/
def init (alphanumeric : Char → Bool) (tableName : String) : Except MigrationError Unit :=
  let letters := tableName.toList.filter (· ≠ '_')
  if tableName = "" ∨ letters = [] ∨ ¬ letters.all alphanumeric then
    .error (.valueError "Invalid migration table name")
  else .ok ()

variable (refuses : Nat → Database C → Option MigrationError)

def ensure : Program (Session (Database C)) MigrationError Unit :=
  write refuses fun database =>
    .ok { database with ledger := some (database.ledger.getD ⟨[], List.nodup_nil⟩) }

/-- The rows of the ledger by their versions. -/
def applied : Program (Session (Database C)) MigrationError (List LedgerRow) :=
  execute refuses fun database =>
    match database.ledger with
    | none => .error (.sqlite "no such table")
    | some ledger =>
        .ok (ledger.rows.insertionSort fun first second => first.version ≤ second.version, database)

theorem unique_append {rows : List LedgerRow} {row : LedgerRow}
    (unique : (rows.map fun row => row.version).Nodup)
    (fresh : row.version ∉ rows.map fun row => row.version) :
    ((rows ++ [row]).map fun row => row.version).Nodup := by
  rw [List.map_append, List.map_singleton, List.nodup_append]
  refine ⟨unique, List.nodup_singleton _, ?_⟩
  intro version isIn other isOther
  rw [List.mem_singleton] at isOther
  rw [isOther]
  intro same
  exact fresh (same ▸ isIn)

def record (row : LedgerRow) : Program (Session (Database C)) MigrationError Unit :=
  write refuses fun database =>
    match database.ledger with
    | none => .error (.sqlite "no such table")
    | some ledger =>
        if fresh : row.version ∉ ledger.rows.map fun row => row.version then
          .ok { database with ledger := some ⟨ledger.rows ++ [row],
            unique_append ledger.unique fresh⟩ }
        else .error (.sqlite "UNIQUE constraint failed")

end MigrationRegistry

/-! ### Upgrades -/

def versionTexts (versions : List Int) : String :=
  ", ".intercalate (versions.map toString)

/-- What `run_registered_migrations` and `install_maintenance_schema` do alike. -/
structure Upgrade (C : Type) where
  tableName : String
  /-- The text before the unknown versions. -/
  unknown : String
  drift : List Definition → List LedgerRow → Except MigrationError Unit
  migrations : List (Migration C)
  /-- What follows the migrations. -/
  finish : Program (Session C) MigrationError Unit

section Running

variable (refuses : Nat → Database C → Option MigrationError) (alphanumeric : Char → Bool)

/-- The ledger is read and compared before the first migration. -/
def prologue (tableName unknown : String)
    (drift : List Definition → List LedgerRow → Except MigrationError Unit)
    (definitions : List Definition) :
    Program (Session (Database C)) MigrationError (List LedgerRow) := do
  Program.ofExcept (MigrationRegistry.init alphanumeric tableName)
  MigrationRegistry.ensure refuses
  let applied ← MigrationRegistry.applied refuses
  let strange := (applied.map fun row => row.version).filter fun version =>
    version ∉ definitions.map fun definition => definition.version
  Program.require (strange = []) (.migrationDrift (unknown ++ versionTexts strange))
  Program.ofExcept (drift definitions applied)
  pure applied

/-- Each migration that is not in the ledger is run and recorded. -/
def applyPending (now : Int → Except MigrationError String) (applied : List LedgerRow)
    (migrations : List (Migration C)) : Program (Session (Database C)) MigrationError Unit :=
  Program.forEach migrations fun migration =>
    if migration.version ∈ applied.map fun row => row.version then pure ()
    else do
      onContent migration.callback
      let appliedAt ← Program.ofExcept (now migration.version)
      MigrationRegistry.record refuses ⟨migration.toDefinition, appliedAt⟩

def Upgrade.session (upgrade : Upgrade C) (now : Int → Except MigrationError String) :
    Program (Session (Database C)) MigrationError Unit := do
  let applied ← prologue refuses alphanumeric upgrade.tableName upgrade.unknown upgrade.drift
    (upgrade.migrations.map Migration.toDefinition)
  applyPending refuses now applied upgrade.migrations
  onContent upgrade.finish

end Running

/-! ### Comparing a ledger with the known migrations -/

/-- A comparison that finds nothing has found every row among the known migrations. -/
def SoundDrift (drift : List Definition → List LedgerRow → Except MigrationError Unit) : Prop :=
  ∀ definitions applied, drift definitions applied = .ok () →
    (∀ row ∈ applied, row.version ∈ definitions.map fun definition => definition.version) →
      ∀ row ∈ applied, row.toDefinition ∈ definitions

/-- The ledger has a version that is not known, or one with another name or checksum. -/
def Drifted (definitions : List Definition) (database : Database C) : Prop :=
  ∃ ledger, database.ledger = some ledger ∧
    ∃ row ∈ ledger.rows, row.toDefinition ∉ definitions

/-! ### Before the first migration -/

section Prologue

variable {refuses : Nat → Database C → Option MigrationError} {alphanumeric : Char → Bool}
  {tableName unknown : String}
  {drift : List Definition → List LedgerRow → Except MigrationError Unit}
  {definitions : List Definition}

/-- The ledger after it was made sure of. -/
def ensured (database : Database C) : Ledger :=
  database.ledger.getD ⟨[], List.nodup_nil⟩

end Prologue

/-! ### The migrations -/

section Running

variable {refuses : Nat → Database C → Option MigrationError} {alphanumeric : Char → Bool}
  {now : Int → Except MigrationError String} {applied : List LedgerRow}

/-- The migrations that the ledger does not have. -/
def pending (applied : List LedgerRow) (migrations : List (Migration C)) : List (Migration C) :=
  migrations.filter fun migration =>
    migration.version ∉ applied.map fun row => row.version

/-- The session has this database. -/
def Has (database : Database C) (session : Session (Database C)) : Prop :=
  session.data = database

/-- An error that a comparison raises. -/
def IsDrift (error : MigrationError) : Prop :=
  ∃ message, error = .migrationDrift message

end Running

/-! ### Calls -/

/-- What the database answers to statements on its ledger and to those of a migration. -/
structure Engine (C : Type) where
  onDatabase : Nat → Database C → Option MigrationError
  onContent : Nat → C → Option MigrationError

/-- The ways to call for an upgrade: with any answers and any clock. -/
abbrev Call (C α : Type) : Type :=
  Engine C → (Int → Except MigrationError String) →
    Program (Connection (Database C)) MigrationError α

/-- A drifted ledger is rejected alike whatever the callbacks of the migrations are, and where
nothing else fails, for its drift. -/
def Rejects {α : Type} (definitions : List Definition) (valid : Prop)
    (call : List (Migration C) → Call C α) : Prop :=
  ∀ engine now connection, Drifted definitions connection.current →
    ∃ error executed,
      (∀ migrations, migrations.map Migration.toDefinition = definitions →
        (call migrations engine now).run connection =
          (.raised error, connection.counted executed)) ∧
      (valid → (∀ executed data, engine.onDatabase executed data = none) → IsDrift error)

section Calls

variable {alphanumeric : Char → Bool} {definitions : List Definition}

/-- What an upgrade needs of its parts. -/
structure Upgrade.Sound (definitions : List Definition) (upgrade : Engine C → Upgrade C) :
    Prop where
  migrations : ∀ engine, (upgrade engine).migrations.map Migration.toDefinition = definitions
  distinct : (definitions.map fun definition => definition.version).Nodup
  drift : ∀ engine, SoundDrift (upgrade engine).drift
  /-- What follows the migrations changes nothing when it is repeated. -/
  finish : ∀ engine session after,
    (upgrade engine).finish.run session = (.returned (), after) →
      ∀ laterEngine later, later.data = after.data →
        ((upgrade laterEngine).finish.run later).2.data = later.data

end Calls

end Migrations

end ElKeeper
