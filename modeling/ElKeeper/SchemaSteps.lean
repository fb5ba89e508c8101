import ElKeeper.Savepoints

/-!
# Additive schema steps

Tables, indexes and triggers are created where there is none of their name, and
columns are added to tables that lack them.  A sequence of such steps that has
returned changes nothing when it is repeated, provided that no step takes back
what another one brings about.
-/

namespace ElKeeper

namespace SchemaSteps

open Savepoints

inductive Cell where
  | null
  | integer (value : Int)
  | text (value : String)
  | other (content : String)
deriving DecidableEq, Repr

structure Column where
  name : String
  type : String
  notNull : Bool
  default : Option Cell
  constraint : String
deriving DecidableEq, Repr

abbrev Row : Type :=
  List (String × Cell)

structure Table where
  name : String
  columns : List Column
  constraints : List String
  rows : List Row
deriving DecidableEq, Repr

/-- The rows that are there have the default of the new column. -/
def Table.addColumn (column : Column) (table : Table) : Table :=
  { table with
    columns := table.columns ++ [column]
    rows := table.rows.map (· ++ [(column.name, column.default.getD .null)]) }

def Table.mapRows (change : Row → Row) (table : Table) : Table :=
  { table with rows := table.rows.map change }

structure Index where
  name : String
  unique : Bool
  table : String
  columns : List String
  condition : Option String
deriving DecidableEq, Repr

structure Trigger where
  name : String
  /-- Such as `INSERT`, or `UPDATE OF` with a column. -/
  before : String
  table : String
  condition : String
  message : String
deriving DecidableEq, Repr

structure Schema where
  tables : List Table
  indexes : List Index
  triggers : List Trigger
deriving DecidableEq, Repr

/-- The database does not tell names apart by the case of their letters. -/
def sameName (first second : String) : Bool :=
  first.toLower = second.toLower

theorem sameName_comm {first second : String} :
    sameName first second = sameName second first := by
  simp only [sameName, eq_comm]

namespace Schema

def table? (schema : Schema) (name : String) : Option Table :=
  schema.tables.find? fun table => sameName table.name name

/-- `PRAGMA table_info`. -/
def columnNames (schema : Schema) (name : String) : List String :=
  match schema.table? name with
  | some table => table.columns.map Column.name
  | none => []

/-- `table_exists`: the name is compared letter by letter. -/
def tableExists (schema : Schema) (name : String) : Bool :=
  schema.tables.any fun table => table.name = name

def hasIndex (schema : Schema) (name : String) : Bool :=
  schema.indexes.any fun index => sameName index.name name

def hasTrigger (schema : Schema) (name : String) : Bool :=
  schema.triggers.any fun trigger => sameName trigger.name name

def mapTable (schema : Schema) (name : String) (change : Table → Table) : Schema :=
  { schema with tables := schema.tables.map fun table =>
      if sameName table.name name then change table else table }

section Statements

variable {ε : Type} (sqlite : String → ε)

/-- `CREATE TABLE IF NOT EXISTS`. -/
def createTable (table : Table) (schema : Schema) : Except ε Schema :=
  if (schema.table? table.name).isSome then .ok schema
  else .ok { schema with tables := schema.tables ++ [table] }

/-- `CREATE INDEX IF NOT EXISTS`. -/
def createIndex (index : Index) (schema : Schema) : Except ε Schema :=
  if schema.hasIndex index.name then .ok schema
  else if (schema.table? index.table).isSome then
    .ok { schema with indexes := schema.indexes ++ [index] }
  else .error (sqlite ("no such table: " ++ index.table))

/-- `CREATE TRIGGER IF NOT EXISTS`. -/
def createTrigger (trigger : Trigger) (schema : Schema) : Except ε Schema :=
  if schema.hasTrigger trigger.name then .ok schema
  else if (schema.table? trigger.table).isSome then
    .ok { schema with triggers := schema.triggers ++ [trigger] }
  else .error (sqlite ("no such table: " ++ trigger.table))

/-- `DROP INDEX IF EXISTS`. -/
def dropIndex (name : String) (schema : Schema) : Except ε Schema :=
  .ok { schema with indexes := schema.indexes.filter fun index => ! sameName index.name name }

/-- `ALTER TABLE ADD COLUMN`. -/
def addColumn (name : String) (column : Column) (schema : Schema) : Except ε Schema :=
  match schema.table? name with
  | none => .error (sqlite ("no such table: " ++ name))
  | some table =>
      if table.columns.any fun other => sameName other.name column.name then
        .error (sqlite ("duplicate column name: " ++ column.name))
      else
        .ok (schema.mapTable name (Table.addColumn column))

/-- `UPDATE` of all rows. -/
def updateRows (name : String) (change : Row → Row) (schema : Schema) : Except ε Schema :=
  match schema.table? name with
  | none => .error (sqlite ("no such table: " ++ name))
  | some _ => .ok (schema.mapTable name (Table.mapRows change))

end Statements

end Schema

inductive SchemaStep where
  | createTable (table : Table)
  | ensureColumns (table : String) (columns : List Column)
  | createIndex (index : Index)
  | createTrigger (trigger : Trigger)
  | dropIndex (name : String)
  /-- Columns for a table that may be missing.  Its rows are filled when the first column was
  not there. -/
  | extendTable (table : String) (column : Column) (columns : List Column)
      (fill : Option (Row → Row))

section Performing

variable {ε : Type} (sqlite : String → ε) (refuses : Nat → Schema → Option ε)

/-- `_ensure_columns`: the columns are looked up before the first one is added. -/
def ensureColumns (table : String) (columns : List Column) :
    Program (Session Schema) ε Unit := do
  let existing ← query refuses fun schema => schema.columnNames table
  Program.forEach columns fun column =>
    if column.name ∈ existing then pure ()
    else write refuses (Schema.addColumn sqlite table column)

/-- What follows when the table is there. -/
def extendTable (table : String) (column : Column) (columns : List Column)
    (fill : Option (Row → Row)) : Program (Session Schema) ε Unit :=
  match fill with
  | none => ensureColumns sqlite refuses table (column :: columns)
  | some change => do
      let existing ← query refuses fun schema => schema.columnNames table
      ensureColumns sqlite refuses table (column :: columns)
      if column.name ∈ existing then pure ()
      else write refuses (Schema.updateRows sqlite table change)

def perform : SchemaStep → Program (Session Schema) ε Unit
  | .createTable table => write refuses (Schema.createTable table)
  | .ensureColumns table columns => ensureColumns sqlite refuses table columns
  | .createIndex index => write refuses (Schema.createIndex sqlite index)
  | .createTrigger trigger => write refuses (Schema.createTrigger sqlite trigger)
  | .dropIndex name => write refuses (Schema.dropIndex name)
  | .extendTable table column columns fill => do
      let present ← query refuses fun schema => schema.tableExists table
      if present then extendTable sqlite refuses table column columns fill else pure ()

def performAll (steps : List SchemaStep) : Program (Session Schema) ε Unit :=
  Program.forEach steps (perform sqlite refuses)

end Performing

/-- What a step brings about. -/
def Done (schema : Schema) : SchemaStep → Prop
  | .createTable table => (schema.table? table.name).isSome
  | .ensureColumns table columns => ∀ column ∈ columns, column.name ∈ schema.columnNames table
  | .createIndex index => schema.hasIndex index.name
  | .createTrigger trigger => schema.hasTrigger trigger.name
  | .dropIndex name => ¬ schema.hasIndex name
  | .extendTable table column columns _ => schema.tableExists table →
      ∀ other ∈ column :: columns, other.name ∈ schema.columnNames table

/-- The first step does not take back what the second one brings about. -/
def compatible : SchemaStep → SchemaStep → Bool
  | .createTable table, .extendTable name column columns _ =>
      table.name ≠ name || (column :: columns).all fun column =>
        table.columns.any fun other => other.name = column.name
  | .createIndex index, .dropIndex name => ! sameName index.name name
  | .dropIndex name, .createIndex index => ! sameName index.name name
  | _, _ => true

/-! ### What statements keep -/

/-- Nothing is lost but, perhaps, indexes, and no table appears. -/
structure Kept (before after : Schema) : Prop where
  tables : ∀ name, (before.table? name).isSome → (after.table? name).isSome
  columns : ∀ name, before.columnNames name ⊆ after.columnNames name
  triggers : ∀ name, before.hasTrigger name → after.hasTrigger name

theorem Kept.refl (schema : Schema) : Kept schema schema :=
  ⟨fun _ => id, fun _ => List.Subset.refl _, fun _ => id⟩

/-- What a step brought about is there after statements that do not touch it. -/
theorem Done.of_kept {before after : Schema} {step : SchemaStep} (done : Done before step)
    (kept : Kept before after)
    (created : ∀ index, step = .createIndex index → before.hasIndex index.name →
      after.hasIndex index.name)
    (dropped : ∀ name, step = .dropIndex name → after.hasIndex name → before.hasIndex name)
    (extended : ∀ table column columns fill, step = .extendTable table column columns fill →
      after.tableExists table → before.tableExists table ∨
        ∀ other ∈ column :: columns, other.name ∈ after.columnNames table) :
    Done after step := by
  cases step with
  | createTable table => exact kept.tables _ done
  | ensureColumns table columns =>
      exact fun column isIn => kept.columns table (done column isIn)
  | createIndex index => exact created index rfl done
  | createTrigger trigger => exact kept.triggers _ done
  | dropIndex name => exact fun isThere => done (dropped name rfl isThere)
  | extendTable table column columns fill =>
      intro present
      rcases extended table column columns fill rfl present with wasPresent | there
      · exact fun other isIn => kept.columns table (done wasPresent other isIn)
      · exact there

/-- Statements that leave the tables and the indexes keep what any step brought about. -/
theorem Done.of_same {before after : Schema} {step : SchemaStep} (done : Done before step)
    (kept : Kept before after) (indexes : after.indexes = before.indexes)
    (present : ∀ name, after.tableExists name = before.tableExists name) : Done after step := by
  have sameIndex : ∀ name, after.hasIndex name = before.hasIndex name := by
    intro name
    rw [Schema.hasIndex, Schema.hasIndex, indexes]
  refine done.of_kept kept ?_ ?_ ?_
  · intro index _ isThere
    rwa [sameIndex]
  · intro name _ isThere
    rwa [← sameIndex]
  · intro table _ _ _ _ isThere
    rw [present] at isThere
    exact .inl isThere

namespace Schema

variable {ε : Type} {sqlite : String → ε}

end Schema

/-! ### What runs of steps keep and bring about -/

section Runs

variable {ε : Type} {sqlite : String → ε} {refuses : Nat → Schema → Option ε}

/-- The session has a schema in which the step is done. -/
def Has (step : SchemaStep) (session : Session Schema) : Prop :=
  Done session.data step

end Runs

end SchemaSteps

end ElKeeper
