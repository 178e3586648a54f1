import SpannerDdl.Schema.Conversion
import SpannerDdl.Text.Quoted

/-! # Building a schema statement by statement

A draft is a schema under construction. A statement is either applied as a whole or refused, and
the draft stays usable after a refusal.

* `BuildError`: why a statement is refused.
* `Draft`: the schema so far, where each table is in it by name, and the number of foreign keys
  named by the draft.
* `Draft.apply d s`: the draft after a statement, and the error if the statement was refused.
* `Draft.applyAll d ss`: the draft after statements up to the first that is refused.
-/

set_option autoImplicit false

namespace SpannerDdl

/-! ## Errors -/

/-- Why a statement is refused. A column of unknown type may be in a new table or added to one. -/
inductive BuildError where
  | unnamedTable
  | unnamedIndex
  | indexWithoutTable (index : String)
  | duplicateTable (table : String)
  | unknownTable (table : String)
  | columnType (table column : String) (isAdded : Bool) (cause : TypeFault)
  deriving DecidableEq, Repr

/-- The reason in words. -/
def BuildError.message : BuildError → String
  | .unnamedTable => "CREATE TABLE is missing a name"
  | .unnamedIndex => "CREATE INDEX is missing a name"
  | .indexWithoutTable index => "CREATE INDEX " ++ index ++ " is missing a table name"
  | .duplicateTable table => "table " ++ Text.quoted table ++ " already exists"
  | .unknownTable table => "ALTER TABLE references unknown table " ++ Text.quoted table
  | .columnType table column isAdded cause =>
    (if isAdded then "ALTER TABLE " ++ table ++ " ADD COLUMN " ++ column
      else "table " ++ table ++ " column " ++ column) ++ ": " ++ cause.message

/-- The column of a definition in the given table. -/
def ColumnDef.columnIn (c : ColumnDef) (table : String) (isAdded : Bool) :
    Except BuildError Column :=
  match c.column with
  | .ok column => .ok column
  | .error cause => .error (.columnType table c.name.name isAdded cause)

/-! ## Drafts -/

/-- A schema under construction. Each name of a table is recorded with the place of the table, and
the foreign keys that were given no name are counted. -/
structure Draft where
  tables : List Table := []
  places : List (String × Nat) := []
  foreignKeys : List ForeignKey := []
  indexes : List Index := []
  unnamedKeys : Nat := 0
  deriving DecidableEq, Repr

namespace Draft

/-- The schema so far. -/
def schema (d : Draft) : Schema where
  tables := d.tables
  foreignKeys := d.foreignKeys
  indexes := d.indexes

/-- The place recorded for a name. -/
def place? (d : Draft) (name : String) : Option Nat := d.places.lookup name

/-- The table of the given name. -/
def table? (d : Draft) (name : String) : Option Table :=
  (d.place? name).bind fun place => d.tables[place]?

/-- Changes the table at a place. -/
def changeTable (d : Draft) (place : Nat) (f : Table → Table) : Draft :=
  { d with tables := d.tables.modify place f }

/-- Adds a table under its name. -/
def addTable (d : Draft) (t : Table) : Draft :=
  { d with tables := d.tables ++ [t], places := d.places ++ [(t.name, d.tables.length)] }

/-! ## Foreign keys -/

/-- The name of a foreign key that was given none: it is made of the table and the columns, or of
the table and the number of such keys before it if there are no columns. -/
def keyName (d : Draft) (k : ForeignKey) : String :=
  let columns := "_".intercalate k.referencingColumns
  let middle := if columns == "" then "ref_" ++ toString d.unnamedKeys else columns
  k.referencingTable ++ "_" ++ middle ++ "_fk"

/-- Records a foreign key. -/
def addForeignKey (d : Draft) (k : ForeignKey) : Draft :=
  if k.name == "" then
    { d with
      foreignKeys := d.foreignKeys ++ [{ k with name := d.keyName k }]
      unnamedKeys := d.unnamedKeys + 1 }
  else { d with foreignKeys := d.foreignKeys ++ [k] }

/-- Records the foreign key of a constraint, if it states one. -/
def addConstraint (d : Draft) (owner : String) (c : TableConstraint) : Draft :=
  match c.foreignKey? owner with
  | some k => d.addForeignKey k
  | none => d

/-- Records the foreign keys of constraints in order. -/
def addConstraints (d : Draft) (owner : String) (cs : List TableConstraint) : Draft :=
  cs.foldl (fun d c => d.addConstraint owner c) d

/-- Forgets all foreign keys of the given name. -/
def dropForeignKeys (d : Draft) (name : String) : Draft :=
  if name == "" then d
  else { d with foreignKeys := d.foreignKeys.filter (·.name != name) }

/-! ## Statements -/

/-- The table of a statement, with the given columns. -/
def tableOf (t : CreateTable) (columns : List Column) : Table where
  name := t.name.name
  columns := columns
  primaryKey := t.primaryKeyNames
  interleavedIn := (t.interleaving.map fun i => i.parent.name).getD ""
  policy := t.policy.bind PolicyDef.policy?

/-- Creates a table, with its foreign keys. -/
def createTable (d : Draft) (t : CreateTable) : Draft × Option BuildError :=
  let name := t.name.name
  if name == "" then (d, some .unnamedTable)
  else if (d.place? name).isSome then (d, some (.duplicateTable name))
  else match t.columns.mapM (·.columnIn name false) with
    | .error e => (d, some e)
    | .ok columns => ((d.addConstraints name t.constraints).addTable (tableOf t columns), none)

/-- The table without the given column, which also leaves the primary key. -/
def dropColumn (name : String) (t : Table) : Table :=
  if name == "" then t
  else
    { t with
      columns := t.columns.filter (·.name != name)
      primaryKey := t.primaryKey.filter (· != name) }

/-- Changes the table of a name, which is at the given place, or its foreign keys. -/
def alter (d : Draft) (name : String) (place : Nat) : Alteration → Draft × Option BuildError
  | .addColumn c _ =>
    match c.columnIn name true with
    | .error e => (d, some e)
    | .ok column =>
      (d.changeTable place fun t => { t with columns := t.columns ++ [column] }, none)
  | .addConstraint c => (d.addConstraint name c, none)
  | .dropColumn column => (d.changeTable place (dropColumn column.name), none)
  | .dropConstraint constraint => (d.dropForeignKeys constraint.name, none)
  | .setInterleaving parent _ =>
    (d.changeTable place fun t => { t with interleavedIn := parent.name }, none)
  | .addPolicy p => (d.changeTable place fun t => { t with policy := p.policy? }, none)
  | .replacePolicy p => (d.changeTable place fun t => { t with policy := p.policy? }, none)
  | .dropPolicy => (d.changeTable place fun t => { t with policy := none }, none)
  | .alterColumn _ _ => (d, none)
  | .setOnDelete _ => (d, none)
  | .setOptions _ => (d, none)
  | .other _ => (d, none)

/-- Applies an alteration to the table it names. -/
def alterTable (d : Draft) (name : Path) (change : Alteration) : Draft × Option BuildError :=
  match d.place? name.name with
  | some place => d.alter name.name place change
  | none => (d, some (.unknownTable name.name))

/-- The index of a statement. -/
def indexOf (i : CreateIndex) : Index where
  name := i.name.name
  table := i.table.name
  columns := i.keys.map KeyPart.indexKey
  storing := (i.storing.map identNames).getD []
  interleavedIn := (i.interleaveIn.map Ident.name).getD ""
  isUnique := i.unique
  isNullFiltered := i.nullFiltered

/-- Creates an index. -/
def createIndex (d : Draft) (i : CreateIndex) : Draft × Option BuildError :=
  if i.name.name == "" then (d, some .unnamedIndex)
  else if i.table.name == "" then (d, some (.indexWithoutTable i.name.name))
  else ({ d with indexes := d.indexes ++ [indexOf i] }, none)

/-- The draft after a statement, and the error if the statement was refused. -/
def apply (d : Draft) : Statement → Draft × Option BuildError
  | .createTable t => d.createTable t
  | .alterTable name change => d.alterTable name change
  | .createIndex i => d.createIndex i
  | .other _ _ => (d, none)

/-- The draft after statements up to the first that is refused, and its error. -/
def applyAll (d : Draft) : List Statement → Draft × Option BuildError
  | [] => (d, none)
  | s :: ss =>
    match d.apply s with
    | (d', none) => d'.applyAll ss
    | (d', some e) => (d', some e)

end Draft

/-- The schema that the statements build. -/
def Schema.ofStatements (ss : List Statement) : Except BuildError Schema :=
  match Draft.applyAll {} ss with
  | (d, none) => .ok d.schema
  | (_, some e) => .error e

end SpannerDdl
