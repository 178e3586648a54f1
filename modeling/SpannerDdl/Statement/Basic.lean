/-! # DDL statements

The statements that shape a schema, as trees. A tree may be incomplete: a name, a type or a number
that ought to be there can be `missing`.

* `Ident`, `Path`: names and dotted names.
* `IntValue`, `ColumnType`: sizes and declared types.
* `ColumnDef`, `KeyPart`, `TableConstraint`, `Interleaving`, `PolicyDef`: the parts of a table.
* `CreateTable`, `Alteration`, `CreateIndex`, `Statement`: the statements.
-/

set_option autoImplicit false

namespace SpannerDdl

/-! ## Names -/

/-- An identifier. -/
inductive Ident where
  | named (name : String)
  | missing
  deriving DecidableEq, Repr

/-- The text of an identifier, empty for a missing one. -/
def Ident.name : Ident → String
  | .named name => name
  | .missing => ""

@[simp] theorem Ident.name_named (name : String) : (Ident.named name).name = name := rfl

@[simp] theorem Ident.name_missing : Ident.missing.name = "" := rfl

/-- A dotted name such as `Users` or `analytics.Events`; an empty one stands for a missing name. -/
structure Path where
  idents : List Ident := []
  deriving DecidableEq, Repr

/-- The identifiers with points between them. -/
def Path.name (p : Path) : String := ".".intercalate (p.idents.map Ident.name)

/-! ## Values and types -/

/-- A size or a number of days: a number, a parameter such as `@size`, or a cast of either. A value
of an `unknown` kind has no form in SQL. -/
inductive IntValue where
  | literal (value : String)
  | param (name : String)
  | cast (value : IntValue)
  | unknown
  | missing
  deriving DecidableEq, Repr

/-- A declared column type. A sized type is `STRING(36)` or `BYTES(MAX)`; a named type refers to a
protocol buffer or an enumeration by its path. A type of a kind that the grammar does not know is
given by its SQL text, if it has one. -/
inductive ColumnType where
  | scalar (name : String)
  | sized (name : String) (max : Bool) (size : IntValue)
  | array (item : ColumnType) (vectorLength : IntValue)
  | named (path : List Ident)
  | custom (sql? : Option String)
  | missing
  deriving DecidableEq, Repr

/-! ## Parts of a table -/

/-- The direction of a key column. -/
inductive Direction where
  | asc
  | desc
  deriving DecidableEq, Repr

/-- The keyword of a direction. -/
def Direction.keyword : Direction → String
  | .asc => "ASC"
  | .desc => "DESC"

/-- A column definition; the texts of the default and of the generating expression are empty if
there is none. -/
structure ColumnDef where
  name : Ident
  type : ColumnType
  notNull : Bool := false
  primaryKey : Bool := false
  isHidden : Bool := false
  defaultSql : String := ""
  generatedSql : String := ""
  deriving DecidableEq, Repr

/-- A column of a primary key or an index. -/
structure KeyPart where
  name : Ident
  direction : Option Direction := none
  deriving DecidableEq, Repr

/-- What happens to rows whose parent or referenced row is deleted. -/
inductive OnDelete where
  | unspecified
  | cascade
  | noAction
  deriving DecidableEq, Repr

/-- The keywords of a deletion rule. -/
def OnDelete.keywords : OnDelete → String
  | .unspecified => ""
  | .cascade => "CASCADE"
  | .noAction => "NO ACTION"

/-- A reference to the columns of another table. -/
structure ForeignKeyDef where
  columns : List Ident
  referencedTable : Path
  referencedColumns : List Ident := []
  onDelete : OnDelete := .unspecified
  deriving DecidableEq, Repr

/-- The body of a table constraint. A body of another kind constrains nothing that a schema
records. -/
inductive ConstraintBody where
  | foreignKey (key : ForeignKeyDef)
  | check (exprSql : String)
  | other
  deriving DecidableEq, Repr

/-- A table constraint and its name. -/
structure TableConstraint where
  body : ConstraintBody
  name : Ident := .missing
  deriving DecidableEq, Repr

/-- A clause `INTERLEAVE IN [PARENT] table [ON DELETE …]`. -/
structure Interleaving where
  parent : Path
  onDelete : OnDelete := .unspecified
  enforced : Bool := true
  deriving DecidableEq, Repr

/-- A row deletion policy `OLDER_THAN(column, INTERVAL n DAY)`. -/
structure PolicyDef where
  column : Ident
  days : IntValue := .missing
  deriving DecidableEq, Repr

/-! ## Statements -/

/-- A `CREATE TABLE` statement. -/
structure CreateTable where
  name : Path
  columns : List ColumnDef := []
  primaryKey : List KeyPart := []
  constraints : List TableConstraint := []
  interleaving : Option Interleaving := none
  policy : Option PolicyDef := none
  ifNotExists : Bool := false
  deriving DecidableEq, Repr

/-- What an `ALTER TABLE` statement does to its table. -/
inductive Alteration where
  | addColumn (column : ColumnDef) (ifNotExists : Bool)
  | addConstraint (constraint : TableConstraint)
  | dropColumn (name : Ident)
  | dropConstraint (name : Ident)
  | setInterleaving (parent : Path) (onDelete : OnDelete)
  | addPolicy (policy : PolicyDef)
  | replacePolicy (policy : PolicyDef)
  | dropPolicy
  | alterColumn (name : Ident) (text : String)
  | setOnDelete (onDelete : OnDelete)
  | setOptions (text : String)
  | other (text : String)
  deriving DecidableEq, Repr

/-- A `CREATE INDEX` statement. -/
structure CreateIndex where
  name : Path
  table : Path
  keys : List KeyPart := []
  storing : Option (List Ident) := none
  interleaveIn : Option Ident := none
  unique : Bool := false
  nullFiltered : Bool := false
  ifNotExists : Bool := false
  deriving DecidableEq, Repr

/-- A statement. Statements that do not shape a schema are kept as text under their first
keywords. -/
inductive Statement where
  | createTable (table : CreateTable)
  | alterTable (name : Path) (alteration : Alteration)
  | createIndex (index : CreateIndex)
  | other (keyword text : String)
  deriving DecidableEq, Repr

end SpannerDdl
