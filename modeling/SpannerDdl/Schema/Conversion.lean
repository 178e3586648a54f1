import SpannerDdl.Schema.Basic
import SpannerDdl.Statement.Sql

/-! # From statement parts to schema parts

* `IntValue.text`: a size or a number of days, without casts.
* `ColumnType.schemaText`: the text of a type in a schema and whether it is an array.
* `ColumnDef.column`, `PolicyDef.policy?`, `KeyPart.indexKey`, `ForeignKeyDef.foreignKey`: the
  parts.
* `CreateTable.primaryKeyNames`: the primary key, by the clause first and the column options second.
-/

set_option autoImplicit false

namespace SpannerDdl

/-! ## Names -/

/-- The names that are not empty. -/
def identNames (is : List Ident) : List String := (is.map Ident.name).filter (· != "")

/-- The names without repetition, in the order of their first appearance. -/
def firstOccurrences : List String → List String
  | [] => []
  | name :: names => name :: (firstOccurrences names).filter (· != name)

/-! ## Types -/

/-- A size or a number of days, without casts; empty if there is none. -/
def IntValue.text : IntValue → String
  | .literal value => value
  | .param name => "@" ++ name
  | .cast value => value.text
  | .unknown => ""
  | .missing => ""

/-- Why a column type has no text: there is no type, or it is of a kind without a form in SQL. -/
inductive TypeFault where
  | missingType
  | noForm
  deriving DecidableEq, Repr

/-- The reason in words; none are known for a type without a form. -/
def TypeFault.message : TypeFault → String
  | .missingType => "column has no type"
  | .noForm => ""

/-- The text of a type and whether it is an array. An array has the text of its items; the lengths
of arrays are not recorded. -/
def ColumnType.schemaText : ColumnType → Except TypeFault (String × Bool)
  | .scalar name => .ok (name, false)
  | .sized name max size =>
    .ok (name ++ "(" ++ (if max then "MAX" else size.text) ++ ")", false)
  | .array item _ => item.schemaText.map fun p => (p.1, true)
  | .named path => .ok (Path.name ⟨path⟩, false)
  | .custom (some sql) => .ok (sql, false)
  | .custom none => .error .noForm
  | .missing => .error .missingType

/-! ## Parts -/

/-- The column of a definition. A column of the primary key takes no nulls. -/
def ColumnDef.column (c : ColumnDef) : Except TypeFault Column :=
  c.type.schemaText.map fun p =>
    { name := c.name.name, type := p.1, isArray := p.2, notNull := c.primaryKey || c.notNull }

/-- The policy of a definition, if it names a column. -/
def PolicyDef.policy? (p : PolicyDef) : Option RowDeletionPolicy :=
  if p.column.name == "" then none else some ⟨p.column.name, p.days.text⟩

/-- The index key of a key column. -/
def KeyPart.indexKey (k : KeyPart) : IndexKey :=
  ⟨k.name.name, (k.direction.map Direction.keyword).getD ""⟩

/-- The foreign key of a definition under a name. -/
def ForeignKeyDef.foreignKey (k : ForeignKeyDef) (name owner : String) : ForeignKey where
  name := name
  referencingTable := owner
  referencingColumns := identNames k.columns
  referencedTable := k.referencedTable.name
  referencedColumns := identNames k.referencedColumns

/-- The foreign key that a constraint of a table states, if it states one. -/
def TableConstraint.foreignKey? (c : TableConstraint) (owner : String) : Option ForeignKey :=
  match c.body with
  | .foreignKey k => some (k.foreignKey c.name.name owner)
  | _ => none

/-- The names of the primary key: those of the clause, then those of the columns that are primary
keys by themselves, each once. -/
def CreateTable.primaryKeyNames (t : CreateTable) : List String :=
  firstOccurrences (identNames (t.primaryKey.map KeyPart.name ++
    (t.columns.filter ColumnDef.primaryKey).map ColumnDef.name))

end SpannerDdl
