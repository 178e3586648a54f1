import SpannerDdl.Statement.Basic

/-! # Statements up to letter case

* `Statement.foldCase s`: the statement with the ASCII letters of its texts in upper case.

The names of scalar and sized types are left as they are, so that trees are equal up to letter case
only if these names are equal. -/

set_option autoImplicit false

namespace SpannerDdl

/-! ## Names, values and types -/

def Ident.foldCase : Ident → Ident
  | .named name => .named name.toUpper
  | .missing => .missing

@[simp] theorem Ident.name_foldCase (i : Ident) : i.foldCase.name = i.name.toUpper := by
  cases i with
  | named name => rfl
  | missing => exact String.toList_inj.1 (by simp [String.toUpper, Ident.foldCase])

def Path.foldCase (p : Path) : Path := ⟨p.idents.map Ident.foldCase⟩

def IntValue.foldCase : IntValue → IntValue
  | .literal value => .literal value.toUpper
  | .param name => .param name.toUpper
  | .cast value => .cast value.foldCase
  | .unknown => .unknown
  | .missing => .missing

/-- The type with its texts in upper case, but for the names of scalar and sized types. -/
def ColumnType.foldCase : ColumnType → ColumnType
  | .scalar name => .scalar name
  | .sized name max size => .sized name max size.foldCase
  | .array item vectorLength => .array item.foldCase vectorLength.foldCase
  | .named path => .named (path.map Ident.foldCase)
  | .custom sql? => .custom (sql?.map String.toUpper)
  | .missing => .missing

/-! ## Parts of a table -/

def ColumnDef.foldCase (c : ColumnDef) : ColumnDef :=
  { c with
    name := c.name.foldCase
    type := c.type.foldCase
    defaultSql := c.defaultSql.toUpper
    generatedSql := c.generatedSql.toUpper }

def KeyPart.foldCase (k : KeyPart) : KeyPart := { k with name := k.name.foldCase }

def ForeignKeyDef.foldCase (k : ForeignKeyDef) : ForeignKeyDef :=
  { k with
    columns := k.columns.map Ident.foldCase
    referencedTable := k.referencedTable.foldCase
    referencedColumns := k.referencedColumns.map Ident.foldCase }

def ConstraintBody.foldCase : ConstraintBody → ConstraintBody
  | .foreignKey key => .foreignKey key.foldCase
  | .check exprSql => .check exprSql.toUpper
  | .other => .other

def TableConstraint.foldCase (c : TableConstraint) : TableConstraint :=
  ⟨c.body.foldCase, c.name.foldCase⟩

def Interleaving.foldCase (i : Interleaving) : Interleaving :=
  { i with parent := i.parent.foldCase }

def PolicyDef.foldCase (p : PolicyDef) : PolicyDef := ⟨p.column.foldCase, p.days.foldCase⟩

/-! ## Statements -/

def CreateTable.foldCase (t : CreateTable) : CreateTable :=
  { t with
    name := t.name.foldCase
    columns := t.columns.map ColumnDef.foldCase
    primaryKey := t.primaryKey.map KeyPart.foldCase
    constraints := t.constraints.map TableConstraint.foldCase
    interleaving := t.interleaving.map Interleaving.foldCase
    policy := t.policy.map PolicyDef.foldCase }

def Alteration.foldCase : Alteration → Alteration
  | .addColumn column ifNotExists => .addColumn column.foldCase ifNotExists
  | .addConstraint constraint => .addConstraint constraint.foldCase
  | .dropColumn name => .dropColumn name.foldCase
  | .dropConstraint name => .dropConstraint name.foldCase
  | .setInterleaving parent onDelete => .setInterleaving parent.foldCase onDelete
  | .addPolicy policy => .addPolicy policy.foldCase
  | .replacePolicy policy => .replacePolicy policy.foldCase
  | .dropPolicy => .dropPolicy
  | .alterColumn name text => .alterColumn name.foldCase text.toUpper
  | .setOnDelete onDelete => .setOnDelete onDelete
  | .setOptions text => .setOptions text.toUpper
  | .other text => .other text.toUpper

def CreateIndex.foldCase (i : CreateIndex) : CreateIndex :=
  { i with
    name := i.name.foldCase
    table := i.table.foldCase
    keys := i.keys.map KeyPart.foldCase
    storing := i.storing.map (List.map Ident.foldCase)
    interleaveIn := i.interleaveIn.map Ident.foldCase }

/-- The statement with its texts in upper case, but for the names of scalar and sized types. -/
def Statement.foldCase : Statement → Statement
  | .createTable table => .createTable table.foldCase
  | .alterTable name alteration => .alterTable name.foldCase alteration.foldCase
  | .createIndex index => .createIndex index.foldCase
  | .other keyword text => .other keyword.toUpper text.toUpper

end SpannerDdl
