import SpannerDdl.Grammar.Type

/-! # Complete statements

A statement tree can leave things out that no text can leave out. In a complete one every name that
has to be there is there, and is of a given kind; types and sizes are of the kinds that the grammar
has. -/

set_option autoImplicit false

namespace SpannerDdl

variable (P : String → Prop)

/-! ## Names, values and types -/

def Ident.Complete : Ident → Prop
  | .named name => P name
  | .missing => False

structure Path.Complete (p : Path) : Prop where
  nonempty : p.idents ≠ []
  idents : ∀ i ∈ p.idents, i.Complete P

/-- A number or a parameter, inside any number of casts. -/
def IntValue.Complete : IntValue → Prop
  | .literal _ => True
  | .param _ => True
  | .cast value => value.Complete
  | .unknown => False
  | .missing => False

/-- A scalar type of the grammar, a sized type with a size or the greatest, an array of a complete
type, or a path. -/
def ColumnType.Complete : ColumnType → Prop
  | .scalar name => name ∈ Grammar.scalarTypes
  | .sized _ true size => size = .missing
  | .sized _ false size => size.Complete
  | .array item length => item.Complete ∧ (length = .missing ∨ length.Complete)
  | .named path => Path.Complete P ⟨path⟩
  | .custom _ => False
  | .missing => False

/-! ## Parts of a table -/

structure ColumnDef.Complete (c : ColumnDef) : Prop where
  name : c.name.Complete P
  type : c.type.Complete P

structure ForeignKeyDef.Complete (k : ForeignKeyDef) : Prop where
  columns : ∀ i ∈ k.columns, i.Complete P
  referencedTable : k.referencedTable.Complete P
  referencedColumns : ∀ i ∈ k.referencedColumns, i.Complete P

def ConstraintBody.Complete : ConstraintBody → Prop
  | .foreignKey k => k.Complete P
  | .check _ => True
  | .other => False

/-- A constraint may go without a name. -/
structure TableConstraint.Complete (c : TableConstraint) : Prop where
  body : c.body.Complete P
  name : c.name = .missing ∨ c.name.Complete P

structure PolicyDef.Complete (p : PolicyDef) : Prop where
  column : p.column.Complete P
  days : p.days.Complete

/-! ## Statements -/

structure CreateTable.Complete (t : CreateTable) : Prop where
  name : t.name.Complete P
  columns : ∀ c ∈ t.columns, c.Complete P
  primaryKey : ∀ k ∈ t.primaryKey, k.name.Complete P
  constraints : ∀ c ∈ t.constraints, c.Complete P
  interleaving : ∀ i ∈ t.interleaving, i.parent.Complete P
  policy : ∀ p ∈ t.policy, p.Complete P

def Alteration.Complete : Alteration → Prop
  | .addColumn c _ => c.Complete P
  | .addConstraint c => c.Complete P
  | .dropColumn name => name.Complete P
  | .dropConstraint name => name.Complete P
  | .setInterleaving parent _ => parent.Complete P
  | .addPolicy p => p.Complete P
  | .replacePolicy p => p.Complete P
  | .alterColumn name _ => name.Complete P
  | .dropPolicy => True
  | .setOnDelete _ => True
  | .setOptions _ => True
  | .other _ => True

structure CreateIndex.Complete (i : CreateIndex) : Prop where
  name : i.name.Complete P
  table : i.table.Complete P
  keys : ∀ k ∈ i.keys, k.name.Complete P
  storing : ∀ names ∈ i.storing, ∀ name ∈ names, name.Complete P
  interleaveIn : ∀ name ∈ i.interleaveIn, name.Complete P

def Statement.Complete : Statement → Prop
  | .createTable t => t.Complete P
  | .alterTable name change => name.Complete P ∧ change.Complete P
  | .createIndex i => i.Complete P
  | .other _ _ => True

end SpannerDdl
