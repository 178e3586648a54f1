import SpannerDdl.Json.Basic
import SpannerDdl.Schema.Document

/-! # Diagrams

A diagram shows each table of a schema as an entity with one field per column, and draws an edge
for each foreign key and for each interleaved table.

* `Entity`, `Edge`, `Diagram`: the parts and the whole.
* `Column.fieldText c inKey`: the field of a column, such as `*Id: INT64!`.
* `Schema.diagram s`: the diagram of a schema.
* `Diagram.toJson d`: a diagram as a document.
-/

set_option autoImplicit false

namespace SpannerDdl

/-- A table in a diagram. -/
structure Entity where
  id : String
  label : String
  fields : List String := []
  deriving DecidableEq, Repr

/-- A line from one entity to another, with a label that may be empty. -/
structure Edge where
  source : String
  target : String
  label : String := ""
  deriving DecidableEq, Repr

/-- Entities and the edges between them, in drawing order. -/
structure Diagram where
  entities : List Entity := []
  edges : List Edge := []
  deriving DecidableEq, Repr

/-! ## The diagram of a schema -/

/-- The label of an edge from a table to the table it is interleaved in. -/
def interleavedLabel : String := "INTERLEAVED IN"

/-- The field of a column: a star marks a column of the key, brackets an array, and an exclamation
mark a column that takes no nulls. -/
def Column.fieldText (c : Column) (inKey : Bool) : String :=
  (if inKey then "*" else "") ++ c.name ++ ": " ++ c.type ++ (if c.isArray then "[]" else "") ++
    (if c.notNull then "!" else "?")

/-- The entity of a table. -/
def Table.entity (t : Table) : Entity where
  id := t.name
  label := t.name
  fields := t.columns.map fun c => c.fieldText (t.primaryKey.contains c.name)

/-- The edge of a foreign key. -/
def ForeignKey.edge (k : ForeignKey) : Edge := ⟨k.referencingTable, k.referencedTable, k.name⟩

/-- The edge of an interleaved table. -/
def Table.interleavedEdge? (t : Table) : Option Edge :=
  if t.interleavedIn == "" then none else some ⟨t.name, t.interleavedIn, interleavedLabel⟩

/-- The diagram of a schema: the edges of foreign keys come before those of interleaved tables. -/
def Schema.diagram (s : Schema) : Diagram where
  entities := s.tables.map Table.entity
  edges := s.foreignKeys.map ForeignKey.edge ++ s.tables.filterMap Table.interleavedEdge?

@[simp] theorem Table.id_entity (t : Table) : t.entity.id = t.name := rfl

@[simp] theorem Table.label_entity (t : Table) : t.entity.label = t.name := rfl

theorem Schema.map_id_entities_diagram (s : Schema) :
    s.diagram.entities.map Entity.id = s.tableNames := by
  simp [Schema.diagram, Schema.tableNames, Function.comp_def]

/-! ## Diagrams as documents -/

/-- The document of an entity. -/
def Entity.toJson (e : Entity) : Json :=
  .obj [("id", .str e.id), ("label", .str e.label), ("fields", .ofTexts e.fields)]

/-- The document of an edge; an empty label is left out. -/
def Edge.toJson (e : Edge) : Json :=
  .obj ([("from", .str e.source), ("to", .str e.target)] ++
    Json.memberIf (e.label != "") "label" (.str e.label))

/-- The document of a diagram. -/
def Diagram.toJson (d : Diagram) : Json :=
  .obj [("nodes", .arr (d.entities.map Entity.toJson)), ("edges", .arr (d.edges.map Edge.toJson))]

end SpannerDdl
