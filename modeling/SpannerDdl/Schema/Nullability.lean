import SpannerDdl.Schema.Document
import SpannerDdl.Schema.Draft

/-! # Schemas that say which columns take nulls

A column can be known to take no nulls. One that is put together by hand can also say that it does
take them; this is never written, so that it is not known of any column that is read.

* `StatedColumn`, `StatedTable`, `StatedSchema`: what is put together by hand.
* `StatedSchema.recorded`: the part of it that a `Schema` records.
* `Schema.stated`: a schema as one of them, `Draft.snapshot` for what statements build.
* `StatedSchema.toJson`, `StatedSchema.ofJson`: the document.
-/

set_option autoImplicit false

namespace SpannerDdl

/-- A column, with what is known of whether it takes nulls. -/
structure StatedColumn where
  name : String
  type : String
  isArray : Bool := false
  isNullable : Option Bool := none
  comment : String := ""
  deriving DecidableEq, Repr

/-- A table of such columns. -/
structure StatedTable where
  name : String
  columns : List StatedColumn := []
  primaryKey : List String := []
  interleavedIn : String := ""
  comment : String := ""
  policy : Option RowDeletionPolicy := none
  deriving DecidableEq, Repr

/-- A schema of such tables. -/
structure StatedSchema where
  tables : List StatedTable := []
  foreignKeys : List ForeignKey := []
  indexes : List Index := []
  deriving DecidableEq, Repr

/-! ## What is recorded -/

/-- Of nulls it is recorded only that there are none. -/
def StatedColumn.recorded (c : StatedColumn) : Column where
  name := c.name
  type := c.type
  isArray := c.isArray
  notNull := c.isNullable == some false
  comment := c.comment

/-- The table of what is recorded of the columns. -/
def StatedTable.recorded (t : StatedTable) : Table where
  name := t.name
  columns := t.columns.map StatedColumn.recorded
  primaryKey := t.primaryKey
  interleavedIn := t.interleavedIn
  comment := t.comment
  policy := t.policy

/-- The schema of what is recorded of the columns. -/
def StatedSchema.recorded (s : StatedSchema) : Schema where
  tables := s.tables.map StatedTable.recorded
  foreignKeys := s.foreignKeys
  indexes := s.indexes

/-- A recorded column says that it takes no nulls, or nothing. -/
def Column.stated (c : Column) : StatedColumn where
  name := c.name
  type := c.type
  isArray := c.isArray
  isNullable := if c.notNull then some false else none
  comment := c.comment

/-- A recorded table. -/
def Table.stated (t : Table) : StatedTable where
  name := t.name
  columns := t.columns.map Column.stated
  primaryKey := t.primaryKey
  interleavedIn := t.interleavedIn
  comment := t.comment
  policy := t.policy

/-- A recorded schema. -/
def Schema.stated (s : Schema) : StatedSchema where
  tables := s.tables.map Table.stated
  foreignKeys := s.foreignKeys
  indexes := s.indexes

/-- What the statements so far have built. -/
def Draft.snapshot (d : Draft) : StatedSchema := d.schema.stated

/-! ## Documents -/

namespace StatedSchema

/-- The document of a schema is that of what is recorded of it. -/
def toJson (s : StatedSchema) : Json := s.recorded.toJson

/-- The schema of a document. -/
def ofJson (v : Json) : Except ShapeFault StatedSchema := (Schema.ofJson v).map Schema.stated

end StatedSchema

end SpannerDdl
