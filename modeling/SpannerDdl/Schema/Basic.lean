/-! # Schemas

A schema is the relational content of a database: tables, foreign keys and indexes, in the order in
which they were created.

* `Column`, `RowDeletionPolicy`, `Table`, `ForeignKey`, `IndexKey`, `Index`: the parts.
* `Schema`: the whole, with `Schema.table?` and `Table.column?` to look things up.
* `Schema.sample`: a small schema of singers and their albums.

Texts that are not given are empty.
-/

set_option autoImplicit false

namespace SpannerDdl

/-- A column; it takes nulls unless it is known not to. -/
structure Column where
  name : String
  type : String
  isArray : Bool := false
  notNull : Bool := false
  comment : String := ""
  deriving DecidableEq, Repr

/-- Rows are deleted when the named column is older than a number of days, which is kept as
text because it may be a parameter. -/
structure RowDeletionPolicy where
  column : String
  days : String := ""
  deriving DecidableEq, Repr

/-- A table. -/
structure Table where
  name : String
  columns : List Column := []
  primaryKey : List String := []
  interleavedIn : String := ""
  comment : String := ""
  policy : Option RowDeletionPolicy := none
  deriving DecidableEq, Repr

/-- A foreign key. -/
structure ForeignKey where
  name : String
  referencingTable : String
  referencingColumns : List String := []
  referencedTable : String := ""
  referencedColumns : List String := []
  deriving DecidableEq, Repr

/-- A column of an index with its direction, which is empty if not stated. -/
structure IndexKey where
  name : String
  direction : String := ""
  deriving DecidableEq, Repr

/-- An index. -/
structure Index where
  name : String
  table : String
  columns : List IndexKey := []
  storing : List String := []
  interleavedIn : String := ""
  isUnique : Bool := false
  isNullFiltered : Bool := false
  deriving DecidableEq, Repr

/-- The relational content of a database. -/
structure Schema where
  tables : List Table := []
  foreignKeys : List ForeignKey := []
  indexes : List Index := []
  deriving DecidableEq, Repr

/-- The first column of the given name. -/
def Table.column? (t : Table) (name : String) : Option Column :=
  t.columns.find? (·.name == name)

namespace Schema

/-- The first table of the given name. -/
def table? (s : Schema) (name : String) : Option Table := s.tables.find? (·.name == name)

/-- The names of the tables in order. -/
def tableNames (s : Schema) : List String := s.tables.map Table.name

/-- Singers and their albums: two tables, one interleaved in the other. -/
def sample : Schema where
  tables := [
    { name := "Singers"
      primaryKey := ["SingerId"]
      columns := [
        { name := "SingerId", type := "INT64", notNull := true },
        { name := "FirstName", type := "STRING" },
        { name := "LastName", type := "STRING", notNull := true },
        { name := "CreatedAt", type := "TIMESTAMP", notNull := true }] },
    { name := "Albums"
      primaryKey := ["SingerId", "AlbumId"]
      columns := [
        { name := "SingerId", type := "INT64", notNull := true },
        { name := "AlbumId", type := "INT64", notNull := true },
        { name := "AlbumTitle", type := "STRING" },
        { name := "ReleaseDate", type := "DATE" }]
      interleavedIn := "Singers" }]
  foreignKeys := [
    { name := "fk_albums_singers"
      referencingTable := "Albums"
      referencingColumns := ["SingerId"]
      referencedTable := "Singers"
      referencedColumns := ["SingerId"] }]

end Schema

end SpannerDdl
