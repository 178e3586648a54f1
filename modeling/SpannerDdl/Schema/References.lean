import SpannerDdl.Schema.Document
import SpannerDdl.Schema.Validation

/-! # Reading the references of a document

The names that a document refers to are read without a look at its structure. Reading fails where a
member is missing, a name is no text, or a list is no array.

* `Json.asName`, `Json.asItems`: a text, the items of an array.
* `Json.memberOr v key default read`: an optional member.
* `readReferenceIssues doc`: the complaints about names that refer to nothing.
-/

set_option autoImplicit false

namespace SpannerDdl

namespace Json

/-- A text. -/
def asName : Json → Except ShapeFault String
  | .str s => .ok s
  | _ => .error .requiredOfOther

/-- The items of an array. -/
def asItems : Json → Except ShapeFault (List Json)
  | .arr items => .ok items
  | _ => .error .noItems

/-- A name that has to be there. -/
def nameAt (v : Json) (key : String) : Except ShapeFault String := v.required key >>= asName

/-- What is read of an optional member, or a default if it is missing. -/
def memberOr {α : Type} (v : Json) (key : String) (default : α)
    (read : Json → Except ShapeFault α) : Except ShapeFault α :=
  match v with
  | .obj members => (members.lookup key).elim (.ok default) read
  | _ => .error .optionalOfOther

end Json

/-- The complaints about the document of a table. -/
def readTableIssues (tableNames : List String) (index : Nat) (table : Json) :
    Except ShapeFault (List String) := do
  let columns ← table.required "columns" >>= Json.asItems
  let columnNames ← columns.mapM (·.nameAt "name")
  let key ← table.memberOr "primaryKey" [] Json.asItems
  let keyNames ← key.mapM Json.asName
  let name ← table.nameAt "name"
  let parent ← table.memberOr "interleavedIn" "" Json.asName
  return tableIssues tableNames index name columnNames keyNames parent

/-- The complaints about the document of a foreign key. -/
def readForeignKeyIssues (tableNames : List String) (index : Nat) (key : Json) :
    Except ShapeFault (List String) := do
  let referencing ← key.nameAt "referencingTable"
  let referenced ← key.nameAt "referencedTable"
  return foreignKeyIssues tableNames index referencing referenced

/-- The complaints about names in a document that refer to nothing. -/
def readReferenceIssues (doc : Json) : Except ShapeFault (List String) := do
  let tables ← doc.memberOr "tables" [] Json.asItems
  let tableNames ← tables.mapM (·.nameAt "name")
  let ofTables ← tables.zipIdx.mapM fun p => readTableIssues tableNames p.2 p.1
  let keys ← doc.memberOr "foreignKeys" [] Json.asItems
  let ofKeys ← keys.zipIdx.mapM fun p => readForeignKeyIssues tableNames p.2 p.1
  return ofTables.flatten ++ ofKeys.flatten

end SpannerDdl
