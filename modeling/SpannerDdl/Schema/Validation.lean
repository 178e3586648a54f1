import SpannerDdl.Schema.Rule

/-! # Validating schema documents

* `documentRule`: what a schema document has to look like.
* `referenceIssues doc`: names in a well-formed document that refer to nothing.
* `validate doc semantic`: all complaints in words. References are looked at only in well-formed
  documents, and only if asked for.
-/

set_option autoImplicit false

namespace SpannerDdl

/-! ## Structure -/

/-- A text that must not be empty. -/
def nameRule : Rule := .text true

/-- A list of texts. -/
def textsRule : Rule := .array (.text false)

/-- A column. -/
def columnRule : Rule :=
  .object ["name", "type"]
    [("name", nameRule), ("type", nameRule), ("isArray", .flag), ("isNullable", .flag),
     ("comment", .text false)]

/-- A row deletion policy. -/
def policyRule : Rule :=
  .object ["columnName", "numDays"] [("columnName", nameRule), ("numDays", .text false)]

/-- A table. -/
def tableRule : Rule :=
  .object ["name", "columns"]
    [("name", nameRule), ("columns", .array columnRule), ("primaryKey", .array nameRule),
     ("interleavedIn", .text false), ("comment", .text false), ("rowDeletionPolicy", policyRule)]

/-- A foreign key. -/
def foreignKeyRule : Rule :=
  .object ["referencingTable", "referencingColumns", "referencedTable", "referencedColumns"]
    [("name", .text false), ("referencingTable", nameRule), ("referencingColumns", textsRule),
     ("referencedTable", nameRule), ("referencedColumns", textsRule)]

/-- A column of an index. -/
def indexKeyRule : Rule :=
  .object ["name"] [("name", nameRule), ("direction", .oneOf ["", "ASC", "DESC"])]

/-- An index. -/
def indexRule : Rule :=
  .object ["name", "table", "columns"]
    [("name", nameRule), ("table", nameRule), ("columns", .array indexKeyRule),
     ("storing", textsRule), ("interleavedIn", .text false), ("isUnique", .flag),
     ("isNullFiltered", .flag)]

/-- A schema document. -/
def documentRule : Rule :=
  .object ["tables"]
    [("tables", .array tableRule), ("foreignKeys", .array foreignKeyRule),
     ("indexes", .array indexRule)]

/-! ## References -/

namespace Json

/-- The text of a member, empty if there is none. -/
def textAt (v : Json) (key : String) : String :=
  match v.get? key with
  | some (.str s) => s
  | _ => ""

/-- The items of an array member, none if there is no such member. -/
def itemsAt (v : Json) (key : String) : List Json :=
  match v.get? key with
  | some (.arr items) => items
  | _ => []

/-- A value as a text, empty for any other value. -/
def asText : Json → String
  | .str s => s
  | _ => ""

end Json

/-- The complaint about a name that no table has. -/
def unknownTableIssue (place name : String) : String :=
  place ++ ": table '" ++ name ++ "' not found in tables"

/-- The complaints about a table of the given name: keys that are no columns, and an unknown
parent. -/
def tableIssues (tableNames : List String) (index : Nat) (name : String)
    (columnNames keys : List String) (parent : String) : List String :=
  let place := "tables." ++ toString index
  (keys.filter (!columnNames.contains ·)).map (fun key =>
      place ++ ".primaryKey: column '" ++ key ++ "' not found in table '" ++ name ++ "'") ++
    if parent != "" && !tableNames.contains parent then
      [unknownTableIssue (place ++ ".interleavedIn") parent]
    else []

/-- The complaints about a foreign key between tables of the given names. -/
def foreignKeyIssues (tableNames : List String) (index : Nat) (referencing referenced : String) :
    List String :=
  ([("referencingTable", referencing), ("referencedTable", referenced)].filter fun side =>
    !tableNames.contains side.2).map fun side =>
      unknownTableIssue ("foreignKeys." ++ toString index ++ "." ++ side.1) side.2

/-- The complaints about the document of a table. -/
def tableReferenceIssues (tableNames : List String) (index : Nat) (table : Json) : List String :=
  tableIssues tableNames index (table.textAt "name")
    ((table.itemsAt "columns").map (·.textAt "name"))
    ((table.itemsAt "primaryKey").map Json.asText) (table.textAt "interleavedIn")

/-- The complaints about the document of a foreign key. -/
def keyReferenceIssues (tableNames : List String) (index : Nat) (key : Json) : List String :=
  foreignKeyIssues tableNames index (key.textAt "referencingTable") (key.textAt "referencedTable")

/-- The complaints about names in a well-formed document that refer to nothing. -/
def referenceIssues (doc : Json) : List String :=
  let tables := doc.itemsAt "tables"
  let tableNames := tables.map (·.textAt "name")
  tables.zipIdx.flatMap (fun p => tableReferenceIssues tableNames p.2 p.1) ++
    (doc.itemsAt "foreignKeys").zipIdx.flatMap fun p => keyReferenceIssues tableNames p.2 p.1

/-! ## Both -/

/-- All complaints about a document in words; none for a valid document. -/
def validate (doc : Json) (semantic : Bool := true) : List String :=
  let issues := documentRule.report doc
  if issues.isEmpty && semantic then referenceIssues doc else issues

end SpannerDdl
