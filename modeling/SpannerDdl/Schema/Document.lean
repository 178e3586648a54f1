import SpannerDdl.Json.Display
import SpannerDdl.Schema.Basic

/-! # Schema documents

A schema is exchanged as a JSON document. Members that would hold an empty text, `false` or an
empty list are left out, except the columns and the primary key of a table.

* `Schema.toJson`: the document of a schema.
* `Schema.ofJson`: the schema of a document. Reading is tolerant: a value of the wrong kind is
  taken as its text, and a flag is set only by `true`.
* `ShapeFault`: why a document cannot be read even so.
-/

set_option autoImplicit false

namespace SpannerDdl

/-! ## Writing -/

/-- A member that is left out unless the condition holds. -/
def Json.memberIf (present : Bool) (key : String) (value : Json) : List (String × Json) :=
  if present then [(key, value)] else []

/-- A list of texts. -/
def Json.ofTexts (texts : List String) : Json := .arr (texts.map .str)

/-- The document of a column. -/
def Column.toJson (c : Column) : Json :=
  .obj ([("name", .str c.name), ("type", .str c.type)] ++
    Json.memberIf c.isArray "isArray" (.bool true) ++
    Json.memberIf c.notNull "isNullable" (.bool false) ++
    Json.memberIf (c.comment != "") "comment" (.str c.comment))

/-- The document of a row deletion policy. -/
def RowDeletionPolicy.toJson (p : RowDeletionPolicy) : Json :=
  .obj [("columnName", .str p.column), ("numDays", .str p.days)]

/-- The document of a table. -/
def Table.toJson (t : Table) : Json :=
  .obj ([("name", .str t.name), ("columns", .arr (t.columns.map Column.toJson)),
      ("primaryKey", .ofTexts t.primaryKey)] ++
    Json.memberIf (t.interleavedIn != "") "interleavedIn" (.str t.interleavedIn) ++
    Json.memberIf (t.comment != "") "comment" (.str t.comment) ++
    match t.policy with
    | some p => [("rowDeletionPolicy", p.toJson)]
    | none => [])

/-- The document of a foreign key. -/
def ForeignKey.toJson (k : ForeignKey) : Json :=
  .obj [("name", .str k.name), ("referencingTable", .str k.referencingTable),
    ("referencingColumns", .ofTexts k.referencingColumns),
    ("referencedTable", .str k.referencedTable),
    ("referencedColumns", .ofTexts k.referencedColumns)]

/-- The document of an index key. -/
def IndexKey.toJson (k : IndexKey) : Json :=
  .obj ([("name", .str k.name)] ++
    Json.memberIf (k.direction != "") "direction" (.str k.direction))

/-- The document of an index. -/
def Index.toJson (i : Index) : Json :=
  .obj ([("name", .str i.name), ("table", .str i.table),
      ("columns", .arr (i.columns.map IndexKey.toJson))] ++
    Json.memberIf (!i.storing.isEmpty) "storing" (.ofTexts i.storing) ++
    Json.memberIf (i.interleavedIn != "") "interleavedIn" (.str i.interleavedIn) ++
    Json.memberIf i.isUnique "isUnique" (.bool true) ++
    Json.memberIf i.isNullFiltered "isNullFiltered" (.bool true))

/-- The document of a schema. -/
def Schema.toJson (s : Schema) : Json :=
  .obj ([("tables", .arr (s.tables.map Table.toJson))] ++
    Json.memberIf (!s.foreignKeys.isEmpty) "foreignKeys"
      (.arr (s.foreignKeys.map ForeignKey.toJson)) ++
    Json.memberIf (!s.indexes.isEmpty) "indexes" (.arr (s.indexes.map Index.toJson)))

/-! ## Reading -/

/-- Why a document cannot be read: a required member is missing, a required or an optional member
is asked of a value that is not an object, or items are asked of a value that has none. -/
inductive ShapeFault where
  | missingMember (key : String)
  | requiredOfOther
  | optionalOfOther
  | noItems
  deriving DecidableEq, Repr

/-- The reason in words; none are known but for a missing member. -/
def ShapeFault.message : ShapeFault → String
  | .missingMember key => Text.quoted key
  | .requiredOfOther => ""
  | .optionalOfOther => ""
  | .noItems => ""

namespace Json

/-- A member that has to be there. -/
def required (v : Json) (key : String) : Except ShapeFault Json :=
  match v with
  | .obj members =>
    match members.lookup key with
    | some value => .ok value
    | none => .error (.missingMember key)
  | _ => .error .requiredOfOther

/-- A member that may be missing, which counts as `null`. -/
def optional (v : Json) (key : String) : Except ShapeFault Json :=
  match v with
  | .obj members => .ok ((members.lookup key).getD .null)
  | _ => .error .optionalOfOther

/-- The text of a required member. -/
def requiredText (v : Json) (key : String) : Except ShapeFault String :=
  (v.required key).map plain

/-- The text of an optional member, empty for a value that counts as not given. -/
def optionalText (v : Json) (key : String) : Except ShapeFault String :=
  (v.optional key).map fun value => if value.isTruthy then value.plain else ""

/-- Whether an optional member has the given truth value. -/
def optionalIs (v : Json) (key : String) (b : Bool) : Except ShapeFault Bool :=
  (v.optional key).map fun value => match value with
    | .bool b' => b' == b
    | _ => false

/-- The items of a value: those of an array, the characters of a text, the keys of an object, and
none of a value that counts as not given. -/
def itemsOf (v : Json) : Except ShapeFault (List Json) :=
  match v with
  | .arr items => .ok items
  | .str s => .ok (s.toList.map fun c => .str (String.ofList [c]))
  | .obj members => .ok (members.map fun m => .str m.1)
  | v => if v.isTruthy then .error .noItems else .ok []

/-- The items of an optional member, each read on its own. -/
def optionalItems {α : Type} (v : Json) (key : String) (read : Json → Except ShapeFault α) :
    Except ShapeFault (List α) := do
  let value ← v.optional key
  let items ← value.itemsOf
  items.mapM read

/-- The texts of the items of an optional member. -/
def optionalTexts (v : Json) (key : String) : Except ShapeFault (List String) :=
  v.optionalItems key fun item => .ok item.plain

end Json

/-- The column of a document. -/
def Column.ofJson (v : Json) : Except ShapeFault Column := do
  let name ← v.requiredText "name"
  let type ← v.requiredText "type"
  let isArray ← v.optionalIs "isArray" true
  let notNull ← v.optionalIs "isNullable" false
  let comment ← v.optionalText "comment"
  return { name, type, isArray, notNull, comment }

/-- The row deletion policy of a document. A missing number of days is empty. -/
def RowDeletionPolicy.ofJson (v : Json) : Except ShapeFault RowDeletionPolicy := do
  let column ← v.requiredText "columnName"
  return { column, days := ((v.get? "numDays").map Json.plain).getD "" }

/-- The table of a document. -/
def Table.ofJson (v : Json) : Except ShapeFault Table := do
  let policy ← v.optional "rowDeletionPolicy"
  let name ← v.requiredText "name"
  let columns ← v.optionalItems "columns" Column.ofJson
  let primaryKey ← v.optionalTexts "primaryKey"
  let interleavedIn ← v.optionalText "interleavedIn"
  let comment ← v.optionalText "comment"
  let policy ←
    if policy.isTruthy then (RowDeletionPolicy.ofJson policy).map some else .ok none
  return { name, columns, primaryKey, interleavedIn, comment, policy }

/-- The foreign key of a document. -/
def ForeignKey.ofJson (v : Json) : Except ShapeFault ForeignKey := do
  let name ← v.optionalText "name"
  let referencingTable ← v.requiredText "referencingTable"
  let referencingColumns ← v.optionalTexts "referencingColumns"
  let referencedTable ← v.requiredText "referencedTable"
  let referencedColumns ← v.optionalTexts "referencedColumns"
  return { name, referencingTable, referencingColumns, referencedTable, referencedColumns }

/-- The index key of a document. -/
def IndexKey.ofJson (v : Json) : Except ShapeFault IndexKey := do
  let name ← v.requiredText "name"
  let direction ← v.optionalText "direction"
  return { name, direction }

/-- The index of a document. -/
def Index.ofJson (v : Json) : Except ShapeFault Index := do
  let name ← v.requiredText "name"
  let table ← v.requiredText "table"
  let columns ← v.optionalItems "columns" IndexKey.ofJson
  let storing ← v.optionalTexts "storing"
  let interleavedIn ← v.optionalText "interleavedIn"
  let isUnique ← v.optionalIs "isUnique" true
  let isNullFiltered ← v.optionalIs "isNullFiltered" true
  return { name, table, columns, storing, interleavedIn, isUnique, isNullFiltered }

/-- The schema of a document. -/
def Schema.ofJson (v : Json) : Except ShapeFault Schema := do
  let tables ← v.optionalItems "tables" Table.ofJson
  let foreignKeys ← v.optionalItems "foreignKeys" ForeignKey.ofJson
  let indexes ← v.optionalItems "indexes" Index.ofJson
  return { tables, foreignKeys, indexes }

end SpannerDdl
