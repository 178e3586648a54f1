import SpannerDdl.Statement.Basic

/-! # Statement parts as SQL text

* `SqlFault`: why a part has no SQL text.
* `Path.sql`, `IntValue.sql`, `ColumnType.sql`: the text of a name, a value and a type.
-/

set_option autoImplicit false

namespace SpannerDdl

/-- Why a part of a statement has no SQL text: something is missing in it, or it is of a kind
without a form in SQL. -/
inductive SqlFault where
  | missingPart
  | noForm
  deriving DecidableEq, Repr

/-- The text of an identifier that is there. -/
def Ident.sql : Ident → Except SqlFault String
  | .named name => .ok name
  | .missing => .error .missingPart

/-- Identifiers with points between them. -/
def dottedSql (idents : List Ident) : Except SqlFault String :=
  (idents.mapM Ident.sql).map (".".intercalate ·)

/-- The text of a dotted name. -/
def Path.sql (p : Path) : Except SqlFault String := dottedSql p.idents

/-- The text of a size or a number of days. -/
def IntValue.sql : IntValue → Except SqlFault String
  | .literal value => .ok value
  | .param name => .ok ("@" ++ name)
  | .cast value => value.sql.map fun text => "CAST(" ++ text ++ " AS INT64)"
  | .unknown => .error .noForm
  | .missing => .error .missingPart

/-- The text of a type. A sized type without a size has the greatest. -/
def ColumnType.sql : ColumnType → Except SqlFault String
  | .scalar name => .ok name
  | .sized name max size =>
    if max || size = .missing then .ok (name ++ "(MAX)")
    else size.sql.map fun text => name ++ "(" ++ text ++ ")"
  | .array item vectorLength => do
    let text ← item.sql
    if vectorLength = .missing then return "ARRAY<" ++ text ++ ">"
    else return "ARRAY<" ++ text ++ ">(vector_length=>" ++ (← vectorLength.sql) ++ ")"
  | .named path => dottedSql path
  | .custom (some text) => .ok text
  | .custom none => .error .noForm
  | .missing => .error .missingPart

end SpannerDdl
