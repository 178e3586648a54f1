import SpannerDdl.Files.Workspace
import SpannerDdl.Grammar.Statement
import SpannerDdl.Json.Reader
import SpannerDdl.Notice
import SpannerDdl.Schema.Document
import SpannerDdl.Schema.Draft
import SpannerDdl.Schema.References
import SpannerDdl.Schema.Validation
import SpannerDdl.Traced

/-! # Loading schemas

A schema comes from DDL, where later statements change what earlier ones made, or from schema
documents, which are put side by side. Both are given as texts or as files. Texts are without the
code points that are given up for halves of surrogate pairs (`Text.isTaken`).

* `LoadError`: why there is no schema.
* `Schema.ofDdl`, `Schema.ofDdlFiles`: from DDL.
* `Schema.ofDocument`, `Schema.merge`: from documents that are known to be valid.
* `Schema.ofJsonText`, `Schema.ofJsonTexts`, `Schema.ofJsonFiles`: from documents as texts.
-/

set_option autoImplicit false

namespace SpannerDdl

/-! ## Errors -/

/-- Why there is no schema. -/
inductive LoadError where
  | ddl (error : SourceError)
  | build (error : BuildError)
  | document (errors : List String) (source : String)
  | longNumber (digits : Nat)
  | shape (fault : ShapeFault)
  | fileNotFound (path : String)
  | pathTooLong (path : String)
  | notText (fault : Text.Utf8.Fault)
  deriving Repr

/-- The complaints about a document in one line: the first three, and the number of the others. -/
def documentErrorMessage (errors : List String) (source : String) : String :=
  "invalid schema document" ++ (if source == "" then "" else " in " ++ source) ++ ": " ++
    "; ".intercalate (errors.take 3) ++
    if 3 < errors.length then " (+" ++ toString (errors.length - 3) ++ " more)" else ""

/-- The reason in words. -/
def LoadError.message : LoadError → String
  | .ddl e => e.message
  | .build e => e.message
  | .document errors source => documentErrorMessage errors source
  | .longNumber digits => Text.tooManyDigitsText digits
  | .shape f => f.message
  | .fileNotFound path => "Schema file not found: " ++ path
  | .pathTooLong path => PathFault.tooLongText path
  | .notText f => f.message

/-! ## Statements -/

/-- The kind of an alteration that changes nothing. -/
def Alteration.ignoredKind? : Alteration → Option String
  | .alterColumn _ _ => some "AlterColumn"
  | .setOnDelete _ => some "SetOnDelete"
  | .setOptions _ => some "SetOptions"
  | .other _ => some "OtherAlteration"
  | _ => none

/-- What is told about a statement that was applied. -/
def Statement.notice? : Statement → Option Notice
  | .createTable t => some (.createdTable t.name.name t.columns.length)
  | .alterTable name change => change.ignoredKind?.map fun kind => .ignoredAlteration kind name.name
  | .createIndex _ => none
  | .other _ _ => some (.ignoredStatement "OtherStatement")

namespace Draft

/-- Applies a statement or fails. -/
def consume (d : Draft) (s : Statement) : Traced Notice LoadError Draft :=
  match d.apply s with
  | (d', none) => ⟨s.notice?.toList, .ok d'⟩
  | (_, some e) => .fail (.build e)

/-- Applies statements in order, up to the first failure. -/
def consumeAll (d : Draft) : List Statement → Traced Notice LoadError Draft
  | [] => .done d
  | s :: ss => (d.consume s).andThen (consumeAll · ss)

/-- Parses a text and applies its statements. -/
def consumeText (d : Draft) (text source : String) : Traced Notice LoadError Draft :=
  match Statement.parse text source with
  | .error e => .fail (.ddl e)
  | .ok ss => (Traced.note (.parsed ss.length source)).andThen fun _ => d.consumeAll ss

end Draft

/-! ## Files -/

/-- The text of a schema file. The path is taken in its normal form. -/
def Workspace.readSchema (w : Workspace) (path : String) : Except LoadError String :=
  let normal := (Pathname.ofText path).text
  match w.entry normal with
  | .file content => (textOfBytes content).mapError .notText
  | .noPlace .tooLong => .error (.pathTooLong normal)
  | _ => .error (.fileNotFound normal)

namespace Schema

/-! ## From DDL -/

/-- The schema of a DDL text. -/
def ofDdl (text source : String) : Traced Notice LoadError Schema := do
  let d ← Draft.consumeText {} text source
  Traced.note (.built d.tables.length d.foreignKeys.length d.indexes.length source)
  return d.schema

/-- The draft behind files that are consumed in order. -/
def consumeFiles (w : Workspace) (d : Draft) : List String → Traced Notice LoadError Draft
  | [] => .done d
  | path :: paths => do
    let text ← Traced.ofExcept (w.readSchema path)
    let d ← d.consumeText text path
    consumeFiles w d paths

/-- The schema of DDL files; a later file may change what an earlier one made. -/
def ofDdlFiles (w : Workspace) (paths : List String) : Traced Notice LoadError Schema := do
  let d ← consumeFiles w {} paths
  Traced.note (.builtFromFiles d.tables.length)
  return d.schema

/-! ## Documents -/

/-- A foreign key without a name is named after its tables. -/
def nameKey (k : ForeignKey) : ForeignKey :=
  if k.name == "" then { k with name := k.referencingTable ++ "_" ++ k.referencedTable } else k

/-- The schema with a name for every foreign key. -/
def nameKeys (s : Schema) : Schema := { s with foreignKeys := s.foreignKeys.map nameKey }

/-- The schema of a document, with a name for every foreign key. -/
def ofDocument (doc : Json) : Except ShapeFault Schema := (Schema.ofJson doc).map nameKeys

/-! ## Putting schemas side by side -/

/-- Adds tables, which must have new names. -/
def addTables (s : Schema) : List Table → Except BuildError Schema
  | [] => .ok s
  | t :: ts =>
    if s.tableNames.contains t.name then .error (.duplicateTable t.name)
    else addTables { s with tables := s.tables ++ [t] } ts

/-- Adds everything in another schema. -/
def append (s t : Schema) : Except BuildError Schema :=
  (s.addTables t.tables).map fun r =>
    { r with
      foreignKeys := r.foreignKeys ++ t.foreignKeys
      indexes := r.indexes ++ t.indexes }

/-- The schemas side by side. -/
def merge (schemas : List Schema) : Except BuildError Schema :=
  schemas.foldlM append {}

/-- Adds what is loaded from each source in turn. Nothing is loaded behind a failure. -/
def mergeLoaded {α : Type} (load : α → Traced Notice LoadError Schema) (s : Schema) :
    List α → Traced Notice LoadError Schema
  | [] => .done s
  | x :: xs => do
    let t ← load x
    let s ← Traced.ofExcept ((s.append t).mapError .build)
    mergeLoaded load s xs

/-! ## From documents -/

/-- What is told about the names in a document that refer to nothing. -/
def issueNotices (issues : List String) (source : String) : List Notice :=
  if issues.isEmpty then []
  else .semanticIssues issues.length ::
    issues.map (.issue (if source == "" then "schema" else source))

/-- The schema of a decoded document. Names that refer to nothing are told, not refused. -/
def ofValue (doc : Json) (source : String) : Traced Notice LoadError Schema :=
  match validate doc false with
  | [] =>
    match readReferenceIssues doc with
    | .error fault => .fail (.shape fault)
    | .ok issues => ⟨issueNotices issues source, (ofDocument doc).mapError .shape⟩
  | errors => .fail (.document errors source)

/-- The schema of a document as text. -/
def ofJsonText (text source : String) : Traced Notice LoadError Schema :=
  match Json.read text.toList with
  | .error (.longNumber digits) => .fail (.longNumber digits)
  | .error f => .fail (.document ["invalid JSON: " ++ f.message text.toList] source)
  | .ok doc => ofValue doc source

/-- The schemas of documents as texts, which are numbered from one, side by side. -/
def ofJsonTexts (texts : List String) : Traced Notice LoadError Schema :=
  mergeLoaded (fun p => ofJsonText p.1 ("schema #" ++ toString (p.2 + 1))) {} texts.zipIdx

/-- The schemas of document files side by side. -/
def ofJsonFiles (w : Workspace) (paths : List String) : Traced Notice LoadError Schema :=
  mergeLoaded (fun path => do
    let text ← Traced.ofExcept (w.readSchema path)
    ofJsonText text path) {} paths

end Schema

end SpannerDdl
