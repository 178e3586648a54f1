import SpannerDdl.Diagram.Format
import SpannerDdl.Schema.Loading

/-! # Requests

A request gives one schema source, out of six kinds, to be turned into a schema or a diagram.

* `Request`: the sources of a request; those that are empty count as not given.
* `Request.schema w r`: the schema of a request.
* `Request.diagram w r format`: its diagram as text.
-/

set_option autoImplicit false

namespace SpannerDdl

/-- The sources of a request: the sample, schema documents as texts or files, and DDL as text or
files. -/
structure Request where
  sample : Bool := false
  schemaJson : String := ""
  schemaJsons : List String := []
  schemaPaths : List String := []
  ddl : String := ""
  ddlPaths : List String := []
  deriving DecidableEq, Repr

/-- Why a request is not answered. -/
inductive RequestError where
  | noSource
  | severalSources (names : List String)
  | unknownFormat (name : String)
  | load (error : LoadError)
  | dump (fault : Json.DumpFault)
  deriving Repr

/-- The reason in words. -/
def RequestError.message : RequestError → String
  | .noSource => "Provide one schema source: sample, schema_json, schema_jsons, " ++
      "schema_paths, ddl, or ddl_paths."
  | .severalSources names =>
    "Use exactly one schema source at a time (got " ++ ", ".intercalate names ++ ")."
  | .unknownFormat name => "Unsupported format: " ++ name
  | .load e => e.message
  | .dump f => f.message

namespace Request

/-- The name under which DDL text appears in messages. -/
def ddlSource : String := "<ddl>"

/-- The names of the given sources. -/
def given (r : Request) : List String :=
  (if r.sample then ["sample"] else []) ++
    (if r.schemaJson == "" then [] else ["schema_json"]) ++
    (if r.schemaJsons.isEmpty then [] else ["schema_jsons"]) ++
    (if r.schemaPaths.isEmpty then [] else ["schema_paths"]) ++
    (if r.ddl == "" then [] else ["ddl"]) ++
    (if r.ddlPaths.isEmpty then [] else ["ddl_paths"])

/-- The schema of the first source that is given. -/
def load (w : Workspace) (r : Request) : Traced Notice LoadError Schema :=
  if r.sample then .done Schema.sample
  else if r.schemaJson != "" then Schema.ofJsonText r.schemaJson "schema_json"
  else if !r.schemaJsons.isEmpty then Schema.ofJsonTexts r.schemaJsons
  else if !r.schemaPaths.isEmpty then Schema.ofJsonFiles w r.schemaPaths
  else if r.ddl != "" then Schema.ofDdl r.ddl ddlSource
  else Schema.ofDdlFiles w r.ddlPaths

/-- The schema of the only source that is given. -/
def schema (w : Workspace) (r : Request) : Traced Notice RequestError Schema :=
  match r.given with
  | [] => .fail .noSource
  | [_] => (r.load w).mapError .load
  | names => .fail (.severalSources names)

/-- The number of spaces per level of an answer in JSON. -/
def indentWidth : Int := 2

/-- The diagram of the only source that is given, in the format of the given name. -/
def diagram (w : Workspace) (r : Request) (format : String) : Traced Notice RequestError String :=
  match DiagramFormat.ofName? format with
  | none => .fail (.unknownFormat format)
  | some f => do
    let s ← r.schema w
    Traced.ofExcept ((s.diagram.render f indentWidth).mapError .dump)

end Request

end SpannerDdl
