import SpannerDdl.CommandLine.Outcome
import SpannerDdl.Diagram.Format

/-! # The command that draws diagrams

The command draws the diagram of one schema source: the sample, schema documents or DDL files.

* `DrawArguments`: the arguments, `DrawArguments.parse` from words.
* `draw i`: the outcome of an invocation.
-/

set_option autoImplicit false

namespace SpannerDdl

/-- The arguments of the command. -/
structure DrawArguments where
  inputPaths : List String := []
  ddlPaths : List String := []
  sample : Bool := false
  format : Option DiagramFormat := none
  output : Option Pathname := none
  verbose : Bool := false
  deriving DecidableEq, Repr

namespace DrawArguments

/-- What the options are for. -/
inductive Tag where
  | help
  | input
  | ddl
  | sample
  | format
  | output
  | verbose
  deriving DecidableEq, Repr

/-- The name of the command. -/
def command : String := "spannerspy"

/-- The format that a word names in any case. -/
def format? (word : String) : Option DiagramFormat :=
  (DiagramFormat.ofName? word.toLower).map DiagramFormat.canonical

/-- The options. -/
def specs : List (OptionSpec Tag) := [
  { tag := .help, names := ["-h", "--help"], kind := .help },
  { tag := .input, names := ["-i", "--input"], kind := .value },
  { tag := .ddl, names := ["-d", "--ddl"], kind := .value },
  { tag := .sample, names := ["--sample"], kind := .flag },
  { tag := .format, names := ["-f", "--format"], kind := .value,
    accepts := fun word => (format? word).isSome },
  { tag := .output, names := ["-o", "--output"], kind := .value },
  { tag := .verbose, names := ["--verbose"], kind := .flag }]

/-- The arguments after one more option. -/
def addOption (a : DrawArguments) : Tag × String → DrawArguments
  | (.help, _) => a
  | (.input, path) => { a with inputPaths := a.inputPaths ++ [path] }
  | (.ddl, path) => { a with ddlPaths := a.ddlPaths ++ [path] }
  | (.sample, _) => { a with sample := true }
  | (.format, word) => { a with format := format? word }
  | (.output, path) => { a with output := some (Pathname.ofText path) }
  | (.verbose, _) => { a with verbose := true }

/-- The arguments that words give. Words that are no options are further documents. -/
def parse (words : List String) : Except UsageStop DrawArguments := do
  let reading ← OptionSpec.parseIntermixed specs words
  let reading ← reading.complete
  let a := reading.options.foldl addOption {}
  return { a with inputPaths := a.inputPaths ++ reading.arguments }

end DrawArguments

/-! ## Drawing -/

/-- Why there is nothing to draw. -/
inductive DrawError where
  | noSource
  | severalSources
  | load (error : LoadError)
  deriving Repr

/-- The reason in words. -/
def DrawError.message : DrawError → String
  | .noSource => "No schema input provided. Use --sample, --input path/to/schema.json, " ++
      "or --ddl path/to/schema.sql."
  | .severalSources => "Use only one schema source: --sample, --input, or --ddl."
  | .load e => e.message

/-- The schema of the only source among the arguments. -/
def DrawArguments.schema (w : Workspace) (a : DrawArguments) :
    Traced Notice DrawError Schema :=
  match a.sample, a.inputPaths, a.ddlPaths with
  | false, [], [] => .fail .noSource
  | true, [], [] => .done Schema.sample
  | false, [], paths => (Schema.ofDdlFiles w paths).mapError .load
  | false, paths, [] => (Schema.ofJsonFiles w paths).mapError .load
  | _, _, _ => .fail .severalSources

/-- Draws with the given arguments and settings. -/
def drawWith (w : Workspace) (a : DrawArguments) (s : Settings) : Outcome :=
  let level := Outcome.level a.verbose s
  let t := a.schema w
  let told := Outcome.shown level t.notes
  match t.result with
  | .error (.load (.shape f)) => { ending := .crash (.shape f), errors := told }
  | .error e => .failure e.message told
  | .ok schema =>
    match schema.diagram.render (a.format.getD s.format) s.indent, a.output with
    | .error f, _ => { ending := .crash (.dump f), errors := told }
    | .ok text, none => { ending := .exit 0, output := text ++ "\n", errors := told }
    | .ok text, some path =>
      match w.write path text with
      | .error f => { ending := .crash (.write f), errors := told, writing := f.left? }
      | .ok writing =>
        { ending := .exit 0
          output := "Diagram written to " ++ path.text ++ "\n"
          errors := told ++ Outcome.shown level [.wrote writing.path.text]
          writing := some writing }

/-- Carries out the command. -/
def draw (i : Invocation) : Outcome :=
  match DrawArguments.parse i.words with
  | .error stop => .ofUsage DrawArguments.command stop
  | .ok a => .withSettings i (drawWith i.workspace a)

end SpannerDdl
