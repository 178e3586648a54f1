import SpannerDdl.CommandLine.Outcome
import SpannerDdl.Json.Printer

/-! # The command that exports schemas

The command reads DDL from a file or from its standard input and prints the document of its schema.

* `ExportArguments`: the arguments, `ExportArguments.parse` from words.
* `exportDocument i`: the outcome of an invocation.
-/

set_option autoImplicit false

namespace SpannerDdl

/-- The arguments of the command. The file may be given in two ways. -/
structure ExportArguments where
  path : Option String := none
  inputPath : Option String := none
  pretty : Option Bool := none
  verbose : Bool := false
  deriving DecidableEq, Repr

namespace ExportArguments

/-- What the options are for. -/
inductive Tag where
  | help
  | input
  | pretty
  | verbose
  deriving DecidableEq, Repr

/-- The name of the command. -/
def command : String := "spannerspy-ddl"

/-- The options. -/
def specs : List (OptionSpec Tag) := [
  { tag := .help, names := ["-h", "--help"], kind := .help },
  { tag := .input, names := ["--input"], kind := .value },
  { tag := .pretty, names := ["--pretty"], kind := .flag },
  { tag := .verbose, names := ["--verbose"], kind := .flag }]

/-- The arguments after one more option. -/
def addOption (a : ExportArguments) : Tag × String → ExportArguments
  | (.help, _) => a
  | (.input, path) => { a with inputPath := some path }
  | (.pretty, _) => { a with pretty := some true }
  | (.verbose, _) => { a with verbose := true }

/-- A path that is given and not empty. -/
def given (path : Option String) : Option String := path.filter (· != "")

/-- The file to be read, if one is given. -/
def file? (a : ExportArguments) : Option String := (given a.inputPath).or a.path

/-- The arguments that words give. Two paths have to be the same. -/
def parse (words : List String) : Except UsageStop ExportArguments := do
  let reading ← OptionSpec.parse specs .one words
  let reading ← reading.complete
  let a := reading.options.foldl addOption { path := reading.arguments.head? }
  match given a.path, given a.inputPath with
  | some p, some q => if p = q then return a else .error (.error .twoPaths)
  | _, _ => return a

end ExportArguments

/-! ## Exporting -/

/-- The name under which the standard input appears in messages. -/
def inputSource : String := "<stdin>"

/-- The text to be read and the name of its source. -/
def Invocation.source (i : Invocation) (path : Option String) :
    Except ReadFault (String × String) :=
  match path.filter fun p => p != "" && p != "-" with
  | none => ((textOfBytes i.input).mapError .notText).map fun text => (text, inputSource)
  | some p => (i.workspace.read p).map fun text => (text, p)

/-- Exports with the given arguments and settings. -/
def exportWith (i : Invocation) (a : ExportArguments) (s : Settings) : Outcome :=
  match i.source a.file? with
  | .error (.noPlace .holdsNul) => { ending := .crash (.path .holdsNul) }
  | .error f =>
    .failure ("cannot read " ++ ((ExportArguments.given a.file?).getD inputSource) ++ ": " ++
      f.message) ""
  | .ok (text, source) =>
    let t := Schema.ofDdl text source
    let told := Outcome.shown (Outcome.level a.verbose s) t.notes
    match t.result with
    | .error e => .failure e.message told
    | .ok schema =>
      let layout := if a.pretty.getD s.pretty then .indented s.indent else Json.Layout.compact
      match Json.dump layout schema.toJson with
      | .error f => { ending := .crash (.dump f), errors := told }
      | .ok text => { ending := .exit 0, output := text ++ "\n", errors := told }

/-- Carries out the command. -/
def exportDocument (i : Invocation) : Outcome :=
  match ExportArguments.parse i.words with
  | .error stop => .ofUsage ExportArguments.command stop
  | .ok a => .withSettings i (exportWith i a)

end SpannerDdl
