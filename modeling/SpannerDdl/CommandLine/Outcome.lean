import SpannerDdl.CommandLine.Options
import SpannerDdl.Json.Printer
import SpannerDdl.Schema.Loading
import SpannerDdl.Settings.Layers

/-! # What a command does

* `Invocation`: what a command is given.
* `Outcome`: how it ends and what it leaves behind.
* `Outcome.ofUsage`, `Outcome.ofSettings`, `Outcome.failure`: the beginning that all commands share.
-/

set_option autoImplicit false

namespace SpannerDdl

/-- The words behind the name of a command, its environment, its files and its standard input. -/
structure Invocation where
  words : List String
  environment : Environment := {}
  workspace : Workspace
  input : List UInt8 := []

/-- A fault that a command does not answer for. -/
inductive Crash where
  | setting (fault : SettingFault)
  | path (fault : PathFault)
  | dump (fault : Json.DumpFault)
  | shape (fault : ShapeFault)
  | write (fault : WriteFault)
  deriving DecidableEq, Repr

/-- The reason in words. -/
def Crash.message : Crash → String
  | .setting f => f.message
  | .path f => f.message
  | .dump f => f.message
  | .shape f => f.message
  | .write f => f.message

/-- How a command ends: with an exit code or in a fault. -/
inductive Ending where
  | exit (code : Nat)
  | crash (crash : Crash)
  deriving DecidableEq, Repr

/-- How a command ends, what it prints, what it tells about settings, and what it writes to a
file. -/
structure Outcome where
  ending : Ending
  output : String := ""
  errors : String := ""
  warnings : List SettingWarning := []
  writing : Option Writing := none
  deriving Repr

namespace Outcome

/-- Lines of text, each ended by a line feed. -/
def lines (ls : List String) : String := String.join (ls.map (· ++ "\n"))

/-- The notices that are shown from a severity on, each on a line. -/
def shown (level : Severity) (notices : List Notice) : String :=
  lines ((notices.filter (·.isAtLeast level)).map Notice.message)

/-- The end of a command that is used wrongly or asked for help. -/
def ofUsage (command : String) : UsageStop → Outcome
  | .help => { ending := .exit 0 }
  | .error e =>
    { ending := .exit 2, errors := lines [command ++ ": error: " ++ e.message] }

/-- The end of a command that fails in the given way. -/
def failure (message errors : String) : Outcome :=
  { ending := .exit 1, errors := errors ++ lines ["error: " ++ message] }

/-- Goes on with the settings of an invocation. -/
def withSettings (i : Invocation) (run : Settings → Outcome) : Outcome :=
  let t := Settings.ofEnvironment i.workspace i.environment
  match t.result with
  | .error f => { ending := .crash (.setting f), warnings := t.notes }
  | .ok s => { run s with warnings := t.notes }

/-- The severity from which notices are shown: all of them if asked for, else as set. -/
def level (verbose : Bool) (s : Settings) : Severity := if verbose then .debug else s.level

end Outcome

end SpannerDdl
