import SpannerDdl.Files.Workspace
import SpannerDdl.Settings.Basic
import SpannerDdl.Yaml.Source

/-! # Layers of settings

The built-in settings are covered by those of a file, and these by the environment.

* `Settings.ofDocument d`: the settings of a decoded file.
* `Settings.ofFile w path`: the settings of a file; without a path, of the default file.
* `Environment`: the variables that give settings.
* `Settings.ofEnvironment w env`: the settings of all layers.
* `Settings.get w env cached`: the same, unless they were computed before.
-/

set_option autoImplicit false

namespace SpannerDdl

namespace Settings

/-! ## Files -/

/-- The sections of a file and the keys of each. -/
def sections : List (String × List String) :=
  [("logging", ["level"]), ("output", ["pretty", "indent"]), ("diagram", ["format"])]

/-- Whether a key is one of the given texts. -/
def isKnown (known : List String) (key : Yaml.Scalar) : Bool :=
  known.any fun name => key.isSameKey (.str (.ofString name))

/-- Tells the keys of a map that are not known, with the name of the section in front. -/
def noteUnknown (section? : Option String) (known : List String)
    (pairs : List (Yaml.Scalar × Yaml.Value)) : Traced SettingWarning SettingFault Unit :=
  ((pairs.map Prod.fst).filter (!isKnown known ·)).forM fun key => do
    let text ← Traced.ofExcept (key.plain.mapError .yaml)
    Traced.note (.unknownKey (((section?.map fun name =>
      Text.CodePoints.ofString (name ++ ".")).getD []) ++ text))

/-- The pairs of a section of a file, none if it is missing or not a map. -/
def partOf (d : Yaml.Document) (pairs : List (Yaml.Scalar × Yaml.Value)) (name : String) :
    Traced SettingWarning SettingFault (List (Yaml.Scalar × Yaml.Value)) :=
  match Yaml.Document.lookup pairs name with
  | none => .done []
  | some (.scalar .null) => .done []
  | some v =>
    match d.pairs? v with
    | some part => do
      noteUnknown (some name) ((sections.lookup name).getD []) part
      return part
    | none => ⟨[.notMap name], .ok []⟩

/-- The settings of a decoded file. What is not a map gives none. -/
def ofDocument (d : Yaml.Document) : Traced SettingWarning SettingFault Settings :=
  let base : Settings := {}
  match d.pairs? d.root with
  | none => .done base
  | some pairs => do
    noteUnknown none (sections.map Prod.fst) pairs
    let value (part : List (Yaml.Scalar × Yaml.Value)) (key : String) : Option Yaml.Tree :=
      (Yaml.Document.lookup part key).map d.tree
    let logging ← partOf d pairs "logging"
    let level ← Setting.level.choose "logging.level" (value logging "level") base.level
    let output ← partOf d pairs "output"
    let pretty ← Setting.pretty.choose "output.pretty" (value output "pretty") base.pretty
    let indent ← Setting.indent.choose "output.indent" (value output "indent") base.indent
    let diagram ← partOf d pairs "diagram"
    let format ← Setting.format.choose "diagram.format" (value diagram "format") base.format
    return { level, pretty, indent, format }

/-- The file that is read if no other is named. -/
def defaultPath : String := "spannerspy.yaml"

/-- The settings of the content of a file. A malformed one gives none, which is told. -/
def ofContent (path : String) (content : List UInt8) :
    Traced SettingWarning SettingFault Settings :=
  match Yaml.Document.ofBytes content with
  | .error .malformed => ⟨[.unreadable path], .ok {}⟩
  | .error f => .fail (.yaml f)
  | .ok d => ofDocument d

/-- The settings of a file. A missing file gives none; nor does a directory, which is told. -/
def ofFile (w : Workspace) (path : Option String) : Traced SettingWarning SettingFault Settings :=
  let path := (Pathname.ofText (path.getD defaultPath)).text
  match w.entry path with
  | .absent => .done {}
  | .behindFile => .done {}
  | .noPlace .holdsNul => .done {}
  | .noPlace .tooLong => .fail (.pathTooLong path)
  | .directory => ⟨[.unreadable path], .ok {}⟩
  | .file content => ofContent path content
  | .device content => ofContent path content

end Settings

/-! ## The environment -/

/-- The variables that give settings, where they are set. -/
structure Environment where
  configPath : Option String := none
  level : Option String := none
  pretty : Option String := none
  indent : Option String := none
  format : Option String := none
  deriving DecidableEq, Repr

/-- The environment of the given variables. -/
def Environment.ofVariables (given : List (String × String)) : Environment where
  configPath := given.lookup "SPANNERSPY_CONFIG"
  level := given.lookup "SPANNERSPY_LOG_LEVEL"
  pretty := given.lookup "SPANNERSPY_PRETTY"
  indent := given.lookup "SPANNERSPY_INDENT"
  format := given.lookup "SPANNERSPY_FORMAT"

namespace Settings

/-- A text of the environment as a value. -/
def given (text : String) : Yaml.Tree := .scalar (.str (.ofString text))

/-- The settings with those of the environment over them. -/
def override (s : Settings) (env : Environment) : Traced SettingWarning SettingFault Settings := do
  let level ← Setting.level.choose "SPANNERSPY_LOG_LEVEL" (env.level.map given) s.level
  let pretty ← Setting.pretty.choose "SPANNERSPY_PRETTY" (env.pretty.map given) s.pretty
  let indent ← Setting.indent.choose "SPANNERSPY_INDENT" (env.indent.map given) s.indent
  let format ← Setting.format.choose "SPANNERSPY_FORMAT" (env.format.map given) s.format
  return { level, pretty, indent, format }

/-- The settings of all layers. An empty name of a file counts as none. -/
def ofEnvironment (w : Workspace) (env : Environment) :
    Traced SettingWarning SettingFault Settings := do
  let s ← ofFile w (env.configPath.filter (· != ""))
  s.override env

/-- The settings that were computed before, or those of all layers. -/
def get (w : Workspace) (env : Environment) (cached : Option Settings) :
    Traced SettingWarning SettingFault Settings :=
  match cached with
  | some s => .done s
  | none => ofEnvironment w env

end Settings

end SpannerDdl
