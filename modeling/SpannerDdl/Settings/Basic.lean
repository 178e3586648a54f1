import SpannerDdl.Diagram.Format
import SpannerDdl.Files.Pathname
import SpannerDdl.Notice
import SpannerDdl.Text.UpperCase
import SpannerDdl.Traced
import SpannerDdl.Yaml.Document

/-! # Settings

Four settings steer the commands. Each is read from a value of any kind, or keeps what it was with
a warning.

* `Settings`: the settings with their built-in values.
* `Setting α`: how a setting of one kind is read and written; `Setting.level`, `Setting.pretty`,
  `Setting.indent`, `Setting.format`.
* `Setting.choose`: the setting that a value gives, or the one below it.
* `SettingWarning`, `SettingFault`: what is told, and what stops the reading.
-/

set_option autoImplicit false

namespace SpannerDdl

open Text (CodePoints)

/-- The settings: the least severity that is shown, whether documents are indented, by how many
spaces per level, and the format of diagrams. -/
structure Settings where
  level : Severity := .warning
  pretty : Bool := false
  indent : Nat := 2
  format : DiagramFormat := .mermaid
  deriving DecidableEq, Repr

/-! ## Warnings and faults -/

/-- The kinds of setting. -/
inductive SettingKind where
  | level
  | pretty
  | indent
  | format
  deriving DecidableEq, Repr

/-- What is told about settings: a file that cannot be read, keys that mean nothing, a section that
is not a map, and a value that is not used, with where it stands, its text and what is used
instead. -/
inductive SettingWarning where
  | unreadable (path : String)
  | unknownKey (key : CodePoints)
  | notMap (part : String)
  | unusable (kind : SettingKind) (place : String) (value : CodePoints) (kept : String)
  deriving DecidableEq, Repr

/-- What is said in front of a value that is not used. -/
def SettingKind.complaint : SettingKind → String
  | .level => "unknown log level"
  | .pretty => "expected a boolean, got"
  | .indent => "expected a non-negative integer, got"
  | .format => "unknown diagram format"

/-- A warning in words. It holds halves of pairs if a key or a value does. -/
def SettingWarning.message : SettingWarning → CodePoints
  | .unreadable path => .ofString ("Failed to parse config file " ++ path)
  | .unknownKey key =>
    .ofString "Unknown config key '" ++ key ++ CodePoints.ofString "', will be ignored"
  | .notMap part => .ofString (part ++ " should be a mapping, using defaults")
  | .unusable kind place value kept =>
    .ofString (place ++ ": " ++ kind.complaint ++ " '") ++ value ++
      CodePoints.ofString ("', using " ++ kept)

/-- What stops the reading of settings: an endless indentation, a path that is too long, or a file
that has no value or one that cannot be shown. -/
inductive SettingFault where
  | endlessIndent
  | pathTooLong (path : String)
  | yaml (fault : Yaml.Fault)
  deriving DecidableEq, Repr

/-- The reason in words. -/
def SettingFault.message : SettingFault → String
  | .endlessIndent => "cannot convert float infinity to integer"
  | .pathTooLong path => PathFault.tooLongText path
  | .yaml f => f.message

/-! ## Single settings -/

/-- How a setting is read from a value, where no answer means that the value cannot be used, and
how it is written, which fails for an indentation of too many digits. -/
structure Setting (α : Type) where
  kind : SettingKind
  read : Yaml.Tree → Except SettingFault (Option α)
  text : α → Except SettingFault String

namespace Setting

/-- The text of a value. -/
def plain (v : Yaml.Tree) : Except SettingFault CodePoints := v.plain.mapError .yaml

/-- The words of a value without blanks around them. A text with halves of pairs is no word. -/
def word? (v : Yaml.Tree) : Except SettingFault (Option String) :=
  (plain v).map fun text => text.toString?.map Text.trim

/-- A severity is given by its name in any case. -/
def level : Setting Severity where
  kind := .level
  read v := (word? v).map fun word => word.bind fun w => Severity.ofName? (Text.upper w)
  text severity := .ok severity.name

/-- The words for yes. -/
def trueWords : List String := ["1", "true", "yes", "on"]

/-- The words for no. -/
def falseWords : List String := ["0", "false", "no", "off", ""]

/-- The truth value of a word in any case. Lower case beyond ASCII gives no letter that a setting is
spelled with. -/
def truth? (word : String) : Option Bool :=
  if trueWords.contains word.toLower then some true
  else if falseWords.contains word.toLower then some false
  else none

/-- A truth value is given as such or by a word. -/
def pretty : Setting Bool where
  kind := .pretty
  read v :=
    match v with
    | .scalar (.bool b) => .ok (some b)
    | v => (word? v).map fun word => word.bind truth?
  text b := .ok (if b then "True" else "False")

/-- The integer that a value is taken for: a text or bytes are read, and a number loses its
fraction. -/
def integer : Yaml.Tree → Except SettingFault (Option Int)
  | .scalar (.int n) => .ok (some n)
  | .scalar (.str s) => .ok (s.toString?.bind Text.integer?)
  | .scalar (.bytes bs) =>
    .ok (if bs.all (· < 0x80) then
      Text.integer? (String.ofList (bs.map fun b => Char.ofNat b.toNat)) else none)
  | .scalar (.float x) =>
    match Decimal.Binary.ofFloat x with
    | .infinite _ => .error .endlessIndent
    | _ => .ok (Decimal.truncate? x)
  | _ => .ok none

/-- An indentation is an integer that is not negative. -/
def indent : Setting Nat where
  kind := .indent
  read v := (integer v).map fun n => n.bind fun n => if n < 0 then none else some n.toNat
  text n := (Yaml.Scalar.int n).literal.mapError .yaml

/-- A format is given by its name in any case. -/
def format : Setting DiagramFormat where
  kind := .format
  read v := (word? v).map fun word => word.bind fun w => DiagramFormat.ofName? w.toLower
  text format := .ok format.name

variable {α : Type}

/-- Keeps a setting as it was and tells that a value at a place is not used. Both have to be
shown. -/
def refuse (s : Setting α) (place : String) (v : Yaml.Tree) (kept : α) :
    Traced SettingWarning SettingFault α := do
  let value ← Traced.ofExcept (plain v)
  let used ← Traced.ofExcept (s.text kept)
  Traced.note (.unusable s.kind place value used)
  return kept

/-- The setting that a value at a place gives. Without a value, or with one that cannot be used, it
is what it was; the latter is told. -/
def choose (s : Setting α) (place : String) (v : Option Yaml.Tree) (kept : α) :
    Traced SettingWarning SettingFault α :=
  match v with
  | none => .done kept
  | some v => do
    match ← Traced.ofExcept (s.read v) with
    | some a => return a
    | none => s.refuse place v kept

theorem choose_of_read (s : Setting α) (place : String) {v : Yaml.Tree} {a : α} (kept : α)
    (h : s.read v = .ok (some a)) : s.choose place (some v) kept = .done a := by
  rw [choose, Traced.bind_of_ok _ h]
  rfl

theorem choose_of_unread (s : Setting α) (place : String) {v : Yaml.Tree} (kept : α)
    (h : s.read v = .ok none) : s.choose place (some v) kept = s.refuse place v kept := by
  rw [choose, Traced.bind_of_ok _ h]
  rfl

theorem choose_of_fault (s : Setting α) (place : String) {v : Yaml.Tree} {e : SettingFault}
    (kept : α) (h : s.read v = .error e) : s.choose place (some v) kept = .fail e := by
  rw [choose, Traced.bind_of_error _ h]
  rfl

theorem refuse_of_shown (s : Setting α) (place : String) {v : Yaml.Tree} {kept : α}
    {value : CodePoints} {used : String} (h : plain v = .ok value) (h' : s.text kept = .ok used) :
    s.refuse place v kept = ⟨[.unusable s.kind place value used], .ok kept⟩ := by
  rw [refuse, Traced.bind_of_ok _ h, Traced.bind_of_ok _ h']
  rfl

end Setting

end SpannerDdl
