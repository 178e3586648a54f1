import SpannerDdl.Diagram.Mermaid
import SpannerDdl.Json.Printer

/-! # Diagram formats

* `DiagramFormat`: the formats, `DiagramFormat.name` and `DiagramFormat.ofName?` between them and
  their names.
* `Diagram.render format indent d`: the text of a diagram.
-/

set_option autoImplicit false

namespace SpannerDdl

/-- The formats of a diagram; `mmd` is a second name for Mermaid text. -/
inductive DiagramFormat where
  | mermaid
  | mmd
  | json
  deriving DecidableEq, Repr

namespace DiagramFormat

/-- All formats. -/
def all : List DiagramFormat := [.mermaid, .mmd, .json]

/-- The name of a format. -/
def name : DiagramFormat → String
  | .mermaid => "mermaid"
  | .mmd => "mmd"
  | .json => "json"

/-- The format of a name. -/
def ofName? (name : String) : Option DiagramFormat := all.find? fun f => f.name == name

theorem ofName?_name (f : DiagramFormat) : ofName? f.name = some f := by
  cases f <;> decide

theorem ofName?_eq_some_iff {n : String} {f : DiagramFormat} :
    ofName? n = some f ↔ n = f.name := by
  constructor
  · intro h
    rw [ofName?] at h
    have found := List.find?_some h
    exact (eq_of_beq found).symm
  · rintro rfl
    exact ofName?_name f

/-- The format without its second name. -/
def canonical : DiagramFormat → DiagramFormat
  | .mermaid => .mermaid
  | .mmd => .mermaid
  | .json => .json

end DiagramFormat

/-- The text of a diagram. As JSON it is indented by the given number of spaces per level. -/
def Diagram.render (format : DiagramFormat) (indent : Int) (d : Diagram) :
    Except Json.DumpFault String :=
  match format with
  | .json => Json.dump (.indented indent) d.toJson
  | .mermaid => .ok d.mermaid
  | .mmd => .ok d.mermaid

end SpannerDdl
