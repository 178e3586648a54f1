import SpannerDdl.Diagram.Basic

/-! # Mermaid text

A diagram is written as an `erDiagram`: a block of lines per entity, then a line per edge. The
notation allows letters, digits and underscores only in the identifiers of entities.

* `Mermaid.identifier s`: a text with an underscore for every other character.
* `Diagram.mermaidLines d`: the lines of a diagram.
* `Diagram.mermaid d`: its text.
-/

set_option autoImplicit false

namespace SpannerDdl

namespace Mermaid

/-- Letters and digits of ASCII, and the underscore. -/
def isIdentifierChar (c : Char) : Bool := c.isAlphanum || c == '_'

/-- A text with an underscore for every character that identifiers do not allow. -/
def identifier (s : String) : String :=
  String.ofList (s.toList.map fun c => if isIdentifierChar c then c else '_')

/-- A text of allowed characters is its own identifier. -/
theorem identifier_of_all {s : String} (h : ∀ c ∈ s.toList, isIdentifierChar c = true) :
    identifier s = s := by
  have h1 : (s.toList.map fun c => if isIdentifierChar c then c else '_') = s.toList.map id :=
    List.map_congr_left fun c hc => by simp [h c hc]
  rw [List.map_id] at h1
  rw [identifier, h1, String.ofList_toList]

end Mermaid

/-- The block of an entity: its identifier and its fields between braces. -/
def Entity.mermaidLines (e : Entity) : List String :=
  ("  " ++ Mermaid.identifier e.id ++ " \x7b") :: e.fields.map ("    " ++ ·) ++ ["  \x7d"]

/-- The line of an edge, from many to exactly one. -/
def Edge.mermaidLine (e : Edge) : String :=
  "  " ++ Mermaid.identifier e.source ++ " \x7do--|| " ++ Mermaid.identifier e.target ++
    (if e.label == "" then "" else " : " ++ e.label)

namespace Diagram

/-- The lines of a diagram. -/
def mermaidLines (d : Diagram) : List String :=
  "erDiagram" :: d.entities.flatMap Entity.mermaidLines ++ d.edges.map Edge.mermaidLine

/-- The text of a diagram, without a line feed at its end. -/
def mermaid (d : Diagram) : String := "\n".intercalate d.mermaidLines

end Diagram

end SpannerDdl
