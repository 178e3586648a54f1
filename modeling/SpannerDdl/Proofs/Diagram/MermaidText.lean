import SpannerDdl.Diagram.Mermaid
import SpannerDdl.Proofs.Text.Separated

/-! # Diagrams told from their Mermaid text

Where identifiers are left as they are and no field or label breaks a line, the text of a diagram is
read back: each line says by its first characters whether it opens a block, holds a field, closes a
block or draws an edge, whatever the fields and labels look like.

* `Mermaid.Line`: what a line says; `Line.text` writes it and `Line.ofText` reads it.
* `Diagram.lines d`: the lines of a diagram behind the heading; `Diagram.ofLines` puts a diagram
  together from lines.
* `Diagram.ofMermaid text`: the diagram that a text shows.
* `Diagram.IsLegible`: the diagrams that are read back.
* `Diagram.mermaid_eq_iff_of_isLegible`: their texts tell them apart. -/

set_option autoImplicit false

namespace SpannerDdl

namespace Mermaid

/-! ## Lines -/

/-- A text that stands for an entity as it is. -/
def IsIdentifier (s : String) : Prop := s ≠ "" ∧ ∀ c ∈ s.toList, isIdentifierChar c = true

instance : DecidablePred IsIdentifier := fun s =>
  decidable_of_iff (s ≠ "" ∧ s.toList.all isIdentifierChar = true)
    (and_congr_right fun _ => List.all_eq_true)

/-- What a line behind the heading says. -/
inductive Line where
  | opening (identifier : String)
  | field (text : String)
  | closing
  | edge (source target label : String)
  deriving DecidableEq, Repr

namespace Line

/-- How a line is written. -/
def text : Line → String
  | .opening identifier => "  " ++ identifier ++ " \x7b"
  | .field text => "    " ++ text
  | .closing => "  \x7d"
  | .edge source target label =>
    "  " ++ source ++ " \x7do--|| " ++ target ++ (if label == "" then "" else " : " ++ label)

/-- A line that is read back, and that is one line. -/
def IsLegible : Line → Prop
  | .opening identifier => IsIdentifier identifier
  | .field text => '\n' ∉ text.toList
  | .closing => True
  | .edge source target label =>
    IsIdentifier source ∧ IsIdentifier target ∧ '\n' ∉ label.toList

/-- What a line says, told from what stands behind its indentation. Only fields and closing braces
have no identifier there. -/
def ofText (line : List Char) : Line :=
  let body := line.drop 2
  let name := body.takeWhile isIdentifierChar
  let behind := body.dropWhile isIdentifierChar
  if name = [] then
    if body = ['\x7d'] then .closing else .field (String.ofList (body.drop 2))
  else if behind = [' ', '\x7b'] then .opening (String.ofList name)
  else
    -- Behind the arrow stands the second identifier, and the label behind a colon between blanks.
    let ending := behind.drop 8
    .edge (String.ofList name) (String.ofList (ending.takeWhile isIdentifierChar))
      (String.ofList ((ending.dropWhile isIdentifierChar).drop 3))

theorem ofText_opening {identifier : String} (h : IsIdentifier identifier) :
    ofText (text (.opening identifier)).toList = .opening identifier := by
  obtain ⟨ne, chars⟩ := h
  have body : (text (.opening identifier)).toList.drop 2 = identifier.toList ++ [' ', '\x7b'] := by
    simp [text]
  have brace : ∀ a ∈ [' ', '\x7b'].head?, isIdentifierChar a = false := by
    intro a ha
    cases ha
    rfl
  have name := Text.takeWhile_append_of_stop chars brace
  have behind := Text.dropWhile_append_of_stop chars brace
  simp [ofText, body, name, behind, ne]

theorem ofText_edge {source target label : String} (hs : IsIdentifier source)
    (ht : IsIdentifier target) :
    ofText (text (.edge source target label)).toList = .edge source target label := by
  obtain ⟨ne, chars⟩ := hs
  obtain ⟨-, chars'⟩ := ht
  -- What stands behind the second identifier: nothing, or the label.
  obtain ⟨ending, he⟩ : ∃ cs, cs = (if label == "" then "" else " : " ++ label).toList := ⟨_, rfl⟩
  have label_eq : ending.drop 3 = label.toList := by
    by_cases empty : label = ""
    · simp [he, empty]
    · simp [he, empty]
  have stops : ∀ a ∈ ending.head?, isIdentifierChar a = false := by
    by_cases empty : label = ""
    · simp [he, empty]
    · simp [he, empty, isIdentifierChar]
  have body : (text (.edge source target label)).toList.drop 2 =
      source.toList ++ (" \x7do--|| ".toList ++ (target.toList ++ ending)) := by
    simp [text, he]
  have arrow : ∀ a ∈ (" \x7do--|| ".toList ++ (target.toList ++ ending)).head?,
      isIdentifierChar a = false := by
    simp [isIdentifierChar]
  have name := Text.takeWhile_append_of_stop chars arrow
  have behind := Text.dropWhile_append_of_stop chars arrow
  have name' := Text.takeWhile_append_of_stop chars' stops
  have behind' := Text.dropWhile_append_of_stop chars' stops
  simp only [ofText, body, name, behind]
  simp [ne, name', behind', label_eq]

/-- A legible line is read back. -/
theorem ofText_text {l : Line} (h : l.IsLegible) : ofText l.text.toList = l := by
  cases l with
  | opening identifier => exact ofText_opening h
  | field text => simp [ofText, Line.text, isIdentifierChar]
  | closing => rfl
  | edge source target label => exact ofText_edge h.1 h.2.1

end Line

theorem IsIdentifier.notMem_newline {s : String} (h : IsIdentifier s) : '\n' ∉ s.toList := by
  intro hn
  have char := h.2 _ hn
  cases char

theorem Line.notMem_newline_text {l : Line} (h : l.IsLegible) : '\n' ∉ l.text.toList := by
  cases l with
  | opening identifier =>
    have free := IsIdentifier.notMem_newline h
    simp [text, free]
  | field text =>
    have free : '\n' ∉ text.toList := h
    simp [Line.text, free]
  | closing => decide
  | edge source target label =>
    obtain ⟨hs, ht, free⟩ := h
    by_cases empty : label = ""
    · simp [text, empty, hs.notMem_newline, ht.notMem_newline]
    · simp [text, empty, hs.notMem_newline, ht.notMem_newline, free]

end Mermaid

open Mermaid

/-! ## Diagrams as lines -/

/-- The block of an entity. -/
def Entity.lines (e : Entity) : List Line :=
  .opening (identifier e.id) :: e.fields.map .field ++ [.closing]

/-- The line of an edge. -/
def Edge.line (e : Edge) : Line := .edge (identifier e.source) (identifier e.target) e.label

/-- The lines of a diagram behind the heading. -/
def Diagram.lines (d : Diagram) : List Line :=
  d.entities.flatMap Entity.lines ++ d.edges.map Edge.line

theorem Entity.mermaidLines_eq (e : Entity) : e.mermaidLines = e.lines.map Line.text := by
  simp [mermaidLines, lines, Line.text, Function.comp_def]

theorem Diagram.mermaid_eq (d : Diagram) :
    d.mermaid = "\n".intercalate ("erDiagram" :: d.lines.map Line.text) := by
  have blocks : d.entities.flatMap Entity.mermaidLines =
      (d.entities.flatMap Entity.lines).map Line.text := by
    rw [List.map_flatMap]
    exact congrArg d.entities.flatMap (funext Entity.mermaidLines_eq)
  have drawn : d.edges.map Edge.mermaidLine = (d.edges.map Edge.line).map Line.text := by
    rw [List.map_map]
    rfl
  rw [mermaid, mermaidLines, blocks, drawn, lines, List.map_append, List.cons_append]

/-- A line put in front of a diagram and of the fields of a block that is not opened yet. -/
def Mermaid.Line.putBefore : Line → List String × Diagram → List String × Diagram
  | .opening id, (fields, d) => ([], { d with entities := ⟨id, id, fields⟩ :: d.entities })
  | .field text, (fields, d) => (text :: fields, d)
  | .closing, (_, d) => ([], d)
  | .edge source target label, (fields, d) =>
    (fields, { d with edges := ⟨source, target, label⟩ :: d.edges })

/-- The diagram that lines make up. It is put together from its end. -/
def Diagram.ofLines (ls : List Line) : Diagram := (ls.foldr Line.putBefore ([], {})).2

/-- The diagram that a text shows. -/
def Diagram.ofMermaid (text : String) : Diagram :=
  ofLines ((text.toList.splitOn '\n').tail.map Line.ofText)

/-! ## Diagrams that are read back -/

/-- An entity that is known by its identifier, with a line for each field. -/
structure Entity.IsLegible (e : Entity) : Prop where
  label : e.label = e.id
  identifier : IsIdentifier e.id
  fields : ∀ field ∈ e.fields, '\n' ∉ field.toList

/-- An edge between identifiers on one line. -/
structure Edge.IsLegible (e : Edge) : Prop where
  source : IsIdentifier e.source
  target : IsIdentifier e.target
  label : '\n' ∉ e.label.toList

/-- A diagram of such entities and edges. -/
structure Diagram.IsLegible (d : Diagram) : Prop where
  entities : ∀ e ∈ d.entities, e.IsLegible
  edges : ∀ e ∈ d.edges, e.IsLegible

namespace Mermaid.Line

theorem foldr_putBefore_fields (texts fields : List String) (d : Diagram) :
    (texts.map Line.field).foldr putBefore (fields, d) = (texts ++ fields, d) := by
  induction texts with
  | nil => rfl
  | cons text texts ih =>
    rw [List.map_cons, List.foldr_cons, ih]
    rfl

theorem foldr_putBefore_block {e : Entity} (h : e.IsLegible) (d : Diagram) :
    e.lines.foldr putBefore ([], d) = ([], { d with entities := e :: d.entities }) := by
  have same : identifier e.id = e.id := identifier_of_all h.identifier.2
  have fields := foldr_putBefore_fields e.fields [] d
  rw [Entity.lines, List.cons_append, List.foldr_cons, List.foldr_append, same]
  show putBefore _ ((e.fields.map Line.field).foldr putBefore ([], d)) = _
  rw [fields, List.append_nil]
  obtain ⟨id, label, texts⟩ := e
  obtain rfl : label = id := h.label
  rfl

theorem foldr_putBefore_blocks {es : List Entity} (h : ∀ e ∈ es, e.IsLegible) (d : Diagram) :
    (es.flatMap Entity.lines).foldr putBefore ([], d) =
      ([], { d with entities := es ++ d.entities }) := by
  induction es with
  | nil => rfl
  | cons e es ih =>
    have he := h e List.mem_cons_self
    have hes := ih fun e' he' => h e' (List.mem_cons_of_mem e he')
    rw [List.flatMap_cons, List.foldr_append, hes, foldr_putBefore_block he]
    rfl

theorem foldr_putBefore_edges {es : List Edge} (h : ∀ e ∈ es, e.IsLegible) (d : Diagram) :
    (es.map Edge.line).foldr putBefore ([], d) = ([], { d with edges := es ++ d.edges }) := by
  induction es with
  | nil => rfl
  | cons e es ih =>
    have he := h e List.mem_cons_self
    have hes := ih fun e' he' => h e' (List.mem_cons_of_mem e he')
    rw [List.map_cons, List.foldr_cons, hes, Edge.line, identifier_of_all he.source.2,
      identifier_of_all he.target.2]
    rfl

end Mermaid.Line

namespace Diagram

theorem ofLines_lines {d : Diagram} (h : d.IsLegible) : ofLines d.lines = d := by
  rw [ofLines, lines, List.foldr_append, Line.foldr_putBefore_edges h.edges,
    Line.foldr_putBefore_blocks h.entities]
  simp

theorem IsLegible.lines {d : Diagram} (h : d.IsLegible) : ∀ l ∈ d.lines, l.IsLegible := by
  intro l hl
  rcases List.mem_append.1 hl with inBlock | drawn
  · obtain ⟨e, he, hl⟩ := List.mem_flatMap.1 inBlock
    have legible := h.entities e he
    have same : identifier e.id = e.id := identifier_of_all legible.identifier.2
    simp only [Entity.lines, List.cons_append, List.mem_cons, List.mem_append, List.mem_map,
      List.not_mem_nil, or_false] at hl
    rcases hl with rfl | ⟨text, ht, rfl⟩ | rfl
    · rw [same]
      exact legible.identifier
    · exact legible.fields text ht
    · trivial
  · obtain ⟨e, he, rfl⟩ := List.mem_map.1 drawn
    have legible := h.edges e he
    rw [Edge.line, identifier_of_all legible.source.2, identifier_of_all legible.target.2]
    exact ⟨legible.source, legible.target, legible.label⟩

/-- The text of a legible diagram shows the diagram. -/
theorem ofMermaid_mermaid {d : Diagram} (h : d.IsLegible) : ofMermaid d.mermaid = d := by
  have free : ∀ piece ∈ "erDiagram" :: d.lines.map Line.text, '\n' ∉ piece.toList := by
    intro piece hp
    rcases List.mem_cons.1 hp with rfl | hp
    · decide
    · obtain ⟨l, hl, rfl⟩ := List.mem_map.1 hp
      exact Line.notMem_newline_text (h.lines l hl)
  have single : "\n".toList = ['\n'] := rfl
  have pieces := Text.splitOn_intercalate single (List.cons_ne_nil _ _) free
  have readBack : (d.lines.map fun l => Line.ofText l.text.toList) = d.lines.map id :=
    List.map_congr_left fun l hl => Line.ofText_text (h.lines l hl)
  rw [ofMermaid, mermaid_eq, pieces, List.map_cons, List.tail_cons, List.map_map, List.map_map]
  show ofLines (d.lines.map fun l => Line.ofText l.text.toList) = d
  rw [readBack, List.map_id, ofLines_lines h]

/-- Legible diagrams are told apart by their texts. -/
theorem mermaid_eq_iff_of_isLegible {d d' : Diagram} (h : d.IsLegible) (h' : d'.IsLegible) :
    d.mermaid = d'.mermaid ↔ d = d' := by
  constructor
  · intro same
    calc d = ofMermaid d.mermaid := (ofMermaid_mermaid h).symm
      _ = ofMermaid d'.mermaid := by rw [same]
      _ = d' := ofMermaid_mermaid h'
  · rintro rfl
    rfl

/-- A block with fields that look like the lines between blocks, and a label that looks like another
edge. -/
def crowdedBlock : Diagram where
  entities := [⟨"A", "A", ["\x7d", "  \x7d", "B \x7b", "A \x7do--|| B"]⟩]
  edges := [⟨"A", "A", "c : A \x7do--|| B"⟩]

/-- Two blocks without fields and two edges. -/
def separateBlocks : Diagram where
  entities := [⟨"A", "A", []⟩, ⟨"B", "B", []⟩]
  edges := [⟨"A", "A", "c"⟩, ⟨"A", "B", ""⟩]

theorem mermaid_crowdedBlock_ne : crowdedBlock.IsLegible ∧ separateBlocks.IsLegible ∧
    crowdedBlock.mermaid ≠ separateBlocks.mermaid := by
  have a : IsIdentifier "A" := by decide
  have b : IsIdentifier "B" := by decide
  have crowded : crowdedBlock.IsLegible := by
    refine ⟨?_, ?_⟩
    · exact List.forall_mem_singleton.2 ⟨rfl, a, by decide⟩
    · exact List.forall_mem_singleton.2 ⟨a, a, by decide⟩
  have separate : separateBlocks.IsLegible := by
    refine ⟨?_, ?_⟩
    · exact List.forall_mem_cons.2
        ⟨⟨rfl, a, by decide⟩, List.forall_mem_singleton.2 ⟨rfl, b, by decide⟩⟩
    · exact List.forall_mem_cons.2
        ⟨⟨a, a, by decide⟩, List.forall_mem_singleton.2 ⟨a, b, by decide⟩⟩
  refine ⟨crowded, separate, ?_⟩
  rw [Ne, mermaid_eq_iff_of_isLegible crowded separate]
  decide

end Diagram

end SpannerDdl
