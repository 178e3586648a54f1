import Mathlib.Data.List.Nodup
import SpannerDdl.Proofs.Diagram.MermaidText

/-! # Identifiers of entities

An identifier has an underscore for every character that the notation does not allow. So the blocks
of a diagram stand for different tables just if no two names differ only at such characters.

* `Mermaid.Alike s t`: texts that differ only where both have an underscore or a character that is
  not allowed.
* `Mermaid.identifier_eq_iff`: just these have the same identifier.
* `Diagram.blockIdentifiers`, `Diagram.endpointIdentifiers`: the identifiers that a diagram is
  written with.
* `Schema.blockIdentifiers_of_diagram`: when they tell the tables of a schema apart. -/

set_option autoImplicit false

namespace SpannerDdl

namespace Mermaid

/-- Characters of which an identifier does not say which one it was made from. -/
def AlikeChars (a b : Char) : Prop := a = b ∨ a.isAlphanum = false ∧ b.isAlphanum = false

/-- Texts that differ only in characters that are written as underscores. -/
def Alike (s t : String) : Prop := List.Forall₂ AlikeChars s.toList t.toList

instance : DecidableRel AlikeChars := fun a b =>
  inferInstanceAs (Decidable (a = b ∨ a.isAlphanum = false ∧ b.isAlphanum = false))

instance : DecidableRel Alike := fun s t =>
  inferInstanceAs (Decidable (List.Forall₂ AlikeChars s.toList t.toList))

theorem replaced_eq_iff {a b : Char} :
    (if isIdentifierChar a then a else '_') = (if isIdentifierChar b then b else '_') ↔
      AlikeChars a b := by
  -- The underscore takes the place of everything that is no letter and no digit, itself included.
  have replaced : ∀ c : Char, (if isIdentifierChar c then c else '_') =
      if c.isAlphanum then c else '_' := by
    intro c
    by_cases underscore : c = '_'
    · simp [underscore, isIdentifierChar]
    · simp [isIdentifierChar, underscore]
  have differs : ∀ c : Char, c.isAlphanum = true → c ≠ '_' := by
    rintro c hc rfl
    cases hc
  rw [replaced, replaced, AlikeChars]
  cases ha : a.isAlphanum with
  | false =>
    cases hb : b.isAlphanum with
    | false => simp
    | true =>
      have hne := differs b hb
      have hab : a ≠ b := fun e => by simp [e, hb] at ha
      simp [hne.symm, hab]
  | true =>
    cases hb : b.isAlphanum with
    | false =>
      have hne := differs a ha
      have hab : a ≠ b := fun e => by simp [e, hb] at ha
      simp [hne, hab]
    | true => simp

/-- Two texts have one identifier just if they are alike. -/
theorem identifier_eq_iff {s t : String} : identifier s = identifier t ↔ Alike s t := by
  rw [identifier, identifier, String.ofList_inj, ← List.forall₂_eq_eq_eq,
    List.forall₂_map_left_iff, List.forall₂_map_right_iff, Alike]
  simp only [replaced_eq_iff]

/-- The identifier under which a line opens a block. -/
def Line.opens? : Line → Option String
  | .opening identifier => some identifier
  | _ => none

/-- The identifiers between which a line draws an edge. -/
def Line.endpoints : Line → List String
  | .edge source target _ => [source, target]
  | _ => []

end Mermaid

open Mermaid

/-- The identifiers of the blocks of a diagram, in order. -/
def Diagram.blockIdentifiers (d : Diagram) : List String := d.lines.filterMap Line.opens?

/-- The identifiers at which edges begin and end. -/
def Diagram.endpointIdentifiers (d : Diagram) : List String := d.lines.flatMap Line.endpoints

theorem Entity.filterMap_opens?_lines (e : Entity) :
    e.lines.filterMap Line.opens? = [identifier e.id] := by
  have fields : (e.fields.map Line.field).filterMap Line.opens? = [] := by
    simp [List.filterMap_map, Function.comp_def, Line.opens?]
  simp [Entity.lines, Line.opens?, fields]

theorem Diagram.blockIdentifiers_eq (d : Diagram) :
    d.blockIdentifiers = d.entities.map fun e => identifier e.id := by
  have blocks : (d.entities.flatMap Entity.lines).filterMap Line.opens? =
      d.entities.map fun e => identifier e.id := by
    rw [List.filterMap_flatMap, funext Entity.filterMap_opens?_lines, List.map_eq_flatMap]
  have edges : (d.edges.map Edge.line).filterMap Line.opens? = [] := by
    simp [List.filterMap_map, Function.comp_def, Edge.line, Line.opens?]
  rw [blockIdentifiers, lines, List.filterMap_append, blocks, edges, List.append_nil]

namespace Schema

theorem blockIdentifiers_diagram (s : Schema) :
    s.diagram.blockIdentifiers = s.tableNames.map identifier := by
  rw [Diagram.blockIdentifiers_eq, ← map_id_entities_diagram, List.map_map]
  rfl

theorem nodup_blockIdentifiers_iff {s : Schema} :
    s.diagram.blockIdentifiers.Nodup ↔ s.tableNames.Pairwise fun a b => ¬Alike a b := by
  rw [blockIdentifiers_diagram, List.Nodup, List.pairwise_map]
  simp only [Ne, identifier_eq_iff]

theorem eq_of_identifier_eq {s : Schema} (h : s.diagram.blockIdentifiers.Nodup) {t u : Table}
    (ht : t ∈ s.tables) (hu : u ∈ s.tables) (same : identifier t.name = identifier u.name) :
    t = u := by
  rw [blockIdentifiers_diagram, tableNames, List.map_map] at h
  exact List.inj_on_of_nodup_map h ht hu same

/-- The diagram of a schema is written with a block for each table, under its identifier. The blocks
have different identifiers just if no two names are alike, as it is where different names are made
of allowed characters only; then no edge begins or ends at what stands for two tables. -/
theorem blockIdentifiers_of_diagram (s : Schema) :
    s.diagram.mermaid = "\n".intercalate ("erDiagram" :: s.diagram.lines.map Line.text) ∧
    s.diagram.blockIdentifiers = s.tableNames.map identifier ∧
    (s.diagram.blockIdentifiers.Nodup ↔ s.tableNames.Pairwise fun a b => ¬Alike a b) ∧
    (s.tableNames.Nodup → (∀ name ∈ s.tableNames, IsIdentifier name) →
      s.diagram.blockIdentifiers.Nodup) ∧
    (s.diagram.blockIdentifiers.Nodup → ∀ x ∈ s.diagram.endpointIdentifiers,
      ∀ t ∈ s.tables, ∀ u ∈ s.tables, identifier t.name = x → identifier u.name = x → t = u) := by
  refine ⟨s.diagram.mermaid_eq, s.blockIdentifiers_diagram, nodup_blockIdentifiers_iff, ?_, ?_⟩
  · intro distinct allowed
    have same : s.tableNames.map identifier = s.tableNames.map id :=
      List.map_congr_left fun name hn => identifier_of_all (allowed name hn).2
    rwa [blockIdentifiers_diagram, same, List.map_id]
  · intro distinct x _ t ht u hu first second
    exact eq_of_identifier_eq distinct ht hu (first.trans second.symm)

theorem blockIdentifiers_of_sample : sample.tableNames.Nodup ∧
    (∀ name ∈ sample.tableNames, IsIdentifier name) ∧
    sample.diagram.blockIdentifiers.Nodup ∧
    sample.diagram.endpointIdentifiers = ["Albums", "Singers", "Albums", "Singers"] ∧
    ∀ t ∈ sample.tables, ∀ u ∈ sample.tables,
      identifier t.name = "Singers" → identifier u.name = "Singers" → t = u := by
  have distinct : sample.tableNames.Nodup := by decide
  have allowed : ∀ name ∈ sample.tableNames, IsIdentifier name :=
    List.forall_mem_cons.2 ⟨by decide, List.forall_mem_singleton.2 (by decide)⟩
  obtain ⟨-, -, -, apart, single⟩ := blockIdentifiers_of_diagram sample
  have blocks := apart distinct allowed
  have endpoints : sample.diagram.endpointIdentifiers =
      ["Albums", "Singers", "Albums", "Singers"] := by decide +kernel
  refine ⟨distinct, allowed, blocks, endpoints, single blocks "Singers" ?_⟩
  rw [endpoints]
  decide

/-- A name with a point and one with an underscore in its place. -/
def dottedAndPlain : Schema where
  tables := [{ name := "a.b" }, { name := "a_b" }]

/-- The blocks of both tables have the same identifier. -/
theorem blockIdentifiers_of_dottedAndPlain : dottedAndPlain.tableNames.Nodup ∧
    (∀ name ∈ dottedAndPlain.tableNames, name ≠ "") ∧
    dottedAndPlain.diagram.mermaid = "erDiagram\n  a_b \x7b\n  \x7d\n  a_b \x7b\n  \x7d" ∧
    ¬dottedAndPlain.diagram.blockIdentifiers.Nodup := by
  refine ⟨by decide, by decide, by decide +kernel, ?_⟩
  rw [nodup_blockIdentifiers_iff]
  decide

end Schema

end SpannerDdl
