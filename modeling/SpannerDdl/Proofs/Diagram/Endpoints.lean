import SpannerDdl.Diagram.Basic
import SpannerDdl.Proofs.Schema.Normalization

/-! # Where the edges of a diagram end

Behind the primary keys, the names that a schema document refers to are those at which the edges of
its diagram begin and end. So a document has no complaints just if its primary keys are columns and
no edge of its diagram hangs loose.

* `Diagram.IsClosed`: every edge begins and ends at an entity.
* `Table.KeyIsColumns`, `Json.KeyIsColumns`: the primary key of a table, and of the document of a
  table, is made of its columns.
* `Schema.nameIssues_eq_nil_iff`: the complaints about a schema.
* `Schema.validate_eq_nil_iff_isClosed_diagram`: those about a document. -/

set_option autoImplicit false

namespace SpannerDdl

/-- Every edge begins and ends at an entity. -/
def Diagram.IsClosed (d : Diagram) : Prop :=
  ∀ e ∈ d.edges, e.source ∈ d.entities.map Entity.id ∧ e.target ∈ d.entities.map Entity.id

def Table.KeyIsColumns (t : Table) : Prop := ∀ key ∈ t.primaryKey, key ∈ t.columns.map Column.name

/-- Every name in the primary key of the document of a table is that of one of its columns. -/
def Json.KeyIsColumns (table : Json) : Prop :=
  ∀ keys columns, table.get? "primaryKey" = some (.arr keys) →
    table.get? "columns" = some (.arr columns) →
    ∀ key ∈ keys, ∃ c ∈ columns, c.get? "name" = some key

/-! ## Edges -/

theorem Table.interleavedEdge?_eq_some_iff {t : Table} {e : Edge} :
    t.interleavedEdge? = some e ↔
      t.interleavedIn ≠ "" ∧ e = ⟨t.name, t.interleavedIn, interleavedLabel⟩ := by
  unfold interleavedEdge?
  by_cases h : t.interleavedIn = ""
  · simp [h]
  · rw [if_neg (by simpa using h), Option.some.injEq, and_iff_right h]
    exact eq_comm

namespace Schema

/-- Edges for foreign keys end at the tables of these, and the others at the parents of tables. -/
theorem isClosed_diagram_iff {s : Schema} :
    s.diagram.IsClosed ↔
      (∀ t ∈ s.tables, t.interleavedIn ≠ "" → t.interleavedIn ∈ s.tableNames) ∧
      ∀ k ∈ s.foreignKeys, k.referencingTable ∈ s.tableNames ∧
        k.referencedTable ∈ s.tableNames := by
  unfold Diagram.IsClosed
  rw [map_id_entities_diagram]
  constructor
  · intro closed
    refine ⟨fun t ht parent => ?_, fun k hk => ?_⟩
    · have edge : t.interleavedEdge? = some ⟨t.name, t.interleavedIn, interleavedLabel⟩ :=
        Table.interleavedEdge?_eq_some_iff.2 ⟨parent, rfl⟩
      have drawn := closed _ (List.mem_append_right _ (List.mem_filterMap.2 ⟨t, ht, edge⟩))
      exact drawn.2
    · exact closed _ (List.mem_append_left _ (List.mem_map_of_mem hk))
  · rintro ⟨parents, keys⟩ e he
    rcases List.mem_append.1 he with drawn | drawn
    · obtain ⟨k, hk, rfl⟩ := List.mem_map.1 drawn
      exact keys k hk
    · obtain ⟨t, ht, edge⟩ := List.mem_filterMap.1 drawn
      obtain ⟨parent, rfl⟩ := Table.interleavedEdge?_eq_some_iff.1 edge
      exact ⟨List.mem_map_of_mem ht, parents t ht parent⟩

end Schema

/-! ## Complaints -/

theorem tableIssues_eq_nil_iff {tableNames columnNames keys : List String} {index : Nat}
    {name parent : String} :
    tableIssues tableNames index name columnNames keys parent = [] ↔
      (∀ key ∈ keys, key ∈ columnNames) ∧ (parent ≠ "" → parent ∈ tableNames) := by
  unfold tableIssues
  rw [List.append_eq_nil_iff, List.map_eq_nil_iff, List.filter_eq_nil_iff]
  refine and_congr ?_ ?_
  · simp
  · by_cases h : parent = ""
    · simp [h]
    · by_cases known : parent ∈ tableNames
      · simp [known]
      · simp [h, known]

theorem foreignKeyIssues_eq_nil_iff {tableNames : List String} {index : Nat}
    {referencing referenced : String} :
    foreignKeyIssues tableNames index referencing referenced = [] ↔
      referencing ∈ tableNames ∧ referenced ∈ tableNames := by
  unfold foreignKeyIssues
  rw [List.map_eq_nil_iff, List.filter_eq_nil_iff]
  simp

namespace Schema

/-- There is no complaint about a schema just if its primary keys are columns and its diagram is
closed. -/
theorem nameIssues_eq_nil_iff {s : Schema} :
    s.nameIssues = [] ↔ (∀ t ∈ s.tables, t.KeyIsColumns) ∧ s.diagram.IsClosed := by
  have ofTables : s.tables.zipIdx.flatMap (fun p => tableIssues s.tableNames p.2 p.1.name
        (p.1.columns.map Column.name) p.1.primaryKey p.1.interleavedIn) = [] ↔
      ∀ t ∈ s.tables, t.KeyIsColumns ∧ (t.interleavedIn ≠ "" → t.interleavedIn ∈ s.tableNames) :=
    flatMap_zipIdx_eq_nil_iff fun _ => tableIssues_eq_nil_iff
  have ofKeys : s.foreignKeys.zipIdx.flatMap (fun p => foreignKeyIssues s.tableNames p.2
        p.1.referencingTable p.1.referencedTable) = [] ↔
      ∀ k ∈ s.foreignKeys, k.referencingTable ∈ s.tableNames ∧
        k.referencedTable ∈ s.tableNames :=
    flatMap_zipIdx_eq_nil_iff fun _ => foreignKeyIssues_eq_nil_iff
  rw [nameIssues, List.append_eq_nil_iff, ofTables, ofKeys, isClosed_diagram_iff, forall₂_and,
    and_assoc]

end Schema

/-! ## Documents -/

section

open Json

variable {v : Json}

theorem Json.IsColumn.get?_name_eq_iff (h : v.IsColumn) {name : String} :
    v.get? "name" = some (.str name) ↔ v.textAt "name" = name := by
  rw [h.name.isText.get?_eq_text, Option.some.injEq, Json.str.injEq]

/-- A primary key that is missing has no names. -/
theorem Json.keyIsColumns_iff (h : v.IsTable) : v.KeyIsColumns ↔
    ∀ key ∈ v.itemsAt "primaryKey", ∃ c ∈ v.itemsAt "columns", c.get? "name" = some key := by
  unfold KeyIsColumns
  rw [h.columns.get?_eq_items]
  rcases h.primaryKey.get?_eq_items with ⟨missing, empty⟩ | given
  · simp [missing, empty]
  · simp [given]

theorem Table.keyIsColumns_ofValid (h : v.IsTable) : (ofValid v).KeyIsColumns ↔ v.KeyIsColumns := by
  have isColumn := h.columns.mayHave.forall_itemsAt
  have isName := h.primaryKey.forall_itemsAt
  unfold KeyIsColumns
  rw [keyIsColumns_iff h, names_columns_ofValid, ofValid, List.forall_mem_map]
  refine forall₂_congr fun key hk => ?_
  obtain ⟨name, rfl, -⟩ := isName key hk
  rw [List.mem_map, asText]
  exact exists_congr fun c => and_congr_right fun hc => (isColumn c hc).get?_name_eq_iff.symm

/-- A document without complaints about its structure has none at all just if every name in a
primary key is that of a column of the same table and the diagram of its schema is closed. -/
theorem Schema.validate_eq_nil_iff_isClosed_diagram {doc : Json} (valid : validate doc false = []) :
    ∃ s, ofDocument doc = .ok s ∧
      (validate doc = [] ↔
        (∀ tables, doc.get? "tables" = some (.arr tables) → ∀ table ∈ tables, table.KeyIsColumns) ∧
          s.diagram.IsClosed) := by
  have document := isDocument_of_valid valid
  have isTable := document.tables.mayHave.forall_itemsAt
  refine ⟨_, ofDocument_of_valid valid, ?_⟩
  rw [validate_of_valid valid, ← nameIssues_ofValid, ← nameIssues_nameKeys, nameIssues_eq_nil_iff,
    document.tables.get?_eq_items]
  refine and_congr_left fun _ => ?_
  simp only [Option.some.injEq, Json.arr.injEq, forall_eq', nameKeys, ofValid, List.forall_mem_map]
  exact forall₂_congr fun table ht => Table.keyIsColumns_ofValid (isTable table ht)

/-- A table that is interleaved in another, and a foreign key without a name from a table to
itself. -/
def nestedTables : Json :=
  .obj [("tables", .arr [
      .obj [("name", .str "Child"), ("interleavedIn", .str "Parent"),
        ("columns", .arr [.obj [("name", .str "Id"), ("type", .str "INT64")]]),
        ("primaryKey", .arr [.str "Id"])],
      .obj [("name", .str "Parent"), ("columns", .arr [])]]),
    ("foreignKeys", .arr [
      .obj [("referencingTable", .str "Child"), ("referencingColumns", .arr [.str "Id"]),
        ("referencedTable", .str "Child"), ("referencedColumns", .arr [.str "Id"])]])]

theorem Schema.validate_nestedTables : validate nestedTables false = [] ∧
    ∃ s, ofDocument nestedTables = .ok s ∧ s.diagram.edges.length = 2 ∧ s.diagram.IsClosed := by
  have valid : validate nestedTables false = [] := by decide +kernel
  obtain ⟨s, loaded, closed⟩ := Schema.validate_eq_nil_iff_isClosed_diagram valid
  refine ⟨valid, s, loaded, ?edges, (closed.1 (by decide +kernel)).2⟩
  case edges =>
    cases loaded
    rfl

end

end SpannerDdl
