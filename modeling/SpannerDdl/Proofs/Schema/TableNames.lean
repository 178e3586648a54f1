import SpannerDdl.Proofs.Draft.WellFormed
import SpannerDdl.Proofs.Schema.Loading
import SpannerDdl.Proofs.Schema.Validity

/-! # Names of tables in loaded schemas

Statements never make two tables of one name, and neither do schemas that are put side by side. A
document that is loaded by itself is not compared with anything: its tables have the names that are
written there, repeated ones included.

* `Schema.append_eq_ok_iff`: what can be put side by side, and what comes of it.
* `Json.tableNames`: the names of the tables of a document.
* `Schema.tableNames_of_loaded`: the names behind every way of loading. -/

set_option autoImplicit false

namespace SpannerDdl

/-! ## Schemas side by side -/

namespace Schema

/-- Tables can be added exactly if their names are new and differ from each other. -/
theorem addTables_eq_ok_iff {s r : Schema} {ts : List Table} :
    s.addTables ts = .ok r ↔
      (ts.map Table.name).Nodup ∧ s.tableNames.Disjoint (ts.map Table.name) ∧
        r = { s with tables := s.tables ++ ts } := by
  induction ts generalizing s with
  | nil => simp [addTables, eq_comm]
  | cons t ts ih =>
    rw [addTables]
    split
    · rename_i taken
      refine iff_of_false (fun h => nomatch h) fun h => ?_
      exact h.2.1 (List.contains_iff_mem.1 taken) List.mem_cons_self
    · rename_i isNew
      rw [List.contains_iff_mem] at isNew
      rw [ih]
      simp only [tableNames, List.map_append, List.map_cons, List.map_nil, List.nodup_cons,
        List.disjoint_append_left, List.disjoint_cons_right, List.singleton_disjoint,
        List.append_assoc, List.singleton_append] at isNew ⊢
      tauto

theorem append_eq_ok_iff {s t r : Schema} :
    s.append t = .ok r ↔
      t.tableNames.Nodup ∧ s.tableNames.Disjoint t.tableNames ∧
        r = { tables := s.tables ++ t.tables
              foreignKeys := s.foreignKeys ++ t.foreignKeys
              indexes := s.indexes ++ t.indexes } := by
  rw [append, map_eq_ok_iff]
  constructor
  · rintro ⟨r', added, rfl⟩
    obtain ⟨nodup, disjoint, rfl⟩ := addTables_eq_ok_iff.1 added
    exact ⟨nodup, disjoint, rfl⟩
  · rintro ⟨nodup, disjoint, rfl⟩
    exact ⟨_, addTables_eq_ok_iff.2 ⟨nodup, disjoint, rfl⟩, rfl⟩

theorem append_empty_eq_ok_iff {s r : Schema} :
    append {} s = .ok r ↔ s.tableNames.Nodup ∧ r = s := by
  rw [append_eq_ok_iff]
  simp [tableNames]

theorem nodup_tableNames_empty : ({} : Schema).tableNames.Nodup := List.nodup_nil

theorem nodup_append {s t r : Schema} (h : s.tableNames.Nodup) (appended : s.append t = .ok r) :
    r.tableNames.Nodup := by
  obtain ⟨nodup, disjoint, rfl⟩ := append_eq_ok_iff.1 appended
  rw [tableNames, List.map_append]
  exact h.append nodup disjoint

theorem nodup_mergeLoaded {α : Type} {load : α → Traced Notice LoadError Schema} {xs : List α}
    {s r : Schema} (h : s.tableNames.Nodup) (loaded : (mergeLoaded load s xs).result = .ok r) :
    r.tableNames.Nodup := by
  induction xs generalizing s with
  | nil =>
    cases loaded
    exact h
  | cons x xs ih =>
    obtain ⟨t, -, loaded⟩ := Traced.result_bind_eq_ok_iff.1 loaded
    obtain ⟨s', appended, loaded⟩ := Traced.result_bind_eq_ok_iff.1 loaded
    exact ih (nodup_append h (mapError_eq_ok_iff.1 appended)) loaded

theorem mergeLoaded_singleton_eq_ok_iff {α : Type} {load : α → Traced Notice LoadError Schema}
    {x : α} {s : Schema} :
    (mergeLoaded load {} [x]).result = .ok s ↔
      (load x).result = .ok s ∧ s.tableNames.Nodup := by
  rw [mergeLoaded, Traced.result_bind_eq_ok_iff]
  constructor
  · rintro ⟨t, loaded, h⟩
    obtain ⟨r, appended, h⟩ := Traced.result_bind_eq_ok_iff.1 h
    cases h
    obtain ⟨nodup, rfl⟩ := append_empty_eq_ok_iff.1 (mapError_eq_ok_iff.1 appended)
    exact ⟨loaded, nodup⟩
  · rintro ⟨loaded, nodup⟩
    have appended : (append {} s).mapError LoadError.build = .ok s :=
      mapError_eq_ok_iff.2 (append_empty_eq_ok_iff.2 ⟨nodup, rfl⟩)
    exact ⟨s, loaded, Traced.result_bind_eq_ok_iff.2 ⟨s, appended, rfl⟩⟩

end Schema

/-! ## Tables of a document -/

/-- The names of the tables of a document. -/
def Json.tableNames (doc : Json) : List String := (doc.itemsAt "tables").map (·.textAt "name")

namespace Schema

/-- The tables of a loaded document are named as it says. -/
theorem tableNames_of_ofJsonText {text source : String} {s : Schema}
    (loaded : (ofJsonText text source).result = .ok s) :
    ∃ doc, Json.read text.toList = .ok doc ∧ s.tableNames = doc.tableNames := by
  obtain ⟨doc, read, valid, h⟩ := ofJsonText_eq_ok_iff.1 loaded
  rw [ofDocument_of_valid valid] at h
  cases h
  -- Naming foreign keys leaves tables alone.
  exact ⟨doc, read, tableNames_ofValid doc⟩

/-- The same document as one of several is compared with itself. -/
theorem ofJsonTexts_singleton_eq_ok_iff {text : String} (source : String) {s : Schema} :
    (ofJsonTexts [text]).result = .ok s ↔
      (ofJsonText text source).result = .ok s ∧ s.tableNames.Nodup := by
  rw [ofJsonTexts, List.zipIdx_singleton, mergeLoaded_singleton_eq_ok_iff,
    ofJsonText_eq_ok_iff, ofJsonText_eq_ok_iff]

theorem ofJsonFiles_singleton_eq_ok_iff {w : Workspace} {path text : String} {s : Schema}
    (read : w.readSchema path = .ok text) :
    (ofJsonFiles w [path]).result = .ok s ↔ (ofJsonTexts [text]).result = .ok s := by
  rw [ofJsonTexts_singleton_eq_ok_iff path, ofJsonFiles, mergeLoaded_singleton_eq_ok_iff,
    Traced.result_bind_eq_ok_iff]
  simp [read]

/-! ## Every way of loading -/

/-- The tables of a loaded schema have different names, unless it is loaded from a document by
itself. Such a document may repeat a name; it is not loaded as one of several then. -/
theorem tableNames_of_loaded {s : Schema} :
    (∀ text source, (ofDdl text source).result = .ok s → s.tableNames.Nodup) ∧
    (∀ w paths, (ofDdlFiles w paths).result = .ok s → s.tableNames.Nodup) ∧
    (∀ texts, (ofJsonTexts texts).result = .ok s → s.tableNames.Nodup) ∧
    (∀ w paths, (ofJsonFiles w paths).result = .ok s → s.tableNames.Nodup) ∧
    ∀ text source, (ofJsonText text source).result = .ok s →
      (∃ doc, Json.read text.toList = .ok doc ∧ s.tableNames = doc.tableNames) ∧
      (s.tableNames.Nodup ↔ (ofJsonTexts [text]).result = .ok s) := by
  refine ⟨fun text source loaded => ?ddl, fun w paths loaded => ?ddlFiles,
    fun texts loaded => ?documents, fun w paths loaded => ?files,
    fun text source loaded => ⟨?written, ?compared⟩⟩
  case ddl =>
    obtain ⟨ts, ss, d, -, -, history, rfl⟩ := exists_history_of_ofDdl loaded
    exact history.wellFormed.namesNodup
  case ddlFiles =>
    obtain ⟨ss, d, history, rfl⟩ := exists_history_of_ofDdlFiles loaded
    exact history.wellFormed.namesNodup
  case documents => exact nodup_mergeLoaded nodup_tableNames_empty loaded
  case files => exact nodup_mergeLoaded nodup_tableNames_empty loaded
  case written => exact tableNames_of_ofJsonText loaded
  case compared => rw [ofJsonTexts_singleton_eq_ok_iff source, and_iff_right loaded]

/-- The working directory of a single file, whatever its name. -/
def workspaceOf (content : List UInt8) : Workspace :=
  ⟨{}, fun place => if place = [] then .directory else .file content⟩

theorem readSchema_workspaceOf {content : List UInt8} {text : String}
    (h : textOfBytes content = .ok text) :
    (workspaceOf content).readSchema "a" = .ok text :=
  Workspace.readSchema_of_file (Pathname.pieces_letter (.inl rfl)) (by decide) (by decide)
    (by decide) (by decide) rfl rfl h

/-- The same for a single table, which can be loaded in every way. -/
theorem tableNames_of_loaded_albums : ∃ (s : Schema) (w v : Workspace) (json : String),
    s.tableNames = ["Albums"] ∧
    ((ofDdl "CREATE TABLE Albums () PRIMARY KEY ()" "").result = .ok s ∧ s.tableNames.Nodup) ∧
    ((ofDdlFiles w ["a"]).result = .ok s ∧ s.tableNames.Nodup) ∧
    ((ofJsonTexts [json]).result = .ok s ∧ s.tableNames.Nodup) ∧
    ((ofJsonFiles v ["a"]).result = .ok s ∧ s.tableNames.Nodup) ∧
    (ofJsonText json "").result = .ok s ∧
      (∃ doc, Json.read json.toList = .ok doc ∧ s.tableNames = doc.tableNames) ∧
      (s.tableNames.Nodup ↔ (ofJsonTexts [json]).result = .ok s) := by
  have valid : IsValid { tables := [{ name := "Albums" }] } := by
    refine ⟨?_, by simp, by simp⟩
    simp [Table.isValid_iff]
  have built : ∀ source ∈ ["", "a"],
      (ofDdl "CREATE TABLE Albums () PRIMARY KEY ()" source).result.toOption =
        some { tables := [{ name := "Albums" }] } := by
    decide +kernel
  have ddl := toOption_eq_some_iff.1 (built "" (by simp))
  have ddlFile : textOfBytes "CREATE TABLE Albums () PRIMARY KEY ()".toUTF8.data.toList =
      .ok "CREATE TABLE Albums () PRIMARY KEY ()" := by
    rw [← toOption_eq_some_iff]
    decide +kernel
  have ddlFiles := (ofDdlFiles_singleton_eq_ok_iff (readSchema_workspaceOf ddlFile)).2
    (toOption_eq_some_iff.1 (built "a" (by simp)))
  have document := ofJsonText_render valid (by simp) .compact ""
  have documents := (ofJsonTexts_singleton_eq_ok_iff "").2 ⟨document, by decide⟩
  have jsonFile : textOfBytes
      (Json.render .compact (toJson { tables := [{ name := "Albums" }] })).toUTF8.data.toList =
      .ok (Json.render .compact (toJson { tables := [{ name := "Albums" }] })) := by
    rw [← toOption_eq_some_iff]
    decide +kernel
  have files := (ofJsonFiles_singleton_eq_ok_iff (readSchema_workspaceOf jsonFile)).2 documents
  obtain ⟨h1, h2, h3, h4, h5⟩ := tableNames_of_loaded (s := { tables := [{ name := "Albums" }] })
  exact ⟨_, _, _, _, rfl, ⟨ddl, h1 _ _ ddl⟩, ⟨ddlFiles, h2 _ _ ddlFiles⟩,
    ⟨documents, h3 _ documents⟩, ⟨files, h4 _ _ files⟩, document, h5 _ _ document⟩

/-- A document in which a table is written twice. -/
def repeatedTable : String :=
  "\x7b\"tables\":[\x7b\"name\":\"A\",\"columns\":[],\"primaryKey\":[]\x7d," ++
    "\x7b\"name\":\"A\",\"columns\":[],\"primaryKey\":[]\x7d]\x7d"

/-- It is loaded by itself, with two tables of one name. Among several it is refused. -/
theorem ofJsonText_of_repeated_table : ∃ s : Schema,
    (ofJsonText repeatedTable "").result = .ok s ∧ ¬s.tableNames.Nodup ∧
    (ofJsonTexts [repeatedTable]).result = .error (.build (.duplicateTable "A")) := by
  have valid : IsValid { tables := [{ name := "A" }, { name := "A" }] } := by
    refine ⟨?_, by simp, by simp⟩
    simp [Table.isValid_iff]
  have loaded : ∀ source, (ofJsonText repeatedTable source).result =
      .ok { tables := [{ name := "A" }, { name := "A" }] } := by
    intro source
    have written : Json.render .compact (toJson { tables := [{ name := "A" }, { name := "A" }] }) =
        repeatedTable := by decide +kernel
    rw [← written]
    exact ofJsonText_render valid (by simp) .compact source
  refine ⟨_, loaded "", by decide, ?_⟩
  rw [ofJsonTexts, List.zipIdx_singleton, mergeLoaded, Traced.bind_of_ok _ (loaded _)]
  rfl

end Schema

end SpannerDdl
