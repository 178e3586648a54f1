import SpannerDdl.Proofs.Schema.DocumentGrammar
import SpannerDdl.Schema.References

/-! # Reading valid documents

What is read of a valid document is what is written there: every member that has to be there is
there, and every value is of the kind that reading takes it for. So neither the schema of the
document nor its references can fail to be read.

* `Column.ofValid`, `Table.ofValid`, …, `Schema.ofValid`: what is written in a valid document.
* `Schema.ofJson_of_isDocument`: the schema that is read is this one.
* `Schema.nameIssues`: the complaints about names in a schema that refer to nothing.
* `readReferenceIssues_of_isDocument`: they are those that are read of the document. -/

set_option autoImplicit false

namespace SpannerDdl

namespace Json

variable {v w : Json} {key : String} {keys : List String} {P Q : Json → Prop}

/-! ## Members by kind -/

theorem Has.imp (h : v.Has key P) (hPQ : ∀ w, P w → Q w) : v.Has key Q := by
  obtain ⟨w, found, hw⟩ := h
  exact ⟨w, found, hPQ w hw⟩

theorem Has.mayHave (h : v.Has key P) : v.MayHave key P := (has_iff.1 h).2

theorem IsName.isText (h : v.IsName) : v.IsText := by
  obtain ⟨s, rfl, -⟩ := h
  exact ⟨s, rfl⟩

theorem Has.isText (h : v.Has key IsName) : v.Has key IsText := h.imp fun _ => IsName.isText

theorem Has.get?_eq_text (h : v.Has key IsText) : v.get? key = some (.str (v.textAt key)) := by
  obtain ⟨w, found, s, rfl⟩ := h
  rw [textAt, found]

theorem Has.get?_eq_items (h : v.Has key (IsListOf P)) :
    v.get? key = some (.arr (v.itemsAt key)) := by
  obtain ⟨w, found, items, rfl, -⟩ := h
  rw [itemsAt, found]

theorem Has.textAt_ne (h : v.Has key IsName) : v.textAt key ≠ "" := by
  obtain ⟨w, found, s, rfl, hs⟩ := h
  rw [textAt, found]
  exact hs

theorem MayHave.forall_itemsAt (h : v.MayHave key (IsListOf P)) :
    ∀ item ∈ v.itemsAt key, P item := by
  intro item hi
  unfold itemsAt at hi
  split at hi
  · rename_i items found
    obtain ⟨items', e, hP⟩ := h _ found
    cases e
    exact hP item hi
  · cases hi

theorem MayHave.get?_eq_text (h : v.MayHave key IsText) :
    v.get? key = none ∧ v.textAt key = "" ∨ v.get? key = some (.str (v.textAt key)) := by
  cases found : v.get? key with
  | none => exact .inl ⟨rfl, by rw [textAt, found]⟩
  | some w =>
    obtain ⟨s, rfl⟩ := h w found
    exact .inr (by rw [textAt, found])

theorem MayHave.get?_eq_items (h : v.MayHave key (IsListOf P)) :
    v.get? key = none ∧ v.itemsAt key = [] ∨ v.get? key = some (.arr (v.itemsAt key)) := by
  cases found : v.get? key with
  | none => exact .inl ⟨rfl, by rw [itemsAt, found]⟩
  | some w =>
    obtain ⟨items, rfl, -⟩ := h w found
    exact .inr (by rw [itemsAt, found])

/-- Whether a member is the given flag. -/
def isAt (v : Json) (key : String) (b : Bool) : Bool :=
  match v.get? key with
  | some (.bool b') => b' == b
  | _ => false

theorem asText_of_isText (h : v.IsText) : v = .str v.asText := by
  obtain ⟨s, rfl⟩ := h
  rfl

/-! ## Reading members -/

theorem required_of_get? (h : v.get? key = some w) : v.required key = .ok w := by
  cases v with
  | obj members => rw [required, show members.lookup key = some w from h]
  | _ => cases h

theorem optional_of_known (h : v.OnlyHas keys) (key : String) :
    v.optional key = .ok ((v.get? key).getD .null) := by
  obtain ⟨members, rfl, -⟩ := h
  rfl

theorem memberOr_of_known {α : Type} (h : v.OnlyHas keys) (key : String) (default : α)
    (read : Json → Except ShapeFault α) :
    v.memberOr key default read = (v.get? key).elim (.ok default) read := by
  obtain ⟨members, rfl, -⟩ := h
  rfl

theorem requiredText_of_has (h : v.Has key IsText) : v.requiredText key = .ok (v.textAt key) := by
  rw [requiredText, required_of_get? h.get?_eq_text]
  rfl

theorem nameAt_of_has (h : v.Has key IsText) : v.nameAt key = .ok (v.textAt key) := by
  rw [nameAt, required_of_get? h.get?_eq_text]
  rfl

theorem optionalText_of_mayHave (known : v.OnlyHas keys) (h : v.MayHave key IsText) :
    v.optionalText key = .ok (v.textAt key) := by
  rw [optionalText, optional_of_known known]
  rcases h.get?_eq_text with ⟨missing, empty⟩ | given
  · rw [missing, empty]
    rfl
  · rw [given]
    by_cases hs : v.textAt key = ""
    · simp [Except.map, isTruthy, hs]
    · simp [Except.map, isTruthy, hs]

theorem memberOr_asName_of_mayHave (known : v.OnlyHas keys) (h : v.MayHave key IsText) :
    v.memberOr key "" asName = .ok (v.textAt key) := by
  rw [memberOr_of_known known]
  rcases h.get?_eq_text with ⟨missing, empty⟩ | given
  · rw [missing, empty]
    rfl
  · rw [given]
    rfl

theorem memberOr_asItems_of_mayHave (known : v.OnlyHas keys) (h : v.MayHave key (IsListOf P)) :
    v.memberOr key [] asItems = .ok (v.itemsAt key) := by
  rw [memberOr_of_known known]
  rcases h.get?_eq_items with ⟨missing, empty⟩ | given
  · rw [missing, empty]
    rfl
  · rw [given]
    rfl

theorem optionalIs_of_known (known : v.OnlyHas keys) (key : String) (b : Bool) :
    v.optionalIs key b = .ok (v.isAt key b) := by
  rw [optionalIs, optional_of_known known, isAt]
  cases found : v.get? key with
  | none => rfl
  | some w => cases w <;> rfl

theorem optionalItems_of_mayHave {α : Type} {read : Json → Except ShapeFault α} {f : Json → α}
    (known : v.OnlyHas keys) (h : v.MayHave key (IsListOf P)) (hr : ∀ w, P w → read w = .ok (f w)) :
    v.optionalItems key read = .ok ((v.itemsAt key).map f) := by
  have read_all : (v.itemsAt key).mapM read = .ok ((v.itemsAt key).map f) :=
    mapM_eq_ok_map fun w hw => hr w (h.forall_itemsAt w hw)
  rw [optionalItems, optional_of_known known]
  rcases h.get?_eq_items with ⟨missing, empty⟩ | given
  · rw [missing, empty]
    rfl
  · rw [given]
    exact read_all

theorem optionalTexts_of_mayHave (known : v.OnlyHas keys) (h : v.MayHave key (IsListOf IsText)) :
    v.optionalTexts key = .ok ((v.itemsAt key).map asText) := by
  refine optionalItems_of_mayHave known h fun w hw => ?_
  rw [asText_of_isText hw]
  rfl

end Json

/-! ## What is written in a valid document -/

def Column.ofValid (v : Json) : Column where
  name := v.textAt "name"
  type := v.textAt "type"
  isArray := v.isAt "isArray" true
  notNull := v.isAt "isNullable" false
  comment := v.textAt "comment"

def RowDeletionPolicy.ofValid (v : Json) : RowDeletionPolicy where
  column := v.textAt "columnName"
  days := v.textAt "numDays"

def Table.ofValid (v : Json) : Table where
  name := v.textAt "name"
  columns := (v.itemsAt "columns").map Column.ofValid
  primaryKey := (v.itemsAt "primaryKey").map Json.asText
  interleavedIn := v.textAt "interleavedIn"
  comment := v.textAt "comment"
  policy := (v.get? "rowDeletionPolicy").map RowDeletionPolicy.ofValid

def ForeignKey.ofValid (v : Json) : ForeignKey where
  name := v.textAt "name"
  referencingTable := v.textAt "referencingTable"
  referencingColumns := (v.itemsAt "referencingColumns").map Json.asText
  referencedTable := v.textAt "referencedTable"
  referencedColumns := (v.itemsAt "referencedColumns").map Json.asText

def IndexKey.ofValid (v : Json) : IndexKey where
  name := v.textAt "name"
  direction := v.textAt "direction"

def Index.ofValid (v : Json) : Index where
  name := v.textAt "name"
  table := v.textAt "table"
  columns := (v.itemsAt "columns").map IndexKey.ofValid
  storing := (v.itemsAt "storing").map Json.asText
  interleavedIn := v.textAt "interleavedIn"
  isUnique := v.isAt "isUnique" true
  isNullFiltered := v.isAt "isNullFiltered" true

def Schema.ofValid (v : Json) : Schema where
  tables := (v.itemsAt "tables").map Table.ofValid
  foreignKeys := (v.itemsAt "foreignKeys").map ForeignKey.ofValid
  indexes := (v.itemsAt "indexes").map Index.ofValid

/-! ## Reading the schema -/

section

open Json

variable {v : Json}

theorem Json.IsListOf.imp {P Q : Json → Prop} (hPQ : ∀ w, P w → Q w) (h : v.IsListOf P) :
    v.IsListOf Q := by
  obtain ⟨items, e, hP⟩ := h
  exact ⟨items, e, fun w hw => hPQ w (hP w hw)⟩

theorem Json.IsDirection.isText (h : v.IsDirection) : v.IsText := by
  rcases h with h | h | h
  all_goals exact ⟨_, h⟩

theorem Column.ofJson_of_isColumn (h : v.IsColumn) : ofJson v = .ok (ofValid v) := by
  rw [ofJson, requiredText_of_has h.name.isText, requiredText_of_has h.type.isText,
    optionalIs_of_known h.known, optionalIs_of_known h.known,
    optionalText_of_mayHave h.known h.comment]
  rfl

theorem RowDeletionPolicy.ofJson_of_isPolicy (h : v.IsPolicy) : ofJson v = .ok (ofValid v) := by
  rw [ofJson, requiredText_of_has h.columnName.isText, h.numDays.get?_eq_text]
  rfl

theorem Json.isTruthy_of_isPolicy (h : v.IsPolicy) : v.isTruthy = true := by
  obtain ⟨members, rfl, -⟩ := h.known
  obtain ⟨w, found, -⟩ := h.columnName
  cases members with
  | nil => cases found
  | cons m members => rfl

theorem Table.ofJson_of_isTable (h : v.IsTable) : ofJson v = .ok (ofValid v) := by
  have keys : v.MayHave "primaryKey" (IsListOf IsText) := fun w hw =>
    (h.primaryKey w hw).imp fun _ => IsName.isText
  rw [ofJson, optional_of_known h.known, requiredText_of_has h.name.isText,
    optionalItems_of_mayHave h.known h.columns.mayHave fun _ => Column.ofJson_of_isColumn,
    optionalTexts_of_mayHave h.known keys, optionalText_of_mayHave h.known h.interleavedIn,
    optionalText_of_mayHave h.known h.comment, ofValid]
  cases found : v.get? "rowDeletionPolicy" with
  | none => rfl
  | some w =>
    have hw := h.policy w found
    simp [bind, Except.bind, pure, Except.pure, Except.map, isTruthy_of_isPolicy hw,
      RowDeletionPolicy.ofJson_of_isPolicy hw]

theorem ForeignKey.ofJson_of_isForeignKey (h : v.IsForeignKey) : ofJson v = .ok (ofValid v) := by
  rw [ofJson, optionalText_of_mayHave h.known h.name, requiredText_of_has h.referencingTable.isText,
    optionalTexts_of_mayHave h.known h.referencingColumns.mayHave,
    requiredText_of_has h.referencedTable.isText,
    optionalTexts_of_mayHave h.known h.referencedColumns.mayHave]
  rfl

theorem IndexKey.ofJson_of_isIndexKey (h : v.IsIndexKey) : ofJson v = .ok (ofValid v) := by
  have direction : v.MayHave "direction" IsText := fun w hw => (h.direction w hw).isText
  rw [ofJson, requiredText_of_has h.name.isText, optionalText_of_mayHave h.known direction]
  rfl

theorem Index.ofJson_of_isIndex (h : v.IsIndex) : ofJson v = .ok (ofValid v) := by
  rw [ofJson, requiredText_of_has h.name.isText, requiredText_of_has h.table.isText,
    optionalItems_of_mayHave h.known h.columns.mayHave fun _ => IndexKey.ofJson_of_isIndexKey,
    optionalTexts_of_mayHave h.known h.storing, optionalText_of_mayHave h.known h.interleavedIn,
    optionalIs_of_known h.known, optionalIs_of_known h.known]
  rfl

/-- The schema of a valid document is what is written there. -/
theorem Schema.ofJson_of_isDocument (h : v.IsDocument) : ofJson v = .ok (ofValid v) := by
  rw [ofJson,
    optionalItems_of_mayHave h.known h.tables.mayHave fun _ => Table.ofJson_of_isTable,
    optionalItems_of_mayHave h.known h.foreignKeys fun _ => ForeignKey.ofJson_of_isForeignKey,
    optionalItems_of_mayHave h.known h.indexes fun _ => Index.ofJson_of_isIndex]
  rfl

end

/-! ## Reading references -/

/-- The complaints about names in a schema that refer to nothing. -/
def Schema.nameIssues (s : Schema) : List String :=
  s.tables.zipIdx.flatMap (fun p => tableIssues s.tableNames p.2 p.1.name
      (p.1.columns.map Column.name) p.1.primaryKey p.1.interleavedIn) ++
    s.foreignKeys.zipIdx.flatMap fun p =>
      foreignKeyIssues s.tableNames p.2 p.1.referencingTable p.1.referencedTable

theorem names_columns_ofValid (v : Json) :
    (Table.ofValid v).columns.map Column.name = (v.itemsAt "columns").map (·.textAt "name") := by
  rw [Table.ofValid, List.map_map]
  rfl

theorem tableNames_ofValid (v : Json) :
    (Schema.ofValid v).tableNames = (v.itemsAt "tables").map (·.textAt "name") := by
  rw [Schema.tableNames, Schema.ofValid, List.map_map]
  rfl

theorem nameIssues_ofValid (v : Json) :
    (Schema.ofValid v).nameIssues = referenceIssues v := by
  rw [Schema.nameIssues, tableNames_ofValid]
  simp only [Schema.ofValid, List.zipIdx_map, List.flatMap_map, Prod.map_fst, Prod.map_snd, id_eq,
    names_columns_ofValid]
  rfl

section

open Json

variable {v : Json}

theorem readTableIssues_of_isTable (h : v.IsTable) (tableNames : List String) (index : Nat) :
    readTableIssues tableNames index v = .ok (tableReferenceIssues tableNames index v) := by
  have columns : v.required "columns" >>= asItems = .ok (v.itemsAt "columns") := by
    rw [required_of_get? h.columns.get?_eq_items]
    rfl
  have columnNames : (v.itemsAt "columns").mapM (·.nameAt "name") =
      .ok ((v.itemsAt "columns").map (·.textAt "name")) :=
    mapM_eq_ok_map fun c hc => nameAt_of_has (h.columns.mayHave.forall_itemsAt c hc).name.isText
  have keyNames : (v.itemsAt "primaryKey").mapM asName =
      .ok ((v.itemsAt "primaryKey").map asText) := by
    refine mapM_eq_ok_map fun k hk => ?_
    rw [asText_of_isText (h.primaryKey.forall_itemsAt k hk).isText]
    rfl
  rw [readTableIssues, columns, memberOr_asItems_of_mayHave h.known h.primaryKey,
    nameAt_of_has h.name.isText, memberOr_asName_of_mayHave h.known h.interleavedIn]
  simp only [bind, Except.bind, columnNames, keyNames]
  rfl

theorem readForeignKeyIssues_of_isForeignKey (h : v.IsForeignKey) (tableNames : List String)
    (index : Nat) :
    readForeignKeyIssues tableNames index v = .ok (keyReferenceIssues tableNames index v) := by
  rw [readForeignKeyIssues, nameAt_of_has h.referencingTable.isText,
    nameAt_of_has h.referencedTable.isText]
  rfl

/-- The references of a valid document can be read. -/
theorem readReferenceIssues_of_isDocument (h : v.IsDocument) :
    readReferenceIssues v = .ok (referenceIssues v) := by
  have tables := h.tables.mayHave.forall_itemsAt
  have tableNames : (v.itemsAt "tables").mapM (·.nameAt "name") =
      .ok ((v.itemsAt "tables").map (·.textAt "name")) :=
    mapM_eq_ok_map fun t ht => nameAt_of_has (tables t ht).name.isText
  have ofTables : ∀ names, (v.itemsAt "tables").zipIdx.mapM
      (fun p => readTableIssues names p.2 p.1) =
        .ok ((v.itemsAt "tables").zipIdx.map fun p => tableReferenceIssues names p.2 p.1) :=
    fun names => mapM_eq_ok_map fun p hp =>
      readTableIssues_of_isTable (tables p.1 (List.fst_mem_of_mem_zipIdx hp)) names p.2
  have ofKeys : ∀ names, (v.itemsAt "foreignKeys").zipIdx.mapM
      (fun p => readForeignKeyIssues names p.2 p.1) =
        .ok ((v.itemsAt "foreignKeys").zipIdx.map fun p => keyReferenceIssues names p.2 p.1) :=
    fun names => mapM_eq_ok_map fun p hp => readForeignKeyIssues_of_isForeignKey
      (h.foreignKeys.forall_itemsAt p.1 (List.fst_mem_of_mem_zipIdx hp)) names p.2
  rw [readReferenceIssues, memberOr_asItems_of_mayHave h.known h.tables.mayHave,
    memberOr_asItems_of_mayHave h.known h.foreignKeys]
  simp only [bind, Except.bind, tableNames, ofTables, ofKeys]
  rfl

end

end SpannerDdl
