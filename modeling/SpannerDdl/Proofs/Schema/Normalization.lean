import SpannerDdl.Proofs.Json.Editing
import SpannerDdl.Proofs.Schema.Loading

/-! # Normal documents

The document of a schema that was read of a document is the same document again, up to three edits:
members that are their defaults are left out, every table is given a primary key, and every foreign
key a name.

* `Json.normalColumn`, `Json.normalTable`, …, `Json.normalDocument`: the edits of each part.
* `Schema.same_ofValid`: the document that is written is the edited one.
* `Schema.ofDocument_same_normalDocument`: nothing is lost, and there are the same complaints. -/

set_option autoImplicit false

namespace SpannerDdl

/-! ## The edits -/

namespace Json

def columnDefaults : Members :=
  [("isArray", .bool false), ("isNullable", .bool true), ("comment", .str "")]

def tableDefaults : Members := [("interleavedIn", .str ""), ("comment", .str "")]

def indexKeyDefaults : Members := [("direction", .str "")]

def indexDefaults : Members :=
  [("storing", .arr []), ("interleavedIn", .str ""), ("isUnique", .bool false),
    ("isNullFiltered", .bool false)]

def documentDefaults : Members := [("foreignKeys", .arr []), ("indexes", .arr [])]

def normalColumn (v : Json) : Json := v.dropDefaults columnDefaults

def normalTable (v : Json) : Json :=
  ((v.dropDefaults tableDefaults).putMissing "primaryKey" (.arr [])).mapItemsAt "columns"
    normalColumn

/-- A foreign key without a name is named after its tables. -/
def normalForeignKey (v : Json) : Json :=
  if v.textAt "name" = "" then
    v.put "name" (.str (v.textAt "referencingTable" ++ "_" ++ v.textAt "referencedTable"))
  else v

def normalIndexKey (v : Json) : Json := v.dropDefaults indexKeyDefaults

def normalIndex (v : Json) : Json :=
  (v.dropDefaults indexDefaults).mapItemsAt "columns" normalIndexKey

def normalDocument (v : Json) : Json :=
  (((v.dropDefaults documentDefaults).mapItemsAt "tables" normalTable).mapItemsAt "foreignKeys"
    normalForeignKey).mapItemsAt "indexes" normalIndex

/-! ## Edits and known members -/

section

variable {v w : Json} {key : String} {keys : List String}

theorem OnlyHas.get?_eq_none (h : v.OnlyHas keys) (hk : key ∉ keys) : v.get? key = none := by
  obtain ⟨members, rfl, known⟩ := h
  rw [get?_obj, List.lookup_eq_none_iff]
  intro m hm
  have given : m.1 ∈ keys := known m.1 (List.mem_map_of_mem hm)
  exact bne_iff_ne.2 fun e => hk (e ▸ given)

/-- Objects with known keys are compared key by key. -/
theorem same_of_known (hv : v.OnlyHas keys) (hw : w.OnlyHas keys)
    (h : keys.Forall fun key => Option.Rel Same (v.get? key) (w.get? key)) : Same v w := by
  rw [List.forall_iff_forall_mem] at h
  have all : ∀ key, Option.Rel Same (v.get? key) (w.get? key) := by
    intro key
    by_cases hk : key ∈ keys
    · exact h key hk
    · -- A key that is not known is in neither of them.
      rw [hv.get?_eq_none hk, hw.get?_eq_none hk]
      exact .none
  obtain ⟨ms, rfl, -⟩ := hv
  obtain ⟨ns, rfl, -⟩ := hw
  exact .obj all

theorem Entries.onlyHas {members : Members} (h : Entries keys members) :
    (Json.obj members).OnlyHas keys :=
  ⟨members, rfl, fun _ hk => h.inOrder.subset hk⟩

theorem OnlyHas.dropDefaults (h : v.OnlyHas keys) (defaults : Members) :
    (v.dropDefaults defaults).OnlyHas keys := by
  obtain ⟨members, rfl, known⟩ := h
  refine ⟨_, rfl, fun key hk => known key ?_⟩
  exact (List.filter_sublist.map Prod.fst).subset hk

theorem OnlyHas.put (h : v.OnlyHas keys) (key : String) (hk : key ∈ keys) (value : Json) :
    (v.put key value).OnlyHas keys := by
  obtain ⟨members, rfl, known⟩ := h
  refine ⟨_, rfl, fun key' hk' => ?_⟩
  rcases mem_keys_put hk' with rfl | given
  · exact hk
  · exact known key' given

theorem OnlyHas.putMissing (h : v.OnlyHas keys) (key : String) (hk : key ∈ keys)
    (value : Json) : (v.putMissing key value).OnlyHas keys := by
  unfold Json.putMissing
  split
  · exact h
  · exact h.put key hk value

theorem OnlyHas.mapItemsAt (h : v.OnlyHas keys) (key : String) (f : Json → Json) :
    (v.mapItemsAt key f).OnlyHas keys := by
  obtain ⟨members, rfl, known⟩ := h
  refine ⟨_, rfl, fun key' hk => known key' ?_⟩
  rwa [List.map_map] at hk

theorem OnlyHas.get?_put (h : v.OnlyHas keys) (key : String) (value : Json) (key' : String) :
    (v.put key value).get? key' = if key' = key then some value else v.get? key' := by
  obtain ⟨members, rfl, -⟩ := h
  exact Json.get?_put members key value key'

theorem OnlyHas.get?_putMissing (h : v.OnlyHas keys) (key : String) (value : Json)
    (key' : String) : (v.putMissing key value).get? key' =
      if key' = key then some ((v.get? key).getD value) else v.get? key' := by
  obtain ⟨members, rfl, -⟩ := h
  exact Json.get?_putMissing members key value key'

end

/-! ## Members by kind -/

section

variable {v : Json} {key : String} {P : Json → Prop} {f g : Json → Json} {x y : Option Json}

theorem Has.same_text (h : v.Has key IsText) (written : x = some (.str (v.textAt key)))
    (edited : y = v.get? key) : Option.Rel Same x y :=
  same_of_eq (by rw [written, edited, h.get?_eq_text])

theorem MayHave.get?_unless_empty (h : v.MayHave key IsText) :
    (if v.holds key (.str "") then none else v.get? key) =
      if v.textAt key = "" then none else some (.str (v.textAt key)) := by
  rw [holds]
  rcases h.get?_eq_text with ⟨missing, empty⟩ | given
  · rw [missing, if_pos empty]
    rfl
  · rw [given]
    by_cases hs : v.textAt key = ""
    · simp [hs, isDefault]
    · simp [hs, Ne.symm hs, isDefault]

theorem MayHave.get?_unless_flag (h : v.MayHave key IsFlag) (b : Bool) :
    (if v.holds key (.bool !b) then none else v.get? key) =
      if v.isAt key b then some (.bool b) else none := by
  rw [holds, isAt]
  cases found : v.get? key with
  | none => rfl
  | some w =>
    obtain ⟨b', rfl⟩ := h w found
    cases b <;> cases b' <;> rfl

theorem MayHave.get?_unless_noItems (h : v.MayHave key (IsListOf P)) :
    (if v.holds key (.arr []) then none else v.get? key) =
      if v.itemsAt key = [] then none else some (.arr (v.itemsAt key)) := by
  rw [holds]
  rcases h.get?_eq_items with ⟨missing, empty⟩ | given
  · rw [missing, if_pos empty]
    rfl
  · rw [given]
    cases v.itemsAt key with
    | nil => rfl
    | cons item rest => rfl

theorem MayHave.same_text (h : v.MayHave key IsText)
    (written : x = if v.textAt key = "" then none else some (.str (v.textAt key)))
    (edited : y = if v.holds key (.str "") then none else v.get? key) : Option.Rel Same x y :=
  same_of_eq (by rw [written, edited, h.get?_unless_empty])

theorem MayHave.same_flag (h : v.MayHave key IsFlag) (b : Bool)
    (written : x = if v.isAt key b then some (.bool b) else none)
    (edited : y = if v.holds key (.bool !b) then none else v.get? key) : Option.Rel Same x y :=
  same_of_eq (by rw [written, edited, h.get?_unless_flag])

theorem ofTexts_asText {items : List Json} (h : ∀ item ∈ items, item.IsText) :
    ofTexts (items.map asText) = .arr items := by
  rw [ofTexts, List.map_map]
  conv_rhs => rw [← List.map_id items]
  exact congrArg Json.arr (List.map_congr_left fun item hi => (asText_of_isText (h item hi)).symm)

theorem Has.same_texts (h : v.Has key (IsListOf IsText))
    (written : x = some (ofTexts ((v.itemsAt key).map asText))) (edited : y = v.get? key) :
    Option.Rel Same x y := by
  refine same_of_eq ?_
  rw [written, edited, h.get?_eq_items, ofTexts_asText h.mayHave.forall_itemsAt]

theorem MayHave.same_texts (h : v.MayHave key (IsListOf IsText))
    (written : x = if v.itemsAt key = [] then none else some (ofTexts ((v.itemsAt key).map asText)))
    (edited : y = if v.holds key (.arr []) then none else v.get? key) : Option.Rel Same x y := by
  refine same_of_eq ?_
  rw [written, edited, h.get?_unless_noItems, ofTexts_asText h.forall_itemsAt]

/-- A list of texts that has to be there in the end. -/
theorem MayHave.same_textsOrNone (h : v.MayHave key (IsListOf IsText))
    (written : x = some (ofTexts ((v.itemsAt key).map asText)))
    (edited : y = some ((v.get? key).getD (.arr []))) : Option.Rel Same x y := by
  refine same_of_eq ?_
  rw [written, edited, ofTexts_asText h.forall_itemsAt]
  rcases h.get?_eq_items with ⟨missing, empty⟩ | given
  · rw [missing, empty]
    rfl
  · rw [given]
    rfl

theorem MayHave.same_part (h : v.MayHave key P) (same : ∀ w, P w → Same (f w) w)
    (written : x = (v.get? key).map f) (edited : y = v.get? key) : Option.Rel Same x y := by
  rw [written, edited]
  cases found : v.get? key with
  | none => exact .none
  | some w => exact .some (same w (h w found))

theorem Has.same_items (h : v.Has key (IsListOf P)) (same : ∀ w, P w → Same (f w) (g w))
    (written : x = some (.arr ((v.itemsAt key).map f)))
    (edited : y = (v.get? key).map (mapItems g)) : Option.Rel Same x y := by
  rw [written, edited, h.get?_eq_items]
  exact .some (same_map fun w hw => same w (h.mayHave.forall_itemsAt w hw))

theorem MayHave.same_items (h : v.MayHave key (IsListOf P)) (same : ∀ w, P w → Same (f w) (g w))
    (written : x = if v.itemsAt key = [] then none else some (.arr ((v.itemsAt key).map f)))
    (edited : y = (if v.holds key (.arr []) then none else v.get? key).map (mapItems g)) :
    Option.Rel Same x y := by
  rw [written, edited, h.get?_unless_noItems]
  by_cases empty : v.itemsAt key = []
  · rw [if_pos empty, if_pos empty]
    exact .none
  · rw [if_neg empty, if_neg empty]
    exact .some (same_map fun w hw => same w (h.forall_itemsAt w hw))

end

end Json

/-! ## Parts of a document -/

section

open Json

variable {v : Json}

theorem Column.same_ofValid (h : v.IsColumn) : Same (ofValid v).toJson v.normalColumn := by
  have edited : ∀ key, v.normalColumn.get? key =
      if (columnDefaults.lookup key).any (v.holds key) then none else v.get? key :=
    get?_dropDefaults columnDefaults v
  refine same_of_known (ofValid v).entries_toJson.onlyHas (h.known.dropDefaults _)
    ⟨?name, ?type, ?isArray, ?isNullable, ?comment⟩
  case name => exact h.name.isText.same_text rfl (edited _)
  case type => exact h.type.isText.same_text rfl (edited _)
  case isArray =>
    refine h.isArray.same_flag true ?_ (edited _)
    simp [toJson, ofValid, List.lookup_append, lookup_cons_eq_ite, lookup_memberIf]
  case isNullable =>
    refine h.isNullable.same_flag false ?_ (edited _)
    simp [toJson, ofValid, List.lookup_append, lookup_cons_eq_ite, lookup_memberIf]
  case comment =>
    refine h.comment.same_text ?_ (edited _)
    simp [toJson, ofValid, List.lookup_append, lookup_cons_eq_ite, lookup_memberIf]

theorem RowDeletionPolicy.same_ofValid (h : v.IsPolicy) : Same (ofValid v).toJson v := by
  exact same_of_known (ofValid v).entries_toJson.onlyHas h.known
    ⟨h.columnName.isText.same_text rfl rfl, h.numDays.same_text rfl rfl⟩

theorem Table.get?_normalTable (h : v.IsTable) (key : String) : v.normalTable.get? key =
    if key = "columns" then (v.get? key).map (mapItems normalColumn)
    else if key = "primaryKey" then some ((v.get? key).getD (.arr []))
    else if (tableDefaults.lookup key).any (v.holds key) then none else v.get? key := by
  rw [normalTable, get?_mapItemsAt, (h.known.dropDefaults tableDefaults).get?_putMissing,
    get?_dropDefaults, get?_dropDefaults]
  by_cases hc : key = "columns"
  · simp [hc, tableDefaults, lookup_cons_eq_ite]
  · by_cases hp : key = "primaryKey"
    · simp [hp, tableDefaults, lookup_cons_eq_ite]
    · simp [hc, hp]

theorem Table.same_ofValid (h : v.IsTable) : Same (ofValid v).toJson v.normalTable := by
  have known := ((h.known.dropDefaults tableDefaults).putMissing "primaryKey" (by decide)
    (.arr [])).mapItemsAt "columns" normalColumn
  have edited := get?_normalTable h
  have keys : v.MayHave "primaryKey" (IsListOf IsText) := fun w hw =>
    (h.primaryKey w hw).imp fun _ => IsName.isText
  refine same_of_known (ofValid v).entries_toJson.onlyHas known
    ⟨?name, ?columns, ?primaryKey, ?interleavedIn, ?comment, ?policy⟩
  case name => exact h.name.isText.same_text rfl (edited _)
  case columns =>
    refine h.columns.same_items (fun _ => Column.same_ofValid) ?_ (edited _)
    simp [toJson, ofValid, lookup_cons_eq_ite, Function.comp_def]
  case primaryKey => exact keys.same_textsOrNone rfl (edited _)
  case interleavedIn =>
    refine h.interleavedIn.same_text ?_ (edited _)
    cases found : v.get? "rowDeletionPolicy" <;>
      simp [toJson, ofValid, List.lookup_append, lookup_cons_eq_ite, lookup_memberIf, found]
  case comment =>
    refine h.comment.same_text ?_ (edited _)
    cases found : v.get? "rowDeletionPolicy" <;>
      simp [toJson, ofValid, List.lookup_append, lookup_cons_eq_ite, lookup_memberIf, found]
  case policy =>
    refine h.policy.same_part (fun _ => RowDeletionPolicy.same_ofValid) ?_ (edited _)
    cases found : v.get? "rowDeletionPolicy" <;>
      simp [toJson, ofValid, List.lookup_append, lookup_cons_eq_ite, lookup_memberIf, found]

/-- Naming a foreign key has no influence on its sides. -/
theorem Schema.nameKey_eq (k : ForeignKey) : nameKey k =
    { k with name := if k.name = "" then k.referencingTable ++ "_" ++ k.referencedTable
        else k.name } := by
  unfold nameKey
  by_cases unnamed : k.name = ""
  · simp [unnamed]
  · simp [unnamed]

theorem ForeignKey.same_ofValid (h : v.IsForeignKey) :
    Same (Schema.nameKey (ofValid v)).toJson v.normalForeignKey := by
  have known : v.normalForeignKey.OnlyHas ["name", "referencingTable", "referencingColumns",
      "referencedTable", "referencedColumns"] := by
    unfold normalForeignKey
    split
    · exact h.known.put "name" (by decide) _
    · exact h.known
  have named : v.normalForeignKey.get? "name" =
      some (.str (if v.textAt "name" = "" then
        v.textAt "referencingTable" ++ "_" ++ v.textAt "referencedTable"
      else v.textAt "name")) := by
    unfold normalForeignKey
    split
    · rw [h.known.get?_put, if_pos rfl]
    · rename_i given
      exact (h.name.get?_eq_text).resolve_left fun missing => given missing.2
  have edited : ∀ key, key ≠ "name" → v.normalForeignKey.get? key = v.get? key := by
    intro key hk
    unfold normalForeignKey
    split
    · rw [h.known.get?_put, if_neg hk]
    · rfl
  -- Its name aside, a named foreign key is written as it was read.
  rw [Schema.nameKey_eq]
  refine same_of_known (ForeignKey.entries_toJson _).onlyHas known
    ⟨?name, ?referencingTable, ?referencingColumns, ?referencedTable, ?referencedColumns⟩
  case name => exact same_of_eq named.symm
  case referencingTable =>
    exact h.referencingTable.isText.same_text rfl (edited _ (by decide))
  case referencingColumns => exact h.referencingColumns.same_texts rfl (edited _ (by decide))
  case referencedTable => exact h.referencedTable.isText.same_text rfl (edited _ (by decide))
  case referencedColumns => exact h.referencedColumns.same_texts rfl (edited _ (by decide))

theorem IndexKey.same_ofValid (h : v.IsIndexKey) : Same (ofValid v).toJson v.normalIndexKey := by
  have direction : v.MayHave "direction" IsText := fun w hw => (h.direction w hw).isText
  have edited : ∀ key, v.normalIndexKey.get? key =
      if (indexKeyDefaults.lookup key).any (v.holds key) then none else v.get? key :=
    get?_dropDefaults indexKeyDefaults v
  refine same_of_known (ofValid v).entries_toJson.onlyHas (h.known.dropDefaults _)
    ⟨h.name.isText.same_text rfl (edited _), direction.same_text ?_ (edited _)⟩
  simp [toJson, ofValid, lookup_cons_eq_ite, lookup_memberIf]

theorem Index.get?_normalIndex (v : Json) (key : String) : v.normalIndex.get? key =
    if key = "columns" then (v.get? key).map (mapItems normalIndexKey)
    else if (indexDefaults.lookup key).any (v.holds key) then none else v.get? key := by
  rw [normalIndex, get?_mapItemsAt, get?_dropDefaults]
  by_cases hc : key = "columns"
  · simp [hc, indexDefaults, lookup_cons_eq_ite]
  · rw [if_neg hc, if_neg hc]

theorem Index.same_ofValid (h : v.IsIndex) : Same (ofValid v).toJson v.normalIndex := by
  have known := (h.known.dropDefaults indexDefaults).mapItemsAt "columns" normalIndexKey
  have edited := get?_normalIndex v
  refine same_of_known (ofValid v).entries_toJson.onlyHas known
    ⟨?name, ?table, ?columns, ?storing, ?interleavedIn, ?isUnique, ?isNullFiltered⟩
  case name => exact h.name.isText.same_text rfl (edited _)
  case table => exact h.table.isText.same_text rfl (edited _)
  case columns =>
    refine h.columns.same_items (fun _ => IndexKey.same_ofValid) ?_ (edited _)
    simp [toJson, ofValid, lookup_cons_eq_ite, Function.comp_def]
  case storing =>
    refine h.storing.same_texts ?_ (edited _)
    simp [toJson, ofValid, List.lookup_append, lookup_cons_eq_ite, lookup_memberIf]
  case interleavedIn =>
    refine h.interleavedIn.same_text ?_ (edited _)
    simp [toJson, ofValid, List.lookup_append, lookup_cons_eq_ite, lookup_memberIf]
  case isUnique =>
    refine h.isUnique.same_flag true ?_ (edited _)
    simp [toJson, ofValid, List.lookup_append, lookup_cons_eq_ite, lookup_memberIf]
  case isNullFiltered =>
    refine h.isNullFiltered.same_flag true ?_ (edited _)
    simp [toJson, ofValid, List.lookup_append, lookup_cons_eq_ite, lookup_memberIf]

theorem Schema.same_ofValid (h : v.IsDocument) :
    Same (ofValid v).nameKeys.toJson v.normalDocument := by
  have known := (((h.known.dropDefaults documentDefaults).mapItemsAt "tables"
    normalTable).mapItemsAt "foreignKeys" normalForeignKey).mapItemsAt "indexes" normalIndex
  refine same_of_known (ofValid v).nameKeys.entries_toJson.onlyHas known
    ⟨?tables, ?foreignKeys, ?indexes⟩
  case tables =>
    refine h.tables.same_items (fun _ => Table.same_ofValid) ?_ ?_
    · simp [toJson, nameKeys, ofValid, Function.comp_def]
    · simp [normalDocument, get?_mapItemsAt, get?_dropDefaults, documentDefaults,
        lookup_cons_eq_ite]
  case foreignKeys =>
    refine h.foreignKeys.same_items (fun _ => ForeignKey.same_ofValid) ?_ ?_
    · simp [toJson, nameKeys, ofValid, List.lookup_append, lookup_cons_eq_ite, lookup_memberIf,
        Function.comp_def]
    · simp [normalDocument, get?_mapItemsAt, get?_dropDefaults, documentDefaults]
  case indexes =>
    refine h.indexes.same_items (fun _ => Index.same_ofValid) ?_ ?_
    · simp [toJson, nameKeys, ofValid, List.lookup_append, lookup_cons_eq_ite, lookup_memberIf,
        Function.comp_def]
    · simp [normalDocument, get?_mapItemsAt, get?_dropDefaults, documentDefaults,
        lookup_cons_eq_ite]

/-! ## Validity -/

theorem Column.isValid_ofValid (h : v.IsColumn) : (ofValid v).IsValid where
  named := h.name.textAt_ne
  typed := h.type.textAt_ne

theorem Table.isValid_ofValid (h : v.IsTable) : (ofValid v).IsValid where
  named := h.name.textAt_ne
  columns := List.forall_mem_map.2 fun w hw =>
    Column.isValid_ofValid (h.columns.mayHave.forall_itemsAt w hw)
  keyNamed := by
    refine List.forall_mem_map.2 fun w hw => ?_
    obtain ⟨s, rfl, hs⟩ := h.primaryKey.forall_itemsAt w hw
    exact hs
  policyNamed := by
    intro p hp
    obtain ⟨w, found, rfl⟩ := Option.map_eq_some_iff.1 hp
    exact (h.policy w found).columnName.textAt_ne

theorem ForeignKey.isValid_ofValid (h : v.IsForeignKey) :
    (Schema.nameKey (ofValid v)).IsValid := by
  rw [Schema.nameKey_eq]
  exact ⟨h.referencingTable.textAt_ne, h.referencedTable.textAt_ne⟩

theorem IndexKey.isValid_ofValid (h : v.IsIndexKey) : (ofValid v).IsValid where
  named := h.name.textAt_ne
  directed := by
    cases found : v.get? "direction" with
    | none => simp [ofValid, textAt, found]
    | some w =>
      rcases h.direction w found with rfl | rfl | rfl
      all_goals simp [ofValid, textAt, found]

theorem Index.isValid_ofValid (h : v.IsIndex) : (ofValid v).IsValid where
  named := h.name.textAt_ne
  ofTable := h.table.textAt_ne
  columns := List.forall_mem_map.2 fun w hw =>
    IndexKey.isValid_ofValid (h.columns.mayHave.forall_itemsAt w hw)

theorem Schema.isValid_ofValid (h : v.IsDocument) : (ofValid v).nameKeys.IsValid where
  tables := List.forall_mem_map.2 fun w hw =>
    Table.isValid_ofValid (h.tables.mayHave.forall_itemsAt w hw)
  foreignKeys := by
    refine List.forall_mem_map.2 (List.forall_mem_map.2 fun w hw => ?_)
    exact ForeignKey.isValid_ofValid (h.foreignKeys.forall_itemsAt w hw)
  indexes := List.forall_mem_map.2 fun w hw =>
    Index.isValid_ofValid (h.indexes.forall_itemsAt w hw)

end

/-! ## References -/

namespace Schema

/-- What a valid schema is written as is read as the schema itself. -/
theorem ofValid_toJson {s : Schema} (valid : validate s.toJson false = []) :
    ofValid s.toJson = s :=
  Except.ok.inj ((ofJson_of_isDocument (isDocument_of_valid valid)).symm.trans (ofJson_toJson s))

theorem referenceIssues_toJson {s : Schema} (valid : validate s.toJson false = []) :
    referenceIssues s.toJson = s.nameIssues := by
  rw [← nameIssues_ofValid, ofValid_toJson valid]

/-- Foreign keys are told by their numbers, never by their names. -/
theorem nameIssues_nameKeys (s : Schema) : s.nameKeys.nameIssues = s.nameIssues := by
  simp only [nameIssues, nameKeys, nameKey_eq, tableNames, List.zipIdx_map, List.flatMap_map,
    Prod.map_fst, Prod.map_snd, id_eq]

/-- Nothing of a valid document is lost. The document of its schema is valid, the same names in it
refer to nothing, and it is the edited document. -/
theorem ofDocument_same_normalDocument {doc : Json} (valid : validate doc false = []) :
    ∃ s, ofDocument doc = .ok s ∧ validate s.toJson false = [] ∧
      validate s.toJson = validate doc ∧ Json.Same s.toJson doc.normalDocument := by
  have document := isDocument_of_valid valid
  have written : validate (ofValid doc).nameKeys.toJson false = [] :=
    validate_toJson_eq_nil_iff.2 (isValid_ofValid document)
  refine ⟨_, ofDocument_of_valid valid, written, ?issues, same_ofValid document⟩
  case issues =>
    -- Both documents are well-formed, so only references are left, and those of a document are
    -- those of the schema that is read of it.
    rw [validate_of_valid written, validate_of_valid valid, referenceIssues_toJson written,
      nameIssues_nameKeys, nameIssues_ofValid]

/-- A document with defaults, without a primary key, and with a foreign key that has no name and
refers to nothing. -/
def sparseDocument : Json :=
  .obj [("foreignKeys", .arr [.obj [("referencingTable", .str "A"),
      ("referencingColumns", .arr [.str "x"]), ("referencedTable", .str "B"),
      ("referencedColumns", .arr [.str "y"])]]),
    ("tables", .arr [.obj [("name", .str "A"), ("comment", .str ""),
      ("columns", .arr [.obj [("isNullable", .bool true), ("type", .str "INT64"),
        ("isArray", .bool false), ("name", .str "x")]])]]),
    ("indexes", .arr [])]

theorem sparseDocument_same_normalDocument : validate sparseDocument false = [] ∧
    ∃ s, ofDocument sparseDocument = .ok s ∧ validate s.toJson false = [] ∧
      validate s.toJson = ["foreignKeys.0.referencedTable: table 'B' not found in tables"] ∧
      Json.Same s.toJson (.obj [
        ("foreignKeys", .arr [.obj [("referencingTable", .str "A"),
          ("referencingColumns", .arr [.str "x"]), ("referencedTable", .str "B"),
          ("referencedColumns", .arr [.str "y"]), ("name", .str "A_B")]]),
        ("tables", .arr [.obj [("name", .str "A"),
          ("columns", .arr [.obj [("type", .str "INT64"), ("name", .str "x")]]),
          ("primaryKey", .arr [])]])]) := by
  have edited : sparseDocument.normalDocument = .obj [
      ("foreignKeys", .arr [.obj [("referencingTable", .str "A"),
        ("referencingColumns", .arr [.str "x"]), ("referencedTable", .str "B"),
        ("referencedColumns", .arr [.str "y"]), ("name", .str "A_B")]]),
      ("tables", .arr [.obj [("name", .str "A"),
        ("columns", .arr [.obj [("type", .str "INT64"), ("name", .str "x")]]),
        ("primaryKey", .arr [])]])] := by
    rfl
  have valid : validate sparseDocument false = [] := by decide +kernel
  have issues : validate sparseDocument =
      ["foreignKeys.0.referencedTable: table 'B' not found in tables"] := by decide +kernel
  obtain ⟨s, read, written, told, same⟩ := ofDocument_same_normalDocument valid
  rw [edited] at same
  exact ⟨valid, s, read, written, told.trans issues, same⟩

end Schema

end SpannerDdl
