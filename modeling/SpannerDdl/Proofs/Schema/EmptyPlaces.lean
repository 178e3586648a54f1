import SpannerDdl.Proofs.Draft.WellFormed
import SpannerDdl.Proofs.Schema.Validity

/-! # Where the document of a schema has an empty text

If the names that a draft looks at are given, there is only one complaint about the document of a
schema: a text is empty that must not be, and this is the name or the type of a column, the name of
an index key or the referenced table of a foreign key.

* `Schema.Presentable`: the names that a draft looks at are given.
* `Schema.emptyPlaces`: the paths to the other texts that must not be empty and are.
* `Schema.issues_toJson_eq`: the complaints about the document are about these places. -/

set_option autoImplicit false

namespace SpannerDdl

/-! ## Places -/

/-- The complaint about an empty text at the end of a path. -/
def Issue.emptyAt (path : List String) : Issue := ⟨path, "'' should be non-empty"⟩

/-- The way to a text that is empty, from the text itself. -/
def emptyPlace (text : String) : List (List String) := if text = "" then [[]] else []

/-- Places seen from an object that holds the value under a key. -/
def placesUnder (key : String) (places : List (List String)) : List (List String) :=
  places.map (key :: ·)

/-- The places in the items of a list, each under the index of its item. -/
def placesIn {α : Type} (places : α → List (List String)) (xs : List α) : List (List String) :=
  xs.zipIdx.flatMap fun p => placesUnder (toString p.2) (places p.1)

/-- The empty ones among the name and the type of a column. -/
def Column.emptyPlaces (c : Column) : List (List String) :=
  placesUnder "name" (emptyPlace c.name) ++ placesUnder "type" (emptyPlace c.type)

/-- The empty names and types of the columns of a table. -/
def Table.emptyPlaces (t : Table) : List (List String) :=
  placesUnder "columns" (placesIn Column.emptyPlaces t.columns)

/-- The referenced table of a foreign key, if it is empty. -/
def ForeignKey.emptyPlaces (k : ForeignKey) : List (List String) :=
  placesUnder "referencedTable" (emptyPlace k.referencedTable)

/-- The name of an index key, if it is empty. -/
def IndexKey.emptyPlaces (k : IndexKey) : List (List String) :=
  placesUnder "name" (emptyPlace k.name)

/-- The empty names of the columns of an index. -/
def Index.emptyPlaces (i : Index) : List (List String) :=
  placesUnder "columns" (placesIn IndexKey.emptyPlaces i.columns)

/-- The places of a schema where a column, an index key or a referenced table has no name, or a
column no type. -/
def Schema.emptyPlaces (s : Schema) : List (List String) :=
  placesUnder "tables" (placesIn Table.emptyPlaces s.tables) ++
    placesUnder "foreignKeys" (placesIn ForeignKey.emptyPlaces s.foreignKeys) ++
    placesUnder "indexes" (placesIn Index.emptyPlaces s.indexes)

/-! ## Complaints about places -/

theorem Issue.map_under_emptyAt (key : String) (places : List (List String)) :
    (places.map Issue.emptyAt).map (Issue.under key) =
      (placesUnder key places).map Issue.emptyAt := by
  rw [placesUnder, List.map_map, List.map_map]
  rfl

namespace Rule

variable {rules : List (String × Rule)} {given : Json.Members} {key : String} {rule : Rule}
  {value : Json} {places : List (List String)}

theorem issues_nameRule (text : String) :
    nameRule.issues (.str text) = (emptyPlace text).map Issue.emptyAt := by
  rw [nameRule, issues, emptyPlace]
  by_cases ht : text = ""
  · subst ht
    rfl
  · simp [ht]

theorem issues_array_of_places {α : Type} {item : Rule} {write : α → Json}
    {places : α → List (List String)} {xs : List α}
    (h : ∀ x ∈ xs, item.issues (write x) = (places x).map Issue.emptyAt) :
    (array item).issues (.arr (xs.map write)) = (placesIn places xs).map Issue.emptyAt := by
  have s1 : ∀ p ∈ xs.zipIdx, (item.issues (write p.1)).map (Issue.under (toString p.2)) =
      (placesUnder (toString p.2) (places p.1)).map Issue.emptyAt := by
    intro p hp
    rw [h p.1 (List.fst_mem_of_mem_zipIdx hp), Issue.map_under_emptyAt]
  rw [issues, placesIn, List.map_flatMap, List.zipIdx_map, List.flatMap_map]
  exact List.flatMap_congr s1

/-- Where every given key is known and no required one is missing, the complaints are those about
the members. -/
theorem issues_object_of_members {required keys : List String} (h : Json.Entries keys given)
    (hk : rules.map Prod.fst = keys) (complete : ∀ key ∈ required, (given.lookup key).isSome) :
    (object required rules).issues (.obj given) = memberIssues rules given := by
  rw [issues, missingMembers_eq_nil_iff.2 complete,
    unknownMembers_eq_nil_iff.2 (known_of_entries h hk)]
  rfl

theorem memberIssues_of_places (hv : given.lookup key = some value)
    (h : rule.issues value = places.map Issue.emptyAt) :
    memberIssues ((key, rule) :: rules) given =
      (placesUnder key places).map Issue.emptyAt ++ memberIssues rules given := by
  rw [memberIssues, hv]
  simp only [h, Issue.map_under_emptyAt]

/-- A list that is left out if it has no items has no places either. -/
theorem memberIssues_of_optional {α : Type} {item : Rule} {write : α → Json}
    {places : α → List (List String)} {xs : List α}
    (hv : given.lookup key = if xs = [] then none else some (.arr (xs.map write)))
    (h : ∀ x ∈ xs, item.issues (write x) = (places x).map Issue.emptyAt) :
    memberIssues ((key, .array item) :: rules) given =
      (placesUnder key (placesIn places xs)).map Issue.emptyAt ++ memberIssues rules given := by
  by_cases hx : xs = []
  · subst hx
    rw [memberIssues, hv]
    rfl
  · rw [if_neg hx] at hv
    exact memberIssues_of_places hv (issues_array_of_places h)

/-- A member adds no complaint if it is not there or there is none about it. -/
theorem memberIssues_of_met (h : ∀ v, given.lookup key = some v → rule.issues v = []) :
    memberIssues ((key, rule) :: rules) given = memberIssues rules given := by
  rw [memberIssues]
  cases hv : given.lookup key with
  | none => rfl
  | some v =>
    simp only [h v hv]
    rfl

end Rule

/-! ## Complaints about documents -/

theorem Column.issues_toJson_eq (c : Column) :
    columnRule.issues c.toJson = c.emptyPlaces.map Issue.emptyAt := by
  have name : c.toJson.members.lookup "name" = some (.str c.name) := rfl
  have type : c.toJson.members.lookup "type" = some (.str c.type) := rfl
  refine (Rule.issues_object_of_members c.entries_toJson rfl ?_).trans ?_
  · simp [toJson, Json.members, List.lookup_cons]
  · rw [Rule.memberIssues_of_places name (Rule.issues_nameRule _),
      Rule.memberIssues_of_places type (Rule.issues_nameRule _), Rule.memberIssues_of_met,
      Rule.memberIssues_of_met, Rule.memberIssues_of_met, Rule.memberIssues, List.append_nil,
      emptyPlaces, List.map_append]
    all_goals simp [toJson, Json.members, List.lookup_append, List.lookup_cons,
      Json.lookup_memberIf]

theorem Table.issues_toJson_eq {t : Table} (h : t.WellFormed) :
    tableRule.issues t.toJson = t.emptyPlaces.map Issue.emptyAt := by
  have columns : t.toJson.members.lookup "columns" = some (.arr (t.columns.map Column.toJson)) :=
    rfl
  have primaryKey : ∀ v, t.toJson.members.lookup "primaryKey" = some v →
      (Rule.array nameRule).issues v = [] := by
    intro v hv
    obtain rfl : Json.ofTexts t.primaryKey = v := Option.some.inj hv
    refine Rule.issues_map_eq_nil_iff.2 fun key hk => Rule.issues_text_eq_nil_iff.2 fun _ he => ?_
    exact h.keyNamed (he ▸ hk)
  have policy : ∀ v, t.toJson.members.lookup "rowDeletionPolicy" = some v →
      policyRule.issues v = [] := by
    intro v hv
    cases hp : t.policy with
    | none =>
      simp [toJson, Json.members, List.lookup_append, List.lookup_cons, Json.lookup_memberIf, hp]
        at hv
    | some p =>
      have s1 : v = p.toJson := by
        simpa [toJson, Json.members, List.lookup_append, List.lookup_cons, Json.lookup_memberIf,
          hp, eq_comm] using hv
      rw [s1, RowDeletionPolicy.issues_toJson]
      exact h.policyNamed p hp
  refine (Rule.issues_object_of_members t.entries_toJson rfl ?_).trans ?_
  · simp [toJson, Json.members, List.lookup_cons]
  · rw [Rule.memberIssues_of_met, Rule.memberIssues_of_places columns
        (Rule.issues_array_of_places fun c _ => c.issues_toJson_eq),
      Rule.memberIssues_of_met primaryKey, Rule.memberIssues_of_met, Rule.memberIssues_of_met,
      Rule.memberIssues_of_met policy, Rule.memberIssues, List.append_nil, emptyPlaces]
    all_goals cases hp : t.policy <;>
      simp [toJson, Json.members, List.lookup_append, List.lookup_cons, Json.lookup_memberIf,
        nameRule, h.named, hp]

theorem ForeignKey.issues_toJson_eq {k : ForeignKey} (ofTable : k.referencingTable ≠ "") :
    foreignKeyRule.issues k.toJson = k.emptyPlaces.map Issue.emptyAt := by
  have toTable : k.toJson.members.lookup "referencedTable" = some (.str k.referencedTable) := rfl
  refine (Rule.issues_object_of_members k.entries_toJson rfl ?_).trans ?_
  · simp [toJson, Json.members, List.lookup_cons]
  · rw [Rule.memberIssues_of_met, Rule.memberIssues_of_met, Rule.memberIssues_of_met,
      Rule.memberIssues_of_places toTable (Rule.issues_nameRule _), Rule.memberIssues_of_met,
      Rule.memberIssues, List.append_nil, emptyPlaces]
    all_goals simp [toJson, Json.members, List.lookup_cons, Json.ofTexts, nameRule, textsRule,
      Rule.issues_map_eq_nil_iff, ofTable]

theorem IndexKey.issues_toJson_eq {k : IndexKey} (directed : k.direction ∈ ["", "ASC", "DESC"]) :
    indexKeyRule.issues k.toJson = k.emptyPlaces.map Issue.emptyAt := by
  have name : k.toJson.members.lookup "name" = some (.str k.name) := rfl
  refine (Rule.issues_object_of_members k.entries_toJson rfl ?_).trans ?_
  · simp [toJson, Json.members, List.lookup_cons]
  · rw [Rule.memberIssues_of_places name (Rule.issues_nameRule _), Rule.memberIssues_of_met,
      Rule.memberIssues, List.append_nil, emptyPlaces]
    intro v hv
    have s1 : v = .str k.direction := by
      simp [toJson, Json.members, List.lookup_cons, Json.lookup_memberIf] at hv
      exact hv.2.symm
    rw [s1, Rule.issues_oneOf_eq_nil_iff]
    exact directed

theorem Index.issues_toJson_eq {i : Index} (h : i.WellFormed)
    (directed : ∀ k ∈ i.columns, k.direction ∈ ["", "ASC", "DESC"]) :
    indexRule.issues i.toJson = i.emptyPlaces.map Issue.emptyAt := by
  have columns : i.toJson.members.lookup "columns" =
      some (.arr (i.columns.map IndexKey.toJson)) := rfl
  refine (Rule.issues_object_of_members i.entries_toJson rfl ?_).trans ?_
  · simp [toJson, Json.members, List.lookup_cons]
  · rw [Rule.memberIssues_of_met, Rule.memberIssues_of_met, Rule.memberIssues_of_places columns
        (Rule.issues_array_of_places fun k hk => IndexKey.issues_toJson_eq (directed k hk)),
      Rule.memberIssues_of_met, Rule.memberIssues_of_met, Rule.memberIssues_of_met,
      Rule.memberIssues_of_met, Rule.memberIssues, List.append_nil, emptyPlaces]
    all_goals simp [toJson, Json.members, List.lookup_append, List.lookup_cons,
      Json.lookup_memberIf, Json.ofTexts, nameRule, textsRule, Rule.issues_map_eq_nil_iff, h.named,
      h.ofTable]

/-! ## Schemas -/

/-- The names in a schema that a draft looks at are given, and the directions of its index keys are
known. -/
structure Schema.Presentable (s : Schema) : Prop where
  tables : ∀ t ∈ s.tables, t.WellFormed
  ofTables : ∀ k ∈ s.foreignKeys, k.referencingTable ≠ ""
  indexes : ∀ i ∈ s.indexes, i.WellFormed
  directed : ∀ i ∈ s.indexes, ∀ k ∈ i.columns, k.direction ∈ ["", "ASC", "DESC"]

/-- The complaints about the document are exactly those about its empty places, in their order. -/
theorem Schema.issues_toJson_eq {s : Schema} (h : s.Presentable) :
    documentRule.issues s.toJson = s.emptyPlaces.map Issue.emptyAt := by
  have tables : s.toJson.members.lookup "tables" = some (.arr (s.tables.map Table.toJson)) := rfl
  have foreignKeys : s.toJson.members.lookup "foreignKeys" =
      if s.foreignKeys = [] then none else some (.arr (s.foreignKeys.map ForeignKey.toJson)) := by
    simp [toJson, Json.members, List.lookup_append, List.lookup_cons, Json.lookup_memberIf]
  have indexes : s.toJson.members.lookup "indexes" =
      if s.indexes = [] then none else some (.arr (s.indexes.map Index.toJson)) := by
    simp [toJson, Json.members, List.lookup_append, List.lookup_cons, Json.lookup_memberIf]
  refine (Rule.issues_object_of_members s.entries_toJson rfl ?_).trans ?_
  · simp [toJson, Json.members, List.lookup_cons]
  · rw [Rule.memberIssues_of_places tables
        (Rule.issues_array_of_places fun t ht => Table.issues_toJson_eq (h.tables t ht)),
      Rule.memberIssues_of_optional foreignKeys
        (fun k hk => ForeignKey.issues_toJson_eq (h.ofTables k hk)),
      Rule.memberIssues_of_optional indexes
        (fun i hi => Index.issues_toJson_eq (h.indexes i hi) (h.directed i hi)),
      Rule.memberIssues, List.append_nil, emptyPlaces, List.map_append, List.map_append,
      List.append_assoc]

/-- So the document is valid if there are no such places. -/
theorem Schema.validate_toJson_of_presentable {s : Schema} (h : s.Presentable) :
    validate s.toJson false = [] ↔
      (∀ t ∈ s.tables, ∀ c ∈ t.columns, c.name ≠ "" ∧ c.type ≠ "") ∧
      (∀ i ∈ s.indexes, ∀ k ∈ i.columns, k.name ≠ "") ∧
      ∀ k ∈ s.foreignKeys, k.referencedTable ≠ "" := by
  rw [validate_toJson_eq_nil_iff]
  constructor
  · intro valid
    refine ⟨fun t ht c hc => ?_, fun i hi k hk => ?_, fun k hk => (valid.foreignKeys k hk).toTable⟩
    · have s1 := (valid.tables t ht).columns c hc
      exact ⟨s1.named, s1.typed⟩
    · exact ((valid.indexes i hi).columns k hk).named
  · rintro ⟨columns, keys, toTables⟩
    refine ⟨fun t ht => ?_, fun k hk => ⟨h.ofTables k hk, toTables k hk⟩, fun i hi => ?_⟩
    · have s1 := h.tables t ht
      exact {
        named := s1.named
        columns := fun c hc => ⟨(columns t ht c hc).1, (columns t ht c hc).2⟩
        keyNamed := fun key hk he => s1.keyNamed (he ▸ hk)
        policyNamed := s1.policyNamed }
    · have s1 := h.indexes i hi
      exact ⟨s1.named, s1.ofTable, fun k hk => ⟨keys i hi k hk, h.directed i hi k hk⟩⟩

end SpannerDdl
