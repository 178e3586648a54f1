import Mathlib.Data.List.Nodup
import SpannerDdl.Proofs.Draft.Step
import SpannerDdl.Proofs.Schema.Names

/-! # Well-formed drafts

Whatever statements a draft is given, and whichever of them it refuses, it stays well-formed.

* `Table.WellFormed`, `ForeignKey.WellFormed`, `Index.WellFormed`: the names that are never empty
  and the lists that hold no name twice.
* `Draft.Placed`: tables have different names, and the places recorded by name are theirs. Then to
  change the table at the place of a name is to change the tables of that name.
* `Draft.WellFormed`: a draft with well-formed parts whose tables are placed and whose foreign keys
  belong to tables of the draft.
* `WellFormed.step`, `wellFormed_run`: the step and the run.
-/

set_option autoImplicit false

namespace SpannerDdl

/-! ## Parts -/

/-- A table has a name, names no key column twice, and has a policy about a named column. -/
structure Table.WellFormed (t : Table) : Prop where
  named : t.name ≠ ""
  keyNodup : t.primaryKey.Nodup
  keyNamed : "" ∉ t.primaryKey
  policyNamed : ∀ p ∈ t.policy, p.column ≠ ""

/-- A foreign key has a name, and so have its columns. -/
structure ForeignKey.WellFormed (k : ForeignKey) : Prop where
  named : k.name ≠ ""
  referencingNamed : "" ∉ k.referencingColumns
  referencedNamed : "" ∉ k.referencedColumns

/-- An index has a name, and so have its table and the columns it stores. -/
structure Index.WellFormed (i : Index) : Prop where
  named : i.name ≠ ""
  ofTable : i.table ≠ ""
  storingNamed : "" ∉ i.storing

theorem PolicyDef.column_ne_of_policy? {p : PolicyDef} {q : RowDeletionPolicy}
    (h : p.policy? = some q) : q.column ≠ "" := by
  unfold policy? at h
  split at h
  · cases h
  · rename_i named
    cases h
    simpa using named

theorem Draft.wellFormed_tableOf {t : CreateTable} (named : t.name.name ≠ "")
    (columns : List Column) : (Draft.tableOf t columns).WellFormed where
  named := named
  keyNodup := nodup_firstOccurrences _
  keyNamed := by
    show "" ∉ t.primaryKeyNames
    unfold CreateTable.primaryKeyNames
    rw [mem_firstOccurrences]
    exact empty_notMem_identNames _
  policyNamed := by
    intro q hq
    obtain ⟨p, -, hp⟩ := Option.bind_eq_some_iff.1 hq
    exact PolicyDef.column_ne_of_policy? hp

theorem KeyPart.directed_indexKey (k : KeyPart) : k.indexKey.direction ∈ ["", "ASC", "DESC"] := by
  obtain ⟨name, direction⟩ := k
  cases direction with
  | none => exact List.mem_cons_self
  | some direction =>
    cases direction with
    | asc => exact List.mem_cons_of_mem _ List.mem_cons_self
    | desc => exact List.mem_cons_of_mem _ (List.mem_cons_of_mem _ List.mem_cons_self)

theorem Draft.wellFormed_indexOf {i : CreateIndex} (named : i.name.name ≠ "")
    (ofTable : i.table.name ≠ "") : (Draft.indexOf i).WellFormed where
  named := named
  ofTable := ofTable
  storingNamed := by
    show "" ∉ (i.storing.map identNames).getD []
    cases i.storing with
    | none => exact List.not_mem_nil
    | some columns => exact empty_notMem_identNames columns

theorem Draft.name_dropColumn (name : String) (t : Table) : (dropColumn name t).name = t.name := by
  unfold dropColumn
  split
  · rfl
  · rfl

theorem Draft.wellFormed_dropColumn {t : Table} (h : t.WellFormed) (name : String) :
    (dropColumn name t).WellFormed := by
  unfold dropColumn
  split
  · exact h
  · exact { h with
      keyNodup := h.keyNodup.filter _
      keyNamed := fun hm => h.keyNamed (List.mem_filter.1 hm).1 }

theorem Alteration.name_of_onTable? {change : Alteration} {f : Table → Table}
    (h : change.onTable? = some f) (t : Table) : (f t).name = t.name := by
  cases change with
  | addColumn c ifNotExists =>
    obtain ⟨column, -, rfl⟩ := Option.map_eq_some_iff.1 h
    rfl
  | dropColumn c => cases h; exact Draft.name_dropColumn c.name t
  | setInterleaving parent onDelete => cases h; rfl
  | addPolicy p => cases h; rfl
  | replacePolicy p => cases h; rfl
  | dropPolicy => cases h; rfl
  | _ => cases h

theorem Alteration.wellFormed_of_onTable? {change : Alteration} {f : Table → Table}
    (h : change.onTable? = some f) {t : Table} (ht : t.WellFormed) : (f t).WellFormed := by
  cases change with
  | addColumn c ifNotExists =>
    obtain ⟨column, -, rfl⟩ := Option.map_eq_some_iff.1 h
    exact { ht with }
  | dropColumn c => cases h; exact Draft.wellFormed_dropColumn ht c.name
  | setInterleaving parent onDelete => cases h; exact { ht with }
  | addPolicy p =>
    cases h
    exact { ht with policyNamed := fun q hq => p.column_ne_of_policy? hq }
  | replacePolicy p =>
    cases h
    exact { ht with policyNamed := fun q hq => p.column_ne_of_policy? hq }
  | dropPolicy =>
    cases h
    exact { ht with policyNamed := fun q hq => by cases hq }
  | _ => cases h

namespace Draft

/-! ## Recording foreign keys -/

/-- The foreign key as it is recorded: under its own name or under one that the draft gives it. -/
def recorded (d : Draft) (k : ForeignKey) : ForeignKey :=
  if k.name == "" then { k with name := d.keyName k } else k

theorem keyName_ne (d : Draft) (k : ForeignKey) : d.keyName k ≠ "" := by
  intro h
  have s1 := congrArg String.length h
  simp [keyName, String.length_append] at s1

theorem addForeignKey_eq (d : Draft) (k : ForeignKey) :
    d.addForeignKey k =
      { d with
        foreignKeys := d.foreignKeys ++ [d.recorded k]
        unnamedKeys := if k.name == "" then d.unnamedKeys + 1 else d.unnamedKeys } := by
  unfold addForeignKey recorded
  split
  · rfl
  · rfl

theorem addConstraint_eq (d : Draft) (owner : String) (c : TableConstraint) :
    ∃ n, d.addConstraint owner c =
      { d with
        foreignKeys := d.foreignKeys ++ ((c.foreignKey? owner).map d.recorded).toList
        unnamedKeys := n } := by
  unfold addConstraint
  cases c.foreignKey? owner with
  | none => exact ⟨d.unnamedKeys, by simp⟩
  | some k => exact ⟨_, addForeignKey_eq d k⟩

/-- Some draft records the foreign key for a constraint of a table. -/
def Records (c : TableConstraint) (owner : String) (k : ForeignKey) : Prop :=
  ∃ (d : Draft) (k' : ForeignKey), c.foreignKey? owner = some k' ∧ k = d.recorded k'

theorem Records.wellFormed {c : TableConstraint} {owner : String} {k : ForeignKey}
    (h : Records c owner k) : k.WellFormed ∧ k.referencingTable = owner := by
  obtain ⟨d, k', hk', rfl⟩ := h
  obtain ⟨body, name⟩ := c
  cases body with
  | foreignKey key =>
    cases hk'
    unfold recorded
    split
    · exact ⟨⟨d.keyName_ne _, empty_notMem_identNames _, empty_notMem_identNames _⟩, rfl⟩
    · rename_i named
      exact ⟨⟨by simpa using named, empty_notMem_identNames _, empty_notMem_identNames _⟩, rfl⟩
  | check expr => cases hk'
  | other => cases hk'

section
variable (d : Draft) (owner : String)

@[simp] theorem tables_addConstraint (c : TableConstraint) :
    (d.addConstraint owner c).tables = d.tables := by
  obtain ⟨n, h⟩ := d.addConstraint_eq owner c
  rw [h]

@[simp] theorem places_addConstraint (c : TableConstraint) :
    (d.addConstraint owner c).places = d.places := by
  obtain ⟨n, h⟩ := d.addConstraint_eq owner c
  rw [h]

@[simp] theorem indexes_addConstraint (c : TableConstraint) :
    (d.addConstraint owner c).indexes = d.indexes := by
  obtain ⟨n, h⟩ := d.addConstraint_eq owner c
  rw [h]

theorem foreignKeys_addConstraint (c : TableConstraint) :
    (d.addConstraint owner c).foreignKeys =
      d.foreignKeys ++ ((c.foreignKey? owner).map d.recorded).toList := by
  obtain ⟨n, h⟩ := d.addConstraint_eq owner c
  rw [h]

@[simp] theorem tables_addConstraints (cs : List TableConstraint) :
    (d.addConstraints owner cs).tables = d.tables := by
  induction cs generalizing d with
  | nil => rfl
  | cons c cs ih => exact (ih (d.addConstraint owner c)).trans (d.tables_addConstraint owner c)

@[simp] theorem places_addConstraints (cs : List TableConstraint) :
    (d.addConstraints owner cs).places = d.places := by
  induction cs generalizing d with
  | nil => rfl
  | cons c cs ih => exact (ih (d.addConstraint owner c)).trans (d.places_addConstraint owner c)

@[simp] theorem indexes_addConstraints (cs : List TableConstraint) :
    (d.addConstraints owner cs).indexes = d.indexes := by
  induction cs generalizing d with
  | nil => rfl
  | cons c cs ih => exact (ih (d.addConstraint owner c)).trans (d.indexes_addConstraint owner c)

theorem place?_addConstraints (cs : List TableConstraint) (name : String) :
    (d.addConstraints owner cs).place? name = d.place? name := by
  unfold place?
  rw [places_addConstraints]

end

theorem mem_foreignKeys_addConstraint {d : Draft} {owner : String} {c : TableConstraint}
    {k : ForeignKey} (h : k ∈ (d.addConstraint owner c).foreignKeys) :
    k ∈ d.foreignKeys ∨ Records c owner k := by
  rw [foreignKeys_addConstraint, List.mem_append, Option.mem_toList, Option.map_eq_some_iff] at h
  rcases h with h | ⟨k', hk', rfl⟩
  · exact Or.inl h
  · exact Or.inr ⟨d, k', hk', rfl⟩

theorem mem_foreignKeys_addConstraints {d : Draft} {owner : String} {cs : List TableConstraint}
    {k : ForeignKey} (h : k ∈ (d.addConstraints owner cs).foreignKeys) :
    k ∈ d.foreignKeys ∨ ∃ c ∈ cs, Records c owner k := by
  induction cs generalizing d with
  | nil => exact Or.inl h
  | cons c cs ih =>
    rcases ih (d := d.addConstraint owner c) h with h' | ⟨c', hc', h'⟩
    · rcases mem_foreignKeys_addConstraint h' with h' | h'
      · exact Or.inl h'
      · exact Or.inr ⟨c, List.mem_cons_self, h'⟩
    · exact Or.inr ⟨c', List.mem_cons_of_mem c hc', h'⟩

theorem mem_tables_changeTable {d : Draft} {place : Nat} {f : Table → Table} {t : Table}
    (h : t ∈ (d.changeTable place f).tables) : t ∈ d.tables ∨ ∃ t' ∈ d.tables, t = f t' := by
  obtain ⟨i, hi⟩ := List.mem_iff_getElem?.1 h
  rw [changeTable, List.getElem?_modify] at hi
  obtain ⟨t', ht', rfl⟩ := Option.map_eq_some_iff.1 hi
  have s1 := List.mem_of_getElem? ht'
  split
  · exact Or.inr ⟨t', s1, rfl⟩
  · exact Or.inl s1

/-! ## Places -/

theorem lookup_zipIdx (names : List String) (name : String) (k : Nat) :
    (names.zipIdx k).lookup name = (names.idxOf? name).map (· + k) := by
  induction names generalizing k with
  | nil => rfl
  | cons n names ih =>
    rw [List.zipIdx_cons, List.lookup_cons, List.idxOf?_cons, ih]
    by_cases hn : n = name
    · subst hn
      simp
    · have s1 : (name == n) = false := by simpa using fun e : name = n => hn e.symm
      have s2 : (n == name) = false := by simpa using hn
      simp only [s1, s2, Bool.false_eq_true, if_false, Option.map_map]
      congr 1
      funext i
      simp only [Function.comp_apply]
      omega

/-- Tables have different names, and each name is recorded with the place of its table. -/
structure Placed (d : Draft) : Prop where
  namesNodup : (d.tables.map Table.name).Nodup
  places : d.places = (d.tables.map Table.name).zipIdx

theorem placed_empty : Placed {} := ⟨List.nodup_nil, rfl⟩

section
variable {d : Draft} (h : d.Placed) {name : String} {place : Nat}
include h

theorem Placed.place?_eq : d.place? name = (d.tables.map Table.name).idxOf? name := by
  unfold place?
  rw [h.places, lookup_zipIdx]
  simp

theorem Placed.place?_eq_none_iff : d.place? name = none ↔ name ∉ d.tables.map Table.name := by
  rw [h.place?_eq, List.idxOf?_eq_none_iff]

theorem Placed.exists_of_place? (found : d.place? name = some place) :
    ∃ t, d.tables[place]? = some t ∧ t.name = name := by
  rw [h.place?_eq, List.idxOf?_eq_some_iff] at found
  obtain ⟨hlt, hname, -⟩ := found
  rw [List.length_map] at hlt
  rw [List.getElem_map] at hname
  exact ⟨d.tables[place], List.getElem?_eq_getElem hlt, hname⟩

theorem Placed.mem_of_place? (found : d.place? name = some place) :
    name ∈ d.tables.map Table.name := by
  obtain ⟨t, ht, rfl⟩ := h.exists_of_place? found
  exact List.mem_map_of_mem (List.mem_of_getElem? ht)

theorem Placed.table?_eq_some_iff {t : Table} :
    d.table? name = some t ↔ t ∈ d.tables ∧ t.name = name := by
  constructor
  · intro ht
    obtain ⟨place, found, hp⟩ := Option.bind_eq_some_iff.1 ht
    obtain ⟨t', ht', hname⟩ := h.exists_of_place? found
    rw [hp, Option.some.injEq] at ht'
    subst ht'
    exact ⟨List.mem_of_getElem? hp, hname⟩
  · rintro ⟨ht, rfl⟩
    have s1 : d.place? t.name ≠ none := by
      rw [Ne, h.place?_eq_none_iff, not_not]
      exact List.mem_map_of_mem ht
    obtain ⟨place, found⟩ := Option.ne_none_iff_exists'.1 s1
    obtain ⟨t', ht', hname⟩ := h.exists_of_place? found
    have s2 : t' = t := List.inj_on_of_nodup_map h.namesNodup (List.mem_of_getElem? ht') ht hname
    rw [table?, found, Option.bind_some, ht', s2]

theorem Placed.tables_changeTable (found : d.place? name = some place) (f : Table → Table) :
    (d.changeTable place f).tables = d.tables.map fun t => if t.name = name then f t else t := by
  obtain ⟨t, ht, hname⟩ := h.exists_of_place? found
  show d.tables.modify place f = _
  apply List.ext_getElem
  · rw [List.length_modify, List.length_map]
  · intro i h1 h2
    rw [List.length_map] at h2
    rw [List.getElem_modify, List.getElem_map]
    obtain ⟨hp, hpt⟩ := List.getElem?_eq_some_iff.1 ht
    by_cases hi : place = i
    · subst hi
      rw [if_pos rfl, if_pos (by rw [hpt, hname])]
    · -- the names differ, so no other table is the one that was looked for
      have s1 : d.tables[i].name ≠ name := by
        intro he
        have hplace : place < (d.tables.map Table.name).length := by rwa [List.length_map]
        have hi' : i < (d.tables.map Table.name).length := by rwa [List.length_map]
        have s2 : (d.tables.map Table.name)[place] = (d.tables.map Table.name)[i] ↔ place = i :=
          h.namesNodup.getElem_inj_iff
        rw [List.getElem_map, List.getElem_map, hpt, hname, he] at s2
        exact hi (s2.1 rfl)
      rw [if_neg hi, if_neg s1]

end

theorem names_changeTable (d : Draft) (place : Nat) {change : Alteration} {f : Table → Table}
    (effect : change.onTable? = some f) :
    (d.changeTable place f).tables.map Table.name = d.tables.map Table.name := by
  show (d.tables.modify place f).map Table.name = _
  apply List.ext_getElem
  · rw [List.length_map, List.length_map, List.length_modify]
  · intro i h1 h2
    rw [List.getElem_map, List.getElem_map, List.getElem_modify]
    split
    · exact Alteration.name_of_onTable? effect _
    · rfl

theorem Placed.changeTable {d : Draft} (h : d.Placed) {change : Alteration} {place : Nat}
    {f : Table → Table} (effect : change.onTable? = some f) : (d.changeTable place f).Placed := by
  have names := d.names_changeTable place effect
  constructor
  · rw [names]
    exact h.namesNodup
  · rw [names]
    exact h.places

theorem Placed.addConstraints {d : Draft} (h : d.Placed) (owner : String)
    (cs : List TableConstraint) : (d.addConstraints owner cs).Placed := by
  constructor
  · simpa using h.namesNodup
  · simpa using h.places

theorem Placed.addTable {d : Draft} (h : d.Placed) {t : Table} (isNew : d.place? t.name = none) :
    (d.addTable t).Placed := by
  have names : (d.addTable t).tables.map Table.name = d.tables.map Table.name ++ [t.name] := by
    simp [Draft.addTable]
  constructor
  · rw [names, ← List.concat_eq_append, List.nodup_concat]
    exact ⟨h.place?_eq_none_iff.1 isNew, h.namesNodup⟩
  · rw [names, List.zipIdx_append, ← h.places]
    simp [Draft.addTable]

/-! ## Steps and runs -/

/-- What holds of a draft behind any statements. -/
structure WellFormed (d : Draft) : Prop where
  tables : ∀ t ∈ d.tables, t.WellFormed
  namesNodup : (d.tables.map Table.name).Nodup
  places : d.places = (d.tables.map Table.name).zipIdx
  foreignKeys : ∀ k ∈ d.foreignKeys, k.WellFormed
  owners : ∀ k ∈ d.foreignKeys, k.referencingTable ∈ d.tables.map Table.name
  indexes : ∀ i ∈ d.indexes, i.WellFormed

theorem wellFormed_empty : WellFormed {} where
  tables := by simp
  namesNodup := List.nodup_nil
  places := rfl
  foreignKeys := by simp
  owners := by simp
  indexes := by simp

theorem WellFormed.placed {d : Draft} (h : d.WellFormed) : d.Placed := ⟨h.namesNodup, h.places⟩

theorem WellFormed.table?_eq_some_iff {d : Draft} (h : d.WellFormed) {name : String} {t : Table} :
    d.table? name = some t ↔ t ∈ d.tables ∧ t.name = name :=
  h.placed.table?_eq_some_iff

theorem WellFormed.addConstraint {d : Draft} (h : d.WellFormed) {name : String} {place : Nat}
    (found : d.place? name = some place) (c : TableConstraint) :
    (d.addConstraint name c).WellFormed where
  tables := by simpa using h.tables
  namesNodup := by simpa using h.namesNodup
  places := by simpa using h.places
  foreignKeys := by
    intro k hk
    rcases mem_foreignKeys_addConstraint hk with hk | hk
    · exact h.foreignKeys k hk
    · exact hk.wellFormed.1
  owners := by
    intro k hk
    rw [tables_addConstraint]
    rcases mem_foreignKeys_addConstraint hk with hk | hk
    · exact h.owners k hk
    · rw [hk.wellFormed.2]
      exact h.placed.mem_of_place? found
  indexes := by simpa using h.indexes

theorem WellFormed.addTable {d : Draft} (h : d.WellFormed) {t : CreateTable}
    (named : t.name.name ≠ "") (isNew : d.place? t.name.name = none) (columns : List Column) :
    ((d.addConstraints t.name.name t.constraints).addTable (tableOf t columns)).WellFormed := by
  have names : ((d.addConstraints t.name.name t.constraints).addTable
      (tableOf t columns)).tables.map Table.name = d.tables.map Table.name ++ [t.name.name] := by
    simp [Draft.addTable, tableOf]
  have placed := (h.placed.addConstraints t.name.name t.constraints).addTable
    (t := tableOf t columns) ((d.place?_addConstraints _ _ _).trans isNew)
  refine ⟨?_, placed.namesNodup, placed.places, ?_, ?_, ?_⟩
  · intro t' ht'
    simp only [Draft.addTable, tables_addConstraints, List.mem_append, List.mem_singleton] at ht'
    rcases ht' with ht' | rfl
    · exact h.tables t' ht'
    · exact wellFormed_tableOf named columns
  · intro k hk
    rcases mem_foreignKeys_addConstraints (show k ∈ (d.addConstraints _ _).foreignKeys from hk)
      with hk | ⟨c, _, hk⟩
    · exact h.foreignKeys k hk
    · exact hk.wellFormed.1
  · intro k hk
    rw [names, List.mem_append, List.mem_singleton]
    rcases mem_foreignKeys_addConstraints (show k ∈ (d.addConstraints _ _).foreignKeys from hk)
      with hk | ⟨c, _, hk⟩
    · exact Or.inl (h.owners k hk)
    · exact Or.inr hk.wellFormed.2
  · simpa [Draft.addTable] using h.indexes

theorem WellFormed.changeTable {d : Draft} (h : d.WellFormed) {change : Alteration} {place : Nat}
    {f : Table → Table} (effect : change.onTable? = some f) :
    (d.changeTable place f).WellFormed := by
  have placed : (d.changeTable place f).Placed := h.placed.changeTable effect
  refine ⟨?_, placed.namesNodup, placed.places, h.foreignKeys, ?_, h.indexes⟩
  · intro t ht
    rcases mem_tables_changeTable ht with ht | ⟨t', ht', rfl⟩
    · exact h.tables t ht
    · exact Alteration.wellFormed_of_onTable? effect (h.tables t' ht')
  · rw [d.names_changeTable place effect]
    exact h.owners

theorem WellFormed.dropForeignKeys {d : Draft} (h : d.WellFormed) (name : String) :
    (d.dropForeignKeys name).WellFormed := by
  unfold Draft.dropForeignKeys
  split
  · exact h
  · exact { h with
      foreignKeys := fun k hk => h.foreignKeys k (List.mem_filter.1 hk).1
      owners := fun k hk => h.owners k (List.mem_filter.1 hk).1 }

theorem WellFormed.addIndex {d : Draft} (h : d.WellFormed) {i : CreateIndex}
    (named : i.name.name ≠ "") (ofTable : i.table.name ≠ "") :
    { d with indexes := d.indexes ++ [indexOf i] : Draft }.WellFormed :=
  { h with
    indexes := by
      intro j hj
      rw [List.mem_append, List.mem_singleton] at hj
      rcases hj with hj | rfl
      · exact h.indexes j hj
      · exact wellFormed_indexOf named ofTable }

theorem WellFormed.step {d d' : Draft} {s : Statement} (hs : Step d s d') (h : d.WellFormed) :
    d'.WellFormed := by
  cases hs with
  | createTable named isNew converted => exact h.addTable named isNew _
  | changeTable found effect => exact h.changeTable effect
  | addConstraint found c => exact h.addConstraint found c
  | dropConstraint found c => exact h.dropForeignKeys c.name
  | ignore found ignored => exact h
  | createIndex named ofTable => exact h.addIndex named ofTable
  | other keyword text => exact h

theorem History.wellFormed {log : List Statement} {d : Draft} (h : History log d) :
    d.WellFormed := by
  induction h with
  | empty => exact wellFormed_empty
  | step _ hs ih => exact ih.step hs

/-- Behind any statements, accepted or refused, a draft is well-formed, and a name leads to a
table just if a table has that name. -/
theorem wellFormed_run (ss : List Statement) :
    (run {} ss).WellFormed ∧
      ∀ name t, (run {} ss).table? name = some t ↔ t ∈ (run {} ss).tables ∧ t.name = name := by
  have s1 : (run {} ss).WellFormed := (history_run ss).wellFormed
  exact ⟨s1, fun name t => s1.table?_eq_some_iff⟩

end Draft

end SpannerDdl
