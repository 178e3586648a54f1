import SpannerDdl.Proofs.Draft.Log
import SpannerDdl.Proofs.Draft.WellFormed

/-! # Columns and keys as a log tells them

The tables of a draft can be read off the statements it accepted, without going through the drafts
in between.

* `Statement.addedColumns`, `Statement.drops`: what one statement adds to a table and drops from it.
* `CreateTable.columnsBehind t later`: the columns of a table behind the statements `later`: each
  one that was given to it and not dropped after that.
* `CreateTable.keyBehind t later`: its primary key, each name of which was declared and not dropped.
* `columns_and_keys_of_run`: the tables of a draft are those that the accepted statements create, in
  order, with these columns and keys.
-/

set_option autoImplicit false

namespace SpannerDdl

/-! ## Reading the log -/

/-- The column that a statement adds to a table. -/
def Statement.addedColumns (table : String) : Statement → List Column
  | .alterTable name (.addColumn c _) =>
    if name.name = table then c.column.toOption.toList else []
  | _ => []

/-- Whether a statement drops the columns of a name from a table. -/
def Statement.drops (table column : String) : Statement → Bool
  | .alterTable name (.dropColumn c) => name.name == table && c.name == column && column != ""
  | _ => false

/-- Of columns with the statements behind them, those that none of these drops. -/
def undropped (table : String) (given : List (Column × List Statement)) : List Column :=
  (given.filter fun p => !p.2.any (·.drops table p.1.name)).map Prod.fst

namespace CreateTable

/-- The columns that a table is created with. -/
def convertedColumns (t : CreateTable) : List Column := t.columns.filterMap (·.column.toOption)

/-- The names of the primary key that a table is created with: those of the clause, then those of
the columns that are primary keys by themselves, each at its first occurrence. -/
def declaredKey (t : CreateTable) : List String :=
  (identNames (t.primaryKey.map KeyPart.name ++
    (t.columns.filter ColumnDef.primaryKey).map ColumnDef.name)).eraseDups

/-- The columns of a table behind later statements. -/
def columnsBehind (t : CreateTable) (later : List Statement) : List Column :=
  undropped t.name.name (t.convertedColumns.map (·, later) ++
    Statement.occurrences (Statement.addedColumns t.name.name) later)

/-- The primary key of a table behind later statements. -/
def keyBehind (t : CreateTable) (later : List Statement) : List String :=
  t.declaredKey.filter fun key => !later.any (·.drops t.name.name key)

end CreateTable

/-! ## One more statement -/

theorem undropped_eq_remaining (table : String) (given : List (Column × List Statement)) :
    undropped table given = Statement.remaining (fun c s => s.drops table c.name) given := rfl

namespace CreateTable

theorem columnsBehind_nil (t : CreateTable) : t.columnsBehind [] = t.convertedColumns := by
  unfold columnsBehind
  rw [Statement.occurrences, List.append_nil, undropped_eq_remaining,
    Statement.remaining_of_nothing_behind]

theorem columnsBehind_concat (t : CreateTable) (later : List Statement) (s : Statement) :
    t.columnsBehind (later ++ [s]) =
      (t.columnsBehind later).filter (fun c => !s.drops t.name.name c.name) ++
        s.addedColumns t.name.name := by
  have s1 : t.convertedColumns.map (·, later ++ [s]) =
      (t.convertedColumns.map (·, later)).map fun p => (p.1, p.2 ++ [s]) := by
    rw [List.map_map]
    rfl
  simp only [columnsBehind, undropped_eq_remaining]
  rw [Statement.occurrences_concat, s1, ← List.append_assoc, ← List.map_append,
    Statement.remaining_append, Statement.remaining_concat, Statement.remaining_of_nothing_behind]

theorem keyBehind_nil (t : CreateTable) : t.keyBehind [] = t.declaredKey := by
  unfold keyBehind
  exact List.filter_eq_self.2 fun _ _ => rfl

theorem keyBehind_concat (t : CreateTable) (later : List Statement) (s : Statement) :
    t.keyBehind (later ++ [s]) =
      (t.keyBehind later).filter fun key => !s.drops t.name.name key := by
  unfold keyBehind
  rw [List.filter_filter]
  refine List.filter_congr fun key _ => ?_
  rw [List.any_append, Bool.not_or, Bool.and_comm]
  simp

theorem convertedColumns_of_mapM {t : CreateTable} {columns : List Column}
    (h : t.columns.mapM ColumnDef.column = .ok columns) : t.convertedColumns = columns :=
  filterMap_toOption_of_mapM h

theorem primaryKeyNames_eq_declaredKey (t : CreateTable) : t.primaryKeyNames = t.declaredKey :=
  firstOccurrences_eq_eraseDups _

end CreateTable

/-! ## Steps -/

/-- What is told of a table: its name, its columns and its primary key. -/
def Table.told (t : Table) : String × List Column × List String := (t.name, t.columns, t.primaryKey)

/-- What is told of a table behind one more statement. -/
def Table.toldBehind (s : Statement) (t : Table) : String × List Column × List String :=
  (t.name, t.columns.filter (fun c => !s.drops t.name c.name) ++ s.addedColumns t.name,
    t.primaryKey.filter fun key => !s.drops t.name key)

theorem Table.toldBehind_of_untouched {s : Statement} {t : Table}
    (added : s.addedColumns t.name = []) (dropped : ∀ column, s.drops t.name column = false) :
    t.toldBehind s = t.told := by
  simp [toldBehind, told, added, dropped]

theorem Statement.addedColumns_of_ne {name : Path} {table : String} (h : table ≠ name.name)
    (change : Alteration) : (Statement.alterTable name change).addedColumns table = [] := by
  cases change with
  | addColumn c ifNotExists => exact if_neg fun e => h e.symm
  | _ => rfl

theorem Statement.drops_of_ne {name : Path} {table : String} (h : table ≠ name.name)
    (change : Alteration) (column : String) :
    (Statement.alterTable name change).drops table column = false := by
  cases change with
  | dropColumn c =>
    have s1 : (name.name == table) = false := by simpa using fun e : name.name = table => h e.symm
    simp [Statement.drops, s1]
  | _ => rfl

theorem Statement.drops_dropColumn {name : Path} {table : String} (h : table = name.name)
    (c : Ident) (column : String) :
    (Statement.alterTable name (.dropColumn c)).drops table column =
      (c.name == column && column != "") := by
  rw [Statement.drops, h, beq_self_eq_true, Bool.true_and]

/-- Dropping the empty name drops nothing. -/
theorem Draft.told_dropColumn (name : Path) (c : Ident) {t : Table} (ht : t.name = name.name) :
    (Draft.dropColumn c.name t).told = t.toldBehind (.alterTable name (.dropColumn c)) := by
  unfold Draft.dropColumn
  by_cases hc : c.name = ""
  · rw [if_pos (by simpa using hc)]
    refine (Table.toldBehind_of_untouched rfl fun column => ?_).symm
    rw [Statement.drops_dropColumn ht, hc]
    by_cases h : "" = column
    · subst h; rfl
    · rw [beq_false_of_ne h, Bool.false_and]
  · rw [if_neg (by simpa using hc)]
    have s1 : ∀ column, (!(Statement.alterTable name (.dropColumn c)).drops t.name column) =
        (column != c.name) := by
      intro column
      rw [Statement.drops_dropColumn ht]
      by_cases h : c.name = column
      · subst h; simp [hc]
      · rw [beq_false_of_ne h, Bool.false_and, bne, beq_false_of_ne fun e => h e.symm]
    simp [Table.told, Table.toldBehind, Statement.addedColumns, s1]

theorem Alteration.told_of_onTable? {change : Alteration} {f : Table → Table}
    (effect : change.onTable? = some f) {name : Path} {t : Table} (ht : t.name = name.name) :
    (f t).told = t.toldBehind (.alterTable name change) := by
  cases change with
  | addColumn c ifNotExists =>
    obtain ⟨column, hc, rfl⟩ := Option.map_eq_some_iff.1 effect
    have s1 : t.columns.filter (fun _ => true) = t.columns := List.filter_eq_self.2 fun _ _ => rfl
    have s2 : t.primaryKey.filter (fun _ => true) = t.primaryKey :=
      List.filter_eq_self.2 fun _ _ => rfl
    simp [Table.told, Table.toldBehind, Statement.drops, Statement.addedColumns, ht, hc, s1, s2]
  | dropColumn c => cases effect; exact Draft.told_dropColumn name c ht
  | setInterleaving parent onDelete =>
    cases effect
    exact (Table.toldBehind_of_untouched rfl fun _ => rfl).symm
  | addPolicy p => cases effect; exact (Table.toldBehind_of_untouched rfl fun _ => rfl).symm
  | replacePolicy p => cases effect; exact (Table.toldBehind_of_untouched rfl fun _ => rfl).symm
  | dropPolicy => cases effect; exact (Table.toldBehind_of_untouched rfl fun _ => rfl).symm
  | _ => cases effect

namespace Draft

theorem told_of_unchanged {d d' : Draft} {s : Statement} (tables : d'.tables = d.tables)
    (created : s.created = []) (added : ∀ table, s.addedColumns table = [])
    (dropped : ∀ table column, s.drops table column = false) :
    d'.tables.map Table.told = d.tables.map (Table.toldBehind s) ++
      s.created.map fun c => (c.name.name, c.convertedColumns, c.declaredKey) := by
  rw [tables, created, List.map_nil, List.append_nil]
  exact List.map_congr_left fun t _ =>
    (Table.toldBehind_of_untouched (added t.name) (dropped t.name)).symm

theorem told_changeTable {d : Draft} (h : d.WellFormed) {name : Path} {change : Alteration}
    {place : Nat} {f : Table → Table} (found : d.place? name.name = some place)
    (effect : change.onTable? = some f) :
    (d.changeTable place f).tables.map Table.told =
      d.tables.map (Table.toldBehind (.alterTable name change)) := by
  rw [h.placed.tables_changeTable found f, List.map_map]
  refine List.map_congr_left fun t _ => ?_
  rw [Function.comp_apply]
  by_cases ht : t.name = name.name
  · rw [if_pos ht]
    exact Alteration.told_of_onTable? effect ht
  · rw [if_neg ht]
    exact (Table.toldBehind_of_untouched (Statement.addedColumns_of_ne ht change)
      (Statement.drops_of_ne ht change)).symm

theorem told_of_step {d d' : Draft} {s : Statement} (hs : Step d s d') (h : d.WellFormed) :
    d'.tables.map Table.told = d.tables.map (Table.toldBehind s) ++
      s.created.map fun c => (c.name.name, c.convertedColumns, c.declaredKey) := by
  cases hs with
  | @createTable t columns named isNew converted =>
    have s1 : d.tables.map Table.told = d.tables.map (Table.toldBehind (.createTable t)) :=
      List.map_congr_left fun t _ => (Table.toldBehind_of_untouched rfl fun _ => rfl).symm
    simp only [addTable, tables_addConstraints, List.map_append, s1]
    simp [Table.told, tableOf, Statement.created, CreateTable.convertedColumns_of_mapM converted,
      CreateTable.primaryKeyNames_eq_declaredKey]
  | changeTable found effect =>
    rw [told_changeTable h found effect]
    simp [Statement.created]
  | addConstraint found c =>
    exact told_of_unchanged (d.tables_addConstraint _ c) rfl (fun _ => rfl) fun _ _ => rfl
  | dropConstraint found c =>
    refine told_of_unchanged ?_ rfl (fun _ => rfl) fun _ _ => rfl
    unfold dropForeignKeys
    split
    · rfl
    · rfl
  | @ignore name change place found ignored =>
    cases change with
    | alterColumn c text => exact told_of_unchanged rfl rfl (fun _ => rfl) fun _ _ => rfl
    | setOnDelete onDelete => exact told_of_unchanged rfl rfl (fun _ => rfl) fun _ _ => rfl
    | setOptions text => exact told_of_unchanged rfl rfl (fun _ => rfl) fun _ _ => rfl
    | other text => exact told_of_unchanged rfl rfl (fun _ => rfl) fun _ _ => rfl
    | _ => cases ignored
  | createIndex named ofTable => exact told_of_unchanged rfl rfl (fun _ => rfl) fun _ _ => rfl
  | other keyword text => exact told_of_unchanged rfl rfl (fun _ => rfl) fun _ _ => rfl

/-! ## Runs -/

theorem History.told {log : List Statement} {d : Draft} (h : History log d) :
    d.tables.map Table.told = (Statement.creations log).map fun p =>
      (p.1.name.name, p.1.columnsBehind p.2, p.1.keyBehind p.2) := by
  induction h with
  | empty => rfl
  | @step log d d' s hd hs ih =>
    have s1 : d.tables.map (Table.toldBehind s) = (Statement.creations log).map fun p =>
        (p.1.name.name, p.1.columnsBehind (p.2 ++ [s]), p.1.keyBehind (p.2 ++ [s])) := by
      have s2 : Table.toldBehind s = (fun q : String × List Column × List String =>
          (q.1, q.2.1.filter (fun c => !s.drops q.1 c.name) ++ s.addedColumns q.1,
            q.2.2.filter fun key => !s.drops q.1 key)) ∘ Table.told := rfl
      rw [s2, ← List.map_map, ih, List.map_map]
      refine List.map_congr_left fun p _ => ?_
      rw [CreateTable.columnsBehind_concat, CreateTable.keyBehind_concat]
      rfl
    rw [told_of_step hs hd.wellFormed, s1]
    unfold Statement.creations
    rw [Statement.occurrences_concat, List.map_append, List.map_map, List.map_map]
    congr 1
    refine List.map_congr_left fun c _ => ?_
    rw [Function.comp_apply, CreateTable.columnsBehind_nil, CreateTable.keyBehind_nil]

theorem History.converted {log : List Statement} {d : Draft} (h : History log d) :
    ∀ p ∈ Statement.creations log,
      p.1.columns.mapM ColumnDef.column = .ok p.1.convertedColumns := by
  induction h with
  | empty => intro p hp; cases hp
  | @step log d d' s hd hs ih =>
    intro p hp
    unfold Statement.creations at hp ih
    rw [Statement.occurrences_concat, List.mem_append, List.mem_map, List.mem_map] at hp
    rcases hp with ⟨q, hq, rfl⟩ | ⟨c, hc, rfl⟩
    · exact ih q hq
    · cases hs with
      | createTable named isNew converted =>
        rw [Statement.created, List.mem_singleton] at hc
        subst hc
        rw [CreateTable.convertedColumns_of_mapM converted]
        exact converted
      | _ => cases hc

/-- Behind any statements, the tables are those that the accepted statements create, in order. The
columns of each are those it was created with, all of which have a type, and those added to it
later, except the ones that were dropped after that; its primary key is the declared one without
the names that were dropped. Adding a column changes no key. -/
theorem columns_and_keys_of_run (ss : List Statement) :
    (run {} ss).tables.map (fun t => (t.name, t.columns, t.primaryKey)) =
        (Statement.creations (accepted {} ss)).map (fun p =>
          (p.1.name.name, p.1.columnsBehind p.2, p.1.keyBehind p.2)) ∧
      (∀ p ∈ Statement.creations (accepted {} ss),
        p.1.columns.mapM ColumnDef.column = .ok p.1.convertedColumns) ∧
      ∀ name c ifNotExists,
        ((run {} ss).apply (.alterTable name (.addColumn c ifNotExists))).1.tables.map
          Table.primaryKey = (run {} ss).tables.map Table.primaryKey := by
  have s1 := history_run ss
  refine ⟨s1.told, s1.converted, fun name c ifNotExists => ?_⟩
  cases h : ((run {} ss).apply (.alterTable name (.addColumn c ifNotExists))).2 with
  | some e => rw [apply_of_refused h]
  | none =>
    have s2 := told_of_step (step_of_apply (Prod.ext rfl h)) s1.wellFormed
    have s3 := congrArg (List.map fun q => q.2.2) s2
    rw [List.map_append, List.map_map, List.map_map] at s3
    simpa [Statement.created, Table.told, Table.toldBehind, Statement.drops, Function.comp_def]
      using s3

end Draft

end SpannerDdl
