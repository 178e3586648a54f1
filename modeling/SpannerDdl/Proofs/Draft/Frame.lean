import SpannerDdl.Proofs.Draft.Effect

/-! # What statements leave alone

An accepted statement changes what it is about and nothing else.

* `Table.Kept name change t t'`: an alteration of the table `name` that takes the table `t` to `t'`
  leaves its other parts, or all of it if it is another table.
* `Draft.Altered name change d d'`: an alteration leaves the rest of the draft.
* `Draft.Frame s d d'`: the statement `s` takes the draft `d` to `d'` and leaves the rest of it.
* `Statement.isIdle`: statements about nothing that a schema records.
* `frame_of_accepted`: every accepted statement leaves the rest, and idle ones are accepted and
  leave everything.
-/

set_option autoImplicit false

namespace SpannerDdl

/-- What is left of a table by an alteration of the table of the given name. -/
structure Table.Kept (name : String) (change : Alteration) (t t' : Table) : Prop where
  other : t.name ≠ name → t' = t
  name : t'.name = t.name
  comment : t'.comment = t.comment
  columns : t'.columns = t.columns ∨ (∃ c ifNotExists, change = .addColumn c ifNotExists) ∨
    ∃ c, change = .dropColumn c
  primaryKey : t'.primaryKey = t.primaryKey ∨ ∃ c, change = .dropColumn c
  policy : t'.policy = t.policy ∨ (∃ p, change = .addPolicy p) ∨
    (∃ p, change = .replacePolicy p) ∨ change = .dropPolicy
  interleavedIn : t'.interleavedIn = t.interleavedIn ∨
    ∃ parent onDelete, change = .setInterleaving parent onDelete

/-- Whether a statement is about nothing that a schema records. Of constraints, only foreign keys
are recorded. -/
def Statement.isIdle : Statement → Bool
  | .alterTable name (.addConstraint c) => (c.foreignKey? name.name).isNone
  | .alterTable _ change => change.isIgnored
  | .other _ _ => true
  | _ => false

namespace Draft

/-- The foreign keys behind an alteration of the table of the given name: a constraint that is a
foreign key is put behind the others, and the number of unnamed ones goes up if it has no name; the
foreign keys of a dropped name are gone; all other alterations leave them. -/
def KeysBehind (name : String) (d d' : Draft) : Alteration → Prop
  | .addConstraint c =>
    d'.foreignKeys = d.foreignKeys ++ ((c.foreignKey? name).map d.recorded).toList ∧
      d'.unnamedKeys = d.unnamedKeys + ForeignKey.unnamed (c.foreignKey? name).toList
  | .dropConstraint c =>
    d'.foreignKeys = d.foreignKeys.filter (fun k => !(c.name == k.name && k.name != "")) ∧
      d'.unnamedKeys = d.unnamedKeys
  | _ => d'.foreignKeys = d.foreignKeys ∧ d'.unnamedKeys = d.unnamedKeys

/-- What is left of a draft by an alteration of the table of the given name. -/
structure Altered (name : String) (change : Alteration) (d d' : Draft) : Prop where
  tables : List.Forall₂ (Table.Kept name change) d.tables d'.tables
  places : d'.places = d.places
  indexes : d'.indexes = d.indexes
  keys : KeysBehind name d d' change

/-- What is left of a draft by an accepted statement. -/
structure Frame (s : Statement) (d d' : Draft) : Prop where
  tableNames : ∃ new, d'.tables.map Table.name = d.tables.map Table.name ++ new ∧ new.length ≤ 1
  indexes : ∃ new, d'.indexes = d.indexes ++ new ∧ new.length ≤ 1
  altered : ∀ name change, s = .alterTable name change → Altered name.name change d d'
  created : ∀ t, s = .createTable t → d.tables <+: d'.tables ∧ d.foreignKeys <+: d'.foreignKeys
  indexed : ∀ i, s = .createIndex i → d' = { d with indexes := d'.indexes }
  idle : s.isIdle = true → d' = d

end Draft

/-! ## Tables -/

theorem Table.Kept.refl (name : String) (change : Alteration) (t : Table) :
    t.Kept name change t where
  other := fun _ => rfl
  name := rfl
  comment := rfl
  columns := .inl rfl
  primaryKey := .inl rfl
  policy := .inl rfl
  interleavedIn := .inl rfl

theorem Draft.kept_dropColumn (c : Ident) (t : Table) :
    t.Kept t.name (.dropColumn c) (dropColumn c.name t) := by
  unfold dropColumn
  split
  · exact .refl ..
  · exact { Table.Kept.refl t.name (.dropColumn c) t with
      other := fun h => absurd rfl h
      columns := .inr (.inr ⟨c, rfl⟩)
      primaryKey := .inr ⟨c, rfl⟩ }

theorem Alteration.kept_of_onTable? {change : Alteration} {f : Table → Table}
    (effect : change.onTable? = some f) (t : Table) : t.Kept t.name change (f t) := by
  have refl := Table.Kept.refl t.name change t
  cases change with
  | addColumn c ifNotExists =>
    obtain ⟨column, -, rfl⟩ := Option.map_eq_some_iff.1 effect
    exact { refl with
      other := fun h => absurd rfl h
      columns := .inr (.inl ⟨c, ifNotExists, rfl⟩) }
  | dropColumn c => cases effect; exact Draft.kept_dropColumn c t
  | setInterleaving parent onDelete =>
    cases effect
    exact { refl with
      other := fun h => absurd rfl h
      interleavedIn := .inr ⟨parent, onDelete, rfl⟩ }
  | addPolicy p =>
    cases effect
    exact { refl with
      other := fun h => absurd rfl h
      policy := .inr (.inl ⟨p, rfl⟩) }
  | replacePolicy p =>
    cases effect
    exact { refl with
      other := fun h => absurd rfl h
      policy := .inr (.inr (.inl ⟨p, rfl⟩)) }
  | dropPolicy =>
    cases effect
    exact { refl with
      other := fun h => absurd rfl h
      policy := .inr (.inr (.inr rfl)) }
  | _ => cases effect

theorem Statement.kept_revise (name : Path) (change : Alteration) (t : Table) :
    t.Kept name.name change ((Statement.alterTable name change).revise t) := by
  by_cases ht : t.name = name.name
  · rw [revise, if_pos ht, ← ht]
    cases effect : change.onTable? with
    | none => exact .refl ..
    | some f => exact Alteration.kept_of_onTable? effect t
  · rw [revise, if_neg ht]
    exact .refl ..

namespace Draft

/-! ## Steps -/

theorem keysBehind_of_step {d d' : Draft} {name : Path} {change : Alteration}
    (hs : Step d (.alterTable name change) d') : KeysBehind name.name d d' change := by
  cases hs with
  | changeTable found effect =>
    cases change with
    | addConstraint c => cases effect
    | dropConstraint c => cases effect
    | _ => exact ⟨rfl, rfl⟩
  | addConstraint found c =>
    refine ⟨foreignKeys_addConstraint .., ?_⟩
    rw [addConstraint]
    cases c.foreignKey? name.name with
    | none => rfl
    | some k => exact d.unnamedKeys_addForeignKey k
  | dropConstraint found c =>
    exact ⟨foreignKeys_dropForeignKeys .., unnamedKeys_dropForeignKeys ..⟩
  | ignore found ignored =>
    cases change with
    | addConstraint c => cases ignored
    | dropConstraint c => cases ignored
    | _ => exact ⟨rfl, rfl⟩

theorem altered_of_step {d d' : Draft} {name : Path} {change : Alteration}
    (hs : Step d (.alterTable name change) d') (h : d.Placed) :
    Altered name.name change d d' where
  tables := by
    have revised : d'.tables = d.tables.map (Statement.alterTable name change).revise :=
      (tables_of_step hs h).trans (List.append_nil _)
    rw [revised, List.forall₂_map_right_iff, List.forall₂_same]
    exact fun t _ => Statement.kept_revise name change t
  places := (places_of_step hs).trans (List.append_nil _)
  indexes := (indexes_of_step hs).trans (List.append_nil _)
  keys := keysBehind_of_step hs

theorem eq_of_idle_step {d d' : Draft} {s : Statement} (hs : Step d s d')
    (idle : s.isIdle = true) : d' = d := by
  cases hs with
  | @changeTable name change place f found effect =>
    have noEffect : change.onTable? = none := by
      cases change with
      | addConstraint c => rfl
      | _ => exact Alteration.onTable?_of_isIgnored (by exact idle)
    rw [noEffect] at effect
    cases effect
  | addConstraint found c =>
    rw [addConstraint, Option.isNone_iff_eq_none.1 idle]
  | ignore found ignored => rfl
  | other keyword text => rfl
  | _ => cases idle

theorem prefix_of_step {d d' : Draft} {t : CreateTable} (hs : Step d (.createTable t) d') :
    d.tables <+: d'.tables ∧ d.foreignKeys <+: d'.foreignKeys := by
  have keys := (keys_of_step hs).1
  rw [d.filter_dropsKey_of_none fun _ => rfl] at keys
  cases hs with
  | createTable named isNew converted =>
    refine ⟨?_, ⟨_, keys.symm⟩⟩
    rw [addTable, tables_addConstraints]
    exact List.prefix_append ..

theorem frame_of_step {d d' : Draft} {s : Statement} (hs : Step d s d') (h : d.Placed) :
    Frame s d d' where
  tableNames := by
    refine ⟨s.created.map fun t => t.name.name, ?_, ?_⟩
    · rw [tables_of_step hs h, List.map_append, s.names_revise, List.map_map]
      rfl
    · cases s with
      | createTable t => exact Nat.le_refl 1
      | _ => exact Nat.zero_le 1
  indexes := by
    refine ⟨s.createdIndexes, indexes_of_step hs, ?_⟩
    cases s with
    | createIndex i => exact Nat.le_refl 1
    | _ => exact Nat.zero_le 1
  altered := by
    rintro name change rfl
    exact altered_of_step hs h
  created := by
    rintro t rfl
    exact prefix_of_step hs
  indexed := by
    rintro i rfl
    cases hs with
    | createIndex named ofTable => rfl
  idle := eq_of_idle_step hs

theorem apply_of_idle {d : Draft} {s : Statement} (h : d.Placed) (idle : s.isIdle = true)
    (known : ∀ name ∈ s.tableName?, name ∈ d.tables.map Table.name) : d.apply s = (d, none) := by
  have accepted : (d.apply s).2 = none := by
    cases s with
    | alterTable name change =>
      have found : d.place? name.name ≠ none := by
        rw [Ne, h.place?_eq_none_iff, not_not]
        exact known name.name rfl
      obtain ⟨place, found⟩ := Option.ne_none_iff_exists'.1 found
      rw [apply, alterTable, found]
      cases change with
      | addColumn c ifNotExists => cases idle
      | _ => rfl
    | other keyword text => rfl
    | _ => cases idle
  have same : (d.apply s).1 = d := eq_of_idle_step (step_of_apply (Prod.ext rfl accepted)) idle
  exact Prod.ext same accepted

/-- Behind any statements, an accepted one leaves all that it is not about, and one that is about
nothing that a schema records, or nothing but a table that exists, is accepted and leaves all. -/
theorem frame_of_accepted (ss : List GappedStatement) :
    (∀ s d', (runGapped {} ss).applyGapped s = (d', none) →
      Frame s.statement (runGapped {} ss) d') ∧
    ∀ s : Statement, s.isIdle = true →
      (∀ name ∈ s.tableName?, name ∈ (runGapped {} ss).tables.map Table.name) →
      (runGapped {} ss).apply s = (runGapped {} ss, none) := by
  have h := placed_runGapped ss
  refine ⟨fun s d' accepted => ?_, fun s => apply_of_idle h⟩
  have s1 := (runGapped {} ss).gappedStep_applyGapped s
  rw [accepted] at s1
  cases s1 with
  | whole step => exact frame_of_step step h

/-- The same for a column that is dropped from one of two tables, and for a statement of another
kind. -/
theorem frame_of_dropped_column :
    ∃ (ss : List GappedStatement) (s : GappedStatement) (d' : Draft),
      (runGapped {} ss).applyGapped s = (d', none) ∧ d' ≠ runGapped {} ss ∧
      Frame s.statement (runGapped {} ss) d' ∧
      (runGapped {} ss).apply (.other "DROP TABLE" "Singers") = (runGapped {} ss, none) := by
  let singers : GappedStatement := ⟨.createTable { name := ⟨[.named "Singers"]⟩ }, none⟩
  let albums : GappedStatement := ⟨.createTable {
    name := ⟨[.named "Albums"]⟩
    columns := [{ name := .named "AlbumId", type := .scalar "INT64", primaryKey := true }] }, none⟩
  let drop : GappedStatement :=
    ⟨.alterTable ⟨[.named "Albums"]⟩ (.dropColumn (.named "AlbumId")), none⟩
  have frame := frame_of_accepted [singers, albums]
  have accepted : (runGapped {} [singers, albums]).applyGapped drop =
      (((runGapped {} [singers, albums]).applyGapped drop).1, none) := by decide
  exact ⟨[singers, albums], drop, _, accepted, by decide, frame.1 drop _ accepted,
    frame.2 _ rfl fun name hn => by cases hn⟩

end Draft

end SpannerDdl
