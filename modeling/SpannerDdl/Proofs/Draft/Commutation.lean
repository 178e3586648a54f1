import SpannerDdl.Proofs.Draft.Effect

/-! # Independent statements commute

Two statements that are about different tables, of which at most one creates a table, at most one
creates an index and at most one touches foreign keys, can be given in either order.

* `Effect.Apart e e'`: effects that leave each other's work alone; they commute (`Apart.on_comm`).
* `Statement.Independent s s'`: what this asks of two statements.
* `run_swap_of_independent`: in either order two independent statements come to the same draft, and
  each has the outcome that it has without the other.
-/

set_option autoImplicit false

namespace SpannerDdl

/-! ## Effects -/

namespace Effect

/-- An effect that neither drops nor records foreign keys. -/
structure LeavesKeys (e : Effect) : Prop where
  keys : e.keys = []
  drops : ∀ key, e.drops key = false

/-- Effects that leave each other's work alone. -/
structure Apart (e e' : Effect) : Prop where
  oneTables : e.tables = [] ∨ e'.tables = []
  oneIndexes : e.indexes = [] ∨ e'.indexes = []
  oneKeys : e.LeavesKeys ∨ e'.LeavesKeys
  revise : ∀ t, e.revise (e'.revise t) = e'.revise (e.revise t)
  kept : ∀ t ∈ e.tables, e'.revise t = t
  kept' : ∀ t ∈ e'.tables, e.revise t = t

theorem append_comm_of_nil {α : Type} {as bs : List α} (h : as = [] ∨ bs = []) :
    as ++ bs = bs ++ as := by
  rcases h with rfl | rfl
  · rw [List.nil_append, List.append_nil]
  · rw [List.nil_append, List.append_nil]

theorem map_eq_of_kept {f : Table → Table} {ts : List Table} (h : ∀ t ∈ ts, f t = t) :
    ts.map f = ts :=
  (List.map_congr_left h).trans (List.map_id' ts)

theorem LeavesKeys.foreignKeys_on {e : Effect} (h : e.LeavesKeys) (d : Draft) :
    (e.on d).foreignKeys = d.foreignKeys := by
  simp only [on, filter_drops_of_none h.drops, h.keys]
  exact List.append_nil _

theorem LeavesKeys.unnamedKeys_on {e : Effect} (h : e.LeavesKeys) (d : Draft) :
    (e.on d).unnamedKeys = d.unnamedKeys := by
  simp only [on, h.keys]
  rfl

theorem LeavesKeys.keys_comm {e e' : Effect} (h : e.LeavesKeys) (d : Draft) :
    (e.on (e'.on d)).foreignKeys = (e'.on (e.on d)).foreignKeys ∧
      (e.on (e'.on d)).unnamedKeys = (e'.on (e.on d)).unnamedKeys := by
  rw [h.foreignKeys_on, h.unnamedKeys_on]
  simp only [on.eq_1 e', h.foreignKeys_on, h.unnamedKeys_on]
  exact ⟨trivial, trivial⟩

theorem places_comm {e e' : Effect} (h : e.tables = []) (d : Draft) :
    (e.on (e'.on d)).places = (e'.on (e.on d)).places := by
  simp [on, h]

/-- Effects that leave each other's work alone commute. -/
theorem Apart.on_comm {e e' : Effect} (h : e.Apart e') (d : Draft) :
    e.on (e'.on d) = e'.on (e.on d) := by
  have tables : (e.on (e'.on d)).tables = (e'.on (e.on d)).tables := by
    -- The tables that one side adds are not revised by the other one.
    simp only [on, List.map_append, List.map_map, map_eq_of_kept h.kept, map_eq_of_kept h.kept',
      List.append_assoc, append_comm_of_nil h.oneTables]
    exact congrArg (· ++ _) (List.map_congr_left fun t _ => h.revise t)
  have places : (e.on (e'.on d)).places = (e'.on (e.on d)).places := by
    rcases h.oneTables with none | none
    · exact places_comm none d
    · exact (places_comm none d).symm
  have keys : (e.on (e'.on d)).foreignKeys = (e'.on (e.on d)).foreignKeys ∧
      (e.on (e'.on d)).unnamedKeys = (e'.on (e.on d)).unnamedKeys := by
    rcases h.oneKeys with leaves | leaves
    · exact leaves.keys_comm d
    · exact ⟨(leaves.keys_comm d).1.symm, (leaves.keys_comm d).2.symm⟩
  have indexes : (e.on (e'.on d)).indexes = (e'.on (e.on d)).indexes := by
    simp only [on, List.append_assoc, append_comm_of_nil h.oneIndexes]
  exact eq_on tables places keys indexes

end Effect

/-! ## Statements -/

/-- A statement that states no foreign key and is not there to drop one. -/
structure Statement.LeavesKeys (s : Statement) : Prop where
  stated : s.statedKeys = []
  dropsNone : ∀ name c, s ≠ .alterTable name (.dropConstraint c)

/-- Statements that have nothing to do with each other: they are not about the same table, at most
one of them creates a table, at most one an index, and at most one concerns foreign keys. -/
structure Statement.Independent (s s' : Statement) : Prop where
  otherTable : ∀ name ∈ s.tableName?, name ∉ s'.tableName?
  oneTable : s.created = [] ∨ s'.created = []
  oneIndex : s.createdIndexes = [] ∨ s'.createdIndexes = []
  oneOnKeys : s.LeavesKeys ∨ s'.LeavesKeys

theorem Statement.Independent.symm {s s' : Statement} (h : s.Independent s') :
    s'.Independent s where
  otherTable := fun name hn hn' => h.otherTable name hn' hn
  oneTable := h.oneTable.symm
  oneIndex := h.oneIndex.symm
  oneOnKeys := h.oneOnKeys.symm

theorem Statement.LeavesKeys.effect {s : Statement} (h : s.LeavesKeys) : s.effect.LeavesKeys where
  keys := h.stated
  drops := by
    intro key
    cases s with
    | alterTable name change =>
      cases change with
      | dropConstraint c => exact absurd rfl (h.dropsNone name c)
      | _ => rfl
    | _ => rfl

theorem Statement.Independent.apart {s s' : Statement} (h : s.Independent s') :
    s.effect.Apart s'.effect where
  oneTables := h.oneTable.imp (congrArg (List.map _)) (congrArg (List.map _))
  oneIndexes := h.oneIndex
  oneKeys := h.oneOnKeys.imp LeavesKeys.effect LeavesKeys.effect
  revise := by
    intro t
    show s.revise (s'.revise t) = s'.revise (s.revise t)
    -- No table is what both are about, and neither takes a table to one of another name.
    by_cases ht : t.name ∈ s.tableName?
    · have untouched : ∀ t', t'.name = t.name → s'.revise t' = t' := fun t' e =>
        revise_of_notMem (e ▸ h.otherTable _ ht)
      rw [untouched t rfl, untouched (s.revise t) (s.name_revise t)]
    · have untouched : ∀ t', t'.name = t.name → s.revise t' = t' := fun t' e =>
        revise_of_notMem (e ▸ ht)
      rw [untouched t rfl, untouched (s'.revise t) (s'.name_revise t)]
  kept := by
    intro t ht
    obtain ⟨t', ht', rfl⟩ := List.mem_map.1 ht
    exact revise_of_notMem (h.otherTable _ (name_of_mem_created ht'))
  kept' := by
    intro t ht
    obtain ⟨t', ht', rfl⟩ := List.mem_map.1 ht
    exact revise_of_notMem (h.symm.otherTable _ (name_of_mem_created ht'))

theorem Effect.Apart.onlyKeys {e e' : Effect} (h : e.Apart e') {ks : List ForeignKey}
    (hk : e.keys = [] → ks = []) : ({ keys := ks } : Effect).Apart e' where
  oneTables := .inl rfl
  oneIndexes := .inl rfl
  oneKeys := h.oneKeys.imp (fun leaves => ⟨hk leaves.keys, fun _ => rfl⟩) id
  revise := fun _ => rfl
  kept := fun t ht => by cases ht
  kept' := fun _ _ => rfl

theorem Effect.Apart.symm {e e' : Effect} (h : e.Apart e') : e'.Apart e where
  oneTables := h.oneTables.symm
  oneIndexes := h.oneIndexes.symm
  oneKeys := h.oneKeys.symm
  revise := fun t => (h.revise t).symm
  kept := h.kept'
  kept' := h.kept

theorem Effect.Apart.cut {e : Effect} {s : GappedStatement} (h : s.statement.effect.Apart e)
    (i? : Option Interruption) : (s.effect i?).Apart e := by
  rcases s.effect_cases i? with whole | keys | nothing
  · rw [whole]
    exact h
  · rw [keys]
    exact h.onlyKeys id
  · rw [nothing]
    exact h.onlyKeys fun _ => rfl

theorem GappedStatement.apart_effect {s s' : GappedStatement}
    (h : s.statement.Independent s'.statement) (i? i'? : Option Interruption) :
    (s.effect i?).Apart (s'.effect i'?) :=
  ((h.apart.cut i?).symm.cut i'?).symm

theorem Statement.mem_names_effect_iff {s : Statement} {name : String} (h : name ∉ s.tableName?)
    (d : Draft) :
    name ∈ (s.effect.on d).tables.map Table.name ↔ name ∈ d.tables.map Table.name := by
  have others : name ∉ s.effect.tables.map Table.name := by
    intro hm
    obtain ⟨t, ht, rfl⟩ := List.mem_map.1 hm
    obtain ⟨t', ht', rfl⟩ := List.mem_map.1 ht
    exact h (name_of_mem_created ht')
  rw [Effect.on, List.map_append, List.mem_append]
  refine (or_iff_left others).trans ?_
  rw [← s.names_revise d.tables]
  rfl

theorem GappedStatement.mem_names_effect_iff {s : GappedStatement} {name : String}
    (h : name ∉ s.statement.tableName?) (i? : Option Interruption) (d : Draft) :
    name ∈ ((s.effect i?).on d).tables.map Table.name ↔ name ∈ d.tables.map Table.name := by
  rcases s.effect_cases i? with whole | keys | nothing
  · rw [whole]
    exact Statement.mem_names_effect_iff h d
  · rw [keys, Effect.on, List.map_id, List.append_nil]
  · rw [nothing, Effect.on_nothing]

namespace Draft

/-! ## Runs -/

theorem runGapped_concat (d : Draft) (ss : List GappedStatement) (s : GappedStatement) :
    d.runGapped (ss ++ [s]) = ((d.runGapped ss).applyGapped s).1 :=
  List.foldl_concat _ _ _ _

/-- A statement leaves it as it is whether the table of another name exists. -/
theorem Placed.place?_applyGapped {d : Draft} (h : d.Placed) {s : GappedStatement} {name : String}
    (other : name ∉ s.statement.tableName?) :
    (d.applyGapped s).1.place? name = none ↔ d.place? name = none := by
  rw [(h.applyGapped s).place?_eq_none_iff, h.place?_eq_none_iff, applyGapped_eq_effect h,
    GappedStatement.mem_names_effect_iff other]

theorem Placed.outcome_behind {d : Draft} (h : d.Placed) {s s' : GappedStatement}
    (independent : s.statement.Independent s'.statement) :
    ((d.applyGapped s').1.applyGapped s).2 = (d.applyGapped s).2 :=
  outcome_eq_of_known fun name hn => h.place?_applyGapped (independent.otherTable name hn)

theorem Placed.applyGapped_swap {d : Draft} (h : d.Placed) {s s' : GappedStatement}
    (independent : s.statement.Independent s'.statement) :
    ((d.applyGapped s).1.applyGapped s').1 = ((d.applyGapped s').1.applyGapped s).1 := by
  have first : ((d.applyGapped s).1.applyGapped s').1 =
      (s'.effect (d.applyGapped s').2).on ((s.effect (d.applyGapped s).2).on d) := by
    rw [applyGapped_eq_effect (h.applyGapped s), h.outcome_behind independent.symm,
      applyGapped_eq_effect h]
  have second : ((d.applyGapped s').1.applyGapped s).1 =
      (s.effect (d.applyGapped s).2).on ((s'.effect (d.applyGapped s').2).on d) := by
    rw [applyGapped_eq_effect (h.applyGapped s'), h.outcome_behind independent,
      applyGapped_eq_effect h]
  rw [first, second]
  exact (GappedStatement.apart_effect independent.symm _ _).on_comm d

/-- Behind any statements, two independent ones come to the same draft in either order, and each
has the outcome that it has without the other one in front of it. -/
theorem run_swap_of_independent {s s' : GappedStatement}
    (independent : s.statement.Independent s'.statement) (ss : List GappedStatement) :
    runGapped {} (ss ++ [s, s']) = runGapped {} (ss ++ [s', s]) ∧
      ((runGapped {} (ss ++ [s'])).applyGapped s).2 = ((runGapped {} ss).applyGapped s).2 ∧
      ((runGapped {} (ss ++ [s])).applyGapped s').2 = ((runGapped {} ss).applyGapped s').2 := by
  have h := placed_runGapped ss
  have pair : ∀ s s', runGapped {} (ss ++ [s, s']) =
      (((runGapped {} ss).applyGapped s).1.applyGapped s').1 := by
    intro s s'
    rw [List.append_cons, runGapped_concat, runGapped_concat]
  refine ⟨?_, ?_, ?_⟩
  · rw [pair, pair]
    exact h.applyGapped_swap independent
  · rw [runGapped_concat]
    exact h.outcome_behind independent
  · rw [runGapped_concat]
    exact h.outcome_behind independent.symm

/-- The same for a table that is given an unnamed foreign key while another one is created. -/
theorem run_swap_of_foreign_key_and_table :
    ∃ (ss : List GappedStatement) (s s' : GappedStatement),
      s.statement.Independent s'.statement ∧
      ((runGapped {} (ss ++ [s, s'])).tables.map Table.name = ["Singers", "Albums"] ∧
        (runGapped {} (ss ++ [s, s'])).foreignKeys.map ForeignKey.name = ["Singers_ref_0_fk"]) ∧
      runGapped {} (ss ++ [s, s']) = runGapped {} (ss ++ [s', s]) ∧
      ((runGapped {} (ss ++ [s'])).applyGapped s).2 = ((runGapped {} ss).applyGapped s).2 ∧
      ((runGapped {} (ss ++ [s])).applyGapped s').2 = ((runGapped {} ss).applyGapped s').2 := by
  let singers : GappedStatement := ⟨.createTable { name := ⟨[.named "Singers"]⟩ }, none⟩
  let key : GappedStatement := ⟨.alterTable ⟨[.named "Singers"]⟩ (.addConstraint {
    body := .foreignKey { columns := [], referencedTable := ⟨[.named "Labels"]⟩ } }), none⟩
  let albums : GappedStatement := ⟨.createTable {
    name := ⟨[.named "Albums"]⟩
    columns := [{ name := .named "AlbumId", type := .scalar "INT64" }] }, none⟩
  have independent : key.statement.Independent albums.statement :=
    { otherTable := by
        intro name hn hn'
        cases hn
        revert hn'
        decide
      oneTable := .inl rfl
      oneIndex := .inl rfl
      oneOnKeys := .inr ⟨rfl, fun _ _ h => by cases h⟩ }
  refine ⟨[singers], key, albums, independent, ⟨by decide, by decide⟩, ?_⟩
  exact run_swap_of_independent independent [singers]

end Draft

end SpannerDdl
