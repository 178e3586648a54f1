import SpannerDdl.Proofs.Draft.ColumnHistory
import SpannerDdl.Proofs.Draft.KeyHistory
import SpannerDdl.Proofs.Draft.Refusal

/-! # What a statement does, apart from the draft

How far a statement is carried out depends on the draft. What it does as far as it is carried out
does not, except for the names of foreign keys: it can be told from the statement alone.

* `Effect`: tables are revised by name and added, foreign keys are dropped by name and recorded,
  indexes are added. `Effect.on e d`: the draft behind an effect.
* `Statement.effect`: what an accepted statement does; `GappedStatement.effect s i?`: what a
  statement does that is interrupted by `i?`.
* `Statement.tableName?`: the table that a statement is about. Whether it exists is all that
  the outcome of the statement takes from the draft.
* `applyGapped_eq_effect`, `outcome_eq_of_known`: every statement has this effect, and this outcome.
-/

set_option autoImplicit false

namespace SpannerDdl

/-! ## Effects -/

/-- Something that is done to a draft: all tables are revised and others are put behind them,
foreign keys of some names are dropped and others are recorded, and indexes are put behind those
that are there. -/
structure Effect where
  revise : Table → Table := id
  tables : List Table := []
  drops : String → Bool := fun _ => false
  keys : List ForeignKey := []
  indexes : List Index := []

namespace Effect

/-- The draft behind an effect. -/
def on (e : Effect) (d : Draft) : Draft where
  tables := d.tables.map e.revise ++ e.tables
  places := d.places ++ (e.tables.map Table.name).zipIdx d.tables.length
  foreignKeys := d.foreignKeys.filter (fun k => !e.drops k.name) ++
    ForeignKey.numbered d.unnamedKeys e.keys
  indexes := d.indexes ++ e.indexes
  unnamedKeys := d.unnamedKeys + ForeignKey.unnamed e.keys

theorem eq_on {e : Effect} {d d' : Draft}
    (tables : d'.tables = d.tables.map e.revise ++ e.tables)
    (places : d'.places = d.places ++ (e.tables.map Table.name).zipIdx d.tables.length)
    (keys : d'.foreignKeys = d.foreignKeys.filter (fun k => !e.drops k.name) ++
        ForeignKey.numbered d.unnamedKeys e.keys ∧
      d'.unnamedKeys = d.unnamedKeys + ForeignKey.unnamed e.keys)
    (indexes : d'.indexes = d.indexes ++ e.indexes) : d' = e.on d := by
  obtain ⟨tables', places', foreignKeys', indexes', unnamedKeys'⟩ := d'
  simp only at tables places keys indexes
  rw [tables, places, keys.1, keys.2, indexes, on]

theorem filter_drops_of_none {e : Effect} (h : ∀ key, e.drops key = false)
    (ks : List ForeignKey) : ks.filter (fun k => !e.drops k.name) = ks :=
  List.filter_eq_self.2 fun k _ => by rw [h, Bool.not_false]

/-- To do nothing changes nothing. -/
theorem on_nothing (d : Draft) : ({} : Effect).on d = d := by
  refine (eq_on ?_ ?_ ⟨?_, ?_⟩ ?_).symm
  · rw [List.map_id, List.append_nil]
  · exact (List.append_nil _).symm
  · rw [filter_drops_of_none fun _ => rfl]
    exact (List.append_nil _).symm
  · rfl
  · exact (List.append_nil _).symm

end Effect

/-! ## Statements -/

/-- What an accepted statement does to a table. -/
def Statement.revise : Statement → Table → Table
  | .alterTable name change, t => if t.name = name.name then (change.onTable?.getD id) t else t
  | _, t => t

/-- The indexes that a statement creates. -/
def Statement.createdIndexes : Statement → List Index
  | .createIndex i => [Draft.indexOf i]
  | _ => []

/-- What an accepted statement does. -/
def Statement.effect (s : Statement) : Effect where
  revise := s.revise
  tables := s.created.map fun t => Draft.tableOf t t.convertedColumns
  drops := fun key => s.dropsKey key
  keys := s.statedKeys
  indexes := s.createdIndexes

/-- What a statement does that is interrupted, or that is not. In front of a gap, only a new table
leaves something behind: its foreign keys. -/
def GappedStatement.effect (s : GappedStatement) : Option Interruption → Effect
  | none => s.statement.effect
  | some (.refusal _) => {}
  | some (.gap _) =>
    { keys := s.statement.created.flatMap fun t => (Statement.createTable t).statedKeys }

theorem GappedStatement.effect_of_interrupted {s : GappedStatement}
    (h : s.statement.created = []) (i : Interruption) : s.effect (some i) = {} := by
  cases i with
  | refusal e => rfl
  | gap gap =>
    rw [effect, h]
    rfl

/-- What a statement does is all that it can do, its foreign keys alone, or nothing. -/
theorem GappedStatement.effect_cases (s : GappedStatement) (i? : Option Interruption) :
    s.effect i? = s.statement.effect ∨ s.effect i? = { keys := s.statement.statedKeys } ∨
      s.effect i? = {} := by
  cases i? with
  | none => exact .inl rfl
  | some i =>
    cases created : s.statement with
    | createTable t =>
      cases i with
      | refusal e => exact .inr (.inr rfl)
      | gap gap =>
        refine .inr (.inl ?_)
        rw [effect, created, Statement.created, List.flatMap_singleton]
    | _ =>
      rw [effect_of_interrupted (by rw [created]; rfl)]
      exact .inr (.inr rfl)

/-- The name of the table that a statement creates or alters. -/
def Statement.tableName? : Statement → Option String
  | .createTable t => some t.name.name
  | .alterTable name _ => some name.name
  | _ => none

theorem Statement.name_revise (s : Statement) (t : Table) : (s.revise t).name = t.name := by
  cases s with
  | alterTable name change =>
    rw [revise]
    split
    · cases effect : change.onTable? with
      | none => rfl
      | some f => exact Alteration.name_of_onTable? effect t
    · rfl
  | _ => rfl

theorem Statement.names_revise (s : Statement) (ts : List Table) :
    (ts.map s.revise).map Table.name = ts.map Table.name := by
  rw [List.map_map]
  exact List.map_congr_left fun t _ => s.name_revise t

theorem Statement.revise_of_notMem {s : Statement} {t : Table} (h : t.name ∉ s.tableName?) :
    s.revise t = t := by
  cases s with
  | alterTable name change => exact if_neg fun e => h (congrArg some e.symm)
  | _ => rfl

theorem Statement.revise_of_none {change : Alteration} (effect : change.onTable? = none)
    (name : Path) (t : Table) : (Statement.alterTable name change).revise t = t := by
  rw [revise, effect]
  split
  · rfl
  · rfl

theorem Alteration.onTable?_of_isIgnored {change : Alteration} (h : change.isIgnored = true) :
    change.onTable? = none := by
  cases change with
  | alterColumn c text => rfl
  | setOnDelete onDelete => rfl
  | setOptions text => rfl
  | other text => rfl
  | _ => cases h

theorem Statement.name_of_mem_created {s : Statement} {t : CreateTable} (h : t ∈ s.created) :
    s.tableName? = some t.name.name := by
  cases s with
  | createTable t' => rw [List.mem_singleton.1 h]; rfl
  | _ => cases h

namespace Draft

/-! ## Accepted statements -/

theorem dropForeignKeys_eq (d : Draft) (name : String) :
    d.dropForeignKeys name = { d with foreignKeys := (d.dropForeignKeys name).foreignKeys } := by
  unfold dropForeignKeys
  split
  · rfl
  · rfl

theorem tables_of_idle (d : Draft) {s : Statement} (idle : ∀ t, s.revise t = t)
    (created : s.created = []) :
    d.tables = d.tables.map s.revise ++
      s.created.map fun t => tableOf t t.convertedColumns := by
  rw [created, List.map_nil, List.append_nil, List.map_id'' idle]

theorem tables_of_step {d d' : Draft} {s : Statement} (hs : Step d s d') (h : d.Placed) :
    d'.tables = d.tables.map s.revise ++
      s.created.map fun t => tableOf t t.convertedColumns := by
  cases hs with
  | @createTable t columns named isNew converted =>
    have kept : d.tables.map (Statement.createTable t).revise = d.tables := List.map_id' d.tables
    rw [kept, Statement.created, List.map_singleton,
      CreateTable.convertedColumns_of_mapM converted, addTable, tables_addConstraints]
  | @changeTable name change place f found effect =>
    have revised : ∀ t, (Statement.alterTable name change).revise t =
        if t.name = name.name then f t else t := by
      intro t
      rw [Statement.revise, effect, Option.getD_some]
    rw [h.tables_changeTable found f, List.map_congr_left fun t _ => revised t]
    exact (List.append_nil _).symm
  | addConstraint found c =>
    rw [tables_addConstraint]
    exact d.tables_of_idle (Statement.revise_of_none rfl _) rfl
  | dropConstraint found c =>
    rw [dropForeignKeys_eq]
    exact d.tables_of_idle (Statement.revise_of_none rfl _) rfl
  | ignore found ignored =>
    exact d.tables_of_idle (Statement.revise_of_none (Alteration.onTable?_of_isIgnored ignored) _)
      rfl
  | createIndex named ofTable => exact d.tables_of_idle (fun _ => rfl) rfl
  | other keyword text => exact d.tables_of_idle (fun _ => rfl) rfl

theorem places_of_step {d d' : Draft} {s : Statement} (hs : Step d s d') :
    d'.places = d.places ++ (s.created.map fun t => t.name.name).zipIdx d.tables.length := by
  cases hs with
  | createTable named isNew converted =>
    rw [addTable, places_addConstraints, tables_addConstraints]
    rfl
  | changeTable found effect => exact (List.append_nil _).symm
  | addConstraint found c =>
    rw [places_addConstraint]
    exact (List.append_nil _).symm
  | dropConstraint found c =>
    rw [dropForeignKeys_eq]
    exact (List.append_nil _).symm
  | ignore found ignored => exact (List.append_nil _).symm
  | createIndex named ofTable => exact (List.append_nil _).symm
  | other keyword text => exact (List.append_nil _).symm

theorem indexes_of_step {d d' : Draft} {s : Statement} (hs : Step d s d') :
    d'.indexes = d.indexes ++ s.createdIndexes := by
  cases hs with
  | createTable named isNew converted =>
    rw [addTable, indexes_addConstraints]
    exact (List.append_nil _).symm
  | changeTable found effect => exact (List.append_nil _).symm
  | addConstraint found c =>
    rw [indexes_addConstraint]
    exact (List.append_nil _).symm
  | dropConstraint found c =>
    rw [dropForeignKeys_eq]
    exact (List.append_nil _).symm
  | ignore found ignored => exact (List.append_nil _).symm
  | createIndex named ofTable => rfl
  | other keyword text => exact (List.append_nil _).symm

/-- An accepted statement has its effect, whatever the draft. -/
theorem eq_effect_of_step {d d' : Draft} {s : Statement} (hs : Step d s d') (h : d.Placed) :
    d' = s.effect.on d := by
  refine Effect.eq_on (tables_of_step hs h) ?_ (keys_of_step hs) (indexes_of_step hs)
  rw [places_of_step hs, Statement.effect, List.map_map]
  rfl

/-! ## Statements with gaps -/

/-- In front of a gap, a new table records its foreign keys and does nothing else. -/
theorem addConstraints_eq_effect (d : Draft) (t : CreateTable) :
    d.addConstraints t.name.name t.constraints =
      ({ keys := (Statement.createTable t).statedKeys } : Effect).on d := by
  have keys := d.foldl_addForeignKey (forall_statedKeys (.createTable t))
  refine Effect.eq_on ?_ ?_ ⟨?_, ?_⟩ ?_
  · rw [tables_addConstraints, List.map_id, List.append_nil]
  · rw [places_addConstraints]
    exact (List.append_nil _).symm
  · rw [addConstraints_eq_foldl, Effect.filter_drops_of_none fun _ => rfl]
    exact keys.1
  · rw [addConstraints_eq_foldl]
    exact keys.2
  · rw [indexes_addConstraints, List.append_nil]

theorem applyGapped_eq_effect_of_gap (d : Draft) {s : Statement} (created : s.created = [])
    (gap : Gap) : (d.applyGapped ⟨s, some gap⟩).1 =
      (GappedStatement.effect ⟨s, some gap⟩ (d.applyGapped ⟨s, some gap⟩).2).on d := by
  have unchanged : (d.applyGapped ⟨s, some gap⟩).1 = d := by
    cases s with
    | createTable t => cases created
    | _ => rfl
  obtain ⟨i, hi⟩ : ∃ i, (d.applyGapped ⟨s, some gap⟩).2 = some i := ⟨_, rfl⟩
  rw [unchanged, hi, GappedStatement.effect_of_interrupted created, Effect.on_nothing]

/-- What a statement does is the effect that it has with its outcome. -/
theorem applyGapped_eq_effect {d : Draft} (h : d.Placed) (s : GappedStatement) :
    (d.applyGapped s).1 = (s.effect (d.applyGapped s).2).on d := by
  obtain ⟨s, gap?⟩ := s
  cases gap? with
  | none =>
    rw [applyGapped_of_no_gap]
    cases hs : (d.apply s).2 with
    | none => exact eq_effect_of_step (step_of_apply (Prod.ext rfl hs)) h
    | some e =>
      rw [apply_of_refused hs]
      exact (Effect.on_nothing d).symm
  | some gap =>
    cases s with
    | createTable t =>
      simp only [applyGapped, applyToGap]
      cases (d.createTable t).2 with
      | some e => exact (Effect.on_nothing d).symm
      | none =>
        rw [GappedStatement.effect, Statement.created, List.flatMap_singleton]
        exact d.addConstraints_eq_effect t
    | alterTable name change => exact d.applyGapped_eq_effect_of_gap rfl gap
    | createIndex i => exact d.applyGapped_eq_effect_of_gap rfl gap
    | other keyword text => exact d.applyGapped_eq_effect_of_gap rfl gap

/-! ## Runs -/

theorem Placed.step {d d' : Draft} {s : Statement} (hs : Step d s d') (h : d.Placed) :
    d'.Placed := by
  cases hs with
  | @createTable t columns named isNew converted =>
    exact (h.addConstraints _ _).addTable ((d.place?_addConstraints _ _ _).trans isNew)
  | changeTable found effect => exact h.changeTable effect
  | addConstraint found c => exact h.addConstraints _ [c]
  | dropConstraint found c =>
    rw [dropForeignKeys_eq]
    exact ⟨h.namesNodup, h.places⟩
  | ignore found ignored => exact h
  | createIndex named ofTable => exact ⟨h.namesNodup, h.places⟩
  | other keyword text => exact h

theorem Placed.applyGapped {d : Draft} (h : d.Placed) (s : GappedStatement) :
    (d.applyGapped s).1.Placed := by
  have s1 := d.gappedStep_applyGapped s
  generalize (d.applyGapped s).1 = d', (d.applyGapped s).2 = i? at s1
  cases s1 with
  | whole accepted => exact h.step accepted
  | refused e => exact h
  | stopped gap => exact h
  | cutOff named gap => exact h.addConstraints _ _

theorem placed_runGapped (ss : List GappedStatement) : (runGapped {} ss).Placed := by
  have all : ∀ d : Draft, d.Placed → (d.runGapped ss).Placed := by
    induction ss with
    | nil => exact fun d h => h
    | cons s ss ih => exact fun d h => ih _ (h.applyGapped s)
  exact all {} placed_empty

/-! ## Outcomes -/

theorem refusal_alter_eq (d d' : Draft) (name : String) (place place' : Nat) (change : Alteration) :
    (d'.alter name place' change).2 = (d.alter name place change).2 := by
  cases change with
  | addColumn c ifNotExists =>
    simp only [alter]
    split
    · rfl
    · rfl
  | _ => rfl

theorem refusal_eq_of_known {d d' : Draft} {s : Statement}
    (known : ∀ name ∈ s.tableName?, d'.place? name = none ↔ d.place? name = none) :
    (d'.apply s).2 = (d.apply s).2 := by
  cases s with
  | createTable t =>
    -- A new table is refused for what it states itself, or because there is one of its name.
    have isSome : (d'.place? t.name.name).isSome = (d.place? t.name.name).isSome := by
      rw [Option.isSome_eq_isSome]
      exact known _ rfl
    simp only [apply, createTable, isSome]
    split
    · rfl
    · split
      · rfl
      · split
        · rfl
        · rfl
  | alterTable name change =>
    simp only [apply, alterTable]
    cases found : d.place? name.name with
    | none => rw [(known _ rfl).2 found]
    | some place =>
      obtain ⟨place', found'⟩ : ∃ place', d'.place? name.name = some place' := by
        rw [← Option.ne_none_iff_exists', Ne, known _ rfl, found]
        exact Option.some_ne_none place
      rw [found']
      exact refusal_alter_eq ..
  | createIndex i =>
    simp only [apply, createIndex]
    split
    · rfl
    · split
      · rfl
      · rfl
  | other keyword text => rfl

/-- The outcome of a statement depends on no more of the draft than whether the table that the
statement is about exists. -/
theorem outcome_eq_of_known {d d' : Draft} {s : GappedStatement}
    (known : ∀ name ∈ s.statement.tableName?, d'.place? name = none ↔ d.place? name = none) :
    (d'.applyGapped s).2 = (d.applyGapped s).2 := by
  have refusal := refusal_eq_of_known known
  obtain ⟨s, gap?⟩ := s
  cases gap? with
  | none => rw [applyGapped_of_no_gap, applyGapped_of_no_gap, refusal]
  | some gap =>
    cases s with
    | createTable t =>
      simp only [apply] at refusal
      simp only [applyGapped, applyToGap, refusal]
      cases (d.createTable t).2 with
      | none => rfl
      | some e => rfl
    | alterTable name change => exact congrArg (fun e => some (interruption gap e)) refusal
    | createIndex i => exact congrArg (fun e => some (interruption gap e)) refusal
    | other keyword text => rfl

end Draft

end SpannerDdl
