import SpannerDdl.Proofs.Except
import SpannerDdl.Schema.Draft

/-! # Steps and runs of a draft

A statement that is refused leaves the draft as it was. One that is accepted does one of seven
things, which are the cases of `Draft.Step`. A run goes on behind refused statements.

* `Alteration.onTable?`: what an alteration does to its table, if it is one that changes tables.
* `Draft.Step d s d'`: the accepted statement `s` takes the draft `d` to `d'`.
* `Draft.run d ss`: the draft behind statements, where those that are refused are skipped.
* `Draft.accepted d ss`: the statements of a run that are not refused.
* `Draft.History ss d`: the accepted statements `ss` make `d` of the empty draft.
-/

set_option autoImplicit false

namespace SpannerDdl

/-! ## Alterations of a table -/

/-- What an alteration does to its table. Foreign keys are not kept in tables, and a column whose
type has no text cannot be added. -/
def Alteration.onTable? : Alteration → Option (Table → Table)
  | .addColumn c _ =>
    c.column.toOption.map fun column t => { t with columns := t.columns ++ [column] }
  | .dropColumn c => some (Draft.dropColumn c.name)
  | .setInterleaving parent _ => some fun t => { t with interleavedIn := parent.name }
  | .addPolicy p => some fun t => { t with policy := p.policy? }
  | .replacePolicy p => some fun t => { t with policy := p.policy? }
  | .dropPolicy => some fun t => { t with policy := none }
  | _ => none

/-- Whether an alteration concerns nothing that a schema records. -/
def Alteration.isIgnored : Alteration → Bool
  | .alterColumn _ _ => true
  | .setOnDelete _ => true
  | .setOptions _ => true
  | .other _ => true
  | _ => false

theorem ColumnDef.columnIn_eq_ok_iff {c : ColumnDef} {table : String} {isAdded : Bool}
    {column : Column} : c.columnIn table isAdded = .ok column ↔ c.column = .ok column := by
  unfold columnIn
  cases c.column with
  | error cause => simp
  | ok column' => simp

theorem ColumnDef.mapM_columnIn_eq_ok_iff {cs : List ColumnDef} {table : String} {isAdded : Bool}
    {columns : List Column} :
    cs.mapM (·.columnIn table isAdded) = .ok columns ↔ cs.mapM ColumnDef.column = .ok columns := by
  simp only [mapM_eq_ok_iff, columnIn_eq_ok_iff]

namespace Draft

/-! ## Steps -/

/-- The accepted statement `s` takes the draft `d` to another one. -/
inductive Step (d : Draft) : Statement → Draft → Prop where
  | createTable {t : CreateTable} {columns : List Column} (named : t.name.name ≠ "")
      (isNew : d.place? t.name.name = none)
      (converted : t.columns.mapM ColumnDef.column = .ok columns) :
      Step d (.createTable t)
        ((d.addConstraints t.name.name t.constraints).addTable (tableOf t columns))
  | changeTable {name : Path} {change : Alteration} {place : Nat} {f : Table → Table}
      (found : d.place? name.name = some place) (effect : change.onTable? = some f) :
      Step d (.alterTable name change) (d.changeTable place f)
  | addConstraint {name : Path} {place : Nat} (found : d.place? name.name = some place)
      (c : TableConstraint) :
      Step d (.alterTable name (.addConstraint c)) (d.addConstraint name.name c)
  | dropConstraint {name : Path} {place : Nat} (found : d.place? name.name = some place)
      (c : Ident) : Step d (.alterTable name (.dropConstraint c)) (d.dropForeignKeys c.name)
  | ignore {name : Path} {change : Alteration} {place : Nat}
      (found : d.place? name.name = some place) (ignored : change.isIgnored = true) :
      Step d (.alterTable name change) d
  | createIndex {i : CreateIndex} (named : i.name.name ≠ "") (ofTable : i.table.name ≠ "") :
      Step d (.createIndex i) { d with indexes := d.indexes ++ [indexOf i] }
  | other (keyword text : String) : Step d (.other keyword text) d

theorem step_of_createTable {d d' : Draft} {t : CreateTable} (h : d.createTable t = (d', none)) :
    Step d (.createTable t) d' := by
  unfold createTable at h
  simp only [beq_iff_eq] at h
  split at h
  · cases h
  · rename_i named
    split at h
    · cases h
    · rename_i isNew
      split at h
      · cases h
      · rename_i columns converted
        cases h
        exact .createTable named (by simpa using isNew)
          (ColumnDef.mapM_columnIn_eq_ok_iff.1 converted)

theorem step_of_alter {d d' : Draft} {name : Path} {place : Nat} {change : Alteration}
    (found : d.place? name.name = some place)
    (h : d.alter name.name place change = (d', none)) : Step d (.alterTable name change) d' := by
  cases change with
  | addColumn c ifNotExists =>
    simp only [alter] at h
    split at h
    · cases h
    · rename_i column converted
      cases h
      refine .changeTable found ?_
      rw [Alteration.onTable?, ColumnDef.columnIn_eq_ok_iff.1 converted]
      rfl
  | addConstraint c => cases h; exact .addConstraint found c
  | dropColumn c => cases h; exact .changeTable found rfl
  | dropConstraint c => cases h; exact .dropConstraint found c
  | setInterleaving parent onDelete => cases h; exact .changeTable found rfl
  | addPolicy p => cases h; exact .changeTable found rfl
  | replacePolicy p => cases h; exact .changeTable found rfl
  | dropPolicy => cases h; exact .changeTable found rfl
  | alterColumn c text => cases h; exact .ignore found rfl
  | setOnDelete onDelete => cases h; exact .ignore found rfl
  | setOptions text => cases h; exact .ignore found rfl
  | other text => cases h; exact .ignore found rfl

theorem step_of_createIndex {d d' : Draft} {i : CreateIndex}
    (h : d.createIndex i = (d', none)) : Step d (.createIndex i) d' := by
  unfold createIndex at h
  simp only [beq_iff_eq] at h
  split at h
  · cases h
  · rename_i named
    split at h
    · cases h
    · rename_i ofTable
      cases h
      exact .createIndex named ofTable

/-- Every accepted statement is a step. -/
theorem step_of_apply {d d' : Draft} {s : Statement} (h : d.apply s = (d', none)) :
    Step d s d' := by
  cases s with
  | createTable t => exact step_of_createTable h
  | alterTable name change =>
    simp only [apply, alterTable] at h
    split at h
    · rename_i place found
      exact step_of_alter found h
    · cases h
  | createIndex i => exact step_of_createIndex h
  | other keyword text => cases h; exact .other keyword text

theorem createTable_refused_or (d : Draft) (t : CreateTable) :
    (∃ e, d.createTable t = (d, some e)) ∨ (d.createTable t).2 = none := by
  unfold createTable
  simp only
  split
  · exact .inl ⟨_, rfl⟩
  · split
    · exact .inl ⟨_, rfl⟩
    · split
      · exact .inl ⟨_, rfl⟩
      · exact .inr rfl

theorem alterTable_refused_or (d : Draft) (name : Path) (change : Alteration) :
    (∃ e, d.alterTable name change = (d, some e)) ∨ (d.alterTable name change).2 = none := by
  unfold alterTable
  split
  · cases change with
    | addColumn c ifNotExists =>
      rw [alter]
      split
      · exact .inl ⟨_, rfl⟩
      · exact .inr rfl
    | _ => exact .inr rfl
  · exact .inl ⟨_, rfl⟩

theorem createIndex_refused_or (d : Draft) (i : CreateIndex) :
    (∃ e, d.createIndex i = (d, some e)) ∨ (d.createIndex i).2 = none := by
  unfold createIndex
  split
  · exact .inl ⟨_, rfl⟩
  · split
    · exact .inl ⟨_, rfl⟩
    · exact .inr rfl

/-- A statement that is refused changes nothing. -/
theorem apply_of_refused {d : Draft} {s : Statement} {e : BuildError}
    (h : (d.apply s).2 = some e) : (d.apply s).1 = d := by
  have all : (∃ e, d.apply s = (d, some e)) ∨ (d.apply s).2 = none := by
    cases s with
    | createTable t => exact d.createTable_refused_or t
    | alterTable name change => exact d.alterTable_refused_or name change
    | createIndex i => exact d.createIndex_refused_or i
    | other keyword text => exact .inr rfl
  rcases all with ⟨e', he⟩ | hn
  · rw [he]
  · rw [hn] at h
    cases h

/-! ## Runs -/

/-- The draft behind statements, where those that are refused are skipped. -/
def run (d : Draft) (ss : List Statement) : Draft := ss.foldl (fun d s => (d.apply s).1) d

/-- The statements of a run that are not refused. -/
def accepted (d : Draft) : List Statement → List Statement
  | [] => []
  | s :: ss =>
    if (d.apply s).2.isNone then s :: accepted (d.apply s).1 ss else accepted (d.apply s).1 ss

/-- The accepted statements `ss` make the draft `d` of the empty one. -/
inductive History : List Statement → Draft → Prop where
  | empty : History [] {}
  | step {ss : List Statement} {d d' : Draft} {s : Statement} :
      History ss d → Step d s d' → History (ss ++ [s]) d'

theorem run_cons (d : Draft) (s : Statement) (ss : List Statement) :
    d.run (s :: ss) = (d.apply s).1.run ss := rfl

theorem History.append_run {log : List Statement} {d : Draft} (h : History log d)
    (ss : List Statement) : History (log ++ d.accepted ss) (d.run ss) := by
  induction ss generalizing log d with
  | nil => simpa [accepted, run] using h
  | cons s ss ih =>
    rw [run_cons, accepted]
    cases hs : (d.apply s).2 with
    | none =>
      have s1 : Step d s (d.apply s).1 := step_of_apply (by rw [← hs])
      have s2 := ih (h.step s1)
      rw [List.append_assoc] at s2
      simpa using s2
    | some e =>
      rw [apply_of_refused hs]
      simpa using ih h

/-- A run from the empty draft is the history of what it accepted. -/
theorem history_run (ss : List Statement) : History (accepted {} ss) (run {} ss) := by
  simpa using History.empty.append_run ss

end Draft

end SpannerDdl
