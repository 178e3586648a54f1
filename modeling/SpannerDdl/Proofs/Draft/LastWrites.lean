import Mathlib.Data.List.Induction
import SpannerDdl.Proofs.Draft.Effect
import SpannerDdl.Proofs.Statement.TypeText

/-! # Policies and parents as a log tells them

The row deletion policy of a table and its parent are what was last written of them, whatever else
became of the table.

* `Statement.lastWrite? write? table log`: what the last alteration of a table in a log that writes
  something writes.
* `CreateTable.policyBehind t later`, `CreateTable.parentBehind t later`: the policy and the parent
  of a table behind the statements `later`.
* `CreateTable.tableBehind t later`: the whole table, revised by one statement after the other.
* `policies_and_parents_of_run`: what a draft has of them is what its log tells. -/

set_option autoImplicit false

namespace SpannerDdl

/-! ## Reading the log -/

/-- What a statement does to the table of a name. -/
def Statement.alteration? (table : String) : Statement → Option Alteration
  | .alterTable name change => if name.name = table then some change else none
  | _ => none

/-- What the last alteration of a table writes that writes something. -/
def Statement.lastWrite? {α : Type} (write? : Alteration → Option α) (table : String)
    (log : List Statement) : Option α :=
  (log.filterMap fun s => (s.alteration? table).bind write?).getLast?

/-- What an alteration writes as the policy of its table, where a policy that is dropped is written
to be none. -/
def Alteration.policy? : Alteration → Option (Option PolicyDef)
  | .addPolicy p => some (some p)
  | .replacePolicy p => some (some p)
  | .dropPolicy => some none
  | _ => none

/-- What an alteration writes as the parent of its table. -/
def Alteration.parent? : Alteration → Option Path
  | .setInterleaving parent _ => some parent
  | _ => none

/-- The policy that is kept of a stated one: none without a column, else its column and its number
of days without casts. -/
def PolicyDef.kept? (p : PolicyDef) : Option RowDeletionPolicy :=
  if p.column.name = "" then none
  else some { column := p.column.name, days := p.days.uncast.sql.toOption.getD "" }

namespace CreateTable

/-- The policy of a table behind later statements. -/
def policyBehind (t : CreateTable) (later : List Statement) : Option RowDeletionPolicy :=
  ((Statement.lastWrite? Alteration.policy? t.name.name later).getD t.policy).bind PolicyDef.kept?

/-- The parent of a table behind later statements, empty if there is none. -/
def parentBehind (t : CreateTable) (later : List Statement) : String :=
  ((Statement.lastWrite? Alteration.parent? t.name.name later).or
    (t.interleaving.map Interleaving.parent)).elim "" Path.name

/-- A table behind later statements. -/
def tableBehind (t : CreateTable) (later : List Statement) : Table :=
  later.foldl (fun t s => s.revise t) (Draft.tableOf t t.convertedColumns)

end CreateTable

/-! ## One more statement -/

theorem Statement.lastWrite?_concat {α : Type} (write? : Alteration → Option α) (table : String)
    (log : List Statement) (s : Statement) :
    lastWrite? write? table (log ++ [s]) =
      ((s.alteration? table).bind write?).or (lastWrite? write? table log) := by
  unfold lastWrite?
  rw [List.filterMap_append, List.getLast?_append]
  congr 1
  rw [List.filterMap_cons]
  cases (s.alteration? table).bind write? with
  | none => rfl
  | some a => rfl

theorem PolicyDef.policy?_eq_kept? (p : PolicyDef) : p.policy? = p.kept? := by
  unfold policy? kept?
  by_cases h : p.column.name = ""
  · rw [if_pos h, if_pos (by rw [h]; rfl)]
  · rw [if_neg h, if_neg (by simpa using h), p.days.text_eq_sql_uncast]

theorem Statement.revise_of_alteration? {s : Statement} {t : Table} :
    s.revise t = (((s.alteration? t.name).bind Alteration.onTable?).getD id) t := by
  cases s with
  | alterTable name change =>
    rw [revise, alteration?]
    by_cases h : t.name = name.name
    · rw [if_pos h, if_pos h.symm]
      rfl
    · rw [if_neg h, if_neg fun e => h e.symm]
      rfl
  | _ => rfl

theorem Draft.dropColumn_eq (name : String) (t : Table) :
    dropColumn name t =
      { t with
        columns := (dropColumn name t).columns
        primaryKey := (dropColumn name t).primaryKey } := by
  unfold dropColumn
  split
  · rfl
  · rfl

/-! ## Parts of a table -/

section

variable {α β : Type}

/-- A part of a table is as the alterations leave it that write something: what is written is kept
of it. -/
structure Alteration.Writes (write? : Alteration → Option α) (part : Table → β)
    (kept : α → β) : Prop where
  onTable : ∀ {change : Alteration} {f : Table → Table}, change.onTable? = some f →
    ∀ t, part (f t) = (write? change).elim (part t) kept
  idle : ∀ {change : Alteration}, change.onTable? = none → write? change = none

theorem Alteration.policy_and_parent_of_onTable? {change : Alteration} {f : Table → Table}
    (effect : change.onTable? = some f) (t : Table) :
    (f t).policy = change.policy?.elim t.policy (·.bind PolicyDef.kept?) ∧
      (f t).interleavedIn = change.parent?.elim t.interleavedIn Path.name := by
  cases change with
  | addColumn c ifNotExists =>
    obtain ⟨column, -, rfl⟩ := Option.map_eq_some_iff.1 effect
    exact ⟨rfl, rfl⟩
  | dropColumn c =>
    cases effect
    rw [Draft.dropColumn_eq]
    exact ⟨rfl, rfl⟩
  | setInterleaving parent onDelete => cases effect; exact ⟨rfl, rfl⟩
  | addPolicy p => cases effect; exact ⟨p.policy?_eq_kept?, rfl⟩
  | replacePolicy p => cases effect; exact ⟨p.policy?_eq_kept?, rfl⟩
  | dropPolicy => cases effect; exact ⟨rfl, rfl⟩
  | _ => cases effect

theorem Alteration.no_write_of_onTable? {change : Alteration} (effect : change.onTable? = none) :
    change.policy? = none ∧ change.parent? = none := by
  cases change with
  | setInterleaving parent onDelete => cases effect
  | addPolicy p => cases effect
  | replacePolicy p => cases effect
  | dropPolicy => cases effect
  | _ => exact ⟨rfl, rfl⟩

theorem Alteration.writes_policy : Writes policy? Table.policy (·.bind PolicyDef.kept?) where
  onTable effect t := (policy_and_parent_of_onTable? effect t).1
  idle effect := (no_write_of_onTable? effect).1

theorem Alteration.writes_parent : Writes parent? Table.interleavedIn Path.name where
  onTable effect t := (policy_and_parent_of_onTable? effect t).2
  idle effect := (no_write_of_onTable? effect).2

variable {write? : Alteration → Option α} {part : Table → β} {kept : α → β}

theorem Statement.part_revise (h : Alteration.Writes write? part kept) (s : Statement)
    (t : Table) :
    part (s.revise t) = ((s.alteration? t.name).bind write?).elim (part t) kept := by
  rw [revise_of_alteration?]
  cases s.alteration? t.name with
  | none => rfl
  | some change =>
    rw [Option.bind_some, Option.bind_some]
    cases effect : change.onTable? with
    | none =>
      rw [h.idle effect]
      rfl
    | some f => exact h.onTable effect t

theorem Statement.name_foldl_revise (log : List Statement) (t : Table) :
    (log.foldl (fun t s => s.revise t) t).name = t.name := by
  induction log generalizing t with
  | nil => rfl
  | cons s log ih => rw [List.foldl_cons, ih, name_revise]

/-- Behind a log, such a part is as the last alteration wrote it. -/
theorem Statement.part_foldl_revise (h : Alteration.Writes write? part kept)
    (log : List Statement) (t : Table) :
    part (log.foldl (fun t s => s.revise t) t) =
      (lastWrite? write? t.name log).elim (part t) kept := by
  induction log using List.reverseRecOn with
  | nil => rfl
  | append_singleton log s ih =>
    rw [List.foldl_append, List.foldl_cons, List.foldl_nil, part_revise h, ih, name_foldl_revise,
      lastWrite?_concat]
    cases (s.alteration? t.name).bind write? with
    | none => rfl
    | some a => rfl

end

namespace CreateTable

theorem name_tableBehind (t : CreateTable) (later : List Statement) :
    (t.tableBehind later).name = t.name.name := Statement.name_foldl_revise later _

theorem policy_tableBehind (t : CreateTable) (later : List Statement) :
    (t.tableBehind later).policy = t.policyBehind later := by
  have created : t.policy.bind PolicyDef.policy? = t.policy.bind PolicyDef.kept? :=
    congrArg t.policy.bind (funext PolicyDef.policy?_eq_kept?)
  have last := Statement.part_foldl_revise Alteration.writes_policy later
    (Draft.tableOf t t.convertedColumns)
  rw [tableBehind, last, policyBehind]
  simp only [Draft.tableOf, created]
  cases Statement.lastWrite? Alteration.policy? t.name.name later with
  | none => rfl
  | some p => rfl

theorem interleavedIn_tableBehind (t : CreateTable) (later : List Statement) :
    (t.tableBehind later).interleavedIn = t.parentBehind later := by
  have last := Statement.part_foldl_revise Alteration.writes_parent later
    (Draft.tableOf t t.convertedColumns)
  rw [tableBehind, last, parentBehind]
  simp only [Draft.tableOf]
  cases Statement.lastWrite? Alteration.parent? t.name.name later with
  | none =>
    cases t.interleaving with
    | none => rfl
    | some i => rfl
  | some p => rfl

theorem tableBehind_concat (t : CreateTable) (later : List Statement) (s : Statement) :
    t.tableBehind (later ++ [s]) = s.revise (t.tableBehind later) := by
  unfold tableBehind
  rw [List.foldl_append]
  rfl

end CreateTable

/-! ## Runs -/

namespace Draft

/-- Every table is the one that was created, revised by the statements behind. -/
theorem History.tables_eq {log : List Statement} {d : Draft} (h : History log d) :
    d.tables = (Statement.creations log).map fun p => p.1.tableBehind p.2 := by
  induction h with
  | empty => rfl
  | @step log d d' s hd hs ih =>
    have revised : d.tables.map s.revise = (Statement.creations log).map fun p =>
        p.1.tableBehind (p.2 ++ [s]) := by
      rw [ih, List.map_map]
      exact List.map_congr_left fun p _ => (p.1.tableBehind_concat p.2 s).symm
    rw [tables_of_step hs hd.wellFormed.placed, revised]
    unfold Statement.creations
    rw [Statement.occurrences_concat, List.map_append, List.map_map, List.map_map]
    rfl

/-- Behind any statements, the policy of each table is what the last accepted one wrote that creates
the table or adds, replaces or drops its policy: none if it was dropped or names no column, else its
column and its number of days without casts. The parent of the table is what the last one wrote that
creates the table or sets its parent. -/
theorem policies_and_parents_of_run (ss : List Statement) :
    (run {} ss).tables.map (fun t => (t.name, t.policy, t.interleavedIn)) =
      (Statement.creations (accepted {} ss)).map fun p =>
        (p.1.name.name, p.1.policyBehind p.2, p.1.parentBehind p.2) := by
  rw [(history_run ss).tables_eq, List.map_map]
  refine List.map_congr_left fun p _ => ?_
  rw [Function.comp_apply, p.1.name_tableBehind, p.1.policy_tableBehind,
    p.1.interleavedIn_tableBehind]

end Draft

end SpannerDdl
