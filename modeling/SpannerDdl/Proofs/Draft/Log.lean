import SpannerDdl.Statement.Basic

/-! # Reading a log of statements

A log is read by looking for what its statements do and for what they do later on.

* `Statement.occurrences f log`: all that `f` finds in the statements of a log, each with the
  statements behind.
* `Statement.created`: the table that a statement creates.
* `Statement.creations log`: the tables that a log creates, each with the statements behind.
* `Statement.remaining undoes found`: of what was found, all that no statement behind undoes.
-/

set_option autoImplicit false

namespace SpannerDdl.Statement

variable {α : Type}

/-- All that `f` finds in the statements of a log, in order, each with the statements behind. -/
def occurrences (f : Statement → List α) : List Statement → List (α × List Statement)
  | [] => []
  | s :: log => (f s).map (·, log) ++ occurrences f log

/-- The table that a statement creates. -/
def created : Statement → List CreateTable
  | .createTable t => [t]
  | _ => []

/-- The tables that a log creates, in order, each with the statements behind. -/
def creations (log : List Statement) : List (CreateTable × List Statement) :=
  occurrences created log

/-- Of what was found in a log, all that no statement behind it undoes. -/
def remaining (undoes : α → Statement → Bool) (found : List (α × List Statement)) : List α :=
  (found.filter fun p => !p.2.any (undoes p.1)).map Prod.fst

/-- A statement at the end of a log comes behind all that was found before. -/
theorem occurrences_concat (f : Statement → List α) (log : List Statement) (s : Statement) :
    occurrences f (log ++ [s]) =
      (occurrences f log).map (fun p => (p.1, p.2 ++ [s])) ++ (f s).map (·, []) := by
  induction log with
  | nil => simp [occurrences]
  | cons s' log ih =>
    rw [List.cons_append, occurrences, ih, occurrences, List.map_append, List.map_map,
      List.append_assoc]
    rfl

section
variable (undoes : α → Statement → Bool)

theorem remaining_append (found found' : List (α × List Statement)) :
    remaining undoes (found ++ found') = remaining undoes found ++ remaining undoes found' := by
  unfold remaining
  rw [List.filter_append, List.map_append]

/-- One more statement takes away exactly what it undoes. -/
theorem remaining_concat (found : List (α × List Statement)) (s : Statement) :
    remaining undoes (found.map fun p => (p.1, p.2 ++ [s])) =
      (remaining undoes found).filter fun a => !undoes a s := by
  unfold remaining
  rw [List.filter_map, List.map_map, List.filter_map, List.filter_filter]
  refine congrArg (List.map Prod.fst) (List.filter_congr fun p _ => ?_)
  simp only [Function.comp_apply, List.any_append, List.any_cons, List.any_nil, Bool.or_false,
    Bool.not_or]
  exact Bool.and_comm ..

theorem remaining_of_nothing_behind (as : List α) :
    remaining undoes (as.map (·, [])) = as := by
  unfold remaining
  rw [List.filter_eq_self.2, List.map_map]
  · exact List.map_id as
  · intro p hp
    obtain ⟨a, -, rfl⟩ := List.mem_map.1 hp
    rfl

end

end SpannerDdl.Statement
