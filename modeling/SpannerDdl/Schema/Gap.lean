import SpannerDdl.Schema.Draft

/-! # Statements with a gap

A statement that is put together by hand may lack a column, a key column or a constraint where its
lists say there is one, or one of these lists. It is carried out up to there.

* `Gap`: what is lacking.
* `GappedStatement`: a statement, cut off in front of its first gap if it has one.
* `Draft.applyGapped d s`: the draft after such a statement, and why it went no further.
* `Schema.ofGapped ss`: the schema that such statements build.
-/

set_option autoImplicit false

namespace SpannerDdl

/-- What a statement lacks. -/
inductive Gap where
  | column
  | key
  | constraint
  | list
  deriving DecidableEq, Repr

/-- A statement, of which only the part in front of the first gap is given. -/
structure GappedStatement where
  statement : Statement
  gap : Option Gap := none
  deriving DecidableEq, Repr

/-- Why a statement goes no further: it is refused, or it has a gap. -/
inductive Interruption where
  | refusal (error : BuildError)
  | gap (gap : Gap)
  deriving DecidableEq, Repr

namespace Draft

/-- What interrupts a statement with a gap that is not refused before. -/
def interruption (gap : Gap) (refusal : Option BuildError) : Interruption :=
  (refusal.map .refusal).getD (.gap gap)

/-- The draft after a statement with a gap. The foreign keys in front of the gap are recorded;
nothing else is. -/
def applyToGap (d : Draft) (gap : Gap) : Statement → Draft × Interruption
  | .createTable t =>
    match (d.createTable t).2 with
    | some e => (d, .refusal e)
    | none => (d.addConstraints t.name.name t.constraints, .gap gap)
  | .alterTable name change => (d, interruption gap (d.alterTable name change).2)
  | .createIndex i => (d, interruption gap (d.createIndex i).2)
  | .other _ _ => (d, .gap gap)

/-- The draft after a statement that may have a gap, and why it went no further. -/
def applyGapped (d : Draft) (s : GappedStatement) : Draft × Option Interruption :=
  match s.gap with
  | none => ((d.apply s.statement).1, (d.apply s.statement).2.map .refusal)
  | some gap => ((d.applyToGap gap s.statement).1, some (d.applyToGap gap s.statement).2)

/-- The draft after statements up to the first that is interrupted, and why. -/
def applyAllGapped (d : Draft) : List GappedStatement → Draft × Option Interruption
  | [] => (d, none)
  | s :: ss =>
    match d.applyGapped s with
    | (d', none) => d'.applyAllGapped ss
    | (d', some i) => (d', some i)

@[simp] theorem applyGapped_of_no_gap (d : Draft) (s : Statement) :
    d.applyGapped ⟨s, none⟩ = ((d.apply s).1, (d.apply s).2.map .refusal) := rfl

/-- Statements without gaps are applied as ever. -/
theorem applyAllGapped_of_no_gap (d : Draft) (ss : List Statement) :
    d.applyAllGapped (ss.map fun s => ⟨s, none⟩) =
      ((d.applyAll ss).1, (d.applyAll ss).2.map .refusal) := by
  induction ss generalizing d with
  | nil => rfl
  | cons s ss ih =>
    simp only [List.map_cons, applyAllGapped, applyAll, applyGapped_of_no_gap]
    match h : d.apply s with
    | (d', none) => simpa using ih d'
    | (d', some e) => simp

end Draft

/-- The schema that statements build. -/
def Schema.ofGapped (ss : List GappedStatement) : Except Interruption Schema :=
  match Draft.applyAllGapped {} ss with
  | (d, none) => .ok d.schema
  | (_, some i) => .error i

/-- What comes of statements without gaps is what comes of the statements. -/
theorem Schema.ofGapped_of_no_gap (ss : List Statement) :
    ofGapped (ss.map fun s => ⟨s, none⟩) = (ofStatements ss).mapError .refusal := by
  rw [ofGapped, ofStatements, Draft.applyAllGapped_of_no_gap]
  match Draft.applyAll {} ss with
  | (d, none) => rfl
  | (d, some e) => rfl

end SpannerDdl
