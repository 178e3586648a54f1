import SpannerDdl.Proofs.Draft.Step
import SpannerDdl.Schema.Gap

/-! # Refused statements leave no trace

A statement with a gap may leave foreign keys behind that belong to no table. A statement that is
refused, with a gap or without one, leaves the draft as it was.

* `Draft.GappedStep d s d' i?`: the statement `s`, which may have a gap, takes the draft `d` to `d'`
  and is interrupted by `i?`.
* `Draft.runGapped d ss`: the draft behind statements, also where one is interrupted.
* `refused_without_trace`: a refused statement changes nothing, and statements that end in a
  refusal come to where those in front of the refused one come to. -/

set_option autoImplicit false

namespace SpannerDdl.Draft

/-! ## Steps -/

/-- The statement `s`, which may have a gap, takes the draft `d` to another one. Only in front of a
gap in a new table may something be recorded of a statement that is interrupted. -/
inductive GappedStep (d : Draft) : GappedStatement → Draft → Option Interruption → Prop where
  | whole {s : Statement} {d' : Draft} (accepted : Step d s d') : GappedStep d ⟨s, none⟩ d' none
  | refused {s : GappedStatement} (e : BuildError) : GappedStep d s d (some (.refusal e))
  | stopped {s : GappedStatement} (gap : Gap) : GappedStep d s d (some (.gap gap))
  | cutOff {t : CreateTable} (named : t.name.name ≠ "") (gap : Gap) :
      GappedStep d ⟨.createTable t, some gap⟩ (d.addConstraints t.name.name t.constraints)
        (some (.gap gap))

theorem gappedStep_of_interruption (d : Draft) (s : GappedStatement) (gap : Gap)
    (refusal : Option BuildError) : GappedStep d s d (some (interruption gap refusal)) := by
  cases refusal with
  | none => exact .stopped gap
  | some e => exact .refused e

/-- Whatever is done to a draft is such a step. -/
theorem gappedStep_applyGapped (d : Draft) (s : GappedStatement) :
    GappedStep d s (d.applyGapped s).1 (d.applyGapped s).2 := by
  obtain ⟨s, gap?⟩ := s
  cases gap? with
  | none =>
    rw [applyGapped_of_no_gap]
    cases hs : (d.apply s).2 with
    | none => exact .whole (step_of_apply (Prod.ext rfl hs))
    | some e =>
      rw [apply_of_refused hs]
      exact .refused e
  | some gap =>
    cases s with
    | createTable t =>
      simp only [applyGapped, applyToGap]
      cases ht : (d.createTable t).2 with
      | some e => exact .refused e
      | none =>
        obtain ⟨d', accepted⟩ : ∃ d', d.createTable t = (d', none) := ⟨_, Prod.ext rfl ht⟩
        cases step_of_createTable accepted with
        | createTable named isNew converted => exact .cutOff named gap
    | alterTable name change => exact d.gappedStep_of_interruption _ gap _
    | createIndex i => exact d.gappedStep_of_interruption _ gap _
    | other keyword text => exact .stopped gap

theorem applyGapped_of_refused {d : Draft} {s : GappedStatement} {e : BuildError}
    (h : (d.applyGapped s).2 = some (.refusal e)) : (d.applyGapped s).1 = d := by
  have s1 := d.gappedStep_applyGapped s
  rw [h] at s1
  generalize (d.applyGapped s).1 = d' at s1
  cases s1 with
  | refused => rfl

/-! ## Runs -/

/-- The draft behind statements that may have gaps. Those that are interrupted are behind it with
what they left. -/
def runGapped (d : Draft) (ss : List GappedStatement) : Draft :=
  ss.foldl (fun d s => (d.applyGapped s).1) d

section
variable {d d1 : Draft} {s : GappedStatement}

theorem applyAllGapped_of_carriedOut (h : d.applyGapped s = (d1, none))
    (ss : List GappedStatement) : d.applyAllGapped (s :: ss) = d1.applyAllGapped ss := by
  rw [applyAllGapped, h]

theorem applyAllGapped_of_interrupted {i : Interruption} (h : d.applyGapped s = (d1, some i))
    (ss : List GappedStatement) : d.applyAllGapped (s :: ss) = (d1, some i) := by
  rw [applyAllGapped, h]

end

/-- Statements end in a refusal just if one of them is refused by the draft that those in front of
it make, and none of these is interrupted. The draft is still that one. -/
theorem applyAllGapped_eq_refusal_iff {d d' : Draft} {ss : List GappedStatement} {e : BuildError} :
    d.applyAllGapped ss = (d', some (.refusal e)) ↔
      ∃ k s, ss[k]? = some s ∧ d.applyAllGapped (ss.take k) = (d', none) ∧
        (d'.applyGapped s).2 = some (.refusal e) := by
  induction ss generalizing d with
  | nil => simp [applyAllGapped]
  | cons s ss ih =>
    obtain ⟨d1, i?, hs⟩ : ∃ d1 i?, d.applyGapped s = (d1, i?) := ⟨_, _, rfl⟩
    have s1 : (d.applyGapped s).2 = i? := by rw [hs]
    cases i? with
    | none =>
      rw [applyAllGapped_of_carriedOut hs, ih]
      constructor
      · rintro ⟨k, s', hk, front, refused⟩
        refine ⟨k + 1, s', hk, ?_, refused⟩
        rw [List.take_succ_cons, applyAllGapped_of_carriedOut hs, front]
      · rintro ⟨k, s', hk, front, refused⟩
        cases k with
        | zero =>
          -- The first statement is carried out, so it is not the refused one.
          cases hk
          cases front
          rw [s1] at refused
          cases refused
        | succ k =>
          rw [List.take_succ_cons, applyAllGapped_of_carriedOut hs] at front
          exact ⟨k, s', hk, front, refused⟩
    | some i =>
      have s2 : i = .refusal e → d1 = d := by
        rintro rfl
        have s3 := applyGapped_of_refused s1
        rwa [hs] at s3
      rw [applyAllGapped_of_interrupted hs]
      constructor
      · intro h
        cases h
        obtain rfl := s2 rfl
        exact ⟨0, s, rfl, rfl, s1⟩
      · rintro ⟨k, s', hk, front, refused⟩
        cases k with
        | zero =>
          cases hk
          cases front
          rw [s1, Option.some.injEq] at refused
          rw [s2 refused, refused]
        | succ k =>
          rw [List.take_succ_cons, applyAllGapped_of_interrupted hs] at front
          cases front

/-- A statement that is refused leaves the draft as it was. Statements end in a refusal just if one
of them is refused behind those in front of it, and the draft is the one that these make by
themselves. -/
theorem refused_without_trace :
    (∀ (d : Draft) (s : GappedStatement) (e : BuildError),
      (d.applyGapped s).2 = some (.refusal e) → (d.applyGapped s).1 = d) ∧
    ∀ (d d' : Draft) (ss : List GappedStatement) (e : BuildError),
      d.applyAllGapped ss = (d', some (.refusal e)) ↔
        ∃ k s, ss[k]? = some s ∧ d.applyAllGapped (ss.take k) = (d', none) ∧
          (d'.applyGapped s).2 = some (.refusal e) :=
  ⟨fun _ _ _ h => applyGapped_of_refused h, fun _ _ _ _ => applyAllGapped_eq_refusal_iff⟩

/-- The same for a table with a foreign key and a column without a type. -/
theorem untyped_column_without_trace :
    ∃ (d : Draft) (singers albums : GappedStatement) (e : BuildError),
      (d.applyGapped albums).2 = some (.refusal e) ∧ (d.applyGapped albums).1 = d ∧
      applyAllGapped {} [singers, albums] = (d, some (.refusal e)) ∧
      ∃ k s, [singers, albums][k]? = some s ∧
        applyAllGapped {} ([singers, albums].take k) = (d, none) ∧
        (d.applyGapped s).2 = some (.refusal e) := by
  let singers : GappedStatement := ⟨.createTable { name := ⟨[.named "Singers"]⟩ }, none⟩
  let albums : GappedStatement := ⟨.createTable {
    name := ⟨[.named "Albums"]⟩
    columns := [{ name := .named "SingerId", type := .scalar "INT64" },
      { name := .named "Title", type := .missing }]
    constraints := [{ body := .foreignKey {
      columns := [.named "SingerId"], referencedTable := ⟨[.named "Singers"]⟩ } }] }, none⟩
  let d : Draft := { tables := [{ name := "Singers" }], places := [("Singers", 0)] }
  have refused : (d.applyGapped albums).2 =
      some (.refusal (.columnType "Albums" "Title" false .missingType)) := by decide
  have run : applyAllGapped {} [singers, albums] =
      (d, some (.refusal (.columnType "Albums" "Title" false .missingType))) := by decide
  exact ⟨d, singers, albums, _, refused, refused_without_trace.1 d albums _ refused, run,
    (refused_without_trace.2 {} d [singers, albums] _).1 run⟩

end SpannerDdl.Draft
