import Mathlib.Data.List.Infix
import SpannerDdl.Grammar.Statement
import SpannerDdl.Proofs.Except
import SpannerDdl.Proofs.Grammar.SpelledParts

/-! # Which parenthesis closes a group

A group ends at the first parenthesis that closes more than was opened behind its beginning. Reading
with a counter finds just this one.

* `IsMatched ts`: tokens that close what they open, and nothing else.
* `IsGroup ts group rest`: a group at the front of tokens, what is in it and what is behind it.
* `closing_eq_some_iff`: what the counter finds, at any depth.
* `groupAt source ts pos`: the group at a place of a statement, or the error there.
* `groupAt_outcome`: it is read just if it is there; where errors are found. -/

set_option autoImplicit false

namespace SpannerDdl.Grammar

/-! ## Counting parentheses -/

/-- How many groups the tokens open. -/
def opened (ts : List Token) : Nat := ts.countP fun t => t.isPunct "("

/-- How many groups the tokens close. -/
def closed (ts : List Token) : Nat := ts.countP fun t => t.isPunct ")"

/-- Tokens that close a number of groups that were opened in front of them, and never more. -/
structure Closes (depth : Nat) (ts : List Token) : Prop where
  fronts : ∀ front, front <+: ts → closed front ≤ opened front + depth
  total : closed ts = opened ts + depth

/-- Tokens that close as many groups as they open, and none that they have not opened. -/
structure IsMatched (ts : List Token) : Prop where
  fronts : ∀ front, front <+: ts → closed front ≤ opened front
  total : closed ts = opened ts

instance : DecidablePred IsMatched := fun ts =>
  decidable_of_iff ((∀ front ∈ ts.inits, closed front ≤ opened front) ∧ closed ts = opened ts)
    ⟨fun h => ⟨fun front hf => h.1 front ((List.mem_inits front ts).2 hf), h.2⟩,
      fun h => ⟨fun front hf => h.fronts front ((List.mem_inits front ts).1 hf), h.total⟩⟩

theorem closes_zero_iff {ts : List Token} : Closes 0 ts ↔ IsMatched ts :=
  ⟨fun h => ⟨h.fronts, h.total⟩, fun h => ⟨h.fronts, h.total⟩⟩

section
variable {t : Token} {ts : List Token} {depth : Nat}

theorem opened_cons : opened (t :: ts) = opened ts + if t.isPunct "(" then 1 else 0 :=
  List.countP_cons

theorem closed_cons : closed (t :: ts) = closed ts + if t.isPunct ")" then 1 else 0 :=
  List.countP_cons

theorem not_closing_of_opening (h : t.isPunct "(" = true) : t.isPunct ")" = false := by
  rw [Token.isPunct_of_isPunct h]
  rfl

theorem not_opening_of_closing (h : t.isPunct ")" = true) : t.isPunct "(" = false := by
  rw [Token.isPunct_of_isPunct h]
  rfl

/-- A front of tokens is empty or has the first token in front of a front of the others. -/
theorem closes_cons_iff {depth' : Nat}
    (balance : (if t.isPunct "(" then 1 else 0) + depth =
      (if t.isPunct ")" then 1 else 0) + depth') :
    Closes depth (t :: ts) ↔ Closes depth' ts := by
  have step : ∀ us, closed (t :: us) + depth' + opened us =
      closed us + depth + opened (t :: us) := by
    intro us
    rw [opened_cons, closed_cons]
    omega
  constructor
  · intro h
    refine ⟨fun front hf => ?_, ?_⟩
    · have longer := h.fronts _ (List.cons_prefix_cons.2 ⟨rfl, hf⟩)
      have front := step front
      omega
    · have total := h.total
      have all := step ts
      omega
  · intro h
    refine ⟨fun front hf => ?_, ?_⟩
    · rcases List.prefix_cons_iff.1 hf with rfl | ⟨us, rfl, hus⟩
      · exact Nat.zero_le _
      · have shorter := h.fronts us hus
        have front := step us
        omega
    · have total := h.total
      have all := step ts
      omega

theorem closes_cons_of_opening (h : t.isPunct "(" = true) :
    Closes depth (t :: ts) ↔ Closes (depth + 1) ts := by
  refine closes_cons_iff ?_
  rw [h, not_closing_of_opening h]
  simp
  omega

theorem closes_cons_of_closing (h : t.isPunct ")" = true) :
    Closes (depth + 1) (t :: ts) ↔ Closes depth ts := by
  refine closes_cons_iff ?_
  rw [h, not_opening_of_closing h]
  simp
  omega

theorem closes_cons_of_other (ho : t.isPunct "(" = false) (hc : t.isPunct ")" = false) :
    Closes depth (t :: ts) ↔ Closes depth ts := by
  refine closes_cons_iff ?_
  rw [ho, hc]

/-- Where nothing is open, nothing can be closed. -/
theorem not_closes_zero_cons (h : t.isPunct ")" = true) : ¬Closes 0 (t :: ts) := by
  intro closes
  have first := closes.fronts [t] (List.cons_prefix_cons.2 ⟨rfl, List.nil_prefix⟩)
  rw [opened_cons, closed_cons, h, not_opening_of_closing h] at first
  simp [opened, closed] at first

end

/-! ## The parenthesis that closes a group -/

theorem map_cons_eq_some_iff {t : Token} {found : Option (List Token × List Token)}
    {group rest : List Token} :
    found.map (fun p => (t :: p.1, p.2)) = some (group, rest) ↔
      ∃ inner, group = t :: inner ∧ found = some (inner, rest) := by
  simp only [Option.map_eq_some_iff, Prod.exists, Prod.mk.injEq]
  constructor
  · rintro ⟨inner, rest', hf, rfl, rfl⟩
    exact ⟨inner, rfl, hf⟩
  · rintro ⟨inner, rfl, hf⟩
    exact ⟨inner, rest, hf, rfl, rfl⟩

/-- The first parenthesis behind which more than the groups that are open has been closed. -/
theorem closing_eq_some_iff {depth : Nat} {ts group rest : List Token} :
    closing depth ts = some (group, rest) ↔
      ∃ q, q.isPunct ")" = true ∧ ts = group ++ q :: rest ∧ Closes depth group := by
  induction ts generalizing depth group with
  | nil => simp [closing]
  | cons t ts ih =>
    -- A first token that is in the group: what is found behind it, at its depth.
    have inside : ∀ {d : Nat}, (∀ us, Closes depth (t :: us) ↔ Closes d us) →
        (t.isPunct ")" = true → ¬Closes depth []) →
        ((closing d ts).map (fun p => (t :: p.1, p.2)) = some (group, rest) ↔
          ∃ q, q.isPunct ")" = true ∧ t :: ts = group ++ q :: rest ∧ Closes depth group) := by
      intro d step notLast
      rw [map_cons_eq_some_iff]
      constructor
      · rintro ⟨inner, rfl, hi⟩
        obtain ⟨q, hq, rfl, closes⟩ := ih.1 hi
        exact ⟨q, hq, rfl, (step inner).2 closes⟩
      · rintro ⟨q, hq, split, closes⟩
        cases group with
        | nil =>
          obtain ⟨rfl, -⟩ := List.cons.inj split
          exact absurd closes (notLast hq)
        | cons g inner =>
          obtain ⟨rfl, rfl⟩ := List.cons.inj split
          exact ⟨inner, rfl, ih.2 ⟨q, hq, rfl, (step inner).1 closes⟩⟩
    simp only [closing]
    by_cases ho : t.isPunct "(" = true
    · rw [if_pos ho]
      refine inside (fun us => closes_cons_of_opening ho) fun hc => ?_
      rw [not_closing_of_opening ho] at hc
      cases hc
    · have ho' : t.isPunct "(" = false := Bool.eq_false_iff.2 ho
      rw [if_neg ho]
      by_cases hc : t.isPunct ")" = true
      · rw [if_pos hc]
        cases depth with
        | zero =>
          constructor
          · intro h
            cases h
            exact ⟨t, hc, rfl, fun front hf => by simp [List.prefix_nil.1 hf, closed], rfl⟩
          · rintro ⟨q, -, split, closes⟩
            cases group with
            | nil =>
              obtain ⟨-, rfl⟩ := List.cons.inj split
              rfl
            | cons g inner =>
              obtain ⟨rfl, -⟩ := List.cons.inj split
              exact absurd closes (not_closes_zero_cons hc)
        | succ depth =>
          refine inside (fun us => closes_cons_of_closing hc) fun _ closes => ?_
          have total := closes.total
          simp [closed, opened] at total
      · have hc' : t.isPunct ")" = false := Bool.eq_false_iff.2 hc
        rw [if_neg hc]
        exact inside (fun us => closes_cons_of_other ho' hc') fun h => absurd h hc

/-! ## Groups -/

/-- Tokens that begin with a group: an opening parenthesis, what is inside, and the parenthesis that
closes it. -/
def IsGroup (ts group rest : List Token) : Prop :=
  ∃ p q : Token, p.isPunct "(" = true ∧ q.isPunct ")" = true ∧
    ts = p :: group ++ q :: rest ∧ IsMatched group

theorem balanced_of_closing {t : Token} {ts : List Token} {found : List Token × List Token}
    (h : t.isPunct "(" = true) (hc : closing 0 ts = some found) :
    balanced (t :: ts) = .ok found := by
  simp [balanced, punct?, h, hc]

theorem balanced_of_no_closing {t : Token} {ts : List Token} (h : t.isPunct "(" = true)
    (hc : closing 0 ts = none) : balanced (t :: ts) = mismatch "')'" [] := by
  simp [balanced, punct?, h, hc]

theorem balanced_of_no_opening {ts : List Token} (h : ∀ t ∈ ts.head?, t.isPunct "(" = false) :
    balanced ts = mismatch "'('" ts := by
  cases ts with
  | nil => rfl
  | cons t ts => simp [balanced, punct?, h t rfl]

theorem balanced_eq_ok_iff {ts group rest : List Token} :
    balanced ts = .ok (group, rest) ↔ IsGroup ts group rest := by
  constructor
  · intro h
    cases ts with
    | nil => cases h
    | cons p ts =>
      by_cases hp : p.isPunct "(" = true
      · cases hc : closing 0 ts with
        | none =>
          rw [balanced_of_no_closing hp hc] at h
          cases h
        | some found =>
          rw [balanced_of_closing hp hc] at h
          cases h
          obtain ⟨q, hq, rfl, closes⟩ := closing_eq_some_iff.1 hc
          exact ⟨p, q, hp, hq, rfl, closes_zero_iff.1 closes⟩
      · have none : ∀ t ∈ (p :: ts).head?, t.isPunct "(" = false := by
          intro t ht
          cases ht
          exact Bool.eq_false_iff.2 hp
        rw [balanced_of_no_opening none] at h
        cases h
  · rintro ⟨p, q, hp, hq, rfl, matched⟩
    have found : closing 0 (group ++ q :: rest) = some (group, rest) :=
      closing_eq_some_iff.2 ⟨q, hq, rfl, closes_zero_iff.2 matched⟩
    rw [List.cons_append, balanced_of_closing hp found]

theorem balanced_of_unclosed {t : Token} {ts : List Token} (h : t.isPunct "(" = true)
    (unclosed : ∀ group rest, ¬IsGroup (t :: ts) group rest) :
    balanced (t :: ts) = mismatch "')'" [] := by
  cases hc : closing 0 ts with
  | none => exact balanced_of_no_closing h hc
  | some found => exact absurd (balanced_eq_ok_iff.1 (balanced_of_closing h hc)) (unclosed _ _)

/-! ## Groups in a statement -/

/-- The group at a place among the tokens of a statement, and the tokens behind it. -/
def groupAt (source : String) (ts : List Token) (pos : Nat) :
    Except SourceError (List Token × List Token) :=
  (balanced (ts.drop pos)).mapError fun m => m.sourceError ts source

section
variable {source : String} {ts : List Token} {pos : Nat}

theorem groupAt_eq_ok_iff {group rest : List Token} :
    groupAt source ts pos = .ok (group, rest) ↔ IsGroup (ts.drop pos) group rest :=
  mapError_eq_ok_iff.trans balanced_eq_ok_iff

theorem groupAt_of_mismatch {m : Mismatch} (h : balanced (ts.drop pos) = .error m) :
    groupAt source ts pos = .error (m.sourceError ts source) := by
  rw [groupAt, h]
  rfl

end

/-- A group is read just if it is there, up to the parenthesis that closes it. Otherwise there is an
error: at the token in place of its beginning, which is the last token behind the end, or at the
last token where the group is not closed. -/
theorem groupAt_outcome (source : String) (ts : List Token) (pos : Nat) :
    (∀ group rest, groupAt source ts pos = .ok (group, rest) ↔ IsGroup (ts.drop pos) group rest) ∧
    (∀ t, ts[pos]? = some t → t.isPunct "(" = false →
      groupAt source ts pos =
        .error { fault := .expected "'('" (some t), source, line := t.line, col := t.col }) ∧
    (ts[pos]? = none →
      groupAt source ts pos =
        .error { fault := .expected "'('" none, source
                 line := (ts.getLast?.map Token.line).getD 0
                 col := (ts.getLast?.map Token.col).getD 0 }) ∧
    (∀ t, ts[pos]? = some t → t.isPunct "(" = true →
      (∀ group rest, ¬IsGroup (ts.drop pos) group rest) →
      ∃ last, ts.getLast? = some last ∧
        groupAt source ts pos = .error {
          fault := .expected "')'" none, source, line := last.line, col := last.col }) := by
  have head : (ts.drop pos).head? = ts[pos]? := List.head?_drop
  refine ⟨fun _ _ => groupAt_eq_ok_iff, ?other, ?behind, ?unclosed⟩
  case other =>
    intro t ht ho
    have first : ∀ t' ∈ (ts.drop pos).head?, t'.isPunct "(" = false := by
      intro t' ht'
      rw [head, ht] at ht'
      cases ht'
      exact ho
    rw [groupAt_of_mismatch (balanced_of_no_opening first), Mismatch.sourceError, head, ht]
    rfl
  case behind =>
    intro he
    have first : ∀ t' ∈ (ts.drop pos).head?, t'.isPunct "(" = false := by
      intro t' ht'
      rw [head, he] at ht'
      cases ht'
    rw [groupAt_of_mismatch (balanced_of_no_opening first), Mismatch.sourceError, head, he]
    cases ts.getLast? with
    | none => rfl
    | some last => rfl
  case unclosed =>
    intro t ht ho unclosed
    obtain ⟨behind, hd⟩ : ∃ behind, ts.drop pos = t :: behind := by
      rw [← head] at ht
      exact List.head?_eq_some_iff.1 ht
    rw [hd] at unclosed
    have failed : balanced (ts.drop pos) = mismatch "')'" [] := by
      rw [hd]
      exact balanced_of_unclosed ho unclosed
    have ne : ts ≠ [] := by
      rintro rfl
      cases ht
    refine ⟨ts.getLast ne, List.getLast?_eq_some_getLast ne, ?_⟩
    rw [groupAt_of_mismatch failed, Mismatch.sourceError, List.getLast?_eq_some_getLast ne]
    rfl

/-- A check on a column with the name of a parenthesis. -/
def parenthesisNamed : List Token := [
  { kind := .word, text := "CHECK", line := 1, col := 5 },
  { kind := .punct, text := "(", line := 1, col := 7 },
  { kind := .punct, text := "(", line := 1, col := 8 },
  { kind := .ident, text := ")", line := 1, col := 11 },
  { kind := .punct, text := ")", line := 1, col := 12 },
  { kind := .punct, text := ")", line := 1, col := 13 },
  { kind := .punct, text := ")", line := 1, col := 14 }]

theorem groupAt_of_parenthesisNamed :
    groupAt "" parenthesisNamed 1 =
      .ok ((parenthesisNamed.drop 2).take 3, parenthesisNamed.drop 6) ∧
    groupAt "" parenthesisNamed 0 = .error {
      fault := .expected "'('" parenthesisNamed.head?, source := "", line := 1, col := 5 } ∧
    groupAt "" parenthesisNamed 7 = .error {
      fault := .expected "'('" none, source := "", line := 1, col := 14 } ∧
    groupAt "" (parenthesisNamed.take 4) 1 = .error {
      fault := .expected "')'" none, source := "", line := 1, col := 11 } := by
  obtain ⟨read, -, -, -⟩ := groupAt_outcome "" parenthesisNamed 1
  obtain ⟨-, other, -, -⟩ := groupAt_outcome "" parenthesisNamed 0
  obtain ⟨-, -, behind, -⟩ := groupAt_outcome "" parenthesisNamed 7
  obtain ⟨-, -, -, unclosed⟩ := groupAt_outcome "" (parenthesisNamed.take 4) 1
  have nothingCloses : ∀ t ∈ (parenthesisNamed.take 4).drop 1, t.isPunct ")" = false := by decide
  have noGroup : ∀ group rest, ¬IsGroup ((parenthesisNamed.take 4).drop 1) group rest := by
    rintro group rest ⟨p, q, -, hq, split, -⟩
    have mem : q ∈ (parenthesisNamed.take 4).drop 1 := by
      rw [split]
      simp
    rw [nothingCloses q mem] at hq
    cases hq
  obtain ⟨last, hl, failed⟩ := unclosed _ rfl (by decide) noGroup
  cases hl
  exact ⟨(read _ _).2 ⟨_, _, rfl, rfl, rfl, by decide⟩, other _ rfl (by decide), behind rfl, failed⟩

end SpannerDdl.Grammar
