import SpannerDdl.Statement.Basic
import SpannerDdl.Token.Lexer

/-! # Reading statements from tokens

The grammar is read by recursive descent: each function takes the tokens that are left of a
statement and gives what it read and the tokens behind it.

* `Mismatch`: what the grammar asked for and the tokens that were left there.
* `keywords?`, `punct?`: keywords and punctuation at the front, if they are there.
* `ident`, `path`, `identList`, `keyList`: names and lists of names.
* `balanced`: the tokens inside a pair of parentheses.
-/

set_option autoImplicit false

namespace SpannerDdl.Grammar

/-- What the grammar asked for and the tokens that were left there. -/
structure Mismatch where
  expected : String
  rest : List Token
  deriving DecidableEq, Repr

/-- The failure to find something at the front of the tokens. -/
def mismatch {α : Type} (expected : String) (ts : List Token) : Except Mismatch α :=
  .error ⟨expected, ts⟩

theorem ok_bind {α β : Type} (a : α) (f : α → Except Mismatch β) : (.ok a >>= f) = f a := rfl

theorem exists_of_bind {α β : Type} {x : Except Mismatch α} {f : α → Except Mismatch β} {b : β}
    (h : (x >>= f) = .ok b) : ∃ a, x = .ok a ∧ f a = .ok b := by
  cases x with
  | error e => simp [bind, Except.bind] at h
  | ok a => exact ⟨a, rfl, h⟩

theorem exists_of_map {α β : Type} {x : Except Mismatch α} {f : α → β} {b : β}
    (h : x.map f = .ok b) : ∃ a, x = .ok a ∧ f a = b := by
  cases x with
  | error e => simp [Except.map] at h
  | ok a => exact ⟨a, rfl, by simpa [Except.map] using h⟩

/-! ## Keywords and punctuation -/

/-- The tokens behind the given keywords, if these come first. -/
def keywords? : List String → List Token → Option (List Token)
  | [], ts => some ts
  | _ :: _, [] => none
  | word :: words, t :: ts => if t.isKeyword word then keywords? words ts else none

/-- Whether the given keywords come first. -/
def atKeywords (words : List String) (ts : List Token) : Bool := (keywords? words ts).isSome

/-- Whether the given keywords come first, and the tokens behind them if they do. -/
def accept (words : List String) (ts : List Token) : Bool × List Token :=
  match keywords? words ts with
  | some rest => (true, rest)
  | none => (false, ts)

/-- The tokens behind the given keywords, which have to come first. -/
def expectKeywords (words : List String) (ts : List Token) : Except Mismatch (List Token) :=
  match keywords? words ts with
  | some rest => .ok rest
  | none => mismatch (" ".intercalate words) ts

/-- The tokens behind the given punctuation, if it comes first. -/
def punct? (text : String) : List Token → Option (List Token)
  | [] => none
  | t :: ts => if t.isPunct text then some ts else none

/-- Whether the given punctuation comes first. -/
def atPunct (text : String) (ts : List Token) : Bool := (punct? text ts).isSome

/-- The tokens behind the given punctuation, which has to come first. -/
def expectPunct (text : String) (ts : List Token) : Except Mismatch (List Token) :=
  match punct? text ts with
  | some rest => .ok rest
  | none => mismatch ("'" ++ text ++ "'") ts

theorem length_of_keywords? {words : List String} {ts rest : List Token}
    (h : keywords? words ts = some rest) : rest.length + words.length = ts.length := by
  induction words generalizing ts with
  | nil => simp only [keywords?, Option.some.injEq] at h; subst h; simp
  | cons word words ih =>
    cases ts with
    | nil => simp [keywords?] at h
    | cons t ts =>
      unfold keywords? at h
      split at h
      · have s1 := ih h
        simp only [List.length_cons]; omega
      · simp at h

theorem length_of_punct? {text : String} {ts rest : List Token} (h : punct? text ts = some rest) :
    rest.length + 1 = ts.length := by
  cases ts with
  | nil => simp [punct?] at h
  | cons t ts =>
    simp only [punct?] at h
    split at h
    · simp only [Option.some.injEq] at h; subst h; simp
    · simp at h

theorem length_of_accept_le (words : List String) (ts : List Token) :
    (accept words ts).2.length ≤ ts.length := by
  unfold accept
  split
  · rename_i rest h
    have s1 := length_of_keywords? h
    show rest.length ≤ ts.length
    omega
  · exact Nat.le_refl _

theorem length_of_expectPunct {text : String} {ts rest : List Token}
    (h : expectPunct text ts = .ok rest) : rest.length + 1 = ts.length := by
  unfold expectPunct at h
  split at h
  · rename_i r hr
    simp only [Except.ok.injEq] at h
    subst h
    exact length_of_punct? hr
  · simp [mismatch] at h

theorem length_of_expectKeywords {words : List String} {ts rest : List Token}
    (h : expectKeywords words ts = .ok rest) : rest.length + words.length = ts.length := by
  unfold expectKeywords at h
  split at h
  · rename_i r hr
    simp only [Except.ok.injEq] at h
    subst h
    exact length_of_keywords? hr
  · simp [mismatch] at h

/-! ## Names -/

/-- The identifier a token stands for. Any word will do, keywords included. -/
def ident? (t : Token) : Option Ident :=
  if t.kind = .word ∨ t.kind = .ident then some (.named t.text) else none

/-- An identifier. -/
def ident : List Token → Except Mismatch (Ident × List Token)
  | [] => mismatch "identifier" []
  | t :: ts =>
    match ident? t with
    | some i => .ok (i, ts)
    | none => mismatch "identifier" (t :: ts)

theorem length_of_ident {ts rest : List Token} {i : Ident} (h : ident ts = .ok (i, rest)) :
    rest.length + 1 = ts.length := by
  cases ts with
  | nil => simp [ident, mismatch] at h
  | cons t ts =>
    simp only [ident] at h
    split at h
    · simp only [Except.ok.injEq, Prod.mk.injEq] at h
      obtain ⟨_, rfl⟩ := h
      simp
    · simp [mismatch] at h

/-- Further identifiers, each behind a separator. -/
def identsBehind (separator : String) : List Token → Except Mismatch (List Ident × List Token)
  | [] => .ok ([], [])
  | [s] => if s.isPunct separator then mismatch "identifier" [] else .ok ([], [s])
  | s :: t :: ts =>
    if s.isPunct separator then
      match ident? t with
      | none => mismatch "identifier" (t :: ts)
      | some i => (identsBehind separator ts).map fun p => (i :: p.1, p.2)
    else .ok ([], s :: t :: ts)

/-- One or more identifiers with separators between them. -/
def idents (separator : String) (ts : List Token) : Except Mismatch (List Ident × List Token) := do
  let (first, ts) ← ident ts
  let (others, ts) ← identsBehind separator ts
  return (first :: others, ts)

theorem length_of_identsBehind {separator : String} {ts rest : List Token} {names : List Ident}
    (h : identsBehind separator ts = .ok (names, rest)) : rest.length ≤ ts.length := by
  fun_induction identsBehind separator ts generalizing names rest with
  | case1 => simp only [Except.ok.injEq, Prod.mk.injEq] at h; obtain ⟨_, rfl⟩ := h; simp
  | case2 => simp [mismatch] at h
  | case3 => simp only [Except.ok.injEq, Prod.mk.injEq] at h; obtain ⟨_, rfl⟩ := h; simp
  | case4 => simp [mismatch] at h
  | case5 s t ts hs i hi ih =>
    obtain ⟨p, h1, h2⟩ := exists_of_map h
    simp only [Prod.mk.injEq] at h2
    obtain ⟨_, rfl⟩ := h2
    have s1 := ih h1
    simp only [List.length_cons]; omega
  | case6 => simp only [Except.ok.injEq, Prod.mk.injEq] at h; obtain ⟨_, rfl⟩ := h; simp

theorem length_of_idents {separator : String} {ts rest : List Token} {names : List Ident}
    (h : idents separator ts = .ok (names, rest)) : rest.length < ts.length := by
  obtain ⟨⟨i, ts1⟩, h1, h⟩ := exists_of_bind h
  obtain ⟨⟨is, ts2⟩, h2, h⟩ := exists_of_bind h
  simp only [pure, Except.pure, Except.ok.injEq, Prod.mk.injEq] at h
  obtain ⟨_, rfl⟩ := h
  have s1 := length_of_ident h1
  have s2 := length_of_identsBehind h2
  omega

/-- A dotted name. -/
def path (ts : List Token) : Except Mismatch (Path × List Token) := do
  let (names, ts) ← idents "." ts
  return (⟨names⟩, ts)

theorem length_of_path {ts rest : List Token} {p : Path} (h : path ts = .ok (p, rest)) :
    rest.length < ts.length := by
  obtain ⟨⟨is, ts1⟩, h1, h⟩ := exists_of_bind h
  simp only [pure, Except.pure, Except.ok.injEq, Prod.mk.injEq] at h
  obtain ⟨_, rfl⟩ := h
  exact length_of_idents h1

/-- Identifiers with commas between them up to a closing parenthesis. -/
def identsInside (ts : List Token) : Except Mismatch (List Ident × List Token) :=
  if atPunct ")" ts then .ok ([], ts) else idents "," ts

/-- Identifiers in parentheses, of which there may be none. -/
def identList (ts : List Token) : Except Mismatch (List Ident × List Token) := do
  let ts ← expectPunct "(" ts
  let (names, ts) ← identsInside ts
  let ts ← expectPunct ")" ts
  return (names, ts)

theorem length_of_identList {ts rest : List Token} {names : List Ident}
    (h : identList ts = .ok (names, rest)) : rest.length < ts.length := by
  obtain ⟨ts1, h1, h⟩ := exists_of_bind h
  obtain ⟨⟨is, ts2⟩, h2, h⟩ := exists_of_bind h
  obtain ⟨ts3, h3, h⟩ := exists_of_bind h
  simp only [pure, Except.pure, Except.ok.injEq, Prod.mk.injEq] at h
  obtain ⟨_, rfl⟩ := h
  have s1 := length_of_expectPunct h1
  have s3 := length_of_expectPunct h3
  unfold identsInside at h2
  split at h2
  · simp only [Except.ok.injEq, Prod.mk.injEq] at h2
    obtain ⟨_, rfl⟩ := h2
    omega
  · have s2 := length_of_idents h2
    omega

/-! ## Keys -/

/-- A direction, if one comes first. -/
def direction? : List Token → Option Direction × List Token
  | [] => (none, [])
  | t :: ts =>
    if t.isKeyword "ASC" then (some .asc, ts)
    else if t.isKeyword "DESC" then (some .desc, ts)
    else (none, t :: ts)

theorem length_of_direction?_le (ts : List Token) : (direction? ts).2.length ≤ ts.length := by
  unfold direction?
  split
  · simp
  · split
    · simp
    · split
      · simp
      · simp

/-- A key column. -/
def keyPart (ts : List Token) : Except Mismatch (KeyPart × List Token) := do
  let (name, ts) ← ident ts
  let (direction, ts) := direction? ts
  return (⟨name, direction⟩, ts)

theorem length_of_keyPart {ts rest : List Token} {k : KeyPart} (h : keyPart ts = .ok (k, rest)) :
    rest.length < ts.length := by
  obtain ⟨⟨i, ts1⟩, h1, h⟩ := exists_of_bind h
  simp only [pure, Except.pure, Except.ok.injEq, Prod.mk.injEq] at h
  obtain ⟨_, rfl⟩ := h
  have s1 := length_of_ident h1
  have s2 := length_of_direction?_le ts1
  omega

/-- One or more key columns with commas between them. -/
def keyParts (ts : List Token) : Except Mismatch (List KeyPart × List Token) :=
  match h : keyPart ts with
  | .error e => .error e
  | .ok (key, ts1) =>
    match hc : punct? "," ts1 with
    | none => .ok ([key], ts1)
    | some ts2 =>
      have := length_of_keyPart h
      have := length_of_punct? hc
      (keyParts ts2).map fun p => (key :: p.1, p.2)
termination_by ts.length

/-- The recursion of `keyParts` without its measure. -/
theorem keyParts_eq (ts : List Token) : keyParts ts = (do
    let (key, ts) ← keyPart ts
    match punct? "," ts with
    | none => .ok ([key], ts)
    | some ts => (keyParts ts).map fun p => (key :: p.1, p.2)) := by
  rw [keyParts]
  split
  · rename_i e h
    rw [h]
    rfl
  · rename_i key ts1 h
    simp only [h, bind, Except.bind]
    split
    · rename_i hc
      simp only [hc]
    · rename_i ts2 hc
      simp only [hc]

/-- Key columns with commas between them up to a closing parenthesis. -/
def keysInside (ts : List Token) : Except Mismatch (List KeyPart × List Token) :=
  if atPunct ")" ts then .ok ([], ts) else keyParts ts

/-- Key columns in parentheses, of which there may be none. -/
def keyList (ts : List Token) : Except Mismatch (List KeyPart × List Token) := do
  let ts ← expectPunct "(" ts
  let (keys, ts) ← keysInside ts
  let ts ← expectPunct ")" ts
  return (keys, ts)

/-! ## Groups in parentheses -/

/-- The tokens up to the parenthesis that closes a group, and those behind it. Inside the group,
`depth` more parentheses are open. -/
def closing : Nat → List Token → Option (List Token × List Token)
  | _, [] => none
  | depth, t :: ts =>
    if t.isPunct "(" then (closing (depth + 1) ts).map fun p => (t :: p.1, p.2)
    else if t.isPunct ")" then
      match depth with
      | 0 => some ([], ts)
      | depth + 1 => (closing depth ts).map fun p => (t :: p.1, p.2)
    else (closing depth ts).map fun p => (t :: p.1, p.2)

theorem length_of_closing {depth : Nat} {ts group rest : List Token}
    (h : closing depth ts = some (group, rest)) : group.length + rest.length + 1 = ts.length := by
  induction ts generalizing depth group rest with
  | nil => simp [closing] at h
  | cons t ts ih =>
    have lift : ∀ {d : Nat}, ((closing d ts).map fun p => (t :: p.1, p.2)) = some (group, rest) →
        group.length + rest.length + 1 = (t :: ts).length := by
      intro d hm
      simp only [Option.map_eq_some_iff, Prod.exists, Prod.mk.injEq] at hm
      obtain ⟨g, r, hg, rfl, rfl⟩ := hm
      have s1 := ih hg
      simp only [List.length_cons]; omega
    simp only [closing] at h
    split at h
    · exact lift h
    · split at h
      · cases depth with
        | zero =>
          simp only [Option.some.injEq, Prod.mk.injEq] at h
          obtain ⟨rfl, rfl⟩ := h
          simp
        | succ depth => exact lift h
      · exact lift h

/-- The tokens inside a pair of parentheses. -/
def balanced (ts : List Token) : Except Mismatch (List Token × List Token) :=
  match punct? "(" ts with
  | none => mismatch "'('" ts
  | some ts1 =>
    match closing 0 ts1 with
    | none => mismatch "')'" []
    | some found => .ok found

theorem length_of_balanced {ts group rest : List Token} (h : balanced ts = .ok (group, rest)) :
    group.length + rest.length + 2 = ts.length := by
  unfold balanced at h
  split at h
  · simp [mismatch] at h
  · rename_i ts1 h1
    split at h
    · simp [mismatch] at h
    · rename_i found h2
      simp only [Except.ok.injEq] at h
      subst h
      have s1 := length_of_punct? h1
      have s2 := length_of_closing h2
      omega

/-- The text of the tokens inside a pair of parentheses. -/
def balancedText (ts : List Token) : Except Mismatch (String × List Token) :=
  (balanced ts).map fun p => (Token.renderAll p.1, p.2)

end SpannerDdl.Grammar
