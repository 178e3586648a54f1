import SpannerDdl.Grammar.Basic

/-! # Sizes and column types

* `scalarTypes`: the types that stand alone.
* `intValue`: a number, a parameter, or a cast of either.
* `columnType`: an array, a sized type, a scalar type, or the path of any other type.
-/

set_option autoImplicit false

namespace SpannerDdl.Grammar

/-- The types that stand alone. -/
def scalarTypes : List String :=
  ["BOOL", "BYTES", "DATE", "FLOAT32", "FLOAT64", "INT64", "INTERVAL", "JSON", "NUMERIC", "STRING",
   "TIMESTAMP", "TOKENLIST", "UUID"]

/-- The name of a parameter written as one word with its at sign. -/
def paramName? (t : Token) : Option String :=
  match t.kind, t.text.toList with
  | .word, '@' :: c :: cs => some (String.ofList (c :: cs))
  | _, _ => none

/-- Whether the token is an at sign. -/
def isAt (t : Token) : Bool := (t.kind == .punct || t.kind == .word) && t.text == "@"

/-- A size or a number of days. -/
def intValue : List Token → Except Mismatch (IntValue × List Token)
  | [] => mismatch "integer value" []
  | t :: ts =>
    if t.kind = .number then .ok (.literal t.text, ts)
    else if isAt t then do
      let (name, rest) ← ident ts
      return (.param name.name, rest)
    else match paramName? t with
      | some name => .ok (.param name, ts)
      | none =>
        if t.isKeyword "CAST" then
          match ts with
          | [] => mismatch "'('" []
          | p :: inside =>
            if p.isPunct "(" then do
              let (value, rest) ← intValue inside
              let rest ← expectKeywords ["AS"] rest
              let (_, rest) ← ident rest
              let rest ← expectPunct ")" rest
              return (.cast value, rest)
            else mismatch "'('" (p :: inside)
        else mismatch "integer value" (t :: ts)

theorem length_of_intValue {ts rest : List Token} {v : IntValue}
    (h : intValue ts = .ok (v, rest)) : rest.length < ts.length := by
  fun_induction intValue ts generalizing v rest with
  | case1 => simp [mismatch] at h
  | case2 t ts hn =>
    simp only [Except.ok.injEq, Prod.mk.injEq] at h
    obtain ⟨_, rfl⟩ := h
    simp
  | case3 t ts hn ha =>
    obtain ⟨⟨i, ts1⟩, h1, h⟩ := exists_of_bind h
    simp only [pure, Except.pure, Except.ok.injEq, Prod.mk.injEq] at h
    obtain ⟨_, rfl⟩ := h
    have s1 := length_of_ident h1
    simp only [List.length_cons]; omega
  | case4 t ts hn ha name hp =>
    simp only [Except.ok.injEq, Prod.mk.injEq] at h
    obtain ⟨_, rfl⟩ := h
    simp
  | case5 => simp [mismatch] at h
  | case6 t hn ha hp hc p inside hp' ih =>
    obtain ⟨⟨i, ts1⟩, h1, h⟩ := exists_of_bind h
    obtain ⟨ts2, h2, h⟩ := exists_of_bind h
    obtain ⟨⟨j, ts3⟩, h3, h⟩ := exists_of_bind h
    obtain ⟨ts4, h4, h⟩ := exists_of_bind h
    simp only [pure, Except.pure, Except.ok.injEq, Prod.mk.injEq] at h
    obtain ⟨_, rfl⟩ := h
    have s1 := ih h1
    have s2 := length_of_expectKeywords h2
    have s3 := length_of_ident h3
    have s4 := length_of_expectPunct h4
    simp only [List.length_cons]; omega
  | case7 => simp [mismatch] at h
  | case8 => simp [mismatch] at h

/-- An arrow, as one token or as two. -/
def arrow (ts : List Token) : Except Mismatch (List Token) :=
  match punct? "=>" ts with
  | some rest => .ok rest
  | none => do
    let rest ← expectPunct "=" ts
    expectPunct ">" rest

/-- The tokens behind `(vector_length`, if these come first. -/
def vectorLengthStart? (ts : List Token) : Option (List Token) :=
  match punct? "(" ts with
  | some rest => keywords? ["VECTOR_LENGTH"] rest
  | none => none

/-- The length clause of an array, if it comes first. -/
def vectorLength (ts : List Token) : Except Mismatch (IntValue × List Token) :=
  match vectorLengthStart? ts with
  | none => .ok (.missing, ts)
  | some rest => do
    let rest ← arrow rest
    let (value, rest) ← intValue rest
    let rest ← expectPunct ")" rest
    return (value, rest)

theorem length_of_arrow {ts rest : List Token} (h : arrow ts = .ok rest) :
    rest.length < ts.length := by
  unfold arrow at h
  split at h
  · rename_i r hr
    simp only [Except.ok.injEq] at h
    subst h
    have s1 := length_of_punct? hr
    omega
  · obtain ⟨ts1, h1, h⟩ := exists_of_bind h
    have s1 := length_of_expectPunct h1
    have s2 := length_of_expectPunct h
    omega

theorem length_of_vectorLength {ts rest : List Token} {v : IntValue}
    (h : vectorLength ts = .ok (v, rest)) : rest.length ≤ ts.length := by
  unfold vectorLength at h
  split at h
  · simp only [Except.ok.injEq, Prod.mk.injEq] at h
    obtain ⟨_, rfl⟩ := h
    exact Nat.le_refl _
  · rename_i r hr
    have s0 : r.length ≤ ts.length := by
      unfold vectorLengthStart? at hr
      split at hr
      · rename_i r' hr'
        have s1 := length_of_punct? hr'
        have s2 := length_of_keywords? hr
        simp only [List.length_cons, List.length_nil] at s2
        omega
      · simp at hr
    obtain ⟨ts1, h1, h⟩ := exists_of_bind h
    obtain ⟨⟨i, ts2⟩, h2, h⟩ := exists_of_bind h
    obtain ⟨ts3, h3, h⟩ := exists_of_bind h
    simp only [pure, Except.pure, Except.ok.injEq, Prod.mk.injEq] at h
    obtain ⟨_, rfl⟩ := h
    have s1 := length_of_arrow h1
    have s2 := length_of_intValue h2
    have s3 := length_of_expectPunct h3
    omega

/-- The size of a sized type, whose opening parenthesis has been read. -/
def sizedType (name : String) (ts : List Token) : Except Mismatch (ColumnType × List Token) :=
  match keywords? ["MAX"] ts with
  | some rest => do
    let rest ← expectPunct ")" rest
    return (.sized name true .missing, rest)
  | none => do
    let (size, rest) ← intValue ts
    let rest ← expectPunct ")" rest
    return (.sized name false size, rest)

/-- A type that is not an array, whose path has been read. -/
def namedType (p : Path) (ts : List Token) : Except Mismatch (ColumnType × List Token) :=
  match p.idents with
  | [i] =>
    let name := Text.upper i.name
    match punct? "(" ts with
    | some rest => sizedType name rest
    | none => .ok (if scalarTypes.contains name then .scalar name else .named p.idents, ts)
  | _ => .ok (.named p.idents, ts)

theorem length_of_sizedType {name : String} {ts rest : List Token} {t : ColumnType}
    (h : sizedType name ts = .ok (t, rest)) : rest.length < ts.length := by
  unfold sizedType at h
  split at h
  · rename_i r hr
    obtain ⟨ts1, h1, h⟩ := exists_of_bind h
    simp only [pure, Except.pure, Except.ok.injEq, Prod.mk.injEq] at h
    obtain ⟨_, rfl⟩ := h
    have s0 := length_of_keywords? hr
    have s1 := length_of_expectPunct h1
    omega
  · obtain ⟨⟨i, ts1⟩, h1, h⟩ := exists_of_bind h
    obtain ⟨ts2, h2, h⟩ := exists_of_bind h
    simp only [pure, Except.pure, Except.ok.injEq, Prod.mk.injEq] at h
    obtain ⟨_, rfl⟩ := h
    have s1 := length_of_intValue h1
    have s2 := length_of_expectPunct h2
    omega

theorem length_of_namedType {p : Path} {ts rest : List Token} {t : ColumnType}
    (h : namedType p ts = .ok (t, rest)) : rest.length ≤ ts.length := by
  unfold namedType at h
  split at h
  · simp only at h
    split at h
    · rename_i r hr
      have s1 := length_of_punct? hr
      have s2 := length_of_sizedType h
      omega
    · simp only [Except.ok.injEq, Prod.mk.injEq] at h
      obtain ⟨_, rfl⟩ := h
      exact Nat.le_refl _
  · simp only [Except.ok.injEq, Prod.mk.injEq] at h
    obtain ⟨_, rfl⟩ := h
    exact Nat.le_refl _

/-- A column type. -/
def columnType : List Token → Except Mismatch (ColumnType × List Token)
  | [] => mismatch "identifier" []
  | t :: ts =>
    if t.isKeyword "ARRAY" then
      match ts with
      | [] => mismatch "'<'" []
      | p :: inside =>
        if p.isPunct "<" then do
          let (item, rest) ← columnType inside
          let rest ← expectPunct ">" rest
          let (length, rest) ← vectorLength rest
          return (.array item length, rest)
        else mismatch "'<'" (p :: inside)
    else do
      let (p, rest) ← path (t :: ts)
      namedType p rest

theorem length_of_columnType {ts rest : List Token} {t : ColumnType}
    (h : columnType ts = .ok (t, rest)) : rest.length < ts.length := by
  fun_induction columnType ts generalizing t rest with
  | case1 => simp [mismatch] at h
  | case2 => simp [mismatch] at h
  | case3 t hk p inside hp ih =>
    obtain ⟨⟨i, ts1⟩, h1, h⟩ := exists_of_bind h
    obtain ⟨ts2, h2, h⟩ := exists_of_bind h
    obtain ⟨⟨j, ts3⟩, h3, h⟩ := exists_of_bind h
    simp only [pure, Except.pure, Except.ok.injEq, Prod.mk.injEq] at h
    obtain ⟨_, rfl⟩ := h
    have s1 := ih h1
    have s2 := length_of_expectPunct h2
    have s3 := length_of_vectorLength h3
    simp only [List.length_cons]; omega
  | case4 => simp [mismatch] at h
  | case5 t ts hk =>
    obtain ⟨⟨p, ts1⟩, h1, h⟩ := exists_of_bind h
    have s1 := length_of_path h1
    have s2 := length_of_namedType h
    omega

end SpannerDdl.Grammar
