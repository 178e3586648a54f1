import SpannerDdl.Proofs.Cursor.Names

/-! # Sizes and column types by a cursor

The readers of sizes and of types call themselves. Each call is noted with the place where it
begins. -/

set_option autoImplicit false

namespace SpannerDdl.Reading

open Grammar

variable {c : Cursor}

/-! ## Sizes -/

/-- How a size that begins with the token is read, if it is no cast. -/
def plainValue? (t : Token) : Option (Reading IntValue) :=
  if t.kind = .number then some do
    let _ ← next
    return .literal t.text
  else if isAt t then some do
    let _ ← next
    return .param (← ident).name
  else (paramName? t).map fun name => do
    let _ ← next
    return .param name

end SpannerDdl.Reading

namespace SpannerDdl.Cursor

open Reading

/-- A size or a number of days, read from the cursor on. -/
def intValue (c : Cursor) : Reading IntValue := do
  Reading.note .intValue c.place
  match c.peek.bind plainValue? with
  | some read => read
  | none => do
    if ← accept ["CAST"] then do
      expectPunct "("
      let value ← (← get) |>.intValue
      expect ["AS"]
      let _ ← ident
      expectPunct ")"
      return .cast value
    else fail "integer value"
partial_fixpoint

end SpannerDdl.Cursor

namespace SpannerDdl.Reading

open Grammar

variable {c : Cursor}

/-- A size or a number of days. -/
def intValue : Reading IntValue := do (← get).intValue

/-- A size that begins with a token by which it is known. -/
theorem follows_plainValue (hc : c.Sound) {t : Token} {ts : List Token} (hl : c.left = t :: ts)
    {read : Reading IntValue} (h : plainValue? t = some read) :
    Follows c read (Grammar.intValue (t :: ts)) := by
  rw [Grammar.intValue.eq_def]
  dsimp only
  unfold plainValue? at h
  split at h
  · next hn =>
    cases h
    rw [if_pos hn]
    exact .skip hc hl fun _ hc' h' => .pure_of_left hc' h'
  next hn =>
  rw [if_neg hn]
  split at h
  · next ha =>
    cases h
    rw [if_pos ha]
    refine .skip hc hl fun c' hc' h' => ?_
    rw [← h']
    exact (follows_ident hc'.toSound).bind fun name c2 hc2 _ => .pure hc2
  next ha =>
  rw [if_neg ha]
  obtain ⟨name, hp, rfl⟩ := Option.map_eq_some_iff.1 h
  rw [hp]
  exact .skip hc hl fun _ hc' h' => .pure_of_left hc' h'

/-- A size that begins with a token by which it is not known is a cast. -/
theorem intValue_of_no_plainValue {ts : List Token} (h : ts.head?.bind plainValue? = none) :
    Grammar.intValue ts = match keywords? ["CAST"] ts with
      | some rest => do
        let rest ← Grammar.expectPunct "(" rest
        let (value, rest) ← Grammar.intValue rest
        let rest ← expectKeywords ["AS"] rest
        let (_, rest) ← Grammar.ident rest
        let rest ← Grammar.expectPunct ")" rest
        return (.cast value, rest)
      | none => mismatch "integer value" ts := by
  cases ts with
  | nil => rfl
  | cons t ts =>
    rw [List.head?_cons, Option.bind_some, plainValue?] at h
    split at h
    · cases h
    next hn =>
    split at h
    · cases h
    next ha =>
    rw [Grammar.intValue.eq_def]
    dsimp only
    rw [if_neg hn, if_neg ha, Option.map_eq_none_iff.1 h]
    simp only [keywords?]
    split
    · cases ts with
      | nil => rfl
      | cons p inside =>
        simp only [Grammar.expectPunct, punct?]
        split
        · rfl
        · rfl
    · rfl

theorem follows_intValueFrom (hc : c.Ready) :
    Follows c c.intValue (Grammar.intValue c.left) := by
  induction h : c.left.length using Nat.strongRecOn generalizing c with
  | _ n ih =>
    rw [Cursor.intValue]
    refine .call hc fun c1 hc1 h1 => ?_
    rw [Cursor.peek_eq, ← h1]
    cases hv : c1.left.head?.bind plainValue? with
    | some read =>
      obtain ⟨t, ht, hr⟩ := Option.bind_eq_some_iff.1 hv
      obtain ⟨ts, hl⟩ := List.head?_eq_some_iff.1 ht
      rw [hl]
      exact follows_plainValue hc1 hl hr
    | none =>
      rw [intValue_of_no_plainValue hv]
      refine .accept hc1 (by decide) (fun c2 hc2 h2 => ?_) (fun h2 => ?_)
      · rw [h2]
        refine (follows_expectPunct hc2.toSound "(").andThen fun c3 hc3 h3 => ?_
        have s1 := length_of_keywords? h2
        have s2 := length_of_expectPunct h3
        rw [h1] at s1
        refine .get ((ih c3.left.length (by omega) hc3 rfl).bind fun value c4 hc4 _ => ?_)
        refine (follows_expect hc4.toSound (by decide)).andThen fun c5 hc5 _ => ?_
        refine (follows_ident hc5.toSound).bind fun _ c6 hc6 _ => ?_
        refine (follows_expectPunct hc6.toSound ")").andThen fun c7 hc7 _ => ?_
        exact .pure hc7
      · rw [h2]
        exact .fail hc1

theorem follows_intValue (hc : c.Ready) : Follows c intValue (Grammar.intValue c.left) :=
  .get (follows_intValueFrom hc)

/-! ## Lengths -/

/-- An arrow, as one token or as two. -/
def arrow : Reading Unit := do
  if ← acceptPunct "=>" then return ()
  else do
    expectPunct "="
    expectPunct ">"

/-- The length clause of an array, if it stands at the cursor. -/
def vectorLength : Reading IntValue := do
  if ← look (fun c => c.atPunct "(" && c.keywordAhead 1 == "VECTOR_LENGTH") then do
    let _ ← next
    let _ ← next
    arrow
    let value ← intValue
    expectPunct ")"
    return value
  else return .missing

theorem follows_arrow (hc : c.Sound) : Follows c arrow (leaving () (Grammar.arrow c.left)) := by
  unfold Grammar.arrow
  refine .acceptPunct hc (fun c1 hc1 h1 => ?_) (fun h1 => ?_)
  · rw [h1]
    exact .pure hc1
  · rw [h1]
    have assoc : leaving () (Grammar.expectPunct "=" c.left >>= Grammar.expectPunct ">") =
        (Grammar.expectPunct "=" c.left >>= fun ts => leaving () (Grammar.expectPunct ">" ts)) :=
      map_bind _ _ _
    refine assoc ▸ (follows_expectPunct hc "=").andThen fun c2 hc2 _ => ?_
    exact follows_expectPunct hc2.toSound ">"

theorem vectorLengthStart?_cons {p t : Token} {ts : List Token} :
    vectorLengthStart? (p :: t :: ts) =
      if p.isPunct "(" && t.upper == "VECTOR_LENGTH" then some ts else none := by
  rw [vectorLengthStart?, punct?]
  cases p.isPunct "(" with
  | false => rfl
  | true => rfl

/-- The two tokens in front of a length are seen at once. -/
theorem vectorLengthStart?_eq :
    (c.atPunct "(" && c.keywordAhead 1 == "VECTOR_LENGTH") =
      (vectorLengthStart? c.left).isSome := by
  rw [Cursor.atPunct_eq, Cursor.keywordAhead_eq]
  match c.left with
  | [] => rfl
  | [p] =>
    rw [atPunct_cons, vectorLengthStart?, punct?]
    cases p.isPunct "(" with
    | false => rfl
    | true => rfl
  | p :: t :: ts =>
    rw [vectorLengthStart?_cons, atPunct_cons]
    show (p.isPunct "(" && t.upper == "VECTOR_LENGTH") = _
    cases p.isPunct "(" && t.upper == "VECTOR_LENGTH" with
    | false => rfl
    | true => rfl

theorem exists_cons_of_vectorLengthStart? {ts rest : List Token}
    (h : vectorLengthStart? ts = some rest) : ∃ p t, ts = p :: t :: rest := by
  match ts with
  | [] => cases h
  | [p] =>
    simp only [vectorLengthStart?, punct?] at h
    split at h
    · simp_all [keywords?]
    · cases h
  | p :: t :: ts =>
    rw [vectorLengthStart?_cons] at h
    split at h
    · cases h
      exact ⟨p, t, rfl⟩
    · cases h

theorem follows_vectorLength (hc : c.Ready) :
    Follows c vectorLength (Grammar.vectorLength c.left) := by
  rw [Grammar.vectorLength]
  refine .look (fun h => ?_) (fun h => ?_)
  · rw [vectorLengthStart?_eq] at h
    obtain ⟨rest, hr⟩ := Option.isSome_iff_exists.1 h
    obtain ⟨p, t, hl⟩ := exists_cons_of_vectorLengthStart? hr
    rw [hr]
    refine .skip hc.toSound hl fun c1 hc1 h1 => ?_
    refine .skip hc1.toSound h1 fun c2 hc2 h2 => ?_
    rw [← h2]
    refine (follows_arrow hc2.toSound).andThen fun c3 hc3 _ => ?_
    refine (follows_intValue hc3).bind fun value c4 hc4 _ => ?_
    refine (follows_expectPunct hc4.toSound ")").andThen fun c5 hc5 _ => ?_
    exact .pure hc5
  · rw [vectorLengthStart?_eq] at h
    rw [Option.isSome_eq_false_iff.1 h |> Option.isNone_iff_eq_none.1]
    exact .pure hc

/-! ## Column types -/

/-- The size of a sized type, whose opening parenthesis has been read. -/
def sizedType (name : String) : Reading ColumnType := do
  if ← accept ["MAX"] then do
    expectPunct ")"
    return .sized name true .missing
  else do
    let size ← intValue
    expectPunct ")"
    return .sized name false size

/-- A type that is not an array, whose path has been read. -/
def namedType (p : Path) : Reading ColumnType :=
  match p.idents with
  | [i] => do
    let name := Text.upper i.name
    if ← acceptPunct "(" then sizedType name
    else return if scalarTypes.contains name then .scalar name else .named p.idents
  | _ => return .named p.idents

end SpannerDdl.Reading

namespace SpannerDdl.Cursor

open Reading

/-- A column type, read from the cursor on. -/
def columnType (c : Cursor) : Reading ColumnType := do
  Reading.note .columnType c.place
  if ← accept ["ARRAY"] then do
    expectPunct "<"
    let item ← (← get) |>.columnType
    expectPunct ">"
    let length ← vectorLength
    return .array item length
  else do
    let p ← path
    namedType p
partial_fixpoint

end SpannerDdl.Cursor

namespace SpannerDdl.Reading

open Grammar

variable {c : Cursor}

/-- A column type. -/
def columnType : Reading ColumnType := do (← get).columnType

theorem follows_sizedType (hc : c.Ready) (name : String) :
    Follows c (sizedType name) (Grammar.sizedType name c.left) := by
  rw [Grammar.sizedType]
  refine .accept hc.toSound (by decide) (fun c1 hc1 h1 => ?_) (fun h1 => ?_)
  · rw [h1]
    exact (follows_expectPunct hc1.toSound ")").andThen fun c2 hc2 _ => .pure hc2
  · rw [h1]
    refine (follows_intValue hc).bind fun size c1 hc1 _ => ?_
    exact (follows_expectPunct hc1.toSound ")").andThen fun c2 hc2 _ => .pure hc2

theorem follows_namedType (hc : c.Ready) (p : Path) :
    Follows c (namedType p) (Grammar.namedType p c.left) := by
  match p with
  | ⟨[]⟩ => exact .pure hc
  | ⟨[i]⟩ =>
    unfold Grammar.namedType
    refine .acceptPunct hc.toSound (fun c1 hc1 h1 => ?_) (fun h1 => ?_)
    · rw [h1]
      exact follows_sizedType hc1 _
    · rw [h1]
      exact .pure hc
  | ⟨i :: j :: is⟩ => exact .pure hc

/-- The recursion of `columnType` by keywords. -/
theorem columnType_eq (ts : List Token) : Grammar.columnType ts =
    match keywords? ["ARRAY"] ts with
    | none => Grammar.path ts >>= fun p => Grammar.namedType p.1 p.2
    | some rest => do
      let rest ← Grammar.expectPunct "<" rest
      let (item, rest) ← Grammar.columnType rest
      let rest ← Grammar.expectPunct ">" rest
      let (length, rest) ← Grammar.vectorLength rest
      return (.array item length, rest) := by
  cases ts with
  | nil => rfl
  | cons t ts =>
    rw [Grammar.columnType.eq_def]
    simp only [keywords?]
    split
    · cases ts with
      | nil => rfl
      | cons p inside =>
        simp only [Grammar.expectPunct, punct?]
        split
        · rfl
        · rfl
    · rfl

theorem follows_columnTypeFrom (hc : c.Ready) :
    Follows c c.columnType (Grammar.columnType c.left) := by
  induction h : c.left.length using Nat.strongRecOn generalizing c with
  | _ n ih =>
    rw [Cursor.columnType, columnType_eq]
    refine .call hc fun c1 hc1 h1 => ?_
    rw [← h1]
    refine .accept hc1 (by decide) (fun c2 hc2 h2 => ?_) (fun h2 => ?_)
    · rw [h2]
      refine (follows_expectPunct hc2.toSound "<").andThen fun c3 hc3 h3 => ?_
      have s1 := length_of_keywords? h2
      have s2 := length_of_expectPunct h3
      rw [h1] at s1
      refine .get ((ih c3.left.length (by omega) hc3 rfl).bind fun item c4 hc4 _ => ?_)
      refine (follows_expectPunct hc4.toSound ">").andThen fun c5 hc5 _ => ?_
      exact (follows_vectorLength hc5).bind fun length c6 hc6 _ => .pure hc6
    · rw [h2]
      exact (follows_path hc1).bind fun p c2 hc2 _ => follows_namedType hc2 p

theorem follows_columnType (hc : c.Ready) : Follows c columnType (Grammar.columnType c.left) :=
  .get (follows_columnTypeFrom hc)

end SpannerDdl.Reading
