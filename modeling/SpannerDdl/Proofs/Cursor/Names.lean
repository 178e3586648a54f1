import SpannerDdl.Proofs.Cursor.Follows

/-! # Names, keys and groups by a cursor

* `ident`, `path`, `identList`, `keyList`: names and lists of names.
* `balanced`: the tokens inside a pair of parentheses. -/

set_option autoImplicit false

namespace SpannerDdl.Reading

open Grammar

variable {c : Cursor}

/-! ## Items with separators between them -/

section
variable {α : Type}

/-- One or more items with separators between them. -/
def separated (loop : Loop) (separator : String) (item : Reading α) : Reading (List α) := do
  let first ← item
  repeatWhile loop (acceptPunct separator) (fun xs => do return .yield (xs ++ [← item])) [first]

/-- Items behind separators are read in turn, where each reader of an item goes forward. -/
theorem follows_behind {item : Reading α} {read : List Token → Except Mismatch (α × List Token)}
    {readBehind : List Token → Except Mismatch (List α × List Token)} {separator : String}
    (follows : ∀ {c : Cursor}, c.Sound → Follows c item (read c.left))
    (forward : ∀ {ts rest : List Token} {a : α}, read ts = .ok (a, rest) → rest.length < ts.length)
    (recursion : ∀ ts, readBehind ts = match punct? separator ts with
      | none => .ok ([], ts)
      | some rest => read rest >>= fun p =>
        (readBehind p.2).map fun q => (p.1 :: q.1, q.2))
    (hc : c.Ready) (loop : Loop) (xs : List α) :
    Follows c (repeatWhile loop (acceptPunct separator)
        (fun xs => do return .yield (xs ++ [← item])) xs)
      ((readBehind c.left).map fun p => (xs ++ p.1, p.2)) := by
  induction h : c.left.length using Nat.strongRecOn generalizing c xs with
  | _ n ih =>
    rw [recursion]
    refine .turnBehind hc (fun c1 hc1 h1 => ?_) (fun h1 => ?_)
    · rw [h1, bind_assoc, map_bind]
      simp only [pure_bind]
      refine (follows hc1.toSound).bind fun x c2 hc2 h2 => ?_
      have s1 := length_of_punct? h1
      have s2 := forward h2
      have further := ih c2.left.length (by omega) hc2 (xs ++ [x]) rfl
      simp only [List.append_assoc, List.singleton_append] at further
      rw [map_map]
      exact further
    · rw [h1]
      simp [Except.map]

theorem follows_separated {item : Reading α}
    {read : List Token → Except Mismatch (α × List Token)}
    {readBehind : List Token → Except Mismatch (List α × List Token)} {separator : String}
    (follows : ∀ {c : Cursor}, c.Sound → Follows c item (read c.left))
    (forward : ∀ {ts rest : List Token} {a : α}, read ts = .ok (a, rest) → rest.length < ts.length)
    (recursion : ∀ ts, readBehind ts = match punct? separator ts with
      | none => .ok ([], ts)
      | some rest => read rest >>= fun p =>
        (readBehind p.2).map fun q => (p.1 :: q.1, q.2))
    (hc : c.Sound) (loop : Loop) :
    Follows c (separated loop separator item)
      (read c.left >>= fun p => (readBehind p.2).map fun q => (p.1 :: q.1, q.2)) :=
  (follows hc).bind fun x _ hc1 _ => follows_behind follows forward recursion hc1 loop [x]

end

/-! ## Names -/

/-- An identifier. -/
def ident : Reading Ident := do
  match (← get).peek.bind ident? with
  | some i => do
    let _ ← next
    return i
  | none => fail "identifier"

/-- One or more identifiers with separators between them. -/
def idents (loop : Loop) (separator : String) : Reading (List Ident) :=
  separated loop separator ident

/-- A dotted name. -/
def path : Reading Path := do return ⟨← idents .path "."⟩

/-- Identifiers with commas between them up to a closing parenthesis. -/
def identsInside : Reading (List Ident) := do
  if ← look (·.atPunct ")") then return [] else idents .identList ","

/-- Identifiers in parentheses, of which there may be none. -/
def identList : Reading (List Ident) := do
  expectPunct "("
  let names ← identsInside
  expectPunct ")"
  return names

theorem follows_ident (hc : c.Sound) : Follows c ident (Grammar.ident c.left) := by
  refine .get ?_
  rw [Cursor.peek_eq]
  cases hl : c.left with
  | nil => exact (Follows.fail hc).congr (by rw [hl]; rfl)
  | cons t ts =>
    simp only [List.head?_cons, Option.bind_some, Grammar.ident]
    cases ident? t with
    | none => exact (Follows.fail hc).congr (by rw [hl])
    | some i =>
      refine .next hc (fun t' c' hc' h => ?_) (fun h => ?_)
      · obtain ⟨-, rfl⟩ := List.cons.inj (hl.symm.trans h)
        exact .pure hc'
      · cases hl.symm.trans h

/-- The recursion of `identsBehind` by separators. -/
theorem identsBehind_eq (separator : String) (ts : List Token) : identsBehind separator ts =
    match punct? separator ts with
    | none => .ok ([], ts)
    | some rest => Grammar.ident rest >>= fun p =>
      (identsBehind separator p.2).map fun q => (p.1 :: q.1, q.2) := by
  fun_cases identsBehind separator ts with
  | case1 => rfl
  | case2 s hs => rw [punct?, if_pos hs]; rfl
  | case3 s hs => rw [punct?, if_neg hs]
  | case4 s t ts hs hi => rw [punct?, if_pos hs]; simp only [Grammar.ident, hi]; rfl
  | case5 s t ts hs i hi => rw [punct?, if_pos hs]; simp only [Grammar.ident, hi]; rfl
  | case6 s t ts hs => rw [punct?, if_neg hs]

theorem follows_idents (hc : c.Sound) (loop : Loop) (separator : String) :
    Follows c (idents loop separator) (Grammar.idents separator c.left) := by
  have forward : ∀ {ts rest : List Token} {i : Ident}, Grammar.ident ts = .ok (i, rest) →
      rest.length < ts.length := fun h => Nat.lt_of_lt_of_eq (Nat.lt_add_one _) (length_of_ident h)
  exact follows_separated follows_ident forward (identsBehind_eq separator) hc loop

theorem follows_path (hc : c.Sound) : Follows c path (Grammar.path c.left) :=
  (follows_idents hc .path ".").bind fun _ _ hc1 _ => .pure hc1

-- The turns of `a.b.c` begin at its dots.
example : (path.outcome (.start "" [⟨.word, "a", 1, 1⟩, ⟨.punct, ".", 1, 2⟩, ⟨.word, "b", 1, 3⟩,
      ⟨.punct, ".", 1, 4⟩, ⟨.word, "c", 1, 5⟩])).map (fun r => r.2.turns) =
    some [⟨.path, 1⟩, ⟨.path, 3⟩] := by
  cbv

theorem follows_identsInside (hc : c.Ready) :
    Follows c identsInside (Grammar.identsInside c.left) := by
  unfold Grammar.identsInside
  refine .lookPunct (fun h => ?_) (fun h => ?_)
  · rw [if_pos h]
    exact .pure hc
  · rw [if_neg h]
    exact follows_idents hc.toSound .identList ","

theorem follows_identList (hc : c.Sound) : Follows c identList (Grammar.identList c.left) := by
  refine (follows_expectPunct hc "(").andThen fun c1 hc1 _ => ?_
  refine (follows_identsInside hc1).bind fun names c2 hc2 _ => ?_
  refine (follows_expectPunct hc2.toSound ")").andThen fun c3 hc3 _ => ?_
  exact .pure hc3

/-! ## Keys -/

/-- A direction, if one stands at the cursor. -/
def direction : Reading (Option Direction) := do
  if ← accept ["ASC"] then return some .asc
  else if ← accept ["DESC"] then return some .desc
  else return none

/-- A key column. -/
def keyPart : Reading KeyPart := do
  let name ← ident
  return ⟨name, ← direction⟩

/-- Key columns with commas between them up to a closing parenthesis. -/
def keysInside : Reading (List KeyPart) := do
  if ← look (·.atPunct ")") then return [] else separated .keyList "," keyPart

/-- Key columns in parentheses, of which there may be none. -/
def keyList : Reading (List KeyPart) := do
  expectPunct "("
  let keys ← keysInside
  expectPunct ")"
  return keys

theorem direction?_eq (ts : List Token) : direction? ts =
    match keywords? ["ASC"] ts with
    | some rest => (some .asc, rest)
    | none => match keywords? ["DESC"] ts with
      | some rest => (some .desc, rest)
      | none => (none, ts) := by
  cases ts with
  | nil => rfl
  | cons t ts =>
    simp only [direction?, keywords?]
    split
    · rfl
    · split
      · rfl
      · rfl

theorem follows_direction (hc : c.Ready) : Follows c direction (.ok (direction? c.left)) := by
  rw [direction?_eq]
  refine .accept hc.toSound (by decide) (fun c1 hc1 h => ?_) (fun h => ?_)
  · rw [h]
    exact .pure hc1
  · rw [h]
    refine .accept hc.toSound (by decide) (fun c1 hc1 h => ?_) (fun h => ?_)
    · rw [h]
      exact .pure hc1
    · rw [h]
      exact .pure hc

theorem follows_keyPart (hc : c.Sound) : Follows c keyPart (Grammar.keyPart c.left) := by
  refine (follows_ident hc).bind fun name c1 hc1 _ => ?_
  refine (follows_direction hc1).bindFound fun c2 hc2 h => ?_
  exact .pure_of_left hc2 h

/-- Key columns behind a comma, if one comes first. -/
def keysBehind (ts : List Token) : Except Mismatch (List KeyPart × List Token) :=
  match punct? "," ts with
  | none => .ok ([], ts)
  | some rest => keyParts rest

theorem keyParts_eq_keysBehind (ts : List Token) : keyParts ts =
    Grammar.keyPart ts >>= fun p => (keysBehind p.2).map fun q => (p.1 :: q.1, q.2) := by
  rw [keyParts_eq]
  cases Grammar.keyPart ts with
  | error m => rfl
  | ok p =>
    show _ = (keysBehind p.2).map _
    simp only [ok_bind, keysBehind]
    cases punct? "," p.2 with
    | none => rfl
    | some rest => rfl

theorem follows_keysInside (hc : c.Ready) : Follows c keysInside (Grammar.keysInside c.left) := by
  unfold Grammar.keysInside
  refine .lookPunct (fun h => ?_) (fun h => ?_)
  · rw [if_pos h]
    exact .pure hc
  · rw [if_neg h, keyParts_eq_keysBehind]
    refine follows_separated follows_keyPart length_of_keyPart (fun ts => ?_) hc.toSound .keyList
    rw [keysBehind]
    split
    · rfl
    · exact keyParts_eq_keysBehind _

theorem follows_keyList (hc : c.Sound) : Follows c keyList (Grammar.keyList c.left) := by
  refine (follows_expectPunct hc "(").andThen fun c1 hc1 _ => ?_
  refine (follows_keysInside hc1).bind fun keys c2 hc2 _ => ?_
  refine (follows_expectPunct hc2.toSound ")").andThen fun c3 hc3 _ => ?_
  exact .pure hc3

/-! ## Groups in parentheses -/

/-- What comes of a token inside a group, where `depth` parentheses are open: the group ends at the
parenthesis that closes the first of them. -/
def enclosed (depth : Nat) (inner : List Token) (t : Token) : ForInStep (Nat × List Token) :=
  if t.isPunct "(" then .yield (depth + 1, inner ++ [t])
  else if t.isPunct ")" then
    if depth - 1 = 0 then .done (0, inner) else .yield (depth - 1, inner ++ [t])
  else .yield (depth, inner ++ [t])

/-- A token of a group. -/
def groupTurn (opened : Nat × List Token) : Reading (ForInStep (Nat × List Token)) := do
  match ← next with
  | some t => return enclosed opened.1 opened.2 t
  | none => fail "')'"

/-- The tokens inside a pair of parentheses. -/
def balanced : Reading (List Token) := do
  expectPunct "("
  let (_, inner) ← repeatWhile .group (look fun _ => true) groupTurn (1, [])
  return inner

/-- The text of the tokens inside a pair of parentheses. -/
def balancedText : Reading String := do return Token.renderAll (← balanced)

/-- What the turns of a group find, where `depth` more parentheses are open inside. -/
def readClosing (depth : Nat) (inner ts : List Token) :
    Except Mismatch ((Nat × List Token) × List Token) :=
  match closing depth ts with
  | some (group, rest) => .ok ((0, inner ++ group), rest)
  | none => mismatch "')'" []

theorem readClosing_cons (depth : Nat) (inner : List Token) (t : Token) (ts : List Token) :
    (∃ depth', enclosed (depth + 1) inner t = .yield (depth' + 1, inner ++ [t]) ∧
      readClosing depth inner (t :: ts) = readClosing depth' (inner ++ [t]) ts) ∨
    (enclosed (depth + 1) inner t = .done (0, inner) ∧
      readClosing depth inner (t :: ts) = .ok ((0, inner), ts)) := by
  have inside : ∀ depth', closing depth (t :: ts) =
      (closing depth' ts).map (fun p => (t :: p.1, p.2)) →
      readClosing depth inner (t :: ts) = readClosing depth' (inner ++ [t]) ts := by
    intro depth' h
    rw [readClosing, readClosing, h]
    cases closing depth' ts with
    | none => rfl
    | some p => simp
  rw [enclosed]
  by_cases ho : t.isPunct "("
  · exact .inl ⟨depth + 1, if_pos ho, inside _ (by rw [closing.eq_def]; exact if_pos ho)⟩
  · rw [if_neg ho]
    by_cases hc : t.isPunct ")"
    · rw [if_pos hc]
      cases depth with
      | zero => exact .inr ⟨rfl, by simp [readClosing, closing, ho, hc]⟩
      | succ depth => exact .inl ⟨depth, rfl, inside _ (by simp [closing, ho, hc])⟩
    · rw [if_neg hc]
      exact .inl ⟨depth, rfl, inside _ (by simp [closing, ho, hc])⟩

theorem follows_group (hc : c.Ready) (depth : Nat) (inner : List Token) :
    Follows c (repeatWhile .group (look fun _ => true) groupTurn (depth + 1, inner))
      (readClosing depth inner c.left) := by
  induction hl : c.left generalizing c depth inner with
  | nil =>
    refine .turn hc (fun _ c1 hc1 h1 => ?_) (fun h => by cases h)
    rw [groupTurn, bind_assoc]
    refine .next hc1 (fun t c2 _ h2 => ?_) (fun h2 => ?_)
    · rw [h1, hl] at h2
      cases h2
    · exact (Follows.fail_bind hc1).congr (by rw [h2]; rfl)
  | cons t ts ih =>
    refine .turn hc (fun _ c1 hc1 h1 => ?_) (fun h => by cases h)
    rw [groupTurn, bind_assoc]
    refine .next hc1 (fun t' c2 hc2 h2 => ?_) (fun h2 => ?_)
    · rw [h1, hl] at h2
      obtain ⟨rfl, rfl⟩ := List.cons.inj h2
      rw [pure_bind]
      dsimp only
      obtain ⟨depth', step, read⟩ | ⟨step, read⟩ := readClosing_cons depth inner t c2.left
      · rw [step, read]
        exact ih hc2 depth' (inner ++ [t]) rfl
      · rw [step, read]
        exact .pure hc2
    · rw [h1, hl] at h2
      cases h2

theorem follows_balanced (hc : c.Sound) : Follows c balanced (Grammar.balanced c.left) := by
  have eq : Grammar.balanced c.left = Grammar.expectPunct "(" c.left >>= fun ts =>
      readClosing 0 [] ts >>= fun p => .ok (p.1.2, p.2) := by
    rw [Grammar.balanced, Grammar.expectPunct]
    cases punct? "(" c.left with
    | none => rfl
    | some ts =>
      rw [ok_bind, readClosing]
      dsimp only
      cases closing 0 ts with
      | none => rfl
      | some p => rfl
  rw [eq]
  refine (follows_expectPunct hc "(").andThen fun c1 hc1 _ => ?_
  exact (follows_group hc1 0 []).bind fun found c2 hc2 _ => .pure hc2

theorem follows_balancedText (hc : c.Sound) :
    Follows c balancedText (Grammar.balancedText c.left) :=
  (follows_balanced hc).map Token.renderAll

end SpannerDdl.Reading
