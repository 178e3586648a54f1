import SpannerDdl.Proofs.Statement.Case
import SpannerDdl.Proofs.Token.Case

/-! # Reading tokens in upper case

Tokens whose texts are put in upper case are read in the same way: what is read is the same up to
letter case, and a failure is at the same place and asks for the same thing.

* `folded g r`: the result `r` in upper case, where `g` puts the value in upper case.
* `bind_folded`, `map_folded`: how results in upper case are put together. -/

set_option autoImplicit false

namespace SpannerDdl.Grammar

variable {α β α' β' : Type}

/-! ## Results in upper case -/

def Mismatch.foldCase (m : Mismatch) : Mismatch := ⟨m.expected, m.rest.map Token.foldCase⟩

/-- The result with its value changed by `g`, or with the tokens in upper case that were left when
it failed. -/
def folded (g : α → β) : Except Mismatch α → Except Mismatch β
  | .ok a => .ok (g a)
  | .error m => .error m.foldCase

/-- What was read, changed by `g`, and the tokens behind it in upper case. -/
def foldRest (g : α → β) (p : α × List Token) : β × List Token :=
  (g p.1, p.2.map Token.foldCase)

theorem bind_folded {r : Except Mismatch α} {r' : Except Mismatch α'} {g : α → α'} {g' : β → β'}
    {f : α → Except Mismatch β} {f' : α' → Except Mismatch β'} (hr : r' = folded g r)
    (hf : ∀ a, f' (g a) = folded g' (f a)) : (r' >>= f') = folded g' (r >>= f) := by
  subst hr
  cases r with
  | ok a => exact hf a
  | error m => rfl

theorem bind_read {r : Except Mismatch (α × List Token)}
    {r' : Except Mismatch (α' × List Token)} {g : α → α'} {g' : β → β'}
    {f : α × List Token → Except Mismatch β} {f' : α' × List Token → Except Mismatch β'}
    (hr : r' = folded (foldRest g) r)
    (hf : ∀ a rest, f' (g a, rest.map Token.foldCase) = folded g' (f (a, rest))) :
    (r' >>= f') = folded g' (r >>= f) :=
  bind_folded hr fun p => hf p.1 p.2

theorem map_folded {r : Except Mismatch α} {r' : Except Mismatch α'} {g : α → α'} {g' : β → β'}
    {f : α → β} {f' : α' → β'} (hr : r' = folded g r) (hf : ∀ a, f' (g a) = g' (f a)) :
    r'.map f' = folded g' (r.map f) := by
  subst hr
  cases r with
  | ok a => exact congrArg Except.ok (hf a)
  | error m => rfl

/-! ## Keywords and punctuation -/

@[simp] theorem keywords?_foldCase (words : List String) (ts : List Token) :
    keywords? words (ts.map Token.foldCase) =
      (keywords? words ts).map (List.map Token.foldCase) := by
  induction words generalizing ts with
  | nil => rfl
  | cons word words ih =>
    cases ts with
    | nil => rfl
    | cons t ts =>
      simp only [List.map_cons, keywords?, Token.isKeyword_foldCase, ih]
      split <;> rfl

@[simp] theorem atKeywords_foldCase (words : List String) (ts : List Token) :
    atKeywords words (ts.map Token.foldCase) = atKeywords words ts := by
  simp [atKeywords]

@[simp] theorem accept_foldCase (words : List String) (ts : List Token) :
    accept words (ts.map Token.foldCase) = foldRest id (accept words ts) := by
  unfold accept
  rw [keywords?_foldCase]
  cases keywords? words ts with
  | none => rfl
  | some rest => rfl

theorem expectKeywords_foldCase (words : List String) (ts : List Token) :
    expectKeywords words (ts.map Token.foldCase) =
      folded (List.map Token.foldCase) (expectKeywords words ts) := by
  unfold expectKeywords
  rw [keywords?_foldCase]
  cases keywords? words ts with
  | none => rfl
  | some rest => rfl

section
variable {text : String} (caseless : Text.isCaseless text = true) (ts : List Token)
include caseless

theorem punct?_foldCase :
    punct? text (ts.map Token.foldCase) = (punct? text ts).map (List.map Token.foldCase) := by
  cases ts with
  | nil => rfl
  | cons t ts =>
    simp only [List.map_cons, punct?, Token.isPunct_foldCase caseless]
    split <;> rfl

theorem atPunct_foldCase : atPunct text (ts.map Token.foldCase) = atPunct text ts := by
  simp [atPunct, punct?_foldCase caseless]

theorem expectPunct_foldCase :
    expectPunct text (ts.map Token.foldCase) =
      folded (List.map Token.foldCase) (expectPunct text ts) := by
  unfold expectPunct
  rw [punct?_foldCase caseless]
  cases punct? text ts with
  | none => rfl
  | some rest => rfl

end

/-! ## Names -/

theorem ident?_foldCase (t : Token) : ident? t.foldCase = (ident? t).map Ident.foldCase := by
  unfold ident?
  rw [Token.kind_foldCase]
  split <;> rfl

theorem ident_foldCase (ts : List Token) :
    ident (ts.map Token.foldCase) = folded (foldRest Ident.foldCase) (ident ts) := by
  cases ts with
  | nil => rfl
  | cons t ts =>
    simp only [List.map_cons, ident, ident?_foldCase]
    cases ident? t with
    | none => rfl
    | some i => rfl

theorem identsBehind_foldCase {separator : String} (caseless : Text.isCaseless separator = true)
    (ts : List Token) : identsBehind separator (ts.map Token.foldCase) =
      folded (foldRest (List.map Ident.foldCase)) (identsBehind separator ts) := by
  have same := Token.isPunct_foldCase caseless
  fun_induction identsBehind separator ts with
  | case1 => rfl
  | case2 s hs => simp only [List.map_cons, List.map_nil, identsBehind, same, hs]; rfl
  | case3 s hs => simp only [List.map_cons, List.map_nil, identsBehind, same, hs]; rfl
  | case4 s t ts hs hi =>
    simp only [List.map_cons, identsBehind, same, hs, ident?_foldCase, hi]
    rfl
  | case5 s t ts hs i hi ih =>
    simp only [List.map_cons, identsBehind, same, hs, ident?_foldCase, hi]
    exact map_folded ih fun p => rfl
  | case6 s t ts hs => simp only [List.map_cons, identsBehind, same, hs]; rfl

theorem idents_foldCase {separator : String} (caseless : Text.isCaseless separator = true)
    (ts : List Token) : idents separator (ts.map Token.foldCase) =
      folded (foldRest (List.map Ident.foldCase)) (idents separator ts) := by
  refine bind_read (ident_foldCase ts) fun i ts => ?_
  exact bind_read (identsBehind_foldCase caseless ts) fun is ts => rfl

variable (ts : List Token)

theorem path_foldCase :
    path (ts.map Token.foldCase) = folded (foldRest Path.foldCase) (path ts) :=
  bind_read (idents_foldCase rfl ts) fun _ _ => rfl

theorem identsInside_foldCase : identsInside (ts.map Token.foldCase) =
    folded (foldRest (List.map Ident.foldCase)) (identsInside ts) := by
  unfold identsInside
  rw [atPunct_foldCase rfl]
  split
  · rfl
  · exact idents_foldCase rfl ts

theorem identList_foldCase : identList (ts.map Token.foldCase) =
    folded (foldRest (List.map Ident.foldCase)) (identList ts) := by
  refine bind_folded (expectPunct_foldCase rfl ts) fun ts => ?_
  refine bind_read (identsInside_foldCase ts) fun is ts => ?_
  exact bind_folded (expectPunct_foldCase rfl ts) fun ts => rfl

/-! ## Keys -/

theorem direction?_foldCase :
    direction? (ts.map Token.foldCase) = foldRest id (direction? ts) := by
  cases ts with
  | nil => rfl
  | cons t ts =>
    simp only [List.map_cons, direction?, Token.isKeyword_foldCase]
    split
    · rfl
    · split <;> rfl

theorem keyPart_foldCase :
    keyPart (ts.map Token.foldCase) = folded (foldRest KeyPart.foldCase) (keyPart ts) := by
  refine bind_read (ident_foldCase ts) fun i ts => ?_
  simp only [direction?_foldCase]
  rfl

theorem keyParts_foldCase : keyParts (ts.map Token.foldCase) =
    folded (foldRest (List.map KeyPart.foldCase)) (keyParts ts) := by
  fun_induction keyParts ts with
  | case1 ts e he =>
    rw [keyParts_eq, keyPart_foldCase, he]
    rfl
  | case2 ts k ts1 he hc =>
    rw [keyParts_eq, keyPart_foldCase, he, folded, ok_bind]
    simp only [foldRest, @punct?_foldCase "," rfl, hc, Option.map_none]
    rfl
  | case3 ts k ts1 he ts2 hc s1 s2 ih =>
    rw [keyParts_eq, keyPart_foldCase, he, folded, ok_bind]
    simp only [foldRest, @punct?_foldCase "," rfl, hc, Option.map_some]
    exact map_folded ih fun p => rfl

theorem keysInside_foldCase : keysInside (ts.map Token.foldCase) =
    folded (foldRest (List.map KeyPart.foldCase)) (keysInside ts) := by
  unfold keysInside
  rw [atPunct_foldCase rfl]
  split
  · rfl
  · exact keyParts_foldCase ts

theorem keyList_foldCase : keyList (ts.map Token.foldCase) =
    folded (foldRest (List.map KeyPart.foldCase)) (keyList ts) := by
  refine bind_folded (expectPunct_foldCase rfl ts) fun ts => ?_
  refine bind_read (keysInside_foldCase ts) fun ks ts => ?_
  exact bind_folded (expectPunct_foldCase rfl ts) fun ts => rfl

/-! ## Groups in parentheses -/

theorem closing_foldCase (depth : Nat) : closing depth (ts.map Token.foldCase) =
    (closing depth ts).map (foldRest (List.map Token.foldCase)) := by
  induction ts generalizing depth with
  | nil => rfl
  | cons t ts ih =>
    have inside : ∀ d, ((closing d (ts.map Token.foldCase)).map fun p =>
        (t.foldCase :: p.1, p.2)) =
        ((closing d ts).map fun p => (t :: p.1, p.2)).map (foldRest (List.map Token.foldCase)) := by
      intro d
      rw [ih, Option.map_map, Option.map_map]
      rfl
    simp only [List.map_cons, closing, @Token.isPunct_foldCase "(" rfl,
      @Token.isPunct_foldCase ")" rfl]
    split
    · exact inside (depth + 1)
    · split
      · cases depth with
        | zero => rfl
        | succ depth => exact inside depth
      · exact inside depth

theorem balanced_foldCase : balanced (ts.map Token.foldCase) =
    folded (foldRest (List.map Token.foldCase)) (balanced ts) := by
  unfold balanced
  rw [punct?_foldCase rfl]
  cases punct? "(" ts with
  | none => rfl
  | some ts1 =>
    simp only [Option.map_some, closing_foldCase]
    cases closing 0 ts1 with
    | none => rfl
    | some found => rfl

theorem balancedText_foldCase :
    balancedText (ts.map Token.foldCase) = folded (foldRest String.toUpper) (balancedText ts) := by
  refine map_folded (balanced_foldCase ts) fun p => ?_
  show (Token.renderAll (p.1.map Token.foldCase), p.2.map Token.foldCase) = _
  rw [Token.renderAll_foldCase]
  rfl

/-! ## Sizes and types -/

theorem isAt_foldCase (t : Token) : isAt t.foldCase = isAt t := by
  unfold isAt
  rw [Token.kind_foldCase, Token.text_foldCase, Text.beq_toUpper rfl]

theorem paramName?_eq_none {t : Token}
    (h : ∀ c cs, t.kind = .word → t.text.toList ≠ '@' :: c :: cs) : paramName? t = none := by
  unfold paramName?
  split
  · rename_i c cs hk ht
    exact absurd ht (h c cs hk)
  · rfl

theorem paramName?_foldCase (t : Token) :
    paramName? t.foldCase = (paramName? t).map String.toUpper := by
  by_cases h : ∃ c cs, t.kind = .word ∧ t.text.toList = '@' :: c :: cs
  · obtain ⟨c, cs, hk, ht⟩ := h
    unfold paramName?
    rw [Token.kind_foldCase, Token.text_foldCase, Text.toList_toUpper, hk, ht]
    exact congrArg some (Text.toUpper_ofList (c :: cs)).symm
  · have other : ∀ c cs, t.kind = .word → t.text.toList ≠ '@' :: c :: cs :=
      fun c cs hk ht => h ⟨c, cs, hk, ht⟩
    have other' : ∀ c cs, t.kind = .word → t.foldCase.text.toList ≠ '@' :: c :: cs := by
      intro c cs hk ht
      rw [Token.text_foldCase, Text.toList_toUpper] at ht
      obtain ⟨a, as, hat, ha, has⟩ := List.map_eq_cons_iff.1 ht
      obtain ⟨b, bs, rfl, -, -⟩ := List.map_eq_cons_iff.1 has
      rw [(Text.toUpper_eq_iff rfl).1 ha] at hat
      exact other b bs hk hat
    rw [paramName?_eq_none other, paramName?_eq_none other']
    rfl

theorem intValue_foldCase :
    intValue (ts.map Token.foldCase) = folded (foldRest IntValue.foldCase) (intValue ts) := by
  have opening := @Token.isPunct_foldCase "(" rfl
  fun_induction intValue ts with
  | case1 => rfl
  | case2 t ts hn =>
    rw [List.map_cons, intValue.eq_def]
    simp only [Token.kind_foldCase, hn, if_true]
    rfl
  | case3 t ts hn ha =>
    rw [List.map_cons, intValue.eq_def]
    simp only [Token.kind_foldCase, hn, isAt_foldCase, ha, if_false, if_true]
    refine bind_read (ident_foldCase ts) fun i rest => ?_
    show Except.ok (IntValue.param i.foldCase.name, _) = _
    rw [Ident.name_foldCase]
    rfl
  | case4 t ts hn ha name hp =>
    rw [List.map_cons, intValue.eq_def]
    simp only [Token.kind_foldCase, hn, isAt_foldCase, ha, paramName?_foldCase, hp, if_false]
    rfl
  | case5 t hn ha hp hc =>
    rw [List.map_cons, intValue.eq_def]
    simp only [Token.kind_foldCase, hn, isAt_foldCase, ha, paramName?_foldCase, hp,
      Token.isKeyword_foldCase, hc, if_false, if_true]
    rfl
  | case6 t hn ha hp hc p inside hp' ih =>
    rw [List.map_cons, intValue.eq_def]
    simp only [Token.kind_foldCase, hn, isAt_foldCase, ha, paramName?_foldCase, hp,
      Token.isKeyword_foldCase, hc, List.map_cons, opening, hp', if_false, if_true]
    refine bind_read ih fun value rest => ?_
    refine bind_folded (expectKeywords_foldCase ["AS"] rest) fun rest => ?_
    refine bind_read (ident_foldCase rest) fun i rest => ?_
    exact bind_folded (expectPunct_foldCase rfl rest) fun rest => rfl
  | case7 t hn ha hp hc p inside hp' =>
    rw [List.map_cons, intValue.eq_def]
    simp only [Token.kind_foldCase, hn, isAt_foldCase, ha, paramName?_foldCase, hp,
      Token.isKeyword_foldCase, hc, List.map_cons, opening, hp', if_false, if_true]
    rfl
  | case8 t ts hn ha hp hc =>
    rw [List.map_cons, intValue.eq_def]
    simp only [Token.kind_foldCase, hn, isAt_foldCase, ha, paramName?_foldCase, hp,
      Token.isKeyword_foldCase, hc, if_false]
    rfl

theorem arrow_foldCase :
    arrow (ts.map Token.foldCase) = folded (List.map Token.foldCase) (arrow ts) := by
  unfold arrow
  rw [punct?_foldCase rfl]
  cases punct? "=>" ts with
  | some rest => rfl
  | none =>
    refine bind_folded (expectPunct_foldCase rfl ts) fun rest => ?_
    exact expectPunct_foldCase rfl rest

theorem vectorLengthStart?_foldCase : vectorLengthStart? (ts.map Token.foldCase) =
    (vectorLengthStart? ts).map (List.map Token.foldCase) := by
  unfold vectorLengthStart?
  rw [punct?_foldCase rfl]
  cases punct? "(" ts with
  | none => rfl
  | some rest => exact keywords?_foldCase _ rest

theorem vectorLength_foldCase : vectorLength (ts.map Token.foldCase) =
    folded (foldRest IntValue.foldCase) (vectorLength ts) := by
  unfold vectorLength
  rw [vectorLengthStart?_foldCase]
  cases vectorLengthStart? ts with
  | none => rfl
  | some rest =>
    refine bind_folded (arrow_foldCase rest) fun rest => ?_
    refine bind_read (intValue_foldCase rest) fun value rest => ?_
    exact bind_folded (expectPunct_foldCase rfl rest) fun rest => rfl

theorem sizedType_foldCase (name : String) : sizedType name (ts.map Token.foldCase) =
    folded (foldRest ColumnType.foldCase) (sizedType name ts) := by
  unfold sizedType
  rw [keywords?_foldCase]
  cases keywords? ["MAX"] ts with
  | some rest => exact bind_folded (expectPunct_foldCase rfl rest) fun rest => rfl
  | none =>
    refine bind_read (intValue_foldCase ts) fun size rest => ?_
    exact bind_folded (expectPunct_foldCase rfl rest) fun rest => rfl

/-- The name of a scalar or sized type is the upper case of what was read: it is the same for all
spellings. -/
theorem namedType_foldCase (p : Path) : namedType p.foldCase (ts.map Token.foldCase) =
    folded (foldRest ColumnType.foldCase) (namedType p ts) := by
  obtain ⟨is⟩ := p
  unfold namedType
  match is with
  | [] => rfl
  | i :: j :: is => rfl
  | [i] =>
    have upper : Text.upper i.foldCase.name = Text.upper i.name := by
      rw [Ident.name_foldCase, Text.upper_toUpper]
    simp only [Path.foldCase, List.map_cons, List.map_nil, upper, @punct?_foldCase "(" rfl]
    cases punct? "(" ts with
    | some rest => exact sizedType_foldCase rest (Text.upper i.name)
    | none =>
      show Except.ok (if scalarTypes.contains (Text.upper i.name) then _ else _, _) = _
      simp only [folded, foldRest]
      split <;> rfl

theorem columnType_foldCase : columnType (ts.map Token.foldCase) =
    folded (foldRest ColumnType.foldCase) (columnType ts) := by
  have opening := @Token.isPunct_foldCase "<" rfl
  fun_induction columnType ts with
  | case1 => rfl
  | case2 t hk =>
    rw [List.map_cons, columnType.eq_def]
    simp only [Token.isKeyword_foldCase, hk, if_true]
    rfl
  | case3 t hk p inside hp ih =>
    rw [List.map_cons, columnType.eq_def]
    simp only [Token.isKeyword_foldCase, hk, List.map_cons, opening, hp, if_true]
    refine bind_read ih fun item rest => ?_
    refine bind_folded (expectPunct_foldCase rfl rest) fun rest => ?_
    exact bind_read (vectorLength_foldCase rest) fun length rest => rfl
  | case4 t hk p inside hp =>
    rw [List.map_cons, columnType.eq_def]
    simp only [Token.isKeyword_foldCase, hk, List.map_cons, opening, hp, if_true]
    rfl
  | case5 t ts hk =>
    rw [List.map_cons, columnType.eq_def]
    simp only [Token.isKeyword_foldCase, hk]
    exact bind_read (path_foldCase (t :: ts)) fun p rest => namedType_foldCase rest p

end SpannerDdl.Grammar
