import Mathlib.Data.List.TakeWhile
import SpannerDdl.Proofs.Except
import SpannerDdl.Proofs.Token.Case
import SpannerDdl.Token.Lexer

/-! # What tokens are written with

Blanks and comments keep lexemes apart, so that only strings and quoted identifiers can hold
blanks, and phrases, which are taken apart into words.

* `NoBlank cs`: characters none of which is a blank.
* `Lexeme.IsTight l`: a lexeme as far as blanks go.
* `Scan.isTight_of_next`, `Scan.isTight_of_lexemes`: one round of the lexer and a whole text.
* `noBlank_of_tokenize`: tokens other than strings and quoted identifiers hold no blanks. -/

set_option autoImplicit false

namespace SpannerDdl

/-- Characters none of which is a blank. -/
def NoBlank (cs : List Char) : Prop := ∀ c ∈ cs, Text.isBlank c = false

theorem NoBlank.cons {c : Char} {cs : List Char} (h : Text.isBlank c = false) (hs : NoBlank cs) :
    NoBlank (c :: cs) :=
  List.forall_mem_cons.2 ⟨h, hs⟩

theorem noBlank_takeWhile_isWordChar (cs : List Char) :
    NoBlank (cs.takeWhile Vocabulary.isWordChar) := by
  intro c hc
  have isWordChar := List.mem_takeWhile_imp hc
  simp only [Vocabulary.isWordChar, Bool.and_eq_true, Bool.not_eq_true'] at isWordChar
  exact isWordChar.1

theorem isBlank_of_range {c : Char} {low high : Nat} (h : low ≤ c.toNat ∧ c.toNat ≤ high)
    (h' : 0x20 < low ∧ high < 0x85) : Text.isBlank c = false := by
  simp only [Text.isBlank, Text.isBlankCode, Bool.or_eq_false_iff, Bool.and_eq_false_iff,
    decide_eq_false_iff_not, beq_eq_false_iff_ne]
  omega

theorem isBlank_of_isDigit {c : Char} (h : c.isDigit = true) : Text.isBlank c = false :=
  isBlank_of_range (Char.isDigit_iff_toNat.1 h) (by decide)

theorem isBlank_of_isLower {c : Char} (h : c.isLower = true) : Text.isBlank c = false :=
  isBlank_of_range (Text.toNat_of_isLower h) (by decide)

/-! ## The vocabulary -/

namespace Vocabulary

theorem mem_of_longest? {cs : List Char} {e : Entry} {n : Nat} (h : longest? cs = some (e, n)) :
    e ∈ entries ∧ matchLength? e.text cs = some n := by
  have step : ∀ (es : List Entry) (best : Option (Entry × Nat)),
      (∀ p, best = some p → p.1 ∈ entries ∧ matchLength? p.1.text cs = some p.2) →
      (∀ e ∈ es, e ∈ entries) →
      ∀ p, es.foldl (fun best e => longer? best e (matchLength? e.text cs)) best = some p →
        p.1 ∈ entries ∧ matchLength? p.1.text cs = some p.2 := by
    intro es
    induction es with
    | nil => exact fun best found _ p h => found p h
    | cons e es ih =>
      intro best found known p h
      rw [List.forall_mem_cons] at known
      refine ih (longer? best e (matchLength? e.text cs)) (fun q hq => ?_) known.2 p h
      cases best with
      | none =>
        cases length : matchLength? e.text cs with
        | none => simp [longer?, length] at hq
        | some n =>
          simp only [longer?, length, Option.some.injEq] at hq
          subst hq
          exact ⟨known.1, length⟩
      | some b =>
        cases length : matchLength? e.text cs with
        | none => exact found q (by simpa [longer?, length] using hq)
        | some n =>
          simp only [longer?, length] at hq
          split at hq
          · cases hq
            exact ⟨known.1, length⟩
          · exact found q hq
  exact step entries none (by simp) (fun _ mem => mem) (e, n) h

theorem isBlank_of_toUpper_eq {c d : Char} (h : c.toUpper = d) (hd : Text.isBlank d = false) :
    Text.isBlank c = false := by
  by_cases isLower : c.isLower = true
  · exact isBlank_of_isLower isLower
  · rwa [← h, Text.toUpper_of_not_isLower isLower] at hd

/-- What matches an entry without blanks has none. -/
theorem noBlank_take_of_matchLength? {pattern cs : List Char} {n : Nat} (h : NoBlank pattern)
    (found : matchLength? pattern cs = some n) : NoBlank (cs.take n) := by
  induction pattern generalizing cs n with
  | nil =>
    cases found
    simp [NoBlank]
  | cons d ds ih =>
    obtain ⟨notBlank, others⟩ := List.forall_mem_cons.1 h
    have notSpace : d ≠ ' ' := by
      rintro rfl
      exact absurd notBlank (by decide)
    cases cs with
    | nil => simp [matchLength?] at found
    | cons c cs =>
      rw [matchLength?, if_neg (by simpa using notSpace)] at found
      split at found
      · next same =>
        obtain ⟨m, inside, rfl⟩ := Option.map_eq_some_iff.1 found
        rw [List.take_succ_cons]
        exact .cons (isBlank_of_toUpper_eq (eq_of_beq same) notBlank) (ih others inside)
      · cases found

theorem noBlank_of_operator {e : Entry} (mem : e ∈ entries) (h : e.meaning = .operator) :
    NoBlank e.text := by
  have all : (entries.all fun e => e.meaning != .operator || e.text.all (!Text.isBlank ·)) =
      true := by decide +kernel
  simpa [h, NoBlank] using List.all_eq_true.1 all e mem

/-- What matches a phrase begins with a letter, as the phrase does. -/
theorem isPunctuation_take_of_phrase {e : Entry} (mem : e ∈ entries) (h : e.meaning = .phrase)
    {cs : List Char} {n : Nat} (found : matchLength? e.text cs = some n) :
    isPunctuation (cs.take n) = false := by
  have all : (entries.all fun e => e.meaning != .phrase ||
      e.text.head?.any fun d => d != ' ' && Text.isAlphanumeric d) = true := by decide +kernel
  have first := List.all_eq_true.1 all e mem
  simp only [h, bne_self_eq_false, Bool.false_or, Option.any_eq_true, Bool.and_eq_true,
    bne_iff_ne] at first
  obtain ⟨d, head, notSpace, isLetter⟩ := first
  obtain ⟨ds, text_eq⟩ := List.head?_eq_some_iff.1 head
  rw [text_eq] at found
  cases cs with
  | nil => simp [matchLength?] at found
  | cons c cs =>
    rw [matchLength?, if_neg (by simpa using notSpace)] at found
    split at found
    · next same =>
      obtain ⟨m, inside, rfl⟩ := Option.map_eq_some_iff.1 found
      have ofFirst : Text.isAlphanumeric c = true := by
        rw [← Text.isAlphanumeric_toUpper, eq_of_beq same]
        exact isLetter
      simp [isPunctuation, ofFirst]
    · cases found

end Vocabulary

/-! ## Lexemes -/

/-- Words, numbers and symbols hold no blanks, and phrases are no punctuation. -/
def Lexeme.IsTight (l : Lexeme) : Prop :=
  match l.kind with
  | .ident => True
  | .string => True
  | .phrase => isPunctuation l.text = false
  | _ => NoBlank l.text

namespace Scan

variable {s s' : Scan} {c : Char} {before : Option Lexeme} {l : Lexeme}

theorem noBlank_take_numberLength (afterAt point mark sign : Bool) (cs : List Char) :
    NoBlank (cs.take (numberLength afterAt point mark sign cs)) := by
  have none : NoBlank [] := by simp [NoBlank]
  fun_induction numberLength afterAt point mark sign cs with
  | case1 => exact none
  | case2 point mark sign c cs isDigit ih => exact .cons (isBlank_of_isDigit isDigit) ih
  | case3 => exact none
  | case4 point mark sign c cs _ isPoint _ ih =>
    simp only [Bool.and_eq_true, beq_iff_eq] at isPoint
    rw [isPoint.1]
    exact .cons (by decide) ih
  | case5 point mark sign c cs _ _ isSign _ ih =>
    simp only [Bool.and_eq_true, Bool.or_eq_true, beq_iff_eq] at isSign
    rcases isSign.1.1 with rfl | rfl <;> exact .cons (by decide) ih
  | case6 => exact none
  | case7 point mark sign c cs _ _ _ isMark ih =>
    simp only [Bool.and_eq_true, Bool.or_eq_true, beq_iff_eq] at isMark
    rcases isMark.1 with rfl | rfl <;> exact .cons (by decide) ih
  | case8 => exact none

theorem isTight_of_number (isDigit : c.isDigit = true)
    (h : s.number c before = .ok (s', l)) : l.IsTight := by
  unfold number at h
  split at h
  · dsimp only at h
    split at h
    · cases h
    · cases h
      split <;> trivial
  · dsimp only at h
    split at h
    · cases h
    · cases h
      exact .cons (isBlank_of_isDigit isDigit) (noBlank_take_numberLength _ _ _ _ _)

theorem isTight_of_quoted {kind : LexemeKind} {opening : Nat} {q : Quote}
    (isQuoted : kind = .ident ∨ kind = .string) (h : s.quoted kind opening q = .ok (s', l)) :
    l.IsTight := by
  unfold quoted at h
  split at h
  · cases h
  split at h
  · cases h
  · cases h
    rcases isQuoted with rfl | rfl <;> trivial

theorem isTight_of_plain (notBlank : Text.isBlank c = false) (h : s.plain c = .ok (s', l)) :
    l.IsTight := by
  unfold plain at h
  split at h
  · cases h
    exact .cons notBlank (by simp [NoBlank])
  · dsimp only at h
    split at h
    · cases h
    · cases h
      exact .cons notBlank (noBlank_takeWhile_isWordChar _)

theorem isTight_of_entry {kind : LexemeKind} {length : Nat} (notBlank : Text.isBlank c = false)
    (isTight : (s.lexeme kind ((c :: s.rest).take length)).IsTight)
    (h : s.entry c kind length = .ok (s', l)) : l.IsTight := by
  unfold entry at h
  split at h
  · split at h
    · cases h
    · cases h
      exact isTight
  · exact isTight_of_plain notBlank h

theorem isTight_of_lexemeAt (h : s.lexemeAt c before = .ok (s', some l)) : l.IsTight := by
  have read : ∀ {r : Except Overrun (Scan × Lexeme)}, (∀ p, r = .ok p → p.2.IsTight) →
      (r.map fun p => (p.1, some p.2)) = .ok (s', some l) → l.IsTight := by
    intro r isTight h
    obtain ⟨p, r_eq, p_eq⟩ := map_eq_ok_iff.1 h
    cases p_eq
    exact isTight p r_eq
  have skipped : ∀ {r : Except Overrun Scan},
      (r.map fun s => (s, (none : Option Lexeme))) ≠ .ok (s', some l) := by
    intro r h
    obtain ⟨t, _, t_eq⟩ := map_eq_ok_iff.1 h
    cases t_eq
  unfold lexemeAt at h
  dsimp only at h
  split at h
  · cases h
  next notBlank =>
  rw [Bool.not_eq_true] at notBlank
  split at h
  · next isDigit => exact read (fun _ => isTight_of_number isDigit) h
  split at h
  · exact read (fun _ => isTight_of_quoted (.inl rfl)) h
  split at h
  · exact read (fun _ => isTight_of_plain notBlank) h
  · next e length longest =>
    obtain ⟨mem, found⟩ := Vocabulary.mem_of_longest? longest
    split at h
    · exact read (fun _ => isTight_of_quoted (.inr rfl)) h
    · exact absurd h skipped
    · exact absurd h skipped
    · next isOperator =>
      have isTight : (s.lexeme .symbol ((c :: s.rest).take length)).IsTight :=
        Vocabulary.noBlank_take_of_matchLength? (Vocabulary.noBlank_of_operator mem isOperator)
          found
      exact read (fun _ => isTight_of_entry notBlank isTight) h
    · next isPhrase =>
      have isTight : (s.lexeme .phrase ((c :: s.rest).take length)).IsTight :=
        Vocabulary.isPunctuation_take_of_phrase mem isPhrase found
      exact read (fun _ => isTight_of_entry notBlank isTight) h

theorem isTight_of_next (h : s.next before = .ok (s', some l)) : l.IsTight := by
  unfold next at h
  dsimp only at h
  split at h
  · cases h
  split at h
  · cases h
  · exact isTight_of_lexemeAt h

/-- The induction is on the rounds of the lexer; the text that a command takes is a string. -/
theorem isTight_of_lexemes {ls : List Lexeme} (h : s.lexemes before = .ok ls) :
    ∀ l ∈ ls, l.IsTight := by
  fun_induction lexemes s before generalizing ls with
  | case1 =>
    cases h
    simp
  | case2 => cases h
  | case3 _ _ _ _ _ _ ih => exact ih h
  | case4 => cases h
  | case5 =>
    rename_i next _ _ _ _ _ _ _ ih
    obtain ⟨ls, rest, rfl⟩ := map_eq_ok_iff.1 h
    exact List.forall_mem_cons.2 ⟨isTight_of_next next, ih rest⟩
  | case6 =>
    rename_i next _ _ _ _ _ _ _ _ ih
    obtain ⟨ls, rest, rfl⟩ := map_eq_ok_iff.1 h
    exact List.forall_mem_cons.2
      ⟨isTight_of_next next, List.forall_mem_cons.2 ⟨trivial, ih rest⟩⟩
  | case7 _ _ _ _ _ next _ _ ih =>
    obtain ⟨ls, rest, rfl⟩ := map_eq_ok_iff.1 h
    exact List.forall_mem_cons.2 ⟨isTight_of_next next, ih rest⟩

end Scan

/-! ## Tokens -/

theorem noBlank_of_mem_blankWordsFrom {cs word w : List Char} (noBlank : NoBlank word)
    (h : w ∈ Text.blankWordsFrom cs word) : NoBlank w := by
  have reversed : ∀ {word : List Char}, NoBlank word → NoBlank word.reverse :=
    fun h c hc => h c (List.mem_reverse.1 hc)
  induction cs generalizing word with
  | nil =>
    rw [Text.blankWordsFrom] at h
    split at h
    · cases h
    · rw [List.mem_singleton.1 h]
      exact reversed noBlank
  | cons c cs ih =>
    have none : NoBlank [] := by simp [NoBlank]
    rw [Text.blankWordsFrom] at h
    split at h
    · split at h
      · exact ih none h
      · rcases List.mem_cons.1 h with rfl | h
        · exact reversed noBlank
        · exact ih none h
    · next notBlank => exact ih (.cons (Bool.not_eq_true _ ▸ notBlank) noBlank) h

theorem Lexeme.IsTight.noBlank {l : Lexeme} (isTight : l.IsTight) {t : Token} (h : t ∈ l.tokens)
    (notString : t.kind ≠ .string) (notIdent : t.kind ≠ .ident) : NoBlank t.text.toList := by
  obtain ⟨kind, cs, line, col⟩ := l
  have plain : (isPunctuation cs = true → NoBlank cs) →
      t ∈ (if isPunctuation cs then
          if isBracketRun cs then cs.map fun c => ⟨.punct, String.ofList [c], line, col⟩
          else [⟨.punct, String.ofList cs, line, col⟩]
        else (Text.blankWords cs).map fun w => ⟨.word, String.ofList w, line, col⟩) →
      NoBlank t.text.toList := by
    intro ofPunctuation h
    split at h
    · next isPunct =>
      split at h
      · obtain ⟨c, mem, rfl⟩ := List.mem_map.1 h
        rw [String.toList_ofList]
        exact .cons (ofPunctuation isPunct c mem) (by simp [NoBlank])
      · cases List.mem_singleton.1 h
        rw [String.toList_ofList]
        exact ofPunctuation isPunct
    · obtain ⟨w, mem, rfl⟩ := List.mem_map.1 h
      rw [String.toList_ofList]
      exact noBlank_of_mem_blankWordsFrom (by simp [NoBlank]) mem
  cases kind with
  | ident =>
    cases List.mem_singleton.1 h
    exact absurd rfl notIdent
  | string =>
    cases List.mem_singleton.1 h
    exact absurd rfl notString
  | number =>
    cases List.mem_singleton.1 h
    rw [String.toList_ofList]
    exact isTight
  | symbol => exact plain (fun _ => isTight) h
  | word => exact plain (fun _ => isTight) h
  | phrase =>
    have notPunctuation : isPunctuation cs = false := isTight
    exact plain (fun isPunct => by rw [notPunctuation] at isPunct; cases isPunct) h

theorem noBlank_of_tokenize {text source : String} {ts : List Token}
    (h : tokenize text source = .ok ts) {t : Token} (mem : t ∈ ts) (notString : t.kind ≠ .string)
    (notIdent : t.kind ≠ .ident) : NoBlank t.text.toList := by
  unfold tokenize at h
  split at h
  · cases h
  · next ls read =>
    cases h
    obtain ⟨l, ofLexemes, ofLexeme⟩ := List.mem_flatMap.1 mem
    exact (Scan.isTight_of_lexemes read l ofLexemes).noBlank ofLexeme notString notIdent

end SpannerDdl
