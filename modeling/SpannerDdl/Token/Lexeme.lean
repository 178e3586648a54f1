import SpannerDdl.Text.Alphanumeric
import SpannerDdl.Text.Numeral
import SpannerDdl.Text.UpperCase
import SpannerDdl.Token.Vocabulary

/-! # Lexemes

A text is cut into lexemes: quoted identifiers, strings, numbers, symbols, phrases and words. Blanks
and comments separate them and are dropped.

* `Lexeme`: a piece of a text with its kind and place.
* `Scan.next s before`: one round of the lexer, which reads a run of blanks, a comment or a lexeme.
* `lexemes text`: the lexemes of a text, or the place where it ended too early.

A command word at the start of a statement takes the text up to the semicolon as one string.
-/

set_option autoImplicit false

namespace SpannerDdl

/-- What a lexeme is. A phrase is an entry of several words of the vocabulary. -/
inductive LexemeKind where
  | ident
  | string
  | number
  | symbol
  | phrase
  | word
  deriving DecidableEq, Repr

/-- A piece of a text. Strings and identifiers hold what they denote, all others what is written.
Line and column are those of the last character. -/
structure Lexeme where
  kind : LexemeKind
  text : List Char
  line : Nat
  col : Nat
  deriving DecidableEq, Repr

/-- A lexeme that ends where the scan stands. -/
def Scan.lexeme (s : Scan) (kind : LexemeKind) (text : List Char) : Lexeme :=
  ⟨kind, text, s.line, s.col⟩

namespace Lexeme

/-- Whether the lexeme is the given symbol. -/
def isSymbol (l : Lexeme) (c : Char) : Bool := l.kind == .symbol && l.text == [c]

/-- Whether the lexeme is a command word. -/
def isCommand (l : Lexeme) : Bool :=
  l.kind == .word && Vocabulary.commands.contains (Text.upper (String.ofList l.text))

/-- Whether a command may follow the lexeme: it is a semicolon or the phrase that begins a
transaction. -/
def opensCommand (l : Lexeme) : Bool :=
  l.isSymbol ';' ||
    (l.kind == .phrase && (l.text.map Char.toUpper).take 5 == ['B', 'E', 'G', 'I', 'N'])

end Lexeme

namespace Scan

/-- Moves `n` characters on, or stays if `n` is zero. -/
def forward (s : Scan) (n : Nat) : Except Overrun Scan := if n = 0 then .ok s else s.advance n

theorem length_of_forward {s s' : Scan} {n : Nat} (h : s.forward n = .ok s') :
    s'.rest.length ≤ s.rest.length := by
  unfold forward at h
  split at h
  · simp only [Except.ok.injEq] at h; subst h; exact Nat.le_refl _
  · exact Nat.le_of_lt (length_of_advance h)

/-! ## Numbers -/

/-- How many characters of a text continue a number. A number has at most one point, one exponent
mark and one sign behind it, and the sign only in front of a digit; `afterAt` tells that the number
follows an at sign and ends before a point. -/
def numberLength (afterAt point mark sign : Bool) : List Char → Nat
  | [] => 0
  | c :: cs =>
    if c.isDigit then numberLength afterAt point mark sign cs + 1
    else if c == '.' && !point then
      if afterAt then 0 else numberLength afterAt true mark sign cs + 1
    else if (c == '-' || c == '+') && mark && !sign then
      if (cs.head?.map Char.isDigit).getD false then numberLength afterAt point mark true cs + 1
      else 0
    else if (c == 'e' || c == 'E') && !mark then numberLength afterAt point true sign cs + 1
    else 0

/-- A digit in base sixteen, in which the decimal digits may be of any script. -/
def isHexDigit (c : Char) : Bool := (Text.hexValue? c).isSome || (Text.digitValue? c).isSome

/-- Whether the text behind `0x` is a number in base sixteen. An underscore may come first. -/
def isHexNumeral : List Char → Bool
  | '_' :: cs => Text.isNumeral isHexDigit cs
  | cs => Text.isNumeral isHexDigit cs

/-- The number whose first digit is under view. Behind `0x` the whole word is taken: as a string
if it is a number in base sixteen, and as an identifier otherwise. -/
def number (s : Scan) (digit : Char) (before : Option Lexeme) : Except Overrun (Scan × Lexeme) :=
  if digit == '0' && (s.peek == some 'x' || s.peek == some 'X') then
    let word := s.rest.takeWhile Vocabulary.isWordChar
    match s.forward word.length with
    | .error e => .error e
    | .ok s' =>
      .ok (s', if isHexNumeral (word.drop 1) then s'.lexeme .string (word.drop 1)
        else s'.lexeme .ident (digit :: word))
  else
    let afterAt := (before.map (·.isSymbol '@')).getD false
    let length := numberLength afterAt false false false s.rest
    match s.forward length with
    | .error e => .error e
    | .ok s' => .ok (s', s'.lexeme .number (digit :: s.rest.take length))

/-! ## Comments -/

/-- Moves to the first character of the closing mark of a comment, or to the last character of the
text if there is none. -/
def seekClosing (closing : List Char) (s : Scan) : Except Overrun Scan :=
  if s.rest.isEmpty || (s.char.toList ++ s.rest).take closing.length == closing then .ok s
  else
    match h : s.advance 1 with
    | .error e => .error e
    | .ok s' =>
      have := length_of_advance h
      s'.seekClosing closing
termination_by s.rest.length

/-- Leaves a comment whose opening mark, of the given length, is under view. A comment without an
end is an error. -/
def blockComment (s : Scan) (opening : Nat) (closing : List Char) : Except Overrun Scan :=
  match s.advance opening with
  | .error e => .error e
  | .ok s1 =>
    match s1.seekClosing closing with
    | .error e => .error e
    | .ok s2 => s2.advance (closing.length - 1)

/-- Moves to the last character of the line. -/
def lineComment (s : Scan) : Except Overrun Scan :=
  s.forward (s.rest.takeWhile (!isBreak ·)).length

theorem length_of_seekClosing {closing : List Char} {s s' : Scan}
    (h : s.seekClosing closing = .ok s') : s'.rest.length ≤ s.rest.length := by
  fun_induction seekClosing closing s with
  | case1 s hs =>
    simp only [Except.ok.injEq] at h
    subst h
    exact Nat.le_refl _
  | case2 => simp at h
  | case3 s hs s1 h1 s2 ih => exact Nat.le_trans (ih h) (Nat.le_of_lt s2)

theorem length_of_blockComment {s s' : Scan} {opening : Nat} {closing : List Char}
    (h : s.blockComment opening closing = .ok s') : s'.rest.length ≤ s.rest.length := by
  unfold blockComment at h
  split at h
  · simp at h
  · rename_i s1 h1
    split at h
    · simp at h
    · rename_i s2 h2
      have s3 := length_of_advance h1
      have s4 := length_of_seekClosing h2
      have s5 := length_of_advance h
      omega

theorem length_of_number {s s' : Scan} {digit : Char} {before : Option Lexeme} {l : Lexeme}
    (h : s.number digit before = .ok (s', l)) : s'.rest.length ≤ s.rest.length := by
  unfold number at h
  split at h <;>
  · simp only at h
    split at h
    · simp at h
    · rename_i s1 h1
      simp only [Except.ok.injEq, Prod.mk.injEq] at h
      obtain ⟨rfl, _⟩ := h
      exact length_of_forward h1

end Scan

/-! ## Quoted text -/

theorem Quote.length_of_simple? {q : Quote} {s s' : Scan} {text : String}
    (h : q.simple? s = some (text, s')) : s'.rest.length ≤ s.rest.length := by
  unfold Quote.simple? at h
  split at h
  · rename_i d c hd hc
    simp only at h
    split at h
    · simp at h
    · rename_i x behind hb
      split at h
      · simp at h
      · simp only [Option.some.injEq, Prod.mk.injEq] at h
        obtain ⟨_, rfl⟩ := h
        have s1 := congrArg List.length hb
        simp only [List.length_drop, List.length_cons] at s1
        show behind.length ≤ s.rest.length
        omega
  · simp at h

theorem Quote.length_of_scanFrom {q : Quote} {done : List Char} {s s' : Scan} {text : String}
    (h : q.scanFrom done s = .ok (text, s')) : s'.rest.length ≤ s.rest.length := by
  fun_induction Quote.scanFrom q done s with
  | case1 => simp at h
  | case2 => simp at h
  | case3 done s c hc hp hl =>
    simp only [Except.ok.injEq, Prod.mk.injEq] at h
    obtain ⟨_, rfl⟩ := h
    exact Nat.le_refl _
  | case4 done s c hc hp hl =>
    cases h1 : s.steps (q.delimiter.length - 2) with
    | error e => simp [h1, Except.map] at h
    | ok s1 =>
      simp only [h1, Except.map, Except.ok.injEq, Prod.mk.injEq] at h
      obtain ⟨_, rfl⟩ := h
      exact Nat.le_of_lt (Scan.length_of_steps h1)
  | case5 => simp at h
  | case6 done s c hc chars more hp s1 h1 s2 ih => exact Nat.le_trans (ih h) (Nat.le_of_lt s2)

theorem Quote.length_of_scan {q : Quote} {s s' : Scan} {text : String}
    (h : q.scan s = .ok (text, s')) : s'.rest.length ≤ s.rest.length := by
  unfold Quote.scan at h
  split at h
  · rename_i found hf
    simp only [Except.ok.injEq] at h
    subst h
    exact Quote.length_of_simple? hf
  · exact Quote.length_of_scanFrom h

namespace Scan

/-- Quoted text whose opening mark, of the given length, is under view. -/
def quoted (s : Scan) (kind : LexemeKind) (opening : Nat) (q : Quote) :
    Except Overrun (Scan × Lexeme) :=
  match s.advance opening with
  | .error e => .error e
  | .ok s1 =>
    match q.scan s1 with
    | .error e => .error e
    | .ok (text, s2) => .ok (s2, s2.lexeme kind text.toList)

theorem length_of_quoted {s s' : Scan} {kind : LexemeKind} {opening : Nat} {q : Quote} {l : Lexeme}
    (h : s.quoted kind opening q = .ok (s', l)) : s'.rest.length ≤ s.rest.length := by
  unfold quoted at h
  split at h
  · simp at h
  · rename_i s1 h1
    split at h
    · simp at h
    · rename_i text s2 h2
      simp only [Except.ok.injEq, Prod.mk.injEq] at h
      obtain ⟨rfl, _⟩ := h
      exact Nat.le_trans (Quote.length_of_scan h2) (Nat.le_of_lt (length_of_advance h1))

/-! ## Words and symbols -/

/-- A symbol or a word that starts with `c`. -/
def plain (s : Scan) (c : Char) : Except Overrun (Scan × Lexeme) :=
  if Vocabulary.isSymbol c then .ok (s, s.lexeme .symbol [c])
  else
    let word := s.rest.takeWhile Vocabulary.isWordChar
    match s.forward word.length with
    | .error e => .error e
    | .ok s' => .ok (s', s'.lexeme .word (c :: word))

/-- Whether an entry of the given length may stand at the front of a text: a symbol is among its
characters and the next, or a blank or the end of the text follows. -/
def standsAlone (length : Nat) (cs : List Char) : Bool :=
  (cs.take (length + 1)).any Vocabulary.isSymbol ||
    match (cs.drop length).head? with
    | some c => Text.isBlank c
    | none => true

/-- An operator or a phrase of the given length that starts with `c`, if it may stand there. Its
place is counted in one step, so that a line break inside a phrase does not count. -/
def entry (s : Scan) (c : Char) (kind : LexemeKind) (length : Nat) :
    Except Overrun (Scan × Lexeme) :=
  if standsAlone length (c :: s.rest) then
    match s.forward (length - 1) with
    | .error e => .error e
    | .ok s' => .ok (s', s'.lexeme kind ((c :: s.rest).take length))
  else s.plain c

theorem length_of_plain {s s' : Scan} {c : Char} {l : Lexeme} (h : s.plain c = .ok (s', l)) :
    s'.rest.length ≤ s.rest.length := by
  unfold plain at h
  split at h
  · simp only [Except.ok.injEq, Prod.mk.injEq] at h
    obtain ⟨rfl, _⟩ := h
    exact Nat.le_refl _
  · simp only at h
    split at h
    · simp at h
    · rename_i s1 h1
      simp only [Except.ok.injEq, Prod.mk.injEq] at h
      obtain ⟨rfl, _⟩ := h
      exact length_of_forward h1

theorem length_of_entry {s s' : Scan} {c : Char} {kind : LexemeKind} {length : Nat} {l : Lexeme}
    (h : s.entry c kind length = .ok (s', l)) : s'.rest.length ≤ s.rest.length := by
  unfold entry at h
  split at h
  · split at h
    · simp at h
    · rename_i s1 h1
      simp only [Except.ok.injEq, Prod.mk.injEq] at h
      obtain ⟨rfl, _⟩ := h
      exact length_of_forward h1
  · exact length_of_plain h

/-! ## One round -/

/-- What starts with the character `c` under view: nothing if `c` is a blank or starts a comment,
or a lexeme. -/
def lexemeAt (s : Scan) (c : Char) (before : Option Lexeme) :
    Except Overrun (Scan × Option Lexeme) :=
  let found (r : Except Overrun (Scan × Lexeme)) : Except Overrun (Scan × Option Lexeme) :=
    r.map fun p => (p.1, some p.2)
  if Text.isBlank c then .ok (s, none)
  else if c.isDigit then found (s.number c before)
  else if c == '`' then found (s.quoted .ident 1 Vocabulary.identQuote)
  else
    match Vocabulary.longest? (c :: s.rest) with
    | none => found (s.plain c)
    | some (e, length) =>
      match e.meaning with
      | .quote q => found (s.quoted .string length q)
      | .lineComment => s.lineComment.map fun s' => (s', none)
      | .blockComment closing => (s.blockComment length closing).map fun s' => (s', none)
      | .operator => found (s.entry c .symbol length)
      | .phrase => found (s.entry c .phrase length)

theorem length_of_lexemeAt {s s' : Scan} {c : Char} {before l : Option Lexeme}
    (h : s.lexemeAt c before = .ok (s', l)) : s'.rest.length ≤ s.rest.length := by
  have hfound : ∀ {r : Except Overrun (Scan × Lexeme)},
      (∀ t l', r = .ok (t, l') → t.rest.length ≤ s.rest.length) →
      (r.map fun p => (p.1, some p.2)) = .ok (s', l) → s'.rest.length ≤ s.rest.length := by
    intro r hr hm
    cases r with
    | error e => simp [Except.map] at hm
    | ok p =>
      simp only [Except.map, Except.ok.injEq, Prod.mk.injEq] at hm
      obtain ⟨rfl, _⟩ := hm
      exact hr p.1 p.2 rfl
  have hcomment : ∀ {r : Except Overrun Scan},
      (∀ t, r = .ok t → t.rest.length ≤ s.rest.length) →
      (r.map fun t => (t, (none : Option Lexeme))) = .ok (s', l) →
      s'.rest.length ≤ s.rest.length := by
    intro r hr hm
    cases r with
    | error e => simp [Except.map] at hm
    | ok t =>
      simp only [Except.map, Except.ok.injEq, Prod.mk.injEq] at hm
      obtain ⟨rfl, _⟩ := hm
      exact hr t rfl
  unfold lexemeAt at h
  simp only at h
  split at h
  · simp only [Except.ok.injEq, Prod.mk.injEq] at h
    obtain ⟨rfl, _⟩ := h
    exact Nat.le_refl _
  · split at h
    · exact hfound (fun t l' => length_of_number) h
    · split at h
      · exact hfound (fun t l' => length_of_quoted) h
      · split at h
        · exact hfound (fun t l' => length_of_plain) h
        · split at h
          · exact hfound (fun t l' => length_of_quoted) h
          · exact hcomment (fun t => length_of_forward) h
          · exact hcomment (fun t => length_of_blockComment) h
          · exact hfound (fun t l' => length_of_entry) h
          · exact hfound (fun t l' => length_of_entry) h

/-- One round of the lexer: a run of spaces and tabs, another blank, a comment or a lexeme. -/
def next (s : Scan) (before : Option Lexeme) : Except Overrun (Scan × Option Lexeme) :=
  let gap := (s.rest.takeWhile fun c => c == ' ' || c == '\t').length
  match s.advance (if gap = 0 then 1 else gap) with
  | .error e => .error e
  | .ok s' =>
    match s'.char with
    | none => .ok (s', none)
    | some c => s'.lexemeAt c before

/-- Each round reads at least one character. -/
theorem length_of_next {s s' : Scan} {before l : Option Lexeme}
    (h : s.next before = .ok (s', l)) : s'.rest.length < s.rest.length := by
  unfold next at h
  simp only at h
  split at h
  · simp at h
  · rename_i s1 h1
    have s2 := length_of_advance h1
    split at h
    · simp only [Except.ok.injEq, Prod.mk.injEq] at h
      obtain ⟨rfl, _⟩ := h
      exact s2
    · exact Nat.lt_of_le_of_lt (length_of_lexemeAt h) s2

/-! ## Whole texts -/

/-- Moves on, round by round, until a semicolon or the end of the text comes next. -/
def skipCommand (s : Scan) (before : Option Lexeme) : Except Overrun Scan :=
  if s.rest.isEmpty then .ok s
  else
    match h : s.next before with
    | .error e => .error e
    | .ok (s', l) =>
      have := length_of_next h
      if s'.peek == some ';' then .ok s' else s'.skipCommand (l.or before)
termination_by s.rest.length

theorem length_of_skipCommand {s s' : Scan} {before : Option Lexeme}
    (h : s.skipCommand before = .ok s') : s'.rest.length ≤ s.rest.length := by
  fun_induction skipCommand s before with
  | case1 => simp only [Except.ok.injEq] at h; subst h; exact Nat.le_refl _
  | case2 => simp at h
  | case3 s before hs s1 l h1 s2 hp =>
    simp only [Except.ok.injEq] at h
    subst h
    exact Nat.le_of_lt s2
  | case4 s before hs s1 l h1 s2 hp ih => exact Nat.le_trans (ih h) (Nat.le_of_lt s2)

/-- Whether a lexeme behind `before` takes the rest of its statement as text. -/
def takesText (s : Scan) (before : Option Lexeme) (l : Lexeme) : Bool :=
  l.isCommand && s.peek != some ';' && (before.map Lexeme.opensCommand).getD true

/-- The lexemes of the text at a scan, where `before` is the last lexeme read. -/
def lexemes (s : Scan) (before : Option Lexeme) : Except Overrun (List Lexeme) :=
  if s.rest.isEmpty then .ok []
  else
    match h : s.next before with
    | .error e => .error e
    | .ok (s', none) =>
      have := length_of_next h
      s'.lexemes before
    | .ok (s', some l) =>
      have := length_of_next h
      if s'.takesText before l then
        match h2 : s'.skipCommand (some l) with
        | .error e => .error e
        | .ok s2 =>
          have := length_of_skipCommand h2
          let text := Text.trimChars (s'.rest.take (s2.read - s'.read))
          if text.isEmpty then (s2.lexemes (some l)).map (l :: ·)
          else
            let string := s2.lexeme .string text
            (s2.lexemes (some string)).map fun ls => l :: string :: ls
      else (s'.lexemes (some l)).map (l :: ·)
termination_by s.rest.length

end Scan

/-- The lexemes of a text. -/
def lexemes (text : List Char) : Except Overrun (List Lexeme) :=
  Scan.lexemes { rest := text } none

end SpannerDdl
