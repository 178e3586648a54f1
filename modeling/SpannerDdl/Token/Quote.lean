import SpannerDdl.Text.Hex
import SpannerDdl.Token.Scan

/-! # Quoted text

Strings stand in single or double quotes or in three of either; identifiers stand in backticks. A
backslash starts an escape, except in raw strings. In byte strings a character beyond ASCII stands
for the bytes of its UTF-8 form, each shown as the character with that number.

* `Quote`: a way of quoting.
* `Quote.scan q s`: the text up to the closing delimiter, for a scan on its first character.
-/

set_option autoImplicit false

namespace SpannerDdl

/-- A way of quoting: the closing delimiter, the characters that may start an escape, and whether
the string is raw or made of bytes. -/
structure Quote where
  delimiter : List Char
  escapes : List Char
  raw : Bool := false
  bytes : Bool := false
  deriving DecidableEq, Repr

namespace Quote

/-! ## Escapes -/

/-- The number `count` digits of the given base stand for, with the text behind them. Reading
stops before a number above `limit`. -/
def digits? (value? : Char → Option Nat) (base limit : Nat) :
    Nat → Nat → List Char → Option (Nat × List Char)
  | 0, n, cs => some (n, cs)
  | _ + 1, _, [] => none
  | count + 1, n, c :: cs =>
    match value? c with
    | none => none
    | some d =>
      if limit < n * base + d then none else digits? value? base limit count (n * base + d) cs

/-- The value of an octal digit. -/
def octalValue? (c : Char) : Option Nat :=
  if '0' ≤ c ∧ c ≤ '7' then some (c.toNat - 0x30) else none

/-- The number of digits behind the letter of a numeric escape. -/
def digitCount? : Char → Option Nat
  | 'x' => some 2
  | 'X' => some 2
  | 'u' => some 4
  | 'U' => some 8
  | _ => none

/-- The code point of an escape by number, whose backslash has been read, with the text behind
it. -/
def codePoint? : List Char → Option (Nat × List Char)
  | [] => none
  | letter :: cs =>
    match digitCount? letter with
    | some count => digits? Text.hexValue? 16 0x10FFFF count 0 cs
    | none => digits? octalValue? 8 255 3 0 (letter :: cs)

/-- The character of an escape by number, whose backslash has been read, with the text behind it.
The two halves of a surrogate pair make one character; a half alone makes none. -/
def numeric? (cs : List Char) : Option (Char × List Char) :=
  match codePoint? cs with
  | none => none
  | some (n, rest) =>
    if 0xD800 ≤ n ∧ n < 0xDC00 then
      match rest with
      | '\\' :: letter :: second =>
        if some letter = cs.head? then
          match codePoint? (letter :: second) with
          | some (low, behind) =>
            if 0xDC00 ≤ low ∧ low < 0xE000 then
              some (Char.ofNat (0x10000 + (n - 0xD800) * 0x400 + (low - 0xDC00)), behind)
            else none
          | none => none
        else none
      | _ => none
    else if 0xDC00 ≤ n ∧ n < 0xE000 then none
    else some (Char.ofNat n, rest)

/-- The character behind the backslash of a short escape stands for this one. -/
def control? : Char → Option Char
  | 'a' => some (Char.ofNat 7)
  | 'b' => some (Char.ofNat 8)
  | 'f' => some (Char.ofNat 12)
  | 'n' => some '\n'
  | 'r' => some '\r'
  | 't' => some '\t'
  | 'v' => some (Char.ofNat 11)
  | '\\' => some '\\'
  | _ => none

/-- A character of the text itself. -/
def plain (q : Quote) (c : Char) : List Char :=
  if q.bytes && decide (0x80 ≤ c.toNat) then
    (String.ofList [c]).toUTF8.toList.map fun b => Char.ofNat b.toNat
  else [c]

/-! ## Text without escapes -/

/-- The text up to a delimiter of one character, if it stands as it is: it holds no backslash, and
the delimiter is not doubled where doubling it escapes it. Only line feeds end a line of it. -/
def simple? (q : Quote) (s : Scan) : Option (String × Scan) :=
  match q.delimiter, s.char with
  | [d], some c =>
    let text := (c :: s.rest).takeWhile (· != d)
    match (c :: s.rest).drop text.length with
    | [] => none
    | _ :: behind =>
      if (behind.head? == some d && q.escapes.contains d) || text.contains '\\' then none
      else
        let breaks := text.count '\n'
        some (String.ofList (text.flatMap q.plain),
          { char := some d
            rest := behind
            line := s.line + breaks
            col := if breaks = 0 then s.col + text.length
              else (text.reverse.takeWhile (· != '\n')).length + 1
            read := s.read + text.length })
  | _, _ => none

/-! ## The general case -/

/-- What the text at a scan contributes. -/
inductive Piece where
  | closing
  | text (chars : List Char) (more : Nat)
  | unclosed
  deriving Repr

/-- The piece at the character `c`, with the text `rest` behind it: the closing delimiter, some
characters of the text with the number of characters they are written with behind `c`, or a text
that ends without a delimiter. -/
def piece (q : Quote) (c : Char) (rest : List Char) : Piece :=
  let backslash := !q.raw && c == '\\'
  match (if backslash then numeric? rest else none) with
  | some (d, behind) =>
    if behind.isEmpty then shortPiece backslash else .text [d] (rest.length - behind.length)
  | none => shortPiece backslash
where
  /-- The piece if no escape by number is there. -/
  shortPiece (backslash : Bool) : Piece :=
    match rest with
    | next :: _ :: _ =>
      if backslash then
        match control? next with
        | some d => .text [d] 1
        | none => .text (q.plain next) 1
      else longPiece
    | _ => longPiece
  /-- The piece if no escape is there that a backslash starts. -/
  longPiece : Piece :=
    let closes := match rest.head? with
      | some next => q.delimiter == [next] ||
          (decide (1 < q.delimiter.length) && q.delimiter.head? == some next)
      | none => false
    let doubled := match rest.head? with
      | some next => q.escapes.contains next
      | none => false
    if q.escapes.contains c && (closes || doubled) &&
        ((c != '\'' && c != '"') || rest.head? == some c) then
      match rest with
      | next :: _ :: _ => .text (if closes && !q.raw then [next] else [c, next]) 1
      | _ => .unclosed
    else if q.delimiter.isPrefixOf (c :: rest) then .closing
    else if rest.isEmpty then .unclosed
    else .text (q.plain c) 0

/-- The text up to the closing delimiter, of which `done` holds the characters read so far, last
one first. The scan ends on the last character of the delimiter. -/
def scanFrom (q : Quote) (done : List Char) (s : Scan) : Except Overrun (String × Scan) :=
  match s.char with
  | none => .error ⟨s.read⟩
  | some c =>
    match q.piece c s.rest with
    | .unclosed => .error ⟨s.read⟩
    | .closing =>
      if q.delimiter.length ≤ 1 then .ok (String.ofList done.reverse, s)
      else (s.steps (q.delimiter.length - 2)).map (String.ofList done.reverse, ·)
    | .text chars more =>
      match h : s.steps more with
      | .error e => .error e
      | .ok s' =>
        have := Scan.length_of_steps h
        q.scanFrom (chars.reverse ++ done) s'
termination_by s.rest.length

/-- The text up to the closing delimiter, for a scan on its first character. -/
def scan (q : Quote) (s : Scan) : Except Overrun (String × Scan) :=
  match q.simple? s with
  | some found => .ok found
  | none => q.scanFrom [] s

end Quote

end SpannerDdl
