import SpannerDdl.Yaml.Fault

/-! # Places in a YAML text

* `isBreak`, `isBlank`: line breaks and blanks.
* `Cursor`: the rest of a text and its place by line, column and offset.
* `Cursor.forward`, `Cursor.span`, `Cursor.lineBreak?`: moving on.
* `Cursor.isAtGap`, `Cursor.isAtMarker`: what stands at a place.
* `Cursor.refuse`: the fault of a text that cannot go on at a place as it does.

Line ends other than a line feed are left to the reader of the file.
-/

set_option autoImplicit false

namespace SpannerDdl.Yaml

/-! ## Characters -/

/-- The characters that end a line. -/
def isBreak (c : Char) : Bool :=
  c == '\n' || c == Char.ofNat 0x85 || c == Char.ofNat 0x2028 || c == Char.ofNat 0x2029

/-- Spaces and tabs. -/
def isBlank (c : Char) : Bool := c == ' ' || c == '\t'

/-- Blanks and line breaks, which separate tokens. -/
def isGap (c : Char) : Bool := isBlank c || isBreak c

/-- Letters and digits of ASCII, the hyphen and the underscore. -/
def isNameChar (c : Char) : Bool := c.isAlphanum || c == '-' || c == '_'

/-! ## Places -/

/-- The rest of a text and the place where it starts, counted from zero. A text that is cut short
has a fault behind its last character. -/
structure Cursor where
  rest : List Char
  line : Nat := 0
  column : Nat := 0
  offset : Nat := 0
  cut : Option Fault := none
  deriving Repr

namespace Cursor

/-- The character some places ahead. -/
def peek (c : Cursor) (ahead : Nat := 0) : Option Char := c.rest[ahead]?

/-- The place behind the next character. A byte order mark takes no column. -/
def next (c : Cursor) : Cursor :=
  match c.rest with
  | [] => c
  | ch :: rest =>
    if isBreak ch then { c with rest, line := c.line + 1, column := 0, offset := c.offset + 1 }
    else
      let column := if ch = Char.ofNat 0xFEFF then c.column else c.column + 1
      { c with rest, column, offset := c.offset + 1 }

/-- The place behind so many characters. -/
def forward (c : Cursor) : Nat → Cursor
  | 0 => c
  | n + 1 => c.next.forward n

/-- The characters with a property that come next, and the place behind them. -/
def span (c : Cursor) (p : Char → Bool) : List Char × Cursor :=
  let taken := c.rest.takeWhile p
  (taken, c.forward taken.length)

/-- The fault of a text that cannot go on at this place as it does: it is malformed, unless it is
cut short just here. -/
def refuse {α : Type} (c : Cursor) : Except Fault α :=
  .error (if c.rest.isEmpty then c.cut.getD .malformed else .malformed)

/-- Whether the place is where a text is cut short. -/
def isCut (c : Cursor) : Bool := c.rest.isEmpty && c.cut.isSome

/-- The place behind the spaces that come next. -/
def skipSpaces (c : Cursor) : Cursor := (c.span (· == ' ')).2

/-- The place at the end of a comment, if one comes next. -/
def skipComment (c : Cursor) : Cursor :=
  if c.peek = some '#' then (c.span (!isBreak ·)).2 else c

/-- The line break that comes next, and the place behind it. All but two count as a line feed. -/
def lineBreak? (c : Cursor) : Option (Char × Cursor) :=
  match c.peek with
  | none => none
  | some ch =>
    if ch = Char.ofNat 0x2028 || ch = Char.ofNat 0x2029 then some (ch, c.next)
    else if isBreak ch then some ('\n', c.next)
    else none

/-- Whether a gap or the end of the text is some places ahead. -/
def isAtGap (c : Cursor) (ahead : Nat := 0) : Bool := ((c.peek ahead).map isGap).getD true

/-- Whether a line break or the end of the text comes next. -/
def isAtLineEnd (c : Cursor) : Bool := (c.peek.map isBreak).getD true

/-- Whether a space, a line break or the end of the text comes next. -/
def isAtSpace (c : Cursor) : Bool := (c.peek.map fun ch => ch == ' ' || isBreak ch).getD true

/-- Whether three of a character and a gap come next. -/
def isAtTriple (c : Cursor) (ch : Char) : Bool :=
  c.rest.take 3 == [ch, ch, ch] && c.isAtGap 3

/-- Whether a marker between documents comes next. -/
def isAtMarker (c : Cursor) : Bool := c.isAtTriple '-' || c.isAtTriple '.'

end Cursor

end SpannerDdl.Yaml
