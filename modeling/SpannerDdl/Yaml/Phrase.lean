import SpannerDdl.Text.Numeral
import SpannerDdl.Yaml.Cursor

/-! # Scalars in a YAML text

A scalar is plain, in single or double quotes, or a block of lines. Where it goes on over several
lines they are folded: a single line break becomes a space, and of more the first is dropped.

* `plain`, `quoted`, `block`: the text of a scalar and the place behind it. A text in double quotes
  may hold halves of pairs.
-/

set_option autoImplicit false

namespace SpannerDdl.Yaml

open Text (CodePoints)

/-- What a line break and the empty lines behind it become. -/
def fold (first : Char) (breaks : List Char) : List Char :=
  if first != '\n' then first :: breaks else if breaks.isEmpty then [' '] else breaks

/-! ## Quotes -/

/-- The characters that a backslash and one character stand for. -/
def escapes : List (Char × Char) :=
  [('0', Char.ofNat 0), ('a', Char.ofNat 7), ('b', Char.ofNat 8), ('t', '\t'), ('\t', '\t'),
    ('n', '\n'), ('v', Char.ofNat 11), ('f', Char.ofNat 12), ('r', '\r'), ('e', Char.ofNat 27),
    (' ', ' '), ('"', '"'), ('\\', '\\'), ('/', '/'), ('N', Char.ofNat 0x85),
    ('_', Char.ofNat 0xA0), ('L', Char.ofNat 0x2028), ('P', Char.ofNat 0x2029)]

/-- The numbers of hexadecimal digits in an escape. -/
def escapeLengths : List (Char × Nat) := [('x', 2), ('u', 4), ('U', 8)]

/-- The greatest number that an escape may hold, be it a code point or not. -/
def escapeLimit : Nat := 0x7FFFFFFF

/-- The code point of hexadecimal digits. It may be half a pair. -/
def hexCode (digits : List Char) : Except Fault Nat :=
  let n := Text.numberOf 16 digits
  if escapeLimit < n then .error .escapeTooLarge
  else if 0x10FFFF < n then .error .noCodePoint
  else .ok n

/-- The empty lines behind a line break in quotes. A marker between documents may not come. -/
def quotedBreaks : Nat → Cursor → Except Fault (List Char × Cursor)
  | 0, c => c.refuse
  | fuel + 1, c =>
    if c.isAtMarker then c.refuse
    else
      let c := (c.span isBlank).2
      match c.lineBreak? with
      | none => .ok ([], c)
      | some (b, c) => (quotedBreaks fuel c).map fun p => (b :: p.1, p.2)

/-- What a gap in quotes becomes, which is folded if it holds a line break. -/
def quotedGap (fuel : Nat) (c : Cursor) : Except Fault (List Char × Cursor) :=
  let (blanks, c) := c.span isBlank
  match c.lineBreak? with
  | some (b, c) => (quotedBreaks fuel c).map fun p => (fold b p.1, p.2)
  | none => if c.rest.isEmpty then c.refuse else .ok (blanks, c)

/-- What comes behind a backslash in double quotes. -/
def quotedEscape (fuel : Nat) (c : Cursor) : Except Fault (CodePoints × Cursor) :=
  match c.peek.bind (List.lookup · escapes), c.peek.bind (List.lookup · escapeLengths) with
  | some e, _ => .ok ([e.toNat], c.next)
  | none, some n =>
    let (digits, _) := c.next.span fun ch => (Text.hexValue? ch).isSome
    let digits := digits.take n
    let behind := c.next.forward digits.length
    if digits.length < n then behind.refuse else (hexCode digits).map fun code => ([code], behind)
  | none, none =>
    match c.lineBreak? with
    | none => c.refuse
    | some (_, c) => (quotedBreaks fuel c).map fun p => (CodePoints.ofChars p.1, p.2)

/-- The scalar behind an opening quote; its text so far is kept in reverse. -/
def quotedFrom (isDouble : Bool) : Nat → CodePoints → Cursor → Except Fault (CodePoints × Cursor)
  | 0, _, c => c.refuse
  | fuel + 1, seen, c =>
    match c.rest with
    | [] => c.refuse
    | ch :: rest =>
      if isGap ch then do
        let (gap, c) ← quotedGap fuel c
        quotedFrom isDouble fuel ((CodePoints.ofChars gap).reverse ++ seen) c
      else if isDouble && ch == '\\' then do
        let (codes, c) ← quotedEscape fuel c.next
        quotedFrom isDouble fuel (codes.reverse ++ seen) c
      else if ch == (if isDouble then '"' else '\'') then
        if !isDouble && rest.head? == some '\'' then
          quotedFrom isDouble fuel (ch.toNat :: seen) (c.forward 2)
        else .ok (seen.reverse, c.next)
      else quotedFrom isDouble fuel (ch.toNat :: seen) c.next

/-- The scalar in quotes that comes next. -/
def quoted (c : Cursor) : Except Fault (CodePoints × Cursor) :=
  quotedFrom (c.peek == some '"') (c.rest.length + 1) [] c.next

/-! ## Plain scalars -/

/-- The characters that end a plain scalar inside brackets. -/
def isFlowIndicator (c : Char) : Bool := [',', '?', '[', ']', '{', '}'].contains c

/-- The length of the piece of a plain scalar that comes next. It ends at a gap, at a colon in
front of a gap and, inside brackets, at any of their signs. -/
def plainLength (inFlow : Bool) : List Char → Nat
  | [] => 0
  | ch :: rest =>
    let colonEnds := match rest with
      | [] => true
      | next :: _ => isGap next || inFlow && [',', '[', ']', '{', '}'].contains next
    if isGap ch || ch == ':' && colonEnds || inFlow && isFlowIndicator ch then 0
    else plainLength inFlow rest + 1

/-- The empty lines, and the spaces at the start of lines, that come next. Behind a line break
they end at a marker between documents. -/
def plainBreaks : Nat → Cursor → List Char × Cursor × Bool
  | 0, c => ([], c, true)
  | fuel + 1, c =>
    if c.peek = some ' ' then plainBreaks fuel c.next
    else match c.lineBreak? with
      | none => ([], c, false)
      | some (b, c) =>
        if c.isAtMarker then ([], c, true)
        else
          let (breaks, c, isEnd) := plainBreaks fuel c
          (b :: breaks, c, isEnd)

/-- What a gap behind a piece of a plain scalar becomes, and whether it holds a line break. It is
nothing if the scalar ends there. -/
def plainGap (c : Cursor) : List Char × Cursor × Bool :=
  let (spaces, c) := c.span (· == ' ')
  match c.lineBreak? with
  | none => (spaces, c, false)
  | some (b, c) =>
    if c.isAtMarker then ([], c, true)
    else
      let (breaks, c, isEnd) := plainBreaks (c.rest.length + 1) c
      (if isEnd then [] else fold b breaks, c, true)

/-- The plain scalar that comes next, its text so far in reverse, with the gap in front of the next
piece. The last answer tells whether a line break came at its end. -/
def plainFrom (inFlow : Bool) (indent : Int) :
    Nat → List Char → List Char → Bool → Cursor → List Char × Cursor × Bool
  | 0, seen, _, broken, c => (seen.reverse, c, broken)
  | fuel + 1, seen, gap, broken, c =>
    let length := if c.peek = some '#' then 0 else plainLength inFlow c.rest
    if length = 0 then (seen.reverse, c, broken)
    else
      let seen := (c.rest.take length).reverse ++ (gap.reverse ++ seen)
      let (gap, c, broken) := plainGap (c.forward length)
      if gap.isEmpty || c.peek == some '#' || !inFlow && (c.column : Int) < indent then
        (seen.reverse, c, broken)
      else plainFrom inFlow indent fuel seen gap broken c

/-- The plain scalar that comes next inside a block of the given indentation, the place behind it,
and whether a line break came at its end. -/
def plain (inFlow : Bool) (indent : Int) (c : Cursor) : List Char × Cursor × Bool :=
  plainFrom inFlow (indent + 1) (c.rest.length + 1) [] [] false c

/-! ## Block scalars -/

/-- What becomes of the line breaks at the end of a block scalar: all are dropped, one is kept, or
all are kept. -/
inductive Chomping where
  | strip
  | clip
  | keep
  deriving DecidableEq, Repr

/-- The chomping that a sign asks for. -/
def Chomping.ofSign? (c : Option Char) : Option Chomping :=
  if c = some '+' then some .keep else if c = some '-' then some .strip else none

/-- The indentation that a digit asks for. -/
def increment? (c : Option Char) : Option Nat :=
  c.bind fun ch => if ch.isDigit then some (ch.toNat - 0x30) else none

/-- The signs behind the first of a block scalar: chomping and indentation in either order. An
indentation of zero is refused later. -/
def blockHeader (c : Cursor) : Chomping × Option Nat × Cursor :=
  match Chomping.ofSign? c.peek, increment? c.peek with
  | some chomping, _ =>
    match increment? c.next.peek with
    | some n => (chomping, some n, c.next.next)
    | none => (chomping, none, c.next)
  | none, some n =>
    match Chomping.ofSign? c.next.peek with
    | some chomping => (chomping, some n, c.next.next)
    | none => (.clip, some n, c.next)
  | none, none => (.clip, none, c)

/-- The place behind spaces up to the given column. -/
def indentTo (indent : Nat) (c : Cursor) : Cursor :=
  c.forward (min (indent - c.column) (c.rest.takeWhile (· == ' ')).length)

/-- The empty lines that come next in a block of the given indentation. -/
def blockBreaks (indent : Nat) : Nat → Cursor → List Char × Cursor
  | 0, c => ([], c)
  | fuel + 1, c =>
    let c := indentTo indent c
    match c.lineBreak? with
    | none => ([], c)
    | some (b, c) =>
      let (breaks, c) := blockBreaks indent fuel c
      (b :: breaks, c)

/-- The empty lines in front of a block scalar, and the greatest column that spaces reach. -/
def blockStart : Nat → Nat → Cursor → List Char × Nat × Cursor
  | 0, widest, c => ([], widest, c)
  | fuel + 1, widest, c =>
    if c.peek = some ' ' then blockStart fuel (max widest c.next.column) c.next
    else match c.lineBreak? with
      | none => ([], widest, c)
      | some (b, c) =>
        let (breaks, widest, c) := blockStart fuel widest c
        (b :: breaks, widest, c)

/-- The lines of a block scalar; the text so far is kept in reverse. The answers are the text in
reverse, the last line break, the empty lines behind it and the place. -/
def blockLines (folded : Bool) (indent : Nat) :
    Nat → List Char → List Char → List Char → Cursor → List Char × List Char × List Char × Cursor
  | 0, seen, last, breaks, c => (seen, last, breaks, c)
  | fuel + 1, seen, last, breaks, c =>
    if c.column != indent || c.rest.isEmpty then (seen, last, breaks, c)
    else
      let startsBlank := (c.peek.map isBlank).getD false
      let (line, c) := c.span (!isBreak ·)
      let seen := line.reverse ++ (breaks.reverse ++ seen)
      let (last, c) := match c.lineBreak? with
        | none => ([], c)
        | some (b, c) => ([b], c)
      let (breaks, c) := blockBreaks indent (c.rest.length + 1) c
      if c.column != indent || c.rest.isEmpty then (seen, last, breaks, c)
      else
        let nextBlank := (c.peek.map isBlank).getD false
        let between :=
          if folded && last == ['\n'] && !startsBlank && !nextBlank then
            if breaks.isEmpty then [' '] else []
          else last
        blockLines folded indent fuel (between.reverse ++ seen) last breaks c

/-- The block scalar that comes next inside a block of the given indentation. -/
def block (indent : Int) (c : Cursor) : Except Fault (List Char × Cursor) :=
  let folded := c.peek == some '>'
  let (chomping, increment, c) := blockHeader c.next
  let afterHeader := c.skipSpaces.skipComment
  if increment == some 0 || !(c.isAtLineEnd || c.peek == some ' ') || !afterHeader.isAtLineEnd then
    .error .malformed
  else
    let c := (afterHeader.lineBreak?.map Prod.snd).getD afterHeader
    let fuel := c.rest.length + 1
    let least := (max (indent + 1) 1).toNat
    let (indent, breaks, c) := match increment with
      | some n =>
        let (breaks, c) := blockBreaks (least + n - 1) fuel c
        (least + n - 1, breaks, c)
      | none =>
        let (breaks, widest, c) := blockStart fuel 0 c
        (max least widest, breaks, c)
    let (seen, last, breaks, c) := blockLines folded indent fuel [] [] breaks c
    let tail := match chomping with
      | .strip => []
      | .clip => last
      | .keep => last ++ breaks
    .ok (seen.reverse ++ tail, c)

end SpannerDdl.Yaml
