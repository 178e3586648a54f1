import SpannerDdl.Yaml.Phrase
import SpannerDdl.Yaml.Tag

/-! # Tokens of a YAML text

Indentation is turned into tokens that open and close blocks. Whether a token starts a key shows
only at the colon behind it: the token for the key is then put in front of it.

* `Token`: the tokens.
* `TokenText`: tokens up to the end or a fault, `TokenText.ofCursor` from a text.
-/

set_option autoImplicit false

namespace SpannerDdl.Yaml

open Text (CodePoints)

/-- A token. The tag of a node is kept as it is written. -/
inductive Token where
  | textEnd
  | directive (directive : Directive)
  | documentStart
  | documentEnd
  | openBlockList
  | openBlockMap
  | closeBlock
  | openList
  | closeList
  | openMap
  | closeMap
  | item
  | comma
  | key
  | value
  | alias (name : String)
  | anchor (name : String)
  | tag (tag : WrittenTag)
  | scalar (text : CodePoints) (isPlain : Bool)
  deriving DecidableEq, Repr

/-- Tokens in order. If there is a fault behind them they are those that can be told for certain
before it; otherwise the last of them is the end of the text. -/
structure TokenText where
  tokens : List Token
  fault : Option Fault := none
  deriving Repr

namespace Token

/-! ## States -/

/-- A token that may start a key, by its number and its place. In block context a token at the
indentation of its block has to. -/
structure Candidate where
  number : Nat
  isRequired : Bool
  line : Nat
  column : Nat
  offset : Nat
  deriving Repr

/-- The tokens so far, in reverse, and what decides about the next ones: the place, the indentation
of the open blocks, whether a key may start here, and the candidate of every open bracket with that
outside of brackets last. -/
structure State where
  cursor : Cursor
  tokens : List Token := []
  indent : Int := -1
  outer : List Int := []
  keyAllowed : Bool := true
  candidate : Option Candidate := none
  outerCandidates : List (Option Candidate) := []
  deriving Repr

namespace State

/-- Whether the place is inside brackets. -/
def inFlow (s : State) : Bool := !s.outerCandidates.isEmpty

/-- The state with one more token. -/
def push (s : State) (t : Token) : State := { s with tokens := t :: s.tokens }

/-- The state with a token put in front of the token of the given number. -/
def insert (s : State) (number : Nat) (t : Token) : State :=
  { s with tokens := s.tokens.insertIdx (s.tokens.length - number) t }

/-! ## Blocks -/

/-- Closes the blocks that are indented more than the given column. -/
def closeTo (s : State) (column : Int) : State :=
  let closed := s.outer.length
  let rec go : Nat → State → State
    | 0, s => s
    | n + 1, s =>
      match s.outer with
      | [] => s
      | i :: outer =>
        if column < s.indent then
          go n { s with tokens := .closeBlock :: s.tokens, indent := i, outer }
        else s
  if s.inFlow then s else go closed s

/-- Whether a block that starts at a column is a new one. -/
def opensAt (s : State) (column : Nat) : Bool := s.indent < column

/-- Opens a new block at a column. -/
def openAt (s : State) (column : Nat) : State :=
  { s with indent := column, outer := s.indent :: s.outer }

/-! ## Candidates -/

/-- Gives up the candidate of the innermost bracket, unless it had to be a key. -/
def dropCandidate (s : State) : Except Fault State :=
  match s.candidate with
  | some k => if k.isRequired then .error .malformed else .ok { s with candidate := none }
  | none => .ok s

/-- Whether a candidate is too far back: on an earlier line, or more than 1024 characters. -/
def Candidate.isStale (k : Candidate) (c : Cursor) : Bool :=
  k.line != c.line || 1024 < c.offset - k.offset

/-- A candidate that is not too far back. One that had to be a key may not be. -/
def freshen (c : Cursor) (k : Option Candidate) : Except Fault (Option Candidate) :=
  match k with
  | some k =>
    if !Candidate.isStale k c then .ok (some k)
    else if k.isRequired then .error .malformed
    else .ok none
  | none => .ok none

/-- Gives up the candidates that are too far back. -/
def dropStale (s : State) : Except Fault State := do
  let candidate ← freshen s.cursor s.candidate
  let outerCandidates ← s.outerCandidates.mapM (freshen s.cursor)
  return { s with candidate, outerCandidates }

/-- Makes the next token a candidate if a key may start here. -/
def addCandidate (s : State) : Except Fault State :=
  if s.keyAllowed then do
    let s ← s.dropCandidate
    let c := s.cursor
    let k : Candidate :=
      ⟨s.tokens.length, !s.inFlow && s.indent == c.column, c.line, c.column, c.offset⟩
    return { s with candidate := some k }
  else .ok s

/-- The tokens that can be told for certain: those in front of all candidates. -/
def certain (s : State) : List Token :=
  let numbers := (s.candidate :: s.outerCandidates).filterMap fun k => k.map Candidate.number
  s.tokens.reverse.take (numbers.foldl min s.tokens.length)

/-! ## Single tokens -/

/-- A line that starts with a percent sign. -/
def readDirective (s : State) : Except Fault State := do
  let s ← (s.closeTo (-1)).dropCandidate
  let (d, c) ← Directive.read s.cursor
  return { s with cursor := c, keyAllowed := false }.push (.directive d)

/-- Three hyphens or three points. -/
def readMarker (s : State) (t : Token) : Except Fault State := do
  let s ← (s.closeTo (-1)).dropCandidate
  return { s with cursor := s.cursor.forward 3, keyAllowed := false }.push t

/-- An opening bracket. -/
def readOpen (s : State) (t : Token) : Except Fault State := do
  let s ← s.addCandidate
  return { s with
    cursor := s.cursor.next
    keyAllowed := true
    candidate := none
    outerCandidates := s.candidate :: s.outerCandidates }.push t

/-- A closing bracket. -/
def readClose (s : State) (t : Token) : Except Fault State := do
  let s ← s.dropCandidate
  match s.outerCandidates with
  | [] => s.cursor.refuse
  | candidate :: outerCandidates =>
    return { s with
      cursor := s.cursor.next, keyAllowed := false, candidate, outerCandidates }.push t

/-- A comma between brackets. -/
def readComma (s : State) : Except Fault State := do
  let s ← s.dropCandidate
  return { s with cursor := s.cursor.next, keyAllowed := true }.push .comma

/-- The hyphen of a list item. -/
def readItem (s : State) : Except Fault State := do
  if !s.inFlow && !s.keyAllowed then s.cursor.refuse
  else
    let column := s.cursor.column
    let s := if !s.inFlow && s.opensAt column then (s.openAt column).push .openBlockList else s
    let s ← s.dropCandidate
    return { s with cursor := s.cursor.next, keyAllowed := true }.push .item

/-- The question mark of a key. -/
def readKey (s : State) : Except Fault State := do
  if !s.inFlow && !s.keyAllowed then s.cursor.refuse
  else
    let column := s.cursor.column
    let s := if !s.inFlow && s.opensAt column then (s.openAt column).push .openBlockMap else s
    let s ← s.dropCandidate
    return { s with cursor := s.cursor.next, keyAllowed := !s.inFlow }.push .key

/-- The colon of a value. If there is a candidate it turns out to be the key. -/
def readValue (s : State) : Except Fault State :=
  match s.candidate with
  | some k =>
    let s := { s with candidate := none }.insert k.number .key
    let s := if !s.inFlow && s.opensAt k.column then
      (s.openAt k.column).insert k.number .openBlockMap else s
    .ok ({ s with cursor := s.cursor.next, keyAllowed := false }.push .value)
  | none =>
    if !s.inFlow && !s.keyAllowed then s.cursor.refuse
    else
      let column := s.cursor.column
      let s := if !s.inFlow && s.opensAt column then (s.openAt column).push .openBlockMap else s
      .ok ({ s with cursor := s.cursor.next, keyAllowed := !s.inFlow }.push .value)

/-- The name behind the sign of an alias or an anchor. -/
def readName (s : State) (t : String → Token) : Except Fault State := do
  let s ← s.addCandidate
  let (name, c) := s.cursor.next.span isNameChar
  let isEnd := match c.peek with
    | none => true
    | some ch => isGap ch || ['?', ':', ',', ']', '}', '%', '@', '`'].contains ch
  if name.isEmpty || !isEnd then c.refuse
  else return { s with cursor := c, keyAllowed := false }.push (t (String.ofList name))

/-- A tag. -/
def readTag (s : State) : Except Fault State := do
  let s ← s.addCandidate
  let (written, c) ← WrittenTag.read s.cursor
  return { s with cursor := c, keyAllowed := false }.push (.tag written)

/-- A block scalar. -/
def readBlock (s : State) : Except Fault State := do
  let s ← s.dropCandidate
  let (text, c) ← block s.indent s.cursor
  return { s with cursor := c, keyAllowed := true }.push (.scalar (.ofChars text) false)

/-- A scalar in quotes. -/
def readQuoted (s : State) : Except Fault State := do
  let s ← s.addCandidate
  let (text, c) ← quoted s.cursor
  return { s with cursor := c, keyAllowed := false }.push (.scalar text false)

/-- A plain scalar. A key may start behind it if it ends with a line. -/
def readPlain (s : State) : Except Fault State := do
  let s ← s.addCandidate
  let (text, c, broken) := plain s.inFlow s.indent s.cursor
  return { s with cursor := c, keyAllowed := broken }.push (.scalar (.ofChars text) true)

/-! ## All tokens -/

/-- Passes over spaces, comments and line breaks. A key may start on a new line. -/
def skipGap : Nat → State → State
  | 0, s => s
  | fuel + 1, s =>
    let c := s.cursor.skipSpaces.skipComment
    match c.lineBreak? with
    | some (_, c) => skipGap fuel { s with cursor := c, keyAllowed := s.keyAllowed || !s.inFlow }
    | none => { s with cursor := c }

/-- Whether a plain scalar may start with a character. Some signs may only if no gap follows. -/
def startsPlain (s : State) (ch : Char) : Bool :=
  !isGap ch && !"-?:,[]\x7b\x7d#&*!|>'\"%@`".toList.contains ch ||
    !s.cursor.isAtGap 1 && (ch == '-' || !s.inFlow && (ch == '?' || ch == ':'))

/-- Reads the token that starts with a character. -/
def readAt (s : State) (ch : Char) : Except Fault State :=
  let c := s.cursor
  let isSign := s.inFlow || c.isAtGap 1
  if ch == '%' && c.column == 0 then s.readDirective
  else if c.column == 0 && c.isAtTriple '-' then s.readMarker .documentStart
  else if c.column == 0 && c.isAtTriple '.' then s.readMarker .documentEnd
  else if ch == '[' then s.readOpen .openList
  else if ch == '\x7b' then s.readOpen .openMap
  else if ch == ']' then s.readClose .closeList
  else if ch == '\x7d' then s.readClose .closeMap
  else if ch == ',' then s.readComma
  else if ch == '-' && c.isAtGap 1 then s.readItem
  else if ch == '?' && isSign then s.readKey
  else if ch == ':' && isSign then s.readValue
  else if ch == '*' then s.readName .alias
  else if ch == '&' then s.readName .anchor
  else if ch == '!' then s.readTag
  else if (ch == '|' || ch == '>') && !s.inFlow then s.readBlock
  else if ch == '\'' || ch == '"' then s.readQuoted
  else if s.startsPlain ch then s.readPlain
  else c.refuse

/-- Reads the next token, or closes all blocks at the end of the text, which is told. A token that
goes up to where the text is cut short is none. -/
def step (s : State) : Except Fault (State × Bool) := do
  let s := s.skipGap (s.cursor.rest.length + 1)
  if s.cursor.isCut then s.cursor.refuse
  else
    let s ← s.dropStale
    let s := s.closeTo s.cursor.column
    match s.cursor.peek with
    | none =>
      let s ← (s.closeTo (-1)).dropCandidate
      return (s.push .textEnd, true)
    | some ch =>
      let s ← s.readAt ch
      if s.cursor.isCut then s.cursor.refuse else return (s, false)

/-- Reads all tokens, up to the end or to a fault. -/
def readAll : Nat → State → TokenText
  | 0, s => ⟨s.certain, some .malformed⟩
  | fuel + 1, s =>
    match s.dropStale with
    | .error f => ⟨s.certain, some f⟩
    | .ok fresh =>
      match s.step with
      | .error f => ⟨fresh.certain, some f⟩
      | .ok (s, true) => ⟨s.tokens.reverse, none⟩
      | .ok (s, false) => readAll fuel s

end State

end Token

/-- The tokens of a text. A byte order mark in front is passed over. -/
def TokenText.ofCursor (c : Cursor) : TokenText :=
  Token.State.readAll (c.rest.length + 2)
    { cursor := if c.peek = some (Char.ofNat 0xFEFF) then c.next else c }

end SpannerDdl.Yaml
