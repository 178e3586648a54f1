import SpannerDdl.Grammar.Statement

/-! # Reading by a cursor

A cursor is a place among the tokens of a statement that moves while the statement is read. Readers
repeat what they do as long as they have to: a reader that goes on for ever comes to nothing.

* `Cursor`: the tokens, the place, and how it was reached.
* `Reading α`: a reader that moves the cursor and gives a value or an error.
* `Reading.outcome r c`: what a reader comes to from a cursor.
* `Reading.repeatWhile`: the turns of a loop. Where each begins is noted.
-/

set_option autoImplicit false

namespace SpannerDdl

/-! ## Cursors -/

/-- The loops of the readers, and the readers that call themselves. -/
inductive Loop where
  | group
  | path
  | identList
  | keyList
  | element
  | columnOption
  | tableClause
  | indexModifier
  | condition
  | columnType
  | intValue
  deriving DecidableEq, Repr

/-- A turn of a loop, or a call of a reader that calls itself, by the place where it begins. -/
structure Turn where
  loop : Loop
  place : Nat
  deriving DecidableEq, Repr

/-- A place among the tokens of a statement, every place that it was moved to, and the turns that
were begun on the way. -/
structure Cursor where
  tokens : List Token
  source : String
  place : Nat
  places : List Nat
  turns : List Turn

namespace Cursor

/-- The cursor in front of the tokens of a statement. -/
def start (source : String) (ts : List Token) : Cursor := ⟨ts, source, 0, [0], []⟩

/-- The token some places further on; there is none behind the last. -/
def ahead (c : Cursor) (i : Nat) : Option Token := c.tokens[c.place + i]?

/-- The token at the cursor. -/
def peek (c : Cursor) : Option Token := c.ahead 0

/-- The keyword some places further on, in upper case; empty for other tokens and at the end. -/
def keywordAhead (c : Cursor) (i : Nat) : String := ((c.ahead i).map Token.upper).getD ""

/-- Whether all tokens are behind the cursor. -/
def atEnd (c : Cursor) : Bool := c.peek.isNone

/-- Whether the given keywords stand at the cursor. -/
def atKeywords (c : Cursor) (words : List String) : Bool :=
  words.zipIdx.all fun p => c.keywordAhead p.2 == p.1

/-- Whether the given punctuation stands at the cursor. -/
def atPunct (c : Cursor) (text : String) : Bool := c.peek.any fun t => t.isPunct text

/-- The error for the lack of something at the cursor. Its place is that of the token at the cursor,
or of the last token at the end. -/
def error (c : Cursor) (expected : String) : SourceError :=
  let place := (c.peek.or c.tokens.getLast?).map fun t => (t.line, t.col)
  { fault := .expected expected c.peek
    source := c.source
    line := (place.map Prod.fst).getD 0
    col := (place.map Prod.snd).getD 0 }

/-- The cursor at another place. -/
def moveTo (c : Cursor) (place : Nat) : Cursor :=
  { c with place, places := c.places ++ [place] }

/-- The cursor with a turn noted. -/
def note (c : Cursor) (loop : Loop) (place : Nat) : Cursor :=
  { c with turns := c.turns ++ [⟨loop, place⟩] }

end Cursor

/-! ## Readers -/

/-- A reader moves the cursor and gives a value or an error. -/
abbrev Reading := ExceptT SourceError (StateT Cursor Option)

namespace Reading

variable {α β : Type}

/-- What a reader comes to from a cursor: a value or an error, and where the cursor is then. A
reader that goes on for ever comes to nothing. -/
def outcome (r : Reading α) (c : Cursor) : Option (Except SourceError α × Cursor) := r.run.run c

/-- The failure to find something at the cursor. -/
def fail (expected : String) : Reading α := do throw ((← get).error expected)

/-- Moves the cursor. -/
def moveTo (place : Nat) : Reading Unit := modify fun c => c.moveTo place

/-- Notes a turn that began at a place. -/
def note (loop : Loop) (place : Nat) : Reading Unit := modify fun c => c.note loop place

/-- Looks at what stands at the cursor. -/
def look (test : Cursor → Bool) : Reading Bool := do return test (← get)

/-- The token at the cursor, which moves behind it. It does not move at the end. -/
def next : Reading (Option Token) := do
  let c ← get
  match c.peek with
  | some t => do
    moveTo (c.place + 1)
    return some t
  | none => return none

/-- Whether the given keywords stand at the cursor, which moves behind them if they do. -/
def accept (words : List String) : Reading Bool := do
  let c ← get
  if c.atKeywords words then do
    moveTo (c.place + words.length)
    return true
  else return false

/-- Moves behind the given keywords, which have to stand at the cursor. -/
def expect (words : List String) : Reading Unit := do
  if ← accept words then return () else fail (" ".intercalate words)

/-- Whether the given punctuation stands at the cursor, which moves behind it if it does. -/
def acceptPunct (text : String) : Reading Bool := do
  let c ← get
  if c.atPunct text then do
    moveTo (c.place + 1)
    return true
  else return false

/-- Moves behind the given punctuation, which has to stand at the cursor. -/
def expectPunct (text : String) : Reading Unit := do
  if ← acceptPunct text then return () else fail ("'" ++ text ++ "'")

/-- The tokens from the cursor on, which moves behind them all. -/
def takeRest : Reading (List Token) := do
  let c ← get
  moveTo c.tokens.length
  return c.tokens.drop c.place

/-- The turns of a loop: as long as the test holds, the body is run, unless it breaks off. Each turn
is noted with the place where its test began. Nothing bounds the turns: this is the least solution
of its equation, which comes to nothing when the turns never end. -/
def repeatWhile (loop : Loop) (test : Reading Bool) (body : β → Reading (ForInStep β)) (b : β) :
    Reading β := do
  let start := (← get).place
  if ← test then do
    note loop start
    match ← body b with
    | .yield b => test |>.repeatWhile loop body b
    | .done b => return b
  else return b
partial_fixpoint

/-! ## Outcomes -/

section
variable (c : Cursor)

@[simp] theorem outcome_pure (a : α) : outcome (pure a) c = some (.ok a, c) := rfl

@[simp] theorem outcome_get : outcome get c = some (.ok c, c) := rfl

@[simp] theorem outcome_look (test : Cursor → Bool) :
    outcome (look test) c = some (.ok (test c), c) := rfl

@[simp] theorem outcome_fail (expected : String) :
    outcome (fail expected : Reading α) c = some (.error (c.error expected), c) := rfl

@[simp] theorem outcome_note (loop : Loop) (place : Nat) :
    outcome (note loop place) c = some (.ok (), c.note loop place) := rfl

end

section
variable {c c' : Cursor} {r : Reading α}

theorem outcome_bind_of_ok {a : α} (h : outcome r c = some (.ok a, c')) (f : α → Reading β) :
    outcome (r >>= f) c = outcome (f a) c' := by
  unfold outcome at h ⊢
  rw [ExceptT.run_bind, StateT.run_bind, h]
  rfl

theorem outcome_bind_of_error {e : SourceError} (h : outcome r c = some (.error e, c'))
    (f : α → Reading β) : outcome (r >>= f) c = some (.error e, c') := by
  unfold outcome at h ⊢
  rw [ExceptT.run_bind, StateT.run_bind, h]
  rfl

theorem outcome_bind_congr {r' : Reading α} (h : outcome r c = outcome r' c') (f : α → Reading β) :
    outcome (r >>= f) c = outcome (r' >>= f) c' := by
  unfold outcome at h ⊢
  rw [ExceptT.run_bind, StateT.run_bind, h, ExceptT.run_bind, StateT.run_bind]

theorem outcome_get_bind (f : Cursor → Reading β) : outcome (get >>= f) c = outcome (f c) c :=
  outcome_bind_of_ok (outcome_get c) f

end

end Reading

end SpannerDdl
