import SpannerDdl.Text.Blank

/-! # Walking over a text

The lexer looks at one character, may look at the next, and counts lines and columns as it goes.

* `Scan`: the character under view, the text behind it, and the place.
* `Scan.advance s n`: moves `n` characters on. A line break counts when it is left behind; a
  carriage return before a line feed does not count of itself.
* `Scan.steps s more`: moves on one character and `more` further ones, one by one, so that every
  line break on the way counts.
* `Overrun`: the failure to move beyond the end, by the number of characters that would have been
  read.
-/

set_option autoImplicit false

namespace SpannerDdl

/-- The place of the lexer in a text: the character under view, which is missing before the first
step, the text behind it, the place of the character, and how many characters have been read. -/
structure Scan where
  char : Option Char := none
  rest : List Char
  line : Nat := 1
  col : Nat := 0
  read : Nat := 0
  deriving Repr

/-- A text that ended too early, by the number of characters the lexer had read or meant to
read. -/
structure Overrun where
  read : Nat
  deriving DecidableEq, Repr

namespace Scan

/-- The next character. -/
def peek (s : Scan) : Option Char := s.rest.head?

/-- Whether a character ends a line. -/
def isBreak (c : Char) : Bool := c == '\n' || c == '\r'

/-- Line and column after `n` more characters. Only the character under view is looked at, so a
line break among the skipped characters does not count. -/
def placeAfter (s : Scan) (n : Nat) : Nat × Nat :=
  match s.char with
  | some c =>
    if isBreak c then
      if c == '\r' && s.peek == some '\n' then (s.line, s.col) else (s.line + 1, n)
    else (s.line, s.col + n)
  | none => (s.line, s.col + n)

/-- Moves `n` characters on, at least one. -/
def advance (s : Scan) (n : Nat) : Except Overrun Scan :=
  match s.rest.drop (n - 1) with
  | c :: rest =>
    let place := s.placeAfter n
    .ok { char := some c, rest, line := place.1, col := place.2, read := s.read + n }
  | [] => .error ⟨s.read + n⟩

theorem length_of_advance {s s' : Scan} {n : Nat} (h : s.advance n = .ok s') :
    s'.rest.length < s.rest.length := by
  unfold advance at h
  split at h
  · rename_i c rest hd
    simp only [Except.ok.injEq] at h
    subst h
    have s1 := congrArg List.length hd
    simp only [List.length_drop, List.length_cons] at s1
    show rest.length < s.rest.length
    omega
  · simp at h

/-- Moves on one character, and then `more` further ones, one after the other. -/
def steps (s : Scan) : Nat → Except Overrun Scan
  | 0 => s.advance 1
  | more + 1 =>
    match s.advance 1 with
    | .error e => .error e
    | .ok s' => s'.steps more

theorem length_of_steps {s s' : Scan} {more : Nat} (h : s.steps more = .ok s') :
    s'.rest.length < s.rest.length := by
  induction more generalizing s with
  | zero => exact length_of_advance h
  | succ more ih =>
    unfold steps at h
    split at h
    · simp at h
    · rename_i s1 h1
      exact Nat.lt_trans (ih h) (length_of_advance h1)

end Scan

end SpannerDdl
