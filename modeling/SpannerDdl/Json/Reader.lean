import SpannerDdl.Decimal.Style
import SpannerDdl.Json.Basic
import SpannerDdl.Json.Fault
import SpannerDdl.Text.Half
import SpannerDdl.Text.Hex

/-! # Reading JSON

The reader takes standard JSON and the numbers `NaN`, `Infinity` and `-Infinity`. A number with a
point or an exponent is floating-point, any other an integer, which may not have too many digits.
Of members with one key the last counts. An escape may write half a surrogate pair, which is read as
the character in its place; texts hold none of these otherwise (`Text.isTaken`).

* `Reading cs α`: a value read off the front of `cs` and the rest, which is shorter.
* `readString`, `readNumber?`, `readValue`: the front of a text.
* `Json.read text`: a whole text.
-/

set_option autoImplicit false

namespace SpannerDdl.Json

/-- A value read off the front of `cs`, and what is left of `cs` behind it. -/
structure Reading (cs : List Char) (α : Type) where
  value : α
  rest : List Char
  shorter : rest.length < cs.length

/-- The same reading seen from an earlier place. -/
def Reading.from {cs ds : List Char} {α β : Type} (r : Reading cs α) (f : α → β)
    (h : cs.length ≤ ds.length) : Reading ds β :=
  ⟨f r.value, r.rest, Nat.lt_of_lt_of_le r.shorter h⟩

/-! ## Blanks between tokens -/

/-- The four blanks that may stand between tokens. -/
def isGap (c : Char) : Bool := c == ' ' || c == '\t' || c == '\n' || c == '\r'

/-- The text behind any blanks. -/
def skipGap (cs : List Char) : List Char := cs.dropWhile isGap

theorem length_skipGap_le (cs : List Char) : (skipGap cs).length ≤ cs.length := by
  induction cs with
  | nil => simp [skipGap]
  | cons c cs ih =>
    unfold skipGap at ih ⊢
    rw [List.dropWhile_cons]
    split
    · simp only [List.length_cons]; omega
    · exact Nat.le_refl _

/-! ## Strings -/

/-- The number four hexadecimal digits stand for. -/
def fourDigits? (a b c d : Char) : Option Nat := do
  let a ← Text.hexValue? a
  let b ← Text.hexValue? b
  let c ← Text.hexValue? c
  let d ← Text.hexValue? d
  return ((a * 16 + b) * 16 + c) * 16 + d

/-- The character behind the backslash of a short escape stands for this one. -/
def shortEscape? : Char → Option Char
  | '"' => some '"'
  | '\\' => some '\\'
  | '/' => some '/'
  | 'b' => some (Char.ofNat 8)
  | 'f' => some (Char.ofNat 12)
  | 'n' => some '\n'
  | 'r' => some '\r'
  | 't' => some '\t'
  | _ => none

/-- A code unit that opens a surrogate pair. -/
def isHighSurrogate (n : Nat) : Bool := decide (0xD800 ≤ n) && decide (n < 0xDC00)

/-- A code unit that closes a surrogate pair. -/
def isLowSurrogate (n : Nat) : Bool := decide (0xDC00 ≤ n) && decide (n < 0xE000)

/-- The character of a surrogate pair. -/
def pairChar (high low : Nat) : Char :=
  Char.ofNat (0x10000 + (high - 0xD800) * 0x400 + (low - 0xDC00))

/-- Four hexadecimal digits and the text behind them, which must not be empty. -/
def readUnit? : List Char → Option (Nat × List Char)
  | a :: b :: c :: d :: e :: rest => (fourDigits? a b c d).map fun n => (n, e :: rest)
  | _ => none

/-- The character of an escape whose `\u` has been read. The first half of a surrogate pair takes
the second half with it. -/
def readUnicode (cs : List Char) : Except Fault (Char × List Char) :=
  match readUnit? cs with
  | none => .error (.malformed .unicodeEscape (cs.length + 1))
  | some (high, rest) =>
    match rest with
    | '\\' :: 'u' :: second =>
      if isHighSurrogate high && decide (5 ≤ second.length) then
        match readUnit? second with
        | none => .error (.malformed .unicodeEscape (second.length + 1))
        | some (low, behind) =>
          if isLowSurrogate low then .ok (pairChar high low, behind) else .ok (Text.ofCodePoint high, rest)
      else .ok (Text.ofCodePoint high, rest)
    | _ => .ok (Text.ofCodePoint high, rest)

theorem length_of_readUnit? {cs rest : List Char} {n : Nat} (h : readUnit? cs = some (n, rest)) :
    rest.length < cs.length := by
  unfold readUnit? at h
  split at h
  · simp only [Option.map_eq_some_iff, Prod.mk.injEq] at h
    obtain ⟨_, _, _, rfl⟩ := h
    simp only [List.length_cons]; omega
  · simp at h

theorem length_of_readUnicode {cs rest : List Char} {c : Char}
    (h : readUnicode cs = .ok (c, rest)) : rest.length < cs.length := by
  unfold readUnicode at h
  split at h
  · simp at h
  · rename_i high rest' h1
    have s1 := length_of_readUnit? h1
    split at h
    · split at h
      · split at h
        · simp at h
        · rename_i low behind h2
          have s2 := length_of_readUnit? h2
          split at h
          · simp only [Except.ok.injEq, Prod.mk.injEq] at h
            obtain ⟨_, rfl⟩ := h
            simp only [List.length_cons] at s1; omega
          · simp only [Except.ok.injEq, Prod.mk.injEq] at h
            obtain ⟨_, rfl⟩ := h
            exact s1
      · simp only [Except.ok.injEq, Prod.mk.injEq] at h
        obtain ⟨_, rfl⟩ := h
        exact s1
    · simp only [Except.ok.injEq, Prod.mk.injEq] at h
      obtain ⟨_, rfl⟩ := h
      exact s1

/-- The rest of a string, of which `acc` holds the characters read so far, last one first, and
`start` is the text behind its opening quote. -/
def readStringFrom (start acc cs : List Char) : Except Fault (List Char × List Char) :=
  match cs with
  | [] => .error (.malformed .unterminatedString (start.length + 1))
  | '"' :: rest => .ok (acc.reverse, rest)
  | '\\' :: [] => .error (.malformed .unterminatedString (start.length + 1))
  | '\\' :: 'u' :: rest =>
    match h : readUnicode rest with
    | .error f => .error f
    | .ok (c, behind) =>
      have := length_of_readUnicode h
      readStringFrom start (c :: acc) behind
  | '\\' :: c :: rest =>
    match shortEscape? c with
    | some c' => readStringFrom start (c' :: acc) rest
    | none => .error (.malformed .escape (rest.length + 2))
  | c :: rest =>
    if c.toNat < 0x20 then .error (.malformed .controlCharacter (rest.length + 1))
    else readStringFrom start (c :: acc) rest
termination_by cs.length
decreasing_by
  all_goals simp only [List.length_cons]; omega

theorem length_of_readStringFrom {start acc cs s rest : List Char}
    (h : readStringFrom start acc cs = .ok (s, rest)) : rest.length < cs.length := by
  fun_induction readStringFrom start acc cs with
  | case1 => simp at h
  | case2 =>
    simp only [Except.ok.injEq, Prod.mk.injEq] at h
    obtain ⟨_, rfl⟩ := h
    simp
  | case3 => simp at h
  | case4 => simp at h
  | case5 acc rest c behind h' s1 ih =>
    have s2 := ih h
    simp only [List.length_cons]; omega
  | case6 acc c rest hc c' h' ih =>
    have s1 := ih h
    simp only [List.length_cons]; omega
  | case7 => simp at h
  | case8 => simp at h
  | case9 acc c rest h1 h2 h3 h4 h5 ih =>
    have s1 := ih h
    simp only [List.length_cons]; omega

/-- A string whose opening quote has been read. -/
def readString (cs : List Char) : Except Fault (Reading cs String) :=
  match h : readStringFrom cs [] cs with
  | .error f => .error f
  | .ok (s, rest) => .ok ⟨String.ofList s, rest, length_of_readStringFrom h⟩

/-! ## Numbers -/

/-- The number a run of decimal digits stands for. -/
def decimalValue (digits : List Char) : Nat :=
  digits.foldl (fun n c => n * 10 + (c.toNat - 0x30)) 0

/-- The digits at the front of a text, and what is behind them. -/
def spanDigits (cs : List Char) : List Char × List Char :=
  (cs.takeWhile Char.isDigit, cs.dropWhile Char.isDigit)

theorem length_of_spanDigits (cs : List Char) :
    (spanDigits cs).1.length + (spanDigits cs).2.length = cs.length := by
  rw [← List.length_append]
  exact congrArg List.length List.takeWhile_append_dropWhile

/-- The digits of a fraction, if a point and a digit come first. -/
def readFraction : List Char → List Char × List Char
  | '.' :: c :: rest =>
    if c.isDigit then spanDigits (c :: rest) else ([], '.' :: c :: rest)
  | cs => ([], cs)

/-- A signed exponent and the rest, if the mark and a digit come first. -/
def readExponent? : List Char → Option (Int × List Char)
  | mark :: rest =>
    if mark == 'e' || mark == 'E' then
      let (negative, digits) := match rest with
        | '-' :: r => (true, r)
        | '+' :: r => (false, r)
        | r => (false, r)
      match spanDigits digits with
      | ([], _) => none
      | (ds, r) => some (if negative then -(decimalValue ds : Int) else decimalValue ds, r)
    else none
  | [] => none

/-- The integer that digits denote, unless they are too many. -/
def readDigits (negative : Bool) (digits : List Char) : Except Fault Json :=
  if Text.digitLimit < digits.length then .error (.longNumber digits.length)
  else
    let n := decimalValue digits
    .ok (.int (if negative then -(n : Int) else n))

/-- The digits in front of a point: a zero stands alone. -/
def spanWhole : List Char → List Char × List Char
  | '0' :: rest => (['0'], rest)
  | cs => spanDigits cs

/-- The number behind its sign: digits without a leading zero, a fraction, an exponent. -/
def readUnsigned? (negative : Bool) (cs : List Char) : Option (Except Fault Json × List Char) :=
  let whole := spanWhole cs
  if whole.1.isEmpty then none
  else
    let fraction := readFraction whole.2
    let exponent? := readExponent? fraction.2
    let exponent := exponent?.getD (0, fraction.2)
    if fraction.1.isEmpty && exponent?.isNone then some (readDigits negative whole.1, exponent.2)
    else
      let x := Decimal.read (decimalValue (whole.1 ++ fraction.1)) (exponent.1 - fraction.1.length)
      some (.ok (.float (if negative then -x else x)), exponent.2)

theorem length_of_spanWhole (cs : List Char) :
    (spanWhole cs).1.length + (spanWhole cs).2.length = cs.length := by
  unfold spanWhole
  split
  · simp only [List.length_cons, List.length_nil]; omega
  · exact length_of_spanDigits _

theorem length_of_readFraction_le (cs : List Char) : (readFraction cs).2.length ≤ cs.length := by
  unfold readFraction
  split
  · rename_i c rest
    split
    · have s1 := length_of_spanDigits (c :: rest)
      simp only [List.length_cons] at s1 ⊢; omega
    · exact Nat.le_refl _
  · exact Nat.le_refl _

theorem length_of_readExponent? {cs rest : List Char} {e : Int}
    (h : readExponent? cs = some (e, rest)) : rest.length ≤ cs.length := by
  unfold readExponent? at h
  split at h
  · rename_i mark behind
    have bound : ∀ digits : List Char, digits.length ≤ behind.length →
        (spanDigits digits).2.length ≤ behind.length := by
      intro digits hd
      have s1 := length_of_spanDigits digits
      omega
    split at h
    · split at h
      · rename_i negative digits hd
        have s0 : digits.length ≤ behind.length := by
          split at hd
          · simp only [Prod.mk.injEq] at hd; obtain ⟨_, rfl⟩ := hd; simp
          · simp only [Prod.mk.injEq] at hd; obtain ⟨_, rfl⟩ := hd; simp
          · simp only [Prod.mk.injEq] at hd; obtain ⟨_, rfl⟩ := hd; exact Nat.le_refl _
        split at h
        · simp at h
        · rename_i ds r hs
          simp only [Option.some.injEq, Prod.mk.injEq] at h
          obtain ⟨_, rfl⟩ := h
          have s1 := bound digits s0
          rw [hs] at s1
          simp only [List.length_cons]
          exact Nat.le_succ_of_le s1
    · simp at h
  · simp at h

theorem length_of_readUnsigned? {negative : Bool} {cs rest : List Char} {v : Except Fault Json}
    (h : readUnsigned? negative cs = some (v, rest)) : rest.length < cs.length := by
  have s1 := length_of_spanWhole cs
  have s2 := length_of_readFraction_le (spanWhole cs).2
  have s3 : ((readExponent? (readFraction (spanWhole cs).2).2).getD
      (0, (readFraction (spanWhole cs).2).2)).2.length ≤
        (readFraction (spanWhole cs).2).2.length := by
    cases he : readExponent? (readFraction (spanWhole cs).2).2 with
    | none => simp
    | some p =>
      obtain ⟨e, behind⟩ := p
      exact length_of_readExponent? he
  unfold readUnsigned? at h
  simp only at h
  split at h
  · simp at h
  · rename_i hne
    have s4 : 0 < (spanWhole cs).1.length := by
      cases hw : (spanWhole cs).1 with
      | nil => simp [hw] at hne
      | cons c ds => simp
    split at h
    · simp only [Option.some.injEq, Prod.mk.injEq] at h
      obtain ⟨_, rfl⟩ := h
      omega
    · simp only [Option.some.injEq, Prod.mk.injEq] at h
      obtain ⟨_, rfl⟩ := h
      omega

/-- A number with its sign. -/
def readNumber? : List Char → Option (Except Fault Json × List Char)
  | '-' :: rest => readUnsigned? true rest
  | cs => readUnsigned? false cs

theorem length_of_readNumber? {cs rest : List Char} {v : Except Fault Json}
    (h : readNumber? cs = some (v, rest)) : rest.length < cs.length := by
  unfold readNumber? at h
  split at h
  · have s1 := length_of_readUnsigned? h
    simp only [List.length_cons]; omega
  · exact length_of_readUnsigned? h

/-- The words that stand for values, and the values. -/
def wordValues : List (List Char × Json) :=
  [("null".toList, .null), ("true".toList, .bool true), ("false".toList, .bool false),
   ("NaN".toList, .float (0.0 / 0.0)), ("Infinity".toList, .float (1.0 / 0.0)),
   ("-Infinity".toList, .float (-1.0 / 0.0))]

/-- A word that stands for a value. -/
def readWord? (cs : List Char) : Option (Json × List Char) :=
  wordValues.findSome? fun (word, value) =>
    if word.isPrefixOf cs then some (value, cs.drop word.length) else none

theorem length_of_readWord? {cs rest : List Char} {v : Json}
    (h : readWord? cs = some (v, rest)) : rest.length < cs.length := by
  obtain ⟨⟨word, value⟩, hw, hv⟩ := List.exists_of_findSome?_eq_some h
  simp only at hv
  split at hv
  · rename_i hp
    simp only [Option.some.injEq, Prod.mk.injEq] at hv
    obtain ⟨_, rfl⟩ := hv
    have s1 := (List.isPrefixOf_iff_prefix.1 hp).length_le
    have s2 : ∀ p ∈ wordValues, 0 < p.1.length := by decide
    have s3 := s2 _ hw
    rw [List.length_drop]
    simp only at s3
    omega
  · simp at hv

/-- A value without parts, apart from strings: a word or a number. -/
def readScalar (cs : List Char) : Except Fault (Reading cs Json) :=
  match hw : readWord? cs with
  | some (value, rest) => .ok ⟨value, rest, length_of_readWord? hw⟩
  | none =>
    match hn : readNumber? cs with
    | some (.ok value, rest) => .ok ⟨value, rest, length_of_readNumber? hn⟩
    | some (.error fault, _) => .error fault
    | none => .error (.malformed .value cs.length)

/-! ## Arrays and objects -/

theorem length_of_skipGap_eq {cs rest : List Char} {c : Char} (h : skipGap cs = c :: rest) :
    rest.length < cs.length := by
  have h1 := length_skipGap_le cs
  rw [h] at h1
  simp only [List.length_cons] at h1
  omega

mutual

/-- The value at the front of a text. -/
def readValue (cs : List Char) : Except Fault (Reading cs Json) :=
  match cs with
  | '"' :: rest =>
    match readString rest with
    | .error f => .error f
    | .ok r => .ok (r.from .str (by simp))
  | '[' :: rest =>
    match h : skipGap rest with
    | ']' :: behind => .ok ⟨.arr [], behind, by have := length_of_skipGap_eq h; simp; omega⟩
    | _ =>
      match readItems rest with
      | .error f => .error f
      | .ok r => .ok (r.from .arr (by simp))
  | '{' :: rest =>
    match h : skipGap rest with
    | '}' :: behind => .ok ⟨.obj [], behind, by have := length_of_skipGap_eq h; simp; omega⟩
    | _ =>
      match readMembers rest with
      | .error f => .error f
      | .ok r => .ok (r.from (fun pairs => .obj (Members.ofList pairs)) (by simp))
  | cs => readScalar cs
termination_by (cs.length, 0)

/-- The items of an array up to its closing bracket, of which there is at least one. -/
def readItems (cs : List Char) : Except Fault (Reading cs (List Json)) :=
  have hcs := length_skipGap_le cs
  match readValue (skipGap cs) with
  | .error f => .error f
  | .ok item =>
    have hitem := item.shorter
    match h : skipGap item.rest with
    | ']' :: behind =>
      .ok ⟨[item.value], behind, by have := length_of_skipGap_eq h; omega⟩
    | ',' :: behind =>
      have hbehind := length_of_skipGap_eq h
      match readItems behind with
      | .error f => .error f
      | .ok r => .ok (r.from (item.value :: ·) (by omega))
    | other => .error (.malformed .comma other.length)
termination_by (cs.length, 1)
decreasing_by
  · simp only [Prod.lex_def]; omega
  · simp only [Prod.lex_def]; omega

/-- The members of an object up to its closing brace, of which there is at least one. -/
def readMembers (cs : List Char) : Except Fault (Reading cs (List (String × Json))) :=
  match hkey : skipGap cs with
  | '"' :: afterQuote =>
    have hquote := length_of_skipGap_eq hkey
    match readString afterQuote with
    | .error f => .error f
    | .ok key =>
      have hk := key.shorter
      match hcolon : skipGap key.rest with
      | ':' :: afterColon =>
        have hc := length_of_skipGap_eq hcolon
        have hgap := length_skipGap_le afterColon
        match readValue (skipGap afterColon) with
        | .error f => .error f
        | .ok value =>
          have hv := value.shorter
          match h : skipGap value.rest with
          | '}' :: behind =>
            .ok ⟨[(key.value, value.value)], behind, by
              have := length_of_skipGap_eq h; omega⟩
          | ',' :: behind =>
            have hbehind := length_of_skipGap_eq h
            match readMembers behind with
            | .error f => .error f
            | .ok r => .ok (r.from ((key.value, value.value) :: ·) (by omega))
          | other => .error (.malformed .comma other.length)
      | other => .error (.malformed .colon other.length)
  | other => .error (.malformed .memberName other.length)
termination_by (cs.length, 1)
decreasing_by
  · simp only [Prod.lex_def]; omega
  · simp only [Prod.lex_def]; omega

end

/-- Reads a whole text, with blanks around the value. -/
def read (cs : List Char) : Except Fault Json :=
  match cs with
  | '\uFEFF' :: _ => .error (.malformed .byteOrderMark cs.length)
  | _ =>
    match readValue (skipGap cs) with
    | .error f => .error f
    | .ok r =>
      match skipGap r.rest with
      | [] => .ok r.value
      | other => .error (.malformed .extraData other.length)

end SpannerDdl.Json
