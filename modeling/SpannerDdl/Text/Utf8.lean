import SpannerDdl.Text.Half
import SpannerDdl.Text.Hex

/-! # Bytes as text

Text is stored as UTF-8. A character is a first byte and up to three further bytes; the bounds of
the second byte depend on the first, so that no character has two forms and none is a surrogate.
Halves of pairs, which texts hold as characters in their place (`isTaken`), have no bytes.

* `Utf8.Fault`: where and why bytes are not text, `Utf8.Fault.message` in words.
* `Utf8.decode bytes`: the characters of the bytes.
* `Utf8.Unwritable`: where a text has no bytes, `Utf8.unwritable? cs` finds it.
* `unifyNewlines cs`: a text in which every line ends in a line feed.
-/

set_option autoImplicit false

namespace SpannerDdl.Text

namespace Utf8

/-! ## Faults -/

/-- Why bytes are not text: a byte that starts no character, a byte that does not continue one, or
an end inside a character. -/
inductive Reason where
  | start
  | continuation
  | endOfData
  deriving DecidableEq, Repr

/-- A reason in words. -/
def Reason.message : Reason → String
  | .start => "invalid start byte"
  | .continuation => "invalid continuation byte"
  | .endOfData => "unexpected end of data"

/-- The bytes that are not text: the first of them, its position and their number. -/
structure Fault where
  byte : UInt8
  position : Nat
  count : Nat
  reason : Reason
  deriving DecidableEq, Repr

/-- A fault in words; a single byte is shown, several are told by their positions. -/
def Fault.message (f : Fault) : String :=
  "'utf-8' codec can't decode byte" ++
    (if f.count = 1 then
      " 0x" ++ String.ofList (hexFixed 2 f.byte.toNat) ++ " in position " ++ toString f.position
    else
      "s in position " ++ toString f.position ++ "-" ++ toString (f.position + f.count - 1)) ++
    ": " ++ f.reason.message

/-! ## Characters -/

/-- A character that is not complete: its first byte, the number of bytes read and of bytes to
come, the bounds of the next byte, and the value of the bits read. -/
structure Pending where
  byte : UInt8
  taken : Nat
  owed : Nat
  low : UInt8
  high : UInt8
  code : Nat
  deriving DecidableEq, Repr

/-- What a first byte announces: a whole character if nothing is owed, or a pending one. -/
def first? (b : UInt8) : Option Pending :=
  if b < 0x80 then some ⟨b, 1, 0, 0x80, 0xBF, b.toNat⟩
  else if b < 0xC2 then none
  else if b < 0xE0 then some ⟨b, 1, 1, 0x80, 0xBF, b.toNat - 0xC0⟩
  else if b < 0xF0 then
    some ⟨b, 1, 2, if b = 0xE0 then 0xA0 else 0x80, if b = 0xED then 0x9F else 0xBF,
      b.toNat - 0xE0⟩
  else if b < 0xF5 then
    some ⟨b, 1, 3, if b = 0xF0 then 0x90 else 0x80, if b = 0xF4 then 0x8F else 0xBF,
      b.toNat - 0xF0⟩
  else none

/-- A pending character after one more byte, if the byte is within the bounds. -/
def Pending.next? (p : Pending) (b : UInt8) : Option Pending :=
  if p.low ≤ b && b ≤ p.high then
    some ⟨p.byte, p.taken + 1, p.owed - 1, 0x80, 0xBF, p.code * 0x40 + (b.toNat - 0x80)⟩
  else none

/-- The fault of a pending character in front of the byte at a position. -/
def Pending.fault (p : Pending) (position : Nat) (reason : Reason) : Fault :=
  ⟨p.byte, position - p.taken, p.taken, reason⟩

/-- Reads on at a position with an unfinished character, if there is one, behind characters that
are kept in reverse. -/
def decodeFrom (position : Nat) (pending : Option Pending) (seen : List Char) :
    List UInt8 → Except Fault (List Char)
  | [] =>
    match pending with
    | none => .ok seen.reverse
    | some p => .error (p.fault position .endOfData)
  | b :: bytes =>
    match pending with
    | none =>
      match first? b with
      | none => .error ⟨b, position, 1, .start⟩
      | some p =>
        if p.owed = 0 then decodeFrom (position + 1) none (Char.ofNat p.code :: seen) bytes
        else decodeFrom (position + 1) (some p) seen bytes
    | some p =>
      match p.next? b with
      | none => .error (p.fault position .continuation)
      | some p =>
        if p.owed = 0 then decodeFrom (position + 1) none (Char.ofNat p.code :: seen) bytes
        else decodeFrom (position + 1) (some p) seen bytes

/-- The characters of the bytes. -/
def decode (bytes : List UInt8) : Except Fault (List Char) := decodeFrom 0 none [] bytes

/-! ## Texts without bytes -/

/-- Halves of surrogate pairs, which have no bytes: the first of them, its position and how many
there are in a row. -/
structure Unwritable where
  half : Nat
  position : Nat
  count : Nat
  deriving DecidableEq, Repr

/-- The reason in words; a single half is shown, several are told by their positions. -/
def Unwritable.message (f : Unwritable) : String :=
  "'utf-8' codec can't encode character" ++
    (if f.count = 1 then
      " '\\u" ++ String.ofList (hexFixed 4 f.half) ++ "' in position " ++ toString f.position
    else
      "s in position " ++ toString f.position ++ "-" ++ toString (f.position + f.count - 1)) ++
    ": surrogates not allowed"

/-- The first halves in a text. -/
def unwritable? (cs : List Char) : Option Unwritable :=
  let behind := cs.dropWhile (!isStandIn ·)
  behind.head?.map fun c =>
    ⟨codePoint c, cs.length - behind.length, (behind.takeWhile isStandIn).length⟩

end Utf8

/-! ## Line ends -/

/-- The characters with a line feed for every carriage return, and for every pair of a carriage
return and a line feed. -/
def unifyNewlines : List Char → List Char
  | '\r' :: '\n' :: cs => '\n' :: unifyNewlines cs
  | '\r' :: cs => '\n' :: unifyNewlines cs
  | c :: cs => c :: unifyNewlines cs
  | [] => []

end SpannerDdl.Text
