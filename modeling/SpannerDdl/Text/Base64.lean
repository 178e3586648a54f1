/-! # Bytes in base sixty-four

Four digits of six bits each stand for three bytes. Characters that are no digits are passed over;
an equals sign fills up the last group, and nothing is read behind it.

* `Base64.digit? c`: the six bits of a digit.
* `Base64.decode? cs`: the bytes that characters stand for.
-/

set_option autoImplicit false

namespace SpannerDdl.Text.Base64

/-- The six bits of a digit. -/
def digit? (c : Char) : Option Nat :=
  if 'A' ≤ c ∧ c ≤ 'Z' then some (c.toNat - 0x41)
  else if 'a' ≤ c ∧ c ≤ 'z' then some (c.toNat - 0x61 + 26)
  else if c.isDigit then some (c.toNat - 0x30 + 52)
  else if c = '+' then some 62
  else if c = '/' then some 63
  else none

/-- A group of digits: their number and their bits that are not in a byte yet. -/
structure Group where
  count : Nat := 0
  bits : Nat := 0
  deriving DecidableEq, Repr

/-- The group with one more digit, and the byte that it completes. -/
def Group.push (g : Group) (digit : Nat) : Group × List UInt8 :=
  match g.count with
  | 0 => (⟨1, digit⟩, [])
  | 1 => (⟨2, digit % 16⟩, [UInt8.ofNat (g.bits * 4 + digit / 16)])
  | 2 => (⟨3, digit % 4⟩, [UInt8.ofNat (g.bits * 16 + digit / 4)])
  | _ => (⟨0, 0⟩, [UInt8.ofNat (g.bits * 64 + digit)])

/-- Reads on behind a group and the equals signs that follow its digits. A group that is begun has
to be filled up. -/
def decodeFrom? (g : Group) (signs : Nat) : List Char → Option (List UInt8)
  | [] => if g.count = 0 then some [] else none
  | c :: cs =>
    if c = '=' then
      if 2 ≤ g.count then
        if 4 ≤ g.count + (signs + 1) then some [] else decodeFrom? g (signs + 1) cs
      else decodeFrom? g signs cs
    else match digit? c with
      | none => decodeFrom? g signs cs
      | some d =>
        let (g, bytes) := g.push d
        (decodeFrom? g 0 cs).map (bytes ++ ·)

/-- The bytes that characters stand for. -/
def decode? (cs : List Char) : Option (List UInt8) := decodeFrom? {} 0 cs

end SpannerDdl.Text.Base64
