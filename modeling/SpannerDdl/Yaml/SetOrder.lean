import SpannerDdl.Yaml.Scalar

/-! # The order of the members of a set

A set of numbers has no order of its own: its members stand in a table, each at a place that follows
from its value, or at the next free place on its way. Members that are not numbers stay in the order
in which they are written.

* `Scalar.residue?`: the number that a place follows from.
* `tableSize`, `findPlace`: the size of the table, and the place for a member.
* `inSetOrder`: the members in the order of their places.
-/

set_option autoImplicit false

namespace SpannerDdl.Yaml

/-! ## Residues -/

/-- The modulus of the numbers that places follow from. -/
def placeModulus : Nat := Nat.pow 2 61 - 1

/-- A residue with its sign as a word of sixty-four bits, in which minus one is left out. -/
def signedWord (negative : Bool) (residue : Nat) : Nat :=
  if !negative || residue = 0 then residue
  else if residue = 1 then Nat.pow 2 64 - 2
  else Nat.pow 2 64 - residue

/-- The number that the place of a member follows from: its residue, which is the same for equal
numbers of different kinds. -/
def Scalar.residue? : Scalar → Option Nat
  | .bool b => some b.toNat
  | .int n => some (signedWord (n < 0) (n.natAbs % placeModulus))
  | .float x =>
    match Decimal.Binary.ofFloat x with
    | .finite negative m e =>
      some (signedWord negative (m * Nat.pow 2 (e.emod 61).toNat % placeModulus))
    | .infinite negative => some (signedWord negative 314159)
    | .nan => none
  | _ => none

/-! ## Places -/

/-- The size of the table for so many members. -/
def tableSize (count : Nat) : Nat :=
  if count < 5 then 8 else Nat.pow 2 ((2 * count).log2 + 1)

/-- The number of places behind the first that are tried in a row. -/
def rowLength : Nat := 9

/-- The first free place for a member: in the row at a place if the table holds all of it, else in
rows at places that are ever farther off. -/
def findPlace (isFree : Nat → Bool) (size : Nat) : Nat → Nat → Nat → Option Nat
  | 0, _, _ => none
  | fuel + 1, word, place =>
    let row := if place + rowLength < size then List.range' place (rowLength + 1) else [place]
    match row.find? isFree with
    | some found => some found
    | none =>
      let word := word / 32
      findPlace isFree size fuel word ((place * 5 + 1 + word) % size)

/-- The table with one more member. -/
def putMember (table : Array (Option Scalar)) (member : Scalar) (word : Nat) :
    Array (Option Scalar) :=
  let isFree (place : Nat) : Bool := (table[place]?.join).isNone
  match findPlace isFree table.size (table.size + 64) word (word % table.size) with
  | some place => table.setIfInBounds place (some member)
  | none => table

/-- The members of a set, all different, in the order in which they are shown. -/
def inSetOrder (members : List Scalar) : List Scalar :=
  match members.mapM fun m => m.residue?.map fun word => (m, word) with
  | none => members
  | some words =>
    let empty := Array.replicate (tableSize members.length) none
    (words.foldl (fun table p => putMember table p.1 p.2) empty).toList.filterMap id

end SpannerDdl.Yaml
