import SpannerDdl.Text.Utf8

/-! # Text that is read piece by piece

A long text is decoded as far as it is asked for: bytes are taken in blocks, and characters are given
out in pieces. A fault in a block shows when a piece needs it, and tells the place in that block.

* `PieceReader`: what is left to read.
* `PieceReader.take`: the next piece.
* `pieces bytes`: all pieces, and the fault behind the last of them if there is one.
-/

set_option autoImplicit false

namespace SpannerDdl.Text

/-- What is left to read: bytes, the first bytes of a character whose others are in the next block,
whether a carriage return waits for a line feed, characters that are decoded, and how many bytes
made how many characters in the last block. -/
structure PieceReader where
  bytes : List UInt8
  begun : List UInt8 := []
  isAfterReturn : Bool := false
  ready : List Char := []
  lastBytes : Nat := 0
  lastChars : Nat := 1
  deriving Repr

/-- The least number of bytes in a block. -/
def blockSize : Nat := 8192

/-- The number of characters in a piece. -/
def pieceSize : Nat := 4096

/-- The characters of bytes, and the bytes at the end that only begin a character. -/
def decodeBegun (bytes : List UInt8) : Except Utf8.Fault (List Char × List UInt8) :=
  match Utf8.decode bytes with
  | .ok cs => .ok (cs, [])
  | .error f =>
    if f.reason = .endOfData then
      (Utf8.decode (bytes.take f.position)).map fun cs => (cs, bytes.drop f.position)
    else .error f

namespace PieceReader

/-- The number of bytes in a block if so many characters are wanted. -/
def blockFor (r : PieceReader) (wanted : Nat) : Nat :=
  max blockSize (max wanted (r.lastBytes * wanted / max r.lastChars 1))

/-- Decodes the next block. Behind the last byte no character may be left begun. -/
def readBlock (r : PieceReader) (wanted : Nat) : Except Utf8.Fault PieceReader := do
  let block := r.bytes.take (r.blockFor wanted)
  let isEnd := block.isEmpty
  let (decoded, begun) ← if isEnd then (Utf8.decode r.begun).map fun cs => (cs, [])
    else decodeBegun (r.begun ++ block)
  let isAfterReturn := r.isAfterReturn && (decoded.isEmpty && !isEnd)
  let cs := if r.isAfterReturn && !isAfterReturn then '\r' :: decoded else decoded
  let waits := !isEnd && cs.getLast? == some '\r'
  let cs := unifyNewlines (if waits then cs.dropLast else cs)
  return {
    bytes := r.bytes.drop block.length
    begun
    isAfterReturn := waits || isAfterReturn
    ready := r.ready ++ cs
    lastBytes := if cs.isEmpty then 0 else block.length
    lastChars := if cs.isEmpty then 1 else cs.length }

/-- Decodes blocks until there are enough characters or no bytes are left. -/
def readBlocks : Nat → PieceReader → Except Utf8.Fault PieceReader
  | 0, r => .ok r
  | fuel + 1, r =>
    if pieceSize ≤ r.ready.length then .ok r
    else do
      let next ← r.readBlock (pieceSize - r.ready.length)
      if r.bytes.isEmpty then return next else readBlocks fuel next

/-- The next piece, which is empty at the end. -/
def take (r : PieceReader) : Except Utf8.Fault (List Char × PieceReader) :=
  (r.readBlocks (r.bytes.length + 2)).map fun r =>
    (r.ready.take pieceSize, { r with ready := r.ready.drop pieceSize })

/-- All pieces, and the fault behind them. -/
def takeAll : Nat → PieceReader → List (List Char) × Option Utf8.Fault
  | 0, _ => ([], none)
  | fuel + 1, r =>
    match r.take with
    | .error f => ([], some f)
    | .ok ([], _) => ([], none)
    | .ok (piece, r) =>
      let (more, fault) := takeAll fuel r
      (piece :: more, fault)

end PieceReader

/-- All pieces of a text, and the fault behind them. -/
def pieces (bytes : List UInt8) : List (List Char) × Option Utf8.Fault :=
  PieceReader.takeAll (bytes.length + 2) { bytes }

end SpannerDdl.Text
