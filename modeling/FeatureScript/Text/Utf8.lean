import FeatureScript.Unicode.Ranges

/-!
# FeatureScript.Text.Utf8

Ranges of code points as sequences of byte ranges: the encodings of a range are cut into runs, and
in each run every byte goes through its range whatever the others are.
-/

namespace FeatureScript
namespace Text

open Unicode

/-- An inclusive range of bytes. -/
structure ByteRange where
  first : Nat
  last : Nat
  deriving DecidableEq, Repr, Inhabited

/-- The code points whose encodings have the same number of bytes; surrogates have none. -/
def encodedBlocks : Ranges :=
  [(0x0, 0x7F), (0x80, 0x7FF), (0x800, 0xD7FF), (0xE000, 0xFFFF), (0x10000, 0x10FFFF)]

/-- The parts of a range in which the bits above the lowest `6 * groups` are the same, or in which
the lowest bits take all values. -/
def alignedParts (groups : Nat) (r : Nat × Nat) : List (Nat × Nat) :=
  let size := Nat.pow 64 groups
  if r.1 / size = r.2 / size then [r]
  else
    let head := if r.1 % size = 0 then [] else [(r.1, r.1 / size * size + (size - 1))]
    let start := if r.1 % size = 0 then r.1 else (r.1 / size + 1) * size
    let tail := if r.2 % size = size - 1 then [] else [(r.2 / size * size, r.2)]
    let stop := if r.2 % size = size - 1 then r.2 + 1 else r.2 / size * size
    head ++ (if start < stop then [(start, stop - 1)] else []) ++ tail

/-- The bytes of a code point. -/
def utf8Bytes (n : Nat) : List Nat := (String.utf8EncodeChar (Char.ofNat n)).map UInt8.toNat

/-- The byte ranges of the code points of a range that lie in a block. -/
def byteRangesIn (r block : Nat × Nat) : List (List ByteRange) :=
  let first := Nat.max r.1 block.1
  let last := Nat.min r.2 block.2
  if last < first then []
  else if last < 0x80 then [[⟨first, last⟩]]
  else
    let parts := [1, 2, 3].foldl (fun parts groups => parts.flatMap (alignedParts groups))
      [(first, last)]
    parts.map fun p => List.zipWith ByteRange.mk (utf8Bytes p.1) (utf8Bytes p.2)

/-- The sequences of byte ranges of a set, in ascending order. -/
def byteRanges (rs : Ranges) : List (List ByteRange) :=
  rs.flatMap fun r => encodedBlocks.flatMap (byteRangesIn r)

end Text
end FeatureScript
