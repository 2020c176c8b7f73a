/-
Characters as bytes.

The encodings of a range of characters are covered by a few sequences of byte ranges, each of which stands for all
combinations of its bytes. The range is cut where the length of the encodings changes, around the surrogates, and
where a byte that is not the last one changes before the bytes after it have been through all their values.
-/
import OpalLocking.Pattern.CharSet

namespace OpalLocking.Pattern

/-- Two bytes and all between them. -/
structure ByteRange where
  low : UInt8
  high : UInt8
deriving DecidableEq, Repr

/-- The bytes of a text. -/
def bytesOf (text : List Char) : List UInt8 :=
  text.flatMap String.utf8EncodeChar

namespace ByteRange

/-- The cuts of a range at the blocks of `size` characters that have all but their last bytes in common: behind the
first block if the range does not have all of it, else before the last block if the range does not have all of
that. -/
def blockCuts (first last size : Nat) : List Nat :=
  if first / size = last / size then []
  else if first % size ≠ 0 then [first / size * size + size - 1]
  else if last % size ≠ size - 1 then [last / size * size - 1]
  else []

/-- The places behind which a range may have to be cut, the most urgent one first. ASCII characters have one byte
each, so a range of them is not cut. -/
def cuts (first last : Nat) : List Nat :=
  if last < 0x80 then []
  else
    [0x7F, 0x7FF, 0xFFFF] ++ blockCuts first last 0x40 ++ blockCuts first last 0x1000
      ++ blockCuts first last 0x40000

/-- The byte ranges between two encodings of one length. -/
def between (first last : Nat) : List ByteRange :=
  List.zipWith ByteRange.mk (String.utf8EncodeChar (Char.ofNat first)) (String.utf8EncodeChar (Char.ofNat last))

/-- The sequences of byte ranges for the characters of a range without surrogates. -/
def sequencesBetween (first last : Nat) : List (List ByteRange) :=
  match _h : (cuts first last).find? fun cut => first ≤ cut && cut < last with
  | some cut => sequencesBetween first cut ++ sequencesBetween (cut + 1) last
  | none => [between first last]
termination_by last - first
decreasing_by
  all_goals
    have := List.find?_some _h
    simp only [Bool.and_eq_true, decide_eq_true_eq] at this
    omega

/-- The sequences of byte ranges for the characters of a range, in ascending order. -/
def sequences (range : CharRange) : List (List ByteRange) :=
  let (first, last) := range
  if first < 0xE000 && 0xD7FF < last then
    sequencesBetween first 0xD7FF ++ sequencesBetween 0xE000 last
  else sequencesBetween first last

end ByteRange

/-- The sequences of byte ranges for the characters of a set, in ascending order. -/
def CharSet.sequences (s : CharSet) : List (List ByteRange) :=
  s.ranges.flatMap ByteRange.sequences

end OpalLocking.Pattern
