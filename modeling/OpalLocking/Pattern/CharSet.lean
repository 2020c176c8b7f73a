/-
Sets of characters, as ascending ranges of code points.

Surrogates are no characters, so U+D7FF and U+E000 follow one another. Ranges that only such a step divides stay
apart, and between them the complement has the range from the one to the other.
-/

namespace OpalLocking.Pattern

/-- Two code points and all between them. -/
abbrev CharRange := Nat × Nat

/-- A set of characters: ranges of code points in ascending order, none of which touches the next. -/
structure CharSet where
  ranges : List CharRange
deriving DecidableEq, Repr

namespace CharSet

def lastCodePoint : Nat := 0x10FFFF

/-- The code point of the next character. -/
def following (n : Nat) : Nat := if n = 0xD7FF then 0xE000 else n + 1

/-- The code point of the character before. -/
def preceding (n : Nat) : Nat := if n = 0xE000 then 0xD7FF else n - 1

/-! ## Building sets -/

/-- Adds a range to ascending ranges that start before it, given with the last one first; it is joined with the
last one if they touch. -/
def addLast : List CharRange → CharRange → List CharRange
  | [], range => [range]
  | (a, b) :: before, (c, d) =>
    if c ≤ b + 1 then (a, max b d) :: before else (c, d) :: (a, b) :: before

/-- The set of the characters in one of some ranges, given in any order. -/
def ofRanges (ranges : List CharRange) : CharSet :=
  ⟨((ranges.mergeSort fun r s => r.1 ≤ s.1).foldl addLast []).reverse⟩

def empty : CharSet := ⟨[]⟩

def full : CharSet := ⟨[(0, lastCodePoint)]⟩

def ofChars (chars : List Char) : CharSet := ofRanges (chars.map fun c => (c.toNat, c.toNat))

/-! ## Operations -/

def union (s t : CharSet) : CharSet := ofRanges (s.ranges ++ t.ranges)

/-- The range from one code point to another, whichever is first. -/
def between (m n : Nat) : CharRange := (min m n, max m n)

def complement (s : CharSet) : CharSet :=
  match s.ranges.head?, s.ranges.getLast? with
  | some (first, _), some (_, last) =>
    let gaps := s.ranges.zipWith (fun r next => between (following r.2) (preceding next.1)) s.ranges.tail
    ⟨(if 0 < first then [(0, preceding first)] else []) ++ gaps
      ++ (if last < lastCodePoint then [(following last, lastCodePoint)] else [])⟩
  | _, _ => full

/-- What ascending ranges have in common, the last one first, before the ranges that were found already. -/
def common (found : List CharRange) : List CharRange → List CharRange → List CharRange
  | (a, b) :: s, (c, d) :: t =>
    let found := if max a c ≤ min b d then (max a c, min b d) :: found else found
    if b < d then common found s ((c, d) :: t) else common found ((a, b) :: s) t
  | _, _ => found
termination_by s t => s.length + t.length

def intersection (s t : CharSet) : CharSet := ⟨(common [] s.ranges t.ranges).reverse⟩

/-- What is left of ascending ranges without others, the last one first, before the ranges that were found
already. -/
def remaining (found : List CharRange) : List CharRange → List CharRange → List CharRange
  | [], _ => found
  | s, [] => s.reverse ++ found
  | (a, b) :: s, (c, d) :: t =>
    if d < a then remaining found ((a, b) :: s) t
    else if b < c then remaining ((a, b) :: found) s ((c, d) :: t)
    else
      let found := if a < c then (a, preceding c) :: found else found
      if d < b then remaining found ((following d, b) :: s) t else remaining found s ((c, d) :: t)
termination_by s t => s.length + t.length

def difference (s t : CharSet) : CharSet := ⟨(remaining [] s.ranges t.ranges).reverse⟩

def symmetricDifference (s t : CharSet) : CharSet := (s.union t).difference (s.intersection t)

/-! ## ASCII -/

/-- Whether a set has ASCII characters only. -/
def isAscii (s : CharSet) : Bool := s.ranges.all fun range => range.2 < 0x80

/-- The part of a range between two bounds, moved. -/
def movedPart (low high : Nat) (move : Nat → Nat) (range : CharRange) : List CharRange :=
  let a := max low range.1
  let b := min high range.2
  if a ≤ b then [(move a, move b)] else []

/-- A set with the other case of each of its ASCII letters. -/
def foldCase (s : CharSet) : CharSet :=
  let distance := 'a'.toNat - 'A'.toNat
  let raised := s.ranges.flatMap (movedPart 'a'.toNat 'z'.toNat fun n => n - distance)
  let lowered := s.ranges.flatMap (movedPart 'A'.toNat 'Z'.toNat fun n => n + distance)
  ofRanges (s.ranges ++ raised ++ lowered)

/-- The ASCII sets that have a name. -/
def named? (name : String) : Option CharSet :=
  let span (a b : Char) := (a.toNat, b.toNat)
  let digits := span '0' '9'
  let upper := span 'A' 'Z'
  let lower := span 'a' 'z'
  (match name with
  | "alnum" => some [digits, upper, lower]
  | "alpha" => some [upper, lower]
  | "ascii" => some [(0, 0x7F)]
  | "blank" => some [(0x09, 0x09), (0x20, 0x20)]
  | "cntrl" => some [(0, 0x1F), (0x7F, 0x7F)]
  | "digit" => some [digits]
  | "graph" => some [(0x21, 0x7E)]
  | "lower" => some [lower]
  | "print" => some [(0x20, 0x7E)]
  | "punct" => some [(0x21, 0x2F), (0x3A, 0x40), (0x5B, 0x60), (0x7B, 0x7E)]
  | "space" => some [(0x09, 0x0D), (0x20, 0x20)]
  | "upper" => some [upper]
  | "word" => some [digits, upper, span '_' '_', lower]
  | "xdigit" => some [digits, span 'A' 'F', span 'a' 'f']
  | _ => none).map ofRanges

end CharSet

end OpalLocking.Pattern
