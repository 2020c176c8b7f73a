/-
What is looked for in a text.

Patterns are kept in a normal form by the functions that build them: neighbouring texts are joined, sequences and
choices do not stand directly in their like, and a choice between single characters is a set. How large the
automaton for a pattern becomes depends on this form.
-/
import OpalLocking.Pattern.Expression

namespace OpalLocking

/-- A place of a pattern that takes no character. -/
inductive Pattern.Anchor
  | textStart
  | textEnd
  /-- The start of a line, where carriage returns break lines too if `returns`. -/
  | lineStart (returns : Bool)
  | lineEnd (returns : Bool)
  /-- An edge of a word, of words in any script if `wide`. -/
  | word (edge : Pattern.WordEdge) (wide : Bool)
deriving DecidableEq, Repr

/-- What is looked for in a text. -/
inductive Pattern
  | empty
  | literal (text : List Char)
  /-- One of some characters; sets that are read by bytes are kept apart from sets of characters. -/
  | set (byBytes : Bool) (chars : Pattern.CharSet)
  | anchor (a : Pattern.Anchor)
  /-- At least `least` times, and at most `most` times if there is a bound. -/
  | repetition (p : Pattern) (least : Nat) (most : Option Nat) (isGreedy : Bool)
  /-- A group that is kept. -/
  | capture (number : Nat) (p : Pattern)
  | sequence (parts : List Pattern)
  | choice (branches : List Pattern)
deriving Repr, BEq

namespace Pattern

/-! ## Lengths -/

mutual

/-- Whether a pattern takes no characters, however it matches. -/
def takesNothing : Pattern → Bool
  | .empty | .anchor _ => true
  | .literal _ | .set _ _ => false
  | .repetition p _ most _ => most.isSome && p.takesNothing
  | .capture _ p => p.takesNothing
  | .sequence ps | .choice ps => allTakeNothing ps

def allTakeNothing : List Pattern → Bool
  | [] => true
  | p :: rest => p.takesNothing && allTakeNothing rest

end

mutual

/-- The least number of characters that a pattern takes; none if a part of it can never match. -/
def leastLength : Pattern → Option Nat
  | .empty | .anchor _ => some 0
  | .literal text => some text.length
  | .set _ chars => if chars.ranges.isEmpty then none else some 1
  | .repetition p least _ _ => p.leastLength.map (least * ·)
  | .capture _ p => p.leastLength
  | .sequence ps => sumOfLeast 0 ps
  | .choice ps => leastOfLeast none ps

def sumOfLeast (sum : Nat) : List Pattern → Option Nat
  | [] => some sum
  | p :: rest =>
    match p.leastLength with
    | some n => sumOfLeast (sum + n) rest
    | none => none

def leastOfLeast (least : Option Nat) : List Pattern → Option Nat
  | [] => least
  | p :: rest =>
    match p.leastLength with
    | some n => leastOfLeast (some (min n (least.getD n))) rest
    | none => none

end

/-! ## Anchors -/

mutual

/-- Whether a pattern can only match where an anchor holds at its start. -/
def startsWith (a : Anchor) : Pattern → Bool
  | .anchor b => a = b
  | .empty | .literal _ | .set _ _ => false
  | .repetition p least _ _ => 0 < least && p.startsWith a
  | .capture _ p => p.startsWith a
  | .sequence ps => sequenceStartsWith a ps
  | .choice ps => allStartWith a ps

def sequenceStartsWith (a : Anchor) : List Pattern → Bool
  | [] => false
  | p :: rest => p.startsWith a || (p.takesNothing && sequenceStartsWith a rest)

def allStartWith (a : Anchor) : List Pattern → Bool
  | [] => true
  | p :: rest => p.startsWith a && allStartWith a rest

end

/-! ## Building patterns -/

/-- One of some characters: a text if there is only one. -/
def ofSet (byBytes : Bool) (chars : CharSet) : Pattern :=
  match chars.ranges with
  | [] => .set true .empty
  | [(a, b)] => if a = b then .literal [Char.ofNat a] else .set byBytes chars
  | _ => .set byBytes chars

/-- A pattern repeated. What takes no characters is not repeated more than once. -/
def repeated (p : Pattern) (least : Nat) (most : Option Nat) (isGreedy : Bool) : Pattern :=
  let least := if p.takesNothing then min least 1 else least
  let most := if p.takesNothing then some (min (most.getD 1) 1) else most
  if least = 0 && most = some 0 then .empty
  else if least = 1 && most = some 1 then p
  else .repetition p least most isGreedy

/-- Parts one after the other, while they are joined. -/
structure Joining where
  /-- The parts that are complete, the last one first. -/
  complete : List Pattern
  /-- The characters that the next text is joined to, the last one first. -/
  text : List Char

namespace Joining

def close (j : Joining) : List Pattern :=
  if j.text.isEmpty then j.complete else .literal j.text.reverse :: j.complete

def add (j : Joining) : Pattern → Joining
  | .literal text => { j with text := text.reverse ++ j.text }
  | p => ⟨p :: j.close, []⟩

end Joining

/-- The parts of a pattern that stand one after the other. -/
def parts : Pattern → List Pattern
  | .empty => []
  | .sequence parts => parts
  | p => [p]

/-- Patterns one after the other. -/
def sequenceOf (patterns : List Pattern) : Pattern :=
  match ((patterns.flatMap parts).foldl Joining.add ⟨[], []⟩).close with
  | [] => .empty
  | [p] => p
  | joined => .sequence joined.reverse

/-- The branches of a pattern that it is a choice between. -/
def branches : Pattern → List Pattern
  | .choice branches => branches
  | p => [p]

/-- The character of a pattern that stands for just one. -/
def char? : Pattern → Option Char
  | .literal [c] => some c
  | _ => none

/-- The set that a pattern stands for. -/
def set? : Pattern → Option CharSet
  | .set _ chars => some chars
  | _ => none

/-- The parts of a pattern that has several. -/
def sequence? : Pattern → Option (List Pattern)
  | .sequence parts => some parts
  | _ => none

/-- The number of equal parts at the start of two sequences. -/
def commonCount (ps qs : List Pattern) : Nat :=
  ((ps.zip qs).takeWhile fun (p, q) => p == q).length

/-- The choice between patterns as a set, if they are all single characters or all sets. -/
def mergedSet? (patterns : List Pattern) : Option Pattern :=
  match patterns.mapM char? with
  | some chars => some (ofSet false (.ofChars chars))
  | none => (patterns.mapM set?).map fun sets => ofSet false (.ofRanges (sets.flatMap (·.ranges)))

mutual

/-- The number of nodes of a pattern. -/
def size : Pattern → Nat
  | .empty | .literal _ | .set _ _ | .anchor _ => 1
  | .repetition p _ _ _ | .capture _ p => p.size + 1
  | .sequence ps | .choice ps => sizeOfAll 1 ps

def sizeOfAll (before : Nat) : List Pattern → Nat
  | [] => before
  | p :: rest => sizeOfAll (before + p.size) rest

end

/-- The choice between patterns; the parts that all of them start with are put before it. `fuel` bounds how often
that is done. -/
def choiceWithin (patterns : List Pattern) : Nat → Pattern
  | 0 => .choice patterns
  | fuel + 1 =>
    let flat := patterns.flatMap branches
    match flat with
    | [p] => p
    | _ =>
      match mergedSet? flat, flat.mapM sequence? with
      | some merged, _ => merged
      | none, some (first :: rest) =>
        let common := rest.foldl (fun count ps => min count (commonCount first ps)) first.length
        if common = 0 then .choice flat
        else
          let rests := (first :: rest).map fun ps => sequenceOf (ps.drop common)
          sequenceOf (first.take common ++ [choiceWithin rests fuel])
      | none, _ => .choice flat

/-- The choice between patterns. Each time that common parts are put before it fewer nodes are left. -/
def choiceOf (patterns : List Pattern) : Pattern :=
  choiceWithin patterns (sizeOfAll 1 patterns)

end Pattern

end OpalLocking
