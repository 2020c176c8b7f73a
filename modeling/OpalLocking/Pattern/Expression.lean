/-
The structure of a pattern's text, before it has a meaning: what is repeated, what is an alternative, which
flags change where. Every part keeps its place, so that a later check can say where a mistake is.
-/
import OpalLocking.Pattern.CharSet
import OpalLocking.Pattern.Mistake

namespace OpalLocking.Pattern

/-- What changes how a pattern is read. -/
inductive Flag
  | ignoreCase
  /-- Line starts and ends count as text starts and ends. -/
  | manyLines
  /-- A dot stands for line breaks too. -/
  | dotMatchesAll
  /-- Repetitions are short first. This changes which match is found, not whether there is one. -/
  | swapGreed
  /-- Characters of all scripts are read, not bytes. -/
  | wide
  /-- Carriage returns are part of line breaks. -/
  | returnsBreakLines
  /-- Blanks and comments are passed over. -/
  | skipBlanks
deriving DecidableEq, Repr

def Flag.ofLetter? : Char → Option Flag
  | 'i' => some .ignoreCase
  | 'm' => some .manyLines
  | 's' => some .dotMatchesAll
  | 'U' => some .swapGreed
  | 'u' => some .wide
  | 'R' => some .returnsBreakLines
  | 'x' => some .skipBlanks
  | _ => none

/-- Flags that are set or unset, each at most once. -/
abbrev FlagChanges := List (Flag × Bool)

/-- A character of a pattern. -/
structure Literal where
  span : Span
  char : Char
  /-- Whether it is written as a byte, with two digits. -/
  isByte : Bool
deriving DecidableEq, Repr

/-- The sets that have a one-letter name. -/
inductive Shorthand
  | digit
  | space
  | word
deriving DecidableEq, Repr

def Shorthand.charSet : Shorthand → CharSet
  | .digit => .ofRanges [('0'.toNat, '9'.toNat)]
  | .space => .ofRanges [(0x09, 0x0D), (0x20, 0x20)]
  | .word => .ofRanges [('0'.toNat, '9'.toNat), ('A'.toNat, 'Z'.toNat), ('_'.toNat, '_'.toNat), ('a'.toNat, 'z'.toNat)]

/-- What two sets in brackets are combined to. -/
inductive SetOperation
  | intersection
  | difference
  | symmetricDifference
deriving DecidableEq, Repr

/-- What stands in brackets. -/
inductive SetExpression
  | nothing (span : Span)
  | literal (l : Literal)
  | range (span : Span) (first last : Literal)
  /-- A set by name, with its complement if `negated`. -/
  | named (span : Span) (chars : CharSet) (negated : Bool)
  | shorthand (span : Span) (name : Shorthand) (negated : Bool)
  | property (span : Span) (name : String) (hasValue : Bool)
  | bracketed (span : Span) (negated : Bool) (inner : SetExpression)
  | union (span : Span) (members : List SetExpression)
  | combination (span : Span) (operation : SetOperation) (first second : SetExpression)
deriving Repr

namespace SetExpression

/-- Where an expression stands. -/
def span : SetExpression → Span
  | .literal l => l.span
  | .nothing span | .range span _ _ | .named span _ _ | .shorthand span _ _ | .property span _ _
  | .bracketed span _ _ | .union span _ | .combination span _ _ _ => span

/-- The set of several members, given with the last one first; `place` is where they would start. -/
def unionOf (place : Nat) : List SetExpression → SetExpression
  | [] => .nothing ⟨place, place⟩
  | [member] => member
  | last :: before =>
    .union ⟨((last :: before).getLast (by simp)).span.start, last.span.stop⟩ (last :: before).reverse

/-- Two sets combined. -/
def combine (operation : SetOperation) (first second : SetExpression) : SetExpression :=
  .combination ⟨first.span.start, second.span.stop⟩ operation first second

end SetExpression

/-- The places at the edge of a word. -/
inductive WordEdge
  | either
  /-- All places that are no edge. -/
  | neither
  | start
  | stop
  /-- No word character before, whatever follows. -/
  | startHalf
  /-- No word character after, whatever precedes. -/
  | stopHalf
deriving DecidableEq, Repr

/-- The places that are matched without a character. -/
inductive Assertion
  | lineStart
  | lineEnd
  | textStart
  | textEnd
  | word (edge : WordEdge)
deriving DecidableEq, Repr

/-- The text of a pattern as a tree. -/
inductive Expression
  | empty (span : Span)
  | flags (span : Span) (changes : FlagChanges)
  | literal (l : Literal)
  | dot (span : Span)
  | assertion (span : Span) (a : Assertion)
  | shorthand (span : Span) (name : Shorthand) (negated : Bool)
  | property (span : Span) (name : String) (hasValue : Bool)
  | set (s : SetExpression)
  /-- The longest repetition comes first if `isGreedy`. -/
  | repetition (span : Span) (e : Expression) (least : Nat) (most : Option Nat) (isGreedy : Bool)
  /-- A group; one that is kept has a number. -/
  | group (span : Span) (number : Option Nat) (changes : FlagChanges) (inner : Expression)
  | sequence (span : Span) (parts : List Expression)
  | alternatives (span : Span) (branches : List Expression)
deriving Repr

namespace Expression

/-- Where an expression stands. -/
def span : Expression → Span
  | .literal l => l.span
  | .set s => s.span
  | .empty span | .flags span _ | .dot span | .assertion span _ | .shorthand span _ _ | .property span _ _
  | .repetition span _ _ _ _ | .group span _ _ _ | .sequence span _ | .alternatives span _ => span

/-- Several expressions one after the other, given with the last one first. -/
def sequenceOf (span : Span) : List Expression → Expression
  | [] => .empty span
  | [e] => e
  | parts => .sequence span parts.reverse

/-- The choice between several expressions, given with the last one first. -/
def alternativesOf (span : Span) (last : Expression) : List Expression → Expression
  | [] => last
  | before => .alternatives span (last :: before).reverse

/-- Whether a repetition can follow. -/
def isRepeatable : Expression → Bool
  | .empty _ | .flags _ _ => false
  | _ => true

end Expression

end OpalLocking.Pattern
