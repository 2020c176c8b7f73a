/-
Searching a text with an automaton.

At each position of the text some states wait for a byte. They are found by going on without a byte from the states
that the byte before led to, and from the start of the automaton, since a match can start before each character.
No state is visited twice at one position.
-/
import OpalLocking.Pattern.Automaton.Build

namespace OpalLocking.Pattern

/-! ## Anchors -/

def isWordByte (b : UInt8) : Bool :=
  let n := b.toNat
  ('0'.toNat ≤ n && n ≤ '9'.toNat) || ('A'.toNat ≤ n && n ≤ 'Z'.toNat) || n = '_'.toNat
    || ('a'.toNat ≤ n && n ≤ 'z'.toNat)

/-- Whether the place between two bytes is an edge of a word. Words are of ASCII characters. -/
def WordEdge.holds (edge : WordEdge) (before after : Option UInt8) : Bool :=
  let inside := before.any isWordByte
  let ahead := after.any isWordByte
  match edge with
  | .either => inside != ahead
  | .neither => inside == ahead
  | .start => !inside && ahead
  | .stop => inside && !ahead
  | .startHalf => !inside
  | .stopHalf => !ahead

def lineFeed : UInt8 := 0x0A

def carriageReturn : UInt8 := 0x0D

/-- Whether an anchor holds between two bytes, of which there is none at the ends of the text. -/
def Anchor.holds (a : Anchor) (before after : Option UInt8) : Bool :=
  match a with
  | .textStart => before.isNone
  | .textEnd => after.isNone
  | .lineStart returns =>
    before.isNone || before = some lineFeed
      || (returns && before = some carriageReturn && after ≠ some lineFeed)
  | .lineEnd returns =>
    after.isNone || (returns && after = some carriageReturn)
      || (after = some lineFeed && !(returns && before = some carriageReturn))
  | .word edge _ => edge.holds before after

namespace ByteRange

def contains (r : ByteRange) (b : UInt8) : Bool := r.low ≤ b && b ≤ r.high

end ByteRange

namespace Automaton

/-! ## One position -/

/-- The states that a state leads to without a byte, between two bytes. -/
def targets (s : AutomatonState) (before after : Option UInt8) : List Nat :=
  match s with
  | .pass target => [target]
  | .look a target => if a.holds before after then [target] else []
  | .branch targets => targets.toList
  | .byte _ | .bytes _ | .accept => []

/-- Whether a state waits for a byte. -/
def waits : AutomatonState → Bool
  | .byte _ | .bytes _ => true
  | .pass _ | .look _ _ | .branch _ | .accept => false

/-- Visits states, the numbers of which are given, and all that they lead to without a byte; the answer is which
states were visited when, and those that wait for a byte. There is none if a match ends here. `visited` holds for
each state the last position at which it was visited, and `fuel` bounds the number of ways that are gone. -/
def visit (a : Automaton) (position : Nat) (before after : Option UInt8) (visited : Array Nat)
    (waiting : List AutomatonState) : List Nat → Nat → Option (Array Nat × List AutomatonState)
  | [], _ | _, 0 => some (visited, waiting)
  | number :: rest, fuel + 1 =>
    if visited[number]? = some position then visit a position before after visited waiting rest fuel
    else
      match a.states[number]? with
      | none => visit a position before after visited waiting rest fuel
      | some .accept => none
      | some s =>
        visit a position before after (visited.setIfInBounds number position)
          (if waits s then s :: waiting else waiting) (targets s before after ++ rest) fuel

/-- The states that a byte leads to from those that wait for it. -/
def step (waiting : List AutomatonState) (b : UInt8) : List Nat :=
  waiting.filterMap fun
    | .byte m => if m.bytes.contains b then some m.target else none
    | .bytes moves => (moves.find? (·.bytes.contains b)).map (·.target)
    | _ => none

/-! ## The text -/

/-- The number of ways between states that are gone without a byte. -/
def ways (a : Automaton) : Nat :=
  a.states.foldl (fun count s =>
    match s with
    | .branch targets => count + targets.size
    | _ => count + 1) 0

/-- Whether a character ends before a byte, or a text. -/
def isBoundary (after : Option UInt8) : Bool :=
  after.all fun b => b < 0x80 || 0xC0 ≤ b

/-- Whether there is a match from some states on, or one that starts later. Positions are counted from one. -/
def searchFrom (a : Automaton) (ways position : Nat) (before : Option UInt8) (visited : Array Nat)
    (arrived : List Nat) (rest : List UInt8) : Bool :=
  let opening := if isBoundary rest.head? then a.start :: arrived else arrived
  match visit a position before rest.head? visited [] opening (opening.length + ways) with
  | none => true
  | some (visited, waiting) =>
    match rest with
    | [] => false
    | b :: rest => searchFrom a ways (position + 1) (some b) visited (step waiting b) rest

/-- Whether an automaton finds a match anywhere in a text. -/
def search (a : Automaton) (text : String) : Bool :=
  searchFrom a a.ways 1 none (.replicate a.states.size 0) [] (bytesOf text.toList)

/-- Whether an automaton looks for edges of words in any script. -/
def hasWideEdges (a : Automaton) : Bool :=
  a.states.any fun
    | .look (.word _ wide) _ => wide
    | _ => false

end Automaton

end OpalLocking.Pattern
