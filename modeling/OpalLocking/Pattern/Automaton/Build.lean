/-
The automaton for a pattern.

Repetitions are written out, and each part of a pattern is entered at one state and left at one. An automaton is
also built for the reverse of a pattern, which reads a text from its end; it has no states for groups that are kept.
-/
import OpalLocking.Pattern.Automaton.Characters
import OpalLocking.Pattern.Automaton.Words

namespace OpalLocking.Pattern

/-! ## Reversing -/

mutual

/-- A pattern with its sequences reversed. Texts are reversed byte by byte when they are built. -/
def mirror : Pattern → Pattern
  | .empty => .empty
  | .literal text => .literal text
  | .set byBytes chars => .set byBytes chars
  | .anchor a => .anchor a
  | .repetition p least most isGreedy => .repetition p.mirror least most isGreedy
  | .capture number p => .capture number p.mirror
  | .sequence ps => .sequence (mirrorOnto [] ps)
  | .choice ps => .choice (mirrorAll [] ps).reverse

/-- The mirrors of some patterns in reverse, before others. -/
def mirrorOnto (after : List Pattern) : List Pattern → List Pattern
  | [] => after
  | p :: rest => mirrorOnto (p.mirror :: after) rest

/-- The mirrors of some patterns, the last one first, before others. -/
def mirrorAll (before : List Pattern) : List Pattern → List Pattern
  | [] => before
  | p :: rest => mirrorAll (p.mirror :: before) rest

end

namespace Drafting

/-! ## Parts in order -/

/-- A part behind another one. -/
def andThen (p q : Piece) : Drafting Piece := do
  connect p.stop q.start
  return ⟨p.start, q.stop⟩

/-- What is made so often after a part that is there already. -/
def timesAfter (make : Drafting Piece) (so : Piece) : Nat → Drafting Piece
  | 0 => return so
  | count + 1 => do
    let next ← andThen so (← make)
    timesAfter make next count

def empty : Drafting Piece := single (.pass 0)

/-- What is made so often. -/
def times (make : Drafting Piece) : Nat → Drafting Piece
  | 0 => empty
  | count + 1 => do timesAfter make (← make) count

/-- Single bytes after a part that is there already. -/
def bytesAfter (so : Piece) : List UInt8 → Drafting Piece
  | [] => return so
  | b :: rest => do
    let next ← andThen so (← single (.byte ⟨⟨b, b⟩, 0⟩))
    bytesAfter next rest

/-- Single bytes. -/
def bytes : List UInt8 → Drafting Piece
  | [] => empty
  | b :: rest => do bytesAfter (← single (.byte ⟨⟨b, b⟩, 0⟩)) rest

/-! ## Repetitions -/

/-- What is made once or not at all. -/
def optional (make : Drafting Piece) : Drafting Piece := do
  let fork ← branch
  let once ← make
  let stop ← pass
  connect fork once.start
  connect fork stop
  connect once.stop stop
  return ⟨fork, stop⟩

/-- What is made any number of times. What may take no characters gets a way around it of its own. -/
def anyTimes (make : Drafting Piece) (takesSome : Bool) : Drafting Piece := do
  if takesSome then
    let fork ← branch
    let once ← make
    connect fork once.start
    connect once.stop fork
    return ⟨fork, fork⟩
  else
    let once ← make
    let again ← branch
    connect once.stop again
    connect again once.start
    let start ← branch
    let stop ← pass
    connect start once.start
    connect start stop
    connect again stop
    return ⟨start, stop⟩

/-- A part again and again. -/
def again (start : Nat) (last : Piece) : Drafting Piece := do
  let fork ← branch
  connect last.stop fork
  connect fork last.start
  return ⟨start, fork⟩

/-- What is made a number of times or more often. -/
def atLeast (make : Drafting Piece) (takesSome : Bool) : Nat → Drafting Piece
  | 0 => anyTimes make takesSome
  | 1 => do
    let once ← make
    again once.start once
  | least + 2 => do
    let before ← times make (least + 1)
    let last ← make
    let joined ← andThen before last
    again joined.start last

/-- What is made so often more at most, each time with a way to `stop`. -/
def upTo (make : Drafting Piece) (stop : Nat) (so : Piece) : Nat → Drafting Piece
  | 0 => do
    connect so.stop stop
    return ⟨so.start, stop⟩
  | count + 1 => do
    let fork ← branch
    let once ← make
    connect so.stop fork
    connect fork once.start
    connect fork stop
    upTo make stop ⟨so.start, once.stop⟩ count

/-- What is made a number of times within bounds. -/
def repetition (make : Drafting Piece) (takesSome : Bool) (least : Nat) (most : Option Nat) : Drafting Piece :=
  match least, most with
  | 0, some 1 => optional make
  | least, none => atLeast make takesSome least
  | least, some most => do
    let before ← times make least
    if least = most then return before
    let stop ← pass
    upTo make stop before (most - least)

end Drafting

/-! ## Patterns -/

/-- The texts of some patterns if they are nothing else. -/
def texts? (ps : List Pattern) : Option (List (List Char)) :=
  ps.mapM fun
    | .literal text => some text
    | _ => none

/-- The bytes of a text in the order in which they are read. -/
def readBytes (backwards : Bool) (text : List Char) : List UInt8 :=
  if backwards then (bytesOf text).reverse else bytesOf text

open Drafting in
mutual

/-- Builds a pattern; one that is read backwards is its own mirror. -/
def build (backwards : Bool) : Pattern → Drafting Piece
  | .empty => Drafting.empty
  | .literal text => bytes (readBytes backwards text)
  | .set _ chars => Drafting.set backwards chars
  | .anchor a => single (.look a 0)
  | .repetition p least most _ =>
    Drafting.repetition (build backwards p) (p.leastLength.any (0 < ·)) least most
  | .capture _ p =>
    if backwards then build backwards p
    else do
      let opening ← single (.pass 0)
      let inner ← build backwards p
      let closing ← single (.pass 0)
      andThen (← andThen opening inner) closing
  | .sequence ps => buildSequence backwards none ps
  | .choice ps =>
    match texts? ps with
    | some texts => words (texts.map (readBytes backwards))
    | none => buildChoice backwards [] none ps

/-- Builds patterns one after the other, behind what is there already. -/
def buildSequence (backwards : Bool) (so : Option Piece) : List Pattern → Drafting Piece
  | [] => match so with
    | some piece => return piece
    | none => Drafting.empty
  | p :: rest => do
    let piece ← build backwards p
    match so with
    | some before => buildSequence backwards (some (← andThen before piece)) rest
    | none => buildSequence backwards (some piece) rest

/-- Builds the branches of a choice. The states around them are added once there are two branches: `waiting` is a
first one, and `around` are these states. -/
def buildChoice (backwards : Bool) (waiting : List Piece) (around : Option Piece) :
    List Pattern → Drafting Piece
  | [] => match around, waiting with
    | some piece, _ => return piece
    | none, piece :: _ => return piece
    | none, [] => single (.bytes #[])
  | p :: rest => do
    let piece ← build backwards p
    match around, waiting with
    | some around, _ => do
      connect around.start piece.start
      connect piece.stop around.stop
      buildChoice backwards [] (some around) rest
    | none, [] => buildChoice backwards [piece] none rest
    | none, first :: _ => do
      let start ← branch
      let stop ← pass
      connect start first.start
      connect first.stop stop
      connect start piece.start
      connect piece.stop stop
      buildChoice backwards [] (some ⟨start, stop⟩) rest

end

/-! ## The whole -/

/-- An automaton with the state where a match starts. -/
structure Automaton where
  states : Array AutomatonState
  start : Nat

namespace Drafting

/-- All bytes. -/
def anyByte : Drafting Piece := do
  let stop ← pass
  return ⟨← add (.bytes #[⟨⟨0, 255⟩, stop⟩]), stop⟩

/-- The automaton for a pattern. Unless a match can only be at the edge of the text where reading starts, it begins
with states that pass over bytes before a match. -/
def automaton (backwards : Bool) (p : Pattern) : Drafting Nat := do
  let p := if backwards then p.mirror else p
  let atEdge := p.startsWith (if backwards then .textEnd else .textStart)
  let before ← if atEdge then empty else anyTimes anyByte true
  let whole ← build backwards (.capture 0 p)
  let accepting ← add .accept
  connect whole.stop accepting
  connect before.stop whole.start
  return whole.start

end Drafting

/-- The automaton for a pattern, unless it becomes too large. -/
def automaton? (backwards : Bool) (p : Pattern) : Option Automaton :=
  (Drafting.automaton backwards p ⟨#[], 0⟩).map fun (start, d) => ⟨d.states, start⟩

end OpalLocking.Pattern
