/-
Automata that read texts byte by byte, and how they grow.

An automaton has a limited memory: each state takes a fixed amount, and states with several ways on take more for
each way. A draft counts what its states take, and adding to it fails where the limit would be passed.
-/
import OpalLocking.Pattern.Basic
import OpalLocking.Pattern.ByteRange

namespace OpalLocking.Pattern

/-- A way to another state, for some bytes. -/
structure Move where
  bytes : ByteRange
  target : Nat
deriving DecidableEq, Repr

/-- A state of an automaton, with the states it leads to. -/
inductive AutomatonState
  /-- Goes on without a byte. -/
  | pass (target : Nat)
  | byte (move : Move)
  | bytes (moves : Array Move)
  /-- Goes on without a byte where an anchor holds. -/
  | look (a : Anchor) (target : Nat)
  /-- Goes on to each of some states without a byte. -/
  | branch (targets : Array Nat)
  | accept
deriving Repr

namespace AutomatonState

/-- The memory for a state with at most one way on, in bytes. -/
def baseMemory : Nat := 32

/-- The memory for a way on that is taken for some bytes. -/
def moveMemory : Nat := 8

/-- The memory for a way on that is taken without a byte. -/
def targetMemory : Nat := 4

def memory : AutomatonState → Nat
  | .bytes moves => baseMemory + moveMemory * moves.size
  | .branch targets => baseMemory + targetMemory * targets.size
  | .pass _ | .byte _ | .look _ _ | .accept => baseMemory

/-- The state with a way on to another one. A branch gets one way more; other states have only one. -/
def connect (target : Nat) : AutomatonState → AutomatonState
  | .pass _ => .pass target
  | .byte move => .byte { move with target }
  | .look a _ => .look a target
  | .branch targets => .branch (targets.push target)
  | s => s

/-- What one way on more takes. -/
def connectMemory : AutomatonState → Nat
  | .branch _ => targetMemory
  | _ => 0

end AutomatonState

/-- An automaton that is being built. -/
structure Draft where
  states : Array AutomatonState
  /-- The memory for all states. -/
  memory : Nat

/-- Building an automaton. It fails when the automaton becomes too large. -/
abbrev Drafting := StateT Draft Option

/-- A part of an automaton: where it is entered and where it is left. -/
structure Piece where
  start : Nat
  stop : Nat

/-- The memory for an automaton, in bytes. -/
def sizeLimit : Nat := 10 * 1024 * 1024

namespace Drafting

/-- Fails if the memory is used up. -/
def within (d : Draft) : Option Draft :=
  if sizeLimit < d.memory then none else some d

/-- Adds a state; the answer is its number. -/
def add (s : AutomatonState) : Drafting Nat := fun d =>
  let number := d.states.size
  let cost := s.memory
  (within ⟨d.states.push s, d.memory + cost⟩).map (number, ·)

/-- Lets a state lead to another one. -/
def connect (source target : Nat) : Drafting Unit := fun d =>
  let cost := (d.states[source]?.map AutomatonState.connectMemory).getD 0
  (within ⟨d.states.modify source (AutomatonState.connect target), d.memory + cost⟩).map ((), ·)

/-- A state that goes on without a byte. -/
def pass : Drafting Nat := add (.pass 0)

/-- A state that goes on to several others without a byte. -/
def branch : Drafting Nat := add (.branch #[])

/-- A state as a part of an automaton. -/
def single (s : AutomatonState) : Drafting Piece := do
  let state ← add s
  return ⟨state, state⟩

end Drafting

end OpalLocking.Pattern
