/-
Sets of characters, read byte by byte.

Characters whose encodings end alike share the states for these ends. What was built is remembered in a table of
fixed size, where an entry may give way to another one of the same slot; then a state is built again.
-/
import OpalLocking.Pattern.Automaton.Basic
import Std.Data.HashMap

namespace OpalLocking.Pattern

/-! ## Slots -/

/-- Takes a number into a hash. -/
def mix (hash : UInt64) (n : Nat) : UInt64 := (hash ^^^ UInt64.ofNat n) * 1099511628211

/-- The hash of no numbers. -/
def emptyHash : UInt64 := 14695981039346656037

/-- The states that have been built, by the slots of what they are built from. -/
abbrev Remembered (α : Type) := Std.HashMap Nat (α × Nat)

namespace Drafting

/-- The state that is remembered in a slot for `key`, or else the one that `build` adds. -/
def reuse {α : Type} [DecidableEq α] (known : Remembered α) (slot : Nat) (key : α) (build : Drafting Nat) :
    Drafting (Nat × Remembered α) := do
  match known[slot]? with
  | some (k, state) =>
    if k = key then return (state, known)
    let state ← build
    return (state, known.insert slot (key, state))
  | none =>
    let state ← build
    return (state, known.insert slot (key, state))

/-! ## Forwards -/

/-- The number of slots for states by their moves. -/
def moveSlots : Nat := 10000

def slotOfMoves (moves : Array Move) : Nat :=
  (moves.foldl (fun hash m => mix (mix (mix hash m.bytes.low.toNat) m.bytes.high.toNat) m.target) emptyHash).toNat
    % moveSlots

/-- A state that is not complete: its moves, and the bytes of one more that is still being built. -/
structure OpenState where
  moves : Array Move
  last : Option ByteRange

/-- The moves of a state once it is known where the last one leads. -/
def OpenState.complete (s : OpenState) (target : Nat) : Array Move :=
  match s.last with
  | some bytes => s.moves.push ⟨bytes, target⟩
  | none => s.moves

/-- Builds open states, each of which the last move of the one before leads to; the answer is where the first one
is entered. -/
def complete (stop : Nat) (known : Remembered (Array Move)) :
    List OpenState → Drafting (Nat × Remembered (Array Move))
  | [] => return (stop, known)
  | s :: inner => do
    let (target, known) ← complete stop known inner
    let moves := s.complete target
    reuse known (slotOfMoves moves) moves (add (.bytes moves))

/-- Open states for the rest of a sequence of byte ranges. -/
def openStates : List ByteRange → List OpenState
  | [] => []
  | bytes :: rest => ⟨#[], some bytes⟩ :: openStates rest

/-- Adds a sequence of byte ranges to open states. As far as it agrees with the sequence before, they stay
open. -/
def addSequence (stop : Nat) (known : Remembered (Array Move)) :
    List OpenState → List ByteRange → Drafting (List OpenState × Remembered (Array Move))
  | s :: inner, bytes :: rest => do
    if s.last = some bytes then
      let (inner, known) ← addSequence stop known inner rest
      return (s :: inner, known)
    let (target, known) ← complete stop known inner
    return (⟨s.complete target, some bytes⟩ :: openStates rest, known)
  | [], rest => return (openStates rest, known)
  | states, [] => return (states, known)

/-- Adds sequences of byte ranges in ascending order. -/
def addSequences (stop : Nat) (states : List OpenState) (known : Remembered (Array Move)) :
    List (List ByteRange) → Drafting Nat
  | [] => return (← complete stop known states).1
  | bytes :: rest => do
    let (states, known) ← addSequence stop known states bytes
    addSequences stop states known rest

/-- A set of characters that is read forwards. -/
def forwardSet (chars : CharSet) : Drafting Piece := do
  let stop ← pass
  return ⟨← addSequences stop [⟨#[], none⟩] ∅ chars.sequences, stop⟩

/-! ## Backwards -/

/-- A byte range before a state. -/
abbrev Approach := Nat × ByteRange

/-- The number of slots for states by what they lead to. -/
def approachSlots : Nat := 1000

def slotOfApproach (a : Approach) : Nat :=
  (mix (mix (mix emptyHash a.1) a.2.low.toNat) a.2.high.toNat).toNat % approachSlots

/-- The states for a sequence of byte ranges, the first of which leads to `target`; the answer is where the last one
is entered. -/
def approach (target : Nat) (known : Remembered Approach) :
    List ByteRange → Drafting (Nat × Remembered Approach)
  | [] => return (target, known)
  | bytes :: rest => do
    let key : Approach := (target, bytes)
    let (state, known) ← reuse known (slotOfApproach key) key (add (.byte ⟨bytes, target⟩))
    approach state known rest

/-- Adds the states for sequences of byte ranges, and lets a branch lead to each. -/
def approaches (branch stop : Nat) (known : Remembered Approach) : List (List ByteRange) → Drafting Unit
  | [] => return ()
  | bytes :: rest => do
    let (state, known) ← approach stop known bytes
    connect branch state
    approaches branch stop known rest

/-- A set of characters that is read backwards. -/
def backwardSet (chars : CharSet) : Drafting Piece := do
  let start ← branch
  let stop ← pass
  approaches start stop ∅ chars.sequences
  return ⟨start, stop⟩

/-! ## All sets -/

/-- A set of characters of one byte. -/
def asciiSet (chars : CharSet) : Drafting Piece := do
  let stop ← pass
  let move (range : CharRange) : Move := ⟨⟨UInt8.ofNat range.1, UInt8.ofNat range.2⟩, stop⟩
  return ⟨← add (.bytes (chars.ranges.map move).toArray), stop⟩

/-- A set of characters. -/
def set (backwards : Bool) (chars : CharSet) : Drafting Piece :=
  if chars.isAscii then asciiSet chars
  else if backwards then backwardSet chars
  else forwardSet chars

end Drafting

end OpalLocking.Pattern
