/-
Choices between words.

Words that begin alike share their states. Words are tried in their order: once a word ends somewhere, words that
go on from there are told apart from those before it, so that the first word that matches stays the first.
-/
import OpalLocking.Pattern.Automaton.Basic

namespace OpalLocking.Pattern

/-- A place in a tree of words: the bytes that can follow, each with the place behind it. -/
structure Fork where
  /-- Groups of bytes that words that end here follow, the last group first. -/
  closed : List (List (UInt8 × Nat))
  /-- The bytes, in ascending order, of the words since. -/
  active : List (UInt8 × Nat)

namespace Fork

def new : Fork := ⟨[], []⟩

/-- Whether no word goes on here. -/
def isLeaf (f : Fork) : Bool := f.active.isEmpty && f.closed.all (·.isEmpty)

/-- The groups of bytes in their order. A word ends between one group and the next. -/
def groups (f : Fork) : List (List (UInt8 × Nat)) := (f.active :: f.closed).reverse

/-- Ends a word here. -/
def close (f : Fork) : Fork :=
  if f.isLeaf && !f.closed.isEmpty then f else ⟨f.active :: f.closed, []⟩

/-- Adds a byte that leads to a place. -/
def insert (byte : UInt8) (place : Nat) : List (UInt8 × Nat) → List (UInt8 × Nat)
  | [] => [(byte, place)]
  | (b, p) :: rest => if byte < b then (byte, place) :: (b, p) :: rest else (b, p) :: insert byte place rest

end Fork

/-- Words by their beginnings. Words start at the first place, and every other place stands behind its own. -/
abbrev WordTree := Array Fork

namespace WordTree

/-- The place behind a byte. -/
def enter (tree : WordTree) (place : Nat) (byte : UInt8) : WordTree × Nat :=
  match (tree[place]?.getD .new).active.lookup byte with
  | some next => (tree, next)
  | none =>
    let next := tree.size
    ((tree.modify place fun f => { f with active := Fork.insert byte next f.active }).push .new, next)

def addWord (tree : WordTree) (word : List UInt8) : WordTree :=
  let (tree, place) := word.foldl (fun (tree, place) byte => enter tree place byte) (tree, 0)
  tree.modify place Fork.close

def ofWords (words : List (List UInt8)) : WordTree :=
  words.foldl addWord #[.new]

end WordTree

namespace Drafting

/-- The state for a group of bytes. -/
def group (starts : Nat → Nat) (bytes : List (UInt8 × Nat)) : Drafting Nat :=
  match bytes.map fun (byte, place) => (⟨⟨byte, byte⟩, starts place⟩ : Move) with
  | [move] => add (.byte move)
  | moves => add (.bytes moves.toArray)

/-- The states that a place leads to, group by group. -/
def forkTargets (starts : Nat → Nat) (stop : Nat) (found : Array Nat) :
    List (List (UInt8 × Nat)) → Drafting (Array Nat)
  | [] => return found
  | bytes :: rest => do
    let found ← if bytes.isEmpty then pure found else return found.push (← group starts bytes)
    forkTargets starts stop (if rest.isEmpty then found else found.push stop) rest

/-- The states for a place; the answer is where it is entered. -/
def fork (starts : Nat → Nat) (stop : Nat) (f : Fork) : Drafting Nat := do
  if f.isLeaf then return stop
  add (.branch (← forkTargets starts stop #[] f.groups))

/-- The states for some places of a tree, which stand behind them in reverse; `starts` are where the places behind
these are entered, by their numbers. -/
def forks (stop : Nat) (starts : Array Nat) : List (Fork × Nat) → Drafting (Array Nat)
  | [] => return starts
  | (f, place) :: rest => do
    let start ← fork (fun next => starts[next]?.getD stop) stop f
    forks stop (starts.setIfInBounds place start) rest

/-- A choice between words. -/
def words (words : List (List UInt8)) : Drafting Piece := do
  let tree := WordTree.ofWords words
  let stop ← pass
  let starts ← forks stop (.replicate tree.size stop) tree.toList.zipIdx.reverse
  return ⟨starts[0]?.getD stop, stop⟩

end Drafting

end OpalLocking.Pattern
