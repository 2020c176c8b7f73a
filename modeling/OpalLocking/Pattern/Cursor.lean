/-
Reading a pattern's text character by character.

Every loop is bounded by the length of the text, since each round goes on by at least one character.
-/
import OpalLocking.Pattern.Expression
import OpalLocking.Text.Blank
import Std.Data.HashMap

namespace OpalLocking.Pattern

/-- How far a text is read. -/
structure Cursor where
  text : Array Char
  position : Nat
  /-- Whether blanks and comments are passed over. -/
  skipsBlanks : Bool
  /-- The number of groups so far that are kept. -/
  groups : Nat
  /-- The names of groups so far, with their places. -/
  groupNames : Std.HashMap String Span

abbrev Reading := StateT Cursor (Except Mistake)

namespace Cursor

def current? (c : Cursor) : Option Char := c.text[c.position]?

/-- The character after the current one. -/
def following? (c : Cursor) : Option Char :=
  if c.position < c.text.size then c.text[c.position + 1]? else none

def next (c : Cursor) : Cursor := { c with position := min (c.position + 1) c.text.size }

/-- The next character that is not in a comment or blank, after which `fuel` more are looked at. -/
def pastBlanks (c : Cursor) : Nat → Bool → Cursor
  | 0, _ => c
  | fuel + 1, inComment =>
    match c.current? with
    | none => c
    | some char =>
      if inComment then pastBlanks c.next fuel (char ≠ '\n')
      else if Text.isBlank char then pastBlanks c.next fuel false
      else if char = '#' then pastBlanks c.next fuel true
      else c

/-- The first character from a position on that is no blank and does not open a comment; `opened` says that one is
open already. `fuel` characters are looked at. -/
def significantFrom? (text : Array Char) (position : Nat) (opened : Bool) : Nat → Option Char
  | 0 => none
  | fuel + 1 =>
    match text[position]? with
    | none => none
    | some char =>
      if Text.isBlank char then significantFrom? text (position + 1) opened fuel
      else if char = '#' && !opened then significantFrom? text (position + 1) true fuel
      else some char

/-- The next character that counts, the current one apart. Where there is none but blanks, it is the first of
these. -/
def followingSignificant? (c : Cursor) : Option Char :=
  if c.skipsBlanks then
    (significantFrom? c.text (c.position + 1) false c.text.size).or c.following?
  else c.following?

/-- Whether a word stands here. -/
def isAt (c : Cursor) (word : String) : Bool :=
  word.toList.zipIdx.all fun (char, i) => c.text[c.position + i]? = some char

end Cursor

namespace Reading

def position : Reading Nat := return (← get).position

def current? : Reading (Option Char) := return (← get).current?

def atEnd : Reading Bool := return (← current?).isNone

/-- Goes back, or forward, to a position. -/
def goTo (position : Nat) : Reading Unit := modify fun c => { c with position := position }

/-- Passes over blanks and comments where they do not count. -/
def skipBlanks : Reading Unit :=
  modify fun c => if c.skipsBlanks then c.pastBlanks c.text.size false else c

/-- Goes on by a character; the answer is whether one is left. -/
def advance : Reading Bool := do
  modify (·.next)
  return !(← atEnd)

/-- Goes on by a character and what does not count after it; the answer is whether a character is left. -/
def advanceSkipping : Reading Bool := do
  let _ ← advance
  skipBlanks
  return !(← atEnd)

/-- Goes past a word if it stands here. -/
def passIf (word : String) : Reading Bool := do
  let c ← get
  if c.isAt word then
    goTo (c.position + word.length)
    return true
  else return false

def failAt {α : Type} (kind : MistakeKind) (start stop : Nat) : Reading α :=
  throw ⟨kind, ⟨start, stop⟩, none⟩

/-- Fails at the current position, with no character to blame. -/
def failHere {α : Type} (kind : MistakeKind) : Reading α := do
  failAt kind (← position) (← position)

/-- Fails because of the current character. -/
def failAtCurrent {α : Type} (kind : MistakeKind) : Reading α := do
  failAt kind (← position) ((← position) + 1)

/-- Reads while characters are wanted, passing over what does not count between them if `skipping`; `found` are the
characters so far, the last one first. -/
def takeFrom (wanted : Char → Bool) (skipping : Bool) (found : List Char) : Nat → Reading (List Char)
  | 0 => return found.reverse
  | fuel + 1 => do
    match (← get).current?.filter wanted with
    | some c =>
      let _ ← if skipping then advanceSkipping else advance
      takeFrom wanted skipping (c :: found) fuel
    | none => return found.reverse

/-- The number of characters of the text. -/
def size : Reading Nat := return (← get).text.size

/-- Reads while characters are wanted, passing over what does not count between them if `skipping`. -/
def takeWhile (wanted : Char → Bool) (skipping : Bool) : Reading (List Char) := do
  takeFrom wanted skipping [] (← size)

end Reading

end OpalLocking.Pattern
