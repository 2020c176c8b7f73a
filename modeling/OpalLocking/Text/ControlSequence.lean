/-
Removing control sequences from what is printed.

A terminal reads an escape character as the start of a command, and what follows up to the command's last
character is not shown. The automaton below follows such commands character by character; what it does not
show is left out when the output is not a terminal. Other control characters are left out as well, except
those that only move the print position.
-/

namespace OpalLocking.Text

/-- Where in a command a terminal is. -/
inductive ControlState
  | ground
  | escape
  | escapeIntermediate
  /-- Between an escape character with a bracket and a final character. -/
  | control
  /-- In a command that a bell ends. -/
  | system
  | deviceEntry
  | deviceParameter
  | deviceIntermediate
  /-- In a text that only another escape character ends. -/
  | string
deriving DecidableEq, Repr

namespace ControlState

/-- The bytes of a character's encoding that continue it. -/
def continuation (c : Char) : List UInt8 :=
  (String.singleton c).toUTF8.data.toList.drop 1

/-- The byte that ends a text when it stands in the encoding of a character. -/
def stringTerminator : UInt8 := 0x9C

/-- The state after a character that is not ASCII: only a text can end in it. -/
def nextWide (s : ControlState) (c : Char) : ControlState :=
  match s with
  | .string => if stringTerminator ∈ continuation c then .ground else .string
  | s => s

/-- The state after an ASCII character, given by its code. Cancelling leads back to the ground from everywhere,
and an escape character starts a new command everywhere. -/
def nextCode (s : ControlState) (n : Nat) : ControlState :=
  if n = 0x18 || n = 0x1A then .ground
  else if n = 0x1B then .escape
  else
    match s with
    | .ground => .ground
    | .escape =>
      if n < 0x20 || n = 0x7F then .escape
      else if n ≤ 0x2F then .escapeIntermediate
      else if n = '['.toNat then .control
      else if n = ']'.toNat then .system
      else if n = 'P'.toNat then .deviceEntry
      else if n = 'X'.toNat || n = '^'.toNat || n = '_'.toNat then .string
      else .ground
    | .escapeIntermediate => if 0x30 ≤ n && n ≤ 0x7E then .ground else .escapeIntermediate
    | .control => if 0x40 ≤ n && n ≤ 0x7E then .ground else .control
    | .system => if n = 0x07 then .ground else .system
    | .deviceEntry =>
      if n < 0x20 || n = 0x7F then .deviceEntry
      else if n ≤ 0x2F then .deviceIntermediate
      else if n ≤ 0x3F then .deviceParameter
      else .string
    | .deviceParameter =>
      if n < 0x20 || n = 0x7F then .deviceParameter
      else if n ≤ 0x2F then .deviceIntermediate
      else if n ≤ 0x3B then .deviceParameter
      else .string
    | .deviceIntermediate => if 0x30 ≤ n && n ≤ 0x7E then .string else .deviceIntermediate
    | .string => .string

/-- The state after a character. -/
def next (s : ControlState) (c : Char) : ControlState :=
  if c.toNat < 0x80 then s.nextCode c.toNat else s.nextWide c

/-- The control characters that only move the print position. -/
def isMovement (c : Char) : Bool :=
  c = '\t' || c = '\n' || c = '\x0C' || c = '\r'

/-- Whether a character is shown. Within a command nothing is, except that print movements interrupt most
commands. -/
def shows (s : ControlState) (c : Char) : Bool :=
  match s with
  | .ground => isMovement c || (0x20 ≤ c.toNat && c.toNat ≠ 0x7F)
  | .escape | .escapeIntermediate | .control => isMovement c
  | .system | .deviceEntry | .deviceParameter | .deviceIntermediate | .string => false

end ControlState

/-- Reads a character of a text: the state after it, and what is shown so far. A character that is shown ends a
command. -/
def showNext (so : ControlState × String) (c : Char) : ControlState × String :=
  if so.1.shows c then (.ground, so.2.push c) else (so.1.next c, so.2)

/-- A text without its control sequences. -/
def withoutControls (text : String) : String :=
  (text.toList.foldl showNext (.ground, "")).2

/-- A stream that is being read. -/
structure Streaming where
  state : ControlState
  /-- Whether the last character was shown. -/
  inRun : Bool
  shown : String

/-- Reads a character of a stream. Within a run of shown characters every character is read as if no command were
open, and the command that the run interrupted goes on after it, unless a character that is not ASCII was shown. -/
def Streaming.next (so : Streaming) (c : Char) : Streaming :=
  if (if so.inRun then .ground else so.state : ControlState).shows c then
    ⟨if c.toNat < 0x80 then so.state else .ground, true, so.shown.push c⟩
  else ⟨so.state.next c, false, so.shown⟩

/-- A text as a stream that ends at no terminal passes it on. It differs from the text without its control
sequences only after a print movement in the middle of a command. -/
def streamed (text : String) : String :=
  (text.toList.foldl Streaming.next ⟨.ground, false, ""⟩).shown

end OpalLocking.Text
