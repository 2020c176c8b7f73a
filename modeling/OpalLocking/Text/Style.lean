/-
How a piece of text stands out on a terminal.

A style is a few attributes. Painting a text puts a control sequence for each of them before it, and one that
ends them all after it.
-/
import OpalLocking.Text.ControlSequence

namespace OpalLocking.Text

inductive Attribute
  | bold
  | underline
  | red
  | green
  | yellow
  | blue
  | cyan
  | grey
deriving DecidableEq, Repr

/-- The number of an attribute in a control sequence. -/
def Attribute.code : Attribute → Nat
  | .bold => 1
  | .underline => 4
  | .red => 31
  | .green => 32
  | .yellow => 33
  | .blue => 34
  | .cyan => 36
  | .grey => 90

/-- The attributes of a text, in the order in which they are switched on. -/
abbrev Style := List Attribute

/-- The control sequence with a number. -/
def attributeSequence (code : Nat) : String := s!"\x1b[{code}m"

/-- A text between the sequences that switch its style on and off. -/
def Style.paint (style : Style) (text : String) : String :=
  String.join (style.map fun a => attributeSequence a.code) ++ text ++ attributeSequence 0

/-- How many characters of a text are shown. -/
def visibleWidth (text : String) : Nat := (withoutControls text).length

end OpalLocking.Text
