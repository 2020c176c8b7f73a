/-
The shapes of a word on the command line.

Two dashes alone end the options; two dashes begin a long name, which an equals sign divides from its value;
one dash begins letters. Every other word, the empty one and a lone dash included, is plain.
-/

namespace OpalLocking.CommandLine

/-- A word by its shape. -/
inductive Word
  | endOfOptions
  | long (name : String) (value : Option String)
  | letters (text : List Char)
  | plain
deriving DecidableEq, Repr

namespace Word

/-- A long name with the value behind its first equals sign, if it has one. -/
def splitValue (text : List Char) : String × Option String :=
  let name := text.takeWhile (· ≠ '=')
  match text.dropWhile (· ≠ '=') with
  | [] => (String.ofList name, none)
  | _ :: value => (String.ofList name, some (String.ofList value))

def ofList : List Char → Word
  | ['-', '-'] => .endOfOptions
  | '-' :: '-' :: text => let (name, value) := splitValue text; .long name value
  | ['-'] => .plain
  | '-' :: rest => .letters rest
  | _ => .plain

def ofString (word : String) : Word :=
  ofList word.toList

end Word

end OpalLocking.CommandLine
