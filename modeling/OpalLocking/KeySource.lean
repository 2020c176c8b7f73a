/-
Where key material comes from.

A key argument is the standard input if it is a dash, a file if it names one, and otherwise the key itself;
without an argument the key is taken from an environment variable. What was read loses its trailing line
ends, so that a key can be kept in an ordinary text file; an argument that is itself the key loses nothing.
-/
import OpalLocking.World

namespace OpalLocking

/-- Why no key could be read. -/
inductive KeyFailure
  /-- The argument names something that cannot be read. -/
  | unreadable (path : String) (why : OpenFailure)
  /-- The standard input cannot be read. -/
  | unreadableInput (why : OpenFailure)
  /-- There is neither an argument nor a usable variable. -/
  | missing (variableName : String)
deriving DecidableEq, Repr

/-- The messages of the failure, each explained by the next. -/
def KeyFailure.chain : KeyFailure → List String
  | .unreadable path why => [s!"reading key file {path}", why.message]
  | .unreadableInput why => ["reading key from stdin", why.message]
  | .missing variableName =>
    [s!"No key provided (argument, key file, stdin or {variableName} env var)"]

namespace KeySource

/-- Carriage return and line feed. -/
def isLineEnd (b : UInt8) : Bool :=
  b = 0x0A || b = 0x0D

/-- Drops the longest run of line ends at the end. -/
def trimLineEnds (bytes : List UInt8) : List UInt8 :=
  (bytes.reverse.dropWhile isLineEnd).reverse

/-- The bytes of a key that is given literally. -/
def literal (text : String) : Secret :=
  text.toUTF8.data.toList

/-- The key that an argument stands for. -/
def fromArgument (argument : String) (w : World) : Except KeyFailure Secret × World :=
  if argument = "-" then
    match w.readStdin with
    | (.ok bytes, w) => (.ok (trimLineEnds bytes), w)
    | (.error why, w) => (.error (.unreadableInput why), w)
  else
    match w.entry argument with
    | .absent _ => (.ok (literal argument), w)
    | .unreadable why => (.error (.unreadable argument why), w)
    | .contents bytes => (.ok (trimLineEnds bytes), w)

/-- The key that a variable holds; what is not UTF-8 text is no key. -/
def fromVariable (name : String) (w : World) : Except KeyFailure Secret :=
  match w.environment name with
  | some bytes => if bytes.toByteArray.validateUTF8 then .ok (trimLineEnds bytes) else .error (.missing name)
  | none => .error (.missing name)

/-- Reads a key from its argument or, without one, from a variable. -/
def read (argument : Option String) (variableName : String) (w : World) : Except KeyFailure Secret × World :=
  match argument with
  | some argument => fromArgument argument w
  | none => (fromVariable variableName w, w)

end KeySource

end OpalLocking
