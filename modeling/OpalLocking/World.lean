/-
What the command line finds around it: what paths name, the environment and the standard input.

The world is a value. The only thing that a run changes about it is the standard input, which can be read
once, if it can be read at all.
-/
import OpalLocking.Block
import OpalLocking.OpenFailure

namespace OpalLocking

/-- What is found at a path. -/
inductive Entry
  /-- Nothing, or nothing that can be reached. -/
  | absent (why : OpenFailure)
  /-- Something that cannot be opened, such as a directory. -/
  | unreadable (why : OpenFailure)
  | contents (bytes : List UInt8)
deriving DecidableEq, Repr

/-- What becomes of opening the entry for control calls. -/
def Entry.opening : Entry → Except OpenFailure Unit
  | .absent why | .unreadable why => .error why
  | .contents _ => .ok ()

structure World where
  entry : String → Entry
  environment : String → Option (List UInt8)
  /-- What is left of the standard input, or why reading it fails. -/
  stdin : Except OpenFailure (List UInt8)

namespace World

/-- All of the standard input; nothing is left of it. One that cannot be read stays as it is. -/
def readStdin (w : World) : Except OpenFailure (List UInt8) × World :=
  match w.stdin with
  | .ok bytes => (.ok bytes, { w with stdin := .ok [] })
  | .error why => (.error why, w)

end World

end OpalLocking
