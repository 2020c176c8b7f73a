/-
The commands a user can give.
-/

namespace OpalLocking.CommandLine

/-- What a command does to its device. Keys are named here, not read. -/
inductive Action
  | status
  | geometry
  | setup (segment : UInt32) (start length : UInt64) (key adminKey : Option String)
  | lock (segment : UInt32)
  | unlock (segment : UInt32) (key : Option String)
  | check (segment : UInt32) (start length : Option UInt64) (key : Option String)
  | factoryReset (psid : Option String)
  | resetSegment (segment : UInt32) (adminKey : Option String)
deriving DecidableEq, Repr

inductive Command
  | docs
  | act (device : String) (action : Action)
deriving DecidableEq, Repr

/-- The device of a command, if it has one. -/
def Command.device? : Command → Option String
  | .docs => none
  | .act device _ => some device

/-- A command with how much is to be told about its run. -/
structure Invocation where
  command : Command
  verbosity : Nat
deriving DecidableEq, Repr

end OpalLocking.CommandLine
