/-
Writing commands as words.

A command is written as its verb, then its device, its options with their values attached, and the verbosity
flag as often as it is given. The words behind the verb may stand in any order (`Invocation.Written`): an
attached value cannot be taken for anything else, and the one word that does not begin with a dash is the
device.
-/
import OpalLocking.CommandLine.Grammar

namespace OpalLocking.CommandLine

/-- An option with its value in one word. -/
def OptionName.word (o : OptionName) (value : String) : String :=
  s!"--{o.long}={value}"

/-- A flag as a word of its own. -/
def Flag.word (f : Flag) : String :=
  s!"-{f.short}"

namespace Action

def verb : Action → Verb
  | .status => .status
  | .geometry => .geometry
  | .setup _ _ _ _ _ => .setup
  | .lock _ => .lock
  | .unlock _ _ => .unlock
  | .check _ _ _ _ => .check
  | .factoryReset _ => .factoryReset
  | .resetSegment _ _ => .resetSegment

/-- The options of an action with their values, as texts. -/
def optionValues : Action → List (OptionName × String)
  | .status | .geometry => []
  | .setup segment start length key adminKey =>
    [(.segment, toString segment.toNat), (.start, toString start.toNat), (.length, toString length.toNat)]
      ++ key.toList.map (.key, ·) ++ adminKey.toList.map (.adminKey, ·)
  | .lock segment => [(.segment, toString segment.toNat)]
  | .unlock segment key => [(.segment, toString segment.toNat)] ++ key.toList.map (.key, ·)
  | .check segment start length key =>
    [(.segment, toString segment.toNat)] ++ start.toList.map (.start, toString ·.toNat)
      ++ length.toList.map (.length, toString ·.toNat) ++ key.toList.map (.key, ·)
  | .factoryReset psid => psid.toList.map (.psid, ·)
  | .resetSegment segment adminKey =>
    [(.segment, toString segment.toNat)] ++ adminKey.toList.map (.adminKey, ·)

end Action

namespace Command

def verb : Command → Verb
  | .docs => .docs
  | .act _ action => action.verb

/-- The words behind the verb, in the order in which a user would write them. -/
def words : Command → List String
  | .docs => []
  | .act device action => device :: action.optionValues.map fun (name, value) => name.word value

end Command

/-- The words behind the verb: those of the command and the verbosity flag, in any order. -/
def Invocation.Written (i : Invocation) (words : List String) : Prop :=
  words.Perm (i.command.words ++ List.replicate i.verbosity Flag.verbose.word)

end OpalLocking.CommandLine
