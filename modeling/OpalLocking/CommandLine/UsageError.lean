/-
What ends a command line before it becomes a command: requests for help, and mistakes. Their texts are painted;
the plain text is the same without control sequences, those in what is quoted included.
-/
import OpalLocking.CommandLine.Help

namespace OpalLocking.CommandLine

/-- Why a command line yields no command. -/
inductive UsageError
  /-- Help was asked for. -/
  | help (program : Option String) (topic : HelpTopic)
  /-- The version was asked for. -/
  | version
  /-- Nothing at all was given. -/
  | nothingGiven (program : Option String)
  | verbMissing (program : Option String)
  | unknownVerb (name : String)
  | unknownArgument (argument : String)
  /-- A value for a flag that takes none. -/
  | unneededValue (flag : Flag) (value : String)
  | valueMissing (name : OptionName)
  | givenTwice (name : OptionName)
  | invalidValue (name : OptionName) (value : String) (why : NumberError)
  | argumentsMissing (displayed : List String)
deriving DecidableEq, Repr

namespace UsageError

/-- Help and version are answers, not failures. -/
def exitCode : UsageError → Nat
  | .help _ _ | .version => 0
  | .nothingGiven _ | .verbMissing _ | .unknownVerb _ | .unknownArgument _ | .unneededValue _ _ | .valueMissing _
  | .givenTwice _ | .invalidValue _ _ _ | .argumentsMissing _ => 2

/-- What is wrong, between quotes. -/
def wrong (text : String) : String := s!"'{wrongStyle.paint text}'"

/-- What is named for orientation, between quotes. -/
def named (text : String) : String := s!"'{literal text}'"

/-- What a mistake consists in. -/
def mistake : UsageError → String
  | .help _ _ | .version | .nothingGiven _ => ""
  | .verbMissing program =>
    let verbs := ", ".intercalate ((Verb.all.map (·.name) ++ [helpWord]).map rightStyle.paint)
    s!"{wrong (shownName program)} requires a subcommand but one was not provided\n  [subcommands: {verbs}]"
  | .unknownVerb name => s!"unrecognized subcommand {wrong name}"
  | .unknownArgument argument => s!"unexpected argument {wrong argument} found"
  | .unneededValue flag value =>
    s!"unexpected value {wrong value} for {named flag.display} found; no more were expected"
  | .valueMissing name => s!"a value is required for {wrong name.display} but none was supplied"
  | .givenTwice name => s!"the argument {wrong name.display} cannot be used multiple times"
  | .invalidValue name value why => s!"invalid value {wrong value} for {named name.display}: {why.message}"
  | .argumentsMissing displayed =>
    "the following required arguments were not provided:"
      ++ String.join (displayed.map fun argument => "\n  " ++ rightStyle.paint argument)

/-- The text of the answer, or of the mistake, painted. -/
def painted : UsageError → String
  | .help program topic => topic.render program
  | .version => s!"{programName} {programVersion}\n"
  | .nothingGiven program => HelpTopic.program.render program
  | e => s!"{errorTitle} {e.mistake}"

/-- The text of the answer, or of the mistake. -/
def message (e : UsageError) : String := Text.withoutControls e.painted

end UsageError

end OpalLocking.CommandLine
