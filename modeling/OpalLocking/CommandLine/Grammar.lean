/-
The grammar of the command line: its verbs, their options, and the words that describe them.

Parsing, usage errors and help texts are all read off this one description.
-/
import OpalLocking.CommandLine.Command
import OpalLocking.CommandLine.Number

namespace OpalLocking.CommandLine

/-- The name that the program goes by when it is not told another. -/
def programName : String := "sed-range"

def programVersion : String := "0.1.0"

def programAbout : String :=
  "Provision, lock, unlock and reset TCG Opal locking ranges on self-encrypting drives"

/-! ## Options -/

/-- The options that take a value. -/
inductive OptionName
  | segment
  | start
  | length
  | key
  | adminKey
  | psid
deriving DecidableEq, Repr

namespace OptionName

/-- The name of the option after two dashes. -/
def long : OptionName → String
  | .segment => "segment"
  | .start => "start"
  | .length => "length"
  | .key => "key"
  | .adminKey => "admin-key"
  | .psid => "psid"

/-- The letter of the option after one dash, if it has one. -/
def short? : OptionName → Option Char
  | .segment => some 's'
  | .start | .length | .key | .adminKey | .psid => none

def valueName : OptionName → String
  | .segment => "SEGMENT"
  | .start => "START"
  | .length => "LENGTH"
  | .key => "KEY"
  | .adminKey => "ADMIN_KEY"
  | .psid => "PSID"

/-- The option with its value, as usage texts and errors name it. -/
def display (o : OptionName) : String :=
  s!"--{o.long} <{o.valueName}>"

end OptionName

/-- What a verb says about one of its options. -/
structure OptionSpec where
  name : OptionName
  isRequired : Bool
  help : String
deriving DecidableEq, Repr

/-! ## Verbs -/

/-- The first word of a command. -/
inductive Verb
  | docs
  | status
  | geometry
  | setup
  | lock
  | unlock
  | check
  | factoryReset
  | resetSegment
deriving DecidableEq, Repr

namespace Verb

def all : List Verb :=
  [.docs, .status, .geometry, .setup, .lock, .unlock, .check, .factoryReset, .resetSegment]

def name : Verb → String
  | .docs => "docs"
  | .status => "status"
  | .geometry => "geometry"
  | .setup => "setup"
  | .lock => "lock"
  | .unlock => "unlock"
  | .check => "check"
  | .factoryReset => "factory-reset"
  | .resetSegment => "reset-segment"

def ofName? (name : String) : Option Verb :=
  all.find? (·.name == name)

def about : Verb → String
  | .docs => "Print help"
  | .status => "Show OPAL support and locking flags of a device"
  | .geometry => "Show block size and alignment constraints"
  | .setup => "Create a locking range and leave it locked"
  | .lock => "Lock a range with the key saved on its last unlock"
  | .unlock => "Unlock a range"
  | .check => "Read back a range and compare it with the expected layout"
  | .factoryReset => "Revert the whole drive to factory state (destroys all data)"
  | .resetSegment => "Erase one range and disable it"

/-- The help for the device argument, of a verb that takes one. -/
def deviceHelp? : Verb → Option String
  | .docs => none
  | .status => some "Device path, e.g. /dev/nvme0n1"
  | .geometry | .setup | .lock | .unlock | .check | .factoryReset | .resetSegment => some "Device path"

def segmentOption : OptionSpec :=
  ⟨.segment, true, "Locking range number (1-8)"⟩

def userKeyOption : OptionSpec :=
  ⟨.key, false, "Key: literal, key file or '-' for stdin; if omitted, use SED_RANGE_KEY"⟩

def adminKeyOption : OptionSpec :=
  ⟨.adminKey, false, "Admin key: literal, key file or '-'; if omitted, use SED_RANGE_ADMIN_KEY"⟩

/-- The options of a verb, in the order in which they are asked for. -/
def options : Verb → List OptionSpec
  | .docs | .status | .geometry => []
  | .setup => [
      segmentOption,
      ⟨.start, true, "First sector of the range (512-byte sectors)"⟩,
      ⟨.length, true, "Range length in 512-byte sectors"⟩,
      ⟨.key, false, "Volume key: literal, key file or '-' for stdin; if omitted, use SED_RANGE_KEY"⟩,
      adminKeyOption]
  | .lock => [segmentOption]
  | .unlock => [segmentOption, userKeyOption]
  | .check => [
      segmentOption,
      ⟨.start, false, "Expected first sector"⟩,
      ⟨.length, false, "Expected length in sectors"⟩,
      userKeyOption]
  | .factoryReset => [
      ⟨.psid, false, "PSID from the drive label, key file or '-'; if omitted, use SED_RANGE_PSID"⟩]
  | .resetSegment => [segmentOption, adminKeyOption]

/-- The option of this verb with a long name. -/
def longOption? (v : Verb) (name : String) : Option OptionName :=
  (v.options.map (·.name)).find? (·.long == name)

/-- The option of this verb with a letter. -/
def shortOption? (v : Verb) (letter : Char) : Option OptionName :=
  (v.options.map (·.name)).find? (·.short? == some letter)

def takesDevice (v : Verb) : Bool :=
  v.deviceHelp?.isSome

end Verb

/-! ## Flags -/

/-- The flags that take no value. The version flag is known before the verb only. -/
inductive Flag
  | verbose
  | help
  | version
deriving DecidableEq, Repr

namespace Flag

def long : Flag → String
  | .verbose => "verbose"
  | .help => "help"
  | .version => "version"

def short : Flag → Char
  | .verbose => 'v'
  | .help => 'h'
  | .version => 'V'

/-- The dots that say that a flag counts. -/
def dots : Flag → String
  | .verbose => "..."
  | .help | .version => ""

/-- The flag as errors name it. -/
def display (f : Flag) : String := s!"--{f.long}{f.dots}"

def about : Flag → String
  | .verbose => "Debug logging; RUST_LOG overrides"
  | .help => "Print help"
  | .version => "Print version"

/-- The flags known before the verb, and after it. -/
def beforeVerb : List Flag := [.verbose, .help, .version]

def afterVerb : List Flag := [.verbose, .help]

def ofLong? (flags : List Flag) (name : String) : Option Flag :=
  flags.find? (·.long == name)

def ofShort? (flags : List Flag) (letter : Char) : Option Flag :=
  flags.find? (·.short == letter)

end Flag

/-- The word that asks for help in place of a verb. -/
def helpWord : String := "help"

def helpAbout : String := "Print this message or the help of the given subcommand(s)"

end OpalLocking.CommandLine
