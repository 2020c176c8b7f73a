/-
From words to an invocation.

Words are read from the left. A value attached to its option is checked at once; a value that is a word of
its own is kept and checked only when the next known option or plain word, or the end, settles it. So a word
that is not known at all is reported before a bad value just in front of it. Asking for help or the version
settles what is open and then ends the reading.
-/
import OpalLocking.CommandLine.UsageError
import OpalLocking.CommandLine.Word

namespace OpalLocking.CommandLine

/-! ## What has been found -/

/-- The arguments of a verb as far as they have been found. -/
structure Found where
  device : Option String := none
  segment : Option UInt32 := none
  start : Option UInt64 := none
  length : Option UInt64 := none
  key : Option String := none
  adminKey : Option String := none
  psid : Option String := none
deriving DecidableEq, Repr

namespace Found

/-- Whether an option has a value. -/
def has (f : Found) : OptionName → Bool
  | .segment => f.segment.isSome
  | .start => f.start.isSome
  | .length => f.length.isSome
  | .key => f.key.isSome
  | .adminKey => f.adminKey.isSome
  | .psid => f.psid.isSome

/-- Gives an option its value, a number where one is wanted. -/
def set (f : Found) (name : OptionName) (value : String) : Except NumberError Found :=
  match name with
  | .segment => do return { f with segment := some (← readSegment value.toList) }
  | .start => do return { f with start := some (← readUnsigned value.toList) }
  | .length => do return { f with length := some (← readUnsigned value.toList) }
  | .key => .ok { f with key := some value }
  | .adminKey => .ok { f with adminKey := some value }
  | .psid => .ok { f with psid := some value }

/-- The command that a verb makes of its arguments, if it has all that it requires. -/
def command? (f : Found) : Verb → Option Command
  | .docs => some .docs
  | .status => do return .act (← f.device) .status
  | .geometry => do return .act (← f.device) .geometry
  | .setup => do
    return .act (← f.device) (.setup (← f.segment) (← f.start) (← f.length) f.key f.adminKey)
  | .lock => do return .act (← f.device) (.lock (← f.segment))
  | .unlock => do return .act (← f.device) (.unlock (← f.segment) f.key)
  | .check => do return .act (← f.device) (.check (← f.segment) f.start f.length f.key)
  | .factoryReset => do return .act (← f.device) (.factoryReset f.psid)
  | .resetSegment => do return .act (← f.device) (.resetSegment (← f.segment) f.adminKey)

/-- What a verb requires and has not found, as errors name it. -/
def missing (f : Found) (v : Verb) : List String :=
  let options := (v.options.filter fun o => o.isRequired && !f.has o.name).map (·.name.display)
  options ++ if v.takesDevice && f.device.isNone then ["<DEVICE>"] else []

end Found

/-- The state of reading the words behind a verb. -/
structure Reading where
  found : Found := {}
  verbosity : Nat := 0
  /-- An option that is not settled yet, with its value once that has been read. -/
  pending : Option (OptionName × Option String) := none
  /-- Whether the options have ended, so that every word is plain. -/
  plainOnly : Bool := false
deriving DecidableEq, Repr

/-- The count of the verbosity flag stays at 255. -/
def countFlag (verbosity : Nat) : Nat :=
  min (verbosity + 1) 255

namespace Reading

/-! ## Settling -/

/-- Gives an option its value, unless it has one already. -/
def store (r : Reading) (name : OptionName) (value : String) : Except UsageError Reading :=
  if r.found.has name then .error (.givenTwice name)
  else
    match r.found.set name value with
    | .ok found => .ok { r with found }
    | .error why => .error (.invalidValue name value why)

/-- Checks and stores what is pending. -/
def settle (r : Reading) : Except UsageError Reading :=
  match r.pending with
  | none => .ok r
  | some (name, none) => .error (.valueMissing name)
  | some (name, some value) => { r with pending := none }.store name value

/-- An option with its value attached, or with the value to come. -/
def takeOption (r : Reading) (name : OptionName) (value : Option String) : Except UsageError Reading := do
  let r ← r.settle
  match value with
  | some value => r.store name value
  | none => return { r with pending := some (name, none) }

/-- A flag; `topic` is what help is about here. -/
def takeFlag (r : Reading) (program : Option String) (topic : HelpTopic) (flag : Flag) :
    Except UsageError Reading := do
  let r ← r.settle
  match flag with
  | .verbose => return { r with verbosity := countFlag r.verbosity }
  | .help => .error (.help program topic)
  | .version => .error .version

/-! ## Words behind a verb -/

/-- A long name behind a verb. -/
def takeLong (r : Reading) (program : Option String) (v : Verb) (name : String) (value : Option String) :
    Except UsageError Reading :=
  match Flag.ofLong? Flag.afterVerb name, v.longOption? name with
  | some flag, _ =>
    match value with
    | some value => .error (.unneededValue flag value)
    | none => r.takeFlag program (.verb v) flag
  | none, some option => r.takeOption option value
  | none, none => .error (.unknownArgument s!"--{name}")

/-- Letters behind a verb. The rest of the word is the value of the first letter that takes one; an equals
sign may stand between them. -/
def takeLetters (r : Reading) (program : Option String) (v : Verb) : List Char → Except UsageError Reading
  | [] => .ok r
  | letter :: rest =>
    match Flag.ofShort? Flag.afterVerb letter, v.shortOption? letter with
    | some flag, _ => do (← r.takeFlag program (.verb v) flag).takeLetters program v rest
    | none, some option =>
      match rest with
      | [] => r.takeOption option none
      | '=' :: value => r.takeOption option (some (String.ofList value))
      | value => r.takeOption option (some (String.ofList value))
    | none, none => .error (.unknownArgument s!"-{letter}")

/-- A plain word: the device, and nothing after it. -/
def takePlain (r : Reading) (v : Verb) (word : String) : Except UsageError Reading :=
  if v.takesDevice && r.found.device.isNone then do
    let r ← r.settle
    return { r with found := { r.found with device := some word } }
  else .error (.unknownArgument word)

/-- One word behind a verb. -/
def takeWord (r : Reading) (program : Option String) (v : Verb) (word : String) :
    Except UsageError Reading :=
  if r.plainOnly then r.takePlain v word
  else
    match Word.ofString word with
    | .endOfOptions => .ok { r with plainOnly := true }
    | .long name value => r.takeLong program v name value
    | .letters letters => r.takeLetters program v letters
    | .plain =>
      match r.pending with
      | some (name, none) => .ok { r with pending := some (name, some word) }
      | _ => r.takePlain v word

/-- All words behind a verb. -/
def takeWords (r : Reading) (program : Option String) (v : Verb) : List String → Except UsageError Reading
  | [] => .ok r
  | word :: rest => do (← r.takeWord program v word).takeWords program v rest

end Reading

/-- Reads the words behind a verb. `verbosity` was counted before it and holds unless counted anew. -/
def parseVerb (program : Option String) (verbosity : Nat) (v : Verb) (words : List String) :
    Except UsageError Invocation := do
  let r ← ({} : Reading).takeWords program v words
  let r ← r.settle
  match r.found.missing v, r.found.command? v with
  | [], some command =>
    return { command, verbosity := if r.verbosity = 0 then verbosity else r.verbosity }
  | displayed, _ => .error (.argumentsMissing displayed)

/-! ## Words before the verb -/

/-- Reads the words behind `help`: at most one verb, or `help` itself. -/
def parseHelp (program : Option String) : List String → UsageError
  | [] => .help program .program
  | word :: rest =>
    let topic? := if word = helpWord then some .help else (Verb.ofName? word).map HelpTopic.verb
    match topic?, rest with
    | none, _ => .unknownVerb word
    | some topic, [] => .help program topic
    | some _, next :: _ => .unknownVerb next

/-- Letters before the verb. -/
def parseLetters (program : Option String) (verbosity : Nat) : List Char → Except UsageError Nat
  | [] => .ok verbosity
  | letter :: rest =>
    match Flag.ofShort? Flag.beforeVerb letter with
    | some .verbose => parseLetters program (countFlag verbosity) rest
    | some .help => .error (.help program .program)
    | some .version => .error .version
    | none => .error (.unknownArgument s!"-{letter}")

/-- A long name before the verb. -/
def parseLong (program : Option String) (verbosity : Nat) (name : String) (value : Option String) :
    Except UsageError Nat :=
  match Flag.ofLong? Flag.beforeVerb name, value with
  | some flag, some value => .error (.unneededValue flag value)
  | some .verbose, none => .ok (countFlag verbosity)
  | some .help, none => .error (.help program .program)
  | some .version, none => .error .version
  | none, _ => .error (.unknownArgument s!"--{name}")

/-- Whether a word would be taken for a verb. -/
def isVerbWord (word : String) : Bool :=
  word = helpWord || (Verb.ofName? word).isSome

/-- Reads all words. A verb is looked for first; behind two dashes no verb is taken any more. -/
def parseWords (program : Option String) (verbosity : Nat) : List String → Except UsageError Invocation
  | [] => .error (if verbosity = 0 then .nothingGiven program else .verbMissing program)
  | word :: rest =>
    if word = helpWord then .error (parseHelp program rest)
    else
      match Verb.ofName? word with
      | some v => parseVerb program verbosity v rest
      | none =>
        match Word.ofString word with
        | .endOfOptions =>
          match rest with
          | [] => .error (if verbosity = 0 then .nothingGiven program else .verbMissing program)
          | next :: _ => .error (if isVerbWord next then .unknownArgument next else .unknownVerb next)
        | .long name value => do parseWords program (← parseLong program verbosity name value) rest
        | .letters letters => do parseWords program (← parseLetters program verbosity letters) rest
        | .plain => .error (.unknownVerb word)

/-- The name that a program is called by: the last component of its path, if that is a name. -/
def calledName (path : String) : Option String :=
  let parts := ((path.toList.splitOn '/').map String.ofList).filter fun part => part ≠ "" ∧ part ≠ "."
  match parts.getLast? with
  | some name => if name = ".." then none else some name
  | none => none

/-- Reads a command line, whose first word is the path of the program. -/
def parse : List String → Except UsageError Invocation
  | [] => parseWords none 0 []
  | program :: words => parseWords (calledName program) 0 words

end OpalLocking.CommandLine
