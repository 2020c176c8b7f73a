/-
The program.

What a run does is decided by `Terminal.run`; here the world that it needs is fetched, and what it leaves is
printed. Control calls cannot be made from here, so every device is a node without locking support.
-/
import OpalLocking.Terminal

namespace OpalLocking

open CommandLine (Action)

/-- The system's number of a failure, where it has one. -/
def systemNumber : IO.Error → Option UInt32
  | .alreadyExists _ number _ | .noFileOrDirectory _ number _ | .interrupted _ number _
  | .invalidArgument _ number _ | .permissionDenied _ number _ | .resourceExhausted _ number _
  | .inappropriateType _ number _ | .noSuchThing _ number _ => some number
  | .otherError number _ | .resourceBusy number _ | .resourceVanished number _
  | .unsupportedOperation number _ | .hardwareFault number _ | .unsatisfiedConstraints number _
  | .illegalOperation number _ | .protocolError number _ | .timeExpired number _ => some number
  | .unexpectedEof | .userError _ => none

/-- Why opening or reading failed; what the system gives no number counts as an input or output error. -/
def openFailure (e : IO.Error) : OpenFailure :=
  .system ((systemNumber e).getD 5).toNat

/-- Failures that say that a path leads nowhere: no entry, not a directory, name too long, too many links. -/
def leadsNowhere (why : OpenFailure) : Bool :=
  why = .noSuchEntry || why = .notDirectory || why = .nameTooLong || why = .system 40

/-- The entry of a failed attempt. -/
def failedEntry (e : IO.Error) : Entry :=
  let why := openFailure e
  if leadsNowhere why then .absent why else .unreadable why

/-- What is found at the path of a key. -/
def fetchKey (path : String) : BaseIO Entry := do
  match ← (IO.FS.readBinFile ⟨path⟩).toBaseIO with
  | .ok bytes => return .contents bytes.data.toList
  | .error e => return failedEntry e

/-- What is found at the path of a device, which is opened but not read. -/
def fetchDevice (path : String) : BaseIO Entry := do
  match ← (IO.FS.Handle.mk ⟨path⟩ .readWrite).toBaseIO with
  | .ok _ => return .contents []
  | .error e => return failedEntry e

/-- All that is left to read of a stream. -/
partial def readAll (input : IO.FS.Stream) (before : ByteArray) : IO ByteArray := do
  let bytes ← input.read 4096
  if bytes.isEmpty then return before else readAll input (before ++ bytes)

/-- The whole of the standard input, or why it cannot be read. -/
def fetchStdin : BaseIO (Except OpenFailure (List UInt8)) := do
  match ← (readAll (← IO.getStdin) .empty).toBaseIO with
  | .ok bytes => return .ok bytes.data.toList
  | .error e => return .error (openFailure e)

/-- The key arguments of an action. -/
def keyArguments : Action → List String
  | .setup _ _ _ key adminKey => key.toList ++ adminKey.toList
  | .unlock _ key | .check _ _ _ key | .factoryReset key | .resetSegment _ key => key.toList
  | .status | .geometry | .lock _ => []

/-- The environment variables that a run looks at. -/
def consulted : List String := [
  keyVariable, adminKeyVariable, psidVariable, Terminal.filterVariable, Terminal.logStyleVariable,
  Terminal.colorVariable, Terminal.noColorVariable]

/-- Fetches the part of the world that a command line looks at. -/
def fetchWorld (words : List String) : IO World := do
  let (devices, keys) :=
    match CommandLine.parse words with
    | .ok ⟨.act device action, _⟩ => ([device], keyArguments action)
    | .ok ⟨.docs, _⟩ | .error _ => ([], [])
  let keyEntries ← keys.mapM fun path => return (path, ← fetchKey path)
  let deviceEntries ← devices.mapM fun path => return (path, ← fetchDevice path)
  let entries := keyEntries ++ deviceEntries
  let settings ← consulted.mapM fun name =>
    return (name, ← IO.getEnv name)
  let stdin ← if keys.contains "-" then fetchStdin else pure (.ok [])
  return {
    entry := fun path => (entries.lookup path).getD (.absent .noSuchEntry)
    environment := fun name => ((settings.lookup name).getD none).map fun text => text.toUTF8.data.toList
    stdin }

/-- Runs the program on the words behind its name. -/
def runProgram (words : List String) : IO UInt32 := do
  let words := CommandLine.programName :: words
  let ran := Terminal.run words (← fetchWorld words)
  (← IO.getStdout).putStr ran.stdout
  (← IO.getStderr).putStr ran.stderr
  return UInt32.ofNat ran.exitCode

end OpalLocking

def main (words : List String) : IO UInt32 :=
  OpalLocking.runProgram words
