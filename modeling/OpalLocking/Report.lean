/-
What a command prints and how it fails.

A failure is a chain of messages, each explained by the next. The error of the library operation is in the
chain as it is; a command only puts a sentence in front of it that says what was being done.
-/
import OpalLocking.CommandLine.Command
import OpalLocking.KeySource
import OpalLocking.Operation

namespace OpalLocking

/-- Why a command fails. -/
inductive Failure
  | key (why : KeyFailure)
  /-- The library operation failed while something, if it is named, was being done. -/
  | operation (doing : Option String) (error : Error)
  /-- The drive answered, but supports no locking. -/
  | unsupported (device : String)
deriving DecidableEq, Repr

namespace Failure

/-- The messages of the failure, the outermost first. -/
def chain : Failure → List String
  | .key why => why.chain
  | .operation doing error => doing.toList ++ error.message :: error.source?.toList
  | .unsupported device => [s!"{device} does not support OPAL locking"]

/-- The library error behind the failure, if there is one. -/
def error? : Failure → Option Error
  | .operation _ error => some error
  | .key _ | .unsupported _ => none

/-- A later line of a message is indented like its first. -/
def indentLines (indent : String) (message : String) : String :=
  String.join (message.toList.map fun c => if c = '\n' then "\n" ++ indent else c.toString)

/-- The causes of a failure below its first message, numbered if there are several. -/
def renderCauses : List String → String
  | [] => ""
  | [cause] => "\nCaused by:\n    " ++ indentLines "    " cause ++ "\n"
  | causes =>
    let lines := causes.zipIdx.map fun (cause, n) =>
      s!"    {n}: " ++ indentLines "       " cause ++ "\n"
    "\nCaused by:\n" ++ String.join lines

/-- The failure as the program reports it. -/
def render (f : Failure) : String :=
  match f.chain with
  | [] => ""
  | first :: causes => s!"Error: {first}\n" ++ renderCauses causes

end Failure

/-- What came of a command. -/
structure Outcome where
  stdout : String := ""
  failure : Option Failure := none
deriving DecidableEq, Repr

/-! ## Reports of the commands -/

def yesNo (b : Bool) : String :=
  if b then "yes" else "no"

/-- A word as eight hexadecimal digits. -/
def hexWord (w : UInt32) : String :=
  let digits := Nat.toDigits 16 w.toNat
  String.ofList (List.replicate (8 - digits.length) '0' ++ digits)

def reportFlags (device : String) (f : StatusFlags) : String :=
  s!"{device}:\n"
    ++ s!"  OPAL supported:    {yesNo f.supported}\n"
    ++ s!"  Locking enabled:   {yesNo f.lockingEnabled}\n"
    ++ s!"  Locked:            {yesNo f.locked}\n"
    ++ s!"  MBR enabled:       {yesNo f.mbrEnabled}\n"
    ++ s!"  MBR done:          {yesNo f.mbrDone}\n"
    ++ s!"  Single user mode:  {yesNo f.singleUserSupported}\n"
    ++ s!"  Raw flags:         0x{hexWord f.word}\n"

def reportGeometry (device : String) (g : Geometry) : String :=
  s!"{device}:\n"
    ++ s!"  Logical block size:     {g.blockSize.toNat} bytes\n"
    ++ s!"  Alignment required:     {yesNo g.alignmentRequired}\n"
    ++ s!"  Alignment granularity:  {g.granularity.toNat} blocks\n"
    ++ s!"  Lowest aligned LBA:     {g.lowestAligned.toNat}\n"

def reportRange (device : String) (segment : UInt32) (a : Attributes) : String :=
  let state := if a.readLocked then "LOCKED" else "UNLOCKED"
  s!"{device}: range {segment.toNat} at {a.offset.toNat} for {a.length.toNat} sectors, {state}\n"

namespace CommandLine.Action

/-- What an action prints after its operation yielded `value`. -/
def print (action : Action) (device : String) (value : Value) : String :=
  match action, value with
  | .status, .flags f => reportFlags device f
  | .geometry, .geometry g => reportGeometry device g
  | .setup segment start length _ _, _ =>
    s!"{device}: range {segment.toNat} ({length.toNat} sectors at {start.toNat}) is set up and locked\n"
  | .check segment _ _ _, .attributes a => reportRange device segment a
  | .factoryReset _, _ => s!"{device}: reverted to factory state\n"
  | .resetSegment segment _, _ => s!"{device}: range {segment.toNat} erased and disabled\n"
  | _, _ => ""

/-- What an action says that it was doing when its operation failed. -/
def doing (action : Action) (device : String) : Option String :=
  match action with
  | .status | .geometry => none
  | .setup segment _ _ _ _ => some s!"setting up OPAL range {segment.toNat} on {device}"
  | .lock segment => some s!"locking OPAL range {segment.toNat} on {device}"
  | .unlock segment _ => some s!"unlocking OPAL range {segment.toNat} on {device}"
  | .check segment _ _ _ => some s!"checking OPAL range {segment.toNat} on {device}"
  | .factoryReset _ => some s!"factory reset of {device}"
  | .resetSegment segment _ => some s!"resetting OPAL range {segment.toNat} on {device}"

/-- What comes of an action whose operation ended so. Only the status report is a failure in spite of a
result: when the drive supports no locking. -/
def conclude (action : Action) (device : String) (result : Except Error Value) : Outcome :=
  match result with
  | .error error => { failure := some (.operation (action.doing device) error) }
  | .ok value =>
    let stdout := action.print device value
    match action, value with
    | .status, .flags f =>
      { stdout, failure := if f.supported then none else some (.unsupported device) }
    | _, _ => { stdout }

end CommandLine.Action

end OpalLocking
