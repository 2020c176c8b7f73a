/-
The program as a whole: from the words of a command line and the world around it to what is printed and the
exit code.

Help and versions are printed as output, mistakes on the command line as errors. A command writes what is
wrong with the filter of its log, then the log, and then, if it fails, its report.
-/
import OpalLocking.CommandLine.Parser
import OpalLocking.CommandRun
import OpalLocking.LogFilter
import OpalLocking.Node

namespace OpalLocking

open CommandLine (Command Invocation UsageError)

/-- What a run of the program leaves. -/
structure Terminal where
  exitCode : Nat
  stdout : String
  stderr : String
deriving DecidableEq, Repr

namespace Terminal

/-- The variable that overrides which log records are written. -/
def filterVariable : String := "RUST_LOG"

/-- The variable that asks for colours wherever the output goes, and the one that forbids them. -/
def colorVariable : String := "CLICOLOR_FORCE"

def noColorVariable : String := "NO_COLOR"

/-- The variable that says whether the log has colours. -/
def logStyleVariable : String := "RUST_LOG_STYLE"

/-- Whether a variable has a value that is not empty. -/
def isGiven (w : World) (name : String) : Bool :=
  (w.environment name).any fun bytes => !bytes.isEmpty

/-- Whether output has colours. Since it goes to no terminal, they have to be asked for. -/
def hasColors (w : World) : Bool :=
  isGiven w colorVariable && !isGiven w noColorVariable

/-- The value of a variable, if it is text. -/
def textOf? (w : World) (name : String) : Option String :=
  (w.environment name).bind fun bytes => String.fromUTF8? bytes.toByteArray

/-- Whether the log has colours. -/
def hasLogColors (w : World) : Bool :=
  match textOf? w logStyleVariable with
  | some "always" => true
  | some "never" => false
  | _ => hasColors w

/-- A painted text as it is printed. -/
def printed (w : World) (text : String) : String :=
  if hasColors w then text else Text.streamed text

/-- What the program prints when a command line yields no command. -/
def ofUsageError (e : UsageError) (w : World) : Terminal :=
  let text := printed w e.painted
  let text := if text.endsWith "\n" then text else text ++ "\n"
  if e.exitCode = 0 then { exitCode := 0, stdout := text, stderr := "" }
  else { exitCode := e.exitCode, stdout := "", stderr := text }

/-- The filter of a run, and what is wrong with it: the variable's if it holds text, else the one for the
verbosity. -/
def filter (w : World) (verbosity : Nat) : LogFilter × List FilterMistake :=
  match textOf? w filterVariable with
  | some text => LogFilter.read text
  | none => (.ofVerbosity verbosity, [])

/-- Runs a command, its device being a node of the world. -/
def runCommand (command : Command) (w : World) : Outcome × Trace :=
  match command with
  | .docs => ({ stdout := printed w docsText }, [])
  | .act device action =>
    let node : Node := ⟨(w.entry device).opening⟩
    let run := action.run Node.drive node device w
    (run.outcome, run.trace)

def runInvocation (i : Invocation) (w : World) : Terminal :=
  let (outcome, trace) := runCommand i.command w
  let (filter, mistakes) := filter w i.verbosity
  let warnings := String.join (mistakes.map (·.render))
  let log := String.join ((trace.records.filter filter.admits).map (·.render (hasLogColors w)))
  match outcome.failure with
  | none => { exitCode := 0, stdout := outcome.stdout, stderr := warnings ++ log }
  | some failure =>
    { exitCode := 1, stdout := outcome.stdout, stderr := warnings ++ log ++ failure.render }

/-- Runs the program; the first word is its path. -/
def run (words : List String) (w : World) : Terminal :=
  match CommandLine.parse words with
  | .error e => ofUsageError e w
  | .ok invocation => runInvocation invocation w

end Terminal

end OpalLocking
