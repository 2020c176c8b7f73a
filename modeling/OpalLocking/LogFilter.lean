/-
Which log records are written, and how.

A filter is a list of directives, each a level for the parts of the library whose names begin in a certain
way, or for all of them, and perhaps a pattern that must be found in the message. Of the directives that fit a
record the one with the longest name decides, and of two such the later one. What is wrong in the text of a
filter is left out, and said.
-/
import OpalLocking.Pattern.Compile
import OpalLocking.Record
import OpalLocking.Text.Style

namespace OpalLocking

/-- How much of a part of the library is written. -/
structure Directive where
  /-- What the name of the part begins with; without it all parts are meant. -/
  target : Option String
  /-- The number of levels that are written, the most urgent first. -/
  levels : Nat
deriving DecidableEq, Repr

namespace Directive

/-- The words for levels, the first of which writes nothing. -/
def levelWords : List String := ["OFF", "ERROR", "WARN", "INFO", "DEBUG", "TRACE"]

/-- The number of all levels. -/
def allLevels : Nat := levelWords.length - 1

/-- The number of levels that a word stands for, in either case. -/
def levels? (word : String) : Option Nat :=
  levelWords.findIdx? (· == String.ofList (word.toList.map Char.toUpper))

/-- Whether a directive is about a part of the library. -/
def fits (d : Directive) (topic : Topic) : Bool :=
  match d.target with
  | none => true
  | some target => target.toList.isPrefixOf topic.target.toList

/-- How much is known about a part from a directive that fits it. -/
def weight (d : Directive) : Nat :=
  match d.target with
  | none => 0
  | some target => target.utf8ByteSize

end Directive

/-- What is wrong in the text of a filter. -/
inductive FilterMistake
  | tooManySlashes (text : String)
  | invalidDirective (text : String)
  | invalidPattern (text : String) (why : Pattern.Failure)
deriving DecidableEq, Repr

namespace FilterMistake

def message : FilterMistake → String
  | .tooManySlashes text => s!"invalid logging spec '{text}' (too many '/'s)"
  | .invalidDirective text => s!"invalid logging spec '{text}'"
  | .invalidPattern text why => s!"invalid regex filter - {why.render text}"

/-- A mistake as it is printed. -/
def render (m : FilterMistake) : String := s!"warning: {m.message}, ignoring it\n"

end FilterMistake

namespace Directive

/-- Adds a directive; one about the same parts gives way to it. -/
def insert (d : Directive) : List Directive → List Directive
  | [] => [d]
  | e :: rest => if e.target = d.target then d :: rest else e :: insert d rest

/-- One directive: a level, the name of a part, or both with an equals sign between them. -/
def read (text : List Char) : Except FilterMistake Directive :=
  match (text.splitOn '=').map String.ofList with
  | [word] =>
    match levels? word with
    | some levels => .ok ⟨none, levels⟩
    | none => .ok ⟨some word, allLevels⟩
  | [target, rest] =>
    let word := String.ofList (Text.trim rest.toList)
    if word.isEmpty then .ok ⟨some target, allLevels⟩
    else
      match levels? word with
      | some levels => .ok ⟨some target, levels⟩
      | none => .error (.invalidDirective word)
  | _ => .error (.invalidDirective (String.ofList text))

/-- Reads one directive behind others, or notes what is wrong with it. -/
def readNext (before : List Directive × List FilterMistake) (part : List Char) : List Directive × List FilterMistake :=
  match read part with
  | .ok d => (insert d before.1, before.2)
  | .error m => (before.1, before.2 ++ [m])

/-- Reads directives between commas, with what is wrong among them. -/
def readAll (text : List Char) : List Directive × List FilterMistake :=
  let parts := ((text.splitOn ',').map Text.trim).filter fun part => !part.isEmpty
  parts.foldl readNext ([], [])

/-- Of two directives the one with the longer name, and of two with names as long as each other the later. -/
def prefer (best : Option Directive) (d : Directive) : Option Directive :=
  match best with
  | some b => if b.weight ≤ d.weight then some d else some b
  | none => some d

end Directive

structure LogFilter where
  directives : List Directive
  pattern : Option Pattern.Automaton

namespace LogFilter

/-- Errors only, unless there is a directive. -/
def ofDirectives (found : List Directive) (pattern : Option Pattern.Automaton) : LogFilter :=
  ⟨if found.isEmpty then [⟨none, 1⟩] else found, pattern⟩

/-- Reads a filter: directives, and after a slash a pattern. -/
def read (text : String) : LogFilter × List FilterMistake :=
  match text.toList.splitOn '/' with
  | [first] =>
    let (found, mistakes) := Directive.readAll first
    (ofDirectives found none, mistakes)
  | [first, second] =>
    let (found, mistakes) := Directive.readAll first
    let pattern := String.ofList second
    match Pattern.compile pattern with
    | .ok p => (ofDirectives found (some p), mistakes)
    | .error why => (ofDirectives found none, mistakes ++ [.invalidPattern pattern why])
  | _ => (ofDirectives [] none, [.tooManySlashes text])

/-- The filter that holds unless another is asked for. -/
def ofVerbosity (verbosity : Nat) : LogFilter :=
  (read (if 0 < verbosity then "debug" else "warn")).1

/-- The directive that decides about a part of the library. -/
def decisive? (f : LogFilter) (topic : Topic) : Option Directive :=
  (f.directives.filter (·.fits topic)).foldl Directive.prefer none

/-- Whether a record is written. -/
def admits (f : LogFilter) (r : Record) : Bool :=
  (match f.decisive? r.topic with
  | some d => decide (r.level.rank < d.levels)
  | none => false)
  && f.pattern.all (·.search r.message)

end LogFilter

/-- The style of a level in a painted line. -/
def Level.style : Level → Text.Style
  | .error => [.bold, .red]
  | .warn => [.yellow]
  | .info => [.green]
  | .debug => [.blue]

namespace Record

/-- A record as a line, given how its level and the brackets are painted; later lines of its message are
indented. -/
def line (r : Record) (paintLevel paintBracket : String → String) : String :=
  let level := r.level.name ++ String.ofList (List.replicate (5 - r.level.name.length) ' ')
  let message := String.join (r.message.toList.map fun c => if c = '\n' then "\n    " else c.toString)
  let (opening, closing) := (paintBracket "[", paintBracket "]")
  s!"{opening}{paintLevel level} {r.topic.target}{closing} {message}\n"

/-- A record as it is printed. Only what is printed without colours loses the control sequences in its
message. -/
def render (r : Record) (isPainted : Bool) : String :=
  if isPainted then r.line r.level.style.paint (Text.Style.paint [.grey]) else Text.streamed (r.line id id)

end Record

end OpalLocking
