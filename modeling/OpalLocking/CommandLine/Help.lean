/-
Help texts: the description, the usage line, and aligned tables of what can be given.

Texts are painted: titles and what is typed as it stands are in styles of their own. What is shown where there
are no colours is the same text without its control sequences, those of the program's name included.
-/
import OpalLocking.CommandLine.Grammar
import OpalLocking.Text.Style

namespace OpalLocking.CommandLine

/-- What help is about. -/
inductive HelpTopic
  | program
  | verb (verb : Verb)
  /-- The word `help` itself. -/
  | help
deriving DecidableEq, Repr

/-! ## Styles -/

def titleStyle : Text.Style := [.bold, .underline]

/-- The style of what is typed as it stands. -/
def literalStyle : Text.Style := [.bold]

/-- The style of what is wrong. -/
def wrongStyle : Text.Style := [.yellow]

/-- The style of what would be right. -/
def rightStyle : Text.Style := [.green]

/-- The word before a mistake. -/
def errorTitle : String := Text.Style.paint [.bold, .red] "error:"

def title (text : String) : String := titleStyle.paint text

def literal (text : String) : String := literalStyle.paint text

/-! ## Tables -/

/-- Two columns, the second one aligned. -/
def renderRows (rows : List (String × String)) : String :=
  let width := rows.foldl (fun width row => max width (Text.visibleWidth row.1)) 0
  String.join (rows.map fun (left, right) =>
    let blanks := String.ofList (List.replicate (width - Text.visibleWidth left) ' ')
    "  " ++ left ++ blanks ++ "  " ++ right ++ "\n")

/-- A row for a flag; dots say that it counts. -/
def Flag.row (f : Flag) : String × String :=
  (literal s!"-{f.short}" ++ ", " ++ literal s!"--{f.long}" ++ f.dots, f.about)

/-- An option with its value, painted. -/
def OptionName.painted (o : OptionName) : String :=
  literal s!"--{o.long}" ++ s!" <{o.valueName}>"

/-- A row for an option; long names stand below one another. -/
def OptionSpec.row (o : OptionSpec) : String × String :=
  match o.name.short? with
  | some letter => (literal s!"-{letter}" ++ ", " ++ o.name.painted, o.help)
  | none => ("    " ++ o.name.painted, o.help)

/-- The options of a verb with its flags: the count of verbosity stands second, the help flag last. -/
def Verb.optionRows (v : Verb) : List (String × String) :=
  let rows := v.options.map (·.row)
  rows.take 1 ++ [Flag.verbose.row] ++ rows.drop 1 ++ [Flag.help.row]

/-! ## Usage lines -/

/-- What a verb takes, as its usage line shows it. -/
def Verb.usageTail (v : Verb) : String :=
  let required := (v.options.filter (·.isRequired)).map fun o => " " ++ o.name.painted
  " [OPTIONS]" ++ String.join required ++ (if v.takesDevice then " <DEVICE>" else "")

/-- The name of the program in its own help. -/
def shownName (program : Option String) : String := program.getD programName

/-- A word after the program's name, or alone if the program has none. -/
def qualify (program : Option String) (word : String) : String :=
  match program with
  | some name => name ++ " " ++ word
  | none => word

/-- A usage line: what is typed first, and what follows. -/
def usageLine (first rest : String) : String :=
  title "Usage:" ++ " " ++ literal first ++ rest ++ "\n\n"

namespace HelpTopic

/-- The help text of a topic, for a program called by `program`, painted. -/
def render (program : Option String) : HelpTopic → String
  | .program =>
    let verbs := Verb.all.map (fun v => (literal v.name, v.about)) ++ [(literal helpWord, helpAbout)]
    programAbout ++ "\n\n" ++ usageLine (shownName program) " [OPTIONS] <COMMAND>"
      ++ title "Commands:" ++ "\n" ++ renderRows verbs ++ "\n"
      ++ title "Options:" ++ "\n" ++ renderRows (Flag.beforeVerb.map (·.row))
  | .verb v =>
    let device := match v.deviceHelp? with
      | some about => title "Arguments:" ++ "\n" ++ renderRows [("<DEVICE>", about)] ++ "\n"
      | none => ""
    v.about ++ "\n\n" ++ usageLine (qualify program v.name) v.usageTail ++ device
      ++ title "Options:" ++ "\n" ++ renderRows v.optionRows
  | .help =>
    helpAbout ++ "\n\n" ++ usageLine (qualify program helpWord) " [COMMAND]..."
      ++ title "Arguments:" ++ "\n" ++ renderRows [("[COMMAND]...", "Print help for the subcommand(s)")]

end HelpTopic

end OpalLocking.CommandLine
