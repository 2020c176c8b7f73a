/-
What can be wrong with the text of a pattern, and how it is shown: the text with marks below the place.
-/

namespace OpalLocking.Pattern

/-- A stretch of a text: the positions of its first character and of the character after it. -/
structure Span where
  start : Nat
  stop : Nat
deriving DecidableEq, Repr

/-- How deep groups, sets, repetitions, sequences and alternatives may stand in one another. -/
def nestLimit : Nat := 250

/-- What is wrong with a pattern. -/
inductive MistakeKind
  | setEscapeInvalid
  | setRangeReversed
  | setRangeNotLiteral
  | setUnclosed
  | decimalInvalid
  | hexEmpty
  | hexNotCharacter
  | hexDigitInvalid
  | escapeIncomplete
  | escapeUnknown
  | negationDangling
  | flagTwice
  | negationTwice
  | flagMissing
  | flagUnknown
  | groupNameTwice
  | groupNameEmpty
  | groupNameInvalid
  | groupNameUnclosed
  | groupUnclosed
  | groupUnopened
  | countsReversed
  | countNotDecimal
  | countUnclosed
  | operandMissing
  | boundaryUnclosed
  | boundaryUnknown
  | boundaryIncomplete
  | propertyInvalid
  | backreference
  | lookAround
  /-- A construct for all characters where only bytes are read. -/
  | wideNotAllowed
  /-- What could match a part of a character. -/
  | partialCharacter
  | propertyNotFound
  | propertyValueNotFound
  /-- A short name for a set of characters of all scripts. -/
  | wideSetUnavailable
  /-- Both cases of a letter of any script. -/
  | wideCaseUnavailable
  | nestedTooDeep
deriving DecidableEq, Repr

def MistakeKind.message : MistakeKind → String
  | .setEscapeInvalid => "invalid escape sequence found in character class"
  | .setRangeReversed => "invalid character class range, the start must be <= the end"
  | .setRangeNotLiteral => "invalid range boundary, must be a literal"
  | .setUnclosed => "unclosed character class"
  | .decimalInvalid => "decimal literal invalid"
  | .hexEmpty => "hexadecimal literal empty"
  | .hexNotCharacter => "hexadecimal literal is not a Unicode scalar value"
  | .hexDigitInvalid => "invalid hexadecimal digit"
  | .escapeIncomplete => "incomplete escape sequence, reached end of pattern prematurely"
  | .escapeUnknown => "unrecognized escape sequence"
  | .negationDangling => "dangling flag negation operator"
  | .flagTwice => "duplicate flag"
  | .negationTwice => "flag negation operator repeated"
  | .flagMissing => "expected flag but got end of regex"
  | .flagUnknown => "unrecognized flag"
  | .groupNameTwice => "duplicate capture group name"
  | .groupNameEmpty => "empty capture group name"
  | .groupNameInvalid => "invalid capture group character"
  | .groupNameUnclosed => "unclosed capture group name"
  | .groupUnclosed => "unclosed group"
  | .groupUnopened => "unopened group"
  | .countsReversed => "invalid repetition count range, the start must be <= the end"
  | .countNotDecimal => "repetition quantifier expects a valid decimal"
  | .countUnclosed => "unclosed counted repetition"
  | .operandMissing => "repetition operator missing expression"
  | .boundaryUnclosed =>
    "special word boundary assertion is either unclosed or contains an invalid character"
  | .boundaryUnknown =>
    "unrecognized special word boundary assertion, valid choices are: start, end, start-half or end-half"
  | .boundaryIncomplete =>
    "found either the beginning of a special word boundary or a bounded repetition on a \\b with an opening "
      ++ "brace, but no closing brace"
  | .propertyInvalid => "invalid Unicode character class"
  | .backreference => "backreferences are not supported"
  | .lookAround => "look-around, including look-ahead and look-behind, is not supported"
  | .wideNotAllowed => "Unicode not allowed here"
  | .partialCharacter => "pattern can match invalid UTF-8"
  | .propertyNotFound => "Unicode property not found"
  | .propertyValueNotFound => "Unicode property value not found"
  | .wideSetUnavailable =>
    "Unicode-aware Perl class not found (make sure the unicode-perl feature is enabled)"
  | .wideCaseUnavailable =>
    "Unicode-aware case insensitivity matching is not available "
      ++ "(make sure the unicode-case feature is enabled)"
  | .nestedTooDeep => s!"exceed the maximum number of nested parentheses/brackets ({nestLimit})"

/-- A mistake, where it is, and the earlier place that it clashes with, if it does. -/
structure Mistake where
  kind : MistakeKind
  span : Span
  earlier : Option Span
deriving DecidableEq, Repr

/-- A line and a column, both counted from one. -/
structure Place where
  line : Nat
  column : Nat
deriving DecidableEq, Repr

/-- Where a position of a text is. -/
def Place.of (text : List Char) (position : Nat) : Place :=
  let before := text.take position
  ⟨before.count '\n' + 1, (before.reverse.takeWhile (· ≠ '\n')).length + 1⟩

/-- A line break that a carriage return precedes ends the line before the latter. -/
def withoutReturn (line : List Char) : List Char :=
  if line.getLast? = some '\r' then line.dropLast else line

/-- The lines of a text without their line breaks. The last line needs none. -/
def linesOf (text : List Char) : List (List Char) :=
  let pieces := text.splitOn '\n'
  match pieces.getLast? with
  | some [] | none => pieces.dropLast.map withoutReturn
  | some last => pieces.dropLast.map withoutReturn ++ [last]

namespace Mistake

/-- The marks below a line for the spans in it, given in their order and by columns. An empty span has one
mark. -/
def marks (spans : List (Nat × Nat)) : List Char :=
  spans.foldl (fun line span =>
    line ++ List.replicate (span.1 - 1 - line.length) ' ' ++ List.replicate (max 1 (span.2 - span.1)) '^') []

/-- The text line by line, with the marks of the spans below the lines they are in. Lines are numbered if there
are several. -/
def annotated (text : List Char) (spans : List (Place × Place)) : String :=
  let lines := linesOf text
  let count := lines.length + (if text.getLast? = some '\n' then 1 else 0)
  let width := if count ≤ 1 then 0 else (toString count).length
  String.join (lines.mapIdx fun i line =>
    let number := toString (i + 1)
    let margin :=
      if width = 0 then "    "
      else String.ofList (List.replicate (width - number.length) ' ') ++ number ++ ": "
    let inLine := spans.filter fun (start, stop) => start.line = i + 1 && stop.line = i + 1
    let below :=
      if inLine.isEmpty then ""
      else
        String.ofList (List.replicate (if width = 0 then 4 else width + 2) ' '
          ++ marks (inLine.map fun (start, stop) => (start.column, stop.column))) ++ "\n"
    margin ++ String.ofList line ++ "\n" ++ below)

/-- A mistake in a pattern, as it is reported. A text of several lines stands between rules, and spans across
lines are described. -/
def render (m : Mistake) (text : List Char) : String :=
  let spans := match m.earlier with
    | none => [m.span]
    | some e => if e.start ≤ m.span.start then [e, m.span] else [m.span, e]
  let places := spans.map fun span => (Place.of text span.start, Place.of text span.stop)
  let head := "regex parse error:\n"
  let body := annotated text places
  let tail := s!"error: {m.kind.message}"
  if '\n' ∈ text then
    let rule := String.ofList (List.replicate 79 '~') ++ "\n"
    let across := (places.filter fun (start, stop) => start.line ≠ stop.line).map fun (start, stop) =>
      s!"on line {start.line} (column {start.column}) through line {stop.line} (column {stop.column - 1})"
    let notes := if across.isEmpty then "" else "\n".intercalate across ++ "\n"
    head ++ rule ++ body ++ rule ++ notes ++ tail
  else head ++ body ++ tail

end Mistake

end OpalLocking.Pattern
