/-
The smallest parts of a pattern: characters, escapes, anchors and sets that have a name.
-/
import OpalLocking.Pattern.Cursor

namespace OpalLocking.Pattern

/-- A part that is read as one. -/
inductive Atom
  | literal (l : Literal)
  | dot (span : Span)
  | assertion (span : Span) (a : Assertion)
  | shorthand (span : Span) (name : Shorthand) (negated : Bool)
  | property (span : Span) (name : String) (hasValue : Bool)
deriving Repr

namespace Atom

def span : Atom → Span
  | .literal l => l.span
  | .dot span | .assertion span _ | .shorthand span _ _ | .property span _ _ => span

def toExpression : Atom → Expression
  | .literal l => .literal l
  | .dot span => .dot span
  | .assertion span a => .assertion span a
  | .shorthand span name negated => .shorthand span name negated
  | .property span name hasValue => .property span name hasValue

/-- An atom as a member of a set; anchors are none. -/
def toSetMember : Atom → Reading SetExpression
  | .literal l => return .literal l
  | .shorthand span name negated => return .shorthand span name negated
  | .property span name hasValue => return .property span name hasValue
  | .dot span | .assertion span _ => Reading.failAt .setEscapeInvalid span.start span.stop

/-- An atom as the end of a range of characters. -/
def toBound : Atom → Reading Literal
  | .literal l => return l
  | a => Reading.failAt .setRangeNotLiteral a.span.start a.span.stop

end Atom

/-! ## Characters by number -/

def hexDigit? (c : Char) : Option Nat :=
  if '0' ≤ c ∧ c ≤ '9' then some (c.toNat - '0'.toNat)
  else if 'a' ≤ c ∧ c ≤ 'f' then some (c.toNat - 'a'.toNat + 10)
  else if 'A' ≤ c ∧ c ≤ 'F' then some (c.toNat - 'A'.toNat + 10)
  else none

/-- The character of some hexadecimal digits. -/
def hexChar? (digits : List Nat) : Option Char :=
  let n := digits.foldl (fun n digit => 16 * n + digit) 0
  if n.isValidChar then some (Char.ofNat n) else none

namespace Reading

/-- The current hexadecimal digit. -/
def hexDigit : Reading Nat := do
  match (← current?).bind hexDigit? with
  | some digit => return digit
  | none => failAtCurrent .hexDigitInvalid

/-- A given number of hexadecimal digits, the cursor left on the last one; `first` says that it stands on the
first one before. -/
def hexDigits (first : Bool) : Nat → Reading (List Nat)
  | 0 => return []
  | count + 1 => do
    if !first then
      if !(← advanceSkipping) then failHere .escapeIncomplete
    let digit ← hexDigit
    return digit :: (← hexDigits false count)

/-- The hexadecimal digits before a closing brace, the cursor standing before the first one; `found` are those so
far, the last one first. -/
def bracedHexDigits (found : List Nat) : Nat → Reading (List Nat)
  | 0 => return found.reverse
  | fuel + 1 => do
    if !(← advanceSkipping) || (← current?) = some '\x7D' then return found.reverse
    let digit ← hexDigit
    bracedHexDigits (digit :: found) fuel

/-- How many digits follow the letter of a character by number. -/
def hexCount : Char → Nat
  | 'x' => 2
  | 'u' => 4
  | _ => 8

/-- A character by number; the cursor stands on the letter and `start` is where the escape starts. -/
def hexLiteral (start : Nat) (letter : Char) : Reading Literal := do
  if !(← advanceSkipping) then failHere .escapeIncomplete
  let opened ← position
  if (← current?) = some '\x7B' then
    let digits ← bracedHexDigits [] (← size)
    if ← atEnd then failAt .escapeIncomplete opened (← position)
    let closed ← position
    let _ ← advanceSkipping
    if digits.isEmpty then failAt .hexEmpty opened (← position)
    match hexChar? digits with
    | some c => return ⟨⟨start, ← position⟩, c, false⟩
    | none => failAt .hexNotCharacter (opened + 1) closed
  else
    let digits ← hexDigits true (hexCount letter)
    let _ ← advanceSkipping
    match hexChar? digits with
    | some c => return ⟨⟨start, ← position⟩, c, letter = 'x'⟩
    | none => failAt .hexNotCharacter opened (← position)

/-! ## Other escapes -/

/-- A text up to a closing brace, the cursor standing before its first character; `found` are the characters so
far, the last one first. -/
def bracedText (found : List Char) : Nat → Reading (List Char)
  | 0 => return found.reverse
  | fuel + 1 => do
    let _ ← advanceSkipping
    match ← current? with
    | none | some '\x7D' => return found.reverse
    | some c => bracedText (c :: found) fuel

/-- A set of characters by property; the cursor stands on its letter. -/
def propertyName : Reading (String × Bool) := do
  if !(← advanceSkipping) then failHere .escapeIncomplete
  match ← current? with
  | some '\x7B' =>
    let name ← bracedText [] (← size)
    if ← atEnd then failHere .escapeIncomplete
    let _ ← advance
    return (String.ofList name, ':' ∈ name || '=' ∈ name)
  | some '\\' => failAtCurrent .propertyInvalid
  | c =>
    let _ ← advanceSkipping
    return (String.ofList c.toList, false)

/-- The kinds of word boundaries that have a name. -/
def boundaryNamed? : String → Option WordEdge
  | "start" => some .start
  | "end" => some .stop
  | "start-half" => some .startHalf
  | "end-half" => some .stopHalf
  | _ => none

def isBoundaryLetter (c : Char) : Bool := c.isAlpha || c = '-'

/-- The name of a word boundary if one stands here; the cursor stands on a brace. Braces that hold no name are
left for a repetition. -/
def boundaryName (start : Nat) : Reading (Option WordEdge) := do
  let opened ← position
  if !(← advanceSkipping) then failAt .boundaryIncomplete start (← position)
  let first ← position
  match ← current? with
  | some c =>
    if !isBoundaryLetter c then
      goTo opened
      return none
  | none => pure ()
  let name ← takeWhile isBoundaryLetter true
  if (← current?) ≠ some '\x7D' then failAt .boundaryUnclosed opened (← position)
  let last ← position
  let _ ← advance
  match boundaryNamed? (String.ofList name) with
  | some edge => return some edge
  | none => failAt .boundaryUnknown first last

/-- Whether a character stands for itself after a backslash. -/
def standsForItself (c : Char) : Bool :=
  c.toNat < 0x80 && !c.isAlphanum && c ≠ '<' && c ≠ '>'

def controlChar? : Char → Option Char
  | 'a' => some '\x07'
  | 'f' => some '\x0C'
  | 't' => some '\t'
  | 'n' => some '\n'
  | 'r' => some '\r'
  | 'v' => some '\x0B'
  | _ => none

def assertionLetter? : Char → Option Assertion
  | 'A' => some .textStart
  | 'z' => some .textEnd
  | 'B' => some (.word .neither)
  | '<' => some (.word .start)
  | '>' => some (.word .stop)
  | _ => none

def shorthandLetter? : Char → Option (Shorthand × Bool)
  | 'd' => some (.digit, false)
  | 's' => some (.space, false)
  | 'w' => some (.word, false)
  | 'D' => some (.digit, true)
  | 'S' => some (.space, true)
  | 'W' => some (.word, true)
  | _ => none

/-- An escape that consists of a backslash and a letter, but for boundaries; the cursor stands on the letter. -/
def shortEscape (start : Nat) (c : Char) : Reading Atom := do
  let _ ← advance
  let span : Span := ⟨start, ← position⟩
  if standsForItself c then return .literal ⟨span, c, false⟩
  match controlChar? c, assertionLetter? c with
  | some control, _ => return .literal ⟨span, control, false⟩
  | none, some a => return .assertion span a
  | none, none =>
    if c = 'b' then
      if (← current?) = some '\x7B' then
        match ← boundaryName start with
        | some edge => return .assertion ⟨start, ← position⟩ (.word edge)
        | none => return .assertion span (.word .either)
      else return .assertion span (.word .either)
    else failAt .escapeUnknown span.start span.stop

/-- What a backslash starts; the cursor stands on it. -/
def escape : Reading Atom := do
  let start ← position
  if !(← advance) then failAt .escapeIncomplete start (← position)
  let c := (← current?).getD '\\'
  if c.isDigit then failAt .backreference start ((← position) + 1)
  else if c = 'x' || c = 'u' || c = 'U' then return .literal (← hexLiteral start c)
  else if c = 'p' || c = 'P' then
    let (name, hasValue) ← propertyName
    return .property ⟨start, ← position⟩ name hasValue
  else
    match shorthandLetter? c with
    | some (name, negated) =>
      let _ ← advance
      return .shorthand ⟨start, ← position⟩ name negated
    | none => shortEscape start c

/-- The atom at the cursor. -/
def atom : Reading Atom := do
  let start ← position
  let span : Span := ⟨start, start + 1⟩
  match ← current? with
  | some '\\' => escape
  | some c =>
    let _ ← advance
    match c with
    | '.' => return .dot span
    | '^' => return .assertion span .lineStart
    | '$' => return .assertion span .lineEnd
    | c => return .literal ⟨span, c, false⟩
  | none => failHere .operandMissing

end Reading

end OpalLocking.Pattern
