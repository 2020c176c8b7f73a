/-
Reading a pattern's text into a tree.

Groups that are open form a stack. An alternative ends at a bar or where its group ends, and a repetition takes
what was read last.
-/
import OpalLocking.Pattern.SetReader
import OpalLocking.Text.Alphabetic
import OpalLocking.Text.Numeric

namespace OpalLocking.Pattern

/-- The expressions that are being read in one group. -/
structure Branches where
  /-- Where the first alternative starts. -/
  first : Nat
  /-- Where the alternative that is being read starts. -/
  start : Nat
  /-- The alternatives that are complete, the last one first. -/
  complete : List Expression
  /-- The parts of the alternative that is being read, the last one first. -/
  parts : List Expression
deriving Repr

namespace Branches

/-- Nothing, before a position. -/
def emptyAt (position : Nat) : Branches := ⟨position, position, [], []⟩

def add (b : Branches) (e : Expression) : Branches := { b with parts := e :: b.parts }

/-- The alternative that is being read, which ends before a position. -/
def current (b : Branches) (stop : Nat) : Expression := .sequenceOf ⟨b.start, stop⟩ b.parts

/-- Starts another alternative behind a bar. -/
def split (b : Branches) (bar : Nat) : Branches := ⟨b.first, bar + 1, b.current bar :: b.complete, []⟩

/-- All that was read before a position. -/
def result (b : Branches) (stop : Nat) : Expression :=
  .alternativesOf ⟨b.first, stop⟩ (b.current stop) b.complete

end Branches

/-- A group that is open, with what was read before it. -/
structure OpenGroup where
  start : Nat
  number : Option Nat
  changes : FlagChanges
  outside : Branches
  /-- Whether blanks counted before the group. -/
  skipsBlanks : Bool
deriving Repr

/-- How far a text is read. -/
structure Progress where
  /-- What was read in the innermost open group. -/
  branches : Branches
  /-- The groups that are open, the innermost one first. -/
  enclosing : List OpenGroup
deriving Repr

def Progress.add (p : Progress) (e : Expression) : Progress := { p with branches := p.branches.add e }

/-- What an opening parenthesis starts. -/
inductive GroupStart
  | flags (changes : FlagChanges)
  | group (number : Option Nat) (changes : FlagChanges)
deriving Repr

namespace Reading

/-! ## Groups -/

/-- Whether a character can be in a group's name. -/
def isNameChar (first : Bool) (c : Char) : Bool :=
  c = '_' || Text.isAlphabetic c || (!first && (c = '.' || c = '[' || c = ']' || Text.isNumeric c))

/-- The characters of a group's name before the closing bracket; `found` are those so far, the last one first. -/
def nameChars (found : List Char) : Nat → Reading (List Char)
  | 0 => return found.reverse
  | fuel + 1 => do
    match ← current? with
    | none | some '>' => return found.reverse
    | some c =>
      if !isNameChar found.isEmpty c then failAtCurrent .groupNameInvalid
      let _ ← advance
      nameChars (c :: found) fuel

/-- A group's name, which no other group has. -/
def groupName : Reading Unit := do
  let start ← position
  let chars ← nameChars [] (← size)
  if ← atEnd then failHere .groupNameUnclosed
  let span : Span := ⟨start, ← position⟩
  let _ ← advance
  if chars.isEmpty then failAt .groupNameEmpty start start
  let name := String.ofList chars
  match (← get).groupNames[name]? with
  | some earlier => throw ⟨.groupNameTwice, span, some earlier⟩
  | none => modify fun c => { c with groupNames := c.groupNames.insert name span }

/-- The start of a group that is kept. -/
def keptGroup : Reading GroupStart :=
  modifyGet fun c => (.group (some (c.groups + 1)) [], { c with groups := c.groups + 1 })

/-- Flags that are read so far, with their places, and the sign of negation if there was one. -/
structure FlagsSoFar where
  flags : List (Flag × Bool × Span)
  negation : Option Span

/-- Adds the flag or the sign at the cursor. -/
def flagItem (so : FlagsSoFar) : Reading FlagsSoFar := do
  let here ← position
  let span : Span := ⟨here, here + 1⟩
  match ← current? with
  | some '-' =>
    match so.negation with
    | some earlier => throw ⟨.negationTwice, span, some earlier⟩
    | none => return { so with negation := some span }
  | c =>
    match c.bind Flag.ofLetter? with
    | none => failAtCurrent .flagUnknown
    | some flag =>
      match so.flags.lookup flag with
      | some (_, earlier) => throw ⟨.flagTwice, span, some earlier⟩
      | none => return { so with flags := so.flags ++ [(flag, so.negation.isNone, span)] }

/-- Flags up to a colon or a closing parenthesis; `dangling` is a sign of negation right before. -/
def flagItems (so : FlagsSoFar) (dangling : Option Span) : Nat → Reading FlagChanges
  | 0 => return []
  | fuel + 1 => do
    match ← current? with
    | some ':' | some ')' =>
      match dangling with
      | some span => failAt .negationDangling span.start span.stop
      | none => return so.flags.map fun (flag, value, _) => (flag, value)
    | c =>
      let here ← position
      let so ← flagItem so
      if !(← advance) then failHere .flagMissing
      flagItems so (if c = some '-' then some ⟨here, here + 1⟩ else none) fuel

/-- What an opening parenthesis starts; the cursor stands on it. -/
def groupStart : Reading GroupStart := do
  let start ← position
  let _ ← advanceSkipping
  if (← passIf "?=") || (← passIf "?!") || (← passIf "?<=") || (← passIf "?<!") then
    failAt .lookAround start (← position)
  let inner ← position
  if (← passIf "?P<") || (← passIf "?<") then
    if ← atEnd then failHere .groupNameUnclosed
    groupName
    keptGroup
  else if ← passIf "?" then
    if ← atEnd then failAt .groupUnclosed start (start + 1)
    let changes ← flagItems ⟨[], none⟩ none ((← size) + 1)
    let isGroup := (← current?) = some ':'
    let _ ← advance
    if isGroup then return .group none changes
    if changes.isEmpty then failAt .operandMissing inner inner
    return .flags changes
  else keptGroup

/-! ## Repetitions -/

/-- The largest number of repetitions that can be written. -/
def largestCount : Nat := UInt32.size - 1

/-- Decimal digits between blanks, and where they stand. -/
def digits : Reading (List Char × Span) := do
  let _ ← takeWhile Text.isBlank false
  let start ← position
  let found ← takeWhile Char.isDigit true
  let span : Span := ⟨start, ← position⟩
  let _ ← takeWhile Text.isBlank true
  return (found, span)

/-- The number of some digits. -/
def count (found : List Char) (span : Span) : Reading Nat := do
  if found.isEmpty then failAt .countNotDecimal span.start span.stop
  let n := found.foldl (fun n c => 10 * n + (c.toNat - '0'.toNat)) 0
  if largestCount < n then failAt .decimalInvalid span.start span.stop
  return n

/-- What a repetition sign stands for. -/
structure Repetition where
  least : Nat
  most : Option Nat
  /-- Whether no question mark follows. -/
  isGreedy : Bool
deriving Repr

/-- Goes past a question mark behind a repetition sign; the answer is whether there is none. -/
def passLazy : Reading Bool := do
  if (← current?) = some '?' then
    let _ ← advance
    return false
  else return true

/-- The bounds in braces; the cursor stands on the opening one. -/
def counts : Reading Repetition := do
  let start ← position
  if !(← advanceSkipping) then failAt .countUnclosed start (← position)
  let (first, firstSpan) ← digits
  if ← atEnd then failAt .countUnclosed start (← position)
  let (least, most) ←
    if (← current?) = some ',' then do
      if !(← advanceSkipping) then failAt .countUnclosed start (← position)
      let least ← count first firstSpan
      if (← current?) = some '\x7D' then pure (least, none)
      else
        let (last, lastSpan) ← digits
        pure (least, some (← count last lastSpan))
    else do
      let both ← count first firstSpan
      pure (both, some both)
  if (← current?) ≠ some '\x7D' then failAt .countUnclosed start (← position)
  let _ ← advanceSkipping
  let isGreedy ← passLazy
  if most.any (· < least) then failAt .countsReversed start (← position)
  return { least, most, isGreedy }

/-- What a repetition sign stands for; the cursor stands on it. -/
def repetitionSign (sign : Char) : Reading Repetition := do
  if sign = '\x7B' then counts
  else
    let _ ← advance
    let isGreedy ← passLazy
    return { least := if sign = '+' then 1 else 0, most := if sign = '?' then some 1 else none, isGreedy }

/-- Repeats what was read last. -/
def repetition (b : Branches) (sign : Char) : Reading Branches := do
  match b.parts with
  | [] => failHere .operandMissing
  | e :: before =>
    if !e.isRepeatable then failHere .operandMissing
    let r ← repetitionSign sign
    let repeated := .repetition ⟨e.span.start, ← position⟩ e r.least r.most r.isGreedy
    return { b with parts := repeated :: before }

/-! ## The whole -/

/-- Opens a group, or changes flags; the cursor stands on a parenthesis. -/
def openGroup (p : Progress) : Reading Progress := do
  let start ← position
  let skipped := (← get).skipsBlanks
  let setFlags (changes : FlagChanges) : Reading Unit :=
    modify fun c => { c with skipsBlanks := (changes.lookup .skipBlanks).getD c.skipsBlanks }
  match ← groupStart with
  | .flags changes =>
    setFlags changes
    return p.add (.flags ⟨start, ← position⟩ changes)
  | .group number changes =>
    setFlags changes
    return ⟨.emptyAt (← position), ⟨start, number, changes, p.branches, skipped⟩ :: p.enclosing⟩

/-- Closes the innermost group; the cursor stands on a parenthesis. -/
def closeGroup (p : Progress) : Reading Progress := do
  match p.enclosing with
  | [] => failAtCurrent .groupUnopened
  | o :: rest =>
    let inner := p.branches.result (← position)
    modify fun c => { c with skipsBlanks := o.skipsBlanks }
    let _ ← advance
    return ⟨o.outside.add (.group ⟨o.start, ← position⟩ o.number o.changes inner), rest⟩

/-- Reads an expression, or what stands between expressions; at the end of the text the answer is the whole. -/
def step (p : Progress) : Reading (Progress ⊕ Expression) := do
  skipBlanks
  match ← current? with
  | none =>
    match p.enclosing with
    | [] => return .inr (p.branches.result (← position))
    | o :: _ => failAt .groupUnclosed o.start (o.start + 1)
  | some '(' => return .inl (← openGroup p)
  | some ')' => return .inl (← closeGroup p)
  | some '|' =>
    let bar ← position
    let _ ← advance
    return .inl { p with branches := p.branches.split bar }
  | some '[' => return .inl (p.add (.set (← set)))
  | some c =>
    if c = '?' || c = '*' || c = '+' || c = '\x7B' then
      return .inl { p with branches := ← repetition p.branches c }
    else return .inl (p.add (← atom).toExpression)

/-- Reads on up to the end of the text. -/
def steps (p : Progress) : Nat → Reading Expression
  | 0 => return p.branches.result (← position)
  | fuel + 1 => do
    match ← step p with
    | .inl p => steps p fuel
    | .inr e => return e

end Reading

/-- Reads a pattern's text. -/
def read (text : List Char) : Except Mistake Expression :=
  let cursor : Cursor := ⟨text.toArray, 0, false, 0, ∅⟩
  (Reading.steps ⟨.emptyAt 0, []⟩ (text.length + 1) cursor).map (·.1)

end OpalLocking.Pattern
