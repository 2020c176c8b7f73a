/-
The meaning of a pattern's text, and the automaton that looks for it.

Flags hold from where they are set to the end of their group. There are no tables of scripts: what needs one,
such as the other case of a letter or a set by property, is a mistake unless it is read by bytes, which leaves
only ASCII. What is read by bytes must not match a part of a character.
-/
import OpalLocking.Pattern.Automaton.Search
import OpalLocking.Pattern.Depth
import OpalLocking.Pattern.Reader

namespace OpalLocking.Pattern

/-- The flags that hold at a place. -/
structure Settings where
  ignoresCase : Bool := false
  manyLines : Bool := false
  dotMatchesAll : Bool := false
  wide : Bool := true
  returnsBreakLines : Bool := false
  swapGreed : Bool := false
deriving DecidableEq, Repr

namespace Settings

def set (s : Settings) (flag : Flag) (value : Bool) : Settings :=
  match flag with
  | .ignoreCase => { s with ignoresCase := value }
  | .manyLines => { s with manyLines := value }
  | .dotMatchesAll => { s with dotMatchesAll := value }
  | .wide => { s with wide := value }
  | .returnsBreakLines => { s with returnsBreakLines := value }
  | .swapGreed => { s with swapGreed := value }
  | .skipBlanks => s

def change (s : Settings) (changes : FlagChanges) : Settings :=
  changes.foldl (fun s (flag, value) => s.set flag value) s

end Settings

def mistakeAt {α : Type} (kind : MistakeKind) (span : Span) : Except Mistake α :=
  .error ⟨kind, span, none⟩

/-! ## Sets -/

/-- The character of a literal. A byte of its own that is not ASCII is part of a character. -/
def Literal.value (l : Literal) (s : Settings) : Except Mistake Char :=
  if !s.wide && l.isByte && 0x80 ≤ l.char.toNat then mistakeAt .partialCharacter l.span
  else .ok l.char

/-- A literal as a member of a set, or as a bound of a range in it. -/
def Literal.member (l : Literal) (s : Settings) : Except Mistake Char := do
  let c ← l.value s
  if !s.wide && 0x80 ≤ c.toNat then mistakeAt .wideNotAllowed l.span
  return c

/-- What is read of a set. -/
structure SetReading where
  /-- Its ranges, in any order. -/
  ranges : List CharRange
  /-- Whether all of its characters were read in sets of their own, where the case of letters was seen to. -/
  isFolded : Bool

namespace SetReading

def charSet (r : SetReading) : CharSet := .ofRanges r.ranges

def ofRange (first last : Char) : SetReading := ⟨[(first.toNat, last.toNat)], false⟩

def ofSet (chars : CharSet) : SetReading := ⟨chars.ranges, true⟩

/-- Adds what was read to what was read before. -/
def add (before r : SetReading) : SetReading := ⟨r.ranges ++ before.ranges, before.isFolded && r.isFolded⟩

end SetReading

/-- The characters that were read, with both cases of their letters if case is ignored. -/
def SetReading.fold (r : SetReading) (s : Settings) (span : Span) : Except Mistake CharSet :=
  if !s.ignoresCase then .ok r.charSet
  else if !s.wide then .ok r.charSet.foldCase
  else if r.isFolded then .ok r.charSet
  else mistakeAt .wideCaseUnavailable span

/-- A set that is read completely, or its complement if it is negated. By bytes only ASCII can be read. -/
def SetReading.close (r : SetReading) (s : Settings) (span : Span) (negated : Bool) :
    Except Mistake SetReading := do
  let chars ← r.fold s span
  let chars := if negated then chars.complement else chars
  if !s.wide && !chars.isAscii then mistakeAt .partialCharacter span
  return .ofSet chars

/-- A set with a one-letter name. -/
def Shorthand.compile (name : Shorthand) (s : Settings) (span : Span) (negated : Bool) :
    Except Mistake CharSet :=
  if s.wide then mistakeAt .wideSetUnavailable span
  else if negated then mistakeAt .partialCharacter span
  else .ok name.charSet

/-- The name of a property without what does not distinguish names. -/
def plainName (name : String) : String :=
  let chars := name.toList
  let chars := if (chars.take 2).map Char.toLower = ['i', 's'] then chars.drop 2 else chars
  String.ofList ((chars.filter fun c => c.toNat < 0x80 && c ≠ ' ' && c ≠ '_' && c ≠ '-').map Char.toLower)

/-- The names that stand for a value of the general category although a property has the same name. -/
def categoryNames : List String := ["cf", "sc", "lc"]

/-- Why there is no set for a property. -/
def propertyMistake (s : Settings) (name : String) (hasValue : Bool) : MistakeKind :=
  if !s.wide then .wideNotAllowed
  else if !hasValue && plainName name ∈ categoryNames then .propertyValueNotFound
  else .propertyNotFound

def SetOperation.apply : SetOperation → CharSet → CharSet → CharSet
  | .intersection, s, t => s.intersection t
  | .difference, s, t => s.difference t
  | .symmetricDifference, s, t => s.symmetricDifference t

mutual

/-- Reads what stands in brackets. -/
def SetExpression.compile (s : Settings) : SetExpression → Except Mistake SetReading
  | .nothing _ => .ok (.ofSet .empty)
  | .literal l => do
    let c ← l.member s
    return .ofRange c c
  | .range _ first last => return .ofRange (← first.member s) (← last.member s)
  | .named span chars negated => SetReading.close ⟨chars.ranges, false⟩ s span negated
  | .shorthand span name negated => return .ofSet (← name.compile s span negated)
  | .property span name hasValue => mistakeAt (propertyMistake s name hasValue) span
  | .bracketed span negated inner => do (← inner.compile s).close s span negated
  | .union _ members => SetExpression.compileAll s (.ofSet .empty) members
  | .combination _ operation first second => do
    let left ← first.compile s
    let right ← second.compile s
    let right ← right.fold s second.span
    let left ← left.fold s first.span
    return .ofSet (operation.apply left right)

def SetExpression.compileAll (s : Settings) (before : SetReading) :
    List SetExpression → Except Mistake SetReading
  | [] => .ok before
  | e :: rest => do
    let r ← e.compile s
    SetExpression.compileAll s (before.add r) rest

end

/-! ## Expressions -/

/-- A character outside brackets. -/
def Literal.compile (l : Literal) (s : Settings) : Except Mistake Pattern := do
  let c ← l.value s
  if !s.ignoresCase then return .literal [c]
  if s.wide then mistakeAt .wideCaseUnavailable l.span
  return .ofSet true (CharSet.ofChars [c]).foldCase

/-- What a dot stands for. -/
def dotSet (s : Settings) : CharSet :=
  if s.dotMatchesAll then .full
  else if s.returnsBreakLines then (CharSet.ofChars ['\n', '\r']).complement
  else (CharSet.ofChars ['\n']).complement

def Assertion.compile (a : Assertion) (s : Settings) : Anchor :=
  match a with
  | .lineStart => if s.manyLines then .lineStart s.returnsBreakLines else .textStart
  | .lineEnd => if s.manyLines then .lineEnd s.returnsBreakLines else .textEnd
  | .textStart => .textStart
  | .textEnd => .textEnd
  | .word edge => .word edge s.wide

mutual

/-- The pattern of an expression, and the flags that hold after it. -/
def Expression.compile (s : Settings) : Expression → Except Mistake (Pattern × Settings)
  | .empty _ => .ok (.empty, s)
  | .flags _ changes => .ok (.empty, s.change changes)
  | .literal l => return (← l.compile s, s)
  | .dot span => if s.wide then .ok (.ofSet false (dotSet s), s) else mistakeAt .partialCharacter span
  | .assertion _ a => .ok (.anchor (a.compile s), s)
  | .shorthand span name negated => return (.ofSet true (← name.compile s span negated), s)
  | .property span name hasValue => mistakeAt (propertyMistake s name hasValue) span
  | .set e => return (.ofSet (!s.wide) (← e.compile s).charSet, s)
  | .repetition _ e least most isGreedy => do
    let (p, s) ← e.compile s
    return (.repeated p least most (isGreedy != s.swapGreed), s)
  | .group _ number changes inner => do
    let (p, _) ← inner.compile (s.change changes)
    match number with
    | some number => return (.capture number p, s)
    | none => return (p, s)
  | .sequence _ parts => do
    let (ps, s) ← Expression.compileAll s [] parts
    return (.sequenceOf ps.reverse, s)
  | .alternatives _ branches => do
    let (ps, s) ← Expression.compileAll s [] branches
    return (.choiceOf ps.reverse, s)

/-- The patterns of some expressions behind those before them, the last one first. The flags that hold after an
expression hold for the next one. -/
def Expression.compileAll (s : Settings) (before : List Pattern) :
    List Expression → Except Mistake (List Pattern × Settings)
  | [] => .ok (before, s)
  | e :: rest => do
    let (p, s) ← e.compile s
    Expression.compileAll s (p :: before) rest

end

/-! ## The whole -/

/-- Why a text yields no pattern that can be looked for. -/
inductive Failure
  | mistake (m : Mistake)
  | tooLarge
  /-- Edges of words in any script are looked for. -/
  | wideEdges
deriving DecidableEq, Repr

/-- The pattern of a text. -/
def ofText (text : String) : Except Mistake Pattern := do
  let e ← read text.toList
  e.checkDepth 0
  return (← e.compile {}).1

/-- The automaton that looks for the pattern of a text. One that reads backwards must not become too large
either. -/
def compile (text : String) : Except Failure Automaton := do
  let p ← (ofText text).mapError .mistake
  match automaton? false p with
  | none => .error .tooLarge
  | some a =>
    if a.hasWideEdges then .error .wideEdges
    else if (automaton? true p).isNone then .error .tooLarge
    else .ok a

/-- A failure as it is reported. -/
def Failure.render (f : Failure) (text : String) : String :=
  match f with
  | .mistake m => m.render text.toList
  | .tooLarge => s!"Compiled regex exceeds size limit of {sizeLimit} bytes."
  | .wideEdges => "error building NFA"

end OpalLocking.Pattern
