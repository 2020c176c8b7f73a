/-
Reading sets in brackets. Sets nest, and operators between their members combine all members so far with all
that follow up to the next operator.
-/
import OpalLocking.Pattern.Atom

namespace OpalLocking.Pattern

/-- The members of a set that are being read. -/
structure Members where
  /-- Where they start. -/
  place : Nat
  /-- What was read, the last one first. -/
  found : List SetExpression
deriving Repr

namespace Members

def add (m : Members) (member : SetExpression) : Members := { m with found := member :: m.found }

def result (m : Members) : SetExpression := .unionOf m.place m.found

end Members

/-- A bracket that is open, with what precedes the members that are being read. -/
structure OpenSet where
  /-- From the bracket to its first member, leading hyphens or a leading bracket included. -/
  opening : Span
  negated : Bool
  /-- The operand and the operator that wait for their other operand. -/
  pending : Option (SetExpression × SetOperation)
deriving Repr

/-- The set of some members, combined with a waiting operand. -/
def OpenSet.combined (o : OpenSet) (members : Members) : SetExpression :=
  match o.pending with
  | none => members.result
  | some (first, operation) => .combine operation first members.result

/-- How far a set is read. -/
structure SetProgress where
  /-- The innermost open bracket. -/
  innermost : OpenSet
  /-- Its members so far. -/
  members : Members
  /-- The brackets around it, with their members so far, from the inside to the outside. -/
  enclosing : List (OpenSet × Members)
deriving Repr

def SetProgress.add (p : SetProgress) (member : SetExpression) : SetProgress :=
  { p with members := p.members.add member }

namespace Reading

/-- The leading hyphens of a set, which stand for themselves. -/
def leadingHyphens (start : Nat) (members : Members) : Nat → Reading Members
  | 0 => return members
  | fuel + 1 => do
    if (← current?) = some '-' then
      let here ← position
      if !(← advanceSkipping) then failAt .setUnclosed start start
      leadingHyphens start (members.add (.literal ⟨⟨here, here + 1⟩, '-', false⟩)) fuel
    else return members

/-- Opens a set: the bracket, a sign of negation, and members that only stand for themselves because they come
first. -/
def openSet : Reading (OpenSet × Members) := do
  let start ← position
  if !(← advanceSkipping) then failAt .setUnclosed start (← position)
  let negated := (← current?) = some '^'
  if negated then
    if !(← advanceSkipping) then failAt .setUnclosed start (← position)
  let here ← position
  let members ← leadingHyphens start ⟨here, []⟩ (← size)
  let after ← position
  if after = here && (← current?) = some ']' then
    if !(← advanceSkipping) then failAt .setUnclosed start (← position)
    return (⟨⟨start, ← position⟩, negated, none⟩, members.add (.literal ⟨⟨here, here + 1⟩, ']', false⟩))
  return (⟨⟨start, after⟩, negated, none⟩, members)

/-- A set by name within brackets, such as `[:alpha:]`. What only looks like one is read as a set in its own
right, from the bracket again. -/
def namedSet? : Reading (Option SetExpression) := do
  let start ← position
  let giveUp : Reading (Option SetExpression) := do
    goTo start
    return none
  if !(← passIf "[:") then return ← giveUp
  let negated ← passIf "^"
  let name ← takeWhile (· ≠ ':') false
  if !(← passIf ":]") then return ← giveUp
  match CharSet.named? (String.ofList name) with
  | some chars => return some (.named ⟨start, ← position⟩ chars negated)
  | none => giveUp

/-- A member's atom: an escape, or any character for itself. -/
def setAtom : Reading Atom := do
  let here ← position
  match ← current? with
  | some '\\' => escape
  | some c =>
    let _ ← advance
    return .literal ⟨⟨here, here + 1⟩, c, false⟩
  | none => failHere .setUnclosed

/-- Fails because the innermost open set has no end. -/
def failUnclosed {α : Type} (o : OpenSet) : Reading α :=
  failAt .setUnclosed o.opening.start o.opening.stop

/-- A member: an atom, or a range between two. A hyphen before a bracket or another hyphen is no range. -/
def setMember (o : OpenSet) : Reading SetExpression := do
  let first ← setAtom
  skipBlanks
  if ← atEnd then failUnclosed o
  let after := (← get).followingSignificant?
  if (← current?) ≠ some '-' || after = some ']' || after = some '-' then first.toSetMember
  else
    if !(← advanceSkipping) then failUnclosed o
    let last ← setAtom
    let span : Span := ⟨first.span.start, last.span.stop⟩
    let low ← first.toBound
    let high ← last.toBound
    if high.char < low.char then failAt .setRangeReversed span.start span.stop
    return .range span low high

/-- An operator between members. -/
def setOperator? : Reading (Option SetOperation) := do
  if ← passIf "&&" then return some .intersection
  else if ← passIf "--" then return some .difference
  else if ← passIf "~~" then return some .symmetricDifference
  else return none

/-- Closes the innermost set; the answer is the outermost one once that is closed. -/
def closeSet (p : SetProgress) : Reading (SetProgress ⊕ SetExpression) := do
  let _ ← advance
  let o := p.innermost
  let closed : SetExpression := .bracketed ⟨o.opening.start, ← position⟩ o.negated (o.combined p.members)
  match p.enclosing with
  | [] => return .inr closed
  | (outer, members) :: rest => return .inl ⟨outer, members.add closed, rest⟩

/-- Reads a member, an operator or a bracket. -/
def setStep (p : SetProgress) : Reading (SetProgress ⊕ SetExpression) := do
  skipBlanks
  match ← current? with
  | none => failUnclosed p.innermost
  | some '[' =>
    match ← namedSet? with
    | some named => return .inl (p.add named)
    | none =>
      let (inner, first) ← openSet
      return .inl ⟨inner, first, (p.innermost, p.members) :: p.enclosing⟩
  | some ']' => closeSet p
  | some _ =>
    match ← setOperator? with
    | some operation =>
      let here ← position
      let pending := some (p.innermost.combined p.members, operation)
      return .inl { p with innermost := { p.innermost with pending }, members := ⟨here, []⟩ }
    | none => return .inl (p.add (← setMember p.innermost))

/-- Reads on until the outermost set is closed. -/
def setSteps (p : SetProgress) : Nat → Reading SetExpression
  | 0 => failUnclosed p.innermost
  | fuel + 1 => do
    match ← setStep p with
    | .inl p => setSteps p fuel
    | .inr closed => return closed

/-- A set; the cursor stands on its bracket. -/
def set : Reading SetExpression := do
  let (o, members) ← openSet
  setSteps ⟨o, members, []⟩ ((← size) + 1)

end Reading

end OpalLocking.Pattern
