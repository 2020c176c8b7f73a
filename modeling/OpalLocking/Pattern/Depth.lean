/-
How deep the parts of a pattern stand in one another.

Groups, repetitions, sets, sequences of at least two parts and choices between at least two branches each add a
level, in and outside of brackets. The first of them that stands too deep is the mistake.
-/
import OpalLocking.Pattern.Expression

namespace OpalLocking.Pattern

/-- The depth below a part with a level of its own. -/
def deeper (depth : Nat) (span : Span) : Except Mistake Nat :=
  if depth < nestLimit then .ok (depth + 1) else .error ⟨.nestedTooDeep, span, none⟩

mutual

/-- Fails if a part of what stands in brackets is too deep. -/
def SetExpression.checkDepth (depth : Nat) : SetExpression → Except Mistake Unit
  | .nothing _ | .literal _ | .range _ _ _ | .named _ _ _ | .shorthand _ _ _ | .property _ _ _ => .ok ()
  | .bracketed span _ inner => do inner.checkDepth (← deeper depth span)
  | .union span members => do SetExpression.checkDepths (← deeper depth span) members
  | .combination span _ first second => do
    let depth ← deeper depth span
    first.checkDepth depth
    second.checkDepth depth

def SetExpression.checkDepths (depth : Nat) : List SetExpression → Except Mistake Unit
  | [] => .ok ()
  | e :: rest => do
    e.checkDepth depth
    SetExpression.checkDepths depth rest

end

mutual

/-- Fails if a part of an expression is too deep. -/
def Expression.checkDepth (depth : Nat) : Expression → Except Mistake Unit
  | .empty _ | .flags _ _ | .literal _ | .dot _ | .assertion _ _ | .shorthand _ _ _ | .property _ _ _ => .ok ()
  | .set s => s.checkDepth depth
  | .repetition span e _ _ _ => do e.checkDepth (← deeper depth span)
  | .group span _ _ inner => do inner.checkDepth (← deeper depth span)
  | .sequence span parts => do Expression.checkDepths (← deeper depth span) parts
  | .alternatives span branches => do Expression.checkDepths (← deeper depth span) branches

def Expression.checkDepths (depth : Nat) : List Expression → Except Mistake Unit
  | [] => .ok ()
  | e :: rest => do
    e.checkDepth depth
    Expression.checkDepths depth rest

end

end OpalLocking.Pattern
