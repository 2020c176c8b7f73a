/-
Statuses queued for later calls.

The queue serves each kind of call on its own: a call takes the oldest status queued for its kind and leaves
the others in their order. `Queue.statuses` is that view, one list per kind.
-/
import OpalLocking.Call

namespace OpalLocking.Simulator

/-- Statuses waiting for calls of a kind, the oldest first. -/
abbrev Queue := List (CallKind × Status)

namespace Queue

/-- The statuses that wait for one kind of call. -/
def statuses (q : Queue) (kind : CallKind) : List Status :=
  (q.filter (·.1 = kind)).map (·.2)

def push (q : Queue) (kind : CallKind) (status : Status) : Queue :=
  q ++ [(kind, status)]

/-- Takes the oldest status that waits for `kind`. -/
def take? (kind : CallKind) : Queue → Option (Status × Queue)
  | [] => none
  | (waiting, status) :: rest =>
    if waiting = kind then some (status, rest)
    else (take? kind rest).map fun (taken, left) => (taken, (waiting, status) :: left)

theorem statuses_push (q : Queue) (kind other : CallKind) (status : Status) :
    (q.push kind status).statuses other =
      q.statuses other ++ if kind = other then [status] else [] := by
  by_cases h : kind = other <;> simp [statuses, push, List.filter_append, h]

theorem take?_eq_none_iff {kind : CallKind} {q : Queue} : q.take? kind = none ↔ q.statuses kind = [] := by
  induction q with
  | nil => simp [take?, statuses]
  | cons entry rest ih =>
    obtain ⟨waiting, status⟩ := entry
    by_cases h : waiting = kind
    · simp [take?, statuses, h]
    · simpa [take?, statuses, h] using ih

/-- What is taken was the oldest status for its kind, and no other kind loses anything. -/
theorem statuses_of_take? {kind : CallKind} {q left : Queue} {status : Status}
    (h : q.take? kind = some (status, left)) :
    q.statuses kind = status :: left.statuses kind ∧
      ∀ other, other ≠ kind → left.statuses other = q.statuses other := by
  induction q generalizing left with
  | nil => cases h
  | cons entry rest ih =>
    obtain ⟨waiting, first⟩ := entry
    by_cases hw : waiting = kind
    · simp only [take?, hw, if_true, Option.some.injEq, Prod.mk.injEq] at h
      obtain ⟨rfl, rfl⟩ := h
      refine ⟨by simp [statuses, hw], fun other ho => ?_⟩
      have : kind ≠ other := fun e => ho e.symm
      simp [statuses, hw, this]
    · simp only [take?, hw, if_false, Option.map_eq_some_iff, Prod.mk.injEq] at h
      obtain ⟨⟨taken, rest'⟩, ht, rfl, rfl⟩ := h
      obtain ⟨h₁, h₂⟩ := ih ht
      refine ⟨by simpa [statuses, hw] using h₁, fun other ho => ?_⟩
      have := h₂ other ho
      by_cases hwo : waiting = other <;> simpa [statuses, hwo] using this

end Queue

end OpalLocking.Simulator
