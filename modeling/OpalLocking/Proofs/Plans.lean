/-
Runs that follow a plan.

A plan is a list of requests that are made in order, as long as each is answered so that the next one may be
made. `Follows planned xs stop` says that the exchanges `xs` are the plan up to the first one that does not
let it go on, which is `stop`; there is none if the plan was finished. `Procedure.Performs` says that a
procedure does nothing else, whatever it is answered, and fails as the exchange it stops at tells.
-/
import OpalLocking.Proofs.Steps

namespace OpalLocking

open Procedure (yields_bind yields_pure yields_record_bind yields_withBuffer)

namespace Exchange

/-- A plan goes on behind this exchange. A plain erase may be refused, since what follows takes care of it, and
a geometry has to be usable. -/
def Passes : Exchange → Prop
  | ⟨.eraseRange _, _⟩ => True
  | ⟨.getGeometry _, g⟩ => g.Usable
  | x => x.Accepted

/-- The kind of error in which a plan ends that stops at this exchange. Only taking ownership opens a session,
and a geometry that cannot be used is invalid for whatever reason. -/
def failureKind (x : Exchange) : ErrorKind :=
  match x.request with
  | .takeOwnership _ => x.status.classify.entryKind
  | .getGeometry _ => .invalid
  | _ => x.status.classify.stepKind

/-- A call that passes was accepted, unless it is a plain erase. -/
theorem Passes.accepted {x : Exchange} (passes : x.Passes) (notErase : x.kind ≠ .eraseRange) : x.Accepted := by
  obtain ⟨request, a⟩ := x
  cases request with
  | eraseRange => exact absurd rfl notErase
  | getGeometry => exact passes.1
  | _ => exact passes

/-- What comes later than the first exchange has the first one before it. -/
theorem cons_of_append_eq {before after ys : List Exchange} {x y : Exchange} (h : before ++ x :: after = y :: ys)
    (later : x.kind ≠ y.kind) : ∃ rest, before = y :: rest ∧ rest ++ x :: after = ys := by
  cases before with
  | nil =>
    obtain ⟨rfl, -⟩ := List.cons.inj h
    exact absurd rfl later
  | cons z rest =>
    obtain ⟨rfl, behind⟩ := List.cons.inj h
    exact ⟨rest, rfl, behind⟩

end Exchange

/-- The exchanges are the plan, up to the first one that does not pass. -/
inductive Follows : List Request → List Exchange → Option Exchange → Prop
  | finished : Follows [] [] none
  | passed {x planned xs stop} (passes : x.Passes) (rest : Follows planned xs stop) :
      Follows (x.request :: planned) (x :: xs) stop
  | stopped {x planned} (stops : ¬ x.Passes) : Follows (x.request :: planned) [x] (some x)

namespace Follows

variable {planned more : List Request} {xs ys : List Exchange} {stop : Option Exchange} {x : Exchange}

/-! ## Plans one after the other -/

theorem append (first : Follows planned xs none) (second : Follows more ys stop) :
    Follows (planned ++ more) (xs ++ ys) stop := by
  -- The induction is on the first run, which is known to have been finished.
  generalize h : (none : Option Exchange) = ended at first
  induction first with
  | finished => exact second
  | passed passes _ ih => exact .passed passes (ih h)
  | stopped => cases h

/-- Behind a failure the rest of the plan is left alone. -/
theorem leave (first : Follows planned xs (some x)) (more : List Request) :
    Follows (planned ++ more) xs (some x) := by
  generalize h : some x = ended at first
  induction first with
  | finished => cases h
  | passed passes _ ih => exact .passed passes (ih h)
  | stopped stops => cases h; exact .stopped stops

/-! ## What such a run looks like -/

theorem isPrefix (h : Follows planned xs stop) : xs.map (·.request) <+: planned := by
  induction h with
  | finished => exact List.prefix_rfl
  | passed _ _ ih => exact List.cons_prefix_cons.2 ⟨rfl, ih⟩
  | stopped => exact List.cons_prefix_cons.2 ⟨rfl, List.nil_prefix⟩

theorem mem_plan (h : Follows planned xs stop) (mem : x ∈ xs) : x.request ∈ planned :=
  h.isPrefix.subset (List.mem_map_of_mem mem)

/-- Every call but the last one passed. -/
theorem passes_of_mem_dropLast (h : Follows planned xs stop) : ∀ y ∈ xs.dropLast, y.Passes := by
  induction h with
  | finished => simp
  | @passed x planned xs stop passes rest ih =>
    cases xs with
    | nil => simp
    | cons z xs =>
      simp only [List.dropLast_cons_cons, List.forall_mem_cons]
      exact ⟨passes, ih⟩
  | stopped => simp

theorem stopped_iff (h : Follows planned xs stop) : stop = some x ↔ xs.getLast? = some x ∧ ¬ x.Passes := by
  induction h with
  | finished => simp
  | @passed y planned xs stop passes rest ih =>
    rw [ih, List.getLast?_cons]
    cases hl : xs.getLast? with
    | none =>
      simp only [reduceCtorEq, false_and, Option.getD_none, Option.some.injEq, false_iff]
      rintro ⟨rfl, fails⟩
      exact fails passes
    | some last => simp
  | stopped stops =>
    constructor
    · intro same
      cases same
      exact ⟨rfl, stops⟩
    · rintro ⟨same, -⟩
      simpa using same

theorem finished_iff (h : Follows planned xs stop) : stop = none ↔ ∀ y ∈ xs, y.Passes := by
  induction h with
  | finished => simp
  | passed passes _ ih => simp [ih, passes]
  | stopped stops => simp [stops]

theorem map_request (h : Follows planned xs none) : xs.map (·.request) = planned := by
  generalize hs : (none : Option Exchange) = ended at h
  induction h with
  | finished => rfl
  | passed _ _ ih => simp [ih hs]
  | stopped => cases hs

/-- Such a run is known by its calls and by which of them passed. -/
theorem exists_of_isPrefix (inOrder : xs.map (·.request) <+: planned) (onwards : ∀ y ∈ xs.dropLast, y.Passes)
    (complete : (∀ y ∈ xs, y.Passes) → xs.map (·.request) = planned) : ∃ stop, Follows planned xs stop := by
  induction xs generalizing planned with
  | nil =>
    obtain rfl : [] = planned := complete (by simp)
    exact ⟨none, .finished⟩
  | cons x xs ih =>
    obtain ⟨rest, rfl⟩ := inOrder
    by_cases passes : x.Passes
    · have onwards : ∀ y ∈ xs.dropLast, y.Passes := by
        intro y mem
        cases xs with
        | nil => cases mem
        | cons z zs => exact onwards y (.tail _ mem)
      have complete : (∀ y ∈ xs, y.Passes) → xs.map (·.request) = xs.map (·.request) ++ rest := by
        intro all
        simpa using complete (List.forall_mem_cons.2 ⟨passes, all⟩)
      obtain ⟨stop, follows⟩ := ih (List.prefix_append _ rest) onwards complete
      exact ⟨stop, .passed passes follows⟩
    · -- The run ends here, since no call but the last one fails.
      cases xs with
      | nil => exact ⟨some x, .stopped passes⟩
      | cons y ys => exact absurd (onwards x (.head _)) passes

/-- A run along a plan begins with its first call, and ends there if that call does not pass. -/
theorem cons_inv {request : Request} (h : Follows (request :: planned) xs stop) :
    ∃ (a : Answer request) (ys : List Exchange), xs = ⟨request, a⟩ :: ys ∧
      ((Exchange.Passes ⟨request, a⟩ ∧ Follows planned ys stop) ∨
        (¬ Exchange.Passes ⟨request, a⟩ ∧ ys = [] ∧ stop = some ⟨request, a⟩)) := by
  cases h with
  | passed passes rest => exact ⟨_, _, rfl, .inl ⟨passes, rest⟩⟩
  | stopped stops => exact ⟨_, [], rfl, .inr ⟨stops, rfl, rfl⟩⟩

end Follows

/-! ## Procedures that perform a plan -/

/-- What the result is when a plan stops there. -/
def EndsAt (stop : Option Exchange) (r : Except Error Unit) : Prop :=
  match stop with
  | none => r = .ok ()
  | some x => FailsAs r x.failureKind

/-- The procedure makes the calls of the plan, and no others. -/
def Procedure.Performs (p : Procedure Unit) (planned : List Request) : Prop :=
  ∀ ⦃t r⦄, p.Yields t r → ∃ stop, Follows planned t.exchanges stop ∧ EndsAt stop r

namespace Procedure.Performs

variable {p : Procedure Unit} {k : Unit → Procedure Unit} {planned more : List Request}

theorem pure : (Pure.pure () : Procedure Unit).Performs [] := by
  intro t r h
  obtain ⟨rfl, rfl⟩ := yields_pure.1 h
  exact ⟨none, .finished, rfl⟩

theorem bind (first : p.Performs planned) (second : (k ()).Performs more) :
    (p >>= k).Performs (planned ++ more) := by
  intro t r h
  rcases yields_bind.1 h with ⟨t₁, t₂, _, rfl, h₁, h₂⟩ | ⟨e, rfl, h₁⟩
  · obtain ⟨stop, follows, ends⟩ := first h₁
    cases stop with
    | none =>
      obtain ⟨stop, follows₂, ends₂⟩ := second h₂
      exact ⟨stop, by simpa using follows.append follows₂, ends₂⟩
    | some x =>
      obtain ⟨e, h, -⟩ := ends
      cases h
  · obtain ⟨stop, follows, ends⟩ := first h₁
    cases stop with
    | none => cases ends
    | some x => exact ⟨some x, follows.leave more, ends⟩

theorem record_bind {level topic message} (h : (k ()).Performs planned) :
    (Procedure.record level topic message >>= k).Performs planned := by
  intro t r yields
  obtain ⟨t', rfl, rest⟩ := yields_record_bind.1 yields
  simpa using h rest

theorem withBuffer (h : p.Performs planned) : p.withBuffer.Performs planned := by
  intro t r yields
  obtain ⟨t', rfl, inner⟩ := yields_withBuffer.1 yields
  simpa using h inner

/-- A single call whose answer is judged performs the plan of that call. -/
theorem submit {request : Request} {judge : Answer request → Procedure Unit}
    (judges : ∀ a, (judge a).Judges a.status.classify (Exchange.failureKind ⟨request, a⟩))
    (strict : ∀ a : Answer request, Exchange.Passes ⟨request, a⟩ ↔ a.status.classify = .success) :
    (Procedure.submit request >>= judge).Performs [request] := by
  intro t r yields
  obtain ⟨a, t', rfl, rest⟩ := Procedure.yields_submit_bind.1 yields
  obtain ⟨quiet, ⟨accepted, rfl⟩ | ⟨refused, fails⟩⟩ := judges a rest
  · refine ⟨none, ?_, rfl⟩
    rw [Trace.exchanges_called, quiet]
    exact .passed (x := ⟨request, a⟩) ((strict a).2 accepted) .finished
  · refine ⟨some ⟨request, a⟩, ?_, fails⟩
    rw [Trace.exchanges_called, quiet]
    exact .stopped (x := ⟨request, a⟩) fun h => refused ((strict a).1 h)

end Procedure.Performs

end OpalLocking
