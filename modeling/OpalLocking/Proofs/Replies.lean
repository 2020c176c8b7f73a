/-
What a drive answers in the calls of one run.

The courses of an operation leave every answer open. On one drive the first call decides the next state, and so on:
`Drive.Replies` says so, and `Operation.run_course` puts both together for an operation that gets as far as the open
drive. What a procedure does is decided by its answers alone, so two of its runs that are answered alike are one and the
same (`Procedure.Yields.unique`), also on different drives.
-/
import OpalLocking.Proofs.Refusals

namespace OpalLocking

namespace Trace

@[simp] theorem openings_nil : openings [] = 0 := rfl

@[simp] theorem openings_opened (outcome t) : openings (.opened outcome :: t) = openings t + 1 := rfl

@[simp] theorem openings_called (r a t) : openings (.called r a :: t) = openings t := rfl

@[simp] theorem openings_logged (record t) : openings (.logged record :: t) = openings t := rfl

@[simp] theorem openings_acquired (t) : openings (.acquired :: t) = openings t := rfl

@[simp] theorem openings_released (t) : openings (.released :: t) = openings t := rfl

end Trace

/-- An operation that hands no value on succeeds as its last part does. -/
theorem map_nothing_eq_ok {r : Except Error Unit} : r.map (fun _ => Value.nothing) = .ok .nothing ↔ r = .ok () := by
  cases r <;> simp [Except.map]

theorem not_ok_of_failsAs {α : Type} {r : Except Error α} {value : α} {kind : ErrorKind} (fails : FailsAs r kind) :
    r ≠ .ok value := by
  rintro rfl
  exact not_failsAs_ok fails

variable {σ α : Type}

/-- The drive gives these answers, in order, to calls that are made one right after the other. -/
inductive Drive.Replies (d : Drive σ) : σ → List Exchange → σ → Prop
  | nil {s} : Replies d s [] s
  | cons {s request xs s'} (rest : Replies d (d.answer s request).2 xs s') :
      Replies d s (⟨request, (d.answer s request).1⟩ :: xs) s'

variable {d : Drive σ} {s s₁ s' : σ}

/-- Between openings, only calls count. -/
theorem Drive.Path.replies {t : Trace} (h : d.Path s t s') (unopened : t.openings = 0) : d.Replies s t.exchanges s' := by
  induction h with
  | nil => exact .nil
  | opened => simp at unopened
  | called _ ih => exact .cons (ih unopened)
  | logged _ ih | acquired _ ih | released _ ih => exact ih unopened

/-- With valid arguments, and a drive that opens, an operation takes one of its courses, and the drive answers each call
of it as it is by then. -/
theorem Operation.run_course {device : String} {op : Operation} (valid : op.check = .ok ())
    (opens : d.opening s = (.ok (), s₁)) :
    let run := (op.procedure device).run d s
    op.Course run.trace.exchanges run.result ∧ d.Replies s₁ run.trace.exchanges run.drive := by
  intro run
  have opened : run = ((op.opened device).run d s₁).after (.opened (.ok ())) := run_of_open valid opens
  have course : op.Course ((op.opened device).run d s₁).trace.exchanges ((op.opened device).run d s₁).result :=
    opened_course (Procedure.run_yields d (op.opened device) s₁)
  have replies := (Procedure.run_path d (op.opened device) s₁).replies (op.inStep_self.openings rfl s₁)
  rw [opened]
  exact ⟨course, replies⟩

/-- A procedure that is answered alike twice does the same twice. -/
theorem Procedure.Yields.unique {p : Procedure α} {t t' : Trace} {r r' : Except Error α} (h : p.Yields t r)
    (h' : p.Yields t' r') (unopened : t.openings = 0) (unopened' : t'.openings = 0) (alike : t.exchanges = t'.exchanges) :
    t = t' ∧ r = r' := by
  induction h generalizing t' with
  | done =>
    obtain ⟨rfl, rfl⟩ := yields_done.1 h'
    exact ⟨rfl, rfl⟩
  | openDrive => simp at unopened
  | call _ ih =>
    obtain ⟨answer', u, rfl, rest⟩ := yields_call.1 h'
    -- The first exchange is the same, so both runs go on in the same way.
    cases (List.cons.inj alike).1
    obtain ⟨rfl, rfl⟩ := ih rest unopened unopened' (List.cons.inj alike).2
    exact ⟨rfl, rfl⟩
  | log _ ih =>
    obtain ⟨u, rfl, rest⟩ := yields_log.1 h'
    obtain ⟨rfl, rfl⟩ := ih rest unopened unopened' alike
    exact ⟨rfl, rfl⟩
  | acquire _ ih =>
    cases h' with
    | acquire rest =>
      obtain ⟨rfl, rfl⟩ := ih rest unopened unopened' alike
      exact ⟨rfl, rfl⟩
  | release _ ih =>
    cases h' with
    | release rest =>
      obtain ⟨rfl, rfl⟩ := ih rest unopened unopened' alike
      exact ⟨rfl, rfl⟩

/-- An operation that two drives answer alike does the same on both. -/
theorem Operation.run_unique {τ : Type} {d' : Drive τ} {u u₁ : τ} {device : String} {op : Operation}
    (valid : op.check = .ok ()) (opens : d.opening s = (.ok (), s₁)) (opens' : d'.opening u = (.ok (), u₁))
    (alike : ((op.procedure device).run d s).trace.exchanges = ((op.procedure device).run d' u).trace.exchanges) :
    ((op.procedure device).run d s).trace = ((op.procedure device).run d' u).trace ∧
      ((op.procedure device).run d s).result = ((op.procedure device).run d' u).result := by
  rw [run_of_open valid opens, run_of_open valid opens'] at alike ⊢
  have inStep : Procedure.InStep 0 0 (op.opened device) (op.opened device) := op.inStep_self
  obtain ⟨traces, results⟩ := (Procedure.run_yields d (op.opened device) s₁).unique
    (Procedure.run_yields d' (op.opened device) u₁) (inStep.openings rfl s₁) (inStep.openings rfl u₁) alike
  exact ⟨congrArg _ traces, results⟩

end OpalLocking
