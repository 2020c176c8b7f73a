/-
Buffers are given back, and no key travels without one.

A walk through a procedure counts its buffers (`Procedure.InStep`), so the traces of its runs can be read in the same
way: `Trace.Sheltered` counts along a trace and asks for a buffer of the run's own at each request that brings a key
block. A run that ends with as many buffers as it began with can be followed by any other, which carries the count
through whole sequences of operations and commands. Any request for a buffer may be refused on the way (`Memory`).
-/
import OpalLocking.CommandRun
import OpalLocking.Proofs.InStep
import OpalLocking.Script

namespace OpalLocking

open CommandLine (Action)

/-! ## Counting along a trace -/

namespace Trace

@[simp] theorem liveAfter_append (live : Nat) (t u : Trace) : liveAfter live (t ++ u) = liveAfter (liveAfter live t) u :=
  List.foldl_append

/-- With `live` buffers at first, there are more than `floor` of them at each request that brings a key block. -/
def Sheltered (floor : Nat) : Nat → Trace → Prop
  | _, [] => True
  | live, .called request _ :: t => (request.keys ≠ [] → floor < live) ∧ Sheltered floor live t
  | live, .acquired :: t => Sheltered floor (live + 1) t
  | live, .released :: t => Sheltered floor (live - 1) t
  | live, .opened _ :: t | live, .logged _ :: t => Sheltered floor live t

theorem sheltered_append {floor live : Nat} {t u : Trace} :
    Sheltered floor live (t ++ u) ↔ Sheltered floor live t ∧ Sheltered floor (liveAfter live t) u := by
  induction t generalizing live with
  | nil => simp [Sheltered, liveAfter]
  | cons event t ih =>
    cases event with
    | called =>
      simp only [List.cons_append, Sheltered, ih, and_assoc]
      rfl
    | opened | logged | acquired | released => exact ih

/-- The trace leaves as many buffers as it found, and each of its requests that brings a key block finds one more. -/
structure Balanced (t : Trace) : Prop where
  live : ∀ live, liveAfter live t = live
  sheltered : ∀ live, Sheltered live live t

theorem Balanced.nil : Balanced [] where
  live _ := rfl
  sheltered _ := trivial

theorem Balanced.append {t u : Trace} (first : t.Balanced) (second : u.Balanced) : (t ++ u).Balanced where
  live live := by rw [liveAfter_append, first.live, second.live]
  sheltered live := by
    refine sheltered_append.2 ⟨first.sheltered live, ?_⟩
    rw [first.live]
    exact second.sheltered live

theorem Balanced.opened {t : Trace} (balanced : t.Balanced) (outcome : Except OpenFailure Unit) :
    Balanced (.opened outcome :: t) where
  live := balanced.live
  sheltered := balanced.sheltered

end Trace

/-! ## Operations -/

variable {σ α : Type} {d : Drive σ} {device : String} {base live : Nat}

namespace Procedure

variable {p q : Procedure α}

/-- For want of memory a procedure calls nobody, and gives back what it has. -/
theorem Exhausted.counts (exhausted : Exhausted base live p q) (s : σ) (memory : Memory) (n : Nat) :
    (p.run d s memory).trace.liveAfter (n + live) = n + base ∧ (p.run d s memory).trace.Sheltered n (n + live) := by
  induction exhausted with
  | done => exact ⟨rfl, trivial⟩
  | release _ ih => exact ih

theorem Exhausted.run_fails (exhausted : Exhausted base live p q) (s : σ) (memory : Memory) :
    (p.run d s memory).result = .error .outOfMemory ∧ (p.run d s memory).trace.requests = [] := by
  induction exhausted with
  | done => exact ⟨rfl, rfl⟩
  | release _ ih => exact ih

/-- A procedure that is in step with itself moves the count as its walk does, above however many buffers there are and
whichever it can have. -/
theorem InStep.counts (inStep : InStep base live p q) (self : p = q) (s : σ) (memory : Memory) (n : Nat) :
    (p.run d s memory).trace.liveAfter (n + live) = n + base ∧ (p.run d s memory).trace.Sheltered n (n + live) := by
  induction inStep generalizing s memory with
  | done => exact ⟨rfl, trivial⟩
  | @call live r _ next _ _ sheltered _ ih =>
    cases self
    -- Both sides are one procedure now, so what the drive answers is an answer to both.
    obtain ⟨counted, kept⟩ := ih _ _ (.refl (d.answer s r).1) rfl (d.answer s r).2 memory
    exact ⟨counted, fun keyed => Nat.lt_add_of_pos_right (sheltered keyed), kept⟩
  | log _ ih =>
    cases self
    exact ih rfl s memory
  | acquire _ refused ih =>
    cases self
    simp only [run]
    cases memory 0 with
    | true => exact ih rfl s memory.rest
    | false => exact refused.counts s memory.rest n
  | release _ ih =>
    cases self
    exact ih rfl s memory

/-- A procedure that cannot have a buffer makes no call from there on and fails. -/
theorem InStep.run_eq_or_exhausted (inStep : InStep base live p q) (self : p = q) (s : σ) (memory : Memory) :
    p.run d s memory = p.run d s ∨
      (p.run d s memory).result = .error .outOfMemory ∧
        (p.run d s memory).trace.requests <+: (p.run d s).trace.requests := by
  induction inStep generalizing s memory with
  | done => exact .inl rfl
  | @call live r _ next _ _ _ _ ih =>
    cases self
    rcases ih _ _ (.refl (d.answer s r).1) rfl (d.answer s r).2 memory with same | ⟨failed, asked⟩
    · exact .inl (congrArg (Run.after · _) same)
    · exact .inr ⟨failed, List.prefix_cons_inj r |>.2 asked⟩
  | log _ ih | release _ ih =>
    cases self
    exact (ih rfl s memory).imp_left (congrArg (Run.after · _))
  | acquire _ refused ih =>
    cases self
    rw [run_acquire]
    simp only [run]
    cases memory 0 with
    | true => exact (ih rfl s memory.rest).imp_left (congrArg (Run.after · _))
    | false =>
      obtain ⟨failed, silent⟩ := refused.run_fails (d := d) s memory.rest
      exact .inr ⟨failed, silent ▸ List.nil_prefix⟩

end Procedure

namespace Operation

/-- The three ways of an operation: its arguments are refused, the drive does not open, or it goes on from there. -/
theorem run_cases (op : Operation) (d : Drive σ) (device : String) (s : σ) :
    (∃ e, ∀ memory, (op.procedure device).run d s memory = ⟨.error e, s, []⟩) ∨
      (∃ e s₁ why, ∀ memory, (op.procedure device).run d s memory = ⟨.error e, s₁, [.opened (.error why)]⟩) ∨
        ∃ s₁, ∀ memory,
          (op.procedure device).run d s memory = ((op.opened device).run d s₁ memory).after (.opened (.ok ())) := by
  cases checked : op.check with
  | error e => exact .inl ⟨e, fun _ => run_of_refused checked⟩
  | ok =>
    rcases opened : d.opening s with ⟨outcome, s₁⟩
    cases outcome with
    | error why => exact .inr (.inl ⟨_, s₁, why, fun _ => run_of_closed checked opened⟩)
    | ok => exact .inr (.inr ⟨s₁, fun _ => run_of_open checked opened⟩)

theorem run_balanced (op : Operation) (s : σ) (memory : Memory) :
    ((op.procedure device).run d s memory).trace.Balanced := by
  rcases op.run_cases d device s with ⟨e, run_eq⟩ | ⟨e, s₁, why, run_eq⟩ | ⟨s₁, run_eq⟩
  · rw [run_eq]
    exact .nil
  · rw [run_eq]
    exact Trace.Balanced.nil.opened _
  · rw [run_eq]
    have balanced : ((op.opened device).run d s₁ memory).trace.Balanced := by
      constructor
      · intro live
        exact (op.inStep_self.counts rfl s₁ memory live).1
      · intro live
        exact (op.inStep_self.counts rfl s₁ memory live).2
    exact balanced.opened _

/-- Want of memory ends an operation, and changes nothing about it before. -/
theorem run_eq_or_outOfMemory (op : Operation) (s : σ) (memory : Memory) :
    (op.procedure device).run d s memory = (op.procedure device).run d s ∨
      ((op.procedure device).run d s memory).result = .error .outOfMemory ∧
        ((op.procedure device).run d s memory).trace.requests <+: ((op.procedure device).run d s).trace.requests := by
  rcases op.run_cases d device s with ⟨e, run_eq⟩ | ⟨e, s₁, why, run_eq⟩ | ⟨s₁, run_eq⟩
  · simp only [run_eq, true_or]
  · simp only [run_eq, true_or]
  · simp only [run_eq]
    exact (op.inStep_self.run_eq_or_exhausted rfl s₁ memory).imp_left (congrArg (Run.after · _))

end Operation

/-! ## Sequences -/

/-- Something to do with a drive, and the memory that there is for it. The drives of several jobs share the state `σ`. -/
inductive Job (σ : Type)
  | operate (d : Drive σ) (device : String) (op : Operation) (memory : Memory := .plentiful)
  | act (d : Drive σ) (device : String) (action : Action) (w : World) (memory : Memory := .plentiful)

/-- The state that a job leaves, and what happens meanwhile. -/
def Job.run (s : σ) : Job σ → σ × Trace
  | .operate d device op memory =>
    let run := (op.procedure device).run d s memory
    (run.drive, run.trace)
  | .act d device action w memory =>
    let run := action.run d s device w memory
    (run.drive, run.trace)

/-- What happens while jobs are done one after the other, whatever comes of each. -/
def runJobs (s : σ) : List (Job σ) → Trace
  | [] => []
  | job :: rest =>
    let (s', t) := job.run s
    t ++ runJobs s' rest

theorem Job.run_balanced (job : Job σ) (s : σ) : (job.run s).2.Balanced := by
  cases job with
  | operate d device op memory => exact op.run_balanced s memory
  | act d device action w memory =>
    unfold Job.run Action.run
    dsimp only
    split
    · exact .nil
    · exact Operation.run_balanced _ s memory

theorem runJobs_balanced (jobs : List (Job σ)) (s : σ) : (runJobs s jobs).Balanced := by
  induction jobs generalizing s with
  | nil => exact .nil
  | cons job rest ih => exact (job.run_balanced s).append (ih _)

/-- Buffers balance. However a drive answers, if it opens at all, and wherever memory runs out, there are as many buffers
when an operation returns as when it was entered, and so after any sequence of operations and commands; and whenever a
key block is submitted on the way, there is at least one more than at the start. A buffer that cannot be had ends the
operation; one that never misses a buffer does what it always does. -/
theorem buffers_balance (s : σ) (live : Nat) :
    (∀ (d : Drive σ) (device : String) (op : Operation) (memory : Memory),
      let run := (op.procedure device).run d s memory
      let run' := (op.procedure device).run d s
      run.trace.liveAfter live = live ∧
        (run = run' ∨ run.result = .error .outOfMemory ∧ run.trace.requests <+: run'.trace.requests)) ∧
    ∀ jobs : List (Job σ), (runJobs s jobs).liveAfter live = live ∧
      ∀ before request answer after, runJobs s jobs = before ++ .called request answer :: after → request.keys ≠ [] →
        live < Trace.liveAfter live before := by
  refine ⟨fun d device op memory => ?_, fun jobs => ?_⟩
  · exact ⟨(op.run_balanced s memory).live live, op.run_eq_or_outOfMemory s memory⟩
  have balanced := runJobs_balanced jobs s
  refine ⟨balanced.live live, ?_⟩
  intro before request answer after split keyed
  have sheltered := balanced.sheltered live
  -- What was counted up to the split is the number that the request finds.
  rw [split] at sheltered
  exact (Trace.sheltered_append.1 sheltered).2.1 keyed

/-- A factory reset, a lock that is refused, and a reset of a range on a drive that accepts the secure erase only and
with memory for one buffer: the first buffer is alive when the second is missed. The PSID is in a buffer when it is
submitted. -/
theorem buffers_balance_reset :
    let script : Script :=
      { answers := [(.getStatus, [{ status := .success, flags := some 7 }]), (.eraseRange, [{ status := .failure }])] }
    let reset := ((Operation.resetSegment 1 [1]).procedure "d").run Script.drive script (.room 1)
    let jobs : List (Job Script) := [
      .operate Script.drive "d" (.factoryReset [1, 2]),
      .operate Script.drive "d" (.lock 9),
      .operate Script.drive "d" (.resetSegment 1 [1]) (.room 1)]
    reset.result = .error .outOfMemory ∧ reset.trace.requests.length = 3 ∧ reset.trace.liveAfter 0 = 0 ∧
      (runJobs script jobs).liveAfter 0 = 0 ∧ 0 < Trace.liveAfter 0 [.opened (.ok ()), .acquired] := by
  intro script reset jobs
  obtain ⟨single, sequence⟩ := @buffers_balance Script script 0
  obtain ⟨given, -⟩ := single Script.drive "d" (.resetSegment 1 [1]) (.room 1)
  obtain ⟨balanced, sheltered⟩ := sequence jobs
  have split : ∃ rest, runJobs script jobs = [.opened (.ok ()), .acquired] ++
      .called (.psidRevert (.fill 0 [1, 2])) ⟨.success, ()⟩ :: rest := ⟨_, rfl⟩
  obtain ⟨rest, split⟩ := split
  have missed : reset.result = .error .outOfMemory ∧ reset.trace.requests.length = 3 := by
    subst reset script
    exact ⟨rfl, rfl⟩
  exact ⟨missed.1, missed.2, given, balanced, sheltered _ _ _ _ split nofun⟩

end OpalLocking
