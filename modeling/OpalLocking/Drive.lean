/-
Running a procedure against a drive, and the trace that a run leaves.

A drive is any state machine that opens and answers requests: a simulated one, a script, a device node without
locking support. The memory of a run says which of the buffers that it asks for can be had; unless it is named, they
all can. The trace has one event for each thing that happened, in order; what an observer sees (the requests, the log,
the buffers) is a view of the trace.
-/
import OpalLocking.Procedure

namespace OpalLocking

/-- How a drive in state `σ` opens and answers. -/
structure Drive (σ : Type) where
  opening : σ → Except OpenFailure Unit × σ
  answer : σ → (r : Request) → Answer r × σ

/-- One thing that happened in a run. -/
inductive Event
  | opened (outcome : Except OpenFailure Unit)
  | called (request : Request) (answer : Answer request)
  | logged (record : Record)
  | acquired
  | released

abbrev Trace := List Event

namespace Trace

def requests (t : Trace) : List Request :=
  t.filterMap fun
    | .called request _ => some request
    | _ => none

def records (t : Trace) : List Record :=
  t.filterMap fun
    | .logged record => some record
    | _ => none

/-- How often the drive was opened, or asked to. -/
def openings (t : Trace) : Nat :=
  (t.filter fun
    | .opened _ => true
    | _ => false).length

/-- The number of buffers alive after the trace, `live` being the number before it. -/
def liveAfter (live : Nat) (t : Trace) : Nat :=
  t.foldl (fun live event =>
    match event with
    | .acquired => live + 1
    | .released => live - 1
    | _ => live) live

end Trace

/-- A finished run: its result, the drive as it was left, and what happened. -/
structure Run (σ α : Type) where
  result : Except Error α
  drive : σ
  trace : Trace

namespace Run

variable {σ α : Type}

/-- A run with one more event before it. -/
def after (r : Run σ α) (event : Event) : Run σ α :=
  { r with trace := event :: r.trace }

end Run

/-- Which of the buffers that a run asks for can be had, from the first one on. -/
def Memory := Nat → Bool

namespace Memory

/-- Memory for every buffer. -/
def plentiful : Memory := fun _ => true

/-- What is left of the memory after the first buffer was asked for. -/
def rest (memory : Memory) : Memory := fun n => memory (n + 1)

/-- Memory that has room for so many buffers and then for no more. -/
def room (buffers : Nat) : Memory := (· < buffers)

end Memory

/-- Runs a procedure to its end against a drive in state `s`. A buffer that cannot be had leaves nothing in
the trace. -/
def Procedure.run {σ α : Type} (d : Drive σ) : Procedure α → σ → (memory : Memory := .plentiful) → Run σ α
  | .done result, s, _ => ⟨result, s, []⟩
  | .openDrive next, s, memory =>
    let (outcome, s') := d.opening s
    ((next outcome).run d s' memory).after (.opened outcome)
  | .call request next, s, memory =>
    let (answer, s') := d.answer s request
    ((next answer).run d s' memory).after (.called request answer)
  | .log record next, s, memory => (next.run d s memory).after (.logged record)
  | .acquire next, s, memory =>
    match memory 0 with
    | true => ((next true).run d s memory.rest).after .acquired
    | false => (next false).run d s memory.rest
  | .release next, s, memory => (next.run d s memory).after .released

@[simp] theorem Procedure.run_acquire {σ α : Type} (d : Drive σ) (next : Bool → Procedure α) (s : σ) :
    (Procedure.acquire next).run d s = ((next true).run d s).after .acquired := rfl

end OpalLocking
