/-
Queued statuses as waiting lines, one for each kind of call.

A drive keeps all queued statuses in one list, in the order in which they came, and a call takes the first one of its own
kind out of it (`SimulatedDrive.answer_takes`). Seen by one kind this is a line of its own: statuses join it at the end,
calls are served from its front, and nothing that concerns another kind makes a difference (`undergo_statuses`). So over
any course of events nothing is lost, and nobody is served out of turn (`handed_append_statuses`).
-/
import OpalLocking.Simulator.Setting
import OpalLocking.Proofs.Simulator.Rejections

namespace OpalLocking

namespace Simulator

/-- Something that is done to a drive: a status is queued for calls of a kind, or a call is made. -/
inductive Occurrence
  | inject (kind : CallKind) (status : Status)
  | call (request : Request)

/-- What happens to a line: a status joins it, or a call comes to its front. -/
inductive LineEvent
  | joined (status : Status)
  | called
deriving DecidableEq

/-- First come, first served. A call that finds nobody waiting leaves the line empty. -/
def LineEvent.next (line : List Status) : LineEvent → List Status
  | .joined status => line ++ [status]
  | .called => line.tail

namespace Occurrence

/-- What an occurrence is to the line of one kind, if it concerns that kind. -/
def at? (kind : CallKind) : Occurrence → Option LineEvent
  | .inject waiting status => if waiting = kind then some (.joined status) else none
  | .call request => if request.kind = kind then some .called else none

/-- The status that joins the line of one kind. -/
def joining? (kind : CallKind) : Occurrence → Option Status
  | .inject waiting status => if waiting = kind then some status else none
  | .call _ => none

def request? : Occurrence → Option Request
  | .inject _ _ => none
  | .call request => some request

end Occurrence

end Simulator

namespace SimulatedDrive

open Simulator

variable {d : SimulatedDrive} {kind : CallKind}

/-! ## One call -/

/-- A call as it should be answered, with the drive that is left. It is remembered in any case. The oldest status queued
for its kind is its answer and leaves the queue, and all else stays as it is; if there is none, a drive without a control
interface refuses the call and stays as it is, and any other drive performs it. -/
inductive Takes (d : SimulatedDrive) (request : Request) : Answer request → SimulatedDrive → Prop
  | queued {older newer : Queue} {status : Status} (queue : d.queue = older ++ (request.kind, status) :: newer)
      (oldest : ∀ entry ∈ older, entry.1 ≠ request.kind) :
      Takes d request ⟨status, request.submitted⟩
        { d with calls := d.calls ++ [CallRecord.ofRequest request], queue := older ++ newer }
  | unsupported (unqueued : d.queue.statuses request.kind = []) (absent : d.config.supported = false) :
      Takes d request ⟨.ofErrno .notTypewriter, request.submitted⟩
        { d with calls := d.calls ++ [CallRecord.ofRequest request] }
  | performed {answer : Answer request} {vault : Vault} (unqueued : d.queue.statuses request.kind = [])
      (supported : d.config.supported = true) (performs : d.vault.perform? d.config request = some (answer, vault)) :
      Takes d request answer { d with calls := d.calls ++ [CallRecord.ofRequest request], vault }

theorem answer_takes (d : SimulatedDrive) (request : Request) :
    d.Takes request (d.answer request).1 (d.answer request).2 := by
  unfold answer
  dsimp only
  split
  · next status left taken =>
    obtain rfl | ⟨older, newer, queue, oldest, rfl⟩ := Queue.loses_of_take? taken
    · -- The queue cannot be left as it was, since it is one shorter for this kind.
      have shorter := congrArg List.length (Queue.statuses_of_take? taken).1
      simp at shorter
    · exact .queued queue oldest
  · next unqueued =>
    have unqueued := Queue.take?_eq_none_iff.1 unqueued
    split
    · next absent => exact .unsupported unqueued (by simpa using absent)
    · next supported =>
      obtain ⟨⟨answer, vault⟩, performs⟩ := Option.isSome_iff_exists.1 (Vault.perform?_isSome d.config d.vault request)
      rw [performs]
      exact .performed unqueued (by simpa using supported) performs

/-- What waits at the front of a line is the answer. -/
theorem status_of_waiting {request : Request} {status : Status} {line : List Status}
    (waiting : d.queue.statuses request.kind = status :: line) : (d.answer request).1.status = status := by
  unfold answer
  dsimp only
  split
  · next taken =>
    have front := (Queue.statuses_of_take? taken).1
    rw [waiting] at front
    exact (List.cons.inj front).1.symm
  · next unqueued =>
    rw [Queue.take?_eq_none_iff.1 unqueued] at waiting
    cases waiting

/-! ## Any number of calls -/

/-- The drive behind a course of events. -/
def undergo (d : SimulatedDrive) : List Occurrence → SimulatedDrive
  | [] => d
  | .inject kind status :: rest => (d.inject kind status).undergo rest
  | .call request :: rest => (d.answer request).2.undergo rest

/-- The answers to those calls of one kind that found something waiting for them. -/
def handed (d : SimulatedDrive) (kind : CallKind) : List Occurrence → List Status
  | [] => []
  | .inject waiting status :: rest => (d.inject waiting status).handed kind rest
  | .call request :: rest =>
    let later := (d.answer request).2.handed kind rest
    if request.kind = kind ∧ d.queue.statuses kind ≠ [] then (d.answer request).1.status :: later else later

theorem undergo_calls (d : SimulatedDrive) (course : List Occurrence) :
    (d.undergo course).calls = d.calls ++ (course.filterMap (·.request?)).map CallRecord.ofRequest := by
  induction course generalizing d with
  | nil => exact (List.append_nil _).symm
  | cons occurrence rest ih =>
    cases occurrence with
    | inject => exact ih _
    | call request =>
      refine (ih (d.answer request).2).trans ?_
      rw [(d.answer_answered request).calls, List.append_assoc]
      rfl

/-- The line of a kind goes through what concerns this kind, and through nothing else. -/
theorem undergo_statuses (d : SimulatedDrive) (kind : CallKind) (course : List Occurrence) :
    (d.undergo course).queue.statuses kind =
      (course.filterMap (·.at? kind)).foldl LineEvent.next (d.queue.statuses kind) := by
  induction course generalizing d with
  | nil => rfl
  | cons occurrence rest ih =>
    cases occurrence with
    | inject waiting status =>
      refine (ih (d.inject waiting status)).trans ?_
      rw [show (d.inject waiting status).queue = d.queue.push waiting status from rfl, Queue.statuses_push]
      by_cases here : waiting = kind <;> simp [Occurrence.at?, here, LineEvent.next]
    | call request =>
      refine (ih (d.answer request).2).trans ?_
      rw [(d.answer_answered request).statuses]
      by_cases here : request.kind = kind
      · simp [Occurrence.at?, here, LineEvent.next]
      · simp [Occurrence.at?, here, Ne.symm here]

/-- Whatever was waiting or came to wait for a kind was handed to a call of that kind, or is waiting still, and all of
it in the order in which it came. -/
theorem handed_append_statuses (d : SimulatedDrive) (kind : CallKind) (course : List Occurrence) :
    d.handed kind course ++ (d.undergo course).queue.statuses kind =
      d.queue.statuses kind ++ course.filterMap (·.joining? kind) := by
  induction course generalizing d with
  | nil => exact (List.append_nil _).symm
  | cons occurrence rest ih =>
    cases occurrence with
    | inject waiting status =>
      refine (ih (d.inject waiting status)).trans ?_
      rw [show (d.inject waiting status).queue = d.queue.push waiting status from rfl, Queue.statuses_push]
      by_cases here : waiting = kind <;> simp [Occurrence.joining?, here]
    | call request =>
      have later := ih (d.answer request).2
      rw [(d.answer_answered request).statuses] at later
      simp only [handed, undergo]
      by_cases here : request.kind = kind
      · subst here
        cases waiting : d.queue.statuses request.kind with
        | nil => simpa [waiting, Occurrence.joining?] using later
        | cons status line =>
          simpa [waiting, status_of_waiting waiting, Occurrence.joining?] using later
      · simpa [here, Ne.symm here, Occurrence.joining?] using later

/-- Queued statuses are handed out first come, first served, to each kind of call for itself. Behind any course of queued
statuses and calls, each call is remembered and takes the oldest status for its kind or, if there is none, is refused with
the error of a drive without a control interface or else performed. The line of each kind is what its own events make of
it, the first calls to find something waiting were handed the first statuses that came, and the next one to do so is
handed the next. -/
theorem queued_statuses_fifo (d : SimulatedDrive) (course : List Occurrence) :
    let behind := d.undergo course
    behind.calls = d.calls ++ (course.filterMap (·.request?)).map CallRecord.ofRequest ∧
      (∀ request, behind.Takes request (behind.answer request).1 (behind.answer request).2) ∧
      (Status.ofErrno .notTypewriter).raw = -25 ∧
      ∀ kind,
        let line := behind.queue.statuses kind
        let queued := d.queue.statuses kind ++ course.filterMap (·.joining? kind)
        let handed := d.handed kind course
        line = (course.filterMap (·.at? kind)).foldl LineEvent.next (d.queue.statuses kind) ∧
          queued = handed ++ line ∧ handed = queued.take handed.length ∧ line.head? = queued[handed.length]? := by
  intro behind
  refine ⟨d.undergo_calls course, behind.answer_takes, by decide, fun kind => ?_⟩
  intro line queued handed
  have conserved : queued = handed ++ line := (d.handed_append_statuses kind course).symm
  refine ⟨d.undergo_statuses kind course, conserved, ?_, ?_⟩
  · rw [conserved, List.take_left]
  · rw [conserved, List.getElem?_append_right (Nat.le_refl _), Nat.sub_self, List.head?_eq_getElem?]

/-- Statuses for two kinds, a success among them, and the calls that they wait for in another order. -/
example :
    let take := Occurrence.call (.takeOwnership (.fill 0 [1]))
    let query := Occurrence.call (.getStatus default)
    let course := [.inject .getStatus .failure, .inject .takeOwnership .success, take, take, .inject .getStatus .success,
      query, query, query]
    (new "d").handed .getStatus course = [.failure, .success] ∧ (new "d").handed .takeOwnership course = [.success] ∧
      ((new "d").undergo course).vault = { owner := some [1] } := by
  decide +kernel

end SimulatedDrive

end OpalLocking
