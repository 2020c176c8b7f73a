/-
What a rejected call leaves behind.

A call is rejected by a queued status, by a drive without a control interface, or by one of the checks of the vault. All
of these leave the vault alone, since no call changes anything in front of a check of its own (`Vault.perform?_settles`).
What is left is one more remembered call and, if a queued status was the answer, one entry less in the queue.
`SimulatedDrive.rejected_run` carries this over to any number of calls in a row.
-/
import OpalLocking.Proofs.Simulator.Acceptance
import OpalLocking.Proofs.Simulator.TableAccesses

namespace OpalLocking

open Simulator

namespace Simulator

/-! ## Rejected queries -/

namespace Vault

variable {c : Config} {v v' : Vault}

/-- A query that the vault rejects fills nothing. -/
theorem reading_of_rejected {request : Request} {a : Answer request} (h : v.perform? c request = some (a, v'))
    (rejected : a.status.classify ≠ .success) : a.reading = request.submitted := by
  cases request with
  | getStatus | getGeometry =>
    cases h
    exact absurd rfl rejected
  | getRangeStatus session submitted =>
    obtain ⟨accepted, -⟩ | ⟨-, same⟩ := perform?_getRangeStatus_cases h
    · exact absurd accepted rejected
    · exact same
  | takeOwnership | activateLsp | setPassword | activateUser | setupRange | addUserToRange | eraseRange
  | secureEraseRange | psidRevert | lockUnlock | saveForResume => rfl

end Vault

/-! ## Taking from the queue -/

namespace Queue

/-- A queue behind a call of this kind that was answered so: it lost the oldest entry for the kind, which is the answer,
or nothing. -/
def Loses (q : Queue) (kind : CallKind) (status : Status) (left : Queue) : Prop :=
  left = q ∨ ∃ older newer, q = older ++ (kind, status) :: newer ∧ (∀ entry ∈ older, entry.1 ≠ kind) ∧
    left = older ++ newer

theorem loses_of_take? {kind : CallKind} {q left : Queue} {status : Status} (h : q.take? kind = some (status, left)) :
    q.Loses kind status left := by
  refine .inr ?_
  induction q generalizing left with
  | nil => cases h
  | cons entry rest ih =>
    obtain ⟨waiting, first⟩ := entry
    by_cases here : waiting = kind
    · subst here
      cases (if_pos rfl).symm.trans h
      exact ⟨[], rest, rfl, nofun, rfl⟩
    · obtain ⟨⟨taken, left⟩, inner, same⟩ := Option.map_eq_some_iff.1 ((if_neg here).symm.trans h)
      cases same
      obtain ⟨older, newer, rfl, others, rfl⟩ := ih inner
      exact ⟨(waiting, first) :: older, newer, rfl, List.forall_mem_cons.2 ⟨here, others⟩, rfl⟩

theorem Loses.sublist {kind : CallKind} {q left : Queue} {status : Status} (loses : q.Loses kind status left) :
    left.Sublist q := by
  obtain rfl | ⟨older, newer, rfl, -, rfl⟩ := loses
  · exact .refl _
  · exact (List.sublist_cons_self _ _).append_left _

theorem Loses.length_le {kind : CallKind} {q left : Queue} {status : Status} (loses : q.Loses kind status left) :
    q.length ≤ left.length + 1 := by
  obtain rfl | ⟨older, newer, rfl, -, rfl⟩ := loses
  · omega
  · simp only [List.length_append, List.length_cons]
    omega

end Queue

end Simulator

/-! ## Rejected calls -/

namespace SimulatedDrive

/-- A call that is not answered with a success is remembered, may have used up a queued status, and changes nothing else. -/
theorem answer_rejected {d : SimulatedDrive} {request : Request}
    (rejected : (d.answer request).1.status.classify ≠ .success) :
    ∃ left, (d.answer request).2 = { d with calls := d.calls ++ [CallRecord.ofRequest request], queue := left } ∧
      d.queue.Loses request.kind (d.answer request).1.status left ∧ (d.answer request).1.reading = request.submitted := by
  unfold answer at rejected ⊢
  dsimp only at rejected ⊢
  split at rejected
  · next status left taken => exact ⟨left, rfl, Queue.loses_of_take? taken, rfl⟩
  · split at rejected
    · next absent =>
      rw [if_pos absent]
      exact ⟨d.queue, rfl, .inl rfl, rfl⟩
    · next supported =>
      rw [if_neg supported]
      split at rejected
      · next a v performs =>
        have unchanged : v = d.vault := by
          obtain ⟨accepted, -⟩ | ⟨-, same⟩ := Vault.perform?_settles performs
          · exact absurd accepted rejected
          · exact same
        subst unchanged
        exact ⟨d.queue, rfl, .inl rfl, Vault.reading_of_rejected performs rejected⟩
      · exact ⟨d.queue, rfl, .inl rfl, rfl⟩

/-- Any number of rejected calls in a row are remembered, and each of them used up one queued status at the most. -/
theorem rejected_run {d d' : SimulatedDrive} {t : Trace} (path : drive.Path d t d')
    (rejected : ∀ x ∈ t.exchanges, ¬ x.Accepted) :
    ∃ left, d' = { d with calls := d.calls ++ t.requests.map CallRecord.ofRequest, queue := left } ∧
      left.Sublist d.queue ∧ d.queue.length ≤ left.length + t.exchanges.length ∧
      ∀ x ∈ t.exchanges, x.answer.reading = x.request.submitted := by
  rw [Trace.requests_eq]
  induction path with
  | @nil d => exact ⟨d.queue, by simp, .refl _, by simp, nofun⟩
  | opened _ ih | logged _ ih | acquired _ ih | released _ ih => exact ih rejected
  | @called d request t d' rest ih =>
    obtain ⟨here, later⟩ := List.forall_mem_cons.1 rejected
    obtain ⟨left₁, behind, loses, reading⟩ := answer_rejected here
    obtain ⟨left, last, fewer, most, readings⟩ := ih later
    rw [drive_answer, behind] at last fewer most
    refine ⟨left, ?_, fewer.trans loses.sublist, ?_, List.forall_mem_cons.2 ⟨reading, readings⟩⟩
    · simp [last]
    · have most : left₁.length ≤ left.length + t.exchanges.length := most
      have fewer := loses.length_le
      simp only [Trace.exchanges_called, List.length_cons]
      omega

/-- Whatever a call is, and whatever block comes with it, the vault has an outcome for it. If its answer is anything but
a success, then the drive is left as it was but for one more remembered call and the loss of one queued status at the
most, the oldest one for the kind of the call, and the reading is left as it was submitted. -/
theorem rejection_atomic (d : SimulatedDrive) (request : Request) :
    (d.vault.perform? d.config request).isSome ∧
      ((d.answer request).1.status.classify ≠ .success →
        ∃ left, (d.answer request).2 =
            { d with calls := d.calls ++ [CallRecord.ofRequest request], queue := left } ∧
          d.queue.Loses request.kind (d.answer request).1.status left ∧
          (d.answer request).1.reading = request.submitted) :=
  ⟨Vault.perform?_isSome _ _ _, answer_rejected⟩

/-- On a drive in use: an ownership that is queued to fail, and a query of a range that is not there, by its user. -/
theorem rejection_atomic_queued :
    let used := ((new "d").run (.setup ⟨1, 0, 8, [1], [2]⟩)).drive
    let d := { used with queue := [(.getStatus, .success), (.takeOwnership, .failure), (.takeOwnership, .success)] }
    let take := Request.takeOwnership (.fill 0 [2])
    let query := Request.getRangeStatus (.opening 2 200 [1]) { (default : RangeReading) with state := 7 }
    (d.answer take).2 = { d with
        calls := d.calls ++ [{ kind := .takeOwnership }], queue := [(.getStatus, .success), (.takeOwnership, .success)] } ∧
      (d.answer query).2 = { d with calls := d.calls ++ [{ kind := .getRangeStatus, who := 2, range := 200 }] } ∧
      (d.answer query).1.reading = { (default : RangeReading) with state := 7 } := by
  intro used d take query
  have failed : (d.answer take).1.status.classify ≠ .success := by decide +kernel
  have nowhere : (d.answer query).1.status.classify ≠ .success := by decide +kernel
  have shorter : (d.answer take).2.queue = [(.getStatus, .success), (.takeOwnership, .success)] := by decide +kernel
  have same : (d.answer query).2.queue = d.queue := by decide +kernel
  obtain ⟨left, taken, -⟩ := (rejection_atomic d take).2 failed
  obtain ⟨other, asked, -, reading⟩ := (rejection_atomic d query).2 nowhere
  rw [taken] at shorter ⊢
  rw [asked] at same ⊢
  obtain rfl : left = _ := shorter
  obtain rfl : other = _ := same
  exact ⟨rfl, rfl, reading⟩

end SimulatedDrive

end OpalLocking
