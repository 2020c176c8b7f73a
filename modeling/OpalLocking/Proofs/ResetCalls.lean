/-
What destroying data asks of a drive, and what comes of it.

Both operations are read off their courses (`ResetCourse`, `RevertCourse`), with the answers that the drive gives as it
is by then. Nothing is assumed of these answers, but that the feature word came with a success.
-/
import OpalLocking.Proofs.Replies
import OpalLocking.Script

namespace OpalLocking

variable {σ : Type} {d : Drive σ} {s s' : σ} {xs : List Exchange} {r : Except Error Unit}

/-! ## Resetting a segment -/

/-- Without locking, a reset ends behind the feature word. -/
theorem ResetCourse.calls_notEnabled {segment : UInt32} {password : Secret} (course : ResetCourse segment password xs r)
    (replies : d.Replies s xs s')
    (clear : StatusFlags.lockingEnabled (d.answer s (.getStatus default)).1.reading = false) :
    xs.map (·.request) = [.getStatus default] ∧ FailsAs r .invalid := by
  cases course with
  | unreadable _ fails | notEnabled _ _ fails =>
    cases replies
    exact ⟨rfl, fails⟩
  | erased reached | refused reached | disabled reached =>
    cases replies
    cases clear.symm.trans reached.2

/-- With locking, the secure erase stands in for a plain one that failed, and the range is disabled by a call of its own
behind that one only. The last call decides what comes of it. -/
theorem ResetCourse.calls_enabled {segment : UInt32} {password : Secret} (course : ResetCourse segment password xs r)
    (replies : d.Replies s xs s') (reported : (d.answer s (.getStatus default)).1.status.isSuccess)
    (set : StatusFlags.lockingEnabled (d.answer s (.getStatus default)).1.reading) :
    let session := adminSession segment.toUInt8 password
    let plain := d.answer (d.answer s (.getStatus default)).2 (.eraseRange session)
    let secure := d.answer plain.2 (.secureEraseRange session)
    let disable := d.answer secure.2 (.setupRange (disableRequest segment password))
    let wiped := plain.1.status.isSuccess ∨ secure.1.status.isSuccess ∧ disable.1.status.isSuccess
    xs.map (·.request) = .getStatus default :: .eraseRange session ::
        (if plain.1.status.isSuccess then []
        else .secureEraseRange session ::
          if secure.1.status.isSuccess then [.setupRange (disableRequest segment password)] else []) ∧
      (r = .ok () ↔ wiped) ∧
      (¬ wiped →
        FailsAs r (if secure.1.status.isSuccess then disable.1.status else secure.1.status).classify.stepKind) := by
  intro session plain secure disable wiped
  simp only [wiped, Status.isSuccess_iff] at reported ⊢
  cases course with
  | unreadable system =>
    cases replies
    cases reported.symm.trans system
  | notEnabled _ clear =>
    cases replies
    cases clear.symm.trans set
  | erased _ accepted =>
    cases replies with
    | cons replies =>
    cases replies
    exact ⟨by rw [if_pos accepted]; rfl, iff_of_true rfl (.inl accepted), fun missed => absurd (.inl accepted) missed⟩
  | refused _ failed refused fails =>
    cases replies with
    | cons replies =>
    cases replies with
    | cons replies =>
    cases replies
    refine ⟨?_, iff_of_false (not_ok_of_failsAs fails) ?_, fun _ => ?_⟩
    · rw [if_neg failed, if_neg refused]
      rfl
    · exact not_or.2 ⟨failed, not_and_of_not_left _ refused⟩
    · rw [if_neg refused]
      exact fails
  | disabled _ failed accepted last =>
    cases replies with
    | cons replies =>
    cases replies with
    | cons replies =>
    cases replies with
    | cons replies =>
    cases replies
    refine ⟨?_, ?_⟩
    · rw [if_neg failed, if_pos accepted]
      rfl
    · rw [if_pos accepted]
      obtain ⟨done, rfl⟩ | ⟨refused, fails⟩ := last
      · exact ⟨iff_of_true rfl (.inr ⟨accepted, done⟩), fun missed => absurd (.inr ⟨accepted, done⟩) missed⟩
      · refine ⟨iff_of_false (not_ok_of_failsAs fails) ?_, fun _ => fails⟩
        exact not_or.2 ⟨failed, not_and_of_not_right _ refused⟩

/-! ## Reverting a drive -/

/-- A revert is a single call, and its answer is the outcome. -/
theorem RevertCourse.calls {psid : Secret} (course : RevertCourse psid xs r) (replies : d.Replies s xs s') :
    let revert := d.answer s (.psidRevert (.fill 0 psid))
    xs.map (·.request) = [.psidRevert (.fill 0 psid)] ∧ (r = .ok () ↔ revert.1.status.isSuccess) ∧
      (¬ revert.1.status.isSuccess → FailsAs r revert.1.status.classify.entryKind) := by
  intro revert
  simp only [Status.isSuccess_iff]
  cases course with
  | reverted accepted =>
    cases replies
    exact ⟨rfl, iff_of_true rfl accepted, absurd accepted⟩
  | refused refused fails =>
    cases replies
    exact ⟨rfl, iff_of_false (not_ok_of_failsAs fails) refused, fun _ => fails⟩

/-! ## Both operations -/

/-- On a drive that opens and answers the feature word with a success, a reset with valid arguments makes no further call
if locking is not enabled. Otherwise it erases the range, tries the secure erase exactly if that failed, for whatever
reason, and sets the bounds and lock enables of the range to zero exactly if only the secure erase was granted. It
succeeds if the plain erase did, or else both calls behind it, and otherwise fails after the class of its last status. A
factory reset is a single revert, and comes to what the drive answers to it. -/
theorem destruction_calls (d : Drive σ) (device : String) {s s₁ : σ} (opens : d.opening s = (.ok (), s₁)) :
    (∀ segment password, (Operation.resetSegment segment password).check = .ok () →
      let run := ((Operation.resetSegment segment password).procedure device).run d s
      let session := adminSession segment.toUInt8 password
      let flags := d.answer s₁ (.getStatus default)
      let plain := d.answer flags.2 (.eraseRange session)
      let secure := d.answer plain.2 (.secureEraseRange session)
      let disable := d.answer secure.2 (.setupRange ⟨0, 0, 0, 0, session⟩)
      let wiped := plain.1.status.isSuccess ∨ secure.1.status.isSuccess ∧ disable.1.status.isSuccess
      let last := if secure.1.status.isSuccess then disable.1.status else secure.1.status
      flags.1.status.isSuccess →
        (StatusFlags.lockingEnabled flags.1.reading = false →
          run.trace.requests = [.getStatus default] ∧ FailsAs run.result .invalid) ∧
        (StatusFlags.lockingEnabled flags.1.reading = true →
          run.trace.requests = .getStatus default :: .eraseRange session ::
              (if plain.1.status.isSuccess then []
              else .secureEraseRange session ::
                if secure.1.status.isSuccess then [.setupRange ⟨0, 0, 0, 0, session⟩] else []) ∧
            (run.result = .ok .nothing ↔ wiped) ∧ (¬ wiped → FailsAs run.result last.classify.stepKind))) ∧
      ∀ psid, (Operation.factoryReset psid).check = .ok () →
        let run := ((Operation.factoryReset psid).procedure device).run d s
        let revert := d.answer s₁ (.psidRevert (.fill 0 psid))
        run.trace.requests = [.psidRevert (.fill 0 psid)] ∧
          (run.result = .ok .nothing ↔ revert.1.status.isSuccess) ∧
          (¬ revert.1.status.isSuccess → FailsAs run.result revert.1.status.classify.entryKind) := by
  refine ⟨?_, ?_⟩
  · intro segment password valid run session flags plain secure disable wiped last reported
    obtain ⟨ran, replies⟩ : _ ∧ d.Replies s₁ run.trace.exchanges run.drive := Operation.run_course valid opens
    rw [Trace.requests_eq]
    generalize run.trace.exchanges = xs at *
    generalize run.result = r at *
    cases ran with
    | resetSegment course =>
    rw [map_nothing_eq_ok]
    simp only [failsAs_map]
    exact ⟨course.calls_notEnabled replies, course.calls_enabled replies reported⟩
  · intro psid valid run revert
    obtain ⟨ran, replies⟩ : _ ∧ d.Replies s₁ run.trace.exchanges run.drive := Operation.run_course valid opens
    rw [Trace.requests_eq]
    generalize run.trace.exchanges = xs at *
    generalize run.result = r at *
    cases ran with
    | factoryReset course =>
    rw [map_nothing_eq_ok, failsAs_map]
    exact course.calls replies

/-- Only the secure erase is granted, and the drive does not let Admin1 disable the range: that decides. -/
theorem destruction_calls_undisabled :
    let s : Script := { answers := [(.getStatus, [{ status := .success, flags := some 0x07 }]),
      (.eraseRange, [{ status := .failure }]), (.setupRange, [{ status := .notAuthorized }]),
      (.psidRevert, [{ status := .ofErrno .notTypewriter }])] }
    let reset := ((Operation.resetSegment 3 [1]).procedure "d").run Script.drive s
    let revert := ((Operation.factoryReset [2]).procedure "d").run Script.drive s
    reset.trace.requests = [.getStatus default, .eraseRange (adminSession 3 [1]),
        .secureEraseRange (adminSession 3 [1]), .setupRange ⟨0, 0, 0, 0, adminSession 3 [1]⟩] ∧
      FailsAs reset.result .unauthorized ∧ FailsAs revert.result .unsupported := by
  intro s reset revert
  obtain ⟨resets, reverts⟩ := destruction_calls Script.drive "d" (s := s) rfl
  obtain ⟨-, enabled⟩ := resets 3 [1] rfl (by decide)
  obtain ⟨requests, -, fails⟩ := enabled (by decide)
  obtain ⟨-, -, unsupported⟩ := reverts [2] rfl
  exact ⟨requests, fails (by decide), unsupported (by decide)⟩

end OpalLocking
