/-
What locking and unlocking ask of a drive, and what comes of it.

The calls and the result are read off the course (`LockCourse`) with the answers that the drive gives as it is by then.
The request to keep the key of an unlock comes last and never decides anything: two runs that differ in nothing but its
answer have one result, and their traces differ in that answer and in the record that tells of it.
-/
import OpalLocking.Proofs.Replies
import OpalLocking.Script
import Mathlib.Data.Nat.Bitwise

namespace OpalLocking

open Procedure (yields_bind yields_attempt yields_withBuffer yields_pure yields_record yields_submit_bind
  yields_bind_pure)

variable {σ : Type} {d : Drive σ} {s s₁ s' : σ} {device : String} {segment : UInt32} {locked : Bool}
  {key : Option Secret} {xs : List Exchange} {r : Except Error Unit}

/-- Either of the two bits, for the feature or for its locking, counts as support. -/
theorem StatusFlags.supported_iff {f : StatusFlags} : f.supported ↔ f.has 0x01 ∨ f.has 0x02 := by
  have low : f.word.toNat &&& 3 = f.word.toNat % 4 := Nat.and_two_pow_sub_one_eq_mod _ 2
  have second : f.word.toNat &&& 2 = (f.word.toNat.testBit 1).toNat * 2 := Nat.and_two_pow _ 1
  have supports : f.supported ↔ f.word.toNat % 4 ≠ 0 := by simp [supported, ← UInt32.toNat_inj, low]
  have feature : f.has 0x01 ↔ f.word.toNat % 2 = 1 := by simp [has, ← UInt32.toNat_inj]
  have locking : f.has 0x02 ↔ f.word.toNat / 2 % 2 = 1 := by
    simp [has, ← UInt32.toNat_inj, second, Nat.testBit_eq_decide_div_mod_eq]
  rw [supports, feature, locking]
  omega

/-! ## Calls and results -/

/-- The calls of a lock operation, with their answers. -/
theorem LockCourse.exchanges_eq (course : LockCourse segment locked key xs r) (replies : d.Replies s xs s')
    (reported : (d.answer s (.getStatus default)).1.status.isSuccess) :
    let request := lockOperationRequest segment locked key
    let flags := d.answer s (.getStatus default)
    let asked := d.answer flags.2 (.lockUnlock request)
    let kept := d.answer asked.2 (.saveForResume request.keeping)
    (StatusFlags.supported flags.1.reading = false ∧ xs = [⟨_, flags.1⟩] ∧ FailsAs r .unsupported) ∨
      (StatusFlags.supported flags.1.reading ∧ xs = ⟨_, flags.1⟩ :: ⟨_, asked.1⟩ ::
          (if locked = false ∧ asked.1.status.isSuccess then [⟨_, kept.1⟩] else []) ∧
        (r = .ok () ↔ asked.1.status.isSuccess) ∧
        (¬ asked.1.status.isSuccess → FailsAs r asked.1.status.classify.entryKind)) := by
  intro request flags asked kept
  simp only [Status.isSuccess_iff] at reported ⊢
  cases course with
  | unsupported why fails =>
    cases replies
    refine .inl ⟨why.resolve_left fun system => ?_, rfl, fails⟩
    cases reported.symm.trans system
  | refused reached refused fails =>
    cases replies with
    | cons replies =>
    cases replies
    refine .inr ⟨reached.2, ?_, iff_of_false (not_ok_of_failsAs fails) refused, fun _ => fails⟩
    rw [if_neg fun both => refused both.2]
  | locked reached direction accepted =>
    cases replies with
    | cons replies =>
    cases replies
    refine .inr ⟨reached.2, ?_, iff_of_true rfl accepted, absurd accepted⟩
    rw [if_neg (by simp [direction])]
  | unlocked _ reached direction accepted =>
    cases replies with
    | cons replies =>
    cases replies with
    | cons replies =>
    cases replies
    refine .inr ⟨reached.2, ?_, iff_of_true rfl accepted, absurd accepted⟩
    rw [if_pos ⟨direction, accepted⟩]

/-! ## Keeping the key -/

/-- What the log is told of the request to keep a key. -/
def keepingRecord (device : String) (segment : UInt32) (status : Status) : Record :=
  if status.isSuccess then
    ⟨.debug, .locking, s!"OPAL range {segment.toNat} key saved for resume and locking"⟩
  else
    ⟨.warn, .locking,
      s!"Failed to prepare OPAL device '{device}' for sleep resume, be aware before suspending: {status.text}"⟩

/-- What the log is told at the end of an unlock. -/
def unlockedRecord (device : String) (segment : UInt32) : Record :=
  let verb := "unlocked"
  ⟨.info, .locking, s!"OPAL locking range {segment.toNat} on '{device}' {verb}"⟩

theorem saveForResume_keeps {request : LockRequest} (kept : Answer (.saveForResume request.keeping)) :
    (saveForResume device segment request).Yields
      [.called _ kept, .logged (keepingRecord device segment kept.status)] (.ok ()) := by
  refine yields_submit_bind.2 ⟨kept, _, rfl, ?_⟩
  unfold keepingRecord
  split
  · exact yields_record.2 ⟨rfl, rfl⟩
  · exact yields_record.2 ⟨rfl, rfl⟩

theorem probeSupport_supports {a : Answer (.getStatus default)} (reached : a.status.classify ≠ .system)
    (supported : StatusFlags.supported a.reading) : (probeSupport device).Yields [.called _ a] (.ok true) := by
  have queried : (queryFlags device).Yields [.called _ a] (.ok a.reading) := by
    refine yields_submit_bind.2 ⟨a, [], rfl, ?_⟩
    rw [if_neg reached]
    exact yields_pure.2 ⟨rfl, rfl⟩
  have probed := yields_attempt.2 ⟨_, rfl, queried⟩
  exact yields_bind.2 (.inl ⟨_, [], _, rfl, probed, yields_pure.2 ⟨rfl, congrArg _ supported.symm⟩⟩)

theorem expectEntry_of_success {step : Step} {status : Status} (accepted : status.classify = .success) :
    expectEntry step device status = pure () := by
  simp [expectEntry, expect, accepted]

/-- Everything that happens in an unlock that the drive grants, whatever it answers at the end. -/
theorem setLockOpened_unlocks (device : String) {a : Answer (.getStatus default)}
    {l : Answer (.lockUnlock (lockOperationRequest segment false key))} (reached : a.status.classify ≠ .system)
    (supported : StatusFlags.supported a.reading) (accepted : l.status.classify = .success)
    (kept : Answer (.saveForResume (lockOperationRequest segment false key).keeping)) :
    (setLockOpened device segment false key).Yields
      [.called _ a, .acquired, .called _ l, .called _ kept, .logged (keepingRecord device segment kept.status),
        .logged (unlockedRecord device segment), .released]
      (.ok ()) := by
  refine yields_bind.2 (.inl ⟨[.called _ a], _, _, rfl, probeSupport_supports reached supported, ?_⟩)
  refine yields_withBuffer.2 ⟨[_, _, _, _], rfl, yields_submit_bind.2 ⟨l, _, rfl, ?_⟩⟩
  rw [expectEntry_of_success accepted, pure_bind]
  refine yields_bind.2 (.inl ⟨_, [_], (), rfl, saveForResume_keeps kept, ?_⟩)
  exact yields_record.2 ⟨rfl, rfl⟩

/-! ## Runs -/

/-- The course of a lock operation, seen from its run. -/
theorem setLock_run (device : String) (valid : (Operation.setLock segment locked key).check = .ok ())
    (opens : d.opening s = (.ok (), s₁)) (reported : (d.answer s₁ (.getStatus default)).1.status.isSuccess) :
    let run := ((Operation.setLock segment locked key).procedure device).run d s
    let request := lockOperationRequest segment locked key
    let flags := d.answer s₁ (.getStatus default)
    let asked := d.answer flags.2 (.lockUnlock request)
    let kept := d.answer asked.2 (.saveForResume request.keeping)
    (StatusFlags.supported flags.1.reading = false ∧ run.trace.exchanges = [⟨_, flags.1⟩] ∧
        FailsAs run.result .unsupported) ∨
      (StatusFlags.supported flags.1.reading ∧ run.trace.exchanges = ⟨_, flags.1⟩ :: ⟨_, asked.1⟩ ::
          (if locked = false ∧ asked.1.status.isSuccess then [⟨_, kept.1⟩] else []) ∧
        (run.result = .ok .nothing ↔ asked.1.status.isSuccess) ∧
        (¬ asked.1.status.isSuccess → FailsAs run.result asked.1.status.classify.entryKind)) := by
  intro run
  obtain ⟨ran, replies⟩ : _ ∧ d.Replies s₁ run.trace.exchanges run.drive := Operation.run_course valid opens
  generalize run.trace.exchanges = xs at *
  generalize run.result = r at *
  cases ran with
  | setLock course =>
  simp only [map_nothing_eq_ok, failsAs_map]
  exact course.exchanges_eq replies reported

/-- The trace of an unlock that is granted, with the answer about its key in it. -/
theorem setLock_run_kept (device : String) (valid : (Operation.setLock segment false key).check = .ok ())
    (opens : d.opening s = (.ok (), s₁)) (reported : (d.answer s₁ (.getStatus default)).1.status.isSuccess) :
    let request := lockOperationRequest segment false key
    let flags := d.answer s₁ (.getStatus default)
    let asked := d.answer flags.2 (.lockUnlock request)
    let kept := d.answer asked.2 (.saveForResume request.keeping)
    StatusFlags.supported flags.1.reading → asked.1.status.isSuccess →
      let run := ((Operation.setLock segment false key).procedure device).run d s
      run.result = .ok .nothing ∧ run.trace =
        [.opened (.ok ()), .called _ flags.1, .acquired, .called _ asked.1, .called _ kept.1,
          .logged (keepingRecord device segment kept.1.status), .logged (unlockedRecord device segment), .released] := by
  intro request flags asked kept supported accepted run
  have calls : run.trace.exchanges = [⟨_, flags.1⟩, ⟨_, asked.1⟩, ⟨_, kept.1⟩] := by
    obtain ⟨unsupported, -⟩ | ⟨-, calls, -⟩ := setLock_run device valid opens reported
    · cases unsupported.symm.trans supported
    · rwa [if_pos ⟨rfl, accepted⟩] at calls
  have reached : flags.1.status.classify ≠ .system := by
    rw [Status.isSuccess_iff.1 reported]
    decide
  have granted := setLockOpened_unlocks device reached supported (Status.isSuccess_iff.1 accepted) kept.1
  have yields : ((Operation.setLock segment false key).opened device).Yields _ (.ok .nothing) :=
    yields_bind_pure.2 ⟨_, granted, rfl⟩
  have opened : run = _ := Operation.run_of_open valid opens
  rw [opened] at calls ⊢
  simp only [Run.after, Trace.exchanges_opened] at calls ⊢
  -- The answers say which run it is, and all that happens in this one is known.
  obtain ⟨trace, result⟩ :=
    (Procedure.run_yields d _ s₁).unique yields ((Operation.inStep_self _).openings rfl s₁) rfl calls
  exact ⟨result, congrArg (Event.opened (.ok ()) :: ·) trace⟩

/-- Where the kernel is not asked to keep a key, the first two answers alone decide what a lock operation does. -/
theorem setLock_run_alike (device : String) {τ : Type} {d' : Drive τ} {u u₁ : τ}
    (valid : (Operation.setLock segment locked key).check = .ok ()) (opens : d.opening s = (.ok (), s₁))
    (opens' : d'.opening u = (.ok (), u₁)) (reported : (d.answer s₁ (.getStatus default)).1.status.isSuccess) :
    let request := lockOperationRequest segment locked key
    let flags := d.answer s₁ (.getStatus default)
    let asked := d.answer flags.2 (.lockUnlock request)
    let flags' := d'.answer u₁ (.getStatus default)
    let asked' := d'.answer flags'.2 (.lockUnlock request)
    flags'.1 = flags.1 → asked'.1 = asked.1 →
      ¬ (StatusFlags.supported flags.1.reading ∧ locked = false ∧ asked.1.status.isSuccess) →
        let run := ((Operation.setLock segment locked key).procedure device).run d s
        let run' := ((Operation.setLock segment locked key).procedure device).run d' u
        run'.trace = run.trace ∧ run'.result = run.result := by
  intro request flags asked flags' asked' sameFlags sameAsked unkept run run'
  refine Operation.run_unique valid opens' opens ?_
  have reported' : flags'.1.status.isSuccess := by rwa [sameFlags]
  have support : StatusFlags.supported flags'.1.reading = StatusFlags.supported flags.1.reading := by rw [sameFlags]
  obtain ⟨none, calls, -⟩ | ⟨some, calls, -⟩ := setLock_run device valid opens reported
  · obtain ⟨-, calls', -⟩ | ⟨some', -⟩ := setLock_run device valid opens' reported'
    · rw [calls, calls']
      exact congrArg (fun first => [Exchange.mk _ first]) sameFlags
    · cases none.symm.trans (support.symm.trans some')
  · obtain ⟨none', -⟩ | ⟨-, calls', -⟩ := setLock_run device valid opens' reported'
    · cases none'.symm.trans (support.trans some)
    · have unsaved : ¬ (locked = false ∧ asked.1.status.isSuccess) := fun saves => unkept ⟨some, saves⟩
      have unsaved' : ¬ (locked = false ∧ asked'.1.status.isSuccess) := by rwa [sameAsked]
      rw [calls, calls', if_neg unsaved, if_neg unsaved']
      exact congrArg₂ (fun first second => [Exchange.mk _ first, Exchange.mk _ second]) sameFlags sameAsked

/-- With valid arguments, on a drive that opens and answers the feature word with a success, a lock operation asks for
nothing else if neither bit for support is set. Otherwise it makes one request as the user of the segment, and behind an
unlock that was granted one more, for the same block with other flags. The first request decides the result. What is
answered to the second one is told to the log, and nothing else depends on it, on whatever drive. -/
theorem locking_calls (d : Drive σ) (device : String) {s s₁ : σ} {segment : UInt32} {locked : Bool}
    {key : Option Secret} (valid : (Operation.setLock segment locked key).check = .ok ())
    (opens : d.opening s = (.ok (), s₁)) (reported : (d.answer s₁ (.getStatus default)).1.status.isSuccess) :
    let run := ((Operation.setLock segment locked key).procedure device).run d s
    let request := lockOperationRequest segment locked key
    let keeping := { request with flags := saveForLock }
    let flags := d.answer s₁ (.getStatus default)
    let asked := d.answer flags.2 (.lockUnlock request)
    let kept := d.answer asked.2 (.saveForResume keeping)
    let supported := StatusFlags.has flags.1.reading 0x01 ∨ StatusFlags.has flags.1.reading 0x02
    let saves := locked = false ∧ asked.1.status.isSuccess
    let told : Answer (.saveForResume keeping) → Trace := fun answer =>
      if supported ∧ saves then [.called _ answer, .logged (keepingRecord device segment answer.status)] else []
    request.session.who = segment + 1 ∧ request.state = (if locked then LockState.locked else .readWrite).word ∧
      (¬ supported → run.trace.requests = [.getStatus default] ∧ FailsAs run.result .unsupported) ∧
      (supported →
        run.trace.requests =
            .getStatus default :: .lockUnlock request :: (if saves then [.saveForResume keeping] else []) ∧
          (run.result = .ok .nothing ↔ asked.1.status.isSuccess) ∧
          (¬ asked.1.status.isSuccess → FailsAs run.result asked.1.status.classify.entryKind)) ∧
      ∀ (τ : Type) (d' : Drive τ) (u u₁ : τ), d'.opening u = (.ok (), u₁) →
        let run' := ((Operation.setLock segment locked key).procedure device).run d' u
        let flags' := d'.answer u₁ (.getStatus default)
        let asked' := d'.answer flags'.2 (.lockUnlock request)
        let kept' := d'.answer asked'.2 (.saveForResume keeping)
        flags'.1 = flags.1 → asked'.1 = asked.1 → run'.result = run.result ∧
          ∃ before after, run.trace = before ++ told kept.1 ++ after ∧ run'.trace = before ++ told kept'.1 ++ after := by
  intro run request keeping flags asked kept supported saves told
  have ran := setLock_run device valid opens reported
  have support : supported ↔ StatusFlags.supported flags.1.reading := StatusFlags.supported_iff.symm
  refine ⟨rfl, ?_, ?_, ?_, ?_⟩
  · cases locked <;> rfl
  · intro unsupported
    obtain ⟨-, calls, fails⟩ | ⟨some, -⟩ := ran
    · rw [Trace.requests_eq, calls]
      exact ⟨rfl, fails⟩
    · exact absurd (support.2 some) unsupported
  · intro some
    obtain ⟨none, -⟩ | ⟨-, calls, result, fails⟩ := ran
    · cases none.symm.trans (support.1 some)
    · refine ⟨?_, result, fails⟩
      rw [Trace.requests_eq, calls]
      split <;> rfl
  · intro τ d' u u₁ opens' run' flags' asked' kept' sameFlags sameAsked
    by_cases saving : supported ∧ saves
    · obtain ⟨some, unlock, accepted⟩ := id saving
      subst unlock
      have reported' : flags'.1.status.isSuccess := by rwa [sameFlags]
      obtain ⟨result, trace⟩ := setLock_run_kept device valid opens reported (support.1 some) accepted
      have done : StatusFlags.supported flags'.1.reading ∧ asked'.1.status.isSuccess := by
        rw [sameFlags, sameAsked]
        exact ⟨support.1 some, accepted⟩
      obtain ⟨result', trace'⟩ := setLock_run_kept device valid opens' reported' done.1 done.2
      refine ⟨result'.trans result.symm, [.opened (.ok ()), .called _ flags.1, .acquired, .called _ asked.1],
        [.logged (unlockedRecord device segment), .released], ?_, ?_⟩
      · rw [show told kept.1 = _ from if_pos saving]
        exact trace
      · rw [show told kept'.1 = _ from if_pos saving, ← sameFlags, ← sameAsked]
        exact trace'
    · obtain ⟨trace, result⟩ := setLock_run_alike device valid opens opens' reported sameFlags sameAsked
        fun kept => saving ⟨support.2 kept.1, kept.2⟩
      have silent : ∀ answer, told answer = [] := fun _ => if_neg saving
      refine ⟨result, run.trace, [], ?_, ?_⟩
      · rw [silent, List.append_nil, List.append_nil]
      · rw [silent, List.append_nil, List.append_nil]
        exact trace

/-- A drive that advertises nothing but the feature grants an unlock. Whether the kernel then keeps the key is told to the
log, and to nobody else. -/
theorem locking_calls_unkept :
    let reported : CallKind × List ScriptedAnswer := (.getStatus, [{ status := .success, flags := some 0x01 }])
    let keeps : Script := { answers := [reported] }
    let refuses : Script := { answers := [reported, (.saveForResume, [{ status := .failure }])] }
    let unlock := (Operation.setLock 2 false (some [7])).procedure "d"
    let request := lockOperationRequest 2 false (some [7])
    (unlock.run Script.drive refuses).trace.requests =
        [.getStatus default, .lockUnlock request, .saveForResume { request with flags := saveForLock }] ∧
      (unlock.run Script.drive refuses).result = .ok .nothing ∧
      (unlock.run Script.drive keeps).result = .ok .nothing ∧
      (keepingRecord "d" 2 .failure).level = .warn ∧ (keepingRecord "d" 2 .success).level = .debug := by
  intro reported keeps refuses unlock request
  have valid : (Operation.setLock 2 false (some [7])).check = .ok () := rfl
  obtain ⟨-, -, -, calls, alike⟩ := locking_calls Script.drive "d" valid (s := refuses) rfl (by decide)
  obtain ⟨requests, result, -⟩ := calls (by decide)
  obtain ⟨same, -⟩ := alike Script Script.drive keeps keeps rfl rfl rfl
  have done := result.2 (by decide)
  exact ⟨requests, done, same.trans done, rfl, rfl⟩

end OpalLocking
