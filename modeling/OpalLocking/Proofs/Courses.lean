/-
The courses that operations can take on an open drive.

A course is the list of calls that an operation made, with their answers, together with its result. For
each operation an inductive predicate names the courses there are, and one lemma says that there are no
others, whatever the drive answers. Provisioning, whose course is a list of steps, has a module of its own.
-/
import OpalLocking.Proofs.Operations

namespace OpalLocking

open Procedure (yields_bind yields_pure yields_fail yields_record yields_withBuffer yields_submit
  yields_submit_bind yields_record_bind)

variable {t : Trace} {device : String}

/-! ## Locking and unlocking -/

/-- The request of a lock operation in either direction. -/
def lockOperationRequest (segment : UInt32) (locked : Bool) (key : Option Secret) : LockRequest :=
  lockRequest segment (if locked then .locked else .readWrite) key

/-- The block of a lock request that asks the kernel to keep its key. -/
def LockRequest.keeping (l : LockRequest) : LockRequest :=
  { l with flags := saveForLock }

/-- A drive with locking support is asked once, and after a granted unlock the kernel is asked to keep the
key, whatever it answers. -/
inductive LockCourse (segment : UInt32) (locked : Bool) (key : Option Secret) :
    List Exchange → Except Error Unit → Prop
  | unsupported {a r} (why : a.status.classify = .system ∨ StatusFlags.supported a.reading = false)
      (fails : FailsAs r .unsupported) : LockCourse segment locked key [⟨.getStatus default, a⟩] r
  | refused {a l r} (reached : a.status.classify ≠ .system ∧ StatusFlags.supported a.reading = true)
      (refused : l.status.classify ≠ .success) (fails : FailsAs r l.status.classify.entryKind) :
      LockCourse segment locked key
        [⟨.getStatus default, a⟩, ⟨.lockUnlock (lockOperationRequest segment locked key), l⟩] r
  | locked {a l} (reached : a.status.classify ≠ .system ∧ StatusFlags.supported a.reading = true)
      (direction : locked = true) (accepted : l.status.classify = .success) :
      LockCourse segment locked key
        [⟨.getStatus default, a⟩, ⟨.lockUnlock (lockOperationRequest segment locked key), l⟩] (.ok ())
  | unlocked {a l} (kept) (reached : a.status.classify ≠ .system ∧ StatusFlags.supported a.reading = true)
      (direction : locked = false) (accepted : l.status.classify = .success) :
      LockCourse segment locked key
        [⟨.getStatus default, a⟩, ⟨.lockUnlock (lockOperationRequest segment locked key), l⟩,
          ⟨.saveForResume (lockOperationRequest segment locked key).keeping, kept⟩] (.ok ())

theorem saveForResume_yields {segment request r} (h : (saveForResume device segment request).Yields t r) :
    ∃ a, t.exchanges = [⟨.saveForResume request.keeping, a⟩] ∧ r = .ok () := by
  obtain ⟨a, t', rfl, rest⟩ := yields_submit_bind.1 h
  split at rest <;>
  · obtain ⟨rfl, rfl⟩ := yields_record.1 rest
    exact ⟨a, rfl, rfl⟩

theorem setLockOpened_course {segment locked key r} (h : (setLockOpened device segment locked key).Yields t r) :
    LockCourse segment locked key t.exchanges r := by
  rcases yields_bind.1 h with ⟨t₁, t₂, supported, rfl, probed, rest⟩ | ⟨e, rfl, probed⟩
  · obtain ⟨a, calls, probe⟩ := probeSupport_yields probed
    split at rest
    · next none =>
      obtain ⟨rfl, rfl⟩ := yields_fail.1 rest
      have why : a.status.classify = .system ∨ StatusFlags.supported a.reading = false := by
        rcases probe with ⟨system, -⟩ | ⟨-, h⟩
        · exact .inl system
        · exact .inr (by simp_all)
      simpa [calls] using LockCourse.unsupported why (failsAs_error.2 rfl)
    · next some =>
      obtain ⟨t₃, rfl, inner⟩ := yields_withBuffer.1 rest
      obtain ⟨l, t₄, rfl, judged⟩ := yields_submit_bind.1 inner
      have reached : a.status.classify ≠ .system ∧ StatusFlags.supported a.reading = true := by
        rcases probe with ⟨-, h⟩ | ⟨notSystem, h⟩
        · simp_all
        · exact ⟨notSystem, by simp_all⟩
      rcases (expectEntry_judges _ _ _).bind judged with ⟨accepted, t₅, quiet, last⟩ | ⟨refused, quiet, fails⟩
      · cases locked with
        | true =>
          obtain ⟨rfl, rfl⟩ := yields_record.1 last
          simpa [calls, quiet, lockOperationRequest] using LockCourse.locked reached rfl accepted
        | false =>
          rcases yields_bind.1 last with ⟨t₆, t₇, _, rfl, keep, said⟩ | ⟨e, rfl, keep⟩
          · obtain ⟨kept, calls₂, -⟩ := saveForResume_yields keep
            obtain ⟨rfl, rfl⟩ := yields_record.1 said
            simpa [calls, quiet, calls₂, lockOperationRequest] using LockCourse.unlocked kept reached rfl accepted
          · obtain ⟨kept, -, h⟩ := saveForResume_yields keep
            cases h
      · simpa [calls, quiet, lockOperationRequest] using LockCourse.refused reached refused fails
  · obtain ⟨a, -, ⟨-, h⟩ | ⟨-, h⟩⟩ := probeSupport_yields probed <;> cases h

/-! ## Resetting -/

/-- A range is disabled by a call of its own exactly when only the secure erase was accepted. -/
inductive ResetCourse (segment : UInt32) (password : Secret) : List Exchange → Except Error Unit → Prop
  | unreadable {a r} (why : a.status.classify = .system) (fails : FailsAs r .invalid) :
      ResetCourse segment password [⟨.getStatus default, a⟩] r
  | notEnabled {a r} (reached : a.status.classify ≠ .system)
      (why : StatusFlags.lockingEnabled a.reading = false) (fails : FailsAs r .invalid) :
      ResetCourse segment password [⟨.getStatus default, a⟩] r
  | erased {a e} (reached : a.status.classify ≠ .system ∧ StatusFlags.lockingEnabled a.reading = true)
      (plain : e.status.classify = .success) :
      ResetCourse segment password
        [⟨.getStatus default, a⟩, ⟨.eraseRange (adminSession segment.toUInt8 password), e⟩] (.ok ())
  | refused {a e f r} (reached : a.status.classify ≠ .system ∧ StatusFlags.lockingEnabled a.reading = true)
      (plain : e.status.classify ≠ .success) (secure : f.status.classify ≠ .success)
      (fails : FailsAs r f.status.classify.stepKind) :
      ResetCourse segment password
        [⟨.getStatus default, a⟩, ⟨.eraseRange (adminSession segment.toUInt8 password), e⟩,
          ⟨.secureEraseRange (adminSession segment.toUInt8 password), f⟩] r
  | disabled {a e f c r} (reached : a.status.classify ≠ .system ∧ StatusFlags.lockingEnabled a.reading = true)
      (plain : e.status.classify ≠ .success) (secure : f.status.classify = .success)
      (last : (c.status.classify = .success ∧ r = .ok ()) ∨
        (c.status.classify ≠ .success ∧ FailsAs r c.status.classify.stepKind)) :
      ResetCourse segment password
        [⟨.getStatus default, a⟩, ⟨.eraseRange (adminSession segment.toUInt8 password), e⟩,
          ⟨.secureEraseRange (adminSession segment.toUInt8 password), f⟩,
          ⟨.setupRange (disableRequest segment password), c⟩] r

theorem resetSegmentOpened_course {segment password r}
    (h : (resetSegmentOpened device segment password).Yields t r) :
    ResetCourse segment password t.exchanges r := by
  obtain ⟨a, ⟨system, calls, fails⟩ | ⟨reached, t₁, calls, rest⟩⟩ := queryFlags_bind_yields h
  · rw [calls]
    exact .unreadable system fails
  · rw [calls]
    split at rest
    · next clear =>
      obtain ⟨rfl, rfl⟩ := yields_fail.1 rest
      exact .notEnabled reached (by simpa using clear) (failsAs_error.2 rfl)
    · next set =>
      have enabled : StatusFlags.lockingEnabled a.reading = true := by simpa using set
      obtain ⟨t₂, rfl, inner⟩ := yields_withBuffer.1 rest
      rcases yields_bind.1 inner with ⟨t₃, t₄, erasure, rfl, erasing, last⟩ | ⟨err, rfl, erasing⟩
      · rcases eraseRange_yields erasing with
          ⟨e, plain, calls₂, h⟩ | ⟨e, f, plain, calls₂, ⟨secure, h⟩ | ⟨-, _, h, -⟩⟩
        · cases h
          obtain ⟨rfl, rfl⟩ := yields_record.1 last
          simpa [calls₂] using ResetCourse.erased ⟨reached, enabled⟩ plain
        · cases h
          rcases yields_bind.1 last with ⟨t₅, t₆, _, rfl, disabling, said⟩ | ⟨err, rfl, disabling⟩
          · obtain ⟨rfl, rfl⟩ := yields_record.1 said
            obtain ⟨c, calls₃, disabled⟩ := disableRange_yields disabling
            simpa [calls₂, calls₃] using ResetCourse.disabled ⟨reached, enabled⟩ plain secure disabled
          · obtain ⟨c, calls₃, ⟨-, h⟩ | disabled⟩ := disableRange_yields disabling
            · cases h
            · simpa [calls₂, calls₃] using ResetCourse.disabled ⟨reached, enabled⟩ plain secure (.inr disabled)
        · cases h
      · rcases eraseRange_yields erasing with ⟨e, -, -, h⟩ | ⟨e, f, plain, calls₂, ⟨-, h⟩ | ⟨secure, fails⟩⟩
        · cases h
        · cases h
        · simpa [calls₂] using ResetCourse.refused ⟨reached, enabled⟩ plain secure
            (failsAs_error.2 (failsAs_error.1 fails))

/-- The PSID is shown once, and the drive grants the revert or does not. -/
inductive RevertCourse (psid : Secret) : List Exchange → Except Error Unit → Prop
  | reverted {a} (accepted : a.status.classify = .success) :
      RevertCourse psid [⟨.psidRevert (.fill 0 psid), a⟩] (.ok ())
  | refused {a r} (refused : a.status.classify ≠ .success) (fails : FailsAs r a.status.classify.entryKind) :
      RevertCourse psid [⟨.psidRevert (.fill 0 psid), a⟩] r

theorem factoryResetOpened_course {psid r} (h : (factoryResetOpened device psid).Yields t r) :
    RevertCourse psid t.exchanges r := by
  rcases yields_bind.1 h with ⟨t₁, t₂, a, rfl, reverting, rest⟩ | ⟨e, rfl, reverting⟩
  · obtain ⟨t₃, rfl, inner⟩ := yields_withBuffer.1 reverting
    obtain ⟨_, rfl, same⟩ := yields_submit.1 inner
    cases same
    split at rest
    · next hc =>
      simp only [yields_record_bind, yields_fail] at rest
      obtain ⟨_, rfl, rfl, rfl⟩ := rest
      have refused : a.status.classify ≠ .success := by simp [hc]
      simpa using RevertCourse.refused refused (failsAs_error.2 (by simp [hc, StatusClass.entryKind, Error.kind]))
    · rcases (expectEntry_judges _ _ _).bind rest with ⟨accepted, t₄, quiet, last⟩ | ⟨refused, quiet, fails⟩
      · obtain ⟨rfl, rfl⟩ := yields_record.1 last
        simpa [quiet] using RevertCourse.reverted accepted
      · simpa [quiet] using RevertCourse.refused refused fails
  · obtain ⟨t₃, rfl, inner⟩ := yields_withBuffer.1 reverting
    obtain ⟨_, -, h⟩ := yields_submit.1 inner
    cases h

/-! ## Reading back -/

/-- A range is compared once its geometry and its reading are there. -/
inductive VerifyCourse (segment : UInt32) (key : Secret) (want : Expectations) :
    List Exchange → Except Error Attributes → Prop
  | unusable {g : Answer (.getGeometry default)} {r} (why : ¬ g.Usable) (fails : FailsAs r .invalid) :
      VerifyCourse segment key want [⟨_, g⟩] r
  | refused {g : Answer (.getGeometry default)} {a : Answer (readRequest segment key)} {r}
      (usable : g.Usable) (refused : a.status.classify ≠ .success)
      (fails : FailsAs r a.status.classify.stepKind) :
      VerifyCourse segment key want [⟨_, g⟩, ⟨_, a⟩] r
  | matched {g : Answer (.getGeometry default)} {a : Answer (readRequest segment key)}
      (usable : g.Usable) (accepted : a.status.classify = .success)
      (same : (Attributes.ofReading (.ofReading g.reading) a.reading).mismatches want = []) :
      VerifyCourse segment key want [⟨_, g⟩, ⟨_, a⟩]
        (.ok (Attributes.ofReading (.ofReading g.reading) a.reading))
  | differed {g : Answer (.getGeometry default)} {a : Answer (readRequest segment key)} {ms}
      (usable : g.Usable) (accepted : a.status.classify = .success)
      (differs : ms = (Attributes.ofReading (.ofReading g.reading) a.reading).mismatches want) (some : ms ≠ []) :
      VerifyCourse segment key want [⟨_, g⟩, ⟨_, a⟩] (.error (.mismatch segment ms))

theorem verifyOpened_course {segment key want r} (h : (verifyOpened device segment key want).Yields t r) :
    VerifyCourse segment key want t.exchanges r := by
  obtain ⟨g, ⟨unusable, calls, fails⟩ | ⟨usable, t₁, calls, rest⟩⟩ := queryGeometry_bind_yields h
  · rw [calls]
    exact .unusable unusable fails
  · rw [calls]
    rcases yields_bind.1 rest with ⟨t₂, t₃, reading, rfl, read, rest⟩ | ⟨e, rfl, read⟩
    · obtain ⟨a, calls₂, ⟨accepted, h⟩ | ⟨-, e, h, -⟩⟩ := readRange_yields read
      · cases h
        dsimp only at rest
        split at rest
        · next none =>
          obtain ⟨rfl, rfl⟩ := yields_pure.1 rest
          simpa [calls₂] using VerifyCourse.matched usable accepted (List.isEmpty_iff.1 none)
        · next some =>
          rcases yields_bind.1 rest with ⟨t₄, t₅, _, rfl, report, rest⟩ | ⟨e, rfl, report⟩
          · obtain ⟨rfl, rfl⟩ := yields_fail.1 rest
            simpa [calls₂, (reportMismatches_yields report).1] using
              VerifyCourse.differed usable accepted rfl fun none => some (by simp [none])
          · cases (reportMismatches_yields report).2
      · cases h
    · obtain ⟨a, calls₂, ⟨-, h⟩ | ⟨refused, fails⟩⟩ := readRange_yields read
      · cases h
      · simpa [calls₂] using VerifyCourse.refused usable refused (failsAs_error.2 (failsAs_error.1 fails))

/-! ## Queries -/

/-- The feature word is asked for once, and handed on if the call reached the drive. -/
inductive FlagsCourse : List Exchange → Except Error StatusFlags → Prop
  | unreadable {a r} (why : a.status.classify = .system) (fails : FailsAs r .invalid) :
      FlagsCourse [⟨.getStatus default, a⟩] r
  | read {a} (reached : a.status.classify ≠ .system) : FlagsCourse [⟨.getStatus default, a⟩] (.ok a.reading)

theorem queryFlags_course {r} (h : (queryFlags device).Yields t r) : FlagsCourse t.exchanges r := by
  obtain ⟨a, calls, ⟨system, fails⟩ | ⟨reached, rfl⟩⟩ := queryFlags_yields h
  · rw [calls]
    exact .unreadable system fails
  · rw [calls]
    exact .read reached

/-- The geometry is asked for once, and handed on if it can be used. -/
inductive GeometryCourse : List Exchange → Except Error Geometry → Prop
  | unusable {g : Answer (.getGeometry default)} {r} (why : ¬ g.Usable) (fails : FailsAs r .invalid) :
      GeometryCourse [⟨_, g⟩] r
  | read {g : Answer (.getGeometry default)} (usable : g.Usable) :
      GeometryCourse [⟨_, g⟩] (.ok (.ofReading g.reading))

theorem queryGeometry_course {r} (h : (queryGeometry device).Yields t r) : GeometryCourse t.exchanges r := by
  obtain ⟨g, calls, ⟨usable, rfl⟩ | ⟨unusable, fails⟩⟩ := queryGeometry_yields h
  · rw [calls]
    exact .read usable
  · rw [calls]
    exact .unusable unusable fails

end OpalLocking
