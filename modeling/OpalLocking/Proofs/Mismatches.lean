/-
What is complained about when a range is read back.

A drive that gives its geometry and shows the range leaves no choice: `verify_run` spells out all that happens, and so
what the log is told of each entry. The list itself is that of `Attributes.mismatches`.
-/
import OpalLocking.Proofs.Comparison
import OpalLocking.Proofs.Replies
import OpalLocking.Script

namespace OpalLocking

open Procedure (yields_bind yields_withBuffer yields_pure yields_fail yields_record yields_submit_bind
  yields_record_bind yields_bind_pure)

/-! ## What the log is told -/

/-- An entry about a lock is told in detail to those who debug, and as an error without the details. -/
def Mismatch.records (segment : UInt32) (m : Mismatch) : List Record :=
  if m.isLockState then
    [⟨.debug, .verification, s!"OPAL range {segment.toNat} {m.text}."⟩,
      ⟨.error, .verification, s!"Unexpected OPAL range {segment.toNat} lock state."⟩]
  else [⟨.error, .verification, s!"OPAL range {segment.toNat} {m.text}."⟩]

theorem Mismatch.countP_records (segment : UInt32) (m : Mismatch) :
    (m.records segment).countP (·.level = .error) = 1 ∧
      (m.records segment).countP (·.level = .debug) = if m.isLockState then 1 else 0 := by
  unfold records
  split <;> exact ⟨rfl, rfl⟩

theorem countP_flatMap_records (segment : UInt32) (ms : List Mismatch) :
    (ms.flatMap (Mismatch.records segment)).countP (·.level = .error) = ms.length ∧
      (ms.flatMap (Mismatch.records segment)).countP (·.level = .debug) = ms.countP (·.isLockState) := by
  induction ms with
  | nil => exact ⟨rfl, rfl⟩
  | cons m ms ih =>
    obtain ⟨errors, details⟩ := ih
    obtain ⟨error, detail⟩ := m.countP_records segment
    simp only [List.flatMap_cons, List.countP_append, List.countP_cons, List.length_cons]
    omega

namespace Trace

theorem records_map_logged (rs : List Record) : records (rs.map .logged) = rs := by
  simp [records, List.filterMap_map]

theorem openings_map_logged (rs : List Record) : openings (rs.map .logged) = 0 := by
  induction rs with
  | nil => rfl
  | cons record rs ih => exact ih

theorem exchanges_map_logged (rs : List Record) : exchanges (rs.map .logged) = [] := by
  induction rs with
  | nil => rfl
  | cons record rs ih => exact ih

end Trace

section

variable {device : String} {segment : UInt32} {key : Secret} {want : Expectations}
  {g : Answer (.getGeometry default)} {a : Answer (readRequest segment key)}

theorem reportMismatch_tells (segment : UInt32) (m : Mismatch) :
    (reportMismatch segment m).Yields ((m.records segment).map .logged) (.ok ()) := by
  unfold reportMismatch Mismatch.records
  split
  · exact yields_record_bind.2 ⟨_, rfl, yields_record.2 ⟨rfl, rfl⟩⟩
  · exact yields_record.2 ⟨rfl, rfl⟩

theorem reportMismatches_tells (segment : UInt32) (ms : List Mismatch) :
    (reportMismatches segment ms).Yields ((ms.flatMap (Mismatch.records segment)).map .logged) (.ok ()) := by
  induction ms with
  | nil => exact yields_pure.2 ⟨rfl, rfl⟩
  | cons m ms ih =>
    rw [List.flatMap_cons, List.map_append]
    exact yields_bind.2 (.inl ⟨_, _, (), rfl, reportMismatch_tells segment m, ih⟩)

/-! ## Runs -/

theorem queryGeometry_reads (usable : g.Usable) :
    (queryGeometry device).Yields [.called _ g] (.ok (.ofReading g.reading)) := by
  refine yields_submit_bind.2 ⟨g, [], rfl, ?_⟩
  rw [if_neg (by simp [Status.isSuccess, usable.1]), if_neg usable.2]
  exact yields_pure.2 ⟨rfl, rfl⟩

theorem readRange_reads (accepted : a.status.classify = .success) :
    (readRange device segment key).Yields [.acquired, .called _ a, .released] (.ok a.reading) := by
  refine yields_withBuffer.2 ⟨[.called _ a], rfl, yields_submit_bind.2 ⟨a, [], rfl, ?_⟩⟩
  simp [Status.isSuccess, accepted, expect, yields_pure]

/-- Everything that happens on a drive that gives its geometry and shows the range. -/
theorem verifyOpened_reads (device : String) (want : Expectations) (usable : g.Usable)
    (accepted : a.status.classify = .success) :
    let observed := Attributes.ofReading (.ofReading g.reading) a.reading
    let ms := observed.mismatches want
    (verifyOpened device segment key want).Yields
      ([.called _ g, .acquired, .called _ a, .released] ++ (ms.flatMap (Mismatch.records segment)).map .logged)
      (if ms = [] then .ok observed else .error (.mismatch segment ms)) := by
  intro observed ms
  refine yields_bind.2 (.inl ⟨[_], _, _, rfl, queryGeometry_reads usable, ?_⟩)
  refine yields_bind.2 (.inl ⟨[_, _, _], _, _, rfl, readRange_reads accepted, ?_⟩)
  dsimp only
  split
  · next none =>
    have none : ms = [] := List.isEmpty_iff.1 none
    rw [if_pos none, none]
    exact yields_pure.2 ⟨rfl, rfl⟩
  · next some =>
    rw [if_neg fun none => some (List.isEmpty_iff.2 none)]
    exact yields_bind.2 (.inl ⟨_, [], (), by simp, reportMismatches_tells segment ms, yields_fail.2 ⟨rfl, rfl⟩⟩)

end

section

variable {σ : Type} {d : Drive σ} {s s₁ s' : σ} {segment : UInt32} {key : Secret} {want : Expectations}

/-- A drive that gives its geometry and shows the range is asked for nothing else. -/
theorem VerifyCourse.exchanges_eq {xs : List Exchange} {r : Except Error Attributes}
    (course : VerifyCourse segment key want xs r) (replies : d.Replies s xs s') :
    let geometry := d.answer s (.getGeometry default)
    let read := d.answer geometry.2 (readRequest segment key)
    geometry.1.Usable → read.1.status.isSuccess → xs = [⟨_, geometry.1⟩, ⟨_, read.1⟩] := by
  intro geometry read usable accepted
  cases course with
  | unusable why =>
    cases replies
    exact absurd usable why
  | refused _ refused =>
    cases replies with
    | cons replies =>
    cases replies
    exact absurd (Status.isSuccess_iff.1 accepted) refused
  | matched | differed =>
    cases replies with
    | cons replies =>
    cases replies
    rfl

/-- On such a drive, all that happens is known. -/
theorem verify_run (device : String) (keyed : checkKey .user key = .ok ()) (valid : checkSegment segment = .ok ())
    (opens : d.opening s = (.ok (), s₁)) (want : Expectations) :
    let geometry := d.answer s₁ (.getGeometry default)
    let read := d.answer geometry.2 (readRequest segment key)
    let observed := Attributes.ofReading (.ofReading geometry.1.reading) read.1.reading
    let ms := observed.mismatches want
    geometry.1.Usable → read.1.status.isSuccess →
      let run := ((Operation.verify segment key want).procedure device).run d s
      run.trace = [.opened (.ok ()), .called _ geometry.1, .acquired, .called _ read.1, .released] ++
          (ms.flatMap (Mismatch.records segment)).map .logged ∧
        run.result = if ms = [] then .ok (.attributes observed) else .error (.mismatch segment ms) := by
  intro geometry read observed ms usable accepted run
  have passes : (Operation.verify segment key want).check = .ok () := Operation.check_verify valid keyed
  have calls : run.trace.exchanges = [⟨_, geometry.1⟩, ⟨_, read.1⟩] := by
    obtain ⟨ran, replies⟩ : _ ∧ d.Replies s₁ run.trace.exchanges run.drive := Operation.run_course passes opens
    generalize run.trace.exchanges = xs at *
    generalize run.result = r at *
    cases ran with
    | verify course => exact course.exchanges_eq replies usable accepted
  have reads := verifyOpened_reads device want usable (Status.isSuccess_iff.1 accepted)
  have yields : ((Operation.verify segment key want).opened device).Yields _ _ := yields_bind_pure.2 ⟨_, reads, rfl⟩
  have opened : run = _ := Operation.run_of_open passes opens
  rw [opened] at calls ⊢
  simp only [Run.after, Trace.exchanges_opened] at calls ⊢
  -- The answers say which run it is, and all that happens in this one is known.
  obtain ⟨trace, result⟩ := (Procedure.run_yields d _ s₁).unique yields ((Operation.inStep_self _).openings rfl s₁)
    (Trace.openings_map_logged _) (calls.trans (congrArg _ (congrArg _ (Trace.exchanges_map_logged _).symm)))
  rw [trace, result]
  refine ⟨rfl, ?_⟩
  split <;> rfl

theorem verify_eq_ok_iff (device : String) (keyed : checkKey .user key = .ok ()) (valid : checkSegment segment = .ok ())
    (opens : d.opening s = (.ok (), s₁)) (want : Expectations) :
    let geometry := d.answer s₁ (.getGeometry default)
    let read := d.answer geometry.2 (readRequest segment key)
    let reported : RangeReading := read.1.reading
    let observed := Attributes.ofReading (.ofReading geometry.1.reading) reported
    geometry.1.Usable → read.1.status.isSuccess →
      ∀ value, (((Operation.verify segment key want).procedure device).run d s).result = .ok value ↔
        value = .attributes observed ∧ (reported.readLock ≠ 0 ∧ reported.writeLock ≠ 0) ∧ observed.Meets want := by
  intro geometry read reported observed usable accepted value
  rw [(verify_run device keyed valid opens want usable accepted).2, ← Attributes.mismatches_ofReading_eq_nil_iff]
  split
  · next none =>
    constructor
    · intro returned
      cases returned
      exact ⟨rfl, none⟩
    · rintro ⟨rfl, -⟩
      rfl
  · next some => exact iff_of_false nofun fun met => some met.2

/-- What a result complains about. -/
def complaints : Except Error Value → List Mismatch
  | .error (.mismatch _ ms) => ms
  | _ => []

/-- A range is read back as it is when both locks are enabled and all is as expected. Otherwise there is one entry for
each thing that is amiss, in one order, and the log is told of each. More expectations only add entries, and what is read
back meets the expectations that are made of it. -/
theorem mismatches_listed (device : String) (keyed : checkKey .user key = .ok ()) (valid : checkSegment segment = .ok ())
    (opens : d.opening s = (.ok (), s₁)) :
    let run want := ((Operation.verify segment key want).procedure device).run d s
    let geometry := d.answer s₁ (.getGeometry default)
    let read := d.answer geometry.2 (readRequest segment key)
    let reported : RangeReading := read.1.reading
    let observed := Attributes.ofReading (.ofReading geometry.1.reading) reported
    let enabled := reported.readLock ≠ 0 ∧ reported.writeLock ≠ 0
    let entries want := complaints (run want).result
    geometry.1.Usable → read.1.status.isSuccess →
      (∀ want,
        ((run want).result = .ok (.attributes observed) ↔ enabled ∧ observed.Meets want) ∧
        (¬ (enabled ∧ observed.Meets want) → (run want).result = .error (.mismatch segment (entries want))) ∧
        (∀ m, m ∈ entries want ↔ m.Applies observed want) ∧
        ((entries want).map Mismatch.subject).Sublist [.offset, .length, .enables, .readLock, .writeLock] ∧
        (run want).trace.records = (entries want).flatMap (Mismatch.records segment) ∧
        (run want).trace.records.countP (·.level = .error) = (entries want).length ∧
        (run want).trace.records.countP (·.level = .debug) = (entries want).countP (·.isLockState) ∧
        ∀ more, want.Within more → (entries want).Sublist (entries more)) ∧
      (enabled → (run (.ofAttributes observed)).result = .ok (.attributes observed)) := by
  intro run geometry read reported observed enabled entries usable accepted
  have ran := fun want => verify_run device keyed valid opens want usable accepted
  have returned (want : Expectations) : (run want).result =
      if observed.mismatches want = [] then .ok (.attributes observed)
      else .error (.mismatch segment (observed.mismatches want)) := (ran want).2
  have listed (want : Expectations) : entries want = observed.mismatches want := by
    change complaints (run want).result = _
    rw [returned]
    split
    · next none => exact none.symm
    · rfl
  have result (want : Expectations) : (run want).result = .ok (.attributes observed) ↔ enabled ∧ observed.Meets want :=
    (verify_eq_ok_iff device keyed valid opens want usable accepted _).trans (and_iff_right rfl)
  refine ⟨fun want => ?_, fun enabled => (result _).2 ⟨enabled, Attributes.meets_ofAttributes⟩⟩
  have told : (run want).trace.records = (entries want).flatMap (Mismatch.records segment) := by
    rw [(ran want).1, listed]
    exact Trace.records_map_logged _
  obtain ⟨errors, details⟩ := countP_flatMap_records segment (entries want)
  refine ⟨result want, ?_, ?_, ?_, told, ?_, ?_, ?_⟩
  · intro amiss
    rw [returned, if_neg (mt Attributes.mismatches_ofReading_eq_nil_iff.1 amiss), listed]
  · intro m
    rw [listed]
    exact Attributes.mem_mismatches
  · rw [listed]
    exact Attributes.subject_mismatches
  · rw [told, errors]
  · rw [told, details]
  · intro more within
    rw [listed, listed]
    exact Attributes.mismatches_sublist within

/-- A range of blocks of eight sectors that has the right length, starts late and has neither lock enabled, where a locked
range from the first sector on is expected. Four things are amiss, and the lock is told of twice. -/
theorem mismatches_listed_unlocked :
    let reading : ScriptedAnswer :=
      { status := .success, start := some 256, length := some 1024, readLock := some 0, writeLock := some 0,
        state := some 2 }
    let script : Script :=
      { answers :=
          [(.getGeometry, [{ status := .success, blockSize := some 4096 }]), (.getRangeStatus, [reading])] }
    let run := ((Operation.verify 1 [7] (.lockedRange 0 8192)).procedure "d").run Script.drive script
    complaints run.result =
        [.offset 2048 0, .lockingDisabled false false, .readLock false true, .writeLock false true] ∧
      run.trace.records.countP (·.level = .error) = 4 ∧ run.trace.records.countP (·.level = .debug) = 2 := by
  intro reading script run
  have keyed : checkKey .user [7] = .ok () := rfl
  have valid : checkSegment 1 = .ok () := rfl
  have opens : Script.drive.opening script = (.ok (), script) := rfl
  obtain ⟨listed, -⟩ := mismatches_listed "d" keyed valid opens ⟨rfl, by decide⟩ rfl
  obtain ⟨-, -, -, -, -, errors, details, -⟩ := listed (.lockedRange 0 8192)
  have entries : complaints run.result =
      [.offset 2048 0, .lockingDisabled false false, .readLock false true, .writeLock false true] := by decide
  refine ⟨entries, errors.trans ?_, details.trans ?_⟩
  · exact congrArg List.length entries
  · exact congrArg (List.countP (·.isLockState)) entries

end

end OpalLocking
