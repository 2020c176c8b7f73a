/-
What is complained about when a range is compared with what is expected of it.

An entry of the list is true of the range (`Mismatch.Applies`), every true entry is in the list, and the list has its
subjects in one order and each of them once at the most. So nothing is complained about just if both locks are enabled and
all is as expected (`Attributes.Meets`), and more expectations only add entries.
-/
import OpalLocking.Verification

namespace OpalLocking

/-! ## Entries -/

/-- What a mismatch is about. -/
inductive Mismatch.Subject
  | offset
  | length
  | enables
  | readLock
  | writeLock
deriving DecidableEq, Repr

def Mismatch.subject : Mismatch → Subject
  | .offset _ _ => .offset
  | .length _ _ => .length
  | .lockingDisabled _ _ => .enables
  | .readLock _ _ => .readLock
  | .writeLock _ _ => .writeLock

/-- The entry names what was observed and what was expected, and these are different; or it names both lock enables, and
one of them is off. -/
def Mismatch.Applies (a : Attributes) (want : Expectations) : Mismatch → Prop
  | .offset actual expected => actual = a.offset ∧ want.offset = some expected ∧ actual ≠ expected
  | .length actual expected => actual = a.length ∧ want.length = some expected ∧ actual ≠ expected
  | .lockingDisabled read write =>
    read = a.readLockEnabled ∧ write = a.writeLockEnabled ∧ ¬ (read = true ∧ write = true)
  | .readLock actual expected => actual = a.readLocked ∧ want.readLocked = some expected ∧ actual ≠ expected
  | .writeLock actual expected => actual = a.writeLocked ∧ want.writeLocked = some expected ∧ actual ≠ expected

/-- Everything that is expected is what was observed. -/
structure Attributes.Meets (a : Attributes) (want : Expectations) : Prop where
  offset : ∀ expected, want.offset = some expected → a.offset = expected
  length : ∀ expected, want.length = some expected → a.length = expected
  readLocked : ∀ expected, want.readLocked = some expected → a.readLocked = expected
  writeLocked : ∀ expected, want.writeLocked = some expected → a.writeLocked = expected

/-- Everything that is expected is expected with the others, too. -/
structure Expectations.Within (want more : Expectations) : Prop where
  offset : ∀ expected, want.offset = some expected → more.offset = some expected
  length : ∀ expected, want.length = some expected → more.length = some expected
  readLocked : ∀ expected, want.readLocked = some expected → more.readLocked = some expected
  writeLocked : ∀ expected, want.writeLocked = some expected → more.writeLocked = some expected

/-- The expectation to find a range just like this. -/
def Expectations.ofAttributes (a : Attributes) : Expectations :=
  { offset := a.offset, length := a.length, readLocked := a.readLocked, writeLocked := a.writeLocked }

/-! ## Lists -/

namespace Attributes

section

variable {α : Type} [DecidableEq α] {describe : α → α → Mismatch} {actual : α} {expected more : Option α} {m : Mismatch}

theorem mem_compare :
    m ∈ compare describe actual expected ↔ ∃ e, expected = some e ∧ actual ≠ e ∧ m = describe actual e := by
  cases expected with
  | none => simp [compare]
  | some e => by_cases same : actual = e <;> simp [compare, same]

theorem compare_eq_nil_iff : compare describe actual expected = [] ↔ ∀ e, expected = some e → actual = e := by
  cases expected <;> simp [compare]

theorem subject_compare {subject : Mismatch.Subject} (about : ∀ x y, (describe x y).subject = subject) :
    ((compare describe actual expected).map Mismatch.subject).Sublist [subject] := by
  cases expected with
  | none => exact List.nil_sublist _
  | some e => by_cases same : actual = e <;> simp [compare, same, about]

theorem compare_sublist (within : ∀ e, expected = some e → more = some e) :
    (compare describe actual expected).Sublist (compare describe actual more) := by
  cases expected with
  | none => exact List.nil_sublist _
  | some e =>
    obtain rfl := within e rfl
    exact .refl _

end

variable {a : Attributes} {want more : Expectations} {m : Mismatch}

/-- The list has an entry for each thing that is amiss, and for nothing else. -/
theorem mem_mismatches : m ∈ a.mismatches want ↔ m.Applies a want := by
  simp only [mismatches, List.mem_append, mem_compare]
  cases m with
  | offset | length | readLock | writeLock | lockingDisabled => grind [Mismatch.Applies]

/-- Nothing is amiss with a range that has both locks enabled and is as expected. -/
theorem mismatches_eq_nil_iff :
    a.mismatches want = [] ↔ (a.readLockEnabled = true ∧ a.writeLockEnabled = true) ∧ a.Meets want := by
  simp only [mismatches, List.append_eq_nil_iff, compare_eq_nil_iff]
  constructor
  · rintro ⟨⟨⟨⟨offset, length⟩, enables⟩, readLocked⟩, writeLocked⟩
    exact ⟨by simpa using enables, offset, length, readLocked, writeLocked⟩
  · rintro ⟨enables, offset, length, readLocked, writeLocked⟩
    exact ⟨⟨⟨⟨offset, length⟩, by simp [enables]⟩, readLocked⟩, writeLocked⟩

theorem mismatches_ofReading_eq_nil_iff {g : Geometry} {r : RangeReading} :
    (ofReading g r).mismatches want = [] ↔ (r.readLock ≠ 0 ∧ r.writeLock ≠ 0) ∧ (ofReading g r).Meets want := by
  simp [mismatches_eq_nil_iff, ofReading]

/-- The subjects come in one order, and none of them twice. -/
theorem subject_mismatches :
    ((a.mismatches want).map Mismatch.subject).Sublist [.offset, .length, .enables, .readLock, .writeLock] := by
  have offset : ((compare .offset a.offset want.offset).map Mismatch.subject).Sublist [.offset] :=
    subject_compare fun _ _ => rfl
  have length : ((compare .length a.length want.length).map Mismatch.subject).Sublist [.length] :=
    subject_compare fun _ _ => rfl
  have enables : ((if a.readLockEnabled && a.writeLockEnabled then []
      else [Mismatch.lockingDisabled a.readLockEnabled a.writeLockEnabled]).map Mismatch.subject).Sublist [.enables] := by
    split
    · exact List.nil_sublist _
    · exact .refl _
  have readLock : ((compare .readLock a.readLocked want.readLocked).map Mismatch.subject).Sublist [.readLock] :=
    subject_compare fun _ _ => rfl
  have writeLock : ((compare .writeLock a.writeLocked want.writeLocked).map Mismatch.subject).Sublist [.writeLock] :=
    subject_compare fun _ _ => rfl
  simp only [mismatches, List.map_append]
  exact (((offset.append length).append enables).append readLock).append writeLock

theorem mismatches_sublist (within : want.Within more) : (a.mismatches want).Sublist (a.mismatches more) := by
  refine .append (.append (.append (.append ?_ ?_) (.refl _)) ?_) ?_
  · exact compare_sublist within.offset
  · exact compare_sublist within.length
  · exact compare_sublist within.readLocked
  · exact compare_sublist within.writeLocked

theorem meets_ofAttributes : a.Meets (.ofAttributes a) :=
  ⟨fun _ => Option.some.inj, fun _ => Option.some.inj, fun _ => Option.some.inj, fun _ => Option.some.inj⟩

end Attributes

end OpalLocking
