/-
What becomes of the number with which the kernel refuses a control call.

A known number stays apart from every method status, and no operation succeeds over a call that was refused with
it. A number that is not known is folded to zero on its way, and zero negated is the status of a success: every
operation then goes on as if the drive had done what it was asked to do. `stops_ofControl_iff` says that this is
exactly where the line runs.
-/
import OpalLocking.Proofs.EveryOperation
import OpalLocking.Script

namespace OpalLocking

/-- The numbers that can be told apart: 1 to 133, less two that stand for nothing of their own. -/
def Errno.Known (n : Int32) : Prop :=
  1 ≤ n ∧ n ≤ 133 ∧ n ≠ 41 ∧ n ≠ 58

/-- A call that an operation may lose: the plain erase, which the secure one stands in for, and the request to
keep a key. -/
def CallKind.isOptional : CallKind → Bool
  | .eraseRange | .saveForResume => true
  | _ => false

/-- A status that stops whatever it is the answer to: it is a system error and is judged as one, and no operation
on any drive succeeds with it as the answer to a call that it depends on. -/
structure Status.Stops (status : Status) : Prop where
  system : status.classify = .system
  expect_fails : ∀ {σ : Type} (d : Drive σ) (s : σ) (step : Step) (device : String),
    FailsAs ((expect step device status).run d s).result .invalid
  entry_fails : ∀ {σ : Type} (d : Drive σ) (s : σ) (step : Step) (device : String),
    FailsAs ((expectEntry step device status).run d s).result .unsupported
  operation_fails : ∀ {σ : Type} (d : Drive σ) (s : σ) (device : String) (op : Operation) (x : Exchange),
    x ∈ ((op.procedure device).run d s).trace.exchanges → x.kind.isOptional = false → x.status = status →
      ∃ e, ((op.procedure device).run d s).result = .error e

/-! ## Operations that succeed -/

/-- The drive took part in this exchange, or the call was one that could be lost. -/
def Exchange.Heard (x : Exchange) : Prop :=
  x.kind.isOptional = false → x.status.classify ≠ .system

theorem Exchange.Accepted.heard {x : Exchange} (accepted : x.Accepted) : x.Heard := by
  intro _ system
  rw [accepted] at system
  cases system

theorem Exchange.heard_of_isOptional {x : Exchange} (optional : x.kind.isOptional = true) : x.Heard := by
  intro mandatory
  simp [optional] at mandatory

section

variable {xs : List Exchange}

theorem Provision.Course.heard_of_ok {p : Provision} (course : p.Course xs (.ok ())) : ∀ x ∈ xs, x.Heard := by
  generalize h : (.ok () : Except Error Unit) = r at course
  cases course with
  | unreadable why fails | unfit reached why fails =>
    subst h
    exact absurd fails not_failsAs_ok
  | planned reached fits run =>
    refine List.forall_mem_cons.2 ⟨fun _ => reached, List.forall_mem_cons.2 ⟨?_, fun x mem => ?_⟩⟩
    · exact Exchange.Accepted.heard fits.1.1
    · have passes := (run.ok_iff.1 h.symm).1 x mem
      by_cases erase : x.kind = .eraseRange
      · exact Exchange.heard_of_isOptional (by simp [erase, CallKind.isOptional])
      · exact (passes.accepted erase).heard

theorem LockCourse.heard_of_ok {segment locked key} (course : LockCourse segment locked key xs (.ok ())) :
    ∀ x ∈ xs, x.Heard := by
  generalize h : (.ok () : Except Error Unit) = r at course
  cases course with
  | unsupported _ fails | refused _ _ fails =>
    subst h
    exact absurd fails not_failsAs_ok
  | locked reached _ accepted =>
    exact List.forall_mem_cons.2
      ⟨fun _ => reached.1, List.forall_mem_singleton.2 (Exchange.Accepted.heard accepted)⟩
  | unlocked _ reached _ accepted =>
    exact List.forall_mem_cons.2 ⟨fun _ => reached.1, List.forall_mem_cons.2
      ⟨Exchange.Accepted.heard accepted, List.forall_mem_singleton.2 (Exchange.heard_of_isOptional rfl)⟩⟩

theorem ResetCourse.heard_of_ok {segment password} (course : ResetCourse segment password xs (.ok ())) :
    ∀ x ∈ xs, x.Heard := by
  generalize h : (.ok () : Except Error Unit) = r at course
  cases course with
  | unreadable _ fails | notEnabled _ _ fails | refused _ _ _ fails =>
    subst h
    exact absurd fails not_failsAs_ok
  | erased reached _ =>
    exact List.forall_mem_cons.2
      ⟨fun _ => reached.1, List.forall_mem_singleton.2 (Exchange.heard_of_isOptional rfl)⟩
  | disabled reached _ secure last =>
    obtain ⟨accepted, -⟩ | ⟨-, fails⟩ := last
    · exact List.forall_mem_cons.2 ⟨fun _ => reached.1, List.forall_mem_cons.2
        ⟨Exchange.heard_of_isOptional rfl, List.forall_mem_cons.2
          ⟨Exchange.Accepted.heard secure, List.forall_mem_singleton.2 (Exchange.Accepted.heard accepted)⟩⟩⟩
    · subst h
      exact absurd fails not_failsAs_ok

theorem VerifyCourse.heard_of_ok {segment key want attributes}
    (course : VerifyCourse segment key want xs (.ok attributes)) : ∀ x ∈ xs, x.Heard := by
  generalize h : (.ok attributes : Except Error Attributes) = r at course
  cases course with
  | unusable _ fails | refused _ _ fails =>
    subst h
    exact absurd fails not_failsAs_ok
  | matched usable accepted _ =>
    exact List.forall_mem_cons.2
      ⟨Exchange.Accepted.heard usable.1, List.forall_mem_singleton.2 (Exchange.Accepted.heard accepted)⟩
  | differed => cases h

theorem RevertCourse.heard_of_ok {psid} (course : RevertCourse psid xs (.ok ())) : ∀ x ∈ xs, x.Heard := by
  generalize h : (.ok () : Except Error Unit) = r at course
  cases course with
  | reverted accepted => exact List.forall_mem_singleton.2 (Exchange.Accepted.heard accepted)
  | refused _ fails =>
    subst h
    exact absurd fails not_failsAs_ok

theorem FlagsCourse.heard_of_ok {word} (course : FlagsCourse xs (.ok word)) : ∀ x ∈ xs, x.Heard := by
  generalize h : (.ok word : Except Error StatusFlags) = r at course
  cases course with
  | unreadable _ fails =>
    subst h
    exact absurd fails not_failsAs_ok
  | read reached => exact List.forall_mem_singleton.2 fun _ => reached

theorem GeometryCourse.heard_of_ok {geometry} (course : GeometryCourse xs (.ok geometry)) :
    ∀ x ∈ xs, x.Heard := by
  generalize h : (.ok geometry : Except Error Geometry) = r at course
  cases course with
  | unusable _ fails =>
    subst h
    exact absurd fails not_failsAs_ok
  | read usable => exact List.forall_mem_singleton.2 (Exchange.Accepted.heard usable.1)

/-- Behind an operation that succeeded, the drive was heard in every call that mattered. -/
theorem Operation.Course.heard_of_ok {op : Operation} {v : Value} (course : op.Course xs (.ok v)) :
    ∀ x ∈ xs, x.Heard := by
  generalize h : (.ok v : Except Error Value) = r at course
  cases course with
  | @setup _ _ r course | @setLock _ _ _ _ r course | @verify _ _ _ _ r course | @resetSegment _ _ _ r course
  | @factoryReset _ _ r course | @flags _ r course | @supported _ r course | @lockingEnabled _ r course
  | @geometry _ r course =>
    cases r with
    | ok => exact course.heard_of_ok
    | error => cases h

end

/-! ## Error numbers -/

namespace Errno

/-- The table holds the known numbers and no others. -/
theorem lookup_texts_isSome {k : Nat} : (texts.lookup k).isSome ↔ 1 ≤ k ∧ k ≤ 133 ∧ k ≠ 41 ∧ k ≠ 58 := by
  by_cases small : k < 134
  · have table : ∀ k : Fin 134,
        (texts.lookup k.val).isSome ↔ 1 ≤ k.val ∧ k.val ≤ 133 ∧ k.val ≠ 41 ∧ k.val ≠ 58 := by
      decide +kernel
    exact table ⟨k, small⟩
  · have bounded : ∀ entry ∈ texts, entry.1 < 134 := by decide +kernel
    constructor
    · intro found
      obtain ⟨entry, mem, same⟩ := List.lookup_isSome_iff.1 found
      have := bounded entry mem
      simp at same
      omega
    · omega

theorem known_iff {n : Int32} : Known n ↔ (texts.lookup n.toInt.toNat).isSome := by
  rw [lookup_texts_isSome, Known, Int32.le_iff_toInt_le, Int32.le_iff_toInt_le, Ne, Ne, ← Int32.toInt_inj,
    ← Int32.toInt_inj]
  simp only [Int32.reduceToInt]
  omega

theorem ofNumber_of_known {n : Int32} (known : Known n) : ofNumber n = ⟨n.toInt.toNat⟩ := by
  unfold ofNumber
  rw [if_pos (known_iff.1 known)]

theorem ofNumber_of_not_known {n : Int32} (unknown : ¬ Known n) : ofNumber n = ⟨0⟩ := by
  unfold ofNumber
  rw [if_neg fun found => unknown (known_iff.2 found)]

end Errno

theorem Status.classify_ofErrno {k : Nat} (least : 1 ≤ k) (most : k ≤ 133) :
    (Status.ofErrno ⟨k⟩).classify = .system := by
  have all : ∀ k : Fin 134, 1 ≤ k.val → (Status.ofErrno ⟨k.val⟩).classify = .system := by decide
  exact all ⟨k, by omega⟩ least

theorem Procedure.Judges.fails {p : Procedure Unit} {c : StatusClass} {kind : ErrorKind} (judges : p.Judges c kind)
    (refused : c ≠ .success) {σ : Type} (d : Drive σ) (s : σ) : FailsAs (p.run d s).result kind := by
  obtain ⟨-, ⟨accepted, -⟩ | ⟨-, fails⟩⟩ := judges (p.run_yields d s)
  · exact absurd accepted refused
  · exact fails

theorem Status.stops_of_system {status : Status} (system : status.classify = .system) : status.Stops where
  system := system
  expect_fails d s step device := by
    have fails := (expect_judges step device status).fails (by simp [system]) d s
    rwa [system] at fails
  entry_fails d s step device := by
    have fails := (expectEntry_judges step device status).fails (by simp [system]) d s
    rwa [system] at fails
  operation_fails d s device op x mem mandatory same := by
    rcases Operation.procedure_course (Procedure.run_yields d (op.procedure device) s) with
      ⟨-, stopped⟩ | ⟨-, course⟩
    · exact stopped
    · cases h : ((op.procedure device).run d s).result with
      | error e => exact ⟨e, rfl⟩
      | ok v =>
        rw [h] at course
        have heard := course.heard_of_ok x mem mandatory
        rw [same] at heard
        exact absurd system heard

/-- The status of a control call that the kernel refused stops whatever it answers exactly when the kernel's
number is a known one, and is that of a success otherwise. -/
theorem stops_ofControl_iff (n : Int32) :
    ((Status.ofControl (.error (.ofNumber n))).Stops ↔ Errno.Known n) ∧
      (¬ Errno.Known n → Status.ofControl (.error (.ofNumber n)) = .success) := by
  have folded : ¬ Errno.Known n → Status.ofControl (.error (.ofNumber n)) = .success := by
    intro unknown
    rw [Errno.ofNumber_of_not_known unknown]
    rfl
  refine ⟨⟨fun stops => ?_, fun known => ?_⟩, folded⟩
  · refine Classical.byContradiction fun unknown => ?_
    have system := stops.system
    rw [folded unknown] at system
    cases system
  · obtain ⟨least, most, -⟩ := Errno.lookup_texts_isSome.1 (Errno.known_iff.1 known)
    rw [Errno.ofNumber_of_known known]
    exact Status.stops_of_system (Status.classify_ofErrno least most)

/-- Number 41 stands for nothing of its own, so a revert that the kernel refused with it is taken for done. -/
theorem revert_ok_of_refused :
    let status := Status.ofControl (.error (.ofNumber 41))
    let run := ((Operation.factoryReset [1]).procedure "d").run Script.drive
      { answers := [(.psidRevert, [{ status }])] }
    status.classify = .success ∧ (⟨.psidRevert (.fill 0 [1]), ⟨status, ()⟩⟩ : Exchange) ∈ run.trace.exchanges ∧
      run.result = .ok .nothing :=
  ⟨rfl, .head _, rfl⟩

end OpalLocking
