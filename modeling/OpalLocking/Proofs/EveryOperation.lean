/-
The courses of all operations as one, so that a statement about every operation is proved case by case.
-/
import OpalLocking.Proofs.ProvisioningPlan

namespace OpalLocking

open Procedure (yields_bind_pure)

theorem failsAs_map {α β : Type} {r : Except Error α} {f : α → β} {kind : ErrorKind} :
    FailsAs (r.map f) kind ↔ FailsAs r kind := by
  cases r <;> simp [FailsAs, Except.map]

namespace Operation

/-- The calls that an operation makes on an open drive, with the result that they lead to. -/
inductive Course : Operation → List Exchange → Except Error Value → Prop
  | setup {p xs r} (course : Provision.Course p xs r) : Course (.setup p) xs (r.map fun _ => .nothing)
  | setLock {segment locked key xs r} (course : LockCourse segment locked key xs r) :
      Course (.setLock segment locked key) xs (r.map fun _ => .nothing)
  | verify {segment key want xs r} (course : VerifyCourse segment key want xs r) :
      Course (.verify segment key want) xs (r.map .attributes)
  | resetSegment {segment password xs r} (course : ResetCourse segment password xs r) :
      Course (.resetSegment segment password) xs (r.map fun _ => .nothing)
  | factoryReset {psid xs r} (course : RevertCourse psid xs r) :
      Course (.factoryReset psid) xs (r.map fun _ => .nothing)
  | flags {xs r} (course : FlagsCourse xs r) : Course .flags xs (r.map .flags)
  | supported {xs r} (course : FlagsCourse xs r) : Course .supported xs (r.map (.truth ·.supported))
  | lockingEnabled {xs r} (course : FlagsCourse xs r) : Course .lockingEnabled xs (r.map (.truth ·.lockingEnabled))
  | geometry {xs r} (course : GeometryCourse xs r) : Course .geometry xs (r.map .geometry)

variable {device : String} {op : Operation} {t : Trace} {r : Except Error Value}

/-- No drive makes an operation leave its courses. -/
theorem opened_course (h : (op.opened device).Yields t r) : op.Course t.exchanges r := by
  cases op <;> obtain ⟨r₁, yields, rfl⟩ := yields_bind_pure.1 h
  case setup => exact .setup (setupOpened_course yields)
  case setLock => exact .setLock (setLockOpened_course yields)
  case verify => exact .verify (verifyOpened_course yields)
  case resetSegment => exact .resetSegment (resetSegmentOpened_course yields)
  case factoryReset => exact .factoryReset (factoryResetOpened_course yields)
  case flags => exact .flags (queryFlags_course yields)
  case supported => exact .supported (queryFlags_course yields)
  case lockingEnabled => exact .lockingEnabled (queryFlags_course yields)
  case geometry => exact .geometry (queryGeometry_course yields)

/-- An operation is refused before its first call, or takes one of its courses with valid arguments. -/
theorem procedure_course (h : (op.procedure device).Yields t r) :
    (t.exchanges = [] ∧ ∃ e, r = .error e) ∨ (op.check = .ok () ∧ op.Course t.exchanges r) := by
  rcases procedure_yields h with stopped | ⟨valid, t', rfl, opened⟩
  · exact .inl stopped
  · exact .inr ⟨valid, by simpa using opened_course opened⟩

end Operation

end OpalLocking
