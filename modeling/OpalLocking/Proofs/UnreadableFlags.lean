/-
What comes of a feature word that the drive did not hand over.

A status query that does not succeed should end the operation that made it. It does so when the call never
reached the drive. When the drive itself refused the query, the word is used all the same, as it was submitted or
as the drive left it, and what happens next hangs on its bits: `unreadable_flags_iff` says for which words the
operation still ends there. Provisioning never does, and takes a word of zeros for a drive whose locking was
never enabled.
-/
import OpalLocking.Proofs.EveryOperation
import OpalLocking.Script

namespace OpalLocking

namespace Operation

/-- The kind of error that stands for a failed status query, for the operations that make one. -/
def unreadableKind? : Operation → Option ErrorKind
  | .setup _ | .resetSegment _ _ | .flags | .supported | .lockingEnabled => some .invalid
  | .setLock _ _ _ => some .unsupported
  | .verify _ _ _ | .factoryReset _ | .geometry => none

/-- The operation ends behind this feature word, however it was come by. -/
def EndsOn : Operation → StatusFlags → Prop
  | .resetSegment _ _, word => word.lockingEnabled = false
  | .setLock _ _ _, word => word.supported = false
  | _, _ => False

/-- The operation fails in the kind that stands for a failed query, and asks for nothing more. -/
def StopsUnread (op : Operation) (xs : List Exchange) (r : Except Error Value) : Prop :=
  (∃ kind, op.unreadableKind? = some kind ∧ FailsAs r kind) ∧ xs.map (·.request) = [.getStatus default]

end Operation

/-! ## Where the query stands in each course -/

section

variable {xs : List Exchange} {a : Answer (.getStatus default)}

/-- No plan asks for the feature word once more. -/
theorem Provision.PlanRun.kind_ne_getStatus {p : Provision} {enabled erasure bounds} {r : Except Error Unit}
    (run : p.PlanRun enabled erasure bounds xs r) : ∀ x ∈ xs, x.kind ≠ .getStatus := by
  intro x mem same
  have others : ∀ request ∈ p.calls enabled erasure bounds, request.kind ≠ .getStatus := by
    cases enabled <;> cases erasure <;> simp [calls, wiping, takingOver, Request.kind]
  exact others _ (run.mem_calls mem) same

theorem Provision.Course.unread_iff {p : Provision} {r : Except Error Unit} (course : p.Course xs r)
    (asked : (⟨.getStatus default, a⟩ : Exchange) ∈ xs) :
    (FailsAs r .invalid ∧ xs.map (·.request) = [.getStatus default]) ↔ a.status.classify = .system := by
  cases course with
  | unreadable why fails =>
    obtain rfl := by simpa using asked
    exact ⟨fun _ => why, fun _ => ⟨fails, rfl⟩⟩
  | unfit reached why fails =>
    obtain rfl := by simpa using asked
    exact ⟨fun h => by simp at h, fun h => absurd h reached⟩
  | @planned a' g bounds erasure xs r reached fits run =>
    -- The plan asks for no feature word, so the answer in question is the one before it.
    have first : a = a' := by
      rcases List.mem_cons.1 asked with same | mem
      · simpa using same
      · rcases List.mem_cons.1 mem with same | mem
        · simp at same
        · exact absurd rfl (run.kind_ne_getStatus _ mem)
    subst first
    exact ⟨fun h => by simp at h, fun h => absurd h reached⟩

theorem LockCourse.unread_iff {segment locked key} {r : Except Error Unit}
    (course : LockCourse segment locked key xs r) (asked : (⟨.getStatus default, a⟩ : Exchange) ∈ xs) :
    (FailsAs r .unsupported ∧ xs.map (·.request) = [.getStatus default]) ↔
      a.status.classify = .system ∨ StatusFlags.supported a.reading = false := by
  cases course with
  | unsupported why fails =>
    obtain rfl := by simpa using asked
    exact ⟨fun _ => why, fun _ => ⟨fails, rfl⟩⟩
  | refused reached | locked reached | unlocked _ reached =>
    obtain rfl := by simpa using asked
    exact ⟨fun h => by simp at h, fun h => by simp [reached] at h⟩

theorem ResetCourse.unread_iff {segment password} {r : Except Error Unit}
    (course : ResetCourse segment password xs r) (asked : (⟨.getStatus default, a⟩ : Exchange) ∈ xs) :
    (FailsAs r .invalid ∧ xs.map (·.request) = [.getStatus default]) ↔
      a.status.classify = .system ∨ StatusFlags.lockingEnabled a.reading = false := by
  cases course with
  | unreadable why fails =>
    obtain rfl := by simpa using asked
    exact ⟨fun _ => .inl why, fun _ => ⟨fails, rfl⟩⟩
  | notEnabled reached why fails =>
    obtain rfl := by simpa using asked
    exact ⟨fun _ => .inr why, fun _ => ⟨fails, rfl⟩⟩
  | erased reached | refused reached | disabled reached =>
    obtain rfl := by simpa using asked
    exact ⟨fun h => by simp at h, fun h => by simp [reached] at h⟩

theorem FlagsCourse.unread_iff {r : Except Error StatusFlags} (course : FlagsCourse xs r)
    (asked : (⟨.getStatus default, a⟩ : Exchange) ∈ xs) :
    (FailsAs r .invalid ∧ xs.map (·.request) = [.getStatus default]) ↔ a.status.classify = .system := by
  cases course with
  | unreadable why fails =>
    obtain rfl := by simpa using asked
    exact ⟨fun _ => why, fun _ => ⟨fails, rfl⟩⟩
  | read reached =>
    obtain rfl := by simpa using asked
    exact ⟨fun h => absurd h.1 not_failsAs_ok, fun h => absurd h reached⟩

end

/-! ## Every operation -/

theorem Operation.stopsUnread_map {op : Operation} {kind : ErrorKind} (unreadable : op.unreadableKind? = some kind)
    {α : Type} {r : Except Error α} {f : α → Value} {xs : List Exchange} :
    op.StopsUnread xs (r.map f) ↔ FailsAs r kind ∧ xs.map (·.request) = [.getStatus default] := by
  unfold StopsUnread
  rw [unreadable]
  simp only [Option.some.injEq, failsAs_map, exists_eq_left']

theorem Operation.Course.unread_iff {op : Operation} {xs : List Exchange} {r : Except Error Value}
    {a : Answer (.getStatus default)} (course : op.Course xs r)
    (asked : (⟨.getStatus default, a⟩ : Exchange) ∈ xs) :
    op.StopsUnread xs r ↔ a.status.classify = .system ∨ op.EndsOn a.reading := by
  cases course with
  | setup course | setLock course | resetSegment course | flags course | supported course
  | lockingEnabled course =>
    rw [stopsUnread_map rfl, course.unread_iff asked]
    simp only [EndsOn, or_false]
  | verify course | factoryReset course | geometry course => cases course <;> simp at asked

/-- An operation that asked for the feature word, in any run on any drive, fails in the kind for a failed query
and asks for nothing more exactly when the call never reached the drive, or when it would end on the word that
it was left with. For the status of an answer that did reach the drive, nothing is said: it is not looked at. -/
theorem unreadable_flags_iff {σ : Type} {d : Drive σ} {s : σ} {device : String} {op : Operation}
    {a : Answer (.getStatus default)}
    (asked : (⟨.getStatus default, a⟩ : Exchange) ∈ ((op.procedure device).run d s).trace.exchanges) :
    let run := (op.procedure device).run d s
    ((∃ kind, op.unreadableKind? = some kind ∧ FailsAs run.result kind) ∧
        run.trace.requests = [.getStatus default]) ↔
      a.status.classify = .system ∨ op.EndsOn a.reading := by
  intro run
  rw [Trace.requests_eq]
  rcases Operation.procedure_course (Procedure.run_yields d (op.procedure device) s) with ⟨quiet, -⟩ | ⟨-, course⟩
  · rw [quiet] at asked
    cases asked
  · exact course.unread_iff asked

theorem unreadable_flags_iff_notTypewriter :
    let op : Operation := .setup ⟨1, 0, 8, [1], [2]⟩
    let s : Script := { answers := [(.getStatus, [{ status := .ofErrno .notTypewriter }])] }
    let a : Answer (.getStatus default) := ⟨.ofErrno .notTypewriter, default⟩
    let run := (op.procedure "d").run Script.drive s
    (⟨.getStatus default, a⟩ : Exchange) ∈ run.trace.exchanges ∧
      (((∃ kind, op.unreadableKind? = some kind ∧ FailsAs run.result kind) ∧
          run.trace.requests = [.getStatus default]) ↔
        a.status.classify = .system ∨ op.EndsOn a.reading) :=
  ⟨.head _, unreadable_flags_iff (.head _)⟩

/-- A drive that answers the query with a general failure, and leaves the word as it was, is taken over. -/
theorem unreadable_flags_taken_over :
    let op : Operation := .setup ⟨1, 0, 8, [1], [2]⟩
    let s : Script := {
      answers := [(.getStatus, [{ status := .failure }]),
        (.getGeometry, [{ status := .success, blockSize := some 512 }]),
        (.getRangeStatus, [{
          status := .success, length := some 8, readLock := some 1, writeLock := some 1, state := some 4 }])] }
    let run := (op.procedure "d").run Script.drive s
    op.check = .ok () ∧ (⟨.getStatus default, ⟨.failure, default⟩⟩ : Exchange) ∈ run.trace.exchanges ∧
      Status.failure.classify = .failed ∧ run.result = .ok .nothing ∧
        run.trace.requests[2]? = some (.takeOwnership (.fill 0 [2])) :=
  ⟨rfl, .head _, rfl, rfl, rfl⟩

end OpalLocking
