/-
What an operation about one segment has to do with a drive in use.

`Procedure.Stays segment p` is read off the procedure itself: as long as the drive says that locking is enabled, `p`
submits nothing but requests of this segment (`Request.Own`), and all that it ever makes of the feature word is whether
locking is supported and whether it is enabled (`Answer.Alike`). There is one lemma for each way to compose procedures,
and then one for each operation.
-/
import OpalLocking.Proofs.Arguments
import OpalLocking.Proofs.ProvisioningPlan

namespace OpalLocking

variable {α β : Type} {segment : UInt32} {device : String} {request : Request}

/-! ## Requests and answers -/

/-- Is about the range of this segment, and made by its user or by Admin1; or is a query about the whole drive. -/
def Request.About (segment : UInt32) : Request → Prop
  | .takeOwnership _ | .activateLsp _ | .psidRevert _ => False
  | .setPassword change =>
    change.session.who = Authority.admin1.who ∧ change.user.who = (Authority.ofSegment segment).who
  | .activateUser session => session.who = (Authority.ofSegment segment).who
  | .setupRange setup => setup.session.key.range = segment.toUInt8
  | .eraseRange session | .secureEraseRange session => session.key.range = segment.toUInt8
  | .addUserToRange lock | .lockUnlock lock | .saveForResume lock =>
    lock.session.key.range = segment.toUInt8 ∧ lock.session.who = (Authority.ofSegment segment).who
  | .getRangeStatus session _ =>
    session.key.range = segment.toUInt8 ∧ session.who = (Authority.ofSegment segment).who
  | .getStatus _ | .getGeometry _ => True

/-- A request of a segment that is handed out. -/
structure Request.Own (segment : UInt32) (request : Request) : Prop where
  valid : checkSegment segment = .ok ()
  about : request.About segment

/-- Answers that no operation about a segment tells apart. -/
def Answer.Alike : {request : Request} → Answer request → Answer request → Prop
  | .getStatus _, a, b =>
    a.status = b.status ∧ StatusFlags.supported a.reading = StatusFlags.supported b.reading ∧
      StatusFlags.lockingEnabled a.reading = StatusFlags.lockingEnabled b.reading
  | _, a, b => a = b

/-- An answer as a drive gives it whose locking is enabled. -/
def Answer.InUse : {request : Request} → Answer request → Prop
  | .getStatus _, a => StatusFlags.lockingEnabled a.reading = true
  | _, _ => True

theorem Answer.Alike.eq {a b : Answer request} (alike : a.Alike b) (noFlags : request.kind ≠ .getStatus) : a = b := by
  cases request with
  | getStatus => exact absurd rfl noFlags
  | _ => exact alike

theorem Answer.Alike.refl (a : Answer request) : a.Alike a := by
  cases request with
  | getStatus => exact ⟨rfl, rfl, rfl⟩
  | _ => exact rfl

/-! ## Procedures -/

namespace Procedure

/-- On a drive in use the procedure makes no other requests than those of the segment, and answers that are alike lead
it on in the same way. -/
def Stays (segment : UInt32) : Procedure α → Prop
  | .done _ => True
  | .openDrive next => ∀ outcome, (next outcome).Stays segment
  | .call request next =>
    request.Own segment ∧ (∀ a b : Answer request, a.Alike b → next a = next b) ∧
      ∀ a : Answer request, a.InUse → (next a).Stays segment
  | .acquire next => ∀ granted, (next granted).Stays segment
  | .log _ next | .release next => next.Stays segment

theorem stays_continueWith {p : Procedure α} {f : Except Error α → Procedure β} (first : p.Stays segment)
    (rest : ∀ r, (f r).Stays segment) : (p.continueWith f).Stays segment := by
  induction p with
  | done result => exact rest result
  | openDrive next ih => exact fun outcome => ih outcome (first outcome)
  | call request next ih =>
    obtain ⟨own, blind, onwards⟩ := first
    exact ⟨own, fun a b alike => congrArg (·.continueWith f) (blind a b alike), fun a inUse => ih a (onwards a inUse)⟩
  | log record next ih => exact ih first
  | acquire next ih => exact fun granted => ih granted (first granted)
  | release next ih => exact ih first

theorem stays_bind {p : Procedure α} {f : α → Procedure β} (first : p.Stays segment)
    (rest : ∀ v, (f v).Stays segment) : (p >>= f).Stays segment :=
  stays_continueWith first fun
    | .ok v => rest v
    | .error _ => trivial

theorem stays_attempt {p : Procedure α} (h : p.Stays segment) : p.attempt.Stays segment :=
  stays_continueWith h fun _ => trivial

theorem stays_withBuffer {p : Procedure α} (h : p.Stays segment) : p.withBuffer.Stays segment :=
  fun
    | true => stays_continueWith h fun _ => trivial
    | false => trivial

theorem stays_lift (x : Except Error α) : (liftM x : Procedure α).Stays segment :=
  trivial

theorem stays_record_bind {level : Level} {topic : Topic} {message : String} {f : Unit → Procedure α}
    (rest : (f ()).Stays segment) : (record level topic message >>= f).Stays segment :=
  rest

theorem stays_submit (own : request.Own segment) (noFlags : request.kind ≠ .getStatus) :
    (submit request).Stays segment :=
  ⟨own, fun _ _ alike => congrArg _ (congrArg _ (alike.eq noFlags)), fun _ _ => trivial⟩

theorem stays_submit_bind {f : Answer request → Procedure α} (own : request.Own segment)
    (noFlags : request.kind ≠ .getStatus) (rest : ∀ a, (f a).Stays segment) :
    (submit request >>= f).Stays segment :=
  stays_bind (stays_submit own noFlags) rest

end Procedure

open Procedure

/-! ## Steps -/

theorem openDevice_stays : (openDevice device).Stays segment
  | .ok _ => trivial
  | .error _ => trivial

theorem expect_stays {step : Step} {status : Status} : (expect step device status).Stays segment := by
  unfold expect
  split <;> trivial

theorem expectEntry_stays {step : Step} {status : Status} : (expectEntry step device status).Stays segment := by
  unfold expectEntry
  split
  · trivial
  · exact expect_stays

/-- A request whose status is judged and nothing more. -/
theorem submit_expect_stays {step : Step} (own : request.Own segment) (noFlags : request.kind ≠ .getStatus) :
    (Procedure.withBuffer do
      let answer ← .submit request
      expect step device answer.status).Stays segment :=
  stays_withBuffer (stays_submit_bind own noFlags fun _ => expect_stays)

/-- Of the feature word two bits are used at most. -/
theorem queryFlags_bind_stays {f : StatusFlags → Procedure α} (valid : checkSegment segment = .ok ())
    (blind : ∀ x y : StatusFlags, x.supported = y.supported → x.lockingEnabled = y.lockingEnabled → f x = f y)
    (rest : ∀ x : StatusFlags, x.lockingEnabled = true → (f x).Stays segment) :
    (queryFlags device >>= f).Stays segment := by
  unfold queryFlags
  refine ⟨⟨valid, trivial⟩, ?_, ?_⟩
  · rintro ⟨status, x⟩ ⟨_, y⟩ ⟨rfl, supported, enabled⟩
    show (if _ then _ else _) >>= f = (if _ then _ else _) >>= f
    split
    · rfl
    · exact blind x y supported enabled
  · rintro ⟨status, x⟩ inUse
    show Stays segment ((if _ then _ else _) >>= f)
    split
    · trivial
    · exact rest x inUse

theorem probeSupport_stays (valid : checkSegment segment = .ok ()) : (probeSupport device).Stays segment := by
  unfold probeSupport queryFlags
  refine ⟨⟨valid, trivial⟩, ?_, ?_⟩
  · rintro ⟨status, x⟩ ⟨_, y⟩ ⟨rfl, supported, -⟩
    show attempt (if _ then _ else _) >>= _ = attempt (if _ then _ else _) >>= _
    split
    · rfl
    · exact congrArg (fun known => Procedure.done (.ok known)) supported
  · rintro ⟨status, x⟩ -
    show Stays segment (attempt (if _ then _ else _) >>= _)
    split <;> trivial

theorem queryGeometry_stays (valid : checkSegment segment = .ok ()) : (queryGeometry device).Stays segment := by
  refine stays_submit_bind ⟨valid, trivial⟩ nofun fun g => ?_
  split
  · trivial
  · split <;> trivial

theorem eraseRange_stays {session : Session} (own : (Request.eraseRange session).Own segment) :
    (eraseRange device segment session).Stays segment := by
  refine stays_submit_bind own nofun fun plain => ?_
  split
  · trivial
  · refine stays_record_bind (stays_submit_bind ⟨own.valid, own.about⟩ nofun fun secure => ?_)
    split
    · exact stays_record_bind (stays_bind expect_stays fun _ => trivial)
    · exact stays_bind expect_stays fun _ => trivial

theorem saveForResume_stays {lock : LockRequest} (own : (Request.saveForResume lock).Own segment) :
    (saveForResume device segment lock).Stays segment := by
  refine stays_submit_bind ⟨own.valid, own.about⟩ nofun fun answer => ?_
  split <;> trivial

theorem readRange_stays {key : Secret} (valid : checkSegment segment = .ok ()) :
    (readRange device segment key).Stays segment := by
  refine stays_withBuffer (stays_submit_bind ⟨valid, rfl, rfl⟩ nofun fun answer => ?_)
  split
  · exact stays_record_bind (stays_bind expect_stays fun _ => trivial)
  · exact stays_bind expect_stays fun _ => trivial

theorem reportMismatches_stays (ms : List Mismatch) : (reportMismatches segment ms).Stays segment := by
  induction ms with
  | nil => trivial
  | cons m rest ih =>
    refine stays_bind ?_ fun _ => ih
    unfold reportMismatch
    split <;> trivial

/-! ## Operations -/

theorem setLockOpened_stays {locked : Bool} {key : Option Secret} (valid : checkSegment segment = .ok ()) :
    (setLockOpened device segment locked key).Stays segment := by
  have own : (Request.lockUnlock (lockOperationRequest segment locked key)).Own segment := by
    cases key <;> exact ⟨valid, rfl, rfl⟩
  refine stays_bind (probeSupport_stays valid) fun supported => ?_
  split
  · trivial
  · refine stays_withBuffer (stays_submit_bind own nofun fun answer => stays_bind expectEntry_stays fun _ => ?_)
    cases locked with
    | true => trivial
    | false => exact stays_bind (saveForResume_stays ⟨valid, own.about⟩) fun _ => trivial

theorem verifyOpened_stays {key : Secret} {want : Expectations} (valid : checkSegment segment = .ok ()) :
    (verifyOpened device segment key want).Stays segment := by
  refine stays_bind (queryGeometry_stays valid) fun g => stays_bind (readRange_stays valid) fun reading => ?_
  dsimp only
  split
  · trivial
  · exact stays_bind (reportMismatches_stays _) fun _ => trivial

theorem resetSegmentOpened_stays {password : Secret} (valid : checkSegment segment = .ok ()) :
    (resetSegmentOpened device segment password).Stays segment := by
  refine queryFlags_bind_stays valid (fun x y _ enabled => by rw [enabled]) fun flags enabled => ?_
  rw [enabled]
  refine stays_withBuffer (stays_bind (eraseRange_stays ⟨valid, rfl⟩) fun erasure => ?_)
  cases erasure with
  | plain => trivial
  | secure => exact stays_bind (submit_expect_stays ⟨valid, rfl⟩ nofun) fun _ => trivial

namespace Provision

variable {p : Provision} {bounds : BlockBounds}

/-- Only the steps that take a drive over do more than that. -/
theorem run_stays {step : SetupStep} (valid : checkSegment p.segment = .ok ())
    (inUse : step ∈ SetupStep.plan true) : (p.run device bounds step).Stays p.segment := by
  cases step with
  | takeOwnership | activateLockingSp => simp [SetupStep.plan, SetupStep.shared] at inUse
  | eraseRange => exact stays_withBuffer (stays_bind (eraseRange_stays ⟨valid, rfl⟩) fun _ => trivial)
  | activateUser => exact submit_expect_stays ⟨valid, rfl⟩ nofun
  | setUserPassword => exact stays_record_bind (submit_expect_stays ⟨valid, rfl, rfl⟩ nofun)
  | configureRange => exact submit_expect_stays ⟨valid, rfl⟩ nofun
  | grantReadOnly | grantReadWrite | lockRange => exact submit_expect_stays ⟨valid, rfl, rfl⟩ nofun
  | verify => exact stays_bind (verifyOpened_stays valid) fun _ => trivial

theorem runAll_stays {steps : List SetupStep} (h : ∀ step ∈ steps, (p.run device bounds step).Stays segment) :
    (p.runAll device bounds steps).Stays segment := by
  induction steps with
  | nil => trivial
  | cons step steps ih =>
    obtain ⟨here, rest⟩ := List.forall_mem_cons.1 h
    exact stays_record_bind (stays_bind here fun _ => ih rest)

end Provision

theorem setupOpened_stays {p : Provision} (valid : checkSegment p.segment = .ok ()) :
    (setupOpened device p).Stays p.segment := by
  refine queryFlags_bind_stays valid (fun x y _ enabled => by rw [enabled]) fun flags enabled => ?_
  rw [enabled]
  refine stays_bind (queryGeometry_stays valid) fun g => stays_bind (stays_lift _) fun bounds => ?_
  exact stays_bind (Provision.runAll_stays fun step mem => Provision.run_stays valid mem) fun _ => trivial

namespace Operation

/-- An operation about a segment stays there, with whatever arguments. -/
theorem procedure_stays {op : Operation} (about : op.segment? = some segment) :
    (op.procedure device).Stays segment := by
  rw [procedure_eq]
  cases passed : op.check with
  | error e => trivial
  | ok =>
    have valid := checkSegment_of_check passed about
    refine stays_bind (stays_lift _) fun _ => stays_bind openDevice_stays fun _ => ?_
    cases op with
    | setup p =>
      cases about
      exact stays_bind (setupOpened_stays valid) fun _ => trivial
    | setLock =>
      cases about
      exact stays_bind (setLockOpened_stays valid) fun _ => trivial
    | verify =>
      cases about
      exact stays_bind (verifyOpened_stays valid) fun _ => trivial
    | resetSegment =>
      cases about
      exact stays_bind (resetSegmentOpened_stays valid) fun _ => trivial
    | factoryReset | flags | supported | lockingEnabled | geometry => cases about

/-- Runs operations one after the other, whatever becomes of each. -/
def sequence (device : String) : List Operation → Procedure (List (Except Error Value))
  | [] => pure []
  | op :: ops => do
    let result ← (op.procedure device).attempt
    let results ← sequence device ops
    return result :: results

theorem sequence_stays {ops : List Operation} (about : ∀ op ∈ ops, op.segment? = some segment) :
    (sequence device ops).Stays segment := by
  induction ops with
  | nil => trivial
  | cons op ops ih =>
    obtain ⟨here, rest⟩ := List.forall_mem_cons.1 about
    exact stays_bind (stays_attempt (procedure_stays here)) fun _ => stays_bind (ih rest) fun _ => trivial

end Operation

end OpalLocking
