/-
Two procedures that do the same, up to the bytes of keys.

`Procedure.InStep base live p q` follows two procedures at once. Whatever both are answered alike, they submit requests
that differ in key bytes at most, log the same records, and end with the same result; they open no drive. It counts
their buffers as well: `live` at first and `base` in the end, and at least one wherever a request brings key blocks.
Where there is no memory for a buffer, they give back what they have and end with that error (`Exhausted`).
There is one lemma for each way to compose procedures, and then one for each operation (`Operation.opened_inStep`).
An operation is in step with itself, so what is read off two runs here can be read off one.
-/
import OpalLocking.Proofs.Operations

namespace OpalLocking

/-! ## What is left of a request without its key bytes -/

def KeyBlock.withoutBytes (k : KeyBlock) : KeyBlock :=
  { k with bytes := keyArray [] }

def Session.withoutBytes (s : Session) : Session :=
  { s with key := s.key.withoutBytes }

def LockRequest.withoutBytes (l : LockRequest) : LockRequest :=
  { l with session := l.session.withoutBytes }

/-- The request with zeros in place of all key bytes. Lengths stay. -/
def Request.withoutBytes : Request → Request
  | .takeOwnership key => .takeOwnership key.withoutBytes
  | .activateLsp activation => .activateLsp { activation with key := activation.key.withoutBytes }
  | .setPassword change => .setPassword ⟨change.session.withoutBytes, change.user.withoutBytes⟩
  | .activateUser session => .activateUser session.withoutBytes
  | .setupRange setup => .setupRange { setup with session := setup.session.withoutBytes }
  | .addUserToRange lock => .addUserToRange lock.withoutBytes
  | .eraseRange session => .eraseRange session.withoutBytes
  | .secureEraseRange session => .secureEraseRange session.withoutBytes
  | .psidRevert psid => .psidRevert psid.withoutBytes
  | .lockUnlock lock => .lockUnlock lock.withoutBytes
  | .saveForResume lock => .saveForResume lock.withoutBytes
  | .getStatus reading => .getStatus reading
  | .getGeometry reading => .getGeometry reading
  | .getRangeStatus session reading => .getRangeStatus session.withoutBytes reading

theorem KeyBlock.fill_withoutBytes {range : UInt8} {key key' : Secret} (same : key.length = key'.length) :
    (fill range key).withoutBytes = (fill range key').withoutBytes := by
  simp [fill, withoutBytes, same]

theorem Session.opening_withoutBytes {who : UInt32} {range : UInt8} {key key' : Secret}
    (same : key.length = key'.length) :
    (opening who range key).withoutBytes = (opening who range key').withoutBytes := by
  simp [opening, withoutBytes, KeyBlock.fill_withoutBytes same]

/-- The same answer, to requests that need not be the same. -/
structure Answer.Same {r r' : Request} (a : Answer r) (a' : Answer r') : Prop where
  status : a.status = a'.status
  reading : HEq a.reading a'.reading

theorem Answer.Same.refl {r : Request} (a : Answer r) : a.Same a :=
  ⟨rfl, .rfl⟩

theorem Answer.Same.eq {r : Request} {a a' : Answer r} (same : a.Same a') : a = a' := by
  cases a
  cases a'
  cases same.status
  cases same.reading
  rfl

/-! ## Procedures -/

namespace Procedure

/-- The procedures give back all but `base` of their `live` buffers, and then end for want of memory. -/
inductive Exhausted {α : Type} (base : Nat) : Nat → Procedure α → Procedure α → Prop
  | done : Exhausted base base (.done (.error .outOfMemory)) (.done (.error .outOfMemory))
  | release {live next next'} (rest : Exhausted base live next next') :
      Exhausted base (live + 1) (.release next) (.release next')

/-- Answered alike, the procedures do the same up to key bytes. They start with `live` buffers and end with `base`, also
where there is no memory for another one. -/
inductive InStep {α : Type} (base : Nat) : Nat → Procedure α → Procedure α → Prop
  | done {result} : InStep base base (.done result) (.done result)
  | call {live r r' next next'} (alike : r.withoutBytes = r'.withoutBytes) (sheltered : r.keys ≠ [] → 1 ≤ live)
      (rest : ∀ (a : Answer r) (a' : Answer r'), a.Same a' → InStep base live (next a) (next' a')) :
      InStep base live (.call r next) (.call r' next')
  | log {live record next next'} (rest : InStep base live next next') :
      InStep base live (.log record next) (.log record next')
  | acquire {live} {next next' : Bool → Procedure α} (granted : InStep base (live + 1) (next true) (next' true))
      (refused : Exhausted base live (next false) (next' false)) : InStep base live (.acquire next) (.acquire next')
  | release {live next next'} (rest : InStep base live next next') :
      InStep base (live + 1) (.release next) (.release next')

variable {α β : Type} {base middle live : Nat} {r r' : Request} {level : Level} {topic : Topic} {message : String}

theorem exhausted_continueWith {p q : Procedure α} {f g : Except Error α → Procedure β}
    (first : Exhausted middle live p q) (rest : Exhausted base middle (f (.error .outOfMemory)) (g (.error .outOfMemory))) :
    Exhausted base live (p.continueWith f) (q.continueWith g) := by
  induction first with
  | done => exact rest
  | release _ ih => exact .release ih

theorem inStep_continueWith {p q : Procedure α} {f g : Except Error α → Procedure β} (first : InStep middle live p q)
    (rest : ∀ result, InStep base middle (f result) (g result))
    (exhausted : Exhausted base middle (f (.error .outOfMemory)) (g (.error .outOfMemory))) :
    InStep base live (p.continueWith f) (q.continueWith g) := by
  induction first with
  | done => exact rest _
  | call alike sheltered _ ih => exact .call alike sheltered ih
  | log _ ih => exact .log ih
  | acquire _ refused ih => exact .acquire ih (exhausted_continueWith refused exhausted)
  | release _ ih => exact .release ih

theorem inStep_bind {p q : Procedure α} {f g : α → Procedure β} (first : InStep base live p q)
    (rest : ∀ value, InStep base base (f value) (g value)) : InStep base live (p >>= f) (q >>= g) :=
  inStep_continueWith first
    (fun
      | .ok value => rest value
      | .error _ => .done)
    .done

/-- A buffer is given back however the procedure ends. -/
theorem inStep_withBuffer {p q : Procedure α} (inner : InStep (live + 1) (live + 1) p q) :
    InStep live live p.withBuffer q.withBuffer :=
  .acquire (inStep_continueWith inner (fun _ => .release .done) (.release .done)) .done

theorem inStep_pure {value : α} : InStep live live (pure value) (pure value) :=
  .done

theorem inStep_fail {e : Error} : InStep live live (fail e : Procedure α) (fail e) :=
  .done

theorem inStep_lift {x : Except Error α} : InStep live live (liftM x : Procedure α) (liftM x) :=
  .done

theorem inStep_record : InStep live live (record level topic message) (record level topic message) :=
  .log .done

theorem inStep_record_bind {f g : Unit → Procedure α} (rest : InStep base live (f ()) (g ())) :
    InStep base live (record level topic message >>= f) (record level topic message >>= g) :=
  .log rest

theorem inStep_submit_bind {f : Answer r → Procedure α} {g : Answer r' → Procedure α}
    (alike : r.withoutBytes = r'.withoutBytes) (rest : ∀ a a', a.Same a' → InStep base (live + 1) (f a) (g a')) :
    InStep base (live + 1) (submit r >>= f) (submit r' >>= g) :=
  .call alike (fun _ => Nat.le_add_left 1 live) rest

/-- A request that brings no key needs no buffer. -/
theorem inStep_query_bind {f : Answer r → Procedure α} (keyless : r.keys = [])
    (rest : ∀ a, InStep base live (f a) (f a)) : InStep base live (submit r >>= f) (submit r >>= f) := by
  refine .call rfl (fun keyed => absurd keyless keyed) ?_
  intro a a' same
  rw [same.eq]
  exact rest a'

theorem inStep_ite {c : Prop} [Decidable c] {p p' q q' : Procedure α} (yes : c → InStep base live p p')
    (no : ¬ c → InStep base live q q') : InStep base live (if c then p else q) (if c then p' else q') := by
  by_cases h : c
  · simp only [if_pos h]
    exact yes h
  · simp only [if_neg h]
    exact no h

end Procedure

open Procedure

variable {live : Nat} {device : String} {segment : UInt32}

/-! ## Steps -/

theorem expect_inStep {step : Step} {status : Status} :
    InStep live live (expect step device status) (expect step device status) := by
  unfold expect
  split
  · exact inStep_pure
  · exact inStep_record_bind inStep_fail
  · exact inStep_record_bind inStep_fail
  · exact inStep_record_bind inStep_fail

theorem expectEntry_inStep {step : Step} {status : Status} :
    InStep live live (expectEntry step device status) (expectEntry step device status) := by
  refine inStep_ite (fun _ => ?_) fun _ => ?_
  · exact inStep_record_bind inStep_fail
  · exact expect_inStep

/-- A request whose status is judged and nothing more. -/
theorem submit_expect_inStep {r r' : Request} {step : Step} (alike : r.withoutBytes = r'.withoutBytes) :
    InStep live live
      (.withBuffer do
        let answer ← .submit r
        expect step device answer.status)
      (.withBuffer do
        let answer ← .submit r'
        expect step device answer.status) := by
  refine inStep_withBuffer (inStep_submit_bind alike ?_)
  intro a a' same
  rw [same.status]
  exact expect_inStep

theorem queryFlags_inStep : InStep live live (queryFlags device) (queryFlags device) := by
  refine inStep_query_bind rfl fun a => inStep_ite (fun _ => ?_) fun _ => ?_
  · exact inStep_record_bind inStep_fail
  · exact inStep_pure

theorem queryGeometry_inStep : InStep live live (queryGeometry device) (queryGeometry device) := by
  refine inStep_query_bind rfl fun a => inStep_ite (fun _ => ?_) fun _ => inStep_ite (fun _ => ?_) fun _ => ?_
  · exact inStep_record_bind inStep_fail
  · exact inStep_fail
  · exact inStep_pure

theorem probeSupport_inStep : InStep live live (probeSupport device) (probeSupport device) := by
  unfold probeSupport
  rw [attempt_bind]
  refine inStep_continueWith queryFlags_inStep (fun known => ?_) .done
  cases known with
  | ok flags => exact inStep_pure
  | error e =>
    refine inStep_ite (fun _ => ?_) fun _ => ?_
    · exact inStep_pure
    · exact inStep_fail

theorem eraseRange_inStep {session session' : Session} (alike : session.withoutBytes = session'.withoutBytes) :
    InStep (live + 1) (live + 1) (eraseRange device segment session) (eraseRange device segment session') := by
  refine inStep_submit_bind (congrArg Request.eraseRange alike) fun plain plain' same => ?_
  rw [same.status]
  refine inStep_ite (fun _ => inStep_pure) fun _ => inStep_record_bind ?_
  refine inStep_submit_bind (congrArg Request.secureEraseRange alike) fun secure secure' same => ?_
  rw [same.status]
  have judged : InStep (live + 1) (live + 1)
      (do expect (.erase segment) device secure'.status; return Erasure.secure)
      (do expect (.erase segment) device secure'.status; return Erasure.secure) :=
    inStep_bind expect_inStep fun _ => inStep_pure
  refine inStep_ite (fun _ => ?_) fun _ => ?_
  · exact inStep_record_bind judged
  · exact judged

theorem saveForResume_inStep {l l' : LockRequest} (alike : l.withoutBytes = l'.withoutBytes) :
    InStep (live + 1) (live + 1) (saveForResume device segment l) (saveForResume device segment l') := by
  have keeping := congrArg (fun l : LockRequest => Request.saveForResume { l with flags := saveForLock }) alike
  refine inStep_submit_bind keeping fun a a' same => ?_
  rw [same.status]
  refine inStep_ite (fun _ => ?_) fun _ => ?_
  · exact inStep_record
  · exact inStep_record

theorem readRange_inStep {key key' : Secret} (same : key.length = key'.length) :
    InStep live live (readRange device segment key) (readRange device segment key') := by
  refine inStep_withBuffer (inStep_submit_bind ?_ fun a a' same => ?_)
  · exact congrArg (Request.getRangeStatus · default) (Session.opening_withoutBytes same)
  obtain ⟨status, reading⟩ := a
  obtain ⟨_, _⟩ := a'
  obtain ⟨rfl, same⟩ := same
  cases same
  have judged : InStep (live + 1) (live + 1)
      (do expect (.readRange segment) device status; return reading)
      (do expect (.readRange segment) device status; return reading) :=
    inStep_bind expect_inStep fun _ => inStep_pure
  refine inStep_ite (fun _ => ?_) fun _ => ?_
  · exact inStep_record_bind judged
  · exact judged

theorem reportMismatches_inStep {ms : List Mismatch} :
    InStep live live (reportMismatches segment ms) (reportMismatches segment ms) := by
  induction ms with
  | nil => exact inStep_pure
  | cons m rest ih =>
    refine inStep_bind (inStep_ite (fun _ => ?_) fun _ => ?_) fun _ => ih
    · exact inStep_record_bind inStep_record
    · exact inStep_record

/-! ## Operations on an open drive -/

/-- The key of a lock request, if there is one, has the same length. -/
theorem setLockOpened_inStep {locked : Bool} {key key' : Option Secret}
    (same : key.map List.length = key'.map List.length) :
    InStep live live (setLockOpened device segment locked key) (setLockOpened device segment locked key') := by
  have alike : ∀ state, (lockRequest segment state key).withoutBytes = (lockRequest segment state key').withoutBytes := by
    intro state
    cases key with
    | none =>
      cases key' with
      | none => rfl
      | some key' => cases same
    | some key =>
      cases key' with
      | none => cases same
      | some key' =>
        simp [lockRequest, LockRequest.withoutBytes, Session.withoutBytes,
          KeyBlock.fill_withoutBytes (Option.some.inj same)]
  refine inStep_bind probeSupport_inStep fun supported => inStep_ite (fun _ => inStep_fail) fun _ => ?_
  refine inStep_withBuffer (inStep_submit_bind (congrArg Request.lockUnlock (alike _)) fun a a' same => ?_)
  rw [same.status]
  refine inStep_bind expectEntry_inStep fun _ => ?_
  cases locked with
  | true => exact inStep_record
  | false => exact inStep_bind (saveForResume_inStep (alike _)) fun _ => inStep_record

theorem verifyOpened_inStep {key key' : Secret} {want : Expectations} (same : key.length = key'.length) :
    InStep live live (verifyOpened device segment key want) (verifyOpened device segment key' want) := by
  refine inStep_bind queryGeometry_inStep fun g => inStep_bind (readRange_inStep same) fun reading => ?_
  refine inStep_ite (fun _ => ?_) fun _ => ?_
  · exact inStep_pure
  · exact inStep_bind reportMismatches_inStep fun _ => inStep_fail

theorem resetSegmentOpened_inStep {password password' : Secret} (same : password.length = password'.length) :
    InStep live live (resetSegmentOpened device segment password) (resetSegmentOpened device segment password') := by
  have alike : (adminSession segment.toUInt8 password).withoutBytes =
      (adminSession segment.toUInt8 password').withoutBytes := Session.opening_withoutBytes same
  refine inStep_bind queryFlags_inStep fun flags => inStep_ite (fun _ => inStep_fail) fun _ => ?_
  refine inStep_withBuffer (inStep_bind (eraseRange_inStep alike) fun erasure => ?_)
  cases erasure with
  | plain => exact inStep_record
  | secure =>
    refine inStep_bind (submit_expect_inStep ?_) fun _ => inStep_record
    simp [Request.withoutBytes, alike]

theorem factoryResetOpened_inStep {psid psid' : Secret} (same : psid.length = psid'.length) :
    InStep live live (factoryResetOpened device psid) (factoryResetOpened device psid') := by
  have alike : (Request.psidRevert (.fill 0 psid)).withoutBytes = (Request.psidRevert (.fill 0 psid')).withoutBytes :=
    congrArg Request.psidRevert (KeyBlock.fill_withoutBytes same)
  -- The buffer is given back before the answer is looked at, so the answer is followed by hand.
  refine .acquire (.call alike (fun _ => Nat.le_add_left 1 live) fun a a' same => .release ?_) .done
  obtain ⟨status, _⟩ := a
  obtain ⟨_, _⟩ := a'
  obtain ⟨rfl, -⟩ := same
  refine inStep_ite (fun _ => ?_) fun _ => ?_
  · exact inStep_record_bind inStep_fail
  · exact inStep_bind expectEntry_inStep fun _ => inStep_record

/-- The same range at the same bounds, with keys of the same lengths. -/
structure Provision.SameButKeys (p q : Provision) : Prop where
  segment : p.segment = q.segment
  start : p.start = q.start
  length : p.length = q.length
  volumeKey : p.volumeKey.length = q.volumeKey.length
  adminKey : p.adminKey.length = q.adminKey.length

theorem Provision.run_inStep {p q : Provision} (same : p.SameButKeys q) {bounds : BlockBounds} (step : SetupStep) :
    InStep live live (p.run device bounds step) (q.run device bounds step) := by
  obtain ⟨segment, start, length, volumeKey, adminKey⟩ := p
  obtain ⟨_, _, _, volumeKey', adminKey'⟩ := q
  obtain ⟨rfl, rfl, rfl, volume, admin⟩ := same
  have owner : ∀ range, (KeyBlock.fill range adminKey).withoutBytes = (KeyBlock.fill range adminKey').withoutBytes :=
    fun _ => KeyBlock.fill_withoutBytes admin
  have asAdmin : ∀ who range,
      (Session.opening who range adminKey).withoutBytes = (Session.opening who range adminKey').withoutBytes :=
    fun _ _ => Session.opening_withoutBytes admin
  have asUser : ∀ who range,
      (Session.opening who range volumeKey).withoutBytes = (Session.opening who range volumeKey').withoutBytes :=
    fun _ _ => Session.opening_withoutBytes volume
  cases step with
  | takeOwnership =>
    refine inStep_withBuffer (inStep_submit_bind (congrArg Request.takeOwnership (owner 0)) fun a a' same => ?_)
    rw [same.status]
    exact expectEntry_inStep
  | activateLockingSp =>
    refine submit_expect_inStep ?_
    simp [Request.withoutBytes, activation, owner]
  | eraseRange =>
    refine inStep_withBuffer (inStep_bind (eraseRange_inStep (asAdmin _ _)) fun _ => ?_)
    exact inStep_record
  | activateUser =>
    exact submit_expect_inStep (congrArg Request.activateUser (asAdmin _ _))
  | grantReadOnly | grantReadWrite =>
    refine submit_expect_inStep ?_
    simp [Request.withoutBytes, grant, LockRequest.withoutBytes, asAdmin, user, range]
  | setUserPassword =>
    simp only [run, volume]
    refine inStep_record_bind (submit_expect_inStep ?_)
    simp [Request.withoutBytes, passwordChange, adminSession, asAdmin, asUser, user, range]
  | configureRange =>
    refine submit_expect_inStep ?_
    simp [Request.withoutBytes, setup, adminSession, asAdmin, range]
  | lockRange =>
    refine submit_expect_inStep ?_
    simp [Request.withoutBytes, lockRequest, LockRequest.withoutBytes, Session.withoutBytes,
      KeyBlock.fill_withoutBytes volume]
  | verify => exact inStep_bind (verifyOpened_inStep volume) fun _ => inStep_pure

theorem Provision.runAll_inStep {p q : Provision} (same : p.SameButKeys q) {bounds : BlockBounds}
    (steps : List SetupStep) : InStep live live (p.runAll device bounds steps) (q.runAll device bounds steps) := by
  induction steps with
  | nil => exact inStep_pure
  | cons step rest ih =>
    rw [runAll, runAll, same.segment]
    exact inStep_record_bind (inStep_bind (run_inStep same step) fun _ => ih)

theorem setupOpened_inStep {p q : Provision} (same : p.SameButKeys q) :
    InStep live live (setupOpened device p) (setupOpened device q) := by
  have bounds : p.blockBounds = q.blockBounds := by
    funext g
    simp only [Provision.blockBounds, same.start, same.length]
  rw [setupOpened, setupOpened, bounds, same.segment]
  refine inStep_bind queryFlags_inStep fun flags => inStep_bind queryGeometry_inStep fun g => ?_
  refine inStep_bind inStep_lift fun bounds => ?_
  exact inStep_bind (Provision.runAll_inStep same _) fun _ => inStep_record

namespace Operation

/-- The same operation, with keys of the same lengths. -/
inductive SameButKeys : Operation → Operation → Prop
  | setup {p q : Provision} (same : p.SameButKeys q) : SameButKeys (.setup p) (.setup q)
  | setLock {segment : UInt32} {locked : Bool} {key key' : Option Secret} (same : key.map List.length = key'.map List.length) :
      SameButKeys (.setLock segment locked key) (.setLock segment locked key')
  | verify {segment : UInt32} {want : Expectations} {key key' : Secret} (same : key.length = key'.length) :
      SameButKeys (.verify segment key want) (.verify segment key' want)
  | resetSegment {segment : UInt32} {password password' : Secret} (same : password.length = password'.length) :
      SameButKeys (.resetSegment segment password) (.resetSegment segment password')
  | factoryReset {psid psid' : Secret} (same : psid.length = psid'.length) :
      SameButKeys (.factoryReset psid) (.factoryReset psid')
  | flags : SameButKeys .flags .flags
  | supported : SameButKeys .supported .supported
  | lockingEnabled : SameButKeys .lockingEnabled .lockingEnabled
  | geometry : SameButKeys .geometry .geometry

theorem SameButKeys.refl (op : Operation) : op.SameButKeys op := by
  cases op with
  | setup p => exact .setup ⟨rfl, rfl, rfl, rfl, rfl⟩
  | setLock => exact .setLock rfl
  | verify => exact .verify rfl
  | resetSegment => exact .resetSegment rfl
  | factoryReset => exact .factoryReset rfl
  | flags => exact .flags
  | supported => exact .supported
  | lockingEnabled => exact .lockingEnabled
  | geometry => exact .geometry

/-- No operation does anything different on an open drive for the bytes of its keys. -/
theorem opened_inStep {op op' : Operation} (same : op.SameButKeys op') :
    InStep live live (op.opened device) (op'.opened device) := by
  cases same with
  | setup same => exact inStep_bind (setupOpened_inStep same) fun _ => inStep_pure
  | setLock same => exact inStep_bind (setLockOpened_inStep same) fun _ => inStep_pure
  | verify same => exact inStep_bind (verifyOpened_inStep same) fun _ => inStep_pure
  | resetSegment same => exact inStep_bind (resetSegmentOpened_inStep same) fun _ => inStep_pure
  | factoryReset same => exact inStep_bind (factoryResetOpened_inStep same) fun _ => inStep_pure
  | flags | supported | lockingEnabled => exact inStep_bind queryFlags_inStep fun _ => inStep_pure
  | geometry => exact inStep_bind queryGeometry_inStep fun _ => inStep_pure

/-- An operation leaves no buffer behind that it took on the open drive. -/
theorem inStep_self (op : Operation) : InStep 0 0 (op.opened device) (op.opened device) :=
  opened_inStep (.refl op)

end Operation

end OpalLocking
