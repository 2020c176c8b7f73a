/-
What each control call does to a vault that accepts it, and what it takes for that.

`Vault.Effect c v request v'` has one constructor for each way in which a call can be accepted, with what was
checked on the way. A call that is refused leaves the vault as it was (`perform?_settles`), so every property of
what calls do to a vault is proved by cases on `Vault.Effect`, and the calls themselves are opened here only.

A call that takes a queued status never reaches the vault. `SimulatedDrive.Answered` says what any call leaves behind,
whatever the drive is like and whatever is queued on it.
-/
import OpalLocking.Simulator.Basic
import OpalLocking.Proofs.Yields

namespace OpalLocking

namespace Simulator

variable {c : Config} {v v' : Vault}

/-! ## Changes of a range and of a user -/

/-- A range with the bounds and the lock enables that were asked for. -/
def Range.configure (c : Config) (setup : RangeSetup) (r : Range) : Range :=
  { r with
    snapshot := { r.snapshot with
      start := c.round setup.start
      length := c.round setup.length
      readLockEnabled := setup.readLock ≠ 0
      writeLockEnabled := setup.writeLock ≠ 0 } }

/-- A range with its lock in another state. -/
def Range.turn (word : UInt32) (r : Range) : Range :=
  { r with snapshot.state := word }

/-- A range with the key of a request kept, or with none. -/
def Range.keep (lock : LockRequest) (r : Range) : Range :=
  { r with
    saved :=
      if lock.flags &&& saveForLock ≠ 0 then some (lock.session.who, lock.session.key.content) else none }

namespace Vault

/-- The vault behind a change of one of its ranges. -/
def RangeChanged (v : Vault) (range : UInt8) (change : Range → Range) (v' : Vault) : Prop :=
  ∃ ranges, modify? v.ranges range.toNat change = some ranges ∧ v' = { v with ranges }

/-- The vault behind a change of one of its users. -/
def UserChanged (v : Vault) (who : UInt32) (change : User → User) (v' : Vault) : Prop :=
  ∃ users, modify? v.users who.toNat change = some users ∧ v' = { v with users }

/-! ## Effects -/

/-- An accepted call, with what it took and the vault that it left. -/
inductive Effect (c : Config) (v : Vault) : Request → Vault → Prop
  | takeOwnership {key} (free : v.owner = none) :
      Effect c v (.takeOwnership key) { v with owner := some key.content }
  | keepOwnership {key} (owner : v.owner = some key.content) : Effect c v (.takeOwnership key) v
  | activateLsp {activation : Activation} (few : activation.count.toNat ≤ rangeCount)
      (owner : v.owner = some activation.key.content) :
      Effect c v (.activateLsp activation)
        { v with admin := some activation.key.content, lockingEnabled := true }
  | setAdminPassword {change : NewPassword}
      (proven : v.authenticates? change.session.who change.session.key.content = some true)
      (mayChange : change.session.who = Authority.admin1.who ∨ change.session.who = change.user.who)
      (target : change.user.who = Authority.admin1.who) :
      Effect c v (.setPassword change) { v with admin := some change.user.key.content }
  | setUserPassword {change : NewPassword} {v'}
      (proven : v.authenticates? change.session.who change.session.key.content = some true)
      (mayChange : change.session.who = Authority.admin1.who ∨ change.session.who = change.user.who)
      (target : isUser change.user.who = true)
      (changed : v.UserChanged change.user.who (fun u => { u with password := some change.user.key.content }) v') :
      Effect c v (.setPassword change) v'
  | activateUser {session : Session} {v'} (admin : v.isAdmin session.key.content = true)
      (target : isUser session.who = true)
      (changed : v.UserChanged session.who (fun u => { u with enabled := true }) v') :
      Effect c v (.activateUser session) v'
  | setupRange {setup : RangeSetup} {v'} (who : setup.session.who = Authority.admin1.who)
      (admin : v.isAdmin setup.session.key.content = true)
      (changed : v.RangeChanged setup.session.key.range (·.configure c setup) v') : Effect c v (.setupRange setup) v'
  | grantRead {grant : LockRequest} {r : Range} {readGrants v'}
      (admin : v.isAdmin grant.session.key.content = true) (user : isUser grant.session.who = true)
      (word : grant.state = LockState.readOnly.word) (there : v.ranges[grant.session.key.range.toNat]? = some r)
      (granted : modify? r.readGrants grant.session.who.toNat (fun _ => true) = some readGrants)
      (changed : v.RangeChanged grant.session.key.range ({ · with readGrants }) v') :
      Effect c v (.addUserToRange grant) v'
  | grantWrite {grant : LockRequest} {r : Range} {writeGrants v'}
      (admin : v.isAdmin grant.session.key.content = true) (user : isUser grant.session.who = true)
      (word : grant.state = LockState.readWrite.word) (there : v.ranges[grant.session.key.range.toNat]? = some r)
      (granted : modify? r.writeGrants grant.session.who.toNat (fun _ => true) = some writeGrants)
      (changed : v.RangeChanged grant.session.key.range ({ · with writeGrants }) v') :
      Effect c v (.addUserToRange grant) v'
  | eraseRange {session : Session} {v'} (who : session.who = Authority.admin1.who)
      (admin : v.isAdmin session.key.content = true)
      (changed : v.RangeChanged session.key.range (·.erase false) v') : Effect c v (.eraseRange session) v'
  | secureEraseRange {session : Session} {v'} (who : session.who = Authority.admin1.who)
      (admin : v.isAdmin session.key.content = true)
      (changed : v.RangeChanged session.key.range (·.erase true) v') : Effect c v (.secureEraseRange session) v'
  | psidRevert {psid : KeyBlock} (known : psid.content = c.psid) : Effect c v (.psidRevert psid) v.revert
  | ignoreLock {lock : LockRequest} {state key} {r : Range} (word : LockState.ofWord? lock.state = some state)
      (there : v.ranges[lock.session.key.range.toNat]? = some r) (stands : r.keyFor lock.session state = some key)
      (proven : v.authenticates? lock.session.who key = some true)
      (may : r.mayLock? lock.session.who = some true) (ignored : c.ignoreLocks = true) :
      Effect c v (.lockUnlock lock) v
  | lockUnlock {lock : LockRequest} {state key v'} {r : Range} (word : LockState.ofWord? lock.state = some state)
      (there : v.ranges[lock.session.key.range.toNat]? = some r) (stands : r.keyFor lock.session state = some key)
      (proven : v.authenticates? lock.session.who key = some true)
      (may : r.mayLock? lock.session.who = some true) (heeded : c.ignoreLocks = false)
      (changed : v.RangeChanged lock.session.key.range (·.turn state.word) v') : Effect c v (.lockUnlock lock) v'
  | saveForResume {lock : LockRequest} {v'} (changed : v.RangeChanged lock.session.key.range (·.keep lock) v') :
      Effect c v (.saveForResume lock) v'
  | getStatus {submitted} : Effect c v (.getStatus submitted) v
  | getGeometry {submitted} : Effect c v (.getGeometry submitted) v
  | getRangeStatus {session : Session} {submitted}
      (proven : v.authenticates? session.who session.key.content = some true) :
      Effect c v (.getRangeStatus session submitted) v

/-- A call was accepted with its effect, or refused with none. -/
def Settles (c : Config) (v : Vault) (request : Request) (status : Status) (v' : Vault) : Prop :=
  (status.classify = .success ∧ Effect c v request v') ∨ (status.classify ≠ .success ∧ v' = v)

theorem settles_notAuthorized {request} : Settles c v request .notAuthorized v :=
  .inr ⟨by decide, rfl⟩

theorem settles_invalidParameter {request} : Settles c v request .invalidParameter v :=
  .inr ⟨by decide, rfl⟩

open Traced

/-- Changing a range is the last thing that a call does. -/
theorem settles_withRange {request range change status} (h : (v.withRange range change).outcome = some (status, v'))
    (effect : v.RangeChanged range change v' → Effect c v request v') : Settles c v request status v' := by
  rw [outcome_withRange] at h
  replace h := Option.some.inj h
  split at h
  · next ranges changed =>
    cases h
    exact .inl ⟨rfl, effect ⟨ranges, changed, rfl⟩⟩
  · cases h
    exact settles_invalidParameter

theorem userChanged_of_withUser {who change} (h : (v.withUser who change).outcome = some v') :
    v.UserChanged who change v' := by
  rw [outcome_withUser] at h
  obtain ⟨users, changed, rfl⟩ := Option.map_eq_some_iff.1 h
  exact ⟨users, changed, rfl⟩

/-! ## Every call settles -/

theorem takeOwnership_settles {key : KeyBlock} {status} (h : (v.takeOwnership key).outcome = some (status, v')) :
    Settles c v (.takeOwnership key) status v' := by
  simp only [takeOwnership, outcome_bind, outcome_key, Option.bind_some] at h
  split at h
  · next free =>
    cases h
    exact .inl ⟨rfl, .takeOwnership free⟩
  · next owner known =>
    cases h
    by_cases same : owner = key.content
    · rw [if_pos same]
      exact .inl ⟨rfl, .keepOwnership (same ▸ known)⟩
    · rw [if_neg same]
      exact settles_notAuthorized

theorem activateLsp_settles {activation : Activation} {status}
    (h : (v.activateLsp activation).outcome = some (status, v')) : Settles c v (.activateLsp activation) status v' := by
  simp only [activateLsp, outcome_ite, outcome_pure, outcome_bind, outcome_key, Option.bind_some] at h
  split at h
  · cases h
    exact settles_invalidParameter
  · next few =>
    split at h
    · cases h
      exact settles_notAuthorized
    · next owner =>
      cases h
      exact .inl ⟨rfl, .activateLsp (Nat.not_lt.1 few) (Decidable.not_not.1 owner)⟩

theorem setPassword_settles {change : NewPassword} {status} (h : (v.setPassword change).outcome = some (status, v')) :
    Settles c v (.setPassword change) status v' := by
  simp only [setPassword, outcome_bind, outcome_key, Option.bind_some, outcome_ite, outcome_pure,
    outcome_authenticates] at h
  obtain ⟨proven, authenticated, rest⟩ := Option.bind_eq_some_iff.1 h
  split at rest
  · cases rest
    exact settles_notAuthorized
  · next allowed =>
    obtain ⟨rfl, mayChange⟩ : proven = true ∧
        (change.session.who = Authority.admin1.who ∨ change.session.who = change.user.who) := by
      simpa [Decidable.or_iff_not_imp_left] using allowed
    split at rest
    · next target =>
      cases rest
      exact .inl ⟨rfl, .setAdminPassword authenticated mayChange target⟩
    · split at rest
      · next target =>
        obtain ⟨users, changed, same⟩ := Option.bind_eq_some_iff.1 rest
        cases same
        exact .inl ⟨rfl, .setUserPassword authenticated mayChange target (userChanged_of_withUser changed)⟩
      · cases rest
        exact settles_invalidParameter

theorem activateUser_settles {session : Session} {status} (h : (v.activateUser session).outcome = some (status, v')) :
    Settles c v (.activateUser session) status v' := by
  simp only [activateUser, outcome_bind, outcome_key, Option.bind_some, outcome_ite, outcome_pure] at h
  split at h
  · cases h
    exact settles_notAuthorized
  · next admin =>
    split at h
    · next target =>
      obtain ⟨users, changed, same⟩ := Option.bind_eq_some_iff.1 h
      cases same
      exact .inl ⟨rfl, .activateUser (by simpa using admin) target (userChanged_of_withUser changed)⟩
    · cases h
      exact settles_invalidParameter

theorem setupRange_settles {setup : RangeSetup} {status} (h : (v.setupRange c setup).outcome = some (status, v')) :
    Settles c v (.setupRange setup) status v' := by
  simp only [setupRange, outcome_ite, outcome_pure, outcome_bind, outcome_key, Option.bind_some] at h
  split at h
  · cases h
    exact settles_notAuthorized
  · next who =>
    split at h
    · cases h
      exact settles_notAuthorized
    · next admin => exact settles_withRange h (.setupRange (Decidable.not_not.1 who) (by simpa using admin))

theorem addUserToRange_settles {grant : LockRequest} {status} (h : (v.addUserToRange grant).outcome = some (status, v')) :
    Settles c v (.addUserToRange grant) status v' := by
  simp only [addUserToRange, outcome_bind, outcome_key, Option.bind_some, outcome_ite, outcome_pure,
    outcome_range] at h
  split at h
  · cases h
    exact settles_notAuthorized
  · next refused =>
    have admin : v.isAdmin grant.session.key.content = true := by simpa using refused
    split at h
    · cases h
      exact settles_invalidParameter
    · next notUser =>
      have user : isUser grant.session.who = true := by simpa using notUser
      split at h
      · cases h
        exact settles_invalidParameter
      · next r there =>
        simp only [outcome_ite, outcome_bind, outcome_modify, outcome_pure] at h
        split at h
        · next word =>
          obtain ⟨readGrants, granted, same⟩ := Option.bind_eq_some_iff.1 h
          exact settles_withRange same (.grantRead admin user word there granted)
        · split at h
          · next word =>
            obtain ⟨writeGrants, granted, same⟩ := Option.bind_eq_some_iff.1 h
            exact settles_withRange same (.grantWrite admin user word there granted)
          · cases h
            exact settles_invalidParameter

theorem eraseRange_settles {request} {session : Session} {keepsConfiguration : Bool} {status}
    (h : (v.eraseRange session keepsConfiguration).outcome = some (status, v'))
    (effect : session.who = Authority.admin1.who → v.isAdmin session.key.content = true →
      v.RangeChanged session.key.range (·.erase keepsConfiguration) v' → Effect c v request v') :
    Settles c v request status v' := by
  simp only [eraseRange, outcome_ite, outcome_pure, outcome_bind, outcome_key, Option.bind_some] at h
  split at h
  · cases h
    exact settles_notAuthorized
  · next who =>
    split at h
    · cases h
      exact settles_notAuthorized
    · next admin => exact settles_withRange h (effect (Decidable.not_not.1 who) (by simpa using admin))

theorem psidRevert_settles {psid : KeyBlock} {status} (h : (v.psidRevert c psid).outcome = some (status, v')) :
    Settles c v (.psidRevert psid) status v' := by
  simp only [psidRevert, outcome_bind, outcome_key, Option.bind_some, outcome_ite, outcome_pure] at h
  split at h
  · next known =>
    cases h
    exact .inl ⟨rfl, .psidRevert known⟩
  · cases h
    exact settles_notAuthorized

theorem lockUnlock_settles {lock : LockRequest} {status} (h : (v.lockUnlock c lock).outcome = some (status, v')) :
    Settles c v (.lockUnlock lock) status v' := by
  unfold lockUnlock at h
  dsimp only at h
  split at h
  · cases h
    exact settles_invalidParameter
  next state word =>
  simp only [outcome_bind, outcome_range, Option.bind_some] at h
  split at h
  · cases h
    exact settles_invalidParameter
  next range there =>
  simp only [outcome_bind, outcome_key, Option.bind_some] at h
  split at h
  · cases h
    exact settles_notAuthorized
  next key stands =>
  simp only [outcome_bind, outcome_authenticates, outcome_ite, outcome_pure] at h
  obtain ⟨proven, authenticated, rest⟩ := Option.bind_eq_some_iff.1 h
  split at rest
  · cases rest
    exact settles_notAuthorized
  next shown =>
  obtain ⟨may, granted, last⟩ := Option.bind_eq_some_iff.1 rest
  obtain rfl : proven = true := by simpa using shown
  split at last
  · cases last
    exact settles_notAuthorized
  next allowed =>
  obtain rfl : may = true := by simpa using allowed
  split at last
  · next ignored =>
    cases last
    exact .inl ⟨rfl, .ignoreLock word there stands authenticated granted ignored⟩
  · next heeded =>
    exact settles_withRange last (.lockUnlock word there stands authenticated granted (by simpa using heeded))

theorem saveForResume_settles {lock : LockRequest} {status} (h : (v.saveForResume lock).outcome = some (status, v')) :
    Settles c v (.saveForResume lock) status v' := by
  simp only [saveForResume, outcome_bind, outcome_key, Option.bind_some] at h
  exact settles_withRange h .saveForResume

theorem rangeStatus_settles {session : Session} {submitted reading : RangeReading} {status}
    (h : (v.rangeStatus session submitted).outcome = some (status, reading)) :
    Settles c v (.getRangeStatus session submitted) status v := by
  simp only [rangeStatus, outcome_bind, outcome_key, Option.bind_some, outcome_ite, outcome_pure, outcome_range,
    outcome_authenticates] at h
  obtain ⟨proven, authenticated, rest⟩ := Option.bind_eq_some_iff.1 h
  split at rest
  · cases rest
    exact settles_notAuthorized
  · next shown =>
    obtain rfl : proven = true := by simpa using shown
    split at rest
    · cases rest
      exact settles_invalidParameter
    · cases rest
      exact .inl ⟨rfl, .getRangeStatus authenticated⟩

/-- A call that reaches the vault is accepted with its effect, or refused with none. -/
theorem perform?_settles {request : Request} {answer : Answer request}
    (h : v.perform? c request = some (answer, v')) : Settles c v request answer.status v' := by
  cases request with
  | getStatus submitted =>
    cases h
    exact .inl ⟨rfl, .getStatus⟩
  | getGeometry submitted =>
    cases h
    exact .inl ⟨rfl, .getGeometry⟩
  | getRangeStatus session submitted =>
    obtain ⟨⟨status, reading⟩, performed, same⟩ := outcome_bind_eq_some_iff.1 h
    cases same
    exact rangeStatus_settles performed
  | takeOwnership | activateLsp | setPassword | activateUser | setupRange | addUserToRange | eraseRange | secureEraseRange
  | psidRevert | lockUnlock | saveForResume =>
    -- All these calls hand on the status and the vault of their own.
    obtain ⟨⟨status, v₁⟩, performed, same⟩ := outcome_bind_eq_some_iff.1 h
    cases same
    first
    | exact takeOwnership_settles performed
    | exact activateLsp_settles performed
    | exact setPassword_settles performed
    | exact activateUser_settles performed
    | exact setupRange_settles performed
    | exact addUserToRange_settles performed
    | exact eraseRange_settles performed .eraseRange
    | exact eraseRange_settles performed .secureEraseRange
    | exact psidRevert_settles performed
    | exact lockUnlock_settles performed
    | exact saveForResume_settles performed

end Vault

/-! ## Calls that take from the queue -/

namespace Queue

/-- A queue behind a call of this kind. -/
def serve (kind : CallKind) (q : Queue) : Queue :=
  ((q.take? kind).map (·.2)).getD q

/-- A call takes the oldest status of its kind, if there is one, and none of another kind. -/
theorem statuses_serve (kind other : CallKind) (q : Queue) :
    (q.serve kind).statuses other = if other = kind then (q.statuses other).tail else q.statuses other := by
  unfold serve
  cases taken : q.take? kind with
  | none =>
    have empty := take?_eq_none_iff.1 taken
    split
    · next same => simp [same, empty]
    · rfl
  | some entry =>
    obtain ⟨here, others⟩ := statuses_of_take? taken
    split
    · next same => simp [same, here]
    · next ne => exact others other ne

end Queue

end Simulator

namespace SimulatedDrive

open Simulator

/-- What a call leaves behind that was answered with this status. -/
structure Answered (d : SimulatedDrive) (request : Request) (status : Status) (d' : SimulatedDrive) : Prop where
  name : d'.name = d.name
  config : d'.config = d.config
  queue : d'.queue = d.queue.serve request.kind
  calls : d'.calls = d.calls ++ [CallRecord.ofRequest request]
  vault : (status ∈ d.queue.statuses request.kind ∧ d'.vault = d.vault) ∨
    Vault.Settles d.config d.vault request status d'.vault

theorem answer_answered (d : SimulatedDrive) (request : Request) :
    d.Answered request (d.answer request).1.status (d.answer request).2 := by
  have absent : (Status.ofErrno .notTypewriter).classify ≠ .success := by decide
  have failed : Status.failure.classify ≠ .success := by decide
  unfold answer
  dsimp only
  split
  · next status left taken =>
    refine ⟨rfl, rfl, by simp [Queue.serve, taken], rfl, .inl ⟨?_, rfl⟩⟩
    rw [(Queue.statuses_of_take? taken).1]
    exact .head _
  · next none =>
    have queue : d.queue = d.queue.serve request.kind := by simp [Queue.serve, none]
    split
    · exact ⟨rfl, rfl, queue, rfl, .inr (.inr ⟨absent, rfl⟩)⟩
    · split
      · next performs => exact ⟨rfl, rfl, queue, rfl, .inr (Vault.perform?_settles performs)⟩
      · exact ⟨rfl, rfl, queue, rfl, .inr (.inr ⟨failed, rfl⟩)⟩

theorem Answered.vault_cases {d d' : SimulatedDrive} {request : Request} {status : Status}
    (answered : d.Answered request status d') :
    d'.vault = d.vault ∨ Vault.Effect d.config d.vault request d'.vault := by
  rcases answered.vault with ⟨-, same⟩ | ⟨-, effect⟩ | ⟨-, same⟩
  · exact .inl same
  · exact .inr effect
  · exact .inl same

theorem Answered.statuses {d d' : SimulatedDrive} {request : Request} {status : Status}
    (answered : d.Answered request status d') (kind : CallKind) :
    d'.queue.statuses kind =
      if kind = request.kind then (d.queue.statuses kind).tail else d.queue.statuses kind := by
  rw [answered.queue, Queue.statuses_serve]

/-- A call takes from the queue, and adds nothing to it. -/
theorem unqueued_answer {d : SimulatedDrive} {kind : CallKind} (unqueued : d.queue.statuses kind = []) (request : Request) :
    (d.answer request).2.queue.statuses kind = [] := by
  rw [(d.answer_answered request).statuses, unqueued]
  exact ite_self _

end SimulatedDrive

end OpalLocking
