/-
Which calls a drive accepts, and what can be seen of its vault behind them.

`Vault.Effect` says what a call did that was accepted. Here is the other direction: where its conditions are met, the
call is accepted with this effect and no other (`Effect.performs`), and with another key it is refused. So on a drive
that nothing is queued on (`SimulatedDrive.Idle`) the conditions decide. A vault is looked at through its entries,
`Vault.rangeAt` and `Vault.userAt`; an entry that the tables do not have looks untouched.
-/
import OpalLocking.Proofs.Sharing
import OpalLocking.Proofs.Simulator.Evolution
import OpalLocking.Simulator.Setting

namespace OpalLocking

theorem refused_of_notAuthorized : Status.notAuthorized.classify ≠ .success := by decide

namespace Simulator

variable {c : Config} {v v' : Vault} {request : Request}

/-- Counts of erasures that do not wrap around add up as numbers. -/
theorem toNat_add_of_fits {a b : UInt32} (fits : a.toNat + b.toNat < UInt32.size) :
    (a + b).toNat = a.toNat + b.toNat := by
  rw [UInt32.toNat_add, Nat.mod_eq_of_lt fits]

namespace Vault

/-! ## Entries -/

def rangeAt (v : Vault) (range : UInt8) : Range :=
  v.ranges[range.toNat]?.getD {}

def userAt (v : Vault) (who : UInt32) : User :=
  v.users[who.toNat]?.getD {}

theorem getElem?_ranges {range : UInt8} (there : range.toNat < rangeCount) :
    v.ranges[range.toNat]? = some (v.rangeAt range) := by
  rw [rangeAt, Vector.getElem?_eq_getElem there]
  rfl

theorem getElem_ranges {i : Nat} (small : i < rangeCount) : v.ranges[i] = v.rangeAt (.ofNat i) := by
  have there : (UInt8.ofNat i).toNat = i := UInt8.toNat_ofNat_of_lt' (Nat.lt_trans small (by decide))
  rw [rangeAt, there, Vector.getElem?_eq_getElem small]
  rfl

theorem rangeAt_of_getElem? {range : UInt8} {r : Range} (there : v.ranges[range.toNat]? = some r) :
    v.rangeAt range = r := by
  rw [rangeAt, there]
  rfl

theorem getElem?_users {who : UInt32} (there : who.toNat < userCount) :
    v.users[who.toNat]? = some (v.userAt who) := by
  rw [userAt, Vector.getElem?_eq_getElem there]
  rfl

theorem userAt_of_blank (blank : v.users = .replicate userCount {}) (who : UInt32) : v.userAt who = {} := by
  rw [userAt, blank, Vector.getElem?_replicate]
  split <;> rfl

theorem rangeAt_of_blank (blank : v.ranges = .replicate rangeCount {}) (range : UInt8) : v.rangeAt range = {} := by
  rw [rangeAt, blank, Vector.getElem?_replicate]
  split <;> rfl

/-- A vault is known by its keys and its entries. -/
theorem ext_entries (owner : v.owner = v'.owner) (enabled : v.lockingEnabled = v'.lockingEnabled)
    (admin : v.admin = v'.admin) (users : ∀ who, v.userAt who = v'.userAt who)
    (ranges : ∀ range, v.rangeAt range = v'.rangeAt range) : v = v' := by
  have sameUsers : v.users = v'.users := by
    ext1 i small
    have there : (UInt32.ofNat i).toNat = i := UInt32.toNat_ofNat_of_lt' (Nat.lt_trans small (by decide))
    simpa [userAt, there, Vector.getElem?_eq_getElem small] using users (.ofNat i)
  have sameRanges : v.ranges = v'.ranges := by
    ext1 i small
    rw [getElem_ranges small, getElem_ranges small, ranges]
  cases v
  cases v'
  simp_all

theorem rangeChanged_exists {range : UInt8} (there : range.toNat < rangeCount) (change : Range → Range) :
    ∃ v', v.RangeChanged range change v' := by
  obtain ⟨ranges, changed⟩ := exists_modify? v.ranges there change
  exact ⟨_, ranges, changed, rfl⟩

theorem userChanged_exists {who : UInt32} (there : who.toNat < userCount) (change : User → User) :
    ∃ v', v.UserChanged who change v' := by
  obtain ⟨users, changed⟩ := exists_modify? v.users there change
  exact ⟨_, users, changed, rfl⟩

/-- Changing a range changes no other. -/
theorem RangeChanged.rangeAt_eq {range : UInt8} {change : Range → Range} (h : v.RangeChanged range change v')
    (other : UInt8) : v'.rangeAt other = if other = range then change (v.rangeAt other) else v.rangeAt other := by
  obtain ⟨ranges, changed, rfl⟩ := h
  have here : range.toNat < rangeCount := modify?_isSome_iff.1 (by rw [changed]; rfl)
  unfold rangeAt
  by_cases there : other.toNat < rangeCount
  · rw [Vector.getElem?_eq_getElem there, Vector.getElem?_eq_getElem there, getElem_of_modify? changed there]
    simp only [UInt8.toNat_inj]
    split <;> rfl
  · rw [Vector.getElem?_eq_none (Nat.not_lt.1 there), Vector.getElem?_eq_none (Nat.not_lt.1 there), if_neg]
    rintro rfl
    exact there here

theorem UserChanged.userAt_eq {who : UInt32} {change : User → User} (h : v.UserChanged who change v')
    (other : UInt32) : v'.userAt other = if other = who then change (v.userAt other) else v.userAt other := by
  obtain ⟨users, changed, rfl⟩ := h
  have here : who.toNat < userCount := modify?_isSome_iff.1 (by rw [changed]; rfl)
  unfold userAt
  by_cases there : other.toNat < userCount
  · rw [Vector.getElem?_eq_getElem there, Vector.getElem?_eq_getElem there, getElem_of_modify? changed there]
    simp only [UInt32.toNat_inj]
    split <;> rfl
  · rw [Vector.getElem?_eq_none (Nat.not_lt.1 there), Vector.getElem?_eq_none (Nat.not_lt.1 there), if_neg]
    rintro rfl
    exact there here

theorem RangeChanged.userAt_eq {range : UInt8} {change : Range → Range} (h : v.RangeChanged range change v') :
    v'.userAt = v.userAt := by
  unfold userAt
  rw [h.users_eq]

theorem UserChanged.rangeAt_eq {who : UInt32} {change : User → User} (h : v.UserChanged who change v') :
    v'.rangeAt = v.rangeAt := by
  unfold rangeAt
  rw [h.ranges_eq]

theorem RangeChanged.withRange {range : UInt8} {change : Range → Range} (h : v.RangeChanged range change v') :
    (v.withRange range change).outcome = some (.success, v') := by
  obtain ⟨ranges, changed, rfl⟩ := h
  rw [outcome_withRange, changed]

theorem UserChanged.withUser {who : UInt32} {change : User → User} (h : v.UserChanged who change v') :
    (v.withUser who change).outcome = some v' := by
  obtain ⟨users, changed, rfl⟩ := h
  rw [outcome_withUser, changed, Option.map_some]

/-! ## What is accepted -/

/-- A call whose conditions are met is accepted with its effect. Only for a reading of a range this says too little:
the range has to exist. -/
theorem Effect.performs (effect : Effect c v request v') (noReading : request.kind ≠ .getRangeStatus) :
    ∃ a : Answer request, v.perform? c request = some (a, v') ∧ a.status = .success := by
  cases effect with
  | takeOwnership free => exact ⟨⟨.success, ()⟩, by simp [perform?, traced, Vault.takeOwnership, free], rfl⟩
  | keepOwnership owner => exact ⟨⟨.success, ()⟩, by simp [perform?, traced, Vault.takeOwnership, owner], rfl⟩
  | activateLsp few owner =>
    exact ⟨⟨.success, ()⟩, by simp [perform?, traced, Vault.activateLsp, Nat.not_lt.2 few, owner], rfl⟩
  | @setAdminPassword change proven mayChange target =>
    refine ⟨⟨.success, ()⟩, ?_, rfl⟩
    have who : change.session.who = Authority.admin1.who := mayChange.elim id (·.trans target)
    have set : (v.setPassword change).outcome = some (.success, { v with admin := some change.user.key.content }) := by
      rw [who] at proven
      simp [Vault.setPassword, who, proven, target]
    simp [perform?, traced, set]
  | @setUserPassword change v' proven mayChange target changed =>
    refine ⟨⟨.success, ()⟩, ?_, rfl⟩
    have notAdmin : change.user.who ≠ Authority.admin1.who := by
      intro same
      rw [same, isUser_admin1] at target
      cases target
    have allowed : (change.session.who = Authority.admin1.who || change.session.who = change.user.who) = true := by
      simpa using mayChange
    have set : (v.setPassword change).outcome = some (.success, v') := by
      simp [Vault.setPassword, proven, allowed, notAdmin, target, changed.withUser,
        -Bool.or_eq_true]
    simp [perform?, traced, set]
  | @activateUser session v' admin target changed =>
    refine ⟨⟨.success, ()⟩, ?_, rfl⟩
    have activated : (v.activateUser session).outcome = some (.success, v') := by
      simp [Vault.activateUser, admin, target, changed.withUser]
    simp [perform?, traced, activated]
  | @setupRange setup v' who admin changed =>
    refine ⟨⟨.success, ()⟩, ?_, rfl⟩
    have set : (v.setupRange c setup).outcome = some (.success, v') := by
      unfold Vault.setupRange
      rw [if_neg (not_not_intro who), Traced.outcome_bind, Traced.outcome_key, Option.bind_some, admin]
      exact changed.withRange
    simp [perform?, traced, set]
  | @grantRead grant r readGrants v' admin user word there granted changed =>
    refine ⟨⟨.success, ()⟩, ?_, rfl⟩
    have added : (v.addUserToRange grant).outcome = some (.success, v') := by
      simp [Vault.addUserToRange, admin, user, word, there, granted, changed.withRange]
    simp [perform?, traced, added]
  | @grantWrite grant r writeGrants v' admin user word there granted changed =>
    refine ⟨⟨.success, ()⟩, ?_, rfl⟩
    have other : LockState.readWrite.word ≠ LockState.readOnly.word := by decide
    have added : (v.addUserToRange grant).outcome = some (.success, v') := by
      simp [Vault.addUserToRange, admin, user, word, other, there, granted, changed.withRange]
    simp [perform?, traced, added]
  | @eraseRange session v' who admin changed =>
    refine ⟨⟨.success, ()⟩, ?_, rfl⟩
    have erased : (v.eraseRange session false).outcome = some (.success, v') := by
      simp [Vault.eraseRange, who, admin, changed.withRange]
    simp [perform?, traced, erased]
  | @secureEraseRange session v' who admin changed =>
    refine ⟨⟨.success, ()⟩, ?_, rfl⟩
    have erased : (v.eraseRange session true).outcome = some (.success, v') := by
      simp [Vault.eraseRange, who, admin, changed.withRange]
    simp [perform?, traced, erased]
  | psidRevert known => exact ⟨⟨.success, ()⟩, by simp [perform?, traced, Vault.psidRevert, known], rfl⟩
  | @ignoreLock lock state key r word there stands proven may ignored =>
    refine ⟨⟨.success, ()⟩, ?_, rfl⟩
    have acknowledged : (v.lockUnlock c lock).outcome = some (.success, v) := by
      simp [Vault.lockUnlock, word, there, stands, proven, may, ignored]
    simp [perform?, traced, acknowledged]
  | @lockUnlock lock state key v' r word there stands proven may heeded changed =>
    refine ⟨⟨.success, ()⟩, ?_, rfl⟩
    have turned : (v.lockUnlock c lock).outcome = some (.success, v') := by
      have withRange := changed.withRange
      unfold Range.turn at withRange
      simp [Vault.lockUnlock, word, there, stands, proven, may, heeded, withRange]
    simp [perform?, traced, turned]
  | @saveForResume lock v' changed =>
    refine ⟨⟨.success, ()⟩, ?_, rfl⟩
    have kept : (v.saveForResume lock).outcome = some (.success, v') := by
      unfold Vault.saveForResume
      rw [Traced.outcome_bind, Traced.outcome_key, Option.bind_some]
      exact changed.withRange
    simp [perform?, traced, kept]
  | getStatus => exact ⟨_, rfl, rfl⟩
  | getGeometry => exact ⟨_, rfl, rfl⟩
  | getRangeStatus => exact absurd rfl noReading

theorem perform?_getRangeStatus {session : Session} {submitted : RangeReading} {r : Range}
    (proven : v.authenticates? session.who session.key.content = some true)
    (there : v.ranges[session.key.range.toNat]? = some r) :
    v.perform? c (.getRangeStatus session submitted) = some (⟨.success, reading r⟩, v) := by
  simp [perform?, traced, rangeStatus, proven, there]

/-- The reading of a range is granted as it is, or left as it was submitted. -/
theorem perform?_getRangeStatus_cases {session : Session} {submitted : RangeReading}
    {a : Answer (.getRangeStatus session submitted)}
    (performs : v.perform? c (.getRangeStatus session submitted) = some (a, v')) :
    (a.status.classify = .success ∧ session.key.range.toNat < rangeCount ∧
        a.reading = reading (v.rangeAt session.key.range)) ∨
      (a.status.classify ≠ .success ∧ a.reading = submitted) := by
  obtain ⟨⟨status, shown⟩, asked, same⟩ := Traced.outcome_bind_eq_some_iff.1 performs
  cases same
  simp only [rangeStatus, Traced.outcome_bind, Traced.outcome_key, Option.bind_some, Traced.outcome_ite,
    Traced.outcome_pure, outcome_range] at asked
  obtain ⟨proven, -, rest⟩ := Option.bind_eq_some_iff.1 asked
  split at rest
  · cases rest
    exact .inr ⟨refused_of_notAuthorized, rfl⟩
  · split at rest
    · have nowhere : Status.invalidParameter.classify ≠ .success := by decide
      cases rest
      exact .inr ⟨nowhere, rfl⟩
    · next r there =>
      cases rest
      have small : session.key.range.toNat < rangeCount := (Vector.getElem?_eq_some_iff.1 there).1
      exact .inl ⟨rfl, small, congrArg reading (rangeAt_of_getElem? there).symm⟩

/-! ## What is refused -/

theorem isAdmin_adminSession (range : UInt8) {key : Secret} (short : key.length ≤ maxKeyLength) :
    v.isAdmin (adminSession range key).key.content = v.isAdmin key :=
  congrArg _ (KeyBlock.content_fill short)

theorem perform?_getRangeStatus_of_refused {session : Session} {submitted : RangeReading}
    (refused : v.authenticates? session.who session.key.content = some false) :
    v.perform? c (.getRangeStatus session submitted) = some (⟨.notAuthorized, submitted⟩, v) := by
  simp [perform?, traced, rangeStatus, refused]

theorem perform?_psidRevert_of_ne {psid : Secret} (short : psid.length ≤ maxKeyLength) (other : psid ≠ c.psid) :
    v.perform? c (.psidRevert (.fill 0 psid)) = some (⟨.notAuthorized, ()⟩, v) := by
  have content : (KeyBlock.fill 0 psid).content = psid := KeyBlock.content_fill short
  simp [perform?, traced, psidRevert, content, other]

theorem perform?_takeOwnership_of_ne {key owner : Secret} (short : key.length ≤ maxKeyLength)
    (owned : v.owner = some owner) (other : owner ≠ key) :
    v.perform? c (.takeOwnership (.fill 0 key)) = some (⟨.notAuthorized, ()⟩, v) := by
  have content : (KeyBlock.fill 0 key).content = key := KeyBlock.content_fill short
  simp [perform?, traced, takeOwnership, owned, content, other]

/-- Setting up a range is for Admin1, with its key. -/
theorem outcome_setupRange_of_refused {setup : RangeSetup}
    (refused : setup.session.who ≠ Authority.admin1.who ∨ v.isAdmin setup.session.key.content = false) :
    (v.setupRange c setup).outcome = some (.notAuthorized, v) := by
  by_cases who : setup.session.who = Authority.admin1.who
  · simp [setupRange, who, refused.resolve_left (not_not_intro who)]
  · simp [setupRange, who]

/-- Erasing a range is for Admin1, with its key. -/
theorem outcome_eraseRange_of_refused {session : Session}
    (refused : session.who ≠ Authority.admin1.who ∨ v.isAdmin session.key.content = false) (keeps : Bool) :
    (v.eraseRange session keeps).outcome = some (.notAuthorized, v) := by
  by_cases who : session.who = Authority.admin1.who
  · simp [eraseRange, who, refused.resolve_left (not_not_intro who)]
  · simp [eraseRange, who]

/-- Without Admin1's key no range is erased, in either way. -/
theorem perform?_erase_of_not_isAdmin (range : UInt8) {key : Secret} (short : key.length ≤ maxKeyLength)
    (stranger : v.isAdmin key = false) :
    v.perform? c (.eraseRange (adminSession range key)) = some (⟨.notAuthorized, ()⟩, v) ∧
      v.perform? c (.secureEraseRange (adminSession range key)) = some (⟨.notAuthorized, ()⟩, v) := by
  have refused := outcome_eraseRange_of_refused (.inr ((isAdmin_adminSession range short).trans stranger))
  simp [perform?, traced, refused]

/-! ## The feature word -/

theorem supported_flags : v.flags.supported = true := by
  unfold flags
  cases v.lockingEnabled <;> cases v.ranges.any isLocked <;> rfl

theorem lockingEnabled_flags : v.flags.lockingEnabled = v.lockingEnabled := by
  unfold flags
  cases v.lockingEnabled <;> cases v.ranges.any isLocked <;> rfl

theorem locked_flags : v.flags.locked = v.ranges.any isLocked := by
  unfold flags
  cases v.lockingEnabled <;> cases v.ranges.any isLocked <;> rfl

theorem any_isLocked_iff : v.ranges.any isLocked = true ↔ ∃ range, isLocked (v.rangeAt range) = true := by
  rw [Vector.any_eq_true]
  constructor
  · rintro ⟨i, small, locked⟩
    rw [getElem_ranges small] at locked
    exact ⟨.ofNat i, locked⟩
  · rintro ⟨range, locked⟩
    by_cases small : range.toNat < rangeCount
    · refine ⟨range.toNat, small, ?_⟩
      rwa [rangeAt, Vector.getElem?_eq_getElem small] at locked
    · rw [rangeAt, Vector.getElem?_eq_none (Nat.not_lt.1 small)] at locked
      cases locked

end Vault

end Simulator

open Simulator

namespace SimulatedDrive

variable {d : SimulatedDrive} {request : Request}

theorem snapshot_eq (d : SimulatedDrive) (range : UInt8) : d.snapshot range = (d.vault.rangeAt range).snapshot := by
  rw [snapshot, Vault.rangeAt]
  cases d.vault.ranges[range.toNat]? <;> rfl

/-! ## Idle drives -/

@[simp] theorem drive_answer (d : SimulatedDrive) (request : Request) :
    drive.answer d request = d.answer request := rfl

theorem steady : drive.Steady :=
  fun _ => rfl

/-- A drive that has a control interface and answers all calls by itself. -/
structure Idle (d : SimulatedDrive) : Prop where
  supported : d.config.supported = true
  queue : d.queue = []

/-- The drive behind a call that left this vault. -/
def behind (d : SimulatedDrive) (request : Request) (v : Vault) : SimulatedDrive :=
  { d with vault := v, calls := d.calls ++ [CallRecord.ofRequest request] }

theorem Idle.behind {v : Vault} (idle : d.Idle) : (d.behind request v).Idle :=
  ⟨idle.supported, idle.queue⟩

/-- A call that a status is queued for is answered with it, and fills nothing. -/
theorem answer_of_queued {status : Status} {rest : List Status}
    (queued : d.queue.statuses request.kind = status :: rest) : (d.answer request).1 = ⟨status, request.submitted⟩ := by
  cases taken : d.queue.take? request.kind with
  | none =>
    rw [Queue.take?_eq_none_iff.1 taken] at queued
    cases queued
  | some entry =>
    rw [(Queue.statuses_of_take? taken).1] at queued
    obtain ⟨rfl, -⟩ := List.cons.inj queued
    simp [answer, taken]

/-- A call that nothing is queued for reaches the vault. -/
theorem answer_of_unqueued {a : Answer request} {v : Vault} (supported : d.config.supported = true)
    (unqueued : d.queue.take? request.kind = none) (performs : d.vault.perform? d.config request = some (a, v)) :
    d.answer request = (a, d.behind request v) := by
  simp [answer, unqueued, supported, performs, behind]

theorem Idle.answer_of_performs (idle : d.Idle) {a : Answer request} {v : Vault}
    (performs : d.vault.perform? d.config request = some (a, v)) : d.answer request = (a, d.behind request v) :=
  answer_of_unqueued idle.supported (by rw [idle.queue]; rfl) performs

/-- A call whose conditions are met is accepted. -/
theorem Idle.accepts (idle : d.Idle) {v : Vault} (effect : Vault.Effect d.config d.vault request v)
    (noReading : request.kind ≠ .getRangeStatus) :
    (d.answer request).1.status = .success ∧ (d.answer request).2 = d.behind request v := by
  obtain ⟨a, performs, accepted⟩ := effect.performs noReading
  rw [idle.answer_of_performs performs]
  exact ⟨accepted, rfl⟩

/-- Whatever is asked for, the vault settles it. -/
theorem Idle.settles (idle : d.Idle) (request : Request) :
    ∃ v, (d.answer request).2 = d.behind request v ∧
      Vault.Settles d.config d.vault request (d.answer request).1.status v := by
  cases performs : d.vault.perform? d.config request with
  | some outcome =>
    rw [idle.answer_of_performs performs]
    exact ⟨outcome.2, rfl, Vault.perform?_settles performs⟩
  | none =>
    have none : Queue.take? request.kind d.queue = none := by
      rw [idle.queue]
      rfl
    have refused : d.answer request = (⟨.failure, request.submitted⟩, d.behind request d.vault) := by
      simp [answer, none, idle.supported, performs, SimulatedDrive.behind]
    rw [refused]
    exact ⟨d.vault, rfl, .inr ⟨(by decide : Status.failure.classify ≠ .success), rfl⟩⟩

/-- The feature word is read as it is. -/
theorem Idle.answer_getStatus (idle : d.Idle) (submitted : StatusFlags) :
    d.answer (.getStatus submitted) = (⟨.success, d.vault.flags⟩, d.behind (.getStatus submitted) d.vault) :=
  idle.answer_of_performs rfl

theorem Idle.answer_getGeometry (idle : d.Idle) (submitted : GeometryReading) :
    d.answer (.getGeometry submitted) =
      (⟨.success, d.config.geometry⟩, d.behind (.getGeometry submitted) d.vault) :=
  idle.answer_of_performs rfl

/-! ## Runs alone -/

theorem run_serves (d : SimulatedDrive) (op : Operation) :
    drive.Serves nobody d (d.run op).trace.exchanges (d.run op).drive :=
  Procedure.run_serves _ _ _

section

variable {x : Exchange} {xs : List Exchange} {d' : SimulatedDrive}

/-- The first call of a host that is alone with an idle drive. -/
theorem Idle.step (idle : d.Idle) (serves : drive.Serves nobody d (x :: xs) d') :
    ∃ v, Vault.Settles d.config d.vault x.request x.status v ∧
      drive.Serves nobody (d.behind x.request v) xs d' := by
  obtain ⟨same, rest⟩ := serves.step_alone steady
  obtain ⟨v, behind, settles⟩ := idle.settles x.request
  rw [drive_answer] at same rest
  rw [behind] at rest
  refine ⟨v, ?_, rest⟩
  rw [Exchange.status, same]
  exact settles

/-- A call of which it is known what the vault makes of it. -/
theorem Idle.step_of_performs {a b : Answer request} {v : Vault} (idle : d.Idle)
    (performs : d.vault.perform? d.config request = some (b, v))
    (serves : drive.Serves nobody d (⟨request, a⟩ :: xs) d') :
    a = b ∧ drive.Serves nobody (d.behind request v) xs d' := by
  have step := serves.step_alone steady
  rwa [drive_answer, idle.answer_of_performs performs] at step

theorem Idle.step_getStatus {a : Answer (.getStatus default)} (idle : d.Idle)
    (serves : drive.Serves nobody d (⟨_, a⟩ :: xs) d') :
    a = ⟨.success, d.vault.flags⟩ ∧ drive.Serves nobody (d.behind (.getStatus default) d.vault) xs d' :=
  idle.step_of_performs rfl serves

theorem Idle.step_getGeometry {g : Answer (.getGeometry default)} (idle : d.Idle)
    (serves : drive.Serves nobody d (⟨_, g⟩ :: xs) d') :
    g = ⟨.success, d.config.geometry⟩ ∧ drive.Serves nobody (d.behind (.getGeometry default) d.vault) xs d' :=
  idle.step_of_performs rfl serves

/-- A call whose conditions are met, by a host that is alone with an idle drive. -/
theorem Idle.step_of_effect {v : Vault} {a : Answer request} (idle : d.Idle)
    (effect : Vault.Effect d.config d.vault request v) (noReading : request.kind ≠ .getRangeStatus)
    (serves : drive.Serves nobody d (⟨request, a⟩ :: xs) d') :
    a.status = .success ∧ drive.Serves nobody (d.behind request v) xs d' := by
  obtain ⟨same, rest⟩ := serves.step_alone steady
  obtain ⟨accepted, behind⟩ := idle.accepts effect noReading
  dsimp only at same rest
  rw [drive_answer] at same rest
  rw [behind] at rest
  rw [same]
  exact ⟨accepted, rest⟩

/-- Behind its calls the drive is idle still, and only those that were accepted changed its vault. -/
theorem Idle.evolves (idle : d.Idle) (serves : drive.Serves nobody d xs d') :
    d'.Idle ∧ d'.config = d.config ∧ Vault.Evolves d.config d.vault xs d'.vault := by
  induction xs generalizing d with
  | nil =>
    obtain rfl := serves.done_alone steady
    exact ⟨idle, rfl, .nil⟩
  | cons x xs ih =>
    obtain ⟨v, settles, rest⟩ := idle.step serves
    obtain ⟨idle', config, evolves⟩ := ih idle.behind rest
    refine ⟨idle', config, ?_⟩
    rcases settles with ⟨accepted, effect⟩ | ⟨refused, rfl⟩
    · exact .accepted accepted effect evolves
    · exact .refused refused evolves

end

/-- On a drive that opens, an operation with valid arguments takes one of its courses. -/
theorem run_course (op : Operation) (valid : op.check = .ok ()) (opens : d.config.failOpen = false) :
    op.Course (d.run op).trace.exchanges (d.run op).result := by
  have opened : ∀ s, s = d → (drive.opening s).1 = .ok () := by
    rintro s rfl
    show (if s.config.failOpen then _ else _) = _
    rw [opens]
    rfl
  have amid : drive.Amid nobody d (d.run op).trace (d.run op).drive := (Procedure.run_path _ _ _).amid
  exact op.course_of_amid valid opened (fun _ _ _ change => absurd change id) rfl (Procedure.run_yields _ _ _) amid

end SimulatedDrive

end OpalLocking
