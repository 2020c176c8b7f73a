/-
What a drive in use answers to a segment, and which part of the drive decides that.

It is the key of Admin1 and the tenancy of the segment, and nothing else (`Vault.determined`): two drives that agree on
these answer every request of the segment alike and agree again behind it (`SimulatedDrive.SameFor.answer`). The requests
of other segments touch neither (`SimulatedDrive.SameFor.otherAnswer`).
-/
import OpalLocking.Proofs.Segments
import OpalLocking.Proofs.Simulator.Isolation

namespace OpalLocking

open Simulator

variable {segment other : UInt32} {request : Request}

/-! ## Requests of a segment -/

theorem Request.Own.confined (own : request.Own segment) : request.Confined segment := by
  have about := own.about
  cases request with
  | takeOwnership | activateLsp | psidRevert => exact about.elim
  | setPassword => exact about.2
  | activateUser | setupRange | eraseRange | secureEraseRange | addUserToRange | saveForResume => exact about
  | lockUnlock => exact about.1
  | getStatus | getGeometry | getRangeStatus => trivial

theorem Request.Own.not_takesOver (own : request.Own segment) : ¬ request.TakesOver := by
  have about := own.about
  cases request with
  | takeOwnership | activateLsp => exact about.elim
  | _ => exact id

theorem Answer.Alike.symm {a b : Answer request} (h : a.Alike b) : b.Alike a := by
  cases request with
  | getStatus => exact ⟨h.1.symm, h.2.1.symm, h.2.2.symm⟩
  | _ => exact Eq.symm h

theorem Answer.Alike.trans {a b c : Answer request} (first : a.Alike b) (second : b.Alike c) : a.Alike c := by
  cases request with
  | getStatus =>
    exact ⟨first.1.trans second.1, first.2.1.trans second.2.1, first.2.2.trans second.2.2⟩
  | _ => exact Eq.trans first second

/-! ## Vaults as a segment sees them -/

namespace Simulator.Vault

variable {c : Config} {v v' : Vault} {admin : Option Secret} {τ : Tenancy}

/-- Locking is enabled, under this key of Admin1, and the tenancy of the segment is as given. -/
structure Looks (segment : UInt32) (admin : Option Secret) (τ : Tenancy) (v : Vault) : Prop where
  lockingEnabled : v.lockingEnabled = true
  admin : v.admin = admin
  tenancy : v.tenancy segment = τ

namespace Looks

variable (looks : v.Looks segment admin τ)
include looks

theorem isAdmin_eq (key : Secret) : v.isAdmin key = (admin == some key) := by
  simp [isAdmin, looks.lockingEnabled, looks.admin]

theorem isAdmin {key : Secret} (known : admin = some key) : v.isAdmin key = true := by
  rw [looks.isAdmin_eq, known, beq_self_eq_true]

/-- What Admin1 alone may ask for is refused to everybody else. -/
theorem refused_of_not_admin {session : Session}
    (unproven : ¬ (session.who = Authority.admin1.who ∧ admin = some session.key.content)) :
    session.who ≠ Authority.admin1.who ∨ v.isAdmin session.key.content = false := by
  simpa [looks.isAdmin_eq] using Decidable.not_and_iff_or_not.1 unproven

theorem range_eq : v.rangeAt segment.toUInt8 = τ.range :=
  congrArg Tenancy.range looks.tenancy

theorem getElem?_range (valid : checkSegment segment = .ok ()) : v.ranges[segment.toUInt8.toNat]? = some τ.range := by
  rw [getElem?_ranges (toUInt8_lt_rangeCount valid), looks.range_eq]

theorem authenticates?_eq (valid : checkSegment segment = .ok ()) (key : Secret) :
    v.authenticates? (Authority.ofSegment segment).who key =
      some (τ.user.enabled && τ.user.password == some key) := by
  have user : v.userAt (Authority.ofSegment segment).who = τ.user := congrArg Tenancy.user looks.tenancy
  rw [authenticates?_user (isUser_ofSegment valid), looks.lockingEnabled, user, Bool.true_and]

theorem rangeChanged {change : Range → Range} (changed : v.RangeChanged segment.toUInt8 change v') :
    v'.Looks segment admin { τ with range := change τ.range } := by
  have tenancy := changed.tenancy_eq
  rw [looks.tenancy] at tenancy
  obtain ⟨ranges, -, rfl⟩ := changed
  exact ⟨looks.lockingEnabled, looks.admin, tenancy⟩

theorem userChanged {change : User → User} (changed : v.UserChanged (Authority.ofSegment segment).who change v') :
    v'.Looks segment admin { τ with user := change τ.user } := by
  have tenancy := changed.tenancy_eq
  rw [looks.tenancy] at tenancy
  obtain ⟨users, -, rfl⟩ := changed
  exact ⟨looks.lockingEnabled, looks.admin, tenancy⟩

end Looks

/-- Every vault that looks like this answers the request alike, and looks alike behind it. -/
def Determined (c : Config) (segment : UInt32) (admin : Option Secret) (τ : Tenancy) (request : Request) : Prop :=
  ∃ (answer : Answer request) (τ' : Tenancy), ∀ v : Vault, v.Looks segment admin τ →
    ∃ (a : Answer request) (v' : Vault), v.perform? c request = some (a, v') ∧ a.Alike answer ∧ a.InUse ∧
      v'.Looks segment admin τ'

/-- A call that changes nothing. -/
theorem determined_of_unchanged (answer : Answer request) (inUse : answer.InUse)
    (performs : ∀ v : Vault, v.Looks segment admin τ → v.perform? c request = some (answer, v)) :
    Determined c segment admin τ request :=
  ⟨answer, τ, fun v looks => ⟨answer, v, performs v looks, .refl answer, inUse, looks⟩⟩

theorem kind_ne_of_not_reads (noReading : ¬ request.Reads) : request.kind ≠ .getRangeStatus := by
  cases request with
  | getRangeStatus => exact absurd trivial noReading
  | _ => nofun

/-- Where nothing but a status is answered, the status is all there is to tell apart. -/
theorem alike_of_status {a b : Answer request} (noReading : ¬ request.Reads) (same : a.status = b.status) :
    a.Alike b ∧ a.InUse := by
  obtain ⟨status, reading⟩ := a
  obtain ⟨_, reading'⟩ := b
  cases same
  cases request with
  | getStatus | getGeometry | getRangeStatus => exact absurd trivial noReading
  | _ => exact ⟨rfl, trivial⟩

/-- A call that is accepted and changes the range of the segment. -/
theorem determined_of_rangeChanged (valid : checkSegment segment = .ok ()) (noReading : ¬ request.Reads)
    (change : Range → Range)
    (effect : ∀ v v' : Vault, v.Looks segment admin τ → v.RangeChanged segment.toUInt8 change v' →
      Effect c v request v') : Determined c segment admin τ request := by
  refine ⟨⟨.success, request.submitted⟩, { τ with range := change τ.range }, fun v looks => ?_⟩
  obtain ⟨v', changed⟩ := rangeChanged_exists (v := v) (toUInt8_lt_rangeCount valid) change
  obtain ⟨a, performs, accepted⟩ := (effect v v' looks changed).performs (kind_ne_of_not_reads noReading)
  obtain ⟨alike, inUse⟩ := alike_of_status (b := ⟨.success, request.submitted⟩) noReading accepted
  exact ⟨a, v', performs, alike, inUse, looks.rangeChanged changed⟩

/-- A call that is accepted and changes the user of the segment. -/
theorem determined_of_userChanged (valid : checkSegment segment = .ok ()) (noReading : ¬ request.Reads)
    (change : User → User)
    (effect : ∀ v v' : Vault, v.Looks segment admin τ → v.UserChanged (Authority.ofSegment segment).who change v' →
      Effect c v request v') : Determined c segment admin τ request := by
  refine ⟨⟨.success, request.submitted⟩, { τ with user := change τ.user }, fun v looks => ?_⟩
  obtain ⟨v', changed⟩ := userChanged_exists (v := v) (toNat_lt_userCount (isUser_ofSegment valid)) change
  obtain ⟨a, performs, accepted⟩ := (effect v v' looks changed).performs (kind_ne_of_not_reads noReading)
  obtain ⟨alike, inUse⟩ := alike_of_status (b := ⟨.success, request.submitted⟩) noReading accepted
  exact ⟨a, v', performs, alike, inUse, looks.userChanged changed⟩

theorem determined_setPassword {change : NewPassword} (own : (Request.setPassword change).Own segment) :
    Determined c segment admin τ (.setPassword change) := by
  obtain ⟨valid, who, target⟩ := own
  by_cases proven : admin = some change.session.key.content
  · refine determined_of_userChanged valid id (fun u => { u with password := some change.user.key.content })
      fun v v' looks changed => .setUserPassword ?_ (.inl who) (target ▸ isUser_ofSegment valid) (target ▸ changed)
    rw [who, authenticates?_admin1, looks.isAdmin proven]
  · refine determined_of_unchanged ⟨.notAuthorized, ()⟩ trivial fun v looks => ?_
    have refused : (v.setPassword change).outcome = some (.notAuthorized, v) := by
      simp [setPassword, who, authenticates?_admin1, looks.isAdmin_eq, proven]
    simp [perform?, traced, refused]

theorem determined_activateUser {session : Session} (own : (Request.activateUser session).Own segment) :
    Determined c segment admin τ (.activateUser session) := by
  obtain ⟨valid, target⟩ := own
  have target : session.who = (Authority.ofSegment segment).who := target
  by_cases proven : admin = some session.key.content
  · exact determined_of_userChanged valid id (fun u => { u with enabled := true }) fun v v' looks changed =>
      .activateUser (looks.isAdmin proven) (target ▸ isUser_ofSegment valid) (target ▸ changed)
  · refine determined_of_unchanged ⟨.notAuthorized, ()⟩ trivial fun v looks => ?_
    have refused : (v.activateUser session).outcome = some (.notAuthorized, v) := by
      simp [activateUser, looks.isAdmin_eq, proven]
    simp [perform?, traced, refused]

theorem determined_setupRange {setup : RangeSetup} (own : (Request.setupRange setup).Own segment) :
    Determined c segment admin τ (.setupRange setup) := by
  obtain ⟨valid, range⟩ := own
  have range : setup.session.key.range = segment.toUInt8 := range
  by_cases proven : setup.session.who = Authority.admin1.who ∧ admin = some setup.session.key.content
  · exact determined_of_rangeChanged valid id (·.configure c setup) fun v v' looks changed =>
      .setupRange proven.1 (looks.isAdmin proven.2) (range ▸ changed)
  · refine determined_of_unchanged ⟨.notAuthorized, ()⟩ trivial fun v looks => ?_
    have refused := outcome_setupRange_of_refused (c := c) (looks.refused_of_not_admin proven)
    simp [perform?, traced, refused]

theorem determined_eraseRange {session : Session} (own : (Request.eraseRange session).Own segment) :
    Determined c segment admin τ (.eraseRange session) ∧ Determined c segment admin τ (.secureEraseRange session) := by
  obtain ⟨valid, range⟩ := own
  have range : session.key.range = segment.toUInt8 := range
  by_cases proven : session.who = Authority.admin1.who ∧ admin = some session.key.content
  · exact ⟨determined_of_rangeChanged valid id (·.erase false)
        fun v v' looks changed => .eraseRange proven.1 (looks.isAdmin proven.2) (range ▸ changed),
      determined_of_rangeChanged valid id (·.erase true)
        fun v v' looks changed => .secureEraseRange proven.1 (looks.isAdmin proven.2) (range ▸ changed)⟩
  · have refused : ∀ (keeps : Bool) (v : Vault), v.Looks segment admin τ →
        (v.eraseRange session keeps).outcome = some (.notAuthorized, v) :=
      fun keeps v looks => outcome_eraseRange_of_refused (looks.refused_of_not_admin proven) keeps
    exact ⟨determined_of_unchanged ⟨.notAuthorized, ()⟩ trivial fun v looks => by simp [perform?, traced, refused _ v looks],
      determined_of_unchanged ⟨.notAuthorized, ()⟩ trivial fun v looks => by simp [perform?, traced, refused _ v looks]⟩

theorem determined_addUserToRange {grant : LockRequest} (own : (Request.addUserToRange grant).Own segment) :
    Determined c segment admin τ (.addUserToRange grant) := by
  obtain ⟨valid, range, who⟩ := own
  have user : isUser grant.session.who = true := who ▸ isUser_ofSegment valid
  have there : ∀ v : Vault, v.Looks segment admin τ → v.ranges[grant.session.key.range.toNat]? = some τ.range :=
    fun v looks => range ▸ looks.getElem?_range valid
  by_cases proven : admin = some grant.session.key.content
  · by_cases read : grant.state = LockState.readOnly.word
    · obtain ⟨readGrants, granted⟩ := exists_modify? τ.range.readGrants (toNat_lt_userCount user) fun _ => true
      exact determined_of_rangeChanged valid id ({ · with readGrants })
        fun v v' looks changed =>
          .grantRead (looks.isAdmin proven) user read (there v looks) granted (range ▸ changed)
    · by_cases write : grant.state = LockState.readWrite.word
      · obtain ⟨writeGrants, granted⟩ := exists_modify? τ.range.writeGrants (toNat_lt_userCount user) fun _ => true
        exact determined_of_rangeChanged valid id ({ · with writeGrants })
          fun v v' looks changed =>
            .grantWrite (looks.isAdmin proven) user write (there v looks) granted (range ▸ changed)
      · refine determined_of_unchanged ⟨.invalidParameter, ()⟩ trivial fun v looks => ?_
        have refused : (v.addUserToRange grant).outcome = some (.invalidParameter, v) := by
          simp [addUserToRange, looks.isAdmin proven, user, there v looks, read, write]
        simp [perform?, traced, refused]
  · refine determined_of_unchanged ⟨.notAuthorized, ()⟩ trivial fun v looks => ?_
    have refused : (v.addUserToRange grant).outcome = some (.notAuthorized, v) := by
      simp [addUserToRange, looks.isAdmin_eq, proven]
    simp [perform?, traced, refused]

theorem determined_lockUnlock {lock : LockRequest} (own : (Request.lockUnlock lock).Own segment) :
    Determined c segment admin τ (.lockUnlock lock) := by
  obtain ⟨valid, range, who⟩ := own
  have there : ∀ v : Vault, v.Looks segment admin τ → v.ranges[lock.session.key.range.toNat]? = some τ.range :=
    fun v looks => range ▸ looks.getElem?_range valid
  have refused : ∀ status : Status,
      (∀ v : Vault, v.Looks segment admin τ → (v.lockUnlock c lock).outcome = some (status, v)) →
      Determined c segment admin τ (.lockUnlock lock) :=
    fun status h => determined_of_unchanged ⟨status, ()⟩ trivial fun v looks => by simp [perform?, traced, h v looks]
  cases word : LockState.ofWord? lock.state with
  | none => exact refused .invalidParameter fun v looks => by simp [lockUnlock, word]
  | some state =>
    cases stands : τ.range.keyFor lock.session state with
    | none => exact refused .notAuthorized fun v looks => by simp [lockUnlock, word, there v looks, stands]
    | some key =>
      have shown : ∀ v : Vault, v.Looks segment admin τ → v.authenticates? lock.session.who key =
          some (τ.user.enabled && τ.user.password == some key) :=
        fun v looks => who ▸ looks.authenticates?_eq valid key
      have may : τ.range.mayLock? lock.session.who = some (τ.range.grants lock.session.who) :=
        Range.mayLock?_eq (who ▸ isUser_ofSegment valid)
      cases proven : τ.user.enabled && τ.user.password == some key with
      | false =>
        rw [proven] at shown
        exact refused .notAuthorized fun v looks => by simp [lockUnlock, word, there v looks, stands, shown v looks]
      | true =>
        rw [proven] at shown
        cases granted : τ.range.grants lock.session.who with
        | false =>
          rw [granted] at may
          exact refused .notAuthorized fun v looks => by
            simp [lockUnlock, word, there v looks, stands, shown v looks, may]
        | true =>
          rw [granted] at may
          cases ignored : c.ignoreLocks with
          | true =>
            exact refused .success fun v looks => by
              simp [lockUnlock, word, there v looks, stands, shown v looks, may, ignored]
          | false =>
            exact determined_of_rangeChanged valid id (·.turn state.word) fun v v' looks changed =>
              .lockUnlock word (there v looks) stands (shown v looks) may ignored (range ▸ changed)

theorem determined_getRangeStatus {session : Session} {submitted : RangeReading}
    (own : (Request.getRangeStatus session submitted).Own segment) :
    Determined c segment admin τ (.getRangeStatus session submitted) := by
  obtain ⟨valid, range, who⟩ := own
  have shown : ∀ v : Vault, v.Looks segment admin τ → v.authenticates? session.who session.key.content =
      some (τ.user.enabled && τ.user.password == some session.key.content) :=
    fun v looks => who ▸ looks.authenticates?_eq valid session.key.content
  cases proven : τ.user.enabled && τ.user.password == some session.key.content with
  | false =>
    rw [proven] at shown
    exact determined_of_unchanged ⟨.notAuthorized, submitted⟩ trivial fun v looks =>
      perform?_getRangeStatus_of_refused (shown v looks)
  | true =>
    rw [proven] at shown
    exact determined_of_unchanged ⟨.success, reading τ.range⟩ trivial fun v looks =>
      perform?_getRangeStatus (shown v looks) (range ▸ looks.getElem?_range valid)

/-- What a request of the segment is answered, and what it makes of the segment, is decided by how the vault looks to
the segment. -/
theorem determined (own : request.Own segment) : Determined c segment admin τ request := by
  cases request with
  | takeOwnership | activateLsp | psidRevert => exact own.about.elim
  | setPassword => exact determined_setPassword own
  | activateUser => exact determined_activateUser own
  | setupRange => exact determined_setupRange own
  | addUserToRange => exact determined_addUserToRange own
  | eraseRange => exact (determined_eraseRange own).1
  | secureEraseRange session => exact (determined_eraseRange ⟨own.valid, own.about⟩).2
  | lockUnlock => exact determined_lockUnlock own
  | saveForResume lock =>
    exact determined_of_rangeChanged own.valid id (·.keep lock) fun v v' _ changed =>
      .saveForResume (own.about.1 ▸ changed)
  | getStatus submitted =>
    refine ⟨⟨.success, ({ lockingEnabled := true } : Vault).flags⟩, τ, fun v looks =>
      ⟨⟨.success, v.flags⟩, v, rfl, ⟨rfl, ?_, ?_⟩, ?_, looks⟩⟩
    · rw [supported_flags, supported_flags]
    · rw [lockingEnabled_flags, lockingEnabled_flags, looks.lockingEnabled]
    · exact (lockingEnabled_flags).trans looks.lockingEnabled
  | getGeometry => exact determined_of_unchanged ⟨.success, c.geometry⟩ trivial fun _ _ => rfl
  | getRangeStatus => exact determined_getRangeStatus own

end Simulator.Vault

/-! ## Drives as a segment sees them -/

namespace SimulatedDrive

variable {d e : SimulatedDrive}

/-- Nothing is queued on either drive, they are built alike, and their vaults look alike to a segment that is handed
out. -/
structure SameFor (segment : UInt32) (d e : SimulatedDrive) : Prop where
  config : d.config = e.config
  idle : d.Idle
  idleToo : e.Idle
  looks : checkSegment segment = .ok () →
    ∃ admin τ, d.vault.Looks segment admin τ ∧ e.vault.Looks segment admin τ

theorem SameFor.refl (idle : d.Idle) (enabled : d.vault.lockingEnabled = true) (segment : UInt32) :
    d.SameFor segment d :=
  ⟨rfl, idle, idle, fun _ => ⟨_, _, ⟨enabled, rfl, rfl⟩, ⟨enabled, rfl, rfl⟩⟩⟩

/-- The segment itself cannot tell the drives apart, and what it does to both keeps it so. -/
theorem SameFor.answer (same : d.SameFor segment e) (own : request.Own segment) :
    (d.answer request).1.Alike (e.answer request).1 ∧ (e.answer request).1.InUse ∧
      (d.answer request).2.SameFor segment (e.answer request).2 := by
  obtain ⟨admin, τ, looks, looksToo⟩ := same.looks own.valid
  have decided : Vault.Determined e.config segment admin τ request := Vault.determined own
  obtain ⟨answer, τ', decided⟩ := decided
  obtain ⟨a, v, performs, alike, -, left⟩ := decided _ looks
  obtain ⟨b, w, performsToo, alikeToo, inUse, leftToo⟩ := decided _ looksToo
  rw [← same.config] at performs
  rw [same.idle.answer_of_performs performs, same.idleToo.answer_of_performs performsToo]
  exact ⟨alike.trans alikeToo.symm, inUse, same.config, same.idle.behind, same.idleToo.behind,
    fun _ => ⟨admin, τ', left, leftToo⟩⟩

/-- A call that another segment makes goes unnoticed. -/
theorem SameFor.otherAnswer (same : d.SameFor segment e) (own : request.Own other) (ne : segment ≠ other) :
    (d.answer request).2.SameFor segment e := by
  obtain ⟨v, behind, settles⟩ := same.idle.settles request
  rw [behind]
  refine ⟨same.config, same.idle.behind, same.idleToo, fun valid => ?_⟩
  obtain ⟨admin, τ, looks, looksToo⟩ := same.looks valid
  refine ⟨admin, τ, ?_, looksToo⟩
  rcases settles with ⟨-, effect⟩ | ⟨-, rfl⟩
  · have keys := effect.sameKeys own.confined own.valid own.not_takesOver
    exact ⟨keys.lockingEnabled.trans looks.lockingEnabled, keys.admin.trans looks.admin,
      (effect.tenancy_eq own.confined own.valid valid ne).trans looks.tenancy⟩
  · exact looks

end SimulatedDrive

end OpalLocking
