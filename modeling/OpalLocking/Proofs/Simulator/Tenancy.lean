/-
A segment as its tenant has it: a range and the user that it belongs to.

Once Admin1's key is in force, a drive accepts the calls that provision a segment one after the other, whatever the
tenancy was before, and leaves it as `Provision.provisioned` says (`Provision.Admitted.configures`). Others may use
the drive meanwhile, as long as they leave the tenancy and Admin1's key alone.
-/
import OpalLocking.Proofs.Arguments
import OpalLocking.Proofs.ProvisioningPlan
import OpalLocking.Proofs.Simulator.Acceptance

namespace OpalLocking

namespace Simulator

/-! ## Tenancies -/

/-- A user with the range that it owns; both as they left the factory, unless something else is said. -/
structure Tenancy where
  user : User := {}
  range : Range := {}
deriving DecidableEq

/-- A table of grants with one more user in it. -/
def granting (who : UInt32) (grants : Vector Bool userCount) : Vector Bool userCount :=
  (modify? grants who.toNat fun _ => true).getD grants

theorem granting_of_modify? {who : UInt32} {grants grants' : Vector Bool userCount}
    (h : modify? grants who.toNat (fun _ => true) = some grants') : granting who grants = grants' := by
  rw [granting, h]
  rfl

theorem granting_granting (who : UInt32) (grants : Vector Bool userCount) :
    granting who (granting who grants) = granting who grants := by
  by_cases there : who.toNat < userCount <;> simp [granting, modify?, there]

theorem getElem?_granting {who other : UInt32} (there : who.toNat < userCount) (grants : Vector Bool userCount) :
    (granting who grants)[other.toNat]?.getD false = (decide (other = who) || grants[other.toNat]?.getD false) := by
  by_cases same : other = who
  · subst same
    simp [granting, modify?, there]
  · have apart : ¬ who.toNat = other.toNat := fun h => same (UInt32.toNat_inj.1 h).symm
    simp [granting, modify?, there, apart, same]

namespace Range

/-- Whether a user may change both locks. -/
def grants (r : Range) (who : UInt32) : Bool :=
  r.readGrants[who.toNat]?.getD false && r.writeGrants[who.toNat]?.getD false

def grantRead (who : UInt32) (r : Range) : Range :=
  { r with readGrants := granting who r.readGrants }

def grantWrite (who : UInt32) (r : Range) : Range :=
  { r with writeGrants := granting who r.writeGrants }

variable {r : Range} {who : UInt32}

theorem grants_of_blank (blank : r.readGrants = .replicate userCount false) (who : UInt32) : r.grants who = false := by
  rw [grants, blank, Vector.getElem?_replicate]
  split <;> rfl

theorem mayLock?_eq (user : Vault.isUser who = true) : r.mayLock? who = some (r.grants who) := by
  have there := Vault.toNat_lt_userCount user
  have notAdmin : who ≠ Authority.admin1.who := by
    rintro rfl
    cases user
  unfold mayLock? mayLock
  simp [grants, notAdmin, Vector.getElem?_eq_getElem there]

theorem grants_grantRead {other : UInt32} (user : Vault.isUser who = true) (granted : r.grants other = true) :
    (r.grantRead who).grants other = true := by
  simp only [grants, grantRead, getElem?_granting (Vault.toNat_lt_userCount user)] at granted ⊢
  simp_all

theorem grants_grantWrite {other : UInt32} (user : Vault.isUser who = true) (granted : r.grants other = true) :
    (r.grantWrite who).grants other = true := by
  simp only [grants, grantWrite, getElem?_granting (Vault.toNat_lt_userCount user)] at granted ⊢
  simp_all

theorem grants_grantWrite_grantRead_iff (user : Vault.isUser who = true) {other : UInt32} :
    ((r.grantRead who).grantWrite who).grants other = true ↔ other = who ∨ r.grants other = true := by
  have there := Vault.toNat_lt_userCount user
  simp only [grants, grantRead, grantWrite, getElem?_granting there]
  by_cases same : other = who <;> simp [same]

end Range

namespace Vault

variable {v v' : Vault}

def tenancy (v : Vault) (segment : UInt32) : Tenancy :=
  ⟨v.userAt (Authority.ofSegment segment).who, v.rangeAt segment.toUInt8⟩

theorem tenancy_of_blank (users : v.users = .replicate userCount {}) (ranges : v.ranges = .replicate rangeCount {})
    (segment : UInt32) : v.tenancy segment = {} := by
  rw [tenancy, userAt_of_blank users, rangeAt_of_blank ranges]

theorem RangeChanged.tenancy_eq {segment : UInt32} {change : Range → Range}
    (h : v.RangeChanged segment.toUInt8 change v') :
    v'.tenancy segment = { v.tenancy segment with range := change (v.tenancy segment).range } := by
  simp [tenancy, h.rangeAt_eq, h.userAt_eq]

theorem UserChanged.tenancy_eq {segment : UInt32} {change : User → User}
    (h : v.UserChanged (Authority.ofSegment segment).who change v') :
    v'.tenancy segment = { v.tenancy segment with user := change (v.tenancy segment).user } := by
  simp [tenancy, h.userAt_eq, h.rangeAt_eq]

theorem RangeChanged.isAdmin_eq {range : UInt8} {change : Range → Range} (h : v.RangeChanged range change v') :
    v'.isAdmin = v.isAdmin := by
  obtain ⟨ranges, -, rfl⟩ := h
  rfl

theorem UserChanged.isAdmin_eq {who : UInt32} {change : User → User} (h : v.UserChanged who change v') :
    v'.isAdmin = v.isAdmin := by
  obtain ⟨users, -, rfl⟩ := h
  rfl

theorem isAdmin_iff {key : Secret} : v.isAdmin key = true ↔ v.lockingEnabled = true ∧ v.admin = some key := by
  simp [isAdmin]

theorem isAdmin_eq_false {key : Secret} (other : v.admin ≠ some key) : v.isAdmin key = false :=
  Bool.eq_false_iff.2 fun proven => other (isAdmin_iff.1 proven).2

theorem authenticates?_admin1 {key : Secret} : v.authenticates? Authority.admin1.who key = some (v.isAdmin key) := by
  cases enabled : v.lockingEnabled <;> simp [authenticates?_eq, isAdmin, enabled]

/-- A user proves itself on a drive in use, enabled and with its password. -/
theorem authenticates?_user {who : UInt32} {key : Secret} (user : isUser who = true) :
    v.authenticates? who key =
      some (v.lockingEnabled && (v.userAt who).enabled && (v.userAt who).password == some key) := by
  have there := toNat_lt_userCount user
  have notAdmin : who ≠ Authority.admin1.who := by
    rintro rfl
    cases user
  have most : who ≤ Authority.lastUser := by
    simpa using (Bool.and_eq_true_iff.1 user).2
  cases enabled : v.lockingEnabled <;>
    simp [authenticates?_eq, enabled, notAdmin, most, getElem?_users there]

end Vault

end Simulator

open Simulator

variable {p : Provision} {c : Config} {bounds : BlockBounds} {τ : Tenancy} {d d' : SimulatedDrive}
  {others : SimulatedDrive → SimulatedDrive → Prop}

/-- The range and the user of a segment that is handed out are in their tables. -/
theorem toUInt8_lt_rangeCount {segment : UInt32} (valid : checkSegment segment = .ok ()) :
    segment.toUInt8.toNat < rangeCount := by
  have most : segment.toNat ≤ 8 := UInt32.le_iff_toNat_le.1 (checkSegment_eq_ok_iff.1 valid).2
  simp only [UInt32.toNat_toUInt8, rangeCount]
  omega

/-- A drive that is built like this takes these bounds as they are. -/
def Simulator.Config.KeepsBounds (c : Config) (bounds : BlockBounds) : Prop :=
  c.round bounds.start = bounds.start ∧ c.round bounds.length = bounds.length

namespace Provision

/-! ## What makes provisioning go through -/

/-- The arguments are accepted, and a drive that is built like this opens, obeys lock requests and can carry the
range, at these bounds in blocks. -/
structure Suits (p : Provision) (c : Config) (bounds : BlockBounds) : Prop where
  valid : p.check = .ok ()
  supported : c.supported = true
  opens : c.failOpen = false
  heeded : c.ignoreLocks = false
  start : (Geometry.ofReading c.geometry).sectorsToBlocks p.start = some bounds.start
  length : (Geometry.ofReading c.geometry).sectorsToBlocks p.length = some bounds.length

/-- The tenancy behind provisioning: of what the range was before, only the other users' grants, the kept key and the
count of erasures are left. -/
def provisioned (p : Provision) (c : Config) (bounds : BlockBounds) (before : Range) : Tenancy where
  user := { enabled := true, password := some p.volumeKey }
  range := (((before.grantRead p.user.who).grantWrite p.user.who).configure c (p.setup bounds)).turn
    LockState.locked.word

/-- The segment is as it was asked for: it belongs to its user alone, lies where it should, and is locked. -/
structure Holds (p : Provision) (bounds : BlockBounds) (τ : Tenancy) : Prop where
  user : τ.user = { enabled := true, password := some p.volumeKey }
  start : τ.range.snapshot.start = bounds.start
  length : τ.range.snapshot.length = bounds.length
  readLockEnabled : τ.range.snapshot.readLockEnabled = true
  writeLockEnabled : τ.range.snapshot.writeLockEnabled = true
  locked : τ.range.snapshot.state = LockState.locked.word
  grants : ∀ who, τ.range.grants who = true ↔ who = p.user.who
  saved : τ.range.saved = none

/-- Nothing is queued on the drive, the key provided is Admin1's, and the tenancy of the segment is as given. -/
structure Admitted (p : Provision) (c : Config) (τ : Tenancy) (d : SimulatedDrive) : Prop where
  config : d.config = c
  queue : d.queue = []
  admin : d.vault.isAdmin p.adminKey = true
  tenancy : d.vault.tenancy p.segment = τ

/-- The drive accepts the call in this tenancy, and takes it into another. -/
def Grants (p : Provision) (c : Config) (τ : Tenancy) (request : Request) (τ' : Tenancy) : Prop :=
  ∀ d, p.Admitted c τ d →
    (d.answer request).1.status.classify = .success ∧ p.Admitted c τ' (d.answer request).2

namespace Suits

variable (suits : p.Suits c bounds)
include suits

theorem adminKey_short : p.adminKey.length ≤ maxKeyLength :=
  length_le_of_checkKey (check_eq_ok suits.valid).1

theorem adminKey_content {range : UInt8} : (KeyBlock.fill range p.adminKey).content = p.adminKey :=
  KeyBlock.content_fill suits.adminKey_short

theorem volumeKey_content {range : UInt8} : (KeyBlock.fill range p.volumeKey).content = p.volumeKey :=
  KeyBlock.content_fill (length_le_of_checkKey (check_eq_ok suits.valid).2.1)

theorem isUser : Vault.isUser p.user.who = true :=
  isUser_ofSegment (check_eq_ok suits.valid).2.2

theorem lt_rangeCount : p.range.toNat < rangeCount :=
  toUInt8_lt_rangeCount (check_eq_ok suits.valid).2.2

theorem lt_userCount : p.user.who.toNat < userCount :=
  Vault.toNat_lt_userCount suits.isUser

theorem fits {g : Answer (.getGeometry default)} (given : g = ⟨.success, c.geometry⟩) : p.Fits g bounds := by
  subst given
  refine ⟨⟨rfl, fun (none : c.geometry.blockSize = 0) => ?_⟩, suits.start, suits.length⟩
  have start := suits.start
  simp [Geometry.sectorsToBlocks, Geometry.ofReading, none] at start

/-- What was configured reads back in sectors as it was asked for, if the drive does not round it. -/
theorem readsAsAsked (kept : c.KeepsBounds bounds) (before : Range) :
    p.ReadsAsAsked (.ofReading c.geometry) (Vault.reading (p.provisioned c bounds before).range) := by
  refine ⟨?_, ?_, (by decide : (1 : UInt32) ≠ 0), (by decide : (1 : UInt32) ≠ 0), rfl⟩
  · exact (congrArg _ kept.1).trans (Geometry.blocksToSectors_of_sectorsToBlocks suits.start)
  · exact (congrArg _ kept.2).trans (Geometry.blocksToSectors_of_sectorsToBlocks suits.length)

theorem grants_provisioned {before : Range} {who : UInt32} :
    (p.provisioned c bounds before).range.grants who = true ↔ who = p.user.who ∨ before.grants who = true :=
  Range.grants_grantWrite_grantRead_iff suits.isUser

/-- A range that nobody had anything to do with before is as it was asked for. -/
theorem provisioned_holds (kept : c.KeepsBounds bounds) {before : Range} (free : ∀ who, before.grants who = false)
    (unsaved : before.saved = none) : p.Holds bounds (p.provisioned c bounds before) where
  user := rfl
  start := kept.1
  length := kept.2
  readLockEnabled := rfl
  writeLockEnabled := rfl
  locked := rfl
  grants who := by rw [suits.grants_provisioned, free who]; simp
  saved := unsaved

end Suits

/-! ## On the drive of a tenant -/

namespace Admitted

theorem idle (admitted : p.Admitted c τ d) (suits : p.Suits c bounds) : d.Idle :=
  ⟨by rw [admitted.config]; exact suits.supported, admitted.queue⟩

theorem isAdmin_fill (admitted : p.Admitted c τ d) (suits : p.Suits c bounds) {range : UInt8} :
    d.vault.isAdmin (KeyBlock.fill range p.adminKey).content = true := by
  rw [suits.adminKey_content]
  exact admitted.admin

theorem getElem?_range (admitted : p.Admitted c τ d) (suits : p.Suits c bounds) :
    d.vault.ranges[p.range.toNat]? = some τ.range := by
  have range : d.vault.rangeAt p.range = τ.range := congrArg Tenancy.range admitted.tenancy
  rw [Vault.getElem?_ranges suits.lt_rangeCount, range]

/-- An enabled user proves itself with its password. -/
theorem authenticates (admitted : p.Admitted c τ d) (suits : p.Suits c bounds) (enabled : τ.user.enabled = true)
    (password : τ.user.password = some p.volumeKey) :
    d.vault.authenticates? p.user.who p.volumeKey = some true := by
  have user : d.vault.userAt p.user.who = τ.user := congrArg Tenancy.user admitted.tenancy
  rw [Vault.authenticates?_user suits.isUser, user, enabled, password, (Vault.isAdmin_iff.1 admitted.admin).1]
  simp

/-- Being asked for something leaves no trace but the record of the call. -/
theorem behind {request : Request} (admitted : p.Admitted c τ d) : p.Admitted c τ (d.behind request d.vault) :=
  ⟨admitted.config, admitted.queue, admitted.admin, admitted.tenancy⟩

theorem answer_getGeometry (admitted : p.Admitted c τ d) (suits : p.Suits c bounds) :
    d.answer (.getGeometry default) = (⟨.success, c.geometry⟩, d.behind (.getGeometry default) d.vault) := by
  rw [(admitted.idle suits).answer_getGeometry, admitted.config]

/-- The range is shown to its user. -/
theorem answer_readRequest (admitted : p.Admitted c τ d) (suits : p.Suits c bounds)
    (enabled : τ.user.enabled = true) (password : τ.user.password = some p.volumeKey) :
    d.answer (readRequest p.segment p.volumeKey) =
      (⟨.success, Vault.reading τ.range⟩, d.behind (readRequest p.segment p.volumeKey) d.vault) := by
  refine (admitted.idle suits).answer_of_performs (Vault.perform?_getRangeStatus ?_ (admitted.getElem?_range suits))
  exact (congrArg _ suits.volumeKey_content).trans (admitted.authenticates suits enabled password)

end Admitted

/-! ## One call after the other -/

namespace Suits

variable (suits : p.Suits c bounds)
include suits

/-- A call on the range of the tenancy. -/
theorem grants_of_rangeChanged {request : Request} (change : Range → Range)
    (noReading : request.kind ≠ .getRangeStatus)
    (effect : ∀ d v, p.Admitted c τ d → d.vault.RangeChanged p.range change v → Vault.Effect c d.vault request v) :
    p.Grants c τ request { τ with range := change τ.range } := by
  intro d admitted
  obtain ⟨v, changed⟩ := Vault.rangeChanged_exists (v := d.vault) suits.lt_rangeCount change
  obtain ⟨accepted, behind⟩ :=
    (admitted.idle suits).accepts (by rw [admitted.config]; exact effect d v admitted changed) noReading
  rw [accepted, behind]
  refine ⟨rfl, admitted.config, admitted.queue, ?_, ?_⟩
  · exact (congrFun changed.isAdmin_eq _).trans admitted.admin
  · exact changed.tenancy_eq.trans (by rw [admitted.tenancy])

/-- A call on its user. -/
theorem grants_of_userChanged {request : Request} (change : User → User)
    (noReading : request.kind ≠ .getRangeStatus)
    (effect : ∀ d v, p.Admitted c τ d → d.vault.UserChanged p.user.who change v → Vault.Effect c d.vault request v) :
    p.Grants c τ request { τ with user := change τ.user } := by
  intro d admitted
  obtain ⟨v, changed⟩ := Vault.userChanged_exists (v := d.vault) suits.lt_userCount change
  obtain ⟨accepted, behind⟩ :=
    (admitted.idle suits).accepts (by rw [admitted.config]; exact effect d v admitted changed) noReading
  rw [accepted, behind]
  refine ⟨rfl, admitted.config, admitted.queue, ?_, ?_⟩
  · exact (congrFun changed.isAdmin_eq _).trans admitted.admin
  · exact changed.tenancy_eq.trans (by rw [admitted.tenancy])

theorem grants_eraseRange :
    p.Grants c τ (.eraseRange (adminSession p.range p.adminKey)) { τ with range := τ.range.erase false } :=
  suits.grants_of_rangeChanged (·.erase false) nofun fun _ _ admitted changed =>
    .eraseRange rfl (admitted.isAdmin_fill suits) changed

theorem grants_activateUser :
    p.Grants c τ (.activateUser (.opening p.user.who 0 p.adminKey)) { τ with user.enabled := true } :=
  suits.grants_of_userChanged (fun u => { u with enabled := true }) nofun fun _ _ admitted changed =>
    .activateUser (admitted.isAdmin_fill suits) suits.isUser changed

theorem grants_grantRead :
    p.Grants c τ (.addUserToRange (p.grant .readOnly)) { τ with range := τ.range.grantRead p.user.who } := by
  obtain ⟨readGrants, granted⟩ := exists_modify? τ.range.readGrants suits.lt_userCount fun _ => true
  have grant : τ.range.grantRead p.user.who = { τ.range with readGrants } := by
    rw [Range.grantRead, granting_of_modify? granted]
  rw [grant]
  exact suits.grants_of_rangeChanged ({ · with readGrants }) nofun fun _ _ admitted changed =>
    .grantRead (admitted.isAdmin_fill suits) suits.isUser rfl (admitted.getElem?_range suits) granted changed

theorem grants_grantWrite :
    p.Grants c τ (.addUserToRange (p.grant .readWrite)) { τ with range := τ.range.grantWrite p.user.who } := by
  obtain ⟨writeGrants, granted⟩ := exists_modify? τ.range.writeGrants suits.lt_userCount fun _ => true
  have grant : τ.range.grantWrite p.user.who = { τ.range with writeGrants } := by
    rw [Range.grantWrite, granting_of_modify? granted]
  rw [grant]
  exact suits.grants_of_rangeChanged ({ · with writeGrants }) nofun fun _ _ admitted changed =>
    .grantWrite (admitted.isAdmin_fill suits) suits.isUser rfl (admitted.getElem?_range suits) granted changed

theorem grants_setPassword :
    p.Grants c τ (.setPassword p.passwordChange) { τ with user.password := some p.volumeKey } := by
  have content : p.passwordChange.user.key.content = p.volumeKey := suits.volumeKey_content
  rw [← content]
  refine suits.grants_of_userChanged (fun u => { u with password := some p.passwordChange.user.key.content }) nofun
    fun d v admitted changed => .setUserPassword ?_ (.inl rfl) suits.isUser changed
  exact Vault.authenticates?_admin1.trans (congrArg some (admitted.isAdmin_fill suits))

theorem grants_setupRange :
    p.Grants c τ (.setupRange (p.setup bounds)) { τ with range := τ.range.configure c (p.setup bounds) } :=
  suits.grants_of_rangeChanged (·.configure c (p.setup bounds)) nofun fun _ _ admitted changed =>
    .setupRange rfl (admitted.isAdmin_fill suits) changed

/-- The range is locked as its user, who was enabled, given its password and granted both locks before. -/
theorem grants_lockUnlock (enabled : τ.user.enabled = true) (password : τ.user.password = some p.volumeKey)
    (granted : τ.range.grants p.user.who = true) :
    p.Grants c τ (.lockUnlock (lockRequest p.segment .locked (some p.volumeKey)))
      { τ with range := τ.range.turn LockState.locked.word } := by
  have stands : τ.range.keyFor (lockRequest p.segment .locked (some p.volumeKey)).session .locked =
      some p.volumeKey := by
    have content : (lockRequest p.segment .locked (some p.volumeKey)).session.key.content = p.volumeKey :=
      suits.volumeKey_content
    have brought : ¬ (p.volumeKey.isEmpty && decide (LockState.locked = .locked)) = true := by
      rw [isEmpty_of_checkKey (check_eq_ok suits.valid).2.1]
      nofun
    rw [← content] at brought
    exact (if_neg brought).trans (congrArg some content)
  have may : τ.range.mayLock? p.user.who = some true := by
    rw [Range.mayLock?_eq suits.isUser, granted]
  exact suits.grants_of_rangeChanged (·.turn LockState.locked.word) nofun fun _ _ admitted changed =>
    .lockUnlock rfl (admitted.getElem?_range suits) stands (admitted.authenticates suits enabled password) may
      suits.heeded changed

end Suits

end Provision

end OpalLocking
