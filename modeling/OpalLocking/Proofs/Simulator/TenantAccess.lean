/-
What a segment is to whoever has its key, and to everybody else.

On a drive that nothing is queued on, a segment is read, unlocked and locked as its tenant has it
(`SimulatedDrive.Houses`): whoever brings the key gets what is asked for, a lock goes through once the key was kept,
and every other key is refused with nothing changed.
-/
import OpalLocking.Proofs.Simulator.KeylessLocking

namespace OpalLocking

open Simulator

variable {c : Config} {segment : UInt32} {key other : Secret} {want : Expectations} {r : Range} {d d' : SimulatedDrive}

/-! ## One key and no other -/

namespace Simulator.Vault

variable {v v' : Vault}

theorem keyFor_unlock (r : Range) (segment : UInt32) (keyed : checkKey .user key = .ok ()) :
    r.keyFor (lockOperationRequest segment false (some key)).session .readWrite = some key := by
  have content : (lockOperationRequest segment false (some key)).session.key.content = key :=
    KeyBlock.content_fill (length_le_of_checkKey keyed)
  simp [Range.keyFor, content]

/-- Locking is enabled, and this is the password of an enabled user. -/
structure Admits (v : Vault) (who : UInt32) (key : Secret) : Prop where
  lockingEnabled : v.lockingEnabled = true
  enabled : (v.userAt who).enabled = true
  password : (v.userAt who).password = some key

theorem authenticates?_of_not_admits {who : UInt32} (user : isUser who = true) (stranger : ¬ v.Admits who key) :
    v.authenticates? who key = some false := by
  rw [authenticates?_user user]
  refine congrArg some (Bool.eq_false_iff.2 fun proven => stranger ?_)
  simp only [Bool.and_eq_true, beq_iff_eq] at proven
  exact ⟨proven.1.1, proven.1.2, proven.2⟩

theorem perform?_unlock_of_not_admits (valid : checkSegment segment = .ok ()) (keyed : checkKey .user key = .ok ())
    (stranger : ¬ v.Admits (Authority.ofSegment segment).who key) :
    v.perform? c (.lockUnlock (lockOperationRequest segment false (some key))) = some (⟨.notAuthorized, ()⟩, v) := by
  have there : v.ranges[(lockOperationRequest segment false (some key)).session.key.range.toNat]? =
      some (v.rangeAt segment.toUInt8) := getElem?_ranges (toUInt8_lt_rangeCount valid)
  have word : LockState.ofWord? (lockOperationRequest segment false (some key)).state = some .readWrite :=
    LockState.ofWord?_word .readWrite
  have stands := keyFor_unlock (v.rangeAt segment.toUInt8) segment keyed
  have refuted : v.authenticates? (lockOperationRequest segment false (some key)).session.who key = some false :=
    authenticates?_of_not_admits (isUser_ofSegment valid) stranger
  have refused : (v.lockUnlock c (lockOperationRequest segment false (some key))).outcome =
      some (.notAuthorized, v) := by
    simp [lockUnlock, word, there, stands, refuted]
  simp [perform?, traced, refused]

theorem perform?_readRequest_of_not_admits (valid : checkSegment segment = .ok ())
    (keyed : checkKey .user key = .ok ()) (stranger : ¬ v.Admits (Authority.ofSegment segment).who key) :
    v.perform? c (readRequest segment key) = some (⟨.notAuthorized, default⟩, v) := by
  have content : (KeyBlock.fill segment.toUInt8 key).content = key :=
    KeyBlock.content_fill (length_le_of_checkKey keyed)
  rw [← content] at stranger
  exact perform?_getRangeStatus_of_refused (authenticates?_of_not_admits (isUser_ofSegment valid) stranger)

/-- The user of a segment is admitted with its key alone. -/
theorem Trusts.admits_iff (trusts : v.Trusts segment key) :
    v.Admits (Authority.ofSegment segment).who other ↔ other = key :=
  ⟨fun admits => Option.some.inj (admits.password.symm.trans trusts.password),
    fun same => ⟨trusts.lockingEnabled, trusts.enabled, same ▸ trusts.password⟩⟩

/-- Whoever brings the key is shown the range. -/
theorem Trusts.perform?_readRequest (trusts : v.Trusts segment key) (valid : checkSegment segment = .ok ())
    (keyed : checkKey .user key = .ok ()) :
    v.perform? c (readRequest segment key) = some (⟨.success, reading (v.rangeAt segment.toUInt8)⟩, v) := by
  have content : (KeyBlock.fill segment.toUInt8 key).content = key :=
    KeyBlock.content_fill (length_le_of_checkKey keyed)
  have proven := trusts.authenticates valid
  rw [← content] at proven
  exact perform?_getRangeStatus proven (getElem?_ranges (toUInt8_lt_rangeCount valid))

end Simulator.Vault

/-! ## Reading back -/

/-- What reading a range back comes to, once the range was shown. -/
def compared (segment : UInt32) (want : Expectations) (attributes : Attributes) : Except Error Attributes :=
  if attributes.mismatches want = [] then .ok attributes
  else .error (.mismatch segment (attributes.mismatches want))

/-- Verifying asks for the geometry and for the range, and the second answer decides. -/
theorem verify_calls (idle : d.Idle) (opens : d.config.failOpen = false) (sized : d.config.geometry.blockSize ≠ 0)
    (passed : (Operation.verify segment key want).check = .ok ()) :
    ∃ a : Answer (readRequest segment key),
      SimulatedDrive.drive.Serves nobody (d.behind (.getGeometry default) d.vault) [⟨_, a⟩]
          (d.run (.verify segment key want)).drive ∧
        (a.status.classify ≠ .success →
          FailsAs (d.run (.verify segment key want)).result a.status.classify.stepKind) ∧
        (a.status.classify = .success → (d.run (.verify segment key want)).result =
          (compared segment want (.ofReading (.ofReading d.config.geometry) a.reading)).map .attributes) := by
  have course := d.run_course _ passed opens
  have serves := d.run_serves (.verify segment key want)
  generalize (d.run (.verify segment key want)).trace.exchanges = xs at course serves
  generalize (d.run (.verify segment key want)).result = r at course ⊢
  generalize (d.run (.verify segment key want)).drive = d' at serves ⊢
  cases course with
  | verify course =>
    cases course with
    | unusable why =>
      obtain ⟨rfl, -⟩ := idle.step_getGeometry serves
      exact absurd ⟨rfl, sized⟩ why
    | @refused _ a _ _ refused fails =>
      obtain ⟨rfl, rest⟩ := idle.step_getGeometry serves
      exact ⟨a, rest, fun _ => failsAs_map.2 fails, fun accepted => absurd accepted refused⟩
    | @matched _ a _ accepted same =>
      obtain ⟨rfl, rest⟩ := idle.step_getGeometry serves
      exact ⟨a, rest, fun refused => absurd accepted refused, fun _ => by rw [compared, if_pos same]⟩
    | @differed _ a _ _ accepted differs some =>
      obtain ⟨rfl, rest⟩ := idle.step_getGeometry serves
      subst differs
      exact ⟨a, rest, fun refused => absurd accepted refused, fun _ => by rw [compared, if_neg some]⟩

/-! ## The drive of a tenant -/

/-- A drive that is built like this has a control interface, a block size, opens, and obeys lock requests. -/
structure Simulator.Config.Serviceable (c : Config) : Prop where
  supported : c.supported = true
  sized : c.geometry.blockSize ≠ 0
  opens : c.failOpen = false
  heeded : c.ignoreLocks = false

/-- Nothing is queued on the drive, the segment is in the hands of whoever has the key, and its range is as given. -/
structure SimulatedDrive.Houses (c : Config) (segment : UInt32) (key : Secret) (r : Range) (d : SimulatedDrive) :
    Prop where
  config : d.config = c
  queue : d.queue = []
  trusts : d.vault.Trusts segment key
  range : d.vault.rangeAt segment.toUInt8 = r

namespace SimulatedDrive.Houses

variable (houses : d.Houses c segment key r) (able : c.Serviceable) (valid : checkSegment segment = .ok ())
include houses

/-- It does not matter which calls a drive remembers. -/
theorem of_clearCalls (same : d'.clearCalls = d.clearCalls) : d'.Houses c segment key r := by
  obtain ⟨config, queue, vault⟩ := eq_of_clearCalls same
  exact ⟨config.trans houses.config, queue.trans houses.queue, vault ▸ houses.trusts, vault ▸ houses.range⟩

theorem behind {request : Request} {v : Vault} {change : Range → Range}
    (changed : d.vault.RangeChanged segment.toUInt8 change v)
    (keeps : ∀ who, r.grants who = true → (change r).grants who = true) :
    (d.behind request v).Houses c segment key (change r) := by
  obtain ⟨config, queue, trusts, rfl⟩ := houses
  exact ⟨config, queue, trusts.rangeChanged changed keeps, (changed.rangeAt_eq _).trans (if_pos rfl)⟩

include able

theorem idle : d.Idle :=
  ⟨by rw [houses.config]; exact able.supported, houses.queue⟩

theorem opens : d.config.failOpen = false := by
  rw [houses.config]
  exact able.opens

theorem sized : d.config.geometry.blockSize ≠ 0 := by
  rw [houses.config]
  exact able.sized

theorem heeded : d.config.ignoreLocks = false := by
  rw [houses.config]
  exact able.heeded

include valid

/-- Whoever brings the key finds out what the range is like. -/
theorem verify (keyed : checkKey .user key = .ok ()) (want : Expectations) :
    (d.run (.verify segment key want)).result =
        (compared segment want (.ofReading (.ofReading c.geometry) (Vault.reading r))).map .attributes ∧
      (d.run (.verify segment key want)).drive.clearCalls = d.clearCalls := by
  have idle := houses.idle able
  obtain ⟨a, serves, -, shown⟩ :=
    verify_calls idle (houses.opens able) (houses.sized able) (Operation.check_verify valid keyed)
  have granted := houses.trusts.perform?_readRequest (c := d.config) valid keyed
  rw [houses.range] at granted
  obtain ⟨rfl, rest⟩ := Idle.step_of_performs idle.behind granted serves
  have shown := shown rfl
  rw [houses.config] at shown
  rw [rest.done_alone steady]
  exact ⟨shown, rfl⟩

theorem verify_refused (keyed : checkKey .user other = .ok ()) (ne : other ≠ key) (want : Expectations) :
    FailsAs (d.run (.verify segment other want)).result .unauthorized ∧
      (d.run (.verify segment other want)).drive.clearCalls = d.clearCalls := by
  have idle := houses.idle able
  obtain ⟨a, serves, fails, -⟩ :=
    verify_calls idle (houses.opens able) (houses.sized able) (Operation.check_verify valid keyed)
  have refuses := Vault.perform?_readRequest_of_not_admits (c := d.config) valid keyed
    (mt houses.trusts.admits_iff.1 ne)
  obtain ⟨rfl, rest⟩ := Idle.step_of_performs idle.behind refuses serves
  rw [rest.done_alone steady]
  exact ⟨fails refused_of_notAuthorized, rfl⟩

theorem step_unlock {l : Answer (.lockUnlock (lockOperationRequest segment false (some key)))} {xs : List Exchange}
    (keyed : checkKey .user key = .ok ()) (serves : drive.Serves nobody d (⟨_, l⟩ :: xs) d') :
    l.status = .success ∧ ∃ d₁ : SimulatedDrive,
      d₁.Houses c segment key (r.turn LockState.readWrite.word) ∧ drive.Serves nobody d₁ xs d' := by
  have stands := Vault.keyFor_unlock (d.vault.rangeAt segment.toUInt8) segment keyed
  obtain ⟨v, effect, turned⟩ := houses.trusts.effect_lockUnlock (c := d.config) valid rfl rfl
    (LockState.ofWord?_word .readWrite) stands
  obtain ⟨accepted, serves⟩ := (houses.idle able).step_of_effect effect nofun serves
  exact ⟨accepted, _, houses.behind (turned (houses.heeded able)) fun _ granted => granted, serves⟩

theorem step_keep {kept : Answer (.saveForResume (lockOperationRequest segment false (some key)).keeping)}
    (short : key.length ≤ maxKeyLength) (serves : drive.Serves nobody d [⟨_, kept⟩] d') :
    d'.Houses c segment key { r with saved := some ((Authority.ofSegment segment).who, key) } := by
  obtain ⟨v, changed⟩ := Vault.rangeChanged_exists (v := d.vault) (toUInt8_lt_rangeCount valid)
    (Range.keep (lockOperationRequest segment false (some key)).keeping)
  obtain ⟨-, serves⟩ := (houses.idle able).step_of_effect (.saveForResume changed) nofun serves
  rw [serves.done_alone steady]
  have content : (lockOperationRequest segment false (some key)).keeping.session.key.content = key :=
    KeyBlock.content_fill short
  have asked : saveForLock &&& saveForLock ≠ 0 := by decide
  have keeps : r.keep (lockOperationRequest segment false (some key)).keeping =
      { r with saved := some ((Authority.ofSegment segment).who, key) } := by
    rw [Range.keep, content]
    exact congrArg (Range.mk _ _ _) (if_pos asked)
  rw [← keeps]
  exact houses.behind changed fun _ granted => granted

/-- Whoever brings the key opens the lock, and the key is kept. -/
theorem unlock (keyed : checkKey .user key = .ok ()) :
    (d.run (.unlock segment key)).result = .ok .nothing ∧
      (d.run (.unlock segment key)).drive.Houses c segment key
        { r.turn LockState.readWrite.word with saved := some ((Authority.ofSegment segment).who, key) } := by
  have asked : (d.behind (.getStatus default) d.vault).Houses c segment key r :=
    ⟨houses.config, houses.queue, houses.trusts, houses.range⟩
  obtain ⟨l, ⟨refused, -, serves⟩ | ⟨-, ok, _, serves, ⟨direction, -⟩ | ⟨-, kept, rfl⟩⟩⟩ :=
    setLock_calls (houses.idle able) (houses.opens able) (Operation.check_unlock valid keyed)
  · obtain ⟨accepted, -⟩ := asked.step_unlock able valid keyed serves
    exact absurd (congrArg Status.classify accepted) refused
  · cases direction
  · obtain ⟨-, d₁, opened, serves⟩ := asked.step_unlock able valid keyed serves
    exact ⟨ok, opened.step_keep able valid (length_le_of_checkKey keyed) serves⟩

theorem unlock_refused (keyed : checkKey .user other = .ok ()) (ne : other ≠ key) :
    FailsAs (d.run (.unlock segment other)).result .unauthorized ∧
      (d.run (.unlock segment other)).drive.clearCalls = d.clearCalls := by
  have idle := houses.idle able
  have refuses := Vault.perform?_unlock_of_not_admits (c := d.config) valid keyed
    (mt houses.trusts.admits_iff.1 ne)
  obtain ⟨l, ⟨-, fails, serves⟩ | ⟨accepted, -, _, serves, -⟩⟩ :=
    setLock_calls idle (houses.opens able) (Operation.check_unlock valid keyed)
  · obtain ⟨rfl, rest⟩ := Idle.step_of_performs idle.behind refuses serves
    have left : (d.run (.unlock segment other)).drive = _ := rest.done_alone steady
    rw [left]
    exact ⟨fails, rfl⟩
  · obtain ⟨rfl, -⟩ := Idle.step_of_performs idle.behind refuses serves
    exact absurd accepted refused_of_notAuthorized

/-- Once the key is kept, the range is locked without it. -/
theorem lock (kept : r.saved = some ((Authority.ofSegment segment).who, key)) :
    (d.run (.lock segment)).result = .ok .nothing ∧
      (d.run (.lock segment)).drive.Houses c segment key (r.turn LockState.locked.word) := by
  obtain ⟨ok, v, same, turned⟩ := lock_granted (houses.idle able) (houses.opens able) valid
    (by rw [houses.range]; exact kept) houses.trusts
  have locked : (d.behind (.getStatus default) v).Houses c segment key (r.turn LockState.locked.word) :=
    houses.behind (turned (houses.heeded able)) fun _ granted => granted
  exact ⟨ok, locked.of_clearCalls same⟩

/-- Nothing else than the key or a key that was kept turns the lock. -/
theorem lock_refused (unkept : r.saved = none) :
    FailsAs (d.run (.lock segment)).result .unauthorized ∧
      (d.run (.lock segment)).drive.Houses c segment key r := by
  obtain ⟨fails, same⟩ := OpalLocking.lock_refused (houses.idle able) (houses.opens able) valid
    (by rw [houses.range]; exact unkept)
  exact ⟨fails, houses.of_clearCalls same⟩

end SimulatedDrive.Houses

end OpalLocking
