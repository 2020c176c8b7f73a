/-
Locking a segment without its key.

On a drive that nothing is queued on, a lock is granted exactly when a key is kept for the range (`lock_granted`,
`lock_refused`), and by then the drive knows all it takes. A lock that is granted changes the lock of the range and
nothing else, so it may be repeated (`SimulatedDrive.StaysLocked`).
-/
import OpalLocking.Proofs.Simulator.KeptKeys

namespace OpalLocking

open Simulator

variable {segment : UInt32} {key : Secret} {past : List Episode} {d d' : SimulatedDrive}

/-! ## The lock request -/

namespace Simulator.Vault

variable {c : Config} {v v' : Vault}

/-- A call that changes a range into what it is changes nothing. -/
theorem RangeChanged.eq_self {range : UInt8} {change : Range → Range} (h : v.RangeChanged range change v')
    (fixed : change (v.rangeAt range) = v.rangeAt range) : v' = v := by
  have ranges : ∀ other, v'.rangeAt other = v.rangeAt other := by
    intro other
    rw [h.rangeAt_eq]
    split
    · next here => rw [here, fixed]
    · rfl
  obtain ⟨entries, -, rfl⟩ := h
  exact ext_entries rfl rfl rfl (fun _ => rfl) ranges

theorem content_lockOperationRequest (segment : UInt32) :
    (lockOperationRequest segment true none).session.key.content = [] := rfl

theorem keyFor_lock {r : Range} (segment : UInt32) :
    r.keyFor (lockOperationRequest segment true none).session .locked =
      r.saved.bind fun kept => if kept.1 = (Authority.ofSegment segment).who then some kept.2 else none := by
  simp only [Range.keyFor, content_lockOperationRequest]
  cases r.saved <;> rfl

/-- Without a key that is kept, there is nothing to prove oneself with. -/
theorem perform?_lock_of_none (valid : checkSegment segment = .ok ())
    (gone : (v.rangeAt segment.toUInt8).saved = none) :
    v.perform? c (.lockUnlock (lockOperationRequest segment true none)) = some (⟨.notAuthorized, ()⟩, v) := by
  have there : v.ranges[(lockOperationRequest segment true none).session.key.range.toNat]? =
      some (v.rangeAt segment.toUInt8) := getElem?_ranges (toUInt8_lt_rangeCount valid)
  have word : LockState.ofWord? (lockOperationRequest segment true none).state = some .locked :=
    LockState.ofWord?_word .locked
  have nothing :
      (v.rangeAt segment.toUInt8).keyFor (lockOperationRequest segment true none).session .locked = none := by
    rw [keyFor_lock, gone]
    rfl
  have refused : (v.lockUnlock c (lockOperationRequest segment true none)).outcome = some (.notAuthorized, v) := by
    simp [lockUnlock, word, there, nothing]
  simp [perform?, traced, refused]

/-- A lock request of the tenant that stands on its key is granted, unless the drive ignores it. -/
theorem Trusts.effect_lockUnlock {lock : LockRequest} {state : LockState} (trusts : v.Trusts segment key)
    (valid : checkSegment segment = .ok ()) (range : lock.session.key.range = segment.toUInt8)
    (who : lock.session.who = (Authority.ofSegment segment).who) (word : LockState.ofWord? lock.state = some state)
    (stands : (v.rangeAt segment.toUInt8).keyFor lock.session state = some key) :
    ∃ v', Effect c v (.lockUnlock lock) v' ∧
      (c.ignoreLocks = false → v.RangeChanged segment.toUInt8 (·.turn state.word) v') := by
  have there : v.ranges[lock.session.key.range.toNat]? = some (v.rangeAt segment.toUInt8) := by
    rw [range]
    exact getElem?_ranges (toUInt8_lt_rangeCount valid)
  have proven := trusts.authenticates valid
  have may := trusts.mayLock valid
  rw [← who] at proven may
  cases ignored : c.ignoreLocks with
  | true => exact ⟨v, .ignoreLock word there stands proven may ignored, nofun⟩
  | false =>
    obtain ⟨v', changed⟩ := rangeChanged_exists (v := v) (toUInt8_lt_rangeCount valid) (·.turn state.word)
    exact ⟨v', .lockUnlock word there stands proven may ignored (range ▸ changed), fun _ => changed⟩

/-- With a kept key that the vault trusts, the lock is turned, unless the drive ignores that. -/
theorem effect_lock_of_some (valid : checkSegment segment = .ok ())
    (kept : (v.rangeAt segment.toUInt8).saved = some ((Authority.ofSegment segment).who, key))
    (trusts : v.Trusts segment key) :
    ∃ v', Effect c v (.lockUnlock (lockOperationRequest segment true none)) v' ∧
      (c.ignoreLocks = false → v.RangeChanged segment.toUInt8 (·.turn LockState.locked.word) v') := by
  refine trusts.effect_lockUnlock valid rfl rfl (LockState.ofWord?_word .locked) ?_
  rw [keyFor_lock, kept]
  exact if_pos rfl

end Simulator.Vault

/-! ## The lock operation -/

/-- Locking and unlocking ask for the feature word and for the lock, and the second answer decides. Behind an unlock
the key is kept. -/
theorem setLock_calls {locked : Bool} {key : Option Secret} (idle : d.Idle) (opens : d.config.failOpen = false)
    (passed : (Operation.setLock segment locked key).check = .ok ()) :
    ∃ l : Answer (.lockUnlock (lockOperationRequest segment locked key)),
      (l.status.classify ≠ .success ∧
          FailsAs (d.run (.setLock segment locked key)).result l.status.classify.entryKind ∧
          SimulatedDrive.drive.Serves nobody (d.behind (.getStatus default) d.vault) [⟨_, l⟩]
            (d.run (.setLock segment locked key)).drive) ∨
        (l.status.classify = .success ∧ (d.run (.setLock segment locked key)).result = .ok .nothing ∧
          ∃ keeping, SimulatedDrive.drive.Serves nobody (d.behind (.getStatus default) d.vault) (⟨_, l⟩ :: keeping)
              (d.run (.setLock segment locked key)).drive ∧
            ((locked = true ∧ keeping = []) ∨
              (locked = false ∧
                ∃ kept, keeping = [⟨.saveForResume (lockOperationRequest segment locked key).keeping, kept⟩]))) := by
  have course := d.run_course _ passed opens
  have serves := d.run_serves (.setLock segment locked key)
  generalize (d.run (.setLock segment locked key)).trace.exchanges = xs at course serves
  generalize (d.run (.setLock segment locked key)).result = r at course ⊢
  generalize (d.run (.setLock segment locked key)).drive = d' at serves ⊢
  cases course with
  | setLock course =>
    cases course with
    | unsupported why =>
      obtain ⟨rfl, -⟩ := idle.step_getStatus serves
      rcases why with system | unsupported
      · cases system
      · rw [Vault.supported_flags] at unsupported
        cases unsupported
    | @refused a l r _ refused fails =>
      obtain ⟨-, serves⟩ := idle.step_getStatus serves
      exact ⟨l, .inl ⟨refused, failsAs_map.2 fails, serves⟩⟩
    | @locked a l _ direction accepted =>
      obtain ⟨-, serves⟩ := idle.step_getStatus serves
      exact ⟨l, .inr ⟨accepted, rfl, [], serves, .inl ⟨direction, rfl⟩⟩⟩
    | @unlocked a l kept _ direction accepted =>
      obtain ⟨-, serves⟩ := idle.step_getStatus serves
      exact ⟨l, .inr ⟨accepted, rfl, _, serves, .inr ⟨direction, kept, rfl⟩⟩⟩

theorem lock_calls (idle : d.Idle) (opens : d.config.failOpen = false) (valid : checkSegment segment = .ok ()) :
    ∃ l : Answer (.lockUnlock (lockOperationRequest segment true none)),
      SimulatedDrive.drive.Serves nobody (d.behind (.getStatus default) d.vault) [⟨_, l⟩]
          (d.run (.lock segment)).drive ∧
        (l.status.classify = .success → (d.run (.lock segment)).result = .ok .nothing) ∧
        (l.status.classify ≠ .success →
          FailsAs (d.run (.lock segment)).result l.status.classify.entryKind) := by
  obtain ⟨l, ⟨refused, fails, serves⟩ | ⟨accepted, ok, _, serves, ⟨-, rfl⟩ | ⟨direction, -⟩⟩⟩ :=
    setLock_calls idle opens (Operation.check_lock valid)
  · exact ⟨l, serves, fun accepted => absurd accepted refused, fun _ => fails⟩
  · exact ⟨l, serves, fun _ => ok, fun refused => absurd accepted refused⟩
  · cases direction

/-- With no key kept, a lock is refused, and the drive has only heard of it. -/
theorem lock_refused (idle : d.Idle) (opens : d.config.failOpen = false) (valid : checkSegment segment = .ok ())
    (gone : (d.vault.rangeAt segment.toUInt8).saved = none) :
    FailsAs (d.run (.lock segment)).result .unauthorized ∧ (d.run (.lock segment)).drive.clearCalls = d.clearCalls := by
  obtain ⟨l, serves, -, fails⟩ := lock_calls idle opens valid
  have idle : (d.behind (.getStatus default) d.vault).Idle := idle.behind
  obtain ⟨rfl, rest⟩ := idle.step_of_performs (Vault.perform?_lock_of_none valid gone) serves
  rw [rest.done_alone SimulatedDrive.steady]
  exact ⟨fails refused_of_notAuthorized, rfl⟩

/-- With a kept key that the drive trusts, a lock is granted. -/
theorem lock_granted (idle : d.Idle) (opens : d.config.failOpen = false) (valid : checkSegment segment = .ok ())
    (kept : (d.vault.rangeAt segment.toUInt8).saved = some ((Authority.ofSegment segment).who, key))
    (trusts : d.vault.Trusts segment key) :
    (d.run (.lock segment)).result = .ok .nothing ∧
      ∃ v, (d.run (.lock segment)).drive.clearCalls = ({ d with vault := v } : SimulatedDrive).clearCalls ∧
        (d.config.ignoreLocks = false → d.vault.RangeChanged segment.toUInt8 (·.turn LockState.locked.word) v) := by
  obtain ⟨l, serves, granted, -⟩ := lock_calls idle opens valid
  obtain ⟨v, effect, turned⟩ := Vault.effect_lock_of_some (c := d.config) valid kept trusts
  have idle : (d.behind (.getStatus default) d.vault).Idle := idle.behind
  obtain ⟨accepted, serves⟩ := idle.step_of_effect effect nofun serves
  refine ⟨granted (congrArg Status.classify accepted), v, ?_, turned⟩
  rw [serves.done_alone SimulatedDrive.steady]
  rfl

/-! ## Again and again -/

/-- All but the calls that a drive remembers. -/
theorem SimulatedDrive.eq_of_clearCalls (same : d'.clearCalls = d.clearCalls) :
    d'.config = d.config ∧ d'.queue = d.queue ∧ d'.vault = d.vault :=
  ⟨show d'.clearCalls.config = d.clearCalls.config by rw [same],
    show d'.clearCalls.queue = d.clearCalls.queue by rw [same],
    show d'.clearCalls.vault = d.clearCalls.vault by rw [same]⟩

/-- The segment is locked, and the drive keeps its key. -/
structure SimulatedDrive.StaysLocked (segment : UInt32) (key : Secret) (d : SimulatedDrive) : Prop where
  idle : d.Idle
  opens : d.config.failOpen = false
  heeded : d.config.ignoreLocks = false
  kept : (d.vault.rangeAt segment.toUInt8).saved = some ((Authority.ofSegment segment).who, key)
  trusts : d.vault.Trusts segment key
  locked : (d.vault.rangeAt segment.toUInt8).snapshot.state = LockState.locked.word

namespace SimulatedDrive.StaysLocked

/-- A lock that was granted leaves the segment so. -/
theorem of_turned {v : Vault} (idle : d.Idle) (opens : d.config.failOpen = false)
    (heeded : d.config.ignoreLocks = false)
    (kept : (d.vault.rangeAt segment.toUInt8).saved = some ((Authority.ofSegment segment).who, key))
    (trusts : d.vault.Trusts segment key)
    (turned : d.vault.RangeChanged segment.toUInt8 (·.turn LockState.locked.word) v) :
    ({ d with vault := v } : SimulatedDrive).StaysLocked segment key := by
  have range := turned.rangeAt_eq segment.toUInt8
  rw [if_pos rfl] at range
  refine ⟨⟨idle.supported, idle.queue⟩, opens, heeded, ?_, trusts.rangeChanged turned fun _ granted => granted, ?_⟩
  · exact (congrArg Range.saved range).trans kept
  · exact congrArg (fun r : Range => r.snapshot.state) range

/-- It does not matter which calls a drive remembers. -/
theorem of_clearCalls (stays : d.StaysLocked segment key) (same : d'.clearCalls = d.clearCalls) :
    d'.StaysLocked segment key := by
  obtain ⟨config, queue, vault⟩ := eq_of_clearCalls same
  obtain ⟨idle, opens, heeded, kept, trusts, locked⟩ := stays
  rw [← config] at opens heeded
  rw [← vault] at kept trusts locked
  exact ⟨⟨config ▸ idle.supported, queue.trans idle.queue⟩, opens, heeded, kept, trusts, locked⟩

/-- A lock is granted once more, and changes nothing. -/
theorem lock (stays : d.StaysLocked segment key) (valid : checkSegment segment = .ok ()) :
    (d.run (.lock segment)).result = .ok .nothing ∧ (d.run (.lock segment)).drive.clearCalls = d.clearCalls := by
  obtain ⟨ok, v, same, turned⟩ := lock_granted stays.idle stays.opens valid stays.kept stays.trusts
  have fixed : (d.vault.rangeAt segment.toUInt8).turn LockState.locked.word = d.vault.rangeAt segment.toUInt8 := by
    unfold Range.turn
    rw [← stays.locked]
  rw [(turned stays.heeded).eq_self fixed] at same
  exact ⟨ok, same⟩

theorem repeated (stays : d.StaysLocked segment key) (valid : checkSegment segment = .ok ()) (n : Nat) :
    (Nat.repeat (fun d => (d.run (.lock segment)).drive) n d).clearCalls = d.clearCalls := by
  induction n with
  | zero => rfl
  | succ n ih => exact ((stays.of_clearCalls ih).lock valid).2.trans ih

end SimulatedDrive.StaysLocked

/-- A segment can be locked without its key when it was unlocked before and its range was not erased since; otherwise
the lock is refused for want of authority, and the drive has only heard of it. A lock that is granted locks the range
and changes nothing else, and so does every lock behind it. -/
theorem lock_iff_prepared (run : Undisturbed past d) (valid : checkSegment segment = .ok ()) :
    let locking := d.run (.lock segment)
    (locking.result = .ok .nothing ↔ Prepared segment past) ∧
      (¬ Prepared segment past →
        FailsAs locking.result .unauthorized ∧ locking.drive.clearCalls = d.clearCalls) ∧
      (Prepared segment past → d.config.ignoreLocks = false →
        ∃ v, locking.drive.clearCalls = ({ d with vault := v } : SimulatedDrive).clearCalls ∧
          d.vault.RangeChanged segment.toUInt8 (·.turn LockState.locked.word) v ∧
          v.lockWord segment.toUInt8 = LockState.locked.word ∧
          ∀ n, let again := Nat.repeat (fun d => (d.run (.lock segment)).drive) n locking.drive
            (again.run (.lock segment)).result = .ok .nothing ∧ again.clearCalls = locking.drive.clearCalls) := by
  intro locking
  obtain ⟨idle, opens⟩ := run.idle
  obtain ⟨trusted, prepared⟩ := run.kept valid
  cases kept : (d.vault.rangeAt segment.toUInt8).saved with
  | none =>
    have unprepared : ¬ Prepared segment past := by
      rw [← prepared, kept]
      nofun
    have refused := lock_refused idle opens valid kept
    refine ⟨⟨fun ok => ?_, fun h => absurd h unprepared⟩, fun _ => refused, fun h => absurd h unprepared⟩
    obtain ⟨e, failed, -⟩ := refused.1
    rw [failed] at ok
    cases ok
  | some entry =>
    obtain ⟨who, key⟩ := entry
    obtain ⟨rfl, trusts⟩ := trusted who key kept
    have ready : Prepared segment past := by
      rw [← prepared, kept]
      rfl
    obtain ⟨ok, v, same, turned⟩ := lock_granted idle opens valid kept trusts
    refine ⟨⟨fun _ => ready, fun _ => ok⟩, fun h => absurd ready h, fun _ heeded => ?_⟩
    have changed := turned heeded
    have locked : v.lockWord segment.toUInt8 = LockState.locked.word := changed.lockWord_self fun _ => rfl
    refine ⟨v, same, changed, locked, fun n => ?_⟩
    have stays := (SimulatedDrive.StaysLocked.of_turned idle opens heeded kept trusts changed).of_clearCalls same
    have again := stays.repeated valid n
    exact ⟨((stays.of_clearCalls again).lock valid).1, again⟩

/-- A range that was provisioned, which is no preparation, and then unlocked, which is. -/
theorem lock_iff_prepared_unlock :
    let setup : Operation := .setup ⟨1, 0, 8, [1], [2]⟩
    let fresh := SimulatedDrive.new "d"
    let provisioned := (fresh.run setup).drive
    let unlocked := (provisioned.run (.unlock 1 [1])).drive
    let past := [Episode.alone fresh setup]
    Undisturbed past provisioned ∧ ¬ Prepared 1 past ∧
      FailsAs (provisioned.run (.lock 1)).result .unauthorized ∧
      Undisturbed (Episode.alone provisioned (.unlock 1 [1]) :: past) unlocked ∧
      Prepared 1 (Episode.alone provisioned (.unlock 1 [1]) :: past) ∧
      (unlocked.run (.lock 1)).result = .ok .nothing ∧
      ∀ n, let again := Nat.repeat (fun d => (d.run (.lock 1)).drive) n (unlocked.run (.lock 1)).drive
        (again.run (.lock 1)).result = .ok .nothing := by
  intro setup fresh provisioned unlocked past
  have before : Undisturbed past provisioned := .next (.fresh rfl rfl) setup
  have reached : Undisturbed (Episode.alone provisioned (.unlock 1 [1]) :: past) unlocked := .next before _
  have unprepared : ¬ Prepared 1 past := by
    rintro h
    rcases prepared_cons.1 h with ⟨key, unlock, -⟩ | ⟨-, none⟩
    · cases unlock
    · exact not_prepared_nil none
  have prepared : Prepared 1 (Episode.alone provisioned (.unlock 1 [1]) :: past) :=
    prepared_cons.2 (.inl ⟨[1], rfl, eq_ok_of_toOption (by decide +kernel)⟩)
  have refused := (lock_iff_prepared before rfl).2.1 unprepared
  have heeded : unlocked.config.ignoreLocks = false := by decide +kernel
  obtain ⟨v, -, -, -, again⟩ := (lock_iff_prepared reached rfl).2.2 prepared heeded
  exact ⟨before, unprepared, refused.1, reached, prepared, (lock_iff_prepared reached rfl).1.2 prepared,
    fun n => (again n).1⟩

end OpalLocking
