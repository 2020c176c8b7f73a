/-
A locked range is opened with its volume key, or its data is gone.

The invariant over a history is about passwords alone: the password of a segment's user is the key that is in
force for the segment (`History.password_eq`). Enable flags, grants and kept keys need no invariant of their own,
since they can only make the drive refuse more: what an unlock takes is the password, whatever else it takes.
-/
import OpalLocking.Proofs.Arguments
import OpalLocking.Proofs.EveryOperation
import OpalLocking.Proofs.Simulator.History

namespace OpalLocking

open Simulator

/-! ## Locks -/

/-- Provisioning asks for no lock to be opened. -/
theorem Provision.Course.not_opens {p : Provision} {xs : List Exchange} {r : Except Error Unit}
    (course : p.Course xs r) (range : UInt8) : ∀ x ∈ xs, ¬ x.request.Opens range := by
  intro x mem
  obtain ⟨enabled, erasure, bounds, planned⟩ := course.mem_calls mem
  have closed : ∀ request ∈ .getStatus default :: .getGeometry default :: p.calls enabled erasure bounds,
      ¬ request.Opens range := by
    cases enabled <;> cases erasure <;> simp [calls, wiping, takingOver, Request.Opens, lockRequest]
  exact closed _ planned

/-- A lock operation opens the lock of its own range when it unlocks and succeeds, and at no other time. -/
theorem LockCourse.unlocked_of_opens {segment locked key} {xs : List Exchange} {r : Except Error Unit}
    (course : LockCourse segment locked key xs r) {x : Exchange} (mem : x ∈ xs) (accepted : x.Accepted)
    {range : UInt8} (opens : x.request.Opens range) :
    locked = false ∧ r = .ok () ∧ segment.toUInt8 = range := by
  cases course with
  | unsupported =>
    obtain rfl := List.mem_singleton.1 mem
    cases opens
  | refused _ refused =>
    rcases List.mem_cons.1 mem with rfl | mem
    · cases opens
    · obtain rfl := List.mem_singleton.1 mem
      exact absurd accepted refused
  | locked _ direction =>
    rcases List.mem_cons.1 mem with rfl | mem
    · cases opens
    · obtain rfl := List.mem_singleton.1 mem
      subst direction
      exact absurd rfl opens.2
  | unlocked _ _ direction =>
    rcases List.mem_cons.1 mem with rfl | mem
    · cases opens
    · rcases List.mem_cons.1 mem with rfl | mem
      · refine ⟨direction, rfl, ?_⟩
        have here := opens.1
        cases key <;> exact here
      · obtain rfl := List.mem_singleton.1 mem
        cases opens

/-- A lock that was opened was opened by a successful unlock of its segment. -/
theorem Operation.Course.unlock_of_opens {op : Operation} {xs : List Exchange} {r : Except Error Value}
    (course : op.Course xs r) (valid : op.check = .ok ()) {x : Exchange} (mem : x ∈ xs) (accepted : x.Accepted)
    {range : UInt8} (opens : x.request.Opens range) :
    ∃ key, op = .unlock range.toUInt32 key ∧ r = .ok .nothing := by
  cases course with
  | setup course => exact absurd opens (course.not_opens range x mem)
  | @setLock segment locked key xs r course =>
    obtain ⟨rfl, rfl, rfl⟩ := course.unlocked_of_opens mem accepted opens
    obtain ⟨inRange, keyed⟩ := check_setLock valid
    cases key with
    | none => cases keyed
    | some key =>
      rw [toUInt32_toUInt8 inRange]
      exact ⟨key, rfl, rfl⟩
  | verify course | resetSegment course | factoryReset course | flags course | supported course
  | lockingEnabled course | geometry course =>
    have closed : ∀ x ∈ xs, ¬ x.request.Opens range := by
      cases course <;> simp [Request.Opens]
    exact absurd opens (closed x mem)

/-! ## Passwords -/

/-- The only password that provisioning asks for is the one of its user, and it asks for no revert. -/
theorem Provision.Course.passwords {p : Provision} {xs : List Exchange} {r : Except Error Unit}
    (course : p.Course xs r) :
    ∀ x ∈ xs, x.kind ≠ .psidRevert ∧ (x.kind = .setPassword → x.request = .setPassword p.passwordChange) := by
  intro x mem
  obtain ⟨enabled, erasure, bounds, planned⟩ := course.mem_calls mem
  have single : ∀ request ∈ .getStatus default :: .getGeometry default :: p.calls enabled erasure bounds,
      request.kind ≠ .psidRevert ∧ (request.kind = .setPassword → request = .setPassword p.passwordChange) := by
    cases enabled <;> cases erasure <;> simp [calls, wiping, takingOver, Request.kind]
  exact single _ planned

theorem keyInForce_setup {e : Episode} {p : Provision} {segment : UInt32} {past : List Episode}
    (setup : e.operation = .setup p) (noRevert : ¬ e.Accepts .psidRevert) :
    keyInForce segment (e :: past) =
      if p.segment = segment ∧ e.Accepts .setPassword then some p.volumeKey else keyInForce segment past := by
  rw [keyInForce, if_neg noRevert, setup]

theorem keyInForce_factoryReset {e : Episode} {psid : Secret} {segment : UInt32} {past : List Episode}
    (reset : e.operation = .factoryReset psid) :
    keyInForce segment (e :: past) = if e.Accepts .psidRevert then none else keyInForce segment past := by
  rw [keyInForce, reset]

theorem keyInForce_of_others {e : Episode} {segment : UInt32} {past : List Episode}
    (others : ∀ x ∈ e.trace.exchanges, x.kind ≠ .setPassword ∧ x.kind ≠ .psidRevert) :
    keyInForce segment (e :: past) = keyInForce segment past := by
  have noRevert : ¬ e.Accepts .psidRevert := fun ⟨x, mem, kind, _⟩ => (others x mem).2 kind
  have noChange : ¬ e.Accepts .setPassword := fun ⟨x, mem, kind, _⟩ => (others x mem).1 kind
  rw [keyInForce, if_neg noRevert]
  split
  · rw [if_neg fun h => noChange h.2]
  · rfl

/-- What an operation makes of the password of a segment's user is the key that it leaves in force. -/
theorem Operation.Course.passwordAfter_eq {e : Episode} {segment : UInt32} {past : List Episode}
    (course : e.operation.Course e.trace.exchanges e.result) (valid : e.operation.check = .ok ()) :
    Vault.passwordAfter (Authority.ofSegment segment).who (keyInForce segment past) e.trace.exchanges =
      keyInForce segment (e :: past) := by
  obtain ⟨op, t, r⟩ := e
  dsimp only at course valid ⊢
  generalize hxs : t.exchanges = xs at course
  cases course with
  | @setup p xs r course =>
    have noRevert : ∀ x ∈ xs, x.kind ≠ .psidRevert := fun x mem => (course.passwords x mem).1
    rw [Vault.passwordAfter_of_single noRevert fun x mem => (course.passwords x mem).2,
      keyInForce_setup rfl fun ⟨x, mem, kind, _⟩ => noRevert x (hxs ▸ mem) kind]
    have short : p.volumeKey.length ≤ maxKeyLength := length_le_of_checkKey (Provision.check_eq_ok valid).2.1
    have content : p.passwordChange.user.key.content = p.volumeKey := KeyBlock.content_fill short
    have target : p.passwordChange.user.who = (Authority.ofSegment segment).who ↔ p.segment = segment :=
      ⟨who_ofSegment_inj, fun h => by rw [← h]; rfl⟩
    simp only [content, target, Episode.Accepts, hxs]
  | @factoryReset psid xs r course =>
    obtain ⟨a, rfl⟩ : ∃ a, xs = [⟨.psidRevert (.fill 0 psid), a⟩] := by
      cases course <;> exact ⟨_, rfl⟩
    rw [keyInForce_factoryReset rfl]
    simp [Vault.passwordAfter, Request.passwordAfter, Episode.Accepts, hxs, Exchange.kind, Request.kind]
  | setLock course | verify course | resetSegment course | flags course | supported course
  | lockingEnabled course | geometry course =>
    have others : ∀ x ∈ xs, x.kind ≠ .setPassword ∧ x.kind ≠ .psidRevert := by
      cases course <;> simp [Exchange.kind, Request.kind]
    rw [Vault.passwordAfter_of_others others, keyInForce_of_others (by rwa [hxs])]

/-! ## Over a history -/

variable {past : List Episode} {d d' : SimulatedDrive} {e : Episode}

theorem History.honest (h : History past d) : d.Honest := by
  induction h with
  | fresh => exact fun _ _ mem => nomatch mem
  | next _ ran ih => exact (ran.2.evolves ih).2.1

/-- An operation that ran was stopped before its first call, or took a course with valid arguments. -/
theorem Episode.Runs.course (ran : e.Runs d d') :
    (e.trace.exchanges = [] ∧ ∃ why, e.result = .error why) ∨
      (e.operation.check = .ok () ∧ e.operation.Course e.trace.exchanges e.result) :=
  Operation.procedure_course ran.1

/-- The password of a segment's user is the key in force for the segment. -/
theorem History.password_eq (h : History past d) {segment : UInt32} (valid : checkSegment segment = .ok ()) :
    d.vault.password (Authority.ofSegment segment).who = keyInForce segment past := by
  induction h with
  | fresh => exact Vault.password_of_blank rfl _
  | @next past d e d' before ran ih =>
    have evolves := (ran.2.evolves before.honest).2.2
    -- An operation that was stopped before its first call leaves the password and the key as they were.
    rw [evolves.password_eq (isUser_ofSegment valid), ih]
    rcases ran.course with ⟨quiet, -⟩ | ⟨passed, course⟩
    · rw [quiet, keyInForce_of_others (by simp [quiet])]
      rfl
    · exact course.passwordAfter_eq passed

/-- All calls of a successful unlock. -/
theorem Operation.Course.calls_of_unlocked {segment : UInt32} {key : Secret} {xs : List Exchange} {value : Value}
    (course : (Operation.unlock segment key).Course xs (.ok value)) :
    ∃ a l kept, xs =
        [⟨.getStatus default, a⟩, ⟨.lockUnlock (lockOperationRequest segment false (some key)), l⟩,
          ⟨.saveForResume (lockOperationRequest segment false (some key)).keeping, kept⟩] ∧
      l.status.classify = .success := by
  unfold unlock at course
  generalize h : (.ok value : Except Error Value) = r at course
  cases course with
  | setLock course =>
    cases course with
    | unsupported _ fails | refused _ _ fails =>
      obtain ⟨e, rfl, -⟩ := fails
      cases h
    | locked _ direction => cases direction
    | unlocked kept _ _ accepted => exact ⟨_, _, kept, rfl, accepted⟩

/-- What an unlock takes is the password of the segment's user. -/
theorem password_of_unlocked {c : Config} {v v' : Vault} {segment : UInt32} {key : Secret} {a l rest}
    (evolves : Vault.Evolves c v
      (⟨.getStatus default, a⟩ :: ⟨.lockUnlock (lockOperationRequest segment false (some key)), l⟩ :: rest) v')
    (accepted : l.status.classify = .success) (valid : checkSegment segment = .ok ())
    (short : key.length ≤ maxKeyLength) :
    v.password (Authority.ofSegment segment).who = some key := by
  have here : Vault.Evolves c v
      (⟨.lockUnlock (lockOperationRequest segment false (some key)), l⟩ :: rest) v' := by
    cases evolves with
    | accepted _ effect rest =>
      cases effect
      exact rest
    | refused _ rest => exact rest
  cases here with
  | accepted _ effect =>
    have password := effect.password_of_unlock rfl (isUser_ofSegment valid)
    rw [← KeyBlock.content_fill short]
    exact password
  | refused refused => exact absurd accepted refused

/-- Wherever a history has taken a drive, the next operation, in whatever way it goes, unlocks a segment only with
the key in force for it, and takes a range out of the locked state only by such an unlock or by destroying the data
of the range. -/
theorem locked_data_protected (reached : History past d) (ran : e.Runs d d') :
    (∀ segment key value, e.operation = .unlock segment key → e.result = .ok value →
        keyInForce segment past = some key) ∧
      ∀ range : UInt8, (d.snapshot range).state = LockState.locked.word →
        (d'.snapshot range).state ≠ LockState.locked.word →
        (∃ key, e.operation = .unlock range.toUInt32 key ∧ e.result = .ok .nothing ∧
            keyInForce range.toUInt32 past = some key) ∨
          ∃ x ∈ e.trace.exchanges, x.Accepted ∧ x.request.Erases range := by
  have evolves := (ran.2.evolves reached.honest).2.2
  have unlocked : ∀ segment key value, e.operation = .unlock segment key → e.result = .ok value →
      keyInForce segment past = some key := by
    intro segment key value unlock ok
    rcases ran.course with ⟨-, why, failed⟩ | ⟨valid, course⟩
    · rw [failed] at ok
      cases ok
    · rw [unlock] at valid course
      rw [ok] at course
      obtain ⟨inRange, keyed⟩ := Operation.check_setLock valid
      obtain ⟨a, l, kept, calls, accepted⟩ := course.calls_of_unlocked
      rw [calls] at evolves
      rw [← reached.password_eq inRange]
      exact password_of_unlocked evolves accepted inRange (length_le_of_checkKey keyed)
  refine ⟨unlocked, fun range locked left => ?_⟩
  obtain ⟨x, mem, accepted, opens | erases⟩ := evolves.opens_or_erases locked left
  · rcases ran.course with ⟨quiet, -⟩ | ⟨valid, course⟩
    · rw [quiet] at mem
      cases mem
    · obtain ⟨key, unlock, ok⟩ := course.unlock_of_opens valid mem accepted opens
      exact .inl ⟨key, unlock, ok, unlocked _ _ _ unlock ok⟩
  · exact .inr ⟨x, mem, accepted, erases⟩

/-- A range that was provisioned and then unlocked. -/
theorem locked_data_protected_unlock :
    let setup : Operation := .setup ⟨1, 0, 8, [1], [2]⟩
    let fresh := SimulatedDrive.new "d"
    let locked := (fresh.run setup).drive
    let e := Episode.alone locked (.unlock 1 [1])
    let past := [Episode.alone fresh setup]
    History past locked ∧ e.Runs locked (locked.run (.unlock 1 [1])).drive ∧ e.result = .ok .nothing ∧
      keyInForce 1 past = some [1] ∧ (locked.snapshot 1).state = LockState.locked.word ∧
      ((locked.run (.unlock 1 [1])).drive.snapshot 1).state ≠ LockState.locked.word ∧
      ((∃ key, e.operation = .unlock 1 key ∧ e.result = .ok .nothing ∧ keyInForce 1 past = some key) ∨
        ∃ x ∈ e.trace.exchanges, x.Accepted ∧ x.request.Erases 1) := by
  intro setup fresh locked e past
  have reached : History past locked := .next .fresh (Episode.alone_runs fresh setup)
  have ran : e.Runs locked (locked.run (.unlock 1 [1])).drive := Episode.alone_runs _ _
  have ok : e.result = .ok .nothing := eq_ok_of_toOption (by decide +kernel)
  have isLocked : (locked.snapshot 1).state = LockState.locked.word := by decide +kernel
  have left : ((locked.run (.unlock 1 [1])).drive.snapshot 1).state ≠ LockState.locked.word := by decide +kernel
  have held := locked_data_protected reached ran
  exact ⟨reached, ran, ok, held.1 1 [1] .nothing rfl ok, isLocked, left, held.2 1 isLocked left⟩

end OpalLocking
