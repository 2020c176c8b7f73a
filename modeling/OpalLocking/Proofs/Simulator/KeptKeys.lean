/-
The keys that a drive keeps for locking without one.

A key is kept for a range by a successful unlock of its segment, and is dropped when the range is erased
(`Undisturbed.kept`). Until then it is worth something (`Vault.Trusts`): the user stays enabled, its grants
stay, and its password is set on a drive whose locking is disabled, where no key is kept, or behind an erase.
-/
import OpalLocking.Proofs.Simulator.Frames
import OpalLocking.Proofs.Simulator.Rekeying

namespace OpalLocking

open Simulator

/-! ## What a call does to a kept key -/

/-- Asks for a key to be kept for a range, or to be forgotten. -/
def Request.Keeps (range : UInt8) : Request → Prop
  | .saveForResume lock => lock.session.key.range = range
  | _ => False

theorem Request.erases_of_kind {request : Request} {range : UInt8} (revert : request.kind = .psidRevert) :
    request.Erases range := by
  cases request with
  | psidRevert => trivial
  | _ => cases revert

theorem Request.Keeps.kind_eq {request : Request} {range : UInt8} (keeps : request.Keeps range) :
    request.kind = .saveForResume := by
  cases request with
  | saveForResume => rfl
  | _ => exact absurd keeps id

namespace Simulator.Vault

variable {c : Config} {v v' : Vault} {request : Request} {range : UInt8} {xs : List Exchange}

theorem RangeChanged.saved_eq {other : UInt8} {change : Range → Range} (h : v.RangeChanged other change v')
    (keeps : range = other → ∀ r : Range, (change r).saved = r.saved) :
    (v'.rangeAt range).saved = (v.rangeAt range).saved := by
  rw [h.rangeAt_eq]
  split
  · next here => exact keeps here _
  · rfl

theorem saved_revert (v : Vault) (range : UInt8) : (v.revert.rangeAt range).saved = none := by
  rw [rangeAt, revert, Vector.getElem?_map]
  cases v.ranges[range.toNat]? <;> rfl

/-- The key of a range stays as it is unless the range is erased, or somebody asks for a key to be kept. -/
theorem Effect.saved_eq (effect : Effect c v request v') (noKey : ¬ request.Keeps range)
    (noErase : ¬ request.Erases range) : (v'.rangeAt range).saved = (v.rangeAt range).saved := by
  cases effect with
  | takeOwnership | keepOwnership | activateLsp | setAdminPassword | ignoreLock | getStatus | getGeometry
  | getRangeStatus => rfl
  | setUserPassword _ _ _ changed | activateUser _ _ changed => rw [changed.rangeAt_eq]
  | setupRange _ _ changed | grantRead _ _ _ _ _ changed | grantWrite _ _ _ _ _ changed
  | lockUnlock _ _ _ _ _ _ changed => exact changed.saved_eq fun _ _ => rfl
  | eraseRange _ _ changed | secureEraseRange _ _ changed => exact changed.saved_eq fun here => absurd here.symm noErase
  | saveForResume changed => exact changed.saved_eq fun here => absurd here.symm noKey
  | psidRevert => exact absurd trivial noErase

theorem Effect.saved_of_erases (effect : Effect c v request v') (erases : request.Erases range) :
    (v'.rangeAt range).saved = none := by
  cases effect with
  | eraseRange _ _ changed | secureEraseRange _ _ changed => rw [changed.rangeAt_eq, if_pos erases.symm]; rfl
  | psidRevert => exact saved_revert v range
  | _ => exact absurd erases id

/-- No key comes to be kept unless somebody asks for it. -/
theorem Evolves.saved_eq_none (evolves : Evolves c v xs v') (noKey : ∀ x ∈ xs, ¬ x.request.Keeps range)
    (gone : (v.rangeAt range).saved = none ∨ ∃ x ∈ xs, x.Accepted ∧ x.request.Erases range) :
    (v'.rangeAt range).saved = none := by
  induction evolves with
  | nil => simpa using gone
  | @accepted v v₁ v' x xs accepted effect rest ih =>
    obtain ⟨here, noKey⟩ := List.forall_mem_cons.1 noKey
    refine ih noKey ?_
    by_cases erases : x.request.Erases range
    · exact .inl (effect.saved_of_erases erases)
    · rw [effect.saved_eq here erases]
      simpa [erases] using gone
  | @refused v v' x xs refused rest ih =>
    refine ih (List.forall_mem_cons.1 noKey).2 ?_
    simpa [refused] using gone

theorem Evolves.saved_eq (evolves : Evolves c v xs v') (noKey : ∀ x ∈ xs, ¬ x.request.Keeps range)
    (noErase : ∀ x ∈ xs, x.Accepted → ¬ x.request.Erases range) :
    (v'.rangeAt range).saved = (v.rangeAt range).saved := by
  induction evolves with
  | nil => rfl
  | accepted accepted effect _ ih =>
    obtain ⟨here, noKey⟩ := List.forall_mem_cons.1 noKey
    obtain ⟨spared, noErase⟩ := List.forall_mem_cons.1 noErase
    rw [ih noKey noErase, effect.saved_eq here (spared accepted)]
  | refused _ _ ih => exact ih (List.forall_mem_cons.1 noKey).2 (List.forall_mem_cons.1 noErase).2

/-! ## Keys that are worth something -/

/-- On this drive the user of the segment proves itself with the key, and may turn the lock of its range. -/
structure Trusts (segment : UInt32) (key : Secret) (v : Vault) : Prop where
  lockingEnabled : v.lockingEnabled = true
  enabled : (v.userAt (Authority.ofSegment segment).who).enabled = true
  password : (v.userAt (Authority.ofSegment segment).who).password = some key
  grants : (v.rangeAt segment.toUInt8).grants (Authority.ofSegment segment).who = true

namespace Trusts

variable {segment : UInt32} {key : Secret}

/-- The user of a segment proves itself with its key alone. -/
theorem authenticates?_eq (trusts : v.Trusts segment key) (valid : checkSegment segment = .ok ())
    (other : Secret) : v.authenticates? (Authority.ofSegment segment).who other = some (decide (key = other)) := by
  rw [authenticates?_user (isUser_ofSegment valid), trusts.lockingEnabled, trusts.enabled, trusts.password]
  simp [Bool.beq_eq_decide_eq]

theorem authenticates (trusts : v.Trusts segment key) (valid : checkSegment segment = .ok ()) :
    v.authenticates? (Authority.ofSegment segment).who key = some true := by
  rw [trusts.authenticates?_eq valid, decide_eq_true rfl]

theorem mayLock (trusts : v.Trusts segment key) (valid : checkSegment segment = .ok ()) :
    (v.rangeAt segment.toUInt8).mayLock? (Authority.ofSegment segment).who = some true := by
  rw [Range.mayLock?_eq (isUser_ofSegment valid), trusts.grants]

theorem userChanged {who : UInt32} {change : User → User} (trusts : v.Trusts segment key)
    (changed : v.UserChanged who change v')
    (keeps : (Authority.ofSegment segment).who = who →
      ∀ u : User, u.enabled = true → (change u).enabled = true ∧ (change u).password = u.password) :
    v'.Trusts segment key := by
  have user : (v'.userAt (Authority.ofSegment segment).who).enabled = true ∧
      (v'.userAt (Authority.ofSegment segment).who).password =
        (v.userAt (Authority.ofSegment segment).who).password := by
    rw [changed.userAt_eq]
    split
    · next here => exact keeps here _ trusts.enabled
    · exact ⟨trusts.enabled, rfl⟩
  refine ⟨?_, user.1, user.2.trans trusts.password, ?_⟩
  · obtain ⟨users, -, rfl⟩ := changed
    exact trusts.lockingEnabled
  · rw [changed.rangeAt_eq]
    exact trusts.grants

theorem rangeChanged {range : UInt8} {change : Range → Range} (trusts : v.Trusts segment key)
    (changed : v.RangeChanged range change v')
    (keeps : ∀ who, (v.rangeAt range).grants who = true → (change (v.rangeAt range)).grants who = true) :
    v'.Trusts segment key := by
  have grants : (v'.rangeAt segment.toUInt8).grants (Authority.ofSegment segment).who = true := by
    rw [changed.rangeAt_eq]
    split
    · next here =>
      subst here
      exact keeps _ trusts.grants
    · exact trusts.grants
  obtain ⟨ranges, -, rfl⟩ := changed
  exact ⟨trusts.lockingEnabled, trusts.enabled, trusts.password, grants⟩

end Trusts

/-- Only a new password and a revert of the drive make a key worthless. -/
theorem Effect.trusts {segment : UInt32} {key : Secret} (effect : Effect c v request v')
    (trusts : v.Trusts segment key) (noRevert : request.kind ≠ .psidRevert)
    (noChange : ∀ change, request = .setPassword change → change.user.who ≠ (Authority.ofSegment segment).who) :
    v'.Trusts segment key := by
  cases effect with
  | takeOwnership | keepOwnership | setAdminPassword | ignoreLock | getStatus | getGeometry | getRangeStatus =>
    exact ⟨trusts.lockingEnabled, trusts.enabled, trusts.password, trusts.grants⟩
  | activateLsp => exact ⟨rfl, trusts.enabled, trusts.password, trusts.grants⟩
  | setUserPassword _ _ _ changed =>
    exact trusts.userChanged changed fun same => absurd same.symm (noChange _ rfl)
  | activateUser _ _ changed => exact trusts.userChanged changed fun _ _ _ => ⟨rfl, rfl⟩
  | setupRange _ _ changed | eraseRange _ _ changed | secureEraseRange _ _ changed | lockUnlock _ _ _ _ _ _ changed
  | saveForResume changed => exact trusts.rangeChanged changed fun _ granted => granted
  | grantRead _ user _ there granted changed =>
    refine trusts.rangeChanged changed fun who before => ?_
    rw [rangeAt_of_getElem? there] at before ⊢
    rw [← granting_of_modify? granted]
    exact Range.grants_grantRead user before
  | grantWrite _ user _ there granted changed =>
    refine trusts.rangeChanged changed fun who before => ?_
    rw [rangeAt_of_getElem? there] at before ⊢
    rw [← granting_of_modify? granted]
    exact Range.grants_grantWrite user before
  | psidRevert => exact absurd rfl noRevert

theorem Evolves.trusts {segment : UInt32} {key : Secret} (evolves : Evolves c v xs v') (trusts : v.Trusts segment key)
    (noRevert : ∀ x ∈ xs, x.Accepted → x.kind ≠ .psidRevert)
    (noChange : ∀ x ∈ xs, ∀ change, x.request = .setPassword change →
      change.user.who ≠ (Authority.ofSegment segment).who) : v'.Trusts segment key := by
  induction evolves with
  | nil => exact trusts
  | accepted accepted effect _ ih =>
    obtain ⟨stands, noRevert⟩ := List.forall_mem_cons.1 noRevert
    obtain ⟨here, noChange⟩ := List.forall_mem_cons.1 noChange
    exact ih (effect.trusts trusts (stands accepted) here) noRevert noChange
  | refused _ _ ih => exact ih trusts (List.forall_mem_cons.1 noRevert).2 (List.forall_mem_cons.1 noChange).2

/-- Whoever unlocks with a key may go on using it. -/
theorem Effect.trusts_of_unlock {segment : UInt32} {key : Secret}
    (effect : Effect c v (.lockUnlock (lockOperationRequest segment false (some key))) v')
    (valid : checkSegment segment = .ok ()) (short : key.length ≤ maxKeyLength) : v.Trusts segment key := by
  have user := isUser_ofSegment valid
  have brings : ∀ {r : Range} {state : LockState} {kept : Secret},
      LockState.ofWord? (lockOperationRequest segment false (some key)).state = some state →
      r.keyFor (lockOperationRequest segment false (some key)).session state = some kept → kept = key := by
    intro r state kept word stands
    obtain rfl : state = .readWrite := by
      have word : LockState.ofWord? LockState.readWrite.word = some state := word
      rw [LockState.ofWord?_word] at word
      exact (Option.some.inj word).symm
    have content : (lockOperationRequest segment false (some key)).session.key.content = key :=
      KeyBlock.content_fill short
    simpa [Range.keyFor, content] using stands.symm
  cases effect with
  | ignoreLock word there stands proven may | lockUnlock word there stands proven may =>
    obtain rfl := brings word stands
    have proven : v.authenticates? (Authority.ofSegment segment).who _ = some true := proven
    rw [authenticates?_user user] at proven
    have proven := Option.some.inj proven
    have there : v.rangeAt segment.toUInt8 = _ := rangeAt_of_getElem? there
    have may : Range.mayLock? _ (Authority.ofSegment segment).who = some true := may
    rw [Range.mayLock?_eq user, ← there] at may
    simp only [Bool.and_eq_true, beq_iff_eq] at proven
    exact ⟨proven.1.1, proven.1.2, proven.2, Option.some.inj may⟩

end Simulator.Vault

/-! ## Episodes -/

variable {segment : UInt32} {past : List Episode} {d d' : SimulatedDrive} {e : Episode} {x : Exchange}

namespace Episode

/-- The segment was unlocked. -/
def Unlocks (e : Episode) (segment : UInt32) : Prop :=
  ∃ key, e.operation = .unlock segment key ∧ e.result = .ok .nothing

/-- The drive accepted an erase of the segment's range, or a revert. -/
def Erases (e : Episode) (segment : UInt32) : Prop :=
  ∃ x ∈ e.trace.exchanges, x.Accepted ∧ x.request.Erases segment.toUInt8

/-- An operation that made a call took one of its courses. -/
theorem Runs.course_of_mem (ran : e.Runs d d') (mem : x ∈ e.trace.exchanges) :
    e.operation.check = .ok () ∧ e.operation.Course e.trace.exchanges e.result := by
  rcases ran.course with ⟨quiet, -⟩ | course
  · rw [quiet] at mem
    cases mem
  · exact course

end Episode

/-- Only a successful unlock asks for a key to be kept, for the range of its segment. -/
theorem LockCourse.unlocked_of_keeps {locked : Bool} {key : Option Secret} {xs : List Exchange}
    {r : Except Error Unit} (course : LockCourse segment locked key xs r) (mem : x ∈ xs) {range : UInt8}
    (keeps : x.request.Keeps range) : locked = false ∧ r = .ok () ∧ segment.toUInt8 = range := by
  cases course with
  | unsupported =>
    obtain rfl := List.mem_singleton.1 mem
    cases keeps
  | refused | locked =>
    rcases List.mem_cons.1 mem with rfl | mem
    · cases keeps
    · obtain rfl := List.mem_singleton.1 mem
      cases keeps
  | unlocked kept _ direction =>
    rcases List.mem_cons.1 mem with rfl | mem
    · cases keeps
    · rcases List.mem_cons.1 mem with rfl | mem
      · cases keeps
      · obtain rfl := List.mem_singleton.1 mem
        refine ⟨direction, rfl, ?_⟩
        cases key <;> exact keeps

theorem Operation.Course.unlock_of_keeps {op : Operation} {xs : List Exchange} {r : Except Error Value}
    (course : op.Course xs r) (valid : op.check = .ok ()) (mem : x ∈ xs) {range : UInt8}
    (keeps : x.request.Keeps range) : ∃ key, op = .unlock range.toUInt32 key ∧ r = .ok .nothing := by
  cases course with
  | setup course => exact absurd keeps.kind_eq (course.asks mem).kind_ne_saveForResume
  | @setLock segment locked key xs r course =>
    obtain ⟨rfl, rfl, rfl⟩ := course.unlocked_of_keeps mem keeps
    obtain ⟨inRange, keyed⟩ := check_setLock valid
    cases key with
    | none => cases keyed
    | some key =>
      rw [toUInt32_toUInt8 inRange]
      exact ⟨key, rfl, rfl⟩
  | verify course | resetSegment course | factoryReset course | flags course | supported course
  | lockingEnabled course | geometry course =>
    have none : ∀ x ∈ xs, ¬ x.request.Keeps range := by
      cases course <;> simp [Request.Keeps]
    exact absurd keeps (none x mem)

/-- Whoever does not unlock the segment has no key kept for its range. -/
theorem Episode.Runs.not_keeps (ran : e.Runs d d') (valid : checkSegment segment = .ok ())
    (locked : ¬ e.Unlocks segment) : ∀ x ∈ e.trace.exchanges, ¬ x.request.Keeps segment.toUInt8 := by
  intro x mem keeps
  obtain ⟨passed, course⟩ := ran.course_of_mem mem
  obtain ⟨key, unlock, ok⟩ := course.unlock_of_keeps passed mem keeps
  rw [toUInt32_toUInt8 valid] at unlock
  exact locked ⟨key, unlock, ok⟩

/-- Whoever sets the password of the segment's user on a drive in use has erased the range. -/
theorem Episode.Runs.not_changes (ran : e.Runs d d') (idle : d.Idle) (enabled : d.vault.lockingEnabled = true)
    (serves : SimulatedDrive.drive.Serves nobody d e.trace.exchanges d') (spared : ¬ e.Erases segment) :
    ∀ x ∈ e.trace.exchanges, ∀ change, x.request = .setPassword change →
      change.user.who ≠ (Authority.ofSegment segment).who := by
  intro x mem change asked target
  obtain ⟨before, after, split⟩ := List.append_of_mem mem
  obtain ⟨-, course⟩ := ran.course_of_mem mem
  have course : e.operation.Course (before ++ x :: after) e.result := split ▸ course
  have password : x.kind = .setPassword := congrArg Request.kind asked
  obtain ⟨p, -, same, -, a, rest, first, -, found⟩ := course.of_password password
  rw [asked] at same
  cases same
  obtain rfl : p.segment = segment := who_ofSegment_inj target
  rcases found with disabled | ⟨y, earlier, accepted, wiped⟩
  · -- The feature word was read as it is.
    rw [split, first, List.cons_append] at serves
    obtain ⟨rfl, -⟩ := idle.step_getStatus serves
    rw [Vault.lockingEnabled_flags, enabled] at disabled
    cases disabled
  · refine spared ⟨y, ?_, accepted, ?_⟩
    · rw [split, first]
      simp [earlier]
    · rcases wiped with erase | erase <;> rw [erase] <;> rfl

/-- A successful unlock leaves its key behind. -/
theorem kept_of_unlock {key : Secret} {a l kept} (idle : d.Idle) (valid : checkSegment segment = .ok ())
    (short : key.length ≤ maxKeyLength) (accepted : l.status.classify = .success)
    (serves : SimulatedDrive.drive.Serves nobody d
      [⟨.getStatus default, a⟩, ⟨.lockUnlock (lockOperationRequest segment false (some key)), l⟩,
        ⟨.saveForResume (lockOperationRequest segment false (some key)).keeping, kept⟩] d') :
    (d'.vault.rangeAt segment.toUInt8).saved = some ((Authority.ofSegment segment).who, key) ∧
      d'.vault.Trusts segment key := by
  obtain ⟨-, serves⟩ := idle.step_getStatus serves
  have idle : (d.behind (.getStatus default) d.vault).Idle := idle.behind
  obtain ⟨v₁, settles, serves⟩ := idle.step serves
  rcases settles with ⟨-, effect⟩ | ⟨refused, -⟩
  · have trusts := effect.trusts (effect.trusts_of_unlock valid short) nofun nofun
    obtain ⟨v₂, changed⟩ := Vault.rangeChanged_exists (v := v₁) (toUInt8_lt_rangeCount valid)
      (Range.keep (lockOperationRequest segment false (some key)).keeping)
    have keeping : Vault.Effect d.config v₁
        (.saveForResume (lockOperationRequest segment false (some key)).keeping) v₂ := .saveForResume changed
    obtain ⟨-, serves⟩ := SimulatedDrive.Idle.step_of_effect idle.behind keeping nofun serves
    obtain rfl := serves.done_alone SimulatedDrive.steady
    refine ⟨?_, keeping.trusts trusts nofun nofun⟩
    show (v₂.rangeAt segment.toUInt8).saved = _
    have content : (lockOperationRequest segment false (some key)).keeping.session.key.content = key :=
      KeyBlock.content_fill short
    have asked : saveForLock &&& saveForLock ≠ 0 := by decide
    rw [changed.rangeAt_eq, if_pos rfl, Range.keep, content]
    exact if_pos asked
  · exact absurd accepted refused

theorem kept_of_unlocks (idle : d.Idle) (valid : checkSegment segment = .ok ()) (ran : e.Runs d d')
    (serves : SimulatedDrive.drive.Serves nobody d e.trace.exchanges d') (unlocks : e.Unlocks segment) :
    ∃ key, (d'.vault.rangeAt segment.toUInt8).saved = some ((Authority.ofSegment segment).who, key) ∧
      d'.vault.Trusts segment key := by
  obtain ⟨key, unlock, ok⟩ := unlocks
  refine ⟨key, ?_⟩
  rcases ran.course with ⟨-, why, failed⟩ | ⟨passed, course⟩
  · rw [failed] at ok
    cases ok
  · rw [unlock] at passed course
    rw [ok] at course
    obtain ⟨-, keyed⟩ := Operation.check_setLock passed
    obtain ⟨a, l, kept, calls, accepted⟩ := course.calls_of_unlocked
    rw [calls] at serves
    exact kept_of_unlock idle valid (length_le_of_checkKey keyed) accepted serves

/-! ## Runs on a drive that nothing is queued on -/

/-- What a drive that opens goes through from the factory on with nothing queued, the latest operation first. -/
inductive Undisturbed : List Episode → SimulatedDrive → Prop
  | fresh {name : String} {config : Config} (supported : config.supported = true) (opens : config.failOpen = false) :
      Undisturbed [] { name, config }
  | next {past : List Episode} {d : SimulatedDrive} (before : Undisturbed past d) (op : Operation) :
      Undisturbed (Episode.alone d op :: past) (d.run op).drive

/-- Whatever is kept for the range of the segment is a key of its user, and worth something. -/
def Simulator.Vault.KeepsTrusted (segment : UInt32) (v : Vault) : Prop :=
  ∀ who key, (v.rangeAt segment.toUInt8).saved = some (who, key) →
    who = (Authority.ofSegment segment).who ∧ v.Trusts segment key

/-- Some operation unlocked the segment, and none has erased its range since. -/
def Prepared (segment : UInt32) (past : List Episode) : Prop :=
  ∃ since e before, past = since ++ e :: before ∧ e.Unlocks segment ∧ ∀ f ∈ since, ¬ f.Erases segment

theorem not_prepared_nil : ¬ Prepared segment [] := by
  rintro ⟨since, e, before, split, -⟩
  simp at split

theorem prepared_cons : Prepared segment (e :: past) ↔
    e.Unlocks segment ∨ (¬ e.Erases segment ∧ Prepared segment past) := by
  constructor
  · rintro ⟨since, f, before, split, unlocks, spared⟩
    cases since with
    | nil =>
      obtain ⟨rfl, -⟩ := List.cons.inj split
      exact .inl unlocks
    | cons g since =>
      obtain ⟨rfl, behind⟩ := List.cons.inj split
      obtain ⟨here, spared⟩ := List.forall_mem_cons.1 spared
      exact .inr ⟨here, since, f, before, behind, unlocks, spared⟩
  · rintro (unlocks | ⟨here, since, f, before, split, unlocks, spared⟩)
    · exact ⟨[], e, past, rfl, unlocks, by simp⟩
    · exact ⟨e :: since, f, before, congrArg (e :: ·) split, unlocks, List.forall_mem_cons.2 ⟨here, spared⟩⟩

/-- A key is kept behind an operation that unlocked the segment, and behind any other if it was kept before and the
range was not erased. In either case it is worth something. -/
theorem Simulator.Vault.KeepsTrusted.run (trusted : d.vault.KeepsTrusted segment) (idle : d.Idle)
    (valid : checkSegment segment = .ok ()) (op : Operation) :
    (d.run op).drive.vault.KeepsTrusted segment ∧
      (((d.run op).drive.vault.rangeAt segment.toUInt8).saved.isSome ↔
        (Episode.alone d op).Unlocks segment ∨
          (¬ (Episode.alone d op).Erases segment ∧ (d.vault.rangeAt segment.toUInt8).saved.isSome)) := by
  have ran := Episode.alone_runs d op
  have serves : SimulatedDrive.drive.Serves nobody d (Episode.alone d op).trace.exchanges (d.run op).drive :=
    d.run_serves op
  obtain ⟨-, -, evolves⟩ := idle.evolves serves
  generalize Episode.alone d op = e at *
  generalize (d.run op).drive = d' at *
  by_cases unlocks : e.Unlocks segment
  · obtain ⟨key, same, trusts⟩ := kept_of_unlocks idle valid ran serves unlocks
    refine ⟨fun who kept there => ?_, by simp [same, unlocks]⟩
    rw [same] at there
    cases there
    exact ⟨rfl, trusts⟩
  · have noKey := ran.not_keeps valid unlocks
    by_cases erases : e.Erases segment
    · have gone := evolves.saved_eq_none noKey (.inr erases)
      refine ⟨fun who kept there => ?_, by simp [gone, unlocks, erases]⟩
      rw [gone] at there
      cases there
    · have spared : ∀ x ∈ e.trace.exchanges, x.Accepted → ¬ x.request.Erases segment.toUInt8 :=
        fun x mem accepted erase => erases ⟨x, mem, accepted, erase⟩
      have same := evolves.saved_eq noKey spared
      refine ⟨fun who kept there => ?_, by simp [same, unlocks, erases]⟩
      rw [same] at there
      obtain ⟨rfl, trusts⟩ := trusted who kept there
      have noRevert : ∀ x ∈ e.trace.exchanges, x.Accepted → x.kind ≠ .psidRevert :=
        fun x mem accepted revert => spared x mem accepted (Request.erases_of_kind revert)
      exact ⟨rfl, evolves.trusts trusts noRevert (ran.not_changes idle trusts.lockingEnabled serves erases)⟩

namespace Undisturbed

theorem idle (run : Undisturbed past d) : d.Idle ∧ d.config.failOpen = false := by
  induction run with
  | fresh supported opens => exact ⟨⟨supported, rfl⟩, opens⟩
  | @next past d before op ih =>
    obtain ⟨idle, config, -⟩ := ih.1.evolves (d.run_serves op)
    exact ⟨idle, by rw [config, ih.2]⟩

/-- The kept keys are those of the segments that are prepared, and they are worth something. -/
theorem kept (run : Undisturbed past d) (valid : checkSegment segment = .ok ()) :
    d.vault.KeepsTrusted segment ∧
      ((d.vault.rangeAt segment.toUInt8).saved.isSome ↔ Prepared segment past) := by
  induction run with
  | fresh =>
    have blank : (({} : Vault).rangeAt segment.toUInt8).saved = none := by rw [Vault.rangeAt_of_blank rfl]
    refine ⟨fun who key there => ?_, by simp [blank, not_prepared_nil]⟩
    rw [blank] at there
    cases there
  | @next past d before op ih =>
    obtain ⟨trusted, kept⟩ := ih.1.run before.idle.1 valid op
    refine ⟨trusted, ?_⟩
    rw [kept, prepared_cons, ih.2]

end Undisturbed

end OpalLocking
