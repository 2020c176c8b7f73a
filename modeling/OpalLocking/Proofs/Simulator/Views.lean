/-
The views of a range that a drive gives.

The word of a range's lock state is zero until it is set, and then always the word of a state: calls set no other, and
neither do the settings that are made from outside (`Reachable.defined`). This is all that is needed for the views to
agree: the reading of a range shows a state, whoever reads it back decodes this state, and the drive says that it has a
locked range just when there is one that is shown so. A query is answered from the drive's own knowledge when no status
was queued for it (`SimulatedDrive.Grants`).
-/
import OpalLocking.Proofs.EveryOperation
import OpalLocking.Proofs.LockStates
import OpalLocking.Proofs.Simulator.Reverting
import OpalLocking.Proofs.Simulator.TableAccesses

namespace OpalLocking

open Simulator

/-- The state of the lock is known, and says for reads and for writes whether they are locked. -/
def Attributes.Coherent (a : Attributes) : Prop :=
  ∃ state, a.state = some state ∧ (a.readLocked = true ↔ state = .locked) ∧
    (a.writeLocked = true ↔ state = .locked ∨ state = .readOnly)

theorem Attributes.coherent_of_word {r : RangeReading} {state : LockState} (word : r.state = state.word) (g : Geometry) :
    (ofReading g r).Coherent := by
  have decoded : LockState.ofWord? r.state = some state := LockState.ofWord?_eq_some_iff.2 word
  have readLocked := readLocked_iff (g := g) (r := r)
  have writeLocked := writeLocked_iff_of_isSome (g := g) (r := r) (by simp [decoded])
  rw [decoded] at readLocked writeLocked
  exact ⟨state, decoded, by simpa using readLocked, by simpa using writeLocked⟩

/-! ## Words of lock states -/

namespace Simulator.Vault

variable {c : Config} {v v' : Vault} {request : Request}

/-- Every range is in a state, or was never put into one. -/
def Defined (v : Vault) : Prop :=
  ∀ range, v.lockWord range = 0 ∨ ∃ state : LockState, v.lockWord range = state.word

theorem lockWord_eq (v : Vault) (range : UInt8) : v.lockWord range = (v.rangeAt range).snapshot.state := by
  rw [lockWord, rangeAt]
  cases v.ranges[range.toNat]? <;> rfl

theorem lockWord_of_blank (blank : v.ranges = .replicate rangeCount {}) (range : UInt8) : v.lockWord range = 0 := by
  rw [lockWord_eq, rangeAt_of_blank blank]

theorem lockWord_revert (v : Vault) (range : UInt8) : v.revert.lockWord range = 0 := by
  rw [lockWord, revert, Vector.getElem?_map]
  cases v.ranges[range.toNat]? <;> rfl

theorem RangeChanged.lockWord_cases {changed range : UInt8} {change : Range → Range} {word : UInt32}
    (h : v.RangeChanged changed change v') (sets : ∀ r : Range, (change r).snapshot.state = word) :
    v'.lockWord range = v.lockWord range ∨ v'.lockWord range = word := by
  by_cases here : range = changed
  · subst here
    exact .inr (h.lockWord_self sets)
  · exact .inl (h.lockWord_eq range fun same => absurd same here)

/-- A call leaves the word as it is, or sets it to that of a state; a revert of the drive unsets it. -/
theorem Effect.lockWord_cases (effect : Effect c v request v') (range : UInt8) :
    v'.lockWord range = v.lockWord range ∨ v'.lockWord range = 0 ∨ ∃ state : LockState, v'.lockWord range = state.word := by
  cases effect with
  | takeOwnership | keepOwnership | activateLsp | setAdminPassword | ignoreLock | getStatus | getGeometry
  | getRangeStatus => exact .inl rfl
  | setUserPassword _ _ _ changed | activateUser _ _ changed => exact .inl (lockWord_congr changed.ranges_eq range)
  | setupRange _ _ changed | grantRead _ _ _ _ _ changed | grantWrite _ _ _ _ _ changed
  | secureEraseRange _ _ changed | saveForResume changed => exact .inl (changed.lockWord_eq range fun _ _ => rfl)
  | eraseRange _ _ changed =>
    exact (changed.lockWord_cases fun _ => rfl).imp_right fun set => .inr ⟨.readWrite, set⟩
  | psidRevert => exact .inr (.inl (lockWord_revert v range))
  | @lockUnlock _ state _ _ _ _ _ _ _ _ _ changed =>
    exact (changed.lockWord_cases fun _ => rfl).imp_right fun set => .inr ⟨state, set⟩

namespace Defined

theorem of_cases (defined : v.Defined)
    (cases : ∀ range, v'.lockWord range = v.lockWord range ∨ v'.lockWord range = 0 ∨
      ∃ state : LockState, v'.lockWord range = state.word) : v'.Defined := by
  intro range
  rcases cases range with same | set
  · rw [same]
    exact defined range
  · exact set

theorem effect (defined : v.Defined) (effect : Effect c v request v') : v'.Defined :=
  defined.of_cases effect.lockWord_cases

theorem of_ranges (defined : v.Defined) (same : v'.ranges = v.ranges) : v'.Defined :=
  defined.of_cases fun range => .inl (lockWord_congr same range)

/-- What is shown of a range is a state, read-write for a range that was never put into one. -/
theorem reading (defined : v.Defined) (range : UInt8) :
    ∃ state : LockState, (Vault.reading (v.rangeAt range)).state = state.word := by
  unfold Vault.reading
  dsimp only
  split
  · exact ⟨.readWrite, rfl⟩
  · next set =>
    rw [← lockWord_eq] at set ⊢
    exact (defined range).resolve_left set

end Defined

theorem toUInt32_ne_zero_iff {enabled : Bool} : enabled.toUInt32 ≠ 0 ↔ enabled = true := by
  cases enabled <;> decide

/-- The reading of a range shows whether it is enabled and locked. -/
theorem isLocked_iff_reading (r : Range) :
    isLocked r = true ↔ (reading r).readLock ≠ 0 ∧ (reading r).writeLock ≠ 0 ∧
      LockState.ofWord? (reading r).state = some .locked := by
  have word : LockState.locked.word ≠ 0 ∧ LockState.readWrite.word ≠ LockState.locked.word := by decide
  have shown : (reading r).state = LockState.locked.word ↔ r.snapshot.state = LockState.locked.word := by
    unfold reading
    dsimp only
    split
    · next unset => simp [unset, word.1.symm, word.2]
    · rfl
  rw [LockState.ofWord?_eq_some_iff, shown, reading, toUInt32_ne_zero_iff, toUInt32_ne_zero_iff]
  simp [isLocked, and_assoc]

theorem lt_rangeCount_of_isLocked {range : UInt8} (locked : isLocked (v.rangeAt range) = true) :
    range.toNat < rangeCount := by
  by_contra far
  rw [rangeAt, Vector.getElem?_eq_none (Nat.not_lt.1 far)] at locked
  cases locked

end Simulator.Vault

namespace SimulatedDrive

variable {d d' : SimulatedDrive} {t : Trace}

/-! ## Drives in use -/

/-- A setting that is made from outside. -/
inductive Setting
  | inject (kind : CallKind) (status : Status)
  | failOpen (on : Bool)
  | ignoreLocks (on : Bool)
  | forceOwner (owner : Secret)
  | forceOwned (admin : Secret)
  | forceUser (who : UInt32) (password : Secret)
  | forceRange (range : UInt8) (start length : UInt64) (enabled : Bool)
  | clearCalls

def set (d : SimulatedDrive) : Setting → SimulatedDrive
  | .inject kind status => d.inject kind status
  | .failOpen on => d.failOpen on
  | .ignoreLocks on => d.ignoreLocks on
  | .forceOwner owner => d.forceOwner owner
  | .forceOwned admin => d.forceOwned admin
  | .forceUser who password => (d.forceUser who password).2
  | .forceRange range start length enabled => d.forceRange range start length enabled
  | .clearCalls => d.clearCalls

/-- A drive of any make that was used, by operations and by calls with any blocks, and set in between in any way. -/
inductive Reachable : SimulatedDrive → Prop
  | fresh (name : String) (config : Config) : Reachable { name, config }
  | used {d : SimulatedDrive} (u : Use) (reachable : Reachable d) : Reachable (d.use u).2
  | set {d : SimulatedDrive} (setting : Setting) (reachable : Reachable d) : Reachable (d.set setting)

theorem defined_answer (defined : d.vault.Defined) (request : Request) : (d.answer request).2.vault.Defined := by
  rcases (d.answer_answered request).vault_cases with same | effect
  · rw [same]
    exact defined
  · exact defined.effect effect

theorem defined_path (path : drive.Path d t d') (defined : d.vault.Defined) : d'.vault.Defined := by
  induction path with
  | nil => exact defined
  | called _ ih => exact ih (defined_answer defined _)
  | opened _ ih | logged _ ih | acquired _ ih | released _ ih => exact ih defined

theorem defined_set (defined : d.vault.Defined) (setting : Setting) : (d.set setting).vault.Defined := by
  cases setting with
  | inject | failOpen | ignoreLocks | clearCalls => exact defined
  | forceOwner | forceOwned => exact defined.of_ranges rfl
  | forceUser who password =>
    unfold set forceUser
    dsimp only
    split <;> exact defined.of_ranges rfl
  | forceRange range start length enabled =>
    unfold set forceRange
    dsimp only
    split
    · next ranges changed =>
      have changed : d.vault.RangeChanged range _ { d.vault with ranges } := ⟨ranges, changed, rfl⟩
      refine defined.of_cases fun other => ?_
      exact (changed.lockWord_cases fun _ => rfl).imp_right fun set => .inr ⟨.readWrite, set⟩
    · exact defined

/-- However a drive came to be as it is, every range is in a state, or was never put into one. -/
theorem Reachable.defined (reachable : Reachable d) : d.vault.Defined := by
  induction reachable with
  | fresh => exact fun range => .inl (Vault.lockWord_of_blank rfl range)
  | used u _ ih =>
    cases u with
    | operation op => exact defined_path (Procedure.run_path drive _ _) ih
    | call request => exact defined_answer ih request
  | set setting _ ih => exact defined_set ih setting

/-! ## Queries -/

/-- The drive does what it is asked to do, and not because a status is queued. -/
structure Grants (d : SimulatedDrive) (request : Request) : Prop where
  unqueued : d.queue.statuses request.kind = []
  accepted : (d.answer request).1.status.classify = .success

/-- A call that is granted amid others is granted by a drive in use. -/
theorem Reachable.grants_of_mem {x : Exchange} (reachable : Reachable d) (path : drive.Path d t d')
    (mem : x ∈ t.exchanges) (unqueued : d.queue.statuses x.kind = []) (accepted : x.Accepted) :
    ∃ d₁, Reachable d₁ ∧ d₁.Grants x.request ∧ x.answer = (d₁.answer x.request).1 := by
  induction path with
  | nil => cases mem
  | @called d request t d' _ ih =>
    obtain rfl | mem := List.mem_cons.1 mem
    · exact ⟨d, reachable, ⟨unqueued, accepted⟩, rfl⟩
    · exact ih (.used (.call request) reachable) mem (unqueued_answer unqueued request)
  | opened _ ih | logged _ ih | acquired _ ih | released _ ih => exact ih reachable mem unqueued

theorem Grants.performs {request : Request} (grants : d.Grants request) :
    ∃ v, d.vault.perform? d.config request = some ((d.answer request).1, v) ∧
      (d.answer request).2 = d.behind request v := by
  obtain ⟨queue, accepted⟩ := grants
  have unqueued : d.queue.take? request.kind = none := Queue.take?_eq_none_iff.2 queue
  have supported : d.config.supported = true := by
    by_contra absent
    rw [Bool.not_eq_true] at absent
    have refused : (d.answer request).1.status = .ofErrno .notTypewriter := by simp [answer, unqueued, absent]
    rw [refused] at accepted
    cases accepted
  obtain ⟨⟨a, v⟩, performs⟩ := Option.isSome_iff_exists.1 (Vault.perform?_isSome d.config d.vault request)
  rw [answer_of_unqueued supported unqueued performs]
  exact ⟨v, performs, rfl⟩

theorem Grants.getRangeStatus {session : Session} {submitted : RangeReading}
    (grants : d.Grants (.getRangeStatus session submitted)) :
    session.key.range.toNat < rangeCount ∧
      (d.answer (.getRangeStatus session submitted)).1.reading = Vault.reading (d.vault.rangeAt session.key.range) := by
  obtain ⟨v, performs, -⟩ := grants.performs
  obtain ⟨-, shown⟩ | ⟨refused, -⟩ := Vault.perform?_getRangeStatus_cases performs
  · exact shown
  · exact absurd grants.accepted refused

theorem Grants.getStatus {submitted : StatusFlags} (grants : d.Grants (.getStatus submitted)) :
    (d.answer (.getStatus submitted)).1.reading = d.vault.flags := by
  obtain ⟨v, performs, -⟩ := grants.performs
  rw [(Prod.mk.inj (Option.some.inj performs)).1.symm]

theorem Grants.getGeometry {submitted : GeometryReading} (grants : d.Grants (.getGeometry submitted)) :
    (d.answer (.getGeometry submitted)).1.reading = d.config.geometry ∧
      (d.answer (.getGeometry submitted)).2 = d.behind (.getGeometry submitted) d.vault := by
  obtain ⟨v, performs, behind⟩ := grants.performs
  obtain ⟨answered, rfl⟩ := Prod.mk.inj (Option.some.inj performs)
  exact ⟨by rw [← answered], behind⟩

/-- A geometry that can be used is the drive's own. -/
theorem grants_of_usable (usable : (d.answer (.getGeometry default)).1.Usable) : d.Grants (.getGeometry default) := by
  refine ⟨?_, usable.1⟩
  cases queued : d.queue.statuses .getGeometry with
  | nil => exact queued
  | cons status rest =>
    rw [answer_of_queued queued] at usable
    exact absurd rfl usable.2

section

variable {segment : UInt32} {key : Secret} {want : Expectations}

/-- A range is read back as it is, if the drive shows it. -/
theorem verify_result (unqueued : d.queue.statuses .getRangeStatus = [])
    (shown : ∃ x ∈ (d.run (.verify segment key want)).trace.exchanges, x.kind = .getRangeStatus ∧ x.Accepted) :
    let a := Attributes.ofReading (.ofReading d.config.geometry) (Vault.reading (d.vault.rangeAt segment.toUInt8))
    (d.run (.verify segment key want)).result =
      if a.mismatches want = [] then .ok (.attributes a) else .error (.mismatch segment (a.mismatches want)) := by
  intro a
  obtain ⟨x, mem, kind, accepted⟩ := shown
  have serves := d.run_serves (.verify segment key want)
  have yields := Procedure.run_yields drive ((Operation.verify segment key want).procedure d.name) d
  change Procedure.Yields _ (d.run _).trace (d.run _).result at yields
  obtain ⟨quiet, -⟩ | ⟨-, course⟩ := Operation.procedure_course yields
  · rw [quiet] at mem
    cases mem
  generalize (d.run (.verify segment key want)).trace.exchanges = xs at course serves mem
  generalize (d.run (.verify segment key want)).result = r at course ⊢
  cases course with
  | verify course =>
  have answered {g : Answer (.getGeometry default)} {read : Answer (readRequest segment key)} {d'} (usable : g.Usable)
      (accepted : read.status.classify = .success) (serves : drive.Serves nobody d [⟨_, g⟩, ⟨_, read⟩] d') :
      g.reading = d.config.geometry ∧ read.reading = Vault.reading (d.vault.rangeAt segment.toUInt8) := by
    obtain ⟨first, rest⟩ := serves.step_alone steady
    obtain ⟨second, -⟩ := rest.step_alone steady
    dsimp only at first second
    subst first second
    obtain ⟨geometry, behind⟩ := (grants_of_usable usable).getGeometry
    have grants : (drive.answer d (.getGeometry default)).2.Grants (readRequest segment key) := by
      refine ⟨?_, accepted⟩
      rw [drive_answer, behind]
      exact unqueued
    refine ⟨geometry, grants.getRangeStatus.2.trans ?_⟩
    rw [drive_answer, behind]
    rfl
  cases course with
  | unusable =>
    cases List.mem_singleton.1 mem
    cases kind
  | refused _ refused =>
    obtain rfl | mem := List.mem_cons.1 mem
    · cases kind
    · cases List.mem_singleton.1 mem
      exact absurd accepted refused
  | matched usable accepted same =>
    obtain ⟨geometry, reading⟩ := answered usable accepted serves
    rw [geometry, reading] at same ⊢
    exact (if_pos same).symm
  | differed usable accepted differs some =>
    obtain ⟨geometry, reading⟩ := answered usable accepted serves
    rw [geometry, reading] at differs
    subst differs
    exact (if_neg some).symm

end

/-- Whoever is let in on a drive with these ranges is shown this reading of the range. -/
def Shows (d : SimulatedDrive) (range : UInt8) (reading : RangeReading) : Prop :=
  ∀ (d' : SimulatedDrive) (session : Session) (submitted : RangeReading), d'.vault.ranges = d.vault.ranges →
    session.key.range = range → d'.Grants (.getRangeStatus session submitted) →
    (d'.answer (.getRangeStatus session submitted)).1.reading = reading

theorem shows_iff {range : UInt8} {reading : RangeReading} (there : range.toNat < rangeCount) :
    d.Shows range reading ↔ reading = Vault.reading (d.vault.rangeAt range) := by
  constructor
  · -- An administrator with an empty key is let in.
    intro shows
    let d' : SimulatedDrive := ⟨"", { d.config with supported := true },
      { owner := none, lockingEnabled := true, admin := some [], ranges := d.vault.ranges }, [], []⟩
    let request := Request.getRangeStatus (adminSession range []) default
    have performs : d'.vault.perform? d'.config request =
        some (⟨.success, Vault.reading (d.vault.rangeAt range)⟩, d'.vault) :=
      Vault.perform?_getRangeStatus rfl (Vault.getElem?_ranges (v := d.vault) there)
    have answered := answer_of_unqueued (d := d') rfl rfl performs
    have grants : d'.Grants request := ⟨rfl, by rw [answered]; rfl⟩
    rw [← shows d' _ _ rfl rfl grants, answered]
  · rintro rfl d' session submitted same here grants
    rw [grants.getRangeStatus.2, here, Vault.rangeAt, same, Vault.rangeAt]

/-! ## Agreement -/

/-- On a drive that is used, by operations and by calls of any kind, and set from outside in any way, every range is in a
state or was never put into one; what is shown of it, and what an operation reads back, is this state with the bounds and
the lock enables that the range has; and the drive says that a range is locked just when there is one that is shown as
enabled and locked. A call in the middle of an operation is granted by such a drive, too, so this holds there as well. -/
theorem views_agree (reachable : Reachable d) :
    (∀ range, (d.snapshot range).state = 0 ∨ (LockState.ofWord? (d.snapshot range).state).isSome) ∧
      (∀ session submitted, d.Grants (.getRangeStatus session submitted) →
        let reading : RangeReading := (d.answer (.getRangeStatus session submitted)).1.reading
        let seen := d.snapshot session.key.range
        (LockState.ofWord? reading.state).isSome ∧ (seen.state ≠ 0 → reading.state = seen.state) ∧
          reading.start = seen.start ∧ reading.length = seen.length ∧
          (reading.readLock ≠ 0 ↔ seen.readLockEnabled = true) ∧
          (reading.writeLock ≠ 0 ↔ seen.writeLockEnabled = true) ∧ ∀ g, (Attributes.ofReading g reading).Coherent) ∧
      (∀ segment key want,
        let run := d.run (.verify segment key want)
        let seen := d.snapshot segment.toUInt8
        let sectors := (Geometry.ofReading d.config.geometry).blocksToSectors
        d.queue.statuses .getRangeStatus = [] →
          (∃ x ∈ run.trace.exchanges, x.kind = .getRangeStatus ∧ x.Accepted) →
            ∃ a : Attributes, a.Coherent ∧ a.offset = sectors seen.start ∧ a.length = sectors seen.length ∧
              run.result =
                if a.mismatches want = [] then .ok (.attributes a) else .error (.mismatch segment (a.mismatches want))) ∧
      (∀ submitted, d.Grants (.getStatus submitted) →
        (StatusFlags.locked (d.answer (.getStatus submitted)).1.reading = true ↔
          ∃ range ≤ 8, ∃ reading, d.Shows range reading ∧ reading.readLock ≠ 0 ∧ reading.writeLock ≠ 0 ∧
            LockState.ofWord? reading.state = some .locked)) ∧
      ∀ op, ∀ x ∈ (d.run op).trace.exchanges, d.queue.statuses x.kind = [] → x.Accepted →
        ∃ d₁, Reachable d₁ ∧ d₁.Grants x.request ∧ x.answer = (d₁.answer x.request).1 := by
  have defined := reachable.defined
  refine ⟨fun range => ?_, fun session submitted grants => ?_, fun segment key want unqueued shown => ?_,
    fun submitted grants => ?_, fun op x mem unqueued accepted => ?_⟩
  · rw [snapshot_eq, ← Vault.lockWord_eq]
    obtain unset | ⟨state, set⟩ := defined range
    · exact .inl unset
    · rw [set, LockState.ofWord?_word]
      exact .inr rfl
  · dsimp only
    rw [grants.getRangeStatus.2, snapshot_eq]
    obtain ⟨state, word⟩ := defined.reading session.key.range
    refine ⟨?_, fun set => if_neg set, rfl, rfl, Vault.toUInt32_ne_zero_iff, Vault.toUInt32_ne_zero_iff,
      Attributes.coherent_of_word word⟩
    rw [word, LockState.ofWord?_word]
    rfl
  · obtain ⟨state, word⟩ := defined.reading segment.toUInt8
    refine ⟨_, Attributes.coherent_of_word word _, ?_, ?_, verify_result unqueued shown⟩
    · rw [snapshot_eq]
      rfl
    · rw [snapshot_eq]
      rfl
  · rw [grants.getStatus, Vault.locked_flags, Vault.any_isLocked_iff]
    constructor
    · rintro ⟨range, locked⟩
      have there := Vault.lt_rangeCount_of_isLocked locked
      exact ⟨range, UInt8.le_iff_toNat_le.2 (Nat.le_of_lt_succ there), _, (shows_iff there).2 rfl,
        (Vault.isLocked_iff_reading _).1 locked⟩
    · rintro ⟨range, few, reading, shows, locked⟩
      have there : range.toNat < rangeCount := Nat.lt_succ_of_le (UInt8.le_iff_toNat_le.1 few)
      obtain rfl := (shows_iff there).1 shows
      exact ⟨range, (Vault.isLocked_iff_reading _).2 locked⟩
  · exact reachable.grants_of_mem (Procedure.run_path drive _ _) mem unqueued accepted

/-- A drive with a segment in use, with one more user and with a failure queued for an erasure, of which the volume user
then makes the range read-only. -/
theorem views_agree_readOnly :
    let provisioned := ((new "d").use (.operation (.setup ⟨1, 0, 8, [1], [2]⟩))).2
    let prepared := (provisioned.set (.forceUser 9 [3])).set (.inject .eraseRange .failure)
    let turn : LockRequest := { lockOperationRequest 1 false (some [1]) with state := LockState.readOnly.word }
    let d := (prepared.use (.call (.lockUnlock turn))).2
    let a : Attributes := ⟨0, 8, true, true, some .readOnly, false, true⟩
    Reachable prepared ∧ Reachable d ∧
      (∃ range ≤ 8, ∃ reading, prepared.Shows range reading ∧ reading.readLock ≠ 0 ∧ reading.writeLock ≠ 0 ∧
        LockState.ofWord? reading.state = some .locked) ∧
      (d.run (.verify 1 [1] {})).result = .ok (.attributes a) ∧ a.Coherent := by
  intro provisioned prepared turn d a
  have reachable : Reachable prepared := .set _ (.set _ (.used _ (.fresh "d" (new "d").config)))
  have turned : Reachable d := .used _ reachable
  have result : (d.run (.verify 1 [1] {})).result = .ok (.attributes a) := by decide +kernel
  have unqueued : d.queue.statuses .getRangeStatus = [] := by decide +kernel
  have shown : ∃ x ∈ (d.run (.verify 1 [1] {})).trace.exchanges, x.kind = .getRangeStatus ∧ x.Accepted := by
    decide +kernel
  have grants : prepared.Grants (.getStatus default) := ⟨by decide +kernel, by decide +kernel⟩
  have locked : StatusFlags.locked (prepared.answer (.getStatus default)).1.reading = true := by decide +kernel
  obtain ⟨-, -, -, flags, -⟩ := views_agree reachable
  obtain ⟨-, -, reads, -⟩ := views_agree turned
  obtain ⟨b, coherent, -, -, same⟩ := reads 1 [1] {} unqueued shown
  refine ⟨reachable, turned, (flags default grants).1 locked, result, ?_⟩
  rw [result] at same
  split at same
  · cases same
    exact coherent
  · cases same

end SimulatedDrive

end OpalLocking
