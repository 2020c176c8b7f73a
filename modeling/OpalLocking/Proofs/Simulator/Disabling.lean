/-
A range that was reset is disabled, and stays so.

A reset erases the range in one call, or falls back on two if the drive refuses that one: a secure erase, which leaves
the range configured, and a call that takes its configuration away. Both ways lead to the same drive but for the word
of the range's lock state (`Range.disabled`). Only provisioning this segment enables the range again, so whatever else
is done with the drive, nobody verifies the range and it does not make the drive report a locked range.
-/
import OpalLocking.Proofs.Simulator.Isolation
import OpalLocking.Proofs.Simulator.TenantAccess

namespace OpalLocking

open Simulator

variable {segment : UInt32} {key : Secret} {d d' : SimulatedDrive} {xs : List Exchange}

namespace Simulator

variable {c : Config} {v v' v'' : Vault} {range : UInt8}

/-! ## One change after the other -/

theorem modify?_modify? {α : Type} {n i : Nat} {t t' : Vector α n} {first second : α → α}
    (changed : modify? t i first = some t') : modify? t' i second = modify? t i (second ∘ first) := by
  unfold modify? at changed ⊢
  split
  · next there =>
    rw [dif_pos there] at changed
    obtain rfl := Option.some.inj changed
    simp
  · rfl

theorem Vault.RangeChanged.trans {first second : Range → Range} (changed : v.RangeChanged range first v')
    (again : v'.RangeChanged range second v'') : v.RangeChanged range (second ∘ first) v'' := by
  obtain ⟨ranges, changed, rfl⟩ := changed
  obtain ⟨ranges', again, rfl⟩ := again
  exact ⟨ranges', (modify?_modify? changed).symm.trans again, rfl⟩

theorem Vault.RangeChanged.unique {change : Range → Range} (changed : v.RangeChanged range change v')
    (also : v.RangeChanged range change v'') : v' = v'' := by
  obtain ⟨ranges, changed, rfl⟩ := changed
  obtain ⟨ranges', also, rfl⟩ := also
  rw [changed] at also
  cases also
  rfl

/-! ## The range behind a reset -/

/-- A range that was erased once more and has neither bounds nor lock enables nor a kept key. -/
def Range.disabled (word : UInt32) (r : Range) : Range :=
  { r with snapshot := { state := word, erasures := r.snapshot.erasures + 1 }, saved := none }

theorem Config.round_zero : c.round 0 = 0 := by
  simp [round]

/-- A secure erase and the call behind it take away what the plain erase takes away, but for the lock state. -/
theorem Range.configure_erase (r : Range) :
    (r.erase true).configure c (disableRequest segment key) = r.disabled r.snapshot.state := by
  simp [configure, erase, disabled, disableRequest, Config.round_zero]

end Simulator

/-! ## Drives with one status queued -/

namespace SimulatedDrive

section

variable {kind : CallKind} {status : Status} (idle : d.Idle)
include idle

/-- A call of another kind than the one that a status is queued for. -/
theorem Idle.step_inject_of_ne {request : Request} {a b : Answer request} {v : Vault} (other : kind ≠ request.kind)
    (performs : d.vault.perform? d.config request = some (b, v))
    (serves : drive.Serves nobody (d.inject kind status) (⟨request, a⟩ :: xs) d') :
    a = b ∧ drive.Serves nobody ((d.behind request v).inject kind status) xs d' := by
  have unqueued : (d.inject kind status).queue.take? request.kind = none := by
    rw [Queue.take?_eq_none_iff, inject, Queue.statuses_push, idle.queue, if_neg other]
    rfl
  have answered : (d.inject kind status).answer request = (b, (d.behind request v).inject kind status) :=
    answer_of_unqueued idle.supported unqueued performs
  have step := serves.step_alone steady
  rwa [drive_answer, answered] at step

/-- The call that the status is queued for takes it, and the drive is idle behind it. -/
theorem Idle.step_inject {x : Exchange} (same : x.kind = kind)
    (serves : drive.Serves nobody (d.inject kind status) (x :: xs) d') :
    x.status = status ∧ drive.Serves nobody (d.behind x.request d.vault) xs d' := by
  have taken : Queue.take? x.request.kind (d.inject kind status).queue = some (status, []) := by
    rw [inject, idle.queue, ← same]
    exact if_pos rfl
  have answered : (d.inject kind status).answer x.request =
      (⟨status, x.request.submitted⟩, d.behind x.request d.vault) := by
    rw [answer]
    dsimp only
    rw [taken]
    simp [SimulatedDrive.behind, inject, idle.queue]
  obtain ⟨here, rest⟩ := serves.step_alone steady
  rw [drive_answer, answered] at here rest
  exact ⟨congrArg Answer.status here, rest⟩

end

end SimulatedDrive

/-! ## Both ways -/

namespace SimulatedDrive

/-- What a reset has done to the drive once it succeeded: the range is disabled, with this word for its lock state, and
nothing else but the calls has changed. -/
structure Reset (d : SimulatedDrive) (range : UInt8) (word : Range → UInt32) (d' : SimulatedDrive) : Prop where
  name : d'.name = d.name
  config : d'.config = d.config
  queue : d'.queue = d.queue
  vault : d.vault.RangeChanged range (fun r => r.disabled (word r)) d'.vault

variable (idle : d.Idle) (opens : d.config.failOpen = false) (admin : d.vault.isAdmin key = true)
  (valid : (Operation.resetSegment segment key).check = .ok ())
include idle opens admin valid

/-- With nothing queued the plain erase does it all. -/
theorem Idle.resetSegment :
    (d.run (.resetSegment segment key)).result = .ok .nothing ∧
      d.Reset segment.toUInt8 (fun _ => LockState.readWrite.word) (d.run (.resetSegment segment key)).drive := by
  obtain ⟨keyed, inRange⟩ := checks_eq_ok valid
  have course := d.run_course _ valid opens
  have serves := d.run_serves (.resetSegment segment key)
  have enabled := (Vault.isAdmin_iff.1 admin).1
  generalize (d.run (.resetSegment segment key)).trace.exchanges = xs at course serves
  generalize (d.run (.resetSegment segment key)).result = r at course ⊢
  generalize (d.run (.resetSegment segment key)).drive = d' at serves ⊢
  have proven := (Vault.isAdmin_adminSession segment.toUInt8 (length_le_of_checkKey keyed)).trans admin
  obtain ⟨v, changed⟩ :=
    Vault.rangeChanged_exists (v := d.vault) (toUInt8_lt_rangeCount inRange) (Range.erase · false)
  have effect : Vault.Effect d.config d.vault (.eraseRange (adminSession segment.toUInt8 key)) v :=
    .eraseRange rfl proven changed
  cases course with
  | resetSegment course =>
    cases course with
    | unreadable system =>
      obtain ⟨rfl, -⟩ := idle.step_getStatus serves
      cases system
    | notEnabled _ disabled =>
      obtain ⟨rfl, -⟩ := idle.step_getStatus serves
      rw [Vault.lockingEnabled_flags, enabled] at disabled
      cases disabled
    | erased =>
      obtain ⟨-, asked⟩ := idle.step_getStatus serves
      obtain ⟨-, rest⟩ := Idle.step_of_effect idle.behind effect nofun asked
      rw [rest.done_alone steady]
      exact ⟨rfl, rfl, rfl, rfl, changed⟩
    | refused _ plain | disabled _ plain =>
      obtain ⟨-, asked⟩ := idle.step_getStatus serves
      obtain ⟨accepted, -⟩ := Idle.step_of_effect idle.behind effect nofun asked
      exact absurd (congrArg Status.classify accepted) plain

/-- If the plain erase is refused, the two calls behind it do the same, and leave the lock state as it was. -/
theorem Idle.resetSegment_fallback {status : Status} (refusal : status.classify ≠ .success) :
    ((d.inject .eraseRange status).run (.resetSegment segment key)).result = .ok .nothing ∧
      d.Reset segment.toUInt8 (·.snapshot.state)
        ((d.inject .eraseRange status).run (.resetSegment segment key)).drive := by
  obtain ⟨keyed, inRange⟩ := checks_eq_ok valid
  have course := run_course (d := d.inject .eraseRange status) _ valid opens
  have serves := (d.inject .eraseRange status).run_serves (.resetSegment segment key)
  have enabled := (Vault.isAdmin_iff.1 admin).1
  generalize (d.inject .eraseRange status).run (.resetSegment segment key) = run at course serves ⊢
  have proven := (Vault.isAdmin_adminSession segment.toUInt8 (length_le_of_checkKey keyed)).trans admin
  obtain ⟨v, erased⟩ :=
    Vault.rangeChanged_exists (v := d.vault) (toUInt8_lt_rangeCount inRange) (Range.erase · true)
  obtain ⟨v', configured⟩ := Vault.rangeChanged_exists (v := v) (toUInt8_lt_rangeCount inRange)
    (·.configure d.config (disableRequest segment key))
  have secure : Vault.Effect d.config d.vault (.secureEraseRange (adminSession segment.toUInt8 key)) v :=
    .secureEraseRange rfl proven erased
  have disables : Vault.Effect d.config v (.setupRange (disableRequest segment key)) v' :=
    .setupRange rfl (erased.isAdmin_eq ▸ proven) configured
  generalize run.trace.exchanges = xs, run.result = r, run.drive = d' at course serves ⊢
  have other : CallKind.eraseRange ≠ (Request.getStatus default).kind := nofun
  have reads : d.vault.perform? d.config (.getStatus default) = some (⟨.success, d.vault.flags⟩, d.vault) := rfl
  cases course with
  | resetSegment course =>
    cases course with
    | unreadable system =>
      obtain ⟨rfl, -⟩ := idle.step_inject_of_ne other reads serves
      cases system
    | notEnabled _ disabled =>
      obtain ⟨rfl, -⟩ := idle.step_inject_of_ne other reads serves
      rw [Vault.lockingEnabled_flags, enabled] at disabled
      cases disabled
    | erased _ plain =>
      obtain ⟨-, asked⟩ := idle.step_inject_of_ne other reads serves
      obtain ⟨same, -⟩ := Idle.step_inject idle.behind rfl asked
      exact absurd ((congrArg Status.classify same).symm.trans plain) refusal
    | refused _ _ refused =>
      obtain ⟨-, asked⟩ := idle.step_inject_of_ne other reads serves
      obtain ⟨-, rest⟩ := Idle.step_inject idle.behind rfl asked
      obtain ⟨accepted, -⟩ := Idle.step_of_effect idle.behind.behind secure nofun rest
      exact absurd (congrArg Status.classify accepted) refused
    | disabled _ _ _ last =>
      obtain ⟨-, asked⟩ := idle.step_inject_of_ne other reads serves
      obtain ⟨-, rest⟩ := Idle.step_inject idle.behind rfl asked
      obtain ⟨-, rest⟩ := Idle.step_of_effect idle.behind.behind secure nofun rest
      obtain ⟨accepted, rest⟩ := Idle.step_of_effect idle.behind.behind.behind disables nofun rest
      rcases last with ⟨-, rfl⟩ | ⟨refused, -⟩
      · rw [rest.done_alone steady]
        have both := erased.trans configured
        rw [show (Range.configure _ _ ·) ∘ (Range.erase · true) = fun r => r.disabled r.snapshot.state from
          funext fun r => r.configure_erase] at both
        exact ⟨rfl, rfl, rfl, rfl, both⟩
      · exact absurd (congrArg Status.classify accepted) refused

end SimulatedDrive

/-! ## Ranges that are disabled -/

/-- Asks for a range to be configured with at least one lock enabled. -/
def Request.Enables (range : UInt8) : Request → Prop
  | .setupRange setup => setup.session.key.range = range ∧ (setup.readLock ≠ 0 ∨ setup.writeLock ≠ 0)
  | _ => False

/-- Only provisioning a segment enables its range. -/
theorem Operation.Course.not_enables {op : Operation} {r : Except Error Value} (course : op.Course xs r)
    (valid : op.check = .ok ()) (inRange : checkSegment segment = .ok ())
    (others : ∀ p, op = .setup p → p.segment ≠ segment) {x : Exchange} (mem : x ∈ xs) :
    ¬ x.request.Enables segment.toUInt8 := by
  obtain ⟨request, a⟩ := x
  cases course with
  | @setup p _ _ course =>
    have confined := (course.asks mem).confined
    cases request with
    | setupRange setup =>
      rintro ⟨here, -⟩
      exact Vault.toUInt8_ne inRange (Provision.check_eq_ok valid).2.2 (others p rfl) (confined.symm.trans here)
    | _ => exact id
  | setLock course | verify course | resetSegment course | factoryReset course | flags course | supported course
  | lockingEnabled course | geometry course =>
    have none : ∀ x ∈ xs, ¬ x.request.Enables segment.toUInt8 := by
      cases course <;> simp [Request.Enables, disableRequest]
    exact none _ mem

namespace Simulator.Vault

variable {c : Config} {v v' : Vault} {range : UInt8} {request : Request}

/-- Neither lock of the range is enabled. -/
structure Disabled (range : UInt8) (v : Vault) : Prop where
  readLock : (v.rangeAt range).snapshot.readLockEnabled = false
  writeLock : (v.rangeAt range).snapshot.writeLockEnabled = false

namespace Disabled

theorem of_rangeAt (disabled : v.Disabled range) (same : v'.rangeAt range = v.rangeAt range) : v'.Disabled range :=
  ⟨by rw [same]; exact disabled.readLock, by rw [same]; exact disabled.writeLock⟩

/-- A change that enables no lock, or is one of another range. -/
theorem rangeChanged {other : UInt8} {change : Range → Range} (disabled : v.Disabled range)
    (changed : v.RangeChanged other change v')
    (keeps : range = other → ∀ r : Range, r.snapshot.readLockEnabled = false → r.snapshot.writeLockEnabled = false →
      (change r).snapshot.readLockEnabled = false ∧ (change r).snapshot.writeLockEnabled = false) :
    v'.Disabled range := by
  by_cases here : range = other
  · have off := keeps here _ disabled.readLock disabled.writeLock
    have there := changed.rangeAt_eq range
    rw [if_pos here] at there
    exact ⟨by rw [there]; exact off.1, by rw [there]; exact off.2⟩
  · exact disabled.of_rangeAt ((changed.rangeAt_eq range).trans (if_neg here))

theorem effect (disabled : v.Disabled range) (effect : Effect c v request v') (quiet : ¬ request.Enables range) :
    v'.Disabled range := by
  cases effect with
  | takeOwnership | keepOwnership | activateLsp | setAdminPassword | ignoreLock | getStatus | getGeometry
  | getRangeStatus => exact disabled.of_rangeAt rfl
  | setUserPassword _ _ _ changed | activateUser _ _ changed =>
    exact disabled.of_rangeAt (congrFun changed.rangeAt_eq range)
  | @setupRange setup v' _ _ changed =>
    refine disabled.rangeChanged changed fun here r _ _ => ?_
    have off : setup.readLock = 0 ∧ setup.writeLock = 0 := by
      simpa [Request.Enables, here] using quiet
    simp [Range.configure, off]
  | grantRead _ _ _ _ _ changed | grantWrite _ _ _ _ _ changed | secureEraseRange _ _ changed
  | lockUnlock _ _ _ _ _ _ changed | saveForResume changed =>
    exact disabled.rangeChanged changed fun _ _ readLock writeLock => ⟨readLock, writeLock⟩
  | eraseRange _ _ changed => exact disabled.rangeChanged changed fun _ _ _ _ => ⟨rfl, rfl⟩
  | psidRevert =>
    have there : v.revert.rangeAt range = ((v.ranges[range.toNat]?).map Range.revert).getD {} := by
      rw [rangeAt, revert, Vector.getElem?_map]
    cases found : v.ranges[range.toNat]? <;> rw [found] at there <;>
      exact ⟨by rw [there]; rfl, by rw [there]; rfl⟩

/-- A disabled range does not make the drive report a locked one; only other ranges do. -/
theorem locked_flags_iff (disabled : v.Disabled range) :
    v.flags.locked = true ↔ ∃ other, other ≠ range ∧ isLocked (v.rangeAt other) = true := by
  rw [locked_flags, any_isLocked_iff]
  refine ⟨fun ⟨other, locked⟩ => ⟨other, ?_, locked⟩, fun ⟨other, _, locked⟩ => ⟨other, locked⟩⟩
  rintro rfl
  rw [isLocked, disabled.readLock] at locked
  cases locked

/-- Read by its user, the range has no read lock, whatever else is answered. -/
theorem readLock_eq {session : Session} {submitted : RangeReading} {a : Answer (.getRangeStatus session submitted)}
    (disabled : v.Disabled session.key.range) (submits : submitted.readLock = 0)
    (performs : v.perform? c (.getRangeStatus session submitted) = some (a, v')) : a.reading.readLock = 0 := by
  obtain ⟨-, -, shown⟩ | ⟨-, same⟩ := perform?_getRangeStatus_cases performs
  · rw [shown, Vault.reading, disabled.readLock]
    rfl
  · rw [same]
    exact submits

end Disabled

end Simulator.Vault

/-! ## Everything that follows -/

namespace SimulatedDrive

/-- Anything may be set or queued on the drive that leaves the vault as it is. -/
def Meddles (d d' : SimulatedDrive) : Prop :=
  d'.vault = d.vault

/-- Operations that run one after the other, each from its beginning to its end. -/
inductive Later : SimulatedDrive → List Episode → SimulatedDrive → Prop
  | nil {d : SimulatedDrive} : Later d [] d
  | next {d d₁ d' : SimulatedDrive} {device e es} (yields : (e.operation.procedure device).Yields e.trace e.result)
      (amid : drive.Amid Meddles d e.trace d₁) (rest : Later d₁ es d') : Later d (e :: es) d'

/-- An operation may run alone. -/
theorem Later.alone {es : List Episode} (op : Operation) (rest : Later (d.run op).drive es d') :
    Later d (Episode.alone d op :: es) d' :=
  .next (Procedure.run_yields _ _ _) (Procedure.run_path _ _ _).amid rest

theorem answer_disabled {range : UInt8} {request : Request} (disabled : d.vault.Disabled range)
    (quiet : ¬ request.Enables range) : (d.answer request).2.vault.Disabled range := by
  rcases (d.answer_answered request).vault_cases with same | effect
  · rw [same]
    exact disabled
  · exact disabled.effect effect quiet

/-- A disabled range is read without a read lock, or not read at all. -/
theorem answer_readLock (disabled : d.vault.Disabled segment.toUInt8) :
    (d.answer (readRequest segment key)).1.reading.readLock = 0 := by
  unfold answer
  dsimp only
  split
  · rfl
  · split
    · rfl
    · split
      · next performs => exact Vault.Disabled.readLock_eq disabled rfl performs
      · rfl

/-- Such a reading is never what verifying asks for. -/
theorem mismatches_of_readLock {g : Geometry} {reading : RangeReading} {want : Expectations}
    (off : reading.readLock = 0) : (Attributes.ofReading g reading).mismatches want ≠ [] := by
  intro none
  exact (Attributes.mismatches_ofReading_eq_nil_iff.1 none).1.1 off

/-- One operation on a drive with a disabled range: unless it provisions the segment, the range stays disabled, and
unless it stops before, verifying the segment fails. -/
theorem Later.step {device : String} {e : Episode} (yields : (e.operation.procedure device).Yields e.trace e.result)
    (amid : drive.Amid Meddles d e.trace d') (inRange : checkSegment segment = .ok ())
    (other : ∀ p, e.operation = .setup p → p.segment ≠ segment) (disabled : d.vault.Disabled segment.toUInt8) :
    d'.vault.Disabled segment.toUInt8 ∧
      ∀ key want, e.operation = .verify segment key want → ∃ failure, e.result = .error failure := by
  have serves := amid.serves
  have stable : ∀ s s₁ : SimulatedDrive, s.vault.Disabled segment.toUInt8 → Meddles s s₁ →
      s₁.vault.Disabled segment.toUInt8 := fun _ _ off same => same.symm ▸ off
  obtain ⟨op, t, r⟩ := e
  dsimp only at yields serves other
  generalize calls : t.exchanges = xs at serves
  rcases Operation.procedure_course yields with ⟨quiet, failed⟩ | ⟨valid, course⟩
  · rw [calls] at quiet
    subst quiet
    exact ⟨serves.done (P := fun s => s.vault.Disabled segment.toUInt8) steady stable disabled, fun _ _ _ => failed⟩
  · rw [calls] at course
    refine ⟨(serves.strengthen steady (P := (·.vault.Disabled segment.toUInt8))
      (fun s x mem off => answer_disabled off (course.not_enables valid inRange other mem)) stable disabled).2, ?_⟩
    rintro key want rfl
    cases course with
    | verify course =>
      cases course with
      | unusable _ fails | refused _ _ fails =>
        obtain ⟨failure, rfl, -⟩ := fails
        exact ⟨failure, rfl⟩
      | differed => exact ⟨_, rfl⟩
      | @matched g a _ _ same =>
        -- Whatever happened before either call, the range was disabled when it was read.
        obtain ⟨s₁, off, -, rest⟩ :=
          serves.step (P := fun s => s.vault.Disabled segment.toUInt8) steady stable disabled
        obtain ⟨s₂, off, here, -⟩ :=
          rest.step (P := fun s => s.vault.Disabled segment.toUInt8) steady stable (answer_disabled off id)
        obtain rfl : a = (s₂.answer (readRequest segment key)).1 := here
        exact absurd same (mismatches_of_readLock (answer_readLock off))

theorem Later.disabled {es : List Episode} (later : Later d es d') (inRange : checkSegment segment = .ok ())
    (others : ∀ e ∈ es, ∀ p, e.operation = .setup p → p.segment ≠ segment)
    (disabled : d.vault.Disabled segment.toUInt8) :
    d'.vault.Disabled segment.toUInt8 ∧
      ∀ e ∈ es, ∀ key want, e.operation = .verify segment key want → ∃ failure, e.result = .error failure := by
  induction later with
  | nil => exact ⟨disabled, by simp⟩
  | next yields amid _ ih =>
    obtain ⟨here, others⟩ := List.forall_mem_cons.1 others
    obtain ⟨disabled, fails⟩ := Later.step yields amid inRange here disabled
    obtain ⟨ends, behind⟩ := ih others disabled
    exact ⟨ends, List.forall_mem_cons.2 ⟨fails, behind⟩⟩

theorem Reset.disabled {range : UInt8} {word : Range → UInt32} (reset : d.Reset range word d') :
    d'.vault.Disabled range := by
  have there := reset.vault.rangeAt_eq range
  rw [if_pos rfl] at there
  exact ⟨by rw [there]; rfl, by rw [there]; rfl⟩

/-- The count of erasures is a word; unless it wraps around, it is one higher. -/
theorem Reset.erasures {range : UInt8} {word : Range → UInt32} (reset : d.Reset range word d')
    (fits : (d.vault.rangeAt range).snapshot.erasures.toNat + 1 < UInt32.size) :
    (d'.vault.rangeAt range).snapshot.erasures.toNat = (d.vault.rangeAt range).snapshot.erasures.toNat + 1 := by
  rw [reset.vault.rangeAt_eq, if_pos rfl]
  exact toNat_add_of_fits fits

/-- Two drives that were reset differ by the word of the lock state at most. -/
theorem Reset.turned {range : UInt8} {word : Range → UInt32} {constant : UInt32} {d₁ d₂ : SimulatedDrive}
    (there : range.toNat < rangeCount) (first : d.Reset range (fun _ => constant) d₁) (second : d.Reset range word d₂) :
    d₂.vault.RangeChanged range (·.turn constant) d₁.vault := by
  obtain ⟨v, turned⟩ := Vault.rangeChanged_exists (v := d₂.vault) there (·.turn constant)
  have both : d.vault.RangeChanged range (fun r => r.disabled constant) v := second.vault.trans turned
  rwa [first.vault.unique both]

/-- With Admin1's key a reset goes through, also if the drive refuses the plain erase, whatever it answers to it. Either
way the range is disabled, with its erasures counted one higher, and what the drive is left like differs by the lock
state of the range only. The range stays disabled until somebody provisions the segment: it is verified by nobody, and
never makes the drive report a locked range. -/
theorem reset_disables {status : Status} (idle : d.Idle) (opens : d.config.failOpen = false)
    (admin : d.vault.isAdmin key = true) (valid : (Operation.resetSegment segment key).check = .ok ())
    (refusal : status.classify ≠ .success) :
    let plain := d.run (.resetSegment segment key)
    let fallback := (d.inject .eraseRange status).run (.resetSegment segment key)
    plain.result = .ok .nothing ∧ fallback.result = .ok .nothing ∧
      d.Reset segment.toUInt8 (fun _ => LockState.readWrite.word) plain.drive ∧
      d.Reset segment.toUInt8 (·.snapshot.state) fallback.drive ∧
      fallback.drive.vault.RangeChanged segment.toUInt8 (·.turn LockState.readWrite.word) plain.drive.vault ∧
      (∀ before, before = (d.vault.rangeAt segment.toUInt8).snapshot.erasures.toNat → before + 1 < UInt32.size →
        ∀ left, left = plain.drive ∨ left = fallback.drive →
          (left.vault.rangeAt segment.toUInt8).snapshot.erasures.toNat = before + 1) ∧
      ∀ left es d', left = plain.drive ∨ left = fallback.drive → Later left es d' →
        (∀ e ∈ es, ∀ p, e.operation = .setup p → p.segment ≠ segment) →
          (∀ e ∈ es, ∀ key want, e.operation = .verify segment key want → ∃ failure, e.result = .error failure) ∧
            (d'.vault.flags.locked = true ↔
              ∃ other, other ≠ segment.toUInt8 ∧ Vault.isLocked (d'.vault.rangeAt other) = true) := by
  intro plain fallback
  have inRange := (checks_eq_ok valid).2
  obtain ⟨ok, reset⟩ := idle.resetSegment opens admin valid
  obtain ⟨ok', reset'⟩ := idle.resetSegment_fallback opens admin valid refusal
  refine ⟨ok, ok', reset, reset', reset.turned (toUInt8_lt_rangeCount inRange) reset', ?_, ?_⟩
  · rintro _ rfl fits left (rfl | rfl)
    · exact reset.erasures fits
    · exact reset'.erasures fits
  intro left es d' either later others
  have disabled : left.vault.Disabled segment.toUInt8 := by
    rcases either with rfl | rfl
    · exact reset.disabled
    · exact reset'.disabled
  obtain ⟨ends, fails⟩ := later.disabled inRange others disabled
  exact ⟨fails, ends.locked_flags_iff⟩

/-- A drive with one segment in use, which is reset; another segment is provisioned behind that. -/
theorem reset_disables_provisioned :
    let d := ((SimulatedDrive.new "d").run (.setup ⟨1, 0, 8, [1], [2]⟩)).drive
    let fallback := (d.inject .eraseRange .failure).run (.resetSegment 1 [2])
    let setup : Operation := .setup ⟨2, 8, 8, [3], [2]⟩
    let read : Operation := .verify 1 [1] {}
    let left := (fallback.drive.run setup).drive
    d.Idle ∧ d.config.failOpen = false ∧ d.vault.isAdmin [2] = true ∧
      (Operation.resetSegment 1 [2]).check = .ok () ∧ Status.failure.classify ≠ .success ∧
      (d.run (.resetSegment 1 [2])).result = .ok .nothing ∧ fallback.result = .ok .nothing ∧
      d.Reset 1 (·.snapshot.state) fallback.drive ∧
      Later fallback.drive [.alone fallback.drive setup, .alone left read] (left.run read).drive ∧
      (∃ failure, (left.run read).result = .error failure) ∧
      ((left.run read).drive.vault.flags.locked = true ↔
        ∃ other, other ≠ 1 ∧ Vault.isLocked ((left.run read).drive.vault.rangeAt other) = true) := by
  intro d fallback setup read left
  have idle : d.Idle := ⟨by decide +kernel, by decide +kernel⟩
  have opens : d.config.failOpen = false := by decide +kernel
  have admin : d.vault.isAdmin [2] = true := by decide +kernel
  have refusal : Status.failure.classify ≠ .success := by decide
  have later : Later fallback.drive [.alone fallback.drive setup, .alone left read] (left.run read).drive :=
    .alone setup (.alone read .nil)
  clear_value d
  have valid : (Operation.resetSegment 1 [2]).check = .ok () := rfl
  obtain ⟨ok, ok', -, reset, -, -, lasts⟩ := reset_disables idle opens admin valid refusal
  obtain ⟨fails, locked⟩ := lasts _ _ _ (.inr rfl) later (by simp [Episode.alone, setup, read])
  have refused := fails _ (.tail _ (.head _)) [1] {} rfl
  clear_value left
  exact ⟨idle, opens, admin, valid, refusal, ok, ok', reset, later, refused, locked⟩

end SimulatedDrive

end OpalLocking
