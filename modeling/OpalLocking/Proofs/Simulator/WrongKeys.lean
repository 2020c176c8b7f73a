/-
Operations that bring the wrong key.

What a drive asks of a key depends on the operation (`SimulatedDrive.TurnsDown`): the password of the segment's user,
the key of Admin1, the owner's key, or the PSID. Until a key is judged an operation makes readings only, so one that
brings the wrong key is refused with nothing changed, and it asks for nothing more (`Operation.untilRefused`). Only an
erase is asked for twice, since a drive that refuses the plain one may grant the secure one.
-/
import OpalLocking.Proofs.Simulator.EndToEnd
import OpalLocking.Proofs.Simulator.Isolation

namespace OpalLocking

open Simulator

variable {p : Provision} {segment : UInt32} {key : Secret} {d d' : SimulatedDrive} {xs : List Exchange}

/-! ## Wrong keys -/

/-- The operation brings another key than the one that the drive asks for. -/
inductive SimulatedDrive.TurnsDown (d : SimulatedDrive) : Operation → Prop
  | unlock {segment : UInt32} {key : Secret} (stranger : ¬ d.vault.Admits (Authority.ofSegment segment).who key) :
      TurnsDown d (.unlock segment key)
  | verify {segment : UInt32} {key : Secret} {want}
      (stranger : ¬ d.vault.Admits (Authority.ofSegment segment).who key) : TurnsDown d (.verify segment key want)
  | factoryReset {psid} (other : psid ≠ d.config.psid) : TurnsDown d (.factoryReset psid)
  | resetSegment {segment : UInt32} {key : Secret} (enabled : d.vault.lockingEnabled = true)
      (other : d.vault.admin ≠ some key) : TurnsDown d (.resetSegment segment key)
  | setupInUse {p : Provision} (enabled : d.vault.lockingEnabled = true) (other : d.vault.admin ≠ some p.adminKey) :
      TurnsDown d (.setup p)
  | setupOwned {p : Provision} {owner} (disabled : d.vault.lockingEnabled = false) (owned : d.vault.owner = some owner)
      (other : owner ≠ p.adminKey) : TurnsDown d (.setup p)

/-! ## What is asked for -/

/-- Both erases of a range, as Admin1. -/
def erasePair (range : UInt8) (key : Secret) : List Request :=
  [.eraseRange (adminSession range key), .secureEraseRange (adminSession range key)]

/-- The calls of an operation up to the one that its key is refused at. -/
def Operation.untilRefused (enabled : Bool) : Operation → List Request
  | .setup p =>
    [.getStatus default, .getGeometry default] ++
      if enabled then erasePair p.range p.adminKey else [.takeOwnership (.fill 0 p.adminKey)]
  | .setLock segment locked key => [.getStatus default, .lockUnlock (lockOperationRequest segment locked key)]
  | .verify segment key _ => [.getGeometry default, readRequest segment key]
  | .resetSegment segment key => .getStatus default :: erasePair segment.toUInt8 key
  | .factoryReset psid => [.psidRevert (.fill 0 psid)]
  | .flags | .supported | .lockingEnabled => [.getStatus default]
  | .geometry => [.getGeometry default]

/-- An operation asked for all it could ask for, was granted readings only, and failed for lack of authority. -/
structure Operation.TurnedDown (op : Operation) (enabled : Bool) (xs : List Exchange) (r : Except Error Value) :
    Prop where
  requests : xs.map (·.request) = op.untilRefused enabled
  readings : ∀ x ∈ xs, x.Accepted → x.request.Reads
  unauthorized : FailsAs r .unauthorized

/-! ## One operation after the other -/

section

variable (idle : d.Idle) (serves : SimulatedDrive.drive.Serves nobody d xs d')
include idle serves

theorem LockCourse.turnedDown {r : Except Error Unit} (course : LockCourse segment false (some key) xs r)
    (valid : checkSegment segment = .ok ()) (keyed : checkKey .user key = .ok ())
    (stranger : ¬ d.vault.Admits (Authority.ofSegment segment).who key) :
    (Operation.unlock segment key).TurnedDown d.vault.lockingEnabled xs (r.map fun _ => .nothing) := by
  have refuses := Vault.perform?_unlock_of_not_admits (c := d.config) valid keyed stranger
  cases course with
  | unsupported why =>
    obtain ⟨rfl, -⟩ := idle.step_getStatus serves
    rcases why with system | unsupported
    · cases system
    · rw [Vault.supported_flags] at unsupported
      cases unsupported
  | refused _ _ fails =>
    obtain ⟨-, serves⟩ := idle.step_getStatus serves
    obtain ⟨rfl, -⟩ := SimulatedDrive.Idle.step_of_performs idle.behind refuses serves
    exact ⟨rfl, by simp [Exchange.Accepted, Exchange.status, Request.Reads, refused_of_notAuthorized],
      failsAs_map.2 fails⟩
  | locked _ direction => cases direction
  | unlocked _ _ _ accepted =>
    obtain ⟨-, serves⟩ := idle.step_getStatus serves
    obtain ⟨rfl, -⟩ := SimulatedDrive.Idle.step_of_performs idle.behind refuses serves
    exact absurd accepted refused_of_notAuthorized

theorem VerifyCourse.turnedDown {want : Expectations} {r : Except Error Attributes}
    (course : VerifyCourse segment key want xs r) (sized : d.config.geometry.blockSize ≠ 0)
    (valid : checkSegment segment = .ok ()) (keyed : checkKey .user key = .ok ())
    (stranger : ¬ d.vault.Admits (Authority.ofSegment segment).who key) :
    (Operation.verify segment key want).TurnedDown d.vault.lockingEnabled xs (r.map .attributes) := by
  have refuses := Vault.perform?_readRequest_of_not_admits (c := d.config) valid keyed stranger
  cases course with
  | unusable why =>
    obtain ⟨rfl, -⟩ := idle.step_getGeometry serves
    exact absurd ⟨rfl, sized⟩ why
  | refused _ _ fails =>
    obtain ⟨-, serves⟩ := idle.step_getGeometry serves
    obtain ⟨rfl, -⟩ := SimulatedDrive.Idle.step_of_performs idle.behind refuses serves
    exact ⟨rfl, by simp [Request.Reads], failsAs_map.2 fails⟩
  | matched _ accepted | differed _ accepted =>
    obtain ⟨-, serves⟩ := idle.step_getGeometry serves
    obtain ⟨rfl, -⟩ := SimulatedDrive.Idle.step_of_performs idle.behind refuses serves
    exact absurd accepted refused_of_notAuthorized

theorem RevertCourse.turnedDown {psid : Secret} {r : Except Error Unit} (course : RevertCourse psid xs r)
    (keyed : checkKey .psid psid = .ok ()) (other : psid ≠ d.config.psid) :
    (Operation.factoryReset psid).TurnedDown d.vault.lockingEnabled xs (r.map fun _ => .nothing) := by
  have refuses := Vault.perform?_psidRevert_of_ne (v := d.vault) (length_le_of_checkKey keyed) other
  cases course with
  | reverted accepted =>
    obtain ⟨rfl, -⟩ := idle.step_of_performs refuses serves
    exact absurd accepted refused_of_notAuthorized
  | refused _ fails =>
    obtain ⟨rfl, -⟩ := idle.step_of_performs refuses serves
    exact ⟨rfl, by simp [Exchange.Accepted, Exchange.status, refused_of_notAuthorized], failsAs_map.2 fails⟩

theorem ResetCourse.turnedDown {r : Except Error Unit} (course : ResetCourse segment key xs r)
    (keyed : checkKey .adminPassword key = .ok ()) (enabled : d.vault.lockingEnabled = true)
    (other : d.vault.admin ≠ some key) :
    (Operation.resetSegment segment key).TurnedDown d.vault.lockingEnabled xs (r.map fun _ => .nothing) := by
  have notAdmin := Vault.isAdmin_eq_false other
  obtain ⟨plain, secure⟩ :=
    Vault.perform?_erase_of_not_isAdmin (c := d.config) segment.toUInt8 (length_le_of_checkKey keyed) notAdmin
  cases course with
  | unreadable system =>
    obtain ⟨rfl, -⟩ := idle.step_getStatus serves
    cases system
  | notEnabled _ disabled =>
    obtain ⟨rfl, -⟩ := idle.step_getStatus serves
    rw [Vault.lockingEnabled_flags, enabled] at disabled
    cases disabled
  | erased _ accepted =>
    obtain ⟨-, asked⟩ := idle.step_getStatus serves
    obtain ⟨rfl, -⟩ := SimulatedDrive.Idle.step_of_performs idle.behind plain asked
    exact absurd accepted refused_of_notAuthorized
  | refused _ _ _ fails =>
    obtain ⟨-, asked⟩ := idle.step_getStatus serves
    obtain ⟨rfl, rest⟩ := SimulatedDrive.Idle.step_of_performs idle.behind plain asked
    obtain ⟨rfl, -⟩ := SimulatedDrive.Idle.step_of_performs idle.behind.behind secure rest
    exact ⟨rfl, by simp [Exchange.Accepted, Exchange.status, Request.Reads, refused_of_notAuthorized],
      failsAs_map.2 fails⟩
  | disabled _ _ accepted =>
    obtain ⟨-, asked⟩ := idle.step_getStatus serves
    obtain ⟨rfl, rest⟩ := SimulatedDrive.Idle.step_of_performs idle.behind plain asked
    obtain ⟨rfl, -⟩ := SimulatedDrive.Idle.step_of_performs idle.behind.behind secure rest
    exact absurd accepted refused_of_notAuthorized

/-- Without Admin1's key a plan for a drive in use ends with both erases. -/
theorem Provision.PlanRun.erases_refused {bounds : BlockBounds} {erasure : Erasure} {r : Except Error Unit}
    (run : p.PlanRun true erasure bounds xs r) (short : p.adminKey.length ≤ maxKeyLength)
    (notAdmin : d.vault.isAdmin p.adminKey = false) :
    xs.map (·.request) = erasePair p.range p.adminKey ∧ (∀ x ∈ xs, ¬ x.Accepted) ∧ FailsAs r .unauthorized := by
  obtain ⟨plain, secure⟩ :=
    Vault.perform?_erase_of_not_isAdmin (c := d.config) p.range short notAdmin
  obtain ⟨stop, follows⟩ := run.follows
  -- A plan with a plain erase only is for a drive that accepts it.
  cases erasure with
  | plain =>
    obtain ⟨a, ys, rfl, -⟩ := follows.cons_inv
    obtain ⟨rfl, -⟩ := idle.step_of_performs plain serves
    exact absurd ((run.erasing _ (.head _) rfl).2 rfl) refused_of_notAuthorized
  | secure =>
    obtain ⟨a, ys, rfl, ⟨-, follows⟩ | ⟨stops, -⟩⟩ := follows.cons_inv
    · obtain ⟨b, zs, rfl, last⟩ := follows.cons_inv
      obtain ⟨rfl, rest⟩ := idle.step_of_performs plain serves
      obtain ⟨rfl, -⟩ := SimulatedDrive.Idle.step_of_performs idle.behind secure rest
      rcases last with ⟨passes, -⟩ | ⟨stops, rfl, -⟩
      · exact absurd passes refused_of_notAuthorized
      · exact ⟨rfl, by simp [Exchange.Accepted, Exchange.status, refused_of_notAuthorized],
          run.failure _ rfl stops⟩
    · exact absurd trivial stops

/-- On a drive that is somebody else's, a plan to take it over ends with the attempt. -/
theorem Provision.PlanRun.takeOwnership_refused {bounds : BlockBounds} {erasure : Erasure} {r : Except Error Unit}
    {owner : Secret} (run : p.PlanRun false erasure bounds xs r) (short : p.adminKey.length ≤ maxKeyLength)
    (owned : d.vault.owner = some owner) (other : owner ≠ p.adminKey) :
    xs.map (·.request) = [.takeOwnership (.fill 0 p.adminKey)] ∧ (∀ x ∈ xs, ¬ x.Accepted) ∧
      FailsAs r .unauthorized := by
  have refuses := Vault.perform?_takeOwnership_of_ne (c := d.config) short owned other
  obtain ⟨stop, follows⟩ := run.follows
  obtain ⟨a, ys, rfl, last⟩ := follows.cons_inv
  obtain ⟨rfl, -⟩ := idle.step_of_performs refuses serves
  rcases last with ⟨passes, -⟩ | ⟨stops, rfl, -⟩
  · exact absurd passes refused_of_notAuthorized
  · exact ⟨rfl, by simp [Exchange.Accepted, Exchange.status, refused_of_notAuthorized], run.failure _ rfl stops⟩

/-- Provisioning asks for the feature word and the geometry, and then follows the plan for the drive as it is. -/
theorem Provision.Course.planned_of_idle {r : Except Error Unit} (course : p.Course xs r)
    (whole : p.WholeBlocks d.config.geometry.blockSize) :
    ∃ (a : Answer (.getStatus default)) (g : Answer (.getGeometry default)) (ys : List Exchange)
      (erasure : Erasure) (bounds : BlockBounds) (d₁ : SimulatedDrive),
      xs = ⟨_, a⟩ :: ⟨_, g⟩ :: ys ∧ d₁.Idle ∧ d₁.vault = d.vault ∧
        SimulatedDrive.drive.Serves nobody d₁ ys d' ∧ p.PlanRun d.vault.lockingEnabled erasure bounds ys r := by
  cases course with
  | unreadable system =>
    obtain ⟨rfl, -⟩ := idle.step_getStatus serves
    cases system
  | unfit _ why =>
    obtain ⟨-, asked⟩ := idle.step_getStatus serves
    obtain ⟨rfl, -⟩ := SimulatedDrive.Idle.step_getGeometry idle.behind asked
    obtain ⟨bounds, start, length⟩ := Provision.wholeBlocks_iff (g := .ofReading d.config.geometry) |>.2 whole
    exact absurd ⟨⟨rfl, whole.sized⟩, start, length⟩ (why bounds)
  | @planned a g bounds erasure ys _ _ _ run =>
    obtain ⟨rfl, asked⟩ := idle.step_getStatus serves
    obtain ⟨-, rest⟩ := SimulatedDrive.Idle.step_getGeometry idle.behind asked
    rw [Vault.lockingEnabled_flags] at run
    exact ⟨_, g, ys, erasure, bounds, _, rfl, idle.behind.behind, rfl, rest, run⟩

theorem Provision.Course.turnedDown {r : Except Error Unit} (course : p.Course xs r) (valid : p.check = .ok ())
    (whole : p.WholeBlocks d.config.geometry.blockSize) (turnsDown : d.TurnsDown (.setup p)) :
    (Operation.setup p).TurnedDown d.vault.lockingEnabled xs (r.map fun _ => .nothing) := by
  have short := length_le_of_checkKey (check_eq_ok valid).1
  obtain ⟨a, g, ys, erasure, bounds, d₁, rfl, idle, same, rest, run⟩ := course.planned_of_idle idle serves whole
  have readings (refused : ∀ x ∈ ys, ¬ x.Accepted) :
      ∀ x ∈ ⟨.getStatus default, a⟩ :: ⟨.getGeometry default, g⟩ :: ys, x.Accepted → x.request.Reads := by
    refine List.forall_mem_cons.2 ⟨fun _ => trivial, List.forall_mem_cons.2 ⟨fun _ => trivial, ?_⟩⟩
    exact fun x mem accepted => absurd accepted (refused x mem)
  cases turnsDown with
  | setupInUse enabled other =>
    have notAdmin : d₁.vault.isAdmin p.adminKey = false := by
      rw [same]
      exact Vault.isAdmin_eq_false other
    rw [enabled] at run ⊢
    obtain ⟨requests, refused, fails⟩ := run.erases_refused idle rest short notAdmin
    exact ⟨congrArg (_ :: _ :: ·) requests, readings refused, failsAs_map.2 fails⟩
  | setupOwned disabled owned other =>
    rw [disabled] at run ⊢
    obtain ⟨requests, refused, fails⟩ := run.takeOwnership_refused idle rest short (same ▸ owned) other
    exact ⟨congrArg (_ :: _ :: ·) requests, readings refused, failsAs_map.2 fails⟩

/-- An operation whose key the drive does not take is refused, and only readings were accepted before. -/
theorem Operation.Course.turnedDown {op : Operation} {r : Except Error Value} (course : op.Course xs r)
    (valid : op.check = .ok ()) (sized : d.config.geometry.blockSize ≠ 0)
    (whole : ∀ p, op = .setup p → p.WholeBlocks d.config.geometry.blockSize) (turnsDown : d.TurnsDown op) :
    op.TurnedDown d.vault.lockingEnabled xs r := by
  cases course with
  | setup course => exact course.turnedDown idle serves valid (whole _ rfl) turnsDown
  | setLock course =>
    cases turnsDown with
    | unlock stranger =>
      obtain ⟨segment, keyed⟩ := check_setLock valid
      exact course.turnedDown idle serves segment keyed stranger
  | verify course =>
    cases turnsDown with
    | verify stranger =>
      obtain ⟨keyed, segment⟩ := checks_eq_ok valid
      exact course.turnedDown idle serves sized segment keyed stranger
  | resetSegment course =>
    cases turnsDown with
    | resetSegment enabled other => exact course.turnedDown idle serves (checks_eq_ok valid).1 enabled other
  | factoryReset course =>
    cases turnsDown with
    | factoryReset other => exact course.turnedDown idle serves valid other
  | flags | supported | lockingEnabled | geometry => cases turnsDown

/-! ## Nothing is changed -/

/-- A drive that accepted readings only is the same but for the calls that it remembers. -/
theorem SimulatedDrive.Idle.unmoved (readings : ∀ x ∈ xs, x.Accepted → x.request.Reads) :
    d' = { d with calls := d.calls ++ (xs.map (·.request)).map CallRecord.ofRequest } := by
  induction xs generalizing d with
  | nil =>
    obtain rfl := serves.done_alone SimulatedDrive.steady
    simp
  | cons x xs ih =>
    obtain ⟨here, readings⟩ := List.forall_mem_cons.1 readings
    obtain ⟨v, settles, rest⟩ := idle.step serves
    obtain rfl : v = d.vault := by
      rcases settles with ⟨accepted, effect⟩ | ⟨-, same⟩
      · exact effect.eq_of_reads (here accepted)
      · exact same
    rw [ih idle.behind rest readings]
    simp [SimulatedDrive.behind]

end

/-- Whoever brings the wrong key is unauthorized and changes nothing: the drive remembers the calls up to the refusal,
and those are all that were made. -/
theorem wrong_key_unauthorized {op : Operation} (idle : d.Idle) (opens : d.config.failOpen = false)
    (sized : d.config.geometry.blockSize ≠ 0) (valid : op.check = .ok ())
    (whole : ∀ p, op = .setup p → p.WholeBlocks d.config.geometry.blockSize) (turnsDown : d.TurnsDown op) :
    FailsAs (d.run op).result .unauthorized ∧
      (d.run op).trace.requests = op.untilRefused d.vault.lockingEnabled ∧
      (d.run op).drive = { d with
        calls := d.calls ++ (op.untilRefused d.vault.lockingEnabled).map CallRecord.ofRequest } := by
  have serves := d.run_serves op
  have turnedDown := (d.run_course op valid opens).turnedDown idle serves valid sized whole turnsDown
  rw [Trace.requests_eq, turnedDown.requests]
  refine ⟨turnedDown.unauthorized, rfl, ?_⟩
  rw [idle.unmoved serves turnedDown.readings, turnedDown.requests]

/-- Provisioning a second segment of a drive in use, with the key of the first segment for Admin1's. -/
theorem wrong_key_unauthorized_setup :
    let p : Provision := ⟨2, 8, 8, [3], [1]⟩
    let d := ((SimulatedDrive.new "d").run (.setup ⟨1, 0, 8, [1], [2]⟩)).drive
    let calls := [Request.getStatus default, .getGeometry default, .eraseRange (adminSession 2 [1]),
      .secureEraseRange (adminSession 2 [1])]
    d.Idle ∧ d.config.failOpen = false ∧ d.config.geometry.blockSize ≠ 0 ∧ (Operation.setup p).check = .ok () ∧
      p.WholeBlocks d.config.geometry.blockSize ∧ d.TurnsDown (.setup p) ∧
      FailsAs (d.run (.setup p)).result .unauthorized ∧
      (d.run (.setup p)).trace.requests = calls ∧
      (d.run (.setup p)).drive = { d with calls := d.calls ++ calls.map CallRecord.ofRequest } := by
  intro p d calls
  have idle : d.Idle := ⟨by decide +kernel, by decide +kernel⟩
  have opens : d.config.failOpen = false := by decide +kernel
  have size : d.config.geometry.blockSize = 512 := by decide +kernel
  have enabled : d.vault.lockingEnabled = true := by decide +kernel
  have other : d.vault.admin ≠ some p.adminKey := by decide +kernel
  clear_value d
  have sized : d.config.geometry.blockSize ≠ 0 := by rw [size]; decide
  have whole : p.WholeBlocks d.config.geometry.blockSize := by
    rw [size]
    exact ⟨by decide, by decide, by decide, by decide, by decide⟩
  have turnsDown : d.TurnsDown (.setup p) := .setupInUse enabled other
  have valid : (Operation.setup p).check = .ok () := rfl
  obtain ⟨fails, requests, left⟩ := wrong_key_unauthorized idle opens sized valid
    (fun _ same => Operation.setup.inj same ▸ whole) turnsDown
  rw [enabled] at requests left
  exact ⟨idle, opens, sized, valid, whole, turnsDown, fails, requests, left⟩

end OpalLocking
