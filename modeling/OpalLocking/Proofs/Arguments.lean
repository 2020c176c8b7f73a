/-
What is known of arguments that passed their checks.
-/
import OpalLocking.Proofs.Operations
import OpalLocking.Simulator.Vault

namespace OpalLocking

open Simulator

theorem checkSegment_eq_ok_iff {segment : UInt32} : checkSegment segment = .ok () ↔ 1 ≤ segment ∧ segment ≤ 8 := by
  unfold checkSegment firstSegment lastSegment
  split <;> simp_all

/-- Keys are judged alike, whatever they are for. -/
theorem checkKey_eq_ok_iff {role : KeyRole} {key : Secret} :
    checkKey role key = .ok () ↔ key.isEmpty = false ∧ key.length ≤ maxKeyLength := by
  unfold checkKey
  split <;> try split
  all_goals simp_all

theorem length_le_of_checkKey {role : KeyRole} {key : Secret} (h : checkKey role key = .ok ()) :
    key.length ≤ maxKeyLength :=
  (checkKey_eq_ok_iff.1 h).2

theorem isEmpty_of_checkKey {role : KeyRole} {key : Secret} (h : checkKey role key = .ok ()) : key.isEmpty = false :=
  (checkKey_eq_ok_iff.1 h).1

/-- Checks made one after the other all have to pass. -/
theorem checks_eq_ok {first : Except Error Unit} {second : Unit → Except Error Unit}
    (h : (first >>= second) = .ok ()) : first = .ok () ∧ second () = .ok () := by
  cases first with
  | ok => exact ⟨rfl, h⟩
  | error e => cases h

theorem checks_ok {first : Except Error Unit} {second : Unit → Except Error Unit} (passed : first = .ok ())
    (rest : second () = .ok ()) : (first >>= second) = .ok () := by
  rw [passed]
  exact rest

theorem Provision.check_eq_ok {p : Provision} (h : p.check = .ok ()) :
    checkKey .admin p.adminKey = .ok () ∧ checkKey .volume p.volumeKey = .ok () ∧
      checkSegment p.segment = .ok () := by
  obtain ⟨admin, rest⟩ := checks_eq_ok h
  obtain ⟨volume, rest⟩ := checks_eq_ok rest
  obtain ⟨segment, -⟩ := checks_eq_ok rest
  exact ⟨admin, volume, segment⟩

theorem Operation.check_setLock {segment : UInt32} {locked : Bool} {key : Option Secret}
    (h : (Operation.setLock segment locked key).check = .ok ()) :
    checkSegment segment = .ok () ∧ checkLockKey locked key = .ok () :=
  checks_eq_ok h

theorem Operation.check_lock {segment : UInt32} (valid : checkSegment segment = .ok ()) :
    (Operation.lock segment).check = .ok () :=
  checks_ok valid rfl

theorem Operation.check_unlock {segment : UInt32} {key : Secret} (valid : checkSegment segment = .ok ())
    (keyed : checkKey .user key = .ok ()) : (Operation.unlock segment key).check = .ok () :=
  checks_ok valid keyed

theorem Operation.check_verify {segment : UInt32} {key : Secret} {want : Expectations}
    (valid : checkSegment segment = .ok ()) (keyed : checkKey .user key = .ok ()) :
    (Operation.verify segment key want).check = .ok () :=
  checks_ok keyed valid

theorem Operation.checkSegment_of_check {op : Operation} {segment : UInt32} (valid : op.check = .ok ())
    (about : op.segment? = some segment) : checkSegment segment = .ok () := by
  cases op with
  | setup p =>
    cases about
    exact (Provision.check_eq_ok valid).2.2
  | setLock =>
    cases about
    exact (check_setLock valid).1
  | verify | resetSegment =>
    cases about
    exact (checks_eq_ok valid).2
  | factoryReset | flags | supported | lockingEnabled | geometry => cases about

/-- The user of a segment that is handed out. -/
theorem isUser_ofSegment {segment : UInt32} (valid : checkSegment segment = .ok ()) :
    Vault.isUser (Authority.ofSegment segment).who = true := by
  obtain ⟨least, most⟩ := checkSegment_eq_ok_iff.1 valid
  have least : 1 ≤ segment.toNat := UInt32.le_iff_toNat_le.1 least
  have most : segment.toNat ≤ 8 := UInt32.le_iff_toNat_le.1 most
  have next : (segment + 1).toNat = segment.toNat + 1 := by
    rw [UInt32.toNat_add]
    simp
    omega
  simp only [Vault.isUser, Authority.ofSegment, Authority.who, Authority.lastUser, Bool.and_eq_true,
    decide_eq_true_eq, UInt32.le_iff_toNat_le, next]
  simp
  omega

theorem who_ofSegment_inj {segment other : UInt32}
    (h : (Authority.ofSegment segment).who = (Authority.ofSegment other).who) : segment = other := by
  simpa [Authority.ofSegment, Authority.who] using h

theorem toUInt32_toUInt8 {segment : UInt32} (valid : checkSegment segment = .ok ()) :
    segment.toUInt8.toUInt32 = segment := by
  obtain ⟨least, most⟩ := checkSegment_eq_ok_iff.1 valid
  have most : segment.toNat ≤ 8 := UInt32.le_iff_toNat_le.1 most
  rw [← UInt32.toNat_inj]
  simp
  omega

end OpalLocking
