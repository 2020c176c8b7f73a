/-
What a call leaves alone.

A call that is about one segment (`Request.Confined`) reaches nothing of the others (`Vault.Effect.spares`). Whoever
owns the drive keeps it until it is reverted, and has one key for everything (`Vault.OneOwner`).
-/
import OpalLocking.Proofs.Simulator.Tenancy

namespace OpalLocking

open Simulator

namespace Request

/-- Asks for no change of a range or a user but those of this segment; and not for a revert of the whole drive. -/
def Confined (segment : UInt32) : Request → Prop
  | .setPassword change => change.user.who = (Authority.ofSegment segment).who
  | .activateUser session => session.who = (Authority.ofSegment segment).who
  | .setupRange setup => setup.session.key.range = segment.toUInt8
  | .addUserToRange grant =>
    grant.session.key.range = segment.toUInt8 ∧ grant.session.who = (Authority.ofSegment segment).who
  | .eraseRange session | .secureEraseRange session => session.key.range = segment.toUInt8
  | .lockUnlock lock => lock.session.key.range = segment.toUInt8
  | .saveForResume lock =>
    lock.session.key.range = segment.toUInt8 ∧ lock.session.who = (Authority.ofSegment segment).who
  | .psidRevert _ => False
  | .takeOwnership _ | .activateLsp _ | .getStatus _ | .getGeometry _ | .getRangeStatus _ _ => True

end Request

namespace Simulator

variable {c : Config} {v v' : Vault} {request : Request} {segment other : UInt32}

namespace Vault

/-! ## Other segments -/

/-- What belongs to other segments is the same in both vaults: all other ranges and users, and what others are granted
on the range of this one. -/
structure Spares (segment : UInt32) (v v' : Vault) : Prop where
  users : ∀ who, who ≠ (Authority.ofSegment segment).who → v'.userAt who = v.userAt who
  ranges : ∀ range, range ≠ segment.toUInt8 → v'.rangeAt range = v.rangeAt range
  readGrants : ∀ who : UInt32, who ≠ (Authority.ofSegment segment).who →
    (v'.rangeAt segment.toUInt8).readGrants[who.toNat]? = (v.rangeAt segment.toUInt8).readGrants[who.toNat]?
  writeGrants : ∀ who : UInt32, who ≠ (Authority.ofSegment segment).who →
    (v'.rangeAt segment.toUInt8).writeGrants[who.toNat]? = (v.rangeAt segment.toUInt8).writeGrants[who.toNat]?

namespace Spares

theorem refl (segment : UInt32) (v : Vault) : v.Spares segment v :=
  ⟨fun _ _ => rfl, fun _ _ => rfl, fun _ _ => rfl, fun _ _ => rfl⟩

theorem trans {v'' : Vault} (first : v.Spares segment v') (second : v'.Spares segment v'') : v.Spares segment v'' :=
  ⟨fun who ne => (second.users who ne).trans (first.users who ne),
    fun range ne => (second.ranges range ne).trans (first.ranges range ne),
    fun who ne => (second.readGrants who ne).trans (first.readGrants who ne),
    fun who ne => (second.writeGrants who ne).trans (first.writeGrants who ne)⟩

/-- Two vaults with the same users and ranges. -/
theorem of_tables (users : v'.users = v.users) (ranges : v'.ranges = v.ranges) : v.Spares segment v' := by
  have sameUsers : ∀ who, v'.userAt who = v.userAt who := fun who => by rw [userAt, userAt, users]
  have sameRanges : ∀ range, v'.rangeAt range = v.rangeAt range := fun range => by rw [rangeAt, rangeAt, ranges]
  exact ⟨fun who _ => sameUsers who, fun range _ => sameRanges range, fun _ _ => by rw [sameRanges],
    fun _ _ => by rw [sameRanges]⟩

theorem of_userChanged {change : User → User} (h : v.UserChanged (Authority.ofSegment segment).who change v') :
    v.Spares segment v' where
  users who ne := by rw [h.userAt_eq, if_neg ne]
  ranges range _ := by rw [h.rangeAt_eq]
  readGrants who _ := by rw [h.rangeAt_eq]
  writeGrants who _ := by rw [h.rangeAt_eq]

theorem of_rangeChanged {change : Range → Range} (h : v.RangeChanged segment.toUInt8 change v')
    (reads : ∀ who : UInt32, who ≠ (Authority.ofSegment segment).who →
      (change (v.rangeAt segment.toUInt8)).readGrants[who.toNat]? =
        (v.rangeAt segment.toUInt8).readGrants[who.toNat]?)
    (writes : ∀ who : UInt32, who ≠ (Authority.ofSegment segment).who →
      (change (v.rangeAt segment.toUInt8)).writeGrants[who.toNat]? =
        (v.rangeAt segment.toUInt8).writeGrants[who.toNat]?) : v.Spares segment v' where
  users who _ := by rw [h.userAt_eq]
  ranges range ne := by rw [h.rangeAt_eq, if_neg ne]
  readGrants who ne := by rw [h.rangeAt_eq, if_pos rfl, reads who ne]
  writeGrants who ne := by rw [h.rangeAt_eq, if_pos rfl, writes who ne]

theorem tenancy_eq (spares : v.Spares segment v') (range : other.toUInt8 ≠ segment.toUInt8) (ne : other ≠ segment) :
    v'.tenancy other = v.tenancy other := by
  have user : (Authority.ofSegment other).who ≠ (Authority.ofSegment segment).who := fun same =>
    ne (who_ofSegment_inj same)
  rw [tenancy, tenancy, spares.users _ user, spares.ranges _ range]

end Spares

/-- A call about one segment reaches nothing of the others. -/
theorem Effect.spares (effect : Effect c v request v') (confined : request.Confined segment) :
    v.Spares segment v' := by
  cases effect with
  | takeOwnership | keepOwnership | activateLsp | setAdminPassword | ignoreLock | getStatus | getGeometry
  | getRangeStatus => exact .of_tables rfl rfl
  | setUserPassword _ _ _ changed | activateUser _ _ changed =>
    rw [show _ = (Authority.ofSegment segment).who from confined] at changed
    exact .of_userChanged changed
  | setupRange _ _ changed | eraseRange _ _ changed | secureEraseRange _ _ changed | lockUnlock _ _ _ _ _ _ changed =>
    rw [show _ = segment.toUInt8 from confined] at changed
    exact .of_rangeChanged changed (fun _ _ => rfl) (fun _ _ => rfl)
  | saveForResume changed =>
    rw [confined.1] at changed
    exact .of_rangeChanged changed (fun _ _ => rfl) (fun _ _ => rfl)
  | grantRead _ _ _ there granted changed =>
    obtain ⟨range, who⟩ := confined
    rw [range] at there changed
    rw [who] at granted
    refine .of_rangeChanged changed (fun other ne => ?_) fun _ _ => rfl
    rw [rangeAt_of_getElem? there]
    exact getElem?_of_modify?_of_ne granted fun same => ne (UInt32.toNat_inj.1 same)
  | grantWrite _ _ _ there granted changed =>
    obtain ⟨range, who⟩ := confined
    rw [range] at there changed
    rw [who] at granted
    refine .of_rangeChanged changed (fun _ _ => rfl) fun other ne => ?_
    rw [rangeAt_of_getElem? there]
    exact getElem?_of_modify?_of_ne granted fun same => ne (UInt32.toNat_inj.1 same)
  | psidRevert => exact confined.elim

/-- Segments that are handed out differ in their ranges, too. -/
theorem toUInt8_ne (valid : checkSegment segment = .ok ()) (validOther : checkSegment other = .ok ())
    (ne : other ≠ segment) : other.toUInt8 ≠ segment.toUInt8 := by
  intro same
  apply ne
  rw [← toUInt32_toUInt8 valid, ← toUInt32_toUInt8 validOther, same]

theorem Effect.tenancy_eq (effect : Effect c v request v') (confined : request.Confined segment)
    (valid : checkSegment segment = .ok ()) (validOther : checkSegment other = .ok ()) (ne : other ≠ segment) :
    v'.tenancy other = v.tenancy other :=
  (effect.spares confined).tenancy_eq (toUInt8_ne valid validOther ne) ne

/-! ## Owner and administrator -/

/-- A call about one segment leaves the keys of the drive as they are, makes the first owner, or makes the owner its
administrator. -/
theorem Effect.keys_cases (effect : Effect c v request v') (confined : request.Confined segment)
    (valid : checkSegment segment = .ok ()) :
    (v'.owner = v.owner ∧ v'.admin = v.admin ∧ v'.lockingEnabled = v.lockingEnabled) ∨
      (∃ key, request = .takeOwnership key ∧ v.owner = none ∧ v' = { v with owner := some key.content }) ∨
      ∃ activation, request = .activateLsp activation ∧ v.owner = some activation.key.content ∧
        v' = { v with admin := some activation.key.content, lockingEnabled := true } := by
  cases effect with
  | takeOwnership free => exact .inr (.inl ⟨_, rfl, free, rfl⟩)
  | activateLsp _ owner => exact .inr (.inr ⟨_, rfl, owner, rfl⟩)
  | keepOwnership | ignoreLock | getStatus | getGeometry | getRangeStatus => exact .inl ⟨rfl, rfl, rfl⟩
  | setUserPassword _ _ _ changed | activateUser _ _ changed =>
    obtain ⟨users, -, rfl⟩ := changed
    exact .inl ⟨rfl, rfl, rfl⟩
  | setupRange _ _ changed | eraseRange _ _ changed | secureEraseRange _ _ changed | lockUnlock _ _ _ _ _ _ changed
  | grantRead _ _ _ _ _ changed | grantWrite _ _ _ _ _ changed | saveForResume changed =>
    obtain ⟨ranges, -, rfl⟩ := changed
    exact .inl ⟨rfl, rfl, rfl⟩
  | setAdminPassword _ _ target =>
    -- The user of a segment is not the administrator.
    have user := isUser_ofSegment valid
    rw [← show _ = (Authority.ofSegment segment).who from confined, target] at user
    cases user
  | psidRevert => exact confined.elim

/-- Once locking is enabled, the administrator's key is the owner's. -/
def OneOwner (v : Vault) : Prop :=
  v.lockingEnabled = true → ∃ key, v.owner = some key ∧ v.admin = some key

theorem OneOwner.isAdmin (one : v.OneOwner) {key : Secret} (enabled : v.lockingEnabled = true)
    (owner : v.owner = some key) : v.isAdmin key = true := by
  obtain ⟨_, same, admin⟩ := one enabled
  rw [owner] at same
  cases same
  exact isAdmin_iff.2 ⟨enabled, admin⟩

theorem OneOwner.owner_of_isAdmin (one : v.OneOwner) {key : Secret} (admin : v.isAdmin key = true) :
    v.owner = some key := by
  obtain ⟨enabled, admin⟩ := isAdmin_iff.1 admin
  obtain ⟨_, owner, same⟩ := one enabled
  rw [admin] at same
  cases same
  exact owner

theorem Effect.oneOwner (effect : Effect c v request v') (confined : request.Confined segment)
    (valid : checkSegment segment = .ok ()) (one : v.OneOwner) : v'.OneOwner := by
  rcases effect.keys_cases confined valid with
    ⟨owner, admin, enabled⟩ | ⟨key, -, free, rfl⟩ | ⟨activation, -, owner, rfl⟩
  · rw [OneOwner, owner, admin, enabled]
    exact one
  · intro enabled
    obtain ⟨_, taken, -⟩ := one enabled
    rw [free] at taken
    cases taken
  · exact fun _ => ⟨_, owner, rfl⟩

theorem Effect.owner_of_some (effect : Effect c v request v') (confined : request.Confined segment)
    (valid : checkSegment segment = .ok ()) {key : Secret} (owner : v.owner = some key) : v'.owner = some key := by
  rcases effect.keys_cases confined valid with ⟨same, -⟩ | ⟨_, -, free, -⟩ | ⟨_, -, -, rfl⟩
  · rw [same, owner]
  · rw [free] at owner
    cases owner
  · exact owner

theorem Effect.lockingEnabled_of (effect : Effect c v request v') (confined : request.Confined segment)
    (valid : checkSegment segment = .ok ()) (enabled : v.lockingEnabled = true) : v'.lockingEnabled = true := by
  rcases effect.keys_cases confined valid with ⟨-, -, same⟩ | ⟨_, -, -, rfl⟩ | ⟨_, -, -, rfl⟩
  · rw [same, enabled]
  · exact enabled
  · rfl

end Vault

end Simulator

/-! ## Plans -/

namespace Provision

/-- Whatever is answered, provisioning asks for nothing else (`Course.asks`). -/
def Asks (p : Provision) (request : Request) : Prop :=
  ∃ enabled erasure bounds,
    request ∈ .getStatus default :: .getGeometry default :: p.calls enabled erasure bounds

variable {p : Provision} {request : Request}

theorem Course.asks {xs : List Exchange} {r : Except Error Unit} (course : p.Course xs r) {x : Exchange}
    (mem : x ∈ xs) : p.Asks x.request :=
  course.mem_calls mem

theorem Asks.confined (asks : p.Asks request) : request.Confined p.segment := by
  obtain ⟨enabled, erasure, bounds, mem⟩ := asks
  have all : ∀ request ∈ .getStatus default :: .getGeometry default :: p.calls enabled erasure bounds,
      request.Confined p.segment := by
    cases enabled <;> cases erasure <;>
      simp [calls, wiping, takingOver, Request.Confined, passwordChange, grant, setup, adminSession, lockRequest,
        Session.opening, KeyBlock.fill, user, range, readRequest]
  exact all request mem

theorem Asks.kind_ne_saveForResume (asks : p.Asks request) : request.kind ≠ .saveForResume := by
  obtain ⟨enabled, erasure, bounds, mem⟩ := asks
  have all : ∀ request ∈ .getStatus default :: .getGeometry default :: p.calls enabled erasure bounds,
      request.kind ≠ .saveForResume := by
    cases enabled <;> cases erasure <;> simp [calls, wiping, takingOver, Request.kind]
  exact all request mem

theorem Asks.takeOwnership {key : KeyBlock} (asks : p.Asks (.takeOwnership key)) : key = .fill 0 p.adminKey := by
  obtain ⟨enabled, erasure, bounds, mem⟩ := asks
  have all : ∀ request ∈ .getStatus default :: .getGeometry default :: p.calls enabled erasure bounds,
      ∀ key, request = .takeOwnership key → key = .fill 0 p.adminKey := by
    cases enabled <;> cases erasure <;> simp [calls, wiping, takingOver, readRequest, eq_comm]
  exact all _ mem key rfl

end Provision

end OpalLocking
