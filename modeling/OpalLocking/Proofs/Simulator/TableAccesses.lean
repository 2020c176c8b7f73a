/-
Every call has an outcome, and every access that it makes on its way there is in bounds, on every vault and with every
parameter block.

An access by a word of the block comes only behind a check of that word: a range is looked for before it is touched, and
who proves an authority, be it with a key that was kept, is in the tables of users (`isUser_of_authenticates?`). So no
access misses its table, and the answers of a drive are those that its calls spell out. Safety is put together as the
calls are (`Traced.safe_bind`, `Traced.safe_ite`), with one lemma for each call.
-/
import OpalLocking.Proofs.Simulator.Evolution

namespace OpalLocking.Simulator

/-- There are as many bytes in the array of a block, or such an entry in the table. -/
def Access.InBounds : Access → Prop
  | .keyBytes length => length ≤ 256
  | .user index | .readGrant index | .writeGrant index => index < userCount
  | .range index => index < rangeCount

namespace Traced

variable {α β : Type} {n : Nat}

/-- There is an outcome, and all accesses are in bounds. -/
structure Safe (x : Traced α) : Prop where
  defined : x.outcome.isSome
  inBounds : ∀ access ∈ x.accesses, access.InBounds

theorem safe_pure (value : α) : (pure value : Traced α).Safe := ⟨rfl, nofun⟩

theorem safe_bind {x : Traced α} {f : α → Traced β} (first : x.Safe)
    (rest : ∀ value, x.outcome = some value → (f value).Safe) : (x >>= f).Safe := by
  obtain ⟨value, outcome⟩ := Option.isSome_iff_exists.1 first.defined
  have last := rest value outcome
  refine ⟨by rw [outcome_bind, outcome]; exact last.defined, fun access mem => ?_⟩
  rw [accesses_bind, outcome] at mem
  exact (List.mem_append.1 mem).elim (first.inBounds access) (last.inBounds access)

theorem safe_ite {p : Prop} [Decidable p] {x y : Traced α} (then_ : p → x.Safe) (else_ : ¬ p → y.Safe) :
    (if p then x else y).Safe := by
  split
  · exact then_ ‹p›
  · exact else_ ‹¬ p›

/-- A single access, with an outcome. -/
theorem safe_of_access {access : Access} {outcome : Option α} (there : access.InBounds) (defined : outcome.isSome) :
    (⟨[access], outcome⟩ : Traced α).Safe := by
  refine ⟨defined, fun other mem => ?_⟩
  cases List.mem_singleton.1 mem
  exact there

theorem safe_key (k : KeyBlock) : (key k).Safe :=
  safe_of_access (length_le k) (by rw [if_pos (length_le k)]; rfl)

theorem safe_entry {table : Vector α n} {place : Nat → Access} {i : Nat} (there : (place i).InBounds) (small : i < n) :
    (entry table place i).Safe :=
  safe_of_access there (by rw [Vector.getElem?_eq_getElem small]; rfl)

theorem safe_modify {table : Vector α n} {place : Nat → Access} {i : Nat} {change : α → α}
    (there : (place i).InBounds) (small : i < n) : (modify table place i change).Safe :=
  safe_of_access there (modify?_isSome_iff.2 small)

end Traced

open Traced

namespace Vault

variable {v : Vault} {who : UInt32} {key : Secret}

/-! ## Checks in front of accesses -/

/-- Authorities beyond the last user prove nothing, with whatever key. -/
theorem authenticates?_of_beyond (v : Vault) (key : Secret) (beyond : Authority.lastUser < who) :
    v.authenticates? who key = some false := by
  have notAdmin : who ≠ Authority.admin1.who := by
    rintro rfl
    exact absurd beyond (by decide)
  rw [authenticates?_eq, if_neg notAdmin, if_neg (UInt32.not_le.2 beyond), ite_self]

theorem safe_authenticates (v : Vault) (who : UInt32) (key : Secret) : (v.authenticates who key).Safe := by
  refine safe_ite (fun _ => safe_pure _) fun _ => safe_ite (fun _ => safe_pure _) fun _ => safe_ite (fun most => ?_)
    fun _ => safe_pure _
  have there : who.toNat < userCount := Nat.lt_of_le_of_lt (UInt32.le_iff_toNat_le.1 most) (by decide)
  exact safe_bind (safe_entry there there) fun _ _ => safe_pure _

theorem safe_withUser (user : isUser who = true) (change : User → User) : (v.withUser who change).Safe :=
  safe_bind (safe_modify (toNat_lt_userCount user) (toNat_lt_userCount user)) fun _ _ => safe_pure _

theorem safe_withRange (v : Vault) (range : UInt8) (change : Range → Range) : (v.withRange range change).Safe :=
  safe_ite (fun there => safe_bind (safe_modify there there) fun _ _ => safe_pure _) fun _ => safe_pure _

theorem safe_range (v : Vault) (range : UInt8) : (v.range range).Safe :=
  safe_ite (fun there => safe_bind (safe_entry there there) fun _ _ => safe_pure _) fun _ => safe_pure _

/-- The tables of grants are indexed by whoever has proved an authority, which can be with a key that was kept. -/
theorem safe_mayLock (proven : v.authenticates? who key = some true) (r : Range) : (r.mayLock who).Safe := by
  refine safe_ite (fun _ => safe_pure _) fun notAdmin => ?_
  have there := toNat_lt_userCount (isUser_of_authenticates? notAdmin proven)
  exact safe_bind (safe_entry there there) fun _ _ => safe_bind (safe_entry there there) fun _ _ => safe_pure _

/-! ## Every call -/

theorem safe_takeOwnership (v : Vault) (block : KeyBlock) : (v.takeOwnership block).Safe := by
  refine safe_bind (safe_key _) fun key _ => ?_
  split <;> exact safe_pure _

theorem safe_activateLsp (v : Vault) (a : Activation) : (v.activateLsp a).Safe :=
  safe_ite (fun _ => safe_pure _) fun _ =>
    safe_bind (safe_key _) fun _ _ => safe_ite (fun _ => safe_pure _) fun _ => safe_pure _

theorem safe_setPassword (v : Vault) (change : NewPassword) : (v.setPassword change).Safe := by
  refine safe_bind (safe_key _) fun key _ => safe_bind (safe_authenticates _ _ _) fun proven _ => ?_
  refine safe_ite (fun _ => safe_pure _) fun _ => safe_bind (safe_key _) fun password _ => ?_
  refine safe_ite (fun _ => safe_pure _) fun _ => safe_ite (fun user => ?_) fun _ => safe_pure _
  exact safe_bind (safe_withUser user _) fun _ _ => safe_pure _

theorem safe_activateUser (v : Vault) (session : Session) : (v.activateUser session).Safe := by
  refine safe_bind (safe_key _) fun key _ => safe_ite (fun _ => safe_pure _) fun _ => ?_
  refine safe_ite (fun user => ?_) fun _ => safe_pure _
  exact safe_bind (safe_withUser user _) fun _ _ => safe_pure _

theorem safe_setupRange (c : Config) (v : Vault) (setup : RangeSetup) : (v.setupRange c setup).Safe := by
  refine safe_ite (fun _ => safe_pure _) fun _ => safe_bind (safe_key _) fun key _ => ?_
  exact safe_ite (fun _ => safe_pure _) fun _ => safe_withRange _ _ _

theorem safe_addUserToRange (v : Vault) (grant : LockRequest) : (v.addUserToRange grant).Safe := by
  refine safe_bind (safe_key _) fun key _ => safe_ite (fun _ => safe_pure _) fun _ => ?_
  refine safe_ite (fun _ => safe_pure _) fun user => safe_bind (safe_range _ _) fun found _ => ?_
  have there := toNat_lt_userCount (by simpa using user)
  split
  · exact safe_pure _
  · refine safe_ite (fun _ => ?_) fun _ => safe_ite (fun _ => ?_) fun _ => safe_pure _
    · exact safe_bind (safe_modify there there) fun _ _ => safe_withRange _ _ _
    · exact safe_bind (safe_modify there there) fun _ _ => safe_withRange _ _ _

theorem safe_eraseRange (v : Vault) (session : Session) (keeps : Bool) : (v.eraseRange session keeps).Safe := by
  refine safe_ite (fun _ => safe_pure _) fun _ => safe_bind (safe_key _) fun key _ => ?_
  exact safe_ite (fun _ => safe_pure _) fun _ => safe_withRange _ _ _

theorem safe_psidRevert (c : Config) (v : Vault) (block : KeyBlock) : (v.psidRevert c block).Safe :=
  safe_bind (safe_key _) fun _ _ => safe_ite (fun _ => safe_pure _) fun _ => safe_pure _

theorem safe_lockUnlock (c : Config) (v : Vault) (lock : LockRequest) : (v.lockUnlock c lock).Safe := by
  unfold lockUnlock
  dsimp only
  split
  · exact safe_pure _
  · refine safe_bind (safe_range _ _) fun found _ => ?_
    split
    · exact safe_pure _
    · refine safe_bind (safe_key _) fun _ _ => ?_
      split
      · exact safe_pure _
      · next key _ =>
        refine safe_bind (safe_authenticates _ _ _) fun proven shown => ?_
        rw [outcome_authenticates] at shown
        refine safe_ite (fun _ => safe_pure _) fun authenticated => ?_
        obtain rfl : proven = true := by simpa using authenticated
        refine safe_bind (safe_mayLock shown _) fun may _ => ?_
        refine safe_ite (fun _ => safe_pure _) fun _ => safe_ite (fun _ => safe_pure _) fun _ => ?_
        exact safe_withRange _ _ _

theorem safe_saveForResume (v : Vault) (lock : LockRequest) : (v.saveForResume lock).Safe :=
  safe_bind (safe_key _) fun _ _ => safe_withRange _ _ _

theorem safe_rangeStatus (v : Vault) (session : Session) (submitted : RangeReading) :
    (v.rangeStatus session submitted).Safe := by
  refine safe_bind (safe_key _) fun key _ => safe_bind (safe_authenticates _ _ _) fun proven _ => ?_
  refine safe_ite (fun _ => safe_pure _) fun _ => safe_bind (safe_range _ _) fun found _ => ?_
  split <;> exact safe_pure _

theorem safe_traced (c : Config) (v : Vault) (request : Request) : (v.traced c request).Safe := by
  cases request with
  | takeOwnership => exact safe_bind (safe_takeOwnership _ _) fun _ _ => safe_pure _
  | activateLsp => exact safe_bind (safe_activateLsp _ _) fun _ _ => safe_pure _
  | setPassword => exact safe_bind (safe_setPassword _ _) fun _ _ => safe_pure _
  | activateUser => exact safe_bind (safe_activateUser _ _) fun _ _ => safe_pure _
  | setupRange => exact safe_bind (safe_setupRange _ _ _) fun _ _ => safe_pure _
  | addUserToRange => exact safe_bind (safe_addUserToRange _ _) fun _ _ => safe_pure _
  | eraseRange | secureEraseRange => exact safe_bind (safe_eraseRange _ _ _) fun _ _ => safe_pure _
  | psidRevert => exact safe_bind (safe_psidRevert _ _ _) fun _ _ => safe_pure _
  | lockUnlock => exact safe_bind (safe_lockUnlock _ _ _) fun _ _ => safe_pure _
  | saveForResume => exact safe_bind (safe_saveForResume _ _) fun _ _ => safe_pure _
  | getStatus | getGeometry => exact safe_pure _
  | getRangeStatus => exact safe_bind (safe_rangeStatus _ _ _) fun _ _ => safe_pure _

/-- No parameter block makes a look-up miss its table. -/
theorem perform?_isSome (c : Config) (v : Vault) (request : Request) : (v.perform? c request).isSome :=
  (safe_traced c v request).defined

/-- Whatever the state of a drive is, and whatever block comes with a call, the call has an outcome, and every access that
it makes on its way there is in bounds: to the bytes of a key, the users, the grants and the ranges. No authority beyond
the last user gets past a proof, and no range that is not there is looked up. -/
theorem accesses_in_bounds (c : Config) (v : Vault) (request : Request) :
    let traced := v.traced c request
    traced.outcome = v.perform? c request ∧ traced.outcome.isSome ∧ (∀ access ∈ traced.accesses, access.InBounds) ∧
      ∀ who key, Authority.lastUser < who → v.authenticates? who key = some false := by
  intro traced
  have safe : traced.Safe := safe_traced c v request
  exact ⟨rfl, safe.defined, safe.inBounds, fun who key beyond => v.authenticates?_of_beyond key beyond⟩

/-- A key is kept for an authority that there is not, which then asks for a lock without a key. The grants are not looked
at. -/
theorem accesses_in_bounds_stranger :
    let c := { supported := true, psid := [1], geometry := default : Config }
    let keeping : LockRequest := ⟨.opening 200 8 [7], LockState.locked.word, saveForLock⟩
    ∃ v, (({ lockingEnabled := true, admin := some [2] } : Vault).saveForResume keeping).outcome = some (.success, v) ∧
      let traced := v.traced c (.lockUnlock ⟨.opening 200 8 [], LockState.locked.word, 0⟩)
      traced.accesses = [.range 8, .keyBytes 0] ∧ traced.outcome.isSome ∧
        (∀ access ∈ traced.accesses, access.InBounds) ∧ v.authenticates? 200 [7] = some false := by
  intro c keeping
  refine ⟨_, rfl, ?_⟩
  intro traced
  obtain ⟨-, outcome, bounds, strangers⟩ :=
    accesses_in_bounds c _ (.lockUnlock ⟨.opening 200 8 [], LockState.locked.word, 0⟩)
  exact ⟨by decide +kernel, outcome, bounds, strangers 200 [7] (by decide)⟩

end Vault

end OpalLocking.Simulator
