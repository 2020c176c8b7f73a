/-
How the locks and the passwords of a vault come to change.

One lemma on one call each, by cases on `Vault.Effect`, and one on any number of calls: a range leaves the locked
state only by a call that unlocks or erases it, and the password of a user is the one that was set last.
-/
import OpalLocking.Proofs.Simulator.Effects

namespace OpalLocking

open Simulator

/-! ## What a call may bring about -/

namespace Request

/-- Asks for a range to be put into any state but the locked one. -/
def Opens (range : UInt8) : Request → Prop
  | .lockUnlock lock => lock.session.key.range = range ∧ lock.state ≠ LockState.locked.word
  | _ => False

/-- Asks for the data of a range to be destroyed. -/
def Erases (range : UInt8) : Request → Prop
  | .eraseRange session | .secureEraseRange session => session.key.range = range
  | .psidRevert _ => True
  | _ => False

/-- The password of a user behind this call, if it is accepted. -/
def passwordAfter (who : UInt32) (before : Option Secret) : Request → Option Secret
  | .setPassword change => if change.user.who = who then some change.user.key.content else before
  | .psidRevert _ => none
  | _ => before

end Request

theorem Exchange.passwordAfter_eq_self {x : Exchange} (noChange : x.kind ≠ .setPassword)
    (noRevert : x.kind ≠ .psidRevert) (who : UInt32) (before : Option Secret) :
    x.request.passwordAfter who before = before := by
  obtain ⟨request, a⟩ := x
  cases request with
  | setPassword => exact absurd rfl noChange
  | psidRevert => exact absurd rfl noRevert
  | _ => rfl

namespace Simulator

variable {c : Config} {v v' : Vault} {request : Request}

namespace Vault

/-! ## One call -/

/-- The word of a range's lock state; zero for a range that does not exist. -/
def lockWord (v : Vault) (range : UInt8) : UInt32 :=
  ((v.ranges[range.toNat]?.map Range.snapshot).getD {}).state

def password (v : Vault) (who : UInt32) : Option Secret :=
  v.users[who.toNat]?.bind User.password

theorem RangeChanged.users_eq {range change} (h : v.RangeChanged range change v') : v'.users = v.users := by
  obtain ⟨ranges, -, rfl⟩ := h
  rfl

theorem UserChanged.ranges_eq {who change} (h : v.UserChanged who change v') : v'.ranges = v.ranges := by
  obtain ⟨users, -, rfl⟩ := h
  rfl

theorem lockWord_congr (h : v'.ranges = v.ranges) (range : UInt8) : v'.lockWord range = v.lockWord range := by
  rw [lockWord, lockWord, h]

theorem password_congr (h : v'.users = v.users) (who : UInt32) : v'.password who = v.password who := by
  rw [password, password, h]

theorem RangeChanged.lockWord_eq {range change} (h : v.RangeChanged range change v') (other : UInt8)
    (keeps : other = range → ∀ r : Range, (change r).snapshot.state = r.snapshot.state) :
    v'.lockWord other = v.lockWord other := by
  obtain ⟨ranges, changed, rfl⟩ := h
  unfold lockWord
  by_cases there : other.toNat < rangeCount
  · have entry := getElem_of_modify? changed there
    rw [Vector.getElem?_eq_getElem there, Vector.getElem?_eq_getElem there, entry]
    split
    · next same => simpa using keeps (UInt8.toNat_inj.1 same) _
    · rfl
  · rw [Vector.getElem?_eq_none (Nat.not_lt.1 there), Vector.getElem?_eq_none (Nat.not_lt.1 there)]

theorem RangeChanged.lockWord_self {range change} (h : v.RangeChanged range change v') {word : UInt32}
    (sets : ∀ r : Range, (change r).snapshot.state = word) : v'.lockWord range = word := by
  obtain ⟨ranges, changed, rfl⟩ := h
  have there : range.toNat < rangeCount := modify?_isSome_iff.1 (by rw [changed]; rfl)
  unfold lockWord
  rw [Vector.getElem?_eq_getElem there, getElem_of_modify? changed there, if_pos rfl]
  exact sets _

/-- A range leaves the locked state by a call that asks for that. -/
theorem Effect.opens_or_erases (effect : Effect c v request v') {range : UInt8}
    (locked : v.lockWord range = LockState.locked.word) (left : v'.lockWord range ≠ LockState.locked.word) :
    request.Opens range ∨ request.Erases range := by
  cases effect with
  | takeOwnership | keepOwnership | activateLsp | setAdminPassword | ignoreLock | getStatus | getGeometry
  | getRangeStatus => exact absurd locked left
  | setUserPassword _ _ _ changed | activateUser _ _ changed =>
    exact absurd ((lockWord_congr changed.ranges_eq range).trans locked) left
  | setupRange _ _ changed | grantRead _ _ _ _ _ changed | grantWrite _ _ _ _ _ changed
  | secureEraseRange _ _ changed | saveForResume changed =>
    exact absurd ((changed.lockWord_eq range fun _ _ => rfl).trans locked) left
  | @eraseRange session v' _ _ changed =>
    by_cases here : range = session.key.range
    · exact .inr here.symm
    · exact absurd ((changed.lockWord_eq range fun same => absurd same here).trans locked) left
  | psidRevert => exact .inr trivial
  | @lockUnlock lock state key v' r word there stands proven may heeded changed =>
    by_cases here : range = lock.session.key.range
    · subst here
      have turned : v'.lockWord lock.session.key.range = state.word := changed.lockWord_self fun _ => rfl
      rw [turned, LockState.word_of_ofWord? word] at left
      exact .inl ⟨rfl, left⟩
    · exact absurd ((changed.lockWord_eq range fun same => absurd same here).trans locked) left

theorem toNat_lt_userCount {who : UInt32} (user : isUser who = true) : who.toNat < userCount := by
  have most : who ≤ Authority.lastUser := by
    simpa using (Bool.and_eq_true_iff.1 user).2
  have : who.toNat ≤ 9 := UInt32.le_iff_toNat_le.1 most
  unfold userCount
  omega

theorem isUser_admin1 : isUser Authority.admin1.who = false := rfl

theorem isUser_of_authenticates? {who : UInt32} {key : Secret} (notAdmin : who ≠ Authority.admin1.who)
    (proven : v.authenticates? who key = some true) : isUser who = true := by
  rw [authenticates?_eq] at proven
  split at proven
  · cases proven
  · split at proven
    · next most =>
      have least : 1 ≤ who.toNat := Nat.pos_of_ne_zero fun zero => notAdmin (UInt32.toNat_inj.1 zero)
      simpa [isUser, most, UInt32.le_iff_toNat_le] using least
    · cases proven

/-- Changing a user changes no other. -/
theorem UserChanged.password_eq {who target change} (h : v.UserChanged target change v') (user : isUser who = true) :
    v'.password who =
      if target = who then (v.users[who.toNat]?.map change).bind User.password else v.password who := by
  obtain ⟨users, changed, rfl⟩ := h
  have there := toNat_lt_userCount user
  unfold password
  rw [Vector.getElem?_eq_getElem there, Vector.getElem?_eq_getElem there, getElem_of_modify? changed there]
  by_cases same : target = who
  · subst same
    simp
  · have other : ¬ who.toNat = target.toNat := fun h => same (UInt32.toNat_inj.1 h).symm
    simp [same, other]

/-- On a drive as it left the factory, nobody has a password. -/
theorem password_of_blank (blank : v.users = .replicate userCount {}) (who : UInt32) : v.password who = none := by
  unfold password
  rw [blank]
  cases h : (Vector.replicate userCount ({} : User))[who.toNat]? with
  | none => rfl
  | some user =>
    obtain ⟨there, rfl⟩ := Vector.getElem?_eq_some_iff.1 h
    simp

/-- Only a new password, and a revert of the whole drive, make a difference to the password of a user. -/
theorem Effect.password_eq (effect : Effect c v request v') {who : UInt32} (user : isUser who = true) :
    v'.password who = request.passwordAfter who (v.password who) := by
  cases effect with
  | takeOwnership | keepOwnership | activateLsp | ignoreLock | getStatus | getGeometry | getRangeStatus => rfl
  | @setAdminPassword change _ _ target =>
    have other : change.user.who ≠ who := by
      rintro rfl
      rw [target, isUser_admin1] at user
      cases user
    simp [Request.passwordAfter, other, password]
  | @setUserPassword change v' _ _ target changed =>
    rw [changed.password_eq user]
    have there := toNat_lt_userCount user
    rw [Vector.getElem?_eq_getElem there]
    rfl
  | activateUser _ _ changed =>
    rw [changed.password_eq user]
    split
    · have there := toNat_lt_userCount user
      simp [Request.passwordAfter, password, Vector.getElem?_eq_getElem there]
    · rfl
  | setupRange _ _ changed | grantRead _ _ _ _ _ changed | grantWrite _ _ _ _ _ changed
  | eraseRange _ _ changed | secureEraseRange _ _ changed | lockUnlock _ _ _ _ _ _ changed
  | saveForResume changed => exact password_congr changed.users_eq who
  | psidRevert => exact password_of_blank rfl who

/-- What a call makes of the password of a user, whether it is accepted or not. -/
theorem Settles.password_eq {status : Status} (settles : Settles c v request status v') {who : UInt32}
    (user : isUser who = true) :
    v'.password who =
      if status.classify = .success then request.passwordAfter who (v.password who) else v.password who := by
  rcases settles with ⟨accepted, effect⟩ | ⟨refused, rfl⟩
  · rw [if_pos accepted, effect.password_eq user]
  · rw [if_neg refused]

/-- A user proves itself with its password. -/
theorem password_of_authenticates? {who : UInt32} {key : Secret} (user : isUser who = true)
    (h : v.authenticates? who key = some true) : v.password who = some key := by
  rw [authenticates?_eq] at h
  split at h
  · cases h
  · split at h
    · next admin =>
      rw [admin, isUser_admin1] at user
      cases user
    · split at h
      · obtain ⟨entry, found, proven⟩ := Option.map_eq_some_iff.1 h
        unfold password
        rw [found]
        simpa using (Bool.and_eq_true_iff.1 proven).2
      · cases h

/-- A user unlocks with its password, and with nothing that was kept. -/
theorem Effect.password_of_unlock {lock : LockRequest} (effect : Effect c v (.lockUnlock lock) v')
    (unlock : lock.state = LockState.readWrite.word) (user : isUser lock.session.who = true) :
    v.password lock.session.who = some lock.session.key.content := by
  have brings : ∀ {r : Range} {state : LockState} {key : Secret}, LockState.ofWord? lock.state = some state →
      r.keyFor lock.session state = some key → lock.session.key.content = key := by
    intro r state key word stands
    rw [unlock, LockState.ofWord?_word] at word
    cases word
    simpa [Range.keyFor] using stands
  cases effect with
  | ignoreLock word _ stands proven | lockUnlock word _ stands proven =>
    rw [brings word stands]
    exact password_of_authenticates? user proven

/-! ## Any number of calls -/

/-- These calls, with these answers, take the vault from one state to the other. -/
inductive Evolves (c : Config) : Vault → List Exchange → Vault → Prop
  | nil {v : Vault} : Evolves c v [] v
  | accepted {v v₁ v' : Vault} {x xs} (accepted : x.Accepted) (effect : Effect c v x.request v₁)
      (rest : Evolves c v₁ xs v') : Evolves c v (x :: xs) v'
  | refused {v v' : Vault} {x xs} (refused : ¬ x.Accepted) (rest : Evolves c v xs v') : Evolves c v (x :: xs) v'

theorem Evolves.opens_or_erases {xs : List Exchange} (h : Evolves c v xs v') {range : UInt8}
    (locked : v.lockWord range = LockState.locked.word) (left : v'.lockWord range ≠ LockState.locked.word) :
    ∃ x ∈ xs, x.Accepted ∧ (x.request.Opens range ∨ x.request.Erases range) := by
  induction h with
  | nil => exact absurd locked left
  | @accepted v v₁ v' x xs accepted effect rest ih =>
    -- Either this call took the range out of the locked state, or one behind it did.
    by_cases still : v₁.lockWord range = LockState.locked.word
    · obtain ⟨y, mem, found⟩ := ih still left
      exact ⟨y, List.mem_cons_of_mem _ mem, found⟩
    · exact ⟨x, List.mem_cons_self, accepted, effect.opens_or_erases locked still⟩
  | refused _ rest ih =>
    obtain ⟨y, mem, found⟩ := ih locked left
    exact ⟨y, List.mem_cons_of_mem _ mem, found⟩

/-- The password of a user behind these exchanges. -/
def passwordAfter (who : UInt32) (before : Option Secret) (xs : List Exchange) : Option Secret :=
  xs.foldl (fun password x => if x.Accepted then x.request.passwordAfter who password else password) before

theorem Evolves.password_eq {xs : List Exchange} (h : Evolves c v xs v') {who : UInt32} (user : isUser who = true) :
    v'.password who = passwordAfter who (v.password who) xs := by
  induction h with
  | nil => rfl
  | accepted accepted effect rest ih => 
    rw [ih, effect.password_eq user]
    simp [passwordAfter, accepted]
  | refused refused rest ih =>
    rw [ih]
    simp [passwordAfter, refused]

theorem passwordAfter_cons {who : UInt32} {before : Option Secret} {x : Exchange} {xs : List Exchange} :
    passwordAfter who before (x :: xs) =
      passwordAfter who (if x.Accepted then x.request.passwordAfter who before else before) xs := rfl

theorem passwordAfter_concat {who : UInt32} {before : Option Secret} {xs : List Exchange} {x : Exchange} :
    passwordAfter who before (xs ++ [x]) =
      if x.Accepted then x.request.passwordAfter who (passwordAfter who before xs)
      else passwordAfter who before xs := by
  simp [passwordAfter]

theorem passwordAfter_of_others {who : UInt32} {before : Option Secret} {xs : List Exchange}
    (others : ∀ x ∈ xs, x.kind ≠ .setPassword ∧ x.kind ≠ .psidRevert) : passwordAfter who before xs = before := by
  induction xs with
  | nil => rfl
  | cons x xs ih =>
    obtain ⟨⟨noChange, noRevert⟩, rest⟩ := List.forall_mem_cons.1 others
    rw [passwordAfter_cons, Exchange.passwordAfter_eq_self noChange noRevert, ite_self, ih rest]

/-- If only one new password is ever asked for, it is the password once it was accepted. -/
theorem passwordAfter_of_single {who : UInt32} {before : Option Secret} {xs : List Exchange} {change : NewPassword}
    (noRevert : ∀ x ∈ xs, x.kind ≠ .psidRevert)
    (only : ∀ x ∈ xs, x.kind = .setPassword → x.request = .setPassword change) :
    passwordAfter who before xs =
      if change.user.who = who ∧ ∃ x ∈ xs, x.kind = .setPassword ∧ x.Accepted then some change.user.key.content
      else before := by
  induction xs generalizing before with
  | nil => simp [passwordAfter]
  | cons x xs ih =>
    obtain ⟨here, noRevert⟩ := List.forall_mem_cons.1 noRevert
    obtain ⟨single, only⟩ := List.forall_mem_cons.1 only
    rw [passwordAfter_cons, ih noRevert only]
    by_cases changes : x.kind = .setPassword
    · rw [single changes]
      by_cases accepted : x.Accepted <;> by_cases target : change.user.who = who <;>
        simp [accepted, target, changes, Request.passwordAfter]
    · rw [Exchange.passwordAfter_eq_self changes here, ite_self]
      simp [changes]

end Vault

end Simulator

end OpalLocking
