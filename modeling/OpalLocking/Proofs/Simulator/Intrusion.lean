/-
Calls by somebody who knows none of the keys.

A drive that has an owner asks for a key in every call but three: one that locks a range with a kept key, one that
keeps a key, and the queries of what is no secret. So calls that bring no key of the drive (`Vault.Guards`) can lock
ranges and replace kept keys, and that is all (`Vault.Withstood`). A key that they had kept themselves opens nothing
either, since no authority proves itself with it.
-/
import OpalLocking.Proofs.Simulator.Isolation

namespace OpalLocking

open Simulator

namespace Simulator

variable {c : Config} {v v' v'' : Vault} {key : Secret} {request : Request}

/-! ## The keys of a drive -/

namespace Vault

/-- The keys that the drive knows something by: the owner's, Admin1's, the passwords of all users, enabled or not, and
the PSID. -/
inductive Guards (c : Config) (v : Vault) (key : Secret) : Prop
  | owner (own : v.owner = some key)
  | admin (own : v.admin = some key)
  | user {who : UInt32} (user : isUser who = true) (own : v.password who = some key)
  | psid (own : c.psid = key)

theorem guards_iff : v.Guards c key ↔
    v.owner = some key ∨ v.admin = some key ∨ (∃ i : Fin userCount, 1 ≤ i.val ∧ v.users[i].password = some key) ∨
      c.psid = key := by
  constructor
  · rintro (own | own | ⟨user, own⟩ | own)
    · exact .inl own
    · exact .inr (.inl own)
    · next who =>
      have small := toNat_lt_userCount user
      have least : 1 ≤ who.toNat := by
        simpa [UInt32.le_iff_toNat_le] using of_decide_eq_true (Bool.and_eq_true_iff.1 user).1
      rw [password, Vector.getElem?_eq_getElem small] at own
      exact .inr (.inr (.inl ⟨⟨_, small⟩, least, own⟩))
    · exact .inr (.inr (.inr own))
  · rintro (own | own | ⟨i, least, own⟩ | own)
    · exact .owner own
    · exact .admin own
    · have number : (UInt32.ofNat i.val).toNat = i.val :=
        UInt32.toNat_ofNat_of_lt' (Nat.lt_trans i.isLt (by decide))
      have most : i.val ≤ 9 := Nat.le_of_lt_succ i.isLt
      refine @Guards.user c v key (.ofNat i.val) ?_ ?_
      · simp [isUser, Authority.lastUser, UInt32.le_iff_toNat_le, number, least, most]
      · rw [password, number, Vector.getElem?_eq_getElem i.isLt]
        exact own
    · exact .psid own

instance (c : Config) (v : Vault) (key : Secret) : Decidable (v.Guards c key) :=
  decidable_of_iff _ guards_iff.symm

theorem guards_of_authenticates? {who : UInt32} (proven : v.authenticates? who key = some true) : v.Guards c key := by
  by_cases admin : who = Authority.admin1.who
  · rw [admin, authenticates?_admin1] at proven
    exact .admin (isAdmin_iff.1 (Option.some.inj proven)).2
  · have user := isUser_of_authenticates? admin proven
    exact .user user (password_of_authenticates? user proven)

theorem guards_of_isAdmin (proven : v.isAdmin key = true) : v.Guards c key :=
  .admin (isAdmin_iff.1 proven).2

end Vault

/-! ## What is left as it was -/

/-- The range is as it was, but it may have been locked, and another key may be kept for it. -/
structure Range.Withstood (r r' : Range) : Prop where
  readGrants : r'.readGrants = r.readGrants
  writeGrants : r'.writeGrants = r.writeGrants
  snapshot : r'.snapshot = r.snapshot ∨ r'.snapshot = { r.snapshot with state := LockState.locked.word }

theorem Range.Withstood.refl (r : Range) : r.Withstood r :=
  ⟨rfl, rfl, .inl rfl⟩

theorem Range.Withstood.trans {r r' r'' : Range} (first : r.Withstood r') (second : r'.Withstood r'') :
    r.Withstood r'' := by
  refine ⟨second.readGrants.trans first.readGrants, second.writeGrants.trans first.writeGrants, ?_⟩
  rcases second.snapshot with same | locked
  · rw [same]
    exact first.snapshot
  · -- Whether it was locked before or not, it is locked now.
    refine .inr (locked.trans ?_)
    rcases first.snapshot with same | before
    · rw [same]
    · rw [before]

namespace Vault

/-- The keys and the users are the same in both vaults, and every range has withstood. -/
structure Withstood (v v' : Vault) : Prop where
  keys : v.SameKeys v'
  users : v'.users = v.users
  ranges : ∀ range, (v.rangeAt range).Withstood (v'.rangeAt range)

namespace Withstood

theorem refl (v : Vault) : v.Withstood v :=
  ⟨.refl v, rfl, fun _ => .refl _⟩

theorem trans (first : v.Withstood v') (second : v'.Withstood v'') : v.Withstood v'' :=
  ⟨first.keys.trans second.keys, second.users.trans first.users,
    fun range => (first.ranges range).trans (second.ranges range)⟩

theorem of_rangeChanged {range : UInt8} {change : Range → Range} (changed : v.RangeChanged range change v')
    (withstands : ∀ r : Range, r.Withstood (change r)) : v.Withstood v' := by
  refine ⟨?_, changed.users_eq, fun other => ?_⟩
  · obtain ⟨ranges, -, rfl⟩ := changed
    exact ⟨rfl, rfl, rfl⟩
  · rw [changed.rangeAt_eq]
    split
    · exact withstands _
    · exact .refl _

theorem guards_iff (withstood : v.Withstood v') : v'.Guards c key ↔ v.Guards c key := by
  have password : v'.password = v.password := funext (password_congr withstood.users)
  constructor
  · rintro (own | own | ⟨user, own⟩ | own)
    · exact .owner (withstood.keys.owner ▸ own)
    · exact .admin (withstood.keys.admin ▸ own)
    · exact .user user (password ▸ own)
    · exact .psid own
  · rintro (own | own | ⟨user, own⟩ | own)
    · exact .owner (withstood.keys.owner ▸ own)
    · exact .admin (withstood.keys.admin ▸ own)
    · exact .user user (password ▸ own)
    · exact .psid own

end Withstood

/-! ## One call -/

/-- A lock that stands on a key of its own is turned by nobody who does not know a key of the drive, and one that
stands on a kept key can only be locked. -/
theorem locked_of_stranger {lock : LockRequest} {state : LockState} {r : Range}
    (stranger : ¬ v.Guards c lock.session.key.content) (stands : r.keyFor lock.session state = some key)
    (proven : v.authenticates? lock.session.who key = some true) : state = .locked := by
  unfold Range.keyFor at stands
  dsimp only at stands
  split at stands
  · next keyless => exact of_decide_eq_true (Bool.and_eq_true_iff.1 keyless).2
  · cases stands
    exact absurd (guards_of_authenticates? proven) stranger

/-- What an accepted call does that brings no key of the drive. -/
theorem Effect.withstood (effect : Effect c v request v') (owned : v.owner ≠ none)
    (stranger : ∀ block ∈ request.keys, ¬ v.Guards c block.content) :
    v.Withstood v' ∧ request.kind ≠ .getRangeStatus := by
  cases effect with
  | takeOwnership free => exact absurd free owned
  | keepOwnership own | activateLsp _ own => exact absurd (.owner own) (stranger _ (.head _))
  | setAdminPassword proven | setUserPassword proven | getRangeStatus proven =>
    exact absurd (guards_of_authenticates? proven) (stranger _ (.head _))
  | activateUser proven | setupRange _ proven | grantRead proven | grantWrite proven | eraseRange _ proven
  | secureEraseRange _ proven => exact absurd (guards_of_isAdmin proven) (stranger _ (.head _))
  | psidRevert known => exact absurd (.psid known.symm) (stranger _ (.head _))
  | ignoreLock | getStatus | getGeometry => exact ⟨.refl v, nofun⟩
  | lockUnlock _ _ stands proven _ _ changed =>
    obtain rfl := locked_of_stranger (stranger _ (.head _)) stands proven
    exact ⟨.of_rangeChanged changed fun _ => ⟨rfl, rfl, .inr rfl⟩, nofun⟩
  | saveForResume changed => exact ⟨.of_rangeChanged changed fun _ => ⟨rfl, rfl, .inl rfl⟩, nofun⟩

end Vault

end Simulator

/-! ## Any number of calls -/

namespace SimulatedDrive

variable {d d' : SimulatedDrive} {request : Request} {requests : List Request}

/-- The answers to calls that are made one after the other, and the drive that they leave. -/
def answerAll (d : SimulatedDrive) : List Request → List Exchange × SimulatedDrive
  | [] => ([], d)
  | request :: rest =>
    (⟨request, (d.answer request).1⟩ :: ((d.answer request).2.answerAll rest).1,
      ((d.answer request).2.answerAll rest).2)

/-- No key that the call brings is one that the drive guards something with. -/
def Stranger (d : SimulatedDrive) (request : Request) : Prop :=
  ∀ block ∈ request.keys, ¬ d.vault.Guards d.config block.content

instance (d : SimulatedDrive) (request : Request) : Decidable (d.Stranger request) :=
  inferInstanceAs (Decidable (∀ block ∈ _, _))

/-- The drive is configured as it was, and its vault has withstood. -/
structure Withstood (d d' : SimulatedDrive) : Prop where
  config : d'.config = d.config
  vault : d.vault.Withstood d'.vault

theorem Withstood.stranger_iff (withstood : d.Withstood d') : d'.Stranger request ↔ d.Stranger request := by
  unfold Stranger
  rw [withstood.config]
  exact forall₂_congr fun _ _ => not_congr withstood.vault.guards_iff

section

variable (owned : d.vault.owner ≠ none)
include owned

theorem withstood_answer (stranger : d.Stranger request) : d.Withstood (d.answer request).2 := by
  have answered := d.answer_answered request
  refine ⟨answered.config, ?_⟩
  rcases answered.vault_cases with same | effect
  · rw [same]
    exact .refl _
  · exact (effect.withstood owned stranger).1

/-- A range is shown by a queued status only. -/
theorem queued_of_accepted (stranger : d.Stranger request) (reads : request.kind = .getRangeStatus)
    (accepted : (d.answer request).1.status.classify = .success) :
    (d.queue.statuses .getRangeStatus)[0]? = some (d.answer request).1.status := by
  have answered := d.answer_answered request
  cases queued : d.queue.statuses request.kind with
  | nil =>
    rcases answered.vault with ⟨mem, -⟩ | ⟨-, effect⟩ | ⟨refused, -⟩
    · rw [queued] at mem
      cases mem
    · exact absurd reads (effect.withstood owned stranger).2
    · exact absurd accepted refused
  | cons status rest =>
    rw [answer_of_queued queued, ← reads, queued]
    rfl

theorem withstood_answerAll (strangers : ∀ request ∈ requests, d.Stranger request) :
    d.Withstood (d.answerAll requests).2 := by
  induction requests generalizing d with
  | nil => exact ⟨rfl, .refl _⟩
  | cons request requests ih =>
    obtain ⟨here, strangers⟩ := List.forall_mem_cons.1 strangers
    have first := withstood_answer owned here
    have owned' : (d.answer request).2.vault.owner ≠ none := by
      rw [first.vault.keys.owner]
      exact owned
    have behind := ih owned' fun request mem => first.stranger_iff.2 (strangers request mem)
    exact ⟨behind.config.trans first.config, first.vault.trans behind.vault⟩

theorem queued_of_mem_answerAll (strangers : ∀ request ∈ requests, d.Stranger request) {before after : List Exchange}
    {x : Exchange} (made : (d.answerAll requests).1 = before ++ x :: after) (reads : x.kind = .getRangeStatus)
    (accepted : x.Accepted) :
    (d.queue.statuses .getRangeStatus)[before.countP (·.kind = .getRangeStatus)]? = some x.status := by
  induction requests generalizing d before with
  | nil => simp [answerAll] at made
  | cons request requests ih =>
    obtain ⟨here, strangers⟩ := List.forall_mem_cons.1 strangers
    have first := withstood_answer owned here
    cases before with
    | nil =>
      obtain ⟨rfl, -⟩ := List.cons.inj made
      exact queued_of_accepted owned here reads accepted
    | cons y before =>
      obtain ⟨rfl, rest⟩ := List.cons.inj made
      have owned' : (d.answer request).2.vault.owner ≠ none := by
        rw [first.vault.keys.owner]
        exact owned
      have behind := ih owned' (fun request mem => first.stranger_iff.2 (strangers request mem)) rest
      rw [(d.answer_answered request).statuses] at behind
      have kind : Exchange.kind ⟨request, (d.answer request).1⟩ = request.kind := rfl
      rw [List.countP_cons, kind]
      -- A status that this call took is no longer the first one behind it.
      by_cases same : request.kind = .getRangeStatus
      · rw [if_pos same.symm, List.getElem?_tail] at behind
        rw [if_pos (decide_eq_true same)]
        exact behind
      · rw [if_neg (Ne.symm same)] at behind
        rw [if_neg (by simpa using same)]
        exact behind

end

/-- Whoever knows no key of a drive that has an owner can do no more to it than lock ranges and replace kept keys, by
any number of calls with any blocks. No range is shown to them, but by a status that was queued: the one whose turn it
was among those for this call. -/
theorem strangers_withstood (owned : d.vault.owner ≠ none) (strangers : ∀ request ∈ requests, d.Stranger request) :
    d.Withstood (d.answerAll requests).2 ∧
      ∀ before x after, (d.answerAll requests).1 = before ++ x :: after → x.kind = .getRangeStatus → x.Accepted →
        (d.queue.statuses .getRangeStatus)[before.countP (·.kind = .getRangeStatus)]? = some x.status :=
  ⟨withstood_answerAll owned strangers,
    fun _ _ _ made reads accepted => queued_of_mem_answerAll owned strangers made reads accepted⟩

/-- A range whose user has unlocked it is locked again with the key that was kept then, and a status that is queued for
a reading passes for one. A key that is kept instead locks nothing. -/
theorem strangers_withstood_unlocked :
    let used := ((SimulatedDrive.new "d").run (.setup ⟨1, 0, 8, [1], [2]⟩)).drive
    let d := (used.run (.unlock 1 [1])).drive.inject .getRangeStatus .success
    let requests : List Request :=
      [.lockUnlock (lockRequest 1 .locked none), readRequest 1 [9], readRequest 1 [9],
        .saveForResume (lockRequest 1 .locked (some [9])).keeping, .lockUnlock (lockRequest 1 .locked none)]
    d.vault.owner ≠ none ∧ (∀ request ∈ requests, d.Stranger request) ∧
      d.vault.lockWord 1 = LockState.readWrite.word ∧
      (d.answerAll requests).2.vault.lockWord 1 = LockState.locked.word ∧
      (d.answerAll requests).1.map (·.status) = [.success, .success, .notAuthorized, .success, .notAuthorized] ∧
      d.Withstood (d.answerAll requests).2 ∧
      ∀ before x after, (d.answerAll requests).1 = before ++ x :: after → x.kind = .getRangeStatus → x.Accepted →
        (d.queue.statuses .getRangeStatus)[before.countP (·.kind = .getRangeStatus)]? = some x.status := by
  intro used d requests
  have owned : d.vault.owner ≠ none := by decide +kernel
  have strangers : ∀ request ∈ requests, d.Stranger request := by decide +kernel
  have before : d.vault.lockWord 1 = LockState.readWrite.word := by decide +kernel
  have locked : (d.answerAll requests).2.vault.lockWord 1 = LockState.locked.word := by decide +kernel
  have answers : (d.answerAll requests).1.map (·.status) =
      [.success, .success, .notAuthorized, .success, .notAuthorized] := by decide +kernel
  clear_value requests d
  exact ⟨owned, strangers, before, locked, answers, strangers_withstood owned strangers⟩

end SimulatedDrive

end OpalLocking
