/-
Provisioning that was broken off is repeated until it goes through.

`Vault.Exclusive` holds of every drive that only attempts at one segment under one admin key were made on, wherever
each of them was broken off: nobody else has anything on it. From there an attempt that nothing hinders goes through,
and what it leaves does not depend on the attempts before it (`Vault.Settled.unique`).
-/
import OpalLocking.Proofs.Simulator.Contention
import OpalLocking.Proofs.Simulator.DataProtection

namespace OpalLocking

open Simulator

namespace Simulator

variable {c : Config} {v v' : Vault} {request : Request} {segment who : UInt32} {key : Secret}

/-! ## Drives with one tenant at most -/

/-- A range that this user may have grants for, but nobody else, and that no key is kept for. -/
structure Range.KeptFor (who : UInt32) (r : Range) : Prop where
  readGrants : r.readGrants = .replicate userCount false ∨ r.readGrants = granting who (.replicate userCount false)
  writeGrants : r.writeGrants = .replicate userCount false ∨ r.writeGrants = granting who (.replicate userCount false)
  saved : r.saved = none

theorem granting_of_or {grants : Vector Bool userCount}
    (h : grants = .replicate userCount false ∨ grants = granting who (.replicate userCount false)) :
    granting who grants = granting who (.replicate userCount false) := by
  rcases h with rfl | rfl
  · rfl
  · exact granting_granting who _

namespace Vault

/-- The drive belongs to nobody or to this key, and nobody but the user of the segment has anything on it. -/
structure Exclusive (segment : UInt32) (key : Secret) (v : Vault) : Prop where
  owner : v.owner = none ∨ v.owner = some key
  admin : (v.lockingEnabled = false ∧ v.admin = none) ∨
    (v.lockingEnabled = true ∧ v.owner = some key ∧ v.admin = some key)
  users : ∀ who, who ≠ (Authority.ofSegment segment).who → v.userAt who = {}
  ranges : ∀ range, range ≠ segment.toUInt8 → v.rangeAt range = {}
  keptFor : (v.rangeAt segment.toUInt8).KeptFor (Authority.ofSegment segment).who

namespace Exclusive

theorem new : ({} : Vault).Exclusive segment key where
  owner := .inl rfl
  admin := .inl ⟨rfl, rfl⟩
  users who _ := userAt_of_blank rfl who
  ranges range _ := rangeAt_of_blank rfl range
  keptFor := by
    rw [rangeAt_of_blank rfl]
    exact ⟨.inl rfl, .inl rfl, rfl⟩

theorem oneOwner (exclusive : v.Exclusive segment key) : v.OneOwner := by
  intro enabled
  rcases exclusive.admin with ⟨disabled, -⟩ | ⟨-, owner, admin⟩
  · rw [disabled] at enabled
    cases enabled
  · exact ⟨key, owner, admin⟩

theorem userChanged {change : User → User} (exclusive : v.Exclusive segment key)
    (changed : v.UserChanged (Authority.ofSegment segment).who change v') : v'.Exclusive segment key := by
  refine ⟨?_, ?_, fun who other => ?_, ?_, ?_⟩
  · obtain ⟨users, -, rfl⟩ := changed
    exact exclusive.owner
  · obtain ⟨users, -, rfl⟩ := changed
    exact exclusive.admin
  · rw [changed.userAt_eq, if_neg other]
    exact exclusive.users who other
  · rw [changed.rangeAt_eq]
    exact exclusive.ranges
  · rw [changed.rangeAt_eq]
    exact exclusive.keptFor

theorem rangeChanged {change : Range → Range} (exclusive : v.Exclusive segment key)
    (changed : v.RangeChanged segment.toUInt8 change v')
    (keeps : (change (v.rangeAt segment.toUInt8)).KeptFor (Authority.ofSegment segment).who) :
    v'.Exclusive segment key := by
  refine ⟨?_, ?_, ?_, fun range other => ?_, ?_⟩
  · obtain ⟨ranges, -, rfl⟩ := changed
    exact exclusive.owner
  · obtain ⟨ranges, -, rfl⟩ := changed
    exact exclusive.admin
  · rw [changed.userAt_eq]
    exact exclusive.users
  · rw [changed.rangeAt_eq, if_neg other]
    exact exclusive.ranges range other
  · rw [changed.rangeAt_eq, if_pos rfl]
    exact keeps

/-- No call that provisioning this segment under this key makes lets anybody else in. -/
theorem effect {p : Provision} (exclusive : v.Exclusive p.segment p.adminKey) (valid : p.check = .ok ())
    (asks : p.Asks request) (effect : Effect c v request v') : v'.Exclusive p.segment p.adminKey := by
  have confined := asks.confined
  have segment := (Provision.check_eq_ok valid).2.2
  have kept := exclusive.keptFor
  cases effect with
  | takeOwnership free =>
    obtain rfl := asks.takeOwnership
    have content : (KeyBlock.fill 0 p.adminKey).content = p.adminKey :=
      KeyBlock.content_fill (length_le_of_checkKey (Provision.check_eq_ok valid).1)
    refine ⟨.inr (congrArg some content), ?_, exclusive.users, exclusive.ranges, kept⟩
    rcases exclusive.admin with disabled | ⟨-, owner, -⟩
    · exact .inl disabled
    · rw [free] at owner
      cases owner
  | @activateLsp activation _ owner =>
    have own : activation.key.content = p.adminKey := by
      rcases exclusive.owner with free | own
      · rw [owner] at free
        cases free
      · rw [owner] at own
        exact Option.some.inj own
    exact ⟨exclusive.owner, .inr ⟨rfl, owner.trans (congrArg some own), congrArg some own⟩, exclusive.users,
      exclusive.ranges, kept⟩
  | keepOwnership | ignoreLock | getStatus | getGeometry | getRangeStatus => exact exclusive
  | setAdminPassword _ _ target =>
    have user := isUser_ofSegment segment
    rw [← show _ = (Authority.ofSegment p.segment).who from confined, target] at user
    cases user
  | setUserPassword _ _ _ changed | activateUser _ _ changed =>
    rw [show _ = (Authority.ofSegment p.segment).who from confined] at changed
    exact exclusive.userChanged changed
  | setupRange _ _ changed | lockUnlock _ _ _ _ _ _ changed =>
    rw [show _ = p.segment.toUInt8 from confined] at changed
    exact exclusive.rangeChanged changed ⟨kept.readGrants, kept.writeGrants, kept.saved⟩
  | eraseRange _ _ changed | secureEraseRange _ _ changed =>
    rw [show _ = p.segment.toUInt8 from confined] at changed
    exact exclusive.rangeChanged changed ⟨kept.readGrants, kept.writeGrants, rfl⟩
  | @grantRead grant r readGrants _ _ _ _ there granted changed =>
    rw [confined.1] at changed there
    rw [confined.2] at granted
    rw [Vault.getElem?_ranges (toUInt8_lt_rangeCount segment)] at there
    cases there
    refine exclusive.rangeChanged changed ⟨.inr ?_, kept.writeGrants, kept.saved⟩
    rw [← granting_of_or kept.readGrants, granting_of_modify? granted]
  | @grantWrite grant r writeGrants _ _ _ _ there granted changed =>
    rw [confined.1] at changed there
    rw [confined.2] at granted
    rw [Vault.getElem?_ranges (toUInt8_lt_rangeCount segment)] at there
    cases there
    refine exclusive.rangeChanged changed ⟨kept.readGrants, .inr ?_, kept.saved⟩
    rw [← granting_of_or kept.writeGrants, granting_of_modify? granted]
  | psidRevert => exact confined.elim
  | saveForResume => exact absurd rfl asks.kind_ne_saveForResume

theorem evolves {p : Provision} {xs : List Exchange} (evolves : Evolves c v xs v')
    (exclusive : v.Exclusive p.segment p.adminKey) (valid : p.check = .ok ())
    (asks : ∀ x ∈ xs, p.Asks x.request) : v'.Exclusive p.segment p.adminKey := by
  induction evolves with
  | nil => exact exclusive
  | accepted _ effect _ ih =>
    exact ih (exclusive.effect valid (asks _ (.head _)) effect) fun x mem => asks x (.tail _ mem)
  | refused _ _ ih => exact ih exclusive fun x mem => asks x (.tail _ mem)

end Exclusive

end Vault

end Simulator

/-! ## Attempts -/

variable {p : Provision} {config : Config} {bounds : BlockBounds} {d d' : SimulatedDrive} {name : String}
  {segment : UInt32} {adminKey : Secret}

/-- The drives that attempts at one segment under one admin key lead to. Refusals may be queued before each attempt
and while it is made, and the other arguments are free. -/
inductive Attempted (segment : UInt32) (adminKey : Secret) (name : String) (config : Config) : SimulatedDrive → Prop
  | fresh : Attempted segment adminKey name config { name, config }
  | next {d d' : SimulatedDrive} {queue : Queue} {q : Provision} {e : Episode}
      (before : Attempted segment adminKey name config d) (setup : e.operation = .setup q)
      (same : q.segment = segment ∧ q.adminKey = adminKey) (honest : { d with queue }.Honest)
      (ran : e.Runs { d with queue } d') : Attempted segment adminKey name config d'

theorem Attempted.exclusive (tried : Attempted segment adminKey name config d) :
    d.config = config ∧ d.vault.Exclusive segment adminKey := by
  induction tried with
  | fresh => exact ⟨rfl, .new⟩
  | @next d d' queue q e _ setup same honest ran ih =>
    obtain ⟨config, -, evolves⟩ := ran.2.evolves honest
    refine ⟨config.trans ih.1, ?_⟩
    obtain ⟨rfl, rfl⟩ := same
    rcases ran.course with ⟨quiet, -⟩ | ⟨valid, course⟩
    · rw [quiet] at evolves
      generalize d'.vault = v at evolves
      cases evolves
      exact ih.2
    · rw [setup] at valid course
      generalize e.result = r at course
      cases course with
      | setup course => exact .evolves evolves ih.2 valid fun x mem => course.asks mem

/-! ## The last attempt -/

namespace Simulator

/-- A range without the count of its erasures. -/
def Range.withoutCount (r : Range) : Range :=
  { r with snapshot.erasures := 0 }

namespace Vault

/-- A vault without the counts of erasures. -/
def withoutCounts (v : Vault) : Vault :=
  { v with ranges := v.ranges.map Range.withoutCount }

theorem rangeAt_withoutCounts {v : Vault} (range : UInt8) :
    v.withoutCounts.rangeAt range = (v.rangeAt range).withoutCount := by
  rw [rangeAt, rangeAt, withoutCounts, Vector.getElem?_map]
  cases v.ranges[range.toNat]? <;> rfl

end Vault

end Simulator

/-- What provisioning leaves does not depend on what was there before, if nobody else was. -/
theorem Provision.provisioned_withoutCount {before : Range} (kept : before.KeptFor p.user.who) :
    (p.provisioned config bounds before).range.withoutCount = (p.provisioned config bounds {}).range.withoutCount := by
  have reads := granting_of_or kept.readGrants
  have writes := granting_of_or kept.writeGrants
  simp only [Provision.provisioned, Range.withoutCount, Range.turn, Range.configure, Range.grantRead,
    Range.grantWrite, reads, writes, kept.saved]

/-- A drive on which the segment was provisioned, with nobody else on it. -/
structure Simulator.Vault.Settled (p : Provision) (config : Config) (bounds : BlockBounds) (v : Vault) : Prop where
  exclusive : v.Exclusive p.segment p.adminKey
  admin : v.isAdmin p.adminKey = true
  tenancy : ∃ before : Range, before.KeptFor p.user.who ∧ v.tenancy p.segment = p.provisioned config bounds before

/-- There is only one such drive, apart from the counts of erasures. -/
theorem Simulator.Vault.Settled.unique {v v' : Vault} (settled : v.Settled p config bounds)
    (settled' : v'.Settled p config bounds) : v.withoutCounts = v'.withoutCounts := by
  obtain ⟨enabled, admin⟩ := Vault.isAdmin_iff.1 settled.admin
  obtain ⟨enabled', admin'⟩ := Vault.isAdmin_iff.1 settled'.admin
  have owner := settled.exclusive.oneOwner.owner_of_isAdmin settled.admin
  have owner' := settled'.exclusive.oneOwner.owner_of_isAdmin settled'.admin
  obtain ⟨before, kept, tenancy⟩ := settled.tenancy
  obtain ⟨before', kept', tenancy'⟩ := settled'.tenancy
  refine Vault.ext_entries (owner.trans owner'.symm) (enabled.trans enabled'.symm) (admin.trans admin'.symm) ?_ ?_
  · intro who
    by_cases here : who = p.user.who
    · subst here
      have user := congrArg Tenancy.user tenancy
      have user' := congrArg Tenancy.user tenancy'
      exact user.trans user'.symm
    · exact (settled.exclusive.users who here).trans (settled'.exclusive.users who here).symm
  · intro range
    rw [Vault.rangeAt_withoutCounts, Vault.rangeAt_withoutCounts]
    by_cases here : range = p.range
    · subst here
      have there : v.rangeAt p.range = (p.provisioned config bounds before).range := congrArg Tenancy.range tenancy
      have there' : v'.rangeAt p.range = (p.provisioned config bounds before').range :=
        congrArg Tenancy.range tenancy'
      rw [there, there', Provision.provisioned_withoutCount kept, Provision.provisioned_withoutCount kept']
    · rw [settled.exclusive.ranges range here, settled'.exclusive.ranges range here]

/-- With nothing queued, an attempt goes through. -/
theorem settles_of_exclusive (suits : p.Suits config bounds) (kept : config.KeepsBounds bounds)
    (built : d.config = config) (queue : d.queue = []) (exclusive : d.vault.Exclusive p.segment p.adminKey) :
    (d.run (.setup p)).result = .ok .nothing ∧ (d.run (.setup p)).drive.vault.Settled p config bounds := by
  have opens : d.config.failOpen = false := by rw [built, suits.opens]
  have course := SimulatedDrive.run_course (.setup p) suits.valid opens
  have serves := d.run_serves (.setup p)
  have idle : d.Idle := ⟨by rw [built, suits.supported], queue⟩
  obtain ⟨-, -, evolves⟩ := idle.evolves serves
  generalize (d.run (.setup p)).trace.exchanges = xs at course serves evolves
  generalize (d.run (.setup p)).result = r at course
  cases course with
  | setup course =>
    have exclusive' := Vault.Exclusive.evolves evolves exclusive suits.valid fun x mem => course.asks mem
    rcases course.contended suits kept (fun _ _ change => absurd change id) ⟨⟨built, queue, rfl⟩, exclusive.oneOwner⟩
        serves with
      ⟨rfl, before, same, admitted⟩ | ⟨-, -, key, owner, other⟩
    · refine ⟨rfl, exclusive', admitted.admin, before, ?_, admitted.tenancy⟩
      rcases same with rfl | rfl
      · exact exclusive.keptFor
      · exact ⟨exclusive.keptFor.readGrants, exclusive.keptFor.writeGrants, rfl⟩
    · -- Nobody else can be the owner.
      rcases exclusive'.owner with none | own
      · rw [owner] at none
        cases none
      · rw [owner] at own
        exact absurd (Option.some.inj own) other

/-- However often provisioning was broken off before, at whatever step and with whatever arguments for the range,
an attempt that nothing hinders goes through, and leaves the drive as the first one on a fresh drive would have. -/
theorem retry_converges (suits : p.Suits config bounds) (kept : config.KeepsBounds bounds)
    (tried : Attempted p.segment p.adminKey name config d) :
    let fresh : SimulatedDrive := { name, config }
    let last := { d with queue := [] }.run (.setup p)
    last.result = .ok .nothing ∧
      last.drive.vault.withoutCounts = (fresh.run (.setup p)).drive.vault.withoutCounts := by
  intro fresh last
  obtain ⟨built, exclusive⟩ := tried.exclusive
  obtain ⟨ok, settled⟩ := settles_of_exclusive (d := { d with queue := [] }) suits kept built rfl exclusive
  obtain ⟨-, settled'⟩ := settles_of_exclusive (d := fresh) suits kept rfl rfl .new
  exact ⟨ok, settled.unique settled'⟩

/-- An attempt with another volume key and other bounds, broken off once the drive was activated. -/
theorem retry_converges_activated :
    let p : Provision := ⟨1, 0, 8, [1], [2]⟩
    let q : Provision := ⟨1, 8, 16, [9], [2]⟩
    let config := (SimulatedDrive.new "d").config
    let fresh : SimulatedDrive := { name := "d", config }
    let broken := ((fresh.inject .activateUser .failure).run (.setup q)).drive
    let last := { broken with queue := [] }.run (.setup p)
    p.Suits config ⟨0, 8⟩ ∧ config.KeepsBounds ⟨0, 8⟩ ∧ Attempted 1 [2] "d" config broken ∧
      broken.vault.lockingEnabled = true ∧ (broken.vault.userAt p.user.who).enabled = false ∧
      last.result = .ok .nothing ∧
      last.drive.vault.withoutCounts =
        (SimulatedDrive.run { name := "d", config } (.setup p)).drive.vault.withoutCounts := by
  intro p q config fresh broken
  have suits : p.Suits config ⟨0, 8⟩ := ⟨rfl, rfl, rfl, rfl, by decide +kernel, by decide +kernel⟩
  have kept : config.KeepsBounds ⟨0, 8⟩ := ⟨rfl, rfl⟩
  have quiet : fresh.Honest := fun _ _ mem => nomatch mem
  have queued : (fresh.inject .activateUser .failure).Honest := quiet.inject (by decide)
  have ran : (Episode.alone (fresh.inject .activateUser .failure) (.setup q)).Runs
      (fresh.inject .activateUser .failure) broken := Episode.alone_runs _ _
  have tried : Attempted 1 [2] "d" config broken :=
    .next (d := fresh) (q := q) .fresh rfl ⟨rfl, rfl⟩ queued ran
  have activated : broken.vault.lockingEnabled = true ∧
      (broken.vault.userAt p.user.who).enabled = false := by decide +kernel
  clear_value broken
  exact ⟨suits, kept, tried, activated.1, activated.2, retry_converges suits kept tried⟩

end OpalLocking
