/-
Provisioning a segment and using it afterwards.

On a drive that is factory fresh, or whose administrator has the key, provisioning configures the range whatever its
bounds are, and is then decided by what it reads back (`Provision.run_of_ready`): it succeeds if the drive took the
bounds as they were, and otherwise names the bounds that came back rounded. From there the segment is in the hands of
whoever has the volume key, which is all that using it depends on (`SimulatedDrive.Houses`).
-/
import OpalLocking.Proofs.ReadBack
import OpalLocking.Proofs.Rounding
import OpalLocking.Proofs.Simulator.Retrying
import OpalLocking.Proofs.Simulator.TenantAccess

namespace OpalLocking

open Simulator

variable {p : Provision} {c : Config} {bounds : BlockBounds} {d d' : SimulatedDrive}

/-! ## Bounds that a drive takes -/

theorem Provision.WholeBlocks.suits (whole : p.WholeBlocks c.geometry.blockSize) (valid : p.check = .ok ())
    (supported : c.supported = true) (opens : c.failOpen = false) (heeded : c.ignoreLocks = false) :
    p.Suits c (p.inBlocks c.geometry.blockSize) where
  valid := valid
  supported := supported
  opens := opens
  heeded := heeded
  start := (Geometry.sectorsToBlocks_eq ..).trans (if_pos ⟨whole.sized, whole.startFits, whole.start⟩)
  length := (Geometry.sectorsToBlocks_eq ..).trans (if_pos ⟨whole.sized, whole.lengthFits, whole.length⟩)

/-- Its volume key is good enough for any operation. -/
theorem Provision.Suits.keyed (suits : p.Suits c bounds) : checkKey .user p.volumeKey = .ok () :=
  checkKey_eq_ok_iff.2 (checkKey_eq_ok_iff.1 (check_eq_ok suits.valid).2.1)

theorem Provision.Suits.serviceable (suits : p.Suits c bounds) : c.Serviceable :=
  ⟨suits.supported, (Geometry.sectorsToBlocks_eq_some_iff.1 suits.start).1, suits.opens, suits.heeded⟩

/-! ## What a drive that rounds reports -/

theorem Simulator.Config.round_le (c : Config) (bound : UInt64) : c.round bound ≤ bound := by
  unfold Config.round
  split
  · rw [UInt64.le_iff_toNat_le, UInt64.toNat_sub_of_le _ _ (UInt64.le_iff_toNat_le.2 ?_)]
    · exact Nat.sub_le _ _
    · rw [UInt64.toNat_mod]
      exact Nat.mod_le _ _
  · exact UInt64.le_refl bound

/-- In sectors it can be seen whether a bound was rounded. -/
theorem Geometry.blocksToSectors_round_iff {g : Geometry} {sectors blocks : UInt64}
    (whole : g.sectorsToBlocks sectors = some blocks) :
    g.blocksToSectors (c.round blocks) = sectors ↔ c.round blocks = blocks := by
  constructor
  · exact fun reads => UInt64.le_antisymm (c.round_le blocks) (le_of_blocksToSectors whole reads)
  · intro kept
    rw [kept]
    exact blocksToSectors_of_sectorsToBlocks whole

/-- The bounds that a drive rounds, as provisioning finds out about them. -/
def Provision.rounded (p : Provision) (c : Config) (bounds : BlockBounds) : List Mismatch :=
  let sectors := (Geometry.ofReading c.geometry).blocksToSectors
  (if c.round bounds.start = bounds.start then [] else [.offset (sectors (c.round bounds.start)) p.start]) ++
    (if c.round bounds.length = bounds.length then [] else [.length (sectors (c.round bounds.length)) p.length])

theorem Provision.rounded_eq_nil_iff : p.rounded c bounds = [] ↔ c.KeepsBounds bounds := by
  unfold rounded Config.KeepsBounds
  split <;> split <;> simp_all

theorem Provision.attributes_provisioned (before : Range) :
    Attributes.ofReading (.ofReading c.geometry) (Vault.reading (p.provisioned c bounds before).range) =
      { offset := (Geometry.ofReading c.geometry).blocksToSectors (c.round bounds.start)
        length := (Geometry.ofReading c.geometry).blocksToSectors (c.round bounds.length)
        readLockEnabled := true
        writeLockEnabled := true
        state := some .locked
        readLocked := true
        writeLocked := true } := by
  have locked : LockState.locked.word &&& (LockState.readOnly.word ||| LockState.locked.word) ≠ 0 := by decide
  have reading : Vault.reading (p.provisioned c bounds before).range =
      ⟨c.round bounds.start, c.round bounds.length, 1, 1, LockState.locked.word⟩ := rfl
  simp [reading, Attributes.ofReading, LockState.ofWord?_word, locked]

/-- What was provisioned differs from what was asked for by the bounds that were rounded, and by nothing else. -/
theorem Provision.Suits.mismatches_provisioned (suits : p.Suits c bounds) (before : Range) :
    (Attributes.ofReading (.ofReading c.geometry) (Vault.reading (p.provisioned c bounds before).range)).mismatches
      (.lockedRange p.start p.length) = p.rounded c bounds := by
  have start := Geometry.blocksToSectors_round_iff (c := c) suits.start
  have length := Geometry.blocksToSectors_round_iff (c := c) suits.length
  simp only [attributes_provisioned, Attributes.mismatches, Expectations.lockedRange, Attributes.compare, Bool.and_self,
    if_true, List.append_nil, start, length, rounded]

/-! ## Drives that are ready for a segment -/

namespace Simulator.Vault

variable {v : Vault}

/-- As the drive left the factory, or was put back, apart from the counts of erasures. -/
def FactoryFresh (v : Vault) : Prop :=
  v.withoutCounts = {}

instance (v : Vault) : Decidable v.FactoryFresh :=
  inferInstanceAs (Decidable (_ = _))

namespace FactoryFresh

variable (fresh : v.FactoryFresh)
include fresh

theorem owner : v.owner = none :=
  show v.withoutCounts.owner = none by rw [fresh]

theorem lockingEnabled : v.lockingEnabled = false :=
  show v.withoutCounts.lockingEnabled = false by rw [fresh]

theorem saved (range : UInt8) : (v.rangeAt range).saved = none := by
  show (v.rangeAt range).withoutCount.saved = none
  rw [← rangeAt_withoutCounts, fresh, rangeAt_of_blank rfl]

end FactoryFresh

end Simulator.Vault

/-! ## Provisioning alone -/

/-- On a drive that opens, an operation with valid arguments is what it does on the open drive. -/
theorem SimulatedDrive.run_eq (op : Operation) (valid : op.check = .ok ()) (opens : d.config.failOpen = false) :
    d.run op = ((op.opened d.name).run drive d).after (.opened (.ok ())) := by
  have opened : drive.opening d = (.ok (), d) := by
    show (if d.config.failOpen then _ else _, d) = _
    rw [opens]
    rfl
  rw [run, Operation.procedure_eq]
  exact run_on_open valid opened

theorem SimulatedDrive.setup_yields (valid : p.check = .ok ()) (opens : d.config.failOpen = false) :
    ∃ t r, (setupOpened d.name p).Yields t r ∧ (d.run (.setup p)).result = r.map (fun _ => .nothing) ∧
      drive.Serves nobody d t.exchanges (d.run (.setup p)).drive := by
  have yields := Procedure.run_yields drive ((Operation.setup p).opened d.name) d
  have serves := Procedure.run_serves drive ((Operation.setup p).opened d.name) d
  rw [run_eq (.setup p) valid opens]
  generalize Procedure.run drive ((Operation.setup p).opened d.name) d = run at yields serves ⊢
  obtain ⟨r, yields, result⟩ := Procedure.yields_bind_pure.1 yields
  exact ⟨_, r, yields, result, serves⟩

/-- With bounds that fill no whole blocks nothing is provisioned. -/
theorem Provision.wholeBlocks_of_ok (valid : p.check = .ok ()) (idle : d.Idle) (opens : d.config.failOpen = false)
    (ok : (d.run (.setup p)).result = .ok .nothing) : p.WholeBlocks d.config.geometry.blockSize := by
  obtain ⟨t, r, yields, result, serves⟩ := SimulatedDrive.setup_yields valid opens
  have course := setupOpened_course yields
  obtain rfl : r = .ok () := by
    rw [result] at ok
    cases r with
    | ok => rfl
    | error e => cases ok
  generalize t.exchanges = xs at course serves
  cases course with
  | unreadable _ fails | unfit _ _ fails => exact absurd fails not_failsAs_ok
  | planned _ fits _ =>
    obtain ⟨rfl, rest⟩ := idle.step_getStatus serves
    obtain ⟨rfl, -⟩ := SimulatedDrive.Idle.step_getGeometry idle.behind rest
    exact Provision.wholeBlocks_iff.1 ⟨_, fits.2.1, fits.2.2⟩

/-- On a drive that is ready the plan gets to its end, wherever the range lies then. -/
theorem Provision.Course.reads_of_ready {xs : List Exchange} {r : Except Error Unit} (course : p.Course xs r)
    (suits : p.Suits c bounds) (built : d.config = c) (queue : d.queue = [])
    (ready : d.vault.FactoryFresh ∨ d.vault.isAdmin p.adminKey = true)
    (serves : SimulatedDrive.drive.Serves nobody d xs d') :
    ∃ before : Range, before.saved = none ∧ p.ReadAsProvisioned c bounds before xs ∧
      p.Admitted c (p.provisioned c bounds before) d' := by
  have alone : ∀ (P : SimulatedDrive → Prop) (s s₁ : SimulatedDrive), P s → nobody s s₁ → P s₁ :=
    fun _ _ _ _ change => change.elim
  have ready₁ : ∀ s : SimulatedDrive, s.clearCalls = d.clearCalls → s.Idle ∧ s.config = c := by
    intro s same
    obtain ⟨config, left, -⟩ := SimulatedDrive.eq_of_clearCalls same
    exact ⟨⟨by rw [config, built, suits.supported], left.trans queue⟩, config.trans built⟩
  obtain ⟨enabled, erasure, d₁, ys, ⟨x, y, rfl⟩, ⟨rfl, same⟩, run, serves⟩ :=
    course.planned_of_serves (P := (· = d))
      (Q := fun enabled s => enabled = d.vault.lockingEnabled ∧ s.clearCalls = d.clearCalls) suits
      (by rintro _ rfl; exact (ready₁ _ rfl).1) (by rintro _ _ rfl; exact ⟨rfl, rfl⟩)
      (fun _ s held => ready₁ s held.2) (fun _ _ _ held => held) (alone _) (fun _ => alone _) rfl serves
  obtain ⟨config, left, vault⟩ := SimulatedDrive.eq_of_clearCalls same
  have config := config.trans built
  have queue := left.trans queue
  have tenancy : d₁.vault.tenancy p.segment = d.vault.tenancy p.segment := by rw [vault]
  rcases ready with fresh | admin
  · rw [fresh.lockingEnabled] at run
    have poised : p.Poised c (d.vault.tenancy p.segment) d₁ := ⟨config, queue, tenancy⟩
    rcases run.takesOver (P := fun s => p.Poised c (d.vault.tenancy p.segment) s ∧ s.vault.owner = none) suits
        (fun _ => alone _) (alone _) (fun _ held => held.1) (alone _) ⟨poised, vault ▸ fresh.owner⟩ serves with
      ⟨-, read, admitted⟩ | ⟨-, s, key, ⟨-, free⟩, owner, -⟩
    · exact ⟨_, fresh.saved p.range, read.cons.cons, admitted⟩
    · rw [free] at owner
      cases owner
  · rw [(Vault.isAdmin_iff.1 admin).1] at run
    have admitted : p.Admitted c (d.vault.tenancy p.segment) d₁ := ⟨config, queue, vault ▸ admin, tenancy⟩
    obtain ⟨-, read, admitted⟩ := run.wipes suits (fun _ => alone _) admitted serves
    exact ⟨_, rfl, read.cons.cons, admitted⟩

/-- On a drive that is ready the range is configured, locked and read back, and what came back decides. -/
theorem Provision.run_of_ready (suits : p.Suits c bounds) (built : d.config = c) (queue : d.queue = [])
    (ready : d.vault.FactoryFresh ∨ d.vault.isAdmin p.adminKey = true) :
    (d.run (.setup p)).result =
        (if p.rounded c bounds = [] then .ok .nothing else .error (.mismatch p.segment (p.rounded c bounds))) ∧
      ∃ before : Range, before.saved = none ∧
        p.Admitted c (p.provisioned c bounds before) (d.run (.setup p)).drive := by
  have opens : d.config.failOpen = false := by rw [built, suits.opens]
  have idle : d.Idle := ⟨by rw [built, suits.supported], queue⟩
  obtain ⟨t, r, yields, result, serves⟩ := SimulatedDrive.setup_yields suits.valid opens
  obtain ⟨before, unsaved, ⟨ys, last⟩, admitted⟩ :=
    (setupOpened_course yields).reads_of_ready suits built queue ready serves
  have decided := setupOpened_result yields last rfl
  rw [suits.mismatches_provisioned] at decided
  refine ⟨?_, before, unsaved, admitted⟩
  rw [result, decided]
  split <;> rfl

/-! ## Using the segment -/

/-- What was provisioned is in the hands of whoever has the volume key. -/
theorem Provision.Admitted.houses {before : Range} (admitted : p.Admitted c (p.provisioned c bounds before) d)
    (suits : p.Suits c bounds) :
    d.Houses c p.segment p.volumeKey (p.provisioned c bounds before).range := by
  have user : d.vault.userAt p.user.who = _ := congrArg Tenancy.user admitted.tenancy
  have range : d.vault.rangeAt p.range = _ := congrArg Tenancy.range admitted.tenancy
  refine ⟨admitted.config, admitted.queue, ⟨(Vault.isAdmin_iff.1 admitted.admin).1, ?_, ?_, ?_⟩, range⟩
  · exact congrArg User.enabled user
  · exact congrArg User.password user
  · exact (congrArg (·.grants p.user.who) range).trans (suits.grants_provisioned.2 (.inl rfl))

/-- The range was found locked for reading and for writing. -/
def FoundLocked (r : Except Error Value) : Prop :=
  ∃ attributes, r = .ok (.attributes attributes) ∧ attributes.readLocked = true ∧ attributes.writeLocked = true

/-- Whoever brings this key is refused the segment. -/
def SimulatedDrive.Refuses (d : SimulatedDrive) (segment : UInt32) (key : Secret) : Prop :=
  FailsAs (d.run (.unlock segment key)).result .unauthorized ∧
    ∀ want, FailsAs (d.run (.verify segment key want)).result .unauthorized

/-- A range at its bounds that is locked is found so. -/
theorem SimulatedDrive.Houses.foundLocked {before r : Range}
    (houses : d.Houses c p.segment p.volumeKey r) (suits : p.Suits c bounds) (kept : c.KeepsBounds bounds)
    (reads : Vault.reading r = Vault.reading (p.provisioned c bounds before).range) :
    FoundLocked (d.run (.verify p.segment p.volumeKey (.lockedRange p.start p.length))).result := by
  have valid := (Provision.check_eq_ok suits.valid).2.2
  obtain ⟨found, -⟩ := houses.verify suits.serviceable valid suits.keyed (.lockedRange p.start p.length)
  rw [reads, compared, suits.mismatches_provisioned, if_pos (Provision.rounded_eq_nil_iff.2 kept),
    Provision.attributes_provisioned] at found
  exact ⟨_, found, rfl, rfl⟩

theorem SimulatedDrive.Houses.refuses {segment : UInt32} {key other : Secret} {r : Range}
    (houses : d.Houses c segment key r) (able : c.Serviceable) (valid : checkSegment segment = .ok ())
    (keyed : checkKey .user other = .ok ()) (ne : other ≠ key) : d.Refuses segment other :=
  ⟨(houses.unlock_refused able valid keyed ne).1, fun want => (houses.verify_refused able valid keyed ne want).1⟩

/-- The segment verifies as locked, cannot be locked without its key before it was unlocked with it, and can be from
then on; and at no time does any other key open it or read it. -/
def Provision.Delivered (p : Provision) (provisioned : SimulatedDrive) : Prop :=
  let verify : Operation := .verify p.segment p.volumeKey (.lockedRange p.start p.length)
  let checked := provisioned.run verify
  let refused := checked.drive.run (.lock p.segment)
  let unlocked := refused.drive.run (.unlock p.segment p.volumeKey)
  let relocked := unlocked.drive.run (.lock p.segment)
  let rechecked := relocked.drive.run verify
  FoundLocked checked.result ∧
    FailsAs refused.result .unauthorized ∧ (refused.drive.snapshot p.range).state = LockState.locked.word ∧
    unlocked.result = .ok .nothing ∧ (unlocked.drive.snapshot p.range).state = LockState.readWrite.word ∧
    relocked.result = .ok .nothing ∧ FoundLocked rechecked.result ∧
    ∀ d ∈ [provisioned, checked.drive, refused.drive, unlocked.drive, relocked.drive, rechecked.drive],
      ∀ key, checkKey .user key = .ok () → key ≠ p.volumeKey → d.Refuses p.segment key

theorem SimulatedDrive.Houses.delivered {before : Range}
    (houses : d.Houses c p.segment p.volumeKey (p.provisioned c bounds before).range) (suits : p.Suits c bounds)
    (kept : c.KeepsBounds bounds) (unsaved : before.saved = none) : p.Delivered d := by
  have valid := (Provision.check_eq_ok suits.valid).2.2
  have keyed := suits.keyed
  have able := suits.serviceable
  unfold Provision.Delivered
  intro verify checked refused unlocked relocked rechecked
  have checkedHouses : checked.drive.Houses c p.segment p.volumeKey _ :=
    houses.of_clearCalls (houses.verify able valid keyed _).2
  obtain ⟨fails, refusedHouses⟩ := checkedHouses.lock_refused able valid unsaved
  obtain ⟨opened, unlockedHouses⟩ := refusedHouses.unlock able valid keyed
  obtain ⟨locked, relockedHouses⟩ := unlockedHouses.lock able valid rfl
  have recheckedHouses : rechecked.drive.Houses c p.segment p.volumeKey _ :=
    relockedHouses.of_clearCalls (relockedHouses.verify able valid keyed _).2
  have found : Vault.reading _ = Vault.reading (p.provisioned c bounds before).range := rfl
  refine ⟨houses.foundLocked suits kept rfl, fails, ?_, opened, ?_, locked,
    relockedHouses.foundLocked suits kept found, ?_⟩
  · rw [snapshot_eq]
    exact congrArg (·.snapshot.state) refusedHouses.range
  · rw [snapshot_eq]
    exact congrArg (·.snapshot.state) unlockedHouses.range
  · intro d mem key keyed ne
    have housed : ∃ r, d.Houses c p.segment p.volumeKey r := by
      simp only [List.mem_cons, List.not_mem_nil, or_false] at mem
      rcases mem with rfl | rfl | rfl | rfl | rfl | rfl
      · exact ⟨_, houses⟩
      · exact ⟨_, checkedHouses⟩
      · exact ⟨_, refusedHouses⟩
      · exact ⟨_, unlockedHouses⟩
      · exact ⟨_, relockedHouses⟩
      · exact ⟨_, recheckedHouses⟩
    obtain ⟨r, housed⟩ := housed
    exact housed.refuses able valid keyed ne

/-- On a drive that is factory fresh, or has locking enabled under the admin key, provisioning with valid arguments
succeeds exactly if the bounds fill whole blocks and the drive does not round them. If it rounds them, the bounds that
were rounded are all that is complained about. A segment that was provisioned serves its key and no other. -/
theorem provisioning_end_to_end (valid : p.check = .ok ()) (idle : d.Idle) (opens : d.config.failOpen = false)
    (heeded : d.config.ignoreLocks = false) (ready : d.vault.FactoryFresh ∨ d.vault.isAdmin p.adminKey = true) :
    let size := d.config.geometry.blockSize
    let setup := d.run (.setup p)
    (setup.result = .ok .nothing ↔ p.WholeBlocks size ∧ d.config.KeepsBounds (p.inBlocks size)) ∧
      (p.WholeBlocks size → ¬ d.config.KeepsBounds (p.inBlocks size) →
        setup.result = .error (.mismatch p.segment (p.rounded d.config (p.inBlocks size)))) ∧
      (setup.result = .ok .nothing → p.Delivered setup.drive) := by
  intro size setup
  have ends : p.WholeBlocks size → ∃ before : Range, before.saved = none ∧
      p.Admitted d.config (p.provisioned d.config (p.inBlocks size) before) setup.drive ∧ setup.result =
        if p.rounded d.config (p.inBlocks size) = [] then .ok .nothing
        else .error (.mismatch p.segment (p.rounded d.config (p.inBlocks size))) := by
    intro whole
    have suits := whole.suits valid idle.supported opens heeded
    obtain ⟨decided, before, unsaved, admitted⟩ := Provision.run_of_ready suits rfl idle.queue ready
    exact ⟨before, unsaved, admitted, decided⟩
  have ok_iff : setup.result = .ok .nothing ↔ p.WholeBlocks size ∧ d.config.KeepsBounds (p.inBlocks size) := by
    constructor
    · intro ok
      have whole := Provision.wholeBlocks_of_ok valid idle opens ok
      obtain ⟨-, -, -, decided⟩ := ends whole
      rw [ok] at decided
      split at decided
      · next none => exact ⟨whole, Provision.rounded_eq_nil_iff.1 none⟩
      · cases decided
    · rintro ⟨whole, kept⟩
      obtain ⟨-, -, -, decided⟩ := ends whole
      rwa [if_pos (Provision.rounded_eq_nil_iff.2 kept)] at decided
  refine ⟨ok_iff, fun whole rounds => ?_, fun ok => ?_⟩
  · obtain ⟨-, -, -, decided⟩ := ends whole
    rwa [if_neg fun none => rounds (Provision.rounded_eq_nil_iff.1 none)] at decided
  · obtain ⟨whole, kept⟩ := ok_iff.1 ok
    have suits := whole.suits valid idle.supported opens heeded
    obtain ⟨before, unsaved, admitted, -⟩ := ends whole
    exact (admitted.houses suits).delivered suits kept unsaved

/-- A new drive takes a range as it is asked for; one in use that rounds to eight blocks does not take another. -/
theorem provisioning_end_to_end_both :
    let p : Provision := ⟨1, 0, 8, [1], [2]⟩
    let q : Provision := ⟨2, 4, 20, [3], [2]⟩
    let fresh := SimulatedDrive.new "d"
    let coarse := (fresh.forceOwned [2]).withGranularity 8
    p.check = .ok () ∧ fresh.Idle ∧ fresh.config.failOpen = false ∧ fresh.config.ignoreLocks = false ∧
      fresh.vault.FactoryFresh ∧ (fresh.run (.setup p)).result = .ok .nothing ∧
      p.Delivered (fresh.run (.setup p)).drive ∧
      q.check = .ok () ∧ coarse.Idle ∧ coarse.config.failOpen = false ∧ coarse.config.ignoreLocks = false ∧
      coarse.vault.isAdmin q.adminKey = true ∧
      (coarse.run (.setup q)).result = .error (.mismatch 2 [.offset 0 4, .length 16 20]) := by
  intro p q fresh coarse
  have freshIdle : fresh.Idle := ⟨rfl, rfl⟩
  have coarseIdle : coarse.Idle := ⟨rfl, rfl⟩
  have factory : fresh.vault.FactoryFresh := by decide +kernel
  have admin : coarse.vault.isAdmin q.adminKey = true := by decide
  obtain ⟨ok_iff, -, delivered⟩ := provisioning_end_to_end (p := p) rfl freshIdle rfl rfl (.inl factory)
  obtain ⟨-, rounds, -⟩ := provisioning_end_to_end (p := q) rfl coarseIdle rfl rfl (.inr admin)
  have ok := ok_iff.2 ⟨⟨by decide, by decide, by decide, by decide, by decide⟩, rfl, rfl⟩
  have complaint : q.rounded coarse.config (q.inBlocks coarse.config.geometry.blockSize) =
      [.offset 0 4, .length 16 20] := by decide +kernel
  have moved : coarse.config.round (q.inBlocks coarse.config.geometry.blockSize).start ≠
      (q.inBlocks coarse.config.geometry.blockSize).start := by decide +kernel
  have rounded := rounds ⟨by decide, by decide, by decide, by decide, by decide⟩ fun kept => moved kept.1
  rw [complaint] at rounded
  exact ⟨rfl, freshIdle, rfl, rfl, factory, ok, delivered ok, rfl, coarseIdle, rfl, rfl, admin, rounded⟩

end OpalLocking
