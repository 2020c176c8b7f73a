/-
What becomes of provisioning on a drive that nothing is queued on.

Whoever knows the key of Admin1, or of an owner whose drive was not activated yet, gets the segment
(`Provision.PlanRun.wipes`, `Provision.PlanRun.takesOver`), and succeeds if the drive keeps the bounds as they are
(`Provision.PlanRun.wiped`, `Provision.PlanRun.takenOver`). Whoever does not is refused at the first call that asks for
it, with nothing changed (`Provision.PlanRun.shutOut`). Others may use the drive meanwhile: each lemma says what they
have to leave alone.
-/
import OpalLocking.Proofs.ProvisioningCalls
import OpalLocking.Proofs.Simulator.Tenancy

namespace OpalLocking

open Simulator

variable {p : Provision} {c : Config} {bounds : BlockBounds} {τ τ' : Tenancy} {d d' : SimulatedDrive}
  {others : SimulatedDrive → SimulatedDrive → Prop} {request : Request} {planned more : List Request}
  {xs : List Exchange} {stop : Option Exchange} {r : Except Error Unit}

/-- Apart from a plain erase, which always passes, and a geometry, a call passes when it is accepted. -/
theorem Exchange.passes_of_accepted {x : Exchange} (noGeometry : x.kind ≠ .getGeometry) (accepted : x.Accepted) :
    x.Passes := by
  obtain ⟨request, a⟩ := x
  cases request with
  | eraseRange => trivial
  | getGeometry => exact absurd rfl noGeometry
  | _ => exact accepted

namespace Provision

/-- Others leave a tenancy alone, with all that it takes to be served. -/
def Spared (p : Provision) (c : Config) (others : SimulatedDrive → SimulatedDrive → Prop) : Prop :=
  ∀ τ d d₁, p.Admitted c τ d → others d d₁ → p.Admitted c τ d₁

/-! ## A tenant is served -/

/-- The drive accepts the calls one after the other, and takes one tenancy into the other. -/
inductive GrantsAll (p : Provision) (c : Config) : Tenancy → List Request → Tenancy → Prop
  | nil {τ : Tenancy} : GrantsAll p c τ [] τ
  | cons {τ τ₁ τ' : Tenancy} {request rest} (noGeometry : request.kind ≠ .getGeometry)
      (grants : p.Grants c τ request τ₁) (all : GrantsAll p c τ₁ rest τ') : GrantsAll p c τ (request :: rest) τ'

/-- A plan that begins with calls that are granted gets to the end of them. -/
theorem GrantsAll.advance (all : p.GrantsAll c τ planned τ') (spared : p.Spared c others)
    (admitted : p.Admitted c τ d) (follows : Follows (planned ++ more) xs stop)
    (serves : SimulatedDrive.drive.Serves others d xs d') :
    ∃ before ys d₁, xs = before ++ ys ∧ Follows more ys stop ∧ p.Admitted c τ' d₁ ∧
      SimulatedDrive.drive.Serves others d₁ ys d' := by
  induction all generalizing d xs with
  | nil => exact ⟨[], xs, d, rfl, follows, admitted, serves⟩
  | @cons τ τ₁ τ' request rest noGeometry grants _ ih =>
    have passes : ∀ s, p.Admitted c τ s → Exchange.Passes ⟨request, (s.answer request).1⟩ := fun s here =>
      Exchange.passes_of_accepted noGeometry (grants s here).1
    obtain ⟨s, ys, here, rfl, follows, serves⟩ :=
      serves.advance SimulatedDrive.steady (spared τ) admitted passes follows
    obtain ⟨before, zs, d₁, rfl, follows, admitted, serves⟩ := ih (grants s here).2 follows serves
    exact ⟨_ :: before, zs, d₁, rfl, follows, admitted, serves⟩

/-- The calls that both plans end with. -/
def completing (p : Provision) (bounds : BlockBounds) : List Request :=
  [.activateUser (.opening p.user.who 0 p.adminKey), .addUserToRange (p.grant .readOnly),
    .addUserToRange (p.grant .readWrite), .setPassword p.passwordChange, .setupRange (p.setup bounds),
    .lockUnlock (lockRequest p.segment .locked (some p.volumeKey))]

theorem calls_eq_completing (enabled : Bool) (erasure : Erasure) :
    p.calls enabled erasure bounds = (if enabled then p.wiping erasure else p.takingOver) ++
      (p.completing bounds ++ [.getGeometry default, readRequest p.segment p.volumeKey]) :=
  rfl

theorem Suits.grantsAll_completing (suits : p.Suits c bounds) :
    p.GrantsAll c τ (p.completing bounds) (p.provisioned c bounds τ.range) := by
  refine .cons nofun suits.grants_activateUser (.cons nofun suits.grants_grantRead
    (.cons nofun suits.grants_grantWrite (.cons nofun suits.grants_setPassword
    (.cons nofun suits.grants_setupRange (.cons nofun (suits.grants_lockUnlock rfl rfl ?_) .nil)))))
  exact (Range.grants_grantWrite_grantRead_iff suits.isUser).2 (.inl rfl)

/-- Reading back shows the tenant its range. -/
theorem Suits.readsBack (suits : p.Suits c bounds) (spared : p.Spared c others) (admitted : p.Admitted c τ d)
    (enabled : τ.user.enabled = true) (password : τ.user.password = some p.volumeKey)
    (follows : Follows [.getGeometry default, readRequest p.segment p.volumeKey] xs stop)
    (serves : SimulatedDrive.drive.Serves others d xs d') :
    stop = none ∧ xs = [⟨.getGeometry default, ⟨.success, c.geometry⟩⟩,
        ⟨readRequest p.segment p.volumeKey, ⟨.success, Vault.reading τ.range⟩⟩] ∧ p.Admitted c τ d' := by
  have usable : ∀ s, p.Admitted c τ s → Exchange.Passes ⟨.getGeometry default, (s.answer (.getGeometry default)).1⟩ :=
    fun s here => by
      rw [here.answer_getGeometry suits]
      exact (suits.fits rfl).1
  obtain ⟨s, ys, here, rfl, follows, serves⟩ :=
    serves.advance SimulatedDrive.steady (spared τ) admitted usable follows
  rw [SimulatedDrive.drive_answer, here.answer_getGeometry suits] at serves
  have shown : ∀ s, p.Admitted c τ s →
      Exchange.Passes ⟨_, (s.answer (readRequest p.segment p.volumeKey)).1⟩ := fun s here => by
    rw [here.answer_readRequest suits enabled password]
    rfl
  obtain ⟨s₁, ys, there, rfl, follows, serves⟩ :=
    serves.advance SimulatedDrive.steady (spared τ) here.behind shown follows
  rw [SimulatedDrive.drive_answer, there.answer_readRequest suits enabled password] at serves
  cases follows
  refine ⟨rfl, ?_, serves.done SimulatedDrive.steady (spared τ) there.behind⟩
  simp only [SimulatedDrive.drive_answer, here.answer_getGeometry suits,
    there.answer_readRequest suits enabled password]

/-- The range was read back last of all, as provisioning left it. -/
def ReadAsProvisioned (p : Provision) (c : Config) (bounds : BlockBounds) (before : Range)
    (xs : List Exchange) : Prop :=
  ∃ ys, xs = ys ++ [⟨.getGeometry default, ⟨.success, c.geometry⟩⟩,
    ⟨readRequest p.segment p.volumeKey, ⟨.success, Vault.reading (p.provisioned c bounds before).range⟩⟩]

theorem ReadAsProvisioned.cons {before : Range} {x : Exchange} (read : p.ReadAsProvisioned c bounds before xs) :
    p.ReadAsProvisioned c bounds before (x :: xs) := by
  obtain ⟨ys, rfl⟩ := read
  exact ⟨x :: ys, rfl⟩

/-- Once it is a tenant, provisioning goes through. -/
theorem Suits.completes (suits : p.Suits c bounds) (spared : p.Spared c others) (admitted : p.Admitted c τ d)
    (follows : Follows (p.completing bounds ++ [.getGeometry default, readRequest p.segment p.volumeKey]) xs stop)
    (serves : SimulatedDrive.drive.Serves others d xs d') :
    stop = none ∧ p.ReadAsProvisioned c bounds τ.range xs ∧ p.Admitted c (p.provisioned c bounds τ.range) d' := by
  obtain ⟨before, ys, d₁, rfl, follows, there, serves⟩ :=
    suits.grantsAll_completing.advance spared admitted follows serves
  obtain ⟨finished, rfl, admitted⟩ := suits.readsBack spared there rfl rfl follows serves
  exact ⟨finished, ⟨before, rfl⟩, admitted⟩

/-- A plan that was finished by reading back what was asked for succeeds. -/
theorem PlanRun.ok_of_kept {enabled : Bool} {erasure : Erasure} {before : Range}
    (run : p.PlanRun enabled erasure bounds xs r) (suits : p.Suits c bounds) (kept : c.KeepsBounds bounds)
    (follows : Follows (p.calls enabled erasure bounds) xs none) (read : p.ReadAsProvisioned c bounds before xs) :
    r = .ok () := by
  obtain ⟨ys, last⟩ := read
  exact run.ok_iff.2 ⟨follows.finished_iff.1 rfl, ys, _, _, last, suits.readsAsAsked kept before⟩

/-! ## On a drive in use -/

/-- The range is to be erased first, and what comes next is decided by whether that is accepted. -/
theorem PlanRun.erase_first {erasure : Erasure} {P : SimulatedDrive → Prop}
    (run : p.PlanRun true erasure bounds xs r) (stable : ∀ d d₁, P d → others d d₁ → P d₁) (holds : P d)
    (serves : SimulatedDrive.drive.Serves others d xs d') :
    ∃ s ys stop, P s ∧ xs = ⟨.eraseRange (adminSession p.range p.adminKey), (s.answer _).1⟩ :: ys ∧
      Follows (p.calls true erasure bounds) xs stop ∧ Follows (p.calls true erasure bounds).tail ys stop ∧
      SimulatedDrive.drive.Serves others (s.answer (.eraseRange (adminSession p.range p.adminKey))).2 ys d' ∧
      ((s.answer (.eraseRange (adminSession p.range p.adminKey))).1.status.classify = .success ↔
        erasure = .plain) := by
  obtain ⟨stop, follows⟩ := run.follows
  have first : p.calls true erasure bounds =
      .eraseRange (adminSession p.range p.adminKey) :: (p.calls true erasure bounds).tail := by
    cases erasure <;> rfl
  have along := follows
  rw [first] at along
  have passes : ∀ d, P d → Exchange.Passes
      ⟨.eraseRange (adminSession p.range p.adminKey),
        (SimulatedDrive.drive.answer d (.eraseRange (adminSession p.range p.adminKey))).1⟩ := fun _ _ => trivial
  obtain ⟨s, ys, here, rfl, rest, serves⟩ := serves.advance SimulatedDrive.steady stable holds passes along
  exact ⟨s, ys, stop, here, rfl, follows, rest, serves, run.erasing _ (.head _) rfl⟩

/-- With Admin1's key the range is wiped and then provisioned. -/
theorem PlanRun.wipes {erasure : Erasure} (run : p.PlanRun true erasure bounds xs r) (suits : p.Suits c bounds)
    (spared : p.Spared c others) (admitted : p.Admitted c τ d) (serves : SimulatedDrive.drive.Serves others d xs d') :
    Follows (p.calls true erasure bounds) xs none ∧ p.ReadAsProvisioned c bounds (τ.range.erase false) xs ∧
      p.Admitted c (p.provisioned c bounds (τ.range.erase false)) d' := by
  obtain ⟨s, ys, stop, here, rfl, follows, rest, serves, accepted⟩ := run.erase_first (spared τ) admitted serves
  obtain ⟨granted, there⟩ := suits.grants_eraseRange s here
  obtain rfl := accepted.1 granted
  obtain ⟨rfl, read, admitted⟩ := suits.completes spared there rest serves
  exact ⟨follows, read.cons, admitted⟩

/-- That succeeds if the drive takes the bounds as they are. -/
theorem PlanRun.wiped {erasure : Erasure} (run : p.PlanRun true erasure bounds xs r) (suits : p.Suits c bounds)
    (kept : c.KeepsBounds bounds) (spared : p.Spared c others) (admitted : p.Admitted c τ d)
    (serves : SimulatedDrive.drive.Serves others d xs d') :
    r = .ok () ∧ p.Admitted c (p.provisioned c bounds (τ.range.erase false)) d' := by
  obtain ⟨follows, read, admitted⟩ := run.wipes suits spared admitted serves
  exact ⟨run.ok_of_kept suits kept follows read, admitted⟩

/-- Without Admin1's key both erases are refused. -/
theorem PlanRun.shutOut {erasure : Erasure} {P : SimulatedDrive → Prop} (run : p.PlanRun true erasure bounds xs r)
    (suits : p.Suits c bounds) (idle : ∀ d, P d → d.Idle) (wrong : ∀ d, P d → d.vault.isAdmin p.adminKey = false)
    (remembers : ∀ d request, P d → P (d.behind request d.vault)) (stable : ∀ d d₁, P d → others d d₁ → P d₁)
    (holds : P d) (serves : SimulatedDrive.drive.Serves others d xs d') : FailsAs r .unauthorized ∧ P d' := by
  have refuses (d : SimulatedDrive) (holds : P d) :=
    Vault.perform?_erase_of_not_isAdmin (c := d.config) p.range suits.adminKey_short (wrong d holds)
  have plain : ∀ d, P d → d.answer (.eraseRange (adminSession p.range p.adminKey)) =
      (⟨.notAuthorized, ()⟩, d.behind (.eraseRange (adminSession p.range p.adminKey)) d.vault) :=
    fun d holds => (idle d holds).answer_of_performs (refuses d holds).1
  have secure : ∀ d, P d → d.answer (.secureEraseRange (adminSession p.range p.adminKey)) =
      (⟨.notAuthorized, ()⟩, d.behind (.secureEraseRange (adminSession p.range p.adminKey)) d.vault) :=
    fun d holds => (idle d holds).answer_of_performs (refuses d holds).2
  obtain ⟨s, ys, stop, here, rfl, follows, rest, serves, accepted⟩ := run.erase_first stable holds serves
  rw [plain s here] at serves accepted
  cases erasure with
  | plain => exact absurd (accepted.2 rfl) refused_of_notAuthorized
  | secure =>
    have stops : ∀ d, P d → ¬ Exchange.Passes
        ⟨_, (SimulatedDrive.drive.answer d (.secureEraseRange (adminSession p.range p.adminKey))).1⟩ := by
      intro d holds
      rw [SimulatedDrive.drive_answer, secure d holds]
      exact refused_of_notAuthorized
    obtain ⟨s₁, there, rfl, rfl, serves⟩ :=
      serves.halt SimulatedDrive.steady stable (remembers s _ here) stops rest
    have fails := run.failure _ (follows.stopped_iff.1 rfl).1 (stops s₁ there)
    rw [SimulatedDrive.drive_answer, secure s₁ there] at serves fails
    exact ⟨fails, serves.done SimulatedDrive.steady stable (remembers s₁ _ there)⟩

/-! ## On a drive whose locking was never enabled -/

/-- Nothing is queued on the drive, and the tenancy is as given; nothing is said about keys. -/
structure Poised (p : Provision) (c : Config) (τ : Tenancy) (d : SimulatedDrive) : Prop where
  config : d.config = c
  queue : d.queue = []
  tenancy : d.vault.tenancy p.segment = τ

/-- The drive is owned with the admin key, but need not have been activated. -/
structure Owned (p : Provision) (c : Config) (τ : Tenancy) (d : SimulatedDrive) : Prop extends p.Poised c τ d where
  owner : d.vault.owner = some p.adminKey

theorem Poised.idle (poised : p.Poised c τ d) (suits : p.Suits c bounds) : d.Idle :=
  ⟨by rw [poised.config]; exact suits.supported, poised.queue⟩

theorem Poised.behind (poised : p.Poised c τ d) (request : Request) : p.Poised c τ (d.behind request d.vault) :=
  ⟨poised.config, poised.queue, poised.tenancy⟩

/-- Whoever comes first becomes the owner. -/
theorem Poised.takesOwnership (poised : p.Poised c τ d) (suits : p.Suits c bounds)
    (free : d.vault.owner = none ∨ d.vault.owner = some p.adminKey) :
    (d.answer (.takeOwnership (.fill 0 p.adminKey))).1.status.classify = .success ∧
      p.Owned c τ (d.answer (.takeOwnership (.fill 0 p.adminKey))).2 := by
  have content : (KeyBlock.fill 0 p.adminKey).content = p.adminKey := suits.adminKey_content
  rcases free with none | own
  · have effect : Vault.Effect d.config d.vault (.takeOwnership (.fill 0 p.adminKey))
        { d.vault with owner := some (KeyBlock.fill 0 p.adminKey).content } := .takeOwnership none
    obtain ⟨accepted, behind⟩ := (poised.idle suits).accepts effect nofun
    rw [accepted, behind]
    exact ⟨rfl, ⟨poised.config, poised.queue, poised.tenancy⟩, congrArg some content⟩
  · have effect : Vault.Effect d.config d.vault (.takeOwnership (.fill 0 p.adminKey)) d.vault :=
      .keepOwnership (own.trans (congrArg some content.symm))
    obtain ⟨accepted, behind⟩ := (poised.idle suits).accepts effect nofun
    rw [accepted, behind]
    exact ⟨rfl, ⟨poised.config, poised.queue, poised.tenancy⟩, own⟩

/-- Whoever comes later has to know the key of the owner. -/
theorem Poised.refusesOwnership (poised : p.Poised c τ d) (suits : p.Suits c bounds) {key : Secret}
    (owner : d.vault.owner = some key) (other : key ≠ p.adminKey) :
    d.answer (.takeOwnership (.fill 0 p.adminKey)) =
      (⟨.notAuthorized, ()⟩, d.behind (.takeOwnership (.fill 0 p.adminKey)) d.vault) :=
  (poised.idle suits).answer_of_performs (Vault.perform?_takeOwnership_of_ne suits.adminKey_short owner other)

/-- The owner activates the drive, and becomes its administrator with the same key. -/
theorem Owned.activates (owned : p.Owned c τ d) (suits : p.Suits c bounds) :
    (d.answer (.activateLsp p.activation)).1.status.classify = .success ∧
      p.Admitted c τ (d.answer (.activateLsp p.activation)).2 := by
  have content : p.activation.key.content = p.adminKey := suits.adminKey_content
  have few : p.activation.count.toNat ≤ rangeCount := (by decide : (8 : UInt8).toNat ≤ rangeCount)
  have effect : Vault.Effect d.config d.vault (.activateLsp p.activation)
      { d.vault with admin := some p.activation.key.content, lockingEnabled := true } :=
    .activateLsp few (owned.owner.trans (congrArg some content.symm))
  obtain ⟨accepted, behind⟩ := (owned.idle suits).accepts effect nofun
  rw [accepted, behind]
  refine ⟨rfl, owned.config, owned.queue, ?_, owned.tenancy⟩
  exact Vault.isAdmin_iff.2 ⟨rfl, congrArg some content⟩

/-- The drive is taken over and the range provisioned, unless another owner is found there. -/
theorem PlanRun.takesOver {erasure : Erasure} {P : SimulatedDrive → Prop} (run : p.PlanRun false erasure bounds xs r)
    (suits : p.Suits c bounds) (spared : p.Spared c others)
    (keepsOwner : ∀ d d₁, p.Owned c τ d → others d d₁ → p.Owned c τ d₁) (poised : ∀ d, P d → p.Poised c τ d)
    (stable : ∀ d d₁, P d → others d d₁ → P d₁) (holds : P d)
    (serves : SimulatedDrive.drive.Serves others d xs d') :
    (Follows (p.calls false erasure bounds) xs none ∧ p.ReadAsProvisioned c bounds τ.range xs ∧
        p.Admitted c (p.provisioned c bounds τ.range) d') ∨
      (FailsAs r .unauthorized ∧ ∃ s key, P s ∧ s.vault.owner = some key ∧ key ≠ p.adminKey ∧
        SimulatedDrive.drive.Serves others (s.behind (.takeOwnership (.fill 0 p.adminKey)) s.vault) [] d') := by
  obtain ⟨stop, follows⟩ := run.follows
  have along := follows
  rw [calls_eq_completing] at along
  obtain ⟨a, ys, rfl, passed⟩ := along.cons_inv
  obtain ⟨s, here, same, onwards⟩ := serves.step SimulatedDrive.steady stable holds
  dsimp only [SimulatedDrive.drive_answer] at same onwards
  subst same
  by_cases free : s.vault.owner = none ∨ s.vault.owner = some p.adminKey
  · obtain ⟨accepted, owned⟩ := (poised s here).takesOwnership suits free
    rcases passed with ⟨-, rest⟩ | ⟨stops, -⟩
    · have activates : ∀ d, p.Owned c τ d → Exchange.Passes
          ⟨.activateLsp p.activation, (SimulatedDrive.drive.answer d (.activateLsp p.activation)).1⟩ :=
        fun d owned => (owned.activates suits).1
      obtain ⟨s₁, zs, there, rfl, rest, serves⟩ :=
        onwards.advance SimulatedDrive.steady keepsOwner owned activates rest
      obtain ⟨rfl, read, admitted⟩ := suits.completes spared (there.activates suits).2 rest serves
      exact .inl ⟨follows, read.cons.cons, admitted⟩
    · exact absurd accepted stops
  · obtain ⟨key, owner⟩ : ∃ key, s.vault.owner = some key :=
      Option.ne_none_iff_exists'.1 fun none => free (.inl none)
    have other : key ≠ p.adminKey := by
      rintro rfl
      exact free (.inr owner)
    have refuses := (poised s here).refusesOwnership suits owner other
    generalize s.answer (.takeOwnership (.fill 0 p.adminKey)) = outcome at *
    subst refuses
    rcases passed with ⟨accepted, -⟩ | ⟨stops, rfl, rfl⟩
    · exact absurd accepted refused_of_notAuthorized
    · have fails := run.failure _ (follows.stopped_iff.1 rfl).1 stops
      exact .inr ⟨fails, s, key, here, owner, other, onwards⟩

/-- Where the drive takes the bounds as they are, these are the only outcomes. -/
theorem PlanRun.takenOver {erasure : Erasure} {P : SimulatedDrive → Prop} (run : p.PlanRun false erasure bounds xs r)
    (suits : p.Suits c bounds) (kept : c.KeepsBounds bounds) (spared : p.Spared c others)
    (keepsOwner : ∀ d d₁, p.Owned c τ d → others d d₁ → p.Owned c τ d₁) (poised : ∀ d, P d → p.Poised c τ d)
    (stable : ∀ d d₁, P d → others d d₁ → P d₁) (holds : P d)
    (serves : SimulatedDrive.drive.Serves others d xs d') :
    (r = .ok () ∧ p.Admitted c (p.provisioned c bounds τ.range) d') ∨
      (FailsAs r .unauthorized ∧ ∃ s key, P s ∧ s.vault.owner = some key ∧ key ≠ p.adminKey ∧
        SimulatedDrive.drive.Serves others (s.behind (.takeOwnership (.fill 0 p.adminKey)) s.vault) [] d') := by
  rcases run.takesOver suits spared keepsOwner poised stable holds serves with ⟨follows, read, admitted⟩ | outbid
  · exact .inl ⟨run.ok_of_kept suits kept follows read, admitted⟩
  · exact .inr outbid

/-! ## From the start -/

/-- Provisioning learns whether locking is enabled, and goes on with the plan for that. What is assumed of the drive
may depend on what was learned; by the time the plan begins, it may not be true any more. -/
theorem Course.planned_of_serves {P : SimulatedDrive → Prop} {Q : Bool → SimulatedDrive → Prop}
    (course : p.Course xs r) (suits : p.Suits c bounds) (idle : ∀ d, P d → d.Idle)
    (reads : ∀ d request, P d → Q d.vault.lockingEnabled (d.behind request d.vault))
    (ready : ∀ enabled d, Q enabled d → d.Idle ∧ d.config = c)
    (remembers : ∀ enabled d request, Q enabled d → Q enabled (d.behind request d.vault))
    (stable : ∀ d d₁, P d → others d d₁ → P d₁)
    (settled : ∀ enabled d d₁, Q enabled d → others d d₁ → Q enabled d₁) (holds : P d)
    (serves : SimulatedDrive.drive.Serves others d xs d') :
    ∃ enabled erasure d₁ ys, (∃ x y, xs = x :: y :: ys) ∧ Q enabled d₁ ∧ p.PlanRun enabled erasure bounds ys r ∧
      SimulatedDrive.drive.Serves others d₁ ys d' := by
  have flags : ∀ (a : Answer (.getStatus default)) ys,
      SimulatedDrive.drive.Serves others d (⟨_, a⟩ :: ys) d' →
      ∃ s, P s ∧ a = ⟨.success, s.vault.flags⟩ ∧
        SimulatedDrive.drive.Serves others (s.behind (.getStatus default) s.vault) ys d' := by
    intro a ys serves
    obtain ⟨s, here, same, onwards⟩ := serves.step SimulatedDrive.steady stable holds
    dsimp only [SimulatedDrive.drive_answer] at same onwards
    rw [(idle s here).answer_getStatus] at same onwards
    exact ⟨s, here, same, onwards⟩
  have geometry : ∀ enabled s (g : Answer (.getGeometry default)) ys, Q enabled s →
      SimulatedDrive.drive.Serves others s (⟨_, g⟩ :: ys) d' →
      ∃ s₁, Q enabled s₁ ∧ g = ⟨.success, c.geometry⟩ ∧ SimulatedDrive.drive.Serves others s₁ ys d' := by
    intro enabled s g ys here serves
    obtain ⟨s₁, there, same, onwards⟩ := serves.step SimulatedDrive.steady (settled enabled) here
    dsimp only [SimulatedDrive.drive_answer] at same onwards
    obtain ⟨idle, config⟩ := ready enabled s₁ there
    rw [idle.answer_getGeometry, config] at same
    rw [idle.answer_getGeometry] at onwards
    exact ⟨_, remembers enabled s₁ _ there, same, onwards⟩
  cases course with
  | unreadable why =>
    obtain ⟨s, -, rfl, -⟩ := flags _ _ serves
    cases why
  | unfit _ why =>
    obtain ⟨s, here, -, serves⟩ := flags _ _ serves
    obtain ⟨s₁, -, given, -⟩ := geometry _ _ _ _ (reads s _ here) serves
    exact absurd (suits.fits given) (why bounds)
  | @planned a g other erasure ys r _ fits run =>
    obtain ⟨s, here, same, onwards⟩ := flags _ _ serves
    obtain ⟨s₁, there, given, rest⟩ := geometry _ _ _ _ (reads s _ here) onwards
    obtain rfl : bounds = other := (suits.fits given).unique fits
    rw [same, Vault.lockingEnabled_flags] at run
    exact ⟨_, erasure, s₁, ys, ⟨_, _, rfl⟩, there, run, rest⟩

end Provision

end OpalLocking
