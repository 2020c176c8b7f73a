/-
Provisioning among others who provision other segments of the same drive.

`Provision.LeavesAlone` is what the others keep to at every step. Amid such changes provisioning ends in one of two
ways (`Provision.Course.contended`): it gets its segment, or the drive belongs to somebody else and nothing has
happened to its segment.
-/
import OpalLocking.Proofs.Simulator.Frames
import OpalLocking.Proofs.Simulator.Outcomes

namespace OpalLocking

open Simulator

variable {p : Provision} {c : Config} {bounds : BlockBounds} {τ : Tenancy} {d d' d₁ : SimulatedDrive}
  {others : SimulatedDrive → SimulatedDrive → Prop} {xs : List Exchange} {r : Except Error Unit}

namespace Provision

/-- A change of the drive that does not concern the tenancy of the segment. An owner stays the owner, locking stays
enabled, and both are under one key. -/
structure LeavesAlone (p : Provision) (d d₁ : SimulatedDrive) : Prop where
  config : d₁.config = d.config
  queue : d.queue = [] → d₁.queue = []
  tenancy : d₁.vault.tenancy p.segment = d.vault.tenancy p.segment
  owner : ∀ key, d.vault.owner = some key → d₁.vault.owner = some key
  enabled : d.vault.lockingEnabled = true → d₁.vault.lockingEnabled = true
  oneOwner : d.vault.OneOwner
  oneOwnerAfter : d₁.vault.OneOwner

theorem Poised.leftAlone (poised : p.Poised c τ d) (alone : p.LeavesAlone d d₁) : p.Poised c τ d₁ :=
  ⟨alone.config.trans poised.config, alone.queue poised.queue, alone.tenancy.trans poised.tenancy⟩

theorem Owned.leftAlone (owned : p.Owned c τ d) (alone : p.LeavesAlone d d₁) : p.Owned c τ d₁ :=
  ⟨owned.toPoised.leftAlone alone, alone.owner _ owned.owner⟩

theorem Admitted.poised (admitted : p.Admitted c τ d) : p.Poised c τ d :=
  ⟨admitted.config, admitted.queue, admitted.tenancy⟩

theorem Admitted.leftAlone (admitted : p.Admitted c τ d) (alone : p.LeavesAlone d d₁) : p.Admitted c τ d₁ := by
  obtain ⟨config, queue, tenancy⟩ := admitted.poised.leftAlone alone
  have owner := alone.owner _ (alone.oneOwner.owner_of_isAdmin admitted.admin)
  have enabled := alone.enabled (Vault.isAdmin_iff.1 admitted.admin).1
  exact ⟨config, queue, alone.oneOwnerAfter.isAdmin enabled owner, tenancy⟩

/-- A drive with one key for its owner and its administrator, if it has both, and the tenancy as given. -/
structure Contends (p : Provision) (c : Config) (τ : Tenancy) (d : SimulatedDrive) : Prop
    extends p.Poised c τ d where
  oneOwner : d.vault.OneOwner

theorem Contends.leftAlone (contends : p.Contends c τ d) (alone : p.LeavesAlone d d₁) : p.Contends c τ d₁ :=
  ⟨contends.toPoised.leftAlone alone, alone.oneOwnerAfter⟩

theorem Contends.behind (contends : p.Contends c τ d) (request : Request) :
    p.Contends c τ (d.behind request d.vault) :=
  ⟨contends.toPoised.behind request, contends.oneOwner⟩

theorem Contends.admitted (contends : p.Contends c τ d) (enabled : d.vault.lockingEnabled = true)
    (owner : d.vault.owner = some p.adminKey) : p.Admitted c τ d :=
  ⟨contends.config, contends.queue, contends.oneOwner.isAdmin enabled owner, contends.tenancy⟩

/-- On a drive that is in use under another key nothing comes of it. -/
theorem PlanRun.beaten {erasure : Erasure} {key : Secret} (run : p.PlanRun true erasure bounds xs r)
    (suits : p.Suits c bounds) (alone : ∀ d d₁, others d d₁ → p.LeavesAlone d d₁) (contends : p.Contends c τ d)
    (owner : d.vault.owner = some key) (other : key ≠ p.adminKey)
    (serves : SimulatedDrive.drive.Serves others d xs d') :
    FailsAs r .unauthorized ∧ p.Contends c τ d' ∧ d'.vault.owner = some key := by
  have wrong : ∀ d, p.Contends c τ d ∧ d.vault.owner = some key → d.vault.isAdmin p.adminKey = false := by
    rintro d ⟨contends, owner⟩
    refine Bool.eq_false_iff.2 fun admin => other ?_
    have same := contends.oneOwner.owner_of_isAdmin admin
    rw [owner] at same
    exact Option.some.inj same
  exact run.shutOut suits (fun d h => h.1.toPoised.idle suits) wrong (fun d request h => ⟨h.1.behind request, h.2⟩)
    (fun d d₁ h change => ⟨h.1.leftAlone (alone d d₁ change), (alone d d₁ change).owner key h.2⟩)
    ⟨contends, owner⟩ serves

/-- Provisioning gets its segment, or finds another owner. -/
theorem Course.contended (course : p.Course xs r) (suits : p.Suits c bounds) (kept : c.KeepsBounds bounds)
    (alone : ∀ d d₁, others d d₁ → p.LeavesAlone d d₁) (contends : p.Contends c τ d)
    (serves : SimulatedDrive.drive.Serves others d xs d') :
    (r = .ok () ∧ ∃ before, (before = τ.range ∨ before = τ.range.erase false) ∧
        p.Admitted c (p.provisioned c bounds before) d') ∨
      (FailsAs r .unauthorized ∧ p.Poised c τ d' ∧ ∃ key, d'.vault.owner = some key ∧ key ≠ p.adminKey) := by
  have spared : p.Spared c others := fun τ d d₁ admitted change => admitted.leftAlone (alone d d₁ change)
  -- Somebody else may take the drive over in between, but locking is never disabled again.
  have start : ∃ enabled erasure d₁ ys, (∃ x y, xs = x :: y :: ys) ∧
      (p.Contends c τ d₁ ∧ (enabled = true → d₁.vault.lockingEnabled = true)) ∧
      p.PlanRun enabled erasure bounds ys r ∧ SimulatedDrive.drive.Serves others d₁ ys d' :=
    course.planned_of_serves (P := p.Contends c τ)
      (Q := fun enabled d => p.Contends c τ d ∧ (enabled = true → d.vault.lockingEnabled = true)) suits
      (fun d h => h.toPoised.idle suits) (fun d request h => ⟨h.behind request, id⟩)
      (fun _ d h => ⟨h.1.toPoised.idle suits, h.1.config⟩) (fun _ d request h => ⟨h.1.behind request, h.2⟩)
      (fun d d₁ h change => h.leftAlone (alone d d₁ change))
      (fun _ d d₁ h change =>
        ⟨h.1.leftAlone (alone d d₁ change), fun set => (alone d d₁ change).enabled (h.2 set)⟩)
      contends serves
  obtain ⟨enabled, erasure, d₁, ys, -, ⟨there, learned⟩, run, serves⟩ := start
  cases enabled with
  | true =>
    obtain ⟨key, owner, -⟩ := there.oneOwner (learned rfl)
    by_cases own : key = p.adminKey
    · subst own
      obtain ⟨rfl, admitted⟩ := run.wiped suits kept spared (there.admitted (learned rfl) owner) serves
      exact .inl ⟨rfl, _, .inr rfl, admitted⟩
    · obtain ⟨fails, last, owner⟩ := run.beaten suits alone there owner own serves
      exact .inr ⟨fails, last.toPoised, key, owner, own⟩
  | false =>
    rcases run.takenOver suits kept spared (fun d d₁ owned change => owned.leftAlone (alone d d₁ change))
        (fun d (poised : p.Poised c τ d) => poised) (fun d d₁ poised change => poised.leftAlone (alone d d₁ change))
        there.toPoised serves with
      ⟨rfl, admitted⟩ | ⟨fails, s, key, poised, owner, other, serves⟩
    · exact .inl ⟨rfl, _, .inl rfl, admitted⟩
    · have last := serves.done (P := fun d => p.Poised c τ d ∧ d.vault.owner = some key) SimulatedDrive.steady
        (fun d d₁ h change => ⟨h.1.leftAlone (alone d d₁ change), (alone d d₁ change).owner key h.2⟩)
        ⟨poised.behind _, owner⟩
      exact .inr ⟨fails, last.1, key, last.2, other⟩

end Provision

end OpalLocking
