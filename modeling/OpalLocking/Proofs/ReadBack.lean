/-
The result of provisioning once the range was read back.

`Provision.PlanRun` says in which kind of error provisioning ends. If the last call was a reading that the drive gave,
more is known: the result is decided by what differs between that reading and what was asked for
(`setupOpened_result`).
-/
import OpalLocking.Proofs.ProvisioningPlan

namespace OpalLocking

open Procedure (yields_bind yields_bind_pure yields_lift yields_record yields_record_bind)

variable {p : Provision} {device : String} {bounds : BlockBounds} {t : Trace} {r : Except Error Unit}

namespace Provision

/-- The last thing that was done is to compare the range with what was asked for. -/
def EndsComparing (p : Provision) (device : String) (xs : List Exchange) (r : Except Error Unit) : Prop :=
  ∃ (before : List Exchange) (t : Trace) (compared : Except Error Attributes),
    xs = before ++ t.exchanges ∧
      (verifyOpened device p.segment p.volumeKey (.lockedRange p.start p.length)).Yields t compared ∧
      r = compared.map fun _ => ()

theorem EndsComparing.append {xs : List Exchange} (ends : p.EndsComparing device xs r) (before : List Exchange) :
    p.EndsComparing device (before ++ xs) r := by
  obtain ⟨between, t, compared, rfl, yields, result⟩ := ends
  exact ⟨before ++ between, t, compared, (List.append_assoc ..).symm, yields, result⟩

/-- A plan reads the range at no other time. -/
theorem runAll_endsComparing {enabled : Bool} (h : (p.runAll device bounds (SetupStep.plan enabled)).Yields t r) :
    (∀ x ∈ t.exchanges, x.kind ≠ .getRangeStatus) ∨ p.EndsComparing device t.exchanges r := by
  rw [plan_eq, runAll_append] at h
  rcases yields_bind.1 h with ⟨t₁, t₂, _, rfl, -, last⟩ | ⟨e, rfl, steps⟩
  · obtain ⟨t₃, rfl, verify⟩ := yields_record_bind.1 last
    have verify : (p.run device bounds .verify).Yields t₃ r := by
      simpa only [runAll, bind_pure_unit] using verify
    obtain ⟨compared, yields, result⟩ := yields_bind_pure.1 verify
    exact .inr ⟨t₁.exchanges, t₃, compared, by simp, yields, result⟩
  · obtain ⟨erasure, -, stop, -, follows⟩ := runAll_prelude steps
    have others : ∀ request ∈ (if enabled then p.wiping erasure else p.takingOver) ++
        configuring.filterMap (p.stepCall? bounds), request.kind ≠ .getRangeStatus := by
      cases enabled <;> cases erasure <;> simp [wiping, takingOver, configuring, stepCall?, Request.kind]
    exact .inl fun x mem => others _ (follows.mem_plan mem)

end Provision

theorem setupOpened_endsComparing (h : (setupOpened device p).Yields t r) :
    (∀ x ∈ t.exchanges, x.kind ≠ .getRangeStatus) ∨ p.EndsComparing device t.exchanges r := by
  obtain ⟨a, ⟨-, calls, -⟩ | ⟨-, t₁, calls, rest⟩⟩ := queryFlags_bind_yields h
  · exact .inl (by simp [calls, Exchange.kind, Request.kind])
  · obtain ⟨g, ⟨-, calls₂, -⟩ | ⟨-, t₂, calls₂, rest⟩⟩ := queryGeometry_bind_yields rest
    · exact .inl (by simp [calls, calls₂, Exchange.kind, Request.kind])
    · have behind : (∀ x ∈ t₂.exchanges, x.kind ≠ .getRangeStatus) ∨ p.EndsComparing device t₂.exchanges r := by
        rcases yields_bind.1 rest with ⟨t₃, t₄, bounds, rfl, converted, steps⟩ | ⟨e, rfl, converted⟩
        · obtain ⟨rfl, -⟩ := yields_lift.1 converted
          rcases yields_bind.1 steps with ⟨t₅, t₆, _, rfl, plan, said⟩ | ⟨e, rfl, plan⟩
          · obtain ⟨rfl, rfl⟩ := yields_record.1 said
            simpa using Provision.runAll_endsComparing plan
          · exact Provision.runAll_endsComparing plan
        · obtain ⟨rfl, -⟩ := yields_lift.1 converted
          exact .inl (by simp)
      rw [calls, calls₂]
      rcases behind with none | ends
      · exact .inl (by simpa [Exchange.kind, Request.kind] using none)
      · exact .inr (ends.append [_, _])

/-- What provisioning comes to that has read its range. -/
theorem setupOpened_result {before : List Exchange} {g : Answer (.getGeometry default)}
    {a : Answer (readRequest p.segment p.volumeKey)} (h : (setupOpened device p).Yields t r)
    (last : t.exchanges = before ++ [⟨_, g⟩, ⟨_, a⟩]) (accepted : a.status.classify = .success) :
    let differences :=
      (Attributes.ofReading (.ofReading g.reading) a.reading).mismatches (.lockedRange p.start p.length)
    r = if differences = [] then .ok () else .error (.mismatch p.segment differences) := by
  intro differences
  rcases setupOpened_endsComparing h with none | ⟨between, t₁, compared, calls, yields, rfl⟩
  · exact absurd rfl (none ⟨_, a⟩ (by simp [last]))
  · have course := verifyOpened_course yields
    rw [last] at calls
    generalize t₁.exchanges = xs at calls course
    cases course with
    | unusable =>
      have same := congrArg List.getLast? calls
      simp at same
    | refused _ refused =>
      obtain ⟨rfl, rfl⟩ : g = _ ∧ a = _ := by simpa using (List.append_inj' calls rfl).2
      exact absurd accepted refused
    | matched _ _ same =>
      obtain ⟨rfl, rfl⟩ : g = _ ∧ a = _ := by simpa using (List.append_inj' calls rfl).2
      rw [if_pos same]
      rfl
    | differed _ _ differs some =>
      obtain ⟨rfl, rfl⟩ : g = _ ∧ a = _ := by simpa using (List.append_inj' calls rfl).2
      subst differs
      rw [if_neg some]
      rfl

end OpalLocking
