/-
Every operation checks its arguments, opens the drive once, and only then makes calls.

`Operation.procedure_eq` splits an operation into these three parts, so that statements about calls need to
look at the last part alone (`Operation.opened`); `Operation.procedure_yields` says what an operation comes to
that is stopped before.
-/
import OpalLocking.Operation
import OpalLocking.Proofs.Steps

namespace OpalLocking

open Procedure (yields_bind yields_lift)

/-- With a check that passes and a drive that opens, only the last part is left. -/
theorem run_on_open {σ α : Type} {d : Drive σ} {s s₁ : σ} {device : String} {check : Except Error Unit}
    {p : Procedure α} {memory : Memory} (valid : check = .ok ()) (opens : d.opening s = (.ok (), s₁)) :
    (do check; openDevice device; p : Procedure α).run d s memory =
      (p.run d s₁ memory).after (.opened (.ok ())) := by
  rw [valid]
  show (openDevice device >>= fun _ => p).run d s memory = _
  unfold openDevice
  show (Procedure.openDrive _).run d s memory = _
  simp only [Procedure.run, opens]
  rfl

namespace Operation

/-- What is checked before the drive is opened. -/
def check : Operation → Except Error Unit
  | .setup provision => provision.check
  | .setLock segment locked key => do
    checkSegment segment
    checkLockKey locked key
  | .verify segment key _ => do
    checkKey .user key
    checkSegment segment
  | .resetSegment segment adminPassword => do
    checkKey .adminPassword adminPassword
    checkSegment segment
  | .factoryReset psid => checkKey .psid psid
  | .flags | .supported | .lockingEnabled | .geometry => .ok ()

/-- What is done on the open drive. -/
def opened (device : String) : Operation → Procedure Value
  | .setup provision => do
    setupOpened device provision
    return .nothing
  | .setLock segment locked key => do
    setLockOpened device segment locked key
    return .nothing
  | .verify segment key want => do
    return .attributes (← verifyOpened device segment key want)
  | .resetSegment segment adminPassword => do
    resetSegmentOpened device segment adminPassword
    return .nothing
  | .factoryReset psid => do
    factoryResetOpened device psid
    return .nothing
  | .flags => do
    return .flags (← queryFlags device)
  | .supported => do
    return .truth (← queryFlags device).supported
  | .lockingEnabled => do
    return .truth (← queryFlags device).lockingEnabled
  | .geometry => do
    return .geometry (← queryGeometry device)

theorem liftM_bind {α β : Type} (x : Except Error α) (f : α → Except Error β) :
    (liftM (x >>= f) : Procedure β) = (liftM x : Procedure α) >>= fun v => liftM (f v) := by
  cases x <;> rfl

theorem procedure_eq (device : String) (op : Operation) :
    op.procedure device = (do op.check; openDevice device; op.opened device) := by
  cases op with
  | setup p => simp only [procedure, check, opened, setupRange, bind_assoc]
  | setLock segment locked key =>
    simp only [procedure, check, opened, OpalLocking.setLock, bind_assoc, liftM_bind]
  | verify segment key want =>
    simp only [procedure, check, opened, OpalLocking.verify, bind_assoc, liftM_bind]
  | resetSegment segment password =>
    simp only [procedure, check, opened, OpalLocking.resetSegment, bind_assoc, liftM_bind]
  | factoryReset psid => simp only [procedure, check, opened, OpalLocking.factoryReset, bind_assoc]
  | flags | supported | lockingEnabled | geometry =>
    simp only [procedure, opened, readSupported, readLockingEnabled, readFlags, readGeometry, bind_assoc,
      pure_bind]
    rfl

variable {σ : Type} {d : Drive σ} {s s₁ : σ} {device : String} {op : Operation} {memory : Memory}

/-- Arguments that do not pass end an operation before the drive is touched. -/
theorem run_of_refused {e : Error} (refused : op.check = .error e) :
    (op.procedure device).run d s memory = ⟨.error e, s, []⟩ := by
  rw [procedure_eq, refused]
  rfl

/-- A drive that does not open is not called. -/
theorem run_of_closed {why : OpenFailure} (valid : op.check = .ok ()) (closed : d.opening s = (.error why, s₁)) :
    (op.procedure device).run d s memory = ⟨.error (.cannotOpen device why), s₁, [.opened (.error why)]⟩ := by
  rw [procedure_eq, valid]
  show (Procedure.openDrive _).run d s memory = _
  simp only [Procedure.run, closed]
  rfl

theorem run_of_open (valid : op.check = .ok ()) (opens : d.opening s = (.ok (), s₁)) :
    (op.procedure device).run d s memory = ((op.opened device).run d s₁ memory).after (.opened (.ok ())) := by
  rw [procedure_eq]
  exact run_on_open valid opens

/-- An operation is stopped by its arguments or by the opening without a single call, or goes on from there. -/
theorem procedure_yields {device : String} {op : Operation} {t r} (h : (op.procedure device).Yields t r) :
    (t.exchanges = [] ∧ ∃ e, r = .error e) ∨
      (op.check = .ok () ∧ ∃ t', t = .opened (.ok ()) :: t' ∧ (op.opened device).Yields t' r) := by
  rw [procedure_eq] at h
  rcases yields_bind.1 h with ⟨t₁, t₂, _, rfl, checked, rest⟩ | ⟨e, rfl, checked⟩
  · obtain ⟨rfl, valid⟩ := yields_lift.1 checked
    rcases yields_bind.1 rest with ⟨t₃, t₄, _, rfl, opening, last⟩ | ⟨e, rfl, opening⟩
    · obtain ⟨rfl, -⟩ | ⟨_, -, h⟩ := openDevice_yields opening
      · exact .inr ⟨valid.symm, t₄, rfl, last⟩
      · cases h
    · obtain ⟨-, h⟩ | ⟨_, rfl, -⟩ := openDevice_yields opening
      · cases h
      · exact .inl ⟨rfl, e, rfl⟩
  · obtain ⟨rfl, -⟩ := yields_lift.1 checked
    exact .inl ⟨rfl, e, rfl⟩

end Operation

end OpalLocking
