/-
What provisioning a range asks of a drive, for every drive that opens and reports its feature word.

Nothing is assumed of the answers behind the feature word: each may come with any status and any reading. The
feature word and the geometry decide which plan is followed and with which bounds, and the answers to the plan
decide where it stops and what comes of it. What the blocks of the plan carry is told word by word
(`Provision.spelled`).
-/
import OpalLocking.Proofs.ProvisioningPlan
import OpalLocking.Script

namespace OpalLocking

attribute [ext] BlockBounds

theorem Provision.Fits.unique {p : Provision} {g : Answer (.getGeometry default)} {bounds other : BlockBounds}
    (fits : p.Fits g bounds) (also : p.Fits g other) : bounds = other := by
  obtain ⟨-, start, length⟩ := fits
  obtain ⟨-, start', length'⟩ := also
  exact BlockBounds.ext (Option.some.inj (start.symm.trans start')) (Option.some.inj (length.symm.trans length'))

/-- The calls behind the geometry with every word of their blocks. The two grants ask for the read lock (1) and the write
lock (2), and the last change is to the locked state (4). -/
def Provision.spelled (p : Provision) (enabled : Bool) (erasure : Erasure) (bounds : BlockBounds) : List Request :=
  let range := p.segment.toUInt8
  let user := p.segment + 1
  let admin : Session := { singleUser := 0, who := 0, key := .fill range p.adminKey }
  let asUser : Session := { singleUser := 0, who := user, key := .fill range p.volumeKey }
  let access (state : UInt32) : LockRequest :=
    { session := { singleUser := 0, who := user, key := .fill range p.adminKey }, state, flags := 0 }
  (if enabled then .eraseRange admin :: if erasure = .secure then [.secureEraseRange admin] else []
    else
      [.takeOwnership (.fill 0 p.adminKey),
        .activateLsp
          { key := .fill 0 p.adminKey
            singleUser := 0
            count := 8
            ranges := .ofFn fun i => [1, 2, 3, 4, 5, 6, 7, 8].getD i 0 }]) ++
  [.activateUser { singleUser := 0, who := user, key := .fill 0 p.adminKey },
    .addUserToRange (access 1),
    .addUserToRange (access 2),
    .setPassword { session := admin, user := asUser },
    .setupRange { start := bounds.start, length := bounds.length, readLock := 1, writeLock := 1, session := admin },
    .lockUnlock { session := asUser, state := 4, flags := 0 },
    .getGeometry default,
    .getRangeStatus asUser default]

theorem Provision.calls_eq_spelled (p : Provision) (enabled : Bool) (erasure : Erasure) (bounds : BlockBounds) :
    p.calls enabled erasure bounds = p.spelled enabled erasure bounds := by
  cases enabled with
  | false => rfl
  | true => cases erasure <;> rfl

/-- The first call on the open drive. -/
theorem exchanges_setupOpened {σ : Type} (d : Drive σ) (s : σ) (device : String) (p : Provision) :
    ∃ rest, ((setupOpened device p).run d s).trace.exchanges =
      ⟨.getStatus default, (d.answer s (.getStatus default)).1⟩ :: rest := by
  unfold setupOpened queryFlags
  rw [bind_assoc]
  exact ⟨_, rfl⟩

/-- Provisioning asks for the feature word, for the geometry, and then for the calls of its plan in their order, each
with the words of its block. If the bounds do not fit the geometry it ends there, and if they do it ends at the first
call that does not pass, in the kind of error that this call stands for; and it succeeds exactly when all calls passed
and the range was read back as asked for. -/
theorem setupRange_calls {σ : Type} {d : Drive σ} {s s₁ : σ} {device : String} {p : Provision}
    (valid : p.check = .ok ()) (opens : d.opening s = (.ok (), s₁))
    (reported : (d.answer s₁ (.getStatus default)).1.status.classify = .success) :
    let run := (setupRange device p).run d s
    let flags : Answer (.getStatus default) := (d.answer s₁ (.getStatus default)).1
    (∀ enabled erasure bounds, p.calls enabled erasure bounds = p.spelled enabled erasure bounds) ∧
      ∃ (g : Answer (.getGeometry default)) (xs : List Exchange),
        run.trace.exchanges = ⟨.getStatus default, flags⟩ :: ⟨.getGeometry default, g⟩ :: xs ∧
          ((∀ bounds, ¬ p.Fits g bounds) → xs = [] ∧ FailsAs run.result .invalid) ∧
          ∀ bounds, p.Fits g bounds →
            ∃ erasure, p.PlanRun (StatusFlags.lockingEnabled flags.reading) erasure bounds xs run.result := by
  intro run flags
  refine ⟨p.calls_eq_spelled, ?_⟩
  have opened : run = ((setupOpened device p).run d s₁).after (.opened (.ok ())) := run_on_open valid opens
  have exchanges : run.trace.exchanges = ((setupOpened device p).run d s₁).trace.exchanges := by
    rw [opened]
    rfl
  have result : run.result = ((setupOpened device p).run d s₁).result := by
    rw [opened]
    rfl
  have course : p.Course run.trace.exchanges run.result := by
    rw [exchanges, result]
    exact setupOpened_course (Procedure.run_yields d _ s₁)
  obtain ⟨rest, first⟩ := exchanges_setupOpened d s₁ device p
  rw [← exchanges] at first
  generalize run.trace.exchanges = xs at *
  generalize run.result = r at *
  cases course with
  | unreadable why fails =>
    cases first
    rw [reported] at why
    cases why
  | @unfit a g r reached why fails =>
    cases first
    exact ⟨g, [], rfl, fun _ => ⟨rfl, fails⟩, fun bounds fits => absurd fits (why bounds)⟩
  | @planned a g bounds erasure xs r reached fits planned =>
    cases first
    refine ⟨g, xs, rfl, fun unfit => absurd fits (unfit bounds), fun other also => ⟨erasure, ?_⟩⟩
    rw [← fits.unique also]
    exact planned

/-- A drive that grants everything, and reports the range as it was asked for. -/
theorem setupRange_calls_granted :
    let p : Provision := ⟨1, 0, 8, [1], [2]⟩
    let s : Script := {
      answers := [(.getGeometry, [{ status := .success, blockSize := some 512 }]),
        (.getRangeStatus, [{
          status := .success, length := some 8, readLock := some 1, writeLock := some 1, state := some 4 }])] }
    let run := (setupRange "d" p).run Script.drive s
    p.check = .ok () ∧ Script.drive.opening s = (.ok (), s) ∧
      (Script.drive.answer s (.getStatus default)).1.status.classify = .success ∧ run.result = .ok () ∧
      (∀ enabled erasure bounds, p.calls enabled erasure bounds = p.spelled enabled erasure bounds) ∧
      ∃ (g : Answer (.getGeometry default)) (xs : List Exchange),
        run.trace.exchanges =
          ⟨.getStatus default, (Script.drive.answer s (.getStatus default)).1⟩ :: ⟨.getGeometry default, g⟩ :: xs ∧
        ((∀ bounds, ¬ p.Fits g bounds) → xs = [] ∧ FailsAs run.result .invalid) ∧
        ∀ bounds, p.Fits g bounds → ∃ erasure, p.PlanRun
          (StatusFlags.lockingEnabled (Script.drive.answer s (.getStatus default)).1.reading) erasure bounds xs
            run.result :=
  ⟨rfl, rfl, rfl, rfl, setupRange_calls rfl rfl rfl⟩

end OpalLocking
