/-
A factory reset is a new start.

What a drive went through before it was reverted shows in two places only: in the calls that it remembers and in how
often its ranges were erased (`SimulatedDrive.Past`). No answer depends on either of them. So it makes no difference
whether a past is put behind a drive before it answers or after it did (`answer_withPast`), and the same goes for whole
operations and for everything that follows them.
-/
import OpalLocking.Proofs.Simulator.Retrying

namespace OpalLocking

open Simulator

/-! ## Drives that answer alike -/

/-- The image of a state opens and answers like the state itself, and stays its image. -/
structure Drive.Mirrors {σ τ : Type} (d : Drive σ) (e : Drive τ) (image : σ → τ) : Prop where
  opening : ∀ s, e.opening (image s) = ((d.opening s).1, image (d.opening s).2)
  answer : ∀ s request, e.answer (image s) request = ((d.answer s request).1, image (d.answer s request).2)

/-- No procedure tells a state from its image. -/
theorem Drive.Mirrors.run_eq {σ τ α : Type} {d : Drive σ} {e : Drive τ} {image : σ → τ} (mirrors : d.Mirrors e image)
    (p : Procedure α) (s : σ) :
    p.run e (image s) = ⟨(p.run d s).result, image (p.run d s).drive, (p.run d s).trace⟩ := by
  induction p generalizing s with
  | done result => rfl
  | openDrive next ih =>
    simp only [Procedure.run, mirrors.opening, ih]
    rfl
  | call request next ih =>
    simp only [Procedure.run, mirrors.answer, ih]
    rfl
  | log record next ih | release next ih =>
    simp only [Procedure.run, ih]
    rfl
  | acquire next ih =>
    simp only [Procedure.run_acquire, ih]
    rfl

/-! ## Erasures of an earlier time -/

namespace Simulator

variable {α β γ δ : Type} {n : Nat}

namespace Traced

/-- The second computation ends as the first does, with its value carried over. -/
def Carries (f : α → β) (x : Traced α) (y : Traced β) : Prop :=
  y.outcome = x.outcome.map f

theorem carries_self (x : Traced α) : x.Carries id x :=
  Option.map_id_apply.symm

theorem carries_bind {f : α → β} {g : γ → δ} {x : Traced α} {y : Traced β} {next : α → Traced γ}
    {next' : β → Traced δ} (first : x.Carries f y) (rest : ∀ value, (next value).Carries g (next' (f value))) :
    (x >>= next).Carries g (y >>= next') := by
  unfold Carries
  rw [outcome_bind, outcome_bind, show y.outcome = _ from first]
  cases x.outcome with
  | none => rfl
  | some value => exact rest value

theorem carries_ite {f : α → β} {p : Prop} [Decidable p] {x x' : Traced α} {y y' : Traced β}
    (then_ : p → x.Carries f y) (else_ : ¬ p → x'.Carries f y') :
    (if p then x else x').Carries f (if p then y else y') := by
  split
  · exact then_ ‹p›
  · exact else_ ‹¬ p›

/-- Changing one entry goes with combining every entry with a fixed one. -/
theorem carries_modify {combine : β → α → α} {change : α → α}
    (commutes : ∀ b a, change (combine b a) = combine b (change a)) (fixed : Vector β n) (t : Vector α n)
    (place : Nat → Access) (i : Nat) :
    (modify t place i change).Carries (Vector.zipWith combine fixed)
      (modify (Vector.zipWith combine fixed t) place i change) := by
  show modify? (Vector.zipWith combine fixed t) i change = (modify? t i change).map _
  unfold modify?
  split
  · next there =>
    refine congrArg some ?_
    ext1 j small
    by_cases here : i = j
    · subst here
      simp [commutes]
    · simp [Vector.getElem_set_ne _ _ here]
  · rfl

end Traced

open Traced

/-- A range whose data had been erased that many times before. -/
def Range.erasedBefore (times : UInt32) (r : Range) : Range :=
  { r with snapshot.erasures := times + r.snapshot.erasures }

theorem Range.keyFor_erasedBefore {times : UInt32} {r : Range} (session : Session) (state : LockState) :
    (r.erasedBefore times).keyFor session state = r.keyFor session state := rfl

theorem Range.revert_erasedBefore (times : UInt32) (r : Range) :
    (r.erasedBefore times).revert = r.revert.erasedBefore times := by
  simp [revert, erasedBefore, UInt32.add_assoc]

theorem Range.erase_erasedBefore (times : UInt32) (r : Range) (keepsConfiguration : Bool) :
    (r.erasedBefore times).erase keepsConfiguration = (r.erase keepsConfiguration).erasedBefore times := by
  cases keepsConfiguration <;> simp [erase, erasedBefore, UInt32.add_assoc]

namespace Vault

variable {v : Vault} {c : Config} {times : Vector UInt32 rangeCount}

/-- A vault whose ranges had been erased that many times before. -/
def erasedBefore (times : Vector UInt32 rangeCount) (v : Vault) : Vault :=
  { v with ranges := Vector.zipWith Range.erasedBefore times v.ranges }

theorem owner_erasedBefore : (v.erasedBefore times).owner = v.owner := rfl

/-- What a call does it does to a vault with an earlier time as well. -/
abbrev Repeats (times : Vector UInt32 rangeCount) (x y : Traced (Status × Vault)) : Prop :=
  x.Carries (Prod.map id (erasedBefore times)) y

theorem carries_withRange {change : Range → Range}
    (commutes : ∀ n r, change (Range.erasedBefore n r) = (change r).erasedBefore n) (range : UInt8) :
    Repeats times (v.withRange range change) ((v.erasedBefore times).withRange range change) :=
  carries_ite (fun _ => carries_bind (carries_modify commutes times v.ranges _ _) fun _ => rfl) fun _ => rfl

theorem carries_withUser (who : UInt32) (change : User → User) :
    (v.withUser who change).Carries (erasedBefore times) ((v.erasedBefore times).withUser who change) :=
  carries_bind (carries_self _) fun _ => rfl

theorem getElem?_erasedBefore (i : Nat) :
    (v.erasedBefore times).ranges[i]? = v.ranges[i]?.map (Range.erasedBefore (times[i]?.getD 0)) := by
  by_cases small : i < rangeCount
  · simp [erasedBefore, Vector.getElem?_eq_getElem small]
  · simp [Vector.getElem?_eq_none (Nat.not_lt.1 small)]

theorem carries_range (range : UInt8) :
    (v.range range).Carries (Option.map (Range.erasedBefore (times[range.toNat]?.getD 0)))
      ((v.erasedBefore times).range range) := by
  unfold Carries
  rw [outcome_range, outcome_range, getElem?_erasedBefore]
  rfl

theorem flags_erasedBefore : (v.erasedBefore times).flags = v.flags := by
  have same : (v.erasedBefore times).ranges.any isLocked = v.ranges.any isLocked := by
    rw [Bool.eq_iff_iff, Vector.any_eq_true, Vector.any_eq_true]
    simp only [erasedBefore, Vector.getElem_zipWith]
    rfl
  rw [flags, flags, same]
  rfl

theorem revert_erasedBefore : (v.erasedBefore times).revert = v.revert.erasedBefore times := by
  unfold revert erasedBefore
  congr 1
  ext1 i small
  simp only [Vector.getElem_map, Vector.getElem_zipWith, Range.revert_erasedBefore]

/-! ### Every call -/

theorem repeats_takeOwnership (key : KeyBlock) :
    Repeats times (v.takeOwnership key) ((v.erasedBefore times).takeOwnership key) := by
  refine carries_bind (carries_self _) fun key => ?_
  rw [owner_erasedBefore]
  cases v.owner <;> rfl

theorem repeats_activateLsp (activation : Activation) :
    Repeats times (v.activateLsp activation) ((v.erasedBefore times).activateLsp activation) :=
  carries_ite (fun _ => rfl) fun _ => carries_bind (carries_self _) fun _ => carries_ite (fun _ => rfl) fun _ => rfl

theorem repeats_setPassword (change : NewPassword) :
    Repeats times (v.setPassword change) ((v.erasedBefore times).setPassword change) := by
  refine carries_bind (carries_self _) fun key => carries_bind (carries_self _) fun proven => ?_
  refine carries_ite (fun _ => rfl) fun _ => carries_bind (carries_self _) fun password => ?_
  refine carries_ite (fun _ => rfl) fun _ => carries_ite (fun _ => ?_) fun _ => rfl
  exact carries_bind (carries_withUser _ _) fun _ => rfl

theorem repeats_activateUser (session : Session) :
    Repeats times (v.activateUser session) ((v.erasedBefore times).activateUser session) := by
  refine carries_bind (carries_self _) fun key => carries_ite (fun _ => rfl) fun _ => ?_
  exact carries_ite (fun _ => carries_bind (carries_withUser _ _) fun _ => rfl) fun _ => rfl

theorem repeats_setupRange (setup : RangeSetup) :
    Repeats times (v.setupRange c setup) ((v.erasedBefore times).setupRange c setup) := by
  refine carries_ite (fun _ => rfl) fun _ => carries_bind (carries_self _) fun key => ?_
  exact carries_ite (fun _ => rfl) fun _ => carries_withRange (fun _ _ => rfl) _

theorem repeats_addUserToRange (grant : LockRequest) :
    Repeats times (v.addUserToRange grant) ((v.erasedBefore times).addUserToRange grant) := by
  refine carries_bind (carries_self _) fun key => carries_ite (fun _ => rfl) fun _ => ?_
  refine carries_ite (fun _ => rfl) fun _ => carries_bind (carries_range _) fun found => ?_
  cases found with
  | none => rfl
  | some r =>
    refine carries_ite (fun _ => ?_) fun _ => carries_ite (fun _ => ?_) fun _ => rfl
    · exact carries_bind (carries_self _) fun _ => carries_withRange (fun _ _ => rfl) _
    · exact carries_bind (carries_self _) fun _ => carries_withRange (fun _ _ => rfl) _

theorem repeats_eraseRange (session : Session) (keepsConfiguration : Bool) :
    Repeats times (v.eraseRange session keepsConfiguration)
      ((v.erasedBefore times).eraseRange session keepsConfiguration) := by
  refine carries_ite (fun _ => rfl) fun _ => carries_bind (carries_self _) fun key => ?_
  refine carries_ite (fun _ => rfl) fun _ => ?_
  exact carries_withRange (fun n r => r.erase_erasedBefore n keepsConfiguration) _

theorem repeats_psidRevert (psid : KeyBlock) :
    Repeats times (v.psidRevert c psid) ((v.erasedBefore times).psidRevert c psid) := by
  refine carries_bind (carries_self _) fun key => carries_ite (fun _ => ?_) fun _ => rfl
  rw [revert_erasedBefore]
  rfl

theorem repeats_lockUnlock (lock : LockRequest) :
    Repeats times (v.lockUnlock c lock) ((v.erasedBefore times).lockUnlock c lock) := by
  unfold lockUnlock
  dsimp only
  cases LockState.ofWord? lock.state with
  | none => rfl
  | some state =>
    refine carries_bind (carries_range _) fun found => ?_
    cases found with
    | none => rfl
    | some r =>
      refine carries_bind (carries_self _) fun _ => ?_
      rw [Range.keyFor_erasedBefore]
      cases r.keyFor lock.session state with
      | none => rfl
      | some key =>
        refine carries_bind (carries_self _) fun proven => carries_ite (fun _ => rfl) fun _ => ?_
        refine carries_bind (carries_self _) fun may => carries_ite (fun _ => rfl) fun _ => ?_
        exact carries_ite (fun _ => rfl) fun _ => carries_withRange (fun _ _ => rfl) _

theorem repeats_saveForResume (lock : LockRequest) :
    Repeats times (v.saveForResume lock) ((v.erasedBefore times).saveForResume lock) :=
  carries_bind (carries_self _) fun _ => carries_withRange (fun _ _ => rfl) _

theorem carries_rangeStatus (session : Session) (submitted : RangeReading) :
    (v.rangeStatus session submitted).Carries id ((v.erasedBefore times).rangeStatus session submitted) := by
  refine carries_bind (carries_self _) fun key => carries_bind (carries_self _) fun proven => ?_
  refine carries_ite (fun _ => rfl) fun _ => carries_bind (carries_range _) fun found => ?_
  cases found <;> rfl

/-- No answer depends on how often ranges were erased before. -/
theorem perform?_erasedBefore (request : Request) :
    (v.erasedBefore times).perform? c request = (v.perform? c request).map (.map id (erasedBefore times)) := by
  show (v.traced c request).Carries (.map id (erasedBefore times)) ((v.erasedBefore times).traced c request)
  cases request with
  | takeOwnership => exact carries_bind (repeats_takeOwnership _) fun _ => rfl
  | activateLsp => exact carries_bind (repeats_activateLsp _) fun _ => rfl
  | setPassword => exact carries_bind (repeats_setPassword _) fun _ => rfl
  | activateUser => exact carries_bind (repeats_activateUser _) fun _ => rfl
  | setupRange => exact carries_bind (repeats_setupRange _) fun _ => rfl
  | addUserToRange => exact carries_bind (repeats_addUserToRange _) fun _ => rfl
  | eraseRange | secureEraseRange => exact carries_bind (repeats_eraseRange _ _) fun _ => rfl
  | psidRevert => exact carries_bind (repeats_psidRevert _) fun _ => rfl
  | lockUnlock => exact carries_bind (repeats_lockUnlock _) fun _ => rfl
  | saveForResume => exact carries_bind (repeats_saveForResume _) fun _ => rfl
  | getStatus =>
    unfold traced
    rw [flags_erasedBefore]
    rfl
  | getGeometry => rfl
  | getRangeStatus => exact carries_bind (carries_rangeStatus _ _) fun _ => rfl

end Vault

end Simulator

/-! ## Drives with a past -/

namespace SimulatedDrive

/-- What is left of the time before a revert. -/
structure Past where
  /-- The calls that were made, the oldest first. -/
  calls : List CallRecord
  /-- How often each range was erased. -/
  erasures : Vector UInt32 rangeCount

variable {d : SimulatedDrive} {past : Past}

/-- The drive with something that it went through before. -/
def withPast (past : Past) (d : SimulatedDrive) : SimulatedDrive :=
  { d with
    vault := d.vault.erasedBefore past.erasures
    calls := past.calls ++ d.calls }

/-- No answer depends on the past. -/
theorem answer_withPast (request : Request) :
    (d.withPast past).answer request = (d.answer request).map id (withPast past) := by
  unfold answer
  dsimp only [withPast]
  rw [List.append_assoc]
  cases d.queue.take? request.kind with
  | some entry => rfl
  | none =>
    dsimp only
    split
    · rfl
    · rw [Vault.perform?_erasedBefore]
      cases d.vault.perform? d.config request <;> rfl

theorem mirrors_withPast (past : Past) : drive.Mirrors drive (withPast past) where
  opening _ := rfl
  answer _ request := answer_withPast request

theorem run_withPast (op : Operation) :
    (d.withPast past).run op = ⟨(d.run op).result, (d.run op).drive.withPast past, (d.run op).trace⟩ :=
  (mirrors_withPast past).run_eq _ d

/-! ## Everything that follows -/

/-- A use of a drive: an operation of the library, or one control call with any block. -/
inductive Use
  | operation (op : Operation)
  | call (request : Request)

/-- What is seen of a use: the result of an operation with its calls, their answers and what it tells the log, or the
answer to a single call. -/
inductive Sight
  | ran (result : Except Error Value) (trace : Trace)
  | answered (exchange : Exchange)

def use (d : SimulatedDrive) : Use → Sight × SimulatedDrive
  | .operation op => (.ran (d.run op).result (d.run op).trace, (d.run op).drive)
  | .call request => (.answered ⟨request, (d.answer request).1⟩, (d.answer request).2)

/-- Uses a drive again and again. -/
def useAll (d : SimulatedDrive) : List Use → List Sight × SimulatedDrive
  | [] => ([], d)
  | u :: us => ((d.use u).1 :: ((d.use u).2.useAll us).1, ((d.use u).2.useAll us).2)

theorem use_withPast (u : Use) : (d.withPast past).use u = (d.use u).map id (withPast past) := by
  cases u with
  | operation op => rw [use, run_withPast]; rfl
  | call request => rw [use, answer_withPast]; rfl

theorem useAll_withPast (us : List Use) : (d.withPast past).useAll us = (d.useAll us).map id (withPast past) := by
  induction us generalizing d with
  | nil => rfl
  | cons u us ih =>
    simp only [useAll, use_withPast]
    dsimp only [Prod.map]
    rw [ih]
    rfl

/-! ## The revert -/

/-- A drive that was never used, but has the name, the configuration and the queued statuses of this one. -/
def unused (d : SimulatedDrive) : SimulatedDrive :=
  { name := d.name, config := d.config, queue := d.queue }

theorem revert_eq (v : Vault) : v.revert = ({} : Vault).erasedBefore (v.ranges.map (·.snapshot.erasures + 1)) := by
  unfold Vault.revert Vault.erasedBefore
  congr 1
  ext1 i small
  simp [Range.erasedBefore, Range.revert]

/-- A factory reset that succeeds is one call, and the call was accepted. -/
theorem factoryReset_call {psid : Secret} (reset : (d.run (.factoryReset psid)).result = .ok .nothing) :
    (d.run (.factoryReset psid)).drive = (d.answer (.psidRevert (.fill 0 psid))).2 ∧
      (d.answer (.psidRevert (.fill 0 psid))).1.status.classify = .success := by
  have serves := d.run_serves (.factoryReset psid)
  have yields : ((Operation.factoryReset psid).procedure d.name).Yields _ (d.run (.factoryReset psid)).result :=
    Procedure.run_yields drive _ d
  rw [show (Procedure.run drive _ d).trace = (d.run (.factoryReset psid)).trace from rfl] at yields
  generalize d.run (.factoryReset psid) = run at serves yields reset ⊢
  rcases Operation.procedure_course yields with ⟨-, e, failed⟩ | ⟨-, course⟩
  · rw [failed] at reset
    cases reset
  · generalize run.trace.exchanges = xs, run.result = r at serves course reset
    cases course with
    | factoryReset course =>
      cases course with
      | refused _ fails =>
        obtain ⟨e, rfl, -⟩ := fails
        cases reset
      | reverted accepted =>
        obtain ⟨same, rest⟩ := serves.step_alone steady
        rw [drive_answer] at same rest
        exact ⟨rest.done_alone steady, same ▸ accepted⟩

/-- A revert that the drive itself accepted leaves an unused drive with a past. -/
theorem factoryReset_drive {psid : Secret} (unqueued : d.queue.statuses .psidRevert = [])
    (reset : (d.run (.factoryReset psid)).result = .ok .nothing) :
    (d.run (.factoryReset psid)).drive =
      d.unused.withPast ⟨(d.run (.factoryReset psid)).drive.calls, d.vault.ranges.map (·.snapshot.erasures + 1)⟩ := by
  obtain ⟨left, accepted⟩ := factoryReset_call reset
  have answered := d.answer_answered (.psidRevert (.fill 0 psid))
  rw [left]
  generalize (d.answer (.psidRevert (.fill 0 psid))).2 = d' at answered ⊢
  obtain ⟨name, config, vault, queue, calls⟩ := d'
  obtain rfl : name = d.name := answered.name
  obtain rfl : config = d.config := answered.config
  obtain rfl : queue = d.queue := by
    refine (show queue = d.queue.serve .psidRevert from answered.queue).trans ?_
    rw [Queue.serve, Queue.take?_eq_none_iff.2 unqueued]
    rfl
  obtain rfl : vault = d.vault.revert := by
    rcases answered.vault with ⟨queued, -⟩ | ⟨-, effect⟩ | ⟨refused, -⟩
    · rw [show Request.kind _ = .psidRevert from rfl, unqueued] at queued
      cases queued
    · cases effect
      rfl
    · exact absurd accepted refused
  simp [withPast, unused, revert_eq]

/-- A factory reset makes a drive new: whatever it is used for afterwards, it answers as a drive that was never used,
and it ends up as that drive does, apart from the calls it remembers and the counts of erasures. It remembers the calls
up to the reset as well, and counts for each range the erasures up to the reset, with the reset itself as one more. The
counts are words; while none of them wraps around they add up as numbers. -/
theorem useAll_of_factoryReset {d : SimulatedDrive} {psid : Secret}
    (unqueued : d.queue.statuses .psidRevert = [])
    (reset : (d.run (.factoryReset psid)).result = .ok .nothing) (uses : List Use) :
    let reverted := (d.run (.factoryReset psid)).drive
    let left := (reverted.useAll uses).2
    let left' := (d.unused.useAll uses).2
    (reverted.useAll uses).1 = (d.unused.useAll uses).1 ∧
      left.name = left'.name ∧ left.config = left'.config ∧ left.queue = left'.queue ∧
      left.calls = reverted.calls ++ left'.calls ∧
      left.vault.withoutCounts = left'.vault.withoutCounts ∧
      ∀ range (there : range < rangeCount),
        let before := d.vault.ranges[range].snapshot.erasures
        let since := left'.vault.ranges[range].snapshot.erasures
        let counted := left.vault.ranges[range].snapshot.erasures
        counted = before + 1 + since ∧
          (before.toNat + 1 + since.toNat < UInt32.size → counted.toNat = before.toNat + 1 + since.toNat) := by
  intro reverted left left'
  have resumes : reverted.useAll uses = (d.unused.useAll uses).map id _ :=
    (congrArg (·.useAll uses) (factoryReset_drive unqueued reset)).trans (useAll_withPast uses)
  have left_eq : left = left'.withPast _ := congrArg Prod.snd resumes
  rw [left_eq]
  refine ⟨by rw [resumes]; rfl, rfl, rfl, rfl, rfl, ?_, fun range there => ?_⟩
  · unfold Vault.withoutCounts withPast Vault.erasedBefore
    congr 1
    ext1 i small
    simp only [Vector.getElem_map, Vector.getElem_zipWith]
    rfl
  · intro before since counted
    have counted_eq : counted = before + 1 + since := by
      simp [counted, before, since, withPast, Vault.erasedBefore, Range.erasedBefore]
    refine ⟨counted_eq, fun fits => ?_⟩
    have reverted_eq : (before + 1).toNat = before.toNat + 1 := toNat_add_of_fits (Nat.lt_of_add_right_lt fits)
    rw [← reverted_eq] at fits
    rw [counted_eq, toNat_add_of_fits fits, reverted_eq]

/-- A provisioned drive that has a refusal queued for later, and is provisioned anew after the reset. -/
theorem useAll_of_factoryReset_provisioned :
    let d := ((SimulatedDrive.new "d").run (.setup ⟨1, 0, 8, [1], [2]⟩)).drive.inject .getStatus .failure
    let reverted := (d.run (.factoryReset defaultPsid)).drive
    let uses : List Use :=
      [.call (.getStatus default), .operation (.lock 1), .operation (.setup ⟨1, 0, 8, [3], [4]⟩)]
    let left := (reverted.useAll uses).2
    let left' := (d.unused.useAll uses).2
    d.vault.isAdmin [2] = true ∧ d.queue.statuses .psidRevert = [] ∧
      (d.run (.factoryReset defaultPsid)).result = .ok .nothing ∧
      (reverted.useAll uses).1 = (d.unused.useAll uses).1 ∧
      left.name = left'.name ∧ left.config = left'.config ∧ left.queue = left'.queue ∧
      left.calls = reverted.calls ++ left'.calls ∧
      left.vault.withoutCounts = left'.vault.withoutCounts ∧
      ∀ range (there : range < rangeCount),
        let before := d.vault.ranges[range].snapshot.erasures
        let since := left'.vault.ranges[range].snapshot.erasures
        let counted := left.vault.ranges[range].snapshot.erasures
        counted = before + 1 + since ∧
          (before.toNat + 1 + since.toNat < UInt32.size → counted.toNat = before.toNat + 1 + since.toNat) := by
  intro d reverted uses
  have admin : d.vault.isAdmin [2] = true := by decide +kernel
  have unqueued : d.queue.statuses .psidRevert = [] := by decide +kernel
  have reset : (d.run (.factoryReset defaultPsid)).result = .ok .nothing := eq_ok_of_toOption (by decide +kernel)
  clear_value d uses
  exact ⟨admin, unqueued, reset, useAll_of_factoryReset unqueued reset uses⟩

end SimulatedDrive

end OpalLocking
