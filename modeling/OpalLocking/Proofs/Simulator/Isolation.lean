/-
An operation about one segment leaves the rest of the drive alone, however it ends.

Nothing is assumed of the drive, and any statuses may be queued on it, successes too. Each call changes what it is
confined to, or nothing (`Vault.Effect.spares`), and which calls an operation makes is known from its course.
-/
import OpalLocking.Proofs.Simulator.Frames
import OpalLocking.Simulator.Setting

namespace OpalLocking

open Simulator

/-! ## Calls that operations make -/

/-- Asks for the drive to be taken over: to become its owner, or to activate its locking provider. -/
def Request.TakesOver : Request → Prop
  | .takeOwnership _ | .activateLsp _ => True
  | _ => False

/-- Asks for a reading and nothing else. -/
def Request.Reads : Request → Prop
  | .getStatus _ | .getGeometry _ | .getRangeStatus _ _ => True
  | _ => False

namespace Operation

/-- The operations that ask for readings only. -/
def Reads : Operation → Prop
  | .verify .. | .flags | .supported | .lockingEnabled | .geometry => True
  | .setup _ | .setLock .. | .resetSegment .. | .factoryReset _ => False

variable {op : Operation} {segment : UInt32} {xs : List Exchange} {r : Except Error Value} {x : Exchange}

/-- An operation about a segment makes no calls but about this segment. -/
theorem Course.confined (course : op.Course xs r) (about : op.segment? = some segment) (mem : x ∈ xs) :
    x.request.Confined segment := by
  cases course with
  | setup course =>
    cases about
    exact (course.asks mem).confined
  | @setLock _ locked key _ _ course =>
    cases about
    have all : ∀ x ∈ xs, x.request.Confined segment := by
      cases course <;> cases key <;>
        simp [Request.Confined, lockOperationRequest, lockRequest, LockRequest.keeping, KeyBlock.fill]
    exact all x mem
  | verify course | resetSegment course =>
    cases about
    have all : ∀ x ∈ xs, x.request.Confined segment := by
      cases course <;> simp [Request.Confined, disableRequest, adminSession, Session.opening, KeyBlock.fill]
    exact all x mem
  | factoryReset | flags | supported | lockingEnabled | geometry => cases about

theorem Course.reads (course : op.Course xs r) (reads : op.Reads) (mem : x ∈ xs) : x.request.Reads := by
  have all : ∀ x ∈ xs, x.request.Reads := by
    cases course with
    | setup | setLock | resetSegment | factoryReset => exact reads.elim
    | verify course | flags course | supported course | lockingEnabled course | geometry course =>
      cases course <;> simp [Request.Reads]
  exact all x mem

end Operation

/-- A drive in use is not taken over. -/
theorem Provision.not_takesOver_of_mem_calls {p : Provision} {erasure : Erasure} {bounds : BlockBounds}
    {request : Request} (mem : request ∈ p.calls true erasure bounds) : ¬ request.TakesOver := by
  have all : ∀ request ∈ p.calls true erasure bounds, ¬ request.TakesOver := by
    cases erasure <;> simp [calls, wiping, Request.TakesOver]
  exact all request mem

/-- These exchanges begin with the feature word, and according to it locking was never enabled. -/
def ReportedDisabled (xs : List Exchange) : Prop :=
  ∃ (a : Answer (.getStatus default)) (rest : List Exchange),
    xs = ⟨_, a⟩ :: rest ∧ a.status.classify ≠ .system ∧ StatusFlags.lockingEnabled a.reading = false

/-- Only provisioning takes a drive over, and only if locking was reported not to be enabled. -/
theorem Operation.Course.of_takesOver {op : Operation} {xs : List Exchange} {r : Except Error Value} {x : Exchange}
    (course : op.Course xs r) (mem : x ∈ xs) (takes : x.request.TakesOver) :
    (∃ p, op = .setup p) ∧ ReportedDisabled xs := by
  cases course with
  | @setup p _ _ course =>
    refine ⟨⟨p, rfl⟩, ?_⟩
    cases course with
    | unreadable =>
      obtain rfl := List.mem_singleton.1 mem
      exact takes.elim
    | unfit =>
      simp only [List.mem_cons, List.not_mem_nil, or_false] at mem
      rcases mem with rfl | rfl <;> exact takes.elim
    | @planned a g bounds erasure ys _ reached fits run =>
      cases enabled : StatusFlags.lockingEnabled a.reading with
      | false => exact ⟨a, _, rfl, reached, enabled⟩
      | true =>
        rw [enabled] at run
        simp only [List.mem_cons] at mem
        rcases mem with rfl | rfl | mem
        · exact takes.elim
        · exact takes.elim
        · exact absurd takes (Provision.not_takesOver_of_mem_calls (run.mem_calls mem))
  | setLock course | verify course | resetSegment course | factoryReset course | flags course | supported course
  | lockingEnabled course | geometry course =>
    have none : ∀ x ∈ xs, ¬ x.request.TakesOver := by
      cases course <;> simp [Request.TakesOver]
    exact absurd takes (none x mem)

/-! ## What calls leave behind -/

namespace Simulator.Vault

variable {c : Config} {v v' v'' : Vault} {request : Request} {segment : UInt32}

/-- The owner, the key of Admin1 and the locking flag are the same in both vaults. -/
structure SameKeys (v v' : Vault) : Prop where
  owner : v'.owner = v.owner
  admin : v'.admin = v.admin
  lockingEnabled : v'.lockingEnabled = v.lockingEnabled

theorem SameKeys.refl (v : Vault) : v.SameKeys v :=
  ⟨rfl, rfl, rfl⟩

theorem SameKeys.trans (first : v.SameKeys v') (second : v'.SameKeys v'') : v.SameKeys v'' :=
  ⟨second.owner.trans first.owner, second.admin.trans first.admin,
    second.lockingEnabled.trans first.lockingEnabled⟩

theorem Effect.sameKeys (effect : Effect c v request v') (confined : request.Confined segment)
    (valid : checkSegment segment = .ok ()) (keeps : ¬ request.TakesOver) : v.SameKeys v' := by
  rcases effect.keys_cases confined valid with ⟨owner, admin, enabled⟩ | ⟨_, rfl, -⟩ | ⟨_, rfl, -⟩
  · exact ⟨owner, admin, enabled⟩
  · exact absurd trivial keeps
  · exact absurd trivial keeps

theorem Effect.eq_of_reads (effect : Effect c v request v') (reads : request.Reads) : v' = v := by
  cases effect with
  | getStatus | getGeometry | getRangeStatus => rfl
  | _ => exact reads.elim

end Simulator.Vault

namespace SimulatedDrive

variable {d d' : SimulatedDrive} {segment : UInt32} {xs : List Exchange}

/-- The drive that has heard of calls and done nothing about them but take what was queued. -/
def heard (d : SimulatedDrive) (requests : List Request) : SimulatedDrive :=
  { d with
    queue := requests.foldl (fun queue request => queue.serve request.kind) d.queue
    calls := d.calls ++ requests.map CallRecord.ofRequest }

theorem serves_spares (serves : drive.Serves nobody d xs d') (confined : ∀ x ∈ xs, x.request.Confined segment) :
    d'.name = d.name ∧ d'.config = d.config ∧ d.vault.Spares segment d'.vault := by
  refine serves.related_alone (R := fun d d' => d'.name = d.name ∧ d'.config = d.config ∧
    d.vault.Spares segment d'.vault) steady (fun d => ⟨rfl, rfl, .refl _ _⟩) ?_
  rintro d d' x mem ⟨name, config, spares⟩
  have answered := d.answer_answered x.request
  refine ⟨name.trans answered.name, config.trans answered.config, .trans ?_ spares⟩
  rcases answered.vault_cases with same | effect
  · exact .of_tables (congrArg Vault.users same) (congrArg Vault.ranges same)
  · exact effect.spares (confined x mem)

theorem serves_sameKeys (serves : drive.Serves nobody d xs d') (valid : checkSegment segment = .ok ())
    (confined : ∀ x ∈ xs, x.request.Confined segment) (keeps : ∀ x ∈ xs, ¬ x.request.TakesOver) :
    d.vault.SameKeys d'.vault := by
  refine serves.related_alone (R := fun d d' => d.vault.SameKeys d'.vault) steady (fun d => .refl _) ?_
  intro d d' x mem rest
  refine .trans ?_ rest
  rcases (d.answer_answered x.request).vault_cases with same | effect
  · rw [drive_answer, same]
    exact .refl _
  · exact effect.sameKeys (confined x mem) valid (keeps x mem)

theorem serves_heard (serves : drive.Serves nobody d xs d') (reads : ∀ x ∈ xs, x.request.Reads) :
    d' = d.heard (xs.map (·.request)) := by
  induction xs generalizing d with
  | nil =>
    obtain rfl := serves.done_alone steady
    simp [heard]
  | cons x xs ih =>
    obtain ⟨here, reads⟩ := List.forall_mem_cons.1 reads
    obtain ⟨-, rest⟩ := serves.step_alone steady
    have behind : (d.answer x.request).2 = d.heard [x.request] := by
      have answered := d.answer_answered x.request
      have vault : (d.answer x.request).2.vault = d.vault := answered.vault_cases.elim id (·.eq_of_reads here)
      obtain ⟨name, config, queue, calls, -⟩ := answered
      generalize (d.answer x.request).2 = d₁ at *
      cases d₁
      simp_all [heard]
    rw [ih rest reads, drive_answer, behind]
    simp [heard]

end SimulatedDrive

/-! ## Operations -/

/-- Whatever happens, an operation about a segment leaves the drive as it was built, and everything that belongs to
other segments. The keys of the drive stay, unless it is provisioning that was told that locking is not enabled. An
operation that only reads is only heard of. -/
theorem segment_isolation (d : SimulatedDrive) (op : Operation) :
    (∀ segment, op.segment? = some segment →
      (d.run op).drive.name = d.name ∧ (d.run op).drive.config = d.config ∧
        d.vault.Spares segment (d.run op).drive.vault ∧
        (d.vault.SameKeys (d.run op).drive.vault ∨
          (∃ p, op = .setup p) ∧ ReportedDisabled (d.run op).trace.exchanges)) ∧
      (op.Reads → (d.run op).drive = d.heard (d.run op).trace.requests) := by
  have yields : (op.procedure d.name).Yields (d.run op).trace (d.run op).result := Procedure.run_yields _ _ _
  have serves := d.run_serves op
  have course := Operation.procedure_course yields
  rw [Trace.requests_eq]
  generalize (d.run op).trace.exchanges = xs at *
  generalize (d.run op).drive = d' at *
  refine ⟨fun segment about => ?_, fun reads => ?_⟩
  · rcases course with ⟨rfl, -⟩ | ⟨valid, course⟩
    · obtain rfl := serves.done_alone SimulatedDrive.steady
      exact ⟨rfl, rfl, .refl _ _, .inl (.refl _)⟩
    · have confined : ∀ x ∈ xs, x.request.Confined segment := fun x mem => course.confined about mem
      obtain ⟨name, config, spares⟩ := SimulatedDrive.serves_spares serves confined
      refine ⟨name, config, spares, ?_⟩
      by_cases takes : ∃ x ∈ xs, x.request.TakesOver
      · obtain ⟨x, mem, takes⟩ := takes
        exact .inr (course.of_takesOver mem takes)
      · exact .inl (SimulatedDrive.serves_sameKeys serves (Operation.checkSegment_of_check valid about) confined
          fun x mem here => takes ⟨x, mem, here⟩)
  · rcases course with ⟨rfl, -⟩ | ⟨-, course⟩
    · exact SimulatedDrive.serves_heard serves nofun
    · exact SimulatedDrive.serves_heard serves fun x mem => course.reads reads mem

/-- Provisioning that is broken off when the drive was taken over already, and a range that is read while a success
is queued for that. -/
theorem segment_isolation_broken :
    let fresh := SimulatedDrive.new "d"
    let broken := fresh.inject .setupRange .failure
    let setup : Operation := .setup ⟨1, 0, 8, [1], [2]⟩
    let answered := fresh.inject .getRangeStatus .success
    let read : Operation := .verify 1 [1] {}
    setup.segment? = some 1 ∧ broken.vault.Spares 1 (broken.run setup).drive.vault ∧
      (broken.run setup).drive.vault.lockingEnabled = true ∧
      ReportedDisabled (broken.run setup).trace.exchanges ∧
      read.Reads ∧ (answered.run read).drive = answered.heard (answered.run read).trace.requests := by
  intro fresh broken setup answered read
  obtain ⟨-, -, spares, keys⟩ := (segment_isolation broken setup).1 1 rfl
  have enabled : (broken.run setup).drive.vault.lockingEnabled = true := by decide +kernel
  refine ⟨rfl, spares, enabled, ?_, trivial, (segment_isolation answered read).2 trivial⟩
  rcases keys with same | ⟨-, reported⟩
  · have kept := same.lockingEnabled
    rw [enabled] at kept
    cases kept
  · exact reported

end OpalLocking
