/-
The calls that provisioning a range makes, in their order, and what they come to.

`Provision.calls` is the plan written out, once the feature word, the geometry and the fate of the plain erase
are known. `setupOpened_course` says that no drive can make provisioning leave it: every run asks for the feature
word and the geometry first and is then a `Provision.PlanRun`.
-/
import OpalLocking.Proofs.Comparison
import OpalLocking.Proofs.Courses
import OpalLocking.Proofs.Plans

namespace OpalLocking

open Procedure (yields_bind yields_bind_pure yields_lift yields_record yields_withBuffer yields_record_bind)

namespace Provision

variable {p : Provision} {device : String} {bounds : BlockBounds} {t : Trace} {r : Except Error Unit}

/-! ## The plan -/

/-- The calls that wipe the range, by the erase that was accepted. -/
def wiping (p : Provision) : Erasure → List Request
  | .plain => [.eraseRange (adminSession p.range p.adminKey)]
  | .secure =>
    [.eraseRange (adminSession p.range p.adminKey), .secureEraseRange (adminSession p.range p.adminKey)]

/-- The calls that take over a drive whose locking was never enabled. -/
def takingOver (p : Provision) : List Request :=
  [.takeOwnership (.fill 0 p.adminKey), .activateLsp p.activation]

/-- Everything that is asked for behind the geometry. -/
def calls (p : Provision) (enabled : Bool) (erasure : Erasure) (bounds : BlockBounds) : List Request :=
  (if enabled then p.wiping erasure else p.takingOver) ++
  [.activateUser (.opening p.user.who 0 p.adminKey),
    .addUserToRange (p.grant .readOnly),
    .addUserToRange (p.grant .readWrite),
    .setPassword p.passwordChange,
    .setupRange (p.setup bounds),
    .lockUnlock (lockRequest p.segment .locked (some p.volumeKey)),
    .getGeometry default,
    readRequest p.segment p.volumeKey]

/-- The bounds are whole numbers of blocks of a geometry that can be used. -/
def Fits (p : Provision) (g : Answer (.getGeometry default)) (bounds : BlockBounds) : Prop :=
  g.Usable ∧ (Geometry.ofReading g.reading).sectorsToBlocks p.start = some bounds.start ∧
    (Geometry.ofReading g.reading).sectorsToBlocks p.length = some bounds.length

/-- The range reads as it was asked for: at its bounds, with both locks enabled, and locked. -/
def ReadsAsAsked (p : Provision) (g : Geometry) (range : RangeReading) : Prop :=
  g.blocksToSectors range.start = p.start ∧ g.blocksToSectors range.length = p.length ∧
    range.readLock ≠ 0 ∧ range.writeLock ≠ 0 ∧ range.state = LockState.locked.word

/-- The last two exchanges read the range back as it was asked for. -/
def ReadBack (p : Provision) (xs : List Exchange) : Prop :=
  ∃ (before : List Exchange) (g : Answer (.getGeometry default)) (a : Answer (readRequest p.segment p.volumeKey)),
    xs = before ++ [⟨_, g⟩, ⟨_, a⟩] ∧ p.ReadsAsAsked (.ofReading g.reading) a.reading

theorem readBack_pair {p : Provision} {g : Answer (.getGeometry default)}
    {a : Answer (readRequest p.segment p.volumeKey)} (before : List Exchange) :
    p.ReadBack (before ++ [⟨_, g⟩, ⟨_, a⟩]) ↔ p.ReadsAsAsked (.ofReading g.reading) a.reading := by
  constructor
  · rintro ⟨before', g', a', same, asked⟩
    obtain ⟨rfl, rfl⟩ : g = g' ∧ a = a' := by simpa using (List.append_inj' same rfl).2
    exact asked
  · intro asked
    exact ⟨before, g, a, rfl, asked⟩

/-- The exchanges are the plan up to the first one that does not pass, and the result is what they tell. -/
structure PlanRun (p : Provision) (enabled : Bool) (erasure : Erasure) (bounds : BlockBounds)
    (xs : List Exchange) (r : Except Error Unit) : Prop where
  erasing : ∀ x ∈ xs, x.kind = .eraseRange → (x.Accepted ↔ erasure = .plain)
  inOrder : xs.map (·.request) <+: p.calls enabled erasure bounds
  /-- Nothing is asked for behind a failure. -/
  onwards : ∀ x ∈ xs.dropLast, x.Passes
  failure : ∀ x, xs.getLast? = some x → ¬ x.Passes → FailsAs r x.failureKind
  complete : (∀ x ∈ xs, x.Passes) → xs.map (·.request) = p.calls enabled erasure bounds
  mismatch : (∀ x ∈ xs, x.Passes) → ¬ p.ReadBack xs → FailsAs r .invalid
  ok_iff : r = .ok () ↔ (∀ x ∈ xs, x.Passes) ∧ p.ReadBack xs

/-! ## Steps of one call -/

/-- The call of a step that makes only one; wiping and reading back are followed apart from the others. -/
def stepCall? (p : Provision) (bounds : BlockBounds) : SetupStep → Option Request
  | .takeOwnership => some (.takeOwnership (.fill 0 p.adminKey))
  | .activateLockingSp => some (.activateLsp p.activation)
  | .eraseRange => none
  | .activateUser => some (.activateUser (.opening p.user.who 0 p.adminKey))
  | .grantReadOnly => some (.addUserToRange (p.grant .readOnly))
  | .grantReadWrite => some (.addUserToRange (p.grant .readWrite))
  | .setUserPassword => some (.setPassword p.passwordChange)
  | .configureRange => some (.setupRange (p.setup bounds))
  | .lockRange => some (.lockUnlock (lockRequest p.segment .locked (some p.volumeKey)))
  | .verify => none

theorem run_performs {step : SetupStep} {request : Request} (single : p.stepCall? bounds step = some request) :
    (p.run device bounds step).Performs [request] := by
  cases step with
  | eraseRange | verify => cases single
  | takeOwnership =>
    cases single
    exact .withBuffer (.submit (fun a => expectEntry_judges _ _ _) fun a => Iff.rfl)
  | setUserPassword =>
    cases single
    exact .record_bind (.withBuffer (.submit (fun a => expect_judges _ _ _) fun a => Iff.rfl))
  | activateLockingSp | activateUser | grantReadOnly | grantReadWrite | configureRange | lockRange =>
    cases single
    exact .withBuffer (.submit (fun a => expect_judges _ _ _) fun a => Iff.rfl)

/-- Steps of one call each perform their calls in order. -/
theorem runAll_performs {steps : List SetupStep} (single : ∀ step ∈ steps, (p.stepCall? bounds step).isSome) :
    (p.runAll device bounds steps).Performs (steps.filterMap (p.stepCall? bounds)) := by
  induction steps with
  | nil => exact .pure
  | cons step rest ih =>
    obtain ⟨request, here⟩ := Option.isSome_iff_exists.1 (single step (by simp))
    rw [List.filterMap_cons_some here]
    exact .record_bind ((run_performs here).bind (ih fun step mem => single step (by simp [mem])))

theorem runAll_append (first second : List SetupStep) :
    p.runAll device bounds (first ++ second) =
      (p.runAll device bounds first >>= fun _ => p.runAll device bounds second) := by
  induction first with
  | nil => rfl
  | cons step rest ih => simp only [List.cons_append, runAll, ih, bind_assoc]

/-! ## Wiping and reading back -/

/-- The plain erase never ends the plan, and the secure one is asked for exactly when the plain one was refused. -/
theorem run_eraseRange (h : (p.run device bounds .eraseRange).Yields t r) :
    ∃ erasure, (∀ x ∈ t.exchanges, x.kind = .eraseRange → (x.Accepted ↔ erasure = .plain)) ∧
      ∃ stop, Follows (p.wiping erasure) t.exchanges stop ∧ EndsAt stop r := by
  obtain ⟨t', rfl, inner⟩ := yields_withBuffer.1 h
  rcases yields_bind.1 inner with ⟨t₁, t₂, erasure, rfl, erasing, said⟩ | ⟨e, rfl, erasing⟩
  · obtain ⟨rfl, rfl⟩ := yields_record.1 said
    rcases eraseRange_yields erasing with ⟨a, plain, calls, -⟩ | ⟨a, b, plain, calls, ⟨secure, -⟩ | ⟨-, _, h, -⟩⟩
    · refine ⟨.plain, ?_, none, ?_, rfl⟩
      · simp [calls, Exchange.Accepted, Exchange.status, plain]
      · simpa [calls, wiping] using Follows.passed (x := ⟨_, a⟩) trivial .finished
    · refine ⟨.secure, ?_, none, ?_, rfl⟩
      · simp [calls, Exchange.kind, Request.kind, Exchange.Accepted, Exchange.status, plain]
      · simpa [calls, wiping] using
          Follows.passed (x := ⟨_, a⟩) trivial (.passed (x := ⟨_, b⟩) secure .finished)
    · cases h
  · rcases eraseRange_yields erasing with ⟨a, -, -, h⟩ | ⟨a, b, plain, calls, ⟨-, h⟩ | ⟨secure, fails⟩⟩
    · cases h
    · cases h
    · refine ⟨.secure, ?_, some ⟨_, b⟩, ?_, failsAs_error.2 (failsAs_error.1 fails)⟩
      · simp [calls, Exchange.kind, Request.kind, Exchange.Accepted, Exchange.status, plain]
      · simpa [calls, wiping] using Follows.passed (x := ⟨_, a⟩) trivial (.stopped (x := ⟨_, b⟩) secure)

/-- A locked range has its writes locked too, so nothing is asked for twice. -/
theorem mismatches_lockedRange {g : Geometry} {range : RangeReading} :
    (Attributes.ofReading g range).mismatches (.lockedRange p.start p.length) = [] ↔ p.ReadsAsAsked g range := by
  have writes : range.state = LockState.locked.word →
      range.state &&& (LockState.readOnly.word ||| LockState.locked.word) ≠ 0 := by
    intro locked
    rw [locked]
    decide
  rw [Attributes.mismatches_ofReading_eq_nil_iff]
  constructor
  · rintro ⟨⟨reads, writable⟩, meets⟩
    exact ⟨meets.offset _ rfl, meets.length _ rfl, reads, writable, of_decide_eq_true (meets.readLocked _ rfl)⟩
  · rintro ⟨start, length, reads, writable, locked⟩
    refine ⟨⟨reads, writable⟩, ?_, ?_, ?_, ?_⟩
    · exact fun _ expected => start.trans (Option.some.inj expected)
    · exact fun _ expected => length.trans (Option.some.inj expected)
    · exact fun _ expected => (decide_eq_true locked).trans (Option.some.inj expected)
    · exact fun _ expected => (decide_eq_true (writes locked)).trans (Option.some.inj expected)

/-- The result of a whole plan is that of the exchange it stops at, or what reading back comes to. -/
def Concludes (p : Provision) (xs : List Exchange) (stop : Option Exchange) (r : Except Error Unit) : Prop :=
  (∃ x, stop = some x ∧ EndsAt stop r) ∨ (stop = none ∧ p.ReadBack xs ∧ r = .ok ()) ∨
    (stop = none ∧ ¬ p.ReadBack xs ∧ FailsAs r .invalid)

/-- Reading back ends as a plan of two calls does, and then by what was read; what went before is no matter. -/
theorem run_verify (h : (p.run device bounds .verify).Yields t r) (before : List Exchange) :
    ∃ stop, Follows [.getGeometry default, readRequest p.segment p.volumeKey] t.exchanges stop ∧
      p.Concludes (before ++ t.exchanges) stop r := by
  obtain ⟨r₁, verified, rfl⟩ := yields_bind_pure.1 h
  have course := verifyOpened_course verified
  generalize t.exchanges = xs at course
  cases course with
  | @unusable g r why fails =>
    obtain ⟨e, rfl, kind⟩ := fails
    exact ⟨some ⟨_, g⟩, .stopped (x := ⟨_, g⟩) why, .inl ⟨_, rfl, e, rfl, kind⟩⟩
  | @refused g a r usable refused fails =>
    obtain ⟨e, rfl, kind⟩ := fails
    exact ⟨some ⟨_, a⟩, .passed (x := ⟨_, g⟩) usable (.stopped (x := ⟨_, a⟩) refused),
      .inl ⟨_, rfl, e, rfl, kind⟩⟩
  | @matched g a usable accepted same =>
    refine ⟨none, .passed (x := ⟨_, g⟩) usable (.passed (x := ⟨_, a⟩) accepted .finished), .inr (.inl ?_)⟩
    exact ⟨rfl, (readBack_pair before).2 (mismatches_lockedRange.1 same), rfl⟩
  | @differed g a ms usable accepted differs some =>
    refine ⟨none, .passed (x := ⟨_, g⟩) usable (.passed (x := ⟨_, a⟩) accepted .finished), .inr (.inr ?_)⟩
    refine ⟨rfl, fun read => ?_, failsAs_error.2 rfl⟩
    exact some (differs.trans (mismatches_lockedRange.2 ((readBack_pair before).1 read)))

/-! ## The whole plan -/

/-- The steps between the wipe or the takeover and the reading back. -/
def configuring : List SetupStep :=
  [.activateUser, .grantReadOnly, .grantReadWrite, .setUserPassword, .configureRange, .lockRange]

theorem configuring_isSome : ∀ step ∈ configuring, (p.stepCall? bounds step).isSome := by
  simp [configuring, stepCall?]

theorem erasing_of_follows {xs : List Exchange} {stop planned} {erasure : Erasure}
    (follows : Follows planned xs stop) (plain : ∀ request ∈ planned, request.kind ≠ .eraseRange) :
    ∀ x ∈ xs, x.kind = .eraseRange → (x.Accepted ↔ erasure = .plain) :=
  fun _ mem erase => absurd erase (plain _ (follows.mem_plan mem))

/-- A drive is taken over and the range is configured. -/
theorem runAll_takeover
    (h : (p.runAll device bounds (.takeOwnership :: .activateLockingSp :: configuring)).Yields t r) :
    ∃ stop, EndsAt stop r ∧
      Follows (p.takingOver ++ configuring.filterMap (p.stepCall? bounds)) t.exchanges stop := by
  have single : ∀ step ∈ SetupStep.takeOwnership :: .activateLockingSp :: configuring,
      (p.stepCall? bounds step).isSome :=
    List.forall_mem_cons.2 ⟨rfl, List.forall_mem_cons.2 ⟨rfl, configuring_isSome⟩⟩
  obtain ⟨stop, follows, ends⟩ := runAll_performs single h
  exact ⟨stop, ends, follows⟩

/-- A range is wiped and then configured. -/
theorem runAll_wipe (h : (p.runAll device bounds (.eraseRange :: configuring)).Yields t r) :
    ∃ erasure, (∀ x ∈ t.exchanges, x.kind = .eraseRange → (x.Accepted ↔ erasure = .plain)) ∧
      ∃ stop, EndsAt stop r ∧
        Follows (p.wiping erasure ++ configuring.filterMap (p.stepCall? bounds)) t.exchanges stop := by
  obtain ⟨t', rfl, steps⟩ := yields_record_bind.1 h
  rcases yields_bind.1 steps with ⟨t₁, t₂, _, rfl, wipe, rest⟩ | ⟨e, rfl, wipe⟩
  · obtain ⟨erasure, erasing, stop, wiped, ends⟩ := run_eraseRange wipe
    cases stop with
    | none =>
      obtain ⟨stop, follows, ends⟩ := runAll_performs configuring_isSome rest
      have plain : ∀ request ∈ configuring.filterMap (p.stepCall? bounds), request.kind ≠ .eraseRange := by
        simp [configuring, stepCall?, Request.kind]
      refine ⟨erasure, ?_, stop, ends, by simpa using wiped.append follows⟩
      intro x mem
      rcases List.mem_append.1 (by simpa using mem) with mem | mem
      · exact erasing x mem
      · exact erasing_of_follows follows plain x mem
    | some x =>
      obtain ⟨e, h, -⟩ := ends
      cases h
  · obtain ⟨erasure, erasing, stop, wiped, ends⟩ := run_eraseRange wipe
    cases stop with
    | none => cases ends
    | some x => exact ⟨erasure, erasing, some x, ends, wiped.leave _⟩

/-- Everything but the reading back, in either plan. -/
def prelude (enabled : Bool) : List SetupStep :=
  if enabled then .eraseRange :: configuring else .takeOwnership :: .activateLockingSp :: configuring

theorem plan_eq (enabled : Bool) : SetupStep.plan enabled = prelude enabled ++ [.verify] := by
  cases enabled <;> rfl

theorem calls_eq (enabled : Bool) (erasure : Erasure) :
    p.calls enabled erasure bounds =
      ((if enabled then p.wiping erasure else p.takingOver) ++ configuring.filterMap (p.stepCall? bounds)) ++
        [.getGeometry default, readRequest p.segment p.volumeKey] := by
  simp [calls, configuring, stepCall?]

theorem runAll_prelude {enabled : Bool} (h : (p.runAll device bounds (prelude enabled)).Yields t r) :
    ∃ erasure, (∀ x ∈ t.exchanges, x.kind = .eraseRange → (x.Accepted ↔ erasure = .plain)) ∧
      ∃ stop, EndsAt stop r ∧
        Follows ((if enabled then p.wiping erasure else p.takingOver) ++
          configuring.filterMap (p.stepCall? bounds)) t.exchanges stop := by
  cases enabled with
  | true => exact runAll_wipe h
  | false =>
    obtain ⟨stop, ends, follows⟩ := runAll_takeover h
    refine ⟨.plain, erasing_of_follows follows ?_, stop, ends, follows⟩
    simp [takingOver, configuring, stepCall?, Request.kind]

theorem planRun_of_follows {enabled : Bool} {erasure : Erasure} {xs : List Exchange} {stop : Option Exchange}
    (erasing : ∀ x ∈ xs, x.kind = .eraseRange → (x.Accepted ↔ erasure = .plain))
    (follows : Follows (p.calls enabled erasure bounds) xs stop) (concludes : p.Concludes xs stop r) :
    p.PlanRun enabled erasure bounds xs r where
  erasing := erasing
  inOrder := follows.isPrefix
  onwards := follows.passes_of_mem_dropLast
  failure x last fails := by
    rcases concludes with ⟨y, stopped, ends⟩ | ⟨finished, -⟩ | ⟨finished, -⟩
    · rw [follows.stopped_iff.2 ⟨last, fails⟩] at ends
      exact ends
    all_goals exact absurd (follows.finished_iff.1 finished x (List.mem_of_getLast? last)) fails
  complete passes := by
    rw [follows.finished_iff.2 passes] at follows
    exact follows.map_request
  mismatch passes notRead := by
    rcases concludes with ⟨y, stopped, -⟩ | ⟨-, read, -⟩ | ⟨-, -, fails⟩
    · rw [follows.finished_iff.2 passes] at stopped
      cases stopped
    · exact absurd read notRead
    · exact fails
  ok_iff := by
    rw [← follows.finished_iff]
    rcases concludes with ⟨y, rfl, e, rfl, -⟩ | ⟨rfl, read, rfl⟩ | ⟨rfl, notRead, e, rfl, -⟩
    · simp
    · simp [read]
    · simp [notRead]

/-- Whatever is answered, the plan is kept to. -/
theorem runAll_plan {enabled : Bool} (h : (p.runAll device bounds (SetupStep.plan enabled)).Yields t r) :
    ∃ erasure, p.PlanRun enabled erasure bounds t.exchanges r := by
  rw [plan_eq, runAll_append] at h
  rcases yields_bind.1 h with ⟨t₁, t₂, _, rfl, steps, last⟩ | ⟨e, rfl, steps⟩
  · obtain ⟨erasure, erasing, stop, ends, follows⟩ := runAll_prelude steps
    cases stop with
    | none =>
      obtain ⟨t₃, rfl, verify⟩ := yields_record_bind.1 last
      have verify : (p.run device bounds .verify).Yields t₃ r := by
        simpa only [runAll, bind_pure_unit] using verify
      obtain ⟨stop, read, concludes⟩ := run_verify verify t₁.exchanges
      have whole := follows.append read
      rw [← calls_eq] at whole
      refine ⟨erasure, planRun_of_follows ?_ (by simpa using whole) (by simpa using concludes)⟩
      intro x mem
      rcases List.mem_append.1 (by simpa using mem) with mem | mem
      · exact erasing x mem
      · exact erasing_of_follows read (by simp [Request.kind]) x mem
    | some x =>
      obtain ⟨e, h, -⟩ := ends
      cases h
  · obtain ⟨erasure, erasing, stop, ends, follows⟩ := runAll_prelude steps
    cases stop with
    | none => cases ends
    | some x =>
      refine ⟨erasure, planRun_of_follows erasing ?_ (.inl ⟨x, rfl, ends⟩)⟩
      rw [calls_eq]
      exact follows.leave _

/-! ## Before the plan -/

theorem blockBounds_cases {g : Geometry} {v : Except Error BlockBounds} (h : p.blockBounds g = v) :
    (∃ bounds, v = .ok bounds ∧ g.sectorsToBlocks p.start = some bounds.start ∧
        g.sectorsToBlocks p.length = some bounds.length) ∨
      ((g.sectorsToBlocks p.start = none ∨ g.sectorsToBlocks p.length = none) ∧ FailsAs v .invalid) := by
  unfold blockBounds at h
  split at h
  · next start => exact .inr ⟨.inl start, by rw [← h]; exact failsAs_error.2 rfl⟩
  · next length => exact .inr ⟨.inr length, by rw [← h]; exact failsAs_error.2 rfl⟩
  · next start length => exact .inl ⟨_, h.symm, start, length⟩

/-- The feature word and the geometry come first, and then a plan that suits them. -/
inductive Course (p : Provision) : List Exchange → Except Error Unit → Prop
  | unreadable {a r} (why : a.status.classify = .system) (fails : FailsAs r .invalid) :
      Course p [⟨.getStatus default, a⟩] r
  | unfit {a g r} (reached : a.status.classify ≠ .system) (why : ∀ bounds, ¬ p.Fits g bounds)
      (fails : FailsAs r .invalid) : Course p [⟨.getStatus default, a⟩, ⟨.getGeometry default, g⟩] r
  | planned {a g bounds erasure xs r} (reached : a.status.classify ≠ .system) (fits : p.Fits g bounds)
      (run : p.PlanRun (StatusFlags.lockingEnabled a.reading) erasure bounds xs r) :
      Course p (⟨.getStatus default, a⟩ :: ⟨.getGeometry default, g⟩ :: xs) r

theorem PlanRun.mem_calls {enabled : Bool} {erasure : Erasure} {xs : List Exchange}
    (run : p.PlanRun enabled erasure bounds xs r) {x : Exchange} (mem : x ∈ xs) :
    x.request ∈ p.calls enabled erasure bounds :=
  run.inOrder.subset (List.mem_map_of_mem mem)

theorem PlanRun.follows {enabled : Bool} {erasure : Erasure} {xs : List Exchange}
    (run : p.PlanRun enabled erasure bounds xs r) : ∃ stop, Follows (p.calls enabled erasure bounds) xs stop :=
  Follows.exists_of_isPrefix run.inOrder run.onwards run.complete

/-- The drive erased the range that is provisioned, one way or the other. -/
def Wiped (p : Provision) (x : Exchange) : Prop :=
  x.Accepted ∧ (x.request = .eraseRange (adminSession p.range p.adminKey) ∨
    x.request = .secureEraseRange (adminSession p.range p.adminKey))

/-- On a drive in use a plan gets to the password only when the range was erased. -/
theorem PlanRun.wiped_of_password {erasure : Erasure} {before after : List Exchange} {x : Exchange}
    (run : p.PlanRun true erasure bounds (before ++ x :: after) r) (password : x.kind = .setPassword) :
    ∃ y ∈ before, p.Wiped y := by
  have later : ∀ y : Exchange, y.kind ≠ .setPassword → x.kind ≠ y.kind := fun y other same =>
    other (same.symm.trans password)
  obtain ⟨stop, follows⟩ := run.follows
  cases erasure with
  | plain =>
    obtain ⟨a, ys, first, -⟩ := follows.cons_inv
    obtain ⟨rest, rfl, -⟩ := Exchange.cons_of_append_eq first (later _ nofun)
    exact ⟨_, .head _, (run.erasing _ (.head _) rfl).2 rfl, .inl rfl⟩
  | secure =>
    obtain ⟨a, ys, first, ⟨-, onwards⟩ | ⟨stops, -⟩⟩ := follows.cons_inv
    · obtain ⟨rest, rfl, behind⟩ := Exchange.cons_of_append_eq first (later _ nofun)
      obtain ⟨b, zs, second, passed⟩ := onwards.cons_inv
      obtain ⟨rest, rfl, last⟩ := Exchange.cons_of_append_eq (behind.trans second) (later _ nofun)
      rcases passed with ⟨passes, -⟩ | ⟨-, rfl, -⟩
      · exact ⟨_, .tail _ (.head _), passes, .inr rfl⟩
      · exact absurd last (by simp)
    · exact absurd trivial stops

/-- Provisioning gets to the password only on a drive whose locking was found disabled, or when it has erased the
range before. -/
theorem Course.wiped_of_password {before after : List Exchange} {x : Exchange}
    (course : p.Course (before ++ x :: after) r) (password : x.kind = .setPassword) :
    ∃ (a : Answer (.getStatus default)) (rest : List Exchange), before = ⟨_, a⟩ :: rest ∧
      a.status.classify ≠ .system ∧ (StatusFlags.lockingEnabled a.reading = false ∨ ∃ y ∈ rest, p.Wiped y) := by
  have later : ∀ y : Exchange, y.kind ≠ .setPassword → x.kind ≠ y.kind := fun y other same =>
    other (same.symm.trans password)
  generalize calls : before ++ x :: after = xs at course
  cases course with
  | unreadable =>
    obtain ⟨rest, -, last⟩ := Exchange.cons_of_append_eq calls (later _ nofun)
    exact absurd last (by simp)
  | unfit =>
    obtain ⟨rest, -, behind⟩ := Exchange.cons_of_append_eq calls (later _ nofun)
    obtain ⟨rest, -, last⟩ := Exchange.cons_of_append_eq behind (later _ nofun)
    exact absurd last (by simp)
  | @planned a g bounds erasure xs r reached fits run =>
    obtain ⟨rest, rfl, behind⟩ := Exchange.cons_of_append_eq calls (later _ nofun)
    obtain ⟨rest, rfl, rfl⟩ := Exchange.cons_of_append_eq behind (later _ nofun)
    refine ⟨a, _, rfl, reached, ?_⟩
    cases found : StatusFlags.lockingEnabled a.reading with
    | false => exact .inl rfl
    | true =>
      rw [found] at run
      obtain ⟨y, mem, wiped⟩ := run.wiped_of_password password
      exact .inr ⟨y, .tail _ mem, wiped⟩

/-- Whatever is asked for is one of the queries at the start, or part of some plan. -/
theorem Course.mem_calls {xs : List Exchange} (course : p.Course xs r) {x : Exchange} (mem : x ∈ xs) :
    ∃ enabled erasure bounds,
      x.request ∈ .getStatus default :: .getGeometry default :: p.calls enabled erasure bounds := by
  cases course with
  | unreadable =>
    obtain rfl := List.mem_singleton.1 mem
    exact ⟨true, .plain, ⟨0, 0⟩, .head _⟩
  | unfit =>
    refine ⟨true, .plain, ⟨0, 0⟩, ?_⟩
    rcases List.mem_cons.1 mem with rfl | mem
    · exact .head _
    · obtain rfl := List.mem_singleton.1 mem
      exact .tail _ (.head _)
  | @planned a g bounds erasure xs r reached fits run =>
    refine ⟨StatusFlags.lockingEnabled a.reading, erasure, bounds, ?_⟩
    rcases List.mem_cons.1 mem with rfl | mem
    · exact .head _
    · rcases List.mem_cons.1 mem with rfl | mem
      · exact .tail _ (.head _)
      · exact .tail _ (.tail _ (run.mem_calls mem))

end Provision

theorem setupOpened_course {device : String} {p : Provision} {t r} (h : (setupOpened device p).Yields t r) :
    p.Course t.exchanges r := by
  obtain ⟨a, ⟨system, calls, fails⟩ | ⟨reached, t₁, calls, rest⟩⟩ := queryFlags_bind_yields h
  · rw [calls]
    exact .unreadable system fails
  · rw [calls]
    obtain ⟨g, ⟨unusable, calls₂, fails⟩ | ⟨usable, t₂, calls₂, rest⟩⟩ := queryGeometry_bind_yields rest
    · rw [calls₂]
      exact .unfit reached (fun bounds fits => unusable fits.1) fails
    · rw [calls₂]
      rcases yields_bind.1 rest with ⟨t₃, t₄, bounds, rfl, converted, steps⟩ | ⟨e, rfl, converted⟩
      · obtain ⟨rfl, same⟩ := yields_lift.1 converted
        obtain ⟨_, h, start, length⟩ | ⟨-, _, h, -⟩ := Provision.blockBounds_cases same.symm
        · cases h
          rcases yields_bind.1 steps with ⟨t₅, t₆, _, rfl, plan, said⟩ | ⟨e, rfl, plan⟩
          · obtain ⟨rfl, rfl⟩ := yields_record.1 said
            obtain ⟨erasure, run⟩ := Provision.runAll_plan plan
            simpa using Provision.Course.planned reached ⟨usable, start, length⟩ run
          · obtain ⟨erasure, run⟩ := Provision.runAll_plan plan
            simpa using Provision.Course.planned reached ⟨usable, start, length⟩ run
        · cases h
      · obtain ⟨rfl, same⟩ := yields_lift.1 converted
        obtain ⟨_, h, -⟩ | ⟨none, fails⟩ := Provision.blockBounds_cases same.symm
        · cases h
        · refine .unfit reached (fun bounds fits => ?_) (failsAs_error.2 (failsAs_error.1 fails))
          obtain ⟨-, start, length⟩ := fits
          simp [start, length] at none

end OpalLocking
