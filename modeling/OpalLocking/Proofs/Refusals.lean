/-
What is refused, and how far an operation gets with it.

`Operation.Refused` lists the arguments that no drive is needed for to refuse, and `Operation.check_eq_ok_iff` says that
the checks know them all and no others. Whatever passes opens the drive first, once, and makes its calls behind that. Of
the bounds of a range only the drive can tell whether they are whole blocks: these are refused behind the two queries,
before anything is changed.
-/
import OpalLocking.Proofs.InStep
import OpalLocking.Proofs.KeyBlocks
import OpalLocking.Proofs.Rounding

namespace OpalLocking

/-! ## Arguments that are refused -/

namespace Operation

/-- Arguments that an operation is refused for, whatever the drive. -/
inductive Refused : Operation → Prop
  | emptyKey {op : Operation} {holder : KeyHolder} (given : op.key? holder = some []) : Refused op
  | longKey {op : Operation} {holder : KeyHolder} {key : Secret} (given : op.key? holder = some key)
      (long : 255 < key.length) : Refused op
  | segment {op : Operation} {segment : UInt32} (about : op.segment? = some segment)
      (outside : segment < 1 ∨ 8 < segment) : Refused op
  | zeroLength {p : Provision} (zero : p.length = 0) : Refused (.setup p)
  | unlockWithoutKey {segment : UInt32} : Refused (.setLock segment false none)
  | lockWithKey {segment : UInt32} {key : Secret} : Refused (.setLock segment true (some key))

variable {op : Operation}

theorem checkKey_of_not_refused {role : KeyRole} {holder : KeyHolder} {key : Secret} (passes : ¬ op.Refused)
    (given : op.key? holder = some key) : checkKey role key = .ok () := by
  refine checkKey_eq_ok_iff.2 ⟨?_, ?_⟩
  · cases key with
    | nil => exact absurd (.emptyKey given) passes
    | cons => rfl
  · exact Nat.not_lt.1 fun long => passes (.longKey given long)

theorem checkSegment_of_not_refused {segment : UInt32} (passes : ¬ op.Refused) (about : op.segment? = some segment) :
    checkSegment segment = .ok () := by
  refine checkSegment_eq_ok_iff.2 ⟨?_, ?_⟩
  · exact UInt32.not_lt.1 fun below => passes (.segment about (.inl below))
  · exact UInt32.not_lt.1 fun above => passes (.segment about (.inr above))

/-- The checks let through what is not refused. -/
theorem check_of_not_refused (passes : ¬ op.Refused) : op.check = .ok () := by
  have keyed : ∀ holder {role key}, op.key? holder = some key → checkKey role key = .ok () := fun _ =>
    checkKey_of_not_refused passes
  have placed : ∀ {segment}, op.segment? = some segment → checkSegment segment = .ok () :=
    checkSegment_of_not_refused passes
  cases op with
  | setup p =>
    refine checks_ok (keyed .admin rfl) (checks_ok (keyed .user rfl) (checks_ok (placed rfl) ?_))
    exact if_neg fun zero => passes (.zeroLength zero)
  | setLock segment locked optional =>
    refine checks_ok (placed rfl) ?_
    cases locked with
    | false =>
      cases optional with
      | none => exact absurd .unlockWithoutKey passes
      | some key => exact keyed .user rfl
    | true =>
      cases optional with
      | none => rfl
      | some key => exact absurd .lockWithKey passes
  | verify => exact checks_ok (keyed .user rfl) (placed rfl)
  | resetSegment => exact checks_ok (keyed .admin rfl) (placed rfl)
  | factoryReset => exact keyed .psid rfl
  | flags | supported | lockingEnabled | geometry => rfl

/-- The checks know what is refused. -/
theorem not_refused_of_check (valid : op.check = .ok ()) : ¬ op.Refused := by
  intro refused
  cases refused with
  | emptyKey given =>
    have least := (key_length valid given).1
    simp at least
  | longKey given long =>
    have most : _ ≤ 255 := (key_length valid given).2
    omega
  | segment about outside =>
    obtain ⟨least, most⟩ := checkSegment_eq_ok_iff.1 (checkSegment_of_check valid about)
    cases outside with
    | inl below => exact UInt32.not_lt.2 least below
    | inr above => exact UInt32.not_lt.2 most above
  | @zeroLength p zero =>
    obtain ⟨-, rest⟩ := checks_eq_ok valid
    obtain ⟨-, rest⟩ := checks_eq_ok rest
    obtain ⟨-, rest⟩ := checks_eq_ok rest
    rw [if_pos zero] at rest
    cases rest
  | unlockWithoutKey | lockWithKey => cases (check_setLock valid).2

theorem check_eq_ok_iff : op.check = .ok () ↔ ¬ op.Refused :=
  ⟨not_refused_of_check, check_of_not_refused⟩

end Operation

/-- Every check that does not pass finds the arguments invalid. -/
theorem kind_of_checks {first : Except Error Unit} {second : Unit → Except Error Unit} {e : Error}
    (here : ∀ e, first = .error e → e.kind = .invalid) (there : ∀ e, second () = .error e → e.kind = .invalid)
    (h : (first >>= second) = .error e) : e.kind = .invalid := by
  cases first with
  | ok => exact there e h
  | error why => exact here e h

theorem kind_of_checkKey {role : KeyRole} {key : Secret} (e : Error) (h : checkKey role key = .error e) :
    e.kind = .invalid := by
  unfold checkKey at h
  split at h
  · cases h
    rfl
  · split at h
    · cases h
      rfl
    · cases h

theorem kind_of_checkSegment {segment : UInt32} (e : Error) (h : checkSegment segment = .error e) :
    e.kind = .invalid := by
  unfold checkSegment at h
  split at h
  · cases h
  · cases h
    rfl

theorem kind_of_checkLockKey {locked : Bool} {key : Option Secret} (e : Error) (h : checkLockKey locked key = .error e) :
    e.kind = .invalid := by
  unfold checkLockKey at h
  split at h
  · cases h
    rfl
  · exact kind_of_checkKey e h
  · cases h
    rfl
  · cases h

theorem Operation.kind_of_check {op : Operation} {e : Error} (h : op.check = .error e) : e.kind = .invalid := by
  cases op with
  | setup p =>
    refine kind_of_checks kind_of_checkKey (fun e => kind_of_checks kind_of_checkKey fun e =>
      kind_of_checks kind_of_checkSegment fun e h => ?_) h
    split at h
    · cases h
      rfl
    · cases h
  | setLock => exact kind_of_checks kind_of_checkSegment kind_of_checkLockKey h
  | verify | resetSegment => exact kind_of_checks kind_of_checkKey kind_of_checkSegment h
  | factoryReset => exact kind_of_checkKey e h
  | flags | supported | lockingEnabled | geometry => cases h

/-! ## Runs -/

variable {σ α β : Type} {d : Drive σ} {s s₁ : σ} {device : String} {op : Operation} {p : Provision}

/-- A value that is only handed on changes nothing else about a run. -/
theorem Procedure.run_bind_pure (p : Procedure α) (f : α → β) (s : σ) :
    (p >>= fun value => pure (f value)).run d s =
      ⟨(p.run d s).result.map f, (p.run d s).drive, (p.run d s).trace⟩ := by
  induction p generalizing s with
  | done result => cases result <;> rfl
  | openDrive next ih => exact congrArg (Run.after · _) (ih _ _)
  | call request next ih => exact congrArg (Run.after · _) (ih _ _)
  | log record next ih | release next ih => exact congrArg (Run.after · _) (ih s)
  | acquire next ih => exact congrArg (Run.after · _) (ih true s)

/-- A procedure that is in step with itself opens no drive. -/
theorem Procedure.InStep.openings {base live : Nat} {p q : Procedure α} (inStep : InStep base live p q) (self : p = q)
    (s : σ) : (p.run d s).trace.openings = 0 := by
  induction inStep generalizing s with
  | done => rfl
  | @call live r _ next _ _ _ _ ih =>
    cases self
    exact ih _ _ (.refl (d.answer s r).1) rfl _
  | log _ ih | acquire _ _ ih | release _ ih =>
    cases self
    exact ih rfl s

/-- Refused arguments leave the drive alone. -/
theorem Operation.Refused.run (refused : op.Refused) :
    let run := (op.procedure device).run d s
    FailsAs run.result .invalid ∧ run.trace = [] ∧ run.drive = s := by
  intro run
  cases checked : op.check with
  | ok => exact absurd refused (not_refused_of_check checked)
  | error e =>
    have ended : run = _ := run_of_refused checked
    rw [ended]
    exact ⟨failsAs_error.2 (kind_of_check checked), rfl, rfl⟩

/-- What passes opens the drive first and never again, and gives up if that fails. -/
theorem Operation.run_opens (valid : op.check = .ok ()) :
    let run := (op.procedure device).run d s
    ∃ rest, run.trace = .opened (d.opening s).1 :: rest ∧ Trace.openings rest = 0 ∧
      ∀ why, (d.opening s).1 = .error why → rest = [] ∧ FailsAs run.result .io := by
  intro run
  rcases opened : d.opening s with ⟨outcome, s₁⟩
  cases outcome with
  | error why =>
    have closed : run = _ := run_of_closed valid opened
    rw [closed]
    exact ⟨[], rfl, rfl, fun _ _ => ⟨rfl, failsAs_error.2 rfl⟩⟩
  | ok =>
    have opens : run = _ := run_of_open valid opened
    rw [opens]
    exact ⟨_, rfl, op.inStep_self.openings rfl s₁, nofun⟩

/-! ## Bounds that are no whole blocks -/

/-- The first two calls on the open drive, if the feature word can be read. -/
theorem exchanges_setupOpened_geometry (d : Drive σ) (s : σ) (device : String) (p : Provision)
    (reached : (d.answer s (.getStatus default)).1.status.classify ≠ .system) :
    ∃ rest, ((setupOpened device p).run d s).trace.exchanges =
      ⟨.getStatus default, (d.answer s (.getStatus default)).1⟩ ::
        ⟨.getGeometry default, (d.answer (d.answer s (.getStatus default)).2 (.getGeometry default)).1⟩ :: rest := by
  unfold setupOpened queryFlags
  rw [bind_assoc]
  show ∃ rest, ((((if (d.answer s (.getStatus default)).1.status.classify = .system then _ else _) >>= _ :
    Procedure Unit).run d _).after _).trace.exchanges = _
  rw [if_neg reached]
  exact ⟨_, rfl⟩

theorem Provision.not_fits {g : Answer (.getGeometry default)} (broken : ¬ p.WholeBlocks g.reading.blockSize)
    (bounds : BlockBounds) : ¬ p.Fits g bounds := by
  intro fits
  exact broken (wholeBlocks_iff.1 ⟨bounds, fits.2⟩)

/-- Bounds that are no whole blocks of the reported size are invalid, and found to be so by asking for it. -/
theorem Provision.setupOpened_broken (d : Drive σ) (s : σ) (device : String)
    (broken : ¬ p.WholeBlocks (d.answer (d.answer s (.getStatus default)).2 (.getGeometry default)).1.reading.blockSize) :
    let run := (setupOpened device p).run d s
    FailsAs run.result .invalid ∧ run.trace.requests <+: [.getStatus default, .getGeometry default] ∧
      ((d.answer s (.getStatus default)).1.status.classify ≠ .system →
        run.trace.requests = [.getStatus default, .getGeometry default]) := by
  intro run
  have course : p.Course run.trace.exchanges run.result := setupOpened_course (Procedure.run_yields d _ s)
  obtain ⟨rest, first⟩ := exchanges_setupOpened d s device p
  have second := exchanges_setupOpened_geometry d s device p
  rw [Trace.requests_eq]
  generalize run.trace.exchanges = xs at *
  generalize run.result = r at *
  -- Of the courses that a setup can take, only a plan goes on behind the geometry, and no plan fits these bounds.
  cases course with
  | unreadable why fails =>
    cases first
    exact ⟨fails, ⟨[_], rfl⟩, fun reached => absurd why reached⟩
  | unfit reached why fails => exact ⟨fails, List.prefix_rfl, fun _ => rfl⟩
  | planned reached fits =>
    cases first
    obtain ⟨rest, second⟩ := second reached
    cases second
    exact absurd fits (not_fits broken _)

/-- Arguments are checked first. Refused ones are invalid, and the drive is left alone. With all others an operation
begins by opening the drive and never opens it again; if that fails there is no call. And a range whose bounds are no
whole blocks of the reported size is invalid with nothing submitted but the two queries, both of them if the feature
word can be read. -/
theorem arguments_checked_first (d : Drive σ) (s : σ) (device : String) (op : Operation) :
    let run := (op.procedure device).run d s
    (op.Refused → FailsAs run.result .invalid ∧ run.trace = [] ∧ run.drive = s) ∧
      (¬ op.Refused → ∃ rest, run.trace = .opened (d.opening s).1 :: rest ∧ Trace.openings rest = 0 ∧
        ∀ why, (d.opening s).1 = .error why → rest = [] ∧ FailsAs run.result .io) ∧
      ∀ p s₁, op = .setup p → ¬ op.Refused → d.opening s = (.ok (), s₁) →
        let flags := d.answer s₁ (.getStatus default)
        let geometry := d.answer flags.2 (.getGeometry default)
        ¬ p.WholeBlocks geometry.1.reading.blockSize →
          FailsAs run.result .invalid ∧ run.trace.requests <+: [.getStatus default, .getGeometry default] ∧
            (flags.1.status.classify ≠ .system →
              run.trace.requests = [.getStatus default, .getGeometry default]) := by
  intro run
  refine ⟨?_, ?_, ?_⟩
  · intro refused
    exact refused.run
  · intro passes
    exact Operation.run_opens (Operation.check_eq_ok_iff.2 passes)
  · intro p s₁ setup passes opens flags geometry broken
    subst setup
    -- What the operation makes of the value of a setup changes neither its trace nor its failure.
    have opened : run = _ := Operation.run_of_open (Operation.check_eq_ok_iff.2 passes) opens
    have handed : ((Operation.setup p).opened device).run d s₁ = _ :=
      (setupOpened device p).run_bind_pure (fun _ => Value.nothing) s₁
    obtain ⟨fails, queries, both⟩ := Provision.setupOpened_broken d s₁ device broken
    rw [opened, handed]
    exact ⟨failsAs_map.2 fails, queries, both⟩

/-- A key that is too long; and, on a drive with blocks of 4096 bytes, a range of nine sectors. -/
theorem arguments_checked_first_setup :
    let s : Script := { answers := [(.getGeometry, [{ status := .success, blockSize := some 4096 }])] }
    let long : Operation := .factoryReset (List.replicate 256 7)
    let odd : Provision := ⟨1, 0, 9, [1], [2]⟩
    let run := ((Operation.setup odd).procedure "d").run Script.drive s
    ((long.procedure "d").run Script.drive s).trace = [] ∧
      FailsAs run.result .invalid ∧ run.trace.requests = [.getStatus default, .getGeometry default] := by
  intro s long odd run
  obtain ⟨refused, -, -⟩ := arguments_checked_first Script.drive s "d" long
  obtain ⟨-, -, broken⟩ := arguments_checked_first Script.drive s "d" (.setup odd)
  have passes : ¬ (Operation.setup odd).Refused := Operation.check_eq_ok_iff.1 rfl
  have tooLong : long.Refused := by
    refine .longKey (show long.key? .psid = some _ from rfl) ?_
    rw [List.length_replicate]
    omega
  obtain ⟨fails, -, both⟩ := broken odd s rfl passes rfl fun whole => absurd whole.length (by decide)
  exact ⟨(refused tooLong).2.1, fails, both (by decide)⟩

end OpalLocking
