/-
No user gets another password on a range that still holds data.

Operations run one after the other, and at any moment a refusal may be queued for a later call, unless it is a status
query: `Underway` lists every state that such a run goes through, between any two steps of the operation that is
running. `Vault.Guarded` says that users have passwords only where locking is enabled; so provisioning that found
locking disabled sets a first password, and provisioning that found it enabled has erased the range before it comes
to the password (`Provision.Course.wiped_of_password`).
-/
import OpalLocking.Proofs.Simulator.DataProtection
import OpalLocking.Proofs.Simulator.Tenancy

namespace OpalLocking

open Simulator

/-! ## Passwords and locking -/

namespace Simulator.Vault

variable {c : Config} {v v' : Vault} {request : Request}

/-- While locking is not enabled, nobody has a password. -/
def Guarded (v : Vault) : Prop :=
  v.lockingEnabled = false → ∀ who, v.password who = none

theorem enabled_of_authenticates? {who : UInt32} {key : Secret} (h : v.authenticates? who key = some true) :
    v.lockingEnabled = true := by
  cases enabled : v.lockingEnabled with
  | true => rfl
  | false => simp [authenticates?_eq, enabled] at h

theorem UserChanged.guarded {who : UInt32} {change : User → User} (changed : v.UserChanged who change v')
    (enabled : v.lockingEnabled = true) : v'.Guarded := by
  obtain ⟨users, -, rfl⟩ := changed
  intro disabled
  rw [show v.lockingEnabled = false from disabled] at enabled
  cases enabled

/-- No call gives a user a password while locking is disabled, and none disables it and leaves a password. -/
theorem Effect.guarded (effect : Effect c v request v') (guarded : v.Guarded) : v'.Guarded := by
  cases effect with
  | takeOwnership | keepOwnership | setAdminPassword | ignoreLock | getStatus | getGeometry | getRangeStatus =>
    exact guarded
  | activateLsp =>
    intro disabled
    cases disabled
  | setUserPassword proven _ _ changed => exact changed.guarded (enabled_of_authenticates? proven)
  | activateUser admin _ changed => exact changed.guarded (isAdmin_iff.1 admin).1
  | setupRange _ _ changed | grantRead _ _ _ _ _ changed | grantWrite _ _ _ _ _ changed
  | eraseRange _ _ changed | secureEraseRange _ _ changed | lockUnlock _ _ _ _ _ _ changed
  | saveForResume changed =>
    obtain ⟨ranges, -, rfl⟩ := changed
    exact guarded
  | psidRevert => exact fun _ who => password_of_blank rfl who

end Simulator.Vault

/-! ## Drives whose feature word can be relied on -/

namespace SimulatedDrive

variable {d d' : SimulatedDrive}

/-- A refusal is queued for some call, but not for a status query. -/
def RefusalQueued (d d' : SimulatedDrive) : Prop :=
  ∃ kind status, kind ≠ .getStatus ∧ status.classify ≠ .success ∧ d' = d.inject kind status

/-- A drive that answers status queries by itself and accepts nothing that its vault does not, with passwords only
where locking is enabled. -/
structure Candid (d : SimulatedDrive) : Prop where
  honest : d.Honest
  unqueued : d.queue.statuses .getStatus = []
  guarded : d.vault.Guarded

namespace Candid

theorem new {name : String} {config : Config} : Candid { name, config } where
  honest _ _ mem := nomatch mem
  unqueued := rfl
  guarded _ := Vault.password_of_blank rfl

theorem queued (candid : d.Candid) (queued : d.RefusalQueued d') : d'.Candid := by
  obtain ⟨kind, status, other, refusal, rfl⟩ := queued
  refine ⟨candid.honest.inject refusal, ?_, candid.guarded⟩
  show (d.queue.push kind status).statuses .getStatus = []
  rw [Queue.statuses_push, candid.unqueued, if_neg other]
  rfl

theorem answer (candid : d.Candid) (request : Request) : (d.answer request).2.Candid := by
  obtain ⟨-, honest, ⟨-, effect⟩ | ⟨-, same⟩⟩ := candid.honest.answer request
  · exact ⟨honest, unqueued_answer candid.unqueued request, effect.guarded candid.guarded⟩
  · refine ⟨honest, unqueued_answer candid.unqueued request, ?_⟩
    rw [same]
    exact candid.guarded

/-- The feature word is read as it is, if it can be read at all. -/
theorem reading_eq (candid : d.Candid) (reached : (d.answer (.getStatus default)).1.status.classify ≠ .system) :
    (d.answer (.getStatus default)).1.reading = d.vault.flags := by
  have none : d.queue.take? (Request.getStatus default).kind = none := Queue.take?_eq_none_iff.2 candid.unqueued
  cases supported : d.config.supported with
  | false =>
    simp only [SimulatedDrive.answer, none, supported, Bool.not_false, if_true] at reached
    exact absurd rfl reached
  | true =>
    have performs : d.vault.perform? d.config (.getStatus default) = some (⟨.success, d.vault.flags⟩, d.vault) := rfl
    rw [answer_of_unqueued supported none performs]

end Candid

end SimulatedDrive

/-! ## Runs, step by step -/

/-- What happens in the first steps of a procedure, at most so many, with the procedure and the drive behind them. -/
def Procedure.steps {σ α : Type} (d : Drive σ) : Nat → Procedure α → σ → Trace × Procedure α × σ
  | 0, p, s => ([], p, s)
  | n + 1, p, s =>
    match p.step? d s with
    | none => ([], p, s)
    | some (event, p', s') =>
      let (t, rest) := steps d n p' s'
      (event :: t, rest)

/-- What a drive goes through from the factory on. The operation that is running has made the steps in the trace, and
has this procedure left. -/
inductive Underway : Operation → Trace → Procedure Value → SimulatedDrive → Prop
  | fresh {op name config} : Underway op [] (op.procedure name) { name, config }
  | queued {op t p d d'} (run : Underway op t p d) (queued : d.RefusalQueued d') : Underway op t p d'
  | step {op t p d event p' d'} (run : Underway op t p d)
      (taken : p.step? SimulatedDrive.drive d = some (event, p', d')) : Underway op (t ++ [event]) p' d'
  | next {op t r d op'} (run : Underway op t (.done r) d) : Underway op' [] (op'.procedure d.name) d

namespace Underway

variable {op : Operation} {t : Trace} {p p' : Procedure Value} {d d' : SimulatedDrive} {event : Event}

theorem candid (run : Underway op t p d) : d.Candid := by
  induction run with
  | fresh => exact .new
  | queued _ queued ih => exact ih.queued queued
  | step _ taken ih =>
    rcases Procedure.step?_cases SimulatedDrive.steady taken with ⟨request, -, rfl⟩ | ⟨-, rfl⟩
    · exact ih.answer request
    · exact ih
  | next _ ih => exact ih

/-- However the rest of the operation goes, it is the rest of one of its runs. -/
theorem yields (run : Underway op t p d) :
    ∃ device, ∀ {rest r}, p.Yields rest r → (op.procedure device).Yields (t ++ rest) r := by
  induction run with
  | @fresh op name config => exact ⟨name, id⟩
  | queued _ _ ih => exact ih
  | @step op t p d event p' d' _ taken ih =>
    obtain ⟨device, ih⟩ := ih
    refine ⟨device, fun rest => ?_⟩
    rw [List.append_assoc]
    exact ih (Procedure.yields_of_step? taken rest)
  | @next op t r d op' => exact ⟨d.name, id⟩

/-- The operation that is running may go on by as many steps as it has left. -/
theorem steps (run : Underway op t p d) (n : Nat) :
    Underway op (t ++ (p.steps SimulatedDrive.drive n d).1) (p.steps SimulatedDrive.drive n d).2.1
      (p.steps SimulatedDrive.drive n d).2.2 := by
  induction n generalizing t p d with
  | zero => simpa [Procedure.steps] using run
  | succ n ih =>
    cases taken : p.step? SimulatedDrive.drive d with
    | none => simpa [Procedure.steps, taken] using run
    | some next =>
      obtain ⟨event, p', d'⟩ := next
      simpa [Procedure.steps, taken] using ih (run.step taken)

/-- It may also go on to its end. -/
theorem run (run : Underway op t p d) :
    Underway op (t ++ (p.run SimulatedDrive.drive d).trace) (.done (p.run SimulatedDrive.drive d).result)
      (p.run SimulatedDrive.drive d).drive := by
  induction p generalizing t d with
  | done => simpa [Procedure.run] using run
  | openDrive next ih | call request next ih => simpa [Procedure.run, Run.after] using ih _ (run.step rfl)
  | log record next ih | release next ih => simpa [Procedure.run, Run.after] using ih (run.step rfl)
  | acquire next ih => simpa [Run.after] using ih true (run.step rfl)

/-- If the operation found locking disabled, every password is one that it set itself. -/
theorem password_eq (run : Underway op t p d) {a : Answer (.getStatus default)} {rest : List Exchange}
    (first : t.exchanges = ⟨_, a⟩ :: rest) (reached : a.status.classify ≠ .system)
    (disabled : StatusFlags.lockingEnabled a.reading = false) {who : UInt32} (user : Vault.isUser who = true) :
    d.vault.password who = Vault.passwordAfter who none rest := by
  induction run generalizing rest with
  | fresh | next => cases first
  | queued _ queued ih =>
    obtain ⟨kind, status, -, -, rfl⟩ := queued
    exact ih first
  | @step op t p d event p' d' run taken ih =>
    rcases Procedure.step?_cases SimulatedDrive.steady taken with ⟨request, rfl, rfl⟩ | ⟨quiet, rfl⟩
    · obtain ⟨-, -, settles⟩ := run.candid.honest.answer request
      rw [SimulatedDrive.drive_answer, settles.password_eq user]
      rw [Trace.exchanges_append] at first
      generalize before : t.exchanges = xs at first
      cases xs with
      | nil =>
        -- This is the status query itself, and it was answered truly.
        cases first
        rw [SimulatedDrive.drive_answer, run.candid.reading_eq reached, Vault.lockingEnabled_flags] at disabled
        exact (ite_self _).trans (run.candid.guarded disabled who)
      | cons y ys =>
        obtain ⟨rfl, behind⟩ := List.cons.inj first
        have behind : ys ++ [⟨request, (d.answer request).1⟩] = rest := behind
        rw [← behind, Vault.passwordAfter_concat, ih before]
        rfl
    · rw [Trace.exchanges_append, quiet, List.append_nil] at first
      exact ih first

end Underway

variable {op : Operation} {t : Trace} {p : Procedure Value} {d : SimulatedDrive}

/-! ## New passwords -/

/-- A password is replaced by a call that sets it. -/
theorem Request.setPassword_of_passwordAfter {request : Request} {who : UInt32} {old new : Secret}
    (h : request.passwordAfter who (some old) = some new) (other : new ≠ old) :
    ∃ change, request = .setPassword change ∧ change.user.who = who ∧ change.user.key.content = new := by
  cases request with
  | setPassword change =>
    simp only [passwordAfter] at h
    split at h
    · next target => exact ⟨change, rfl, target, Option.some.inj h⟩
    · exact absurd (Option.some.inj h).symm other
  | psidRevert => cases h
  | _ => exact absurd (Option.some.inj h).symm other

theorem Underway.setPassword_of_step? {p' : Procedure Value} {d' : SimulatedDrive} {event : Event} {who : UInt32}
    {old new : Secret} (run : Underway op t p d) (taken : p.step? SimulatedDrive.drive d = some (event, p', d'))
    (user : Vault.isUser who = true) (had : d.vault.password who = some old)
    (has : d'.vault.password who = some new) (other : new ≠ old) :
    ∃ change a, event = .called (.setPassword change) a ∧ change.user.who = who ∧
      change.user.key.content = new := by
  rcases Procedure.step?_cases SimulatedDrive.steady taken with ⟨request, rfl, rfl⟩ | ⟨-, rfl⟩
  · obtain ⟨-, -, settles⟩ := run.candid.honest.answer request
    rw [SimulatedDrive.drive_answer, settles.password_eq user, had] at has
    split at has
    · obtain ⟨change, rfl, target, content⟩ := Request.setPassword_of_passwordAfter has other
      exact ⟨change, _, rfl, target, content⟩
    · exact absurd (Option.some.inj has).symm other
  · rw [had] at has
    exact absurd (Option.some.inj has).symm other

/-- Only provisioning asks for a password, for that of its own user, and this is where it stands then. -/
theorem Operation.Course.of_password {before after : List Exchange} {x : Exchange} {r : Except Error Value}
    (course : op.Course (before ++ x :: after) r) (password : x.kind = .setPassword) :
    ∃ setup, op = .setup setup ∧ x.request = .setPassword setup.passwordChange ∧
      (∀ y ∈ before, y.kind ≠ .psidRevert ∧ (y.kind = .setPassword → y.request = .setPassword setup.passwordChange)) ∧
      ∃ (a : Answer (.getStatus default)) (rest : List Exchange), before = ⟨_, a⟩ :: rest ∧
        a.status.classify ≠ .system ∧
          (StatusFlags.lockingEnabled a.reading = false ∨ ∃ y ∈ rest, setup.Wiped y) := by
  generalize calls : before ++ x :: after = xs at course
  have mem : x ∈ xs := by simp [← calls]
  cases course with
  | @setup setup xs r course =>
    refine ⟨setup, rfl, (course.passwords x mem).2 password, fun y earlier => ?_, ?_⟩
    · exact course.passwords y (by simp [← calls, earlier])
    · subst calls
      exact course.wiped_of_password password
  | setLock course | verify course | resetSegment course | factoryReset course | flags course | supported course
  | lockingEnabled course | geometry course =>
    have others : ∀ y ∈ xs, y.kind ≠ .setPassword := by
      cases course <;> simp [Exchange.kind, Request.kind]
    exact absurd password (others x mem)

/-- A user has no password while locking is not enabled; and whenever the password of a segment's user is replaced by
another one, this is done by provisioning the segment, and the drive has erased the range earlier in the same
operation. -/
theorem rekeyed_only_wiped (run : Underway op t p d) :
    (d.vault.lockingEnabled = false → ∀ who, d.vault.password who = none) ∧
      ∀ {event p' d'}, p.step? SimulatedDrive.drive d = some (event, p', d') →
        ∀ {segment old new}, checkSegment segment = .ok () →
          d.vault.password (Authority.ofSegment segment).who = some old →
          d'.vault.password (Authority.ofSegment segment).who = some new → new ≠ old →
          ∃ setup a, op = .setup setup ∧ setup.segment = segment ∧
            event = .called (.setPassword setup.passwordChange) a ∧ ∃ x ∈ t.exchanges, setup.Wiped x := by
  refine ⟨run.candid.guarded, fun {event p' d'} taken {segment old new} valid had has other => ?_⟩
  have user := isUser_ofSegment valid
  obtain ⟨change, a, rfl, target, content⟩ := run.setPassword_of_step? taken user had has other
  obtain ⟨device, yields⟩ := run.yields
  have whole := yields (Procedure.yields_of_step? taken (p'.run_yields SimulatedDrive.drive d'))
  rcases Operation.procedure_course whole with ⟨quiet, -⟩ | ⟨-, course⟩
  · simp at quiet
  · rw [Trace.exchanges_append, Trace.exchanges_called] at course
    obtain ⟨setup, rfl, same, before, flags, rest, first, reached, found⟩ := course.of_password rfl
    cases same
    refine ⟨setup, a, rfl, who_ofSegment_inj target, rfl, ?_⟩
    rcases found with disabled | ⟨y, mem, wiped⟩
    · -- The password that is there was set by this operation, so it is the same.
      have earlier : ∀ y ∈ rest, y ∈ t.exchanges := fun y mem => first ▸ .tail _ mem
      rw [run.password_eq first reached disabled user,
        Vault.passwordAfter_of_single (fun y mem => (before y (earlier y mem)).1)
          fun y mem => (before y (earlier y mem)).2] at had
      split at had
      · rw [content] at had
        exact absurd (Option.some.inj had) other
      · cases had
    · exact ⟨y, first ▸ .tail _ mem, wiped⟩

/-- A segment that is provisioned a second time, with another volume key. -/
theorem rekeyed_only_wiped_again :
    let again : Operation := .setup ⟨1, 0, 8, [9], [2]⟩
    let provisioned := ((SimulatedDrive.new "d").run (.setup ⟨1, 0, 8, [1], [2]⟩)).drive
    let now := (again.procedure provisioned.name).steps SimulatedDrive.drive 23 provisioned
    Underway again now.1 now.2.1 now.2.2 ∧ now.2.2.vault.password (Authority.ofSegment 1).who = some [1] ∧
      ∃ event p' d', now.2.1.step? SimulatedDrive.drive now.2.2 = some (event, p', d') ∧
        d'.vault.password (Authority.ofSegment 1).who = some [9] ∧
        ∃ setup a, again = .setup setup ∧ setup.segment = 1 ∧
          event = .called (.setPassword setup.passwordChange) a ∧ ∃ x ∈ now.1.exchanges, setup.Wiped x := by
  intro again provisioned now
  have first : Underway (.setup ⟨1, 0, 8, [1], [2]⟩) [] _ (SimulatedDrive.new "d") := .fresh
  have run : Underway again now.1 now.2.1 now.2.2 := first.run.next.steps 23
  have had : now.2.2.vault.password (Authority.ofSegment 1).who = some [1] := by decide +kernel
  have step : (now.2.1.step? SimulatedDrive.drive now.2.2).map (·.2.2.vault.password (Authority.ofSegment 1).who) =
      some (some [9]) := by decide +kernel
  obtain ⟨⟨event, p', d'⟩, taken, has⟩ := Option.map_eq_some_iff.1 step
  exact ⟨run, had, event, p', d', taken, has,
    (rekeyed_only_wiped run).2 taken (rfl : checkSegment 1 = .ok ()) had has (by decide)⟩

end OpalLocking
