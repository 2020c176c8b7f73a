/-
What is seen of an operation by whoever does not see the bytes of its keys.

Two operations that differ in nothing else are in step (`Operation.opened_inStep`), and the checks before them look at
lengths only. So a drive that does not answer by key bytes sends both on the same way, and the two runs leave traces
that are alike, event by event (`Trace.Alike`); results, log records and buffers are views of a trace in which key bytes
do not occur.
-/
import Mathlib.Data.List.Forall2
import OpalLocking.Proofs.InStep
import OpalLocking.Proofs.Simulator.Effects
import OpalLocking.Script

namespace OpalLocking

variable {σ α : Type}

/-! ## Drives that answer from a script -/

/-- Neither opening nor any answer depends on key bytes. A drive may remember what it was sent, as long as states that
differ in that are alike: it never answers by it. -/
structure Drive.Oblivious (d : Drive σ) (R : σ → σ → Prop) : Prop where
  opening : ∀ {s s'}, R s s' → (d.opening s).1 = (d.opening s').1 ∧ R (d.opening s).2 (d.opening s').2
  answer : ∀ {s s'} {r r' : Request}, R s s' → r.withoutBytes = r'.withoutBytes →
    (d.answer s r).1.Same (d.answer s' r').1 ∧ R (d.answer s r).2 (d.answer s' r').2

namespace Request

@[simp] theorem kind_withoutBytes (r : Request) : r.withoutBytes.kind = r.kind := by
  cases r <;> rfl

theorem kind_eq_of_withoutBytes {r r' : Request} (alike : r.withoutBytes = r'.withoutBytes) : r.kind = r'.kind := by
  rw [← r.kind_withoutBytes, alike, r'.kind_withoutBytes]

end Request

theorem ScriptedAnswer.reading_withoutBytes (a : ScriptedAnswer) (r : Request) :
    HEq (a.reading r.withoutBytes) (a.reading r) := by
  cases r <;> rfl

/-- A scripted drive looks at nothing but the kind of a call. -/
theorem Script.drive_oblivious : Script.drive.Oblivious Eq where
  opening := by
    intro s s' alike
    rw [alike]
    exact ⟨rfl, rfl⟩
  answer := by
    intro s s' r r' alike stripped
    subst alike
    have kind := Request.kind_eq_of_withoutBytes stripped
    refine ⟨⟨?_, ?_⟩, ?_⟩
    · simp only [drive, kind]
    · have reading := ScriptedAnswer.reading_withoutBytes (s.due r'.kind) r
      rw [stripped] at reading
      simp only [drive, kind]
      exact reading.symm.trans (ScriptedAnswer.reading_withoutBytes _ r')
    · simp only [drive, kind]

/-! ## Alike traces -/

/-- The same happened, up to key bytes. -/
inductive Event.Alike : Event → Event → Prop
  | opened {outcome} : Alike (.opened outcome) (.opened outcome)
  | called {r r'} {a : Answer r} {a' : Answer r'} (request : r.withoutBytes = r'.withoutBytes) (answer : a.Same a') :
      Alike (.called r a) (.called r' a')
  | logged {record} : Alike (.logged record) (.logged record)
  | acquired : Alike .acquired .acquired
  | released : Alike .released .released

abbrev Trace.Alike : Trace → Trace → Prop :=
  List.Forall₂ Event.Alike

namespace Trace.Alike

variable {t t' : Trace}

theorem requests (alike : t.Alike t') :
    t.requests.map Request.withoutBytes = t'.requests.map Request.withoutBytes := by
  induction alike with
  | nil => rfl
  | cons first _ ih =>
    cases first with
    | called request => exact congrArg₂ List.cons request ih
    | opened | logged | acquired | released => exact ih

theorem records (alike : t.Alike t') : t.records = t'.records := by
  induction alike with
  | nil => rfl
  | cons first _ ih =>
    cases first with
    | logged => exact congrArg (List.cons _) ih
    | opened | called | acquired | released => exact ih

theorem liveAfter (alike : t.Alike t') (live : Nat) : t.liveAfter live = t'.liveAfter live := by
  induction alike generalizing live with
  | nil => rfl
  | cons first _ ih => cases first <;> exact ih _

end Trace.Alike

/-- Finished runs that differ in the key bytes of their requests at most, on drives left in states that are alike. -/
structure Run.Alike (R : σ → σ → Prop) (run run' : Run σ α) : Prop where
  result : run.result = run'.result
  drive : R run.drive run'.drive
  trace : run.trace.Alike run'.trace

theorem Run.Alike.after {R : σ → σ → Prop} {run run' : Run σ α} {event event' : Event}
    (alike : run.Alike R run') (first : event.Alike event') : (run.after event).Alike R (run'.after event') where
  result := alike.result
  drive := alike.drive
  trace := .cons first alike.trace

/-! ## Runs -/

variable {d : Drive σ} {R : σ → σ → Prop} {s s' : σ} {base live : Nat} {device : String} {op op' : Operation}

/-- Procedures in step come to the same on an oblivious drive. -/
theorem Procedure.InStep.run_alike {p q : Procedure α} (inStep : InStep base live p q) (oblivious : d.Oblivious R)
    (alike : R s s') : (p.run d s).Alike R (q.run d s') := by
  induction inStep generalizing s s' with
  | done => exact ⟨rfl, alike, .nil⟩
  | @call live r r' next next' request sheltered rest ih =>
    obtain ⟨answer, left⟩ := oblivious.answer alike request
    exact (ih _ _ answer left).after (.called request answer)
  | log _ ih => exact (ih alike).after .logged
  | acquire _ _ ih => exact (ih alike).after .acquired
  | release _ ih => exact (ih alike).after .released

/-- A key is judged by its length. -/
theorem checkKey_eq_of_length {role : KeyRole} {key key' : Secret} (same : key.length = key'.length) :
    checkKey role key = checkKey role key' := by
  have empty : key.isEmpty = key'.isEmpty := by
    rw [Bool.eq_iff_iff, List.isEmpty_iff_length_eq_zero, List.isEmpty_iff_length_eq_zero, same]
  simp only [checkKey, same, empty]

theorem checkLockKey_eq_of_length {locked : Bool} {key key' : Option Secret}
    (same : key.map List.length = key'.map List.length) : checkLockKey locked key = checkLockKey locked key' := by
  cases key with
  | none =>
    cases key' with
    | none => rfl
    | some => cases same
  | some key =>
    cases key' with
    | none => cases same
    | some key' =>
      cases locked with
      | true => rfl
      | false => exact checkKey_eq_of_length (Option.some.inj same)

theorem Operation.SameButKeys.check (same : op.SameButKeys op') : op.check = op'.check := by
  cases same with
  | setup same =>
    simp only [Operation.check, Provision.check, checkKey_eq_of_length same.adminKey,
      checkKey_eq_of_length same.volumeKey, same.segment, same.length]
  | setLock same => simp only [Operation.check, checkLockKey_eq_of_length same]
  | verify same | resetSegment same => simp only [Operation.check, checkKey_eq_of_length same]
  | factoryReset same => exact checkKey_eq_of_length same
  | flags | supported | lockingEnabled | geometry => rfl

/-- Operations that differ in the bytes of their keys run alike, whether they are refused, find the drive closed, or
carry on. -/
theorem Operation.run_alike (oblivious : d.Oblivious R) (alike : R s s') (same : op.SameButKeys op') :
    ((op.procedure device).run d s).Alike R ((op'.procedure device).run d s') := by
  cases checked : op.check with
  | error e =>
    rw [run_of_refused checked, run_of_refused (same.check ▸ checked)]
    exact ⟨rfl, alike, .nil⟩
  | ok =>
    -- The drive opens for both or for neither, and is left in states that are alike either way.
    obtain ⟨outcome, left⟩ := oblivious.opening alike
    rcases opened : d.opening s with ⟨opens, s₁⟩
    rcases opened' : d.opening s' with ⟨opens', s₁'⟩
    rw [opened, opened'] at outcome left
    cases outcome
    cases opens with
    | error why =>
      rw [run_of_closed checked opened, run_of_closed (same.check ▸ checked) opened']
      exact ⟨rfl, left, .cons .opened .nil⟩
    | ok =>
      rw [run_of_open checked opened, run_of_open (same.check ▸ checked) opened']
      exact ((opened_inStep same : Procedure.InStep 0 0 _ _).run_alike oblivious left).after .opened

/-- What a simulated drive remembers of a request has no key bytes in it. -/
theorem Simulator.CallRecord.ofRequest_withoutBytes (r : Request) : ofRequest r.withoutBytes = ofRequest r := by
  cases r <;> rfl

/-- Key bytes are not seen. On a drive that answers by anything else, two operations that differ in the bytes of their
keys come to the same result, log the same records, leave the same number of buffers, and submit the same requests up
to key bytes. And of two requests that differ in key bytes, a simulated drive remembers the same. -/
theorem keys_unseen (oblivious : d.Oblivious R) (alike : R s s') (same : op.SameButKeys op') :
    let run := (op.procedure device).run d s
    let run' := (op'.procedure device).run d s'
    run.result = run'.result ∧ run.trace.records = run'.trace.records ∧
      (∀ live, run.trace.liveAfter live = run'.trace.liveAfter live) ∧
      run.trace.requests.map Request.withoutBytes = run'.trace.requests.map Request.withoutBytes ∧
      ∀ (sim : SimulatedDrive) (r r' : Request), r.withoutBytes = r'.withoutBytes →
        (sim.answer r).2.calls = (sim.answer r').2.calls := by
  have runs : ((op.procedure device).run d s).Alike R ((op'.procedure device).run d s') :=
    Operation.run_alike oblivious alike same
  refine ⟨runs.result, runs.trace.records, runs.trace.liveAfter, runs.trace.requests, ?_⟩
  intro sim r r' stripped
  rw [(sim.answer_answered r).calls, (sim.answer_answered r').calls,
    ← Simulator.CallRecord.ofRequest_withoutBytes r, stripped, Simulator.CallRecord.ofRequest_withoutBytes r']

/-- A range that is set up with one pair of keys, and with another. -/
theorem keys_unseen_setup :
    let s : Script := { answers := [(.getGeometry, [{ status := .success, blockSize := some 512 }])] }
    let p : Provision := ⟨3, 0, 8, [1, 2], [3, 4, 5]⟩
    let q : Provision := ⟨3, 0, 8, [6, 7], [8, 9, 10]⟩
    let run := ((Operation.setup p).procedure "d").run Script.drive s
    let run' := ((Operation.setup q).procedure "d").run Script.drive s
    Script.drive.Oblivious Eq ∧ (Operation.setup p).SameButKeys (.setup q) ∧ p.adminKey ≠ q.adminKey ∧
      run.result = run'.result ∧ run.trace.records = run'.trace.records ∧
      run.trace.requests.map Request.withoutBytes = run'.trace.requests.map Request.withoutBytes := by
  intro s p q run run'
  have same : (Operation.setup p).SameButKeys (.setup q) := .setup ⟨rfl, rfl, rfl, rfl, rfl⟩
  obtain ⟨result, records, -, requests, -⟩ := @keys_unseen _ _ _ s s "d" _ _ Script.drive_oblivious rfl same
  exact ⟨Script.drive_oblivious, same, by decide, result, records, requests⟩

end OpalLocking
