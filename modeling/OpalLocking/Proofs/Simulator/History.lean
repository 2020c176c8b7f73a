/-
What a simulated drive goes through once it left the factory.

Operations run against it one after the other, and at any moment, also between two calls of one operation, a
status that is no success may be queued for a later call (`SimulatedDrive.Attended`). A `History` lists the
operations that were run, the latest first, with what happened in them. The vault of such a drive changes by the
calls that were accepted, and by nothing else (`Attended.evolves`).
-/
import OpalLocking.Simulator.Setting
import OpalLocking.Proofs.Simulator.Evolution

namespace OpalLocking

open Simulator

namespace SimulatedDrive

variable {d d' : SimulatedDrive} {t : Trace}

/-! ## Answers while refusals are queued -/

/-- The drive gives the answers of these events, in order, on its way from one state to the other. At any moment
a refusal may be queued on it. -/
inductive Attended : SimulatedDrive → Trace → SimulatedDrive → Prop
  | nil {d : SimulatedDrive} : Attended d [] d
  | queued {d d' : SimulatedDrive} {kind status t} (refusal : status.classify ≠ .success)
      (rest : Attended (d.inject kind status) t d') : Attended d t d'
  | opened {d d' : SimulatedDrive} {t} (rest : Attended d.opening.2 t d') :
      Attended d (.opened d.opening.1 :: t) d'
  | called {d d' : SimulatedDrive} {request t} (rest : Attended (d.answer request).2 t d') :
      Attended d (.called request (d.answer request).1 :: t) d'
  | logged {d d' : SimulatedDrive} {record t} (rest : Attended d t d') : Attended d (.logged record :: t) d'
  | acquired {d d' : SimulatedDrive} {t} (rest : Attended d t d') : Attended d (.acquired :: t) d'
  | released {d d' : SimulatedDrive} {t} (rest : Attended d t d') : Attended d (.released :: t) d'

/-- Nothing has to be queued. -/
theorem attended_of_path (h : drive.Path d t d') : Attended d t d' := by
  induction h with
  | nil => exact .nil
  | opened _ ih => exact .opened ih
  | called _ ih => exact .called ih
  | logged _ ih => exact .logged ih
  | acquired _ ih => exact .acquired ih
  | released _ ih => exact .released ih

/-- No success is queued, so an accepted call was accepted by the vault. -/
def Honest (d : SimulatedDrive) : Prop :=
  ∀ kind, ∀ status ∈ d.queue.statuses kind, status.classify ≠ .success

theorem Honest.inject {kind status} (honest : d.Honest) (refusal : status.classify ≠ .success) :
    (d.inject kind status).Honest := by
  intro other queued mem
  have mem : queued ∈ (d.queue.push kind status).statuses other := mem
  rw [Queue.statuses_push] at mem
  rcases List.mem_append.1 mem with old | new
  · exact honest other queued old
  · split at new
    · rw [List.mem_singleton.1 new]
      exact refusal
    · cases new

/-- One call: the configuration stays, and the vault settles it. -/
theorem Honest.answer (honest : d.Honest) (request : Request) :
    (d.answer request).2.config = d.config ∧ (d.answer request).2.Honest ∧
      Vault.Settles d.config d.vault request (d.answer request).1.status (d.answer request).2.vault := by
  have answered := d.answer_answered request
  refine ⟨answered.config, fun kind queued mem => ?_, ?_⟩
  · rw [answered.statuses] at mem
    split at mem
    · exact honest kind queued (List.mem_of_mem_tail mem)
    · exact honest kind queued mem
  · rcases answered.vault with ⟨queued, same⟩ | settles
    · exact .inr ⟨honest _ _ queued, same⟩
    · exact settles

/-- Only accepted calls change the vault. -/
theorem Attended.evolves (h : Attended d t d') (honest : d.Honest) :
    d'.config = d.config ∧ d'.Honest ∧ Vault.Evolves d.config d.vault t.exchanges d'.vault := by
  induction h with
  | nil => exact ⟨rfl, honest, .nil⟩
  | queued refusal _ ih => exact ih (honest.inject refusal)
  | opened _ ih => exact ih honest
  | @called d d' request t rest ih =>
    obtain ⟨config, honest₁, settles⟩ := honest.answer request
    obtain ⟨config₂, honest₂, evolves⟩ := ih honest₁
    rw [config] at evolves config₂
    refine ⟨config₂, honest₂, ?_⟩
    rcases settles with ⟨accepted, effect⟩ | ⟨refused, same⟩
    · exact .accepted (x := ⟨request, (d.answer request).1⟩) accepted effect evolves
    · rw [same] at evolves
      exact .refused (x := ⟨request, (d.answer request).1⟩) refused evolves
  | logged _ ih => exact ih honest
  | acquired _ ih => exact ih honest
  | released _ ih => exact ih honest

end SimulatedDrive

/-! ## Operations one after the other -/

/-- An operation that was run, with what happened and what came of it. -/
structure Episode where
  operation : Operation
  trace : Trace
  result : Except Error Value

namespace Episode

/-- The operation can go like this on a drive that refusals may be queued on. -/
def Runs (e : Episode) (d d' : SimulatedDrive) : Prop :=
  (e.operation.procedure d.name).Yields e.trace e.result ∧ SimulatedDrive.Attended d e.trace d'

/-- The drive accepted a call of this kind. -/
def Accepts (e : Episode) (kind : CallKind) : Prop :=
  ∃ x ∈ e.trace.exchanges, x.kind = kind ∧ x.Accepted

instance (e : Episode) (kind : CallKind) : Decidable (e.Accepts kind) :=
  inferInstanceAs (Decidable (∃ x ∈ _, _))

/-- An operation that is run with nobody interfering. -/
def alone (d : SimulatedDrive) (op : Operation) : Episode :=
  ⟨op, (d.run op).trace, (d.run op).result⟩

theorem alone_runs (d : SimulatedDrive) (op : Operation) : (alone d op).Runs d (d.run op).drive :=
  ⟨Procedure.run_yields _ _ _, SimulatedDrive.attended_of_path (Procedure.run_path _ _ _)⟩

end Episode

/-- The operations that were run on a drive since it left the factory, the latest first. -/
inductive History : List Episode → SimulatedDrive → Prop
  | fresh {name config} : History [] { name, config }
  | next {past d e d'} (before : History past d) (ran : Episode.Runs e d d') : History (e :: past) d'

/-- The volume key of the latest provisioning of a segment in which the drive accepted the password, unless the
drive was reverted since. -/
def keyInForce (segment : UInt32) : List Episode → Option Secret
  | [] => none
  | e :: past =>
    if e.Accepts .psidRevert then none
    else
      match e.operation with
      | .setup p =>
        if p.segment = segment ∧ e.Accepts .setPassword then some p.volumeKey else keyInForce segment past
      | _ => keyInForce segment past

end OpalLocking
