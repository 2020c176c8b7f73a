/-
Hosts that keep to segments of their own do not notice each other.

Each host is compared with itself alone on the drive. One step of it is the same step there, up to what nobody makes use
of (`Procedure.Stays.step?`), and the steps of the others go unnoticed. By induction over the interleaving, every host
comes to the result that it comes to alone, and the drive is left as all of them alone would have left their parts of it
(`Interleaving.alone`).
-/
import OpalLocking.Proofs.Simulator.Locality

namespace OpalLocking

open Simulator

variable {α : Type} {segment : UInt32} {segments : List UInt32} {request : Request} {p p' : Procedure α}
  {d d' d₁ e : SimulatedDrive} {event : Event} {t : Trace} {results : List (Except Error α)}

/-! ## One step -/

/-- A step of a host that keeps to a segment is the same step on every drive that looks the same to the segment, and
leads nowhere but behind a request of the segment. -/
theorem Procedure.Stays.step? (stays : p.Stays segment) (same : d.SameFor segment e)
    (taken : p.step? SimulatedDrive.drive d = some (event, p', d₁)) :
    ∃ event' e₁, p.step? SimulatedDrive.drive e = some (event', p', e₁) ∧
      Trace.requests [event'] = Trace.requests [event] ∧ p'.Stays segment ∧ d₁.SameFor segment e₁ ∧
      (d₁ = d ∨ ∃ request, request.Own segment ∧ d₁ = (d.answer request).2) := by
  cases p <;> simp only [Procedure.step?, Option.some.injEq, Prod.mk.injEq, reduceCtorEq] at taken <;>
    obtain ⟨rfl, rfl, rfl⟩ := taken
  case openDrive next =>
    have opening : (SimulatedDrive.drive.opening d).1 = (SimulatedDrive.drive.opening e).1 := by
      show (if d.config.failOpen then _ else _) = if e.config.failOpen then _ else _
      rw [same.config]
    rw [opening]
    exact ⟨_, e, rfl, rfl, stays _, same, .inl rfl⟩
  case call request next =>
    obtain ⟨own, blind, onwards⟩ := stays
    obtain ⟨alike, inUse, behind⟩ := same.answer own
    have onward : next (d.answer request).1 = next (e.answer request).1 := blind _ _ alike
    refine ⟨.called request (e.answer request).1, (e.answer request).2, ?_, rfl, ?_, behind, .inr ⟨request, own, rfl⟩⟩
    · show some (_, next (e.answer request).1, _) = some (_, next (d.answer request).1, _)
      rw [onward]
      rfl
    · show (next (d.answer request).1).Stays segment
      rw [onward]
      exact onwards _ inUse
  case acquire next => exact ⟨_, e, rfl, rfl, stays true, same, .inl rfl⟩
  all_goals exact ⟨_, e, rfl, rfl, stays, same, .inl rfl⟩

/-! ## The rest of the drive -/

/-- The drives are the same but for the users and the ranges of these segments, and the calls that they remember. -/
structure SimulatedDrive.Elsewhere (segments : List UInt32) (d d' : SimulatedDrive) : Prop where
  name : d'.name = d.name
  config : d'.config = d.config
  queue : d'.queue = d.queue
  keys : d.vault.SameKeys d'.vault
  users : ∀ who, (∀ segment ∈ segments, checkSegment segment = .ok () → who ≠ (Authority.ofSegment segment).who) →
    d'.vault.userAt who = d.vault.userAt who
  ranges : ∀ range, (∀ segment ∈ segments, checkSegment segment = .ok () → range ≠ segment.toUInt8) →
    d'.vault.rangeAt range = d.vault.rangeAt range

namespace SimulatedDrive

theorem Elsewhere.refl (segments : List UInt32) (d : SimulatedDrive) : d.Elsewhere segments d :=
  ⟨rfl, rfl, rfl, .refl _, fun _ _ => rfl, fun _ _ => rfl⟩

theorem Elsewhere.trans (first : d.Elsewhere segments d₁) (second : d₁.Elsewhere segments d') :
    d.Elsewhere segments d' :=
  ⟨second.name.trans first.name, second.config.trans first.config, second.queue.trans first.queue,
    first.keys.trans second.keys, fun who other => (second.users who other).trans (first.users who other),
    fun range other => (second.ranges range other).trans (first.ranges range other)⟩

theorem Idle.answer_elsewhere (idle : d.Idle) (own : request.Own segment) (mem : segment ∈ segments) :
    d.Elsewhere segments (d.answer request).2 := by
  obtain ⟨v, behind, settles⟩ := idle.settles request
  rw [behind]
  rcases settles with ⟨-, effect⟩ | ⟨-, rfl⟩
  · have spares := effect.spares own.confined
    exact ⟨rfl, rfl, rfl, effect.sameKeys own.confined own.valid own.not_takesOver,
      fun who other => spares.users who (other segment mem own.valid),
      fun range other => spares.ranges range (other segment mem own.valid)⟩
  · exact ⟨rfl, rfl, rfl, .refl _, fun _ _ => rfl, fun _ _ => rfl⟩

/-- To be the same elsewhere, and to look the same to each segment, is to be the same. -/
theorem clearCalls_eq {d₂ : SimulatedDrive} (one : d.Elsewhere segments d₁) (another : d.Elsewhere segments d₂)
    (same : ∀ segment ∈ segments, ∃ e : SimulatedDrive, d₁.SameFor segment e ∧ d₂.SameFor segment e) :
    d₁.clearCalls = d₂.clearCalls := by
  have tenancy : ∀ segment ∈ segments, checkSegment segment = .ok () →
      d₁.vault.tenancy segment = d₂.vault.tenancy segment := by
    intro segment mem valid
    obtain ⟨e, first, second⟩ := same segment mem
    obtain ⟨_, _, looks, solo⟩ := first.looks valid
    obtain ⟨_, _, looksToo, soloToo⟩ := second.looks valid
    rw [looks.tenancy, looksToo.tenancy, ← solo.tenancy, ← soloToo.tenancy]
  have vault : d₁.vault = d₂.vault := by
    refine Vault.ext_entries (one.keys.owner.trans another.keys.owner.symm)
      (one.keys.lockingEnabled.trans another.keys.lockingEnabled.symm)
      (one.keys.admin.trans another.keys.admin.symm) (fun who => ?_) fun range => ?_
    · by_cases here : ∃ segment ∈ segments, checkSegment segment = .ok () ∧ who = (Authority.ofSegment segment).who
      · obtain ⟨segment, mem, valid, rfl⟩ := here
        exact congrArg Tenancy.user (tenancy segment mem valid)
      · have other : ∀ segment ∈ segments, checkSegment segment = .ok () → who ≠ (Authority.ofSegment segment).who :=
          fun segment mem valid same => here ⟨segment, mem, valid, same⟩
        exact (one.users who other).trans (another.users who other).symm
    · by_cases here : ∃ segment ∈ segments, checkSegment segment = .ok () ∧ range = segment.toUInt8
      · obtain ⟨segment, mem, valid, rfl⟩ := here
        exact congrArg Tenancy.range (tenancy segment mem valid)
      · have other : ∀ segment ∈ segments, checkSegment segment = .ok () → range ≠ segment.toUInt8 :=
          fun segment mem valid same => here ⟨segment, mem, valid, same⟩
        exact (one.ranges range other).trans (another.ranges range other).symm
  have name := one.name.trans another.name.symm
  have config := one.config.trans another.config.symm
  have queue := one.queue.trans another.queue.symm
  cases d₁
  cases d₂
  simp_all [clearCalls]

end SimulatedDrive

/-! ## Hosts -/

/-- A host that keeps to a segment, with the drive as it would be by now if the host were alone. -/
structure Host (α : Type) where
  segment : UInt32
  procedure : Procedure α
  drive : SimulatedDrive

namespace Host

/-- What the host alone comes to from here. -/
def alone (h : Host α) : Run SimulatedDrive α :=
  h.procedure.run SimulatedDrive.drive h.drive

/-- The host keeps to its segment, and cannot tell the drive from the one that it would have alone. -/
structure Fits (d : SimulatedDrive) (h : Host α) : Prop where
  stays : h.procedure.Stays h.segment
  same : d.SameFor h.segment h.drive

/-- The host behind one step of it. -/
def behind (h : Host α) (p : Procedure α) (e : SimulatedDrive) : Host α :=
  { h with procedure := p, drive := e }

end Host

/-- What an interleaving of hosts has come to, as far as the hosts alone tell. -/
structure Alone (hosts : List (Host α)) (d : SimulatedDrive) (t : Trace) (results : List (Except Error α))
    (d' : SimulatedDrive) : Prop where
  results : results = hosts.map (·.alone.result)
  same : ∀ h ∈ hosts, d'.SameFor h.segment h.alone.drive
  requests : t.requests.Perm (hosts.flatMap (·.alone.trace.requests))
  elsewhere : d.Elsewhere (hosts.map (·.segment)) d'

/-- Hosts that have ended have nothing left to come to. -/
theorem Alone.ended {hosts : List (Host α)} (ended : hosts.map (·.procedure) = results.map .done)
    (fits : ∀ h ∈ hosts, h.Fits d) : Alone hosts d [] results d := by
  have done : ∀ h ∈ hosts, h.procedure = .done h.alone.result := by
    intro h mem
    have listed : h.procedure ∈ results.map .done := ended ▸ List.mem_map_of_mem mem
    obtain ⟨result, -, same⟩ := List.mem_map.1 listed
    rw [Host.alone, ← same]
    rfl
  have rest : ∀ h ∈ hosts, h.alone = ⟨h.alone.result, h.drive, []⟩ := by
    intro h mem
    rw [Host.alone, done h mem]
    rfl
  refine ⟨?_, fun h mem => ?_, ?_, .refl _ _⟩
  · have listed : results.map Procedure.done = (hosts.map (·.alone.result)).map Procedure.done := by
      rw [← ended, List.map_map]
      exact List.map_congr_left done
    exact (List.map_inj_right fun _ _ same => Procedure.done.inj same).1 listed
  · rw [rest h mem]
    exact (fits h mem).same
  · have none : hosts.flatMap (·.alone.trace.requests) = [] :=
      List.flatMap_eq_nil_iff.2 fun h mem => by rw [rest h mem]; rfl
    rw [none]
    exact .nil

/-- One host takes a step, and the others do not notice. -/
theorem Alone.step {before after : List (Host α)} {h : Host α} {event' : Event}
    (taken : h.procedure.step? SimulatedDrive.drive h.drive = some (event', p', e))
    (requests : Trace.requests [event'] = Trace.requests [event])
    (moved : d.Elsewhere ((before ++ h :: after).map (·.segment)) d₁)
    (rest : Alone (before ++ h.behind p' e :: after) d₁ t results d') :
    Alone (before ++ h :: after) d (event :: t) results d' := by
  have run : h.alone = (h.behind p' e).alone.after event' := Procedure.run_of_step? taken
  have segments : (before ++ h.behind p' e :: after).map (·.segment) = (before ++ h :: after).map (·.segment) := by
    simp [Host.behind]
  obtain ⟨ended, same, calls, elsewhere⟩ := rest
  rw [segments] at elsewhere
  refine ⟨?_, fun other mem => ?_, ?_, moved.trans elsewhere⟩
  · rw [ended]
    simp [run, Run.after]
  · rcases List.mem_cons.1 (List.perm_middle.mem_iff.1 mem) with rfl | mem
    · rw [run]
      exact same (other.behind p' e) (List.perm_middle.mem_iff.2 (.head _))
    · exact same other (List.perm_middle.mem_iff.2 (.tail _ mem))
  · have own : h.alone.trace.requests = Trace.requests [event'] ++ (h.behind p' e).alone.trace.requests := by
      rw [run]
      cases event' <;> rfl
    have all : Trace.requests (event :: t) = Trace.requests [event'] ++ t.requests := by
      rw [requests]
      cases event <;> rfl
    simp only [List.flatMap_append, List.flatMap_cons] at calls ⊢
    rw [own, all, List.append_assoc]
    exact (calls.append_left _).trans (List.perm_append_comm_assoc ..)

/-- Every host of an interleaving comes to what it comes to alone. -/
theorem Interleaving.alone {hosts : List (Host α)} {ps : List (Procedure α)}
    (run : Interleaving SimulatedDrive.drive ps d t results d') (hosted : hosts.map (·.procedure) = ps)
    (apart : (hosts.map (·.segment)).Nodup) (fits : ∀ h ∈ hosts, h.Fits d) : Alone hosts d t results d' := by
  induction run generalizing hosts with
  | ended => exact .ended hosted fits
  | @step before after q q' s s₁ s' event t results taken rest ih =>
    obtain ⟨bs, hs, rfl, rfl, found⟩ := List.map_eq_append_iff.1 hosted
    obtain ⟨h, as, rfl, rfl, rfl⟩ := List.map_eq_cons_iff.1 found
    have here := fits h (by simp)
    obtain ⟨event', e, takenAlone, requests, stays, same, led⟩ := here.stays.step? here.same taken
    have segments : (bs ++ h.behind q' e :: as).map (·.segment) = (bs ++ h :: as).map (·.segment) := by
      simp [Host.behind]
    have apart' := apart
    rw [List.map_append, List.map_cons, List.perm_middle.nodup_iff, List.nodup_cons, ← List.map_append] at apart'
    have unnoticed : ∀ other ∈ bs ++ as, other.Fits s₁ := by
      intro other mem
      have ne : other.segment ≠ h.segment := fun same => apart'.1 (same ▸ List.mem_map_of_mem mem)
      have fit := fits other (List.perm_middle.mem_iff.2 (.tail _ mem))
      rcases led with rfl | ⟨request, own, rfl⟩
      · exact fit
      · exact ⟨fit.stays, fit.same.otherAnswer own ne⟩
    have moved : s.Elsewhere ((bs ++ h :: as).map (·.segment)) s₁ := by
      rcases led with rfl | ⟨request, own, rfl⟩
      · exact .refl _ _
      · exact here.same.idle.answer_elsewhere own (by simp)
    refine .step takenAlone requests moved (ih (by simp [Host.behind]) (segments ▸ apart) fun other mem => ?_)
    rcases List.mem_cons.1 (List.perm_middle.mem_iff.1 mem) with rfl | mem
    · exact ⟨stays, same⟩
    · exact unnoticed other mem

/-! ## Sequences of operations -/

/-- A composed procedure runs its parts one after the other. -/
theorem Procedure.run_continueWith {σ β : Type} (d : Drive σ) (p : Procedure α) (f : Except Error α → Procedure β)
    (s : σ) :
    let first := p.run d s
    let second := (f first.result).run d first.drive
    ((p.continueWith f).run d s).result = second.result ∧ ((p.continueWith f).run d s).drive = second.drive := by
  induction p generalizing s with
  | done => exact ⟨rfl, rfl⟩
  | openDrive next ih => exact ih _ _
  | call request next ih => exact ih _ _
  | log record next ih => exact ih _
  | acquire next ih => exact ih true _
  | release next ih => exact ih _

theorem Procedure.run_bind {σ β : Type} {d : Drive σ} {p : Procedure α} {f : α → Procedure β} {s : σ} {v : α}
    (first : (p.run d s).result = .ok v) :
    ((p >>= f).run d s).result = ((f v).run d (p.run d s).drive).result ∧
      ((p >>= f).run d s).drive = ((f v).run d (p.run d s).drive).drive := by
  have parts : ((p >>= f).run d s).result = _ ∧ ((p >>= f).run d s).drive = _ := p.run_continueWith d _ s
  rw [first] at parts
  exact parts

namespace SimulatedDrive

/-- Runs operations one after the other, whatever becomes of each. -/
def runAll (d : SimulatedDrive) : List Operation → List (Except Error Value) × SimulatedDrive
  | [] => ([], d)
  | op :: ops =>
    let run := d.run op
    let (results, d') := run.drive.runAll ops
    (run.result :: results, d')

theorem run_name (d : SimulatedDrive) (op : Operation) : (d.run op).drive.name = d.name := by
  refine (d.run_serves op).related_alone (R := fun d d' => d'.name = d.name) steady (fun _ => rfl) ?_
  intro d d' x mem rest
  exact rest.trans (d.answer_answered x.request).name

theorem calls_of_serves {xs : List Exchange} (serves : drive.Serves nobody d xs d') :
    d'.calls = d.calls ++ xs.map fun x => CallRecord.ofRequest x.request := by
  induction xs generalizing d with
  | nil =>
    obtain rfl := serves.done_alone steady
    simp
  | cons x xs ih =>
    obtain ⟨-, rest⟩ := serves.step_alone steady
    rw [ih rest, drive_answer, (d.answer_answered x.request).calls]
    simp

end SimulatedDrive

/-- A host that goes on whatever comes of a procedure leaves the drive as the procedure does. -/
theorem Procedure.run_attempt {σ : Type} (d : Drive σ) (p : Procedure α) (s : σ) :
    (p.attempt.run d s).result = .ok (p.run d s).result ∧ (p.attempt.run d s).drive = (p.run d s).drive :=
  p.run_continueWith d (fun result => .done (.ok result)) s

/-- A sequence of operations is one procedure, and comes to what the operations come to. -/
theorem Operation.run_sequence (d : SimulatedDrive) (ops : List Operation) :
    ((sequence d.name ops).run SimulatedDrive.drive d).result = .ok (d.runAll ops).1 ∧
      ((sequence d.name ops).run SimulatedDrive.drive d).drive = (d.runAll ops).2 := by
  induction ops generalizing d with
  | nil => exact ⟨rfl, rfl⟩
  | cons op ops ih =>
    obtain ⟨attempted, left⟩ := (op.procedure d.name).run_attempt SimulatedDrive.drive d
    obtain ⟨result, drive⟩ := Procedure.run_bind
      (f := fun result => sequence d.name ops >>= fun results => pure (result :: results)) attempted
    have rest := ih (d.run op).drive
    rw [d.run_name op] at rest
    obtain ⟨results, drives⟩ := Procedure.run_bind (f := fun results => pure ((d.run op).result :: results)) rest.1
    rw [left] at result drive
    exact ⟨result.trans results, drive.trans (drives.trans rest.2)⟩

/-- Every call of an interleaving is remembered, in its order. -/
theorem Interleaving.calls_eq {ps : List (Procedure α)} (run : Interleaving SimulatedDrive.drive ps d t results d') :
    d'.calls = d.calls ++ t.requests.map CallRecord.ofRequest := by
  rw [SimulatedDrive.calls_of_serves run.amid.serves, Trace.requests_eq, List.map_map]
  rfl

/-- On a drive whose locking is enabled, operations on different segments have nothing to do with each other. In every
interleaving of sequences of them, one sequence for each segment, each sequence comes to the results that it comes to
alone; and all interleavings leave the same drive, up to the order of the calls that it remembers. -/
theorem segments_independent {hosts : List (UInt32 × List Operation)} {t t' : Trace}
    {results results' : List (Except Error (List (Except Error Value)))} (idle : d.Idle)
    (enabled : d.vault.lockingEnabled = true) (apart : (hosts.map (·.1)).Nodup)
    (about : ∀ host ∈ hosts, ∀ op ∈ host.2, op.segment? = some host.1)
    (run : Interleaving SimulatedDrive.drive (hosts.map fun host => Operation.sequence d.name host.2) d t results d₁)
    (other : Interleaving SimulatedDrive.drive (hosts.map fun host => Operation.sequence d.name host.2) d t' results'
      d') :
    results = hosts.map (fun host => .ok (d.runAll host.2).1) ∧ d₁.clearCalls = d'.clearCalls ∧
      d₁.calls.Perm d'.calls := by
  let alone : List (Host (List (Except Error Value))) :=
    hosts.map fun host => ⟨host.1, Operation.sequence d.name host.2, d⟩
  have procedures : alone.map (·.procedure) = hosts.map fun host => Operation.sequence d.name host.2 := by
    simp [alone]
  have segments : alone.map (·.segment) = hosts.map (·.1) := by
    simp [alone]
  have fits : ∀ h ∈ alone, h.Fits d := by
    intro h mem
    obtain ⟨host, listed, rfl⟩ := List.mem_map.1 mem
    exact ⟨Operation.sequence_stays (about host listed), .refl idle enabled _⟩
  have first := run.alone procedures (segments ▸ apart) fits
  have second := other.alone procedures (segments ▸ apart) fits
  have same : ∀ segment ∈ alone.map (·.segment),
      ∃ e : SimulatedDrive, d₁.SameFor segment e ∧ d'.SameFor segment e := by
    intro segment mem
    obtain ⟨h, listed, rfl⟩ := List.mem_map.1 mem
    exact ⟨_, first.same h listed, second.same h listed⟩
  refine ⟨?_, SimulatedDrive.clearCalls_eq first.elsewhere second.elsewhere same, ?_⟩
  · rw [first.results, List.map_map]
    exact List.map_congr_left fun host _ => (Operation.run_sequence d host.2).1
  · rw [run.calls_eq, other.calls_eq]
    exact ((first.requests.trans second.requests.symm).map _).append_left _

/-- Two tenants provision and use their segments, step by step in turn and one after the other. Only the calls that the
drive remembers tell the difference. -/
theorem segments_independent_two :
    let d := (SimulatedDrive.new "d").forceOwned [2]
    let one : List Operation := [.setup ⟨1, 0, 8, [1], [2]⟩, .unlock 1 [1]]
    let two : List Operation := [.setup ⟨2, 8, 8, [3], [2]⟩, .lock 2]
    let hosts : List (UInt32 × List Operation) := [(1, one), (2, two)]
    let procedures := hosts.map fun host => Operation.sequence d.name host.2
    let mixed := SimulatedDrive.drive.inTurns (List.replicate 45 [0, 1]).flatten procedures d
    let apart := SimulatedDrive.drive.inTurns [] procedures d
    d.Idle ∧ d.vault.lockingEnabled = true ∧ (hosts.map (·.1)).Nodup ∧
      (∀ host ∈ hosts, ∀ op ∈ host.2, op.segment? = some host.1) ∧
      Interleaving SimulatedDrive.drive procedures d mixed.trace mixed.results mixed.drive ∧
      Interleaving SimulatedDrive.drive procedures d apart.trace apart.results apart.drive ∧
      (mixed.trace.requests.map Request.kind).take 6 =
        [.getStatus, .getStatus, .getGeometry, .getGeometry, .eraseRange, .eraseRange] ∧
      mixed.results = hosts.map (fun host => .ok (d.runAll host.2).1) ∧
      (d.runAll one).1.map (·.isOk) = [true, true] ∧ (d.runAll two).1.map (·.isOk) = [true, false] ∧
      mixed.drive.clearCalls = apart.drive.clearCalls ∧ mixed.drive.calls.Perm apart.drive.calls ∧
      mixed.drive.calls ≠ apart.drive.calls := by
  intro d one two hosts procedures mixed apart
  have idle : d.Idle := ⟨rfl, rfl⟩
  have distinct : (hosts.map (·.1)).Nodup := by decide
  have about : ∀ host ∈ hosts, ∀ op ∈ host.2, op.segment? = some host.1 := by decide
  have run : Interleaving SimulatedDrive.drive procedures d mixed.trace mixed.results mixed.drive :=
    interleaving_iff.2 ⟨_, rfl, rfl, rfl⟩
  have other : Interleaving SimulatedDrive.drive procedures d apart.trace apart.results apart.drive :=
    interleaving_iff.2 ⟨_, rfl, rfl, rfl⟩
  obtain ⟨results, same, calls⟩ := segments_independent idle rfl distinct about run other
  exact ⟨idle, rfl, distinct, about, run, other, by decide +kernel, results, by decide +kernel, by decide +kernel, same,
    calls, by decide +kernel⟩

end OpalLocking
