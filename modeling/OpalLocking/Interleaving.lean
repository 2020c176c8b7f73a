/-
Several hosts on one drive.

Each host runs a procedure of its own. At any moment one of them takes its next step, and nothing is said
about which: a statement about every interleaving holds whoever is served first. No host runs out of memory.
The interleavings are exactly what hosts do that are given some list of turns (`interleaving_iff`).
-/
import OpalLocking.Drive

namespace OpalLocking

variable {σ α : Type}

/-- The next step of a procedure: what happens, what is left of the procedure, and the drive behind the step.
A procedure that has ended takes none. -/
def Procedure.step? (d : Drive σ) : Procedure α → σ → Option (Event × Procedure α × σ)
  | .done _, _ => none
  | .openDrive next, s =>
    let (outcome, s') := d.opening s
    some (.opened outcome, next outcome, s')
  | .call request next, s =>
    let (answer, s') := d.answer s request
    some (.called request answer, next answer, s')
  | .log record next, s => some (.logged record, next, s)
  | .acquire next, s => some (.acquired, next true, s)
  | .release next, s => some (.released, next, s)

/-- Hosts that run to their ends in some order of steps: `Interleaving d ps s t rs s'` says that the procedures
`ps` can take a drive from state `s` to state `s'`, with `t` happening on the way and `rs` as their results. -/
inductive Interleaving (d : Drive σ) :
    List (Procedure α) → σ → Trace → List (Except Error α) → σ → Prop
  | ended {results : List (Except Error α)} {s : σ} :
      Interleaving d (results.map .done) s [] results s
  | step {before after : List (Procedure α)} {p p' : Procedure α} {s s' s'' : σ} {event : Event} {t : Trace}
      {results : List (Except Error α)} (taken : p.step? d s = some (event, p', s'))
      (rest : Interleaving d (before ++ p' :: after) s' t results s'') :
      Interleaving d (before ++ p :: after) s (event :: t) results s''

/-- A step is the head of the run that it begins. -/
theorem Procedure.run_of_step? {d : Drive σ} {p p' : Procedure α} {s s' : σ} {event : Event}
    (h : p.step? d s = some (event, p', s')) : p.run d s = (p'.run d s').after event := by
  cases p <;> simp only [step?, Option.some.injEq, Prod.mk.injEq, reduceCtorEq] at h
  all_goals
    obtain ⟨rfl, rfl, rfl⟩ := h
    rfl

/-! ## Turns -/

/-- What several hosts do, what they come to, and the drive behind them. -/
structure JointRun (σ α : Type) where
  trace : Trace
  results : List (Except Error α)
  drive : σ

namespace Drive

/-- Hosts run to their ends, one after the other. -/
def inOrder (d : Drive σ) : List (Procedure α) → σ → JointRun σ α
  | [], s => ⟨[], [], s⟩
  | p :: ps, s =>
    let run := p.run d s
    let rest := d.inOrder ps run.drive
    ⟨run.trace ++ rest.trace, run.result :: rest.results, rest.drive⟩

/-- Hosts take a step in each of these turns, and then run to their ends, one after the other. The turn of a host that
has ended is passed over. -/
def inTurns (d : Drive σ) : List Nat → List (Procedure α) → σ → JointRun σ α
  | [], ps, s => d.inOrder ps s
  | i :: turns, ps, s =>
    match ps[i]?.bind (·.step? d s) with
    | none => d.inTurns turns ps s
    | some (event, p', s') =>
      let rest := d.inTurns turns (ps.set i p') s'
      { rest with trace := event :: rest.trace }

end Drive

section

variable {d : Drive σ} {ps : List (Procedure α)} {results : List (Except Error α)} {s s' : σ} {t : Trace}

/-- A host may run to its end while the others wait. -/
theorem Interleaving.run_here {before after : List (Procedure α)} {p : Procedure α}
    (rest : Interleaving d (before ++ .done (p.run d s).result :: after) (p.run d s).drive t results s') :
    Interleaving d (before ++ p :: after) s ((p.run d s).trace ++ t) results s' := by
  induction p generalizing s with
  | done => exact rest
  | openDrive next ih => exact .step rfl (ih _ rest)
  | call request next ih => exact .step rfl (ih _ rest)
  | log record next ih => exact .step rfl (ih rest)
  | acquire next ih => exact .step rfl (ih true rest)
  | release next ih => exact .step rfl (ih rest)

theorem inOrder_done (results : List (Except Error α)) (s : σ) :
    d.inOrder (results.map .done) s = ⟨[], results, s⟩ := by
  induction results with
  | nil => rfl
  | cons result results ih => simp [Drive.inOrder, Procedure.run, ih]

/-- Hosts behind those that have ended run one after the other. -/
theorem interleaving_inOrder (ended : List (Except Error α)) (ps : List (Procedure α)) (s : σ) :
    Interleaving d (ended.map .done ++ ps) s (d.inOrder ps s).trace (ended ++ (d.inOrder ps s).results)
      (d.inOrder ps s).drive := by
  induction ps generalizing ended s with
  | nil => simpa [Drive.inOrder] using @Interleaving.ended _ _ d ended s
  | cons p ps ih =>
    have behind := ih (ended ++ [(p.run d s).result]) (p.run d s).drive
    rw [List.map_append, List.append_assoc, List.append_assoc] at behind
    exact .run_here behind

theorem interleaving_inTurns (turns : List Nat) (ps : List (Procedure α)) (s : σ) :
    Interleaving d ps s (d.inTurns turns ps s).trace (d.inTurns turns ps s).results (d.inTurns turns ps s).drive := by
  induction turns generalizing ps s with
  | nil => exact interleaving_inOrder [] ps s
  | cons i turns ih =>
    unfold Drive.inTurns
    split
    · exact ih ps s
    · next event p' s' served =>
      obtain ⟨p, found, taken⟩ := Option.bind_eq_some_iff.1 served
      obtain ⟨small, rfl⟩ := List.getElem?_eq_some_iff.1 found
      obtain ⟨before, after, split, -, set⟩ : ∃ before after, ps = before ++ ps[i] :: after ∧ before.length = i ∧
          ps.set i p' = before ++ p' :: after := List.exists_of_set small
      have rest := ih (ps.set i p') s'
      rw [set] at rest ⊢
      -- The host whose turn it is stands in the list still.
      generalize ps[i] = p at split taken
      rw [split]
      exact .step taken rest

/-- Whatever turns the hosts are given, they interleave, and every interleaving comes from some turns. -/
theorem interleaving_iff :
    Interleaving d ps s t results s' ↔
      ∃ turns, (d.inTurns turns ps s).trace = t ∧ (d.inTurns turns ps s).results = results ∧
        (d.inTurns turns ps s).drive = s' := by
  constructor
  · intro h
    induction h with
    | ended =>
      refine ⟨[], ?_⟩
      simp [Drive.inTurns, inOrder_done]
    | @step before after p p' s s' s'' event t results taken rest ih =>
      obtain ⟨turns, rfl, rfl, rfl⟩ := ih
      refine ⟨before.length :: turns, ?_⟩
      simp [Drive.inTurns, taken]
  · rintro ⟨turns, rfl, rfl, rfl⟩
    exact interleaving_inTurns turns ps s

end

end OpalLocking
