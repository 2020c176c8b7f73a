/-
What one host sees of a drive that changes under its hands.

`Drive.Amid d others s t s'` says that the drive gives the answers in `t` on its way from `s` to `s'`, and that at
any moment in between it may also change as `others` allows. A host alone, a host on a drive that refusals are queued
on, and a host among other hosts are three cases of this: `Interleaving.host` says that every interleaving is, for
each of its hosts, a run amid the calls of the others.

`Drive.Serves` is the same by the calls alone. Statements about a host are proved along it one call at a time, with
an assertion that the others cannot break (`Serves.step`).
-/
import OpalLocking.Interleaving
import OpalLocking.Proofs.EveryOperation

namespace OpalLocking

variable {σ α : Type}

/-! ## A drive that others change -/

/-- The drive gives the answers of these events, in order, on its way from one state to the other. At any moment
others may change it. -/
inductive Drive.Amid (d : Drive σ) (others : σ → σ → Prop) : σ → Trace → σ → Prop
  | nil {s} : Amid d others s [] s
  | meanwhile {s s₁ t s'} (change : others s s₁) (rest : Amid d others s₁ t s') : Amid d others s t s'
  | opened {s t s'} (rest : Amid d others (d.opening s).2 t s') :
      Amid d others s (.opened (d.opening s).1 :: t) s'
  | called {s r t s'} (rest : Amid d others (d.answer s r).2 t s') :
      Amid d others s (.called r (d.answer s r).1 :: t) s'
  | logged {s record t s'} (rest : Amid d others s t s') : Amid d others s (.logged record :: t) s'
  | acquired {s t s'} (rest : Amid d others s t s') : Amid d others s (.acquired :: t) s'
  | released {s t s'} (rest : Amid d others s t s') : Amid d others s (.released :: t) s'

variable {d : Drive σ} {others : σ → σ → Prop} {s s' : σ} {t : Trace}

namespace Drive

/-- Others may be there without doing anything. -/
theorem Path.amid (h : d.Path s t s') : d.Amid others s t s' := by
  induction h with
  | nil => exact .nil
  | opened _ ih => exact .opened ih
  | called _ ih => exact .called ih
  | logged _ ih => exact .logged ih
  | acquired _ ih => exact .acquired ih
  | released _ ih => exact .released ih

/-- The drive gives these answers, in order, to the calls of one host. -/
def Serves (d : Drive σ) (others : σ → σ → Prop) (s : σ) (xs : List Exchange) (s' : σ) : Prop :=
  ∃ t : Trace, t.exchanges = xs ∧ d.Amid others s t s'

theorem Amid.serves (h : d.Amid others s t s') : d.Serves others s t.exchanges s' :=
  ⟨t, rfl, h⟩

/-- A drive that is not changed by being opened, as all drives here are but for those that count. -/
def Steady (d : Drive σ) : Prop :=
  ∀ s, (d.opening s).2 = s

namespace Serves

variable {x : Exchange} {xs : List Exchange} {P : σ → Prop}

/-- What others cannot break still holds when there are no more calls. -/
theorem done (steady : d.Steady) (stable : ∀ s s₁, P s → others s s₁ → P s₁) (holds : P s)
    (h : d.Serves others s [] s') : P s' := by
  obtain ⟨t, calls, amid⟩ := h
  induction amid with
  | nil => exact holds
  | meanwhile change _ ih => exact ih (stable _ _ holds change) calls
  | opened _ ih => exact ih ((steady _).symm ▸ holds) calls
  | called => cases calls
  | logged _ ih | acquired _ ih | released _ ih => exact ih holds calls

/-- What others cannot break still holds when the first call is made. -/
theorem step (steady : d.Steady) (stable : ∀ s s₁, P s → others s s₁ → P s₁) (holds : P s)
    (h : d.Serves others s (x :: xs) s') :
    ∃ s₁, P s₁ ∧ x.answer = (d.answer s₁ x.request).1 ∧ d.Serves others (d.answer s₁ x.request).2 xs s' := by
  obtain ⟨t, calls, amid⟩ := h
  induction amid with
  | nil => cases calls
  | meanwhile change _ ih => exact ih (stable _ _ holds change) calls
  | opened _ ih => exact ih ((steady _).symm ▸ holds) calls
  | @called s r t s' rest =>
    cases calls
    exact ⟨s, holds, rfl, t, rfl, rest⟩
  | logged _ ih | acquired _ ih | released _ ih => exact ih holds calls

/-- The next call of a plan, if it passes wherever the assertion holds. -/
theorem advance {request : Request} {planned : List Request} {stop : Option Exchange} (steady : d.Steady)
    (stable : ∀ s s₁, P s → others s s₁ → P s₁) (holds : P s)
    (passes : ∀ s, P s → Exchange.Passes ⟨request, (d.answer s request).1⟩)
    (follows : Follows (request :: planned) xs stop) (h : d.Serves others s xs s') :
    ∃ s₁ ys, P s₁ ∧ xs = ⟨request, (d.answer s₁ request).1⟩ :: ys ∧ Follows planned ys stop ∧
      d.Serves others (d.answer s₁ request).2 ys s' := by
  obtain ⟨a, ys, rfl, rest⟩ := follows.cons_inv
  obtain ⟨s₁, holds, same, serves⟩ := step steady stable holds h
  dsimp only at same serves
  subst same
  rcases rest with ⟨-, rest⟩ | ⟨stops, -⟩
  · exact ⟨s₁, ys, holds, rfl, rest, serves⟩
  · exact absurd (passes s₁ holds) stops

/-- The last call of a plan that does not get on. -/
theorem halt {request : Request} {planned : List Request} {stop : Option Exchange} (steady : d.Steady)
    (stable : ∀ s s₁, P s → others s s₁ → P s₁) (holds : P s)
    (stops : ∀ s, P s → ¬ Exchange.Passes ⟨request, (d.answer s request).1⟩)
    (follows : Follows (request :: planned) xs stop) (h : d.Serves others s xs s') :
    ∃ s₁, P s₁ ∧ xs = [⟨request, (d.answer s₁ request).1⟩] ∧ stop = some ⟨request, (d.answer s₁ request).1⟩ ∧
      d.Serves others (d.answer s₁ request).2 [] s' := by
  obtain ⟨a, ys, rfl, rest⟩ := follows.cons_inv
  obtain ⟨s₁, holds, same, serves⟩ := step steady stable holds h
  dsimp only at same serves
  subst same
  rcases rest with ⟨passes, -⟩ | ⟨-, rfl, rfl⟩
  · exact absurd passes (stops s₁ holds)
  · exact ⟨s₁, holds, rfl, rfl, serves⟩

/-- What neither the calls of the host nor the others can break may be assumed of every change by others. -/
theorem strengthen (steady : d.Steady) (own : ∀ s, ∀ x ∈ xs, P s → P (d.answer s x.request).2)
    (theirs : ∀ s s₁, P s → others s s₁ → P s₁) (holds : P s) (h : d.Serves others s xs s') :
    d.Serves (fun s s₁ => others s s₁ ∧ P s ∧ P s₁) s xs s' ∧ P s' := by
  obtain ⟨t, rfl, amid⟩ := h
  induction amid with
  | nil => exact ⟨⟨[], rfl, .nil⟩, holds⟩
  | meanwhile change _ ih =>
    obtain ⟨⟨t, calls, rest⟩, ends⟩ := ih (theirs _ _ holds change) own
    exact ⟨⟨t, calls, .meanwhile ⟨change, holds, theirs _ _ holds change⟩ rest⟩, ends⟩
  | opened _ ih =>
    obtain ⟨⟨t, calls, rest⟩, ends⟩ := ih ((steady _).symm ▸ holds) own
    exact ⟨⟨_ :: t, by simpa using calls, .opened rest⟩, ends⟩
  | @called s r t s' _ ih =>
    have here : P (d.answer s r).2 := own s ⟨r, (d.answer s r).1⟩ (.head _) holds
    obtain ⟨⟨t, calls, rest⟩, ends⟩ := ih here fun s x mem => own s x (.tail _ mem)
    exact ⟨⟨_ :: t, by simp [calls], .called rest⟩, ends⟩
  | logged _ ih | acquired _ ih | released _ ih => exact ih holds own

end Serves

end Drive

/-- Nobody else uses the drive. -/
def nobody (_ _ : σ) : Prop :=
  False

theorem Procedure.run_serves (d : Drive σ) (p : Procedure α) (s : σ) :
    d.Serves nobody s (p.run d s).trace.exchanges (p.run d s).drive :=
  (Procedure.run_path d p s).amid.serves

namespace Drive.Serves

variable {x : Exchange} {xs : List Exchange}

/-- Alone with the drive, a host finds it as it left it. -/
theorem done_alone (steady : d.Steady) (h : d.Serves nobody s [] s') : s' = s :=
  h.done (P := (· = s)) steady (fun _ _ _ change => change.elim) rfl

theorem step_alone (steady : d.Steady) (h : d.Serves nobody s (x :: xs) s') :
    x.answer = (d.answer s x.request).1 ∧ d.Serves nobody (d.answer s x.request).2 xs s' := by
  obtain ⟨s₁, rfl, same, serves⟩ := h.step (P := (· = s)) steady (fun _ _ _ change => change.elim) rfl
  exact ⟨same, serves⟩

/-- What holds of a drive and itself, and before each call if it holds behind it, holds of a drive and the one that
the calls of a host leave. -/
theorem related_alone {R : σ → σ → Prop} (steady : d.Steady) (refl : ∀ s, R s s)
    (step : ∀ s s', ∀ x ∈ xs, R (d.answer s x.request).2 s' → R s s') (h : d.Serves nobody s xs s') : R s s' := by
  induction xs generalizing s with
  | nil =>
    obtain rfl := h.done_alone steady
    exact refl s'
  | cons x xs ih =>
    obtain ⟨-, rest⟩ := h.step_alone steady
    exact step s s' x (.head _) (ih (fun s s' y mem => step s s' y (.tail _ mem)) rest)

end Drive.Serves

/-! ## Operations on a drive that opens -/

/-- The first thing that happened was the opening of the drive, as the drive was then. -/
theorem Drive.Amid.opened_inv {P : σ → Prop} {outcome : Except OpenFailure Unit}
    (h : d.Amid others s (.opened outcome :: t) s') (stable : ∀ s s₁, P s → others s s₁ → P s₁) (holds : P s) :
    ∃ s₁, P s₁ ∧ outcome = (d.opening s₁).1 := by
  generalize events : (Event.opened outcome :: t) = u at h
  induction h with
  | meanwhile change _ ih => exact ih (stable _ _ holds change) events
  | @opened s =>
    cases events
    exact ⟨s, holds, rfl⟩
  | nil | called | logged | acquired | released => cases events

/-- With valid arguments, and a drive that can be opened whenever that is asked for, an operation takes one of its
courses. -/
theorem Operation.course_of_amid (op : Operation) {device : String} {r : Except Error Value} {P : σ → Prop}
    (valid : op.check = .ok ()) (opens : ∀ s, P s → (d.opening s).1 = .ok ())
    (stable : ∀ s s₁, P s → others s s₁ → P s₁) (holds : P s) (yields : (op.procedure device).Yields t r)
    (amid : d.Amid others s t s') : op.Course t.exchanges r := by
  rw [Operation.procedure_eq, valid] at yields
  have yields : (openDevice device >>= fun _ => op.opened device).Yields t r := yields
  rcases Procedure.yields_bind.1 yields with ⟨t₁, t₂, _, rfl, opening, rest⟩ | ⟨e, rfl, opening⟩
  · rcases openDevice_yields opening with ⟨rfl, -⟩ | ⟨why, -, failed⟩
    · simpa using Operation.opened_course rest
    · cases failed
  · rcases openDevice_yields opening with ⟨-, failed⟩ | ⟨why, rfl, -⟩
    · cases failed
    · obtain ⟨s₁, holds, outcome⟩ := amid.opened_inv stable holds
      rw [opens s₁ holds] at outcome
      cases outcome

/-! ## Among other hosts -/

/-- Whatever it is answered, the procedure makes no other calls than these. -/
def Procedure.Asks (p : Procedure α) (calls : Request → Prop) : Prop :=
  ∀ ⦃t r⦄, p.Yields t r → ∀ x ∈ t.exchanges, calls x.request

namespace Procedure

variable {p p' : Procedure α} {event : Event} {calls : Request → Prop}

theorem yields_of_step? {r} (taken : p.step? d s = some (event, p', s')) (h : p'.Yields t r) :
    p.Yields (event :: t) r := by
  cases p <;> simp only [step?, Option.some.injEq, Prod.mk.injEq, reduceCtorEq] at taken <;>
    obtain ⟨rfl, rfl, rfl⟩ := taken
  case openDrive => exact .openDrive h
  case call => exact .call h
  case log => exact .log h
  case acquire => exact .acquire h
  case release => exact .release h

theorem amid_of_step? {s₁} (taken : p.step? d s = some (event, p', s₁)) (h : d.Amid others s₁ t s') :
    d.Amid others s (event :: t) s' := by
  cases p <;> simp only [step?, Option.some.injEq, Prod.mk.injEq, reduceCtorEq] at taken <;>
    obtain ⟨rfl, rfl, rfl⟩ := taken
  case openDrive => exact .opened h
  case call => exact .called h
  case log => exact .logged h
  case acquire => exact .acquired h
  case release => exact .released h

/-- A step is a call, or leaves a steady drive as it is. -/
theorem step?_cases (steady : d.Steady) (taken : p.step? d s = some (event, p', s')) :
    (∃ request, event = .called request (d.answer s request).1 ∧ s' = (d.answer s request).2) ∨
      (Trace.exchanges [event] = [] ∧ s' = s) := by
  cases p <;> simp only [step?, Option.some.injEq, Prod.mk.injEq, reduceCtorEq] at taken <;>
    obtain ⟨rfl, rfl, rfl⟩ := taken
  case openDrive => exact .inr ⟨rfl, steady s⟩
  case call request next => exact .inl ⟨request, rfl, rfl⟩
  all_goals exact .inr ⟨rfl, rfl⟩

/-- A step of a host leads a steady drive nowhere but behind a call of this host. -/
theorem Asks.drive_of_step? (asks : p.Asks calls) (steady : d.Steady) (taken : p.step? d s = some (event, p', s')) :
    s' = s ∨ ∃ request, calls request ∧ s' = (d.answer s request).2 := by
  have yields := yields_of_step? taken (p'.run_yields d s')
  rcases step?_cases steady taken with ⟨request, rfl, rfl⟩ | ⟨-, rfl⟩
  · exact .inr ⟨request, asks yields ⟨request, _⟩ (.head _), rfl⟩
  · exact .inl rfl

theorem Asks.of_step? (asks : p.Asks calls) (taken : p.step? d s = some (event, p', s')) : p'.Asks calls := by
  intro t r h x mem
  refine asks (yields_of_step? taken h) x ?_
  cases event with
  | called => exact .tail _ mem
  | _ => exact mem

end Procedure

/-- Each host makes no other calls than those of its position. -/
def AllAsk (ps : List (Procedure α)) (calls : Nat → Request → Prop) : Prop :=
  ∀ (j : Nat) (p : Procedure α), ps[j]? = some p → p.Asks (calls j)

/-- Some host but the one at this position makes a call. -/
def OtherHosts (d : Drive σ) (calls : Nat → Request → Prop) (i : Nat) (s s' : σ) : Prop :=
  ∃ j request, j ≠ i ∧ calls j request ∧ s' = (d.answer s request).2

section

variable {ps before after : List (Procedure α)} {q q' : Procedure α} {results : List (Except Error α)}
  {calls : Nat → Request → Prop} {event : Event}

/-- Only the host that takes a step changes. -/
theorem getElem?_of_step {j : Nat} (other : j ≠ before.length) :
    (before ++ q' :: after)[j]? = (before ++ q :: after)[j]? := by
  have same : before ++ q' :: after = (before ++ q :: after).set before.length q' := by simp
  rw [same, List.getElem?_set_ne other.symm]

theorem AllAsk.asks_here (asks : AllAsk (before ++ q :: after) calls) : q.Asks (calls before.length) :=
  asks _ _ (by simp)

theorem AllAsk.of_step? (asks : AllAsk (before ++ q :: after) calls)
    (taken : q.step? d s = some (event, q', s')) : AllAsk (before ++ q' :: after) calls := by
  intro j p found
  by_cases here : j = before.length
  · subst here
    obtain rfl : q' = p := by simpa using found
    exact asks.asks_here.of_step? taken
  · exact asks j p ((getElem?_of_step here).symm.trans found)

theorem Interleaving.amid (h : Interleaving d ps s t results s') : d.Amid others s t s' := by
  induction h with
  | ended => exact .nil
  | step taken _ ih => exact Procedure.amid_of_step? taken ih

theorem Interleaving.length_eq (h : Interleaving d ps s t results s') : results.length = ps.length := by
  induction h with
  | ended => simp
  | step _ _ ih => simpa using ih

/-- Whatever is asked for in an interleaving, one of the hosts asks for. -/
theorem Interleaving.asked (h : Interleaving d ps s t results s') (asks : AllAsk ps calls) :
    ∀ x ∈ t.exchanges, ∃ j, calls j x.request := by
  induction h with
  | ended => simp
  | @step before after q q' s s₁ s' event t results taken rest ih =>
    have behind := ih (asks.of_step? taken)
    have yields := Procedure.yields_of_step? taken (q'.run_yields d s₁)
    cases event with
    | called request answer =>
      rintro x (_ | ⟨_, mem⟩)
      · exact ⟨before.length, asks.asks_here yields _ (.head _)⟩
      · exact behind x mem
    | _ => exact behind

/-- Every host of an interleaving comes to its result by a run of its own, amid the calls of the others. -/
theorem Interleaving.host (h : Interleaving d ps s t results s') (steady : d.Steady) (asks : AllAsk ps calls)
    {i : Nat} {p : Procedure α} (host : ps[i]? = some p) :
    ∃ own r, results[i]? = some r ∧ p.Yields own r ∧ d.Amid (OtherHosts d calls i) s own s' := by
  induction h generalizing p with
  | @ended results s =>
    rw [List.getElem?_map] at host
    obtain ⟨r, found, rfl⟩ := Option.map_eq_some_iff.1 host
    exact ⟨[], r, found, .done, .nil⟩
  | @step before after q q' s s₁ s' event t results taken rest ih =>
    by_cases here : i = before.length
    · subst here
      obtain rfl : q = p := by simpa using host
      obtain ⟨own, r, found, yields, amid⟩ := ih (asks.of_step? taken) (p := q') (by simp)
      exact ⟨event :: own, r, found, Procedure.yields_of_step? taken yields,
        Procedure.amid_of_step? taken amid⟩
    · obtain ⟨own, r, found, yields, amid⟩ := ih (asks.of_step? taken) ((getElem?_of_step here).trans host)
      refine ⟨own, r, found, yields, ?_⟩
      rcases asks.asks_here.drive_of_step? steady taken with rfl | ⟨request, call, rfl⟩
      · exact amid
      · exact .meanwhile ⟨_, request, fun h => here h.symm, call, rfl⟩ amid

end

end OpalLocking
