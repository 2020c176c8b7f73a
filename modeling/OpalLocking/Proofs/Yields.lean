/-
What a procedure can do, whatever it is answered, and what a drive makes of it.

`Procedure.Yields p t r` says that some answers lead `p` through the events `t` to the result `r`; no drive
is in it. `Drive.Path d s t s'` says that the drive gives the answers in `t` on its way from `s` to `s'`; no
procedure is in it. A run is both at once (`run_yields`, `run_path`), so a property of the calls that an
operation makes is proved of `Yields`, and a property of what the calls do to a drive is proved of `Path`.
-/
import OpalLocking.Drive

namespace OpalLocking

/-- A call with its answer. -/
structure Exchange where
  request : Request
  answer : Answer request

namespace Exchange

def kind (x : Exchange) : CallKind :=
  x.request.kind

def status (x : Exchange) : Status :=
  x.answer.status

/-- The drive did what it was asked to do. -/
def Accepted (x : Exchange) : Prop :=
  x.status.classify = .success

instance (x : Exchange) : Decidable x.Accepted :=
  inferInstanceAs (Decidable (_ = _))

end Exchange

/-! ## Exchanges of a trace -/

namespace Trace

/-- The calls of a trace with their answers. -/
def exchanges (t : Trace) : List Exchange :=
  t.filterMap fun
    | .called request answer => some ⟨request, answer⟩
    | _ => none

@[simp] theorem exchanges_nil : exchanges [] = [] := rfl

@[simp] theorem exchanges_opened (outcome t) : exchanges (.opened outcome :: t) = exchanges t := rfl

@[simp] theorem exchanges_called (r a t) : exchanges (.called r a :: t) = ⟨r, a⟩ :: exchanges t := rfl

@[simp] theorem exchanges_logged (record t) : exchanges (.logged record :: t) = exchanges t := rfl

@[simp] theorem exchanges_acquired (t) : exchanges (.acquired :: t) = exchanges t := rfl

@[simp] theorem exchanges_released (t) : exchanges (.released :: t) = exchanges t := rfl

@[simp] theorem exchanges_append (t u : Trace) : exchanges (t ++ u) = exchanges t ++ exchanges u := by
  simp [exchanges]

theorem requests_eq (t : Trace) : t.requests = t.exchanges.map (·.request) := by
  induction t with
  | nil => rfl
  | cons event t ih => cases event <;> simp_all [requests, exchanges]

end Trace

/-! ## What a procedure can do -/

namespace Procedure

variable {α β σ : Type}

/-- Some answers lead the procedure through these events to this result. There is memory for every buffer. -/
inductive Yields : Procedure α → Trace → Except Error α → Prop
  | done {result} : Yields (.done result) [] result
  | openDrive {next outcome t result} (rest : Yields (next outcome) t result) :
      Yields (.openDrive next) (.opened outcome :: t) result
  | call {request next answer t result} (rest : Yields (next answer) t result) :
      Yields (.call request next) (.called request answer :: t) result
  | log {record next t result} (rest : Yields next t result) :
      Yields (.log record next) (.logged record :: t) result
  | acquire {next : Bool → Procedure α} {t result} (rest : Yields (next true) t result) :
      Yields (.acquire next) (.acquired :: t) result
  | release {next t result} (rest : Yields next t result) :
      Yields (.release next) (.released :: t) result

theorem run_yields (d : Drive σ) (p : Procedure α) (s : σ) :
    p.Yields (p.run d s).trace (p.run d s).result := by
  induction p generalizing s with
  | done result => exact .done
  | openDrive next ih => exact .openDrive (ih _ _)
  | call request next ih => exact .call (ih _ _)
  | log record next ih => exact .log (ih _)
  | acquire next ih => exact .acquire (ih true _)
  | release next ih => exact .release (ih _)

theorem yields_done {result r : Except Error α} {t} : (done result).Yields t r ↔ t = [] ∧ r = result := by
  constructor
  · rintro ⟨⟩; exact ⟨rfl, rfl⟩
  · rintro ⟨rfl, rfl⟩; exact .done

theorem yields_openDrive {next : Except OpenFailure Unit → Procedure α} {t r} :
    (openDrive next).Yields t r ↔
      ∃ outcome t', t = .opened outcome :: t' ∧ (next outcome).Yields t' r := by
  constructor
  · rintro ⟨⟩; exact ⟨_, _, rfl, ‹_›⟩
  · rintro ⟨_, _, rfl, h⟩; exact .openDrive h

theorem yields_call {request} {next : Answer request → Procedure α} {t r} :
    (call request next).Yields t r ↔
      ∃ answer t', t = .called request answer :: t' ∧ (next answer).Yields t' r := by
  constructor
  · rintro ⟨⟩; exact ⟨_, _, rfl, ‹_›⟩
  · rintro ⟨_, _, rfl, h⟩; exact .call h

theorem yields_log {record} {next : Procedure α} {t r} :
    (log record next).Yields t r ↔ ∃ t', t = .logged record :: t' ∧ next.Yields t' r := by
  constructor
  · rintro ⟨⟩; exact ⟨_, rfl, ‹_›⟩
  · rintro ⟨_, rfl, h⟩; exact .log h

/-! ## Composed procedures -/

/-- A composed procedure does the events of its first part and then those of its second. -/
theorem yields_continueWith {p : Procedure α} {f : Except Error α → Procedure β} {t r} :
    (p.continueWith f).Yields t r ↔
      ∃ t₁ t₂ r₁, t = t₁ ++ t₂ ∧ p.Yields t₁ r₁ ∧ (f r₁).Yields t₂ r := by
  constructor
  · intro h
    induction p generalizing t with
    | done result => exact ⟨[], t, result, rfl, .done, h⟩
    | openDrive next ih =>
      obtain ⟨outcome, t', rfl, rest⟩ := yields_openDrive.1 h
      obtain ⟨t₁, t₂, r₁, rfl, h₁, h₂⟩ := ih _ rest
      exact ⟨_ :: t₁, t₂, r₁, rfl, .openDrive h₁, h₂⟩
    | call request next ih =>
      obtain ⟨answer, t', rfl, rest⟩ := yields_call.1 h
      obtain ⟨t₁, t₂, r₁, rfl, h₁, h₂⟩ := ih _ rest
      exact ⟨_ :: t₁, t₂, r₁, rfl, .call h₁, h₂⟩
    | log record next ih =>
      obtain ⟨t', rfl, rest⟩ := yields_log.1 h
      obtain ⟨t₁, t₂, r₁, rfl, h₁, h₂⟩ := ih rest
      exact ⟨_ :: t₁, t₂, r₁, rfl, .log h₁, h₂⟩
    | acquire next ih =>
      cases h with
      | acquire rest =>
        obtain ⟨t₁, t₂, r₁, rfl, h₁, h₂⟩ := ih true rest
        exact ⟨_ :: t₁, t₂, r₁, rfl, .acquire h₁, h₂⟩
    | release next ih =>
      cases h with
      | release rest =>
        obtain ⟨t₁, t₂, r₁, rfl, h₁, h₂⟩ := ih rest
        exact ⟨_ :: t₁, t₂, r₁, rfl, .release h₁, h₂⟩
  · rintro ⟨t₁, t₂, r₁, rfl, h₁, h₂⟩
    induction h₁ with
    | done => exact h₂
    | openDrive _ ih => exact .openDrive (ih h₂)
    | call _ ih => exact .call (ih h₂)
    | log _ ih => exact .log (ih h₂)
    | acquire _ ih => exact .acquire (ih h₂)
    | release _ ih => exact .release (ih h₂)

theorem yields_bind {p : Procedure α} {f : α → Procedure β} {t r} :
    (p >>= f).Yields t r ↔
      (∃ t₁ t₂ v, t = t₁ ++ t₂ ∧ p.Yields t₁ (.ok v) ∧ (f v).Yields t₂ r) ∨
        ∃ e, r = .error e ∧ p.Yields t (.error e) := by
  constructor
  · intro h
    obtain ⟨t₁, t₂, r₁, rfl, h₁, h₂⟩ := yields_continueWith.1 h
    cases r₁ with
    | ok v => exact .inl ⟨t₁, t₂, v, rfl, h₁, h₂⟩
    | error e =>
      obtain ⟨rfl, rfl⟩ := yields_done.1 h₂
      exact .inr ⟨e, rfl, by simpa using h₁⟩
  · rintro (⟨t₁, t₂, v, rfl, h₁, h₂⟩ | ⟨e, rfl, h⟩)
    · exact yields_continueWith.2 ⟨t₁, t₂, _, rfl, h₁, h₂⟩
    · exact yields_continueWith.2 ⟨t, [], _, by simp, h, .done⟩

theorem yields_attempt {p : Procedure α} {t r} :
    p.attempt.Yields t r ↔ ∃ r₁, r = .ok r₁ ∧ p.Yields t r₁ := by
  constructor
  · intro h
    obtain ⟨t₁, t₂, r₁, rfl, h₁, h₂⟩ := yields_continueWith.1 h
    obtain ⟨rfl, rfl⟩ := yields_done.1 h₂
    exact ⟨r₁, rfl, by simpa using h₁⟩
  · rintro ⟨r₁, rfl, h⟩
    exact yields_continueWith.2 ⟨t, [], r₁, by simp, h, .done⟩

theorem yields_withBuffer {p : Procedure α} {t r} :
    p.withBuffer.Yields t r ↔ ∃ t', t = .acquired :: t' ++ [.released] ∧ p.Yields t' r := by
  constructor
  · rintro ⟨⟩
    obtain ⟨t₁, t₂, r₁, rfl, h₁, h₂⟩ := yields_continueWith.1 ‹_›
    cases h₂ with
    | release h₂ =>
      obtain ⟨rfl, rfl⟩ := yields_done.1 h₂
      exact ⟨t₁, rfl, h₁⟩
  · rintro ⟨t', rfl, h⟩
    exact .acquire (yields_continueWith.2 ⟨t', _, r, rfl, h, .release .done⟩)

theorem yields_pure {v : α} {t r} : (pure v : Procedure α).Yields t r ↔ t = [] ∧ r = .ok v :=
  yields_done

theorem yields_fail {e} {t} {r : Except Error α} : (fail e : Procedure α).Yields t r ↔ t = [] ∧ r = .error e :=
  yields_done

theorem yields_lift {x r : Except Error α} {t} : (liftM x : Procedure α).Yields t r ↔ t = [] ∧ r = x :=
  yields_done

/-- The value of a procedure that only hands it on. -/
theorem yields_bind_pure {p : Procedure α} {f : α → β} {t r} :
    (p >>= fun v => pure (f v)).Yields t r ↔ ∃ r₁, p.Yields t r₁ ∧ r = r₁.map f := by
  constructor
  · intro h
    rcases yields_bind.1 h with ⟨t₁, t₂, v, rfl, first, rest⟩ | ⟨e, rfl, first⟩
    · obtain ⟨rfl, rfl⟩ := yields_pure.1 rest
      exact ⟨.ok v, by simpa using first, rfl⟩
    · exact ⟨.error e, first, rfl⟩
  · rintro ⟨r₁ | v, first, rfl⟩
    · exact yields_bind.2 (.inr ⟨_, rfl, first⟩)
    · exact yields_bind.2 (.inl ⟨t, [], v, by simp, first, yields_pure.2 ⟨rfl, rfl⟩⟩)

theorem yields_record {level topic message t r} :
    (record level topic message).Yields t r ↔ t = [.logged ⟨level, topic, message⟩] ∧ r = .ok () := by
  constructor
  · intro h
    obtain ⟨t', rfl, rest⟩ := yields_log.1 h
    obtain ⟨rfl, rfl⟩ := yields_done.1 rest
    exact ⟨rfl, rfl⟩
  · rintro ⟨rfl, rfl⟩; exact .log .done

theorem yields_submit {request t r} :
    (submit request).Yields t r ↔ ∃ answer, t = [.called request answer] ∧ r = .ok answer := by
  constructor
  · intro h
    obtain ⟨answer, t', rfl, rest⟩ := yields_call.1 h
    obtain ⟨rfl, rfl⟩ := yields_done.1 rest
    exact ⟨answer, rfl, rfl⟩
  · rintro ⟨answer, rfl, rfl⟩; exact .call .done

/-- What is submitted first comes first, and all else depends on its answer. -/
theorem yields_submit_bind {request} {f : Answer request → Procedure α} {t r} :
    (submit request >>= f).Yields t r ↔
      ∃ answer t', t = .called request answer :: t' ∧ (f answer).Yields t' r :=
  yields_call

theorem yields_record_bind {level topic message} {f : Unit → Procedure α} {t r} :
    (record level topic message >>= f).Yields t r ↔
      ∃ t', t = .logged ⟨level, topic, message⟩ :: t' ∧ (f ()).Yields t' r :=
  yields_log

end Procedure

/-! ## What a drive makes of it -/

section

variable {α σ : Type}

/-- The drive gives the answers of these events, in order, on its way from one state to the other. -/
inductive Drive.Path (d : Drive σ) : σ → Trace → σ → Prop
  | nil {s} : Path d s [] s
  | opened {s t s'} (rest : Path d (d.opening s).2 t s') : Path d s (.opened (d.opening s).1 :: t) s'
  | called {s r t s'} (rest : Path d (d.answer s r).2 t s') : Path d s (.called r (d.answer s r).1 :: t) s'
  | logged {s record t s'} (rest : Path d s t s') : Path d s (.logged record :: t) s'
  | acquired {s t s'} (rest : Path d s t s') : Path d s (.acquired :: t) s'
  | released {s t s'} (rest : Path d s t s') : Path d s (.released :: t) s'

theorem Procedure.run_path (d : Drive σ) (p : Procedure α) (s : σ) :
    d.Path s (p.run d s).trace (p.run d s).drive := by
  induction p generalizing s with
  | done result => exact .nil
  | openDrive next ih => exact .opened (ih _ _)
  | call request next ih => exact .called (ih _ _)
  | log record next ih => exact .logged (ih _)
  | acquire next ih => exact .acquired (ih true _)
  | release next ih => exact .released (ih _)

end

end OpalLocking
