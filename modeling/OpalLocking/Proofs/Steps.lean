/-
The calls that the shared steps of the operations make, and what becomes of their answers.

One lemma for each step: the exchanges it makes, and its result for each class of answer. The operations
are composed of these steps, so no later proof opens one of them. Only calls are followed here; what a
step tells the log, and its buffers, are left out.
-/
import OpalLocking.Proofs.Yields
import OpalLocking.Provisioning

namespace OpalLocking

open Procedure (yields_bind yields_attempt yields_withBuffer yields_pure yields_fail yields_record
  yields_submit_bind yields_record_bind yields_openDrive)

/-- A result that is an error of this kind. -/
def FailsAs {α : Type} (r : Except Error α) (kind : ErrorKind) : Prop :=
  ∃ e, r = .error e ∧ e.kind = kind

@[simp] theorem failsAs_error {α : Type} {e : Error} {kind} :
    FailsAs (.error e : Except Error α) kind ↔ e.kind = kind := by
  simp [FailsAs]

theorem not_failsAs_ok {α : Type} {v : α} {kind} : ¬ FailsAs (.ok v : Except Error α) kind := by
  rintro ⟨e, h, -⟩
  cases h

theorem eq_ok_of_toOption {α : Type} {r : Except Error α} {value : α} (h : r.toOption = some value) :
    r = .ok value := by
  cases r with
  | ok => exact congrArg _ (Option.some.inj h)
  | error => cases h

namespace StatusClass

/-- The kind of error that a step ends in when it is answered so. -/
def stepKind : StatusClass → ErrorKind
  | .notAuthorized => .unauthorized
  | .success | .failed | .system => .invalid

/-- The same for the first call of a session. -/
def entryKind : StatusClass → ErrorKind
  | .notAuthorized => .unauthorized
  | .system => .unsupported
  | .success | .failed => .invalid

end StatusClass

theorem Status.isSuccess_iff {s : Status} : s.isSuccess = true ↔ s.classify = .success := by
  simp [Status.isSuccess]

variable {t : Trace} {device : String}

/-! ## Opening and judging -/

/-- What is told to the log on some condition makes no difference to the calls. -/
theorem exchanges_of_maybe_record {α : Type} {c : Prop} [Decidable c] {level topic message}
    {k : Unit → Procedure α} {r}
    (h : (if c then Procedure.record level topic message >>= k else k ()).Yields t r) :
    ∃ t', t.exchanges = t'.exchanges ∧ (k ()).Yields t' r := by
  split at h
  · obtain ⟨t', rfl, rest⟩ := yields_record_bind.1 h
    exact ⟨t', rfl, rest⟩
  · exact ⟨t, rfl, h⟩

theorem openDevice_yields {r} (h : (openDevice device).Yields t r) :
    (t = [.opened (.ok ())] ∧ r = .ok ()) ∨
      ∃ why, t = [.opened (.error why)] ∧ r = .error (.cannotOpen device why) := by
  obtain ⟨outcome, t', rfl, rest⟩ := yields_openDrive.1 h
  cases outcome with
  | ok u =>
    obtain ⟨rfl, rfl⟩ := yields_pure.1 rest
    exact .inl ⟨rfl, rfl⟩
  | error why =>
    obtain ⟨rfl, rfl⟩ := yields_fail.1 rest
    exact .inr ⟨why, rfl, rfl⟩

/-- A procedure that judges an answer of class `c`: it makes no call, passes a success on, and fails in its
own way on everything else. -/
def Procedure.Judges (p : Procedure Unit) (c : StatusClass) (kind : ErrorKind) : Prop :=
  ∀ ⦃t r⦄, p.Yields t r → t.exchanges = [] ∧ ((c = .success ∧ r = .ok ()) ∨ (c ≠ .success ∧ FailsAs r kind))

/-- What follows a judgement is done after a success only. -/
theorem Procedure.Judges.bind {α : Type} {p : Procedure Unit} {c kind} {k : Unit → Procedure α} {r}
    (judges : p.Judges c kind) (h : (p >>= k).Yields t r) :
    (c = .success ∧ ∃ t', t.exchanges = t'.exchanges ∧ (k ()).Yields t' r) ∨
      (c ≠ .success ∧ t.exchanges = [] ∧ FailsAs r kind) := by
  rcases yields_bind.1 h with ⟨t₁, t₂, _, rfl, judged, rest⟩ | ⟨e, rfl, judged⟩
  · obtain ⟨quiet, ⟨accepted, -⟩ | ⟨-, e, h, -⟩⟩ := judges judged
    · exact .inl ⟨accepted, t₂, by simp [quiet], rest⟩
    · cases h
  · obtain ⟨quiet, ⟨-, h⟩ | ⟨refused, fails⟩⟩ := judges judged
    · cases h
    · exact .inr ⟨refused, quiet, by simpa using fails⟩

theorem expect_judges (step : Step) (device : String) (status : Status) :
    (expect step device status).Judges status.classify status.classify.stepKind := by
  intro t r h
  unfold expect at h
  cases hc : status.classify with
  | success =>
    simp only [hc, yields_pure] at h
    obtain ⟨rfl, rfl⟩ := h
    exact ⟨rfl, .inl ⟨rfl, rfl⟩⟩
  | notAuthorized =>
    simp only [hc, yields_record_bind, yields_fail] at h
    obtain ⟨_, rfl, rfl, rfl⟩ := h
    exact ⟨rfl, .inr ⟨by decide, _, rfl, rfl⟩⟩
  | failed | system =>
    simp only [hc, yields_record_bind, yields_fail] at h
    obtain ⟨_, rfl, rfl, rfl⟩ := h
    exact ⟨rfl, .inr ⟨by decide, _, rfl, rfl⟩⟩

theorem expectEntry_judges (step : Step) (device : String) (status : Status) :
    (expectEntry step device status).Judges status.classify status.classify.entryKind := by
  intro t r h
  unfold expectEntry at h
  split at h
  · next hc =>
    simp only [yields_record_bind, yields_fail] at h
    obtain ⟨_, rfl, rfl, rfl⟩ := h
    exact ⟨rfl, .inr ⟨by simp [hc], _, rfl, by simp [hc, StatusClass.entryKind, Error.kind]⟩⟩
  · next hc =>
    obtain ⟨calls, accepted | ⟨refused, fails⟩⟩ := expect_judges _ _ _ h
    · exact ⟨calls, .inl accepted⟩
    · refine ⟨calls, .inr ⟨refused, ?_⟩⟩
      revert hc fails
      cases status.classify <;> simp [StatusClass.stepKind, StatusClass.entryKind]

/-- A call that has to succeed. -/
theorem demand_yields {request step r}
    (h : (do let answer ← Procedure.submit request; expect step device answer.status).Yields t r) :
    ∃ a : Answer request, t.exchanges = [⟨request, a⟩] ∧
      ((a.status.classify = .success ∧ r = .ok ()) ∨
        (a.status.classify ≠ .success ∧ FailsAs r a.status.classify.stepKind)) := by
  obtain ⟨a, t', rfl, rest⟩ := yields_submit_bind.1 h
  obtain ⟨calls, judged⟩ := expect_judges _ _ _ rest
  exact ⟨a, by simp [calls], judged⟩

/-! ## Queries -/

/-- The feature word is used after every answer that is no system error. -/
theorem queryFlags_yields {r} (h : (queryFlags device).Yields t r) :
    ∃ a : Answer (.getStatus default), t.exchanges = [⟨_, a⟩] ∧
      ((a.status.classify = .system ∧ FailsAs r .invalid) ∨
        (a.status.classify ≠ .system ∧ r = .ok a.reading)) := by
  obtain ⟨a, t', rfl, rest⟩ := yields_submit_bind.1 h
  refine ⟨a, ?_⟩
  split at rest
  · next hc =>
    simp only [yields_record_bind, yields_fail] at rest
    obtain ⟨_, rfl, rfl, rfl⟩ := rest
    exact ⟨rfl, .inl ⟨hc, _, rfl, rfl⟩⟩
  · next hc =>
    obtain ⟨rfl, rfl⟩ := yields_pure.1 rest
    exact ⟨rfl, .inr ⟨hc, rfl⟩⟩

theorem queryFlags_bind_yields {α : Type} {k : StatusFlags → Procedure α} {r}
    (h : (queryFlags device >>= k).Yields t r) :
    ∃ a : Answer (.getStatus default),
      (a.status.classify = .system ∧ t.exchanges = [⟨_, a⟩] ∧ FailsAs r .invalid) ∨
        (a.status.classify ≠ .system ∧ ∃ t', t.exchanges = ⟨_, a⟩ :: t'.exchanges ∧ (k a.reading).Yields t' r) := by
  rcases yields_bind.1 h with ⟨t₁, t₂, flags, rfl, queried, rest⟩ | ⟨e, rfl, queried⟩
  · obtain ⟨a, calls, ⟨-, e, h, -⟩ | ⟨hc, h⟩⟩ := queryFlags_yields queried
    · cases h
    · cases h
      exact ⟨a, .inr ⟨hc, t₂, by simp [calls], rest⟩⟩
  · obtain ⟨a, calls, ⟨hc, fails⟩ | ⟨-, h⟩⟩ := queryFlags_yields queried
    · exact ⟨a, .inl ⟨hc, calls, by simpa using fails⟩⟩
    · cases h

/-- A geometry that can be used: it was given, and its blocks have a size. -/
def Answer.Usable {submitted} (a : Answer (.getGeometry submitted)) : Prop :=
  a.status.classify = .success ∧ a.reading.blockSize ≠ 0

theorem queryGeometry_yields {r} (h : (queryGeometry device).Yields t r) :
    ∃ a : Answer (.getGeometry default), t.exchanges = [⟨_, a⟩] ∧
      ((a.Usable ∧ r = .ok (.ofReading a.reading)) ∨ (¬ a.Usable ∧ FailsAs r .invalid)) := by
  obtain ⟨a, t', rfl, rest⟩ := yields_submit_bind.1 h
  refine ⟨a, ?_⟩
  split at rest
  · next hc =>
    simp only [yields_record_bind, yields_fail] at rest
    obtain ⟨_, rfl, rfl, rfl⟩ := rest
    have refused : a.status.classify ≠ .success := by simpa [Status.isSuccess] using hc
    exact ⟨rfl, .inr ⟨fun u => refused u.1, _, rfl, rfl⟩⟩
  · next hc =>
    have accepted : a.status.classify = .success := by simpa [Status.isSuccess] using hc
    split at rest
    · next size =>
      obtain ⟨rfl, rfl⟩ := yields_fail.1 rest
      exact ⟨rfl, .inr ⟨fun u => u.2 size, _, rfl, rfl⟩⟩
    · next size =>
      obtain ⟨rfl, rfl⟩ := yields_pure.1 rest
      exact ⟨rfl, .inl ⟨⟨accepted, size⟩, rfl⟩⟩

theorem queryGeometry_bind_yields {α : Type} {k : Geometry → Procedure α} {r}
    (h : (queryGeometry device >>= k).Yields t r) :
    ∃ g : Answer (.getGeometry default),
      (¬ g.Usable ∧ t.exchanges = [⟨_, g⟩] ∧ FailsAs r .invalid) ∨
        (g.Usable ∧ ∃ t', t.exchanges = ⟨_, g⟩ :: t'.exchanges ∧ (k (.ofReading g.reading)).Yields t' r) := by
  rcases yields_bind.1 h with ⟨t₁, t₂, geometry, rfl, queried, rest⟩ | ⟨e, rfl, queried⟩
  · obtain ⟨g, calls, ⟨usable, h⟩ | ⟨-, e, h, -⟩⟩ := queryGeometry_yields queried
    · cases h
      exact ⟨g, .inr ⟨usable, t₂, by simp [calls], rest⟩⟩
    · cases h
  · obtain ⟨g, calls, ⟨-, h⟩ | ⟨unusable, fails⟩⟩ := queryGeometry_yields queried
    · cases h
    · exact ⟨g, .inl ⟨unusable, calls, by simpa using fails⟩⟩

theorem probeSupport_yields {r} (h : (probeSupport device).Yields t r) :
    ∃ a : Answer (.getStatus default), t.exchanges = [⟨_, a⟩] ∧
      ((a.status.classify = .system ∧ r = .ok false) ∨
        (a.status.classify ≠ .system ∧ r = .ok (StatusFlags.supported a.reading))) := by
  rcases yields_bind.1 h with ⟨t₁, t₂, outcome, rfl, first, rest⟩ | ⟨e, rfl, first⟩
  · obtain ⟨result, same, queried⟩ := yields_attempt.1 first
    cases same
    obtain ⟨a, calls, ⟨hc, e, rfl, hk⟩ | ⟨hc, rfl⟩⟩ := queryFlags_yields queried
    · simp only [hk, if_true, yields_pure] at rest
      obtain ⟨rfl, rfl⟩ := rest
      exact ⟨a, by simp [calls], .inl ⟨hc, rfl⟩⟩
    · obtain ⟨rfl, rfl⟩ := yields_pure.1 rest
      exact ⟨a, by simp [calls], .inr ⟨hc, rfl⟩⟩
  · obtain ⟨_, same, -⟩ := yields_attempt.1 first
    cases same

/-! ## Erasing -/

/-- The plain erase comes first, and the secure one exactly when the plain one did not succeed. -/
theorem eraseRange_yields {segment session r} (h : (eraseRange device segment session).Yields t r) :
    (∃ a, a.status.classify = .success ∧ t.exchanges = [⟨.eraseRange session, a⟩] ∧ r = .ok .plain) ∨
      ∃ a b, a.status.classify ≠ .success ∧
        t.exchanges = [⟨.eraseRange session, a⟩, ⟨.secureEraseRange session, b⟩] ∧
        ((b.status.classify = .success ∧ r = .ok .secure) ∨
          (b.status.classify ≠ .success ∧ FailsAs r b.status.classify.stepKind)) := by
  obtain ⟨a, t', rfl, rest⟩ := yields_submit_bind.1 h
  split at rest
  · next hc =>
    obtain ⟨rfl, rfl⟩ := yields_pure.1 rest
    exact .inl ⟨a, Status.isSuccess_iff.1 hc, rfl, rfl⟩
  · next hc =>
    obtain ⟨t₁, rfl, rest₁⟩ := yields_record_bind.1 rest
    obtain ⟨b, t₂, rfl, rest₂⟩ := yields_submit_bind.1 rest₁
    obtain ⟨t₃, calls, rest₃⟩ := exchanges_of_maybe_record rest₂
    refine .inr ⟨a, b, fun accepted => hc (Status.isSuccess_iff.2 accepted), ?_⟩
    rcases (expect_judges _ _ _).bind rest₃ with ⟨accepted, t₄, quiet, last⟩ | ⟨refused, quiet, fails⟩
    · obtain ⟨rfl, rfl⟩ := yields_pure.1 last
      exact ⟨by simp [calls, quiet], .inl ⟨accepted, rfl⟩⟩
    · exact ⟨by simp [calls, quiet], .inr ⟨refused, fails⟩⟩

/-- The request that disables a range. -/
def disableRequest (segment : UInt32) (password : Secret) : RangeSetup :=
  ⟨0, 0, 0, 0, adminSession segment.toUInt8 password⟩

theorem disableRange_yields {segment password r} (h : (disableRange device segment password).Yields t r) :
    ∃ a, t.exchanges = [⟨.setupRange (disableRequest segment password), a⟩] ∧
      ((a.status.classify = .success ∧ r = .ok ()) ∨
        (a.status.classify ≠ .success ∧ FailsAs r a.status.classify.stepKind)) := by
  obtain ⟨t', rfl, inner⟩ := yields_withBuffer.1 h
  simpa [disableRequest] using demand_yields inner

/-! ## Reading back -/

/-- The request that reads a range as its user. -/
abbrev readRequest (segment : UInt32) (key : Secret) : Request :=
  .getRangeStatus (.opening (Authority.ofSegment segment).who segment.toUInt8 key) default

theorem readRange_yields {segment key r} (h : (readRange device segment key).Yields t r) :
    ∃ a : Answer (readRequest segment key),
      t.exchanges = [⟨readRequest segment key, a⟩] ∧
        ((a.status.classify = .success ∧ r = .ok a.reading) ∨
          (a.status.classify ≠ .success ∧ FailsAs r a.status.classify.stepKind)) := by
  obtain ⟨t', rfl, inner⟩ := yields_withBuffer.1 h
  obtain ⟨a, t₁, rfl, rest⟩ := yields_submit_bind.1 inner
  obtain ⟨t₂, calls, rest⟩ := exchanges_of_maybe_record rest
  rcases (expect_judges _ _ _).bind rest with ⟨accepted, t₃, quiet, last⟩ | ⟨refused, quiet, fails⟩
  · obtain ⟨rfl, rfl⟩ := yields_pure.1 last
    exact ⟨a, by simp [calls, quiet, readRequest], .inl ⟨accepted, rfl⟩⟩
  · exact ⟨a, by simp [calls, quiet, readRequest], .inr ⟨refused, fails⟩⟩

theorem reportMismatches_yields {segment ms r} (h : (reportMismatches segment ms).Yields t r) :
    t.exchanges = [] ∧ r = .ok () := by
  induction ms generalizing t with
  | nil =>
    obtain ⟨rfl, rfl⟩ := yields_pure.1 h
    exact ⟨rfl, rfl⟩
  | cons m ms ih =>
    unfold reportMismatches reportMismatch at h
    split at h
    · obtain ⟨t₁, t₂, _, rfl, h₁, h₂⟩ | ⟨e, rfl, h₁⟩ := yields_bind.1 h
      · obtain ⟨t₃, rfl, h₃⟩ := yields_record_bind.1 h₁
        obtain ⟨rfl, -⟩ := yields_record.1 h₃
        simpa using ih h₂
      · obtain ⟨t₃, rfl, h₃⟩ := yields_record_bind.1 h₁
        cases (yields_record.1 h₃).2
    · obtain ⟨t₁, rfl, h₁⟩ := yields_record_bind.1 h
      simpa using ih h₁

end OpalLocking
