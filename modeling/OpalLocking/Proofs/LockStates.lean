/-
How the state of a lock is read.

The word of a state is read three times: it is decoded, it is compared with the locked state, and it is masked with the
two states in which writes are locked. The mask lets words through that do not decode, so all three agree just on the
words that decode and on those that have neither bit of the mask.
-/
import OpalLocking.Proofs.Mismatches

namespace OpalLocking

theorem LockState.ofWord?_eq_some_iff {word : UInt32} {state : LockState} :
    ofWord? word = some state ↔ word = state.word := by
  constructor
  · exact fun decoded => (word_of_ofWord? decoded).symm
  · rintro rfl
    exact ofWord?_word state

namespace Attributes

variable {g : Geometry} {r : RangeReading}

theorem readLocked_iff : (ofReading g r).readLocked = true ↔ LockState.ofWord? r.state = some .locked := by
  simp [ofReading, LockState.ofWord?_eq_some_iff]

theorem writeLocked_iff_of_isSome (defined : (LockState.ofWord? r.state).isSome) :
    (ofReading g r).writeLocked = true ↔
      LockState.ofWord? r.state = some .locked ∨ LockState.ofWord? r.state = some .readOnly := by
  obtain ⟨state, decoded⟩ := Option.isSome_iff_exists.1 defined
  have word : r.state = state.word := LockState.ofWord?_eq_some_iff.1 decoded
  rw [decoded]
  unfold ofReading
  dsimp only
  rw [word]
  cases state <;> decide

/-- Which words are read as locked for writes just when their state is. -/
theorem writeLocked_agrees_iff :
    ((ofReading g r).writeLocked = true ↔
        LockState.ofWord? r.state = some .locked ∨ LockState.ofWord? r.state = some .readOnly) ↔
      (LockState.ofWord? r.state).isSome ∨ r.state &&& (LockState.readOnly.word ||| LockState.locked.word) = 0 := by
  cases decoded : LockState.ofWord? r.state with
  | some state =>
    have defined : (LockState.ofWord? r.state).isSome := by simp [decoded]
    rw [← decoded]
    exact iff_of_true (writeLocked_iff_of_isSome defined) (.inl defined)
  | none => simp [ofReading]

end Attributes

variable {σ : Type} {d : Drive σ} {s s₁ : σ} {segment : UInt32} {key : Secret}

/-- Whatever word a drive reports for the state of a range with both locks enabled, the range is read back with the state
that the word decodes to, and as locked for reads just when this is the locked state. It is read back as locked for writes
just when this is a state in which writes are locked, and never found locked for writes when the word does not decode,
for exactly those words that decode or have none of the bits of the two states. -/
theorem write_lock_agrees_iff (device : String) (keyed : checkKey .user key = .ok ())
    (valid : checkSegment segment = .ok ()) (opens : d.opening s = (.ok (), s₁)) :
    let run want := ((Operation.verify segment key want).procedure device).run d s
    let geometry := d.answer s₁ (.getGeometry default)
    let read := d.answer geometry.2 (readRequest segment key)
    let reported : RangeReading := read.1.reading
    let decoded := LockState.ofWord? reported.state
    geometry.1.Usable → read.1.status.isSuccess → reported.readLock ≠ 0 ∧ reported.writeLock ≠ 0 →
      ∃ observed : Attributes,
        (∀ want value, (run want).result = .ok value ↔ value = .attributes observed ∧ observed.Meets want) ∧
        observed.state = decoded ∧ (observed.readLocked = true ↔ decoded = some .locked) ∧
        (((observed.writeLocked = true ↔ decoded = some .locked ∨ decoded = some .readOnly) ∧
            (decoded = none → observed.readLocked = false ∧ observed.writeLocked = false ∧
              ∀ want value, want.writeLocked = some true → (run want).result ≠ .ok value)) ↔
          decoded.isSome ∨ reported.state &&& (LockState.readOnly.word ||| LockState.locked.word) = 0) := by
  intro run geometry read reported decoded usable accepted enabled
  let observed := Attributes.ofReading (.ofReading geometry.1.reading) reported
  have result (want : Expectations) (value : Value) :
      (run want).result = .ok value ↔ value = .attributes observed ∧ observed.Meets want := by
    rw [verify_eq_ok_iff device keyed valid opens want usable accepted, and_iff_right enabled]
  refine ⟨observed, result, rfl, Attributes.readLocked_iff, ?_⟩
  rw [← Attributes.writeLocked_agrees_iff]
  refine and_iff_left_of_imp fun agrees undefined => ?_
  have none_of (state : LockState) : decoded ≠ some state := by
    rw [undefined]
    nofun
  have readable : observed.readLocked = false :=
    Bool.eq_false_iff.2 fun locked => none_of _ (Attributes.readLocked_iff.1 locked)
  have writable : observed.writeLocked = false :=
    Bool.eq_false_iff.2 fun locked => (agrees.1 locked).elim (none_of _) (none_of _)
  refine ⟨readable, writable, fun want value locked returned => ?_⟩
  have met := ((result want value).1 returned).2.writeLocked true locked
  cases writable.symm.trans met

/-- A range that is fully locked, with both locks enabled, is read back as it is. -/
theorem write_lock_agrees_iff_locked :
    let reading : ScriptedAnswer :=
      { status := .success, readLock := some 1, writeLock := some 1, state := some LockState.locked.word }
    let script : Script :=
      { answers := [(.getGeometry, [{ status := .success, blockSize := some 512 }]), (.getRangeStatus, [reading])] }
    let run want := ((Operation.verify 1 [7] want).procedure "d").run Script.drive script
    ∃ observed : Attributes, (run { writeLocked := some true }).result = .ok (.attributes observed) ∧
      observed.state = some .locked ∧ observed.readLocked = true ∧ observed.writeLocked = true := by
  intro reading script run
  have keyed : checkKey .user [7] = .ok () := rfl
  have valid : checkSegment 1 = .ok () := rfl
  have opens : Script.drive.opening script = (.ok (), script) := rfl
  obtain ⟨observed, result, state, readLocked, agrees⟩ :=
    write_lock_agrees_iff "d" keyed valid opens ⟨rfl, by decide⟩ rfl (by decide)
  have writeLocked : observed.writeLocked = true := (agrees.2 (.inl rfl)).1.2 (.inl rfl)
  refine ⟨observed, (result _ _).2 ⟨rfl, ?_⟩, state, readLocked.2 rfl, writeLocked⟩
  exact ⟨nofun, nofun, nofun, fun _ expected => writeLocked.trans (Option.some.inj expected)⟩

/-- The word of a state that is locked and read-only in one does not decode, and is still found locked for writes. -/
theorem write_lock_undefined :
    let reading : ScriptedAnswer := { status := .success, readLock := some 1, writeLock := some 1, state := some 5 }
    let script : Script :=
      { answers := [(.getGeometry, [{ status := .success, blockSize := some 512 }]), (.getRangeStatus, [reading])] }
    let run := ((Operation.verify 1 [7] { writeLocked := some true }).procedure "d").run Script.drive script
    LockState.ofWord? 5 = none ∧ ∃ observed : Attributes, run.result = .ok (.attributes observed) ∧
      observed.state = none ∧ observed.readLocked = false ∧ observed.writeLocked = true := by
  refine ⟨rfl, ⟨0, 0, true, true, none, false, true⟩, ?_, rfl, rfl, rfl⟩
  decide

end OpalLocking
