/-
Where a key is read from, and what of it.

`KeySource.Yields` lists the sources with what each of them yields, and `read_eq_iff` says that reading does this and
nothing else. What comes from the standard input, a file or a variable is told without the code, as the bytes in front of
the longest run of line ends (`Stripped`). The standard input can be read once, so of two keys that both come from it the
second one is empty, and no drive is opened for it.
-/
import OpalLocking.CommandLine.Parser
import OpalLocking.CommandRun
import OpalLocking.Simulator.Basic
import OpalLocking.Proofs.Refusals
import Mathlib.Data.List.DropRight

namespace OpalLocking

namespace KeySource

/-! ## Line ends -/

/-- A carriage return or a line feed. -/
def LineEnd (b : UInt8) : Prop :=
  b = 0x0D ∨ b = 0x0A

instance (b : UInt8) : Decidable (LineEnd b) :=
  inferInstanceAs (Decidable (_ ∨ _))

/-- The text is this body with line ends behind it, and the body ends in none. -/
structure Stripped (text body : List UInt8) : Prop where
  rest : ∃ run, text = body ++ run ∧ ∀ b ∈ run, LineEnd b
  ending : ∀ nonempty : body ≠ [], ¬ LineEnd (body.getLast nonempty)

theorem isLineEnd_iff {b : UInt8} : isLineEnd b = true ↔ LineEnd b := by
  simp [isLineEnd, LineEnd, or_comm]

theorem stripped_trimLineEnds (text : List UInt8) : Stripped text (trimLineEnds text) where
  rest := ⟨text.rtakeWhile isLineEnd, List.rdropWhile_append_rtakeWhile.symm,
    fun _ mem => isLineEnd_iff.1 (List.mem_rtakeWhile_imp mem)⟩
  ending := fun nonempty => mt isLineEnd_iff.2 (List.rdropWhile_last_not isLineEnd text nonempty)

/-- Only one body is left of a text. -/
theorem Stripped.trimLineEnds_eq {text body : List UInt8} (stripped : Stripped text body) : trimLineEnds text = body := by
  obtain ⟨⟨run, rfl, ends⟩, ending⟩ := stripped
  have dropped : ∀ b ∈ run.reverse, isLineEnd b = true := fun b mem => isLineEnd_iff.2 (ends b (List.mem_reverse.1 mem))
  calc
    trimLineEnds (body ++ run) = body.rdropWhile isLineEnd := by
      rw [trimLineEnds, List.reverse_append, List.dropWhile_append_of_pos dropped, List.rdropWhile]
    _ = body := List.rdropWhile_eq_self_iff.2 fun nonempty => mt isLineEnd_iff.1 (ending nonempty)

theorem trimLineEnds_trimLineEnds (text : List UInt8) : trimLineEnds (trimLineEnds text) = trimLineEnds text :=
  List.rdropWhile_idempotent isLineEnd text

/-- Line ends behind a text leave it a text. -/
theorem validateUTF8_append {body run : List UInt8} (valid : body.toByteArray.validateUTF8 = true)
    (ends : ∀ b ∈ run, LineEnd b) : (body ++ run).toByteArray.validateUTF8 = true := by
  rw [ByteArray.validateUTF8_eq_true_iff] at valid ⊢
  rw [List.toByteArray_append]
  refine valid.append ?_
  induction run with
  | nil => exact ByteArray.isValidUTF8_empty
  | cons b run ih =>
    obtain ⟨here, ends⟩ := List.forall_mem_cons.1 ends
    have single : [b].toByteArray.IsValidUTF8 := by
      obtain rfl | rfl := here
      · exact .intro ['\r'] rfl
      · exact .intro ['\n'] rfl
    rw [← List.singleton_append, List.toByteArray_append]
    exact single.append (ih ends)

/-! ## Sources -/

/-- What a key is read as, in this world, from an argument or in its place from a variable, and the world behind that. -/
inductive Yields (w : World) (variableName : String) : Option String → Except KeyFailure Secret → World → Prop
  /-- All of the standard input, whatever else a dash may name. -/
  | stdin {bytes : List UInt8} {key : Secret} (there : w.stdin = .ok bytes) (stripped : Stripped bytes key) :
      Yields w variableName (some "-") (.ok key) { w with stdin := .ok [] }
  | unreadableInput {why : OpenFailure} (there : w.stdin = .error why) :
      Yields w variableName (some "-") (.error (.unreadableInput why)) w
  | file {path : String} {bytes : List UInt8} {key : Secret} (named : path ≠ "-") (there : w.entry path = .contents bytes)
      (stripped : Stripped bytes key) : Yields w variableName (some path) (.ok key) w
  | unreadable {path : String} {why : OpenFailure} (named : path ≠ "-") (there : w.entry path = .unreadable why) :
      Yields w variableName (some path) (.error (.unreadable path why)) w
  /-- An argument that names nothing is the key itself, line ends included. -/
  | literal {text : String} {why : OpenFailure} (named : text ≠ "-") (nowhere : w.entry text = .absent why) :
      Yields w variableName (some text) (.ok text.toUTF8.data.toList) w
  | environment {bytes : List UInt8} {key : Secret} (set : w.environment variableName = some bytes)
      (text : bytes.toByteArray.validateUTF8 = true) (stripped : Stripped bytes key) :
      Yields w variableName none (.ok key) w
  | noText {bytes : List UInt8} (set : w.environment variableName = some bytes)
      (noText : bytes.toByteArray.validateUTF8 = false) :
      Yields w variableName none (.error (.missing variableName)) w
  | unset (unset : w.environment variableName = none) : Yields w variableName none (.error (.missing variableName)) w

variable {w w' : World} {variableName : String} {argument : Option String} {result : Except KeyFailure Secret}

theorem yields_read (w : World) (variableName : String) (argument : Option String) :
    Yields w variableName argument (read argument variableName w).1 (read argument variableName w).2 := by
  cases argument with
  | none =>
    unfold read fromVariable
    dsimp only
    split
    · next bytes set =>
      split
      · next text => exact .environment set text (stripped_trimLineEnds bytes)
      · next noText => exact .noText set (Bool.eq_false_iff.2 noText)
    · next unset => exact .unset unset
  | some argument =>
    unfold read fromArgument
    dsimp only
    split
    · next dash =>
      subst dash
      unfold World.readStdin
      cases there : w.stdin with
      | ok bytes => exact .stdin there (stripped_trimLineEnds bytes)
      | error why => exact .unreadableInput there
    · next named =>
      split
      · next why nowhere => exact .literal named nowhere
      · next why there => exact .unreadable named there
      · next bytes there => exact .file named there (stripped_trimLineEnds bytes)

theorem Yields.read_eq (yields : Yields w variableName argument result w') :
    read argument variableName w = (result, w') := by
  cases yields with
  | stdin there stripped => simp only [read, fromArgument, if_true, World.readStdin, there, stripped.trimLineEnds_eq]
  | unreadableInput there => simp only [read, fromArgument, if_true, World.readStdin, there]
  | file named there stripped => simp only [read, fromArgument, if_neg named, there, stripped.trimLineEnds_eq]
  | unreadable named there => simp only [read, fromArgument, if_neg named, there]
  | literal named nowhere => simp only [read, fromArgument, if_neg named, nowhere, KeySource.literal]
  | environment set text stripped => simp only [read, fromVariable, set, text, if_true, stripped.trimLineEnds_eq]
  | noText set noText => simp [read, fromVariable, set, noText]
  | unset unset => simp only [read, fromVariable, unset]

theorem read_eq_iff : read argument variableName w = (result, w') ↔ Yields w variableName argument result w' := by
  refine ⟨fun same => ?_, Yields.read_eq⟩
  have yields := yields_read w variableName argument
  rw [same] at yields
  exact yields

end KeySource

/-! ## Two keys from one standard input -/

namespace CommandLine.Action

variable {segment : UInt32} {start length : UInt64} {w : World}

/-- The second key is what the first one left of the standard input: nothing. -/
theorem prepare_setup_stdin {bytes : List UInt8} (input : w.stdin = .ok bytes) (segment : UInt32)
    (start length : UInt64) :
    ((Action.setup segment start length (some "-") (some "-")).prepare w).1 =
      .ok (.setup ⟨segment, start, length, KeySource.trimLineEnds bytes, []⟩) := by
  simp only [prepare, withKey, KeySource.read, KeySource.fromArgument, if_true, World.readStdin, input]
  rfl

/-- An empty admin key is refused before the drive is opened. -/
theorem run_setup_stdin {bytes : List UInt8} (input : w.stdin = .ok bytes) {σ : Type} (d : Drive σ) (s : σ)
    (device : String) (segment : UInt32) (start length : UInt64) :
    let run := (Action.setup segment start length (some "-") (some "-")).run d s device w
    (∃ doing e, run.outcome = { failure := some (.operation doing e) } ∧ e.kind = .invalid) ∧ run.drive = s ∧
      run.trace = [] := by
  intro run
  let provision : Provision := ⟨segment, start, length, KeySource.trimLineEnds bytes, []⟩
  have refused : (Operation.setup provision).Refused := .emptyKey (show Operation.key? _ .admin = some [] from rfl)
  let opened := ((Operation.setup provision).procedure device).run d s
  obtain ⟨⟨e, failed, kind⟩, trace, left⟩ :
      FailsAs opened.result .invalid ∧ opened.trace = [] ∧ opened.drive = s := refused.run
  have ran : run = _ := run_of_operation d s device (prepare_setup_stdin input segment start length)
  rw [show Procedure.run d _ s = opened from rfl, failed] at ran
  rw [ran]
  exact ⟨⟨_, e, rfl, kind⟩, left, trace⟩

/-- No key comes of a standard input that cannot be read, and no drive is opened. -/
theorem run_setup_unreadable {why : OpenFailure} (input : w.stdin = .error why) {σ : Type} (d : Drive σ) (s : σ)
    (device : String) (segment : UInt32) (start length : UInt64) (adminKey : Option String) :
    (Action.setup segment start length (some "-") adminKey).run d s device w =
      { outcome := { failure := some (.key (.unreadableInput why)) }, drive := s } := by
  refine run_of_unreadable d s device ?_
  simp only [prepare, withKey, KeySource.read, KeySource.fromArgument, if_true, World.readStdin, input]

end CommandLine.Action

namespace KeySource

open CommandLine (Action)

/-- A key is read from the source that its argument or its variable names, and from no other; where that fails there is
no key. What a source holds loses the longest run of line ends at its end and nothing else, so a key that ends in none of
them is read back from each source, however many line ends were put behind it. A setup that asks for both keys from the
standard input gets an empty admin key, and so is invalid before the drive is opened; if the standard input cannot be
read, it has no key at all, and does not open the drive either. -/
theorem key_arguments (w : World) (variableName : String) :
    (∀ argument result w', read argument variableName w = (result, w') ↔ Yields w variableName argument result w') ∧
      (∀ text, trimLineEnds (trimLineEnds text) = trimLineEnds text) ∧
      (∀ key run : List UInt8, (∀ nonempty : key ≠ [], ¬ LineEnd (key.getLast nonempty)) → (∀ b ∈ run, LineEnd b) →
        (w.stdin = .ok (key ++ run) → read (some "-") variableName w = (.ok key, { w with stdin := .ok [] })) ∧
          (∀ path, path ≠ "-" → w.entry path = .contents (key ++ run) →
            read (some path) variableName w = (.ok key, w)) ∧
          (key.toByteArray.validateUTF8 = true → w.environment variableName = some (key ++ run) →
            read none variableName w = (.ok key, w))) ∧
      ∀ (σ : Type) (d : Drive σ) (s : σ) (device : String) (segment : UInt32) (start length : UInt64),
        let setup := Action.setup segment start length (some "-") (some "-")
        let run := setup.run d s device w
        (∀ bytes, w.stdin = .ok bytes →
          (setup.prepare w).1 = .ok (.setup ⟨segment, start, length, trimLineEnds bytes, []⟩) ∧
            ∃ doing e, run.outcome = { failure := some (.operation doing e) } ∧ e.kind = .invalid) ∧
          (∀ why, w.stdin = .error why → run.outcome = { failure := some (.key (.unreadableInput why)) }) ∧
          run.drive = s ∧ run.trace = [] := by
  refine ⟨fun _ _ _ => read_eq_iff, trimLineEnds_trimLineEnds, fun key run ending ends => ?_,
    fun σ d s device segment start length => ?_⟩
  · have stripped : Stripped (key ++ run) key := ⟨⟨run, rfl, ends⟩, ending⟩
    refine ⟨fun input => ?_, fun path named there => ?_, fun text set => ?_⟩
    · exact (Yields.stdin input stripped).read_eq
    · exact (Yields.file named there stripped).read_eq
    · exact (Yields.environment set (validateUTF8_append text ends) stripped).read_eq
  · intro setup run
    cases input : w.stdin with
    | ok bytes =>
      obtain ⟨invalid, left, trace⟩ := Action.run_setup_stdin input d s device segment start length
      refine ⟨fun bytes' same => ?_, nofun, left, trace⟩
      cases same
      exact ⟨Action.prepare_setup_stdin input segment start length, invalid⟩
    | error why =>
      have keyless : run = _ := Action.run_setup_unreadable input d s device segment start length (some "-")
      refine ⟨nofun, fun why' same => ?_, by rw [keyless], by rw [keyless]⟩
      cases same
      rw [keyless]

/-- A binary key in front of mixed line ends, in each of the sources; a text in the variable. And a command line that asks
for both keys from the standard input. -/
theorem key_arguments_mixed :
    let key : Secret := [0, 0x0A, 0xFF]
    let text : Secret := [0x6B, 0x65, 0x79]
    let ends : List UInt8 := [0x0D, 0x0A, 0x0A, 0x0D]
    let w : World :=
      { entry := fun path => if path = "file" ∨ path = "-" then .contents (key ++ ends) else .unreadable .isDirectory
        environment := fun name => if name = "KEY" then some (text ++ ends) else none
        stdin := .ok (key ++ ends) }
    let words := ["sed-range", "setup", "d", "-s", "1", "--start", "0", "--length", "8", "--key", "-", "--admin-key", "-"]
    let setup := Action.setup 1 0 8 (some "-") (some "-")
    read (some "-") "KEY" w = (.ok key, { w with stdin := .ok [] }) ∧ read (some "file") "KEY" w = (.ok key, w) ∧
      read none "KEY" w = (.ok text, w) ∧
      read (some "directory") "KEY" w = (.error (.unreadable "directory" .isDirectory), w) ∧
      CommandLine.parse words = .ok ⟨.act "d" setup, 0⟩ ∧
      (setup.run SimulatedDrive.drive (.new "d") "d" w).trace = [] := by
  intro key text ends w words setup
  obtain ⟨sources, -, readBack, both⟩ := key_arguments w "KEY"
  have lineEnds : ∀ b ∈ ends, LineEnd b := by simp [ends, LineEnd]
  have binary := readBack key ends (fun _ => by simp [key, LineEnd]) lineEnds
  have literal := readBack text ends (fun _ => by simp [text, LineEnd]) lineEnds
  have unreadable := (sources (some "directory") _ _).2 (.unreadable (by simp) rfl)
  exact ⟨binary.1 rfl, binary.2.1 "file" (by simp) rfl, literal.2.2 (by decide +kernel) rfl, unreadable,
    by decide +kernel, (both _ SimulatedDrive.drive (.new "d") "d" 1 0 8).2.2.2⟩

end KeySource

end OpalLocking
