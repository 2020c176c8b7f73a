/-
What a sequence of command lines does to the simulated drives that it names.

Which operation an action stands for, and with which keys, is told without the code that prepares it
(`CommandLine.Action.Performs`), and so is which key is missing where there is no operation (`CommandLine.Action.Lacks`).
Seen from one device, only the commands that name it count: the drives of all others come into being and change beside
its own (`Fleet.runLines_on`). And commands on one drive are library operations, one after the other
(`SimulatedDrive.takeTurns_comes`); what a command adds to its operation is that the keys are read in front of it, and
that its result is reported (`Turn.Reports`).
-/
import OpalLocking.CommandLine.Parser
import OpalLocking.Fleet
import OpalLocking.Proofs.Simulator.Independence
import Mathlib.Data.List.Forall2

namespace OpalLocking

open CommandLine (Action)

/-! ## Operations of actions -/

namespace CommandLine.Action

/-- The library operation that an action stands for in a world, with the keys that are read there. A setup reads the
volume key first, and the admin key in the world that this leaves. -/
inductive Performs (w : World) : Action → Operation → Prop
  | status : Performs w .status .flags
  | geometry : Performs w .geometry .geometry
  | setup {segment : UInt32} {start length : UInt64} {key adminKey : Option String} {volume admin : Secret} {w₁ w₂ : World}
      (first : KeySource.read key "SED_RANGE_KEY" w = (.ok volume, w₁))
      (second : KeySource.read adminKey "SED_RANGE_ADMIN_KEY" w₁ = (.ok admin, w₂)) :
      Performs w (.setup segment start length key adminKey)
        (.setup { segment, start, length, volumeKey := volume, adminKey := admin })
  | lock {segment : UInt32} : Performs w (.lock segment) (.setLock segment true none)
  | unlock {segment : UInt32} {key : Option String} {user : Secret} {w₁ : World}
      (read : KeySource.read key "SED_RANGE_KEY" w = (.ok user, w₁)) :
      Performs w (.unlock segment key) (.setLock segment false (some user))
  | check {segment : UInt32} {start length : Option UInt64} {key : Option String} {user : Secret} {w₁ : World}
      (read : KeySource.read key "SED_RANGE_KEY" w = (.ok user, w₁)) :
      Performs w (.check segment start length key)
        (.verify segment user { offset := start, length := length, readLocked := none, writeLocked := none })
  | factoryReset {psidArgument : Option String} {psid : Secret} {w₁ : World}
      (read : KeySource.read psidArgument "SED_RANGE_PSID" w = (.ok psid, w₁)) :
      Performs w (.factoryReset psidArgument) (.factoryReset psid)
  | resetSegment {segment : UInt32} {adminKey : Option String} {admin : Secret} {w₁ : World}
      (read : KeySource.read adminKey "SED_RANGE_ADMIN_KEY" w = (.ok admin, w₁)) :
      Performs w (.resetSegment segment adminKey) (.resetSegment segment admin)

/-- A key of an action cannot be read in a world. -/
inductive Lacks (w : World) : Action → KeyFailure → Prop
  | volumeKey {segment : UInt32} {start length : UInt64} {key adminKey : Option String} {why : KeyFailure} {w₁ : World}
      (unread : KeySource.read key "SED_RANGE_KEY" w = (.error why, w₁)) :
      Lacks w (.setup segment start length key adminKey) why
  | adminKey {segment : UInt32} {start length : UInt64} {key adminKey : Option String} {volume : Secret}
      {why : KeyFailure} {w₁ w₂ : World} (first : KeySource.read key "SED_RANGE_KEY" w = (.ok volume, w₁))
      (unread : KeySource.read adminKey "SED_RANGE_ADMIN_KEY" w₁ = (.error why, w₂)) :
      Lacks w (.setup segment start length key adminKey) why
  | unlock {segment : UInt32} {key : Option String} {why : KeyFailure} {w₁ : World}
      (unread : KeySource.read key "SED_RANGE_KEY" w = (.error why, w₁)) : Lacks w (.unlock segment key) why
  | check {segment : UInt32} {start length : Option UInt64} {key : Option String} {why : KeyFailure} {w₁ : World}
      (unread : KeySource.read key "SED_RANGE_KEY" w = (.error why, w₁)) : Lacks w (.check segment start length key) why
  | factoryReset {psidArgument : Option String} {why : KeyFailure} {w₁ : World}
      (unread : KeySource.read psidArgument "SED_RANGE_PSID" w = (.error why, w₁)) :
      Lacks w (.factoryReset psidArgument) why
  | resetSegment {segment : UInt32} {adminKey : Option String} {why : KeyFailure} {w₁ : World}
      (unread : KeySource.read adminKey "SED_RANGE_ADMIN_KEY" w = (.error why, w₁)) :
      Lacks w (.resetSegment segment adminKey) why

variable {w : World} {action : Action} {op : Operation} {why : KeyFailure}

theorem Performs.prepare_eq (performs : action.Performs w op) : (action.prepare w).1 = .ok op := by
  cases performs with
  | status | geometry | lock => rfl
  | setup first second => simp only [prepare, withKey, keyVariable, adminKeyVariable, first, second]
  | unlock read => simp only [prepare, withKey, keyVariable, read]; rfl
  | check read => simp only [prepare, withKey, keyVariable, read]
  | factoryReset read => simp only [prepare, withKey, psidVariable, read]
  | resetSegment read => simp only [prepare, withKey, adminKeyVariable, read]

theorem Lacks.prepare_eq (lacks : action.Lacks w why) : (action.prepare w).1 = .error why := by
  cases lacks with
  | volumeKey unread | unlock unread | check unread => simp only [prepare, withKey, keyVariable, unread]
  | adminKey first unread => simp only [prepare, withKey, keyVariable, adminKeyVariable, first, unread]
  | factoryReset unread => simp only [prepare, withKey, psidVariable, unread]
  | resetSegment unread => simp only [prepare, withKey, adminKeyVariable, unread]

/-- An action either stands for an operation or lacks a key. -/
theorem performs_or_lacks (action : Action) (w : World) : (∃ op, action.Performs w op) ∨ ∃ why, action.Lacks w why := by
  cases action with
  | status => exact .inl ⟨_, .status⟩
  | geometry => exact .inl ⟨_, .geometry⟩
  | lock segment => exact .inl ⟨_, .lock⟩
  | setup segment start length key adminKey =>
    rcases first : KeySource.read key "SED_RANGE_KEY" w with ⟨why | volume, w₁⟩
    · exact .inr ⟨why, .volumeKey first⟩
    rcases second : KeySource.read adminKey "SED_RANGE_ADMIN_KEY" w₁ with ⟨why | admin, w₂⟩
    · exact .inr ⟨why, .adminKey first second⟩
    · exact .inl ⟨_, .setup first second⟩
  | unlock segment key =>
    rcases read : KeySource.read key "SED_RANGE_KEY" w with ⟨why | user, w₁⟩
    · exact .inr ⟨why, .unlock read⟩
    · exact .inl ⟨_, .unlock read⟩
  | check segment start length key =>
    rcases read : KeySource.read key "SED_RANGE_KEY" w with ⟨why | user, w₁⟩
    · exact .inr ⟨why, .check read⟩
    · exact .inl ⟨_, .check read⟩
  | factoryReset psidArgument =>
    rcases read : KeySource.read psidArgument "SED_RANGE_PSID" w with ⟨why | psid, w₁⟩
    · exact .inr ⟨why, .factoryReset read⟩
    · exact .inl ⟨_, .factoryReset read⟩
  | resetSegment segment adminKey =>
    rcases read : KeySource.read adminKey "SED_RANGE_ADMIN_KEY" w with ⟨why | admin, w₁⟩
    · exact .inr ⟨why, .resetSegment read⟩
    · exact .inl ⟨_, .resetSegment read⟩

/-- Preparing an action fails for exactly the key that it lacks. -/
theorem prepare_eq_error_iff : (action.prepare w).1 = .error why ↔ action.Lacks w why := by
  refine ⟨fun prepared => ?_, Lacks.prepare_eq⟩
  rcases action.performs_or_lacks w with ⟨op, performs⟩ | ⟨why', lacks⟩
  · cases performs.prepare_eq.symm.trans prepared
  · cases lacks.prepare_eq.symm.trans prepared
    exact lacks

end CommandLine.Action

/-! ## The fleet -/

namespace Fleet

variable {device other : String}

theorem get_set_self (f : Fleet) (device : String) (d : SimulatedDrive) : (f.set device d).get device = d := by
  simp [get, set]

theorem lookup_filter_ne (f : Fleet) (ne : other ≠ device) : (f.filter (·.1 ≠ device)).lookup other = f.lookup other := by
  induction f with
  | nil => rfl
  | cons entry f ih =>
    obtain ⟨name, d⟩ := entry
    by_cases here : name = device
    · subst here
      have missed : (other == name) = false := by simpa using ne
      rw [List.filter_cons_of_neg (by simp), ih, List.lookup_cons, missed]
    · rw [List.filter_cons_of_pos (by simpa using here), List.lookup_cons, List.lookup_cons, ih]

theorem get_set_of_ne (f : Fleet) (d : SimulatedDrive) (ne : other ≠ device) :
    (f.set device d).get other = f.get other := by
  have missed : (other == device) = false := by simpa using ne
  rw [get, set, List.lookup_cons, missed, lookup_filter_ne f ne, get]

/-- A drive that nothing was done to yet is as it left the factory, and knows the control calls if its name begins like
those of NVMe drives. -/
theorem fresh_eq (device : String) :
    fresh device = { SimulatedDrive.new device with
      config := { (SimulatedDrive.new device).config with
        supported := "/dev/nvme".toList.isPrefixOf device.toList } } := by
  unfold fresh
  split
  · next named =>
    rw [named]
    rfl
  · next other =>
    rw [Bool.eq_false_iff.2 other]
    rfl

end Fleet

/-! ## Running command lines -/

/-- A command that was run on a device, in the world that it was given in, with what came of it. -/
structure Turn where
  device : String
  action : Action
  world : World
  outcome : Outcome
  trace : Trace

/-- What a command line asks of a device: nothing if it names another one, or is not understood. -/
def commandOn? (device : String) : List String × World → Option (Action × World)
  | (words, w) =>
    match CommandLine.parse words with
    | .ok ⟨.act named action, _⟩ => if named = device then some (action, w) else none
    | .ok ⟨.docs, _⟩ | .error _ => none

namespace Fleet

/-- Runs one command line. Only a command that acts on a device is a turn; help and mistakes change nothing. -/
def runLine (f : Fleet) : List String × World → Option Turn × Fleet
  | (words, w) =>
    match CommandLine.parse words with
    | .ok ⟨.act device action, _⟩ =>
      let run := f.run (.act device action) w
      (some ⟨device, action, w, run.outcome, run.trace⟩, run.drive)
    | .ok ⟨.docs, _⟩ => (none, (f.run .docs w).drive)
    | .error _ => (none, f)

/-- Runs command lines one after the other, each in a world of its own. -/
def runLines (f : Fleet) : List (List String × World) → List Turn × Fleet
  | [] => ([], f)
  | line :: lines =>
    let (turn, f₁) := f.runLine line
    let (turns, left) := f₁.runLines lines
    (turn.toList ++ turns, left)

end Fleet

/-- Runs actions on one drive. -/
def SimulatedDrive.takeTurns (d : SimulatedDrive) (device : String) : List (Action × World) → List Turn × SimulatedDrive
  | [] => ([], d)
  | (action, w) :: rest =>
    let run := action.run drive d device w
    let (turns, left) := run.drive.takeTurns device rest
    (⟨device, action, w, run.outcome, run.trace⟩ :: turns, left)

namespace Fleet

variable {device : String} {f : Fleet} {line : List String × World}

/-- A command line that asks nothing of a device leaves its drive alone. -/
theorem runLine_elsewhere (elsewhere : commandOn? device line = none) :
    (f.runLine line).1.toList.filter (·.device = device) = [] ∧ (f.runLine line).2.get device = f.get device := by
  obtain ⟨words, w⟩ := line
  unfold commandOn? at elsewhere
  unfold runLine
  dsimp only at elsewhere ⊢
  split at elsewhere
  · next named action _ parsed =>
    split at elsewhere
    · cases elsewhere
    · next ne => exact ⟨by simp [ne], f.get_set_of_ne _ (Ne.symm ne)⟩
  · exact ⟨rfl, rfl⟩
  · exact ⟨rfl, rfl⟩

/-- One that does runs its action on this drive. -/
theorem runLine_here {action : Action} {w : World} (here : commandOn? device line = some (action, w)) :
    let run := action.run SimulatedDrive.drive (f.get device) device w
    (f.runLine line).1 = some ⟨device, action, w, run.outcome, run.trace⟩ ∧ (f.runLine line).2.get device = run.drive := by
  obtain ⟨words, w'⟩ := line
  unfold commandOn? at here
  unfold runLine
  dsimp only at here ⊢
  split at here
  · split at here
    · next same =>
      cases here
      subst same
      exact ⟨rfl, f.get_set_self _ _⟩
    · cases here
  · cases here
  · cases here

/-- A device sees of a sequence of command lines what is asked of it, and its drive comes to what that comes to alone. -/
theorem runLines_on (f : Fleet) (device : String) (lines : List (List String × World)) :
    let alone := (f.get device).takeTurns device (lines.filterMap (commandOn? device))
    (f.runLines lines).1.filter (·.device = device) = alone.1 ∧ (f.runLines lines).2.get device = alone.2 := by
  induction lines generalizing f with
  | nil => exact ⟨rfl, rfl⟩
  | cons line lines ih =>
    obtain ⟨turns, left⟩ := ih (f.runLine line).2
    cases asked : commandOn? device line with
    | none =>
      obtain ⟨silent, same⟩ := runLine_elsewhere (f := f) asked
      rw [same] at turns left
      rw [List.filterMap_cons_none asked]
      refine ⟨?_, left⟩
      simp only [runLines, List.filter_append, silent, List.nil_append, turns]
    | some command =>
      obtain ⟨turn, behind⟩ := runLine_here (f := f) asked
      rw [behind] at turns left
      rw [List.filterMap_cons_some asked]
      refine ⟨?_, left⟩
      simp only [runLines, turn, List.filter_append, turns]
      simp [SimulatedDrive.takeTurns]

end Fleet

/-! ## Commands and operations -/

/-- What a command shows of the result of its operation. -/
structure Turn.Reports (t : Turn) (result : Except Error Value) : Prop where
  /-- It fails if the operation did; a status report also if the drive advertises no locking. -/
  failed_iff : t.outcome.failure.isSome ↔
    (∃ e, result = .error e) ∨ t.action = .status ∧ ∃ flags, result = .ok (.flags flags) ∧ flags.supported = false
  /-- Only context is put in front of an error. -/
  error : ∀ e, result = .error e → ∃ failure, t.outcome.failure = some failure ∧ failure.error? = some e ∧
    (e.message :: e.source?.toList) <:+ failure.chain

/-- Turns come to these operations, with these results: each lacks a key, or reports what came of the next operation. -/
inductive Turn.Come : List Turn → List Operation → List (Except Error Value) → Prop
  | done : Come [] [] []
  | keyless {t : Turn} {why : KeyFailure} {turns : List Turn} {ops : List Operation}
      {results : List (Except Error Value)} (lacks : t.action.Lacks t.world why) (rest : Come turns ops results) :
      Come (t :: turns) ops results
  | ran {t : Turn} {op : Operation} {result : Except Error Value} {turns : List Turn} {ops : List Operation}
      {results : List (Except Error Value)} (performs : t.action.Performs t.world op) (reports : t.Reports result)
      (rest : Come turns ops results) : Come (t :: turns) (op :: ops) (result :: results)

/-- The operations are known from the actions and their worlds. -/
theorem Turn.Come.operations_eq {turns : List Turn} {ops : List Operation} {results : List (Except Error Value)}
    (come : Turn.Come turns ops results) :
    ops = (turns.map fun t => (t.action, t.world)).filterMap fun command =>
      (command.1.prepare command.2).1.toOption := by
  induction come with
  | done => rfl
  | keyless lacks _ ih => simp [lacks.prepare_eq, Except.toOption, ih]
  | ran performs _ _ ih => simp [performs.prepare_eq, Except.toOption, ih]

namespace CommandLine.Action

variable {action : Action}

theorem conclude_reports (action : Action) (device : String) (w : World) (result : Except Error Value) (t : Trace) :
    Turn.Reports ⟨device, action, w, action.conclude device result, t⟩ result := by
  cases result with
  | error e =>
    refine ⟨iff_of_true rfl (.inl ⟨e, rfl⟩), fun e' same => ?_⟩
    cases same
    exact ⟨_, rfl, rfl, (action.doing device).toList, rfl⟩
  | ok value =>
    refine ⟨?_, nofun⟩
    dsimp only [conclude]
    split
    · next flags =>
      cases supported : flags.supported <;> simp [supported]
    · next noStatus =>
      refine iff_of_false nofun ?_
      rintro (⟨_, same⟩ | ⟨rfl, flags, same, -⟩)
      · cases same
      · cases same
        exact noStatus flags rfl rfl

/-- A failed action has printed nothing, unless it is a status report. -/
theorem conclude_silent {device : String} {result : Except Error Value}
    (failed : (action.conclude device result).failure.isSome)
    (loud : action ≠ .status) : (action.conclude device result).stdout = "" := by
  unfold conclude at failed ⊢
  cases result with
  | error => rfl
  | ok value =>
    dsimp only at failed ⊢
    split at failed
    · exact absurd rfl loud
    · cases failed

end CommandLine.Action

theorem SimulatedDrive.takeTurns_commands (d : SimulatedDrive) (device : String) (commands : List (Action × World)) :
    (d.takeTurns device commands).1.map (fun t => (t.action, t.world)) = commands := by
  induction commands generalizing d with
  | nil => rfl
  | cons command commands ih => exact congrArg (command :: ·) (ih _)

/-- The commands on one drive do to it what their operations do, and each that gets as far as its operation reports what
came of it. -/
theorem SimulatedDrive.takeTurns_comes {d : SimulatedDrive} {device : String} (named : d.name = device)
    (commands : List (Action × World)) :
    ∃ ops, (d.takeTurns device commands).2 = (d.runAll ops).2 ∧
      Turn.Come (d.takeTurns device commands).1 ops (d.runAll ops).1 := by
  induction commands generalizing d with
  | nil => exact ⟨[], rfl, .done⟩
  | cons command commands ih =>
    obtain ⟨action, w⟩ := command
    rcases action.performs_or_lacks w with ⟨op, performs⟩ | ⟨why, lacks⟩
    · have ran := CommandLine.Action.run_of_operation drive d device performs.prepare_eq
      obtain ⟨ops, left, come⟩ := ih ((d.run_name op).trans named)
      subst named
      refine ⟨op :: ops, ?_⟩
      simp only [takeTurns, ran, runAll]
      exact ⟨left, .ran performs (CommandLine.Action.conclude_reports _ _ _ _ _) come⟩
    · have ended := CommandLine.Action.run_of_unreadable drive d device lacks.prepare_eq
      obtain ⟨ops, left, come⟩ := ih named
      refine ⟨ops, ?_⟩
      simp only [takeTurns, ended]
      exact ⟨left, .keyless lacks come⟩

namespace Fleet

/-- What is told of a turn comes of running its action on some drive. -/
theorem exists_run_of_mem {f : Fleet} {lines : List (List String × World)} {t : Turn} (mem : t ∈ (f.runLines lines).1) :
    ∃ d : SimulatedDrive, let run := t.action.run SimulatedDrive.drive d t.device t.world
      t.outcome = run.outcome ∧ t.trace = run.trace := by
  induction lines generalizing f with
  | nil => cases mem
  | cons line lines ih =>
    obtain here | later := List.mem_append.1 mem
    · obtain ⟨words, w⟩ := line
      dsimp only [runLine] at here
      split at here
      · cases List.mem_singleton.1 here
        exact ⟨f.get _, rfl, rfl⟩
      · cases here
      · cases here
    · exact ih later

end Fleet

theorem filterMap_congr_of_filter {α β : Type} {f : α → Option β} {l l' : List α}
    (same : l.filter (fun a => (f a).isSome) = l'.filter fun a => (f a).isSome) : l.filterMap f = l'.filterMap f := by
  have only : ∀ l : List α, (l.filter fun a => (f a).isSome).filterMap f = l.filterMap f := by
    intro l
    rw [List.filterMap_filter]
    congr 1
    funext a
    cases f a <;> rfl
  rw [← only l, same, only]

/-- A sequence of command lines leaves each drive as its own operations leave it, run on it alone from the factory on:
those of the commands that name it and get their keys, in order. What these commands report is what came of their
operations. One that does not get a key touches nothing; one that fails prints nothing, a status report apart. Command
lines that do not name the device make no difference. -/
theorem command_sequence_refines (lines : List (List String × World)) (device : String) :
    let ran := Fleet.runLines [] lines
    let mine := ran.1.filter (·.device = device)
    Fleet.fresh device = { SimulatedDrive.new device with
        config := { (SimulatedDrive.new device).config with
          supported := "/dev/nvme".toList.isPrefixOf device.toList } } ∧
      mine.map (fun t => (t.action, t.world)) = lines.filterMap (commandOn? device) ∧
      (∃ ops, ran.2.get device = ((Fleet.fresh device).runAll ops).2 ∧
        Turn.Come mine ops ((Fleet.fresh device).runAll ops).1) ∧
      (∀ t ∈ ran.1, ∀ why, t.action.Lacks t.world why → t.outcome = { failure := some (.key why) } ∧ t.trace = []) ∧
      (∀ t ∈ ran.1, t.outcome.failure.isSome → t.action ≠ .status → t.outcome.stdout = "") ∧
      ∀ others : List (List String × World),
        others.filter (fun line => (commandOn? device line).isSome) =
          lines.filter (fun line => (commandOn? device line).isSome) →
        let other := Fleet.runLines [] others
        other.2.get device = ran.2.get device ∧ other.1.filter (·.device = device) = mine := by
  intro ran mine
  obtain ⟨turns, left⟩ := Fleet.runLines_on [] device lines
  have named : (Fleet.fresh device).name = device := by
    rw [Fleet.fresh_eq]
    rfl
  obtain ⟨ops, drives, come⟩ := SimulatedDrive.takeTurns_comes named (lines.filterMap (commandOn? device))
  refine ⟨Fleet.fresh_eq device, ?_, ⟨ops, left.trans drives, ?_⟩, ?_, ?_, ?_⟩
  · exact (congrArg _ turns).trans (SimulatedDrive.takeTurns_commands _ _ _)
  · rw [show mine = _ from turns]
    exact come
  · intro t mem why lacks
    obtain ⟨d, outcome, trace⟩ := Fleet.exists_run_of_mem mem
    rw [outcome, trace, CommandLine.Action.run_of_unreadable _ _ _ lacks.prepare_eq]
    exact ⟨rfl, rfl⟩
  · intro t mem failed loud
    obtain ⟨d, outcome, -⟩ := Fleet.exists_run_of_mem mem
    rw [outcome] at failed ⊢
    rcases t.action.performs_or_lacks t.world with ⟨op, performs⟩ | ⟨why, lacks⟩
    · rw [CommandLine.Action.run_of_operation _ _ _ performs.prepare_eq] at failed ⊢
      exact CommandLine.Action.conclude_silent failed loud
    · rw [CommandLine.Action.run_of_unreadable _ _ _ lacks.prepare_eq]
  · intro others same other
    obtain ⟨turns', left'⟩ := Fleet.runLines_on [] device others
    rw [filterMap_congr_of_filter same] at turns' left'
    exact ⟨left'.trans left.symm, turns'.trans turns.symm⟩

/-- A range is set up with its key from the standard input, and locked again. In between an unlock finds no key, and
another device is looked at. -/
theorem command_sequence_refines_two :
    let w : World := { entry := fun _ => .absent .noSuchEntry, environment := fun _ => none, stdin := .ok [49, 10] }
    let setup := (["sed-range", "setup", "/dev/nvme0", "-s", "1", "--start", "0", "--length", "8", "--key", "-",
      "--admin-key", "2"], w)
    let unlock := (["sed-range", "unlock", "/dev/nvme0", "-s", "1"], w)
    let status := (["sed-range", "status", "/dev/sda"], w)
    let lock := (["sed-range", "lock", "/dev/nvme0", "-s", "1"], w)
    let ran := Fleet.runLines [] [setup, unlock, status, lock]
    let mine := ran.1.filter (·.device = "/dev/nvme0")
    let alone := (SimulatedDrive.new "/dev/nvme0").runAll [.setup ⟨1, 0, 8, [49], [50]⟩, .lock 1]
    ran.2.get "/dev/nvme0" = alone.2 ∧ Turn.Come mine [.setup ⟨1, 0, 8, [49], [50]⟩, .lock 1] alone.1 ∧
      (∃ t ∈ ran.1, t.outcome = { failure := some (.key (.missing keyVariable)) } ∧ t.trace = []) ∧
      (∃ t ∈ ran.1, t.outcome.failure.isSome ∧ t.outcome.stdout = "") ∧
      (Fleet.runLines [] [setup, unlock, lock]).2.get "/dev/nvme0" = ran.2.get "/dev/nvme0" := by
  intro w setup unlock status lock ran mine alone
  obtain ⟨-, commands, ⟨ops, left, come⟩, unread, silent, influence⟩ :=
    command_sequence_refines [setup, unlock, status, lock] "/dev/nvme0"
  have ops_eq : ops = [.setup ⟨1, 0, 8, [49], [50]⟩, .lock 1] := by
    rw [come.operations_eq, commands]
    decide +kernel
  subst ops_eq
  have keyless : ran.1.any fun t => (t.action.prepare t.world).1 = .error (.missing keyVariable) := by decide +kernel
  have refused : ran.1.any fun t => t.outcome.failure.isSome && t.action = .lock 1 := by decide +kernel
  obtain ⟨unlocked, mem, missing⟩ := List.any_eq_true.1 keyless
  obtain ⟨locked, mem', failed⟩ := List.any_eq_true.1 refused
  obtain ⟨failed, action⟩ := Bool.and_eq_true_iff.1 failed
  have loud : locked.action ≠ .status := by
    rw [of_decide_eq_true action]
    decide
  have lacks := CommandLine.Action.prepare_eq_error_iff.1 (of_decide_eq_true missing)
  refine ⟨left, come, ⟨unlocked, mem, unread _ mem _ lacks⟩,
    ⟨locked, mem', failed, silent _ mem' failed loud⟩, (influence [setup, unlock, lock] ?_).1⟩
  have here : (commandOn? "/dev/nvme0" status).isSome = false := by decide +kernel
  simp only [List.filter_cons, here]
  rfl

end OpalLocking
