/-
Running commands: the keys are read first, then the operation is run on the device's drive, and its result
is reported.
-/
import OpalLocking.CommandLine.Help
import OpalLocking.Drive
import OpalLocking.Report

namespace OpalLocking

open CommandLine (HelpTopic)

/-- The variable that holds the key of a range. -/
def keyVariable : String := "SED_RANGE_KEY"

/-- The variable that holds the key of the owner and Admin1. -/
def adminKeyVariable : String := "SED_RANGE_ADMIN_KEY"

/-- The variable that holds the PSID of a drive. -/
def psidVariable : String := "SED_RANGE_PSID"

/-- Reads a key and goes on with it in the world that reading leaves. -/
def withKey {α : Type} (argument : Option String) (variableName : String) (w : World)
    (next : Secret → World → Except KeyFailure α × World) : Except KeyFailure α × World :=
  match KeySource.read argument variableName w with
  | (.ok key, w) => next key w
  | (.error why, w) => (.error why, w)

/-- A finished command: what came of it, the drive as it was left, and what happened on the way. -/
structure CommandRun (σ : Type) where
  outcome : Outcome
  drive : σ
  trace : Trace := []

namespace CommandLine.Action

/-- The operation of an action, once its keys are read. A setup reads the volume key first. -/
def prepare (action : Action) (w : World) : Except KeyFailure Operation × World :=
  match action with
  | .status => (.ok .flags, w)
  | .geometry => (.ok .geometry, w)
  | .setup segment start length key adminKey =>
    withKey key keyVariable w fun volumeKey w =>
      withKey adminKey adminKeyVariable w fun adminKey w =>
        (.ok (.setup { segment, start, length, volumeKey, adminKey }), w)
  | .lock segment => (.ok (.lock segment), w)
  | .unlock segment key =>
    withKey key keyVariable w fun key w => (.ok (.unlock segment key), w)
  | .check segment start length key =>
    withKey key keyVariable w fun key w =>
      (.ok (.verify segment key { offset := start, length := length }), w)
  | .factoryReset psid =>
    withKey psid psidVariable w fun psid w => (.ok (.factoryReset psid), w)
  | .resetSegment segment adminKey =>
    withKey adminKey adminKeyVariable w fun adminPassword w => (.ok (.resetSegment segment adminPassword), w)

/-- Runs an action on a drive. A key that cannot be read ends it before the drive is opened. -/
def run {σ : Type} (action : Action) (d : Drive σ) (s : σ) (device : String) (w : World)
    (memory : Memory := .plentiful) : CommandRun σ :=
  match (action.prepare w).1 with
  | .error why => { outcome := { failure := some (.key why) }, drive := s }
  | .ok operation =>
    let run := (operation.procedure device).run d s memory
    { outcome := action.conclude device run.result, drive := run.drive, trace := run.trace }

variable {σ : Type} {action : Action} {w : World}

theorem run_of_unreadable (d : Drive σ) (s : σ) (device : String) {why : KeyFailure}
    (unreadable : (action.prepare w).1 = .error why) :
    action.run d s device w = { outcome := { failure := some (.key why) }, drive := s } := by
  simp only [run, unreadable]

theorem run_of_operation (d : Drive σ) (s : σ) (device : String) {op : Operation}
    (readable : (action.prepare w).1 = .ok op) :
    let run := (op.procedure device).run d s
    action.run d s device w =
      { outcome := action.conclude device run.result, drive := run.drive, trace := run.trace } := by
  simp only [run, readable]

end CommandLine.Action

/-- The help that a command prints in place of running anything, painted. -/
def docsText : String := HelpTopic.program.render none ++ "\n"

end OpalLocking
