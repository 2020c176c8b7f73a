/-
Simulated drives by the names of their devices.

A drive comes into being when its name is first used, fresh from the factory. Only names that look like
those of NVMe drives stand for drives with locking support.
-/
import OpalLocking.CommandRun
import OpalLocking.Simulator.Basic

namespace OpalLocking

open CommandLine (Command)

/-- The drives that have been named so far. -/
abbrev Fleet := List (String × SimulatedDrive)

namespace Fleet

/-- The drive that a name stands for before anything is done to it. -/
def fresh (device : String) : SimulatedDrive :=
  if "/dev/nvme".toList.isPrefixOf device.toList then .new device else .unsupported device

/-- The drive behind a name. -/
def get (f : Fleet) (device : String) : SimulatedDrive :=
  (f.lookup device).getD (fresh device)

/-- The fleet with the drive behind a name replaced. -/
def set (f : Fleet) (device : String) (d : SimulatedDrive) : Fleet :=
  (device, d) :: f.filter (·.1 ≠ device)

/-- Runs a command on the drive behind its device's name. -/
def run (f : Fleet) (command : Command) (w : World) : CommandRun Fleet :=
  match command with
  | .docs => { outcome := { stdout := Text.withoutControls docsText }, drive := f }
  | .act device action =>
    let run := action.run SimulatedDrive.drive (f.get device) device w
    { run with drive := f.set device run.drive }

end Fleet

end OpalLocking
