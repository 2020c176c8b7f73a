/-
A simulated self-encrypting drive.

Each call is remembered first. Then the oldest status queued for its kind answers it, if there is one; a
drive without a control interface refuses it; and only otherwise does the call reach the vault. So a queued
status, even a success, changes nothing and fills no reading.
-/
import OpalLocking.Drive
import OpalLocking.Operation
import OpalLocking.Simulator.CallRecord
import OpalLocking.Simulator.Queue
import OpalLocking.Simulator.Vault

namespace OpalLocking

open Simulator in
/-- A simulated drive with everything that later answers depend on. -/
structure SimulatedDrive where
  name : String
  config : Config
  vault : Vault := {}
  queue : Queue := []
  /-- All calls so far, the oldest first. -/
  calls : List CallRecord := []
deriving DecidableEq, Repr

namespace SimulatedDrive

open Simulator

/-- The PSID that simulated drives ship with. -/
def defaultPsid : Secret :=
  "SIMULATEDPSID0123456789ABCDEFGHI".toList.map fun c => c.toUInt8

/-- A drive as it leaves the factory, with blocks of 512 bytes. -/
def new (name : String) : SimulatedDrive :=
  { name
    config :=
      { supported := true
        psid := defaultPsid
        geometry := { align := 0, blockSize := 512, granularity := 1, lowest := 0 } } }

/-- A drive that has no control interface. -/
def unsupported (name : String) : SimulatedDrive :=
  let d := new name
  { d with config := { d.config with supported := false } }

def withBlockSize (d : SimulatedDrive) (bytes : UInt32) : SimulatedDrive :=
  { d with config.geometry.blockSize := bytes }

/-- Reports a granularity and silently rounds the bounds of ranges down to it. -/
def withGranularity (d : SimulatedDrive) (blocks : UInt64) : SimulatedDrive :=
  { d with
    config := { d.config with
      geometry := { d.config.geometry with align := 1, granularity := blocks }
      rounding := blocks } }

def withPsid (d : SimulatedDrive) (psid : Secret) : SimulatedDrive :=
  { d with config.psid := psid }

/-! ## Answering -/

/-- A drive that is switched so refuses to be opened; opening changes nothing. -/
def opening (d : SimulatedDrive) : Except OpenFailure Unit × SimulatedDrive :=
  (if d.config.failOpen then .error .refused else .ok (), d)

/-- The answer to one request, and the drive that it leaves. -/
def answer (d : SimulatedDrive) (r : Request) : Answer r × SimulatedDrive :=
  let d := { d with calls := d.calls ++ [CallRecord.ofRequest r] }
  match d.queue.take? r.kind with
  | some (status, queue) => (⟨status, r.submitted⟩, { d with queue })
  | none =>
    if !d.config.supported then (⟨.ofErrno .notTypewriter, r.submitted⟩, d)
    else
      match d.vault.perform? d.config r with
      | some (answer, vault) => (answer, { d with vault })
      | none => (⟨.failure, r.submitted⟩, d)

/-- The simulated drive as a drive to run procedures against. -/
def drive : Drive SimulatedDrive :=
  { opening, answer }

/-- Runs an operation against the drive. -/
def run (d : SimulatedDrive) (op : Operation) : Run SimulatedDrive Value :=
  (op.procedure d.name).run drive d

end SimulatedDrive

end OpalLocking
