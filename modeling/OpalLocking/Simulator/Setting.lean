/-
Settings of a simulated drive that no control call makes: switches, queued statuses and states that would
otherwise take many calls to reach.
-/
import OpalLocking.Simulator.Basic

namespace OpalLocking

namespace SimulatedDrive

open Simulator

/-- Makes a later call of this kind answer `status`. -/
def inject (d : SimulatedDrive) (kind : CallKind) (status : Status) : SimulatedDrive :=
  { d with queue := d.queue.push kind status }

def failOpen (d : SimulatedDrive) (on : Bool) : SimulatedDrive :=
  { d with config.failOpen := on }

def ignoreLocks (d : SimulatedDrive) (on : Bool) : SimulatedDrive :=
  { d with config.ignoreLocks := on }

/-- Owned, but with the locking provider not activated by this. -/
def forceOwner (d : SimulatedDrive) (owner : Secret) : SimulatedDrive :=
  { d with vault.owner := some owner }

/-- Owned and activated, with one key for the owner and Admin1. -/
def forceOwned (d : SimulatedDrive) (admin : Secret) : SimulatedDrive :=
  { d with vault := { d.vault with owner := some admin, admin := some admin, lockingEnabled := true } }

/-- Enables a user with a password. Locking is enabled first; a number outside the user table then has no
user to set, which is told by `none`. -/
def forceUser (d : SimulatedDrive) (who : UInt32) (password : Secret) : Option Unit × SimulatedDrive :=
  let vault := { d.vault with lockingEnabled := true }
  match modify? vault.users who.toNat fun _ => { enabled := true, password := some password } with
  | some users => (some (), { d with vault := { vault with users } })
  | none => (none, { d with vault })

/-- Configures a range, which reads as unlocked afterwards; a range that does not exist is left alone. -/
def forceRange (d : SimulatedDrive) (range : UInt8) (start length : UInt64) (enabled : Bool) :
    SimulatedDrive :=
  let configured := modify? d.vault.ranges range.toNat fun r =>
    { r with
      snapshot := { r.snapshot with
        start
        length
        readLockEnabled := enabled
        writeLockEnabled := enabled
        state := LockState.readWrite.word } }
  match configured with
  | some ranges => { d with vault.ranges := ranges }
  | none => d

def clearCalls (d : SimulatedDrive) : SimulatedDrive :=
  { d with calls := [] }

/-! ## Views -/

/-- What can be seen of a range; one that does not exist looks untouched. -/
def snapshot (d : SimulatedDrive) (range : UInt8) : Snapshot :=
  (d.vault.ranges[range.toNat]?.map (·.snapshot)).getD {}

def isOwned (d : SimulatedDrive) : Bool :=
  d.vault.owner.isSome

/-- The calls beyond the first `seen`; all of them if there are fewer than that. -/
def callsSince (d : SimulatedDrive) (seen : Nat) : List CallRecord :=
  if d.calls.length < seen then d.calls else d.calls.drop seen

end SimulatedDrive

end OpalLocking
