/-
Destroying data: erasing one range, and reverting a whole drive.

A range is erased as Admin1. The plain erase also disables the range; when it is refused, the secure erase
is tried, which leaves the range configured, so a range reset in that way is disabled by a call of its own.
-/
import OpalLocking.Arguments
import OpalLocking.StatusQuery

namespace OpalLocking

/-- Which erase wiped a range. -/
inductive Erasure
  /-- Also disables the range. -/
  | plain
  /-- Leaves the range configured. -/
  | secure
deriving DecidableEq, Repr

def Erasure.name : Erasure → String
  | .plain => "Plain"
  | .secure => "Secure"

/-- Erases a range on an open drive, in whichever way the drive accepts. -/
def eraseRange (device : String) (segment : UInt32) (session : Session) : Procedure Erasure := do
  let plain ← .submit (.eraseRange session)
  if plain.status.isSuccess then
    return .plain
  else
    .record .debug .reset
      s!"Failed to reset (erase) OPAL locking range {segment.toNat} on device '{device}': {plain.status.text}"
    let secure ← .submit (.secureEraseRange session)
    if !secure.status.isSuccess then
      .record .debug .reset
        s!"Failed to reset (secure erase) OPAL locking range {segment.toNat} on device '{device}': {secure.status.text}"
    expect (.erase segment) device secure.status
    return .secure

/-- A session of Admin1 about a range. -/
def adminSession (range : UInt8) (adminKey : Secret) : Session :=
  .opening Authority.admin1.who range adminKey

/-- Sets both bounds of a range to zero and clears its lock enables, on an open drive. -/
def disableRange (device : String) (segment : UInt32) (adminPassword : Secret) : Procedure Unit :=
  .withBuffer do
    let session := adminSession segment.toUInt8 adminPassword
    let answer ← .submit (.setupRange { start := 0, length := 0, readLock := 0, writeLock := 0, session })
    expect (.disable segment) device answer.status

/-- Wipes a range and leaves it disabled, on an open drive. Locking must already be enabled on it. -/
def resetSegmentOpened (device : String) (segment : UInt32) (adminPassword : Secret) : Procedure Unit := do
  let flags ← queryFlags device
  if !flags.lockingEnabled then
    .fail (.lockingNotEnabled device)
  else .withBuffer do
    let erasure ← eraseRange device segment (adminSession segment.toUInt8 adminPassword)
    if erasure = .secure then
      disableRange device segment adminPassword
    .record .info .reset s!"OPAL locking range {segment.toNat} on '{device}' reset"

/-- Wipes a range and leaves it disabled. -/
def resetSegment (device : String) (segment : UInt32) (adminPassword : Secret) : Procedure Unit := do
  checkKey .adminPassword adminPassword
  checkSegment segment
  openDevice device
  resetSegmentOpened device segment adminPassword

/-- Reverts an open drive to its factory state. -/
def factoryResetOpened (device : String) (psid : Secret) : Procedure Unit := do
  let answer ← .withBuffer (.submit (.psidRevert (.fill 0 psid)))
  if answer.status.classify = .notAuthorized then
    .record .debug .reset s!"Failed to reset OPAL device '{device}', incorrect PSID?"
    .fail (.psidRefused device)
  else
    expectEntry .revert device answer.status
    .record .info .reset s!"OPAL device '{device}' reverted to factory state"

/-- Reverts a drive to its factory state with the PSID printed on its label. -/
def factoryReset (device : String) (psid : Secret) : Procedure Unit := do
  checkKey .psid psid
  openDevice device
  factoryResetOpened device psid

end OpalLocking
