/-
Creating a locking range and leaving it locked.

A drive whose locking was never enabled is taken over first; on a drive in use the range is wiped before
it is configured anew. Either plan then creates the range's user, configures the range, locks it and reads
it back. The steps run in order and the first failure ends the run: nothing is rolled back.
-/
import OpalLocking.RangeLock
import OpalLocking.Reset
import OpalLocking.Verification

namespace OpalLocking

/-- One step of provisioning a range. -/
inductive SetupStep
  /-- Installs the admin key as the owner's key of the drive. -/
  | takeOwnership
  /-- Activates the locking provider with ranges 1 to 8. -/
  | activateLockingSp
  /-- Wipes the range on a drive that is in use. -/
  | eraseRange
  | activateUser
  | grantReadOnly
  | grantReadWrite
  | setUserPassword
  | configureRange
  | lockRange
  | verify
deriving DecidableEq, Repr

namespace SetupStep

def name : SetupStep → String
  | .takeOwnership => "TakeOwnership"
  | .activateLockingSp => "ActivateLockingSp"
  | .eraseRange => "EraseRange"
  | .activateUser => "ActivateUser"
  | .grantReadOnly => "GrantReadOnly"
  | .grantReadWrite => "GrantReadWrite"
  | .setUserPassword => "SetUserPassword"
  | .configureRange => "ConfigureRange"
  | .lockRange => "LockRange"
  | .verify => "Verify"

/-- The steps that both plans end with. -/
def shared : List SetupStep := [
  .activateUser, .grantReadOnly, .grantReadWrite, .setUserPassword, .configureRange, .lockRange, .verify]

/-- The steps for a drive whose locking was enabled, or never was. -/
def plan (lockingEnabled : Bool) : List SetupStep :=
  if lockingEnabled then .eraseRange :: shared
  else .takeOwnership :: .activateLockingSp :: shared

end SetupStep

/-- What a range is to become, with the keys that it takes. -/
structure Provision where
  segment : UInt32
  /-- The bounds in sectors. -/
  start : UInt64
  length : UInt64
  volumeKey : Secret
  adminKey : Secret
deriving DecidableEq, Repr

/-- The bounds of a range in the native blocks of its drive. -/
structure BlockBounds where
  start : UInt64
  length : UInt64
deriving DecidableEq, Repr

namespace Provision

/-- The user that the range will belong to. -/
def user (p : Provision) : Authority :=
  .ofSegment p.segment

/-- The number of the range as a block carries it. -/
def range (p : Provision) : UInt8 :=
  p.segment.toUInt8

/-- What is checked before the drive is opened. -/
def check (p : Provision) : Except Error Unit := do
  checkKey .admin p.adminKey
  checkKey .volume p.volumeKey
  checkSegment p.segment
  if p.length = 0 then .error .zeroLength else .ok ()

/-- The bounds in blocks, if both are whole numbers of blocks. -/
def blockBounds (p : Provision) (g : Geometry) : Except Error BlockBounds :=
  match g.sectorsToBlocks p.start, g.sectorsToBlocks p.length with
  | none, _ => .error (.notWholeBlocks .offset p.start g.blockSize)
  | some _, none => .error (.notWholeBlocks .length p.length g.blockSize)
  | some start, some length => .ok { start, length }

/-- The list of ranges 1 to 8 that activation asks for. -/
def activation (p : Provision) : Activation :=
  { key := .fill 0 p.adminKey
    singleUser := 0
    count := 8
    ranges := #v[1, 2, 3, 4, 5, 6, 7, 8, 0] }

/-- The block that grants the range's user access to its lock, with Admin1's key. -/
def grant (p : Provision) (state : LockState) : LockRequest :=
  { session := .opening p.user.who p.range p.adminKey
    state := state.word
    flags := 0 }

/-- The block that sets the password of the range's user. -/
def passwordChange (p : Provision) : NewPassword :=
  { session := adminSession p.range p.adminKey
    user := .opening p.user.who p.range p.volumeKey }

/-- The block that configures the range. Some drives leave new ranges with locking disabled, and then
acknowledge a lock without locking anything, so both enables are set. -/
def setup (p : Provision) (bounds : BlockBounds) : RangeSetup :=
  { start := bounds.start
    length := bounds.length
    readLock := 1
    writeLock := 1
    session := adminSession p.range p.adminKey }

/-- Runs one step on an open drive. -/
def run (p : Provision) (device : String) (bounds : BlockBounds) : SetupStep → Procedure Unit
  | .takeOwnership => .withBuffer do
    let answer ← .submit (.takeOwnership (.fill 0 p.adminKey))
    expectEntry .takeOwnership device answer.status
  | .activateLockingSp => .withBuffer do
    let answer ← .submit (.activateLsp p.activation)
    expect .activateLockingSp device answer.status
  | .eraseRange => .withBuffer do
    let erasure ← OpalLocking.eraseRange device p.segment (adminSession p.range p.adminKey)
    .record .debug .provisioning s!"OPAL locking range {p.segment.toNat} wiped ({erasure.name} erase)"
  | .activateUser => .withBuffer do
    let answer ← .submit (.activateUser (.opening p.user.who 0 p.adminKey))
    expect (.activateUser p.user) device answer.status
  | .grantReadOnly => .withBuffer do
    let answer ← .submit (.addUserToRange (p.grant .readOnly))
    expect (.grantRead p.user p.segment) device answer.status
  | .grantReadWrite => .withBuffer do
    let answer ← .submit (.addUserToRange (p.grant .readWrite))
    expect (.grantWrite p.user p.segment) device answer.status
  | .setUserPassword => do
    .record .debug .provisioning s!"User authority key length: {p.volumeKey.length}"
    .withBuffer do
      let answer ← .submit (.setPassword p.passwordChange)
      expect .setUserPassword device answer.status
  | .configureRange => .withBuffer do
    let answer ← .submit (.setupRange (p.setup bounds))
    expect (.configure bounds.start bounds.length) device answer.status
  | .lockRange => .withBuffer do
    let answer ← .submit (.lockUnlock (lockRequest p.segment .locked (some p.volumeKey)))
    expect (.lock p.segment) device answer.status
  | .verify => do
    let _ ← verifyOpened device p.segment p.volumeKey (.lockedRange p.start p.length)

/-- Runs steps in order, each announced to the log, until one fails. -/
def runAll (p : Provision) (device : String) (bounds : BlockBounds) : List SetupStep → Procedure Unit
  | [] => pure ()
  | step :: rest => do
    .record .debug .provisioning s!"OPAL setup of range {p.segment.toNat} on '{device}': {step.name}"
    p.run device bounds step
    p.runAll device bounds rest

end Provision

/-- Creates a range as provided, on an open drive. -/
def setupOpened (device : String) (p : Provision) : Procedure Unit := do
  let flags ← queryFlags device
  let geometry ← queryGeometry device
  let bounds ← (p.blockBounds geometry : Except Error BlockBounds)
  p.runAll device bounds (SetupStep.plan flags.lockingEnabled)
  .record .info .provisioning s!"OPAL locking range {p.segment.toNat} on '{device}' provisioned and locked"

/-- Creates a range as provided and leaves it locked under its volume key. -/
def setupRange (device : String) (p : Provision) : Procedure Unit := do
  p.check
  openDevice device
  setupOpened device p

end OpalLocking
