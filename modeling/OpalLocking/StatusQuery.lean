/-
Reading the feature word and the geometry of a drive.

The feature word is used whenever the call reached the drive, whatever method status came with it; the
geometry only after a success, and never with a block size of zero.
-/
import OpalLocking.Geometry
import OpalLocking.Session

namespace OpalLocking

/-! ## The feature word -/

namespace StatusFlags

/-- Whether all of `bits` are set. -/
def has (f : StatusFlags) (bits : UInt32) : Bool :=
  f.word &&& bits = bits

/-- Drives set the two bits for the feature and its locking inconsistently, so either one counts. -/
def supported (f : StatusFlags) : Bool :=
  f.word &&& 0x03 ≠ 0

/-- The drive was taken over and its locking provider activated at some point. -/
def lockingEnabled (f : StatusFlags) : Bool :=
  f.has 0x04

def locked (f : StatusFlags) : Bool :=
  f.has 0x08

def mbrEnabled (f : StatusFlags) : Bool :=
  f.has 0x10

def mbrDone (f : StatusFlags) : Bool :=
  f.has 0x20

/-- Whether single user mode is supported. -/
def singleUserSupported (f : StatusFlags) : Bool :=
  f.has 0x40

end StatusFlags

/-! ## Queries -/

/-- Reads the feature word on an open drive. -/
def queryFlags (device : String) : Procedure StatusFlags := do
  let answer ← .submit (.getStatus default)
  if answer.status.classify = .system then
    .record .debug .query s!"OPAL status query failed on device '{device}': {answer.status.text}"
    .fail (.queryFailed .status device answer.status)
  else
    return answer.reading

/-- Reads the geometry on an open drive. -/
def queryGeometry (device : String) : Procedure Geometry := do
  let answer ← .submit (.getGeometry default)
  if !answer.status.isSuccess then
    .record .debug .query s!"OPAL geometry query failed on device '{device}': {answer.status.text}"
    .fail (.queryFailed .geometry device answer.status)
  else if answer.reading.blockSize = 0 then
    .fail (.zeroBlockSize device)
  else
    return .ofReading answer.reading

/-- The feature word of a drive. -/
def readFlags (device : String) : Procedure StatusFlags := do
  openDevice device
  queryFlags device

/-- Whether a drive advertises locking. -/
def readSupported (device : String) : Procedure Bool := do
  return (← readFlags device).supported

/-- Whether locking was ever enabled on a drive. -/
def readLockingEnabled (device : String) : Procedure Bool := do
  return (← readFlags device).lockingEnabled

/-- The geometry of a drive. -/
def readGeometry (device : String) : Procedure Geometry := do
  openDevice device
  queryGeometry device

end OpalLocking
