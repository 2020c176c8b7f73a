/-
Reading a locking range back and comparing it with what it should be.

Every expectation that is not met is reported, all at once and in a fixed order. A range whose lock
enables are not both set is reported whatever was expected, since locking it locks nothing.
-/
import OpalLocking.Arguments
import OpalLocking.StatusQuery

namespace OpalLocking

/-- What a range is expected to report, in sectors; nothing is checked where nothing is expected. -/
structure Expectations where
  offset : Option UInt64 := none
  length : Option UInt64 := none
  readLocked : Option Bool := none
  writeLocked : Option Bool := none
deriving DecidableEq, Repr

/-- A range at these bounds that is fully locked. -/
def Expectations.lockedRange (offset length : UInt64) : Expectations :=
  { offset, length, readLocked := true, writeLocked := true }

/-- What a range reports, in sectors. -/
structure Attributes where
  offset : UInt64
  length : UInt64
  readLockEnabled : Bool
  writeLockEnabled : Bool
  /-- The state of the lock, if the drive reports a defined one. -/
  state : Option LockState
  readLocked : Bool
  writeLocked : Bool
deriving DecidableEq, Repr

namespace Attributes

/-- Reads are locked in the locked state only; writes when any bit but read-write is set. -/
def ofReading (g : Geometry) (r : RangeReading) : Attributes :=
  { offset := g.blocksToSectors r.start
    length := g.blocksToSectors r.length
    readLockEnabled := r.readLock ≠ 0
    writeLockEnabled := r.writeLock ≠ 0
    state := LockState.ofWord? r.state
    readLocked := r.state = LockState.locked.word
    writeLocked := r.state &&& (LockState.readOnly.word ||| LockState.locked.word) ≠ 0 }

/-- The single mismatch of an attribute whose expected value, if any, differs. -/
def compare {α : Type} [DecidableEq α] (describe : α → α → Mismatch) (actual : α) :
    Option α → List Mismatch
  | none => []
  | some expected => if actual = expected then [] else [describe actual expected]

/-- Every way in which the attributes differ from what is wanted. -/
def mismatches (a : Attributes) (want : Expectations) : List Mismatch :=
  compare .offset a.offset want.offset
    ++ compare .length a.length want.length
    ++ (if a.readLockEnabled && a.writeLockEnabled then []
        else [.lockingDisabled a.readLockEnabled a.writeLockEnabled])
    ++ compare .readLock a.readLocked want.readLocked
    ++ compare .writeLock a.writeLocked want.writeLocked

end Attributes

/-- Tells the log about one mismatch of a range. -/
def reportMismatch (segment : UInt32) (m : Mismatch) : Procedure Unit := do
  if m.isLockState then
    .record .debug .verification s!"OPAL range {segment.toNat} {m.text}."
    .record .error .verification s!"Unexpected OPAL range {segment.toNat} lock state."
  else
    .record .error .verification s!"OPAL range {segment.toNat} {m.text}."

/-- Tells the log about mismatches, one after the other. -/
def reportMismatches (segment : UInt32) : List Mismatch → Procedure Unit
  | [] => pure ()
  | m :: rest => do
    reportMismatch segment m
    reportMismatches segment rest

/-- Reads a range as its user, on an open drive. -/
def readRange (device : String) (segment : UInt32) (key : Secret) : Procedure RangeReading :=
  .withBuffer do
    let session := Session.opening (Authority.ofSegment segment).who segment.toUInt8 key
    let answer ← .submit (.getRangeStatus session default)
    if !answer.status.isSuccess then
      .record .debug .verification s!"Failed to get locking range status on device '{device}'."
    expect (.readRange segment) device answer.status
    return answer.reading

/-- Compares a range with what is wanted, on an open drive. -/
def verifyOpened (device : String) (segment : UInt32) (key : Secret) (want : Expectations) :
    Procedure Attributes := do
  let geometry ← queryGeometry device
  let reading ← readRange device segment key
  let attributes := Attributes.ofReading geometry reading
  let mismatches := attributes.mismatches want
  if mismatches.isEmpty then
    return attributes
  else
    reportMismatches segment mismatches
    .fail (.mismatch segment mismatches)

/-- Reads a range back as its user and compares it with what is wanted. -/
def verify (device : String) (segment : UInt32) (key : Secret) (want : Expectations) :
    Procedure Attributes := do
  checkKey .user key
  checkSegment segment
  openDevice device
  verifyOpened device segment key want

end OpalLocking
