/-
Locking and unlocking a range as its user.

An unlock brings the user's key; a lock brings none, since the kernel reuses the key it kept at the last
unlock. After an unlock the kernel is asked to keep the key: a range that could not be prepared in this
way is still unlocked, so that request never decides the result.
-/
import OpalLocking.Arguments
import OpalLocking.StatusQuery

namespace OpalLocking

/-- An unlock needs a key of accepted length, and a lock takes none. -/
def checkLockKey (locked : Bool) (key : Option Secret) : Except Error Unit :=
  match locked, key with
  | false, none => .error .unlockWithoutKey
  | false, some key => checkKey .user key
  | true, some _ => .error .lockWithKey
  | true, none => .ok ()

/-- Whether the open drive supports locking; one whose feature word cannot be read does not. -/
def probeSupport (device : String) : Procedure Bool := do
  match ← (queryFlags device).attempt with
  | .ok flags => return flags.supported
  | .error e => if e.kind = .invalid then return false else .fail e

/-- The block that asks for a lock state as the user of a range, with its key or without one. -/
def lockRequest (segment : UInt32) (state : LockState) (key : Option Secret) : LockRequest :=
  let block := match key with
    | some key => KeyBlock.fill segment.toUInt8 key
    | none => { KeyBlock.blank with range := segment.toUInt8 }
  { session := { singleUser := 0, who := (Authority.ofSegment segment).who, key := block }
    state := state.word
    flags := 0 }

/-- Asks the kernel to keep the key of an accepted request, and tells the log how that went. -/
def saveForResume (device : String) (segment : UInt32) (request : LockRequest) : Procedure Unit := do
  let answer ← .submit (.saveForResume { request with flags := saveForLock })
  if answer.status.isSuccess then
    .record .debug .locking s!"OPAL range {segment.toNat} key saved for resume and locking"
  else
    .record .warn .locking
      s!"Failed to prepare OPAL device '{device}' for sleep resume, be aware before suspending: {answer.status.text}"

/-- Locks or unlocks a range as its user, on an open drive. -/
def setLockOpened (device : String) (segment : UInt32) (locked : Bool) (key : Option Secret) :
    Procedure Unit := do
  if !(← probeSupport device) then
    .fail (.unsupportedByDevice device)
  else .withBuffer do
    let request := lockRequest segment (if locked then .locked else .readWrite) key
    let answer ← .submit (.lockUnlock request)
    expectEntry (if locked then .lock segment else .unlock segment) device answer.status
    if !locked then
      saveForResume device segment request
    let verb := if locked then "locked" else "unlocked"
    .record .info .locking s!"OPAL locking range {segment.toNat} on '{device}' {verb}"

/-- Locks or unlocks a range as its user. -/
def setLock (device : String) (segment : UInt32) (locked : Bool) (key : Option Secret) : Procedure Unit := do
  checkSegment segment
  checkLockKey locked key
  openDevice device
  setLockOpened device segment locked key

/-- Locks a range with the key kept at its last unlock. -/
def lock (device : String) (segment : UInt32) : Procedure Unit :=
  setLock device segment true none

/-- Unlocks a range with its user's key. -/
def unlock (device : String) (segment : UInt32) (key : Secret) : Procedure Unit :=
  setLock device segment false (some key)

end OpalLocking
