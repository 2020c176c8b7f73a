/-
The fourteen control calls.

A request is a call with its parameter block. Every call answers with a status; the three queries also
fill a reading, which they are handed first, so that a drive can leave it as submitted.
-/
import OpalLocking.Block
import OpalLocking.Status

namespace OpalLocking

/-- Which control call is meant. -/
inductive CallKind
  | takeOwnership
  | activateLsp
  | setPassword
  | activateUser
  | setupRange
  | addUserToRange
  | eraseRange
  | secureEraseRange
  | psidRevert
  | lockUnlock
  | saveForResume
  | getStatus
  | getGeometry
  | getRangeStatus
deriving DecidableEq, Repr

namespace CallKind

def all : List CallKind := [
  .takeOwnership, .activateLsp, .setPassword, .activateUser, .setupRange, .addUserToRange, .eraseRange,
  .secureEraseRange, .psidRevert, .lockUnlock, .saveForResume, .getStatus, .getGeometry, .getRangeStatus]

def name : CallKind → String
  | .takeOwnership => "TakeOwnership"
  | .activateLsp => "ActivateLsp"
  | .setPassword => "SetPassword"
  | .activateUser => "ActivateUser"
  | .setupRange => "SetupRange"
  | .addUserToRange => "AddUserToRange"
  | .eraseRange => "EraseRange"
  | .secureEraseRange => "SecureEraseRange"
  | .psidRevert => "PsidRevert"
  | .lockUnlock => "LockUnlock"
  | .saveForResume => "SaveForResume"
  | .getStatus => "GetStatus"
  | .getGeometry => "GetGeometry"
  | .getRangeStatus => "GetRangeStatus"

def ofName? (name : String) : Option CallKind :=
  all.find? (·.name == name)

/-- Whether the call addresses one range or its user. -/
def isRangeSpecific : CallKind → Bool
  | .setPassword | .activateUser | .setupRange | .addUserToRange | .eraseRange | .secureEraseRange
  | .lockUnlock | .saveForResume | .getRangeStatus => true
  | .takeOwnership | .activateLsp | .psidRevert | .getStatus | .getGeometry => false

end CallKind

/-- A control call with its parameter block. -/
inductive Request
  | takeOwnership (key : KeyBlock)
  | activateLsp (activation : Activation)
  | setPassword (change : NewPassword)
  | activateUser (session : Session)
  | setupRange (setup : RangeSetup)
  | addUserToRange (grant : LockRequest)
  | eraseRange (session : Session)
  | secureEraseRange (session : Session)
  | psidRevert (psid : KeyBlock)
  | lockUnlock (lock : LockRequest)
  | saveForResume (lock : LockRequest)
  | getStatus (reading : StatusFlags)
  | getGeometry (reading : GeometryReading)
  | getRangeStatus (session : Session) (reading : RangeReading)
deriving DecidableEq, Repr

namespace Request

def kind : Request → CallKind
  | .takeOwnership _ => .takeOwnership
  | .activateLsp _ => .activateLsp
  | .setPassword _ => .setPassword
  | .activateUser _ => .activateUser
  | .setupRange _ => .setupRange
  | .addUserToRange _ => .addUserToRange
  | .eraseRange _ => .eraseRange
  | .secureEraseRange _ => .secureEraseRange
  | .psidRevert _ => .psidRevert
  | .lockUnlock _ => .lockUnlock
  | .saveForResume _ => .saveForResume
  | .getStatus _ => .getStatus
  | .getGeometry _ => .getGeometry
  | .getRangeStatus _ _ => .getRangeStatus

/-- What a call of some kind fills, besides answering a status. -/
@[reducible] def Reading : Request → Type
  | .getStatus _ => StatusFlags
  | .getGeometry _ => GeometryReading
  | .getRangeStatus _ _ => RangeReading
  | _ => Unit

/-- The reading as it was submitted. -/
def submitted : (r : Request) → r.Reading
  | .getStatus reading => reading
  | .getGeometry reading => reading
  | .getRangeStatus _ reading => reading
  | .takeOwnership _ | .activateLsp _ | .setPassword _ | .activateUser _ | .setupRange _ | .addUserToRange _
  | .eraseRange _ | .secureEraseRange _ | .psidRevert _ | .lockUnlock _ | .saveForResume _ => ()

/-- The key blocks that a request carries. -/
def keys : Request → List KeyBlock
  | .takeOwnership key | .psidRevert key => [key]
  | .activateLsp activation => [activation.key]
  | .setPassword change => [change.session.key, change.user.key]
  | .activateUser session | .eraseRange session | .secureEraseRange session | .getRangeStatus session _ =>
    [session.key]
  | .setupRange setup => [setup.session.key]
  | .addUserToRange lock | .lockUnlock lock | .saveForResume lock => [lock.session.key]
  | .getStatus _ | .getGeometry _ => []

end Request

/-- A drive's answer to one request. -/
structure Answer (r : Request) where
  status : Status
  reading : r.Reading

end OpalLocking
