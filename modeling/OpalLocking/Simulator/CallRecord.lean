/-
What a simulated drive remembers of each control call. Key material is never remembered, and a field that
the call does not have is zero.
-/
import OpalLocking.Call

namespace OpalLocking.Simulator

/-- One remembered call. -/
structure CallRecord where
  kind : CallKind
  who : UInt32 := 0
  range : UInt8 := 0
  state : UInt32 := 0
  flags : UInt16 := 0
  start : UInt64 := 0
  length : UInt64 := 0
deriving DecidableEq, Repr

namespace CallRecord

/-- The fields of a call made in a session. -/
def ofSession (kind : CallKind) (session : Session) : CallRecord :=
  { kind, who := session.who, range := session.key.range }

/-- What is remembered of a request. Activation has its number of ranges in place of a state, and a new
password the user it is for. -/
def ofRequest : Request → CallRecord
  | .takeOwnership _ => { kind := .takeOwnership }
  | .activateLsp activation => { kind := .activateLsp, state := activation.count.toUInt32 }
  | .setPassword change => { ofSession .setPassword change.session with who := change.user.who }
  | .activateUser session => ofSession .activateUser session
  | .setupRange setup =>
    { ofSession .setupRange setup.session with start := setup.start, length := setup.length }
  | .addUserToRange grant => { ofSession .addUserToRange grant.session with state := grant.state }
  | .eraseRange session => ofSession .eraseRange session
  | .secureEraseRange session => ofSession .secureEraseRange session
  | .psidRevert _ => { kind := .psidRevert }
  | .lockUnlock lock => { ofSession .lockUnlock lock.session with state := lock.state }
  | .saveForResume lock =>
    { ofSession .saveForResume lock.session with state := lock.state, flags := lock.flags }
  | .getStatus _ => { kind := .getStatus }
  | .getGeometry _ => { kind := .getGeometry }
  | .getRangeStatus session _ => ofSession .getRangeStatus session

end CallRecord

end OpalLocking.Simulator
