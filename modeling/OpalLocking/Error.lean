/-
Why an operation on a drive fails.

An error is a cause. Its kind is what a caller branches on, and its message is what a user reads; both
are functions of the cause, so no message is assembled anywhere else. No cause carries key bytes: of a
rejected key only its length is kept.
-/
import OpalLocking.Authority
import OpalLocking.OpenFailure
import OpalLocking.Status

namespace OpalLocking

/-- What a caller branches on. -/
inductive ErrorKind
  /-- No control interface or no locking support: fall back to other encryption. -/
  | unsupported
  /-- Wrong key, PSID or owner: other credentials may do. -/
  | unauthorized
  /-- Bad arguments, a protocol failure or a range that is not as expected. -/
  | invalid
  /-- The device could not be opened. -/
  | io
  /-- A buffer for key material could not be had. -/
  | resourceExhausted
deriving DecidableEq, Repr

/-- Only other credentials make a second attempt worth while. -/
def ErrorKind.isRetryable (k : ErrorKind) : Bool :=
  k = .unauthorized

/-- What a key is used for, as messages name it. -/
inductive KeyRole
  | admin
  | volume
  | user
  | psid
  | adminPassword
deriving DecidableEq, Repr

def KeyRole.name : KeyRole → String
  | .admin => "admin key"
  | .volume => "volume key"
  | .user => "user key"
  | .psid => "PSID"
  | .adminPassword => "admin password"

/-! ## Steps -/

/-- One thing asked of a drive, as messages name it. -/
inductive Step
  | takeOwnership
  | activateLockingSp
  | erase (segment : UInt32)
  | activateUser (user : Authority)
  | grantRead (user : Authority) (segment : UInt32)
  | grantWrite (user : Authority) (segment : UInt32)
  | setUserPassword
  | configure (start length : UInt64)
  | lock (segment : UInt32)
  | unlock (segment : UInt32)
  | readRange (segment : UInt32)
  | disable (segment : UInt32)
  | revert
deriving DecidableEq, Repr

def Step.text : Step → String
  | .takeOwnership => "take ownership"
  | .activateLockingSp => "activate the Locking SP"
  | .erase segment => s!"erase OPAL locking range {segment.toNat}"
  | .activateUser user => s!"activate OPAL {user.name}"
  | .grantRead user segment => s!"add OPAL {user.name} to locking range {segment.toNat} (RO)"
  | .grantWrite user segment => s!"add OPAL {user.name} to locking range {segment.toNat} (RW)"
  | .setUserPassword => "set OPAL user password"
  | .configure start length =>
    s!"set up locking range of length {length.toNat} at offset {start.toNat}"
  | .lock segment => s!"lock OPAL locking range {segment.toNat}"
  | .unlock segment => s!"unlock OPAL locking range {segment.toNat}"
  | .readRange segment => s!"read OPAL range {segment.toNat} status"
  | .disable segment => s!"disable OPAL locking range {segment.toNat}"
  | .revert => "reset with PSID"

/-! ## Mismatches -/

/-- One attribute of a range that does not read back as expected. -/
inductive Mismatch
  | offset (actual expected : UInt64)
  | length (actual expected : UInt64)
  | lockingDisabled (read write : Bool)
  | readLock (actual expected : Bool)
  | writeLock (actual expected : Bool)
deriving DecidableEq, Repr

namespace Mismatch

def text : Mismatch → String
  | .offset actual expected =>
    s!"offset {actual.toNat} does not match expected value {expected.toNat}"
  | .length actual expected =>
    s!"length {actual.toNat} does not match device length {expected.toNat}"
  | .lockingDisabled read write =>
    s!"locking is disabled (RLE={read.toNat}, WLE={write.toNat})"
  | .readLock actual _ => if actual then "read lock is locked" else "read lock is not locked"
  | .writeLock actual _ => if actual then "write lock is locked" else "write lock is not locked"

/-- Whether the mismatch is about the state of the lock. -/
def isLockState : Mismatch → Bool
  | .readLock _ _ | .writeLock _ _ => true
  | .offset _ _ | .length _ _ | .lockingDisabled _ _ => false

end Mismatch

/-! ## Errors -/

/-- Which query of a drive is meant. -/
inductive Query
  | status
  | geometry
deriving DecidableEq, Repr

def Query.name : Query → String
  | .status => "status"
  | .geometry => "geometry"

/-- Which bound of a range is meant. -/
inductive Bound
  | offset
  | length
deriving DecidableEq, Repr

def Bound.name : Bound → String
  | .offset => "offset"
  | .length => "length"

/-- Why an operation fails. -/
inductive Error
  | emptyKey (role : KeyRole)
  | keyTooLong (role : KeyRole) (size : Nat)
  | segmentOutOfRange (segment : UInt32)
  | zeroLength
  | unlockWithoutKey
  | lockWithKey
  | cannotOpen (device : String) (why : OpenFailure)
  /-- The first call of a session did not reach the drive. -/
  | unsupportedByKernel (device : String) (status : Status)
  | unsupportedByDevice (device : String)
  | queryFailed (query : Query) (device : String) (status : Status)
  | zeroBlockSize (device : String)
  | notWholeBlocks (bound : Bound) (sectors : UInt64) (blockSize : UInt32)
  | lockingNotEnabled (device : String)
  | notAuthorized (step : Step) (device : String)
  | psidRefused (device : String)
  | stepFailed (step : Step) (device : String) (status : Status)
  | mismatch (segment : UInt32) (mismatches : List Mismatch)
  | outOfMemory
  /-- A failure in the words of whoever embeds the library. -/
  | described (kind : ErrorKind) (words : String)
deriving DecidableEq, Repr

namespace Error

def kind : Error → ErrorKind
  | .emptyKey _ | .keyTooLong _ _ | .segmentOutOfRange _ | .zeroLength | .unlockWithoutKey | .lockWithKey
  | .queryFailed _ _ _ | .zeroBlockSize _ | .notWholeBlocks _ _ _ | .lockingNotEnabled _ | .stepFailed _ _ _
  | .mismatch _ _ => .invalid
  | .cannotOpen _ _ => .io
  | .unsupportedByKernel _ _ | .unsupportedByDevice _ => .unsupported
  | .notAuthorized _ _ | .psidRefused _ => .unauthorized
  | .outOfMemory => .resourceExhausted
  | .described kind _ => kind

def message : Error → String
  | .emptyKey role => s!"empty {role.name}"
  | .keyTooLong role size => s!"{role.name} is {size} bytes, at most 255 are supported"
  | .segmentOutOfRange segment => s!"OPAL segment {segment.toNat} is outside 1..=8"
  | .zeroLength => "OPAL locking range length must not be zero"
  | .unlockWithoutKey => "unlocking an OPAL range requires its key"
  | .lockWithKey => "locking an OPAL range does not take a key"
  | .cannotOpen device why => s!"cannot open {device}: {why.message}"
  | .unsupportedByKernel device status =>
    s!"{device}: OPAL is not supported by this kernel ({status.text})"
  | .unsupportedByDevice device => s!"{device} does not support OPAL locking"
  | .queryFailed query device status => s!"{device}: OPAL {query.name} query failed: {status.text}"
  | .zeroBlockSize device => s!"{device}: drive reports a zero logical block size"
  | .notWholeBlocks bound sectors blockSize =>
    s!"OPAL range {bound.name} {sectors.toNat} is not a multiple of the {blockSize.toNat}-byte logical block size"
  | .lockingNotEnabled device => s!"{device}: OPAL locking is not enabled, nothing to reset"
  | .notAuthorized step device => s!"{step.text} on {device}: not authorized"
  | .psidRefused device => s!"{device}: PSID was not accepted"
  | .stepFailed step device status => s!"failed to {step.text} on {device}: {status.text}"
  | .mismatch segment mismatches =>
    s!"OPAL range {segment.toNat} does not match its configuration ({mismatches.length} mismatch(es))"
  | .outOfMemory => "secure buffer allocation failed"
  | .described _ words => words

def isRetryable (e : Error) : Bool :=
  e.kind.isRetryable

/-- The message of the failure below this one, if there is one. -/
def source? : Error → Option String
  | .cannotOpen _ why => some why.message
  | _ => none

end Error

end OpalLocking
