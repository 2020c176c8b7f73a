/-
The operations of the library as one type, so that whole sequences of them can be run and spoken about.
-/
import OpalLocking.Provisioning

namespace OpalLocking

/-- An operation on a drive, with its arguments. -/
inductive Operation
  | setup (provision : Provision)
  | setLock (segment : UInt32) (locked : Bool) (key : Option Secret)
  | verify (segment : UInt32) (key : Secret) (want : Expectations)
  | resetSegment (segment : UInt32) (adminPassword : Secret)
  | factoryReset (psid : Secret)
  | flags
  | supported
  | lockingEnabled
  | geometry
deriving DecidableEq, Repr

/-- What an operation yields. -/
inductive Value
  | nothing
  | attributes (attributes : Attributes)
  | flags (flags : StatusFlags)
  | truth (value : Bool)
  | geometry (geometry : Geometry)
deriving DecidableEq, Repr

namespace Operation

/-- Locks a range with the key kept at its last unlock. -/
def lock (segment : UInt32) : Operation :=
  .setLock segment true none

/-- Unlocks a range with its user's key. -/
def unlock (segment : UInt32) (key : Secret) : Operation :=
  .setLock segment false (some key)

/-- The procedure of an operation on the drive that messages call `device`. -/
def procedure (device : String) : Operation → Procedure Value
  | .setup provision => do
    setupRange device provision
    return .nothing
  | .setLock segment locked key => do
    OpalLocking.setLock device segment locked key
    return .nothing
  | .verify segment key want => do
    return .attributes (← OpalLocking.verify device segment key want)
  | .resetSegment segment adminPassword => do
    OpalLocking.resetSegment device segment adminPassword
    return .nothing
  | .factoryReset psid => do
    OpalLocking.factoryReset device psid
    return .nothing
  | .flags => do
    return .flags (← readFlags device)
  | .supported => do
    return .truth (← readSupported device)
  | .lockingEnabled => do
    return .truth (← readLockingEnabled device)
  | .geometry => do
    return .geometry (← readGeometry device)

/-- The segment that an operation is about, if it is about one. -/
def segment? : Operation → Option UInt32
  | .setup provision => some provision.segment
  | .setLock segment _ _ | .verify segment _ _ | .resetSegment segment _ => some segment
  | .factoryReset _ | .flags | .supported | .lockingEnabled | .geometry => none

end Operation

end OpalLocking
