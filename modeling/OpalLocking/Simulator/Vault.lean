/-
What a simulated drive guards: its owner, its users and its ranges, and how the control calls that reach it
change them.

The vault models just enough of a self-encrypting drive to answer every call. A call that is refused leaves
the vault as it was. Tables are indexed by words of the parameter block, so a look-up can in principle miss
its table; such a call has no outcome (`Traced`).
-/
import OpalLocking.Authority
import OpalLocking.Call
import OpalLocking.Simulator.Traced

namespace OpalLocking.Simulator

/-! ## State -/

/-- What can be seen of a range, in native blocks. -/
structure Snapshot where
  start : UInt64 := 0
  length : UInt64 := 0
  readLockEnabled : Bool := false
  writeLockEnabled : Bool := false
  /-- The word of the lock state; zero until it is set. -/
  state : UInt32 := 0
  /-- How often the data of the range was erased, in a word that wraps around. -/
  erasures : UInt32 := 0
deriving DecidableEq, Repr

/-- A range with what is known about its users. -/
structure Range where
  snapshot : Snapshot := {}
  /-- The users that may change the read lock, and the write lock. -/
  readGrants : Vector Bool userCount := .replicate userCount false
  writeGrants : Vector Bool userCount := .replicate userCount false
  /-- The authority and the key kept for later lock requests. -/
  saved : Option (UInt32 × Secret) := none
deriving DecidableEq, Repr

structure User where
  enabled : Bool := false
  password : Option Secret := none
deriving DecidableEq, Repr

/-- What the drive was built with and what is switched from outside. No call changes it. -/
structure Config where
  /-- Whether the drive has a control interface at all. -/
  supported : Bool
  failOpen : Bool := false
  /-- Acknowledge lock requests without changing the range. -/
  ignoreLocks : Bool := false
  psid : Secret
  geometry : GeometryReading
  /-- Bounds of ranges are rounded down to a multiple of this. -/
  rounding : UInt64 := 0
deriving DecidableEq, Repr

/-- The owner, the users and the ranges of a drive. -/
structure Vault where
  owner : Option Secret := none
  lockingEnabled : Bool := false
  admin : Option Secret := none
  users : Vector User userCount := .replicate userCount {}
  ranges : Vector Range rangeCount := .replicate rangeCount {}
deriving DecidableEq, Repr

/-- Rounds a bound down. -/
def Config.round (c : Config) (bound : UInt64) : UInt64 :=
  if 1 < c.rounding then bound - bound % c.rounding else bound

namespace Range

/-- A range whose data was destroyed with everything about it. -/
def revert (r : Range) : Range :=
  { snapshot := { erasures := r.snapshot.erasures + 1 } }

/-- A range whose data was erased; unless its configuration is kept, it is disabled too. -/
def erase (r : Range) (keepsConfiguration : Bool) : Range :=
  let erasures := r.snapshot.erasures + 1
  let snapshot : Snapshot :=
    if keepsConfiguration then { r.snapshot with erasures }
    else { state := LockState.readWrite.word, erasures }
  { r with snapshot, saved := none }

/-- The key that a lock request stands on: its own or, if it locks without one, the key that was kept for
the same authority. -/
def keyFor (r : Range) (session : Session) (state : LockState) : Option Secret :=
  let key := session.key.content
  if key.isEmpty && state = .locked then
    match r.saved with
    | some (who, kept) => if who = session.who then some kept else none
    | none => none
  else some key

/-- Whether an authority may change the locks: Admin1 always, a user with both grants. -/
def mayLock (r : Range) (who : UInt32) : Traced Bool :=
  if who = Authority.admin1.who then pure true
  else do
    let read ← .entry r.readGrants .readGrant who.toNat
    let write ← .entry r.writeGrants .writeGrant who.toNat
    return read && write

def mayLock? (r : Range) (who : UInt32) : Option Bool :=
  (r.mayLock who).outcome

@[simp] theorem outcome_mayLock (r : Range) (who : UInt32) : (r.mayLock who).outcome = r.mayLock? who := rfl

end Range

namespace Vault

/-! ## Authentication -/

/-- Whether `key` is Admin1's, on a drive whose locking is enabled. -/
def isAdmin (v : Vault) (key : Secret) : Bool :=
  v.lockingEnabled && v.admin == some key

/-- Whether an authority proves itself with `key`. A disabled user never does. -/
def authenticates (v : Vault) (who : UInt32) (key : Secret) : Traced Bool :=
  if !v.lockingEnabled then pure false
  else if who = Authority.admin1.who then pure (v.admin == some key)
  else if who ≤ Authority.lastUser then do
    let user ← .entry v.users .user who.toNat
    return user.enabled && user.password == some key
  else pure false

def authenticates? (v : Vault) (who : UInt32) (key : Secret) : Option Bool :=
  (v.authenticates who key).outcome

/-- Whether a word names a user. -/
def isUser (who : UInt32) : Bool :=
  1 ≤ who && who ≤ Authority.lastUser

/-- Changes one user. -/
def withUser (v : Vault) (who : UInt32) (change : User → User) : Traced Vault := do
  let users ← .modify v.users .user who.toNat change
  return { v with users }

/-- Looks for a range, and reads it if it is there. -/
def range (v : Vault) (range : UInt8) : Traced (Option Range) :=
  if range.toNat < rangeCount then do
    let r ← .entry v.ranges .range range.toNat
    return some r
  else return none

/-- Looks for a range, and changes it if it is there. -/
def withRange (v : Vault) (range : UInt8) (change : Range → Range) : Traced (Status × Vault) :=
  if range.toNat < rangeCount then do
    let ranges ← .modify v.ranges .range range.toNat change
    return (.success, { v with ranges })
  else return (.invalidParameter, v)

/-! ## Calls -/

/-- The first owner sets the key; later ones have to know it. -/
def takeOwnership (v : Vault) (block : KeyBlock) : Traced (Status × Vault) := do
  let key ← .key block
  match v.owner with
  | none => return (.success, { v with owner := some key })
  | some owner => return (if owner = key then .success else .notAuthorized, v)

def activateLsp (v : Vault) (a : Activation) : Traced (Status × Vault) :=
  if rangeCount < a.count.toNat then return (.invalidParameter, v)
  else do
    let key ← .key a.key
    if v.owner ≠ some key then return (.notAuthorized, v)
    else return (.success, { v with admin := some key, lockingEnabled := true })

/-- Admin1 sets any password, every other authority its own. -/
def setPassword (v : Vault) (change : NewPassword) : Traced (Status × Vault) := do
  let who := change.session.who
  let target := change.user.who
  let key ← .key change.session.key
  let proven ← v.authenticates who key
  if !(proven && (who = Authority.admin1.who || who = target)) then
    return (.notAuthorized, v)
  else do
    let password ← .key change.user.key
    if target = Authority.admin1.who then
      return (.success, { v with admin := some password })
    else if isUser target then do
      let v' ← v.withUser target fun u => { u with password := some password }
      return (.success, v')
    else
      return (.invalidParameter, v)

def activateUser (v : Vault) (session : Session) : Traced (Status × Vault) := do
  let key ← .key session.key
  if !v.isAdmin key then
    return (.notAuthorized, v)
  else if isUser session.who then do
    let v' ← v.withUser session.who fun u => { u with enabled := true }
    return (.success, v')
  else
    return (.invalidParameter, v)

def setupRange (c : Config) (v : Vault) (setup : RangeSetup) : Traced (Status × Vault) :=
  if setup.session.who ≠ Authority.admin1.who then return (.notAuthorized, v)
  else do
    let key ← .key setup.session.key
    if !v.isAdmin key then return (.notAuthorized, v)
    else v.withRange setup.session.key.range fun r =>
      { r with
        snapshot := { r.snapshot with
          start := c.round setup.start
          length := c.round setup.length
          readLockEnabled := setup.readLock ≠ 0
          writeLockEnabled := setup.writeLock ≠ 0 } }

/-- Grants a user the read lock of a range, or its write lock. -/
def addUserToRange (v : Vault) (grant : LockRequest) : Traced (Status × Vault) := do
  let who := grant.session.who
  let key ← .key grant.session.key
  if !v.isAdmin key then
    return (.notAuthorized, v)
  else if !isUser who then
    return (.invalidParameter, v)
  else do
    match ← v.range grant.session.key.range with
    | none => return (.invalidParameter, v)
    | some r =>
      if grant.state = LockState.readOnly.word then do
        let readGrants ← .modify r.readGrants .readGrant who.toNat fun _ => true
        v.withRange grant.session.key.range ({ · with readGrants })
      else if grant.state = LockState.readWrite.word then do
        let writeGrants ← .modify r.writeGrants .writeGrant who.toNat fun _ => true
        v.withRange grant.session.key.range ({ · with writeGrants })
      else
        return (.invalidParameter, v)

def eraseRange (v : Vault) (session : Session) (keepsConfiguration : Bool) : Traced (Status × Vault) :=
  if session.who ≠ Authority.admin1.who then return (.notAuthorized, v)
  else do
    let key ← .key session.key
    if !v.isAdmin key then return (.notAuthorized, v)
    else v.withRange session.key.range (·.erase keepsConfiguration)

/-- Everything but the count of erasures is as it left the factory. -/
def revert (v : Vault) : Vault :=
  { ranges := v.ranges.map Range.revert }

def psidRevert (c : Config) (v : Vault) (block : KeyBlock) : Traced (Status × Vault) := do
  let psid ← .key block
  if psid = c.psid then return (.success, v.revert) else return (.notAuthorized, v)

def lockUnlock (c : Config) (v : Vault) (lock : LockRequest) : Traced (Status × Vault) :=
  let session := lock.session
  match LockState.ofWord? lock.state with
  | none => return (.invalidParameter, v)
  | some state => do
    match ← v.range session.key.range with
    | none => return (.invalidParameter, v)
    | some range => do
      let _ ← .key session.key
      match range.keyFor session state with
      | none => return (.notAuthorized, v)
      | some key => do
        let proven ← v.authenticates session.who key
        if !proven then return (.notAuthorized, v)
        else do
          let may ← range.mayLock session.who
          if !may then return (.notAuthorized, v)
          else if c.ignoreLocks then return (.success, v)
          else v.withRange session.key.range fun r => { r with snapshot.state := state.word }

/-- Keeps the key of a request for later lock requests, or forgets what was kept. No key is checked. -/
def saveForResume (v : Vault) (lock : LockRequest) : Traced (Status × Vault) := do
  let key ← .key lock.session.key
  v.withRange lock.session.key.range fun r =>
    { r with saved := if lock.flags &&& saveForLock ≠ 0 then some (lock.session.who, key) else none }

/-! ## Queries -/

/-- Whether a range is enabled and locked. -/
def isLocked (r : Range) : Bool :=
  r.snapshot.readLockEnabled && r.snapshot.writeLockEnabled && r.snapshot.state = LockState.locked.word

/-- Locking is supported; bits say whether it is enabled and whether some range is locked. -/
def flags (v : Vault) : StatusFlags :=
  let enabled : UInt32 := if v.lockingEnabled then 0x04 else 0
  let locked : UInt32 := if v.ranges.any isLocked then 0x08 else 0
  ⟨0x03 ||| enabled ||| locked⟩

/-- A range as it is reported; a state that was never set reads as read-write. -/
def reading (r : Range) : RangeReading :=
  { start := r.snapshot.start
    length := r.snapshot.length
    readLock := r.snapshot.readLockEnabled.toUInt32
    writeLock := r.snapshot.writeLockEnabled.toUInt32
    state := if r.snapshot.state = 0 then LockState.readWrite.word else r.snapshot.state }

/-- Reports a range to whoever proves an authority, or leaves the reading as submitted. -/
def rangeStatus (v : Vault) (session : Session) (submitted : RangeReading) : Traced (Status × RangeReading) := do
  let key ← .key session.key
  let proven ← v.authenticates session.who key
  if !proven then
    return (.notAuthorized, submitted)
  else do
    match ← v.range session.key.range with
    | none => return (.invalidParameter, submitted)
    | some r => return (.success, reading r)

/-! ## Every call -/

/-- What a call that reaches the drive answers, and the vault it leaves, with the accesses that it makes. -/
def traced (c : Config) (v : Vault) : (r : Request) → Traced (Answer r × Vault)
  | .takeOwnership key => do
    let (status, v') ← v.takeOwnership key
    return (⟨status, ()⟩, v')
  | .activateLsp activation => do
    let (status, v') ← v.activateLsp activation
    return (⟨status, ()⟩, v')
  | .setPassword change => do
    let (status, v') ← v.setPassword change
    return (⟨status, ()⟩, v')
  | .activateUser session => do
    let (status, v') ← v.activateUser session
    return (⟨status, ()⟩, v')
  | .setupRange setup => do
    let (status, v') ← v.setupRange c setup
    return (⟨status, ()⟩, v')
  | .addUserToRange grant => do
    let (status, v') ← v.addUserToRange grant
    return (⟨status, ()⟩, v')
  | .eraseRange session => do
    let (status, v') ← v.eraseRange session false
    return (⟨status, ()⟩, v')
  | .secureEraseRange session => do
    let (status, v') ← v.eraseRange session true
    return (⟨status, ()⟩, v')
  | .psidRevert psid => do
    let (status, v') ← v.psidRevert c psid
    return (⟨status, ()⟩, v')
  | .lockUnlock lock => do
    let (status, v') ← v.lockUnlock c lock
    return (⟨status, ()⟩, v')
  | .saveForResume lock => do
    let (status, v') ← v.saveForResume lock
    return (⟨status, ()⟩, v')
  | .getStatus _ => return (⟨.success, v.flags⟩, v)
  | .getGeometry _ => return (⟨.success, c.geometry⟩, v)
  | .getRangeStatus session submitted => do
    let (status, reading) ← v.rangeStatus session submitted
    return (⟨status, reading⟩, v)

/-- What a call answers and leaves, unless it misses a table. -/
def perform? (c : Config) (v : Vault) (r : Request) : Option (Answer r × Vault) :=
  (v.traced c r).outcome

/-! ## Outcomes -/

@[simp] theorem outcome_authenticates (v : Vault) (who : UInt32) (key : Secret) :
    (v.authenticates who key).outcome = v.authenticates? who key := rfl

theorem authenticates?_eq (v : Vault) (who : UInt32) (key : Secret) :
    v.authenticates? who key =
      if !v.lockingEnabled then some false
      else if who = Authority.admin1.who then some (v.admin == some key)
      else if who ≤ Authority.lastUser then
        v.users[who.toNat]?.map fun user => user.enabled && user.password == some key
      else some false := by
  unfold authenticates? authenticates
  cases user : v.users[who.toNat]? <;> simp [user]

theorem outcome_withUser (v : Vault) (who : UInt32) (change : User → User) :
    (v.withUser who change).outcome = (modify? v.users who.toNat change).map fun users => { v with users } := by
  unfold withUser
  rw [Traced.outcome_bind, Traced.outcome_modify]
  cases modify? v.users who.toNat change <;> rfl

@[simp] theorem outcome_range (v : Vault) (range : UInt8) : (v.range range).outcome = some v.ranges[range.toNat]? := by
  by_cases there : range.toNat < rangeCount <;> simp [Vault.range, there]

theorem outcome_withRange (v : Vault) (range : UInt8) (change : Range → Range) :
    (v.withRange range change).outcome = some (match modify? v.ranges range.toNat change with
      | some ranges => (.success, { v with ranges })
      | none => (.invalidParameter, v)) := by
  by_cases there : range.toNat < rangeCount <;> simp [withRange, modify?, there]

end Vault

end OpalLocking.Simulator
