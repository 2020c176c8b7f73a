/-
Whose key each parameter block carries.

The blocks are filled in many places, each with a range and an authority of its own, and filling cuts a key that is too
long. `CallKind.slots` is the table of what belongs where, one entry for each key block of a call, and
`requests_filled` says that no operation submits anything else. It rests on the checks before the drive is opened:
behind them every key fits its block (`Operation.key_length`).
-/
import Mathlib.Data.List.Forall2
import OpalLocking.Proofs.Arguments
import OpalLocking.Proofs.EveryOperation
import OpalLocking.Script

namespace OpalLocking

/-! ## Keys of an operation -/

/-- Whose key a block carries. -/
inductive KeyHolder
  /-- Whoever owns or administers the drive. -/
  | admin
  /-- The user of a range. -/
  | user
  /-- Whoever can read the drive's label. -/
  | psid
deriving DecidableEq, Repr

/-- The key that an operation was given for a holder. -/
def Operation.key? : Operation → KeyHolder → Option Secret
  | .setup p, .admin => some p.adminKey
  | .setup p, .user => some p.volumeKey
  | .setLock _ _ key, .user => key
  | .verify _ key _, .user => some key
  | .resetSegment _ adminPassword, .admin => some adminPassword
  | .factoryReset psid, .psid => some psid
  | _, _ => none

/-- Whatever key passed the checks has a length that its block can say. -/
theorem Operation.key_length {op : Operation} {holder : KeyHolder} {key : Secret} (valid : op.check = .ok ())
    (given : op.key? holder = some key) : 1 ≤ key.length ∧ key.length ≤ maxKeyLength := by
  have checked : ∃ role, checkKey role key = .ok () := by
    cases op with
    | setup p =>
      obtain ⟨admin, volume, -⟩ := Provision.check_eq_ok valid
      cases holder with
      | admin => cases given; exact ⟨_, admin⟩
      | user => cases given; exact ⟨_, volume⟩
      | psid => cases given
    | setLock segment locked optional =>
      obtain ⟨-, keyed⟩ := check_setLock valid
      cases holder with
      | user =>
        cases given
        cases locked with
        | false => exact ⟨_, keyed⟩
        | true => cases keyed
      | admin | psid => cases given
    | verify =>
      cases holder with
      | user => cases given; exact ⟨_, (checks_eq_ok valid).1⟩
      | admin | psid => cases given
    | resetSegment =>
      cases holder with
      | admin => cases given; exact ⟨_, (checks_eq_ok valid).1⟩
      | user | psid => cases given
    | factoryReset =>
      cases holder with
      | psid => cases given; exact ⟨_, valid⟩
      | admin | user => cases given
    | flags | supported | lockingEnabled | geometry => cases given
  obtain ⟨role, keyed⟩ := checked
  have some := isEmpty_of_checkKey keyed
  cases key with
  | nil => simp at some
  | cons => exact ⟨by simp, length_le_of_checkKey keyed⟩

/-! ## Blocks -/

namespace KeyBlock

/-- The block includes this key whole and nothing else: its length, its bytes, and zeros behind them. -/
structure Carries (block : KeyBlock) (key : Secret) : Prop where
  least : 1 ≤ key.length
  most : key.length ≤ 255
  length : block.length.toNat = key.length
  kind : block.kind = 0
  bytes : block.bytes.toList = key ++ List.replicate (256 - key.length) 0

/-- The block includes no key. -/
structure CarriesNone (block : KeyBlock) : Prop where
  length : block.length = 0
  kind : block.kind = 0
  bytes : block.bytes.toList = List.replicate 256 0

theorem carries_fill {range : UInt8} {key : Secret} (fits : 1 ≤ key.length ∧ key.length ≤ maxKeyLength) :
    (fill range key).Carries key := by
  obtain ⟨least, most⟩ := fits
  have whole : key.take maxKeyLength = key := List.take_of_length_le most
  have most : key.length ≤ 255 := most
  constructor
  · exact least
  · exact most
  · simp [fill, whole]
    omega
  · rfl
  · simp [fill, keyArray, whole, Vector.toList, List.take_of_length_le (show key.length ≤ 256 by omega)]

theorem carriesNone_blank {range : UInt8} : CarriesNone { blank with range } := by
  constructor
  · rfl
  · rfl
  · rfl

end KeyBlock

/-! ## What belongs where -/

/-- The authority that a session is opened by. -/
inductive Speaker
  | admin1
  /-- The user of the operation's range. -/
  | user
deriving DecidableEq, Repr

/-- One key block of a call. -/
structure KeySlot where
  /-- Whose key it carries. -/
  holder : KeyHolder
  /-- Whose session it belongs to, unless it is submitted without one. -/
  speaker : Option Speaker
  /-- Whether it names the range that is meant; otherwise it names range 0. -/
  ranged : Bool
deriving DecidableEq, Repr

/-- The key blocks of a call, in the order in which it carries them. -/
def CallKind.slots : CallKind → List KeySlot
  | .takeOwnership | .activateLsp => [⟨.admin, none, false⟩]
  | .activateUser => [⟨.admin, some .user, false⟩]
  | .addUserToRange => [⟨.admin, some .user, true⟩]
  | .setPassword => [⟨.admin, some .admin1, true⟩, ⟨.user, some .user, true⟩]
  | .eraseRange | .secureEraseRange | .setupRange => [⟨.admin, some .admin1, true⟩]
  | .lockUnlock | .saveForResume | .getRangeStatus => [⟨.user, some .user, true⟩]
  | .psidRevert => [⟨.psid, none, false⟩]
  | .getStatus | .getGeometry => []

/-- The authorities beside the key blocks of a request, where a block belongs to a session. -/
def Request.authorities : Request → List (Option UInt32)
  | .takeOwnership _ | .activateLsp _ | .psidRevert _ => [none]
  | .setPassword change => [some change.session.who, some change.user.who]
  | .activateUser session | .eraseRange session | .secureEraseRange session | .getRangeStatus session _ =>
    [some session.who]
  | .setupRange setup => [some setup.session.who]
  | .addUserToRange lock | .lockUnlock lock | .saveForResume lock => [some lock.session.who]
  | .getStatus _ | .getGeometry _ => []

namespace Operation

/-- The word that names who speaks in an operation. -/
def who? (op : Operation) : Speaker → Option UInt32
  | .admin1 => some Authority.admin1.who
  | .user => op.segment?.map fun segment => (Authority.ofSegment segment).who

/-- Locks a range, which is done without a key. -/
def Locks (op : Operation) : Prop :=
  ∃ segment, op = .lock segment

/-- The block holds what belongs into this slot of a call: its holder's key, or none if a lock is asked for; at the
range of the operation, or at range 0. -/
structure Fills (op : Operation) (kind : CallKind) (slot : KeySlot) (block : KeyBlock) : Prop where
  key : (∃ key, op.key? slot.holder = some key ∧ block.Carries key) ∨
    (op.Locks ∧ kind = .lockUnlock ∧ block.CarriesNone)
  ranged : slot.ranged = true → ∃ segment, op.segment? = some segment ∧ block.range.toNat = segment.toNat
  unranged : slot.ranged = false → block.range = 0

/-- A request is what the operation had to submit for its kind of call. -/
structure FillsAll (op : Operation) (request : Request) : Prop where
  blocks : List.Forall₂ (op.Fills request.kind) request.kind.slots request.keys
  authorities : request.authorities = request.kind.slots.map fun slot => slot.speaker.bind op.who?

variable {op : Operation} {kind : CallKind} {holder : KeyHolder} {speaker : Option Speaker} {segment : UInt32}
  {key : Secret}

theorem toNat_toUInt8 (valid : op.check = .ok ()) (about : op.segment? = some segment) :
    segment.toUInt8.toNat = segment.toNat := by
  rw [← UInt8.toNat_toUInt32, toUInt32_toUInt8 (checkSegment_of_check valid about)]

theorem fills_ranged (valid : op.check = .ok ()) (about : op.segment? = some segment)
    (given : op.key? holder = some key) :
    op.Fills kind ⟨holder, speaker, true⟩ (.fill segment.toUInt8 key) where
  key := .inl ⟨key, given, KeyBlock.carries_fill (key_length valid given)⟩
  ranged _ := ⟨segment, about, toNat_toUInt8 valid about⟩
  unranged := nofun

theorem fills_unranged (valid : op.check = .ok ()) (given : op.key? holder = some key) :
    op.Fills kind ⟨holder, speaker, false⟩ (.fill 0 key) where
  key := .inl ⟨key, given, KeyBlock.carries_fill (key_length valid given)⟩
  ranged := nofun
  unranged _ := rfl

/-- A request for a lock state carries the user's key, unless it is made by an operation that locks. -/
theorem fills_lockUnlock {locked : Bool} {optional : Option Secret}
    (valid : (Operation.setLock segment locked optional).check = .ok ()) :
    (Operation.setLock segment locked optional).Fills .lockUnlock ⟨.user, speaker, true⟩
      (lockOperationRequest segment locked optional).session.key := by
  cases optional with
  | some key => exact fills_ranged valid rfl rfl
  | none =>
    obtain ⟨-, keyed⟩ := check_setLock valid
    cases locked with
    | false => cases keyed
    | true =>
      constructor
      · exact .inr ⟨⟨segment, rfl⟩, rfl, KeyBlock.carriesNone_blank⟩
      · intro _
        exact ⟨segment, rfl, toNat_toUInt8 valid rfl⟩
      · nofun

theorem fillsAll_getStatus {reading : StatusFlags} : op.FillsAll (.getStatus reading) :=
  ⟨.nil, rfl⟩

theorem fillsAll_getGeometry {reading : GeometryReading} : op.FillsAll (.getGeometry reading) :=
  ⟨.nil, rfl⟩

end Operation

open Operation

/-! ## Every operation -/

theorem Provision.fillsAll_calls {p : Provision} {enabled : Bool} {erasure : Erasure} {bounds : BlockBounds}
    (valid : (Operation.setup p).check = .ok ()) :
    ∀ request ∈ p.calls enabled erasure bounds, (Operation.setup p).FillsAll request := by
  have admin : ∀ {kind speaker}, (Operation.setup p).Fills kind ⟨.admin, speaker, true⟩ (.fill p.range p.adminKey) :=
    fills_ranged valid rfl rfl
  have owner : ∀ {kind speaker}, (Operation.setup p).Fills kind ⟨.admin, speaker, false⟩ (.fill 0 p.adminKey) :=
    fills_unranged valid rfl
  have user : ∀ {kind speaker}, (Operation.setup p).Fills kind ⟨.user, speaker, true⟩ (.fill p.range p.volumeKey) :=
    fills_ranged valid rfl rfl
  have configuring : ∀ request ∈ configuring.filterMap (p.stepCall? bounds), (Operation.setup p).FillsAll request := by
    simp only [configuring, stepCall?, List.filterMap_cons, List.filterMap_nil, List.forall_mem_cons]
    refine ⟨?_, ?_, ?_, ?_, ?_, ?_, List.forall_mem_nil _⟩
    · exact ⟨.cons owner .nil, rfl⟩
    · exact ⟨.cons admin .nil, rfl⟩
    · exact ⟨.cons admin .nil, rfl⟩
    · exact ⟨.cons admin (.cons user .nil), rfl⟩
    · exact ⟨.cons admin .nil, rfl⟩
    · exact ⟨.cons user .nil, rfl⟩
  -- The calls of a takeover name range 0, since there is no range yet that they could be about.
  have first : ∀ request ∈ (if enabled then p.wiping erasure else p.takingOver),
      (Operation.setup p).FillsAll request := by
    cases enabled with
    | false =>
      refine List.forall_mem_cons.2 ⟨?_, List.forall_mem_singleton.2 ?_⟩
      · exact ⟨.cons owner .nil, rfl⟩
      · exact ⟨.cons owner .nil, rfl⟩
    | true =>
      cases erasure with
      | plain => exact List.forall_mem_singleton.2 ⟨.cons admin .nil, rfl⟩
      | secure =>
        refine List.forall_mem_cons.2 ⟨?_, List.forall_mem_singleton.2 ?_⟩
        · exact ⟨.cons admin .nil, rfl⟩
        · exact ⟨.cons admin .nil, rfl⟩
  intro request mem
  rw [calls_eq] at mem
  simp only [List.mem_append, List.mem_cons, List.not_mem_nil, or_false] at mem
  obtain (mem | mem) | rfl | rfl := mem
  · exact first request mem
  · exact configuring request mem
  · exact fillsAll_getGeometry
  · exact ⟨.cons user .nil, rfl⟩

namespace Operation

/-- Whatever course an operation takes, its requests are filled as they should be. -/
theorem Course.fillsAll {op : Operation} {r : Except Error Value} (course : op.Course xs r)
    (valid : op.check = .ok ()) : ∀ x ∈ xs, op.FillsAll x.request := by
  cases course with
  | @setup p _ _ course =>
    intro x mem
    obtain ⟨enabled, erasure, bounds, mem⟩ := course.mem_calls mem
    obtain same | mem := List.mem_cons.1 mem
    · rw [same]
      exact fillsAll_getStatus
    · obtain same | mem := List.mem_cons.1 mem
      · rw [same]
        exact fillsAll_getGeometry
      · exact Provision.fillsAll_calls valid _ mem
  | @setLock segment locked optional _ _ course =>
    have asked : (Operation.setLock segment locked optional).FillsAll
        (.lockUnlock (lockOperationRequest segment locked optional)) :=
      ⟨.cons (fills_lockUnlock valid) .nil, rfl⟩
    cases course with
    | unsupported => simp [fillsAll_getStatus]
    | refused | locked => simp [fillsAll_getStatus, asked]
    | unlocked kept reached direction =>
      subst direction
      cases optional with
      | none => cases (check_setLock valid).2
      | some key =>
        have kept : (Operation.setLock segment false (some key)).FillsAll
            (.saveForResume (lockOperationRequest segment false (some key)).keeping) :=
          ⟨.cons (fills_ranged valid rfl rfl) .nil, rfl⟩
        simp [fillsAll_getStatus, asked, kept]
  | @verify segment key want _ _ course =>
    have read : (Operation.verify segment key want).FillsAll (readRequest segment key) :=
      ⟨.cons (fills_ranged valid rfl rfl) .nil, rfl⟩
    cases course <;> simp [fillsAll_getGeometry, read]
  | @resetSegment segment password _ _ course =>
    have block : ∀ {kind speaker}, (Operation.resetSegment segment password).Fills kind ⟨.admin, speaker, true⟩
        (.fill segment.toUInt8 password) := fills_ranged valid rfl rfl
    have plain : (Operation.resetSegment segment password).FillsAll
        (.eraseRange (adminSession segment.toUInt8 password)) := ⟨.cons block .nil, rfl⟩
    have secure : (Operation.resetSegment segment password).FillsAll
        (.secureEraseRange (adminSession segment.toUInt8 password)) := ⟨.cons block .nil, rfl⟩
    have disable : (Operation.resetSegment segment password).FillsAll
        (.setupRange (disableRequest segment password)) := ⟨.cons block .nil, rfl⟩
    cases course <;> simp [fillsAll_getStatus, plain, secure, disable]
  | @factoryReset psid _ _ course =>
    have revert : (Operation.factoryReset psid).FillsAll (.psidRevert (.fill 0 psid)) :=
      ⟨.cons (fills_unranged valid rfl) .nil, rfl⟩
    cases course <;> simp [revert]
  | flags course | supported course | lockingEnabled course => cases course <;> simp [fillsAll_getStatus]
  | geometry course => cases course <;> simp [fillsAll_getGeometry]

end Operation

/-- Whatever a drive answers, each key block that an operation submits carries the whole key of the holder that its
call is for, and is addressed at the range, in the session of the authority, that its call asks for. -/
theorem requests_filled {σ : Type} {d : Drive σ} {s : σ} {device : String} {op : Operation} {request : Request}
    (mem : request ∈ ((op.procedure device).run d s).trace.requests) : op.FillsAll request := by
  rw [Trace.requests_eq] at mem
  obtain ⟨x, asked, rfl⟩ := List.mem_map.1 mem
  obtain ⟨quiet, -⟩ | ⟨valid, course⟩ := procedure_course (Procedure.run_yields d (op.procedure device) s)
  · rw [quiet] at asked
    cases asked
  · exact course.fillsAll valid x asked

/-- A key that is kept over a sleep; and a lock, which brings no key. -/
theorem requests_filled_keeping :
    let s : Script := { answers := [(.getStatus, [{ status := .success, flags := some 7 }])] }
    let unlock : Operation := .setLock 3 false (some [1, 2, 3])
    let keep : Request := .saveForResume (lockOperationRequest 3 false (some [1, 2, 3])).keeping
    let lock : Request := .lockUnlock (lockOperationRequest 3 true none)
    (keep ∈ ((unlock.procedure "d").run Script.drive s).trace.requests ∧ unlock.FillsAll keep) ∧
      lock ∈ (((Operation.lock 3).procedure "d").run Script.drive s).trace.requests ∧
        (Operation.lock 3).FillsAll lock := by
  intro s unlock keep lock
  have unlocking : ((unlock.procedure "d").run Script.drive s).trace.requests =
      [.getStatus default, .lockUnlock (lockOperationRequest 3 false (some [1, 2, 3])), keep] := by
    subst s unlock keep
    rfl
  have locking : (((Operation.lock 3).procedure "d").run Script.drive s).trace.requests =
      [.getStatus default, lock] := by
    subst s lock
    rfl
  have kept : keep ∈ ((unlock.procedure "d").run Script.drive s).trace.requests := by simp [unlocking]
  have locked : lock ∈ (((Operation.lock 3).procedure "d").run Script.drive s).trace.requests := by simp [locking]
  exact ⟨⟨kept, requests_filled kept⟩, locked, requests_filled locked⟩

end OpalLocking
