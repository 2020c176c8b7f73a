/-
The parameter blocks that a host hands to a drive, and the readings a drive hands back.

A key travels in a fixed array of 256 bytes with a length byte beside it, so a key has at most 255
bytes; what the array holds behind the length is not part of the key. `KeyBlock.content_fill` says
that a key of accepted length arrives whole.
-/

namespace OpalLocking

/-- Key material: a password, an owner's key or a drive's PSID. -/
abbrev Secret := List UInt8

/-- The longest key, since its length is a single byte. -/
def maxKeyLength : Nat := 255

/-- The number of locking ranges of a drive, the global range 0 among them. -/
def rangeCount : Nat := 9

/-- The number of entries in a drive's user table; entry 0 is never used. -/
def userCount : Nat := 10

/-- The array that carries a key: its bytes, then zeros. -/
def keyArray (key : Secret) : Vector UInt8 256 :=
  ⟨(key.take 256 ++ List.replicate (256 - key.length) 0).toArray, by simp; omega⟩

/-- A key with the range it is addressed at. -/
structure KeyBlock where
  range : UInt8
  length : UInt8
  /-- How the key is supplied; zero says that the block includes it. -/
  kind : UInt8
  bytes : Vector UInt8 256
deriving DecidableEq, Repr

namespace KeyBlock

def blank : KeyBlock := ⟨0, 0, 0, keyArray []⟩

/-- The block for `key` at `range`. A key longer than the limit is cut, so callers check it first. -/
def fill (range : UInt8) (key : Secret) : KeyBlock :=
  let kept := key.take maxKeyLength
  { range, length := UInt8.ofNat kept.length, kind := 0, bytes := keyArray kept }

/-- The key that a drive reads out of the block. -/
def content (k : KeyBlock) : Secret :=
  k.bytes.toList.take k.length.toNat

theorem content_fill {range : UInt8} {key : Secret} (h : key.length ≤ maxKeyLength) :
    (fill range key).content = key := by
  have hlen : key.length < 256 := by simp [maxKeyLength] at h; omega
  have hkept : key.take maxKeyLength = key := List.take_of_length_le h
  simp [content, fill, keyArray, hkept, Vector.toList, Nat.mod_eq_of_lt hlen,
    List.take_of_length_le (Nat.le_of_lt hlen)]

end KeyBlock

/-- Who speaks, with which key. -/
structure Session where
  /-- Single user mode; never asked for. -/
  singleUser : UInt32
  who : UInt32
  key : KeyBlock
deriving DecidableEq, Repr

namespace Session

/-- A session of the authority named by `who`, its key addressed at `range`. -/
def opening (who : UInt32) (range : UInt8) (key : Secret) : Session :=
  { singleUser := 0, who, key := .fill range key }

end Session

/-- Activation of the locking provider with a list of ranges. -/
structure Activation where
  key : KeyBlock
  singleUser : UInt32
  count : UInt8
  ranges : Vector UInt8 9
deriving DecidableEq, Repr

/-- A new password for the authority of `user`, set by the authority of `session`. -/
structure NewPassword where
  session : Session
  user : Session
deriving DecidableEq, Repr

/-- Bounds and lock enables of a range, in native blocks. -/
structure RangeSetup where
  start : UInt64
  length : UInt64
  readLock : UInt32
  writeLock : UInt32
  session : Session
deriving DecidableEq, Repr

/-- A lock state, asked for or granted. -/
structure LockRequest where
  session : Session
  state : UInt32
  flags : UInt16
deriving DecidableEq, Repr

/-- Asks the kernel to keep the key of a request for later lock requests. -/
def saveForLock : UInt16 := 1

/-! ## Readings -/

/-- The feature word of a drive. -/
structure StatusFlags where
  word : UInt32
deriving DecidableEq, Repr, Inhabited

/-- Addressing constraints as a drive reports them. -/
structure GeometryReading where
  align : UInt8
  blockSize : UInt32
  granularity : UInt64
  lowest : UInt64
deriving DecidableEq, Repr, Inhabited

/-- A range as a drive reports it, in native blocks. -/
structure RangeReading where
  start : UInt64
  length : UInt64
  readLock : UInt32
  writeLock : UInt32
  state : UInt32
deriving DecidableEq, Repr, Inhabited

end OpalLocking
