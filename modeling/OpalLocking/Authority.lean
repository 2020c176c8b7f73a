/-
Who speaks to a drive, and the states a range's lock can be in.

Range `n` belongs to user `n + 1`, since user 1 belongs to the global range 0.
-/

namespace OpalLocking

/-- An identity within the drive's locking provider. -/
inductive Authority
  | admin1
  | user (number : UInt32)
deriving DecidableEq, Repr

namespace Authority

/-- The user that owns range `segment`. -/
def ofSegment (segment : UInt32) : Authority :=
  .user (segment + 1)

/-- The word that names an authority in a parameter block. -/
def who : Authority → UInt32
  | .admin1 => 0
  | .user number => number

def name : Authority → String
  | .admin1 => "Admin1"
  | .user number => s!"User{number.toNat}"

/-- The highest user a drive knows. -/
def lastUser : UInt32 := 9

end Authority

/-- The state of a range's lock. -/
inductive LockState
  | readOnly
  | readWrite
  | locked
deriving DecidableEq, Repr

namespace LockState

/-- The word that stands for a state in a parameter block. -/
def word : LockState → UInt32
  | .readOnly => 1
  | .readWrite => 2
  | .locked => 4

/-- Only the three words of the states decode. -/
def ofWord? (w : UInt32) : Option LockState :=
  if w = 1 then some .readOnly
  else if w = 2 then some .readWrite
  else if w = 4 then some .locked
  else none

def name : LockState → String
  | .readOnly => "ReadOnly"
  | .readWrite => "ReadWrite"
  | .locked => "Locked"

theorem ofWord?_word (s : LockState) : ofWord? s.word = some s := by
  cases s <;> decide

theorem word_of_ofWord? {w : UInt32} {s : LockState} (h : ofWord? w = some s) : s.word = w := by
  unfold ofWord? at h
  split at h
  · cases h; simp_all [word]
  split at h
  · cases h; simp_all [word]
  split at h
  · cases h; simp_all [word]
  · cases h

end LockState

end OpalLocking
