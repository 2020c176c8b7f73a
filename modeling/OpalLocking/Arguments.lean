/-
What an operation refuses before it opens the drive: keys of no or too many bytes, and segments that are
not handed out.
-/
import OpalLocking.Block
import OpalLocking.Error

namespace OpalLocking

/-- Ranges 1 to 8 are handed out; range 0 is the global one. -/
def firstSegment : UInt32 := 1

def lastSegment : UInt32 := 8

/-- A key must have at least one byte and at most as many as its length byte can say. -/
def checkKey (role : KeyRole) (key : Secret) : Except Error Unit :=
  if key.isEmpty then .error (.emptyKey role)
  else if maxKeyLength < key.length then .error (.keyTooLong role key.length)
  else .ok ()

def checkSegment (segment : UInt32) : Except Error Unit :=
  if firstSegment ≤ segment ∧ segment ≤ lastSegment then .ok ()
  else .error (.segmentOutOfRange segment)

end OpalLocking
