/-
The word a control call answers with.

A status is a method status of the drive when it is not negative, and a negated error number when the
call never reached the drive. This module is the only place that reads the word; everything else
branches on its class.
-/
import OpalLocking.Errno

namespace OpalLocking

/-- How a status steers what the host does next. -/
inductive StatusClass
  | success
  | notAuthorized
  /-- Any other method status, the generic failure included. -/
  | failed
  /-- The call never reached the drive. -/
  | system
deriving DecidableEq, Repr

/-- The raw answer of one control call. -/
structure Status where
  raw : Int32
deriving DecidableEq, Repr

namespace Status

def success : Status := ⟨0⟩
def notAuthorized : Status := ⟨1⟩
def invalidParameter : Status := ⟨0x0B⟩

/-- The generic failure of a method. -/
def failure : Status := ⟨0x3F⟩

/-- A system error is kept as the negated error number. -/
def ofErrno (e : Errno) : Status :=
  ⟨-(Int32.ofNat e.number)⟩

/-- The status of a control call that the kernel either passed on to the drive or refused. -/
def ofControl : Except Errno Int32 → Status
  | .ok raw => ⟨raw⟩
  | .error e => ofErrno e

def classify (s : Status) : StatusClass :=
  if s.raw = 0 then .success
  else if s.raw = 1 then .notAuthorized
  else if s.raw < 0 then .system
  else .failed

def isSuccess (s : Status) : Bool :=
  s.classify = .success

/-- The texts of the method statuses, by number. -/
def methodTexts : List String := [
  "success",
  "not authorized",
  "obsolete",
  "SP busy",
  "SP failed",
  "SP disabled",
  "SP frozen",
  "no sessions available",
  "uniqueness conflict",
  "insufficient space",
  "insufficient rows",
  "invalid parameter",
  "obsolete",
  "obsolete",
  "TPer malfunction",
  "transaction failure",
  "response overflow",
  "authority locked out"]

def text (s : Status) : String :=
  if s.raw < 0 then Errno.text ⟨(-s.raw.toInt).toNat⟩
  else if s = failure then "unknown failure"
  else methodTexts[s.raw.toInt.toNat]?.getD "unknown error"

end Status

end OpalLocking
