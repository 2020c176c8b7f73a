/-
A drive that answers from a script, whatever it is asked.

A script has a list of answers for each kind of call. They are given in order and the last one is given
again from then on; a kind without a list always succeeds. An answer overwrites the parts of the reading
that it names and leaves the others as submitted.
-/
import OpalLocking.Drive

namespace OpalLocking

/-- One scripted answer. -/
structure ScriptedAnswer where
  status : Status
  flags : Option UInt32 := none
  align : Option UInt8 := none
  blockSize : Option UInt32 := none
  granularity : Option UInt64 := none
  lowest : Option UInt64 := none
  start : Option UInt64 := none
  length : Option UInt64 := none
  readLock : Option UInt32 := none
  writeLock : Option UInt32 := none
  state : Option UInt32 := none
deriving DecidableEq, Repr

namespace ScriptedAnswer

/-- The answer to a call whose kind has no list. -/
def succeeding : ScriptedAnswer :=
  { status := .success }

/-- What the answer makes of the reading that a request submits. -/
def reading (a : ScriptedAnswer) : (r : Request) → r.Reading
  | .getStatus submitted => { word := a.flags.getD submitted.word }
  | .getGeometry submitted =>
    { align := a.align.getD submitted.align
      blockSize := a.blockSize.getD submitted.blockSize
      granularity := a.granularity.getD submitted.granularity
      lowest := a.lowest.getD submitted.lowest }
  | .getRangeStatus _ submitted =>
    { start := a.start.getD submitted.start
      length := a.length.getD submitted.length
      readLock := a.readLock.getD submitted.readLock
      writeLock := a.writeLock.getD submitted.writeLock
      state := a.state.getD submitted.state }
  | .takeOwnership _ | .activateLsp _ | .setPassword _ | .activateUser _ | .setupRange _ | .addUserToRange _
  | .eraseRange _ | .secureEraseRange _ | .psidRevert _ | .lockUnlock _ | .saveForResume _ => ()

end ScriptedAnswer

/-- What a scripted drive will still answer, and whether it opens at all. -/
structure Script where
  openFailure : Option OpenFailure := none
  answers : List (CallKind × List ScriptedAnswer) := []
deriving DecidableEq, Repr

namespace Script

/-- The answer that is due for a kind of call. -/
def due (s : Script) (kind : CallKind) : ScriptedAnswer :=
  ((s.answers.lookup kind).bind List.head?).getD .succeeding

/-- The script after one call of a kind; the last answer of a list stays. -/
def advance (s : Script) (kind : CallKind) : Script :=
  { s with
    answers := s.answers.map fun (listed, answers) =>
      if listed = kind then
        match answers with
        | _ :: next :: rest => (listed, next :: rest)
        | _ => (listed, answers)
      else (listed, answers) }

/-- A script as a drive. -/
def drive : Drive Script where
  opening s :=
    match s.openFailure with
    | some why => (.error why, s)
    | none => (.ok (), s)
  answer s r :=
    let due := s.due r.kind
    (⟨due.status, due.reading r⟩, s.advance r.kind)

end Script

end OpalLocking
