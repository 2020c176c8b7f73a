/-
A device node that is no drive with locking support.

Such a node may open, but it knows none of the control calls: each is refused with the same system error,
and no reading is filled.
-/
import OpalLocking.Drive

namespace OpalLocking

/-- What becomes of opening the node. -/
structure Node where
  outcome : Except OpenFailure Unit

namespace Node

def drive : Drive Node where
  opening n := (n.outcome, n)
  answer n r := (⟨.ofErrno .notTypewriter, r.submitted⟩, n)

end Node

end OpalLocking
