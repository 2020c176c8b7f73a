/-
Opening a drive and judging the status of each step.

Every operation opens the drive anew, so nothing about the drive's state outlives it. A step that the
drive refuses for lack of authority can be tried again with other credentials; every other status ends
the operation for good. Only at the first call of a session does a system error mean that the host has no
locking support at all.
-/
import OpalLocking.Procedure

namespace OpalLocking

/-- Opens the drive that messages call `device`. -/
def openDevice (device : String) : Procedure Unit :=
  .openDrive fun
    | .ok () => pure ()
    | .error why => .fail (.cannotOpen device why)

/-- Goes on if `status` is a success, and otherwise fails in the name of `step`. -/
def expect (step : Step) (device : String) (status : Status) : Procedure Unit :=
  match status.classify with
  | .success => pure ()
  | .notAuthorized => do
    .record .debug .session s!"Failed to {step.text} on OPAL device '{device}': permission denied"
    .fail (.notAuthorized step device)
  | .failed | .system => do
    let raw := status.raw.toInt
    .record .debug .session s!"Failed to {step.text} on OPAL device '{device}': ({raw}) {status.text}"
    .fail (.stepFailed step device status)

/-- Like `expect`, for a call that opens a session: there, a system error means no support. -/
def expectEntry (step : Step) (device : String) (status : Status) : Procedure Unit := do
  if status.classify = .system then
    .record .debug .session s!"OPAL not supported on this kernel version, refusing ({status.text})."
    .fail (.unsupportedByKernel device status)
  else
    expect step device status

end OpalLocking
