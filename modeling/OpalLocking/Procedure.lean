/-
What a host runs against a drive.

A procedure is a tree: it opens the drive, submits requests and goes on with each possible answer, speaks
to the log, takes and gives back buffers for key material, for which there may be no memory, and ends in a
value or an error. Nothing about a particular drive is in it, so one procedure can be run against every drive there is
(`OpalLocking.Drive`), and several can be run interleaved against one.

`Procedure.bind` makes procedures a monad in which an error ends the rest.
-/
import OpalLocking.Call
import OpalLocking.Error
import OpalLocking.Record

namespace OpalLocking

/-- A run of a host against a drive, with every answer still open. -/
inductive Procedure (α : Type) where
  | done (result : Except Error α)
  | openDrive (next : Except OpenFailure Unit → Procedure α)
  | call (request : Request) (next : Answer request → Procedure α)
  | log (record : Record) (next : Procedure α)
  /-- Asks for a buffer for key material, and goes on with whether it could be had. -/
  | acquire (next : Bool → Procedure α)
  /-- Gives back the buffer taken last. -/
  | release (next : Procedure α)

namespace Procedure

variable {α β γ : Type}

/-- Goes on with the result of a procedure, be it a value or an error. -/
def continueWith (p : Procedure α) (f : Except Error α → Procedure β) : Procedure β :=
  match p with
  | .done result => f result
  | .openDrive next => .openDrive fun outcome => (next outcome).continueWith f
  | .call request next => .call request fun answer => (next answer).continueWith f
  | .log record next => .log record (next.continueWith f)
  | .acquire next => .acquire fun granted => (next granted).continueWith f
  | .release next => .release (next.continueWith f)

/-- Goes on with the value of a procedure; an error stays. -/
def bind (p : Procedure α) (f : α → Procedure β) : Procedure β :=
  p.continueWith fun
    | .ok value => f value
    | .error e => .done (.error e)

instance : Monad Procedure where
  pure value := .done (.ok value)
  bind := bind

def fail (e : Error) : Procedure α :=
  .done (.error e)

instance : MonadLift (Except Error) Procedure where
  monadLift result := .done result

/-- The result of a procedure as a value, errors included. -/
def attempt (p : Procedure α) : Procedure (Except Error α) :=
  p.continueWith fun result => .done (.ok result)

/-- Runs a procedure with one more buffer, which is given back however the procedure ends. If there is no
memory for the buffer, nothing is run. -/
def withBuffer (p : Procedure α) : Procedure α :=
  .acquire fun
    | true => p.continueWith fun result => .release (.done result)
    | false => fail .outOfMemory

/-- Submits one request. -/
def submit (request : Request) : Procedure (Answer request) :=
  .call request fun answer => .done (.ok answer)

def record (level : Level) (topic : Topic) (message : String) : Procedure Unit :=
  .log ⟨level, topic, message⟩ (.done (.ok ()))

/-! ## Laws -/

theorem continueWith_done (p : Procedure α) : p.continueWith .done = p := by
  induction p with
  | done result => rfl
  | openDrive next ih => simp only [continueWith, ih]
  | call request next ih => simp only [continueWith, ih]
  | log record next ih => simp only [continueWith, ih]
  | acquire next ih => simp only [continueWith, ih]
  | release next ih => simp only [continueWith, ih]

theorem continueWith_continueWith (p : Procedure α) (f : Except Error α → Procedure β)
    (g : Except Error β → Procedure γ) :
    (p.continueWith f).continueWith g = p.continueWith fun result => (f result).continueWith g := by
  induction p with
  | done result => rfl
  | openDrive next ih => simp only [continueWith, ih]
  | call request next ih => simp only [continueWith, ih]
  | log record next ih => simp only [continueWith, ih]
  | acquire next ih => simp only [continueWith, ih]
  | release next ih => simp only [continueWith, ih]

theorem attempt_bind (p : Procedure α) (f : Except Error α → Procedure β) : p.attempt >>= f = p.continueWith f :=
  continueWith_continueWith p _ _

instance : LawfulMonad Procedure := LawfulMonad.mk' Procedure
  (by
    intro α p
    show p.continueWith _ = p
    have : (fun r : Except Error α => match r with
        | .ok value => Procedure.done (.ok (id value))
        | .error e => .done (.error e)) = Procedure.done := by
      funext r; cases r <;> rfl
    exact (congrArg p.continueWith this).trans p.continueWith_done)
  (fun _ _ => rfl)
  (by
    intro α β γ p f g
    show (p.continueWith _).continueWith _ = p.continueWith _
    rw [continueWith_continueWith]
    congr 1
    funext r
    cases r <;> rfl)

end Procedure

end OpalLocking
