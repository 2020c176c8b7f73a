/-
Numbers as arguments: decimal digits after an optional sign.

The digits are read from the left, and the first thing wrong decides: a character that is no digit, or a
digit that takes the number beyond its limit. Leading zeros and a leading plus are accepted; a lone sign
is not a number.
-/

namespace OpalLocking.CommandLine

/-- Why a text is not a number of the kind that is wanted. -/
inductive NumberError
  | empty
  | invalidDigit
  | tooLarge
  | tooSmall
  /-- A number, but not of 32 bits. -/
  | outOfRange (number : Int)
deriving DecidableEq, Repr

namespace NumberError

def message : NumberError → String
  | .empty => "cannot parse integer from empty string"
  | .invalidDigit => "invalid digit found in string"
  | .tooLarge => "number too large to fit in target type"
  | .tooSmall => "number too small to fit in target type"
  | .outOfRange number => s!"{number} is not in 0..=4294967295"

end NumberError

/-- Appends decimal digits to `n`, which may not pass `limit`. -/
def readDigits (limit : Nat) (beyond : NumberError) (n : Nat) : List Char → Except NumberError Nat
  | [] => .ok n
  | c :: rest =>
    if c.isDigit then
      let n := 10 * n + (c.toNat - '0'.toNat)
      if limit < n then .error beyond else readDigits limit beyond n rest
    else .error .invalidDigit

/-- A number of 64 bits without a sign. -/
def readUnsigned : List Char → Except NumberError UInt64
  | [] => .error .empty
  | ['+'] => .error .invalidDigit
  | '+' :: digits => UInt64.ofNat <$> readDigits (UInt64.size - 1) .tooLarge 0 digits
  | digits => UInt64.ofNat <$> readDigits (UInt64.size - 1) .tooLarge 0 digits

/-- A number of 64 bits with a sign. -/
def readSigned : List Char → Except NumberError Int
  | [] => .error .empty
  | ['+'] => .error .invalidDigit
  | ['-'] => .error .invalidDigit
  | '+' :: digits => Int.ofNat <$> readDigits (UInt64.size / 2 - 1) .tooLarge 0 digits
  | '-' :: digits => (fun n => -Int.ofNat n) <$> readDigits (UInt64.size / 2) .tooSmall 0 digits
  | digits => Int.ofNat <$> readDigits (UInt64.size / 2 - 1) .tooLarge 0 digits

/-- A number of 32 bits without a sign, read as a signed one first. -/
def readSegment (text : List Char) : Except NumberError UInt32 := do
  let number ← readSigned text
  if 0 ≤ number ∧ number < UInt32.size then .ok (UInt32.ofNat number.toNat) else .error (.outOfRange number)

end OpalLocking.CommandLine
