/-
Log records: what the library tells whoever listens, besides its results.
-/

namespace OpalLocking

/-- How urgent a record is, the most urgent first. -/
inductive Level
  | error
  | warn
  | info
  | debug
deriving DecidableEq, Repr

namespace Level

def name : Level → String
  | .error => "ERROR"
  | .warn => "WARN"
  | .info => "INFO"
  | .debug => "DEBUG"

/-- Zero is the most urgent level. -/
def rank : Level → Nat
  | .error => 0
  | .warn => 1
  | .info => 2
  | .debug => 3

end Level

/-- The part of the library that speaks. -/
inductive Topic
  | session
  | query
  | locking
  | reset
  | provisioning
  | verification
deriving DecidableEq, Repr

/-- The name under which a part of the library is filtered and printed. -/
def Topic.target : Topic → String
  | .session => "sed_range::opal"
  | .query => "sed_range::opal::query"
  | .locking => "sed_range::opal::lock"
  | .reset => "sed_range::opal::reset"
  | .provisioning => "sed_range::opal::setup"
  | .verification => "sed_range::opal::verify"

structure Record where
  level : Level
  topic : Topic
  message : String
deriving DecidableEq, Repr

end OpalLocking
