import PasswordHashing.Algorithm
import PasswordHashing.Error
import PasswordHashing.HashText.Error
import PasswordHashing.Profile.Kind

/-!
What is logged, and the outcome of an operation beside it. Events name profiles,
algorithms and errors, and never a password, a secret, a salt or a digest. A password
that is simply wrong is not logged.
-/

namespace PasswordHashing

inductive Event
  | hashing (kind : ProfileKind)
  | deriving (kind : ProfileKind)
  | parseRejected (error : HashText.ParseError)
  | maskedNeedsProfile (algorithm : Algorithm)
  | otherFamily (family : Family) (algorithm : Algorithm)
  | foreignAlgorithm (family : Family) (algorithm : Algorithm)
  | recomputationFailed (family : Family) (error : HashingError)
  | bcryptPasswordTooLong
  | bcryptTextRejected
  deriving DecidableEq

namespace Event

inductive Level
  | debug
  | trace
  deriving DecidableEq

def Level.name : Level → String
  | .debug => "DEBUG"
  | .trace => "TRACE"

def level : Event → Level
  | .hashing _ => .trace
  | .deriving _ => .trace
  | _ => .debug

def message : Event → String
  | .hashing _ => "hashing password"
  | .deriving _ => "deriving key"
  | .parseRejected _ => "hash text rejected"
  | .maskedNeedsProfile _ => "masked hash needs its profile"
  | .otherFamily .. => "hash belongs to another algorithm family"
  | .foreignAlgorithm family _ => family.name ++ " profile given a foreign hash"
  | .recomputationFailed family _ => family.name ++ " recomputation failed"
  | .bcryptPasswordTooLong => "bcrypt password too long"
  | .bcryptTextRejected => "bcrypt text rejected"

/-- The names and values of what an event carries. -/
def attributes : Event → List (String × String)
  | .hashing kind => [("profile", kind.name)]
  | .deriving kind => [("profile", kind.name)]
  | .parseRejected error => [("err", error.message)]
  | .maskedNeedsProfile algorithm => [("algorithm", algorithm.identifier)]
  | .otherFamily family algorithm =>
    [("family", family.name), ("algorithm", algorithm.identifier)]
  | .foreignAlgorithm _ algorithm => [("algorithm", algorithm.identifier)]
  | .recomputationFailed _ error => [("err", error.message)]
  | .bcryptPasswordTooLong => []
  | .bcryptTextRejected => []

/-- The event as a line of a log. -/
def line (e : Event) : String :=
  e.level.name ++ " " ++ e.message ++
    String.join (e.attributes.map fun a => " " ++ a.1 ++ "=" ++ a.2)

end Event

structure Outcome (α : Type) where
  result : Except HashingError α
  events : List Event

namespace Outcome

/-- A comparison that failed, with what there is to say about it. -/
def mismatch {α : Type} (events : List Event) : Outcome α := ⟨.error .mismatch, events⟩

def accepted : Outcome Unit := ⟨.ok (), []⟩

/-- A comparison that came to an answer. -/
def ofAnswer (answer : Bool) : Outcome Unit := if answer then accepted else mismatch []

end Outcome

end PasswordHashing
