import PasswordHashing.Profile

/-!
Runs of a profile: calls one after another, each on the profile that the one before it left
behind. The fresh salt of a hash comes with its call, so that a run depends on its calls and
on nothing else.
-/

namespace PasswordHashing.Profile

inductive Call
  | setSecret (secret : Bytes)
  | derive (password salt : Bytes)
  | hash (password fresh : Bytes)
  | compare (text : String) (password : Bytes)
  deriving DecidableEq

inductive Reply
  | secretSet (result : Except HashingError Unit)
  | key (outcome : Outcome Bytes)
  | text (outcome : Outcome String)
  | verdict (outcome : Outcome Unit)

def call (p : Profile) : Call → Reply × Profile
  | .setSecret secret => (.secretSet (p.setSecret secret).1, (p.setSecret secret).2)
  | .derive password salt => (.key (p.derive password salt).1, (p.derive password salt).2)
  | .hash password fresh => (.text (p.hash password fresh), p)
  | .compare text password => (.verdict (p.compare text password), p)

/-- The replies in their order, and the profile after the last call. -/
def run (p : Profile) : List Call → List Reply × Profile
  | [] => ([], p)
  | c :: rest => ((p.call c).1 :: ((p.call c).2.run rest).1, ((p.call c).2.run rest).2)

end PasswordHashing.Profile
