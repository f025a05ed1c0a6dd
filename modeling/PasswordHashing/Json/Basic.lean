/-!
JSON values, and reading from a text that is consumed from the left. Reading fails in one
of three ways: the text ends too early, the text is no JSON, or a value is not what the
reader of a format wants, for a reason that the format has its own type for.
-/

namespace PasswordHashing

namespace Json

/-- Integers from `-2 ^ 63` to `2 ^ 64 - 1` are exact; all other numbers are floating point. -/
inductive Number
  | integer (value : Int)
  | float (value : Float)

end Json

/-- The members of an object keep their order, and names may repeat. -/
inductive Json
  | null
  | bool (value : Bool)
  | number (value : Json.Number)
  | string (value : String)
  | array (items : List Json)
  | object (members : List (String × Json))

namespace Json

inductive ReadError (δ : Type)
  | truncated
  | malformed
  | data (fault : δ)
  deriving DecidableEq

abbrev Read (δ : Type) : Type → Type := StateT (List Char) (Except (ReadError δ))

variable {δ α : Type}

def fail (e : ReadError δ) : Read δ α := fun _ => .error e

def isSpace (c : Char) : Bool := c == ' ' || c == '\n' || c == '\t' || c == '\r'

def skipSpace (text : List Char) : List Char := text.dropWhile isSpace

/-- The next character that is no space, left in the text. -/
def peekToken : Read δ Char := fun text =>
  match skipSpace text with
  | [] => .error .truncated
  | c :: rest => .ok (c, c :: rest)

/-- The next character that is no space, taken from the text. -/
def readToken : Read δ Char := fun text =>
  match skipSpace text with
  | [] => .error .truncated
  | c :: rest => .ok (c, rest)

/-- The rest of a word whose first letter has been taken. -/
def readWord : List Char → Read δ Unit
  | [] => return ()
  | w :: word => do
    match ← get with
    | [] => fail .truncated
    | c :: rest =>
      if c = w then
        set rest
        readWord word
      else fail .malformed

/-- Reads a whole document, after which nothing but space may follow. -/
def readDocument (read : Read δ α) (text : String) : Except (ReadError δ) α := do
  let (a, rest) ← read text.toList
  match skipSpace rest with
  | [] => .ok a
  | _ => .error .malformed

end Json

end PasswordHashing
