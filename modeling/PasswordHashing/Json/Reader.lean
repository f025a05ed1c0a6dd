import PasswordHashing.Json.Number

/-!
Reading JSON text from the left. Space may stand around every token. A value that is kept
may nest no deeper than its depth allows, its strings pair their surrogates and its numbers
have a value; a value that is ignored is only passed over, and there a number that is cut
short is no number. Objects and arrays are folded over with a step for each member or item,
so that a format can look at members as they come; fuel is the length of the text, of which
every step takes some.
-/

namespace PasswordHashing.Json

inductive Purpose
  | keep
  | ignore
  deriving DecidableEq

/-- Containers may nest one level less than this. -/
def maxDepth : Nat := 128

variable {δ σ : Type}

/-! ### Strings -/

/-- Where in a string the reader is. Four bytes follow the `u` of an escape; a leading
surrogate has to be followed by an escape for a trailing one. -/
inductive StringState
  | plain
  | escape
  | hex (seen : List Char) (lead : Option Nat)
  | paired (lead : Nat)
  | pairedEscape (lead : Nat)

def simpleEscape? : Char → Option Char
  | '"' => some '"'
  | '\\' => some '\\'
  | '/' => some '/'
  | 'b' => some '\x08'
  | 'f' => some '\x0c'
  | 'n' => some '\n'
  | 'r' => some '\r'
  | 't' => some '\t'
  | _ => none

def hexDigit? (c : Char) : Option Nat :=
  if c.isDigit then some (c.toNat - '0'.toNat)
  else if 'a' ≤ c ∧ c ≤ 'f' then some (c.toNat - 'a'.toNat + 10)
  else if 'A' ≤ c ∧ c ≤ 'F' then some (c.toNat - 'A'.toNat + 10)
  else none

def hexValue? (digits : List Char) : Option Nat :=
  digits.foldlM (fun value c => (hexDigit? c).map (16 * value + ·)) 0

def isLead (unit : Nat) : Bool := 0xD800 ≤ unit && unit ≤ 0xDBFF

def isTrail (unit : Nat) : Bool := 0xDC00 ≤ unit && unit ≤ 0xDFFF

/-- What follows a complete escape of sixteen bits: a character, or the state that waits
for the other half of one. -/
def afterUnit (purpose : Purpose) (lead : Option Nat) (unit : Nat) :
    Except (ReadError δ) (Char ⊕ StringState) :=
  match purpose, lead with
  | .ignore, _ => .ok (.inr .plain)
  | .keep, some lead =>
    if isTrail unit then .ok (.inl (.ofNat (0x10000 + (lead - 0xD800) * 0x400 + (unit - 0xDC00))))
    else .error .malformed
  | .keep, none =>
    if isTrail unit then .error .malformed
    else if isLead unit then .ok (.inr (.paired unit))
    else .ok (.inl (.ofNat unit))

/-- The rest of a string after its opening quote; `seen` holds its characters, last first. -/
def readString (purpose : Purpose) :
    StringState → List Char → List Char → Except (ReadError δ) (String × List Char)
  | _, _, [] => .error .truncated
  | .plain, seen, c :: text =>
    if c = '"' then .ok (String.ofList seen.reverse, text)
    else if c = '\\' then readString purpose .escape seen text
    else if c.toNat < 0x20 then .error .malformed
    else readString purpose .plain (c :: seen) text
  | .escape, seen, c :: text =>
    if c = 'u' then readString purpose (.hex [] none) seen text
    else
      match simpleEscape? c with
      | some d => readString purpose .plain (d :: seen) text
      | none => .error .malformed
  | .hex digits lead, seen, c :: text =>
    let digits := digits ++ [c]
    if (digits.map Char.utf8Size).sum < 4 then readString purpose (.hex digits lead) seen text
    else
      match hexValue? digits with
      | none => .error .malformed
      | some unit =>
        match afterUnit purpose lead unit with
        | .ok (.inl d) => readString purpose .plain (d :: seen) text
        | .ok (.inr state) => readString purpose state seen text
        | .error e => .error e
  | .paired lead, seen, c :: text =>
    if c = '\\' then readString purpose (.pairedEscape lead) seen text else .error .malformed
  | .pairedEscape lead, seen, c :: text =>
    if c = 'u' then readString purpose (.hex [] (some lead)) seen text else .error .malformed

/-! ### Numbers -/

def readNumber (purpose : Purpose) (negative : Bool) : Read δ Number := fun text =>
  match purpose, readShape negative text with
  | .keep, .ok (shape, rest) =>
    match shape.number? with
    | some value => .ok (value, rest)
    | none => .error .malformed
  | .keep, .error e => .error e
  | .ignore, .ok (_, rest) => .ok (.integer 0, rest)
  | .ignore, .error _ => .error .malformed

/-! ### Objects and arrays -/

def readName (purpose : Purpose) : Read δ String := do
  match ← readToken with
  | '"' => readString purpose .plain []
  | _ => fail .malformed

def readColon : Read δ Unit := do
  match ← readToken with
  | ':' => return ()
  | _ => fail .malformed

/-- Folds over members, the first of which comes next. The step gets the name of a member
and reads what follows the name, colon and all. -/
def foldMembers (purpose : Purpose) (step : σ → String → Read δ σ) : Nat → σ → Read δ σ
  | 0, _ => fail .truncated
  | fuel + 1, s => do
    let name ← readName purpose
    let s ← step s name
    match ← readToken with
    | '}' => return s
    | ',' => foldMembers purpose step fuel s
    | _ => fail .malformed

/-- Folds over the members of an object whose opening brace has been taken. -/
def readMembers (purpose : Purpose) (step : σ → String → Read δ σ) (s : σ) : Read δ σ := do
  match ← peekToken with
  | '}' =>
    let _ ← readToken
    return s
  | _ => foldMembers purpose step ((← get).length + 1) s

/-- Folds over items, the first of which comes next. -/
def foldItems (step : σ → Read δ σ) : Nat → σ → Read δ σ
  | 0, _ => fail .truncated
  | fuel + 1, s => do
    let s ← step s
    match ← readToken with
    | ']' => return s
    | ',' => foldItems step fuel s
    | _ => fail .malformed

/-- Folds over the items of an array whose opening bracket has been taken. -/
def readItems (step : σ → Read δ σ) (s : σ) : Read δ σ := do
  match ← peekToken with
  | ']' =>
    let _ ← readToken
    return s
  | _ => foldItems step ((← get).length + 1) s

/-! ### Values -/

/-- An opening bracket or brace takes one level of depth from a value that is kept. -/
def enter (purpose : Purpose) (depth : Nat) : Read δ Unit :=
  if purpose = .keep ∧ depth ≤ 1 then fail .malformed else return ()

def readValueWith (purpose : Purpose) : Nat → Nat → Read δ Json
  | 0, _ => fail .truncated
  | fuel + 1, depth => do
    match ← readToken with
    | 'n' =>
      readWord ['u', 'l', 'l']
      return .null
    | 't' =>
      readWord ['r', 'u', 'e']
      return .bool true
    | 'f' =>
      readWord ['a', 'l', 's', 'e']
      return .bool false
    | '"' => return .string (← readString purpose .plain [])
    | '-' => return .number (← readNumber purpose true)
    | '[' =>
      enter purpose depth
      let items ← readItems (fun items => do
        let item ← readValueWith purpose fuel (depth - 1)
        return item :: items) []
      return .array items.reverse
    | '{' =>
      enter purpose depth
      let members ← readMembers purpose (fun members name => do
        readColon
        let value ← readValueWith purpose fuel (depth - 1)
        return (name, value) :: members) []
      return .object members.reverse
    | c =>
      if c.isDigit then
        modify (c :: ·)
        return .number (← readNumber purpose false)
      else fail .malformed

/-- A value that may still nest `depth - 1` levels. -/
def readValue (purpose : Purpose) (depth : Nat) : Read δ Json := do
  readValueWith purpose ((← get).length + 1) depth

end PasswordHashing.Json
