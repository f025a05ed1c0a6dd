/-!
The outline of a value for a reader: names of its parts and the text of the smallest ones.
It can be laid out on one line, or in a block with one part a line, where every part is
followed by a comma and stands four spaces further in than what holds it.
-/

namespace PasswordHashing

inductive Outline
  | leaf (text : String)
  | record (name : String) (fields : List (String × Outline))
  | tuple (name : String) (items : List Outline)

namespace Outline

mutual

def line : Outline → String
  | .leaf text => text
  | .record name fields => name ++ " \x7b " ++ ", ".intercalate (fieldLines fields) ++ " \x7d"
  | .tuple name items => name ++ "(" ++ ", ".intercalate (itemLines items) ++ ")"

def fieldLines : List (String × Outline) → List String
  | [] => []
  | (name, value) :: rest => (name ++ ": " ++ value.line) :: fieldLines rest

def itemLines : List Outline → List String
  | [] => []
  | item :: rest => item.line :: itemLines rest

end

def indent (depth : Nat) : String := String.ofList (List.replicate (4 * depth) ' ')

mutual

def block (depth : Nat) : Outline → String
  | .leaf text => text
  | .record name fields => name ++ " \x7b\n" ++ fieldBlocks (depth + 1) fields ++ indent depth ++ "\x7d"
  | .tuple name items => name ++ "(\n" ++ itemBlocks (depth + 1) items ++ indent depth ++ ")"

def fieldBlocks (depth : Nat) : List (String × Outline) → String
  | [] => ""
  | (name, value) :: rest =>
    indent depth ++ name ++ ": " ++ value.block depth ++ ",\n" ++ fieldBlocks depth rest

def itemBlocks (depth : Nat) : List Outline → String
  | [] => ""
  | item :: rest => indent depth ++ item.block depth ++ ",\n" ++ itemBlocks depth rest

end

def bool (b : Bool) : Outline := .leaf (if b then "true" else "false")

def nat (n : Nat) : Outline := .leaf n.repr

/-- A part that may be missing. -/
def option : Option Outline → Outline
  | none => .leaf "None"
  | some value => .tuple "Some" [value]

end Outline

end PasswordHashing
