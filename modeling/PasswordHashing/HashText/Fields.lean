import PasswordHashing.HashText.Error

/-!
The fields of a hash text. Each field follows a separator, so a text starts with one,
and no field is empty. Splitting a text into its fields and joining fields into a text
are the two directions of the same layout.
-/

namespace PasswordHashing.HashText

def separator : Char := '$'

def fields (text : String) : Except ParseError (List String) :=
  match text.toList with
  | [] => .error .empty
  | c :: rest =>
    if c = separator then
      let parts := rest.splitOn separator
      if [] ∈ parts then .error .emptyField else .ok (parts.map String.ofList)
    else .error .missingSeparator

/-- A separator and the field, for each field in turn. -/
def join (fields : List String) : String :=
  String.ofList (fields.flatMap fun field => separator :: field.toList)

end PasswordHashing.HashText
