import PasswordHashing.Text.Printable

/-!
Text in double quotes. Quote, backslash, tab, line feed, carriage return and the zero
character have short escapes, and a character that cannot be told by sight is written as
its code point; all else stands for itself.
-/

namespace PasswordHashing.Quoted

def hexNumber (n : Nat) : List Char := Nat.toDigits 16 n

def quoteChar (c : Char) : List Char :=
  match c with
  | '"' => ['\\', '"']
  | '\\' => ['\\', '\\']
  | '\t' => ['\\', 't']
  | '\n' => ['\\', 'n']
  | '\r' => ['\\', 'r']
  | '\x00' => ['\\', '0']
  | c => if Printable.isPrintable c then [c] else ['\\', 'u', '{'] ++ hexNumber c.toNat ++ ['}']

def quote (text : String) : String := String.ofList ('"' :: text.toList.flatMap quoteChar ++ ['"'])

end PasswordHashing.Quoted
