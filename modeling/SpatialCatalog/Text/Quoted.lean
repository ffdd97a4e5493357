import SpatialCatalog.Text.Unprintable

/-!
# Quoted text in diagnostics

A message that repeats a text it was given puts it between double quotes. Quotes, backslashes and
the usual controls have a short escape, all other unprintable characters are written by code point
between braces, and the rest stands as it is.
-/

namespace SpatialCatalog

/-- A natural number in lower-case hexadecimal digits, most significant first. -/
def hexDigits (n : Nat) : List Char := Nat.toDigits 16 n

/-- A character as it stands between the quotes. -/
def quotedChar (c : Char) : List Char :=
  match c with
  | '"' => ['\\', '"']
  | '\\' => ['\\', '\\']
  | '\n' => ['\\', 'n']
  | '\r' => ['\\', 'r']
  | '\t' => ['\\', 't']
  | '\x00' => ['\\', '0']
  | c => if isUnprintable c then ['\\', 'u', '{'] ++ hexDigits c.toNat ++ ['}'] else [c]

/-- A text between quotes, with escapes. -/
def quoted (s : String) : String := String.ofList ('"' :: s.toList.flatMap quotedChar ++ ['"'])

end SpatialCatalog
