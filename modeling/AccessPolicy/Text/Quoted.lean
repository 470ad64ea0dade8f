import AccessPolicy.Text.Hexadecimal
import AccessPolicy.Text.Printable

/-!
# AccessPolicy.Text.Quoted

A text between double quotes, as error messages show one:

1. NUL, tab, line feed, carriage return, the double quote and the backslash
   have a backslash form of two characters;
2. any other character that does not show by itself is written by its code
   point, `\u{…}` in lowercase hexadecimal;
3. all else stands as it is.
-/

namespace AccessPolicy.Text

/-- How one character is written between quotes. -/
def quoteChar (c : Char) : List Char :=
  if c = '\x00' then ['\\', '0']
  else if c = '\t' then ['\\', 't']
  else if c = '\n' then ['\\', 'n']
  else if c = '\r' then ['\\', 'r']
  else if c = '"' then ['\\', '"']
  else if c = '\\' then ['\\', '\\']
  else if isPrintable c then [c]
  else ['\\', 'u', '\x7b'] ++ hexNumeral c.toNat ++ ['\x7d']

/-- A text between double quotes. -/
def quoted (s : String) : String :=
  String.ofList ('"' :: s.toList.flatMap quoteChar ++ ['"'])

theorem toList_quoted (s : String) :
    (quoted s).toList = '"' :: s.toList.flatMap quoteChar ++ ['"'] := by
  simp [quoted]

end AccessPolicy.Text
