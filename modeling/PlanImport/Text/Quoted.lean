import PlanImport.Text.Printable

/-!
# Quoted texts

A text between double quotes, as error messages show one. The quote and the backslash are
escaped, so are the usual control characters, and every other character that is not printable
is written by its number, so the quoted form is one line of visible characters.
-/

namespace PlanImport.Text

def quotedChar (c : Char) : List Char :=
  if c = '"' then ['\\', '"']
  else if c = '\\' then ['\\', '\\']
  else if c = '\t' then ['\\', 't']
  else if c = '\n' then ['\\', 'n']
  else if c = '\r' then ['\\', 'r']
  else if c = '\x00' then ['\\', '0']
  else if isPrintable c then [c]
  else ['\\', 'u', '\x7b'] ++ Nat.toDigits 16 c.toNat ++ ['\x7d']

/-- A text between double quotes. -/
def quoted (s : String) : String :=
  String.ofList ('"' :: s.toList.flatMap quotedChar ++ ['"'])

end PlanImport.Text
