import ScopeSearch.Text.Printable

/-!
# ScopeSearch.Text.Quoted — a text in quotes on one line

`quoted` shows a text between double quotes: quotes and backslashes are escaped by a backslash,
the common control characters have short escapes, and every other character without a printed
form of its own is shown by its code point, as in `\u{200b}`.
-/

namespace ScopeSearch.Text

/-- One character of a quoted text. -/
def quotedChar (c : Char) : List Char :=
  if c = '"' then ['\\', '"']
  else if c = '\\' then ['\\', '\\']
  else if c = '\n' then ['\\', 'n']
  else if c = '\r' then ['\\', 'r']
  else if c = '\t' then ['\\', 't']
  else if c = '\x00' then ['\\', '0']
  else if isPrintable c then [c]
  else ['\\', 'u', '\x7b'] ++ Nat.toDigits 16 c.toNat ++ ['\x7d']

/-- A text between double quotes, on one line. -/
def quoted (s : String) : String :=
  String.ofList ('"' :: s.toList.flatMap quotedChar ++ ['"'])

end ScopeSearch.Text
