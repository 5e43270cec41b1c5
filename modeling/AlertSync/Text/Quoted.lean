import AlertSync.Numeral.Decimal
import AlertSync.Text.Extending
import AlertSync.Text.Unprintable

/-!
# Quoted text

A text between double quotes, as messages and silence filters show it: a quote and a backslash
follow a backslash, tab, line feed, carriage return and the null character have their letters, and
a character that cannot be seen on its own is written by its number, as in `\u{200b}`.
-/

namespace AlertSync.Text

/-- The quoted form of one character. -/
def quoteChar (c : Char) : List Char :=
  if c = '\x00' then ['\\', '0']
  else if c = '\t' then ['\\', 't']
  else if c = '\r' then ['\\', 'r']
  else if c = '\n' then ['\\', 'n']
  else if c = '"' then ['\\', '"']
  else if c = '\\' then ['\\', '\\']
  else if isExtending c || isUnprintable c then
    ['\\', 'u', '\x7b'] ++ Numeral.hex c.toNat ++ ['\x7d']
  else [c]

/-- The characters of a text between double quotes. -/
def quoteChars (cs : List Char) : List Char := '"' :: cs.flatMap quoteChar ++ ['"']

/-- A text between double quotes, every character in its quoted form. -/
def quote (s : String) : String := String.ofList (quoteChars s.toList)

end AlertSync.Text
