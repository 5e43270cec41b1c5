import AlertSync.Numeral.Decimal
import AlertSync.Tree

/-!
# Writing JSON

A tree as JSON without blanks. Quotes, backslashes and the controls below the space are escaped,
those that have a letter by it, and every other character stands for itself.
-/

namespace AlertSync.Json

/-- The written form of one character of a string. -/
def escapeChar (c : Char) : List Char :=
  if c = '"' then ['\\', '"']
  else if c = '\\' then ['\\', '\\']
  else if c = '\x08' then ['\\', 'b']
  else if c = '\t' then ['\\', 't']
  else if c = '\n' then ['\\', 'n']
  else if c = '\x0c' then ['\\', 'f']
  else if c = '\r' then ['\\', 'r']
  else if c.toNat < 0x20 then
    let ds := Numeral.hex c.toNat
    ['\\', 'u'] ++ List.replicate (4 - ds.length) '0' ++ ds
  else [c]

/-- The characters of a string between its quotes. -/
def stringChars (s : String) : List Char := '"' :: (s.toList.flatMap escapeChar ++ ['"'])

mutual

/-- The characters of a tree. -/
def chars : Tree → List Char
  | .absent => ['n', 'u', 'l', 'l']
  | .flag true => ['t', 'r', 'u', 'e']
  | .flag false => ['f', 'a', 'l', 's', 'e']
  | .number n => Numeral.decimal n
  | .text s => stringChars s
  | .list [] => ['[', ']']
  | .list (t :: r) => '[' :: (chars t ++ itemChars r)
  | .record [] => ['\x7b', '\x7d']
  | .record ((name, t) :: r) => '\x7b' :: (stringChars name ++ ':' :: (chars t ++ partChars r))

/-- The items after the first, and the closing bracket. -/
def itemChars : List Tree → List Char
  | [] => [']']
  | t :: r => ',' :: (chars t ++ itemChars r)

/-- The parts after the first, and the closing brace. -/
def partChars : List (String × Tree) → List Char
  | [] => ['\x7d']
  | (name, t) :: r => ',' :: (stringChars name ++ ':' :: (chars t ++ partChars r))

end

/-- The JSON text of a tree. -/
def text (t : Tree) : String := String.ofList (chars t)

end AlertSync.Json
