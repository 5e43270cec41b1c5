import AlertSync.Numeral.Binary64
import AlertSync.Yaml.Plain

/-!
# How scalars are written

A scalar is written without quotes where it reads back as itself; otherwise between single quotes,
between double quotes with escapes, or, over several lines, as a literal block. Which of the four
follows from the characters of the text and from whether it is the key of a mapping.
-/

namespace AlertSync.Yaml

/-- The four ways in which the text of a scalar is written. -/
inductive Style
  | plain
  | single
  | double
  | literal
  deriving DecidableEq, Repr

/-- Whether a character ends a line. -/
def isBreak (c : Char) : Bool :=
  c == '\n' || c == '\r' || c == '\x85' || c == '\u2028' || c == '\u2029'

/-- Whether a character separates tokens. -/
def isBlankOrBreak (c : Char) : Bool := c == ' ' || c == '\t' || isBreak c

/-- Whether a character may stand in a scalar as it is. -/
def isPlainChar (c : Char) : Bool :=
  let n := c.toNat
  n == 0x0a || (0x20 ≤ n && n ≤ 0x7e) || (0xa0 ≤ n && n ≤ 0xd7ff) ||
    (0xe000 ≤ n && n ≤ 0xfffd && n != 0xfeff) || 0x10000 ≤ n

namespace ScalarText

/-- The characters that mean something at the head of a scalar. -/
def isIndicator (c : Char) : Bool :=
  ['#', ',', '[', ']', '\x7b', '\x7d', '&', '*', '!', '|', '>', '\'', '"', '%', '@',
    '\x60'].contains c

/-- Whether a blank, a line break or the end comes next. -/
def endsWord : List Char → Bool
  | [] => true
  | c :: _ => isBlankOrBreak c

/-- Whether a character at the head of a scalar would be read as more than text. -/
def headIndicates (cs : List Char) : Bool :=
  match cs with
  | [] => false
  | c :: r =>
    isIndicator c || ((c == '?' || c == ':' || c == '-') && endsWord r) ||
      ['-', '-', '-'].isPrefixOf cs || ['.', '.', '.'].isPrefixOf cs

/-- Whether a later character would be read as more than text: a colon before a blank, or a number
sign after one. -/
def bodyIndicates : Char → List Char → Bool
  | _, [] => false
  | before, c :: r =>
    (c == ':' && endsWord r) || (c == '#' && isBlankOrBreak before) || bodyIndicates c r

/-- Whether the text would be read as more than text. -/
def indicates (cs : List Char) : Bool :=
  headIndicates cs || match cs with
    | c :: r => bodyIndicates c r
    | [] => false

/-- Whether a character of the first class stands right before one of the second. -/
def hasPair (p q : Char → Bool) : List Char → Bool
  | a :: b :: r => (p a && q b) || hasPair p q (b :: r)
  | _ => false

def isSpace (c : Char) : Bool := c == ' '

/-- Whether a class holds the first character, or the last. -/
def startsWith (p : Char → Bool) (cs : List Char) : Bool := cs.head?.any p

@[inherit_doc startsWith]
def finishesWith (p : Char → Bool) (cs : List Char) : Bool := cs.getLast?.any p

/-- Whether the text holds a line break. -/
def isMultiline (cs : List Char) : Bool := cs.any isBreak

/-- Whether only escapes can write the text. -/
def needsEscapes (cs : List Char) : Bool :=
  hasPair isSpace isBreak cs || !cs.all isPlainChar

/-- Whether the text may stand without quotes. -/
def plainAllowed (cs : List Char) : Bool :=
  !needsEscapes cs && !isMultiline cs && !indicates cs &&
    !startsWith isSpace cs && !finishesWith isSpace cs

/-- Whether the text may stand between single quotes. -/
def singleAllowed (cs : List Char) : Bool :=
  !needsEscapes cs && !hasPair isBreak isSpace cs

/-- Whether the text may stand in a literal block. -/
def literalAllowed (cs : List Char) : Bool :=
  !needsEscapes cs && cs != [] && !finishesWith isSpace cs

/-- Whether a string has to be told apart from what its text denotes. -/
def isAmbiguous (cs : List Char) : Bool :=
  Plain.of cs != .text || Plain.paddedDigits cs

/-- The style of a string, which is the key of a mapping or is not. -/
def style (cs : List Char) (isKey : Bool) : Style :=
  let quoted := if singleAllowed cs && !(isKey && isMultiline cs) then Style.single else .double
  if cs.contains '\n' then
    if literalAllowed cs && !isKey then .literal else .double
  else if isAmbiguous cs then quoted
  else if plainAllowed cs && !(isKey && isMultiline cs) then .plain
  else quoted

/-- The escaped form of a character between double quotes. -/
def escapeChar (c : Char) : List Char :=
  if c = '"' then ['\\', '"']
  else if c = '\\' then ['\\', '\\']
  else if isPlainChar c && !isBreak c then [c]
  else match c with
    | '\x00' => ['\\', '0']
    | '\x07' => ['\\', 'a']
    | '\x08' => ['\\', 'b']
    | '\t' => ['\\', 't']
    | '\n' => ['\\', 'n']
    | '\x0b' => ['\\', 'v']
    | '\x0c' => ['\\', 'f']
    | '\r' => ['\\', 'r']
    | '\x1b' => ['\\', 'e']
    | '\x85' => ['\\', 'N']
    | '\u2028' => ['\\', 'L']
    | '\u2029' => ['\\', 'P']
    | c =>
      if c.toNat ≤ 0xff then '\\' :: 'x' :: Numeral.upperHex 2 c.toNat
      else if c.toNat ≤ 0xffff then '\\' :: 'u' :: Numeral.upperHex 4 c.toNat
      else '\\' :: 'U' :: Numeral.upperHex 8 c.toNat

/-- The text between double quotes. -/
def doubleQuoted (cs : List Char) : List Char := '"' :: (cs.flatMap escapeChar ++ ['"'])

/-- The text after a line break, or not, up to its closing quote: a quote is written twice, and
what follows a line break is indented. -/
def singleBody (indent : Nat) (afterBreak : Bool) : List Char → List Char
  | [] => (if afterBreak then List.replicate indent ' ' else []) ++ ['\'']
  | c :: r =>
    if isBreak c then c :: singleBody indent true r
    else
      (if afterBreak then List.replicate indent ' ' else []) ++
        (if c = '\'' then ['\'', '\''] else [c]) ++ singleBody indent false r

/-- The text between single quotes. -/
def singleQuoted (indent : Nat) (cs : List Char) : List Char := '\'' :: singleBody indent false cs

/-- The lines of a literal block: each line that is not empty is indented. -/
def literalBody (indent : Nat) (afterBreak : Bool) : List Char → List Char
  | [] => []
  | c :: r =>
    if isBreak c then c :: literalBody indent true r
    else (if afterBreak then List.replicate indent ' ' else []) ++ c :: literalBody indent false r

/-- What the head of a literal block says about its line breaks at the end: none is kept, one, or
all of them. -/
def chomping (cs : List Char) : List Char :=
  match cs.reverse with
  | [] => ['-']
  | [c] => if isBreak c then ['+'] else ['-']
  | c :: d :: _ => if isBreak c then (if isBreak d then ['+'] else []) else ['-']

/-- The text as a literal block. The head gives the indentation where the first line would hide
it. -/
def literalBlock (indent : Nat) (cs : List Char) : List Char :=
  let hint := if startsWith (fun c => isSpace c || isBreak c) cs then ['2'] else []
  '|' :: (hint ++ chomping cs ++ '\n' :: literalBody indent true cs)

/-- A string as it is written at a place whose lines are indented by `indent`. -/
def chars (indent : Nat) (isKey : Bool) (s : String) : List Char :=
  let cs := s.toList
  match style cs isKey with
  | .plain => cs
  | .single => singleQuoted indent cs
  | .double => doubleQuoted cs
  | .literal => literalBlock indent cs

end ScalarText

end AlertSync.Yaml
