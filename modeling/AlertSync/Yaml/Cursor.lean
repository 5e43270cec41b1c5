import AlertSync.Yaml.ScalarText

/-!
# Positions in a YAML text

What is left of a text, with the line and column at which it begins. A cursor also knows whether a
key, or the first entry of a block collection, may begin there: after a line break it may, after
most tokens it may not. And it counts the brackets and braces of flow collections that are open.
-/

namespace AlertSync.Yaml

/-- A place in a text. -/
structure Mark where
  line : Nat
  column : Nat
  /-- How many characters stand before it. -/
  index : Nat
  deriving DecidableEq, Repr

namespace Mark

/-- The first place. -/
def start : Mark := ⟨0, 0, 0⟩

/-- The place after so many characters of the same line. -/
def after (m : Mark) (n : Nat) : Mark := { m with column := m.column + n, index := m.index + n }

/-- The place after a line break of so many characters. -/
def nextLine (m : Mark) (n : Nat) : Mark := ⟨m.line + 1, 0, m.index + n⟩

end Mark

/-- What is left of a text. -/
structure Cursor where
  rest : List Char
  mark : Mark
  /-- Whether a key may begin here. -/
  keyAllowed : Bool
  /-- How many flow collections are open. -/
  flows : Nat

def isBlank (c : Char) : Bool := c == ' ' || c == '\t'

/-- The text of a line break as it counts in a scalar: a line feed, but for the separators of lines
and paragraphs, which stay. -/
def breakText (c : Char) : List Char := if c = '\u2028' ∨ c = '\u2029' then [c] else ['\n']

/-- Whether three dashes or three points begin the text, followed by a blank, a break or the
end. -/
def isDocumentMarker : List Char → Bool
  | '-' :: '-' :: '-' :: r => ScalarText.endsWord r
  | '.' :: '.' :: '.' :: r => ScalarText.endsWord r
  | _ => false

namespace Cursor

/-- The cursor after so many characters of the same line. -/
def drop (c : Cursor) (n : Nat) (keyAllowed : Bool) : Cursor :=
  ⟨c.rest.drop n, c.mark.after n, keyAllowed, c.flows⟩

/-- The cursor behind the bracket or brace that opens a flow collection. -/
def openFlow (c : Cursor) : Cursor := { c.drop 1 true with flows := c.flows + 1 }

/-- The cursor behind the bracket or brace that closes a flow collection. -/
def closeFlow (c : Cursor) : Cursor := { c.drop 1 false with flows := c.flows - 1 }

/-- Whether a flow collection is open. -/
def inFlow (c : Cursor) : Bool := c.flows != 0

/-- Whether a marker between documents stands here. -/
def atMarker (c : Cursor) : Bool := c.mark.column == 0 && isDocumentMarker c.rest

/-- The column of the token here, or -1 where block collections of any column end: at the end of
the text, at a marker between documents and at a directive. -/
def level (c : Cursor) : Int :=
  match c.rest with
  | [] => -1
  | d :: _ => if c.atMarker || (c.mark.column == 0 && d == '%') then -1 else c.mark.column

/-- Whether an indicator stands here: its character, and a blank, a break or the end behind it. -/
def atIndicator (c : Cursor) (indicator : Char) : Bool :=
  match c.rest with
  | d :: r => d == indicator && ScalarText.endsWord r
  | [] => false

/-- Whether a character stands here. -/
def atChar (c : Cursor) (d : Char) : Bool := c.rest.head? == some d

/-- From the inside of a comment, or from between tokens, to the next token. Between tokens stand
blanks, line breaks, comments, and at the beginning of a line the byte order mark; a tab only where
no key may begin. -/
def skipFrom (flows : Nat) (comment keyAllowed : Bool) (m : Mark) : List Char → Cursor
  | [] => ⟨[], m, keyAllowed, flows⟩
  | '\r' :: '\n' :: r => skipFrom flows false (keyAllowed || flows == 0) (m.nextLine 2) r
  | c :: r =>
    if isBreak c then skipFrom flows false (keyAllowed || flows == 0) (m.nextLine 1) r
    else if comment || c == ' ' || (c == '\t' && (flows != 0 || !keyAllowed)) ||
        (c == '\ufeff' && m.column == 0) then
      skipFrom flows comment keyAllowed (m.after 1) r
    else if c == '#' then skipFrom flows true keyAllowed (m.after 1) r
    else ⟨c :: r, m, keyAllowed, flows⟩

/-- The cursor at the next token. -/
def skip (c : Cursor) : Cursor := skipFrom c.flows false c.keyAllowed c.mark c.rest

end Cursor

end AlertSync.Yaml
