import AlertSync.Text.Composition
import AlertSync.Text.Direction
import AlertSync.Text.Joining
import AlertSync.Url.Folding
import AlertSync.Url.Punycode

/-!
# Names of hosts in any script

The name of a host is a row of labels with dots between them. Labels that differ only in capitals,
in the width of letters and the like are the same: `labels?` folds them and puts their characters
together. It refuses a label that begins with a mark, one with a joiner where nothing joins, one
that would be read in another order than it is written, and one in ASCII that stands for no label
in its folded form.
-/

namespace AlertSync.Url

/-- A label of the name of a host. -/
structure Label where
  chars : List Char
  /-- How it is written in ASCII. -/
  ascii : List Char
  deriving DecidableEq, Repr

/-- Whether all characters of a label are in ASCII. -/
def isAscii (cs : List Char) : Bool := cs.all fun c => c.toNat < 128

/-- Whether characters in reverse begin with a mark that takes the vowel from a consonant. -/
def endsInVirama (before : List Char) : Bool := before.head?.any fun c => Text.combiningClass c == 9

/-- Whether the joiners of a text, behind characters in reverse, stand where there is something to
join or to keep apart. -/
def joinersFit (before : List Char) : List Char → Bool
  | [] => true
  | c :: rest =>
    (if c == joiner then endsInVirama before
      else if c == nonJoiner then endsInVirama before || Text.joinAcross before rest
      else true) && joinersFit (c :: before) rest

namespace Label

/-- What a label in ASCII that stands for another begins with. -/
def encodedOpening : List Char := ['x', 'n', '-', '-']

/-- A label whose characters are folded, if they may stand together. -/
def ofChars? (cs ascii : List Char) : Option Label :=
  if cs.head?.any Text.isMark || !joinersFit [] cs then none else some ⟨cs, ascii⟩

/-- The label that a text behind `xn--` stands for. -/
def ofEncoded? (cs : List Char) : Option Label := do
  if cs.isEmpty || cs.getLast? == some '-' || !isAscii cs || 2000 < cs.length then none
  else
    let chars ← Punycode.decode? cs
    if Text.compose chars == chars && chars.all (fun c => fold? c == some [c]) then
      ofChars? chars (encodedOpening ++ cs)
    else none

/-- The label that folded characters make. -/
def ofFolded? (cs : List Char) : Option Label :=
  if encodedOpening.isPrefixOf cs then ofEncoded? (cs.drop 4)
  else if isAscii cs then some ⟨cs, cs⟩
  else if 1000 < cs.length then none
  else ofChars? cs (encodedOpening ++ Punycode.encode cs)

/-- The directions in which a label is written. -/
def directions (l : Label) : List Text.Direction := l.chars.map Text.direction

end Label

/-- The parts of a text between dots. -/
def splitDots : List Char → List (List Char)
  | [] => [[]]
  | c :: rest =>
    match splitDots rest with
    | [] => [[c]]
    | first :: others => if c == '.' then [] :: first :: others else (c :: first) :: others

/-- What stands between dots, folded: in ASCII only capitals fold. -/
def foldPart? (cs : List Char) : Option (List (List Char)) :=
  if isAscii cs then some [cs.map Char.toLower]
  else do return splitDots (Text.compose (← cs.mapM fold?).flatten)

/-- The labels of the name of a host. -/
def labels? (cs : List Char) : Option (List Label) := do
  let parts ← (splitDots cs).mapM foldPart?
  let labels ← parts.flatten.mapM Label.ofFolded?
  if labels.any (·.directions.any Text.Direction.isMixing) &&
      !labels.all (fun l => Text.Direction.fit l.directions) then none
  else return labels

/-- The name of a host in ASCII and in small letters. -/
def asciiName? (cs : List Char) : Option String :=
  (labels? cs).map fun labels =>
    String.intercalate "." (labels.map fun l => String.ofList l.ascii)

end AlertSync.Url
