import AlertSync.Yaml.ScalarText
import AlertSync.Yaml.Value

/-!
# Writing YAML

A value as a YAML document in block form: two spaces of indentation, the items of a sequence under
a key not indented further than the key, empty collections in flow form, and no line ever folded. A
key that is longer than 128 bytes, spans lines or is a collection with contents stands behind a
question mark.
-/

namespace AlertSync.Yaml

open Numeral (Binary64)

/-- Where a value is written. -/
inductive Place
  /-- At the head of the document. -/
  | root
  /-- Behind the dash of a sequence. -/
  | item
  /-- Behind a key and its colon. -/
  | value
  /-- Behind a question mark, or behind the colon of a key that stands behind one. -/
  | explicit
  deriving DecidableEq, Repr

namespace Printer

def binary64Chars : Binary64 → List Char
  | .finite negative m e => (if negative then ['-'] else []) ++ Binary64.finiteChars m e
  | .infinite negative => (if negative then ['-'] else []) ++ ['.', 'i', 'n', 'f']
  | .nan => ['.', 'n', 'a', 'n']

def numberChars : Number → List Char
  | .integer n => (if n < 0 then ['-'] else []) ++ Numeral.decimal n.natAbs
  | .float x => binary64Chars x

/-- Whether a character may stand in a tag as it is. -/
def isTagChar (c : Char) : Bool :=
  c.isAlphanum || "-_;/?:@&=+$,.~*'()[]".toList.contains c

/-- Characters within a tag, those that may not stand in one by their bytes. -/
def tagText (cs : List Char) : List Char :=
  cs.flatMap fun c =>
    if isTagChar c then [c]
    else (String.singleton c).toUTF8.toList.flatMap fun b => '%' :: Numeral.upperHex 2 b.toNat

/-- The name of a tag behind its exclamation mark. -/
def tagName (tag : String) : List Char :=
  match tag.toList with
  | '!' :: r => r
  | cs => cs

/-- The characters of a tag. Without a name behind its mark it stands between angle brackets. -/
def tagChars (tag : String) : List Char :=
  match tagName tag with
  | [] => ['!', '<'] ++ tagText ['!'] ++ ['>']
  | name => '!' :: tagText name

/-- A scalar or empty collection on its own line, or `none` for a collection with contents. -/
def inline? (indent : Nat) (isKey : Bool) : Value → Option (List Char)
  | .null => some ['n', 'u', 'l', 'l']
  | .bool true => some ['t', 'r', 'u', 'e']
  | .bool false => some ['f', 'a', 'l', 's', 'e']
  | .number n => some (numberChars n)
  | .string s => some (ScalarText.chars indent isKey s)
  | .sequence [] => some ['[', ']']
  | .mapping [] => some ['\x7b', '\x7d']
  | .tagged tag v => (inline? indent isKey v).map fun cs => tagChars tag ++ ' ' :: cs
  | _ => none

/-- How many bytes a key counts, or `none` if it cannot stand on one line. -/
def keyLength? : Value → Option Nat
  | .null => some 4
  | .bool b => some (if b then 4 else 5)
  | .number n => some (numberChars n).length
  | .string s => if ScalarText.isMultiline s.toList then none else some s.utf8ByteSize
  | .sequence [] | .mapping [] => some 0
  | .tagged tag v => (keyLength? v).map (· + 1 + (String.ofList (tagName tag)).utf8ByteSize)
  | _ => none

/-- Whether a key stands before its colon on one line. -/
def isSimpleKey (k : Value) : Bool := (keyLength? k).any (· ≤ 128)

/-- The line with a break at its end, unless it has one. -/
def line (cs : List Char) : List Char :=
  if cs.getLast?.any isBreak then cs else cs ++ ['\n']

def spaces (n : Nat) : List Char := List.replicate n ' '

/-- What stands before the text of a value at a place. -/
def lead : Place → List Char
  | .root => []
  | _ => [' ']

/-- The indentation of the contents of a sequence within a collection of the given indentation. -/
def sequenceIndent (place : Place) (tagged : Bool) (indent : Nat) : Nat :=
  match place with
  | .root => 0
  | .item => indent + 2
  | .value => indent
  | .explicit => if tagged then indent else indent + 2

/-- The indentation of the contents of a mapping within a collection of the given indentation. -/
def mappingIndent (place : Place) (indent : Nat) : Nat :=
  match place with
  | .root => 0
  | _ => indent + 2

/-- The indentation of the further lines of a scalar. -/
def scalarIndent (place : Place) (indent : Nat) : Nat :=
  match place with
  | .root => 2
  | _ => indent + 2

/-- What stands between the indicator of a place and the first entry of a collection: its tag and a
line break, a line break behind a key, a blank elsewhere. -/
def opening (place : Place) (tag : Option String) (indent : Nat) : List Char :=
  match tag with
  | some t => lead place ++ tagChars t ++ '\n' :: spaces indent
  | none =>
    match place with
    | .value => '\n' :: spaces indent
    | p => lead p

/-- A scalar or empty collection with what stands before it at its place, and its line break. -/
def inlineNode (place : Place) (indent : Nat) (tag : Option String) (v : Value) : List Char :=
  let cs := (inline? (scalarIndent place indent) false v).getD []
  lead place ++ line (match tag with
    | some t => tagChars t ++ ' ' :: cs
    | none => cs)

mutual

/-- A value with what stands before it at its place, up to the end of its last line. -/
def node (place : Place) (indent : Nat) (tag : Option String) : Value → List Char
  | .sequence l =>
    if l.isEmpty then inlineNode place indent tag (.sequence [])
    else
      let n := sequenceIndent place tag.isSome indent
      items n (opening place tag n) l
  | .mapping l =>
    if l.isEmpty then inlineNode place indent tag (.mapping [])
    else
      let n := mappingIndent place indent
      entries n (opening place tag n) l
  | .tagged t v => node place indent (some t) v
  | v => inlineNode place indent tag v

/-- The items of a sequence, the first behind `before`. -/
def items (indent : Nat) (before : List Char) : List Value → List Char
  | [] => []
  | v :: r => before ++ '-' :: (node .item indent none v ++ items indent (spaces indent) r)

/-- The entries of a mapping, the first behind `before`. -/
def entries (indent : Nat) (before : List Char) : List (Value × Value) → List Char
  | [] => []
  | (k, v) :: r =>
    before ++
      (if isSimpleKey k then
        (inline? (indent + 2) true k).getD [] ++ ':' :: node .value indent none v
      else
        '?' :: (node .explicit indent none k ++
          spaces indent ++ ':' :: node .explicit indent none v)) ++
      entries indent (spaces indent) r

end

end Printer

/-- The YAML document of a value. -/
def text (v : Value) : String := String.ofList (Printer.node .root 0 none v)

/-! ## Values that cannot be written -/

namespace Value

/-- Whether a value would be taken for the tag of the value behind it, were it the only key of a
mapping: a value under a tag, or a mapping with one key. -/
def looksLikeTag : Value → Bool
  | tagged _ _ => true
  | mapping [_] => true
  | _ => false

mutual

/-- Whether a value, which stands under a tag or not, can be written: in no mapping within it that
is not under a tag is the only key taken for a tag. -/
def isWritableUnder (underTag : Bool) : Value → Bool
  | tagged _ v => isWritableUnder true v
  | sequence l => areItemsWritable l
  | mapping l =>
    (underTag || match l with
      | [(k, _)] => !k.looksLikeTag
      | _ => true) && areEntriesWritable l
  | _ => true

def areItemsWritable : List Value → Bool
  | [] => true
  | v :: r => isWritableUnder false v && areItemsWritable r

def areEntriesWritable : List (Value × Value) → Bool
  | [] => true
  | (k, v) :: r => isWritableUnder false k && isWritableUnder false v && areEntriesWritable r

end

/-- Whether a value can be written. -/
def isWritable (v : Value) : Bool := isWritableUnder false v

end Value

/-- The YAML document of a value that can be written. -/
def text? (v : Value) : Option String := if v.isWritable then some (text v) else none

end AlertSync.Yaml
