import AlertSync.Json.Value

/-!
# Reading JSON

A JSON text by the grammar of RFC 8259: no leading zeros, no trailing commas, no control characters
in strings, blanks only between the tokens. `Json.parse?` reads a whole text.

The reader takes as many steps as the text has characters, since each step takes at least one.
-/

namespace AlertSync.Json

/-- The text without the blanks that it begins with. -/
def skip (cs : List Char) : List Char :=
  cs.dropWhile fun c => c = ' ' || c = '\n' || c = '\t' || c = '\r'

/-- What follows a word at the head of a text. -/
def keyword? (word cs : List Char) : Option (List Char) :=
  if word.isPrefixOf cs then some (cs.drop word.length) else none

/-- A run of digits, and what follows it. -/
def digits? (cs : List Char) : Option (List Char × List Char) :=
  let ds := cs.takeWhile Char.isDigit
  if ds.isEmpty then none else some (ds, cs.drop ds.length)

/-- The part of a number before its fraction: no digit follows a leading zero. -/
def whole? (cs : List Char) : Option (List Char × List Char) :=
  match cs with
  | '0' :: r => some (['0'], r)
  | _ => digits? cs

/-- The fraction of a number, if it has one. -/
def fraction? (cs : List Char) : Option (List Char × List Char) :=
  match cs with
  | '.' :: r => (digits? r).map fun (ds, r) => ('.' :: ds, r)
  | _ => some ([], cs)

/-- The exponent of a number, if it has one. -/
def exponent? (cs : List Char) : Option (List Char × List Char) :=
  match cs with
  | e :: r =>
    if e = 'e' ∨ e = 'E' then
      match r with
      | '+' :: r => (digits? r).map fun (ds, r) => (e :: '+' :: ds, r)
      | '-' :: r => (digits? r).map fun (ds, r) => (e :: '-' :: ds, r)
      | _ => (digits? r).map fun (ds, r) => (e :: ds, r)
    else some ([], cs)
  | [] => some ([], cs)

/-- A number as it is written, and what follows it. -/
def number? (cs : List Char) : Option (List Char × List Char) := do
  let (sign, cs) := match cs with
    | '-' :: r => (['-'], r)
    | _ => ([], cs)
  let (whole, cs) ← whole? cs
  let (fraction, cs) ← fraction? cs
  let (exponent, cs) ← exponent? cs
  return (sign ++ whole ++ fraction ++ exponent, cs)

/-- The characters that UTF-16 units and code points denote, if no half of a pair stands alone. -/
def pairUp? : List Nat → Option (List Char)
  | [] => some []
  | u :: v :: r =>
    if 0xd800 ≤ u ∧ u < 0xdc00 then
      if 0xdc00 ≤ v ∧ v < 0xe000 then
        (pairUp? r).map (Char.ofNat (0x10000 + (u - 0xd800) * 0x400 + (v - 0xdc00)) :: ·)
      else none
    else if 0xdc00 ≤ u ∧ u < 0xe000 then none
    else (pairUp? (v :: r)).map (Char.ofNat u :: ·)
  | [u] => if 0xd800 ≤ u ∧ u < 0xe000 then none else some [Char.ofNat u]

/-- The character that a letter after a backslash stands for. -/
def escape? (c : Char) : Option Char :=
  match c with
  | '"' => some '"'
  | '\\' => some '\\'
  | '/' => some '/'
  | 'b' => some '\x08'
  | 'f' => some '\x0c'
  | 'n' => some '\n'
  | 'r' => some '\r'
  | 't' => some '\t'
  | _ => none

/-- The units of a string up to its closing quote, and what follows the quote. -/
def string? : List Char → Option (List Nat × List Char)
  | [] => none
  | '"' :: r => some ([], r)
  | '\\' :: 'u' :: a :: b :: c :: d :: r => do
    let unit ← Numeral.ofHex? [a, b, c, d]
    (string? r).map fun (us, r) => (unit :: us, r)
  | '\\' :: e :: r => do
    let c ← escape? e
    (string? r).map fun (us, r) => (c.toNat :: us, r)
  | c :: r =>
    if c.toNat < 0x20 ∨ c = '\\' then none
    else (string? r).map fun (us, r) => (c.toNat :: us, r)

/-- The text that the units of a string denote. -/
def textOf (units : List Nat) : Option String := (pairUp? units).map String.ofList

mutual

/-- A value at the head of a text, and what follows it. -/
def value? : Nat → List Char → Option (Value × List Char)
  | 0, _ => none
  | fuel + 1, cs =>
    match skip cs with
    | '"' :: r => (string? r).map fun (us, r) => (.string (textOf us), r)
    | '[' :: r =>
      match skip r with
      | ']' :: r => some (.array [], r)
      | _ => (items? fuel r).map fun (vs, r) => (.array vs, r)
    | '\x7b' :: r =>
      match skip r with
      | '\x7d' :: r => some (.object [], r)
      | _ => (members? fuel r).map fun (ms, r) => (.object ms, r)
    | 'n' :: r => (keyword? ['u', 'l', 'l'] r).map (.null, ·)
    | 't' :: r => (keyword? ['r', 'u', 'e'] r).map (.bool true, ·)
    | 'f' :: r => (keyword? ['a', 'l', 's', 'e'] r).map (.bool false, ·)
    | cs => (number? cs).map fun (literal, r) => (.number literal, r)

/-- The items of a list up to its closing bracket. -/
def items? : Nat → List Char → Option (List Value × List Char)
  | 0, _ => none
  | fuel + 1, cs => do
    let (v, r) ← value? fuel cs
    match skip r with
    | ',' :: r => (items? fuel r).map fun (vs, r) => (v :: vs, r)
    | ']' :: r => some ([v], r)
    | _ => none

/-- The members of an object up to its closing brace. -/
def members? : Nat → List Char → Option (List (Option String × Value) × List Char)
  | 0, _ => none
  | fuel + 1, cs =>
    match skip cs with
    | '"' :: r => do
      let (name, r) ← string? r
      match skip r with
      | ':' :: r => do
        let (v, r) ← value? fuel r
        match skip r with
        | ',' :: r => (members? fuel r).map fun (ms, r) => ((textOf name, v) :: ms, r)
        | '\x7d' :: r => some ([(textOf name, v)], r)
        | _ => none
      | _ => none
    | _ => none

end

/-- Reads a JSON text. -/
def parse? (s : String) : Option Value :=
  let cs := s.toList
  match value? (2 * cs.length + 1) cs with
  | some (v, r) => if skip r = [] then some v else none
  | none => none

/-- How a JSON text can be read. -/
def form? (s : String) : Option Form := (parse? s).map Value.form

end AlertSync.Json
