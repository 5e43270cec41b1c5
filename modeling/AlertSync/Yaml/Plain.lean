import AlertSync.Numeral.Binary64

/-!
# What plain scalars denote

A scalar without quotes denotes null, a truth value or a number where its text has the form of one,
and itself everywhere else. Forms are tried in that order; a text of zeros and digits that begins
with a superfluous zero is no number.
-/

namespace AlertSync.Yaml

open Numeral (Binary64)

/-- What the text of a plain scalar denotes. -/
inductive Plain
  | null
  | bool (b : Bool)
  | integer (n : Int)
  /-- An integer that needs more than 64 bits, and no more than 128. -/
  | wide
  | float (x : Binary64)
  | text
  deriving DecidableEq

namespace Plain

def isNull (cs : List Char) : Bool :=
  cs == "null".toList || cs == "Null".toList || cs == "NULL".toList || cs == "~".toList

def bool? (cs : List Char) : Option Bool :=
  if cs = "true".toList ∨ cs = "True".toList ∨ cs = "TRUE".toList then some true
  else if cs = "false".toList ∨ cs = "False".toList ∨ cs = "FALSE".toList then some false
  else none

def isSign (c : Char) : Bool := c == '+' || c == '-'

/-- Digits that begin with a superfluous zero, with or without a sign. -/
def paddedDigits (cs : List Char) : Bool :=
  let ds := match cs with
    | c :: r => if isSign c then r else cs
    | [] => []
  match ds with
  | '0' :: d :: r => (d :: r).all Char.isDigit
  | _ => false

/-- A natural number with its radix before it, or in decimal digits. -/
def natural? (cs : List Char) : Option Nat :=
  match cs with
  | '0' :: 'x' :: r => Numeral.ofRadix? 16 r
  | '0' :: 'o' :: r => Numeral.ofRadix? 8 r
  | '0' :: 'b' :: r => Numeral.ofRadix? 2 r
  | _ => Numeral.ofRadix? 10 cs

/-- An integer of any size. -/
def integer? (cs : List Char) : Option Int :=
  if paddedDigits cs then none
  else match cs with
    | '-' :: r => (natural? r).map fun n => -(n : Int)
    | '+' :: r => (natural? r).map fun n => (n : Int)
    | _ => (natural? cs).map fun n => (n : Int)

/-- Decimal digits with a point or an exponent or both: the digits as one number, and the power of
ten by which it counts. -/
def decimal? (cs : List Char) : Option (Nat × Int) :=
  let whole := cs.takeWhile Char.isDigit
  let rest := cs.dropWhile Char.isDigit
  let (part, rest) := match rest with
    | '.' :: r => (r.takeWhile Char.isDigit, r.dropWhile Char.isDigit)
    | _ => ([], rest)
  if whole.isEmpty && part.isEmpty then none
  else
    let significand := Numeral.ofDecimal (whole ++ part)
    let exponent? : Option Int := match rest with
      | [] => some 0
      | e :: r =>
        if e = 'e' ∨ e = 'E' then
          let (negative, ds) := match r with
            | '-' :: ds => (true, ds)
            | '+' :: ds => (false, ds)
            | _ => (false, r)
          if ds.isEmpty || !ds.all Char.isDigit then none
          else some (if negative then -(Numeral.ofDecimal ds : Int) else Numeral.ofDecimal ds)
        else none
    exponent?.map fun e => (significand, e - part.length)

/-- A floating-point number, infinity and the absence of a number among them. -/
def float? (cs : List Char) : Option Binary64 :=
  let infinity := [".inf".toList, ".Inf".toList, ".INF".toList]
  let finite? (negative : Bool) (ds : List Char) : Option Binary64 := do
    let (significand, exponent) ← decimal? ds
    let x := Binary64.ofDecimal negative significand exponent
    if x.isFinite then some x else none
  if [".nan".toList, ".NaN".toList, ".NAN".toList].contains cs then some .nan
  else match cs with
    | '+' :: r => if infinity.contains r then some (.infinite false) else finite? false r
    | '-' :: r => if infinity.contains r then some (.infinite true) else finite? true r
    | _ => if infinity.contains cs then some (.infinite false) else finite? false cs

/-- Whether an integer is one that a word with `size` values holds, be it with or without a sign. -/
def fits (size : Nat) (n : Int) : Bool := decide (-size ≤ 2 * n) && decide (n < size)

/-- Which integers 64 bits hold, with or without a sign. -/
def fits64 (n : Int) : Bool := fits UInt64.size n

/-- Which integers 128 bits hold, with or without a sign. -/
def fits128 (n : Int) : Bool := fits (UInt64.size * UInt64.size) n

/-- An integer that 64 or 128 bits hold. -/
def sized? (cs : List Char) : Option Plain :=
  match integer? cs with
  | some n => if fits64 n then some (.integer n) else if fits128 n then some .wide else none
  | none => none

/-- What a plain scalar denotes. -/
def of (cs : List Char) : Plain :=
  if cs = [] ∨ isNull cs then .null
  else match bool? cs with
    | some b => .bool b
    | none =>
      match sized? cs with
      | some n => n
      | none =>
        if paddedDigits cs then .text
        else match float? cs with
          | some x => .float x
          | none => .text

end Plain

end AlertSync.Yaml
