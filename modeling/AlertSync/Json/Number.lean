import AlertSync.Numeral.Binary64

/-!
# What JSON numbers denote

A number without fraction and exponent is an integer where 64 bits hold it, and every other number
a floating-point number. Of its digits as many count as a 64-bit integer holds; that integer is
rounded, and then multiplied or divided by a rounded power of ten, rounding once more.
-/

namespace AlertSync.Json

open Numeral (Binary64)

/-- What a JSON number denotes. -/
inductive Number
  | integer (n : Int)
  | float (x : Binary64)
  deriving DecidableEq

namespace Number

/-- The number of the digits that follow `n`, up to where 64 bits no longer hold it, and the other
digits. -/
def accumulate (n : Nat) : List Char → Nat × List Char
  | [] => (n, [])
  | d :: r =>
    let m := 10 * n + (d.toNat - '0'.toNat)
    if m < UInt64.size then accumulate m r else (n, d :: r)

/-- A power of ten as a floating-point number. -/
def powerOfTen (n : Nat) : Binary64 := .ofDecimal false 1 n

/-- A floating-point number times a power of ten, in steps of as many places as there are powers;
there is none where it grows beyond all numbers. -/
def scale? : Nat → Binary64 → Int → Option Binary64
  | 0, x, _ => some x
  | fuel + 1, x, e =>
    if e.natAbs ≤ 308 then
      if 0 ≤ e then
        let y := x.mul (powerOfTen e.natAbs)
        if y.isFinite then some y else none
      else some (x.div (powerOfTen e.natAbs))
    else if x.isZero then some x
    else if 0 ≤ e then none
    else scale? fuel (x.div (powerOfTen 308)) (e + 308)

/-- What a number denotes that is written in the given characters. -/
def of? (literal : List Char) : Option Number :=
  let negative := literal.head? == some '-'
  let digits := if negative then literal.drop 1 else literal
  let whole := digits.takeWhile Char.isDigit
  let rest := digits.dropWhile Char.isDigit
  let (part, rest) := match rest with
    | '.' :: r => (r.takeWhile Char.isDigit, r.dropWhile Char.isDigit)
    | _ => ([], rest)
  let (n, dropped) := accumulate 0 whole
  if part.isEmpty && rest.isEmpty && dropped.isEmpty then
    if !negative then some (.integer n)
    else if n = 0 ∨ UInt64.size < 2 * n then some (.float ((Binary64.ofNat n).withSign true))
    else some (.integer (-(n : Int)))
  else
    let (n, ignored) := accumulate n part
    let places : Int := dropped.length - (part.length - ignored.length : Nat)
    let (down, power) := match rest.drop 1 with
      | '-' :: r => (true, Numeral.ofDecimal r)
      | '+' :: r => (false, Numeral.ofDecimal r)
      | r => (false, Numeral.ofDecimal r)
    if n = 0 then some (.float (.zero negative))
    else
      (scale? 8 (.ofNat n) (places + if down then -(power : Int) else power)).map fun x =>
        .float (x.withSign negative)

end Number

end AlertSync.Json
