import AlertSync.Numeral.Decimal

/-!
# Binary floating-point numbers of 64 bits

The numbers of IEEE 754's binary64 format, with exact arithmetic on their parts: a finite number is
a sign, a significand and a power of two. `Binary64.ofRatio` rounds a quotient to the nearest
number, of two equally near ones to that with the even significand; the other operations go through
it. `Binary64.text` writes the fewest digits that read back as the number.
-/

namespace AlertSync.Numeral

/-- A number of the binary64 format. A finite number is `significand * 2 ^ exponent`, where the
significand has at most 53 bits, and all of them unless the exponent is the least. -/
inductive Binary64
  | finite (negative : Bool) (significand : Nat) (exponent : Int)
  | infinite (negative : Bool)
  | nan
  deriving DecidableEq, Repr

namespace Binary64

/-- The exponent of the numbers next to zero, and of the largest numbers. -/
def leastExponent : Int := -1074
def mostExponent : Int := 971

/-- How many significands there are: `2 ^ 53`. -/
def significands : Nat := 9007199254740992

/-- Zero with a sign. -/
def zero (negative : Bool) : Binary64 := finite negative 0 leastExponent

def isFinite : Binary64 → Bool
  | finite .. => true
  | _ => false

def isZero : Binary64 → Bool
  | finite _ m _ => m == 0
  | _ => false

/-- The whole part of `num / den / 2 ^ e`, and whether the rest is less than, equal to or more
than a half. -/
def scaled (num den : Nat) (e : Int) : Nat × Ordering :=
  let n := num <<< (-e).toNat
  let d := den <<< e.toNat
  (n / d, compare (2 * (n % d)) d)

/-- The number nearest to `num / den`, for a positive `den`. -/
def ofRatio (negative : Bool) (num den : Nat) : Binary64 :=
  if num = 0 then zero negative
  else
    -- divided by `2 ^ guess` the quotient lies between `2 ^ 52` and `2 ^ 54`
    let guess : Int := (Nat.log2 num : Int) - Nat.log2 den - 53
    let fits (e : Int) : Bool := decide ((scaled num den e).1 < significands)
    let e := max leastExponent (if fits guess then guess else guess + 1)
    let (q, rest) := scaled num den e
    let q := match rest with
      | .lt => q
      | .eq => if q % 2 = 0 then q else q + 1
      | .gt => q + 1
    let (q, e) := if q = significands then (q / 2, e + 1) else (q, e)
    if mostExponent < e then infinite negative else finite negative q e

/-- The number nearest to a natural number. -/
def ofNat (n : Nat) : Binary64 := ofRatio false n 1

/-- The number nearest to `significand * 10 ^ exponent`. -/
def ofDecimal (negative : Bool) (significand : Nat) (exponent : Int) : Binary64 :=
  let digits := (decimal significand).length
  if significand = 0 then zero negative
  else if 310 < (digits : Int) + exponent then infinite negative
  else if (digits : Int) + exponent < -330 then zero negative
  else ofRatio negative (significand * Nat.pow 10 exponent.toNat) (Nat.pow 10 (-exponent).toNat)

/-- The product of two numbers, rounded; no number where it is not defined. -/
def mul : Binary64 → Binary64 → Binary64
  | finite s m e, finite t n f =>
    ofRatio (s != t) ((m * n) <<< (e + f).toNat) (1 <<< (-(e + f)).toNat)
  | infinite s, finite t n _ => if n = 0 then nan else infinite (s != t)
  | finite s m _, infinite t => if m = 0 then nan else infinite (s != t)
  | infinite s, infinite t => infinite (s != t)
  | _, _ => nan

/-- The quotient of two numbers, rounded, where the second is neither zero nor infinite. -/
def div : Binary64 → Binary64 → Binary64
  | finite s m e, finite t n f =>
    if n = 0 then nan
    else ofRatio (s != t) (m <<< (e - f).toNat) (n <<< (f - e).toNat)
  | infinite s, finite t _ _ => infinite (s != t)
  | _, _ => nan

/-- The number with a given sign. -/
def withSign (negative : Bool) : Binary64 → Binary64
  | finite _ m e => finite negative m e
  | infinite _ => infinite negative
  | nan => nan

/-! ## The fewest digits -/

/-- A decimal number `digits * 10 ^ exponent` between the ends of an interval. -/
structure Shortest where
  digits : Nat
  exponent : Int

/-- Of the two neighbours of `value / unit` on the grid of multiples of `10 ^ k`, the nearer one
that lies between `low` and `high`, all of them numbers of the same unit. -/
def onGrid? (value low high unit : Nat) (closed : Bool) (k : Int) : Option Nat :=
  let step := unit * Nat.pow 10 k.toNat
  let scale := Nat.pow 10 (-k).toNat
  let v := value * scale
  let inside (c : Nat) : Bool :=
    let x := c * step
    if closed then decide (low * scale ≤ x) && decide (x ≤ high * scale)
    else decide (low * scale < x) && decide (x < high * scale)
  let below := v / step
  let above := below + 1
  match inside below, inside above with
  | false, false => none
  | true, false => some below
  | false, true => some above
  | true, true =>
    match compare (v - below * step) (above * step - v) with
    | .lt => some below
    | .gt => some above
    | .eq => some (if below % 2 = 0 then below else above)

/-- The first grid of a falling list of exponents on which a number has a neighbour that reads
back as it. -/
def search (value low high unit : Nat) (closed : Bool) (k : Int) : Nat → Option Shortest
  | 0 => none
  | n + 1 =>
    match onGrid? value low high unit closed k with
    | some (d + 1) => some ⟨d + 1, k⟩
    | _ => search value low high unit closed (k - 1) n

/-- The decimal number with the fewest digits that reads back as `m * 2 ^ e`, the nearest of
those. -/
def shortest (m : Nat) (e : Int) : Shortest :=
  -- the interval of reals that round to the number, in quarters of its last place
  let unit := 4 <<< (-e).toNat
  let place := 1 <<< e.toNat
  let value := 4 * m * place
  let high := (4 * m + 2) * place
  let low := (if 2 * m = significands ∧ leastExponent < e then 4 * m - 1 else 4 * m - 2) * place
  let top : Int := (decimal (value / unit)).length
  let start : Int :=
    if value < unit then 1 - ((Nat.log2 unit - Nat.log2 value) * 3 / 10 : Nat) else top
  (search value low high unit (m % 2 = 0) start 800).getD ⟨0, 0⟩

/-- The text of a finite number: positional where its point falls behind at most 16 digits or
behind at most four zeros, with an exponent elsewhere. -/
def finiteChars (m : Nat) (e : Int) : List Char :=
  if m = 0 then ['0', '.', '0']
  else
    let s := shortest m e
    let ds := decimal s.digits
    let zeros := (ds.reverse.takeWhile (· = '0')).length
    let ds := ds.take (ds.length - zeros)
    let k : Int := s.exponent + zeros
    let point : Int := ds.length + k
    if 0 ≤ k ∧ point ≤ 16 then ds ++ List.replicate k.toNat '0' ++ ['.', '0']
    else if 0 < point ∧ point ≤ 16 then ds.take point.toNat ++ '.' :: ds.drop point.toNat
    else if -5 < point ∧ point ≤ 0 then
      ['0', '.'] ++ List.replicate (-point).toNat '0' ++ ds
    else
      let power := point - 1
      let mantissa := match ds with
        | [d] => [d]
        | d :: rest => d :: '.' :: rest
        | [] => []
      mantissa ++ 'e' :: ((if power < 0 then ['-'] else []) ++ decimal power.natAbs)

end Binary64

end AlertSync.Numeral
