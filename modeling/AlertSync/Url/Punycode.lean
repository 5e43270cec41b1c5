/-!
# Punycode

The name of a host is written in ASCII. A label with other characters is written as `xn--`, its
ASCII characters, and the places of the others as a run of differences, in digits whose weights
adapt to the differences that came before. `encode` writes such a label without `xn--`, and
`decode?` reads it.
-/

namespace AlertSync.Url.Punycode

/-- The digit of a number below 36: letters before figures. -/
def digit (n : Nat) : Char := if n < 26 then Char.ofNat (97 + n) else Char.ofNat (22 + n)

/-- From which value on a digit at a place is followed by another. -/
def threshold (place bias : Nat) : Nat := min 26 (max 1 (place - bias))

/-- A difference as digits of adapting weight. -/
def differenceDigits (bias place q : Nat) : List Char :=
  let t := threshold place bias
  if h : q < t then [digit q]
  else digit (t + (q - t) % (36 - t)) :: differenceDigits bias (place + 36) ((q - t) / (36 - t))
termination_by q
decreasing_by
  have ht : 1 ≤ t ∧ t ≤ 26 := by simp only [t, threshold]; omega
  exact Nat.lt_of_le_of_lt (Nat.div_le_self _ _) (by omega)

/-- Halves a difference until it is small, counting how often. -/
def scaleDown (delta k : Nat) : Nat × Nat :=
  if 455 < delta then scaleDown (delta / 35) (k + 36) else (delta, k)
termination_by delta
decreasing_by exact Nat.div_lt_self (by omega) (by omega)

/-- The bias after a difference. -/
def adapt (delta points : Nat) (first : Bool) : Nat :=
  let d := if first then delta / 700 else delta / 2
  let (d, k) := scaleDown (d + d / points) 0
  k + 36 * d / (d + 38)

/-- Where the encoding of a label stands. -/
structure Progress where
  delta : Nat
  bias : Nat
  /-- How many characters are encoded. -/
  handled : Nat
  digits : List Char

/-- Encodes the characters of one code, going once through the label. -/
def encodeCode (code basic : Nat) (label : List Nat) (p : Progress) : Progress :=
  label.foldl (fun p c =>
    if c < code then { p with delta := p.delta + 1 }
    else if c == code then
      { delta := 0
        bias := adapt p.delta (p.handled + 1) (p.handled == basic)
        handled := p.handled + 1
        digits := p.digits ++ differenceDigits p.bias 36 p.delta }
    else p) p

/-- Encodes the characters of ascending codes. -/
def encodeCodes (basic : Nat) (label : List Nat) : List Nat → Nat → Progress → Progress
  | [], _, p => p
  | code :: rest, next, p =>
    let p := { p with delta := p.delta + (code - next) * (p.handled + 1) }
    let p := encodeCode code basic label p
    encodeCodes basic label rest (code + 1) { p with delta := p.delta + 1 }

/-- The ASCII characters of a label, and the places of the others. -/
def encode (cs : List Char) : List Char :=
  let plain := cs.filter fun c => c.toNat < 128
  let codes := cs.map Char.toNat
  let others := ((codes.filter (128 ≤ ·)).mergeSort (fun a b => decide (a ≤ b))).eraseDups
  let start := if plain.isEmpty then [] else plain ++ ['-']
  let p := encodeCodes plain.length codes others 128 ⟨0, 72, plain.length, []⟩
  start ++ p.digits

/-- The number of a digit. -/
def digitValue? (c : Char) : Option Nat :=
  if 'a' ≤ c ∧ c ≤ 'z' then some (c.toNat - 97)
  else if '0' ≤ c ∧ c ≤ '9' then some (c.toNat - 22)
  else none

theorem digitValue?_digit {n : Nat} (h : n < 36) : digitValue? (digit n) = some n := by
  have all : ∀ m ∈ List.range 36, digitValue? (digit m) = some m := by decide
  exact all n (List.mem_range.2 h)

/-- The difference at the head of a run of digits, added to what the digits before them come to,
and the rest of the run. The weight of a digit must fit a word of 32 bits. -/
def difference? (bias place weight sum : Nat) : List Char → Option (Nat × List Char)
  | [] => none
  | c :: rest => do
    let d ← digitValue? c
    let t := threshold place bias
    if d < t then some (sum + d * weight, rest)
    else if UInt32.size ≤ weight * (36 - t) then none
    else difference? bias (place + 36) (weight * (36 - t)) (sum + d * weight) rest

theorem length_lt_of_difference? {bias place weight sum d : Nat} {cs rest : List Char}
    (h : difference? bias place weight sum cs = some (d, rest)) : rest.length < cs.length := by
  induction cs generalizing place weight sum with
  | nil => simp [difference?] at h
  | cons c cs ih =>
    cases hv : digitValue? c with
    | none => simp [difference?, hv] at h
    | some v =>
      simp only [difference?, hv, Option.bind_eq_bind, Option.bind_some] at h
      split at h
      · obtain ⟨_, rfl⟩ := Prod.mk.inj (Option.some.inj h)
        simp
      · split at h
        · simp at h
        · exact Nat.lt_succ_of_lt (ih h)

/-- Puts the characters of a run of differences into a label that began with `basic` characters.
The next of them has at least a given code and, if it has just that, at least a given place. -/
def insertAll (basic code place bias : Nat) (label digits : List Char) : Option (List Char) :=
  match digits with
  | [] => some label
  | c :: rest =>
    match _h : difference? bias 36 1 0 (c :: rest) with
    | none => none
    | some (delta, after) =>
      let points := label.length + 1
      let code := code + (place + delta) / points
      let place := (place + delta) % points
      if code.isValidChar then
        insertAll basic code (place + 1) (adapt delta points (label.length == basic))
          (label.take place ++ Char.ofNat code :: label.drop place) after
      else none
termination_by digits.length
decreasing_by exact length_lt_of_difference? _h

/-- The label that ASCII characters and places of others stand for. -/
def decode? (cs : List Char) : Option (List Char) :=
  let digits := (cs.reverse.takeWhile (· != '-')).reverse
  let plain := cs.take (cs.length - digits.length - 1)
  if plain.isEmpty then insertAll 0 128 0 72 [] cs
  else insertAll plain.length 128 0 72 plain digits

end AlertSync.Url.Punycode
