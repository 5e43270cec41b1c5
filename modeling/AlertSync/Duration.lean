import AlertSync.Error
import AlertSync.Numeral.Decimal

/-!
# Durations

A length of time in the notation of the backends' configuration files, such as `30s`, `5m` or
`1h30m`: counts of years, weeks, days, hours, minutes, seconds and milliseconds, each at most once
and the longer before the shorter.

`Duration.parse` reads the notation, with sums that must fit into 64 bits, and `Duration.text`
writes it, taking from the longest scale as much as fits. A text is written in whole milliseconds,
of which only the lowest 64 bits count.
-/

namespace AlertSync

/-- A length of time. -/
structure Duration where
  /-- Its number of nanoseconds. -/
  nanos : Nat
  deriving DecidableEq, Repr

/-- A unit in which durations are counted. -/
inductive TimeScale
  | years | weeks | days | hours | minutes | seconds | millis
  deriving DecidableEq, Repr

namespace TimeScale

/-- The scales from the longest to the shortest. -/
def all : List TimeScale := [years, weeks, days, hours, minutes, seconds, millis]

/-- The letters of a scale. -/
def letters : TimeScale → List Char
  | years => ['y']
  | weeks => ['w']
  | days => ['d']
  | hours => ['h']
  | minutes => ['m']
  | seconds => ['s']
  | millis => ['m', 's']

/-- How many milliseconds one unit has. A year has 365 days. -/
def length : TimeScale → Nat
  | years => 1000 * 60 * 60 * 24 * 365
  | weeks => 1000 * 60 * 60 * 24 * 7
  | days => 1000 * 60 * 60 * 24
  | hours => 1000 * 60 * 60
  | minutes => 1000 * 60
  | seconds => 1000
  | millis => 1

/-- The scale at the head of a text, and what follows it. -/
def read? : List Char → Option (TimeScale × List Char)
  | 'y' :: r => some (years, r)
  | 'w' :: r => some (weeks, r)
  | 'd' :: r => some (days, r)
  | 'h' :: r => some (hours, r)
  | 'm' :: 's' :: r => some (millis, r)
  | 'm' :: r => some (minutes, r)
  | 's' :: r => some (seconds, r)
  | _ => none

theorem read?_length {cs r : List Char} {u : TimeScale} (h : read? cs = some (u, r)) :
    r.length < cs.length := by
  unfold read? at h
  split at h <;> simp only [Option.some.injEq, Prod.mk.injEq, reduceCtorEq] at h <;>
    (obtain ⟨-, rfl⟩ := h; simp only [List.length_cons]; omega)

end TimeScale

namespace Duration

/-- No time at all. -/
def zero : Duration := ⟨0⟩

def ofNanos (n : Nat) : Duration := ⟨n⟩
def ofMillis (n : Nat) : Duration := ⟨n * 1000000⟩
def ofSeconds (n : Nat) : Duration := ⟨n * 1000000000⟩

/-- The whole milliseconds of a duration. -/
def millis (d : Duration) : Nat := d.nanos / 1000000

def isZero (d : Duration) : Bool := d.nanos == 0

/-- One count of a scale, as it is written. -/
structure Part where
  /-- The decimal digits of the count. -/
  digits : List Char
  scale : TimeScale
  deriving DecidableEq, Repr

/-- The parts of which a text consists: digits and a scale, over and over. -/
def parts? (cs : List Char) : Option (List Part) :=
  if cs.isEmpty then some []
  else
    let digits := cs.takeWhile Char.isDigit
    let rest := cs.dropWhile Char.isDigit
    if digits.isEmpty then none
    else
      match _h : TimeScale.read? rest with
      | none => none
      | some (scale, rest') => (parts? rest').map (⟨digits, scale⟩ :: ·)
termination_by cs.length
decreasing_by
  have := TimeScale.read?_length _h
  have : rest.length ≤ cs.length := (List.dropWhile_sublist _).length_le
  omega

/-- Whether every part counts a longer scale than the part after it. -/
def descending : List Part → Bool
  | p :: q :: rest => decide (q.scale.length < p.scale.length) && descending (q :: rest)
  | _ => true

/-- A number, if 64 bits hold it. -/
def word? (n : Nat) : Option Nat := if n < UInt64.size then some n else none

/-- The milliseconds of a list of parts, if 64 bits hold every count, product and sum on the way. -/
def total? (parts : List Part) : Option Nat :=
  parts.foldlM (fun sum p => do
    let count ← word? (Numeral.ofDecimal p.digits)
    let length ← word? (count * p.scale.length)
    word? (sum + length)) 0

/-- Reads a duration. The text `0` is a duration without a scale. -/
def parse (s : String) : Except Error Duration :=
  if s = "0" then .ok zero
  else if s = "" then .error (.invalid .emptyDuration)
  else
    match parts? s.toList with
    | none => .error (.invalid (.notADuration s))
    | some parts =>
      if descending parts then
        match total? parts with
        | some ms => .ok (ofMillis ms)
        | none => .error (.invalid (.durationOutOfRange s))
      else .error (.invalid (.notADuration s))

/-- Reads a duration, with `none` for whatever is none. -/
def parse? (s : String) : Option Duration := (parse s).toOption

/-- The parts of a number of milliseconds: of each scale as many as fit into what is left. -/
def partsOf (ms : Nat) : List TimeScale → List Char
  | [] => []
  | scale :: rest =>
    if scale.length ≤ ms then
      Numeral.decimal (ms / scale.length) ++ scale.letters ++ partsOf (ms % scale.length) rest
    else partsOf ms rest

/-- The text of a duration. -/
def text (d : Duration) : String :=
  let ms := d.millis % UInt64.size
  if ms = 0 then "0s" else String.ofList (partsOf ms TimeScale.all)

end Duration

end AlertSync
