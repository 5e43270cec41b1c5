import AlertSync.Numeral.Decimal

/-!
# Percent encoding

In the parts of a URL the bytes of certain characters, and of all beyond ASCII, are written as `%`
and two hexadecimal digits. Each part has its own set of such characters.
-/

namespace AlertSync.Url

/-- The digit of a number below sixteen. -/
def hexDigit (n : Nat) : Char := if n < 10 then Char.ofNat (48 + n) else Char.ofNat (55 + n)

theorem hexDigit?_hexDigit {n : Nat} (h : n < 16) : Numeral.hexDigit? (hexDigit n) = some n := by
  have all : ∀ m ∈ List.range 16, Numeral.hexDigit? (hexDigit m) = some m := by decide
  exact all n (List.mem_range.2 h)

/-- A byte as `%` and two digits. -/
def percentByte (b : UInt8) : List Char := ['%', hexDigit (b.toNat / 16), hexDigit (b.toNat % 16)]

/-- The bytes of a text. -/
def bytesOf (s : String) : List UInt8 := s.toUTF8.data.toList

/-- A character beyond ASCII or of a given set is written as its bytes, any other as itself. -/
def encodeChar (isSpecial : Char → Bool) (c : Char) : List Char :=
  if 128 ≤ c.toNat || isSpecial c then (bytesOf (String.singleton c)).flatMap percentByte else [c]

/-- A text with the characters of a set encoded. -/
def percentEncode (isSpecial : Char → Bool) (cs : List Char) : String :=
  String.ofList (cs.flatMap (encodeChar isSpecial))

/-- The byte that two digits after a `%` stand for. -/
def encodedByte? (b h l : UInt8) : Option UInt8 :=
  if b == 37 then do
    let high ← Numeral.hexDigit? (Char.ofNat h.toNat)
    let low ← Numeral.hexDigit? (Char.ofNat l.toNat)
    return UInt8.ofNat (16 * high + low)
  else none

/-- The bytes of a text in which encoded bytes stand for themselves. -/
def percentDecode : List UInt8 → List UInt8
  | b :: h :: l :: rest =>
    match encodedByte? b h l with
    | some byte => byte :: percentDecode rest
    | none => b :: percentDecode (h :: l :: rest)
  | rest => rest

/-- The text that a text with encoded bytes stands for, if the bytes are those of a text. -/
def percentDecoded? (s : String) : Option String :=
  String.fromUTF8? ⟨(percentDecode (bytesOf s)).toArray⟩

/-- The control characters of ASCII. -/
def isControl (c : Char) : Bool := c.toNat < 32 || c.toNat == 127

/-- What is encoded in a fragment. -/
def inFragment (c : Char) : Bool := isControl c || [' ', '"', '<', '>', '\x60'].contains c

/-- What is encoded in a path. -/
def inPath (c : Char) : Bool := inFragment c || ['#', '?', '\x7b', '\x7d'].contains c

/-- What is encoded in a user name and a password. -/
def inUserinfo (c : Char) : Bool :=
  inPath c || ['/', ':', ';', '=', '@', '[', '\\', ']', '^', '|'].contains c

/-- What is encoded in a query. -/
def inQuery (c : Char) : Bool := isControl c || [' ', '"', '#', '<', '>'].contains c

/-- What is encoded in the query of a URL with a special scheme. -/
def inSpecialQuery (c : Char) : Bool := inQuery c || c == '\''

/-- What stands for itself in the name or the value of a form field. -/
def isFormSafe (c : Char) : Bool := c.isAlphanum || ['*', '-', '.', '_'].contains c

/-- The name or the value of a form field: a blank is written as a plus sign. -/
def formEncode (s : String) : String :=
  String.ofList (s.toList.flatMap fun c =>
    if c == ' ' then ['+'] else encodeChar (fun d => !isFormSafe d) c)

end AlertSync.Url
