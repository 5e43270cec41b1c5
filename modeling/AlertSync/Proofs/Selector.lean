/-!
# Selectors

A selector names a metric, perhaps, and behind it between braces the labels that are asked for, each
with its value between quotes. What an escape in a value stands for is left to whoever reads it
(`Escapes`). A value in which every character stands for itself is read as it is written
(`value?_append`), and a matcher is read as its name and value wherever its value is read up to the
quote that ends it (`matchers?_cons`).
-/

namespace AlertSync.Selector

/-- How an escape is read: the character that it stands for, and how many of the characters behind
the backslash belong to it. -/
abbrev Escapes := List Char → Option (Char × Nat)

/-- Whether a character stands for itself between quotes. -/
def isPlain (c : Char) : Bool := c != '"' && c != '\\' && c != '\n'

/-- A value behind its first quote, of which so many characters are passed over; and what follows
its last quote. -/
def value? (escapes : Escapes) : Nat → List Char → Option (List Char × List Char)
  | _, [] => none
  | skipped + 1, _ :: r => value? escapes skipped r
  | 0, c :: r =>
    if c = '"' then some ([], r)
    else if c = '\n' then none
    else if c = '\\' then do
      let (d, n) ← escapes r
      (value? escapes n r).map fun (v, rest) => (d :: v, rest)
    else (value? escapes 0 r).map fun (v, rest) => (c :: v, rest)

def isNameChar (c : Char) : Bool := c.isAlphanum || c == '_'

/-- The matchers behind the brace that opens them, each a name and the value that the label must
have; and what follows the brace that closes them. -/
def matchers? (escapes : Escapes) : Nat → List Char → Option (List (String × String) × List Char)
  | 0, _ => none
  | fuel + 1, cs =>
    match cs.dropWhile (· == ' ') with
    | '\x7d' :: r => some ([], r)
    | cs =>
      match cs.dropWhile isNameChar with
      | '=' :: '"' :: r => do
        let (v, r) ← value? escapes 0 r
        let m := (String.ofList (cs.takeWhile isNameChar), String.ofList v)
        match r with
        | ',' :: r => (matchers? escapes fuel r).map fun (ms, rest) => (m :: ms, rest)
        | '\x7d' :: r => some ([m], r)
        | _ => none
      | _ => none

/-- The metric of a selector, its matchers, and what follows it. -/
def read? (escapes : Escapes) (query : String) :
    Option (String × List (String × String) × String) :=
  let cs := query.toList
  match cs.dropWhile isNameChar with
  | '\x7b' :: r => (matchers? escapes r.length r).map fun (ms, rest) =>
    (String.ofList (cs.takeWhile isNameChar), ms, String.ofList rest)
  | _ => none

variable {escapes : Escapes}

/-- Characters that stand for themselves are read as they are written, and what follows them
further. -/
theorem value?_plain {v : List Char} (h : ∀ c ∈ v, isPlain c = true) (r : List Char) :
    value? escapes 0 (v ++ r) = (value? escapes 0 r).map fun (w, rest) => (v ++ w, rest) := by
  induction v with
  | nil => exact Option.map_id'.symm
  | cons c v ih =>
    have hc := h c List.mem_cons_self
    unfold isPlain at hc
    simp only [Bool.and_eq_true, bne_iff_ne] at hc
    obtain ⟨⟨hquote, hescape⟩, hbreak⟩ := hc
    rw [List.cons_append, value?, if_neg hquote, if_neg hbreak, if_neg hescape,
      ih fun d hd => h d (List.mem_cons_of_mem c hd), Option.map_map]
    rfl

/-- Where every character stands for itself, a value is read as it is written. -/
theorem value?_append {v : List Char} (h : ∀ c ∈ v, isPlain c = true) (rest : List Char) :
    value? escapes 0 (v ++ '"' :: rest) = some (v, rest) := by
  have hend : value? escapes 0 ('"' :: rest) = some ([], rest) := rfl
  rw [value?_plain h, hend]
  exact congrArg (fun w => some (w, rest)) (List.append_nil v)

/-- An escape is read as what it stands for, and what follows it further. -/
theorem value?_escape {r : List Char} {d : Char} {n : Nat} (h : escapes r = some (d, n)) :
    value? escapes 0 ('\\' :: r) = (value? escapes n r).map fun (w, rest) => (d :: w, rest) := by
  rw [value?, if_neg (by decide), if_neg (by decide), if_pos rfl, h]
  rfl

/-- A name is read up to the sign behind it. -/
theorem takeWhile_name {name : List Char} (h : ∀ c ∈ name, isNameChar c = true) {c : Char}
    (hc : isNameChar c = false) (rest : List Char) :
    (name ++ c :: rest).takeWhile isNameChar = name ∧
      (name ++ c :: rest).dropWhile isNameChar = c :: rest := by
  constructor
  · rw [List.takeWhile_append_of_pos h, List.takeWhile_cons_of_neg (by simp [hc]), List.append_nil]
  · rw [List.dropWhile_append_of_pos h, List.dropWhile_cons_of_neg (by simp [hc])]

/-- A blank before a matcher does not count. -/
theorem matchers?_blank (fuel : Nat) (cs : List Char) :
    matchers? escapes (fuel + 1) (' ' :: cs) = matchers? escapes (fuel + 1) cs := by
  rw [matchers?, matchers?, List.dropWhile_cons_of_pos (by rfl)]

/-- A matcher is read as its name and the value behind its quote, and the matchers behind it
follow. -/
theorem matchers?_cons {name : List Char} (hname : ∀ c ∈ name, isNameChar c = true)
    (hne : name ≠ []) (fuel : Nat) (r : List Char) :
    matchers? escapes (fuel + 1) (name ++ '=' :: '"' :: r) =
      (value? escapes 0 r).bind fun (value, r) =>
        match r with
        | ',' :: r => (matchers? escapes fuel r).map fun (ms, rest) =>
          ((String.ofList name, String.ofList value) :: ms, rest)
        | '\x7d' :: r => some ([(String.ofList name, String.ofList value)], r)
        | _ => none := by
  obtain ⟨htake, hdrop⟩ := takeWhile_name hname (c := '=') (by decide) ('"' :: r)
  obtain ⟨c, name, rfl⟩ := List.exists_cons_of_ne_nil hne
  have hc := hname c List.mem_cons_self
  have hblank : c ≠ ' ' := by
    rintro rfl
    exact absurd hc (by decide)
  have hbrace : c ≠ '\x7d' := by
    rintro rfl
    exact absurd hc (by decide)
  have hstart : ((c :: name) ++ '=' :: '"' :: r).dropWhile (· == ' ') =
      (c :: name) ++ '=' :: '"' :: r := by
    rw [List.cons_append, List.dropWhile_cons_of_neg (by simpa using hblank)]
  rw [matchers?, hstart]
  split
  · next heq => exact absurd (List.cons.inj heq).1 hbrace
  · rw [hdrop, htake]
    rfl

/-- Behind a comma the matchers go on. -/
theorem matchers?_comma {name : List Char} (hname : ∀ c ∈ name, isNameChar c = true)
    (hne : name ≠ []) {text value r : List Char}
    (hvalue : value? escapes 0 (text ++ '"' :: ',' :: r) = some (value, ',' :: r)) (fuel : Nat) :
    matchers? escapes (fuel + 1) (name ++ '=' :: '"' :: (text ++ '"' :: ',' :: r)) =
      (matchers? escapes fuel r).map fun (ms, rest) =>
        ((String.ofList name, String.ofList value) :: ms, rest) := by
  rw [matchers?_cons hname hne, hvalue]
  rfl

/-- Behind a brace there are no more matchers. -/
theorem matchers?_brace {name : List Char} (hname : ∀ c ∈ name, isNameChar c = true)
    (hne : name ≠ []) {text value r : List Char}
    (hvalue : value? escapes 0 (text ++ '"' :: '\x7d' :: r) = some (value, '\x7d' :: r))
    (fuel : Nat) :
    matchers? escapes (fuel + 1) (name ++ '=' :: '"' :: (text ++ '"' :: '\x7d' :: r)) =
      some ([(String.ofList name, String.ofList value)], r) := by
  rw [matchers?_cons hname hne, hvalue]
  rfl

/-- A selector is read as the name of its metric and its matchers. -/
theorem read?_of_toList {query name : String} (hname : ∀ c ∈ name.toList, isNameChar c = true)
    {rest : List Char} (hquery : query.toList = name.toList ++ '\x7b' :: rest) :
    read? escapes query = (matchers? escapes rest.length rest).map fun (ms, rest) =>
      (name, ms, String.ofList rest) := by
  obtain ⟨htake, hdrop⟩ := takeWhile_name hname (c := '\x7b') (by decide) rest
  unfold read?
  simp only [hquery, htake, hdrop, String.ofList_toList]

end AlertSync.Selector
