import AlertSync.Numeral.Binary64
import AlertSync.Tree

/-!
# YAML values

What a YAML document holds: scalars, sequences, mappings whose keys are any values in the order in
which they stand, and values under a tag.
-/

namespace AlertSync.Yaml

open Numeral (Binary64)

/-- A number of a YAML document. -/
inductive Number
  | integer (n : Int)
  | float (x : Binary64)
  deriving DecidableEq

/-- A YAML value. -/
inductive Value
  | null
  | bool (b : Bool)
  | number (n : Number)
  | string (s : String)
  | sequence (items : List Value)
  | mapping (entries : List (Value × Value))
  /-- A value under a tag, which is named without its exclamation mark. -/
  | tagged (tag : String) (value : Value)
  deriving Inhabited

namespace Value

/-- The value without its tag. -/
def untagged : Value → Value
  | tagged _ v => v.untagged
  | v => v

mutual

/-- Whether two values are the same. -/
def beq : Value → Value → Bool
  | null, null => true
  | bool a, bool b => a == b
  | number a, number b => a == b
  | string a, string b => a == b
  | sequence a, sequence b => beqItems a b
  | mapping a, mapping b => beqEntries a b
  | tagged s a, tagged t b => s == t && beq a b
  | _, _ => false

def beqItems : List Value → List Value → Bool
  | [], [] => true
  | a :: l, b :: m => beq a b && beqItems l m
  | _, _ => false

def beqEntries : List (Value × Value) → List (Value × Value) → Bool
  | [], [] => true
  | (j, a) :: l, (k, b) :: m => beq j k && beq a b && beqEntries l m
  | _, _ => false

end

mutual

theorem beq_iff : ∀ a b : Value, beq a b = true ↔ a = b
  | null, b | bool _, b | number _, b | string _, b => by cases b <;> simp [beq]
  | sequence l, b => by cases b <;> simp [beq, beqItems_iff l]
  | mapping l, b => by cases b <;> simp [beq, beqEntries_iff l]
  | tagged _ a, b => by cases b <;> simp [beq, beq_iff a]

theorem beqItems_iff : ∀ l m : List Value, beqItems l m = true ↔ l = m
  | [], m => by cases m <;> simp [beqItems]
  | a :: l, m => by cases m <;> simp [beqItems, beq_iff a, beqItems_iff l]

theorem beqEntries_iff : ∀ l m : List (Value × Value), beqEntries l m = true ↔ l = m
  | [], m => by cases m <;> simp [beqEntries]
  | (_, _) :: _, [] => by simp [beqEntries]
  | (j, a) :: l, (k, b) :: m => by
    simp [beqEntries, beq_iff j, beq_iff a, beqEntries_iff l]

end

instance : DecidableEq Value := fun a b => decidable_of_iff _ (beq_iff a b)

end Value

/-- The YAML value of a tree. -/
def ofTree : Tree → Value
  | .absent => .null
  | .flag b => .bool b
  | .number n => .number (.integer n)
  | .text s => .string s
  | .list items => .sequence (ofItems items)
  | .record parts => .mapping (ofParts parts)
where
  ofItems : List Tree → List Value
    | [] => []
    | t :: r => ofTree t :: ofItems r
  ofParts : List (String × Tree) → List (Value × Value)
    | [] => []
    | (name, t) :: r => (.string name, ofTree t) :: ofParts r

end AlertSync.Yaml
