import AlertSync.Form
import AlertSync.Numeral.Decimal

/-!
# JSON values

A JSON text as it was read: members in their order with repetitions, numbers as their characters,
and strings with `none` for those whose escapes denote no text. `Value.form` says how such a value
can be read.
-/

namespace AlertSync.Json

/-- A JSON value. -/
inductive Value
  | null
  | bool (b : Bool)
  /-- A number as it is written. -/
  | number (literal : List Char)
  /-- A string, or `none` where half of a surrogate pair stands alone. -/
  | string (s : Option String)
  | array (items : List Value)
  | object (members : List (Option String × Value))
  deriving Inhabited

namespace Value

/-- The natural number that a literal is, if it has neither sign, fraction nor exponent. -/
def natural? (literal : List Char) : Option Nat :=
  if literal.all Char.isDigit then some (Numeral.ofDecimal literal) else none

/-- The readings of a scalar. -/
def readings : Value → Readings
  | null => ⟨none, none, none, some true, false⟩
  | bool b => ⟨none, some b, none, some false, false⟩
  | number literal => ⟨none, none, natural? literal, some false, false⟩
  | string s => ⟨s, none, none, some false, false⟩
  | _ => ⟨none, none, none, some false, false⟩

/-- How a value can be read. -/
def form : Value → Form
  | array items => .list true (formList items)
  | object members => .record (formMembers members)
  | v => .scalar v.readings
where
  formList : List Value → List Form
    | [] => []
    | v :: r => form v :: formList r
  formMembers : List (Option String × Value) → List (Option String × Form)
    | [] => []
    | (name, v) :: r => (name, form v) :: formMembers r

end Value

end AlertSync.Json
