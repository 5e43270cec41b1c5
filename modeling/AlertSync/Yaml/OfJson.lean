import AlertSync.Json.Number
import AlertSync.Json.Value
import AlertSync.Yaml.Value

/-!
# JSON as YAML

Every JSON value is a YAML value, unless it holds a number beyond all floating-point numbers or a
string that is no text.
-/

namespace AlertSync.Yaml

mutual

/-- The YAML value of a JSON value. -/
def ofJson? : Json.Value → Option Value
  | .null => some .null
  | .bool b => some (.bool b)
  | .number literal => (Json.Number.of? literal).map fun n =>
    match n with
    | .integer i => .number (.integer i)
    | .float x => .number (.float x)
  | .string s => s.map .string
  | .array items => (ofJsonItems? items).map .sequence
  | .object members => (ofJsonMembers? members).map .mapping

def ofJsonItems? : List Json.Value → Option (List Value)
  | [] => some []
  | v :: r => do return (← ofJson? v) :: (← ofJsonItems? r)

def ofJsonMembers? : List (Option String × Json.Value) → Option (List (Value × Value))
  | [] => some []
  | (name, v) :: r => do return (.string (← name), ← ofJson? v) :: (← ofJsonMembers? r)

end

end AlertSync.Yaml
