import WhereClause.Text.Lowercase
import WhereClause.Text.Order
import WhereClause.Value

/-! Converters from predicate values to the values that columns store. -/

set_option autoImplicit false

namespace WhereClause

structure Converter where
  name : String
  convert : Value → Except String Value

namespace Converter

def rejection (expected : ValueType) (value : Value) : String :=
  "expected a " ++ expected.name ++ ", got " ++ value.type.name

/-- Booleans stored as words; an absent boolean is a word too. -/
def boolAsString : Converter where
  name := "bool_as_string"
  convert
    | .bool value => .ok (.string (if value then "true" else "false"))
    | .null .bool => .ok (.string "null")
    | other => .error (rejection .bool other)

def boolAsInt : Converter where
  name := "bool_as_int"
  convert
    | .bool value => .ok (.int (if value then 1 else 0))
    | .null .bool => .ok (.null .int)
    | other => .error (rejection .bool other)

def uuidAsString : Converter where
  name := "uuid_as_string"
  convert
    | .uuid value => .ok (.string value.render)
    | .null .uuid => .ok (.null .string)
    | other => .error (rejection .uuid other)

def timestampAsString : Converter where
  name := "timestamp_as_string"
  convert
    | .timestamp value => .ok (.string value.spaced)
    | .null .timestamp => .ok (.null .string)
    | other => .error (rejection .timestamp other)

def lowercase : Converter where
  name := "lowercase"
  convert
    | .string value => .ok (.string (Text.lowercase value))
    | .null .string => .ok (.null .string)
    | other => .error (rejection .string other)

end Converter

/-- Converters by name; a later one of the same name replaces the earlier. -/
structure Registry where
  converters : List Converter := []

namespace Registry

def empty : Registry := {}

def register (registry : Registry) (converter : Converter) : Registry :=
  { converters := converter :: registry.converters.filter (·.name != converter.name) }

def builtins : Registry :=
  [Converter.boolAsString, Converter.boolAsInt, Converter.uuidAsString,
    Converter.timestampAsString, Converter.lowercase].foldl register empty

def get? (registry : Registry) (name : String) : Option Converter :=
  registry.converters.find? (·.name == name)

def contains (registry : Registry) (name : String) : Bool := (registry.get? name).isSome

def names (registry : Registry) : List String :=
  Text.sortNames (registry.converters.map Converter.name)

end Registry

end WhereClause
