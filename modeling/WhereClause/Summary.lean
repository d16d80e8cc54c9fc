import WhereClause.Mapping
import WhereClause.Text.Escaped

/-! One-line summaries of columns, registries and mappings, for logs and inspection. -/

set_option autoImplicit false

namespace WhereClause

def ColumnInfo.summary (info : ColumnInfo) : String :=
  let converter :=
    match info.converter with
    | some converter => "Some(" ++ Text.visible converter.name ++ ")"
    | none => "None"
  "ColumnInfo \x7b column: " ++ Text.visible info.column ++ ", converter: " ++ converter ++ " \x7d"

def Registry.summary (registry : Registry) : String :=
  "ConverterRegistry \x7b converters: [" ++ ", ".intercalate (registry.names.map Text.visible)
    ++ "] \x7d"

def Strategy.label : Strategy → String
  | .expand => "Expand"
  | .nativeArray => "NativeArray"
  | .tableValued => "TableValued"

def Mapping.summary (mapping : Mapping) : String :=
  "Translator \x7b dialect: " ++ Text.visible mapping.style.name
    ++ ", converters: " ++ (if mapping.converters.isSome then "true" else "false")
    ++ ", membership: " ++ mapping.membership.label ++ " \x7d"

end WhereClause
