import WhereClause.Executor
import WhereClause.Text.Order

/-! Rows as a table of text.

The width of a column is counted in bytes, while padding is counted in characters.
-/

set_option autoImplicit false

namespace WhereClause.Cli

def cellText : Json → String
  | .null => "NULL"
  | .string text => text
  | other => other.compact

def padded (width : Nat) (text : String) : String :=
  text ++ String.ofList (List.replicate (width - text.length) ' ')

def cellOf (row : Row) (column : String) : String :=
  ((row.lookup column).map cellText).getD ""

def columnWidth (rows : List Row) (column : String) : Nat :=
  rows.foldl (fun width row => max width (cellOf row column).utf8ByteSize) column.utf8ByteSize

/-- The lines of a table with the columns of the first row, in the order of their names. -/
def tableLines (rows : List Row) : List String :=
  let columns := Text.sortNames ((rows.headD []).map (·.1))
  let widths := columns.map (columnWidth rows)
  let line (cells : List String) : String :=
    " │ ".intercalate ((cells.zip widths).map fun (cell, width) => padded width cell)
  let rule := "─┼─".intercalate (widths.map fun width => String.ofList (List.replicate width '─'))
  line columns :: rule :: rows.map fun row => line (columns.map (cellOf row))

end WhereClause.Cli
