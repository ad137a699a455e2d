import LiveControl.Text.Blank

namespace LiveControl.CommandLine

/-- The widths of columns of which each is at least as wide as given and as the cells of a row. -/
def widened : List Nat → List String → List Nat
  | w :: ws, cell :: cells => max w cell.utf8ByteSize :: widened ws cells
  | ws, _ => ws

/-- A cell with blanks up to the width of its column. -/
def filled (width : Nat) (cell : String) : String :=
  cell ++ String.ofList (List.replicate (width - cell.length) ' ')

/-- A row, its cells two blanks apart. -/
def rowText (widths : List Nat) (cells : List String) : String :=
  Text.trimEnd (String.intercalate "  " ((widths.zip cells).map fun c => filled c.1 c.2))

/-- A table: its headings, a line of hyphens below them, and its rows. -/
def columns (headings : List String) (rows : List (List String)) : List String :=
  let widths := rows.foldl widened (headings.map String.utf8ByteSize)
  let rule := widths.map fun w => String.ofList (List.replicate w '-')
  (headings :: rule :: rows).map (rowText widths)

end LiveControl.CommandLine
