import ContainerBridge.Text.Basic

/-! Tables in boxes with round corners. A cell may have several lines; every character takes one
column. -/

namespace ContainerBridge.Cli.Table

def spaces (n : Nat) : String := String.ofList (List.replicate n ' ')

def cellLines (cell : String) : List String := Text.splitAll '\n' cell

def cellWidth (cell : String) : Nat := ((cellLines cell).map String.length).foldl max 0

/-- The widths of the columns, which are those of their widest cells. -/
def widths (rows : List (List String)) : List Nat :=
  rows.foldl (fun ws row => List.zipWith max (row.map cellWidth) ws)
    ((rows.head?.getD []).map fun _ => 0)

/-- A line between rows, with signs for its ends and for the borders of columns. -/
def rule (left between right : String) (ws : List Nat) : String :=
  left ++ Text.joinWith between (ws.map fun w => String.ofList (List.replicate (w + 2) '─'))
    ++ right

/-- A line of a row. -/
def line (ws : List Nat) (cells : List String) : String :=
  "│" ++ Text.joinWith "│"
    (List.zipWith (fun w s => " " ++ s ++ spaces (w - s.length) ++ " ") ws cells) ++ "│"

/-- The lines of a row, as many as its highest cell has. -/
def rowLines (ws : List Nat) (cells : List String) : List String :=
  let height := (cells.map fun c => (cellLines c).length).foldl max 1
  (List.range height).map fun i => line ws (cells.map fun c => ((cellLines c)[i]?).getD "")

def render (header : List String) (rows : List (List String)) : String :=
  let ws := widths (header :: rows)
  Text.joinWith "\n" <|
    [rule "╭" "┬" "╮" ws] ++ rowLines ws header ++ [rule "├" "┼" "┤" ws]
      ++ rows.flatMap (rowLines ws) ++ [rule "╰" "┴" "╯" ws]

end ContainerBridge.Cli.Table
