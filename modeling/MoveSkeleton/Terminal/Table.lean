import MoveSkeleton.Number.Double
import MoveSkeleton.Terminal.Wrap

/-! Tables with ruled lines and a title over them. -/
namespace MoveSkeleton.Terminal

structure Column where
  header : Text
  alignment : Alignment := .left
  cells : List Text

def Column.texts (c : Column) : List Text := c.header :: c.cells

structure Table where
  title : Text
  columns : List Column

namespace Table

/-- The width of the widest line of a cell. Here every line break counts, and a tab takes no
cell. -/
def cellWidth (cell : Text) : Nat :=
  let kept := (cell.points.filter (!isDropped ·)).map CodePoint.shown
  ((Text.lines kept).map fun line => Terminal.width (line.map .char)).foldl max 0

def padding : Nat := 2

def ruleCount (t : Table) : Nat := t.columns.length + 1

def room (columns : Nat) (t : Table) : Nat := columns - t.ruleCount

def total (columns : List Nat) : Nat :=
  columns.foldl (· + ·) 0

def reduce (widest limit : Nat) : (excess count : Nat) → List Nat → List Nat
  | _, _, [] => []
  | excess, count, w :: rest =>
    if w = widest then
      let part := min limit (Double.roundEven excess count)
      (w - part) :: reduce widest limit (excess - part) (count - 1) rest
    else w :: reduce widest limit excess count rest

/-- Narrows the widest columns to the next narrower one, and again, until all fit into `room`. Each
turn takes a cell away at least, so that `fuel` turns take away as many cells. -/
def narrow (room : Nat) : (fuel : Nat) → List Nat → List Nat
  | 0, ws => ws
  | fuel + 1, ws =>
    if total ws ≤ room then ws
    else
      let excess := total ws - room
      let widest := ws.foldl max 0
      let next := (ws.filter (· ≠ widest)).foldl max 0
      narrow room fuel (reduce widest (min excess (widest - next)) excess (ws.count widest) ws)

def widths (columns : Nat) (t : Table) : List Nat :=
  let wanted := t.columns.map fun c =>
    min (t.room columns) ((c.texts.map cellWidth).foldl max 0 + padding)
  narrow (t.room columns) (total wanted) wanted

def rule (left joint right : String) (line : Char) (widths : List Nat) : Text :=
  let parts := widths.map fun w => (⟨List.replicate w (.char line)⟩ : Text)
  left ++ Text.intercalate joint parts ++ right

/-- The lines of a row. A cell is filled up with blanks once it is aligned, so that it gets one more
where one is joined to its text. Cells with fewer lines than others get blank ones, and a column with
room for nothing but the blanks beside its cells has only those. -/
def rowLines (border : String) (cells : List (Alignment × Nat × Text)) : List Text :=
  let shaped := cells.map fun (a, w, cell) =>
    (w, if w ≤ padding then []
      else (alignedLines a .ellipsis (w - padding) cell).map (pad (w - 1)))
  let height := (shaped.map (·.2.length)).foldl max 1
  (List.range height).map fun i =>
    let parts := shaped.map fun (w, lines) =>
      match lines[i]? with
      | some line => (⟨.char ' ' :: line⟩ : Text)
      | none => ⟨List.replicate w (.char ' ')⟩
    border ++ Text.intercalate border parts ++ border

/-- The title stands centred over the table, which is ruled heavily around its headers and lightly
around its rows. What is too wide for the screen is cut off. -/
def layOut (columns : Nat) (t : Table) : List Text :=
  let ws := t.widths columns
  let cellsOf := fun (text : Column → Text) =>
    (t.columns.zip ws).map fun (c, w) => (c.alignment, w, text c)
  let height := (t.columns.map (·.cells.length)).foldl max 0
  let rows := (List.range height).flatMap fun i =>
    rowLines "│" (cellsOf fun c => (c.cells[i]?).getD "")
  let title := (alignedLines .center .fold (total ws + t.ruleCount) t.title).map Text.mk
  (title ++ [rule "┏" "┳" "┓" '━' ws] ++ rowLines "┃" (cellsOf (·.header)) ++
    [rule "┡" "╇" "┩" '━' ws] ++ rows ++ [rule "└" "┴" "┘" '─' ws]).map fun line =>
      ⟨crop columns line.points⟩

def readCell (s : Screen) (t : Table) (cell : Text) : Except Fault Text :=
  if t.room s.columns ≤ padding then .ok "" else s.read cell

def read (s : Screen) (t : Table) : Except Fault Table := do
  let columns ← t.columns.mapM fun c => do
    return { c with header := ← t.readCell s c.header, cells := ← c.cells.mapM (t.readCell s) }
  return { title := ← s.read t.title, columns }

def lines (s : Screen) (t : Table) : Except Fault (List Text) := do
  encodable ((← t.read s).layOut s.columns)

end Table

end MoveSkeleton.Terminal
