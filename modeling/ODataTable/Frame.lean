import ODataTable.Dictionary
import ODataTable.Edm.Cell

/-! Tables of typed columns. -/

set_option autoImplicit false

namespace ODataTable

structure Column where
  name : String
  labels : Dictionary String := []
  kind : Edm.ColumnKind
  cells : Array (Option Edm.Cell) := #[]
  deriving DecidableEq, Repr

namespace Column

def withLabel (column : Column) (key value : String) : Column :=
  { column with labels := column.labels.insert key value }

def size (column : Column) : Nat :=
  column.cells.size

def cellTree : Option Edm.Cell → Json.Tree
  | some cell => cell.tree
  | none => .null

def tree (column : Column) : Json.Tree :=
  let labels :=
    if column.labels.isEmpty then []
    else [("labels", Json.Tree.object (column.labels.mapValues .string))]
  .object (("name", .string column.name) :: labels ++
    [("kind", .string column.kind.name), ("values", .list (column.cells.toList.map cellTree))])

end Column

structure Frame where
  name : String
  columns : List Column := []
  deriving DecidableEq, Repr

/-- A row reaches past the end of a column. -/
structure RaggedFrame where
  row : Nat
  deriving DecidableEq, Repr

namespace Frame

def addColumn (frame : Frame) (column : Column) : Frame :=
  { frame with columns := frame.columns ++ [column] }

def appendCells : List Column → List (Option Edm.Cell) → List Column
  | column :: columns, cell :: cells =>
    { column with cells := column.cells.push cell } :: appendCells columns cells
  | columns, _ => columns

def appendRow (frame : Frame) (cells : List (Option Edm.Cell)) : Frame :=
  { frame with columns := appendCells frame.columns cells }

/-- The number of rows, which the first column decides. -/
def rowCount (frame : Frame) : Nat :=
  match frame.columns with
  | [] => 0
  | column :: _ => column.size

def cellsAt (index : Nat) : List Column → Except RaggedFrame (List (Option Edm.Cell))
  | [] => .ok []
  | column :: columns =>
    match column.cells[index]? with
    | none => .error ⟨index⟩
    | some cell => (cellsAt index columns).map (cell :: ·)

/-- The row at an index, or nothing past the last row. -/
def row? (frame : Frame) (index : Nat) : Except RaggedFrame (Option (List (Option Edm.Cell))) :=
  if frame.rowCount ≤ index then .ok none
  else (cellsAt index frame.columns).map some

def column? (frame : Frame) (name : String) : Option Column :=
  frame.columns.find? fun column => column.name = name

def writeCell : Option Edm.Cell → List Char
  | some cell => cell.write
  | none => ['n', 'u', 'l', 'l']

def writeLine (texts : List (List Char)) : List Char :=
  List.intercalate [' ', '|', ' '] texts ++ ['\n']

def writeRow (frame : Frame) (index : Nat) : Except RaggedFrame (List Char) :=
  (cellsAt index frame.columns).map fun cells => writeLine (cells.map writeCell)

def table (frame : Frame) : Except RaggedFrame (List Char) :=
  if frame.rowCount = 0 then .ok "No records found.\n".toList
  else do
    let rows ← (List.range frame.rowCount).mapM frame.writeRow
    .ok (writeLine (frame.columns.map (·.name.toList)) ++
      List.replicate (frame.columns.length * 15) '-' ++ '\n' :: rows.flatten ++
      "\nTotal records: ".toList ++ decimalDigits frame.rowCount ++ ['\n'])

def tree (frame : Frame) : Json.Tree :=
  .object
    [("name", .string frame.name),
     ("meta", .object [("preferredVisualization", .string "table")]),
     ("fields", .list (frame.columns.map Column.tree))]

end Frame

end ODataTable
