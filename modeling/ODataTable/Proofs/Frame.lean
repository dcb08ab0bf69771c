import ODataTable.Frame
import ODataTable.Proofs.Effect

/-! Rows that are appended to a frame, seen from its columns.

A row is appended by adding one cell to each column. When the cells of every row come from one
list of items, each column ends with the cells of its own item and of no other.

Rows that a frame accepts leave its columns equally long and their cells of the kinds of the
columns. Every row of such a frame can be read and written.
-/

set_option autoImplicit false

namespace ODataTable

def Column.extend (column : Column) (cells : List (Option Edm.Cell)) : Column :=
  { column with cells := column.cells ++ cells.toArray }

@[simp] theorem Column.extend_nil (column : Column) : column.extend [] = column := by
  simp [extend]

@[simp] theorem Column.extend_extend (column : Column) (first rest : List (Option Edm.Cell)) :
    (column.extend first).extend rest = column.extend (first ++ rest) := by
  simp [extend]

namespace Frame

theorem appendCells_map {α : Type} (heading : α → Column) (cell : α → Option Edm.Cell)
    (items : List α) :
    appendCells (items.map heading) (items.map cell) =
      items.map fun item => (heading item).extend [cell item] := by
  induction items with
  | nil => rfl
  | cons item rest ih => simp [appendCells, Column.extend, ih]

/-- Rows whose cells come from the items of the columns leave every column with its heading and
with one cell for each row. -/
theorem foldl_appendRow {α ρ : Type} (name : String) (heading : α → Column)
    (cell : ρ → α → Option Edm.Cell) (items : List α) (rows : List ρ) :
    rows.foldl (fun (frame : Frame) row => frame.appendRow (items.map (cell row)))
        { name, columns := items.map heading } =
      { name, columns := items.map fun item => (heading item).extend (rows.map (cell · item)) } := by
  induction rows generalizing heading with
  | nil => simp
  | cons row rest ih =>
    have appended : appendRow { name, columns := items.map heading } (items.map (cell row)) =
        { name, columns := items.map fun item => (heading item).extend [cell row item] } := by
      simp only [appendRow, appendCells_map]
    rw [List.foldl_cons, appended, ih]
    simp

theorem cellsAt_map {α : Type} (column : α → Column) (cell : α → Option Edm.Cell)
    (items : List α) (index : Nat)
    (reached : ∀ item ∈ items, (column item).cells[index]? = some (cell item)) :
    cellsAt index (items.map column) = .ok (items.map cell) := by
  induction items with
  | nil => rfl
  | cons item rest ih =>
    have first := reached item List.mem_cons_self
    have others := ih fun other member => reached other (List.mem_cons_of_mem _ member)
    simp only [List.map_cons, cellsAt, first, others, Except.map]

def kinds (frame : Frame) : List Edm.ColumnKind :=
  frame.columns.map (·.kind)

/-- Whether a row has one cell for each column, and no cell of another kind than its column. -/
def Accepts (frame : Frame) (cells : List (Option Edm.Cell)) : Prop :=
  cells.length = frame.columns.length ∧
    ∀ kind cell, (kind, some cell) ∈ frame.kinds.zip cells → cell.kind = kind

/-- Whether all columns have the same number of cells, and no cell of another kind. -/
structure Regular (frame : Frame) (rows : Nat) : Prop where
  sizes : ∀ column ∈ frame.columns, column.size = rows
  kinds : ∀ column ∈ frame.columns, ∀ cell, some cell ∈ column.cells → cell.kind = column.kind

theorem kinds_appendCells (columns : List Column) (cells : List (Option Edm.Cell)) :
    (appendCells columns cells).map (·.kind) = columns.map (·.kind) := by
  induction columns generalizing cells with
  | nil => cases cells <;> rfl
  | cons column columns ih =>
    cases cells with
    | nil => rfl
    | cons cell cells => simp only [appendCells, List.map_cons, ih]

@[simp] theorem kinds_appendRow (frame : Frame) (cells : List (Option Edm.Cell)) :
    (frame.appendRow cells).kinds = frame.kinds :=
  kinds_appendCells frame.columns cells

theorem length_kinds (frame : Frame) : frame.kinds.length = frame.columns.length :=
  List.length_map ..

/-- What a frame accepts is settled by its columns, and no row changes that. -/
theorem accepts_appendRow (frame : Frame) (other cells : List (Option Edm.Cell)) :
    (frame.appendRow other).Accepts cells ↔ frame.Accepts cells := by
  simp only [Accepts, ← length_kinds, kinds_appendRow]

theorem mem_appendCells {columns : List Column} {cells : List (Option Edm.Cell)} {column : Column}
    (width : cells.length = columns.length) (member : column ∈ appendCells columns cells) :
    ∃ before cell, (before, cell) ∈ columns.zip cells ∧ column = before.extend [cell] := by
  induction columns generalizing cells with
  | nil =>
    cases cells with
    | nil => cases member
    | cons cell cells => cases width
  | cons first columns ih =>
    cases cells with
    | nil => cases width
    | cons cell cells =>
      rcases List.mem_cons.mp member with rfl | member
      · exact ⟨first, cell, List.mem_cons_self, by simp [Column.extend]⟩
      · obtain ⟨before, added, paired, same⟩ := ih (Nat.succ.inj width) member
        exact ⟨before, added, List.mem_cons_of_mem _ paired, same⟩

/-- A row that is accepted makes every column one cell longer. -/
theorem Regular.appendRow {frame : Frame} {rows : Nat} (regular : frame.Regular rows)
    {cells : List (Option Edm.Cell)} (accepted : frame.Accepts cells) :
    (frame.appendRow cells).Regular (rows + 1) := by
  obtain ⟨width, fits⟩ := accepted
  constructor
  · intro column member
    obtain ⟨before, cell, paired, rfl⟩ := mem_appendCells width member
    have size := regular.sizes before (List.of_mem_zip paired).1
    simpa [Column.size, Column.extend] using size
  · intro column member value inside
    obtain ⟨before, cell, paired, rfl⟩ := mem_appendCells width member
    -- A cell was there before, or it is the cell of the row.
    have known := regular.kinds before (List.of_mem_zip paired).1 value
    simp only [Column.extend, Array.mem_append, List.mem_toArray, List.mem_singleton] at inside
    rcases inside with inside | rfl
    · exact known inside
    · refine fits before.kind value ?_
      rw [Frame.kinds, List.zip_map_left]
      exact List.mem_map.mpr ⟨(before, some value), paired, rfl⟩

section
variable {ρ : Type} (cellsOf : ρ → List (Option Edm.Cell))

def appendRows (frame : Frame) (rows : List ρ) : Frame :=
  rows.foldl (fun frame row => frame.appendRow (cellsOf row)) frame

@[simp] theorem kinds_appendRows (frame : Frame) (rows : List ρ) :
    (frame.appendRows cellsOf rows).kinds = frame.kinds := by
  induction rows generalizing frame with
  | nil => rfl
  | cons row rest ih => exact (ih _).trans (kinds_appendRow frame _)

theorem accepts_appendRows (frame : Frame) (rows : List ρ) (cells : List (Option Edm.Cell)) :
    (frame.appendRows cellsOf rows).Accepts cells ↔ frame.Accepts cells := by
  simp only [Accepts, ← length_kinds, kinds_appendRows]

/-- Rows that a frame accepts at the start are accepted one after the other, and at the end each
column has a cell for each of them. -/
theorem Regular.appendRows {frame : Frame} {count : Nat} (regular : frame.Regular count)
    {rows : List ρ} (accepted : ∀ row ∈ rows, frame.Accepts (cellsOf row)) :
    (frame.appendRows cellsOf rows).Regular (count + rows.length) := by
  induction rows generalizing frame count with
  | nil => exact regular
  | cons row rest ih =>
    have now := regular.appendRow (accepted row List.mem_cons_self)
    have later := ih now fun other member =>
      (accepts_appendRow frame _ _).mpr (accepted other (List.mem_cons_of_mem _ member))
    rw [List.length_cons, Nat.add_comm rest.length 1, ← Nat.add_assoc]
    exact later

end

theorem Regular.rowCount {frame : Frame} {rows : Nat} (regular : frame.Regular rows)
    (shown : frame.columns ≠ []) : frame.rowCount = rows := by
  unfold Frame.rowCount
  split
  next none => exact absurd none shown
  next column rest found => exact regular.sizes column (found ▸ List.mem_cons_self)

theorem Regular.cellsAt {frame : Frame} {rows : Nat} (regular : frame.Regular rows) {index : Nat}
    (bound : index < frame.rowCount) :
    Frame.cellsAt index frame.columns =
      .ok (frame.columns.map fun column => column.cells[index]?.getD none) := by
  have reached := cellsAt_map id (fun column => column.cells[index]?.getD none) frame.columns index
  rw [List.map_id] at reached
  refine reached fun column member => ?_
  have inside : index < column.cells.size := by
    have size : column.cells.size = rows := regular.sizes column member
    have count := regular.rowCount (List.ne_nil_of_mem member)
    omega
  simp [inside]

theorem Regular.row? {frame : Frame} {rows : Nat} (regular : frame.Regular rows) {index : Nat}
    (bound : index < frame.rowCount) :
    ∃ cells, frame.row? index = .ok (some cells) ∧ cells.length = frame.columns.length := by
  unfold Frame.row?
  rw [if_neg (Nat.not_le.mpr bound), regular.cellsAt bound]
  exact ⟨_, rfl, List.length_map ..⟩

theorem Regular.table {frame : Frame} {rows : Nat} (regular : frame.Regular rows) :
    ∃ text, frame.table = .ok text := by
  unfold Frame.table
  split
  · exact ⟨_, rfl⟩
  · have each : ∀ index ∈ List.range frame.rowCount, ∃ line, frame.writeRow index = .ok line := by
      intro index member
      rw [writeRow, regular.cellsAt (List.mem_range.mp member)]
      exact ⟨_, rfl⟩
    obtain ⟨lines, written⟩ := mapM_ok each
    rw [written]
    exact ⟨_, rfl⟩

end Frame

end ODataTable
