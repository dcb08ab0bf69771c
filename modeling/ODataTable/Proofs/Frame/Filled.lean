import ODataTable.Proofs.Frame

/-! Rows that are read back from the columns that hold them.

A frame keeps columns and is filled with rows. The column in some place holds the cells that the
rows have in that place, in the order of the rows. So the cells of all columns at one index are a
row again, and the text of the frame lists the rows.
-/

set_option autoImplicit false

namespace ODataTable.Frame

theorem getElem?_appendCells {columns : List Column} {cells : List (Option Edm.Cell)}
    (width : cells.length = columns.length) (place : Nat) :
    (appendCells columns cells)[place]? =
      columns[place]?.map fun column => column.extend cells[place]?.toList := by
  induction columns generalizing cells place with
  | nil => cases cells <;> rfl
  | cons column columns ih =>
    cases cells with
    | nil => cases width
    | cons cell cells =>
      cases place with
      | zero => simp [appendCells, Column.extend]
      | succ place => simpa [appendCells] using ih (Nat.succ.inj width) place

/-- The cells that some rows have in one place. -/
def cellsIn (place : Nat) (rows : List (List (Option Edm.Cell))) : List (Option Edm.Cell) :=
  rows.flatMap fun row => row[place]?.toList

theorem getElem?_appendRows (frame : Frame) {rows : List (List (Option Edm.Cell))}
    (width : ∀ row ∈ rows, row.length = frame.columns.length) (place : Nat) :
    (frame.appendRows id rows).columns[place]? =
      frame.columns[place]?.map fun column => column.extend (cellsIn place rows) := by
  induction rows generalizing frame with
  | nil => simp [appendRows, cellsIn]
  | cons row rest ih =>
    have here := width row List.mem_cons_self
    have same : (frame.appendRow row).columns.length = frame.columns.length := by
      rw [← length_kinds, kinds_appendRow, length_kinds]
    have later := ih (frame.appendRow row) fun other member => by
      rw [same]
      exact width other (List.mem_cons_of_mem _ member)
    calc (frame.appendRows id (row :: rest)).columns[place]?
        = ((frame.appendRow row).appendRows id rest).columns[place]? := rfl
      _ = (frame.appendRow row).columns[place]?.map (·.extend (cellsIn place rest)) := later
      _ = frame.columns[place]?.map (·.extend (cellsIn place (row :: rest))) := by
        rw [appendRow, getElem?_appendCells here, Option.map_map]
        simp [cellsIn, Function.comp_def]

theorem map_cellsIn {place : Nat} {rows : List (List (Option Edm.Cell))}
    (reached : ∀ row ∈ rows, place < row.length) :
    (cellsIn place rows).map some = rows.map (·[place]?) := by
  induction rows with
  | nil => rfl
  | cons row rest ih =>
    have here := List.getElem?_eq_getElem (reached row List.mem_cons_self)
    have after := ih fun other member => reached other (List.mem_cons_of_mem _ member)
    simp only [cellsIn] at after
    simp only [cellsIn, List.flatMap_cons, List.map_cons, after, here, Option.toList_some,
      List.singleton_append]

theorem getElem?_cellsIn {place : Nat} {rows : List (List (Option Edm.Cell))}
    (reached : ∀ row ∈ rows, place < row.length) {index : Nat} {row : List (Option Edm.Cell)}
    (found : rows[index]? = some row) : (cellsIn place rows)[index]? = row[place]? := by
  have cells := congrArg (·[index]?) (map_cellsIn reached)
  simp only [List.getElem?_map, found, Option.map_some] at cells
  have here := List.getElem?_eq_getElem (reached row (List.mem_of_getElem? found))
  cases cell : (cellsIn place rows)[index]? with
  | none => rw [cell] at cells; cases cells
  | some value =>
    rw [cell, Option.map_some, Option.some.injEq] at cells
    exact cells

/-- The frame to which some columns are added, and then some rows appended. -/
def ofRows (name : String) (headings : List Column) (rows : List (List (Option Edm.Cell))) : Frame :=
  rows.foldl appendRow (headings.foldl addColumn { name })

theorem foldl_addColumn (frame : Frame) (headings : List Column) :
    headings.foldl addColumn frame = { frame with columns := frame.columns ++ headings } := by
  induction headings generalizing frame with
  | nil => simp
  | cons heading rest ih => simp [addColumn, ih]

theorem ofRows_eq (name : String) (headings : List Column)
    (rows : List (List (Option Edm.Cell))) :
    ofRows name headings rows = ({ name, columns := headings } : Frame).appendRows id rows := by
  rw [ofRows, foldl_addColumn]
  rfl

/-- The text of a table: the names over a rule, the rows with null for a missing cell, and their
number. -/
def listing (names : List String) (rows : List (List (Option Edm.Cell))) : List Char :=
  List.intercalate " | ".toList (names.map (·.toList)) ++ "\n".toList ++
    List.replicate (names.length * 15) '-' ++ "\n".toList ++
    (rows.flatMap fun row =>
      List.intercalate " | ".toList (row.map (·.elim "null".toList Edm.Cell.write)) ++
        "\n".toList) ++
    "\nTotal records: ".toList ++ decimalDigits rows.length ++ "\n".toList

theorem writeCell_eq : writeCell = (·.elim "null".toList Edm.Cell.write) := by
  funext cell
  cases cell <;> rfl

section
variable {name : String} {headings : List Column} {rows : List (List (Option Edm.Cell))}

theorem length_ofRows : (ofRows name headings rows).columns.length = headings.length := by
  rw [ofRows_eq, ← length_kinds, kinds_appendRows, length_kinds]

theorem regular_of_blank (blank : ∀ heading ∈ headings, heading.cells = #[]) :
    ({ name, columns := headings } : Frame).Regular 0 := by
  constructor
  · intro heading member
    rw [Column.size, blank heading member, Array.size_empty]
  · intro heading member cell inside
    rw [blank heading member] at inside
    exact absurd inside (Array.not_mem_empty _)

variable (accepted : ∀ row ∈ rows, ({ name, columns := headings } : Frame).Accepts row)
include accepted

theorem getElem?_ofRows (place : Nat) :
    (ofRows name headings rows).columns[place]? =
      headings[place]?.map fun heading => heading.extend (cellsIn place rows) := by
  rw [ofRows_eq]
  exact getElem?_appendRows _ (fun row member => (accepted row member).1) place

theorem names_ofRows :
    (ofRows name headings rows).columns.map (·.name) = headings.map (·.name) := by
  refine List.ext_getElem? fun place => ?_
  rw [List.getElem?_map, getElem?_ofRows accepted, List.getElem?_map, Option.map_map]
  rfl

variable (blank : ∀ heading ∈ headings, heading.cells = #[])
include blank

theorem ofRows_regular : (ofRows name headings rows).Regular rows.length := by
  have filled := (regular_of_blank blank).appendRows id accepted
  rw [ofRows_eq]
  simpa using filled

variable (shown : headings ≠ [])
include shown

theorem rowCount_ofRows : (ofRows name headings rows).rowCount = rows.length := by
  refine (ofRows_regular accepted blank).rowCount fun missing => shown ?_
  have length : (ofRows name headings rows).columns.length = headings.length := length_ofRows
  rw [missing] at length
  exact List.eq_nil_of_length_eq_zero length.symm

theorem cellsAt_ofRows {index : Nat} {row : List (Option Edm.Cell)}
    (found : rows[index]? = some row) :
    cellsAt index (ofRows name headings rows).columns = .ok row := by
  have bound : index < (ofRows name headings rows).rowCount := by
    rw [rowCount_ofRows accepted blank shown]
    exact (List.getElem?_eq_some_iff.mp found).1
  rw [(ofRows_regular accepted blank).cellsAt bound]
  refine congrArg Except.ok (List.ext_getElem? fun place => ?_)
  rw [List.getElem?_map, getElem?_ofRows accepted]
  cases there : headings[place]? with
  | none =>
    -- The row is not wider than the columns.
    have width := (accepted row (List.mem_of_getElem? found)).1
    have outside := List.getElem?_eq_none_iff.mp there
    exact (List.getElem?_eq_none (width.symm ▸ outside)).symm
  | some heading =>
    have inside := (List.getElem?_eq_some_iff.mp there).1
    have reached : ∀ other ∈ rows, place < other.length := fun other member => by
      rw [(accepted other member).1]
      exact inside
    have cell := getElem?_cellsIn reached found
    have here := List.getElem?_eq_getElem (reached row (List.mem_of_getElem? found))
    simp [Column.extend, blank heading (List.mem_of_getElem? there), cell, here]

theorem row?_ofRows (index : Nat) : (ofRows name headings rows).row? index = .ok rows[index]? := by
  have count := rowCount_ofRows accepted blank shown
  unfold row?
  rw [count]
  split
  next past => rw [List.getElem?_eq_none past]
  next within =>
    have found := List.getElem?_eq_getElem (Nat.lt_of_not_le within)
    rw [cellsAt_ofRows accepted blank shown found, found]
    rfl

theorem table_ofRows (filled : rows ≠ []) :
    (ofRows name headings rows).table = .ok (listing (headings.map (·.name)) rows) := by
  have count := rowCount_ofRows accepted blank shown
  have some : rows.length ≠ 0 := fun none => filled (List.eq_nil_of_length_eq_zero none)
  have lines : ∀ index ∈ List.range rows.length, (ofRows name headings rows).writeRow index =
      pure (writeLine ((rows[index]?.getD []).map writeCell)) := by
    intro index member
    have found := List.getElem?_eq_getElem (List.mem_range.mp member)
    rw [writeRow, cellsAt_ofRows accepted blank shown found, found]
    rfl
  have all : (List.range rows.length).map (fun index =>
      writeLine ((rows[index]?.getD []).map writeCell)) =
        rows.map fun row => writeLine (row.map writeCell) :=
    List.ext_getElem (by simp) fun index _ bound => by
      rw [List.length_map] at bound
      simp [bound]
  have names : (ofRows name headings rows).columns.map (·.name.toList) =
      (headings.map (·.name)).map (·.toList) := by
    rw [← names_ofRows accepted, List.map_map]
    rfl
  rw [table, count, if_neg some, mapM_eq_pure lines, all, names, length_ofRows]
  refine congrArg Except.ok ?_
  simp only [listing, List.flatMap_def, List.map_map, List.length_map, writeLine, writeCell_eq]
  simp

end

/-- Rows that are appended to new columns come out as they went in: the frame counts them, gives
each at its index and nothing past the last one, and has in each column the cells of the rows in
the place of the column. Its text lists the rows under the names of the columns. -/
theorem ofRows_readsBack (name : String) {headings : List Column}
    {rows : List (List (Option Edm.Cell))} (shown : headings ≠ [])
    (blank : ∀ heading ∈ headings, heading.cells = #[])
    (accepted : ∀ row ∈ rows, ({ name, columns := headings } : Frame).Accepts row) :
    (ofRows name headings rows).rowCount = rows.length ∧
    (∀ index, (ofRows name headings rows).row? index = .ok rows[index]?) ∧
    (ofRows name headings rows).columns.length = headings.length ∧
    (∀ (place : Nat) (heading : Column), headings[place]? = some heading →
      ∃ cells : List (Option Edm.Cell),
        (ofRows name headings rows).columns[place]? =
          some { heading with cells := cells.toArray } ∧
        cells.map some = rows.map (·[place]?)) ∧
    (rows ≠ [] →
      (ofRows name headings rows).table = .ok (listing (headings.map (·.name)) rows)) := by
  refine ⟨rowCount_ofRows accepted blank shown, row?_ofRows accepted blank shown, length_ofRows,
    fun place heading there => ?_, table_ofRows accepted blank shown⟩
  have inside := (List.getElem?_eq_some_iff.mp there).1
  have reached : ∀ row ∈ rows, place < row.length := fun row member => by
    rw [(accepted row member).1]
    exact inside
  refine ⟨cellsIn place rows, ?_, map_cellsIn reached⟩
  rw [getElem?_ofRows accepted, there, Option.map_some, Column.extend,
    blank heading (List.mem_of_getElem? there), Array.empty_append]

def twinHeadings : List Column :=
  [{ name := "x", kind := .int32 }, { name := "x", labels := [("a", "b")], kind := .string }]

/-- Two rows with a null each. -/
def twinRows : List (List (Option Edm.Cell)) :=
  [[some (.int32 10), none], [none, some (.string "y")]]

theorem ofRows_readsBack_twin :
    (∀ row ∈ twinRows, ({ name := "A", columns := twinHeadings } : Frame).Accepts row) ∧
      (ofRows "A" twinHeadings twinRows).row? 1 = .ok (some [none, some (.string "y")]) ∧
      (ofRows "A" twinHeadings twinRows).table =
        .ok ("x | x\n------------------------------\n10 | null\nnull | y\n\n" ++
          "Total records: 2\n").toList := by
  have accepted : ∀ row ∈ twinRows,
      ({ name := "A", columns := twinHeadings } : Frame).Accepts row := by
    simp [twinRows, twinHeadings, Accepts, kinds, Edm.Cell.kind]
  obtain ⟨_, found, _, _, listed⟩ :=
    ofRows_readsBack "A" (by decide) (by simp [twinHeadings]) accepted
  refine ⟨accepted, found 1, ?_⟩
  rw [listed (by decide)]
  exact congrArg Except.ok (by decide +kernel)

end ODataTable.Frame
