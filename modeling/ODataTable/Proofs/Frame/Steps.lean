import ODataTable.Proofs.Frame.Filled

/-! Frames that are built step by step, and when their columns are equally long.

A step adds a column without cells or appends a row that the frame accepts. A row makes every column
longer by one cell, so a column that is added behind a row stays shorter than the first one for
good, whatever follows. The first column is the one that rows are counted by, and then not all of
the rows it counts can be read.
-/

set_option autoImplicit false

namespace ODataTable.Frame

theorem cellsAt_ok_iff {index : Nat} {columns : List Column} :
    (∃ cells, cellsAt index columns = .ok cells) ↔ ∀ column ∈ columns, index < column.size := by
  induction columns with
  | nil => simp [cellsAt]
  | cons column columns ih =>
    rw [List.forall_mem_cons, ← ih, cellsAt]
    cases here : column.cells[index]? with
    | none =>
      have outside : ¬ index < column.size := Nat.not_lt.mpr (Array.getElem?_eq_none_iff.mp here)
      simp [outside]
    | some cell =>
      have inside : index < column.size := (Array.getElem?_eq_some_iff.mp here).1
      simp only [inside, true_and, map_ok_iff]

theorem row?_ok_iff {frame : Frame} {index : Nat} :
    (∃ row, frame.row? index = .ok row) ↔
      (index < frame.rowCount → ∀ column ∈ frame.columns, index < column.size) := by
  unfold row?
  split
  next past => simp [Nat.not_lt.mpr past]
  next within => simp only [Nat.lt_of_not_le within, forall_const, map_ok_iff, cellsAt_ok_iff]

theorem rows_ok_iff {frame : Frame} :
    (∀ index, ∃ row, frame.row? index = .ok row) ↔
      ∀ column ∈ frame.columns, frame.rowCount ≤ column.size := by
  simp only [row?_ok_iff]
  constructor
  · intro read column member
    -- A shorter column could be read behind its end.
    exact Nat.le_of_not_lt fun shorter => Nat.lt_irrefl _ (read column.size shorter column member)
  · exact fun reached index within column member => Nat.lt_of_lt_of_le within (reached column member)

theorem table_ok_iff {frame : Frame} :
    (∃ text, frame.table = .ok text) ↔
      ∀ column ∈ frame.columns, frame.rowCount ≤ column.size := by
  rw [← rows_ok_iff]
  simp only [row?_ok_iff]
  unfold table
  split
  next none => simp [none]
  next some =>
    have lines : (∃ rows, (List.range frame.rowCount).mapM frame.writeRow = .ok rows) ↔
        ∀ index, index < frame.rowCount → ∀ column ∈ frame.columns, index < column.size := by
      simp only [mapM_ok_iff, List.mem_range, writeRow, map_ok_iff, cellsAt_ok_iff]
    rw [← lines]
    constructor
    · rintro ⟨text, written⟩
      obtain ⟨rows, read, _⟩ := bind_eq_ok.mp written
      exact ⟨rows, read⟩
    · rintro ⟨rows, read⟩
      exact ⟨_, bind_eq_ok.mpr ⟨rows, read, rfl⟩⟩

def sizes (frame : Frame) : List Nat :=
  frame.columns.map (·.size)

theorem rowCount_eq_sizes (frame : Frame) : frame.rowCount = frame.sizes.headD 0 := by
  unfold rowCount sizes
  split
  next none => rw [none]; rfl
  next column rest found => rw [found]; rfl

theorem sizes_addColumn (frame : Frame) (heading : Column) :
    (frame.addColumn heading).sizes = frame.sizes ++ [heading.size] := by
  simp [sizes, addColumn]

theorem sizes_appendRow {frame : Frame} {cells : List (Option Edm.Cell)}
    (width : cells.length = frame.columns.length) :
    (frame.appendRow cells).sizes = frame.sizes.map (· + 1) := by
  refine List.ext_getElem? fun place => ?_
  simp only [sizes, appendRow, List.getElem?_map, getElem?_appendCells width, Option.map_map]
  cases there : frame.columns[place]? with
  | none => rfl
  | some column =>
    have inside := (List.getElem?_eq_some_iff.mp there).1
    have here := List.getElem?_eq_getElem (width.symm ▸ inside)
    simp [here, Column.extend, Column.size]

/-- Whether all columns have the same number of cells. -/
def Level (frame : Frame) : Prop :=
  ∃ rows, ∀ column ∈ frame.columns, column.size = rows

theorem level_iff_sizes {frame : Frame} :
    frame.Level ↔ ∀ size ∈ frame.sizes, size = frame.sizes.headD 0 := by
  have all : frame.Level ↔ ∃ rows, ∀ size ∈ frame.sizes, size = rows := by simp [Level, sizes]
  rw [all]
  cases frame.sizes with
  | nil => simp
  | cons first rest => simp

theorem rowCount_addColumn (frame : Frame) {heading : Column} (blank : heading.cells = #[]) :
    (frame.addColumn heading).rowCount = frame.rowCount := by
  have none : heading.size = 0 := by rw [Column.size, blank, Array.size_empty]
  rw [rowCount_eq_sizes, rowCount_eq_sizes, sizes_addColumn, none]
  cases frame.sizes <;> rfl

theorem level_addColumn {frame : Frame} {heading : Column} (blank : heading.cells = #[]) :
    (frame.addColumn heading).Level ↔ frame.Level ∧ frame.rowCount = 0 := by
  have none : heading.size = 0 := by rw [Column.size, blank, Array.size_empty]
  rw [level_iff_sizes, level_iff_sizes, rowCount_eq_sizes, sizes_addColumn, none]
  cases frame.sizes with
  | nil => simp
  | cons first rest => simp [or_imp, forall_and, eq_comm]

section
variable {frame : Frame} {cells : List (Option Edm.Cell)}
  (width : cells.length = frame.columns.length)
include width

theorem rowCount_appendRow_pos : 0 < (frame.appendRow cells).rowCount ↔ frame.columns ≠ [] := by
  have some : frame.columns ≠ [] ↔ frame.sizes ≠ [] := by simp [sizes]
  rw [some, rowCount_eq_sizes, sizes_appendRow width]
  cases frame.sizes <;> simp

theorem level_appendRow : (frame.appendRow cells).Level ↔ frame.Level := by
  rw [level_iff_sizes, level_iff_sizes, sizes_appendRow width]
  cases frame.sizes <;> simp

end

inductive Step where
  | column (heading : Column)
  | row (cells : List (Option Edm.Cell))
  deriving DecidableEq, Repr

namespace Step

def apply (frame : Frame) : Step → Frame
  | .column heading => frame.addColumn heading
  | .row cells => frame.appendRow cells

/-- Whether a column is new, or a row is one that the frame accepts. -/
def IsSound (frame : Frame) : Step → Prop
  | .column heading => heading.cells = #[]
  | .row cells => frame.Accepts cells

end Step

inductive Built (name : String) : List Step → Frame → Prop
  | start : Built name [] { name }
  | step {steps : List Step} {frame : Frame} {next : Step} :
      Built name steps frame → next.IsSound frame → Built name (steps ++ [next]) (next.apply frame)

/-- Whether some row stands between two columns, with any other steps around it. -/
def Interrupted (steps : List Step) : Prop :=
  ∃ first cells later, [.column first, .row cells, .column later].Sublist steps

/-- The last of some steps that are found in order is the very last one, or all come before it. -/
theorem sublist_snoc {found steps : List Step} {last next : Step} :
    (found ++ [last]).Sublist (steps ++ [next]) ↔
      (found ++ [last]).Sublist steps ∨ last = next ∧ found.Sublist steps := by
  have backward : ∀ some : List Step, (last :: found.reverse).Sublist some.reverse ↔
      (found ++ [last]).Sublist some := fun some => by
    rw [← @List.reverse_sublist _ (found ++ [last]), List.reverse_append, List.reverse_singleton,
      List.singleton_append]
  rw [← backward, ← backward, List.reverse_append, List.reverse_singleton, List.singleton_append,
    List.sublist_cons_iff]
  simp [and_assoc]

theorem interrupted_column {steps : List Step} {heading : Column} :
    Interrupted (steps ++ [.column heading]) ↔
      Interrupted steps ∨ ∃ first cells, [.column first, .row cells].Sublist steps := by
  have snoc := fun first cells later =>
    @sublist_snoc [.column first, .row cells] steps (.column later) (.column heading)
  simp only [List.cons_append, List.nil_append] at snoc
  simp only [Interrupted, snoc]
  constructor
  · rintro ⟨first, cells, later, before | ⟨_, before⟩⟩
    · exact .inl ⟨first, cells, later, before⟩
    · exact .inr ⟨first, cells, before⟩
  · rintro (⟨first, cells, later, before⟩ | ⟨first, cells, before⟩)
    · exact ⟨first, cells, later, .inl before⟩
    · exact ⟨first, cells, heading, .inr ⟨rfl, before⟩⟩

theorem interrupted_row {steps : List Step} {cells : List (Option Edm.Cell)} :
    Interrupted (steps ++ [.row cells]) ↔ Interrupted steps := by
  have snoc := fun first middle later =>
    @sublist_snoc [.column first, .row middle] steps (.column later) (.row cells)
  simp only [List.cons_append, List.nil_append] at snoc
  simp [Interrupted, snoc]

namespace Built

variable {name : String} {steps : List Step} {frame : Frame}

theorem columns_ne_nil (built : Built name steps frame) :
    frame.columns ≠ [] ↔ ∃ first, .column first ∈ steps := by
  induction built with
  | start => simp
  | @step steps frame next _ _ ih =>
    cases next with
    | column heading => simp [Step.apply, addColumn]
    | row cells =>
      have same : (frame.appendRow cells).columns ≠ [] ↔ frame.columns ≠ [] := by
        rw [← List.length_pos_iff, ← length_kinds, kinds_appendRow, length_kinds, List.length_pos_iff]
      rw [Step.apply, same, ih]
      simp

theorem rowCount_pos (built : Built name steps frame) :
    0 < frame.rowCount ↔ ∃ first cells, [.column first, .row cells].Sublist steps := by
  induction built with
  | start => simp [rowCount]
  | @step steps frame next built sound ih =>
    have snoc := fun first cells => @sublist_snoc [.column first] steps (.row cells) next
    simp only [List.singleton_append] at snoc
    simp only [snoc]
    cases next with
    | column heading =>
      rw [Step.apply, rowCount_addColumn frame sound, ih]
      simp
    | row cells =>
      rw [Step.apply, rowCount_appendRow_pos sound.1, built.columns_ne_nil]
      constructor
      · rintro ⟨first, member⟩
        exact ⟨first, cells, .inr ⟨rfl, List.singleton_sublist.mpr member⟩⟩
      · rintro ⟨first, _, before | ⟨_, before⟩⟩
        · exact ⟨first, before.subset List.mem_cons_self⟩
        · exact ⟨first, List.singleton_sublist.mp before⟩

/-- No column has more cells than the first one. -/
theorem size_le_rowCount (built : Built name steps frame) :
    ∀ column ∈ frame.columns, column.size ≤ frame.rowCount := by
  have least : ∀ size ∈ frame.sizes, size ≤ frame.sizes.headD 0 := by
    induction built with
    | start => simp [sizes]
    | @step steps frame next _ sound ih =>
      cases next with
      | column heading =>
        have none : heading.size = 0 := by rw [Column.size, sound, Array.size_empty]
        rw [Step.apply, sizes_addColumn, none]
        cases sizes : frame.sizes with
        | nil => simp
        | cons first rest => rw [sizes] at ih; simpa [or_imp, forall_and] using ih
      | row cells =>
        rw [Step.apply, sizes_appendRow sound.1]
        cases sizes : frame.sizes with
        | nil => simp
        | cons first rest => rw [sizes] at ih; simpa using ih
  intro column member
  rw [rowCount_eq_sizes]
  exact least _ (List.mem_map_of_mem member)

theorem level_iff (built : Built name steps frame) : frame.Level ↔ ¬ Interrupted steps := by
  induction built with
  | start => simp [Level, Interrupted]
  | @step steps frame next built sound ih =>
    cases next with
    | column heading =>
      rw [Step.apply, level_addColumn sound, ih, interrupted_column, ← built.rowCount_pos, not_or,
        Nat.not_lt, Nat.le_zero]
    | row cells => rw [Step.apply, level_appendRow sound.1, ih, interrupted_row]

/-- The first column is the longest, so the others reach its end only if they are as long. -/
theorem reached_iff (built : Built name steps frame) :
    (∀ column ∈ frame.columns, frame.rowCount ≤ column.size) ↔ frame.Level := by
  constructor
  · exact fun reached => ⟨frame.rowCount, fun column member =>
      Nat.le_antisymm (built.size_le_rowCount column member) (reached column member)⟩
  · rintro ⟨rows, same⟩ column member
    unfold rowCount
    split
    next none => exact Nat.zero_le _
    next first rest found =>
      have here := same first (found ▸ List.mem_cons_self)
      exact Nat.le_of_eq (here.trans (same column member).symm)

end Built

/-- A frame that is built from new columns and accepted rows, in any order, has columns of equal
length exactly if no row stands between two of the columns. Exactly then all its rows can be read,
and exactly then its table can be written. -/
theorem built_level_iff {name : String} {steps : List Step} {frame : Frame}
    (built : Built name steps frame) :
    (frame.Level ↔ ¬ Interrupted steps) ∧
    ((∀ index, ∃ row, frame.row? index = .ok row) ↔ ¬ Interrupted steps) ∧
    ((∃ text, frame.table = .ok text) ↔ ¬ Interrupted steps) := by
  have reached := built.reached_iff.trans built.level_iff
  exact ⟨built.level_iff, rows_ok_iff.trans reached, table_ok_iff.trans reached⟩

/-- A row without cells before two columns, and one behind them. -/
def earlySteps : List Step :=
  [.row [], .column { name := "a", kind := .int32 }, .column { name := "b", kind := .string },
    .row [some (.int32 1), none]]

def earlyFrame : Frame :=
  { name := "A"
    columns :=
      [{ name := "a", kind := .int32, cells := #[some (.int32 1)] },
        { name := "b", kind := .string, cells := #[none] }] }

theorem built_level_iff_early :
    Built "A" earlySteps earlyFrame ∧ ¬ Interrupted earlySteps ∧ earlyFrame.Level ∧
      ∃ text, earlyFrame.table = .ok text := by
  have empty := @Built.step "A" _ _ (.row []) .start ⟨rfl, by simp [kinds]⟩
  have first := @Built.step "A" _ _ (.column { name := "a", kind := .int32 }) empty rfl
  have second := @Built.step "A" _ _ (.column { name := "b", kind := .string }) first rfl
  have built : Built "A" earlySteps earlyFrame :=
    @Built.step "A" _ _ (.row [some (.int32 1), none]) second
      ⟨rfl, by simp [kinds, Step.apply, addColumn, appendRow, appendCells, Edm.Cell.kind]⟩
  have whole : ¬ Interrupted earlySteps := by
    intro interrupted
    -- Without the last row there are just three steps, and the first is no column.
    obtain ⟨_, _, _, found⟩ :=
      (@interrupted_row (earlySteps.take 3) [some (.int32 1), none]).mp interrupted
    simpa [earlySteps] using found.eq_of_length rfl
  obtain ⟨level, _, written⟩ := built_level_iff built
  exact ⟨built, whole, level.mpr whole, written.mpr whole⟩

def lateSteps : List Step :=
  [.column { name := "a", kind := .int32 }, .row [some (.int32 1)],
    .column { name := "b", kind := .string }]

def lateFrame : Frame :=
  { name := "A"
    columns :=
      [{ name := "a", kind := .int32, cells := #[some (.int32 1)] },
        { name := "b", kind := .string }] }

/-- The row that is counted has no cell in the later column. -/
theorem lateColumn_unreadable :
    Built "A" lateSteps lateFrame ∧ ¬ lateFrame.Level ∧ lateFrame.row? 0 = .error ⟨0⟩ ∧
      lateFrame.table = .error ⟨0⟩ := by
  have first := @Built.step "A" _ _ (.column { name := "a", kind := .int32 }) .start rfl
  have second := @Built.step "A" _ _ (.row [some (.int32 1)]) first
    ⟨rfl, by simp [kinds, Step.apply, addColumn, Edm.Cell.kind]⟩
  have built : Built "A" lateSteps lateFrame :=
    @Built.step "A" _ _ (.column { name := "b", kind := .string }) second rfl
  have interrupted : Interrupted lateSteps := ⟨_, _, _, List.Sublist.refl _⟩
  exact ⟨built, fun level => built.level_iff.mp level interrupted, rfl, rfl⟩

end ODataTable.Frame
