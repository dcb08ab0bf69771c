import ODataTable.Proofs.Edm.Coercion
import ODataTable.Proofs.Query.Outcome

/-! The rows that a query appends to its frame.

Columns and rows are made from the same list of properties, and cells have the kind of the type
of their property. So the frame accepts every row when its turn comes, and in the end all columns
are equally long.
-/

set_option autoImplicit false

namespace ODataTable

namespace QueryModel

theorem cellOf_kind {entry : EntityRecord} {property : Property} {cell : Edm.Cell}
    (found : cellOf entry property = some cell) : cell.kind = property.typeName.columnKind := by
  unfold cellOf at found
  obtain ⟨raw, _, coerced⟩ := Option.bind_eq_some_iff.mp found
  exact Edm.coerceOrNull_kind coerced

def blank (model : QueryModel) (name : String) : Frame :=
  { name, columns := model.columns }

theorem frame_eq_appendRows (model : QueryModel) (name : String) (records : List EntityRecord) :
    model.frame name records = (model.blank name).appendRows model.row records :=
  rfl

theorem blank_regular (model : QueryModel) (name : String) : (model.blank name).Regular 0 := by
  have empty : ∀ column ∈ model.columns, column.cells = #[] := by
    intro column member
    simp only [columns, List.mem_append, List.mem_map] at member
    rcases member with ⟨property, _, rfl⟩ | ⟨property, _, rfl⟩ <;> rfl
  constructor
  · intro column member
    rw [Column.size, empty column member, Array.size_empty]
  · intro column member cell inside
    rw [empty column member] at inside
    exact absurd inside (Array.not_mem_empty _)

theorem blank_kinds (model : QueryModel) (name : String) :
    (model.blank name).kinds =
      (model.timeProperty.toList ++ model.properties).map (·.typeName.columnKind) := by
  simp [blank, Frame.kinds, columns, timeColumn, Column.withLabel, columnOf, Function.comp_def]

theorem blank_accepts_row (model : QueryModel) (name : String) (entry : EntityRecord) :
    (model.blank name).Accepts (model.row entry) := by
  constructor
  · rw [← Frame.length_kinds, blank_kinds, row, List.length_map, List.length_map]
  · intro kind cell paired
    rw [blank_kinds, row, List.zip_map'] at paired
    obtain ⟨property, _, same⟩ := List.mem_map.mp paired
    simp only [Prod.mk.injEq] at same
    rw [← same.1]
    exact cellOf_kind same.2

/-- Whatever was appended before, the frame accepts the row of the next record. -/
theorem frame_accepts_row (model : QueryModel) (name : String) (before : List EntityRecord)
    (entry : EntityRecord) : (model.frame name before).Accepts (model.row entry) := by
  rw [frame_eq_appendRows, Frame.accepts_appendRows]
  exact model.blank_accepts_row name entry

theorem frame_append (model : QueryModel) (name : String) (before : List EntityRecord)
    (entry : EntityRecord) :
    model.frame name (before ++ [entry]) =
      (model.frame name before).appendRow (model.row entry) := by
  simp only [frame, List.foldl_append, List.foldl_cons, List.foldl_nil]

theorem frame_regular (model : QueryModel) (name : String) (records : List EntityRecord) :
    (model.frame name records).Regular records.length := by
  have start := model.blank_regular name
  have filled := start.appendRows model.row fun entry (_ : entry ∈ records) =>
    model.blank_accepts_row name entry
  rw [frame_eq_appendRows]
  simpa using filled

theorem frame_rowCount (model : QueryModel) (name : String) (records : List EntityRecord)
    (selects : model.properties ≠ [] ∨ model.timeProperty ≠ none) :
    (model.frame name records).rowCount = records.length := by
  refine (model.frame_regular name records).rowCount fun missing => ?_
  -- There are as many columns as at the start, and one for each property.
  have count := congrArg List.length (Frame.kinds_appendRows model.row (model.blank name) records)
  rw [Frame.length_kinds, ← frame_eq_appendRows, missing, blank_kinds] at count
  simp only [List.length_nil, List.length_map, List.length_append] at count
  have noTime : model.timeProperty.toList = [] := List.eq_nil_of_length_eq_zero (by omega)
  have noProperties : model.properties = [] := List.eq_nil_of_length_eq_zero (by omega)
  rw [Option.toList_eq_nil_iff] at noTime
  exact selects.elim (· noProperties) (· noTime)

end QueryModel

namespace Source

variable {source : Source Id} {query : DataQuery}

theorem query_of_answer {model : QueryModel} {response : Response}
    (parsed : QueryModel.parse query.payload = .ok model)
    (selects : model.timeProperty ≠ none ∨ model.properties ≠ [])
    (answered : source.ask (model.call query.range) = .ok response) :
    source.query query = model.conclude query.refId source.version response := by
  rw [source.query_of_selects parsed selects]
  exact congrArg (· >>= model.conclude query.refId source.version) answered

/-- Every frame that a query gives is regular. -/
theorem regular_of_query {frame : Frame} (given : source.query query = .ok frame) :
    ∃ rows, frame.Regular rows := by
  cases parsed : QueryModel.parse query.payload with
  | error fault => cases (source.query_of_unread parsed).symm.trans given
  | ok model =>
    by_cases nothing : model.properties = [] ∧ model.timeProperty = none
    · -- The frame has no columns.
      cases (source.query_of_nothing parsed nothing).symm.trans given
      exact ⟨0, ⟨by simp, by simp⟩⟩
    · have selects := QueryModel.selects_iff.mpr nothing
      cases answered : source.ask (model.call query.range) with
      | error fault =>
        have failed := congrArg (· >>= model.conclude query.refId source.version) answered
        cases failed.symm.trans ((source.query_of_selects parsed selects).symm.trans given)
      | ok response =>
        have concluded := (query_of_answer parsed selects answered).symm.trans given
        obtain ⟨_, records, _, rfl⟩ := QueryModel.conclude_eq_ok.mp concluded
        exact ⟨records.length, model.frame_regular query.refId records⟩

/-- A cell has the kind of its type. So a query appends only rows that its frame accepts, one for
each record of the response, and in the end every column has a cell for each record. In every
frame that a query gives, all rows can be read, and the frame can be written. -/
theorem query_rows_accepted :
    (∀ raw typeName cell,
      (Edm.coerce raw typeName = .ok (some cell) ∨ Edm.coerceOrNull raw typeName = some cell) →
        cell.kind = typeName.columnKind) ∧
    (∀ (source : Source Id) (query : DataQuery) (model : QueryModel) (response : Response)
      (records : List EntityRecord),
      QueryModel.parse query.payload = .ok model →
      (model.properties ≠ [] ∨ model.timeProperty ≠ none) →
      source.ask (model.call query.range) = .ok response → response.status = 200 →
      Envelope.decode (response.version source.version) response.body = .ok records →
        source.query query = .ok (model.frame query.refId records) ∧
        (∀ before entry after, records = before ++ entry :: after →
          (model.frame query.refId before).Accepts (model.row entry) ∧
          model.frame query.refId (before ++ [entry]) =
            (model.frame query.refId before).appendRow (model.row entry)) ∧
        (model.frame query.refId records).Regular records.length ∧
        (model.frame query.refId records).rowCount = records.length) ∧
    ∀ (source : Source Id) (query : DataQuery) (frame : Frame), source.query query = .ok frame →
      (∃ rows, frame.Regular rows) ∧
      (∀ index, index < frame.rowCount →
        ∃ cells, frame.row? index = .ok (some cells) ∧ cells.length = frame.columns.length) ∧
      ∃ text, frame.table = .ok text := by
  refine ⟨fun raw typeName cell coerced => ?_, ?_, ?_⟩
  · exact coerced.elim Edm.coerce_kind Edm.coerceOrNull_kind
  · intro source query model response records parsed selects answered status decoded
    refine ⟨?_, fun before entry after _ => ?_, ?_, ?_⟩
    · rw [query_of_answer parsed selects.symm answered]
      exact QueryModel.conclude_eq_ok.mpr ⟨status, records, decoded, rfl⟩
    · exact ⟨model.frame_accepts_row query.refId before entry,
        model.frame_append query.refId before entry⟩
    · exact model.frame_regular query.refId records
    · exact model.frame_rowCount query.refId records selects
  · intro source query frame given
    obtain ⟨rows, regular⟩ := regular_of_query given
    exact ⟨⟨rows, regular⟩, fun _ bound => regular.row? bound, regular.table⟩

end Source

def dayRecords : List EntityRecord := [[("at", .string "1970-01-02")], []]

theorem query_rows_accepted_days :
    Edm.coerceOrNull (.string "1970-01-02") .date = some (.time ⟨86400, 0⟩) ∧
      (Edm.Cell.time ⟨86400, 0⟩).kind = Edm.TypeName.columnKind .date ∧
      QueryModel.parse dayQuery.payload = .ok dayModel ∧
      Envelope.decode (dayAnswer.response.version .auto) dayAnswer.response.body = .ok dayRecords ∧
      (dayModel.frame "A" (dayRecords.take 1)).Accepts [none, none] ∧
      (dayModel.frame "A" dayRecords).rowCount = 2 ∧
      ∃ text, (dayModel.frame "A" dayRecords).table = .ok text := by
  obtain ⟨kinds, rows, given⟩ := Source.query_rows_accepted
  have cell : Edm.coerceOrNull (.string "1970-01-02") .date = some (.time ⟨86400, 0⟩) := by
    decide +kernel
  have parsed : QueryModel.parse dayQuery.payload = .ok dayModel := by decide +kernel
  have decoded : Envelope.decode (dayAnswer.response.version .auto) dayAnswer.response.body =
      .ok dayRecords := by decide +kernel
  obtain ⟨found, accepted, _, count⟩ :=
    rows ⟨.auto, fun _ => .ok dayAnswer.response⟩ dayQuery dayModel dayAnswer.response dayRecords
      parsed (.inl (by decide)) rfl rfl decoded
  have written := (given ⟨.auto, fun _ => .ok dayAnswer.response⟩ dayQuery _ found).2.2
  exact ⟨cell, kinds _ _ _ (.inr cell), parsed, decoded, (accepted (dayRecords.take 1) [] [] rfl).1,
    count, written⟩

end ODataTable
