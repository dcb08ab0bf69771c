import ODataTable.Proofs.Frame
import ODataTable.Source

/-! The table that a query asks for, and that its answer is this table.

The table is told column by column: each column has the heading that its property asks for and
one cell for each record. A query fills it row by row instead, after it has set up all columns.
-/

set_option autoImplicit false

namespace ODataTable

def Envelope.entryList? (version : ProtocolVersion) : Json.Value → Option (List Json.Value)
  | .object members => (order version).findSome? (entries? members)
  | _ => none

theorem Envelope.records_eq (version : ProtocolVersion) (body : Json.Value) :
    records version body = ((entryList? version body).getD []).filterMap Json.Value.object? := by
  cases body <;> simp [records, entryList?]

structure EntityAnswer where
  response : Response
  body : Json.Value
  status : response.status = 200
  parsed : Json.parse response.body = .ok body

def EntityAnswer.entries (answer : EntityAnswer) (configured : ProtocolVersion) :
    List EntityRecord :=
  ((Envelope.entryList? (answer.response.version configured) answer.body).getD []).filterMap
    Json.Value.object?

namespace QueryModel

/-- The cell that a record gives for a property. -/
def requestedCell (entry : EntityRecord) (property : Property) : Option Edm.Cell :=
  match entry.find? property.name with
  | some raw => Edm.coerceOrNull raw property.typeName
  | none => none

/-- The column that a property asks for, with one cell for each record. -/
def requestedColumn (name : String) (labels : Dictionary String) (property : Property)
    (entries : List EntityRecord) : Column :=
  { name
    labels
    kind := property.typeName.columnKind
    cells := (entries.map (requestedCell · property)).toArray }

/-- The table that a query asks for: the column of the time property, if there is one, and the
columns of the properties in their order. -/
def requestedTable (model : QueryModel) (name : String) (entries : List EntityRecord) : Frame :=
  { name
    columns :=
      (model.timeProperty.toList.map fun property =>
        requestedColumn "time" [("time", property.name)] property entries) ++
      model.properties.map fun property => requestedColumn property.name [] property entries }

theorem cellOf_eq_requestedCell : cellOf = requestedCell := by
  funext entry property
  unfold cellOf requestedCell
  cases entry.find? property.name <;> rfl

def headings (model : QueryModel) : List (Column × Property) :=
  model.timeProperty.toList.map (fun property => (timeColumn property, property)) ++
    model.properties.map fun property => (columnOf property, property)

theorem columns_eq_headings (model : QueryModel) : model.columns = model.headings.map Prod.fst := by
  simp [columns, headings, Function.comp_def]

theorem row_eq_headings (model : QueryModel) (entry : EntityRecord) :
    model.row entry = model.headings.map fun heading => requestedCell entry heading.2 := by
  simp [row, headings, Function.comp_def, cellOf_eq_requestedCell]

theorem timeColumn_extend (property : Property) (entries : List EntityRecord) :
    (timeColumn property).extend (entries.map (requestedCell · property)) =
      requestedColumn "time" [("time", property.name)] property entries := by
  simp [timeColumn, Column.withLabel, Column.extend, requestedColumn, Dictionary.insert]

theorem columnOf_extend (property : Property) (entries : List EntityRecord) :
    (columnOf property).extend (entries.map (requestedCell · property)) =
      requestedColumn property.name [] property entries := by
  simp [columnOf, Column.extend, requestedColumn]

theorem requestedTable_columns (model : QueryModel) (name : String) (entries : List EntityRecord) :
    (model.requestedTable name entries).columns =
      model.headings.map fun heading => heading.1.extend (entries.map (requestedCell · heading.2)) := by
  simp only [requestedTable, headings, List.map_append, List.map_map, Function.comp_def,
    timeColumn_extend, columnOf_extend]

/-- Filling the columns row by row gives the table that is asked for. -/
theorem frame_eq_requestedTable (model : QueryModel) (name : String)
    (entries : List EntityRecord) : model.frame name entries = model.requestedTable name entries := by
  have filled := Frame.foldl_appendRow name Prod.fst
    (fun entry heading => requestedCell entry heading.2) model.headings entries
  rw [← requestedTable_columns model name] at filled
  simp only [frame, row_eq_headings, columns_eq_headings]
  exact filled

/-- With a time property or a property there is a first column, so rows are counted. -/
theorem requestedTable_rowCount (model : QueryModel) (name : String) (entries : List EntityRecord)
    (selects : model.timeProperty ≠ none ∨ model.properties ≠ []) :
    (model.requestedTable name entries).rowCount = entries.length := by
  cases time : model.timeProperty with
  | some property => simp [requestedTable, time, Frame.rowCount, requestedColumn, Column.size]
  | none =>
    -- Then the first property has the first column.
    cases properties : model.properties with
    | nil => simp [time, properties] at selects
    | cons property rest =>
      simp [requestedTable, time, properties, Frame.rowCount, requestedColumn, Column.size]

theorem requestedTable_row (model : QueryModel) (name : String) (entries : List EntityRecord)
    (selects : model.timeProperty ≠ none ∨ model.properties ≠ []) (index : Nat)
    (bound : index < entries.length) :
    (model.requestedTable name entries).row? index =
      .ok (some ((model.timeProperty.toList ++ model.properties).map
        (requestedCell entries[index]))) := by
  have cells : Frame.cellsAt index (model.requestedTable name entries).columns =
      .ok (model.headings.map fun heading => requestedCell entries[index] heading.2) := by
    rw [requestedTable_columns]
    apply Frame.cellsAt_map
    intro heading member
    -- Headings have no cells of their own, so the cells start with the first record.
    have empty : heading.1.cells = #[] := by
      simp only [headings, List.mem_append, List.mem_map] at member
      rcases member with ⟨property, _, rfl⟩ | ⟨property, _, rfl⟩ <;> rfl
    simp [Column.extend, empty, bound]
  unfold Frame.row?
  rw [requestedTable_rowCount model name entries selects, if_neg (by omega), cells]
  simp [headings, Except.map, Function.comp_def]

end QueryModel

theorem DataQuery.plan_eq_ask (configured : ProtocolVersion) (query : DataQuery)
    (model : QueryModel) (parsed : QueryModel.parse query.payload = .ok model)
    (selects : model.timeProperty ≠ none ∨ model.properties ≠ []) :
    query.plan configured =
      .ask (model.call query.range) (model.conclude query.refId configured) := by
  have chosen : model.selectsNothing = false := by
    rcases selects with time | properties
    · simp [QueryModel.selectsNothing, Option.isNone_eq_false_iff, Option.isSome_iff_ne_none, time]
    · simp [QueryModel.selectsNothing, properties]
  simp only [plan, parsed, chosen, Bool.false_eq_true, if_false]

section
variable {m : Type → Type} [Monad m] (source : Source m) {query : DataQuery} {model : QueryModel}

theorem QueryModel.selects_iff :
    (model.timeProperty ≠ none ∨ model.properties ≠ []) ↔
      ¬ (model.properties = [] ∧ model.timeProperty = none) := by
  rw [Classical.not_and_iff_not_or_not, or_comm]

theorem Source.query_of_unread {fault : Json.Fault}
    (unread : QueryModel.parse query.payload = .error fault) :
    source.query query = pure (.error (.invalidQuery fault)) := by
  simp only [Source.query, DataQuery.plan, unread, Plan.run]

theorem Source.query_of_nothing (parsed : QueryModel.parse query.payload = .ok model)
    (nothing : model.properties = [] ∧ model.timeProperty = none) :
    source.query query = pure (.ok { name := query.refId }) := by
  have skipped : model.selectsNothing = true := by simp [QueryModel.selectsNothing, nothing]
  simp only [Source.query, DataQuery.plan, parsed, skipped, if_true, Plan.run]

theorem Source.query_of_selects (parsed : QueryModel.parse query.payload = .ok model)
    (selects : model.timeProperty ≠ none ∨ model.properties ≠ []) :
    source.query query =
      (· >>= model.conclude query.refId source.version) <$> source.ask (model.call query.range) := by
  rw [Source.query, DataQuery.plan_eq_ask source.version query model parsed selects, Plan.run]

end

theorem QueryModel.conclude_answer (model : QueryModel) (name : String)
    (configured : ProtocolVersion) (answer : EntityAnswer) :
    model.conclude name configured answer.response =
      .ok (model.requestedTable name (answer.entries configured)) := by
  have isOk : answer.response.isOk = true := by simp [Response.isOk, answer.status]
  simp only [conclude, isOk, Envelope.decode, answer.parsed, Except.map, Envelope.records_eq,
    frame_eq_requestedTable, EntityAnswer.entries, Bool.not_true, Bool.false_eq_true, if_false]

section
variable {m : Type → Type} [Monad m] [LawfulMonad m]

/-- A query that selects something and is answered with JSON gives the table it asks for, whatever
else asking the service does. Each record of the answer is a row of that table, in order. -/
theorem Source.query_gives_requestedTable (source : Source m) (query : DataQuery)
    (model : QueryModel) (parsed : QueryModel.parse query.payload = .ok model)
    (selects : model.timeProperty ≠ none ∨ model.properties ≠ []) (answers : m EntityAnswer)
    (answered :
      source.ask (.entities model.entitySet.name model.properties model.timeProperty
          (some query.range) model.conditions) =
        (fun answer => .ok answer.response) <$> answers) :
    source.query query =
        (fun answer =>
          .ok (model.requestedTable query.refId (answer.entries source.version))) <$> answers ∧
      ∀ entries : List EntityRecord,
        (model.requestedTable query.refId entries).rowCount = entries.length ∧
        ∀ (index : Nat) (bound : index < entries.length),
          (model.requestedTable query.refId entries).row? index =
            .ok (some ((model.timeProperty.toList ++ model.properties).map
              (QueryModel.requestedCell entries[index]))) := by
  constructor
  · rw [Source.query, DataQuery.plan_eq_ask source.version query model parsed selects, Plan.run]
    simp only [QueryModel.call, answered, Functor.map_map]
    congr 1
    funext answer
    exact model.conclude_answer query.refId source.version answer
  · intro entries
    exact ⟨model.requestedTable_rowCount query.refId entries selects,
      model.requestedTable_row query.refId entries selects⟩

end

def dayQuery : DataQuery :=
  { refId := "A"
    payload := Utf8.encode "\x7b\"timeProperty\":[\"at\",\"Edm.Date\"],\"properties\":[[\"at\",\"Edm.Int32\"]]\x7d".toList
    range := ⟨⟨0, 0⟩, ⟨0, 0⟩⟩ }

def dayModel : QueryModel :=
  { timeProperty := some ⟨"at", .date⟩, properties := [⟨"at", .int32⟩] }

/-- Two records with something else between them. -/
def dayAnswer : EntityAnswer where
  response := { status := 200, body := Utf8.encode "\x7b\"d\":[\x7b\"at\":\"1970-01-02\"\x7d,7,\x7b\x7d]\x7d".toList }
  body := .object [("d", .array [.object [("at", .string "1970-01-02")], .integer 7, .object []])]
  status := rfl
  parsed := by decide +kernel

/-- The first record has a time and no number, and the second has neither. -/
def dayTable : Frame :=
  { name := "A"
    columns :=
      [{ name := "time", labels := [("time", "at")], kind := .time, cells := #[some (.time ⟨86400, 0⟩), none] },
       { name := "at", kind := .int32, cells := #[none, none] }] }

theorem query_gives_dayTable :
    QueryModel.parse dayQuery.payload = .ok dayModel ∧ dayModel.timeProperty ≠ none ∧
      Source.query (m := Id) ⟨.auto, fun _ => .ok dayAnswer.response⟩ dayQuery = .ok dayTable := by
  have parsed : QueryModel.parse dayQuery.payload = .ok dayModel := by decide +kernel
  have selects : dayModel.timeProperty ≠ none := by decide
  have answered := (Source.query_gives_requestedTable (m := Id)
    ⟨.auto, fun _ => .ok dayAnswer.response⟩ dayQuery dayModel parsed (.inl selects)
    (pure dayAnswer) rfl).1
  have table : dayModel.requestedTable "A" (dayAnswer.entries .auto) = dayTable := by decide +kernel
  exact ⟨parsed, selects, answered.trans (congrArg Except.ok table)⟩

end ODataTable
