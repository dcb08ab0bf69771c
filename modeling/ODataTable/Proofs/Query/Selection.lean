import ODataTable.Proofs.Json.Record
import ODataTable.Proofs.Query.Parameters
import ODataTable.Proofs.Table

/-! What queries select, and the selections of the requests that they become.

A query without properties and without a time property is not sent. A property may have an empty
name, so this is not the same as a query without a name to select.
-/

set_option autoImplicit false

namespace ODataTable

namespace QueryModel

def Partial.TimeNamed (known : Partial) : Prop :=
  ∀ property, known.timeProperty = some (some property) → property.name ≠ ""

theorem fields_keep_timeNamed :
    ∀ field ∈ shape.fields, Json.Keeps Partial.TimeNamed field.read := by
  intro field member
  simp only [shape, List.mem_cons, List.not_mem_nil, or_false] at member
  rcases member with rfl | rfl | rfl | rfl
  · exact (Json.Gives.anything EntitySet.shape.read).stored
      (fun value (known : Partial) => { known with entitySet := some value }) fun _ _ _ known => known
  · refine (Json.Gives.anything (Json.readOptional Property.shape.read)).stored
      (fun value (known : Partial) => { known with timeProperty := some (named value) }) ?_
    -- What is read here is kept only if it has a name.
    intro value state _ _ property timed
    simp only [Option.some.injEq, named, Option.filter_eq_some_iff, decide_eq_true_eq] at timed
    exact timed.2
  · exact (Json.Gives.anything (Json.readSequence Property.shape.read)).stored
      (fun value (known : Partial) => { known with properties := some value }) fun _ _ _ known => known
  · exact (Json.Gives.anything (Json.readSequence Condition.shape.read)).stored
      (fun value (known : Partial) => { known with conditions := some value }) fun _ _ _ known => known

theorem parse_timeProperty {input : List UInt8} {model : QueryModel}
    (parsed : QueryModel.parse input = .ok model) {property : Property}
    (timed : model.timeProperty = some property) : property.name ≠ "" := by
  have start : Partial.TimeNamed shape.start := by
    intro property timed
    cases timed
  obtain ⟨known, named, rfl⟩ := Json.RecordShape.parse_keeps start fields_keep_timeNamed parsed
  apply named property
  cases read : known.timeProperty with
  | none => simp [shape, read] at timed
  | some value => simpa [shape, read] using timed

def selectedNames (model : QueryModel) : List String :=
  (model.properties ++ model.timeProperty.toList).map (·.name)

def selectionText (model : QueryModel) : String :=
  String.ofList (List.intercalate [','] (model.selectedNames.map String.toList))

theorem selectedNames_eq_nil {model : QueryModel} :
    model.selectedNames = [] ↔ model.properties = [] ∧ model.timeProperty = none := by
  simp [selectedNames]

theorem selection_eq {model : QueryModel}
    (named : ∀ property, model.timeProperty = some property → property.name ≠ "") :
    Address.selection model.properties model.timeProperty = model.selectionText.toList := by
  cases timed : model.timeProperty with
  | none => simp [Address.selection, selectionText, selectedNames, timed, Function.comp_def]
  | some property =>
    have shown : property.name.toList ≠ [] := by
      simpa [String.toList_eq_nil_iff] using named property timed
    simp [Address.selection, selectionText, selectedNames, timed, shown, Function.comp_def]

theorem intercalate_eq_nil {names : List (List Char)} :
    List.intercalate [','] names = [] ↔ names = [] ∨ names = [[]] := by
  cases names with
  | nil => simp
  | cons name rest =>
    cases rest with
    | nil => simp
    | cons next rest => simp [List.intercalate_cons_cons]

/-- Only a single empty name gives an empty selection. -/
theorem selectionText_eq_empty {model : QueryModel} (selects : model.selectedNames ≠ []) :
    model.selectionText = "" ↔ model.selectedNames = [""] := by
  have text : model.selectionText = "" ↔
      List.intercalate [','] (model.selectedNames.map String.toList) = [] := by
    rw [selectionText, ← String.toList_eq_nil_iff, String.toList_ofList]
  rw [text, intercalate_eq_nil, List.map_eq_nil_iff, or_iff_right selects]
  constructor
  · intro single
    obtain ⟨name, rest, names, empty, none⟩ := List.map_eq_cons_iff.mp single
    rw [String.toList_eq_nil_iff] at empty
    rw [List.map_eq_nil_iff] at none
    rw [names, empty, none]
  · intro single
    rw [single]
    rfl

/-- Whether a query selects properties, and neither they nor a time property have a name. -/
def IsNameless (model : QueryModel) : Prop :=
  model.timeProperty = none ∧ model.properties ≠ [] ∧
    ∀ property ∈ model.properties, property.name = ""

theorem isNameless_iff {input : List UInt8} {model : QueryModel}
    (parsed : QueryModel.parse input = .ok model) :
    model.IsNameless ↔ model.selectedNames ≠ [] ∧ ∀ name ∈ model.selectedNames, name = "" := by
  cases timed : model.timeProperty with
  | none => simp [IsNameless, selectedNames, timed]
  | some property =>
    have named := parse_timeProperty parsed timed
    constructor
    · intro nameless
      rw [IsNameless, timed] at nameless
      cases nameless.1
    · intro nameless
      have member : property.name ∈ model.selectedNames := by
        simp [selectedNames, timed]
      exact absurd (nameless.2 _ member) named

end QueryModel

def Client.entityRequest (url : Url) : Request :=
  { url := String.ofList url.write, accept := Client.jsonContent }

theorem Client.request_selections {client : Client} {base : Url}
    (parsed : Url.parse client.baseUrl.toList = .ok base) {model : QueryModel}
    (named : ∀ property, model.timeProperty = some property → property.name ≠ "")
    (range : TimeRange) :
    ∃ url, client.request (model.call range) = .ok (Client.entityRequest url) ∧
      url.values "$select" =
        base.values "$select" ++
          if model.selectionText = "" then [] else [model.selectionText] := by
  obtain ⟨url, built, values⟩ := Address.query_values parsed model.entitySet.name
    model.properties model.timeProperty
    (Filter.write model.timeProperty (some range) model.conditions) client.settings.spaces
  refine ⟨url, ?_, (values "$select").trans ?_⟩
  · simp only [Client.request, QueryModel.call, Address.entities, built]
    rfl
  · have other : ¬ "$filter" = "$select" := by decide
    simp only [ne_eq, QueryModel.selection_eq named, String.toList_eq_nil_iff, other, and_true,
      and_false, if_false, ite_not, List.append_nil, String.ofList_toList]

namespace DataQuery

/-- Whether a query gives an empty frame and sends nothing. -/
def IsSkipped (query : DataQuery) (client : Client) : Prop :=
  ∀ (m : Type → Type) [Monad m] (send : Request → m (Except TransportFault Response)),
    (Source.ofClient client send).query query = pure (.ok { name := query.refId })

/-- Whether a query is one request, and what is concluded from its answer. -/
def IsRequest (query : DataQuery) (client : Client) (request : Request) : Prop :=
  ∃ conclude : Response → Except ServiceFault Frame,
    ∀ (m : Type → Type) [Monad m] [LawfulMonad m]
      (send : Request → m (Except TransportFault Response)),
      (Source.ofClient client send).query query =
        (fun answer => answer.mapError .transport >>= conclude) <$> send request

/-- Whether every request of a query carries a selection of its own that is not empty, and the
query is skipped if nothing that it selects has a name. -/
def IsSelective (query : DataQuery) (client : Client) (model : QueryModel) : Prop :=
  (query.IsSkipped client ∨
    ∀ base, Url.parse client.baseUrl.toList = .ok base →
      ∃ url value, query.IsRequest client (Client.entityRequest url) ∧
        url.values "$select" = base.values "$select" ++ [value] ∧ value ≠ "") ∧
  ((∀ name ∈ model.selectedNames, name = "") → query.IsSkipped client)

variable {query : DataQuery} {model : QueryModel}

theorem isSkipped_of_nothing (client : Client)
    (parsed : QueryModel.parse query.payload = .ok model) (nothing : model.selectedNames = []) :
    query.IsSkipped client := by
  intro m _ send
  exact Source.query_of_nothing _ parsed (QueryModel.selectedNames_eq_nil.mp nothing)

theorem query_eq_ask {m : Type → Type} [Monad m] (source : Source m)
    (parsed : QueryModel.parse query.payload = .ok model) (selects : model.selectedNames ≠ []) :
    source.query query =
      (· >>= model.conclude query.refId source.version) <$> source.ask (model.call query.range) := by
  rw [Ne, QueryModel.selectedNames_eq_nil, ← QueryModel.selects_iff] at selects
  exact source.query_of_selects parsed selects

theorem isRequest_of_selects {client : Client}
    (parsed : QueryModel.parse query.payload = .ok model) (selects : model.selectedNames ≠ [])
    {request : Request} (built : client.request (model.call query.range) = .ok request) :
    query.IsRequest client request := by
  refine ⟨model.conclude query.refId client.version, ?_⟩
  intro m _ _ send
  rw [query_eq_ask _ parsed selects]
  simp only [Source.ofClient, Client.ask, built, Functor.map_map]

/-- A query that selects anything, if only an empty name, is not skipped: it fails with its
service. -/
theorem not_isSkipped_of_selects (client : Client)
    (parsed : QueryModel.parse query.payload = .ok model) (selects : model.selectedNames ≠ []) :
    ¬ query.IsSkipped client := by
  intro skipped
  -- A service that never answers tells the two apart.
  have finished := skipped Id fun _ => .error (.timeout "")
  rw [query_eq_ask _ parsed selects] at finished
  cases built : client.request (model.call query.range) with
  | error invalid =>
    simp only [Source.ofClient, Client.ask, built] at finished
    cases finished
  | ok request =>
    simp only [Source.ofClient, Client.ask, built] at finished
    cases finished

/-- A query that selects anything is a request with a selection of its own, unless it selects a
single empty name. -/
theorem isRequest_selections {client : Client} {base : Url}
    (valid : Url.parse client.baseUrl.toList = .ok base)
    (parsed : QueryModel.parse query.payload = .ok model) (selects : model.selectedNames ≠ []) :
    ∃ url, query.IsRequest client (Client.entityRequest url) ∧
      if model.selectedNames = [""] then url.values "$select" = base.values "$select"
      else url.values "$select" = base.values "$select" ++ [model.selectionText] ∧
        model.selectionText ≠ "" := by
  obtain ⟨url, built, selections⟩ := Client.request_selections valid
    (fun _ timed => QueryModel.parse_timeProperty parsed timed) query.range
  refine ⟨url, isRequest_of_selects parsed selects built, ?_⟩
  have empty := QueryModel.selectionText_eq_empty selects
  split
  next single => rw [selections, if_pos (empty.mpr single), List.append_nil]
  next several =>
    have shown : model.selectionText ≠ "" := fun none => several (empty.mp none)
    rw [selections, if_neg shown]
    exact ⟨rfl, shown⟩

/-- A query keeps from fetching whole entities unless it selects properties without names only.
Its request lacks a selection of its own if it selects a single one of them. -/
theorem isSelective_iff (client : Client) (parsed : QueryModel.parse query.payload = .ok model) :
    (query.IsSelective client model ↔ ¬ model.IsNameless) ∧
      ∀ base, Url.parse client.baseUrl.toList = .ok base → model.selectedNames ≠ [] →
        ∃ url, query.IsRequest client (Client.entityRequest url) ∧
          if model.selectedNames = [""] then url.values "$select" = base.values "$select"
          else url.values "$select" = base.values "$select" ++ [model.selectionText] ∧
            model.selectionText ≠ "" := by
  refine ⟨?_, fun base valid selects => isRequest_selections valid parsed selects⟩
  rw [QueryModel.isNameless_iff parsed]
  constructor
  · intro selective nameless
    exact not_isSkipped_of_selects client parsed nameless.1 (selective.2 nameless.2)
  · intro named
    by_cases nothing : model.selectedNames = []
    · have skipped := isSkipped_of_nothing client parsed nothing
      exact ⟨.inl skipped, fun _ => skipped⟩
    · refine ⟨.inr fun base valid => ?_, fun all => absurd ⟨nothing, all⟩ named⟩
      obtain ⟨url, sent, selections⟩ := isRequest_selections valid parsed nothing
      have several : model.selectedNames ≠ [""] := by
        intro single
        exact named ⟨nothing, by simp [single]⟩
      rw [if_neg several] at selections
      exact ⟨url, model.selectionText, sent, selections.1, selections.2⟩

end DataQuery

def namelessQuery : DataQuery :=
  { refId := "A"
    payload := Utf8.encode "\x7b\"properties\":[[\"\",\"\"]]\x7d".toList
    range := ⟨⟨0, 0⟩, ⟨0, 0⟩⟩ }

def namelessModel : QueryModel :=
  { properties := [⟨"", .other ""⟩] }

def localClient : Client :=
  { baseUrl := "http://[::1]", settings := {} }

def localUrl : Url :=
  { scheme := ['h', 't', 't', 'p']
    host := some (.address6 [0, 0, 0, 0, 0, 0, 0, 1])
    path := .segments [[]] }

theorem namelessModel_parsed : QueryModel.parse namelessQuery.payload = .ok namelessModel := by
  decide +kernel

theorem isSelective_iff_nameless :
    QueryModel.parse namelessQuery.payload = .ok namelessModel ∧
      Url.parse localClient.baseUrl.toList = .ok localUrl ∧
      namelessModel.selectedNames ≠ [] ∧
      ∃ url, namelessQuery.IsRequest localClient (Client.entityRequest url) ∧
        url.values "$select" = [] := by
  have valid : Url.parse localClient.baseUrl.toList = .ok localUrl := by decide +kernel
  have selects : namelessModel.selectedNames ≠ [] := by decide
  obtain ⟨url, sent, selections⟩ :=
    (DataQuery.isSelective_iff localClient namelessModel_parsed).2 localUrl valid selects
  have single : namelessModel.selectedNames = [""] := by decide
  rw [if_pos single] at selections
  have none : localUrl.values "$select" = [] := by decide +kernel
  exact ⟨namelessModel_parsed, valid, selects, url, sent, selections.trans none⟩

/-- The query has nothing to select, and a service is asked nevertheless. -/
theorem nameless_not_isSelective : ¬ namelessQuery.IsSelective localClient namelessModel := by
  intro selective
  have skipped := selective.2 (by decide)
  exact DataQuery.not_isSkipped_of_selects localClient namelessModel_parsed (by decide) skipped

end ODataTable
