import ODataTable.Proofs.Table
import ODataTable.Proofs.Text.Lossy

/-! What becomes of a query, and which calls it makes.

A source that keeps a list of its calls shows both. An outcome is settled without a call, or by
the answer to a single one. Then the status of the answer is looked at first, and of the body it
matters only whether it is JSON.
-/

set_option autoImplicit false

namespace ODataTable

/-- A source that keeps a list of its calls. An answer may depend on the calls before it. -/
def Source.recording (version : ProtocolVersion)
    (answer : List Call → Call → Except ServiceFault Response) : Source (StateM (List Call)) :=
  { version
    ask := fun call => do
      let calls ← get
      set (calls ++ [call])
      pure (answer calls call) }

theorem Response.shows_iff {response : Response} {text : String} :
    Utf8.Shows response.body text.toList ↔ text = response.text := by
  rw [Utf8.shows_iff, Response.text, ← String.toList_inj, String.toList_ofList]

namespace QueryModel

variable {model : QueryModel} {name : String} {configured : ProtocolVersion} {response : Response}

theorem conclude_refused_iff {status : Nat} {text : String} :
    model.conclude name configured response = .error (.refused status text) ↔
      response.status ≠ 200 ∧ status = response.status ∧
        Utf8.Shows response.body text.toList := by
  rw [Response.shows_iff]
  unfold conclude
  by_cases found : response.status = 200
  · cases Envelope.decode (response.version configured) response.body <;>
      simp [Response.isOk, found]
  · simp [Response.isOk, found, eq_comm]

theorem conclude_refuses_iff :
    (∃ status text, model.conclude name configured response = .error (.refused status text)) ↔
      response.status ≠ 200 := by
  simp only [conclude_refused_iff]
  constructor
  · rintro ⟨_, _, refused, _⟩
    exact refused
  · intro refused
    exact ⟨response.status, response.text, refused, rfl, Response.shows_iff.mpr rfl⟩

theorem conclude_undecodable_iff {fault : Json.Fault} :
    model.conclude name configured response = .error (.undecodable fault) ↔
      response.status = 200 ∧ Json.parse response.body = .error fault := by
  unfold conclude
  by_cases found : response.status = 200
  · cases parsed : Json.parse response.body <;>
      simp [Response.isOk, found, Envelope.decode, parsed, Except.map]
  · simp [Response.isOk, found]

theorem conclude_eq_ok {frame : Frame} :
    model.conclude name configured response = .ok frame ↔
      response.status = 200 ∧
        ∃ records, Envelope.decode (response.version configured) response.body = .ok records ∧
          frame = model.frame name records := by
  unfold conclude
  by_cases found : response.status = 200
  · cases Envelope.decode (response.version configured) response.body <;>
      simp [Response.isOk, found, eq_comm]
  · simp [Response.isOk, found]

theorem conclude_ok_iff :
    (∃ frame, model.conclude name configured response = .ok frame) ↔
      response.status = 200 ∧ ∃ body, Json.parse response.body = .ok body := by
  simp only [conclude_eq_ok, Envelope.decode]
  cases Json.parse response.body <;> simp [Except.map]

end QueryModel

namespace DataQuery

def observed (query : DataQuery) (version : ProtocolVersion)
    (answer : List Call → Call → Except ServiceFault Response) :
    Except ServiceFault Frame × List Call :=
  ((Source.recording version answer).query query).run []

variable {query : DataQuery} {version : ProtocolVersion}
  {answer : List Call → Call → Except ServiceFault Response}

/-- A payload is no query, selects nothing, or makes the one call of its query. -/
theorem observed_cases (query : DataQuery) (version : ProtocolVersion)
    (answer : List Call → Call → Except ServiceFault Response) :
    (∃ fault, QueryModel.parse query.payload = .error fault ∧
      query.observed version answer = (.error (.invalidQuery fault), [])) ∨
    (∃ model, QueryModel.parse query.payload = .ok model ∧
      model.properties = [] ∧ model.timeProperty = none ∧
      query.observed version answer = (.ok { name := query.refId }, [])) ∨
    (∃ model, QueryModel.parse query.payload = .ok model ∧
      (model.timeProperty ≠ none ∨ model.properties ≠ []) ∧
      query.observed version answer =
        (answer [] (model.call query.range) >>= model.conclude query.refId version,
          [model.call query.range])) := by
  unfold observed
  cases parsed : QueryModel.parse query.payload with
  | error fault =>
    refine .inl ⟨fault, rfl, ?_⟩
    rw [Source.query_of_unread _ parsed]
    rfl
  | ok model =>
    by_cases nothing : model.properties = [] ∧ model.timeProperty = none
    · refine .inr (.inl ⟨model, rfl, nothing.1, nothing.2, ?_⟩)
      rw [Source.query_of_nothing _ parsed nothing]
      rfl
    · have selects := QueryModel.selects_iff.mpr nothing
      refine .inr (.inr ⟨model, rfl, selects, ?_⟩)
      rw [Source.query_of_selects _ parsed selects]
      rfl

/-- A query has exactly these outcomes, whatever the payload and whatever is answered. A payload
that is no query is invalid, and one that selects nothing gives a frame without columns, both
without a call. Any other query makes one call. It fails as the call does, or by a status that is
not 200 together with the text that the body shows, or by a body that is not JSON, and else there
is a frame whatever the body holds. -/
theorem observed_classified (query : DataQuery) (version : ProtocolVersion)
    (answer : List Call → Call → Except ServiceFault Response) :
    (∀ fault, query.observed version answer = (.error (.invalidQuery fault), []) ↔
      QueryModel.parse query.payload = .error fault) ∧
    (∀ frame, query.observed version answer = (.ok frame, []) ↔
      frame = { name := query.refId, columns := [] } ∧
      ∃ model, QueryModel.parse query.payload = .ok model ∧
        model.properties = [] ∧ model.timeProperty = none) ∧
    ∀ model, QueryModel.parse query.payload = .ok model →
      (model.properties ≠ [] ∨ model.timeProperty ≠ none) →
      ∃ outcome call,
        query.observed version answer = (outcome, [call]) ∧
        call = .entities model.entitySet.name model.properties model.timeProperty
          (some query.range) model.conditions ∧
        (∀ fault, answer [] call = .error fault → outcome = .error fault) ∧
        ∀ response, answer [] call = .ok response →
          (∀ status text, outcome = .error (.refused status text) ↔
            response.status ≠ 200 ∧ status = response.status ∧
              Utf8.Shows response.body text.toList) ∧
          ((∃ status text, outcome = .error (.refused status text)) ↔ response.status ≠ 200) ∧
          (∀ fault, outcome = .error (.undecodable fault) ↔
            response.status = 200 ∧ Json.parse response.body = .error fault) ∧
          ((∃ frame, outcome = .ok frame) ↔
            response.status = 200 ∧ ∃ body, Json.parse response.body = .ok body) := by
  rcases observed_cases query version answer with
    ⟨fault, unread, seen⟩ | ⟨model, parsed, noProperties, noTime, seen⟩ |
      ⟨model, parsed, selects, seen⟩
  · refine ⟨fun other => ?_, fun frame => ?_, fun model parsed => ?_⟩
    · simp [seen, unread]
    · simp [seen, unread]
    · rw [unread] at parsed
      cases parsed
  · refine ⟨fun other => ?_, fun frame => ?_, fun other again selects => ?_⟩
    · simp [seen, parsed]
    · simp [seen, parsed, noProperties, noTime, eq_comm]
    · rw [parsed] at again
      cases again
      simp [noProperties, noTime] at selects
  · refine ⟨fun other => ?_, fun frame => ?_, fun other again _ => ?_⟩
    · simp [seen, parsed]
    · have something := QueryModel.selects_iff.mp selects
      simp [seen, parsed, something]
    · rw [parsed] at again
      cases again
      refine ⟨_, _, seen, rfl, fun fault failed => ?_, fun response answered => ?_⟩
      · rw [failed]
        rfl
      · rw [answered]
        exact ⟨fun _ _ => model.conclude_refused_iff, model.conclude_refuses_iff,
          fun _ => model.conclude_undecodable_iff, model.conclude_ok_iff⟩

end DataQuery

/-- Answers under another status: the records of the days, and octets that are cut off inside a
character before the exclamation mark. -/
def refusedAnswer : Response := { dayAnswer.response with status := 500 }

def brokenAnswer : Response := { status := 502, body := [0x6E, 0x6F, 0xE2, 0x82, 0x21] }

/-- Records do not help a response that has another status than 200. -/
theorem observed_classified_refused :
    QueryModel.parse dayQuery.payload = .ok dayModel ∧ dayModel.properties ≠ [] ∧
      dayQuery.observed .auto (fun _ _ => .ok refusedAnswer) =
        (.error (.refused 500 "\x7b\"d\":[\x7b\"at\":\"1970-01-02\"\x7d,7,\x7b\x7d]\x7d"),
          [dayModel.call dayQuery.range]) ∧
      dayQuery.observed .auto (fun _ _ => .ok brokenAnswer) =
        (.error (.refused 502 "no\uFFFD!"), [dayModel.call dayQuery.range]) := by
  have parsed : QueryModel.parse dayQuery.payload = .ok dayModel := by decide +kernel
  have selects : dayModel.properties ≠ [] := by decide
  have seen (response : Response) (text : String) (status : response.status ≠ 200)
      (shown : text = response.text) :
      dayQuery.observed .auto (fun _ _ => .ok response) =
        (.error (.refused response.status text), [dayModel.call dayQuery.range]) := by
    obtain ⟨outcome, call, seen, rfl, _, settled⟩ :=
      (DataQuery.observed_classified dayQuery .auto fun _ _ => .ok response).2.2 dayModel parsed
        (.inl selects)
    have refused := ((settled response rfl).1 response.status text).mpr
      ⟨status, rfl, Response.shows_iff.mpr shown⟩
    rw [seen, refused]
    rfl
  exact ⟨parsed, selects, seen refusedAnswer _ (by decide) (by decide +kernel),
    seen brokenAnswer _ (by decide) (by decide +kernel)⟩

end ODataTable
