import ODataTable.Http.Message
import ODataTable.Proofs.Dictionary
import ODataTable.Proofs.Service.Envelope
import ODataTable.Proofs.Text.LowerCase
import ODataTable.Proofs.Text.Utf8

/-! When the version of a response can matter.

Versions differ only in whether a list in `d` comes before one in `value`. So two sets of headers
give other records only if the settings leave the choice to them, one of them names the second
version, and the body holds both lists.
-/

set_option autoImplicit false

namespace ODataTable

namespace Envelope

/-- Whether a body holds one list in `value` and a list with other objects in `d`. -/
def Disputed (body : Json.Value) : Prop :=
  ∃ shape items others, (shape = .dataResults ∨ shape = .dataList) ∧
    Wraps body .value items ∧ Wraps body shape others ∧
      items.filter Json.Value.isObject ≠ others.filter Json.Value.isObject

def dataEntries? (members : Dictionary Json.Value) : Option (List Json.Value) :=
  (entries? members .dataResults).or (entries? members .dataList)

theorem dataEntries?_eq_some {members : Dictionary Json.Value} {items : List Json.Value} :
    dataEntries? members = some items ↔
      ∃ shape, (shape = .dataResults ∨ shape = .dataList) ∧ Wraps (.object members) shape items := by
  unfold dataEntries?
  rw [Option.or_eq_some_iff, entries?_eq_some, entries?_eq_some]
  constructor
  · rintro (wraps | ⟨_, wraps⟩)
    · exact ⟨_, .inl rfl, wraps⟩
    · exact ⟨_, .inr rfl, wraps⟩
  · rintro ⟨shape, rfl | rfl, wraps⟩
    · exact .inl wraps
    · refine .inr ⟨?_, wraps⟩
      -- The member cannot be a list and an object at once.
      cases wraps with
      | dataList list => simp [entries?, list, Json.Value.object?]

theorem findSome?_order_v2 (members : Dictionary Json.Value) :
    (order .v2).findSome? (entries? members) =
      (dataEntries? members).or ((entries? members .value).or (entries? members .results)) := by
  simp only [order, dataEntries?, List.findSome?_cons, List.findSome?_nil]
  cases entries? members .dataResults <;> cases entries? members .dataList <;>
    cases entries? members .value <;> cases entries? members .results <;> rfl

theorem findSome?_order_auto (members : Dictionary Json.Value) :
    (order .auto).findSome? (entries? members) =
      (entries? members .value).or ((dataEntries? members).or (entries? members .results)) := by
  simp only [order, dataEntries?, List.findSome?_cons, List.findSome?_nil]
  cases entries? members .dataResults <;> cases entries? members .dataList <;>
    cases entries? members .value <;> cases entries? members .results <;> rfl

theorem filterMap_object?_eq_iff {items others : List Json.Value} :
    items.filterMap Json.Value.object? = others.filterMap Json.Value.object? ↔
      items.filter Json.Value.isObject = others.filter Json.Value.isObject := by
  have first := gathers_filterMap items
  have second := gathers_filterMap others
  constructor
  · intro same
    rw [same] at first
    exact first.symm.trans second
  · intro same
    exact first.unique (second.trans same.symm)

theorem records_differ_iff (body : Json.Value) :
    records .v2 body ≠ records .auto body ↔ Disputed body := by
  cases body with
  | object members =>
    simp only [records, findSome?_order_v2, findSome?_order_auto]
    constructor
    · intro differ
      cases value : entries? members .value with
      | none => simp [value] at differ
      | some items =>
        cases data : dataEntries? members with
        | none => simp [value, data] at differ
        | some others =>
          simp only [value, data, ne_eq, filterMap_object?_eq_iff] at differ
          obtain ⟨shape, inner, wraps⟩ := dataEntries?_eq_some.mp data
          exact ⟨shape, items, others, inner, entries?_eq_some.mp value, wraps, Ne.symm differ⟩
    · rintro ⟨shape, items, others, inner, value, wraps, differ⟩
      have data := dataEntries?_eq_some.mpr ⟨shape, inner, wraps⟩
      simp only [entries?_eq_some.mpr value, data, ne_eq, filterMap_object?_eq_iff]
      exact Ne.symm differ
  | null | bool | integer | real | string | array =>
    refine ⟨fun differ => absurd rfl differ, ?_⟩
    rintro ⟨_, _, _, _, wraps, _⟩
    exact absurd wraps (not_wraps rfl _ _)

/-- All that counts of a version is whether it is the second. -/
theorem records_eq_of_same {first second : ProtocolVersion} (same : first = .v2 ↔ second = .v2)
    (body : Json.Value) : records first body = records second body := by
  have orders : order first = order second := by
    cases first <;> cases second <;> simp at same <;> rfl
  simp only [records, orders]

theorem decode_eq_of_same {first second : ProtocolVersion} (same : first = .v2 ↔ second = .v2)
    (body : List UInt8) : decode first body = decode second body := by
  rw [decode, decode, funext (records_eq_of_same same)]

theorem decode_differ_iff (body : List UInt8) :
    decode .v2 body ≠ decode .auto body ↔ ∃ json, Json.parse body = .ok json ∧ Disputed json := by
  cases parsed : Json.parse body with
  | error fault => simp [decode, parsed, Except.map]
  | ok json =>
    rw [decode_of_parsed .v2 parsed, decode_of_parsed .auto parsed]
    simp [records_differ_iff]

end Envelope

namespace Response

def SaysTwo (response : Response) : Prop :=
  ∃ rest, response.header? "DataServiceVersion" = some (String.ofList ('2' :: rest))

theorem headerBegins_iff {response : Response} {name : String} {c : Char} :
    response.headerBegins name c = true ↔
      ∃ rest, response.header? name = some (String.ofList (c :: rest)) := by
  unfold headerBegins
  cases response.header? name with
  | none => simp
  | some value =>
    simp only [Option.getD_some, decide_eq_true_eq, Option.some.injEq]
    rw [List.head?_eq_some_iff]
    constructor
    · rintro ⟨rest, same⟩
      exact ⟨rest, by rw [← same, String.ofList_toList]⟩
    · rintro ⟨rest, rfl⟩
      exact ⟨rest, String.toList_ofList⟩

theorem version_of_configured {configured : ProtocolVersion} (chosen : configured ≠ .auto)
    (response : Response) : response.version configured = configured :=
  if_pos chosen

theorem version_auto_eq_v2_iff (response : Response) :
    response.version .auto = .v2 ↔ response.SaysTwo := by
  unfold SaysTwo
  rw [← headerBegins_iff]
  unfold version
  rw [if_neg (not_not.mpr rfl)]
  cases response.headerBegins "DataServiceVersion" '2' with
  | true => simp
  | false =>
    rw [if_neg Bool.false_ne_true]
    repeat' split
    all_goals simp

theorem header?_withHeader (response : Response) (name value other : String) :
    (response.withHeader name value).header? other =
      if lowerCase other = lowerCase name then some value else response.header? other :=
  Dictionary.find?_insert _ _ _ _

def withHeaders (response : Response) (headers : List (String × String)) : Response :=
  headers.foldl (fun known header => known.withHeader header.1 header.2) response

/-- Take over the headers of an answer, whose values are octets. -/
def receiving (response : Response) (headers : List (String × List UInt8)) : Response :=
  headers.foldl (fun known header => Http.addHeader known (Utf8.encode header.1.toList) header.2)
    response

/-- Whether two lists of headers are the same up to the letter case of the names. -/
def Respelled {α : Type} (first second : List (String × α)) : Prop :=
  List.Forall₂ (fun header other => SameLetters header.1 other.1 ∧ header.2 = other.2) first second

/-- Whether two responses agree in the headers that name a version. -/
def SameVersions (first second : Response) : Prop :=
  first.header? "DataServiceVersion" = second.header? "DataServiceVersion" ∧
    first.header? "OData-Version" = second.header? "OData-Version"

theorem SameVersions.version {first second : Response} (same : SameVersions first second)
    (configured : ProtocolVersion) : first.version configured = second.version configured := by
  unfold Response.version headerBegins
  rw [same.1, same.2]

theorem lowerCase_serviceVersion : lowerCase "DataServiceVersion" = "dataserviceversion" := by
  decide +kernel

theorem lowerCase_protocolVersion : lowerCase "OData-Version" = "odata-version" := by
  decide +kernel

theorem SameVersions.withHeader {first second : Response} (same : SameVersions first second)
    {name other : String} (letters : SameLetters name other) (value : String) :
    SameVersions (first.withHeader name value) (second.withHeader other value) := by
  constructor
  · have asked : "dataserviceversion" = lowerCase name ↔ "dataserviceversion" = lowerCase other := by
      rw [eq_comm, letters.lowerCase_eq_iff (by decide), eq_comm]
    simp only [header?_withHeader, lowerCase_serviceVersion, asked, same.1]
  · have asked : "odata-version" = lowerCase name ↔ "odata-version" = lowerCase other := by
      rw [eq_comm, letters.lowerCase_eq_iff (by decide), eq_comm]
    simp only [header?_withHeader, lowerCase_protocolVersion, asked, same.2]

theorem SameVersions.withHeaders {first second : Response} (same : SameVersions first second)
    {headers others : List (String × String)} (respelled : Respelled headers others) :
    SameVersions (first.withHeaders headers) (second.withHeaders others) := by
  induction respelled generalizing first second with
  | nil => exact same
  | cons step _ ih =>
    obtain ⟨letters, value⟩ := step
    refine ih ?_
    simp only [← value]
    exact same.withHeader letters _

theorem SameVersions.receiving {first second : Response} (same : SameVersions first second)
    {headers others : List (String × List UInt8)} (respelled : Respelled headers others) :
    SameVersions (first.receiving headers) (second.receiving others) := by
  induction respelled generalizing first second with
  | nil => exact same
  | cons step _ ih =>
    obtain ⟨letters, value⟩ := step
    refine ih ?_
    simp only [Http.addHeader, Utf8.decodeLossy_encode, String.ofList_toList, ← value]
    -- A value that cannot be shown is left out under every spelling of its name.
    split
    · exact same.withHeader letters _
    · exact same

def decode (response : Response) (configured : ProtocolVersion) (body : List UInt8) :
    Except Json.Fault (List EntityRecord) :=
  Envelope.decode (response.version configured) body

theorem decode_of_sameTwo {first second : Response} (same : first.SaysTwo ↔ second.SaysTwo)
    (configured : ProtocolVersion) (body : List UInt8) :
    first.decode configured body = second.decode configured body := by
  by_cases chosen : configured = .auto
  · subst chosen
    apply Envelope.decode_eq_of_same
    rw [version_auto_eq_v2_iff, version_auto_eq_v2_iff, same]
  · rw [decode, decode, version_of_configured chosen, version_of_configured chosen]

theorem decode_of_saysTwo {response : Response} (two : response.SaysTwo) (body : List UInt8) :
    response.decode .auto body = Envelope.decode .v2 body := by
  rw [decode, (version_auto_eq_v2_iff response).mpr two]

theorem decode_of_not_saysTwo {response : Response} (other : ¬ response.SaysTwo)
    (body : List UInt8) : response.decode .auto body = Envelope.decode .auto body := by
  apply Envelope.decode_eq_of_same
  simp [version_auto_eq_v2_iff, other]

theorem decode_differ_iff (configured : ProtocolVersion) (body : List UInt8)
    (first second : Response) :
    first.decode configured body ≠ second.decode configured body ↔
      configured = .auto ∧ ¬ (first.SaysTwo ↔ second.SaysTwo) ∧
        ∃ json, Json.parse body = .ok json ∧ Envelope.Disputed json := by
  by_cases same : first.SaysTwo ↔ second.SaysTwo
  · simp [decode_of_sameTwo same configured body, same]
  by_cases chosen : configured = .auto
  · subst chosen
    rw [← Envelope.decode_differ_iff]
    by_cases two : first.SaysTwo
    · have other : ¬ second.SaysTwo := fun also => same (by simp [two, also])
      simp [decode_of_saysTwo two, decode_of_not_saysTwo other, two, other]
    · have also : second.SaysTwo := by
        by_contra neither
        exact same (by simp [two, neither])
      simp [decode_of_not_saysTwo two, decode_of_saysTwo also, two, also, eq_comm]
  · simp [decode, version_of_configured chosen, chosen]

theorem saysTwo_congr {first second : Response}
    (same : first.header? "DataServiceVersion" = second.header? "DataServiceVersion") :
    first.SaysTwo ↔ second.SaysTwo := by
  rw [SaysTwo, SaysTwo, same]

theorem header?_serviceVersion_withHeader {name : String} (letters : SameLetters name "OData-Version")
    (response : Response) (value : String) :
    (response.withHeader name value).header? "DataServiceVersion" =
      response.header? "DataServiceVersion" := by
  have named : lowerCase name = "odata-version" :=
    (letters.lowerCase_eq_iff (by decide)).mpr lowerCase_protocolVersion
  rw [header?_withHeader, named, lowerCase_serviceVersion, if_neg (by decide)]

/-- Two sets of headers give different records, or a fault beside records, in one case only: the
choice is left to them, exactly one names the second version, and the body is disputed. In
particular the header of later versions and the letter case of names never count. -/
theorem decode_settled (configured : ProtocolVersion) (body : List UInt8) :
    (∀ first second : Response,
      first.decode configured body ≠ second.decode configured body ↔
        configured = .auto ∧ ¬ (first.SaysTwo ↔ second.SaysTwo) ∧
          ∃ json, Json.parse body = .ok json ∧ Envelope.Disputed json) ∧
    (∀ version other : ProtocolVersion, version ≠ .v2 → other ≠ .v2 →
      Envelope.decode version body = Envelope.decode other body) ∧
    (configured ≠ .auto → ∀ response : Response, response.version configured = configured) ∧
    (∀ first second : Response,
      first.header? "DataServiceVersion" = second.header? "DataServiceVersion" →
        first.decode configured body = second.decode configured body) ∧
    (∀ (response : Response) (name value : String), SameLetters name "OData-Version" →
      (response.withHeader name value).decode configured body =
        response.decode configured body) ∧
    (∀ (response : Response) (headers others : List (String × String)),
      Respelled headers others →
        (response.withHeaders headers).decode configured body =
          (response.withHeaders others).decode configured body) ∧
    ∀ (response : Response) (headers others : List (String × List UInt8)),
      Respelled headers others →
        (response.receiving headers).decode configured body =
          (response.receiving others).decode configured body := by
  refine ⟨decode_differ_iff configured body, fun version other notTwo alsoNotTwo => ?_,
    version_of_configured, fun first second same => ?_, fun response name value letters => ?_,
    fun response headers others respelled => ?_, fun response headers others respelled => ?_⟩
  · exact Envelope.decode_eq_of_same (by simp [notTwo, alsoNotTwo]) body
  · exact decode_of_sameTwo (saysTwo_congr same) configured body
  · have same := header?_serviceVersion_withHeader letters response value
    exact decode_of_sameTwo (saysTwo_congr same) configured body
  · have same : SameVersions response response := ⟨rfl, rfl⟩
    rw [decode, decode, (same.withHeaders respelled).version]
  · have same : SameVersions response response := ⟨rfl, rfl⟩
    rw [decode, decode, (same.receiving respelled).version]

def disputedBody : List UInt8 :=
  Utf8.encode "\x7b\"value\":[\x7b\x7d],\"d\":\x7b\"results\":[]\x7d\x7d".toList

def disputedJson : Json.Value :=
  .object [("d", .object [("results", .array [])]), ("value", .array [.object []])]

/-- A name in capitals is enough to change what such a body holds, also in the octets of an
answer, where a blank stands before the value. -/
theorem decode_settled_disputed :
    let plain : Response := { status := 200 }
    let two := plain.withHeaders [("DATASERVICEVERSION", "2.0")]
    let heard := plain.receiving [("DATASERVICEVERSION", [0x20, 0x32, 0x2E, 0x30])]
    Respelled [("DATASERVICEVERSION", "2.0")] [("DataServiceVersion", "2.0")] ∧
      two.decode .auto disputedBody ≠ plain.decode .auto disputedBody ∧
      two.decode .auto disputedBody =
        (plain.withHeaders [("DataServiceVersion", "2.0")]).decode .auto disputedBody ∧
      heard.decode .auto disputedBody ≠ plain.decode .auto disputedBody ∧
      heard.decode .auto disputedBody = two.decode .auto disputedBody ∧
      heard.decode .auto disputedBody =
        (plain.receiving [("DataServiceVersion", [0x20, 0x32, 0x2E, 0x30])]).decode .auto
          disputedBody := by
  intro plain two heard
  have parsed : Json.parse disputedBody = .ok disputedJson := by decide +kernel
  have disputed : Envelope.Disputed disputedJson :=
    ⟨.dataResults, [.object []], [], .inl rfl, .value rfl, .dataResults rfl rfl, by decide⟩
  have spoken : two.SaysTwo := ⟨['.', '0'], by decide +kernel⟩
  have spokenToo : heard.SaysTwo := ⟨['.', '0'], by decide +kernel⟩
  have silent : ¬ plain.SaysTwo := by
    rintro ⟨rest, found⟩
    cases found
  have letters : SameLetters "DATASERVICEVERSION" "DataServiceVersion" := by decide +kernel
  have settled := decode_settled .auto disputedBody
  have differs (response : Response) (two : response.SaysTwo) :
      response.decode .auto disputedBody ≠ plain.decode .auto disputedBody :=
    (settled.1 response plain).mpr
      ⟨rfl, fun same => silent (same.mp two), disputedJson, parsed, disputed⟩
  refine ⟨.cons ⟨letters, rfl⟩ .nil, differs two spoken,
    settled.2.2.2.2.2.1 plain _ _ (.cons ⟨letters, rfl⟩ .nil), differs heard spokenToo,
    settled.2.2.2.1 heard two (by decide +kernel),
    settled.2.2.2.2.2.2 plain _ _ (.cons ⟨letters, rfl⟩ .nil)⟩

end Response

end ODataTable
