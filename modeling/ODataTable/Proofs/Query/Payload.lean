import ODataTable.Proofs.Edm.Written
import ODataTable.Proofs.Json.Without
import ODataTable.Proofs.Query.Selection

/-! The payloads of queries.

A query that was read is written into a payload that is read as the same query. Of the payload it
came from it keeps everything but a time property without a name.
-/

set_option autoImplicit false

namespace ODataTable

theorem textField_isLocal {σ : Type} {name : String} {hasDefault : Bool} {get : σ → Option String}
    {set : String → σ → σ} (state : σ) :
    Json.IsLocal ((textField name hasDefault get set).read state) :=
  Json.isLocal_readText.map fun text => set text state

theorem Property.isLocal_read : Json.IsLocal Property.shape.read := by
  refine Json.RecordShape.isLocal_read fun field member state => ?_
  simp only [shape, List.mem_cons, List.not_mem_nil, or_false] at member
  rcases member with rfl | rfl
  all_goals exact textField_isLocal state

theorem Condition.isLocal_read : Json.IsLocal Condition.shape.read := by
  refine Json.RecordShape.isLocal_read fun field member state => ?_
  simp only [shape, List.mem_cons, List.not_mem_nil, or_false] at member
  rcases member with rfl | rfl | rfl
  · exact Property.isLocal_read.map fun property => { state with property := some property }
  all_goals exact textField_isLocal state

theorem EntitySet.isLocal_read : Json.IsLocal EntitySet.shape.read := by
  refine Json.RecordShape.isLocal_read fun field member state => ?_
  simp only [shape, List.mem_cons, List.not_mem_nil, or_false] at member
  rcases member with rfl | rfl
  all_goals exact textField_isLocal state

theorem Property.gives_settled :
    Json.Gives (fun property => property.typeName.Settled) Property.shape.read :=
  @Json.RecordShape.gives _ _ _ (fun _ => True) trivial (fun _ _ _ _ _ _ _ _ => trivial) _
    fun _ _ => Edm.TypeName.ofString_settled _

namespace Condition

def Settled (condition : Condition) : Prop :=
  condition.property.typeName.Settled

def Partial.Settled (known : Partial) : Prop :=
  ∀ property, known.property = some property → property.typeName.Settled

theorem gives_settled : Json.Gives Condition.Settled shape.read := by
  have start : Partial.Settled shape.start := by
    intro property found
    cases found
  refine Json.RecordShape.gives start ?_ ?_
  · intro field member
    simp only [shape, List.mem_cons, List.not_mem_nil, or_false] at member
    rcases member with rfl | rfl | rfl
    · refine Property.gives_settled.stored
        (fun value (known : Partial) => { known with property := some value }) ?_
      intro value _ settled _ property found
      cases found
      exact settled
    · exact (Json.Gives.anything Json.readText).stored
        (fun text (known : Partial) => { known with operator := some text }) fun _ _ _ known => known
    · exact (Json.Gives.anything Json.readText).stored
        (fun text (known : Partial) => { known with value := some text }) fun _ _ _ known => known
  · intro known settled
    change (known.property.getD ⟨"", .other ""⟩).typeName.Settled
    cases found : known.property with
    | none => exact Edm.TypeName.ofString_settled ""
    | some property => exact settled property found

theorem reads {condition : Condition} (settled : condition.Settled) :
    Json.Reads shape.read condition.tree condition := by
  have property : Json.ReadsMember shape.readMember {} ("property", condition.property.tree)
      { property := some condition.property } :=
    .ofField rfl rfl ((Property.reads settled).map fun read => ({ property := some read } : Partial))
  have operator : Json.ReadsMember shape.readMember { property := some condition.property }
      ("operator", .string condition.operator)
      { property := some condition.property, operator := some condition.operator } :=
    .ofField rfl rfl (textField_reads _ _)
  have value : Json.ReadsMember shape.readMember
      { property := some condition.property, operator := some condition.operator }
      ("value", .string condition.value)
      { property := some condition.property, operator := some condition.operator
        value := some condition.value } :=
    .ofField rfl rfl (textField_reads _ _)
  exact .record (.cons property (.cons operator (.cons value .nil))) rfl

end Condition

theorem EntitySet.reads (set : EntitySet) : Json.Reads shape.read set.tree set := by
  have name : Json.ReadsMember shape.readMember {} ("name", .string set.name)
      { name := some set.name } := .ofField rfl rfl (textField_reads _ _)
  have entityType : Json.ReadsMember shape.readMember { name := some set.name }
      ("entityType", .string set.entityType)
      { name := some set.name, entityType := some set.entityType } :=
    .ofField rfl rfl (textField_reads _ _)
  exact .record (.cons name (.cons entityType .nil)) rfl

namespace QueryModel

/-- What is known of every query that was read: types are those of their names, and a time property
has a name. -/
structure Settled (model : QueryModel) : Prop where
  timeName : ∀ property, model.timeProperty = some property → property.name ≠ ""
  timeType : ∀ property, model.timeProperty = some property → property.typeName.Settled
  properties : ∀ property ∈ model.properties, property.typeName.Settled
  conditions : ∀ condition ∈ model.conditions, condition.Settled

theorem Settled.named {model : QueryModel} (settled : model.Settled) :
    named model.timeProperty = model.timeProperty := by
  cases timed : model.timeProperty with
  | none => rfl
  | some property => simp [QueryModel.named, settled.timeName property timed]

theorem Settled.time {model : QueryModel} (settled : model.Settled) :
    Json.Reads (Json.readOptional Property.shape.read)
      ((model.timeProperty.map Property.tree).getD .null) model.timeProperty := by
  cases timed : model.timeProperty with
  | none => exact .null _
  | some property => exact .present (Property.reads (settled.timeType property timed))

theorem reads {model : QueryModel} (settled : model.Settled) :
    Json.Reads shape.read model.tree model := by
  have properties : Json.Reads (Json.readSequence Property.shape.read)
      (.list (model.properties.map Property.tree)) model.properties :=
    .items fun property member => Property.reads (settled.properties property member)
  have conditions : Json.Reads (Json.readSequence Condition.shape.read)
      (.list (model.conditions.map Condition.tree)) model.conditions :=
    .items fun condition member => Condition.reads (settled.conditions condition member)
  have first : Json.ReadsMember shape.readMember {} ("entitySet", model.entitySet.tree)
      { entitySet := some model.entitySet } :=
    .ofField rfl rfl (model.entitySet.reads.map fun read => ({ entitySet := some read } : Partial))
  -- A time property with a name stays as it is.
  have time : Json.ReadsMember shape.readMember { entitySet := some model.entitySet }
      ("timeProperty", (model.timeProperty.map Property.tree).getD .null)
      { entitySet := some model.entitySet, timeProperty := some (QueryModel.named model.timeProperty) } :=
    .ofField rfl rfl (settled.time.map fun read =>
      ({ entitySet := some model.entitySet, timeProperty := some (QueryModel.named read) } : Partial))
  rw [settled.named] at time
  have selected : Json.ReadsMember shape.readMember
      { entitySet := some model.entitySet, timeProperty := some model.timeProperty }
      ("properties", .list (model.properties.map Property.tree))
      { entitySet := some model.entitySet, timeProperty := some model.timeProperty
        properties := some model.properties } :=
    .ofField rfl rfl (properties.map fun read =>
      ({ entitySet := some model.entitySet, timeProperty := some model.timeProperty
         properties := some read } : Partial))
  have last : Json.ReadsMember shape.readMember
      { entitySet := some model.entitySet, timeProperty := some model.timeProperty
        properties := some model.properties }
      ("filterConditions", .list (model.conditions.map Condition.tree))
      { entitySet := some model.entitySet, timeProperty := some model.timeProperty
        properties := some model.properties, conditions := some model.conditions } :=
    .ofField rfl rfl (conditions.map fun read =>
      ({ entitySet := some model.entitySet, timeProperty := some model.timeProperty
         properties := some model.properties, conditions := some read } : Partial))
  exact .record (.cons first (.cons time (.cons selected (.cons last .nil)))) rfl

theorem parse_tree {model : QueryModel} (settled : model.Settled) :
    parse (Utf8.encode model.tree.compact) = .ok model :=
  (reads settled).whole

structure Partial.Settled (known : Partial) : Prop where
  time : ∀ property, known.timeProperty = some (some property) → property.typeName.Settled
  properties : ∀ listed, known.properties = some listed →
    ∀ property ∈ listed, property.typeName.Settled
  conditions : ∀ listed, known.conditions = some listed → ∀ condition ∈ listed, condition.Settled

theorem fields_keep_settled : ∀ field ∈ shape.fields, Json.Keeps Partial.Settled field.read := by
  intro field member
  simp only [shape, List.mem_cons, List.not_mem_nil, or_false] at member
  rcases member with rfl | rfl | rfl | rfl
  · exact (Json.Gives.anything EntitySet.shape.read).stored
      (fun value (known : Partial) => { known with entitySet := some value })
      fun _ _ _ known => ⟨known.time, known.properties, known.conditions⟩
  · refine Property.gives_settled.optional.stored
      (fun value (known : Partial) => { known with timeProperty := some (named value) })
      fun value _ settled known => ⟨?_, known.properties, known.conditions⟩
    intro property timed
    simp only [Option.some.injEq, named, Option.filter_eq_some_iff] at timed
    exact settled property timed.1
  · refine Property.gives_settled.sequence.stored
      (fun value (known : Partial) => { known with properties := some value })
      fun value _ settled known => ⟨known.time, ?_, known.conditions⟩
    intro listed found
    cases found
    exact settled
  · refine Condition.gives_settled.sequence.stored
      (fun value (known : Partial) => { known with conditions := some value })
      fun value _ settled known => ⟨known.time, known.properties, ?_⟩
    intro listed found
    cases found
    exact settled

theorem parse_settled {input : List UInt8} {model : QueryModel}
    (parsed : parse input = .ok model) : model.Settled := by
  have timeName : ∀ property, model.timeProperty = some property → property.name ≠ "" :=
    fun property timed => parse_timeProperty parsed timed
  have start : Partial.Settled shape.start := ⟨nofun, nofun, nofun⟩
  obtain ⟨known, settled, rfl⟩ := Json.RecordShape.parse_keeps start fields_keep_settled parsed
  -- A field that the payload lacks is empty.
  refine ⟨timeName, ?_, ?_, ?_⟩
  · change ∀ property, known.timeProperty.getD none = some property → property.typeName.Settled
    cases found : known.timeProperty with
    | none => exact nofun
    | some value =>
      rintro property rfl
      exact settled.time property found
  · change ∀ property ∈ known.properties.getD [], property.typeName.Settled
    cases found : known.properties with
    | none => exact List.forall_mem_nil _
    | some listed => exact settled.properties listed found
  · change ∀ condition ∈ known.conditions.getD [], condition.Settled
    cases found : known.conditions with
    | none => exact List.forall_mem_nil _
    | some listed => exact settled.conditions listed found

def writtenTime : Json.RecordField Partial where
  name := "timeProperty"
  hasDefault := true
  isSet := fun known => known.timeProperty.isSome
  read := fun known input => do
    let (property, input) ← Json.readOptional Property.shape.read input
    .ok ({ known with timeProperty := some property }, input)

/-- The fields of a payload, of which none is changed or filled in. -/
def writtenShape : Json.RecordShape Partial Partial where
  title := shape.title
  fields := shape.fields.map fun field => if field.name = writtenTime.name then writtenTime else field
  start := shape.start
  build := id

theorem writtenShape_fields : writtenShape.fields = shape.fields.set 1 writtenTime := rfl

def contents (input : List UInt8) : Except Json.Fault Partial :=
  writtenShape.parse input

namespace Partial

/-- The fields, of which the time property counts only if it has a name. -/
def normal (known : Partial) : Partial :=
  { known with timeProperty := known.timeProperty.map named }

/-- Whether a payload has no time property, or null, or one without a name. -/
def Untimed (known : Partial) : Prop :=
  ∀ property, known.timeProperty = some (some property) → property.name = ""

def untimed (known : Partial) : Partial :=
  { known with timeProperty := none }

def model (known : Partial) : QueryModel :=
  shape.build known.normal

theorem model_untimed {known : Partial} (untimed : known.Untimed) :
    known.untimed.model = known.model := by
  have time : (known.timeProperty.map named).getD none = none := by
    cases found : known.timeProperty with
    | none => rfl
    | some value =>
      cases value with
      | none => rfl
      | some property => simp [named, untimed property found]
  simp only [model, normal, Partial.untimed, shape, time, Option.map_none, Option.getD_none]

end Partial

theorem mirrors_self {α : Type} {part : Json.Reader α} (store : α → Partial → Partial)
    (same : ∀ value known, (store value known).normal = store value known.normal) :
    Json.Mirrors Partial.normal
      (fun known input => do
        let (value, input) ← part input
        .ok (store value known, input))
      (fun known input => do
        let (value, input) ← part input
        .ok (store value known, input)) :=
  .stored store store same

theorem shape_mirrored : writtenShape.MirroredBy Partial.normal shape where
  title := rfl
  start := rfl
  fields := by
    rw [writtenShape_fields]
    -- Fields other than the time property mirror themselves.
    refine .cons ⟨rfl, rfl, fun _ => rfl, ?_⟩
      (.cons ⟨rfl, rfl, fun _ => Option.isSome_map .., ?_⟩
        (.cons ⟨rfl, rfl, fun _ => rfl, ?_⟩ (.cons ⟨rfl, rfl, fun _ => rfl, ?_⟩ .nil)))
    · exact mirrors_self (fun set known => { known with entitySet := some set }) fun _ _ => rfl
    · exact .stored (fun property (known : Partial) => { known with timeProperty := some property })
        (fun property (known : Partial) => { known with timeProperty := some (named property) })
        fun _ _ => rfl
    · exact mirrors_self (fun listed known => { known with properties := some listed }) fun _ _ => rfl
    · exact mirrors_self (fun listed known => { known with conditions := some listed }) fun _ _ => rfl

/-- A payload says the same whether its time property has a name or not; only the query that it asks
does not keep the property. -/
theorem parse_eq (input : List UInt8) :
    parse input = (contents input).map Partial.model :=
  shape_mirrored.parse (fun _ => rfl) input

theorem parse_untimed {input other : List UInt8} {known : Partial}
    (said : contents input = .ok known) (untimed : known.Untimed)
    (others : contents other = .ok known.untimed) : parse other = parse input := by
  rw [parse_eq, parse_eq, said, others]
  exact congrArg Except.ok (Partial.model_untimed untimed)

theorem writtenShape_fieldsLocal : writtenShape.FieldsLocal := by
  intro field member known
  simp only [writtenShape_fields, shape, List.set_cons_succ, List.set_cons_zero, List.mem_cons,
    List.not_mem_nil, or_false] at member
  rcases member with rfl | rfl | rfl | rfl
  · exact EntitySet.isLocal_read.map fun set => { known with entitySet := some set }
  · exact Property.isLocal_read.optional.map fun property =>
      { known with timeProperty := some property }
  · exact Property.isLocal_read.sequence.map fun listed => { known with properties := some listed }
  · exact Condition.isLocal_read.sequence.map fun listed => { known with conditions := some listed }

theorem writtenShape_stores :
    writtenShape.Stores writtenTime (Json.readOptional Property.shape.read) Partial.timeProperty
      (fun property known => { known with timeProperty := some property }) Partial.untimed where
  found := rfl
  hasDefault := by
    intro other member _
    simp only [writtenShape_fields, shape, List.set_cons_succ, List.set_cons_zero, List.mem_cons,
      List.not_mem_nil, or_false] at member
    rcases member with rfl | rfl | rfl | rfl
    all_goals rfl
  others := by
    intro other member distinct
    simp only [writtenShape_fields, shape, List.set_cons_succ, List.set_cons_zero, List.mem_cons,
      List.not_mem_nil, or_false] at member
    rcases member with rfl | rfl | rfl | rfl
    · exact .stored (fun set (known : Partial) => { known with entitySet := some set })
        (fun _ => rfl) (fun _ _ => rfl) fun _ _ => rfl
    · exact absurd rfl distinct
    · exact .stored (fun listed (known : Partial) => { known with properties := some listed })
        (fun _ => rfl) (fun _ _ => rfl) fun _ _ => rfl
    · exact .stored (fun listed (known : Partial) => { known with conditions := some listed })
        (fun _ => rfl) (fun _ _ => rfl) fun _ _ => rfl
  isSet := fun _ => rfl
  read := fun _ _ => rfl
  get_store := fun _ _ => rfl
  erase_store := fun _ _ => rfl
  erase_of_none := by
    rintro ⟨_, _, _, _⟩ rfl
    rfl

/-- Whether a payload is an object, and not a list of its fields. -/
def IsObject (input : List UInt8) : Prop :=
  ∃ inner, Json.skipBlanks input = Json.octet '\x7b' :: inner

/-- A payload that is left of another one without the time property in which `property` is read. -/
def CutsTime (property : Option Property) (input left : List UInt8) : Prop :=
  Json.CutsMember (Json.readOptional Property.shape.read) "timeProperty" property input left

theorem contents_cut {input : List UInt8} {known : Partial} (object : IsObject input)
    (said : contents input = .ok known) {property : Option Property}
    (timed : known.timeProperty = some property) :
    ∃ left, CutsTime property input left ∧ contents left = .ok known.untimed := by
  obtain ⟨inner, object⟩ := object
  obtain ⟨_, rfl, cut⟩ := writtenShape_stores.parse_without writtenShape_fieldsLocal
    Property.isLocal_read.optional rfl object said
  exact cut property timed

/-- A query is read back from the payload that is written of it. A time property without a name is
none: the payload may be any other that says the same without one, and if it is an object, the
member can be cut out of it. -/
theorem parse_stable {input : List UInt8} {model : QueryModel} (parsed : parse input = .ok model) :
    parse (Utf8.encode model.tree.compact) = .ok model ∧
      (∀ property, model.timeProperty = some property → property.name ≠ "") ∧
      ∃ known, contents input = .ok known ∧ (known.Untimed →
        (∀ other, contents other = .ok known.untimed → parse other = .ok model) ∧
          (IsObject input → ∀ property, known.timeProperty = some property →
            ∃ left, CutsTime property input left ∧ contents left = .ok known.untimed ∧
              parse left = .ok model)) := by
  refine ⟨parse_tree (parse_settled parsed), fun _ timed => parse_timeProperty parsed timed, ?_⟩
  have said := parsed
  rw [parse_eq, map_eq_ok] at said
  obtain ⟨known, said, _⟩ := said
  refine ⟨known, said, fun untimed => ?_⟩
  have same : ∀ other, contents other = .ok known.untimed → parse other = .ok model :=
    fun other others => (parse_untimed said untimed others).trans parsed
  refine ⟨same, fun object property timed => ?_⟩
  obtain ⟨left, cut, rest⟩ := contents_cut object said timed
  exact ⟨left, cut, rest, same left rest⟩

/-- A payload with a time property that has no name, and a selected property of a known type. -/
def untimedPayload : List UInt8 :=
  Utf8.encode
    "\x7b\"timeProperty\":\x7b\"name\":\"\",\"type\":\"T\"\x7d,\"properties\":[[\"\u00e9\",\"Edm.Guid\"]]\x7d".toList

def untimedModel : QueryModel :=
  { properties := [⟨"\u00e9", .guid⟩] }

def untimedContents : Partial :=
  { timeProperty := some (some ⟨"", .other "T"⟩), properties := some [⟨"\u00e9", .guid⟩] }

theorem parse_stable_untimed :
    parse untimedPayload = .ok untimedModel ∧
      parse (Utf8.encode untimedModel.tree.compact) = .ok untimedModel ∧
      ∃ left, CutsTime (some ⟨"", .other "T"⟩) untimedPayload left ∧ parse left = .ok untimedModel := by
  have parsed : parse untimedPayload = .ok untimedModel := by decide +kernel
  have said : contents untimedPayload = .ok untimedContents := rfl
  obtain ⟨again, _, known, found, without⟩ := parse_stable parsed
  cases said.symm.trans found
  have untimed : untimedContents.Untimed := by
    intro property timed
    cases timed
    rfl
  obtain ⟨left, cut, _, same⟩ := (without untimed).2 ⟨_, rfl⟩ _ rfl
  exact ⟨parsed, again, left, cut, same⟩

end QueryModel

end ODataTable
