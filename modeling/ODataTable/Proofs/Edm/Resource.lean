import ODataTable.Proofs.Edm.Written
import ODataTable.Source

/-! The schema of a service as it is shown to others.

A schema is answered as JSON. The schema is read back from it, and its properties have the texts of
the attributes that they come from, whether or not the types that they name are known.
-/

set_option autoImplicit false

namespace ODataTable

namespace Json.Value

def at? (value : Value) : List String → Option Value
  | [] => some value
  | name :: path =>
    match value.object? with
    | some members => (members.find? name).bind fun part => part.at? path
    | none => none

theorem at?_object (members : Dictionary Value) (name : String) (path : List String) :
    (object members).at? (name :: path) = (members.find? name).bind fun part => part.at? path := rfl

theorem at?_ofList {name : String} {part : Value} (before after : List (String × Value))
    (last : name ∉ after.map Prod.fst) (path : List String) :
    (object (Dictionary.ofList (before ++ (name, part) :: after))).at? (name :: path) =
      part.at? path := by
  rw [at?_object, Dictionary.find?_ofList rfl last]
  rfl

end Json.Value

namespace Edm.Schema

open Xml (Node)

/-- A property with the texts of two attributes of its element. -/
def writtenProperty (node : Node) : Json.Value :=
  .object
    [("name", .string (attributeText node "Name")), ("type", .string (attributeText node "Type"))]

theorem value_propertyOf (node : Node) : (propertyOf node).value = writtenProperty node := by
  simp [Property.value, propertyOf, writtenProperty, TypeName.toString_ofString]

/-- The properties under a key are those of the last element of the key, in order. -/
def ShowsProperties (root : Node) (json : Json.Value) : Prop :=
  ∀ key properties, json.at? ["entityTypes", key, "properties"] = some properties ↔
    ∃ declared, LastDeclared root key declared ∧
      properties = .array ((declared.childrenNamed "Property").map writtenProperty)

theorem value_at_properties (schema : Schema) (key : String) :
    schema.value.at? ["entityTypes", key, "properties"] =
      (schema.entityTypes.find? key).map
        fun entry => .array (entry.properties.map Property.value) := by
  have types : schema.value.at? ["entityTypes", key, "properties"] =
      (Json.Value.object (schema.entityTypes.mapValues EntityType.value)).at? [key, "properties"] :=
    Json.Value.at?_ofList [] [_] (by simp) _
  rw [types, Json.Value.at?_object, Dictionary.find?_mapValues]
  cases schema.entityTypes.find? key with
  | none => rfl
  | some entry => exact Json.Value.at?_ofList [_, _] [] (by simp) _

theorem ofDocument_showsProperties {root : Node} (edmx : root.isElement "Edmx" = true) :
    ShowsProperties root (ofDocument root).value := by
  intro key properties
  have ascending : (ofDocument root).entityTypes.Ascending := Dictionary.ofList_ascending _
  have written (declared : Node) :
      ((declared.childrenNamed "Property").map propertyOf).map Property.value =
        (declared.childrenNamed "Property").map writtenProperty := by
    rw [List.map_map]
    exact List.map_congr_left fun node _ => value_propertyOf node
  rw [value_at_properties, Option.map_eq_some_iff]
  -- Keys do not repeat, so what is found under one is its only entry.
  constructor
  · rintro ⟨entry, found, rfl⟩
    obtain ⟨declared, last, rfl⟩ :=
      (mem_entityTypes edmx key entry).mp (ascending.mem_iff.mpr found)
    exact ⟨declared, last, congrArg _ (written declared)⟩
  · rintro ⟨declared, last, rfl⟩
    have member := (mem_entityTypes edmx key _).mpr ⟨declared, last, rfl⟩
    exact ⟨_, ascending.mem_iff.mp member, congrArg _ (written declared)⟩

end Edm.Schema

structure SchemaAnswer where
  response : Response
  schema : Edm.Schema
  status : response.status = 200
  decoded : Edm.Schema.decode response.body = .ok schema

namespace SchemaAnswer

def ofBody {body : List UInt8} {schema : Edm.Schema}
    (decoded : Edm.Schema.decode body = .ok schema) : SchemaAnswer :=
  { response := { status := 200, body }, schema, status := rfl, decoded }

theorem ofBody_response {body : List UInt8} {schema : Edm.Schema}
    (decoded : Edm.Schema.decode body = .ok schema) :
    (ofBody decoded).response = { status := 200, body } := rfl

theorem schemaOf_response (answer : SchemaAnswer) :
    schemaOf answer.response = .ok answer.schema := by
  have isOk : answer.response.isOk = true := by simp [Response.isOk, answer.status]
  simp [schemaOf, isOk, answer.decoded, Except.mapError]

def shown (answer : SchemaAnswer) : List UInt8 :=
  Utf8.encode answer.schema.tree.compact

theorem shows (answer : SchemaAnswer) :
    Edm.Schema.parse answer.shown = .ok answer.schema ∧
      ∃ text root json, Utf8.decode answer.response.body = .ok text ∧
        Xml.parse text = .ok root ∧ Json.parse answer.shown = .ok json ∧
        Edm.Schema.ShowsProperties root json := by
  obtain ⟨text, root, readable, parsed, edmx, same⟩ := Edm.Schema.decode_eq_ok.mp answer.decoded
  have settled := same ▸ Edm.Schema.ofDocument_settled root
  have properties := same ▸ Edm.Schema.ofDocument_showsProperties edmx
  exact ⟨Edm.Schema.parse_tree settled, text, root, _, readable, parsed,
    Edm.Schema.parse_value settled, properties⟩

end SchemaAnswer

namespace Source

section
variable {m : Type → Type} [Monad m] [LawfulMonad m]

theorem callResource_answered (source : Source m) (answers : m SchemaAnswer)
    (answered : source.ask .metadata = (fun answer => .ok answer.response) <$> answers) :
    source.callResource "metadata" =
      (fun answer => .ok { status := 200, body := answer.shown }) <$> answers := by
  simp only [callResource, Source.schema, answered, if_true, Functor.map_map]
  congr 1
  funext answer
  simp [bind, Except.bind, answer.schemaOf_response, Except.map, SchemaAnswer.shown]

/-- A service that answers with a schema has it shown, whatever else asking it does. The schema is
read back from the body, and the properties in it have the texts that stand in the document. -/
theorem metadata_readsBack (source : Source m) (answers : m SchemaAnswer)
    (answered : source.ask .metadata = (fun answer => .ok answer.response) <$> answers) :
    ∃ body : SchemaAnswer → List UInt8,
      source.callResource "metadata" =
          (fun answer => .ok { status := 200, body := body answer }) <$> answers ∧
        ∀ answer, Edm.Schema.parse (body answer) = .ok answer.schema ∧
          ∃ text root json, Utf8.decode answer.response.body = .ok text ∧
            Xml.parse text = .ok root ∧ Json.parse (body answer) = .ok json ∧
            Edm.Schema.ShowsProperties root json :=
  ⟨SchemaAnswer.shown, source.callResource_answered answers answered, SchemaAnswer.shows⟩

end

def steady (answer : SchemaAnswer) : Source Id :=
  ⟨.auto, fun _ => .ok answer.response⟩

end Source

def rootOf (property : Xml.Node) : Xml.Node :=
  .element ⟨"", "Edmx"⟩ [] [.element ⟨"", "DataServices"⟩ []
    [.element ⟨"", "Schema"⟩ [] [.element ⟨"", "EntityType"⟩ [] [property]]]]

def schemaOfProperty (property : Property) : Edm.Schema :=
  { entityTypes := [(".", ⟨"", ".", [property]⟩)] }

/-- A property without a name, of a type that is not a known one for its case. -/
def casedText : List Char :=
  ("<Edmx><DataServices><Schema><EntityType><Property Type=\"edm.string\"/></EntityType>" ++
    "</Schema></DataServices></Edmx>").toList

def casedNode : Xml.Node := .element ⟨"", "Property"⟩ [⟨⟨"", "Type"⟩, "edm.string"⟩] []

def casedProperty : Property := ⟨"", .other "edm.string"⟩

theorem parse_cased : Xml.parse casedText = .ok (rootOf casedNode) := by
  decide +kernel

theorem decode_cased :
    Edm.Schema.decode (Utf8.encode casedText) = .ok (schemaOfProperty casedProperty) := by
  have flat : Edm.Schema.ofDocument (rootOf casedNode) = schemaOfProperty casedProperty := by
    decide +kernel
  exact flat ▸ Edm.Schema.decode_of_parsed (Utf8.decode_encode _) parse_cased rfl

theorem metadata_readsBack_cased :
    ∃ body json,
      (Source.steady (.ofBody decode_cased)).callResource "metadata" = .ok { status := 200, body } ∧
      Edm.Schema.parse body = .ok (schemaOfProperty casedProperty) ∧ Json.parse body = .ok json ∧
      json.at? ["entityTypes", ".", "properties"] =
        some (.array [.object [("name", .string ""), ("type", .string "edm.string")]]) := by
  obtain ⟨body, resource, each⟩ := Source.metadata_readsBack (m := Id)
    (.steady (.ofBody decode_cased)) (pure (.ofBody decode_cased)) rfl
  obtain ⟨read, text, root, json, readable, parsed, inside, shows⟩ := each (.ofBody decode_cased)
  rw [SchemaAnswer.ofBody_response, Utf8.decode_encode] at readable
  cases readable
  cases parse_cased.symm.trans parsed
  have last : Edm.Schema.LastDeclared (rootOf casedNode) "."
      (.element ⟨"", "EntityType"⟩ [] [casedNode]) :=
    ⟨[], _, [], rfl, rfl, nofun⟩
  exact ⟨_, json, resource, read, inside, (shows _ _).mpr ⟨_, last, rfl⟩⟩

/-! A qualifier does not keep an attribute from being shown. -/

def twiceNamedText : List Char :=
  ("<Edmx xmlns:m=\"m\"><DataServices><Schema><EntityType><Property m:Name=\"X\" Name=\"p\"/>" ++
    "</EntityType></Schema></DataServices></Edmx>").toList

def twoNames : List Xml.Attribute :=
  [⟨⟨"m", "Name"⟩, "X"⟩, ⟨⟨"", "Name"⟩, "p"⟩]

def twiceNamedNode : Xml.Node := .element ⟨"", "Property"⟩ twoNames []

theorem parse_twiceNamed : Xml.parse twiceNamedText = .ok (rootOf twiceNamedNode) := by
  decide +kernel

theorem ofDocument_twiceNamed :
    Edm.Schema.ofDocument (rootOf twiceNamedNode) = schemaOfProperty ⟨"X", .other ""⟩ := by
  decide +kernel

theorem decode_twiceNamed :
    Edm.Schema.decode (Utf8.encode twiceNamedText) = .ok (schemaOfProperty ⟨"X", .other ""⟩) := by
  have decoded := Edm.Schema.decode_of_parsed (Utf8.decode_encode _) parse_twiceNamed rfl
  exact ofDocument_twiceNamed ▸ decoded

/-- A property has one name without a qualifier, and its other name is shown. -/
theorem qualified_name_shown :
    Xml.parse twiceNamedText = .ok (rootOf twiceNamedNode) ∧
      twoNames.find? (fun entry => entry.name = ⟨"", "Name"⟩) = some ⟨⟨"", "Name"⟩, "p"⟩ ∧
      ∃ body json,
        (Source.steady (.ofBody decode_twiceNamed)).callResource "metadata" =
          .ok { status := 200, body } ∧
        Json.parse body = .ok json ∧
        json.at? ["entityTypes", ".", "properties"] =
          some (.array [.object [("name", .string "X"), ("type", .string "")]]) := by
  have resource := (Source.steady (.ofBody decode_twiceNamed)).callResource_answered (m := Id)
    (pure (.ofBody decode_twiceNamed)) rfl
  have settled := ofDocument_twiceNamed ▸ Edm.Schema.ofDocument_settled (rootOf twiceNamedNode)
  refine ⟨parse_twiceNamed, by decide, _, _, resource, Edm.Schema.parse_value settled, ?_⟩
  exact Edm.Schema.value_at_properties _ _

end ODataTable
