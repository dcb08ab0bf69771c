import ODataTable.Proofs.Edm.Schema
import ODataTable.Proofs.Json.Written

/-! Written schemas are read back.

A schema is read from its own JSON text if its keys ascend and its types are those of their names.
Both hold of every schema that comes from a document. The text is also read as a value in which
members are sorted by name.
-/

set_option autoImplicit false

namespace ODataTable

theorem textField_reads {σ : Type} {name : String} {hasDefault : Bool} {get : σ → Option String}
    {set : String → σ → σ} (state : σ) (text : String) :
    Json.Reads ((textField name hasDefault get set).read state) (.string text) (set text state) :=
  (Json.Reads.text text).map fun text => set text state

def Edm.TypeName.Settled (typeName : Edm.TypeName) : Prop :=
  .ofString typeName.toString = typeName

theorem Edm.TypeName.ofString_settled (name : String) : (ofString name).Settled := by
  rw [Settled, toString_ofString]

theorem Property.reads {property : Property} (settled : property.typeName.Settled) :
    Json.Reads shape.read property.tree property := by
  have name : Json.ReadsMember shape.readMember {} ("name", .string property.name)
      { name := some property.name } := .ofField rfl rfl (textField_reads _ _)
  have typeName : Json.ReadsMember shape.readMember { name := some property.name }
      ("type", .string property.typeName.toString)
      { name := some property.name, typeName := some property.typeName.toString } :=
    .ofField rfl rfl (textField_reads _ _)
  have read := Json.Reads.record (.cons name (.cons typeName .nil)) rfl
  -- The type is rebuilt from its name.
  have built : shape.build
      { name := some property.name, typeName := some property.typeName.toString } = property :=
    congrArg (Property.mk property.name) settled
  rwa [built] at read

namespace Edm

theorem EntityType.reads {entry : EntityType}
    (settled : ∀ property ∈ entry.properties, property.typeName.Settled) :
    Json.Reads shape.read entry.tree entry := by
  have properties : Json.Reads (Json.readSequence Property.shape.read)
      (.list (entry.properties.map Property.tree)) entry.properties :=
    .items fun property member => Property.reads (settled property member)
  have name : Json.ReadsMember shape.readMember {} ("name", .string entry.name)
      { name := some entry.name } := .ofField rfl rfl (textField_reads _ _)
  have qualifiedName : Json.ReadsMember shape.readMember { name := some entry.name }
      ("qualifiedName", .string entry.qualifiedName)
      { name := some entry.name, qualifiedName := some entry.qualifiedName } :=
    .ofField rfl rfl (textField_reads _ _)
  have last : Json.ReadsMember shape.readMember
      { name := some entry.name, qualifiedName := some entry.qualifiedName }
      ("properties", .list (entry.properties.map Property.tree))
      { name := some entry.name, qualifiedName := some entry.qualifiedName
        properties := some entry.properties } :=
    .ofField rfl rfl (properties.map fun read =>
      ({ name := some entry.name, qualifiedName := some entry.qualifiedName
         properties := some read } : Partial))
  exact .record (.cons name (.cons qualifiedName (.cons last .nil))) rfl

theorem EntitySetEntry.reads (entry : EntitySetEntry) : Json.Reads shape.read entry.tree entry := by
  have name : Json.ReadsMember shape.readMember {} ("name", .string entry.name)
      { name := some entry.name } := .ofField rfl rfl (textField_reads _ _)
  have entityType : Json.ReadsMember shape.readMember { name := some entry.name }
      ("entityType", .string entry.entityType)
      { name := some entry.name, entityType := some entry.entityType } :=
    .ofField rfl rfl (textField_reads _ _)
  exact .record (.cons name (.cons entityType .nil)) rfl

namespace Schema

/-- What is known of every schema of a document: keys ascend, and types are those of their names. -/
structure Settled (schema : Schema) : Prop where
  typesAscend : schema.entityTypes.Ascending
  setsAscend : schema.entitySets.Ascending
  properties : ∀ entry ∈ schema.entityTypes, ∀ property ∈ entry.2.properties,
    property.typeName.Settled

theorem reads {schema : Schema} (settled : schema.Settled) :
    Json.Reads shape.read schema.tree schema := by
  have types : Json.Reads (Json.readDictionary EntityType.shape.read)
      (.object (schema.entityTypes.mapValues EntityType.tree)) schema.entityTypes :=
    .entries settled.typesAscend fun entry member => EntityType.reads (settled.properties entry member)
  have sets : Json.Reads (Json.readDictionary EntitySetEntry.shape.read)
      (.object (schema.entitySets.mapValues EntitySetEntry.tree)) schema.entitySets :=
    .entries settled.setsAscend fun entry _ => EntitySetEntry.reads entry.2
  have first : Json.ReadsMember shape.readMember {}
      ("entityTypes", .object (schema.entityTypes.mapValues EntityType.tree))
      { entityTypes := some schema.entityTypes } :=
    .ofField rfl rfl (types.map fun read => ({ entityTypes := some read } : Partial))
  have second : Json.ReadsMember shape.readMember { entityTypes := some schema.entityTypes }
      ("entitySets", .object (schema.entitySets.mapValues EntitySetEntry.tree))
      { entityTypes := some schema.entityTypes, entitySets := some schema.entitySets } :=
    .ofField rfl rfl (sets.map fun read =>
      ({ entityTypes := some schema.entityTypes, entitySets := some read } : Partial))
  exact .record (.cons first (.cons second .nil)) rfl

theorem parse_tree {schema : Schema} (settled : schema.Settled) :
    parse (Utf8.encode schema.tree.compact) = .ok schema :=
  (reads settled).whole

theorem ofDocument_settled (root : Xml.Node) : (ofDocument root).Settled where
  typesAscend := Dictionary.ofList_ascending _
  setsAscend := Dictionary.ofList_ascending _
  properties := by
    -- An entry of the dictionary is one of the listed types, and a listed type comes from elements.
    rintro ⟨key, entry⟩ member property inside
    obtain ⟨before, after, split, _⟩ := Dictionary.mem_ofList.mp member
    have listed : (key, entry) ∈
        (entityTypesOf root).map fun entry => (entry.qualifiedName, entry) := by
      simp [split]
    simp only [entityTypesOf, List.mem_map, List.mem_flatMap] at listed
    obtain ⟨_, ⟨space, _, declared, _, rfl⟩, same⟩ := listed
    cases same
    obtain ⟨node, _, rfl⟩ := List.mem_map.mp inside
    exact TypeName.ofString_settled _

end Schema

end Edm

def Property.value (property : Property) : Json.Value :=
  .object [("name", .string property.name), ("type", .string property.typeName.toString)]

namespace Edm

def EntityType.value (entry : EntityType) : Json.Value :=
  .object (Dictionary.ofList
    [("name", .string entry.name), ("qualifiedName", .string entry.qualifiedName),
     ("properties", .array (entry.properties.map Property.value))])

def EntitySetEntry.value (entry : EntitySetEntry) : Json.Value :=
  .object (Dictionary.ofList
    [("name", .string entry.name), ("entityType", .string entry.entityType)])

def Schema.value (schema : Schema) : Json.Value :=
  .object (Dictionary.ofList
    [("entityTypes", .object (schema.entityTypes.mapValues EntityType.value)),
     ("entitySets", .object (schema.entitySets.mapValues EntitySetEntry.value))])

end Edm

section
variable {room : Nat}

theorem Property.readsValue (property : Property) :
    Json.Reads (Json.readValue (room + 1)) property.tree property.value := by
  have entries : Json.ReadsEntries (Json.readValue room)
      [("name", .string property.name), ("type", .string property.typeName.toString)]
      [("name", .string property.name), ("type", .string property.typeName.toString)] :=
    .cons ⟨rfl, .string _⟩ (.cons ⟨rfl, .string _⟩ .nil)
  -- These names ascend as they are written, so the value is the list itself.
  have sorted : Dictionary.Ascending
      [("name", Json.Value.string property.name), ("type", .string property.typeName.toString)] := by
    change ["name", "type"].Pairwise (· < ·)
    decide
  have read := Json.Reads.object entries
  rwa [Dictionary.ofList_of_ascending sorted] at read

theorem Edm.EntityType.readsValue (entry : EntityType) :
    Json.Reads (Json.readValue (room + 3)) entry.tree entry.value := by
  have properties : Json.Reads (Json.readValue (room + 2))
      (.list (entry.properties.map Property.tree)) (.array (entry.properties.map Property.value)) :=
    .array (Json.reads_map fun property _ => property.readsValue)
  exact .object (.cons ⟨rfl, .string _⟩ (.cons ⟨rfl, .string _⟩ (.cons ⟨rfl, properties⟩ .nil)))

theorem Edm.EntitySetEntry.readsValue (entry : EntitySetEntry) :
    Json.Reads (Json.readValue (room + 1)) entry.tree entry.value :=
  .object (.cons ⟨rfl, .string _⟩ (.cons ⟨rfl, .string _⟩ .nil))

theorem Edm.Schema.readsValue {schema : Schema} (settled : schema.Settled) :
    Json.Reads (Json.readValue (room + 5)) schema.tree schema.value := by
  have types : Json.Reads (Json.readValue (room + 4))
      (.object (schema.entityTypes.mapValues EntityType.tree))
      (.object (schema.entityTypes.mapValues EntityType.value)) :=
    .members settled.typesAscend fun entry _ => entry.2.readsValue
  have sets : Json.Reads (Json.readValue (room + 4))
      (.object (schema.entitySets.mapValues EntitySetEntry.tree))
      (.object (schema.entitySets.mapValues EntitySetEntry.value)) :=
    .members settled.setsAscend fun entry _ => entry.2.readsValue
  exact .object (.cons ⟨rfl, types⟩ (.cons ⟨rfl, sets⟩ .nil))

end

theorem Edm.Schema.parse_value {schema : Schema} (settled : schema.Settled) :
    Json.parse (Utf8.encode schema.tree.compact) = .ok schema.value :=
  (readsValue settled).whole

end ODataTable
