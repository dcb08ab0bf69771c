import ODataTable.Dictionary
import ODataTable.Query.Model
import ODataTable.Text.Utf8
import ODataTable.Xml.Document

/-! The schema of a service: its entity types and entity sets.

A metadata document is flattened into entity types by qualified name and entity sets by name.
Of two with one name the later one counts.
-/

set_option autoImplicit false

namespace ODataTable.Edm

structure EntityType where
  name : String
  qualifiedName : String
  properties : List Property
  deriving DecidableEq, Repr

structure EntitySetEntry where
  name : String
  entityType : String
  deriving DecidableEq, Repr

structure Schema where
  entityTypes : Dictionary EntityType := []
  entitySets : Dictionary EntitySetEntry := []
  deriving DecidableEq, Repr

inductive MetadataFault where
  | notText (fault : Utf8.Fault)
  | notXml (fault : Xml.Fault)
  | unexpectedRoot (name : String)
  deriving DecidableEq, Repr

def MetadataFault.message : MetadataFault → String
  | .notText fault => s!"error parsing metadata xml: {fault.message}"
  | .notXml fault => s!"error parsing metadata xml: {fault.message}"
  | .unexpectedRoot name =>
    s!"error parsing metadata xml: expected element <Edmx> but found <{name}>"

namespace Schema

/-- The value of an attribute, empty if it is missing. -/
def attributeText (node : Xml.Node) (name : String) : String :=
  (node.attribute? name).getD ""

def propertyOf (node : Xml.Node) : Property :=
  { name := attributeText node "Name", typeName := .ofString (attributeText node "Type") }

def entityTypeOf (space : String) (node : Xml.Node) : EntityType :=
  { name := attributeText node "Name"
    qualifiedName := space ++ "." ++ attributeText node "Name"
    properties := (node.childrenNamed "Property").map propertyOf }

def entitySetOf (node : Xml.Node) : EntitySetEntry :=
  { name := attributeText node "Name", entityType := attributeText node "EntityType" }

def schemaNodes (root : Xml.Node) : List Xml.Node :=
  (root.childrenNamed "DataServices").flatMap (·.childrenNamed "Schema")

def entityTypesOf (root : Xml.Node) : List EntityType :=
  (schemaNodes root).flatMap fun schema =>
    (schema.childrenNamed "EntityType").map (entityTypeOf (attributeText schema "Namespace"))

def entitySetsOf (root : Xml.Node) : List EntitySetEntry :=
  (schemaNodes root).flatMap fun schema =>
    (schema.childrenNamed "EntityContainer").flatMap fun container =>
      (container.childrenNamed "EntitySet").map entitySetOf

def ofDocument (root : Xml.Node) : Schema :=
  { entityTypes := .ofList ((entityTypesOf root).map fun entry => (entry.qualifiedName, entry))
    entitySets := .ofList ((entitySetsOf root).map fun entry => (entry.name, entry)) }

def decode (body : List UInt8) : Except MetadataFault Schema :=
  match Utf8.decode body with
  | .error fault => .error (.notText fault)
  | .ok text =>
    match Xml.parse text with
    | .error fault => .error (.notXml fault)
    | .ok root =>
      match root with
      | .element name _ _ =>
        if name.localName = "Edmx" then .ok (ofDocument root)
        else .error (.unexpectedRoot name.localName)
      | _ => .error (.notXml .missingRoot)

end Schema

namespace EntityType

structure Partial where
  name : Option String := none
  qualifiedName : Option String := none
  properties : Option (List Property) := none

def shape : Json.RecordShape Partial EntityType where
  title := "EntityTypeDescriptor"
  fields :=
    [textField "name" false Partial.name fun text known => { known with name := some text },
     textField "qualifiedName" false Partial.qualifiedName fun text known =>
      { known with qualifiedName := some text },
     { name := "properties"
       hasDefault := false
       isSet := fun known => known.properties.isSome
       read := fun known input => do
         let (properties, input) ← Json.readSequence Property.shape.read input
         .ok ({ known with properties := some properties }, input) }]
  start := {}
  build := fun known =>
    { name := known.name.getD ""
      qualifiedName := known.qualifiedName.getD ""
      properties := known.properties.getD [] }

def tree (entry : EntityType) : Json.Tree :=
  .object
    [("name", .string entry.name), ("qualifiedName", .string entry.qualifiedName),
     ("properties", .list (entry.properties.map Property.tree))]

end EntityType

namespace EntitySetEntry

structure Partial where
  name : Option String := none
  entityType : Option String := none

def shape : Json.RecordShape Partial EntitySetEntry where
  title := "EntitySetDescriptor"
  fields :=
    [textField "name" false Partial.name fun text known => { known with name := some text },
     textField "entityType" false Partial.entityType fun text known =>
      { known with entityType := some text }]
  start := {}
  build := fun known =>
    { name := known.name.getD "", entityType := known.entityType.getD "" }

def tree (entry : EntitySetEntry) : Json.Tree :=
  .object [("name", .string entry.name), ("entityType", .string entry.entityType)]

end EntitySetEntry

namespace Schema

structure Partial where
  entityTypes : Option (Dictionary EntityType) := none
  entitySets : Option (Dictionary EntitySetEntry) := none

def shape : Json.RecordShape Partial Schema where
  title := "EdmSchema"
  fields :=
    [{ name := "entityTypes"
       hasDefault := false
       isSet := fun known => known.entityTypes.isSome
       read := fun known input => do
         let (entries, input) ← Json.readDictionary EntityType.shape.read input
         .ok ({ known with entityTypes := some entries }, input) },
     { name := "entitySets"
       hasDefault := false
       isSet := fun known => known.entitySets.isSome
       read := fun known input => do
         let (entries, input) ← Json.readDictionary EntitySetEntry.shape.read input
         .ok ({ known with entitySets := some entries }, input) }]
  start := {}
  build := fun known =>
    { entityTypes := known.entityTypes.getD [], entitySets := known.entitySets.getD [] }

def parse (input : List UInt8) : Except Json.Fault Schema :=
  shape.parse input

def tree (schema : Schema) : Json.Tree :=
  .object
    [("entityTypes", .object (schema.entityTypes.mapValues EntityType.tree)),
     ("entitySets", .object (schema.entitySets.mapValues EntitySetEntry.tree))]

end Schema

end ODataTable.Edm
