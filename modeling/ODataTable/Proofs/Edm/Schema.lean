import ODataTable.Edm.Schema
import ODataTable.Proofs.Dictionary
import ODataTable.Proofs.Text.Utf8
import ODataTable.Proofs.Xml.Document

/-! What the schema of a document holds.

Entity types and entity sets are told by where their elements stand among all nodes of a document.
A schema has the last one of each key, and nothing else of the document counts. Attributes are
found by their local names, so one with a qualifier counts like one without.
-/

set_option autoImplicit false

namespace ODataTable.Edm.Schema

open Xml (Node)

def typeDeclarations (root : Node) : List (Node × Node) :=
  (root.lines.filter (Node.follows ["Edmx", "DataServices", "Schema", "EntityType"])).filterMap
    fun
      | [_, _, space, declared] => some (space, declared)
      | _ => none

def setDeclarations (root : Node) : List Node :=
  (root.lines.filter
    (Node.follows ["Edmx", "DataServices", "Schema", "EntityContainer", "EntitySet"])).filterMap
    List.getLast?

def typeKey (space declared : Node) : String :=
  attributeText space "Namespace" ++ "." ++ attributeText declared "Name"

section
variable {root : Node} (edmx : root.isElement "Edmx" = true)
include edmx

theorem typeDeclarations_eq :
    typeDeclarations root =
      (schemaNodes root).flatMap fun space => (space.childrenNamed "EntityType").map (space, ·) := by
  rw [typeDeclarations, Node.filter_follows_lines, if_pos edmx]
  simp [Node.descend, schemaNodes, List.filterMap_flatMap, List.flatMap_assoc, List.map_eq_flatMap]

theorem setDeclarations_eq :
    setDeclarations root =
      (schemaNodes root).flatMap fun space =>
        (space.childrenNamed "EntityContainer").flatMap (·.childrenNamed "EntitySet") := by
  rw [setDeclarations, Node.filter_follows_lines, if_pos edmx]
  simp [Node.descend, schemaNodes, List.filterMap_flatMap, List.flatMap_assoc, List.map_flatMap]

theorem entityTypesOf_eq :
    entityTypesOf root = (typeDeclarations root).map fun declaration =>
      entityTypeOf (attributeText declaration.1 "Namespace") declaration.2 := by
  rw [typeDeclarations_eq edmx, entityTypesOf, List.map_flatMap]
  simp only [List.map_map, Function.comp_def]

theorem entitySetsOf_eq : entitySetsOf root = (setDeclarations root).map entitySetOf := by
  rw [setDeclarations_eq edmx, entitySetsOf, List.map_flatMap]
  simp only [List.map_flatMap]

end

theorem mem_schemaNodes {root space : Node} :
    space ∈ schemaNodes root ↔
      ∃ services ∈ root.children, services.isElement "DataServices" = true ∧
        space ∈ services.children ∧ space.isElement "Schema" = true := by
  simp [schemaNodes, Node.childrenNamed, and_assoc]

/-- An entity type of a key is declared by a child of a schema among the data services. -/
def DeclaresType (root : Node) (key : String) : Prop :=
  ∃ services ∈ root.children, services.isElement "DataServices" = true ∧
    ∃ space ∈ services.children, space.isElement "Schema" = true ∧
      ∃ declared ∈ space.children, declared.isElement "EntityType" = true ∧
        typeKey space declared = key

/-- An entity set of a name is declared by a child of a container of a schema. -/
def DeclaresSet (root : Node) (name : String) : Prop :=
  ∃ services ∈ root.children, services.isElement "DataServices" = true ∧
    ∃ space ∈ services.children, space.isElement "Schema" = true ∧
      ∃ container ∈ space.children, container.isElement "EntityContainer" = true ∧
        ∃ declared ∈ container.children, declared.isElement "EntitySet" = true ∧
          attributeText declared "Name" = name

/-- An element declares an entity type of the key, and no later one does. -/
def LastDeclared (root : Node) (key : String) (declared : Node) : Prop :=
  ∃ before space after,
    typeDeclarations root = before ++ (space, declared) :: after ∧
    typeKey space declared = key ∧ ∀ later ∈ after, typeKey later.1 later.2 ≠ key

/-- The properties of the last element of a key are those of the element alone. -/
def LastType (root : Node) (key : String) (entry : EntityType) : Prop :=
  ∃ declared, LastDeclared root key declared ∧
    entry =
      { name := attributeText declared "Name"
        qualifiedName := key
        properties := (declared.childrenNamed "Property").map fun property =>
          { name := attributeText property "Name"
            typeName := .ofString (attributeText property "Type") } }

def LastSet (root : Node) (name : String) (entry : EntitySetEntry) : Prop :=
  ∃ before declared after,
    setDeclarations root = before ++ declared :: after ∧
    attributeText declared "Name" = name ∧ (∀ later ∈ after, attributeText later "Name" ≠ name) ∧
    entry = { name, entityType := attributeText declared "EntityType" }

/-- A schema is the flattened form of a document. -/
structure Flattens (root : Node) (schema : Schema) : Prop where
  typesAscend : schema.entityTypes.Ascending
  setsAscend : schema.entitySets.Ascending
  typeKeys : ∀ key, key ∈ schema.entityTypes.keys ↔ DeclaresType root key
  setKeys : ∀ name, name ∈ schema.entitySets.keys ↔ DeclaresSet root name
  types : ∀ key entry, (key, entry) ∈ schema.entityTypes ↔ LastType root key entry
  sets : ∀ name entry, (name, entry) ∈ schema.entitySets ↔ LastSet root name entry

section
variable {root : Node} (edmx : root.isElement "Edmx" = true)
include edmx

theorem mem_typeKeys (key : String) :
    key ∈ (ofDocument root).entityTypes.keys ↔ DeclaresType root key := by
  simp only [ofDocument, Dictionary.mem_keys_ofList, entityTypesOf_eq edmx,
    typeDeclarations_eq edmx, List.map_map, List.map_flatMap, List.mem_flatMap, List.mem_map,
    mem_schemaNodes, Function.comp_apply]
  constructor
  · rintro ⟨space, ⟨services, below, named, inside, isSchema⟩, declared, member, rfl⟩
    obtain ⟨member, isType⟩ := List.mem_filter.mp member
    exact ⟨services, below, named, space, inside, isSchema, declared, member, isType, rfl⟩
  · rintro ⟨services, below, named, space, inside, isSchema, declared, member, isType, rfl⟩
    exact ⟨space, ⟨services, below, named, inside, isSchema⟩, declared,
      List.mem_filter.mpr ⟨member, isType⟩, rfl⟩

theorem mem_setKeys (name : String) :
    name ∈ (ofDocument root).entitySets.keys ↔ DeclaresSet root name := by
  simp only [ofDocument, Dictionary.mem_keys_ofList, entitySetsOf_eq edmx,
    setDeclarations_eq edmx, List.map_map, List.map_flatMap, List.mem_flatMap, List.mem_map,
    mem_schemaNodes, Function.comp_apply]
  constructor
  · rintro ⟨space, ⟨services, below, named, inside, isSchema⟩, container, within, declared, member, rfl⟩
    obtain ⟨within, isContainer⟩ := List.mem_filter.mp within
    obtain ⟨member, isSet⟩ := List.mem_filter.mp member
    exact ⟨services, below, named, space, inside, isSchema, container, within, isContainer,
      declared, member, isSet, rfl⟩
  · rintro ⟨services, below, named, space, inside, isSchema, container, within, isContainer,
      declared, member, isSet, rfl⟩
    exact ⟨space, ⟨services, below, named, inside, isSchema⟩, container,
      List.mem_filter.mpr ⟨within, isContainer⟩, declared,
      List.mem_filter.mpr ⟨member, isSet⟩, rfl⟩

theorem mem_entityTypes (key : String) (entry : EntityType) :
    (key, entry) ∈ (ofDocument root).entityTypes ↔ LastType root key entry := by
  rw [ofDocument, entityTypesOf_eq edmx, List.map_map, Dictionary.mem_ofList_map]
  constructor
  · rintro ⟨before, ⟨space, declared⟩, after, split, here, last⟩
    cases here
    exact ⟨declared, ⟨before, space, after, split, rfl, last⟩, rfl⟩
  · rintro ⟨declared, ⟨before, space, after, split, rfl, last⟩, rfl⟩
    exact ⟨before, (space, declared), after, split, rfl, last⟩

theorem mem_entitySets (name : String) (entry : EntitySetEntry) :
    (name, entry) ∈ (ofDocument root).entitySets ↔ LastSet root name entry := by
  rw [ofDocument, entitySetsOf_eq edmx, List.map_map, Dictionary.mem_ofList_map]
  constructor
  · rintro ⟨before, declared, after, split, here, last⟩
    cases here
    exact ⟨before, declared, after, split, rfl, last, rfl⟩
  · rintro ⟨before, declared, after, split, rfl, last, rfl⟩
    exact ⟨before, declared, after, split, rfl, last⟩

theorem ofDocument_flattens : Flattens root (ofDocument root) where
  typesAscend := Dictionary.ofList_ascending _
  setsAscend := Dictionary.ofList_ascending _
  typeKeys := mem_typeKeys edmx
  setKeys := mem_setKeys edmx
  types := mem_entityTypes edmx
  sets := mem_entitySets edmx

end

def propertyOutline : Node → Node :=
  Node.trim ["Name", "Type"] fun _ => none

def typeOutline : Node → Node :=
  Node.trim ["Name"] fun name => if name = "Property" then some propertyOutline else none

def setOutline : Node → Node :=
  Node.trim ["Name", "EntityType"] fun _ => none

def containerOutline : Node → Node :=
  Node.trim [] fun name => if name = "EntitySet" then some setOutline else none

def spacePart (name : String) : Option (Node → Node) :=
  if name = "EntityType" then some typeOutline
  else if name = "EntityContainer" then some containerOutline
  else none

def spaceOutline : Node → Node :=
  Node.trim ["Namespace"] spacePart

def servicesOutline : Node → Node :=
  Node.trim [] fun name => if name = "Schema" then some spaceOutline else none

/-- A document without comments, texts, qualifiers, and all elements and attributes that declare
nothing where they stand. -/
def outline : Node → Node :=
  Node.trim [] fun name => if name = "DataServices" then some servicesOutline else none

theorem attributeText_trim {wanted : List String} {parts : String → Option (Node → Node)}
    {name : String} (member : name ∈ wanted) (node : Node) :
    attributeText (node.trim wanted parts) name = attributeText node name := by
  rw [attributeText, attributeText, Node.attribute?_trim member]

theorem propertyOf_outline (node : Node) : propertyOf (propertyOutline node) = propertyOf node := by
  unfold propertyOf propertyOutline
  rw [attributeText_trim (by decide), attributeText_trim (by decide)]

theorem entityTypeOf_outline (space : String) (node : Node) :
    entityTypeOf space (typeOutline node) = entityTypeOf space node := by
  have properties : (typeOutline node).childrenNamed "Property" =
      (node.childrenNamed "Property").map propertyOutline :=
    Node.childrenNamed_trim_only Node.keepsNames_trim node
  have name : attributeText (typeOutline node) "Name" = attributeText node "Name" :=
    attributeText_trim (by decide) node
  simp only [entityTypeOf, name, properties, List.map_map, Function.comp_def, propertyOf_outline]

theorem entitySetOf_outline (node : Node) : entitySetOf (setOutline node) = entitySetOf node := by
  unfold entitySetOf setOutline
  rw [attributeText_trim (by decide), attributeText_trim (by decide)]

theorem childrenNamed_containerOutline (node : Node) :
    (containerOutline node).childrenNamed "EntitySet" =
      (node.childrenNamed "EntitySet").map setOutline :=
  Node.childrenNamed_trim_only Node.keepsNames_trim node

theorem keepsNames_spacePart {name : String} {part : Node → Node} (found : spacePart name = some part) :
    Node.KeepsNames part := by
  unfold spacePart at found
  repeat' split at found
  all_goals cases found
  all_goals exact Node.keepsNames_trim

theorem childrenNamed_spaceOutline {name : String} {part : Node → Node}
    (found : spacePart name = some part) (node : Node) :
    (spaceOutline node).childrenNamed name = (node.childrenNamed name).map part :=
  Node.childrenNamed_trim found (fun _ _ => keepsNames_spacePart) node

theorem schemaNodes_outline (root : Node) :
    schemaNodes (outline root) = (schemaNodes root).map spaceOutline := by
  have services : (outline root).childrenNamed "DataServices" =
      (root.childrenNamed "DataServices").map servicesOutline :=
    Node.childrenNamed_trim_only Node.keepsNames_trim root
  have spaces : ∀ node : Node, (servicesOutline node).childrenNamed "Schema" =
      (node.childrenNamed "Schema").map spaceOutline :=
    Node.childrenNamed_trim_only Node.keepsNames_trim
  simp only [schemaNodes, services, List.flatMap_map, List.map_flatMap, spaces]

theorem ofDocument_outline (root : Node) : ofDocument (outline root) = ofDocument root := by
  -- The elements of the outline stand where they stood, each trimmed by itself.
  have space : ∀ node : Node, attributeText (spaceOutline node) "Namespace" =
      attributeText node "Namespace" := attributeText_trim (by decide)
  have types : entityTypesOf (outline root) = entityTypesOf root := by
    have parts : ∀ node : Node, (spaceOutline node).childrenNamed "EntityType" =
        (node.childrenNamed "EntityType").map typeOutline := childrenNamed_spaceOutline rfl
    simp only [entityTypesOf, schemaNodes_outline, List.flatMap_map, space, parts, List.map_map,
      Function.comp_def, entityTypeOf_outline]
  have sets : entitySetsOf (outline root) = entitySetsOf root := by
    have parts : ∀ node : Node, (spaceOutline node).childrenNamed "EntityContainer" =
        (node.childrenNamed "EntityContainer").map containerOutline := childrenNamed_spaceOutline rfl
    simp only [entitySetsOf, schemaNodes_outline, List.flatMap_map, List.map_map, parts,
      childrenNamed_containerOutline, Function.comp_def, entitySetOf_outline]
  rw [ofDocument, ofDocument, types, sets]

theorem decode_of_parsed {body : List UInt8} {text : List Char} {root : Node}
    (readable : Utf8.decode body = .ok text) (parsed : Xml.parse text = .ok root)
    (edmx : root.isElement "Edmx" = true) : decode body = .ok (ofDocument root) := by
  cases root with
  | element name attributes children =>
    have named : name.localName = "Edmx" := by simpa [Node.isElement] using edmx
    simp [decode, readable, parsed, named]
  | text | comment | instruction => cases edmx

theorem decode_eq_ok {body : List UInt8} {schema : Schema} :
    decode body = .ok schema ↔
      ∃ text root, Utf8.decode body = .ok text ∧ Xml.parse text = .ok root ∧
        root.isElement "Edmx" = true ∧ ofDocument root = schema := by
  constructor
  · intro decoded
    -- The octets may be no text, the text no document, and the root another element.
    unfold decode at decoded
    split at decoded
    · cases decoded
    next text readable =>
    split at decoded
    · cases decoded
    next root parsed =>
    split at decoded
    next name attributes children =>
      split at decoded
      next named =>
        cases decoded
        exact ⟨text, _, readable, parsed, by simpa [Node.isElement] using named, rfl⟩
      next => cases decoded
    next => cases decoded
  · rintro ⟨text, root, readable, parsed, edmx, rfl⟩
    exact decode_of_parsed readable parsed edmx

/-- A document with the root element of metadata has a schema, its flattened form. A document of
the same outline has the same schema, whatever else stands in it. -/
theorem decode_flattens {body : List UInt8} {text : List Char} {root : Node}
    (readable : Utf8.decode body = .ok text) (parsed : Xml.parse text = .ok root)
    (edmx : root.isElement "Edmx" = true) :
    ∃ schema, decode body = .ok schema ∧ Flattens root schema ∧
      ∀ otherBody otherText other, Utf8.decode otherBody = .ok otherText →
        Xml.parse otherText = .ok other → outline other = outline root →
          decode otherBody = .ok schema := by
  refine ⟨_, decode_of_parsed readable parsed edmx, ofDocument_flattens edmx, ?_⟩
  intro otherBody otherText other otherReadable otherParsed same
  have otherEdmx : other.isElement "Edmx" = true := by
    have named := congrArg (Node.isElement "Edmx") same
    rwa [outline, Node.keepsNames_trim, Node.keepsNames_trim, edmx] at named
  rw [decode_of_parsed otherReadable otherParsed otherEdmx, ← ofDocument_outline, same,
    ofDocument_outline]

/-- Two entity types with one key in two schemas; only the second one has a property. -/
def collidingText : List Char :=
  ("<Edmx><DataServices><Schema Namespace=\"a.b\"><EntityType Name=\"c\"/></Schema>" ++
    "<Schema Namespace=\"a\"><EntityType Name=\"b.c\"><Property/></EntityType></Schema>" ++
    "</DataServices></Edmx>").toList

def firstColliding : Node := .element ⟨"", "EntityType"⟩ [⟨⟨"", "Name"⟩, "c"⟩] []

def secondColliding : Node :=
  .element ⟨"", "EntityType"⟩ [⟨⟨"", "Name"⟩, "b.c"⟩] [.element ⟨"", "Property"⟩ [] []]

def firstSpace : Node := .element ⟨"", "Schema"⟩ [⟨⟨"", "Namespace"⟩, "a.b"⟩] [firstColliding]

def secondSpace : Node := .element ⟨"", "Schema"⟩ [⟨⟨"", "Namespace"⟩, "a"⟩] [secondColliding]

def collidingRoot : Node :=
  .element ⟨"", "Edmx"⟩ [] [.element ⟨"", "DataServices"⟩ [] [firstSpace, secondSpace]]

def collidingType : EntityType :=
  { name := "b.c", qualifiedName := "a.b.c", properties := [⟨"", .other ""⟩] }

theorem decode_flattens_colliding :
    Utf8.decode (Utf8.encode collidingText) = .ok collidingText ∧
      Xml.parse collidingText = .ok collidingRoot ∧ collidingRoot.isElement "Edmx" = true ∧
      ∃ schema, decode (Utf8.encode collidingText) = .ok schema ∧
        ("a.b.c", collidingType) ∈ schema.entityTypes := by
  have readable := Utf8.decode_encode collidingText
  have parsed : Xml.parse collidingText = .ok collidingRoot := by decide +kernel
  have edmx : collidingRoot.isElement "Edmx" = true := by decide
  obtain ⟨schema, decoded, flattens, _⟩ := decode_flattens readable parsed edmx
  -- The first declaration of the key is not the last, so nothing of it is left.
  have last : LastType collidingRoot "a.b.c" collidingType :=
    ⟨secondColliding, ⟨[(firstSpace, firstColliding)], secondSpace, [], rfl, rfl, nofun⟩, rfl⟩
  exact ⟨readable, parsed, edmx, schema, decoded, (flattens.types _ _).mpr last⟩

/-! A qualifier does not keep an attribute from counting. -/

def rootWith (attributes : List Xml.Attribute) : Node :=
  .element ⟨"", "Edmx"⟩ [] [.element ⟨"", "DataServices"⟩ []
    [.element ⟨"", "Schema"⟩ [] [.element ⟨"", "EntityType"⟩ attributes []]]]

def bareText : List Char :=
  ("<Edmx xmlns:m=\"m\"><DataServices><Schema><EntityType Name=\"E\"/></Schema></DataServices>" ++
    "</Edmx>").toList

def qualifiedText : List Char :=
  ("<Edmx xmlns:m=\"m\"><DataServices><Schema><EntityType m:Name=\"X\" Name=\"E\"/></Schema>" ++
    "</DataServices></Edmx>").toList

/-- The documents differ in a qualified attribute only, and their schemas have other keys. -/
theorem qualified_attribute_counts :
    Xml.parse bareText = .ok (rootWith [⟨⟨"", "Name"⟩, "E"⟩]) ∧
      Xml.parse qualifiedText = .ok (rootWith [⟨⟨"m", "Name"⟩, "X"⟩, ⟨⟨"", "Name"⟩, "E"⟩]) ∧
      decode (Utf8.encode bareText) = .ok { entityTypes := [(".E", ⟨"E", ".E", []⟩)] } ∧
      decode (Utf8.encode qualifiedText) = .ok { entityTypes := [(".X", ⟨"X", ".X", []⟩)] } := by
  have bare : Xml.parse bareText = .ok (rootWith [⟨⟨"", "Name"⟩, "E"⟩]) := by decide +kernel
  have qualified :
      Xml.parse qualifiedText = .ok (rootWith [⟨⟨"m", "Name"⟩, "X"⟩, ⟨⟨"", "Name"⟩, "E"⟩]) := by
    decide +kernel
  refine ⟨bare, qualified, ?_, ?_⟩
  · exact (decode_of_parsed (Utf8.decode_encode _) bare rfl).trans (by decide +kernel)
  · exact (decode_of_parsed (Utf8.decode_encode _) qualified rfl).trans (by decide +kernel)

end ODataTable.Edm.Schema
