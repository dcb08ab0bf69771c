import ODataTable.Calendar.Instant
import ODataTable.Edm.TypeName
import ODataTable.Json.Record
import ODataTable.Json.Writer

/-! What a query asks for: an entity set, the properties to select, and conditions on them. -/

set_option autoImplicit false

namespace ODataTable

structure Property where
  name : String
  typeName : Edm.TypeName
  deriving DecidableEq, Repr

/-- A comparison of a property with a literal; the operator is passed on as it is. -/
structure Condition where
  property : Property
  operator : String
  value : String
  deriving DecidableEq, Repr

structure EntitySet where
  name : String := ""
  entityType : String := ""
  deriving DecidableEq, Repr

structure TimeRange where
  start : Instant
  stop : Instant
  deriving DecidableEq, Repr

structure QueryModel where
  entitySet : EntitySet := {}
  /-- The property that the time window applies to; its name is never empty. -/
  timeProperty : Option Property := none
  properties : List Property := []
  conditions : List Condition := []
  deriving DecidableEq, Repr

def textField {σ : Type} (name : String) (hasDefault : Bool) (get : σ → Option String)
    (set : String → σ → σ) : Json.RecordField σ where
  name := name
  hasDefault := hasDefault
  isSet := fun known => (get known).isSome
  read := fun known input => do
    let (text, input) ← Json.readText input
    .ok (set text known, input)

namespace Property

structure Partial where
  name : Option String := none
  typeName : Option String := none

def shape : Json.RecordShape Partial Property where
  title := "Property"
  fields :=
    [textField "name" false Partial.name fun text known => { known with name := some text },
     textField "type" false Partial.typeName fun text known =>
      { known with typeName := some text }]
  start := {}
  build := fun known =>
    { name := known.name.getD "", typeName := .ofString (known.typeName.getD "") }

def tree (property : Property) : Json.Tree :=
  .object [("name", .string property.name), ("type", .string property.typeName.toString)]

end Property

namespace Condition

structure Partial where
  property : Option Property := none
  operator : Option String := none
  value : Option String := none

def shape : Json.RecordShape Partial Condition where
  title := "FilterCondition"
  fields :=
    [{ name := "property"
       hasDefault := false
       isSet := fun known => known.property.isSome
       read := fun known input => do
         let (property, input) ← Property.shape.read input
         .ok ({ known with property := some property }, input) },
     textField "operator" false Partial.operator fun text known =>
      { known with operator := some text },
     textField "value" false Partial.value fun text known => { known with value := some text }]
  start := {}
  build := fun known =>
    { property := known.property.getD ⟨"", .other ""⟩
      operator := known.operator.getD ""
      value := known.value.getD "" }

def tree (condition : Condition) : Json.Tree :=
  .object
    [("property", condition.property.tree), ("operator", .string condition.operator),
     ("value", .string condition.value)]

end Condition

namespace EntitySet

structure Partial where
  name : Option String := none
  entityType : Option String := none

def shape : Json.RecordShape Partial EntitySet where
  title := "EntitySetRef"
  fields :=
    [textField "name" false Partial.name fun text known => { known with name := some text },
     textField "entityType" true Partial.entityType fun text known =>
      { known with entityType := some text }]
  start := {}
  build := fun known =>
    { name := known.name.getD "", entityType := known.entityType.getD "" }

def tree (set : EntitySet) : Json.Tree :=
  .object [("name", .string set.name), ("entityType", .string set.entityType)]

end EntitySet

namespace QueryModel

structure Partial where
  entitySet : Option EntitySet := none
  timeProperty : Option (Option Property) := none
  properties : Option (List Property) := none
  conditions : Option (List Condition) := none

/-- A time property without a name counts as none. -/
def named (property : Option Property) : Option Property :=
  property.filter fun property => property.name ≠ ""

def shape : Json.RecordShape Partial QueryModel where
  title := "QueryModel"
  fields :=
    [{ name := "entitySet"
       hasDefault := true
       isSet := fun known => known.entitySet.isSome
       read := fun known input => do
         let (set, input) ← EntitySet.shape.read input
         .ok ({ known with entitySet := some set }, input) },
     { name := "timeProperty"
       hasDefault := true
       isSet := fun known => known.timeProperty.isSome
       read := fun known input => do
         let (property, input) ← Json.readOptional Property.shape.read input
         .ok ({ known with timeProperty := some (named property) }, input) },
     { name := "properties"
       hasDefault := true
       isSet := fun known => known.properties.isSome
       read := fun known input => do
         let (properties, input) ← Json.readSequence Property.shape.read input
         .ok ({ known with properties := some properties }, input) },
     { name := "filterConditions"
       hasDefault := true
       isSet := fun known => known.conditions.isSome
       read := fun known input => do
         let (conditions, input) ← Json.readSequence Condition.shape.read input
         .ok ({ known with conditions := some conditions }, input) }]
  start := {}
  build := fun known =>
    { entitySet := known.entitySet.getD {}
      timeProperty := known.timeProperty.getD none
      properties := known.properties.getD []
      conditions := known.conditions.getD [] }

def parse (input : List UInt8) : Except Json.Fault QueryModel :=
  shape.parse input

/-- Whether the query selects nothing, so that running it would fetch whole entities. -/
def selectsNothing (model : QueryModel) : Bool :=
  model.properties.isEmpty && model.timeProperty.isNone

def tree (model : QueryModel) : Json.Tree :=
  .object
    [("entitySet", model.entitySet.tree),
     ("timeProperty", (model.timeProperty.map Property.tree).getD .null),
     ("properties", .list (model.properties.map Property.tree)),
     ("filterConditions", .list (model.conditions.map Condition.tree))]

end QueryModel

end ODataTable
