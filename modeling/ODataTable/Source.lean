import ODataTable.Edm.Coercion
import ODataTable.Frame
import ODataTable.Service.Client
import ODataTable.Service.Envelope

/-! Questions to a service: queries for tables, its health, and its schema.

A query is planned before anything is sent. A plan is either finished or makes one call, and
then says what the response means, so all that a query does can be told without a service.
-/

set_option autoImplicit false

namespace ODataTable

/-- One query of a batch. Its payload is read when the query is run, so that a bad payload is the
fault of its own query. -/
structure DataQuery where
  refId : String
  payload : List UInt8
  range : TimeRange
  deriving DecidableEq, Repr

inductive Plan where
  | finished (outcome : Except ServiceFault Frame)
  | ask (call : Call) (conclude : Response → Except ServiceFault Frame)

namespace QueryModel

def columnOf (property : Property) : Column :=
  { name := property.name, kind := property.typeName.columnKind }

/-- The column of the time property. It has a fixed name and carries the name of the property
as a label. -/
def timeColumn (property : Property) : Column :=
  ({ name := "time", kind := property.typeName.columnKind } : Column).withLabel "time"
    property.name

def columns (model : QueryModel) : List Column :=
  model.timeProperty.toList.map timeColumn ++ model.properties.map columnOf

/-- The cell of a property in a record; a property that is missing gives null. -/
def cellOf (entry : EntityRecord) (property : Property) : Option Edm.Cell :=
  (entry.find? property.name).bind fun raw => Edm.coerceOrNull raw property.typeName

def row (model : QueryModel) (entry : EntityRecord) : List (Option Edm.Cell) :=
  (model.timeProperty.toList ++ model.properties).map (cellOf entry)

def frame (model : QueryModel) (name : String) (records : List EntityRecord) : Frame :=
  records.foldl (fun frame entry => frame.appendRow (model.row entry))
    { name, columns := model.columns }

def conclude (model : QueryModel) (name : String) (configured : ProtocolVersion)
    (response : Response) : Except ServiceFault Frame :=
  if !response.isOk then .error (.refused response.status response.text)
  else
    match Envelope.decode (response.version configured) response.body with
    | .error fault => .error (.undecodable fault)
    | .ok records => .ok (model.frame name records)

def call (model : QueryModel) (range : TimeRange) : Call :=
  .entities model.entitySet.name model.properties model.timeProperty (some range)
    model.conditions

end QueryModel

namespace DataQuery

/-- The plan of a query. Nothing is asked for a payload that cannot be read or that selects
nothing. -/
def plan (configured : ProtocolVersion) (query : DataQuery) : Plan :=
  match QueryModel.parse query.payload with
  | .error fault => .finished (.error (.invalidQuery fault))
  | .ok model =>
    if model.selectsNothing then .finished (.ok { name := query.refId })
    else .ask (model.call query.range) (model.conclude query.refId configured)

end DataQuery

section
variable {m : Type → Type} [Monad m]

def Plan.run (ask : Call → m (Except ServiceFault Response)) :
    Plan → m (Except ServiceFault Frame)
  | .finished outcome => pure outcome
  | .ask call conclude => (· >>= conclude) <$> ask call

structure Source (m : Type → Type) where
  version : ProtocolVersion
  ask : Call → m (Except ServiceFault Response)

abbrev BatchOutcome := Dictionary (Except ServiceFault Frame)

structure Health where
  isWell : Bool
  message : String
  deriving DecidableEq, Repr

structure Resource where
  status : Nat
  body : List UInt8 := []
  deriving DecidableEq, Repr

namespace Health

def ofRoot : Except ServiceFault Response → Health
  | .error fault => { isWell := false, message := s!"Health check failed: {fault.message}" }
  | .ok response =>
    if response.isOk then
      { isWell := true, message := "Data Source is working as expected." }
    else
      { isWell := false
        message :=
          "Health check failed, datasource exists but given path does not. Statuscode: " ++
            toString response.status }

def statusName (health : Health) : String :=
  if health.isWell then "ok" else "error"

def tree (health : Health) : Json.Tree :=
  .object [("status", .string health.statusName), ("message", .string health.message)]

end Health

def schemaOf (response : Response) : Except ServiceFault Edm.Schema :=
  if !response.isOk then .error (.metadataRefused response.status)
  else (Edm.Schema.decode response.body).mapError .metadata

namespace Source

def ofClient (client : Client) (send : Request → m (Except TransportFault Response)) :
    Source m :=
  { version := client.version, ask := client.ask send }

def query (source : Source m) (query : DataQuery) : m (Except ServiceFault Frame) :=
  (query.plan source.version).run source.ask

/-- Run every query of a batch. Each succeeds or fails on its own. Outcomes are given to the
identifiers by position; of queries with one identifier the outcome of the last one stays. -/
def runBatch (source : Source m) (queries : List DataQuery) : m BatchOutcome := do
  let outcomes ← queries.mapM source.query
  pure (Dictionary.ofList ((queries.map (·.refId)).zip outcomes))

def checkHealth (source : Source m) : m Health :=
  Health.ofRoot <$> source.ask .root

def schema (source : Source m) : m (Except ServiceFault Edm.Schema) :=
  (· >>= schemaOf) <$> source.ask .metadata

/-- Answer a call for a resource. The schema is the only one that there is. -/
def callResource (source : Source m) (path : String) : m (Except ServiceFault Resource) :=
  if path = "metadata" then
    (·.map fun schema => { status := 200, body := Utf8.encode schema.tree.compact }) <$>
      source.schema
  else pure (.ok { status := 404 })

end Source

end

end ODataTable
