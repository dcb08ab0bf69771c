import ODataTable.Json.Reader

/-! Reading records: objects with known fields.

A record may also be written as a list of its fields in order. Fields that nobody knows are
skipped, a known field must not repeat, and a field without a default must be present.
-/

set_option autoImplicit false

namespace ODataTable.Json

def readFound (input : List UInt8) : Except Fault Found :=
  match input with
  | [] => .error .expectedValue
  | b :: rest =>
    if b = octet 'n' then do
      let _ ← readLiteral ['u', 'l', 'l'] rest
      .ok .null
    else if b = octet 't' then do
      let _ ← readLiteral ['r', 'u', 'e'] rest
      .ok (.bool true)
    else if b = octet 'f' then do
      let _ ← readLiteral ['a', 'l', 's', 'e'] rest
      .ok (.bool false)
    else if b = octet '"' then do
      let (text, _) ← readString rest
      .ok (.string text)
    else if b = octet '[' then .ok .list
    else if b = octet '\x7b' then .ok .object
    else if b = octet '-' || isDigit b then do
      let (value, _) ← if b = octet '-' then readNumber true rest else readNumber false input
      match value with
      | .integer value => .ok (.integer value)
      | .real value => .ok (.real value)
      | _ => .error .expectedValue
    else .error .expectedValue

def refuse {α : Type} (expected : String) (input : List UInt8) : Except Fault α := do
  .error (.invalidType (← readFound input) expected)

def readText : Reader String := fun input =>
  match skipBlanks input with
  | [] => .error .endInValue
  | b :: rest =>
    if b = octet '"' then do
      let (text, rest) ← readString rest
      .ok (String.ofList text, rest)
    else refuse "a string" (b :: rest)

def readSequence {α : Type} (item : Reader α) : Reader (List α) := fun input =>
  match skipBlanks input with
  | [] => .error .endInValue
  | b :: rest =>
    if b = octet '[' then readList item rest else refuse "a sequence" (b :: rest)

/-- Read a member into the dictionary of those before it. The last value of a name stays. -/
def readEntry {α : Type} (item : Reader α) (key : List Char) (known : Dictionary α) :
    Reader (Dictionary α) := fun input => do
  let (value, input) ← item (← readColon input)
  .ok (known.insert (String.ofList key) value, input)

def readDictionary {α : Type} (item : Reader α) : Reader (Dictionary α) := fun input =>
  match skipBlanks input with
  | [] => .error .endInValue
  | b :: rest =>
    if b = octet '\x7b' then readObject (readEntry item) Dictionary.empty rest
    else refuse "a map" (b :: rest)

def readOptional {α : Type} (part : Reader α) : Reader (Option α) := fun input =>
  match skipBlanks input with
  | [] => .error .endInValue
  | b :: rest =>
    if b = octet 'n' then do
      let ((), rest) ← readLiteral ['u', 'l', 'l'] rest
      .ok (none, rest)
    else do
      let (value, rest) ← part (b :: rest)
      .ok (some value, rest)

structure RecordField (σ : Type) where
  name : String
  hasDefault : Bool
  isSet : σ → Bool
  read : σ → Reader σ

structure RecordShape (σ α : Type) where
  title : String
  fields : List (RecordField σ)
  start : σ
  build : σ → α

namespace RecordShape

variable {σ α : Type}

def readMember (shape : RecordShape σ α) (key : List Char) (state : σ) : Reader σ := fun input =>
  match shape.fields.find? (fun field => field.name.toList == key) with
  | some field =>
    if field.isSet state then .error (.duplicateField field.name)
    else do field.read state (← readColon input)
  | none => do
    let ((), input) ← skipValue (← readColon input)
    .ok (state, input)

/-- Read fields in order from a list; `index` of them are read. -/
def readOrdered (shape : RecordShape σ α) : Nat → List (RecordField σ) → σ → Reader σ
  | _, [], state, input => .ok (state, input)
  | index, field :: fields, state, input => do
    match ← nextItem (index = 0) input with
    | some input =>
      let (state, input) ← field.read state input
      readOrdered shape (index + 1) fields state input
    | none =>
      if field.hasDefault then readOrdered shape index fields state input
      else
        .error (.invalidLength index
          s!"struct {shape.title} with {shape.fields.length} elements")

def missing? (shape : RecordShape σ α) (state : σ) : Option (RecordField σ) :=
  shape.fields.find? fun field => !field.hasDefault && !field.isSet state

/-- Read a record after the octet `b` at its front. -/
def readAfter (shape : RecordShape σ α) (b : UInt8) (rest : List UInt8) :
    Except Fault (α × List UInt8) :=
  if b = octet '[' then do
    let (state, rest) ← shape.readOrdered 0 shape.fields shape.start rest
    .ok (shape.build state, ← closeList rest)
  else if b = octet '\x7b' then do
    let (state, rest) ← readMembers shape.readMember rest true shape.start rest
    match shape.missing? state with
    | some field => .error (.missingField field.name)
    | none => .ok (shape.build state, ← closeObject rest)
  else refuse s!"struct {shape.title}" (b :: rest)

def read (shape : RecordShape σ α) : Reader α := fun input =>
  match skipBlanks input with
  | [] => .error .endInValue
  | b :: rest => shape.readAfter b rest

def parse (shape : RecordShape σ α) (input : List UInt8) : Except Fault α :=
  readWhole shape.read input

end RecordShape

end ODataTable.Json
