import ODataTable.Calendar.Instant
import ODataTable.Edm.TypeName
import ODataTable.Json.Writer

/-! Values of table cells. -/

set_option autoImplicit false

namespace ODataTable.Edm

inductive Cell where
  | bool (value : Bool)
  | float32 (value : Single)
  | float64 (value : Double)
  | int8 (value : Int)
  | uint8 (value : Int)
  | int16 (value : Int)
  | int32 (value : Int)
  | int64 (value : Int)
  | time (value : Instant)
  | string (text : String)
  deriving DecidableEq, Repr

namespace Cell

def kind : Cell → ColumnKind
  | .bool _ => .bool
  | .float32 _ => .float32
  | .float64 _ => .float64
  | .int8 _ => .int8
  | .uint8 _ => .uint8
  | .int16 _ => .int16
  | .int32 _ => .int32
  | .int64 _ => .int64
  | .time _ => .time
  | .string _ => .string

def write : Cell → List Char
  | .bool value => Json.writeBool value
  | .float32 value => DecimalLayout.display.write value
  | .float64 value => DecimalLayout.display.write value
  | .int8 value | .uint8 value | .int16 value | .int32 value | .int64 value =>
    Json.writeInteger value
  | .time value => value.writeCell
  | .string text => text.toList

def tree : Cell → Json.Tree
  | .bool value => .bool value
  | .float32 value => .leaf (Json.writeReal .jsonSingle value)
  | .float64 value => .leaf (Json.writeReal .jsonDouble value)
  | .int8 value | .uint8 value | .int16 value | .int32 value | .int64 value => .integer value
  | .time value => .string (String.ofList value.writeJson)
  | .string text => .string text

end Cell

end ODataTable.Edm
