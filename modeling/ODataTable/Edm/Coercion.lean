import ODataTable.Calendar.Literal
import ODataTable.Edm.Cell
import ODataTable.Number.Literal

/-! Turning JSON values into cells of a given type. -/

set_option autoImplicit false

namespace ODataTable.Edm

structure CoercionFault where
  value : Json.Value
  typeName : TypeName

namespace CoercionFault

def valueText (fault : CoercionFault) : String :=
  String.ofList fault.value.write

def message (fault : CoercionFault) : String :=
  s!"cannot convert {fault.valueText} to {fault.typeName.toString}"

end CoercionFault

/-- The text of a value: a string as it is, and the compact JSON text of any other value but
null. -/
def stringify : Json.Value → List Char
  | .string text => text.toList
  | .null => []
  | value => value.write

def number? : Json.Value → Option Double
  | .string text => readBinary? text.toList
  | value => value.double?

/-- The cell of a number in a numeric type. Whole numbers are cut toward zero and held within
the bounds of their type. -/
def narrow (value : Double) : TypeName → Cell
  | .single => .float32 value.convert
  | .sbyte => .int8 (value.truncate (-0x80) 0x7F)
  | .byte => .uint8 (value.truncate 0 0xFF)
  | .int16 => .int16 (value.truncate (-0x8000) 0x7FFF)
  | .int32 => .int32 (value.truncate (-0x80000000) 0x7FFFFFFF)
  | .int64 => .int64 (value.truncate (-0x8000000000000000) 0x7FFFFFFFFFFFFFFF)
  | _ => .float64 value

/-- The cell of a value. Null has no cell, and neither has a time that cannot be read. -/
def coerce (raw : Json.Value) (typeName : TypeName) : Except CoercionFault (Option Cell) :=
  match raw with
  | .null => .ok none
  | raw =>
    match typeName with
    | .boolean =>
      match raw with
      | .bool value => .ok (some (.bool value))
      | _ => .error { value := raw, typeName }
    | typeName =>
      if typeName.isNumeric then
        match number? raw with
        | some value => .ok (some (narrow value typeName))
        | none => .error { value := raw, typeName }
      else if typeName.isTemporal then .ok ((TimeLiteral.parse? (stringify raw)).map .time)
      else .ok (some (.string (String.ofList (stringify raw))))

/-- The cell of a value, with nothing in place of a value that the type cannot hold. -/
def coerceOrNull (raw : Json.Value) (typeName : TypeName) : Option Cell :=
  match coerce raw typeName with
  | .ok cell => cell
  | .error _ => none

end ODataTable.Edm
