/-! The primitive types of the entity data model, and the kinds of table columns.

A type name outside the known ones is kept as it is written and treated as text.
-/

set_option autoImplicit false

namespace ODataTable.Edm

inductive TypeName where
  | string
  | boolean
  | single
  | double
  | decimal
  | sbyte
  | byte
  | int16
  | int32
  | int64
  | dateTimeOffset
  | dateTime
  | date
  | guid
  | time
  | other (name : String)
  deriving DecidableEq, Repr

/-- The kind of values that a column holds; every column may also hold nulls. -/
inductive ColumnKind where
  | bool
  | float32
  | float64
  | int8
  | uint8
  | int16
  | int32
  | int64
  | time
  | string
  deriving DecidableEq, Repr

namespace TypeName

def ofString (name : String) : TypeName :=
  if name = "Edm.String" then .string
  else if name = "Edm.Boolean" then .boolean
  else if name = "Edm.Single" then .single
  else if name = "Edm.Double" then .double
  else if name = "Edm.Decimal" then .decimal
  else if name = "Edm.SByte" then .sbyte
  else if name = "Edm.Byte" then .byte
  else if name = "Edm.Int16" then .int16
  else if name = "Edm.Int32" then .int32
  else if name = "Edm.Int64" then .int64
  else if name = "Edm.DateTimeOffset" then .dateTimeOffset
  else if name = "Edm.DateTime" then .dateTime
  else if name = "Edm.Date" then .date
  else if name = "Edm.Guid" then .guid
  else if name = "Edm.Time" then .time
  else .other name

def toString : TypeName → String
  | .string => "Edm.String"
  | .boolean => "Edm.Boolean"
  | .single => "Edm.Single"
  | .double => "Edm.Double"
  | .decimal => "Edm.Decimal"
  | .sbyte => "Edm.SByte"
  | .byte => "Edm.Byte"
  | .int16 => "Edm.Int16"
  | .int32 => "Edm.Int32"
  | .int64 => "Edm.Int64"
  | .dateTimeOffset => "Edm.DateTimeOffset"
  | .dateTime => "Edm.DateTime"
  | .date => "Edm.Date"
  | .guid => "Edm.Guid"
  | .time => "Edm.Time"
  | .other name => name

theorem toString_ofString (name : String) : (ofString name).toString = name := by
  fun_cases ofString name <;> simp_all [toString]

def isNumeric : TypeName → Bool
  | .single | .double | .decimal | .sbyte | .byte | .int16 | .int32 | .int64 => true
  | _ => false

def isTemporal : TypeName → Bool
  | .dateTimeOffset | .dateTime | .date => true
  | _ => false

def columnKind : TypeName → ColumnKind
  | .boolean => .bool
  | .single => .float32
  | .double | .decimal => .float64
  | .sbyte => .int8
  | .byte => .uint8
  | .int16 => .int16
  | .int32 => .int32
  | .int64 => .int64
  | .dateTimeOffset | .dateTime | .date => .time
  | _ => .string

end TypeName

def ColumnKind.name : ColumnKind → String
  | .bool => "bool"
  | .float32 => "float32"
  | .float64 => "float64"
  | .int8 => "int8"
  | .uint8 => "uint8"
  | .int16 => "int16"
  | .int32 => "int32"
  | .int64 => "int64"
  | .time => "time"
  | .string => "string"

end ODataTable.Edm
