import ODataTable.Number.Notation
import ODataTable.Text.Quoted

/-! Why a JSON text cannot be read. -/

set_option autoImplicit false

namespace ODataTable

instance Except.decidableEq {ε α : Type} [DecidableEq ε] [DecidableEq α] :
    DecidableEq (Except ε α)
  | .ok first, .ok second => decidable_of_iff (first = second) (by simp)
  | .error first, .error second => decidable_of_iff (first = second) (by simp)
  | .ok _, .error _ => isFalse (by simp)
  | .error _, .ok _ => isFalse (by simp)

end ODataTable

namespace ODataTable.Json

inductive Found where
  | null
  | bool (value : Bool)
  | integer (value : Int)
  | real (value : Double)
  | string (text : List Char)
  | list
  | object
  deriving DecidableEq, Repr

def Found.message : Found → String
  | .null => "null"
  | .bool value => s!"boolean `{value}`"
  | .integer value => s!"integer `{value}`"
  | .real value => s!"floating point `{String.ofList (DecimalLayout.jsonDouble.write value)}`"
  | .string text => s!"string {String.ofList (Quoted.write text)}"
  | .list => "sequence"
  | .object => "map"

/-- Whether a text ends too early, breaks the grammar, or says something unexpected. -/
inductive FaultClass where
  | unfinished
  | malformed
  | unexpected
  deriving DecidableEq, Repr

inductive Fault where
  | endInList
  | endInString
  | endInValue
  | endInObject
  | expectedValue
  | expectedLiteral
  | expectedColon
  | expectedListEnd
  | expectedObjectEnd
  | trailingComma
  | trailingCharacters
  | keyNotString
  | invalidNumber
  | numberOutOfRange
  | invalidEscape
  | invalidCodePoint
  | loneSurrogate
  | unfinishedSurrogate
  | controlCharacter
  | tooDeep
  | missingField (name : String)
  | duplicateField (name : String)
  | invalidType (found : Found) (expected : String)
  | invalidLength (length : Nat) (expected : String)
  deriving DecidableEq, Repr

namespace Fault

def faultClass : Fault → FaultClass
  | .endInList | .endInString | .endInValue | .endInObject => .unfinished
  | .missingField _ | .duplicateField _ | .invalidType _ _ | .invalidLength _ _ => .unexpected
  | _ => .malformed

def message : Fault → String
  | .endInList => "EOF while parsing a list"
  | .endInString => "EOF while parsing a string"
  | .endInValue => "EOF while parsing a value"
  | .endInObject => "EOF while parsing an object"
  | .expectedValue => "expected value"
  | .expectedLiteral => "expected ident"
  | .expectedColon => "expected `:`"
  | .expectedListEnd => "expected `,` or `]`"
  | .expectedObjectEnd => "expected `,` or `\x7d`"
  | .trailingComma => "trailing comma"
  | .trailingCharacters => "trailing characters"
  | .keyNotString => "key must be a string"
  | .invalidNumber => "invalid number"
  | .numberOutOfRange => "number out of range"
  | .invalidEscape => "invalid escape"
  | .invalidCodePoint => "invalid unicode code point"
  | .loneSurrogate => "lone leading surrogate in hex escape"
  | .unfinishedSurrogate => "unexpected end of hex escape"
  | .controlCharacter => "control character (\\u0000-\\u001F) found while parsing a string"
  | .tooDeep => "recursion limit exceeded"
  | .missingField name => s!"missing field `{name}`"
  | .duplicateField name => s!"duplicate field `{name}`"
  | .invalidType found expected => s!"invalid type: {found.message}, expected {expected}"
  | .invalidLength length expected => s!"invalid length {length}, expected {expected}"

end Fault

end ODataTable.Json
