import ODataTable.Json.Value
import ODataTable.Number.Notation

/-! Writing JSON text, compact or indented. -/

set_option autoImplicit false

namespace ODataTable.Json

def hexDigit (n : Nat) : Char :=
  if n < 10 then Char.ofNat ('0'.toNat + n) else Char.ofNat ('a'.toNat + (n - 10))

def writeChar (c : Char) : List Char :=
  if c = '"' then ['\\', '"']
  else if c = '\\' then ['\\', '\\']
  else if c = '\n' then ['\\', 'n']
  else if c = '\r' then ['\\', 'r']
  else if c = '\t' then ['\\', 't']
  else if c = '\x08' then ['\\', 'b']
  else if c = '\x0c' then ['\\', 'f']
  else if c.toNat < 0x20 then
    ['\\', 'u', '0', '0', hexDigit (c.toNat / 16), hexDigit (c.toNat % 16)]
  else [c]

def writeString (text : String) : List Char :=
  '"' :: text.toList.flatMap writeChar ++ ['"']

def writeInteger (n : Int) : List Char :=
  if n < 0 then '-' :: decimalDigits n.natAbs else decimalDigits n.natAbs

def writeReal {format : BinaryFormat} (layout : DecimalLayout) : Binary format → List Char
  | .finite negative units => layout.writeFinite format negative units
  | _ => ['n', 'u', 'l', 'l']

def writeBool (value : Bool) : List Char :=
  if value then ['t', 'r', 'u', 'e'] else ['f', 'a', 'l', 's', 'e']

def writeNull : List Char := ['n', 'u', 'l', 'l']

/-- A JSON value whose leaves are written already. -/
inductive Tree where
  | leaf (text : List Char)
  | list (items : List Tree)
  | object (members : List (String × Tree))

namespace Tree

def null : Tree := .leaf writeNull

def bool (value : Bool) : Tree := .leaf (writeBool value)

def integer (value : Int) : Tree := .leaf (writeInteger value)

def string (text : String) : Tree := .leaf (writeString text)

def enclose (opening closing : Char) (items : List (List Char)) : List Char :=
  opening :: List.intercalate [','] items ++ [closing]

mutual

def compact : Tree → List Char
  | .leaf text => text
  | .list items => enclose '[' ']' (compactItems items)
  | .object members => enclose '\x7b' '\x7d' (compactMembers members)

def compactItems : List Tree → List (List Char)
  | [] => []
  | item :: rest => compact item :: compactItems rest

def compactMembers : List (String × Tree) → List (List Char)
  | [] => []
  | (name, value) :: rest =>
    (writeString name ++ ':' :: compact value) :: compactMembers rest

end

def newLine (level : Nat) : List Char :=
  '\n' :: List.replicate (2 * level) ' '

/-- Written items on lines of their own; without items the brackets touch. -/
def encloseLines (opening closing : Char) (level : Nat) : List (List Char) → List Char
  | [] => [opening, closing]
  | items =>
    opening :: newLine (level + 1) ++ List.intercalate (',' :: newLine (level + 1)) items ++
      newLine level ++ [closing]

mutual

def indentedAt (level : Nat) : Tree → List Char
  | .leaf text => text
  | .list items => encloseLines '[' ']' level (indentedItems (level + 1) items)
  | .object members => encloseLines '\x7b' '\x7d' level (indentedMembers (level + 1) members)

def indentedItems (level : Nat) : List Tree → List (List Char)
  | [] => []
  | item :: rest => indentedAt level item :: indentedItems level rest

def indentedMembers (level : Nat) : List (String × Tree) → List (List Char)
  | [] => []
  | (name, value) :: rest =>
    (writeString name ++ ':' :: ' ' :: indentedAt level value) :: indentedMembers level rest

end

def indented (tree : Tree) : List Char :=
  tree.indentedAt 0

end Tree

mutual

def Value.tree : Value → Tree
  | .null => .null
  | .bool value => .bool value
  | .integer value => .integer value
  | .real value => .leaf (writeReal .jsonDouble value)
  | .string text => .string text
  | .array items => .list (Value.itemTrees items)
  | .object members => .object (Value.memberTrees members)

def Value.itemTrees : List Value → List Tree
  | [] => []
  | item :: rest => item.tree :: Value.itemTrees rest

def Value.memberTrees : List (String × Value) → List (String × Tree)
  | [] => []
  | (name, value) :: rest => (name, value.tree) :: Value.memberTrees rest

end

def Value.write (value : Value) : List Char :=
  value.tree.compact

end ODataTable.Json
