import ODataTable.Text.Printable

/-! Quoted text for messages: a text between double quotes in which every character that would
not show on its own is escaped. -/

set_option autoImplicit false

namespace ODataTable.Quoted

def hexDigits (code : Nat) : List Char :=
  Nat.toDigits 16 code

def writeChar (c : Char) : List Char :=
  if c = '\\' then ['\\', '\\']
  else if c = '"' then ['\\', '"']
  else if c = '\n' then ['\\', 'n']
  else if c = '\r' then ['\\', 'r']
  else if c = '\t' then ['\\', 't']
  else if c = '\x00' then ['\\', '0']
  else if showsAlone c then [c]
  else ['\\', 'u', '\x7b'] ++ hexDigits c.toNat ++ ['\x7d']

def write (text : List Char) : List Char :=
  '"' :: text.flatMap writeChar ++ ['"']

end ODataTable.Quoted
