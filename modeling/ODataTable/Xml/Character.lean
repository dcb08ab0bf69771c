import ODataTable.Text.Ranges

/-! The characters of XML documents and of names in them. -/

set_option autoImplicit false

namespace ODataTable.Xml

def isSpace (c : Char) : Bool :=
  c = ' ' || c = '\t' || c = '\n' || c = '\r'

def isCharacter (c : Char) : Bool :=
  if c.toNat < 0x20 then isSpace c else c.toNat ≠ 0xFFFE && c.toNat ≠ 0xFFFF

def nameStartRanges : List (Nat × Nat) :=
  [(0xC0, 0xD6), (0xD8, 0xF6), (0xF8, 0x2FF), (0x370, 0x37D), (0x37F, 0x1FFF), (0x200C, 0x200D),
    (0x2070, 0x218F), (0x2C00, 0x2FEF), (0x3001, 0xD7FF), (0xF900, 0xFDCF), (0xFDF0, 0xFFFD),
    (0x10000, 0xEFFFF)]

def isNameStart (c : Char) : Bool :=
  if c.toNat < 0x80 then c.isAlpha || c = ':' || c = '_'
  else inRanges nameStartRanges c

def isNameCharacter (c : Char) : Bool :=
  isNameStart c || c.isDigit || c = '-' || c = '.' || c.toNat = 0xB7 ||
    (0x300 ≤ c.toNat && c.toNat ≤ 0x36F) || (0x203F ≤ c.toNat && c.toNat ≤ 0x2040)

end ODataTable.Xml
