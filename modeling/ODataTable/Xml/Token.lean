import ODataTable.Number.Radix
import ODataTable.Xml.Character

/-! The tokens of an XML document: tags, texts, comments and instructions.

References are resolved and attribute values are normalized here. Whether tags match and what
stands outside of the root element is left to the reader of the tree.
-/

set_option autoImplicit false

namespace ODataTable.Xml

inductive Fault where
  | unexpectedEnd
  | unexpectedCharacter (c : Char)
  | invalidName
  | invalidReference
  | invalidComment
  | invalidText
  | declarationInside
  | documentType
  | unexpectedClose
  | unclosedElement
  | outsideRoot
  | missingRoot
  | duplicateAttribute (name : String)
  | duplicateNamespace (qualifier : String)
  | unknownNamespace (qualifier : String)
  | reservedNamespace
  deriving DecidableEq, Repr

def Fault.message : Fault → String
  | .unexpectedEnd => "unexpected end of document"
  | .unexpectedCharacter c => s!"unexpected character '{c}'"
  | .invalidName => "invalid name"
  | .invalidReference => "invalid reference"
  | .invalidComment => "invalid comment"
  | .invalidText => "a text may not hold ']]>'"
  | .declarationInside => "a declaration may only begin a document"
  | .documentType => "document types are not supported"
  | .unexpectedClose => "unexpected closing tag"
  | .unclosedElement => "an element is not closed"
  | .outsideRoot => "content outside of the root element"
  | .missingRoot => "the root element is missing"
  | .duplicateAttribute name => s!"attribute '{name}' is repeated"
  | .duplicateNamespace qualifier => s!"namespace '{qualifier}' is declared twice"
  | .unknownNamespace qualifier => s!"namespace '{qualifier}' is not declared"
  | .reservedNamespace => "reserved namespace"

structure QName where
  qualifier : String
  localName : String
  deriving DecidableEq, Repr

structure Attribute where
  name : QName
  value : String
  deriving DecidableEq, Repr

inductive Token where
  | openTag (name : QName) (attributes : List Attribute) (selfClosing : Bool)
  | closeTag (name : QName)
  /-- A text of nothing but spaces, none of them written as a reference. -/
  | space (content : String)
  | text (content : String)
  | characterData (content : String)
  | comment (content : String)
  | instruction (target content : String)
  deriving DecidableEq, Repr

abbrev Scan (α : Type) := List Char → Except Fault (α × List Char)

def skipSpaces (text : List Char) : List Char :=
  text.dropWhile isSpace

def expect : List Char → List Char → Except Fault (List Char)
  | [], text => .ok text
  | _ :: _, [] => .error .unexpectedEnd
  | c :: rest, d :: text => if c = d then expect rest text else .error (.unexpectedCharacter d)

def takeUntil (ends : Char → Bool) : Scan (List Char)
  | [] => .ok ([], [])
  | c :: rest =>
    if !isCharacter c then .error (.unexpectedCharacter c)
    else if ends c then .ok ([], c :: rest)
    else do
      let (taken, rest) ← takeUntil ends rest
      .ok (c :: taken, rest)

def takeThrough (mark : List Char) : Scan (List Char)
  | [] => .error .unexpectedEnd
  | c :: rest =>
    if mark.isPrefixOf (c :: rest) then .ok ([], (c :: rest).drop mark.length)
    else if !isCharacter c then .error (.unexpectedCharacter c)
    else do
      let (taken, rest) ← takeThrough mark rest
      .ok (c :: taken, rest)

def occurs (part : List Char) : List Char → Bool
  | [] => part.isEmpty
  | c :: rest => part.isPrefixOf (c :: rest) || occurs part rest

def readName : Scan (List Char)
  | [] => .ok ([], [])
  | c :: rest =>
    if isNameStart c then
      .ok (c :: rest.takeWhile isNameCharacter, rest.dropWhile isNameCharacter)
    else .error .invalidName

def readQName : Scan QName := fun text =>
  let name := text.takeWhile isNameCharacter
  let rest := text.dropWhile isNameCharacter
  let starts := fun (part : List Char) => (part.head?.map isNameStart).getD true
  let (qualifier, localName) :=
    if name.contains ':' then
      (name.takeWhile (· ≠ ':'), (name.dropWhile (· ≠ ':')).drop 1)
    else ([], name)
  if localName.contains ':' || localName.isEmpty || !starts qualifier || !starts localName then
    .error .invalidName
  else .ok (⟨String.ofList qualifier, String.ofList localName⟩, rest)

/-- The character of a reference by number, of at most 32 bits. A code point that does not exist
becomes U+FFFD. -/
def numbered (base : Nat) (digits : List Char) : Option Char := do
  let code ← Radix.read? base digits
  if digits.isEmpty || 0x100000000 ≤ code then none
  else
    let c := if code.isValidChar then Char.ofNat code else Char.ofNat 0xFFFD
    if isCharacter c then some c else none

def namedReference (name : List Char) : Option Char :=
  let name := String.ofList name
  if name = "quot" then some '"'
  else if name = "amp" then some '&'
  else if name = "apos" then some '\''
  else if name = "lt" then some '<'
  else if name = "gt" then some '>'
  else none

def reference? : List Char → Option Char
  | '#' :: 'x' :: digits => numbered 16 digits
  | '#' :: digits => numbered 10 digits
  | name => namedReference name

/-- Resolve the references of a text, and write other characters through `plain`, which is given
the text from each of them on; `limit` bounds their number. -/
def resolve (plain : Char → List Char → List Char) : Nat → List Char → Except Fault (List Char)
  | 0, _ => .ok []
  | _ + 1, [] => .ok []
  | limit + 1, c :: rest =>
    if c = '&' then
      match reference? (rest.takeWhile (· ≠ ';')), rest.dropWhile (· ≠ ';') with
      | some c, _ :: rest => do .ok (c :: (← resolve plain limit rest))
      | _, _ => .error .invalidReference
    else do .ok (plain c rest ++ (← resolve plain limit rest))

/-- A line break and a tab in an attribute are a space each. -/
def attributeCharacter (c : Char) (rest : List Char) : List Char :=
  if c = '\r' && rest.head? = some '\n' then []
  else if isSpace c then [' ']
  else [c]

def textCharacter (c : Char) (rest : List Char) : List Char :=
  if c = '\r' then if rest.head? = some '\n' then [] else ['\n']
  else [c]

def readRawAttribute : Scan (QName × List Char) := fun text => do
  let (name, text) ← readQName text
  let text ← expect ['='] (skipSpaces text)
  match skipSpaces text with
  | [] => .error .unexpectedEnd
  | quote :: text =>
    if quote = '"' || quote = '\'' then do
      let (value, text) ← takeUntil (fun c => c = quote || c = '<') text
      .ok ((name, value), ← expect [quote] text)
    else .error (.unexpectedCharacter quote)

def readAttribute : Scan Attribute := fun text => do
  let ((name, raw), text) ← readRawAttribute text
  let value ← resolve attributeCharacter (raw.length + 1) raw
  .ok (⟨name, String.ofList value⟩, text)

/-- Read the attributes of a tag and its end. Each takes characters of the text, so the text
itself is a `bound` long enough to lose one character for each. -/
def readAttributes : (bound : List Char) → Scan (List Attribute × Bool)
  | [], _ => .error .unexpectedEnd
  | _ :: bound, text =>
    match skipSpaces text with
    | [] => .error .unexpectedEnd
    | c :: rest =>
      if c = '/' then do .ok (([], true), ← expect ['>'] rest)
      else if c = '>' then .ok (([], false), rest)
      else if (text.head?.map isSpace).getD false then do
        let (entry, rest) ← readAttribute (c :: rest)
        let ((attributes, selfClosing), rest) ← readAttributes bound rest
        .ok ((entry :: attributes, selfClosing), rest)
      else .error (.unexpectedCharacter c)

/-- Read a comment after its opening mark. Two hyphens may not stand in it. -/
def readComment : Scan Token := fun text => do
  let (content, text) ← takeThrough "-->".toList text
  if occurs ['-', '-'] content || content.getLast? = some '-' then .error .invalidComment
  else .ok (.comment (String.ofList content), text)

def readInstruction : Scan Token := fun text =>
  if "xml ".toList.isPrefixOf text then .error .declarationInside
  else do
    let (target, text) ← readName text
    let (content, text) ← takeThrough ['?', '>'] (skipSpaces text)
    .ok (.instruction (String.ofList target) (String.ofList content), text)

def readCloseTag : Scan Token := fun text => do
  let (name, text) ← readQName text
  .ok (.closeTag name, ← expect ['>'] (skipSpaces text))

def readOpenTag : Scan Token := fun text => do
  let (name, text) ← readQName text
  let ((attributes, selfClosing), text) ← readAttributes text text
  .ok (.openTag name attributes selfClosing, text)

def readText : Scan Token := fun text => do
  let (raw, text) ← takeUntil (· = '<') text
  if occurs [']', ']', '>'] raw then .error .invalidText
  else
    let content := String.ofList (← resolve textCharacter (raw.length + 1) raw)
    .ok (if raw.all isSpace then .space content else .text content, text)

def readMarked : Scan Token := fun text =>
  if ['-', '-'].isPrefixOf text then readComment (text.drop 2)
  else if "[CDATA[".toList.isPrefixOf text then do
    let (content, text) ← takeThrough [']', ']', '>'] (text.drop 7)
    .ok (.characterData (String.ofList content), text)
  else .error .documentType

def readToken : Scan Token
  | '<' :: '!' :: rest => readMarked rest
  | '<' :: '?' :: rest => readInstruction rest
  | '<' :: '/' :: rest => readCloseTag rest
  | '<' :: rest => readOpenTag rest
  | text => readText text

def readTokens : Nat → List Char → Except Fault (List Token)
  | 0, _ => .ok []
  | _ + 1, [] => .ok []
  | limit + 1, text => do
    let (token, rest) ← readToken text
    .ok (token :: (← readTokens limit rest))

def skipDeclared (text : List Char) : Except Fault (List Char) :=
  match text with
  | [] => .ok []
  | c :: _ =>
    if isSpace c || ['?', '>'].isPrefixOf text then .ok (skipSpaces text)
    else .error (.unexpectedCharacter c)

def skipNamed (name : List Char) (text : List Char) : Except Fault (List Char) :=
  if name.isPrefixOf text then do
    let (_, text) ← readRawAttribute text
    skipDeclared text
  else .ok text

def skipDeclaration (text : List Char) : Except Fault (List Char) := do
  let text ← skipDeclared text
  if "version".toList.isPrefixOf text then do
    let text ← skipNamed "version".toList text
    let text ← skipNamed "encoding".toList text
    let text ←
      if "standalone".toList.isPrefixOf text then do .ok (← readRawAttribute text).2
      else .ok text
    expect ['?', '>'] (skipSpaces text)
  else .error .invalidName

def tokens (document : List Char) : Except Fault (List Token) := do
  let text :=
    match document with
    | c :: rest => if c.toNat = 0xFEFF then rest else document
    | [] => []
  let text ←
    if "<?xml ".toList.isPrefixOf text then skipDeclaration (text.drop 5) else .ok text
  readTokens (text.length + 1) text

end ODataTable.Xml
