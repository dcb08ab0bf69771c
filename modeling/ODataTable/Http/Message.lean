import ODataTable.Number.Literal
import ODataTable.Number.Radix
import ODataTable.Service.Response
import ODataTable.Text.Split
import ODataTable.Url.Parser

/-! Requests and responses of HTTP 1.1 as octets.

A connection carries one request, so a response without a length ends with the connection.
-/

set_option autoImplicit false

namespace ODataTable.Http

/-- The part of a URL that is sent: no user and no fragment. -/
def sentUrl (url : Url) : Url :=
  { url with username := [], password := [], fragment := none }

/-- The host of a URL and the port to connect to. Only plain connections can be made. -/
def endpoint? (url : Url) : Option (UrlHost × Nat) :=
  if url.scheme = "http".toList then url.host.map fun host => (host, url.port.getD 80) else none

def hostName : UrlHost → List Char
  | .address6 pieces => ((UrlHost.address6 pieces).write.drop 1).dropLast
  | host => host.write

def line (text : List Char) : List Char :=
  text ++ ['\r', '\n']

def requestText (url : Url) (accept : String) : List Char :=
  let host := (url.host.map UrlHost.write).getD []
  line ("GET ".toList ++ url.path.write ++ url.writeQuery ++ " HTTP/1.1".toList) ++
    line ("Host: ".toList ++ host ++ url.writePort) ++
    line ("Accept: ".toList ++ accept.toList) ++
    line "User-Agent: odata-datasource/0.1.0".toList ++
    line "Connection: close".toList ++ line []

def isBlank (b : UInt8) : Bool := b = 0x20 || b = 0x09

/-- The text of a header value without the blanks around it, or nothing if it holds octets that
do not show. -/
def headerText? (octets : List UInt8) : Option String :=
  let trimmed := ((octets.dropWhile isBlank).reverse.dropWhile isBlank).reverse
  if trimmed.all fun b => (0x20 ≤ b && b ≤ 0x7E) || b = 0x09 then
    some (String.ofList (trimmed.map fun b => Char.ofNat b.toNat))
  else none

def takeLine? (octets : List UInt8) : Option (List UInt8 × List UInt8) :=
  match cutWhere (· = 0x0A) octets with
  | (line, some rest) =>
    some (if line.getLast? = some 0x0D then line.dropLast else line, rest)
  | (_, none) => none

def status? (line : List UInt8) : Option Nat :=
  match splitWhere (· = 0x20) line with
  | version :: code :: _ =>
    let digits := code.map fun b => Char.ofNat b.toNat
    if Utf8.encode "HTTP/1.".toList |>.isPrefixOf version then
      if digits.length = 3 && digits.all Char.isDigit then some (digitsValue digits) else none
    else none
  | _ => none

def addHeader (response : Response) (name value : List UInt8) : Response :=
  match headerText? value with
  | some text => response.withHeader (String.ofList (Utf8.decodeLossy name)) text
  | none => response

/-- Read headers up to an empty line; `limit` bounds their number. -/
def readHeaders : Nat → Response → List UInt8 → Option (Response × List UInt8)
  | 0, _, _ => none
  | limit + 1, response, octets =>
    match takeLine? octets with
    | none => none
    | some ([], rest) => some (response, rest)
    | some (line, rest) =>
      match cutWhere (· = 0x3A) line with
      | (name, some value) => readHeaders limit (addHeader response name value) rest
      | (_, none) => none

/-- Read a body in chunks, each after a line with its size; `limit` bounds their number. -/
def readChunks : Nat → List UInt8 → Option (List UInt8)
  | 0, _ => none
  | limit + 1, octets => do
    let (line, rest) ← takeLine? octets
    let digits := (line.takeWhile fun b => b ≠ 0x3B && !isBlank b).map fun b => Char.ofNat b.toNat
    let size ← Radix.read? 16 digits
    if digits.isEmpty then none
    else if size = 0 then some []
    else if rest.length < size then none
    else
      let (gap, after) ← takeLine? (rest.drop size)
      if gap.isEmpty then (rest.take size ++ ·) <$> readChunks limit after else none

def hasNoBody (status : Nat) : Bool :=
  status = 204 || status = 304

/-- Read the body that the headers of a response announce. A body that is cut short is none. -/
def readBody (response : Response) (octets : List UInt8) : Option (List UInt8) :=
  if hasNoBody response.status then some []
  else if response.header? "Transfer-Encoding" = some "chunked" then
    readChunks (octets.length + 1) octets
  else
    match response.header? "Content-Length" with
    | none => some octets
    | some text =>
      match readInteger? text.toList with
      | some (.ofNat length) => if octets.length < length then none else some (octets.take length)
      | _ => none

def readResponse (octets : List UInt8) : Option Response := do
  let (line, rest) ← takeLine? octets
  let status ← status? line
  let (response, rest) ← readHeaders (rest.length + 1) { status } rest
  let body ← readBody response rest
  some { response with body }

end ODataTable.Http
