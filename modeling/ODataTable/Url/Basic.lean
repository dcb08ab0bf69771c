import ODataTable.Url.Host
import ODataTable.Url.Path

/-! Absolute URLs: their parts, their text, and changes of path and query. -/

set_option autoImplicit false

namespace ODataTable

structure Url where
  scheme : List Char
  username : List Char := []
  password : List Char := []
  host : Option UrlHost := none
  /-- Nothing for the default port of the scheme. -/
  port : Option Nat := none
  /-- Whether a dot stands before the path, so that its empty first segment is not taken for the
  slashes before a host. -/
  hasDot : Bool := false
  path : UrlPath
  query : Option (List Char) := none
  fragment : Option (List Char) := none
  deriving DecidableEq, Repr

namespace Url

def kind (url : Url) : SchemeKind :=
  .ofScheme url.scheme

def writeUserInfo (url : Url) : List Char :=
  if url.username.isEmpty && url.password.isEmpty then []
  else
    url.username ++ (if url.password.isEmpty then [] else ':' :: url.password) ++ ['@']

def writePort (url : Url) : List Char :=
  match url.port with
  | some port => ':' :: Nat.toDigits 10 port
  | none => []

def writeAuthority (url : Url) : List Char :=
  match url.host with
  | some host => '/' :: '/' :: url.writeUserInfo ++ host.write ++ url.writePort
  | none => if url.hasDot then ['/', '.'] else []

def writeQuery (url : Url) : List Char :=
  match url.query with
  | some query => '?' :: query
  | none => []

def writeFragment (url : Url) : List Char :=
  match url.fragment with
  | some fragment => '#' :: fragment
  | none => []

def write (url : Url) : List Char :=
  url.scheme ++ ':' :: url.writeAuthority ++ url.path.write ++ url.writeQuery ++
    url.writeFragment

def dropBreaks (text : List Char) : List Char :=
  text.filter fun c => c ≠ '\t' && c ≠ '\n' && c ≠ '\r'

/-- Replace the path by a text. Question marks and hashes in it are part of the path, and a dot
before the path stays. -/
def withPath (url : Url) (text : List Char) : Url :=
  let text := dropBreaks text
  let path :=
    match url.path with
    | .bare _ =>
      match text with
      | '/' :: rest => .bare ("%2F".toList ++ Percent.encode Percent.controls rest)
      | text => .bare (Percent.encode Percent.controls text)
    | .segments _ => .segments (UrlPath.parse url.kind text)
  { url with path }

/-- Replace or remove the query. Blanks at the end of a text without structure would not be read
back once nothing follows them. -/
def withQuery (url : Url) (query : Option (List Char)) : Url :=
  let path :=
    match query, url.fragment, url.path with
    | none, none, .bare text => .bare (text.reverse.dropWhile (· = ' ')).reverse
    | _, _, path => path
  let set := if url.kind.isSpecial then Percent.specialQuerySet else Percent.querySet
  { url with path, query := query.map fun text => Percent.encode set (dropBreaks text) }

end Url

end ODataTable
