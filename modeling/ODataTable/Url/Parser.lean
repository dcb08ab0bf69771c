import ODataTable.Url.Basic

/-! Reading absolute URLs.

Blanks around the text and breaks inside it are dropped. The fragment and the query are cut
off first, because their marks end every other part.
-/

set_option autoImplicit false

namespace ODataTable.Url

def defaultPort? (scheme : List Char) : Option Nat :=
  let name := String.ofList scheme
  if name = "http" || name = "ws" then some 80
  else if name = "https" || name = "wss" then some 443
  else if name = "ftp" then some 21
  else none

def isSchemeChar (c : Char) : Bool :=
  c.isAlphanum || c = '+' || c = '-' || c = '.'

def splitScheme (text : List Char) : Option (List Char × List Char) :=
  match text with
  | c :: _ =>
    if c.isAlpha then
      match text.dropWhile isSchemeChar with
      | ':' :: rest => some ((text.takeWhile isSchemeChar).map Char.toLower, rest)
      | _ => none
    else none
  | [] => none

def splitUserInfo (text : List Char) : Option (List Char × List Char) :=
  match text.reverse.dropWhile (· ≠ '@') with
  | [] => none
  | _ :: before => some (before.reverse, text.drop (before.length + 1))

/-- The end of a host: the first colon that is not between square brackets. -/
def splitPort (inBrackets : Bool) : List Char → List Char × Option (List Char)
  | [] => ([], none)
  | c :: rest =>
    if c = ':' && !inBrackets then ([], some rest)
    else
      let (host, port) := splitPort (c = '[' || (inBrackets && c ≠ ']')) rest
      (c :: host, port)

def readPort (scheme : List Char) (text : List Char) : Except UrlFault (Option Nat) :=
  if !text.all Char.isDigit then .error .invalidPort
  else
    let port := text.foldl (fun value c => value * 10 + (c.toNat - '0'.toNat)) 0
    if 65535 < port then .error .invalidPort
    else if text.isEmpty || defaultPort? scheme = some port then .ok none
    else .ok (some port)

structure Authority where
  username : List Char := []
  password : List Char := []
  host : Option UrlHost := none
  port : Option Nat := none
  /-- What a backslash cuts off a port; it begins the path. -/
  rest : List Char := []

def readHostAndPort (scheme : List Char) (user : Authority) (text : List Char) :
    Except UrlFault Authority := do
  let kind := SchemeKind.ofScheme scheme
  let (hostText, portText) := splitPort false text
  if kind.isSpecial && hostText.isEmpty then .error .emptyHost
  else
    let host ← if kind.isSpecial then UrlHost.parseSpecial hostText
      else UrlHost.parsePlain hostText
    if hostText.isEmpty && (portText.isSome || !user.username.isEmpty || !user.password.isEmpty)
    then .error .emptyHost
    else
      let port ← match portText with
        | some text => readPort scheme (text.takeWhile (· ≠ '\\'))
        | none => .ok none
      .ok { user with host := some host, port, rest := (portText.getD []).dropWhile (· ≠ '\\') }

/-- Read an authority. `followed` tells whether a path, a query or a fragment follows it. -/
def readAuthority (scheme text : List Char) (followed : Bool) : Except UrlFault Authority :=
  match splitUserInfo text with
  | none => readHostAndPort scheme {} text
  | some (userInfo, rest) =>
    if userInfo.isEmpty && rest.isEmpty && followed then .error .emptyHost
    else
      let (username, password) := cutWhere (· = ':') userInfo
      readHostAndPort scheme
        { username := Percent.encode Percent.userInfoSet username
          password := Percent.encode Percent.userInfoSet (password.getD []) }
        rest

def readAfterSlashes (scheme text : List Char) (followed : Bool) : Except UrlFault Url := do
  let kind := SchemeKind.ofScheme scheme
  let ends := fun c => kind.separates c
  let authorityText := text.takeWhile (!ends ·)
  let pathText := text.dropWhile (!ends ·)
  let authority ← readAuthority scheme authorityText (followed || !pathText.isEmpty)
  .ok
    { scheme
      username := authority.username
      password := authority.password
      host := authority.host
      port := authority.port
      path := .segments (UrlPath.parse kind (authority.rest ++ pathText)) }

def readFile (scheme text : List Char) : Except UrlFault Url := do
  let none : UrlHost := .name []
  let withHost := fun (host : UrlHost) (path : List Char) =>
    ({ scheme, host := some host, path := .segments (UrlPath.parse .file path) } : Url)
  match text with
  | c :: d :: rest =>
    if SchemeKind.file.separates c && SchemeKind.file.separates d then
      let hostText := rest.takeWhile (!SchemeKind.file.separates ·)
      let pathText := rest.dropWhile (!SchemeKind.file.separates ·)
      if UrlPath.isLooseDrive hostText then .ok (withHost none rest)
      else if hostText.isEmpty then .ok (withHost none pathText)
      else do
        let host ← UrlHost.parseSpecial hostText
        let url := withHost (if host = .name "localhost".toList then none else host) pathText
        .ok (if UrlPath.leadsToDrive pathText then { url with host := some none } else url)
    else .ok (withHost none text)
  | text => .ok (withHost none text)

def startsWithEmpty : List (List Char) → Bool
  | [] :: _ :: _ => true
  | _ => false

def readAfterScheme (scheme text : List Char) (followed : Bool) : Except UrlFault Url :=
  match SchemeKind.ofScheme scheme with
  | .file => readFile scheme text
  | .web => readAfterSlashes scheme (text.dropWhile fun c => c = '/' || c = '\\') followed
  | .other =>
    match text with
    | '/' :: '/' :: rest => readAfterSlashes scheme rest followed
    | '/' :: _ =>
      let path := UrlPath.parse .other text
      .ok { scheme, hasDot := startsWithEmpty path, path := .segments path }
    | text => .ok { scheme, path := .bare (Percent.encode Percent.controls text) }

/-- Drop controls and spaces at both ends of a text. -/
def trim (text : List Char) : List Char :=
  let outer := fun (c : Char) => decide (c.toNat ≤ 0x20)
  ((text.dropWhile outer).reverse.dropWhile outer).reverse

def parse (text : List Char) : Except UrlFault Url :=
  match splitScheme (dropBreaks (trim text)) with
  | none => .error .relativeWithoutBase
  | some (scheme, rest) => do
    let (rest, fragment) := cutWhere (· = '#') rest
    let (rest, query) := cutWhere (· = '?') rest
    let url ← readAfterScheme scheme rest (query.isSome || fragment.isSome)
    let set := if url.kind.isSpecial then Percent.specialQuerySet else Percent.querySet
    .ok
      { url with
        query := query.map (Percent.encode set)
        fragment := fragment.map (Percent.encode Percent.fragmentSet) }

end ODataTable.Url
