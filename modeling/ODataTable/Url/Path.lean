import ODataTable.Text.Split
import ODataTable.Url.Percent

/-! The path of a URL.

A path of segments is read segment by segment: a single dot stays where it is, and a double
dot takes the segment before it away unless that looks like the drive of a file. Dots may be
written as percent escapes.
-/

set_option autoImplicit false

namespace ODataTable

inductive SchemeKind where
  | file
  | web
  | other
  deriving DecidableEq, Repr

namespace SchemeKind

def ofScheme (scheme : List Char) : SchemeKind :=
  let name := String.ofList scheme
  if name = "file" then .file
  else if name = "http" || name = "https" || name = "ws" || name = "wss" || name = "ftp" then
    .web
  else .other

def isSpecial : SchemeKind → Bool
  | .other => false
  | _ => true

def separates (kind : SchemeKind) (c : Char) : Bool :=
  c = '/' || (c = '\\' && kind.isSpecial)

end SchemeKind

inductive UrlPath where
  /-- A text without structure, of a URL that has no authority and no leading slash. -/
  | bare (text : List Char)
  | segments (list : List (List Char))
  deriving DecidableEq, Repr

namespace UrlPath

def plainDots : List Char → List Char
  | '%' :: '2' :: c :: rest =>
    if c = 'e' || c = 'E' then '.' :: plainDots rest else '%' :: '2' :: c :: plainDots rest
  | c :: rest => c :: plainDots rest
  | [] => []

def isSingleDot (segment : List Char) : Bool :=
  plainDots segment = ['.']

def isDoubleDot (segment : List Char) : Bool :=
  plainDots segment = ['.', '.']

def isDrive : List Char → Bool
  | [letter, mark] => letter.isAlpha && mark = ':'
  | _ => false

def isLooseDrive : List Char → Bool
  | [letter, mark] => letter.isAlpha && (mark = ':' || mark = '|')
  | _ => false

/-- Whether a segment begins with a letter and a colon or a bar, and at most a backslash after
them. -/
def startsLikeDrive (segment : List Char) : Bool :=
  isLooseDrive (segment.take 2) && ((segment.drop 2).take 1).all (· = '\\')

/-- Take the last segment away. One that begins like a drive stays, whatever the scheme. -/
def dropLast (path : List (List Char)) : List (List Char) :=
  match path.getLast? with
  | some segment => if startsLikeDrive segment then path else path.dropLast
  | none => []

def settle (kind : SchemeKind) (path : List (List Char)) (segment : List Char) : List Char :=
  match segment with
  | [letter, _] =>
    if kind = .file && path.isEmpty && isLooseDrive segment then [letter, ':'] else segment
  | _ => segment

/-- Add segments to a path. After a dot at the very end an empty segment remains. -/
def walk (kind : SchemeKind) (path : List (List Char)) : List (List Char) → List (List Char)
  | [] => path
  | segment :: rest =>
    let tail := if rest.isEmpty then [[]] else []
    if isDoubleDot segment then walk kind (dropLast path ++ tail) rest
    else if isSingleDot segment then walk kind (path ++ tail) rest
    else walk kind (path ++ [settle kind path segment]) rest

def trimFront (kind : SchemeKind) (path : List (List Char)) : List (List Char) :=
  if kind = .file then
    match path.dropWhile List.isEmpty with
    | [] => [[]]
    | path => path
  else path

def resolve (kind : SchemeKind) (text : List Char) : List (List Char) :=
  walk kind [] ((splitWhere kind.separates text).map (Percent.encode Percent.pathSet))

def dropSlash (kind : SchemeKind) (text : List Char) : List Char :=
  match text with
  | c :: rest => if kind.separates c then rest else text
  | [] => []

/-- Read a path that may lack its first slash. Only the special schemes need a path. -/
def parse (kind : SchemeKind) (text : List Char) : List (List Char) :=
  if text.isEmpty && !kind.isSpecial then []
  else trimFront kind (resolve kind (dropSlash kind text))

def leadsToDrive (text : List Char) : Bool :=
  match resolve .file (dropSlash .file text) with
  | drive :: _ => isDrive drive
  | [] => false

def write : UrlPath → List Char
  | .bare text => text
  | .segments list => list.flatMap fun segment => '/' :: segment

end UrlPath

end ODataTable
