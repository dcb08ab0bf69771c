import ODataTable.Text.Alphanumeric
import ODataTable.Text.Blank
import ODataTable.Text.Split
import ODataTable.Text.Utf8

/-! Files that set environment variables, one on a line.

A value may be quoted, may hold escapes, and may refer to other variables after a dollar sign.
Single quotes keep everything as it is. Lines after the first fault do not count.
-/

set_option autoImplicit false

namespace ODataTable.EnvironmentFile

/-! Lines. A line that leaves a quote or an escape open goes on in the next one. -/

inductive LineState where
  | complete
  /-- After a blank, where a hash begins a comment. -/
  | blank
  | escape
  | quoted (quote : Char)
  | quotedEscape (quote : Char)
  deriving DecidableEq, Repr

def isQuote (c : Char) : Bool := c = '"' || c = '\''

def isBreak (c : Char) : Bool := c = '\n' || c = '\r'

def LineState.outside (c : Char) : LineState :=
  if c = '\\' then .escape else if isQuote c then .quoted c else .complete

def LineState.next (state : LineState) (c : Char) : LineState :=
  match state with
  | .complete => if isBlank c && !isBreak c then .blank else .outside c
  | .blank => .outside c
  | .escape => .complete
  | .quoted quote =>
    if c = '\\' then .quotedEscape quote else if c = quote then .complete else state
  | .quotedEscape quote => .quoted quote

/-- The part of a line before a comment, and the state at its end unless a comment begins. -/
def scanLine : LineState → List Char → List Char × Option LineState
  | state, [] => ([], some state)
  | state, c :: rest =>
    if state = .blank && c = '#' then ([], none)
    else
      let (kept, final) := scanLine (state.next c) rest
      (c :: kept, final)

def dropBreak (line : List Char) : List Char :=
  match line.reverse with
  | '\n' :: '\r' :: rest | '\n' :: rest => rest.reverse
  | _ => line

/-- Join lines as long as something is open. Nothing stands for a text that ends too early. -/
def joinLines : List Char → LineState → List (List Char) → List (Option (List Char))
  | _, .complete, [] => []
  | _, _, [] => [none]
  | before, state, line :: rest =>
    if ((before ++ line).dropWhile isBlank).head? = some '#' then
      some [] :: joinLines [] .complete rest
    else
      match scanLine state line with
      | (kept, none) => some (before ++ kept) :: joinLines [] .complete rest
      | (_, some .complete) => some (dropBreak (before ++ line)) :: joinLines [] .complete rest
      | (_, some state) => joinLines (before ++ line) state rest

inductive ValueState where
  | text (inQuotes : Bool)
  | verbatim
  | escaped (inQuotes : Bool)
  /-- After a dollar sign, with the name so far in reverse. Only letters and numbers go on with
  a name without braces. -/
  | name (inQuotes braced : Bool) (reversed : List Char)
  | ending
  deriving DecidableEq, Repr

section
variable {m : Type → Type} [Monad m]

def readValue (lookUp : List Char → m (List Char)) :
    ValueState → List Char → OptionT m (List Char)
  | .text false, [] | .escaped false, [] | .ending, [] => pure []
  | .name false false reversed, [] => lookUp reversed.reverse
  | _, [] => failure
  | .ending, c :: rest =>
    if c = ' ' || c = '\t' then readValue lookUp .ending rest
    else if c = '#' then pure []
    else failure
  | .escaped inQuotes, c :: rest =>
    if c = '\\' || isQuote c || c = '$' || c = ' ' then
      (c :: ·) <$> readValue lookUp (.text inQuotes) rest
    else if c = 'n' then ('\n' :: ·) <$> readValue lookUp (.text inQuotes) rest
    else failure
  | .verbatim, c :: rest =>
    if c = '\'' then readValue lookUp (.text false) rest
    else (c :: ·) <$> readValue lookUp .verbatim rest
  | .name inQuotes braced reversed, c :: rest =>
    if isAlphanumeric c then readValue lookUp (.name inQuotes braced (c :: reversed)) rest
    else if braced then
      if c = '\x7d' then do
        let value ← lookUp reversed.reverse
        (value ++ ·) <$> readValue lookUp (.text inQuotes) rest
      else readValue lookUp (.name inQuotes braced (c :: reversed)) rest
    else if c = '\x7b' && reversed.isEmpty then
      readValue lookUp (.name inQuotes true []) rest
    else do
      let value ← lookUp reversed.reverse
      if c = '$' then (value ++ ·) <$> readValue lookUp (.name inQuotes false []) rest
      else (value ++ c :: ·) <$> readValue lookUp (.text inQuotes) rest
  | .text inQuotes, c :: rest =>
    if c = '$' then readValue lookUp (.name inQuotes false []) rest
    else if c = '"' then readValue lookUp (.text !inQuotes) rest
    else if c = '\\' then readValue lookUp (.escaped inQuotes) rest
    else if c = '\'' && !inQuotes then readValue lookUp .verbatim rest
    else if (c = ' ' || c = '\t') && !inQuotes then readValue lookUp .ending rest
    else (c :: ·) <$> readValue lookUp (.text inQuotes) rest

def startsName (c : Char) : Bool := c.isAlpha || c = '_'

def isNameChar (c : Char) : Bool := c.isAlphanum || c = '_' || c = '.'

def readName (text : List Char) : Option (List Char × List Char) :=
  if (text.head?.map startsName).getD false then
    some (text.takeWhile isNameChar, (text.dropWhile isNameChar).dropWhile isBlank)
  else none

def readAssignment (text : List Char) : Option (List Char × List Char) := do
  match ← readName text with
  | (name, '=' :: rest) => some (name, rest)
  | (name, rest) =>
    if name = "export".toList then
      match ← readName rest with
      | (name, '=' :: rest) => some (name, rest)
      | _ => none
    else none

inductive Line where
  | skipped
  | binding (name value : String)
  deriving DecidableEq, Repr

def trim (text : List Char) : List Char :=
  ((text.dropWhile isBlank).reverse.dropWhile isBlank).reverse

def readLine (lookUp : List Char → m (List Char)) (text : List Char) : OptionT m Line :=
  match trim text with
  | [] | '#' :: _ => pure .skipped
  | text => do
    let some (name, rest) := readAssignment text | failure
    let value ←
      match rest.dropWhile isBlank with
      | [] | '#' :: _ => pure []
      | rest => readValue lookUp (.text false) rest
    pure (.binding (String.ofList name) (String.ofList value))

/-- The value of a variable: that of the environment, or the first one that was set. -/
def value? (environment : String → m (Option String)) (known : List (String × String))
    (name : String) : m (Option String) := do
  pure ((← environment name) <|> (known.find? (·.1 = name)).map Prod.snd)

/-- What lines set in order, up to the first fault. `known` has been set before them, and what
has a value keeps it. The name of a variable is thrown that would be set to a text with NUL. -/
def bindingsOf (environment : String → m (Option String)) (known : List (String × String)) :
    List (Option (List Char)) → ExceptT String m (List (String × String))
  | [] => pure known
  | none :: _ => pure known
  | some line :: rest => do
    let lookUp (name : List Char) : m (List Char) := do
      pure (((← value? environment known (String.ofList name)).getD "").toList)
    match ← ((readLine lookUp line).run : m (Option Line)) with
    | none => pure known
    | some .skipped => bindingsOf environment known rest
    | some (.binding name value) =>
      let before ← (value? environment known name : m (Option String))
      if before.isSome then bindingsOf environment known rest
      else if value.contains '\x00' then throw name
      else bindingsOf environment (known ++ [(name, value)]) rest

/-- The lines of a file with their line breaks, up to the first that is no UTF-8. -/
def lines (content : List UInt8) : List (List Char) :=
  let parts := splitWhere (· = 0x0A) content
  let closed := parts.dropLast.map (· ++ [0x0A]) ++ (parts.getLast?.filter (!·.isEmpty)).toList
  ((closed.map Utf8.decode).takeWhile (·.isOk)).filterMap (·.toOption)

def dropMark (content : List UInt8) : List UInt8 :=
  match content with
  | 0xEF :: 0xBB :: 0xBF :: rest => rest
  | content => content

def bindings (environment : String → m (Option String)) (content : List UInt8) :
    ExceptT String m (List (String × String)) :=
  bindingsOf environment [] (joinLines [] .complete (lines (dropMark content)))

end

end ODataTable.EnvironmentFile
