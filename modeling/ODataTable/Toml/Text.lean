import ODataTable.Number.Radix

/-! The smallest parts of a TOML document: blanks, comments, strings and keys.

A reader takes the characters that are left and gives what it read with the characters after
it. Quotes, escapes and line breaks in strings follow TOML 1.0.
-/

set_option autoImplicit false

namespace ODataTable.Toml

inductive Fault where
  | unfinished
  | unexpected (c : Char)
  | invalidEscape
  | invalidScalar (text : String)
  | tooDeep
  | repeatedKey (key : String)
  | notTable (key : String)
  deriving DecidableEq, Repr

def Fault.message : Fault → String
  | .unfinished => "unexpected end of text"
  | .unexpected c => s!"unexpected character '{c}'"
  | .invalidEscape => "invalid escape sequence"
  | .invalidScalar text => s!"invalid value '{text}'"
  | .tooDeep => "too many levels"
  | .repeatedKey key => s!"duplicate key '{key}'"
  | .notTable key => s!"key '{key}' is not a table"

abbrev Reader (α : Type) := List Char → Except Fault (α × List Char)

def misplaced : List Char → Fault
  | [] => .unfinished
  | c :: _ => .unexpected c

def isBlank (c : Char) : Bool := c = ' ' || c = '\t'

/-- Whether a character may stand neither in a comment nor in a string of one line. -/
def isControl (c : Char) : Bool :=
  (c.toNat < 0x20 && c ≠ '\t') || c.toNat = 0x7F

def skipBlanks (text : List Char) : List Char :=
  text.dropWhile isBlank

def dropBreak? : List Char → Option (List Char)
  | '\n' :: rest => some rest
  | '\r' :: '\n' :: rest => some rest
  | _ => none

def skipComment : List Char → List Char
  | '#' :: rest => rest.dropWhile (!isControl ·)
  | text => text

def skipLines : Nat → List Char → List Char
  | 0, text => text
  | limit + 1, text =>
    match dropBreak? (skipComment (skipBlanks text)) with
    | some rest => skipLines limit rest
    | none => skipComment (skipBlanks text)

def skipGap (text : List Char) : List Char :=
  skipLines (text.length + 1) text

def skipEmptyLines : Nat → List Char → List Char
  | 0, text => text
  | limit + 1, text =>
    match dropBreak? (skipBlanks text) with
    | some rest => skipEmptyLines limit rest
    | none => skipBlanks text

def readLineEnd (text : List Char) : Except Fault (List Char) :=
  match skipComment (skipBlanks text) with
  | [] => .ok []
  | text =>
    match dropBreak? text with
    | some rest => .ok rest
    | none => .error (misplaced text)

def readCodePoint (width : Nat) : Reader Char := fun text =>
  match Radix.read? 16 (text.take width) with
  | some code =>
    if (text.take width).length = width && code.isValidChar then
      .ok (Char.ofNat code, text.drop width)
    else .error .invalidEscape
  | none => .error .invalidEscape

def readEscape : Reader Char
  | [] => .error .unfinished
  | c :: rest =>
    if c = '"' || c = '\\' then .ok (c, rest)
    else if c = 'b' then .ok ('\x08', rest)
    else if c = 't' then .ok ('\t', rest)
    else if c = 'n' then .ok ('\n', rest)
    else if c = 'f' then .ok ('\x0c', rest)
    else if c = 'r' then .ok ('\r', rest)
    else if c = 'u' then readCodePoint 4 rest
    else if c = 'U' then readCodePoint 8 rest
    else .error .invalidEscape

def readBasic : Nat → Reader (List Char)
  | 0, _ => .error .unfinished
  | _ + 1, [] => .error .unfinished
  | limit + 1, c :: rest =>
    if c = '"' then .ok ([], rest)
    else if c = '\\' then do
      let (c, rest) ← readEscape rest
      let (text, rest) ← readBasic limit rest
      .ok (c :: text, rest)
    else if isControl c then .error (.unexpected c)
    else do
      let (text, rest) ← readBasic limit rest
      .ok (c :: text, rest)

def readLiteral : Reader (List Char)
  | [] => .error .unfinished
  | c :: rest =>
    if c = '\'' then .ok ([], rest)
    else if isControl c then .error (.unexpected c)
    else do
      let (text, rest) ← readLiteral rest
      .ok (c :: text, rest)

/-- Read a string of many lines up to its three closing quotes, before which two more belong to
the text. Every line break is a line feed, and a backslash at the end of a line joins the text
to the next character that is no blank. `limit` bounds the length. -/
def readLong (quote : Char) (escapes : Bool) : Nat → Reader (List Char)
  | 0, _ => .error .unfinished
  | _ + 1, [] => .error .unfinished
  | limit + 1, c :: rest =>
    let quotes := min 5 ((c :: rest).takeWhile (· = quote)).length
    if 3 ≤ quotes then
      .ok (List.replicate (quotes - 3) quote, (c :: rest).drop quotes)
    else if escapes && c = '\\' then
      match dropBreak? (skipBlanks rest) with
      | some after => readLong quote escapes limit (skipEmptyLines (after.length + 1) after)
      | none => do
        let (c, rest) ← readEscape rest
        let (text, rest) ← readLong quote escapes limit rest
        .ok (c :: text, rest)
    else
      match dropBreak? (c :: rest) with
      | some rest => do
        let (text, rest) ← readLong quote escapes limit rest
        .ok ('\n' :: text, rest)
      | none =>
        if isControl c then .error (.unexpected c)
        else do
          let (text, rest) ← readLong quote escapes limit rest
          .ok (c :: text, rest)

def readShort (quote : Char) : Reader (List Char) := fun text =>
  if quote = '"' then readBasic (text.length + 1) text else readLiteral text

/-- Read a string that begins with a quote. A line break right after three quotes is dropped. -/
def readString (quote : Char) : Reader (List Char) := fun text =>
  if [quote, quote, quote].isPrefixOf text then
    let rest := text.drop 3
    let rest := (dropBreak? rest).getD rest
    readLong quote (quote = '"') (rest.length + 1) rest
  else readShort quote (text.drop 1)

def isBareKey (c : Char) : Bool := c.isAlphanum || c = '-' || c = '_'

def readKeyPart : Reader String
  | [] => .error .unfinished
  | c :: rest =>
    if c = '"' || c = '\'' then do
      let (key, rest) ← readShort c rest
      .ok (String.ofList key, rest)
    else if isBareKey c then
      .ok (String.ofList ((c :: rest).takeWhile isBareKey), (c :: rest).dropWhile isBareKey)
    else .error (.unexpected c)

/-- Read a key of at most `limit` parts between dots, with the blanks around them. -/
def readParts : Nat → Reader (List String)
  | 0, _ => .error .tooDeep
  | limit + 1, text => do
    let (part, rest) ← readKeyPart (skipBlanks text)
    match skipBlanks rest with
    | '.' :: rest => do
      let (parts, rest) ← readParts limit rest
      .ok (part :: parts, rest)
    | rest => .ok ([part], rest)

/-- The number of levels that a key or a value may have. -/
def depthLimit : Nat := 79

def readKey : Reader (List String) := readParts depthLimit

end ODataTable.Toml
