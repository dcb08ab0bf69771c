import ODataTable.Dictionary
import ODataTable.Toml.Scalar
import ODataTable.Toml.Text

/-! TOML values and tables.

A table remembers what made it, because that decides whether it may still grow. Inline tables
are closed by their brace, a header opens a table once, and dotted keys set values only in
tables that dotted keys made. On their way there they may pass through tables that headers of
other tables made, and through the last of tables in double brackets.
-/

set_option autoImplicit false

namespace ODataTable.Toml

inductive Origin where
  | braces
  | header
  | path
  | dottedKey
  deriving DecidableEq, Repr

inductive Value where
  | scalar (value : Scalar)
  | string (text : String)
  | array (items : List Value)
  | table (origin : Origin) (entries : List (String × Value))
  /-- Tables that headers of double brackets made. -/
  | tables (elements : List (List (String × Value)))
  deriving Repr

abbrev Entries := Dictionary Value

namespace Entries

def insertKey (value : Value) : List String → Entries → Except Fault Entries
  | [], entries => .ok entries
  | [key], entries =>
    if entries.contains key then .error (.repeatedKey key)
    else .ok (Dictionary.insert key value entries)
  | key :: next :: path, entries =>
    match entries.find? key with
    | none => do
      let inner ← insertKey value (next :: path) []
      .ok (Dictionary.insert key (.table .dottedKey inner) entries)
    | some (.table origin inner) =>
      if origin = .dottedKey || (origin = .path && !path.isEmpty) then do
        let inner ← insertKey value (next :: path) inner
        .ok (Dictionary.insert key (.table origin inner) entries)
      else .error (.repeatedKey key)
    | some (.tables elements) =>
      if path.isEmpty then .error (.repeatedKey key)
      else do
        let inner ← insertKey value (next :: path) (elements.getLast?.getD [])
        .ok (Dictionary.insert key (.tables (elements.dropLast ++ [inner])) entries)
    | some _ => .error (.notTable key)

/-- Change the table that a path names; tables that are missing on the way are made. Of tables
in double brackets the last one is meant. -/
def modifyAt (change : Entries → Except Fault Entries) :
    List String → Entries → Except Fault Entries
  | [], entries => change entries
  | key :: path, entries =>
    match entries.find? key with
    | none => do
      let inner ← modifyAt change path []
      .ok (Dictionary.insert key (.table .path inner) entries)
    | some (.table origin inner) =>
      if origin = .braces then .error (.repeatedKey key)
      else do
        let inner ← modifyAt change path inner
        .ok (Dictionary.insert key (.table origin inner) entries)
    | some (.tables elements) => do
      let inner ← modifyAt change path (elements.getLast?.getD [])
      .ok (Dictionary.insert key (.tables (elements.dropLast ++ [inner])) entries)
    | some _ => .error (.notTable key)

def openTable (path : List String) (entries : Entries) : Except Fault Entries :=
  match path.getLast? with
  | none => .ok entries
  | some key =>
    modifyAt (fun entries =>
      match entries.find? key with
      | none => .ok (Dictionary.insert key (.table .header []) entries)
      | some (.table .path inner) => .ok (Dictionary.insert key (.table .header inner) entries)
      | some _ => .error (.repeatedKey key)) path.dropLast entries

def openElement (path : List String) (entries : Entries) : Except Fault Entries :=
  match path.getLast? with
  | none => .ok entries
  | some key =>
    modifyAt (fun entries =>
      match entries.find? key with
      | none => .ok (Dictionary.insert key (.tables [[]]) entries)
      | some (.tables elements) =>
        .ok (Dictionary.insert key (.tables (elements ++ [[]])) entries)
      | some _ => .error (.repeatedKey key)) path.dropLast entries

end Entries

def expect (c : Char) : List Char → Except Fault (List Char)
  | [] => .error .unfinished
  | d :: rest => if c = d then .ok rest else .error (.unexpected d)

def readItems (item : Reader Value) : Nat → Reader (List Value)
  | 0, _ => .error .unfinished
  | limit + 1, text =>
    match skipGap text with
    | ']' :: rest => .ok ([], rest)
    | text => do
      let (value, rest) ← item text
      match skipGap rest with
      | ',' :: rest => do
        let (values, rest) ← readItems item limit rest
        .ok (value :: values, rest)
      | rest => do .ok ([value], ← expect ']' rest)

def readPair (item : Reader Value) : Reader (List String × Value) := fun text => do
  let (key, rest) ← readKey text
  let rest ← expect '=' rest
  let (value, rest) ← item (skipBlanks rest)
  .ok ((key, value), rest)

def readMembers (item : Reader Value) : Nat → Entries → Reader Entries
  | 0, _, _ => .error .unfinished
  | limit + 1, entries, text => do
    let ((key, value), rest) ← readPair item text
    let entries ← entries.insertKey value key
    match skipBlanks rest with
    | ',' :: rest => readMembers item limit entries rest
    | rest => do .ok (entries, ← expect '\x7d' rest)

def readWord : Reader Value := fun text =>
  match Scalar.parse? (Scalar.takeWord text).1 with
  | some value => .ok (.scalar value, (Scalar.takeWord text).2)
  | none =>
    match (Scalar.takeWord text).1 with
    | [] => .error (misplaced text)
    | word => .error (.invalidScalar (String.ofList word))

/-- Read a value. At most `room` arrays and inline tables may still be opened. -/
def readValue (room : Nat) : Reader Value := fun text =>
  match text with
  | [] => .error .unfinished
  | c :: rest =>
    if c = '"' || c = '\'' then do
      let (text, rest) ← readString c text
      .ok (.string (String.ofList text), rest)
    else if c = '[' then
      match room with
      | 0 => .error .tooDeep
      | room + 1 => do
        let (items, rest) ← readItems (readValue room) (rest.length + 1) rest
        .ok (.array items, rest)
    else if c = '\x7b' then
      match room with
      | 0 => .error .tooDeep
      | room + 1 =>
        match skipBlanks rest with
        | '\x7d' :: rest => .ok (.table .braces [], rest)
        | rest => do
          let (entries, rest) ← readMembers (readValue room) (rest.length + 1) [] rest
          .ok (.table .braces entries, rest)
    else readWord text

end ODataTable.Toml
