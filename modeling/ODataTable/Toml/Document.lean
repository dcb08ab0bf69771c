import ODataTable.Toml.Value

/-! TOML documents: lines of keys with values, and headers that open tables. -/

set_option autoImplicit false

namespace ODataTable.Toml

/-- A document that is read in part: its tables, and the path of the table that keys go to. -/
structure Document where
  entries : Entries := []
  path : List String := []

namespace Document

def readHeader (brackets : Nat) : Reader (List String) := fun text => do
  let (path, rest) ← readKey text
  if (List.replicate brackets ']').isPrefixOf rest then .ok (path, rest.drop brackets)
  else .error (misplaced (rest.dropWhile (· = ']')))

def readLine (document : Document) (text : List Char) :
    Except Fault (Document × List Char) := do
  match text with
  | '[' :: '[' :: rest => do
    let (path, rest) ← readHeader 2 rest
    .ok ({ entries := ← document.entries.openElement path, path }, rest)
  | '[' :: rest => do
    let (path, rest) ← readHeader 1 rest
    .ok ({ entries := ← document.entries.openTable path, path }, rest)
  | text => do
    let ((key, value), rest) ← readPair (readValue depthLimit) text
    let entries ← document.entries.modifyAt (·.insertKey value key) document.path
    .ok ({ document with entries }, rest)

def readLines : Nat → Document → List Char → Except Fault Document
  | 0, document, _ => .ok document
  | limit + 1, document, text =>
    match skipGap text with
    | [] => .ok document
    | text => do
      let (document, rest) ← document.readLine text
      readLines limit document (← readLineEnd rest)

end Document

def parse (text : List Char) : Except Fault Entries := do
  let text :=
    match text with
    | c :: rest => if c.toNat = 0xFEFF then rest else text
    | [] => []
  let document ← Document.readLines (text.length + 1) {} text
  .ok document.entries

end ODataTable.Toml
