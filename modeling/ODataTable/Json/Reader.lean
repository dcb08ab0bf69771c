import ODataTable.Json.Lexeme

/-! Reading JSON values of any shape, and skipping values nobody asks for.

Lists and objects are read by one loop each. The loop is given the octets after the opening
bracket and asks, before every item, whether another one follows.
-/

set_option autoImplicit false

namespace ODataTable.Json

def nestingLimit : Nat := 127

def nextItem (first : Bool) (input : List UInt8) : Except Fault (Option (List UInt8)) :=
  match skipBlanks input with
  | [] => .error .endInList
  | b :: rest =>
    if b = octet ']' then .ok none
    else if first then .ok (some (b :: rest))
    else if b = octet ',' then
      match skipBlanks rest with
      | [] => .error .endInValue
      | c :: rest => if c = octet ']' then .error .trailingComma else .ok (some (c :: rest))
    else .error .expectedListEnd

def closeList (input : List UInt8) : Except Fault (List UInt8) :=
  match skipBlanks input with
  | [] => .error .endInList
  | b :: rest =>
    if b = octet ']' then .ok rest
    else if b = octet ',' then
      match skipBlanks rest with
      | c :: _ => if c = octet ']' then .error .trailingComma else .error .trailingCharacters
      | [] => .error .trailingCharacters
    else .error .trailingCharacters

def nextKey (first : Bool) (input : List UInt8) : Except Fault (Option (List UInt8)) :=
  match skipBlanks input with
  | [] => .error .endInObject
  | b :: rest =>
    if b = octet '\x7d' then .ok none
    else if first then
      if b = octet '"' then .ok (some rest) else .error .keyNotString
    else if b = octet ',' then
      match skipBlanks rest with
      | [] => .error .endInValue
      | c :: rest =>
        if c = octet '"' then .ok (some rest)
        else if c = octet '\x7d' then .error .trailingComma
        else .error .keyNotString
    else .error .expectedObjectEnd

def closeObject (input : List UInt8) : Except Fault (List UInt8) :=
  match skipBlanks input with
  | [] => .error .endInObject
  | b :: rest =>
    if b = octet '\x7d' then .ok rest
    else if b = octet ',' then .error .trailingComma
    else .error .trailingCharacters

def readColon (input : List UInt8) : Except Fault (List UInt8) :=
  match skipBlanks input with
  | [] => .error .endInObject
  | b :: rest => if b = octet ':' then .ok rest else .error .expectedColon

section
variable {α σ : Type}

/-- Read the items of a list up to its closing bracket. -/
def readItems (item : Reader α) : (bound : List UInt8) → Bool → Reader (List α)
  | [], _, _ => .error .endInList
  | _ :: bound, first, input => do
    match ← nextItem first input with
    | none => .ok ([], input)
    | some input =>
      let (value, input) ← item input
      let (rest, input) ← readItems item bound false input
      .ok (value :: rest, input)

def readList (item : Reader α) : Reader (List α) := fun input => do
  let (items, input) ← readItems item input true input
  .ok (items, ← closeList input)

/-- Read the members of an object up to its closing brace. Each is handed, with the octets
after its key, to `member`, which updates what is known so far. -/
def readMembers (member : List Char → σ → Reader σ) :
    (bound : List UInt8) → Bool → σ → Reader σ
  | [], _, _, _ => .error .endInObject
  | _ :: bound, first, state, input => do
    match ← nextKey first input with
    | none => .ok (state, input)
    | some input =>
      let (key, input) ← readString input
      let (state, input) ← member key state input
      readMembers member bound false state input

def readObject (member : List Char → σ → Reader σ) (start : σ) : Reader σ := fun input => do
  let (state, input) ← readMembers member input true start input
  .ok (state, ← closeObject input)

end

/-- Read a value of any shape. At most `room` lists and objects may still be opened. -/
def readValue (room : Nat) : Reader Value := fun input =>
  match skipBlanks input with
  | [] => .error .endInValue
  | b :: rest =>
    if b = octet 'n' then do
      let ((), rest) ← readLiteral ['u', 'l', 'l'] rest
      .ok (.null, rest)
    else if b = octet 't' then do
      let ((), rest) ← readLiteral ['r', 'u', 'e'] rest
      .ok (.bool true, rest)
    else if b = octet 'f' then do
      let ((), rest) ← readLiteral ['a', 'l', 's', 'e'] rest
      .ok (.bool false, rest)
    else if b = octet '-' then readNumber true rest
    else if isDigit b then readNumber false (b :: rest)
    else if b = octet '"' then do
      let (text, rest) ← readString rest
      .ok (.string (String.ofList text), rest)
    else if b = octet '[' then
      match room with
      | 0 => .error .tooDeep
      | room + 1 => do
        let (items, rest) ← readList (readValue room) rest
        .ok (.array items, rest)
    else if b = octet '\x7b' then
      match room with
      | 0 => .error .tooDeep
      | room + 1 => do
        let (members, rest) ← readObject
          (fun key (known : Dictionary Value) input => do
            let input ← readColon input
            let (value, input) ← readValue room input
            .ok (known.insert (String.ofList key) value, input))
          Dictionary.empty rest
        .ok (.object members, rest)
    else .error .expectedValue

def readWhole {α : Type} (part : Reader α) (input : List UInt8) : Except Fault α := do
  let (value, rest) ← part input
  match skipBlanks rest with
  | [] => .ok value
  | _ :: _ => .error .trailingCharacters

def parse (input : List UInt8) : Except Fault Value :=
  readWhole (readValue nestingLimit) input

/-! Skipping. The texts of faults differ a little from those of reading, because a comma is
taken before it is known what follows. -/

def skipItems (item : List UInt8 → Except Fault (List UInt8)) :
    (bound input : List UInt8) → Except Fault (List UInt8)
  | [], _ => .error .endInList
  | _ :: bound, input => do
    match skipBlanks (← item input) with
    | [] => .error .endInList
    | b :: rest =>
      if b = octet ',' then skipItems item bound rest
      else if b = octet ']' then .ok rest
      else .error .expectedListEnd

def skipKey (input : List UInt8) : Except Fault (List UInt8) :=
  match skipBlanks input with
  | [] => .error .endInObject
  | b :: rest =>
    if b = octet '"' then do readColon (← skipString rest) else .error .keyNotString

def skipMembers (item : List UInt8 → Except Fault (List UInt8)) :
    (bound input : List UInt8) → Except Fault (List UInt8)
  | [], _ => .error .endInObject
  | _ :: bound, input => do
    match skipBlanks (← item (← skipKey input)) with
    | [] => .error .endInObject
    | b :: rest =>
      if b = octet ',' then skipMembers item bound rest
      else if b = octet '\x7d' then .ok rest
      else .error .expectedObjectEnd

/-- Skip a value of any shape. Nesting is bounded by the length of the text alone. -/
def skipNested : (bound input : List UInt8) → Except Fault (List UInt8)
  | [], _ => .error .endInValue
  | _ :: bound, input =>
    match skipBlanks input with
    | [] => .error .endInValue
    | b :: rest =>
      if b = octet 'n' then (readLiteral ['u', 'l', 'l'] rest).map Prod.snd
      else if b = octet 't' then (readLiteral ['r', 'u', 'e'] rest).map Prod.snd
      else if b = octet 'f' then (readLiteral ['a', 'l', 's', 'e'] rest).map Prod.snd
      else if b = octet '-' then skipNumber rest
      else if isDigit b then skipNumber (b :: rest)
      else if b = octet '"' then skipString rest
      else if b = octet '[' then
        match skipBlanks rest with
        | [] => .error .endInList
        | c :: after =>
          if c = octet ']' then .ok after
          else skipItems (skipNested bound) rest (c :: after)
      else if b = octet '\x7b' then
        match skipBlanks rest with
        | [] => .error .endInObject
        | c :: after =>
          if c = octet '\x7d' then .ok after
          else skipMembers (skipNested bound) rest (c :: after)
      else .error .expectedValue

def skipValue : Reader Unit := fun input => do
  .ok ((), ← skipNested input input)

end ODataTable.Json
