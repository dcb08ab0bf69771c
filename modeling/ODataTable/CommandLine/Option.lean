/-! Options on a command line, and the words between them.

A long option follows two hyphens and may carry its value after an equals sign. Short options
follow one hyphen and can be written together; what follows one that takes a value is its
value. After two hyphens alone everything is a word.
-/

set_option autoImplicit false

namespace ODataTable.CommandLine

inductive Arity where
  | none
  | one
  /-- At least one value, and the option may be repeated. -/
  | many
  deriving DecidableEq, Repr

structure OptionShape where
  name : String
  short : Option Char := .none
  arity : Arity
  accepts : String → Bool := fun _ => true

inductive Refusal where
  | help
  | missingSubcommand
  | unknownSubcommand (word : String)
  | unknownOption (text : String)
  | unexpectedWord (word : String)
  | unexpectedValue (option : String)
  | missingValue (option : String)
  | invalidValue (option value : String)
  | repeatedOption (option : String)
  | missing (what : String)
  deriving DecidableEq, Repr

def Refusal.message : Refusal → String
  | .help => "help was asked for"
  | .missingSubcommand => "a subcommand is required"
  | .unknownSubcommand word => s!"unrecognized subcommand '{word}'"
  | .unknownOption text => s!"unexpected option '{text}'"
  | .unexpectedWord word => s!"unexpected argument '{word}'"
  | .unexpectedValue option => s!"unexpected value for '--{option}'"
  | .missingValue option => s!"a value is required for '--{option}'"
  | .invalidValue option value => s!"invalid value '{value}' for '--{option}'"
  | .repeatedOption option => s!"'--{option}' cannot be used multiple times"
  | .missing what => s!"{what} is required"

structure Arguments where
  options : List (String × List String) := []
  words : List String := []
  /-- The last option and the texts after it that may be its values. They are looked at when
  something else follows. -/
  pending : Option (OptionShape × List String) := none

namespace Arguments

def isSet (arguments : Arguments) (name : String) : Bool :=
  arguments.options.any (·.1 = name)

def values (arguments : Arguments) (name : String) : List String :=
  (arguments.options.filter (·.1 = name)).flatMap (·.2)

def value? (arguments : Arguments) (name : String) : Option String :=
  (arguments.values name).head?

def record (arguments : Arguments) (shape : OptionShape) (values : List String) :
    Except Refusal Arguments :=
  if shape.arity ≠ .many && arguments.isSet shape.name then .error (.repeatedOption shape.name)
  else
    match values.find? (!shape.accepts ·) with
    | some value => .error (.invalidValue shape.name value)
    | none => .ok { arguments with options := arguments.options ++ [(shape.name, values)] }

def settle (arguments : Arguments) : Except Refusal Arguments :=
  match arguments.pending with
  | none => .ok arguments
  | some (shape, []) => .error (.missingValue shape.name)
  | some (shape, values) => { arguments with pending := none }.record shape values

def addWord (most : Nat) (arguments : Arguments) (word : String) : Except Refusal Arguments :=
  if arguments.words.length < most then do
    let arguments ← arguments.settle
    .ok { arguments with words := arguments.words ++ [word] }
  else .error (.unexpectedWord word)

end Arguments

/-- Whether a text is written as an option. A hyphen alone is a word. -/
def isOption (text : String) : Bool :=
  match text.toList with
  | '-' :: _ :: _ => true
  | _ => false

/-- Begin an option whose values are among the texts that follow it. -/
def beginOption (arguments : Arguments) (shape : OptionShape) (rest : List String) :
    Except Refusal (Arguments × List String) := do
  let words := rest.takeWhile (!isOption ·)
  let values := if shape.arity = .one then words.take 1 else words
  .ok ({ ← arguments.settle with pending := some (shape, values) }, rest.drop values.length)

def readOption (arguments : Arguments) (shape : OptionShape) (values : List String) :
    Except Refusal Arguments := do
  (← arguments.settle).record shape values

/-- Give help, unless the pending option is refused. -/
def giveHelp {α : Type} (arguments : Arguments) : Except Refusal α := do
  let _ ← arguments.settle
  .error .help

def splitAttached (text : List Char) : String × Option String :=
  let name := String.ofList (text.takeWhile (· ≠ '='))
  match text.dropWhile (· ≠ '=') with
  | _ :: value => (name, some (String.ofList value))
  | [] => (name, none)

def findLong (shapes : List OptionShape) (name : String) : Option OptionShape :=
  shapes.find? (·.name = name)

def findShort (shapes : List OptionShape) (c : Char) : Option OptionShape :=
  shapes.find? (·.short = some c)

def readLong (shapes : List OptionShape) (arguments : Arguments) (text : List Char)
    (rest : List String) : Except Refusal (Arguments × List String) :=
  let (name, attached) := splitAttached text
  match findLong shapes name, attached with
  | none, _ =>
    if name = "help" && attached.isNone then giveHelp arguments
    else .error (.unknownOption (String.ofList ('-' :: '-' :: text)))
  | some shape, some value =>
    if shape.arity = .none then .error (.unexpectedValue name)
    else do .ok (← readOption arguments shape [value], rest)
  | some shape, none =>
    if shape.arity = .none then do .ok (← readOption arguments shape [], rest)
    else beginOption arguments shape rest

def readShort (shapes : List OptionShape) :
    Arguments → List Char → List String → Except Refusal (Arguments × List String)
  | arguments, [], rest => .ok (arguments, rest)
  | arguments, c :: text, rest =>
    match findShort shapes c with
    | none =>
      if c = 'h' then giveHelp arguments else .error (.unknownOption (String.ofList ['-', c]))
    | some shape =>
      if shape.arity = .none then do
        readShort shapes (← readOption arguments shape []) text rest
      else
        match text with
        | [] => beginOption arguments shape rest
        | '=' :: value | value => do
          .ok (← readOption arguments shape [String.ofList value], rest)

inductive WordRule where
  | stop
  | take (most : Nat)
  deriving DecidableEq, Repr

def WordRule.most : WordRule → Nat
  | .stop => 0
  | .take most => most

/-- Sort out arguments; `limit` bounds their number. The last option may still be pending. -/
def sortOut (shapes : List OptionShape) (rule : WordRule) :
    Nat → Arguments → List String → Except Refusal (Arguments × List String)
  | 0, arguments, rest => .ok (arguments, rest)
  | _ + 1, arguments, [] => .ok (arguments, [])
  | limit + 1, arguments, text :: rest =>
    match text.toList with
    | ['-', '-'] => do .ok (← rest.foldlM (Arguments.addWord rule.most) arguments, [])
    | '-' :: '-' :: name => do
      let (arguments, rest) ← readLong shapes arguments name rest
      sortOut shapes rule limit arguments rest
    | '-' :: c :: options => do
      let (arguments, rest) ← readShort shapes arguments (c :: options) rest
      sortOut shapes rule limit arguments rest
    | _ =>
      if rule = .stop then .ok (arguments, text :: rest)
      else do sortOut shapes rule limit (← arguments.addWord rule.most text) rest

def Arguments.parseHead (shapes : List OptionShape) (texts : List String) :
    Except Refusal (Arguments × List String) :=
  sortOut shapes .stop (texts.length + 1) {} texts

def Arguments.parse (shapes : List OptionShape) (most : Nat) (texts : List String) :
    Except Refusal Arguments := do
  let (arguments, _) ← sortOut shapes (.take most) (texts.length + 1) {} texts
  arguments.settle

end ODataTable.CommandLine
