import ODataTable.Xml.Token

/-! The tree of an XML document.

Tags have to match, one element is the root, and every qualifier has to be declared. Two
attributes of one element differ in namespace or name.
-/

set_option autoImplicit false

namespace ODataTable.Xml

inductive Node where
  | element (name : QName) (attributes : List Attribute) (children : List Node)
  | text (content : String)
  | comment (content : String)
  | instruction (target content : String)
  deriving Repr

namespace Node

-- Nodes hold lists of nodes, for which equality is decided by explicit recursion.
mutual
def agree : Node → Node → Bool
  | .element name attributes children, .element other others nodes =>
    name == other && attributes == others && allAgree children nodes
  | .text a, .text b => a == b
  | .comment a, .comment b => a == b
  | .instruction target a, .instruction other b => target == other && a == b
  | _, _ => false

def allAgree : List Node → List Node → Bool
  | [], [] => true
  | a :: rest, b :: others => agree a b && allAgree rest others
  | _, _ => false
end

mutual
theorem agree_iff : ∀ a b : Node, agree a b = true ↔ a = b
  | .element _ _ children, b => by cases b <;> simp [agree, allAgree_iff children, and_assoc]
  | .text _, b => by cases b <;> simp [agree]
  | .comment _, b => by cases b <;> simp [agree]
  | .instruction _ _, b => by cases b <;> simp [agree]

theorem allAgree_iff : ∀ a b : List Node, allAgree a b = true ↔ a = b
  | [], b => by cases b <;> simp [allAgree]
  | a :: rest, b => by cases b <;> simp [allAgree, agree_iff a, allAgree_iff rest]
end

instance : DecidableEq Node := fun a b => decidable_of_iff _ (agree_iff a b)

def isElement (localName : String) : Node → Bool
  | .element name _ _ => name.localName = localName
  | _ => false

def children : Node → List Node
  | .element _ _ children => children
  | _ => []

def childrenNamed (node : Node) (localName : String) : List Node :=
  node.children.filter (isElement localName)

/-- The value of the first attribute of a local name, in any namespace. -/
def attribute? (node : Node) (localName : String) : Option String :=
  match node with
  | .element _ attributes _ =>
    (attributes.find? fun entry => entry.name.localName = localName).map (·.value)
  | _ => none

end Node

def xmlNamespace : String := "http://www.w3.org/XML/1998/namespace"

def namespaceNamespace : String := "http://www.w3.org/2000/xmlns/"

abbrev Scope := List (String × String)

/-- Check the declarations among attributes. `own` are those of the same tag so far. -/
def declare : Scope → List Attribute → Except Fault Scope
  | own, [] => .ok own
  | own, entry :: rest =>
    let qualifier := entry.name.localName
    let space := entry.value
    if entry.name.qualifier = "xmlns" then
      if space = namespaceNamespace then .error .reservedNamespace
      else if (qualifier = "xml") ≠ (space = xmlNamespace) then .error .reservedNamespace
      else if own.any (·.1 = qualifier) then .error (.duplicateNamespace qualifier)
      else if space = xmlNamespace then declare own rest
      else declare ((qualifier, space) :: own) rest
    else if qualifier = "xmlns" then
      if space = xmlNamespace || space = namespaceNamespace then .error .reservedNamespace
      else declare own rest
    else declare own rest

def Attribute.isDeclaration (entry : Attribute) : Bool :=
  entry.name.qualifier = "xmlns" || entry.name.localName = "xmlns"

def lookUp (scope : Scope) (qualifier : String) : Except Fault (Option String) :=
  if qualifier = "" then .ok none
  else
    match scope.find? (·.1 = qualifier) with
    | some (_, space) => .ok (some space)
    | none => .error (.unknownNamespace qualifier)

/-- The namespace of the qualifier of an attribute. One of them needs no declaration, but only
attributes may use it. -/
def lookUpAttribute (scope : Scope) (qualifier : String) : Except Fault (Option String) :=
  if qualifier = "xml" then .ok (some xmlNamespace) else lookUp scope qualifier

/-- Check that attributes differ. `seen` are the namespaces and names so far. -/
def checkAttributes (scope : Scope) :
    List (Option String × String) → List Attribute → Except Fault Unit
  | _, [] => .ok ()
  | seen, entry :: rest => do
    let name := (← lookUpAttribute scope entry.name.qualifier, entry.name.localName)
    if seen.contains name then .error (.duplicateAttribute entry.name.localName)
    else checkAttributes scope (name :: seen) rest

def enter (scope : Scope) (name : QName) (attributes : List Attribute) :
    Except Fault (Scope × List Attribute) := do
  if name.qualifier = "xmlns" then .error .reservedNamespace
  else
    let own ← declare [] attributes
    let scope := own ++ scope
    let plain := attributes.filter (!·.isDeclaration)
    let _ ← lookUp scope name.qualifier
    checkAttributes scope [] plain
    .ok (scope, plain)

/-- An element that is not closed yet, with its children so far in reverse. -/
structure OpenElement where
  name : QName
  attributes : List Attribute
  children : List Node
  scope : Scope

structure Build where
  stack : List OpenElement := []
  root : Option Node := none

namespace Build

def add (build : Build) (node : Node) : Except Fault Build :=
  match build.stack with
  | parent :: rest =>
    .ok { build with stack := { parent with children := node :: parent.children } :: rest }
  | [] =>
    match node, build.root with
    | .element _ _ _, none => .ok { build with root := some node }
    | .element _ _ _, some _ => .error .outsideRoot
    | .text _, _ => .error .outsideRoot
    | _, _ => .ok build

def step (build : Build) : Token → Except Fault Build
  | .openTag name attributes selfClosing =>
    if build.stack.isEmpty && build.root.isSome then .error .outsideRoot
    else do
      let scope := (build.stack.head?.map OpenElement.scope).getD []
      let (scope, attributes) ← enter scope name attributes
      if selfClosing then build.add (.element name attributes [])
      else .ok { build with stack := ⟨name, attributes, [], scope⟩ :: build.stack }
  | .closeTag name =>
    match build.stack with
    | [] => .error .unexpectedClose
    | element :: rest =>
      if element.name = name then
        { build with stack := rest }.add
          (.element element.name element.attributes element.children.reverse)
      else .error .unexpectedClose
  | .space content => if build.stack.isEmpty then .ok build else build.add (.text content)
  | .text content | .characterData content => build.add (.text content)
  | .comment content => build.add (.comment content)
  | .instruction target content => build.add (.instruction target content)

end Build

def parse (document : List Char) : Except Fault Node := do
  let build ← (← tokens document).foldlM Build.step {}
  match build.stack, build.root with
  | [], some root => .ok root
  | [], none => .error .missingRoot
  | _ :: _, _ => .error .unclosedElement

end ODataTable.Xml
