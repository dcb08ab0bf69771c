import ODataTable.Xml.Document

/-! Where elements stand in a document, and what a reader of some of them sees.

All nodes are listed in document order, each at the end of the line of its ancestors. Going down
from an element by the names of its children finds the lines of those names, in the same order.
A tree that is trimmed to some names has the same children and attributes of these names.
-/

set_option autoImplicit false

namespace ODataTable.Xml.Node

mutual

/-- The nodes of a tree in document order, each behind the line of nodes that it stands in. -/
def lines : Node → List (List Node)
  | .element name attributes children =>
    [.element name attributes children] ::
      (linesOfAll children).map (.element name attributes children :: ·)
  | node => [[node]]

def linesOfAll : List Node → List (List Node)
  | [] => []
  | child :: rest => lines child ++ linesOfAll rest

end

/-- Whether a line consists of elements of some local names, from the outermost on. -/
def follows : List String → List Node → Bool
  | [], [] => true
  | name :: names, node :: line => node.isElement name && follows names line
  | _, _ => false

/-- The lines from the children of a node on, of which each node has the next of some names. -/
def descend : List String → Node → List (List Node)
  | [], _ => [[]]
  | name :: names, node =>
    (node.childrenNamed name).flatMap fun child => (descend names child).map (child :: ·)

theorem linesOfAll_eq_flatMap (nodes : List Node) : linesOfAll nodes = nodes.flatMap lines := by
  induction nodes with
  | nil => rfl
  | cons node rest ih => rw [linesOfAll, List.flatMap_cons, ih]

theorem lines_eq (node : Node) : node.lines = [node] :: (node.children.flatMap lines).map (node :: ·) := by
  cases node with
  | element name attributes nodes => rw [lines, linesOfAll_eq_flatMap, Node.children]
  | text | comment | instruction => rfl

theorem ne_nil_of_mem_lines {node : Node} {line : List Node} (member : line ∈ node.lines) :
    line ≠ [] := by
  rw [lines_eq, List.mem_cons] at member
  rcases member with rfl | member
  · exact List.cons_ne_nil _ _
  · obtain ⟨_, _, rfl⟩ := List.mem_map.mp member
    exact List.cons_ne_nil _ _

theorem flatMap_childrenNamed {α : Type} (node : Node) (name : String) (f : Node → List α) :
    (node.childrenNamed name).flatMap f =
      node.children.flatMap fun child => if child.isElement name then f child else [] := by
  unfold childrenNamed
  induction node.children with
  | nil => rfl
  | cons child rest ih =>
    rw [List.filter_cons, List.flatMap_cons]
    split <;> simp [ih]

theorem filter_follows_lines (name : String) (names : List String) (node : Node) :
    node.lines.filter (follows (name :: names)) =
      if node.isElement name then (descend names node).map (node :: ·) else [] := by
  induction names generalizing name node with
  | nil =>
    -- A longer line does not end with the node itself.
    have longer : ((node.children.flatMap lines).map (node :: ·)).filter (follows [name]) = [] := by
      rw [List.filter_eq_nil_iff]
      intro line member
      obtain ⟨rest, found, rfl⟩ := List.mem_map.mp member
      obtain ⟨child, _, below⟩ := List.mem_flatMap.mp found
      obtain ⟨first, others, rfl⟩ := List.exists_cons_of_ne_nil (ne_nil_of_mem_lines below)
      simp [follows]
    rw [lines_eq, List.filter_cons, longer]
    simp [follows, descend]
  | cons next names ih =>
    have shorter : follows (name :: next :: names) [node] = false := by simp [follows]
    rw [lines_eq, List.filter_cons, shorter, if_neg Bool.false_ne_true, List.filter_map]
    by_cases named : node.isElement name
    · have below : follows (name :: next :: names) ∘ (node :: ·) = follows (next :: names) := by
        funext line
        simp [follows, named]
      rw [below, List.filter_flatMap, if_pos named, descend, flatMap_childrenNamed]
      congr 2
      funext child
      exact ih next child
    · have below : follows (name :: next :: names) ∘ (node :: ·) = fun _ => false := by
        funext line
        simp [follows, named]
      rw [below, if_neg named]
      simp

/-- The attributes of some local names, of each name the first, without their qualifiers. -/
def kept : List String → List Attribute → List Attribute
  | [], _ => []
  | name :: names, attributes =>
    match attributes.find? fun entry => entry.name.localName = name with
    | some entry => ⟨⟨"", name⟩, entry.value⟩ :: kept names attributes
    | none => kept names attributes

/-- What is left of a child, if anything is: `parts` tells by its local name how to trim it. -/
def keptPart (parts : String → Option (Node → Node)) : Node → Option Node
  | .element name attributes children =>
    (parts name.localName).map fun part => part (.element name attributes children)
  | _ => none

/-- An element with nothing but attributes of some local names and parts of its content. -/
def trim (wanted : List String) (parts : String → Option (Node → Node)) : Node → Node
  | .element name attributes children =>
    .element ⟨"", name.localName⟩ (kept wanted attributes) (children.filterMap (keptPart parts))
  | node => node

section
variable {wanted : List String} {parts : String → Option (Node → Node)} {name : String}

def KeepsNames (part : Node → Node) : Prop :=
  ∀ (node : Node) (name : String), (part node).isElement name = node.isElement name

theorem keepsNames_trim : KeepsNames (trim wanted parts) := by
  intro node name
  cases node <;> rfl

theorem find?_kept (wanted : List String) (attributes : List Attribute) (name : String) :
    ((kept wanted attributes).find? fun entry => entry.name.localName = name).map (·.value) =
      if name ∈ wanted then
        (attributes.find? fun entry => entry.name.localName = name).map (·.value)
      else none := by
  induction wanted with
  | nil => rfl
  | cons first rest ih =>
    -- What is kept of a name is its first attribute, so that one is found again.
    unfold kept
    by_cases same : first = name
    · subst same
      cases found : attributes.find? fun entry => entry.name.localName = first with
      | some entry => simp
      | none => simp [found, ih]
    · cases attributes.find? fun entry => entry.name.localName = first with
      | some entry => simp [same, Ne.symm same, ih]
      | none => simp [Ne.symm same, ih]

theorem attribute?_trim (member : name ∈ wanted) (node : Node) :
    (node.trim wanted parts).attribute? name = node.attribute? name := by
  cases node with
  | element _ attributes _ => exact (find?_kept wanted attributes name).trans (if_pos member)
  | text | comment | instruction => rfl

theorem childrenNamed_trim {trimmed : Node → Node} (own : parts name = some trimmed)
    (names : ∀ other part, parts other = some part → KeepsNames part)
    (node : Node) :
    (node.trim wanted parts).childrenNamed name = (node.childrenNamed name).map trimmed := by
  cases node with
  | text | comment | instruction => rfl
  | element _ _ nodes =>
    simp only [trim, childrenNamed, children]
    induction nodes with
    | nil => rfl
    | cons child rest ih =>
      -- A trimmed child has the name that it had, so it is found in both trees or in neither.
      cases child with
      | text | comment | instruction => simpa [List.filterMap_cons, keptPart, isElement] using ih
      | element tag attributes content =>
        by_cases named : tag.localName = name
        · have stays := names _ _ own (.element tag attributes content) name
          simp only [isElement, named] at stays
          simp [keptPart, isElement, named, own, ih, stays]
        · cases part : parts tag.localName with
          | none => simpa [keptPart, isElement, named, part] using ih
          | some other =>
            have stays := names _ _ part (.element tag attributes content) name
            simp only [isElement, named] at stays
            simp [keptPart, isElement, named, part, ih, stays]

theorem childrenNamed_trim_only {part : Node → Node} (names : KeepsNames part) (node : Node) :
    (node.trim wanted fun other => if other = name then some part else none).childrenNamed name =
      (node.childrenNamed name).map part := by
  apply childrenNamed_trim (if_pos rfl)
  intro other found same
  split at same <;> cases same
  exact names

end

end ODataTable.Xml.Node
