import ODataTable.Text.CombiningClass
import ODataTable.Text.Composition

/-! The normal form of a text, in which characters and their marks are one character where there
is one for them.

The characters are taken apart, the marks that follow a letter are put in the order of their
classes, and then letters and marks are joined again.
-/

set_option autoImplicit false

namespace ODataTable

namespace NormalForm

def splitUpTo : Nat → Char → List Char
  | 0, c => [c]
  | limit + 1, c =>
    match Composition.split? c with
    | some (first, second) => splitUpTo limit first ++ [second]
    | none => [c]

/-- The number of marks that a single character stands for does not reach this bound. -/
def splitLimit : Nat := 8

def split (text : List Char) : List Char :=
  text.flatMap (splitUpTo splitLimit)

def place (c : Char) : List Char → List Char
  | [] => [c]
  | d :: rest =>
    if 0 < combiningClass d && combiningClass d < combiningClass c then d :: place c rest
    else c :: d :: rest

def order (text : List Char) : List Char :=
  text.foldr place []

def isBlocked (marks : List Char) (c : Char) : Bool :=
  match marks with
  | [] => false
  | mark :: _ => combiningClass c ≤ combiningClass mark

/-- Join a letter with what follows it. `marks` stand after the letter, in reverse. -/
def joinAfter (letter : Char) (marks : List Char) : List Char → List Char
  | [] => letter :: marks.reverse
  | c :: rest =>
    match if isBlocked marks c then none else Composition.compose? letter c with
    | some whole => joinAfter whole marks rest
    | none =>
      if combiningClass c = 0 then letter :: marks.reverse ++ joinAfter c [] rest
      else joinAfter letter (c :: marks) rest

def join : List Char → List Char
  | [] => []
  | c :: rest => if combiningClass c = 0 then joinAfter c [] rest else c :: join rest

end NormalForm

def normalForm (text : List Char) : List Char :=
  NormalForm.join (NormalForm.order (NormalForm.split text))

end ODataTable
