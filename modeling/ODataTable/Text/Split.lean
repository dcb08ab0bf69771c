/-! Splitting a list at its separators. -/

set_option autoImplicit false

namespace ODataTable

variable {α : Type}

/-- The parts of a list between the separators; there is always one part more than separators. -/
def splitWhere (separates : α → Bool) : List α → List (List α)
  | [] => [[]]
  | c :: rest =>
    if separates c then [] :: splitWhere separates rest
    else
      match splitWhere separates rest with
      | part :: parts => (c :: part) :: parts
      | [] => [[c]]

def cutWhere (separates : α → Bool) (text : List α) : List α × Option (List α) :=
  (text.takeWhile (!separates ·),
    match text.dropWhile (!separates ·) with
    | [] => none
    | _ :: rest => some rest)

def splitWords (text : List Char) : List (List Char) :=
  (splitWhere (fun c => c = ' ' || c = '\n') text).filter (!·.isEmpty)

end ODataTable
