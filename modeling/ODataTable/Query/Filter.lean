import ODataTable.Query.Model

/-! Filter expressions: clauses that are joined by `and`.

Texts are compared between single quotes. A quote inside a text is not escaped, so such a
text gives an expression that no service accepts.
-/

set_option autoImplicit false

namespace ODataTable

namespace Condition

def literal (condition : Condition) : List Char :=
  match condition.property.typeName with
  | .string => '\'' :: condition.value.toList ++ ['\'']
  | _ => condition.value.toList

def clause (condition : Condition) : List Char :=
  condition.property.name.toList ++ ' ' :: condition.operator.toList ++ ' ' :: condition.literal

end Condition

def TimeRange.clause (range : TimeRange) (name : String) : List Char :=
  name.toList ++ ' ' :: 'g' :: 'e' :: ' ' :: range.start.writeBound ++
    " and ".toList ++ name.toList ++ ' ' :: 'l' :: 'e' :: ' ' :: range.stop.writeBound

namespace Filter

def clauses (timeProperty : Option Property) (range : Option TimeRange)
    (conditions : List Condition) : List (List Char) :=
  let window :=
    match timeProperty, range with
    | some property, some range => [range.clause property.name]
    | _, _ => []
  window ++ conditions.map Condition.clause

/-- The text of a filter, which is empty if there are no clauses. -/
def write (timeProperty : Option Property) (range : Option TimeRange)
    (conditions : List Condition) : List Char :=
  List.intercalate " and ".toList (clauses timeProperty range conditions)

end Filter

end ODataTable
