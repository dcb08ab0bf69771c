import ODataTable.Dictionary
import ODataTable.Number.Binary

/-! JSON values. Whole numbers of at most 64 bits stay exact; all other numbers are doubles. -/

set_option autoImplicit false

namespace ODataTable.Json

inductive Value where
  | null
  | bool (value : Bool)
  | integer (value : Int)
  | real (value : Double)
  | string (text : String)
  | array (items : List Value)
  /-- Members in ascending order of their names. -/
  | object (members : List (String × Value))
  deriving Repr

namespace Value

-- Values hold lists of values, for which equality is decided by explicit recursion.
mutual
def agree : Value → Value → Bool
  | .null, .null => true
  | .bool a, .bool b => a == b
  | .integer a, .integer b => a == b
  | .real a, .real b => a == b
  | .string a, .string b => a == b
  | .array a, .array b => itemsAgree a b
  | .object a, .object b => membersAgree a b
  | _, _ => false

def itemsAgree : List Value → List Value → Bool
  | [], [] => true
  | a :: rest, b :: others => agree a b && itemsAgree rest others
  | _, _ => false

def membersAgree : List (String × Value) → List (String × Value) → Bool
  | [], [] => true
  | (key, a) :: rest, (other, b) :: others => key == other && agree a b && membersAgree rest others
  | _, _ => false
end

mutual
theorem agree_iff : ∀ a b : Value, agree a b = true ↔ a = b
  | .array a, b => by cases b <;> simp [agree, itemsAgree_iff a]
  | .object a, b => by cases b <;> simp [agree, membersAgree_iff a]
  | .null, b => by cases b <;> simp [agree]
  | .bool _, b => by cases b <;> simp [agree]
  | .integer _, b => by cases b <;> simp [agree]
  | .real _, b => by cases b <;> simp [agree]
  | .string _, b => by cases b <;> simp [agree]

theorem itemsAgree_iff : ∀ a b : List Value, itemsAgree a b = true ↔ a = b
  | [], b => by cases b <;> simp [itemsAgree]
  | a :: rest, b => by cases b <;> simp [itemsAgree, agree_iff a, itemsAgree_iff rest]

theorem membersAgree_iff : ∀ a b : List (String × Value), membersAgree a b = true ↔ a = b
  | [], b => by cases b <;> simp [membersAgree]
  | (key, a) :: rest, b => by
    cases b <;> simp [membersAgree, agree_iff a, membersAgree_iff rest, Prod.ext_iff, and_assoc]
end

instance : DecidableEq Value := fun a b => decidable_of_iff _ (agree_iff a b)

def array? : Value → Option (List Value)
  | .array items => some items
  | _ => none

def object? : Value → Option (Dictionary Value)
  | .object members => some members
  | _ => none

def double? : Value → Option Double
  | .integer value => some (.ofInt value)
  | .real value => some value
  | _ => none

end Value

end ODataTable.Json
