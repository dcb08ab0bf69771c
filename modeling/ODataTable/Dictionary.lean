/-! Dictionaries with text keys, kept as lists in ascending order of the keys.

Keys are ordered by code points, which is also the order of their UTF-8 octets. Writing a
key again replaces its value.
-/

set_option autoImplicit false

namespace ODataTable

/-- Entries in ascending order of their keys, at most one for each key. -/
abbrev Dictionary (α : Type) := List (String × α)

namespace Dictionary

variable {α β : Type}

def empty : Dictionary α := []

def insert (key : String) (value : α) : Dictionary α → Dictionary α
  | [] => [(key, value)]
  | (other, kept) :: rest =>
    if key = other then (key, value) :: rest
    else if key < other then (key, value) :: (other, kept) :: rest
    else (other, kept) :: insert key value rest

def find? (key : String) : Dictionary α → Option α
  | [] => none
  | (other, value) :: rest => if key = other then some value else find? key rest

def contains (key : String) (entries : Dictionary α) : Bool :=
  (entries.find? key).isSome

/-- Insert entries one after the other, so the last value of a repeated key stays. -/
def ofList (entries : List (String × α)) : Dictionary α :=
  entries.foldl (fun known entry => insert entry.1 entry.2 known) []

def mapValues (f : α → β) (entries : Dictionary α) : Dictionary β :=
  entries.map fun entry => (entry.1, f entry.2)

end Dictionary

end ODataTable
